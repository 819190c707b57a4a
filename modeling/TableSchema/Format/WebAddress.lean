import TableSchema.Format.Host
import TableSchema.Text.LowerCase

/-! # Web addresses

An address is a scheme, and behind a colon a host with a path, or a path alone, and perhaps a query
and a fragment. `canonicalAddress?` reads an address and writes it in its canonical form: the scheme
and the host in lower case, no socket that the scheme implies, no dots in the path that lead
nowhere, and all characters escaped that may not stand where they are.
-/

namespace TableSchema.Format

open Host
open Text (breakAt escape splitOn)

namespace Address

/-- The schemes of the web, with the socket that each implies. -/
def webSchemes : List (String × Option Nat) :=
  [("http", some 80), ("https", some 443), ("ws", some 80), ("wss", some 443), ("ftp", some 21),
    ("file", none)]

/-- Whether a character is escaped in a fragment. -/
def escapedInFragment (c : Char) : Bool :=
  isControl c || [' ', '"', '<', '>', '\x60'].contains c

/-- Whether a character is escaped in a query. -/
def escapedInQuery (web : Bool) (c : Char) : Bool :=
  isControl c || [' ', '"', '#', '<', '>'].contains c || (web && c == '\x27')

/-- Whether a character is escaped in a path. -/
def escapedInPath (c : Char) : Bool :=
  escapedInFragment c || ['#', '?', '\x7b', '\x7d'].contains c

/-- Whether a character is escaped in the name of a user. -/
def escapedInUser (c : Char) : Bool :=
  escapedInPath c || ['/', ':', ';', '=', '@', '[', '\\', ']', '^', '|'].contains c

/-- The scheme of an address, in lower case, and what follows its colon. -/
def scheme? (text : List Char) : Option (List Char × List Char) :=
  let scheme := text.takeWhile fun c =>
    Text.isAsciiLetter c || Text.isAsciiDigit c || c == '+' || c == '-' || c == '.'
  match scheme, text.drop scheme.length with
  | first :: _, ':' :: rest =>
    if Text.isAsciiLetter first then some (scheme.map Text.lowerAscii, rest) else none
  | _, _ => none

/-- Splits a text at its last `@`, if it has one. -/
def splitUser (text : List Char) : Option (List Char) × List Char :=
  let host := (text.reverse.takeWhile (· != '@')).reverse
  if text.contains '@' then (some (text.take (text.length - host.length - 1)), host)
  else (none, text)

/-- The canonical text of the part in front of the `@`. -/
def userText (user : List Char) : List Char :=
  let (name, password) := breakAt (· == ':') user
  let name := escape escapedInUser name
  let password := escape escapedInUser (password.drop 1)
  if name.isEmpty && password.isEmpty then []
  else name ++ (if password.isEmpty then [] else ':' :: password) ++ ['@']

/-- Splits the number of a socket off a host; colons in brackets belong to the host. -/
def splitSocket (text : List Char) : List Char × List Char :=
  match text with
  | '[' :: _ =>
    let (inside, rest) := breakAt (· == ']') text
    (inside ++ rest.take 1, rest.drop 1)
  | _ => breakAt (· == ':') text

/-- The canonical text of the number of a socket, behind a colon, and what follows a backslash
behind it. There is no text for no number and for the one that the scheme implies. -/
def socketText? (implied : Option Nat) (text : List Char) : Option (List Char × List Char) :=
  match text with
  | [] => some ([], [])
  | ':' :: text =>
    let (digits, rest) := breakAt (· == '\\') text
    let number := Text.digitsValue digits
    if digits.all Text.isAsciiDigit ∧ number < 65536 then
      let isPlain := digits.isEmpty || implied == some number
      some (if isPlain then [] else ':' :: Nat.toDigits 10 number, rest)
    else none
  | _ => none

/-- The canonical text of user, host and socket, and what follows a backslash behind them. An `@`
without a user needs a host if something else follows. -/
def authority? (web : Bool) (implied : Option Nat) (ends : Bool) (text : List Char) :
    Option (List Char × List Char) := do
  let (user, rest) := splitUser text
  let (host, socket) := splitSocket rest
  let userPart := (user.map userText).getD []
  if host.isEmpty then
    let isLost := user == some [] && !ends
    if web || !userPart.isEmpty || !socket.isEmpty || isLost then none else some ([], [])
  else
    let host ← canonical? web host
    let (socket, rest) ← socketText? implied socket
    return (userPart ++ host ++ socket, rest)

/-- Whether a segment of a path means the place itself. -/
def isSingleDot (segment : List Char) : Bool :=
  [".", "%2e"].contains (String.ofList (segment.map Text.lowerAscii))

/-- Whether a segment of a path means the place above. -/
def isDoubleDot (segment : List Char) : Bool :=
  ["..", ".%2e", "%2e.", "%2e%2e"].contains (String.ofList (segment.map Text.lowerAscii))

/-- Whether a segment of a path begins with a drive: a letter and a colon or a bar. -/
def beginsWithDrive : List Char → Bool
  | letter :: mark :: _ => Text.isAsciiLetter letter && (mark == ':' || mark == '|')
  | _ => false

/-- Whether a segment of a path is the name of a drive. -/
def isDrive (segment : List Char) : Bool :=
  segment.length == 2 && beginsWithDrive segment

/-- Whether a segment of a path is kept when the place above is meant: the name of a drive, also
with a backslash behind it. -/
def isKept (segment : List Char) : Bool :=
  beginsWithDrive segment && (segment[2]?).all (· == '\\')

/-- The segments of a path that have been passed, the last one first, after the place above. -/
def goUp (passed : List (List Char)) : List (List Char) :=
  if passed.head?.any isKept then passed else passed.drop 1

/-- The segments of a path without dots; `passed` holds those already passed, the last one first.
With `drives`, the mark of a drive that the path begins with becomes a colon. -/
def withoutDots (drives : Bool) (passed : List (List Char)) :
    List (List Char) → List (List Char)
  | [] => passed.reverse
  | segment :: rest =>
    let passed :=
      if isDoubleDot segment then goUp passed
      else if isSingleDot segment then passed
      else if drives && passed.isEmpty && isDrive segment then (segment.take 1 ++ [':']) :: passed
      else segment :: passed
    let ends := rest.isEmpty && (isDoubleDot segment || isSingleDot segment)
    withoutDots drives (if ends then [] :: passed else passed) rest

/-- The canonical text of segments behind a slash each. -/
def segmentsText (segments : List (List Char)) : List Char :=
  segments.flatMap fun segment => '/' :: escape escapedInPath segment

/-- Whether a character is between segments of a path. -/
def separates (web : Bool) (c : Char) : Bool :=
  c == '/' || (web && c == '\\')

/-- A path without the character that separates it from what is in front of it. -/
def withoutRoot (web : Bool) (path : List Char) : List Char :=
  if path.head?.any (separates web) then path.drop 1 else path

/-- The canonical text of a path that begins at a host. -/
def pathText (web : Bool) (path : List Char) : List Char :=
  if path.isEmpty && !web then []
  else segmentsText (withoutDots false [] (splitOn (separates web) (withoutRoot web path)))

/-- Whether a character ends a path. -/
def endsPath (c : Char) : Bool :=
  c == '?' || c == '#'

/-- The canonical text of a query and a fragment with their marks. -/
def tailText (web : Bool) (text : List Char) : List Char :=
  let (query, fragment) := breakAt (· == '#') text
  let queryText :=
    match query with
    | _ :: query => '?' :: escape (escapedInQuery web) query
    | [] => []
  let fragmentText :=
    match fragment with
    | _ :: fragment => '#' :: escape escapedInFragment fragment
    | [] => []
  queryText ++ fragmentText

/-- The canonical text of what follows the two slashes in front of a host. -/
def hostedText? (web : Bool) (implied : Option Nat) (text : List Char) : Option (List Char) := do
  let (authority, rest) := breakAt (fun c => separates web c || endsPath c) text
  let (authority, path) ← authority? web implied rest.isEmpty authority
  let (path, rest) := breakAt endsPath (path ++ rest)
  return '/' :: '/' :: (authority ++ pathText web path ++ tailText web rest)

/-- The canonical text of a path on the drives of a host, and whether it begins with a drive. -/
def drivePath (path : List Char) : List Char × Bool :=
  let segments := withoutDots true [] (splitOn (separates true) path)
  ('/' :: (segmentsText segments).dropWhile (· == '/'), segments.head?.any isDrive)

/-- The host of a file and the path on it, which follow two slashes. The name of a drive and the
name of the own host are no hosts. -/
def fileHost? (text : List Char) : Option (List Char × List Char) := do
  let (host, path) := breakAt (fun c => separates true c || endsPath c) text
  if host.isEmpty || isDrive host then return ([], text)
  else
    let host ← canonical? true host
    if host = "localhost".toList then return ([], path) else return (host, withoutRoot true path)

/-- The canonical text of a file address after its scheme. A path that begins with a drive has no
host. -/
def fileText? (text : List Char) : Option (List Char) := do
  let isHosted := 2 ≤ (text.takeWhile (separates true)).length
  let (host, rest) ← if isHosted then fileHost? (text.drop 2) else some ([], withoutRoot true text)
  let (path, rest) := breakAt endsPath rest
  let (path, hasDrive) := drivePath path
  return '/' :: '/' :: ((if hasDrive then [] else host) ++ path ++ tailText true rest)

/-- The canonical text of an address without a host: a path from a root, or any text. A path with
two slashes in front would seem to have a host, and a dot goes between them. -/
def rootedText (path : List Char) : List Char :=
  if path.head? = some '/' then
    let path := pathText false path
    if "//".toList.isPrefixOf path then '/' :: '.' :: path else path
  else escape isControl path

/-- The canonical text of an address after its scheme. -/
def afterScheme? (scheme : String) (text : List Char) : Option (List Char) :=
  match webSchemes.lookup scheme with
  | some none => fileText? text
  | some implied => hostedText? true implied (text.dropWhile (separates true))
  | none =>
    match text with
    | '/' :: '/' :: rest => hostedText? false none rest
    | _ =>
      let (path, rest) := breakAt endsPath text
      some (rootedText path ++ tailText false rest)

/-- Whether a character is trimmed from the ends of an address. -/
def isTrimmed (c : Char) : Bool :=
  c.toNat ≤ 0x20

/-- An address without the blanks at its ends and without tabs and line breaks. -/
def cleaned (text : List Char) : List Char :=
  let trimmed := ((text.dropWhile isTrimmed).reverse.dropWhile isTrimmed).reverse
  trimmed.filter fun c => c != '\t' && c != '\n' && c != '\r'

end Address

/-- The canonical text of the address that a text writes. -/
def canonicalAddress? (text : List Char) : Option (List Char) := do
  let (scheme, rest) ← Address.scheme? (Address.cleaned text)
  return scheme ++ ':' :: (← Address.afterScheme? (String.ofList scheme) rest)

end TableSchema.Format
