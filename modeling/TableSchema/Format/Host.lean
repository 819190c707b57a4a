import TableSchema.Format.DomainName
import TableSchema.Text.Digit
import TableSchema.Text.Octets
import TableSchema.Text.Split

/-! # Hosts in web addresses

A host is a domain name, an address of four numbers, or an address of eight groups in brackets. In
a scheme of the web, names are domain names in ASCII, and a name that ends in a number has to be an
address; in other schemes a name is opaque.
-/

namespace TableSchema.Format.Host

open Text (hexNumber hexValue isHexDigit splitOn)

/-- Whether a character is a control character or beyond ASCII. -/
def isControl (c : Char) : Bool :=
  c.toNat < 0x20 || 0x7E < c.toNat

/-- Characters that no host may hold. -/
def isForbidden (c : Char) : Bool :=
  c.toNat = 0 ||
    ['\t', '\n', '\r', ' ', '#', '/', ':', '<', '>', '?', '@', '[', '\\', ']', '^', '|'].contains c

/-- The number that a part of an address writes: decimal, octal behind a zero, or hexadecimal. -/
def number? (part : List Char) : Option Nat :=
  match part with
  | '0' :: x :: digits =>
    if x = 'x' ∨ x = 'X' then
      if digits.all isHexDigit then some (hexNumber digits) else none
    else if (x :: digits).all fun c => '0' ≤ c && c ≤ '7' then
      some ((x :: digits).foldl (fun n c => 8 * n + hexValue c) 0)
    else none
  | [] => none
  | digits => if digits.all Text.isAsciiDigit then some (Text.digitsValue digits) else none

/-- The parts of a name, without an empty last one. -/
def nameParts (name : List Char) : List (List Char) :=
  let parts := splitOn (· == '.') name
  if 1 < parts.length ∧ parts.getLast? = some [] then parts.dropLast else parts

/-- Whether a name ends in a number. -/
def endsInNumber (name : List Char) : Bool :=
  match (nameParts name).getLast? with
  | some last => (!last.isEmpty && last.all Text.isAsciiDigit) || (number? last).isSome
  | none => false

/-- The address of 32 bits that parts write: every part but the last is one octet. -/
def addressOf? : Nat → List Nat → Option Nat
  | _, [] => none
  | room, [last] => if last < Nat.pow 256 room then some last else none
  | room, first :: rest =>
    if first < 256 then
      (addressOf? (room - 1) rest).map (first * Nat.pow 256 (room - 1) + ·)
    else none

/-- The canonical text of an address of four numbers. -/
def dotted (address : Nat) : List Char :=
  let octet (place : Nat) := Nat.toDigits 10 (address / Nat.pow 256 place % 256)
  List.intercalate ['.'] [octet 3, octet 2, octet 1, octet 0]

/-- The address of four numbers that a name writes. -/
def fourNumbers? (name : List Char) : Option Nat := do
  let parts := nameParts name
  if 4 < parts.length then none
  else addressOf? 4 (← parts.mapM number?)

/-- The octet that decimal digits write. None but zero begins with a zero. -/
def octet? (digits : List Char) : Option Nat :=
  let plain := digits.all Text.isAsciiDigit && (digits.head? != some '0' || digits.length == 1)
  if !digits.isEmpty ∧ plain ∧ Text.digitsValue digits < 256 then some (Text.digitsValue digits)
  else none

/-- The two groups that an address of four octets stands for. -/
def octetGroups? (text : List Char) : Option (List Nat) := do
  match ← (splitOn (· == '.') text).mapM octet? with
  | [a, b, c, d] => some [256 * a + b, 256 * c + d]
  | _ => none

/-- The group that hexadecimal digits write. -/
def group? (digits : List Char) : Option Nat :=
  if !digits.isEmpty ∧ digits.length ≤ 4 ∧ digits.all isHexDigit then some (hexNumber digits)
  else none

/-- The groups that the parts of an address in brackets write; octets may stand at the end of the
address. -/
def partGroups? (ends : Bool) : List (List Char) → Option (List Nat)
  | [] => some []
  | [last] =>
    if ends && last.contains '.' then octetGroups? last else (group? last).map ([·])
  | part :: parts => do
    let group ← group? part
    return group :: (← partGroups? ends parts)

/-- The groups that a part of an address in brackets writes. -/
def groups? (ends : Bool) (text : List Char) : Option (List Nat) :=
  if text.isEmpty then some [] else partGroups? ends (splitOn (· == ':') text)

/-- The text before and after two colons in a row, if there are any. -/
def splitGap (before : List Char) : List Char → Option (List Char × List Char)
  | ':' :: ':' :: rest => some (before.reverse, rest)
  | c :: rest => splitGap (c :: before) rest
  | [] => none

/-- The eight groups that an address in brackets writes; two colons in a row stand for zeros. -/
def eightGroups? (text : List Char) : Option (List Nat) := do
  let groups ← match splitGap [] text with
    | some (before, after) => do
      let first ← groups? false before
      let last ← groups? true after
      if first.length + last.length < 8 then
        some (first ++ List.replicate (8 - first.length - last.length) 0 ++ last)
      else none
    | none => groups? true text
  if groups.length = 8 then some groups else none

/-- The length of the run of zeros that begins a list. -/
def zeroRun (groups : List Nat) : Nat :=
  (groups.takeWhile (· == 0)).length

/-- The place of the first longest run of at least two zeros. -/
def longestGap? (groups : List Nat) : Option Nat :=
  let runs := (List.range groups.length).map fun place => zeroRun (groups.drop place)
  let longest := runs.foldl max 0
  if 2 ≤ longest then runs.findIdx? (· == longest) else none

/-- Groups with colons between them. -/
def colonSeparated (groups : List Nat) : List Char :=
  List.intercalate [':'] (groups.map (Nat.toDigits 16))

/-- The canonical text of an address in brackets. -/
def bracketed (groups : List Nat) : List Char :=
  let text :=
    match longestGap? groups with
    | some place =>
      colonSeparated (groups.take place) ++ [':', ':'] ++
        colonSeparated ((groups.drop place).dropWhile (· == 0))
    | none => colonSeparated groups
  '[' :: (text ++ [']'])

/-- The canonical text of a host in a scheme of the web. -/
def webHost? (text : List Char) : Option (List Char) := do
  let name ← DomainName.ascii? (← Text.unescape? text)
  if name.isEmpty || name.any fun c => isForbidden c || isControl c || c == '%' then none
  else if endsInNumber name then (fourNumbers? name).map dotted
  else some name

/-- The canonical text of a host. -/
def canonical? (web : Bool) (text : List Char) : Option (List Char) :=
  match text with
  | '[' :: rest =>
    if rest.getLast? = some ']' then (eightGroups? rest.dropLast).map bracketed else none
  | _ =>
    if web then webHost? text
    else if text.any isForbidden then none
    else some (Text.escape isControl text)

end TableSchema.Format.Host
