import TableSchema.Text.LowerCase
import TableSchema.Text.Octets

/-! # Universally unique identifiers

An identifier is 32 hexadecimal digits in groups of eight, four, four, four and twelve. It is read
with or without the hyphens between the groups, in either case, and with the hyphens also in braces
or behind a resource name; it is written with hyphens in lower case. Bytes may hold such a text, or
the 16 octets that the digits write.
-/

namespace TableSchema.Format

/-- The lengths of the groups. -/
def uuidGroups : List Nat :=
  [8, 4, 4, 4, 12]

/-- The digits of a text with a hyphen between the groups of the given lengths. -/
def hyphenatedDigits? : List Nat → List Char → Option (List Char)
  | [], _ => none
  | [size], text => if text.length = size then some text else none
  | size :: sizes, text =>
    match text.drop size with
    | '-' :: rest => (hyphenatedDigits? sizes rest).map (text.take size ++ ·)
    | _ => none

/-- Digits in groups of the given lengths, with hyphens between them. -/
def hyphenate : List Nat → List Char → List Char
  | size :: next :: sizes, digits =>
    digits.take size ++ '-' :: hyphenate (next :: sizes) (digits.drop size)
  | _, digits => digits

/-- A text without the braces or the resource name around it. -/
def bareUuid (text : List Char) : List Char :=
  let scheme := "urn:uuid:".toList
  if text.head? = some '\x7b' ∧ text.getLast? = some '\x7d' then text.tail.dropLast
  else if scheme.isPrefixOf text then text.drop scheme.length
  else text

/-- The canonical text of the identifier of 16 octets. -/
def canonicalUuidOfOctets? (octets : List UInt8) : Option (List Char) :=
  if octets.length = 16 then
    let digits := octets.flatMap fun octet => Text.octetDigits octet.toNat
    some (hyphenate uuidGroups (digits.map Text.lowerAscii))
  else none

/-- The canonical text of the identifier that a text writes. -/
def canonicalUuid? (text : List Char) : Option (List Char) := do
  let digits ← if text.length = 32 then some text
    else hyphenatedDigits? uuidGroups (bareUuid text)
  if digits.all Text.isHexDigit then some (hyphenate uuidGroups (digits.map Text.lowerAscii))
  else none

end TableSchema.Format
