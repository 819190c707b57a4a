import TableSchema.Text.Identifier

/-! # Octets and their escapes

The octets of a text are those of its UTF-8 form. In an address an octet may stand escaped, as a
percent sign and two hexadecimal digits. `unescape?` resolves the escapes if that gives a text;
`unescape` always gives one, with a replacement character where the octets are broken off: one for
each octet that begins no character, and one for each character that is begun and not finished.
-/

namespace TableSchema.Text

/-- Whether a character is a hexadecimal digit. -/
def isHexDigit (c : Char) : Bool :=
  isAsciiDigit c || ('a' ≤ c && c ≤ 'f') || ('A' ≤ c && c ≤ 'F')

/-- The value of a hexadecimal digit. -/
def hexValue (c : Char) : Nat :=
  if isAsciiDigit c then c.toNat - 48 else if 'a' ≤ c then c.toNat - 87 else c.toNat - 55

/-- The number that hexadecimal digits write. -/
def hexNumber (digits : List Char) : Nat :=
  digits.foldl (fun number c => 16 * number + hexValue c) 0

/-- The two hexadecimal digits of an octet, in upper case. -/
def octetDigits (octet : Nat) : List Char :=
  (if octet < 16 then ['0'] else []) ++ (Nat.toDigits 16 octet).map Char.toUpper

/-- The octets of a character. -/
def octets (c : Char) : List Nat :=
  (String.singleton c).toUTF8.toList.map UInt8.toNat

/-- A character with its octets escaped. -/
def escapeChar (c : Char) : List Char :=
  (octets c).flatMap fun octet => '%' :: octetDigits octet

/-- A text in which the characters of a class are escaped. -/
def escape (escapes : Char → Bool) (text : List Char) : List Char :=
  text.flatMap fun c => if escapes c then escapeChar c else [c]

/-- The octets of a text with its escapes resolved. A percent sign without two digits stands for
itself. -/
def unescapedOctets : List Char → List Nat
  | '%' :: a :: b :: rest =>
    if isHexDigit a && isHexDigit b then (16 * hexValue a + hexValue b) :: unescapedOctets rest
    else 0x25 :: unescapedOctets (a :: b :: rest)
  | c :: rest => octets c ++ unescapedOctets rest
  | [] => []

/-- A text with its escapes resolved, if it is a text then. -/
def unescape? (text : List Char) : Option (List Char) :=
  let octets := (unescapedOctets text).map UInt8.ofNat
  (String.fromUTF8? (ByteArray.mk octets.toArray)).map String.toList

/-- A character that is begun: the bits so far, the octets that are missing, and the range of the
next one. -/
structure BegunChar where
  bits : Nat
  missing : Nat
  low : Nat := 0x80
  high : Nat := 0xBF
deriving DecidableEq

/-- What stands for octets that are no character. -/
def replacement : Char :=
  '\uFFFD'

/-- The characters that an octet completes where none is begun, and the character that it begins. -/
def beginChar (octet : Nat) : List Char × Option BegunChar :=
  if octet < 0x80 then ([Char.ofNat octet], none)
  else if 0xC2 ≤ octet ∧ octet ≤ 0xDF then ([], some { bits := octet - 0xC0, missing := 1 })
  else if octet = 0xE0 then ([], some { bits := 0, missing := 2, low := 0xA0 })
  else if octet = 0xED then ([], some { bits := 0xD, missing := 2, high := 0x9F })
  else if 0xE1 ≤ octet ∧ octet ≤ 0xEF then ([], some { bits := octet - 0xE0, missing := 2 })
  else if octet = 0xF0 then ([], some { bits := 0, missing := 3, low := 0x90 })
  else if octet = 0xF4 then ([], some { bits := 4, missing := 3, high := 0x8F })
  else if 0xF1 ≤ octet ∧ octet ≤ 0xF3 then ([], some { bits := octet - 0xF0, missing := 3 })
  else ([replacement], none)

/-- The characters that an octet completes, and the character that is begun after it. -/
def readOctet (begun : Option BegunChar) (octet : Nat) : List Char × Option BegunChar :=
  match begun with
  | none => beginChar octet
  | some begun =>
    if begun.low ≤ octet ∧ octet ≤ begun.high then
      let bits := 64 * begun.bits + octet % 64
      if begun.missing = 1 then ([Char.ofNat bits], none)
      else ([], some { bits := bits, missing := begun.missing - 1 })
    else
      let (completed, next) := beginChar octet
      (replacement :: completed, next)

/-- The characters of octets behind a character that is begun. -/
def charsFrom (begun : Option BegunChar) : List Nat → List Char
  | [] => if begun.isSome then [replacement] else []
  | octet :: rest =>
    let (completed, next) := readOctet begun octet
    completed ++ charsFrom next rest

/-- A text with its escapes resolved. -/
def unescape (text : List Char) : List Char :=
  charsFrom none (unescapedOctets text)

end TableSchema.Text
