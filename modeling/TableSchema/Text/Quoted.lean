import TableSchema.Text.Identifier
import TableSchema.Text.Printable

/-! # Quoted text

Two ways to quote a text. `quote` writes it between double quotes, as a string literal or an object
key of a schema expression; a key may be asked to hold printable ASCII only, and then a character
beyond the basic plane becomes a surrogate pair. `inspect` writes it between single quotes for a
message, or between double quotes when it holds a single quote and no double one. Both escape the
quote, the backslash and the characters that cannot be shown.
-/

namespace TableSchema.Text

/-- A number in base sixteen, padded with zeros to at least `width` digits. -/
def hexDigits (width n : Nat) : List Char :=
  let digits := Nat.toDigits 16 n
  List.replicate (width - digits.length) '0' ++ digits

/-- The escape of one unit of sixteen bits. -/
def unitEscape (unit : Nat) : List Char :=
  '\\' :: 'u' :: hexDigits 4 unit

/-- The escape of a character: one unit in the basic plane, a surrogate pair beyond it. -/
def unicodeEscape (c : Char) : List Char :=
  if c.toNat < 0x10000 then unitEscape c.toNat
  else unitEscape (0xD800 + (c.toNat - 0x10000) / 0x400) ++
    unitEscape (0xDC00 + (c.toNat - 0x10000) % 0x400)

/-- A character as it stands between double quotes. -/
def quotedChar (asciiOnly : Bool) (c : Char) : List Char :=
  if c = '"' then ['\\', '"']
  else if c = '\\' then ['\\', '\\']
  else if c = '\n' then ['\\', 'n']
  else if c = '\r' then ['\\', 'r']
  else if c = '\t' then ['\\', 't']
  else if c = '\x08' then ['\\', 'b']
  else if c = '\x0C' then ['\\', 'f']
  else if c.toNat < 0x20 || (asciiOnly && 0x7F ≤ c.toNat) then unicodeEscape c
  else [c]

/-- A text between double quotes. -/
def quote (asciiOnly : Bool) (text : List Char) : List Char :=
  '"' :: (text.flatMap (quotedChar asciiOnly) ++ ['"'])

/-- Whether the rest of a bare key is well formed. One line break at the very end is let through. -/
def isKeyTail : List Char → Bool
  | [] => true
  | c :: rest => (c == '\n' && rest.isEmpty) || (isKeyPart c && isKeyTail rest)

/-- Whether a text may stand as an object key without quotes. -/
def isBareKey : List Char → Bool
  | [] => false
  | c :: rest => isKeyStart c && isKeyTail rest

/-- An object key: bare where that is allowed, otherwise quoted in printable ASCII. -/
def objectKey (name : String) : List Char :=
  if isBareKey name.toList then name.toList else quote true name.toList

/-- The quote that surrounds an inspected text. -/
def inspectionQuote (text : List Char) : Char :=
  if text.contains '\x27' && !text.contains '"' then '"' else '\x27'

/-- A character as it stands in an inspected text. -/
def inspectedChar (quote : Char) (c : Char) : List Char :=
  if c = quote || c = '\\' then ['\\', c]
  else if c = '\n' then ['\\', 'n']
  else if c = '\r' then ['\\', 'r']
  else if c = '\t' then ['\\', 't']
  else if isPrintable c then [c]
  else if c.toNat < 0x100 then '\\' :: 'x' :: hexDigits 2 c.toNat
  else if c.toNat < 0x10000 then '\\' :: 'u' :: hexDigits 4 c.toNat
  else '\\' :: 'U' :: hexDigits 8 c.toNat

/-- A text as messages show it. -/
def inspect (text : List Char) : List Char :=
  let mark := inspectionQuote text
  mark :: (text.flatMap (inspectedChar mark) ++ [mark])

end TableSchema.Text
