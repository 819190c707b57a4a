import TableSchema.Value.Literal

/-! # Values as plain text

A catalog may report a default or a type name as something other than a text. It is then read as
the text that `Value.plainText` gives: a text stands for itself, and any other value for its
inspection, in which texts are quoted, null is `None`, the booleans are `True` and `False`, and a
tuple of one item keeps its comma.
-/

namespace TableSchema

/-- Numbers in inspected values. -/
def inspectionNumbers : NumberLayout :=
  { literalNumbers with infinity := "inf", notANumber := "nan" }

/-- An octet as it stands in inspected bytes. -/
def inspectedOctet (quote : Char) (octet : UInt8) : List Char :=
  let c := Char.ofNat octet.toNat
  if c.toNat < 0x80 then Text.inspectedChar quote c
  else '\\' :: 'x' :: Text.hexDigits 2 octet.toNat

/-- The inspection of bytes. -/
def inspectBytes (octets : List UInt8) : List Char :=
  let mark := Text.inspectionQuote (octets.map fun octet => Char.ofNat octet.toNat)
  'b' :: mark :: (octets.flatMap (inspectedOctet mark) ++ [mark])

namespace Value

mutual

/-- The inspection of a value. -/
def inspect : Value → List Char
  | .null => "None".toList
  | .bool true => "True".toList
  | .bool false => "False".toList
  | .int n => integerText n
  | .float x => inspectionNumbers.text x
  | .str text => Text.inspect text.toList
  | .list items => '[' :: (commaSeparated (inspectAll items) ++ [']'])
  | .tuple [item] => '(' :: (item.inspect ++ [',', ')'])
  | .tuple items => '(' :: (commaSeparated (inspectAll items) ++ [')'])
  | .bytes octets => inspectBytes octets
  | .dict entries => '\x7b' :: (commaSeparated (inspectMembers entries) ++ ['\x7d'])
  | .formatted _ text => text.toList

/-- The inspections of a list of values. -/
def inspectAll : List Value → List (List Char)
  | [] => []
  | item :: items => item.inspect :: inspectAll items

/-- The members of an inspected dictionary. -/
def inspectMembers : List (String × Value) → List (List Char)
  | [] => []
  | (key, value) :: entries =>
    (Text.inspect key.toList ++ [':', ' '] ++ value.inspect) :: inspectMembers entries

end

/-- The text that a value stands for. -/
def plainText : Value → List Char
  | .str text => text.toList
  | value => value.inspect

end Value

end TableSchema
