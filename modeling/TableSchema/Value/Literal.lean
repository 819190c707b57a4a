import TableSchema.Binary64.Shortest
import TableSchema.Text.Quoted
import TableSchema.Value

/-! # Literals in schema expressions

`Value.literal` writes a value the way a schema expression spells it: words for null, the booleans
and the numbers that are not finite, decimal integers, shortest decimal texts, quoted strings,
bracketed lists and braced dictionaries. Bytes and formatted texts have no spelling, and an integer
of more digits than `integerDigitLimit` is refused.
-/

namespace TableSchema

/-- The greatest number of digits that an integer may have in a text, when read or written. -/
def integerDigitLimit : Nat :=
  4300

/-- Why a value or a schema cannot be written. -/
inductive WriteError where
  /-- Bytes have no literal. -/
  | bytes
  /-- A text read in a format has no literal. -/
  | formatted (format : TextFormat)
  /-- An integer has more digits than may be written. -/
  | integerTooLong
  /-- A literal schema names no value. -/
  | literalWithoutValue
  /-- Only an object can be laid out as a block. -/
  | notAnObject
deriving DecidableEq

/-- The kind of value that an error names. -/
def TextFormat.kindName : TextFormat → String
  | .date => "date"
  | .datetime => "datetime"
  | .time => "time"
  | .uuid => "UUID"
  | .url => "AnyUrl"

/-- The text of an error. -/
def WriteError.message : WriteError → String
  | .bytes => "Cannot format bytes as a literal"
  | .formatted format => "Cannot format " ++ format.kindName ++ " as a literal"
  | .integerTooLong =>
    "Exceeds the limit (4300 digits) for integer string conversion; " ++
      "use sys.set_int_max_str_digits() to increase the limit"
  | .literalWithoutValue => "A literal schema needs a value"
  | .notAnObject => "render_object_block expects an object node"

/-- Numbers in literals: a point after up to sixteen digits and behind up to four zeros, exponents
of two digits. -/
def literalNumbers : NumberLayout where
  lowestPoint := -4
  highestPoint := 16
  exponentDigits := 2
  infinity := "Infinity"
  notANumber := "NaN"

/-- The decimal digits of an integer, with a sign when it is negative. -/
def integerText (n : Int) : List Char :=
  (if n < 0 then ['-'] else []) ++ Nat.toDigits 10 n.natAbs

/-- The literal of an integer. -/
def integerLiteral (n : Int) : Except WriteError (List Char) :=
  if n.natAbs < Nat.pow 10 integerDigitLimit then .ok (integerText n) else .error .integerTooLong

/-- Texts in a row with commas between them. -/
def commaSeparated (texts : List (List Char)) : List Char :=
  List.intercalate [',', ' '] texts

namespace Value

mutual

/-- The literal of a value. -/
def literal : Value → Except WriteError (List Char)
  | .null => .ok "null".toList
  | .bool true => .ok "true".toList
  | .bool false => .ok "false".toList
  | .int n => integerLiteral n
  | .float x => .ok (literalNumbers.text x)
  | .str text => .ok (Text.quote false text.toList)
  | .list items => do
    return '[' :: (commaSeparated (← literals items) ++ [']'])
  | .tuple items => do
    return '[' :: (commaSeparated (← literals items) ++ [']'])
  | .bytes _ => .error .bytes
  | .dict [] => .ok ['\x7b', '\x7d']
  | .dict entries => do
    return ['\x7b', ' '] ++ commaSeparated (← memberLiterals entries) ++ [' ', '\x7d']
  | .formatted format _ => .error (.formatted format)

/-- The literals of a list of values. -/
def literals : List Value → Except WriteError (List (List Char))
  | [] => .ok []
  | item :: items => do
    let text ← literal item
    return text :: (← literals items)

/-- The members of a dictionary, each a key, a colon and a literal. -/
def memberLiterals : List (String × Value) → Except WriteError (List (List Char))
  | [] => .ok []
  | (key, value) :: entries => do
    let text ← literal value
    return (Text.objectKey key ++ [':', ' '] ++ text) :: (← memberLiterals entries)

end

end Value

end TableSchema
