import TableSchema.Column
import TableSchema.Issue
import TableSchema.Text.Blank
import TableSchema.Text.Digit
import TableSchema.Text.Identifier
import TableSchema.Text.LowerCase
import TableSchema.Text.Split

/-! # Reading columns and options from values

Callers hand over columns and options as dictionaries. Reading is lenient where the meaning is
plain: a boolean may be a word or the numbers zero and one, an integer may be a text or a floating
point number without fraction, bytes may stand for the text that they encode, and a tuple for the
list of its items. Unknown keys are ignored. A field may have two names, and
then the first one wins; an issue is reported under the name that was present.
-/

namespace TableSchema

namespace Intake

/-- The text that bytes encode, if they do. -/
def decoded? (octets : List UInt8) : Option String :=
  String.fromUTF8? (ByteArray.mk octets.toArray)

/-- Reads bytes as the text that they encode, which a reader reads on. -/
def encoded {α : Type} (problem : Problem) (reader : String → Checked α) (octets : List UInt8) :
    Checked α :=
  match decoded? octets with
  | some text => reader text
  | none => .refuse problem

/-- Reads a text. -/
def text : Value → Checked String
  | .str text => .accepted text
  | .bytes octets => encoded .stringUnicode .accepted octets
  | _ => .refuse .stringType

/-- The words for true. -/
def trueWords : List String :=
  ["1", "on", "t", "true", "y", "yes"]

/-- The words for false. -/
def falseWords : List String :=
  ["0", "off", "f", "false", "n", "no"]

/-- Reads a word as a boolean, in any case. -/
def flagOfText (text : String) : Checked Bool :=
  let word := String.ofList (text.toList.map Text.lowerAscii)
  if trueWords.contains word then .accepted true
  else if falseWords.contains word then .accepted false
  else .refuse .boolParsing

/-- Whether an integer has at most 64 bits. -/
def isShort (n : Int) : Bool :=
  -0x8000000000000000 ≤ n && n < 0x8000000000000000

/-- Reads a boolean. -/
def flag : Value → Checked Bool
  | .bool truth => .accepted truth
  | .int n => if n = 0 then .accepted false else if n = 1 then .accepted true
    else .refuse (if isShort n then .boolParsing else .boolType)
  | .float x => if x.equalsInt 0 then .accepted false else if x.equalsInt 1 then .accepted true
    else .refuse .boolType
  | .str text => flagOfText text
  | .bytes octets => encoded .boolParsing flagOfText octets
  | _ => .refuse .boolType

/-- A text without a point that zeros follow, and nothing else. -/
def withoutZeroFraction (text : List Char) : List Char :=
  let whole := text.takeWhile (· != '.')
  let fraction := text.drop (whole.length + 1)
  if !fraction.isEmpty && fraction.all (· == '0') then whole else text

/-- Whether a character may follow zeros at the front of an integer: a minus, or a digit that is not
zero. -/
def beginsInteger (c : Char) : Bool :=
  c == '-' || ('1' ≤ c && c ≤ '9')

/-- A text without the zeros at its front, among which there may be underscores. Nothing is left out
in front of a minus or another digit, and the last character of all is kept. -/
def withoutZeros? : List Char → Option (List Char)
  | [] => none
  | [c] => if c = '0' || c = '_' || beginsInteger c then some [c] else none
  | c :: rest =>
    if c = '0' || c = '_' then withoutZeros? rest
    else if beginsInteger c then some (c :: rest)
    else none

/-- Whether the underscores of a text stand alone, and neither first nor last. -/
def areGroups (text : List Char) : Bool :=
  ((Text.splitOn (· == '_') text).map List.isEmpty).all not

/-- The digits of an integer, in groups with underscores between them, and whether a minus stands in
front. -/
def integerDigits? (text : List Char) : Option (Bool × List Char) :=
  let plain := if areGroups text then text.filter (· != '_') else text
  let (negative, digits) :=
    match plain with
    | '-' :: rest => (true, rest)
    | rest => (false, rest)
  if digits.isEmpty || !digits.all Text.isAsciiDigit then none else some (negative, digits)

/-- A text without the white space at its ends. -/
def trimWhiteSpace (text : List Char) : List Char :=
  ((text.dropWhile Text.isWhiteSpace).reverse.dropWhile Text.isWhiteSpace).reverse

/-- The greatest number of digits of an integer that is read from a text. -/
def digitLimit : Nat :=
  4300

/-- A text without a plus in front. It is kept in front of a minus, where no integer has one. -/
def withoutPlus (text : List Char) : List Char :=
  match text with
  | '+' :: '-' :: _ => text
  | '+' :: rest => rest
  | _ => text

/-- Reads a text as an integer: blanks around it, a plus, a fraction of zeros, zeros in front and
digits in groups are let through. -/
def integerOfText (text : String) : Checked Int :=
  let bare := withoutZeroFraction (withoutPlus (trimWhiteSpace text.toList))
  let isBegun := bare.head?.any fun c => c == '0' || beginsInteger c
  match (if isBegun then withoutZeros? bare else none).bind integerDigits? with
  | none => .refuse .intParsing
  | some (negative, digits) =>
    let n : Int := Text.digitsValue digits
    if digitLimit < digits.length && !isShort n then .refuse .intParsingSize
    else .accepted (if negative then -n else n)

/-- Reads a floating point number without fraction as an integer of 64 bits. -/
def integerOfFloat (x : Binary64) : Checked Int :=
  if x.units?.isNone then .refuse .finiteNumber
  else match x.toInt? with
    | none => .refuse .intFromFloat
    | some n => if n.natAbs < 0x8000000000000000 then .accepted n else .refuse .intParsingSize

/-- Reads an integer. -/
def integer : Value → Checked Int
  | .int n => .accepted n
  | .bool truth => .accepted (if truth then 1 else 0)
  | .float x => integerOfFloat x
  | .str text => integerOfText text
  | .bytes octets => encoded .intParsing integerOfText octets
  | _ => .refuse .intType

/-- The issues of a value that is no scalar: one for each kind of scalar. -/
def scalarIssues : List Issue :=
  [⟨["bool"], .boolType⟩, ⟨["int"], .intType⟩, ⟨["float"], .floatType⟩, ⟨["str"], .stringType⟩]

/-- The scalar that the text in bytes writes: a boolean, else an integer, else the text itself. -/
def writtenScalar (text : String) : Scalar :=
  match flagOfText text, integerOfText text with
  | .accepted truth, _ => .bool truth
  | .refused _, .accepted n => .int n
  | .refused _, .refused _ => .str text

/-- Reads a scalar. -/
def scalar (value : Value) : Checked Scalar :=
  match value, value.toScalar? with
  | _, some scalar => .accepted scalar
  | .bytes octets, none => encoded .stringUnicode (.accepted ∘ writtenScalar) octets
  | _, none => .refused scalarIssues

/-- Reads null as nothing and any other value by a reader. -/
def optional {α : Type} (reader : Value → Checked α) : Value → Checked (Option α)
  | .null => .accepted none
  | value => some <$> reader value

/-- Reads a list, item by item. -/
def listOf {α : Type} (reader : Value → Checked α) : Value → Checked (List α)
  | .list items => Checked.items (items.map reader)
  | .tuple items => Checked.items (items.map reader)
  | _ => .refuse .listType

/-- Reads a dictionary, entry by entry. -/
def dictOf {α : Type} (reader : Value → Checked α) : Value → Checked (Entries α)
  | .dict entries => Checked.entries (entries.map fun entry => (entry.1, reader entry.2))
  | _ => .refuse .dictType

/-- Reads the field that has the first of the given names that is present. -/
def field {α : Type} (entries : Entries Value) (names : List String)
    (reader : Value → Checked α) (absent : Checked α) : Checked α :=
  match names.findSome? fun name => (entries.find? name).map (name, ·) with
  | some (name, value) => (reader value).under name
  | none => absent

/-- Reads a field that has to be present. Its absence is reported under its first name. -/
def required {α : Type} (entries : Entries Value) (names : List String)
    (reader : Value → Checked α) : Checked α :=
  field entries names reader (.refused [⟨names.take 1, .missing⟩])

/-- Reads the fields of a dictionary; anything else has the given problem. -/
def model {α : Type} (problem : Problem) (reader : Entries Value → Checked α) :
    Value → Checked α
  | .dict entries => reader entries
  | _ => .refuse problem

end Intake

open Intake

namespace Column

/-- Reads a column. -/
def intake (problem : Problem) : Value → Checked Column :=
  model problem fun entries =>
    Column.mk <$> required entries ["type", "base_type"] text
      <*> field entries ["nullable"] flag (pure false)
      <*> field entries ["maxLength", "max_length"] (optional integer) (pure none)
      <*> field entries ["defaultValue", "default_value"] (optional scalar) (pure none)

end Column

namespace Override

/-- Reads an override. -/
def intake : Value → Checked Override :=
  model .modelType fun entries =>
    Override.mk <$> field entries ["column_name"] text (pure "")
      <*> field entries ["override"] (optional text) (pure none)
      <*> field entries ["pattern"] (optional text) (pure none)

end Override

namespace TableOptions

/-- Reads options. -/
def intake (problem : Problem) : Value → Checked TableOptions :=
  model problem fun entries =>
    TableOptions.mk <$> field entries ["columns"] (optional (listOf text)) (pure none)
      <*> field entries ["exclude"] (listOf text) (pure [])
      <*> field entries ["strict"] flag (pure true)
      <*> field entries ["structured_overrides"] (dictOf text) (pure [])
      <*> field entries ["structured_patterns"] (dictOf text) (pure [])

end TableOptions

end TableSchema
