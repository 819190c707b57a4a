import TableSchema.Catalog.Cast
import TableSchema.Schema
import TableSchema.Text.LowerCase
import TableSchema.Text.Word
import TableSchema.Value.Inspection
import TableSchema.Value.Numeral

/-! # Column defaults

A catalog reports the default of a column as an expression. `ColumnDefault.ofValue` reads it as a
literal: a quoted text, a number, a boolean, or else the expression itself as a text. A default that
the database computes, from its clock or from a sequence, is skipped; a quoted literal never makes a
default one of those. Numbers keep the text they were read from.
-/

namespace TableSchema

namespace Catalog

/-- The letter of a keyword that a character may stand for, without regard to case. Four letters
beyond ASCII stand for one of ASCII. -/
def foldLetter (c : Char) : Char :=
  if c = '\u017F' then 's'
  else if c = '\u212A' then 'k'
  else if c = '\u0130' ∨ c = '\u0131' then 'i'
  else Text.lowerAscii c

/-- The words that read the clock. -/
def clockWords : List String :=
  ["current_timestamp", "current_date", "current_time", "localtimestamp", "localtime"]

/-- The functions of the clock and of sequences. -/
def computedCalls : List String :=
  ["now", "transaction_timestamp", "statement_timestamp", "clock_timestamp", "timeofday", "nextval"]

/-- Whether the word that begins a text is computed by the database: a word of the clock, or a
function followed by a parenthesis. -/
def isComputedWord (text : List Char) : Bool :=
  let word := text.takeWhile Text.isWordChar
  let name := String.ofList (word.map foldLetter)
  clockWords.contains name ||
    (computedCalls.contains name &&
      ((text.drop word.length).dropWhile Text.isBlank).head? == some '(')

/-- Whether a text holds a computed word. `inside` tells that the text begins within a word. -/
def hasComputedWord (inside : Bool) : List Char → Bool
  | [] => false
  | c :: rest =>
    (!inside && Text.isWordChar c && isComputedWord (c :: rest)) ||
      hasComputedWord (Text.isWordChar c) rest

/-- A segment with the content of a literal left out. -/
def Segment.blanked : Segment → List Char
  | .code text => text
  | .quoted _ => [quoteMark, quoteMark]

/-- Whether the code of an expression is computed by the database. -/
def isComputed (text : List Char) : Bool :=
  hasComputedWord false ((segments text).flatMap Segment.blanked)

/-- Whether a text is an optional sign and digits. -/
def isInteger (text : List Char) : Bool :=
  let digits := (Numeral.splitSign text).2
  !digits.isEmpty && digits.all Text.isDigit

/-- What follows a mantissa: digits with a point after them or not, or a point and digits. -/
def afterMantissa? (text : List Char) : Option (List Char) :=
  let whole := Text.digitRun text
  match text.drop whole.length with
  | '.' :: rest =>
    if whole.isEmpty && (Text.digitRun rest).isEmpty then none
    else some (rest.drop (Text.digitRun rest).length)
  | rest => if whole.isEmpty then none else some rest

/-- Whether a text is the mark of an exponent and an integer. -/
def isExponent : List Char → Bool
  | c :: rest => (c == 'e' || c == 'E') && isInteger rest
  | [] => false

/-- Whether a text is a number: an optional sign, a mantissa and an optional exponent. -/
def isNumber (text : List Char) : Bool :=
  match afterMantissa? (Numeral.splitSign text).2 with
  | some [] => true
  | some rest => isExponent rest
  | none => false

/-- The number that a text is, an integer where it has neither point nor exponent. -/
def numberOf (text : List Char) : Except IntegerTooLong Value :=
  if isInteger text then .int <$> (Numeral.ofText text).toInt
  else .ok (.float (Numeral.ofText text).toBinary64)

/-- The literal of an expression without casts that the database does not compute. -/
def literalOf (text : List Char) : Except IntegerTooLong DefaultLiteral :=
  match unquote? text with
  | some content => .ok { value := .str (String.ofList content) }
  | none =>
    if isNumber text then do
      let value ← numberOf text
      return { value, text := some (String.ofList (text.dropWhile (· == '+'))) }
    else if text = "true".toList then .ok { value := .bool true }
    else if text = "false".toList then .ok { value := .bool false }
    else .ok { value := .str (String.ofList text) }

end Catalog

/-- What a catalog default comes to. -/
inductive ColumnDefault where
  /-- There is none, or the database computes it. -/
  | skipped
  /-- The literal to fill in. -/
  | present (literal : DefaultLiteral)
deriving DecidableEq

namespace ColumnDefault

/-- The default that an expression writes. -/
def ofText (text : List Char) : Except IntegerTooLong ColumnDefault :=
  let text := Catalog.stripCasts text
  if Catalog.isComputed text then .ok .skipped else .present <$> Catalog.literalOf text

/-- The default that a catalog reports as a value. Booleans and numbers stand for themselves, and
any other value is read as the text that shows it. -/
def ofValue : Value → Except IntegerTooLong ColumnDefault
  | .null => .ok .skipped
  | .bool truth => .ok (.present { value := .bool truth })
  | .int n => .ok (.present { value := .int n })
  | .float x => .ok (.present { value := .float x })
  | value => ofText value.plainText

/-- The literal to fill in, if there is one. -/
def literal? : ColumnDefault → Option DefaultLiteral
  | .skipped => none
  | .present literal => some literal

end ColumnDefault

end TableSchema
