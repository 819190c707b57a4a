import TableSchema.Text.Digit
import TableSchema.Value.Literal

/-! # Numbers read from text

A numeral is a sign, digits before and after a point, and an exponent, in the digits of any script.
`Numeral.value` reads it as an integer when it has neither point nor exponent, and otherwise as the
nearest floating point number. Only an integer can fail: it may have at most `integerDigitLimit`
digits, zeros in front included.
-/

namespace TableSchema

/-- An integer has more digits than may be read. -/
structure IntegerTooLong where
  /-- The number of its digits. -/
  digits : Nat
deriving DecidableEq

/-- The text of the error. -/
def IntegerTooLong.message (error : IntegerTooLong) : String :=
  "Exceeds the limit (4300 digits) for integer string conversion: value has " ++
    toString error.digits ++ " digits; use sys.set_int_max_str_digits() to increase the limit"

/-- The parts of a number as it is written. -/
structure Numeral where
  negative : Bool
  whole : List Char
  fraction : List Char
  exponent : Int

namespace Numeral

/-- Splits a sign off a text; the first part tells whether it is a minus. -/
def splitSign : List Char → Bool × List Char
  | '-' :: rest => (true, rest)
  | '+' :: rest => (false, rest)
  | text => (false, text)

/-- The integer written by an optional sign and a run of digits. -/
def signedValue (text : List Char) : Int :=
  let (negative, digits) := splitSign text
  let value := Text.digitsValue (Text.digitRun digits)
  if negative then -(value : Int) else value

/-- Splits a point and the digits after it off a text. -/
def splitFraction : List Char → List Char × List Char
  | '.' :: rest => (Text.digitRun rest, rest.drop (Text.digitRun rest).length)
  | text => ([], text)

/-- The parts of a text that is a number: sign, digits, point and digits, mark and exponent. -/
def ofText (text : List Char) : Numeral :=
  let (negative, unsigned) := splitSign text
  let whole := Text.digitRun unsigned
  let (fraction, rest) := splitFraction (unsigned.drop whole.length)
  { negative, whole, fraction, exponent := signedValue (rest.drop 1) }

/-- The nearest floating point number. -/
def toBinary64 (numeral : Numeral) : Binary64 :=
  Binary64.ofDecimal numeral.negative (Text.digitsValue (numeral.whole ++ numeral.fraction))
    (numeral.exponent - numeral.fraction.length)

/-- The integer before the point. -/
def toInt (numeral : Numeral) : Except IntegerTooLong Int :=
  if integerDigitLimit < numeral.whole.length then .error ⟨numeral.whole.length⟩
  else
    let value := Text.digitsValue numeral.whole
    .ok (if numeral.negative then -(value : Int) else value)

/-- Whether a number is written as an integer, with neither point nor exponent. -/
def isIntegral (text : List Char) : Bool :=
  !text.any fun c => c == '.' || c == 'e' || c == 'E'

/-- The value of a text that is a number. -/
def value (text : List Char) : Except IntegerTooLong Value :=
  if isIntegral text then .int <$> (ofText text).toInt
  else .ok (.float (ofText text).toBinary64)

end Numeral

end TableSchema
