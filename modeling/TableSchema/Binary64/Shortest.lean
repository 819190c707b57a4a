import TableSchema.Binary64

/-! # Shortest decimal text of a number

A finite number is written with the fewest significant digits that read back as the same number;
of two candidates of that length the nearer is taken, and of two equally near the one with the even
last digit. Should no candidate of up to seventeen digits read back, the exact decimal expansion is
written, which always does. `NumberLayout` then says how digits and exponent are spelled.
-/

namespace TableSchema

/-- A natural number of tenths, hundredths and so on: `digits * 10 ^ exponent`. -/
structure Decimal where
  digits : Nat
  exponent : Int
deriving DecidableEq

namespace Decimal

/-- Whether `digits * 10 ^ exponent` is a decimal of the number with the given rank. -/
def reads (rank : Nat) (decimal : Decimal) : Bool :=
  match Binary64.ofDecimal false decimal.digits decimal.exponent with
  | .finite _ nearest => nearest.val == rank
  | _ => false

/-- The exact decimal expansion of a magnitude. -/
def exact (rank : Nat) : Decimal where
  digits := Binary64.unitsOfRank rank * Nat.pow 5 1074
  exponent := -1074

/-- The least `place` with `units < 10 ^ place * 2 ^ 1074`, searched upwards from a lower bound. -/
def placeFrom (units : Nat) : Nat → Int → Int
  | 0, place => place
  | steps + 1, place =>
    let below : Bool :=
      match place with
      | .ofNat power => units < Nat.pow 10 power * Binary64.unitsInOne
      | .negSucc power => units * Nat.pow 10 (power + 1) < Binary64.unitsInOne
    if below then place else placeFrom units steps (place + 1)

/-- The number of digits before the decimal point of a magnitude; not positive for a magnitude
below one tenth. -/
def placeOf (units : Nat) : Int :=
  placeFrom units 4 ((((units.log2 : Int) - 1074) * 30103) / 100000)

/-- The magnitude as a quotient over the grid `10 ^ exponent`. -/
def onGrid (units : Nat) (exponent : Int) : Nat × Nat :=
  match exponent with
  | .ofNat power => (units, Nat.pow 10 power * Binary64.unitsInOne)
  | .negSucc power => (units * Nat.pow 10 (power + 1), Binary64.unitsInOne)

/-- The nearer of the two grid points beside a magnitude that reads back, if either does. -/
def onGrid? (rank : Nat) (exponent : Int) : Option Decimal :=
  let (numerator, denominator) := onGrid (Binary64.unitsOfRank rank) exponent
  let lower : Decimal := ⟨numerator / denominator, exponent⟩
  let upper : Decimal := ⟨numerator / denominator + 1, exponent⟩
  let (first, second) :=
    if Binary64.roundQuotient numerator denominator = lower.digits then (lower, upper)
    else (upper, lower)
  if first.reads rank then some first
  else if second.reads rank then some second
  else none

/-- The first decimal of at most `count` further digits that reads back. -/
def shortestFrom? (rank : Nat) (exponent : Int) : Nat → Option Decimal
  | 0 => none
  | count + 1 => (onGrid? rank exponent).or (shortestFrom? rank (exponent - 1) count)

/-- The decimal with which a positive magnitude is written. -/
def shortest (rank : Nat) : Decimal :=
  let place := placeOf (Binary64.unitsOfRank rank)
  (shortestFrom? rank (place - 1) 17).getD (exact rank)

/-- The significant digits without zeros at the end, none for zero. -/
def significant (decimal : Decimal) : List Char :=
  ((Nat.toDigits 10 decimal.digits).reverse.dropWhile (· == '0')).reverse

/-- The position of the decimal point relative to the first significant digit. -/
def point (decimal : Decimal) : Int :=
  (Nat.toDigits 10 decimal.digits).length + decimal.exponent

end Decimal

/-- How a number is spelled: which positions of the decimal point are written without an exponent,
how many digits an exponent has at least, and the words for the numbers that are not finite. -/
structure NumberLayout where
  /-- The decimal point stands after more than this many digits in positional notation. -/
  lowestPoint : Int
  /-- The decimal point stands after at most this many digits in positional notation. -/
  highestPoint : Int
  /-- The least number of digits of an exponent. -/
  exponentDigits : Nat
  /-- The word for positive infinity. -/
  infinity : String
  /-- The word for not-a-number. -/
  notANumber : String

namespace NumberLayout

/-- An exponent with its sign, padded with zeros to the least number of digits. -/
def exponentText (layout : NumberLayout) (exponent : Int) : List Char :=
  let digits := Nat.toDigits 10 exponent.natAbs
  (if exponent < 0 then '-' else '+') ::
    (List.replicate (layout.exponentDigits - digits.length) '0' ++ digits)

/-- Digits whose decimal point stands after `point` of them, in positional notation. -/
def positional (digits : List Char) (point : Int) : List Char :=
  match point with
  | .ofNat 0 => '0' :: '.' :: digits
  | .negSucc zeros => '0' :: '.' :: (List.replicate (zeros + 1) '0' ++ digits)
  | .ofNat count =>
    if digits.length ≤ count then
      digits ++ List.replicate (count - digits.length) '0' ++ ['.', '0']
    else digits.take count ++ '.' :: digits.drop count

/-- Digits whose decimal point stands after `point` of them, with an exponent. -/
def scientific (layout : NumberLayout) (digits : List Char) (point : Int) : List Char :=
  digits.take 1 ++ (if digits.length ≤ 1 then [] else '.' :: digits.drop 1) ++
    'e' :: layout.exponentText (point - 1)

/-- The text of a decimal. -/
def decimalText (layout : NumberLayout) (decimal : Decimal) : List Char :=
  if layout.lowestPoint < decimal.point ∧ decimal.point ≤ layout.highestPoint then
    positional decimal.significant decimal.point
  else layout.scientific decimal.significant decimal.point

/-- The text of a number. -/
def text (layout : NumberLayout) : Binary64 → List Char
  | .finite negative rank =>
    (if negative then ['-'] else []) ++
      (if rank.val = 0 then ['0', '.', '0'] else layout.decimalText (Decimal.shortest rank.val))
  | .infinite negative => (if negative then ['-'] else []) ++ layout.infinity.toList
  | .nan => layout.notANumber.toList

end NumberLayout

end TableSchema
