/-! # Binary floating point numbers of 64 bits

A finite number is a sign and the rank of its magnitude among all finite magnitudes, so that
distinct ranks are distinct magnitudes in the order of the ranks, and equality of numbers is
equality of the data. The exact value of a rank is a natural number of *units*, a unit being the
smallest positive number `2 ^ (-1074)`; exact comparison with integers and correct rounding of
quotients (`ofQuotient`) are then arithmetic on naturals. Not-a-number is one value.
-/

namespace TableSchema

/-- The number of significands that one scale adds: two to the power of 52. -/
def Binary64.significands : Nat :=
  0x10000000000000

/-- A binary floating point number of 64 bits: the two zeros, the other finite numbers of both
signs, the two infinities, and not-a-number. -/
inductive Binary64 where
  /-- The finite number of the given sign whose magnitude has the given rank. -/
  | finite (negative : Bool) (rank : Fin (2047 * Binary64.significands))
  /-- The infinity of the given sign. -/
  | infinite (negative : Bool)
  /-- Not a number. -/
  | nan
deriving DecidableEq

namespace Binary64

/-- The power of two by which the significand of a rank is scaled, in units. -/
def scaleOfRank (rank : Nat) : Nat :=
  rank / significands - 1

/-- The significand of a rank, below twice `significands`. -/
def significandOfRank (rank : Nat) : Nat :=
  rank - scaleOfRank rank * significands

/-- The magnitude of a rank in units. -/
def unitsOfRank (rank : Nat) : Nat :=
  significandOfRank rank * Nat.pow 2 (scaleOfRank rank)

/-- The number of units in one. -/
def unitsInOne : Nat :=
  Nat.pow 2 1074

/-- The exact value of a finite number in units, and none for the other numbers. -/
def units? : Binary64 → Option Int
  | .finite true rank => some (-(unitsOfRank rank : Int))
  | .finite false rank => some (unitsOfRank rank)
  | .infinite _ => none
  | .nan => none

/-- The number of the given sign and rank, infinite when the rank is past the last finite one. -/
def ofRank (negative : Bool) (rank : Nat) : Binary64 :=
  if bounded : rank < 2047 * significands then .finite negative ⟨rank, bounded⟩
  else .infinite negative

/-- A quotient rounded to the nearest natural number, a tie going to the even one. -/
def roundQuotient (numerator denominator : Nat) : Nat :=
  let quotient := numerator / denominator
  let twice := 2 * (numerator % denominator)
  if twice < denominator then quotient
  else if denominator < twice then quotient + 1
  else quotient + quotient % 2

/-- The rank nearest to a quotient of naturals, a tie going to the even significand. -/
def rankOfQuotient (numerator denominator : Nat) : Nat :=
  let scaled := numerator * unitsInOne
  let scale := Nat.log2 (scaled / denominator) - 52
  scale * significands + roundQuotient scaled (denominator * Nat.pow 2 scale)

/-- The number nearest to a quotient of naturals with the given sign. -/
def ofQuotient (negative : Bool) (numerator denominator : Nat) : Binary64 :=
  ofRank negative (rankOfQuotient numerator denominator)

/-- The number nearest to an integer. -/
def ofInt (n : Int) : Binary64 :=
  ofQuotient (decide (n < 0)) n.natAbs 1

/-- The number nearest to an integer, none for one past the greatest finite number. -/
def nearest? (n : Int) : Option Binary64 :=
  match ofInt n with
  | .infinite _ => none
  | x => some x

/-- The number nearest to `digits * 10 ^ exponent` with the given sign. Exponents beyond reach are
decided first, so that no power of ten is computed for them. -/
def ofDecimal (negative : Bool) (digits : Nat) (exponent : Int) : Binary64 :=
  match exponent with
  | .ofNat power =>
    if digits = 0 then .finite negative ⟨0, by decide⟩
    else if 400 < power then .infinite negative
    else ofQuotient negative (digits * Nat.pow 10 power) 1
  | .negSucc power =>
    if digits.log2 + 1100 < 3 * (power + 1) then .finite negative ⟨0, by decide⟩
    else ofQuotient negative digits (Nat.pow 10 (power + 1))

/-- The number nearest to a finite number times a quotient of naturals. -/
def scaled? (x : Binary64) (numerator denominator : Nat) : Option Binary64 :=
  x.units?.map fun units =>
    ofQuotient (decide (units < 0)) (units.natAbs * numerator) (denominator * unitsInOne)

/-- The integer that a number is equal to, if there is one. -/
def toInt? (x : Binary64) : Option Int :=
  x.units?.bind fun units =>
    if units % (unitsInOne : Int) = 0 then some (units / (unitsInOne : Int)) else none

/-- Whether a number and an integer are equal as exact numbers. -/
def equalsInt (x : Binary64) (n : Int) : Bool :=
  x.units? == some (n * (unitsInOne : Int))

/-- Whether two numbers are equal as numbers: zeros are equal whatever their sign, and
not-a-number is equal to nothing. -/
def equals : Binary64 → Binary64 → Bool
  | .infinite s, .infinite t => s == t
  | .finite s m, .finite t n => (Binary64.finite s m).units? == (Binary64.finite t n).units?
  | _, _ => false

/-- Whether the first number is less than the second. Nothing is less or greater than
not-a-number. -/
def less : Binary64 → Binary64 → Bool
  | .nan, _ => false
  | _, .nan => false
  | .infinite true, .infinite true => false
  | .infinite true, _ => true
  | .infinite false, _ => false
  | .finite _ _, .infinite negative => !negative
  | .finite s m, .finite t n =>
    match (Binary64.finite s m).units?, (Binary64.finite t n).units? with
    | some a, some b => decide (a < b)
    | _, _ => false

end Binary64

end TableSchema
