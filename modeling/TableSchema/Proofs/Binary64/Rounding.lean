import Mathlib.Algebra.Group.Nat.Defs
import TableSchema.Binary64.Shortest

/-! # Rounding decimals to binary numbers

The number nearest to a decimal depends on the value of the decimal alone
(`Binary64.ofDecimal_mul_pow`): trailing zeros may be moved between the digits and the exponent, and
the shortcuts for exponents beyond reach agree with rounding. A quotient that is exactly the value
of a rank rounds to that rank (`Binary64.rankOfQuotient_units`). Together they say that the shortest
decimal of a magnitude reads back (`Decimal.reads_shortest`).
-/

namespace TableSchema

namespace Binary64

theorem significands_eq : significands = 2 ^ 52 := rfl

/-- The unit count as a power whose exponent is a variable, so that no large power is computed. -/
theorem unitsInOne_eq {exponent : Nat} (places : exponent = 1074) : unitsInOne = 2 ^ exponent := by
  delta unitsInOne
  rw [← places]
  rfl

/-- One has at least one unit. -/
theorem unitsInOne_pos : 0 < unitsInOne := by
  obtain ⟨exponent, places⟩ : ∃ exponent, exponent = 1074 := ⟨_, rfl⟩
  rw [unitsInOne_eq places]
  exact Nat.pow_pos (by decide)

theorem two_pow_mul_unitsInOne (n : Nat) : 2 ^ n * unitsInOne = 2 ^ (n + 1074) := by
  obtain ⟨exponent, places⟩ : ∃ exponent, exponent = 1074 := ⟨_, rfl⟩
  rw [unitsInOne_eq places, ← places, Nat.pow_add]

/-! ### Quotients in other terms -/

/-- A quotient is rounded alike after both of its terms are multiplied. -/
theorem roundQuotient_mul_left {factor : Nat} (positive : 0 < factor)
    (numerator denominator : Nat) :
    roundQuotient (factor * numerator) (factor * denominator) =
      roundQuotient numerator denominator := by
  have compare (a b : Nat) : 2 * (factor * a) < factor * b ↔ 2 * a < b := by
    rw [Nat.mul_left_comm, Nat.mul_lt_mul_left positive]
  have compare' (a b : Nat) : factor * b < 2 * (factor * a) ↔ b < 2 * a := by
    rw [Nat.mul_left_comm, Nat.mul_lt_mul_left positive]
  simp only [roundQuotient, Nat.mul_div_mul_left _ _ positive, Nat.mul_mod_mul_left, compare,
    compare']

/-- A quotient has the same rank after both of its terms are multiplied. -/
theorem rankOfQuotient_mul_left {factor : Nat} (positive : 0 < factor)
    (numerator denominator : Nat) :
    rankOfQuotient (factor * numerator) (factor * denominator) =
      rankOfQuotient numerator denominator := by
  simp only [rankOfQuotient, Nat.mul_assoc factor, Nat.mul_div_mul_left _ _ positive,
    roundQuotient_mul_left positive]

/-- The rank nearest to a quotient depends on the value of the quotient alone. -/
theorem rankOfQuotient_congr {a b c d : Nat} (denominator : 0 < b) (denominator' : 0 < d)
    (cross : a * d = c * b) : rankOfQuotient a b = rankOfQuotient c d := by
  calc rankOfQuotient a b
    _ = rankOfQuotient (d * a) (d * b) := (rankOfQuotient_mul_left denominator' a b).symm
    _ = rankOfQuotient (b * c) (b * d) := by
      rw [Nat.mul_comm d a, cross, Nat.mul_comm c b, Nat.mul_comm d b]
    _ = rankOfQuotient c d := rankOfQuotient_mul_left denominator c d

/-- Equal quotients give the same number. -/
theorem ofQuotient_congr {a b c d : Nat} (negative : Bool) (denominator : 0 < b)
    (denominator' : 0 < d) (cross : a * d = c * b) :
    ofQuotient negative a b = ofQuotient negative c d := by
  rw [ofQuotient, ofQuotient, rankOfQuotient_congr denominator denominator' cross]

/-! ### The value of a rank -/

/-- A whole quotient is not rounded. -/
theorem roundQuotient_mul_self {scale : Nat} (positive : 0 < scale) (n : Nat) :
    roundQuotient (n * scale) scale = n := by
  simp [roundQuotient, Nat.mul_div_cancel _ positive, positive]

/-- A power of two as a factor adds to the logarithm. -/
theorem log2_mul_pow {n : Nat} (nonzero : n ≠ 0) (scale : Nat) :
    (n * 2 ^ scale).log2 = n.log2 + scale := by
  have power : 0 < 2 ^ scale := Nat.pow_pos (by decide)
  rw [Nat.log2_eq_iff (Nat.mul_ne_zero nonzero (Nat.ne_of_gt power))]
  have lower := Nat.log2_self_le nonzero
  have upper := Nat.lt_log2_self (n := n)
  constructor
  · rw [Nat.pow_add]
    exact Nat.mul_le_mul_right _ lower
  · rw [show n.log2 + scale + 1 = (n.log2 + 1) + scale by omega, Nat.pow_add]
    exact Nat.mul_lt_mul_of_pos_right upper power

/-- The scale of a rank is the excess of the length of its units over a significand. -/
theorem log2_unitsOfRank (rank : Nat) : (unitsOfRank rank).log2 - 52 = scaleOfRank rank := by
  unfold unitsOfRank
  change (significandOfRank rank * 2 ^ scaleOfRank rank).log2 - 52 = scaleOfRank rank
  by_cases small : rank / significands ≤ 1
  · have scale : scaleOfRank rank = 0 := by unfold scaleOfRank; omega
    have below : rank < 2 ^ 53 := by
      have := (Nat.div_lt_iff_lt_mul (by decide)).mp (Nat.lt_succ_of_le small)
      rw [significands_eq] at this
      omega
    rw [scale, Nat.pow_zero, Nat.mul_one, significandOfRank, scale, Nat.zero_mul, Nat.sub_zero]
    by_cases zero : rank = 0
    · subst zero; decide
    · have := (Nat.log2_lt zero).mpr below
      omega
  · have split := Nat.div_add_mod rank significands
    have remainder : rank % significands < significands := Nat.mod_lt _ (by decide)
    have significand : significandOfRank rank = significands + rank % significands := by
      unfold significandOfRank scaleOfRank
      rw [Nat.sub_mul, Nat.mul_comm (rank / significands)]
      have : 1 * significands ≤ significands * (rank / significands) := by
        rw [Nat.mul_comm]; exact Nat.mul_le_mul_left _ (by omega)
      omega
    have length : (significandOfRank rank).log2 = 52 := by
      rw [significands_eq] at significand remainder
      rw [Nat.log2_eq_iff (by omega)]
      omega
    rw [log2_mul_pow (by rw [significand, significands_eq]; omega), length]
    omega

/-- A rank is made up of its scale and its significand. -/
theorem scaleOfRank_mul_add (rank : Nat) :
    scaleOfRank rank * significands + significandOfRank rank = rank := by
  have bound : scaleOfRank rank * significands ≤ rank := by
    unfold scaleOfRank
    exact Nat.le_trans (Nat.mul_le_mul_right _ (Nat.sub_le ..)) (Nat.div_mul_le_self ..)
  unfold significandOfRank
  omega

/-- The value of a rank, as any quotient, rounds to that rank. -/
theorem rankOfQuotient_units (rank : Nat) {factor : Nat} (positive : 0 < factor) :
    rankOfQuotient (factor * unitsOfRank rank) (factor * unitsInOne) = rank := by
  rw [rankOfQuotient_mul_left positive]
  have whole : unitsOfRank rank * unitsInOne / unitsInOne = unitsOfRank rank :=
    Nat.mul_div_cancel _ unitsInOne_pos
  have rounded : roundQuotient (unitsOfRank rank * unitsInOne)
      (unitsInOne * Nat.pow 2 (scaleOfRank rank)) = significandOfRank rank := by
    rw [Nat.mul_comm (unitsOfRank rank), roundQuotient_mul_left unitsInOne_pos]
    exact roundQuotient_mul_self (Nat.pow_pos (by decide)) _
  simp only [rankOfQuotient, whole, log2_unitsOfRank, rounded, scaleOfRank_mul_add]

/-! ### Decimals -/

/-- Three binary digits are less than a decimal one. -/
theorem pow_eight_le_pow_ten (n : Nat) : 2 ^ (3 * n) ≤ 10 ^ n := by
  rw [Nat.pow_mul]
  exact Nat.pow_le_pow_left (by decide) n

/-- Zero is the number of a quotient with the numerator zero. -/
theorem ofQuotient_zero (negative : Bool) (denominator : Nat) :
    ofQuotient negative 0 denominator = .finite negative ⟨0, by decide⟩ := by
  have rank : rankOfQuotient 0 denominator = 0 := by
    by_cases positive : denominator = 0
    · simp [rankOfQuotient, roundQuotient, positive]
    · simp [rankOfQuotient, roundQuotient]
  rw [ofQuotient, rank]
  rfl

/-- A decimal far above the greatest finite number rounds to infinity. -/
theorem ofQuotient_large (negative : Bool) {digits power : Nat} (nonzero : digits ≠ 0)
    (large : 400 < power) : ofQuotient negative (digits * 10 ^ power) 1 = .infinite negative := by
  have length : 3 * power + 1074 ≤ (digits * 10 ^ power * unitsInOne).log2 := by
    have positive : 0 < digits * 10 ^ power * unitsInOne :=
      Nat.mul_pos (Nat.mul_pos (by omega) (Nat.pow_pos (by decide))) unitsInOne_pos
    rw [Nat.le_log2 (Nat.ne_of_gt positive), ← two_pow_mul_unitsInOne]
    apply Nat.mul_le_mul_right
    calc 2 ^ (3 * power) ≤ 10 ^ power := pow_eight_le_pow_ten power
      _ ≤ digits * 10 ^ power := Nat.le_mul_of_pos_left _ (by omega)
  have beyond : ¬ rankOfQuotient (digits * 10 ^ power) 1 < 2047 * significands := by
    simp only [rankOfQuotient, Nat.div_one, Nat.not_lt]
    exact Nat.le_trans (Nat.mul_le_mul_right _ (by omega)) (Nat.le_add_right ..)
  rw [ofQuotient, ofRank, dif_neg beyond]

/-- A decimal far below the least positive number rounds to zero. -/
theorem ofQuotient_small (negative : Bool) {digits power : Nat}
    (small : digits.log2 + 1100 < 3 * power) :
    ofQuotient negative digits (10 ^ power) = .finite negative ⟨0, by decide⟩ := by
  have below : 2 * (digits * unitsInOne) < 10 ^ power := by
    calc 2 * (digits * unitsInOne) < 2 * (2 ^ (digits.log2 + 1) * unitsInOne) :=
          Nat.mul_lt_mul_of_pos_left
            (Nat.mul_lt_mul_of_pos_right Nat.lt_log2_self unitsInOne_pos) (by decide)
      _ = 2 ^ (digits.log2 + 1076) := by
          rw [two_pow_mul_unitsInOne, ← Nat.pow_succ']
      _ ≤ 2 ^ (3 * power) := Nat.pow_le_pow_right (by decide) (by omega)
      _ ≤ 10 ^ power := pow_eight_le_pow_ten power
  have quotient : digits * unitsInOne / 10 ^ power = 0 := Nat.div_eq_of_lt (by omega)
  have rank : rankOfQuotient digits (10 ^ power) = 0 := by
    have one : Nat.pow 2 0 = 1 := rfl
    have log : Nat.log2 0 = 0 := Nat.log2_zero
    simp only [rankOfQuotient, quotient, log, Nat.zero_sub, Nat.zero_mul, one, Nat.mul_one,
      roundQuotient, Nat.mod_eq_of_lt (show digits * unitsInOne < 10 ^ power by omega), below,
      ↓reduceIte, Nat.add_zero]
  simp only [ofQuotient, rank, ofRank]
  rfl

/-- Reading a decimal is rounding its value; the shortcuts change nothing. -/
theorem ofDecimal_eq_ofQuotient (negative : Bool) (digits : Nat) (exponent : Int) :
    ofDecimal negative digits exponent =
      ofQuotient negative (digits * 10 ^ exponent.toNat) (10 ^ (-exponent).toNat) := by
  unfold ofDecimal
  match exponent with
  | .ofNat power =>
    have whole : (Int.ofNat power).toNat = power := rfl
    have fraction : (-Int.ofNat power).toNat = 0 := by
      simp only [Int.ofNat_eq_natCast]; omega
    rw [whole, fraction, Nat.pow_zero]
    by_cases zero : digits = 0
    · simp only [zero, ↓reduceIte, Nat.zero_mul, ofQuotient_zero]
    · by_cases large : 400 < power
      · simp only [zero, large, ↓reduceIte, ofQuotient_large negative zero large]
      · simp only [zero, large, ↓reduceIte]
        rfl
  | .negSucc power =>
    have whole : (Int.negSucc power).toNat = 0 := rfl
    have fraction : (-Int.negSucc power).toNat = power + 1 := rfl
    rw [whole, fraction, Nat.pow_zero, Nat.mul_one]
    by_cases small : digits.log2 + 1100 < 3 * (power + 1)
    · simp only [small, ↓reduceIte, ofQuotient_small negative small]
    · simp only [small, ↓reduceIte]
      rfl

/-- Zeros at the end of the digits may be moved into the exponent. -/
theorem ofDecimal_mul_pow (negative : Bool) (digits zeros : Nat) (exponent : Int) :
    ofDecimal negative (digits * 10 ^ zeros) exponent =
      ofDecimal negative digits (exponent + zeros) := by
  rw [ofDecimal_eq_ofQuotient, ofDecimal_eq_ofQuotient]
  apply ofQuotient_congr negative (Nat.pow_pos (by decide)) (Nat.pow_pos (by decide))
  simp only [Nat.mul_assoc, ← Nat.pow_add]
  congr 2
  omega

/-- The sign of a decimal is the sign of the number it is read as. -/
theorem ofDecimal_finite {negative : Bool} (negative' : Bool) {digits : Nat} {exponent : Int}
    {rank : Fin (2047 * significands)} (read : ofDecimal false digits exponent =
      .finite negative rank) : ofDecimal negative' digits exponent = .finite negative' rank := by
  rw [ofDecimal_eq_ofQuotient, ofQuotient, ofRank] at read ⊢
  split at read
  · next bounded =>
    cases read
    rw [dif_pos bounded]
  · cases read

end Binary64

namespace Decimal

open Binary64

/-- A decimal reads as a rank exactly if it is rounded to the number of the rank. -/
theorem reads_iff (rank : Fin (2047 * significands)) (decimal : Decimal) :
    decimal.reads rank = true ↔
      ofDecimal false decimal.digits decimal.exponent = .finite false rank := by
  unfold reads
  cases read : ofDecimal false decimal.digits decimal.exponent with
  | finite negative nearest =>
    have positive := read.symm.trans (ofDecimal_finite false read)
    rw [positive]
    simp only [beq_iff_eq, Binary64.finite.injEq, true_and]
    exact Fin.ext_iff.symm
  | infinite _ => simp
  | nan => simp

/-- The exact expansion of a magnitude reads back. -/
theorem reads_exact (rank : Fin (2047 * significands)) : (exact rank).reads rank = true := by
  obtain ⟨places, same⟩ : ∃ places, places = 1074 := ⟨_, rfl⟩
  have digits : (exact rank).digits = 5 ^ places * unitsOfRank rank := by
    rw [exact, ← same, Nat.mul_comm]
    rfl
  have power : 10 ^ places = 5 ^ places * unitsInOne := by
    rw [unitsInOne_eq same, ← Nat.mul_pow]
  have whole : (exact rank).exponent.toNat = 0 := rfl
  have fraction : (-(exact rank).exponent).toNat = places := by
    rw [same]
    rfl
  have nearest : rankOfQuotient (5 ^ places * unitsOfRank rank) (5 ^ places * unitsInOne) = rank :=
    rankOfQuotient_units rank (Nat.pow_pos (by decide))
  rw [reads_iff, ofDecimal_eq_ofQuotient, ofQuotient, digits, whole, fraction, power]
  rw [Nat.pow_zero, Nat.mul_one, nearest, ofRank, dif_pos rank.isLt]

/-- A decimal that is found on the grid of an exponent reads as the rank. -/
theorem reads_of_onGrid? {rank : Nat} {exponent : Int} {decimal : Decimal}
    (found : onGrid? rank exponent = some decimal) : decimal.reads rank = true := by
  simp only [onGrid?] at found
  grind

/-- The decimal that is found first among several exponents reads as the rank. -/
theorem reads_of_shortestFrom? {rank count : Nat} {exponent : Int} {decimal : Decimal}
    (found : shortestFrom? rank exponent count = some decimal) : decimal.reads rank = true := by
  induction count generalizing exponent with
  | zero => cases found
  | succ count hypothesis =>
    rw [shortestFrom?, Option.or_eq_some_iff] at found
    obtain found | ⟨_, found⟩ := found
    · exact reads_of_onGrid? found
    · exact hypothesis found

/-- The shortest decimal of a magnitude reads back. -/
theorem reads_shortest (rank : Fin (2047 * significands)) : (shortest rank).reads rank = true := by
  simp only [shortest]
  cases found : shortestFrom? rank (placeOf (unitsOfRank rank) - 1) 17 with
  | none => simpa only [Option.getD_none] using reads_exact rank
  | some decimal => simpa only [Option.getD_some] using reads_of_shortestFrom? found

/-- A positive magnitude is read from digits that are not all zero. -/
theorem digits_ne_zero_of_reads {rank : Fin (2047 * significands)} (positive : rank.val ≠ 0)
    {decimal : Decimal} (reads : decimal.reads rank = true) : decimal.digits ≠ 0 := by
  intro zero
  rw [reads_iff, zero, ofDecimal_eq_ofQuotient, Nat.zero_mul, ofQuotient_zero] at reads
  cases reads
  exact positive rfl

end Decimal

end TableSchema
