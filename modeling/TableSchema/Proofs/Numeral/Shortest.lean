import TableSchema.Proofs.Numeral

/-! # The literal of a finite number is read back

Positional and scientific notation both write the significant digits of a decimal and the place of
its point (`Numeral.WritesDecimal`). Reading such a text gives the number nearest to the decimal,
and the decimal that a literal writes is one that reads back (`Numeral.value_literalNumbers_text`).
-/

namespace TableSchema

namespace Numeral

open Binary64

/-- A text without a sign that writes the decimal `digits * 10 ^ exponent` and is no integer. -/
structure WritesDecimal (text : List Char) (digits : Nat) (exponent : Int) : Prop where
  parts : ∃ (whole fraction mark : List Char) (power : Int) (zeros : Nat),
    text = whole ++ (fractionText fraction ++ mark) ∧ whole ≠ [] ∧
    (∀ c ∈ whole ++ fraction, c.isDigit = true) ∧ ExponentText mark power ∧
    (fraction.isEmpty && mark.isEmpty) = false ∧
    Text.digitsValue (whole ++ fraction) = digits * 10 ^ zeros ∧
    power - fraction.length + zeros = exponent

namespace WritesDecimal

variable {text : List Char} {digits : Nat} {exponent : Int}

/-- A text that writes a decimal is read as the number nearest to it. -/
theorem value_eq (written : WritesDecimal text digits exponent) (negative : Bool) :
    value ((if negative then ['-'] else []) ++ text) =
      .ok (.float (ofDecimal negative digits exponent)) := by
  obtain ⟨whole, fraction, mark, power, zeros, rfl, nonempty, all, marked, inexact, same, place⟩ :=
    written.parts
  have wholeDigits := textDigits_of_isDigit fun c member => all c (List.mem_append_left _ member)
  have restDigits := textDigits_of_isDigit fun c member => all c (List.mem_append_right _ member)
  have parts : ofText (partsText negative whole fraction mark) = _ :=
    ofText_partsText nonempty wholeDigits restDigits marked
  have integral : isIntegral (partsText negative whole fraction mark) = _ :=
    isIntegral_partsText wholeDigits marked
  rw [partsText] at parts integral
  simp only [value, integral, inexact, Bool.false_eq_true, ↓reduceIte, parts, toBinary64, same,
    ofDecimal_mul_pow, place]

/-- A text that writes a decimal is one number token. -/
theorem number?_eq (written : WritesDecimal text digits exponent) (negative : Bool) :
    Token.number? ((if negative then ['-'] else []) ++ text) =
      some ((if negative then ['-'] else []) ++ text) := by
  obtain ⟨whole, fraction, mark, power, zeros, rfl, nonempty, all, marked, -⟩ := written.parts
  exact Token.number?_partsText nonempty
    (textDigits_of_isDigit fun c member => all c (List.mem_append_left _ member))
    (textDigits_of_isDigit fun c member => all c (List.mem_append_right _ member)) marked

end WritesDecimal

/-! ### Notations -/

/-- Zeros are digits. -/
theorem isDigit_replicate_zero (count : Nat) :
    ∀ c ∈ List.replicate count '0', c.isDigit = true := by
  intro c member
  rw [List.eq_of_mem_replicate member]
  rfl

/-- Digits behind digits are digits. -/
theorem isDigit_append {first second : List Char} (all : ∀ c ∈ first, c.isDigit = true)
    (all' : ∀ c ∈ second, c.isDigit = true) : ∀ c ∈ first ++ second, c.isDigit = true := by
  intro c member
  rcases List.mem_append.mp member with member | member
  · exact all c member
  · exact all' c member

/-- Zeros in front of digits make no difference. -/
theorem digitsValue_zeros_append (zeros : Nat) {digits : List Char}
    (all : ∀ c ∈ digits, c.isDigit = true) :
    Text.digitsValue (List.replicate zeros '0' ++ digits) = Text.digitsValue digits := by
  have both : ∀ c ∈ List.replicate zeros '0' ++ digits, c.isDigit = true :=
    isDigit_append (isDigit_replicate_zero _) all
  rw [Text.digitsValue_eq all, Text.digitsValue_eq both, Nat.ofDigitChars_append,
    Nat.ofDigitChars_replicate_zero, Nat.mul_zero]

/-- Digits in positional notation write the decimal whose point stands after `point` of them. -/
theorem writesDecimal_positional {digits : List Char} (nonempty : digits ≠ [])
    (all : ∀ c ∈ digits, c.isDigit = true) (point : Int) :
    WritesDecimal (NumberLayout.positional digits point) (Text.digitsValue digits)
      (point - digits.length) := by
  have positive : 0 < digits.length := List.length_pos_iff.mpr nonempty
  have fraction (zeros : Nat) (place : -(zeros : Int) = point) :
      WritesDecimal ('0' :: '.' :: (List.replicate zeros '0' ++ digits)) (Text.digitsValue digits)
        (point - digits.length) := by
    refine ⟨['0'], List.replicate zeros '0' ++ digits, [], 0, 0, ?_, by simp, ?_, .none, ?_, ?_, ?_⟩
    · cases shape : List.replicate zeros '0' ++ digits with
      | nil => exact absurd (List.append_eq_nil_iff.mp shape).2 nonempty
      | cons c rest => simp [fractionText]
    · exact isDigit_append (by simp) (isDigit_append (isDigit_replicate_zero _) all)
    · simp [nonempty]
    · rw [← List.append_assoc, ← List.replicate_one, List.replicate_append_replicate,
        digitsValue_zeros_append _ all, Nat.pow_zero, Nat.mul_one]
    · simp only [List.length_append, List.length_replicate]
      omega
  unfold NumberLayout.positional
  cases point with
  | negSucc zeros => exact fraction (zeros + 1) rfl
  | ofNat count =>
    cases count with
    | zero => exact fraction 0 rfl
    | succ count =>
      by_cases short : digits.length ≤ count + 1
      · simp only [short, ↓reduceIte]
        refine ⟨digits ++ List.replicate (count + 1 - digits.length) '0', ['0'], [], 0,
          count + 2 - digits.length, by simp [fractionText], by simp [nonempty], ?_, .none, rfl,
          ?_, ?_⟩
        · exact isDigit_append (isDigit_append all (isDigit_replicate_zero _)) (by simp)
        · rw [List.append_assoc, ← List.replicate_one, List.replicate_append_replicate,
            digitsValue_append_zeros _ all]
          congr 2
          omega
        · simp only [List.length_cons, List.length_nil, Int.ofNat_eq_natCast]
          omega
      · simp only [short, ↓reduceIte]
        refine ⟨digits.take (count + 1), digits.drop (count + 1), [], 0, 0, ?_, ?_, ?_, .none,
          ?_, ?_, ?_⟩
        · cases shape : digits.drop (count + 1) with
          | nil => exact absurd (List.drop_eq_nil_iff.mp shape) short
          | cons c rest => simp [fractionText]
        · simp [List.take_eq_nil_iff, nonempty]
        · rw [List.take_append_drop]
          exact all
        · simp only [List.isEmpty_iff, Bool.and_eq_false_imp]
          intro empty
          exact absurd (List.drop_eq_nil_iff.mp empty) short
        · rw [List.take_append_drop, Nat.pow_zero, Nat.mul_one]
        · simp only [List.length_drop, Int.ofNat_eq_natCast]
          omega

/-- An exponent is written as one that is read back. -/
theorem exponentText_written (layout : NumberLayout) (exponent : Int) :
    ExponentText ('e' :: layout.exponentText exponent) exponent := by
  have all := isDigit_append
    (isDigit_replicate_zero (layout.exponentDigits - (Nat.toDigits 10 exponent.natAbs).length))
    (isDigit_toDigits (n := exponent.natAbs))
  have value := (digitsValue_zeros_append
    (layout.exponentDigits - (Nat.toDigits 10 exponent.natAbs).length)
    (isDigit_toDigits (n := exponent.natAbs))).trans (digitsValue_toDigits exponent.natAbs)
  have written := ExponentText.signed (if exponent < 0 then '-' else '+') _
    (by split <;> simp) (by simp) (textDigits_of_isDigit all)
  have power : (if (if exponent < 0 then '-' else '+') = '-' then -(exponent.natAbs : Int)
      else exponent.natAbs) = exponent := by
    by_cases negative : exponent < 0
    · simp only [negative, ↓reduceIte]
      omega
    · simp only [negative, ↓reduceIte, Char.reduceEq]
      omega
  rw [value, power] at written
  exact written

/-- Digits in scientific notation write the decimal whose point stands after `point` of them. -/
theorem writesDecimal_scientific (layout : NumberLayout) {digits : List Char}
    (nonempty : digits ≠ []) (all : ∀ c ∈ digits, c.isDigit = true) (point : Int) :
    WritesDecimal (layout.scientific digits point) (Text.digitsValue digits)
      (point - digits.length) := by
  obtain ⟨first, rest, rfl⟩ := List.exists_cons_of_ne_nil nonempty
  refine ⟨[first], rest, 'e' :: layout.exponentText (point - 1), point - 1, 0, ?_, by simp, all,
    exponentText_written layout (point - 1), by simp, by simp, ?_⟩
  · cases rest <;> simp [NumberLayout.scientific, fractionText]
  · simp only [List.length_cons]
    omega

/-! ### The shortest decimal -/

/-- The digits of a decimal are its significant digits and some zeros. -/
theorem toDigits_eq_significant (decimal : Decimal) :
    ∃ zeros, Nat.toDigits 10 decimal.digits =
      decimal.significant ++ List.replicate zeros '0' := by
  have zeros : ∀ c ∈ (Nat.toDigits 10 decimal.digits).reverse.takeWhile (· == '0'), c = '0' :=
    fun c member => eq_of_beq (List.all_eq_true.mp List.all_takeWhile c member)
  have run := List.eq_replicate_iff.mpr ⟨rfl, zeros⟩
  refine ⟨((Nat.toDigits 10 decimal.digits).reverse.takeWhile (· == '0')).length, ?_⟩
  calc Nat.toDigits 10 decimal.digits
      = (Nat.toDigits 10 decimal.digits).reverse.reverse := (List.reverse_reverse _).symm
    _ = decimal.significant ++
          ((Nat.toDigits 10 decimal.digits).reverse.takeWhile (· == '0')).reverse := by
        conv => lhs; rw [← List.takeWhile_append_dropWhile (p := (· == '0'))
          (l := (Nat.toDigits 10 decimal.digits).reverse)]
        rw [List.reverse_append, Decimal.significant]
    _ = _ := congrArg _ (by conv => lhs; rw [run, List.reverse_replicate])

/-- The significant digits of a decimal are digits. -/
theorem isDigit_significant (decimal : Decimal) : ∀ c ∈ decimal.significant, c.isDigit = true := by
  obtain ⟨zeros, split⟩ := toDigits_eq_significant decimal
  intro c member
  exact isDigit_toDigits c (by rw [split]; exact List.mem_append_left _ member)

/-- A decimal other than zero has significant digits. -/
theorem significant_ne_nil {decimal : Decimal} (positive : decimal.digits ≠ 0) :
    decimal.significant ≠ [] := by
  obtain ⟨zeros, split⟩ := toDigits_eq_significant decimal
  intro empty
  have value := digitsValue_toDigits decimal.digits
  rw [split, empty, digitsValue_append_zeros _ (by simp)] at value
  exact positive (by simpa [Text.digitsValue] using value.symm)

/-- The text of a decimal writes a decimal of the same value. -/
theorem writesDecimal_decimalText (layout : NumberLayout) {decimal : Decimal}
    (positive : decimal.digits ≠ 0) : ∃ digits exponent,
      WritesDecimal (layout.decimalText decimal) digits exponent ∧
        ∀ negative, ofDecimal negative digits exponent =
          ofDecimal negative decimal.digits decimal.exponent := by
  obtain ⟨zeros, split⟩ := toDigits_eq_significant decimal
  have all := isDigit_significant decimal
  have nonempty := significant_ne_nil positive
  refine ⟨Text.digitsValue decimal.significant, decimal.point - decimal.significant.length, ?_, ?_⟩
  · unfold NumberLayout.decimalText
    split
    · exact writesDecimal_positional nonempty all _
    · exact writesDecimal_scientific layout nonempty all _
  · intro negative
    have value := digitsValue_toDigits decimal.digits
    rw [split, digitsValue_append_zeros _ all] at value
    rw [← value, ofDecimal_mul_pow]
    congr 1
    simp only [Decimal.point, split, List.length_append, List.length_replicate]
    omega

/-- The literal of a finite number writes a decimal that reads back as this number. -/
theorem writesDecimal_text (layout : NumberLayout) (rank : Fin (2047 * significands)) :
    ∃ text digits exponent, WritesDecimal text digits exponent ∧
      ∀ negative, layout.text (.finite negative rank) = (if negative then ['-'] else []) ++ text ∧
        ofDecimal negative digits exponent = .finite negative rank := by
  by_cases zero : rank.val = 0
  · have origin : rank = ⟨0, by decide⟩ := Fin.ext zero
    refine ⟨['0', '.', '0'], 0, 0,
      ⟨['0'], ['0'], [], 0, 1, rfl, by simp, by simp, .none, rfl, ?_, ?_⟩,
      fun negative => ⟨by simp [NumberLayout.text, zero], ?_⟩⟩
    · decide
    · rfl
    · rw [origin]
      rfl
  · have reads := Decimal.reads_shortest rank
    obtain ⟨digits, exponent, written, same⟩ := writesDecimal_decimalText layout
      (Decimal.digits_ne_zero_of_reads zero reads)
    refine ⟨layout.decimalText (Decimal.shortest rank), digits, exponent, written,
      fun negative => ⟨by simp [NumberLayout.text, zero], ?_⟩⟩
    rw [same, ofDecimal_finite negative ((Decimal.reads_iff rank _).mp reads)]

/-- The literal of a finite number is read as that number. -/
theorem value_literalNumbers_text (negative : Bool) (rank : Fin (2047 * significands)) :
    value (literalNumbers.text (.finite negative rank)) = .ok (.float (.finite negative rank)) := by
  obtain ⟨text, digits, exponent, written, reads⟩ := writesDecimal_text literalNumbers rank
  rw [(reads negative).1, written.value_eq, (reads negative).2]

/-- The literal of a finite number is one number token. -/
theorem number?_literalNumbers_text (negative : Bool) (rank : Fin (2047 * significands)) :
    Token.number? (literalNumbers.text (.finite negative rank)) =
      some (literalNumbers.text (.finite negative rank)) := by
  obtain ⟨text, digits, exponent, written, reads⟩ := writesDecimal_text literalNumbers rank
  rw [(reads negative).1, written.number?_eq]

/-- The literal of an integer is one number token. -/
theorem number?_integerText (n : Int) : Token.number? (integerText n) = some (integerText n) := by
  rw [integerText_eq]
  exact Token.number?_partsText Nat.toDigits_ne_nil
    (textDigits_of_isDigit isDigit_toDigits) (by simp) .none

end Numeral

end TableSchema
