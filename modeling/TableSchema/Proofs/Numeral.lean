import TableSchema.Proofs.Binary64.Rounding
import TableSchema.Token
import TableSchema.Value.Numeral

/-! # Numbers that are written are read

The text of a number is a sign, a run of digits, a fraction and an exponent (`Numeral.partsText`).
Such a text is one number token (`Token.number?_partsText`) with exactly those parts
(`Numeral.ofText_partsText`). So the literal of an integer that is not too long
(`Numeral.value_integerText`) and of every finite number (`Numeral.value_literalNumbers_text`) is
read as the value it was written for.
-/

namespace TableSchema

namespace Text

/-- An ASCII digit has its value. -/
theorem isDigit_of_isDigit {c : Char} (digit : c.isDigit = true) :
    digitValue? c = some (c.toNat - '0'.toNat) := by
  simp only [Char.isDigit, Bool.and_eq_true, decide_eq_true_eq] at digit
  have range : 0x30 ≤ c.toNat ∧ c.toNat < 0x30 + 10 :=
    ⟨UInt32.le_iff_toNat_le.mp digit.1, Nat.lt_succ_of_le (UInt32.le_iff_toNat_le.mp digit.2)⟩
  simp only [digitValue?, digitZeros, List.find?_cons]
  simp [range]

/-- A decimal digit is an ASCII one or lies beyond the Latin letters. -/
theorem toNat_of_isDigit {c : Char} (digit : isDigit c = true) :
    (0x30 ≤ c.toNat ∧ c.toNat < 0x3A) ∨ 0x660 ≤ c.toNat := by
  have zeros : ∀ first ∈ digitZeros, first = 0x30 ∨ 0x660 ≤ first := by decide
  simp only [isDigit, digitValue?, Option.isSome_map, List.find?_isSome, Bool.and_eq_true,
    decide_eq_true_eq] at digit
  obtain ⟨first, member, lower, upper⟩ := digit
  rcases zeros first member with ascii | beyond <;> omega

/-- A run of digits ends where no digit follows. -/
theorem digitRun_of_forall {digits : List Char} (all : ∀ c ∈ digits, isDigit c = true)
    {rest : List Char} (stops : ∀ c ∈ rest.head?, isDigit c = false) :
    digitRun (digits ++ rest) = digits := by
  rw [digitRun, List.takeWhile_append_of_pos all]
  cases rest with
  | nil => simp
  | cons c rest =>
    rw [List.takeWhile_cons_of_neg (by simp [stops c rfl]), List.append_nil]

/-- Digits by themselves are a run. -/
theorem digitRun_eq_self {digits : List Char} (all : ∀ c ∈ digits, isDigit c = true) :
    digitRun digits = digits := by
  have run : digitRun (digits ++ []) = digits := digitRun_of_forall all (by simp)
  rwa [List.append_nil] at run

/-- A run of digits writes a number of no more digits. -/
theorem digitsValue_lt (digits : List Char) : digitsValue digits < 10 ^ digits.length := by
  suffices general : ∀ value, digits.foldl (fun value c => 10 * value + (digitValue? c).getD 0)
      value < (value + 1) * 10 ^ digits.length by
    simpa [digitsValue] using general 0
  induction digits with
  | nil => intro value; simp
  | cons c rest hypothesis =>
    intro value
    have digit : (digitValue? c).getD 0 < 10 := by
      cases found : digitValue? c with
      | none => decide
      | some digit => exact digitValue?_lt_ten found
    calc rest.foldl (fun value c => 10 * value + (digitValue? c).getD 0)
          (10 * value + (digitValue? c).getD 0)
        < (10 * value + (digitValue? c).getD 0 + 1) * 10 ^ rest.length := hypothesis _
      _ ≤ ((value + 1) * 10) * 10 ^ rest.length := Nat.mul_le_mul_right _ (by omega)
      _ = (value + 1) * 10 ^ (c :: rest).length := by
        rw [Nat.mul_assoc, List.length_cons, Nat.pow_succ, Nat.mul_comm 10]

/-- ASCII digits have the value that they have to the base ten. -/
theorem digitsValue_eq {digits : List Char} (all : ∀ c ∈ digits, c.isDigit = true) :
    digitsValue digits = Nat.ofDigitChars 10 digits 0 := by
  suffices general : ∀ value, digits.foldl (fun value c => 10 * value + (digitValue? c).getD 0)
      value = Nat.ofDigitChars 10 digits value from general 0
  induction digits with
  | nil => simp
  | cons c digits hypothesis =>
    intro value
    rw [List.foldl_cons, isDigit_of_isDigit (all c (List.mem_cons_self ..)),
      hypothesis (fun d member => all d (List.mem_cons_of_mem _ member)), Nat.ofDigitChars_cons]
    rfl

end Text

namespace Numeral

/-- A fraction with its point, if there is one. -/
def fractionText : List Char → List Char
  | [] => []
  | digits => '.' :: digits

/-- The text of an exponent with its mark, or nothing. -/
inductive ExponentText : List Char → Int → Prop
  | none : ExponentText [] 0
  | signed (sign : Char) (digits : List Char) (isSign : sign = '+' ∨ sign = '-')
      (nonempty : digits ≠ []) (all : ∀ c ∈ digits, Text.isDigit c = true) :
      ExponentText ('e' :: sign :: digits)
        (if sign = '-' then -(Text.digitsValue digits : Int) else Text.digitsValue digits)

/-- The text of a number with the given parts. -/
def partsText (negative : Bool) (whole fraction exponent : List Char) : List Char :=
  (if negative then ['-'] else []) ++ (whole ++ (fractionText fraction ++ exponent))

variable {negative : Bool} {whole fraction mark : List Char} {exponent : Int}

/-- An exponent begins neither with a digit nor with a point. -/
theorem ExponentText.head (written : ExponentText mark exponent) :
    ∀ c ∈ mark.head?, Text.isDigit c = false ∧ c ≠ '.' := by
  cases written with
  | none => simp
  | signed => simp; decide

/-- Behind the whole part of a number no digit follows. -/
theorem fraction_head (fraction : List Char) (written : ExponentText mark exponent) :
    ∀ c ∈ (fractionText fraction ++ mark).head?, Text.isDigit c = false := by
  cases fraction with
  | nil => exact fun c member => (written.head c member).1
  | cons digit digits => simp [fractionText]; decide

/-- Behind its letter an exponent is the power. -/
theorem ExponentText.signedValue_drop (written : ExponentText mark exponent) :
    signedValue (mark.drop 1) = exponent := by
  cases written with
  | none => rfl
  | signed sign digits isSign nonempty all =>
    have run : Text.digitRun digits = digits := Text.digitRun_eq_self all
    rcases isSign with rfl | rfl <;> simp [signedValue, splitSign, run]

/-- The fraction of a number and its exponent are split where they meet. -/
theorem splitFraction_text (digits : ∀ c ∈ fraction, Text.isDigit c = true)
    (written : ExponentText mark exponent) :
    splitFraction (fractionText fraction ++ mark) = (fraction, mark) := by
  cases fraction with
  | nil =>
    have head := written.head
    cases mark with
    | nil => rfl
    | cons c mark =>
      have other : c ≠ '.' := (head c rfl).2
      simp only [fractionText, List.nil_append]
      unfold splitFraction
      split
      · next same => cases same; exact absurd rfl other
      · rfl
  | cons digit rest =>
    have run : Text.digitRun (digit :: rest ++ mark) = digit :: rest :=
      Text.digitRun_of_forall digits fun c member => (written.head c member).1
    simp only [fractionText, splitFraction, List.cons_append] at run ⊢
    rw [run]
    simp

/-- A text made of parts has those parts. -/
theorem ofText_partsText (nonempty : whole ≠ []) (digits : ∀ c ∈ whole, Text.isDigit c = true)
    (digits' : ∀ c ∈ fraction, Text.isDigit c = true) (written : ExponentText mark exponent) :
    ofText (partsText negative whole fraction mark) = ⟨negative, whole, fraction, exponent⟩ := by
  have sign : splitSign (partsText negative whole fraction mark) =
      (negative, whole ++ (fractionText fraction ++ mark)) := by
    cases negative with
    | true => rfl
    | false =>
      obtain ⟨c, rest, rfl⟩ := List.exists_cons_of_ne_nil nonempty
      have digit := digits c (List.mem_cons_self ..)
      simp only [partsText, Bool.false_eq_true, ↓reduceIte, List.nil_append, List.cons_append]
      unfold splitSign
      split
      · next same => cases same; exact absurd digit (by decide)
      · next same => cases same; exact absurd digit (by decide)
      · rfl
  have run := Text.digitRun_of_forall digits (fraction_head fraction written)
  simp only [ofText, sign, run, List.drop_left, splitFraction_text digits' written,
    written.signedValue_drop]

/-- A text made of parts is integral when it has neither fraction nor exponent. -/
theorem isIntegral_partsText (digits : ∀ c ∈ whole, Text.isDigit c = true)
    (written : ExponentText mark exponent) :
    isIntegral (partsText negative whole fraction mark) = (fraction.isEmpty && mark.isEmpty) := by
  have plain : whole.any (fun c => c == '.' || c == 'e' || c == 'E') = false := by
    rw [List.any_eq_false]
    intro c member
    have digit := digits c member
    simp only [Bool.or_eq_true, beq_iff_eq, not_or]
    refine ⟨⟨?_, ?_⟩, ?_⟩ <;> rintro rfl <;> exact absurd digit (by decide)
  have sign : (if negative then ['-'] else []).any
      (fun c => c == '.' || c == 'e' || c == 'E') = false := by
    cases negative <;> rfl
  cases fraction with
  | nil =>
    cases written <;> simp [isIntegral, partsText, fractionText, List.any_append, plain, sign]
  | cons c rest => simp [isIntegral, partsText, fractionText, List.any_append, plain, sign]

end Numeral

namespace Token

open Numeral

variable {minus : Bool} {whole fraction mark : List Char} {exponent : Int}

/-- The fraction of a number is taken as it is written. -/
theorem fraction?_text (digits : ∀ c ∈ fraction, Text.isDigit c = true)
    (written : ExponentText mark exponent) :
    (fraction? (fractionText fraction ++ mark)).getD [] = fractionText fraction := by
  cases fraction with
  | nil =>
    have head := written.head
    cases mark with
    | nil => rfl
    | cons c mark =>
      have other : c ≠ '.' := (head c rfl).2
      simp only [fractionText, List.nil_append]
      unfold fraction?
      split
      · next same => cases same; exact absurd rfl other
      · rfl
  | cons digit rest =>
    have run : Text.digitRun (digit :: (rest ++ mark)) = digit :: rest :=
      Text.digitRun_of_forall digits fun c member => (written.head c member).1
    simp only [fractionText, fraction?, List.cons_append, run, Option.getD_some]

/-- The exponent of a number is taken as it is written. -/
theorem exponent?_text (written : ExponentText mark exponent) :
    (exponent? mark).getD [] = mark := by
  cases written with
  | none => rfl
  | signed sign digits isSign nonempty all =>
    have run : Text.digitRun digits = digits := Text.digitRun_eq_self all
    obtain ⟨c, rest, rfl⟩ := List.exists_cons_of_ne_nil nonempty
    simp [exponent?, signedDigits?, isSign, run]

/-- A number without its sign is taken whole. -/
theorem unsigned?_text (nonempty : whole ≠ []) (digits : ∀ c ∈ whole, Text.isDigit c = true)
    (digits' : ∀ c ∈ fraction, Text.isDigit c = true) (written : ExponentText mark exponent) :
    unsigned? (whole ++ (fractionText fraction ++ mark)) =
      some (whole ++ (fractionText fraction ++ mark)) := by
  have run := Text.digitRun_of_forall digits (fraction_head fraction written)
  have mantissa : mantissa? (whole ++ (fractionText fraction ++ mark)) =
      some (whole ++ fractionText fraction) := by
    obtain ⟨c, rest, rfl⟩ := List.exists_cons_of_ne_nil nonempty
    simp only [mantissa?, run, List.drop_left, fraction?_text digits' written]
  have rest : (whole ++ (fractionText fraction ++ mark)).drop
      (whole ++ fractionText fraction).length = mark := by
    rw [← List.append_assoc, List.drop_left]
  simp only [unsigned?, mantissa, Option.map_some, rest, exponent?_text written, List.append_assoc]

/-- A text made of the parts of a number is one number token. -/
theorem number?_partsText (nonempty : whole ≠ []) (digits : ∀ c ∈ whole, Text.isDigit c = true)
    (digits' : ∀ c ∈ fraction, Text.isDigit c = true) (written : ExponentText mark exponent) :
    number? (partsText minus whole fraction mark) = some (partsText minus whole fraction mark) := by
  have unsigned := unsigned?_text nonempty digits digits' written
  cases minus with
  | true => simp only [partsText, ↓reduceIte, List.cons_append, List.nil_append, number?, unsigned,
      Option.map_some]
  | false =>
    obtain ⟨c, rest, rfl⟩ := List.exists_cons_of_ne_nil nonempty
    simp only [partsText, Bool.false_eq_true, ↓reduceIte, List.nil_append, List.cons_append]
      at unsigned ⊢
    unfold number?
    split
    · next same =>
      cases same
      exact absurd (digits '-' (List.mem_cons_self ..)) (by decide)
    · exact unsigned

end Token

namespace Numeral

theorem isDigit_toDigits {n : Nat} : ∀ c ∈ Nat.toDigits 10 n, c.isDigit = true :=
  fun _ member => Nat.isDigit_of_mem_toDigits (by decide) (by decide) member

/-- ASCII digits are digits of a text. -/
theorem textDigits_of_isDigit {digits : List Char} (all : ∀ c ∈ digits, c.isDigit = true) :
    ∀ c ∈ digits, Text.isDigit c = true := by
  intro c member
  simp [Text.isDigit, Text.isDigit_of_isDigit (all c member)]

theorem digitsValue_toDigits (n : Nat) : Text.digitsValue (Nat.toDigits 10 n) = n := by
  rw [Text.digitsValue_eq isDigit_toDigits, Nat.ofDigitChars_ten_toDigits]

/-- A zero at the end multiplies by ten. -/
theorem digitsValue_append_zeros (digits : List Char) (all : ∀ c ∈ digits, c.isDigit = true)
    (zeros : Nat) : Text.digitsValue (digits ++ List.replicate zeros '0') =
      Text.digitsValue digits * 10 ^ zeros := by
  rw [Text.digitsValue_eq all, Text.digitsValue_eq, Nat.ofDigitChars_append,
    Nat.ofDigitChars_replicate_zero, Nat.mul_comm]
  intro c member
  rcases List.mem_append.mp member with member | member
  · exact all c member
  · rw [List.eq_of_mem_replicate member]
    rfl

theorem integerText_eq (n : Int) :
    integerText n = partsText (decide (n < 0)) (Nat.toDigits 10 n.natAbs) [] [] := by
  simp [integerText, partsText, fractionText]

/-- The literal of an integer is read as that integer, unless it is too long. -/
theorem value_integerText {n : Int} (short : n.natAbs < 10 ^ integerDigitLimit) :
    value (integerText n) = .ok (.int n) := by
  have digits := textDigits_of_isDigit (isDigit_toDigits (n := n.natAbs))
  have length : (Nat.toDigits 10 n.natAbs).length ≤ integerDigitLimit :=
    (Nat.length_toDigits_le_iff (by decide) (by decide)).mpr short
  have parts : ofText (partsText (decide (n < 0)) (Nat.toDigits 10 n.natAbs) [] []) = _ :=
    ofText_partsText Nat.toDigits_ne_nil digits (by simp) .none
  have integral : isIntegral (partsText (decide (n < 0)) (Nat.toDigits 10 n.natAbs) [] []) = _ :=
    isIntegral_partsText digits .none
  simp only [integerText_eq, value, integral, parts, List.isEmpty_nil, Bool.and_self, ↓reduceIte,
    toInt, Nat.not_lt.mpr length, digitsValue_toDigits]
  by_cases negative : n < 0
  · simp only [negative, decide_true, ↓reduceIte]
    exact congrArg (fun m => Except.ok (Value.int m)) (by omega)
  · simp only [negative, decide_false, Bool.false_eq_true, ↓reduceIte]
    exact congrArg (fun m => Except.ok (Value.int m)) (by omega)

end Numeral

end TableSchema
