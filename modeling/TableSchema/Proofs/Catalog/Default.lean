import TableSchema.Mapping
import TableSchema.Proofs.Token.Extent

/-! # Numbers among column defaults

A column default that is a number is shown by its own text. That text is one number token with the
value of the default, unless a point in it has no digit behind it (`Catalog.number?_shown`,
`Catalog.value_shown`).
-/

namespace TableSchema.Catalog

open Numeral

variable {text rest : List Char}

/-- Whether every point of a text has a digit behind it. -/
def IsPointed (text : List Char) : Prop :=
  ∀ before after, text = before ++ '.' :: after → after.head?.any Text.isDigit = true

/-- Every point at the end of a text has a digit behind it if every point of the text has. -/
theorem IsPointed.suffix (before : List Char) (pointed : IsPointed (before ++ text)) :
    IsPointed text := by
  intro inner after same
  exact pointed (before ++ inner) after (by rw [same, List.append_assoc])

/-- Behind a first character the condition goes on; a point asks for a digit. -/
theorem isPointed_cons {c : Char} : IsPointed (c :: text) ↔
    (c = '.' → text.head?.any Text.isDigit = true) ∧ IsPointed text := by
  constructor
  · intro pointed
    refine ⟨?_, pointed.suffix [c]⟩
    rintro rfl
    exact pointed [] text rfl
  · rintro ⟨point, pointed⟩ before after same
    cases before with
    | nil =>
      cases same
      exact point rfl
    | cons d before =>
      cases same
      exact pointed before after rfl

/-- Looks behind each point. -/
def decideIsPointed : (text : List Char) → Decidable (IsPointed text)
  | [] => isTrue (by simp [IsPointed])
  | _ :: text =>
    have := decideIsPointed text
    decidable_of_iff' _ isPointed_cons

instance : DecidablePred IsPointed :=
  decideIsPointed

/-- The text that shows a number: the number without a plus before it. -/
def shown (text : List Char) : List Char :=
  text.dropWhile (· == '+')

/-- A text begins with a minus, with a plus, or with neither. -/
theorem splitSign_cases (text : List Char) :
    (∃ unsigned, text = '-' :: unsigned ∧ splitSign text = (true, unsigned)) ∨
      (∃ unsigned, text = '+' :: unsigned ∧ splitSign text = (false, unsigned)) ∨
      (splitSign text = (false, text) ∧ ∀ c ∈ text.head?, c ≠ '-' ∧ c ≠ '+') := by
  unfold splitSign
  split
  · next unsigned => exact .inl ⟨unsigned, rfl, rfl⟩
  · next unsigned => exact .inr (.inl ⟨unsigned, rfl, rfl⟩)
  · next minus plus =>
    refine .inr (.inr ⟨rfl, ?_⟩)
    intro c member
    cases text with
    | nil => cases member
    | cons d unsigned =>
      cases member
      constructor
      · rintro rfl
        exact minus _ rfl
      · rintro rfl
        exact plus _ rfl

/-! ### Parts of a number -/

/-- A text is its run of digits and what stands behind. -/
theorem digitRun_append_drop (text : List Char) :
    Text.digitRun text ++ text.drop (Text.digitRun text).length = text := by
  have split := List.takeWhile_append_dropWhile (p := Text.isDigit) (l := text)
  have same : text.drop (Text.digitRun text).length = text.dropWhile Text.isDigit := by
    calc text.drop (Text.digitRun text).length
        = (Text.digitRun text ++ text.dropWhile Text.isDigit).drop (Text.digitRun text).length := by
          rw [Text.digitRun, split]
      _ = text.dropWhile Text.isDigit := List.drop_left
  rw [same]
  exact split

/-- The ways in which a mantissa may end: with the digits before a point, or with the digits after
one. -/
theorem afterMantissa?_cases (found : afterMantissa? text = some rest) :
    (Text.digitRun text ≠ [] ∧ text = Text.digitRun text ++ rest ∧ ∀ c ∈ rest.head?, c ≠ '.') ∨
      ∃ behind, text = Text.digitRun text ++ '.' :: behind ∧
        behind = Text.digitRun behind ++ rest := by
  have split := digitRun_append_drop text
  unfold afterMantissa? at found
  dsimp only at found
  split at found
  · next behind remainder =>
    rw [remainder] at split
    split at found
    · cases found
    · cases found
      exact .inr ⟨behind, split.symm, (digitRun_append_drop behind).symm⟩
  · next other =>
    split at found
    · cases found
    · next nonempty =>
      cases found
      refine .inl ⟨by simpa using nonempty, split.symm, ?_⟩
      intro c member point
      obtain ⟨behind, same⟩ : ∃ behind, text.drop (Text.digitRun text).length = c :: behind := by
        cases remainder : text.drop (Text.digitRun text).length with
        | nil => rw [remainder] at member; cases member
        | cons d behind => rw [remainder] at member; cases member; exact ⟨behind, rfl⟩
      exact other behind (by rw [same, point])

theorem ne_nil_of_afterMantissa? (found : afterMantissa? text = some rest) : text ≠ [] := by
  rintro rfl
  cases found

/-- A mantissa in whose text every point has a digit behind it is the mantissa of a token. -/
theorem mantissa?_of_afterMantissa? (pointed : IsPointed text)
    (found : afterMantissa? text = some rest) :
    ∃ mantissa, Token.mantissa? text = some mantissa ∧ text = mantissa ++ rest := by
  rcases afterMantissa?_cases found with ⟨nonempty, same, plain⟩ | ⟨behind, same, after⟩
  · have drop : text.drop (Text.digitRun text).length = rest := by
      have := digitRun_append_drop text
      exact List.append_cancel_left (this.trans same)
    have fraction : (Token.fraction? rest).getD [] = [] := by
      unfold Token.fraction?
      split
      · next inner => exact absurd rfl (plain '.' rfl)
      · rfl
    refine ⟨Text.digitRun text, ?_, same⟩
    unfold Token.mantissa?
    split
    · next empty => exact absurd empty nonempty
    · rw [drop, fraction, List.append_nil]
  · have drop : text.drop (Text.digitRun text).length = '.' :: behind := by
      have := digitRun_append_drop text
      exact List.append_cancel_left (this.trans same)
    have digits : Text.digitRun behind ≠ [] := by
      obtain ⟨c, member, digit⟩ := (Option.any_eq_true ..).mp (pointed _ _ same)
      cases behind with
      | nil => cases member
      | cons d others =>
        cases member
        rw [Text.digitRun, List.takeWhile_cons_of_pos digit]
        exact List.cons_ne_nil _ _
    have fraction : Token.fraction? ('.' :: behind) = some ('.' :: Text.digitRun behind) := by
      obtain ⟨digit, others, run⟩ := List.exists_cons_of_ne_nil digits
      simp only [Token.fraction?, run]
    refine ⟨Text.digitRun text ++ '.' :: Text.digitRun behind, ?_, ?_⟩
    · unfold Token.mantissa?
      split
      · next empty =>
        rw [empty] at same
        rw [empty, List.nil_append]
        rw [show text = '.' :: behind from same, fraction]
      · rw [drop, fraction]
        rfl
    · rw [List.append_assoc, List.cons_append, ← after]
      exact same

/-- An integer with an optional sign is what an exponent may hold. -/
theorem signedDigits?_of_isInteger (integer : isInteger text = true) :
    Token.signedDigits? text = some text := by
  simp only [isInteger, Bool.and_eq_true, Bool.not_eq_true', List.isEmpty_eq_false_iff] at integer
  obtain ⟨c, digits, same⟩ := List.exists_cons_of_ne_nil integer.1
  have run : Text.digitRun (splitSign text).2 = (splitSign text).2 :=
    Text.digitRun_eq_self (List.all_eq_true.mp integer.2)
  rcases splitSign_cases text with ⟨unsigned, rfl, split⟩ | ⟨unsigned, rfl, split⟩ | ⟨split, plain⟩
  · rw [split] at run same
    obtain rfl : unsigned = c :: digits := same
    simp only [Token.signedDigits?, or_true, ↓reduceIte, run]
  · rw [split] at run same
    obtain rfl : unsigned = c :: digits := same
    simp only [Token.signedDigits?, true_or, ↓reduceIte, run]
  · rw [split] at run same
    obtain rfl : text = c :: digits := same
    have sign := plain c rfl
    simp only [Token.signedDigits?, sign.1, sign.2, or_self, ↓reduceIte, run]

/-- An exponent is the exponent of a token. -/
theorem exponent?_of_isExponent (exponent : isExponent text = true) :
    Token.exponent? text = some text := by
  cases text with
  | nil => cases exponent
  | cons c rest =>
    simp only [isExponent, Bool.and_eq_true, Bool.or_eq_true, beq_iff_eq] at exponent
    rw [Token.exponent?, if_pos exponent.1, signedDigits?_of_isInteger exponent.2]
    rfl

/-! ### Numbers -/

/-- What is left of a number behind its mantissa: nothing, or an exponent. -/
def IsTail (rest : List Char) : Prop :=
  rest = [] ∨ isExponent rest = true

/-- A number is a mantissa with a sign perhaps, and with nothing or an exponent behind it. -/
theorem isNumber_iff : isNumber text = true ↔
    ∃ rest, afterMantissa? (splitSign text).2 = some rest ∧ IsTail rest := by
  unfold isNumber IsTail
  cases found : afterMantissa? (splitSign text).2 with
  | none => simp
  | some rest =>
    cases rest with
    | nil => simp
    | cons c rest => simp

/-- A number without a sign is one token without a sign. -/
theorem unsigned?_of_afterMantissa? (pointed : IsPointed text)
    (found : afterMantissa? text = some rest) (tail : IsTail rest) :
    Token.unsigned? text = some text := by
  obtain ⟨mantissa, read, rfl⟩ := mantissa?_of_afterMantissa? pointed found
  have exponent : (Token.exponent? rest).getD [] = rest := by
    rcases tail with rfl | exponent
    · rfl
    · rw [exponent?_of_isExponent exponent]
      rfl
  rw [Token.unsigned?, read, Option.map_some, List.drop_left, exponent]

/-- A number without a sign does not begin with one. -/
theorem unsigned_of_afterMantissa? (found : afterMantissa? text = some rest) :
    ∀ c ∈ text.head?, c ≠ '-' ∧ c ≠ '+' := by
  have digit {c : Char} (isDigit : Text.isDigit c = true) : c ≠ '-' ∧ c ≠ '+' := by
    constructor <;> rintro rfl <;> exact absurd isDigit (by decide)
  intro c member
  cases text with
  | nil => cases member
  | cons d others =>
    cases member
    rcases afterMantissa?_cases found with ⟨nonempty, -, -⟩ | ⟨behind, same, -⟩
    · cases first : Text.isDigit c with
      | true => exact digit first
      | false =>
        rw [Text.digitRun, List.takeWhile_cons_of_neg (by simp [first])] at nonempty
        exact absurd rfl nonempty
    · cases first : Text.isDigit c with
      | true => exact digit first
      | false =>
        rw [Text.digitRun, List.takeWhile_cons_of_neg (by simp [first]), List.nil_append] at same
        cases same
        decide

/-- A number without a sign is an integer exactly if it has neither point nor exponent. -/
theorem isIntegral_unsigned (found : afterMantissa? text = some rest) (tail : IsTail rest) :
    isIntegral text = (!text.isEmpty && text.all Text.isDigit) := by
  have nonempty : text.isEmpty = false := by
    simpa using ne_nil_of_afterMantissa? found
  rw [nonempty, Bool.not_false, Bool.true_and]
  cases all : text.all Text.isDigit with
  | true =>
    simp only [isIntegral, Bool.not_eq_true', List.any_eq_false]
    intro c member
    have digit := List.all_eq_true.mp all c member
    simp only [Bool.or_eq_true, beq_iff_eq, not_or]
    refine ⟨⟨?_, ?_⟩, ?_⟩ <;> rintro rfl <;> exact absurd digit (by decide)
  | false =>
    have marked : text.any (fun c => c == '.' || c == 'e' || c == 'E') = true := by
      rcases afterMantissa?_cases found with ⟨-, same, -⟩ | ⟨behind, same, -⟩
      · rcases tail with rfl | exponent
        · rw [same, List.append_nil, Text.digitRun, List.all_takeWhile] at all
          cases all
        · cases rest with
          | nil => cases exponent
          | cons c others =>
            simp only [isExponent, Bool.and_eq_true, Bool.or_eq_true, beq_iff_eq] at exponent
            rw [same]
            rcases exponent.1 with rfl | rfl <;> simp
      · rw [same]
        simp
    rw [isIntegral, marked]
    rfl

/-- Where there is no sign, none is split off. -/
theorem splitSign_of_plain (plain : ∀ c ∈ text.head?, c ≠ '-' ∧ c ≠ '+') :
    splitSign text = (false, text) := by
  rcases splitSign_cases text with ⟨unsigned, rfl, -⟩ | ⟨unsigned, rfl, -⟩ | ⟨split, -⟩
  · exact absurd rfl (plain '-' rfl).1
  · exact absurd rfl (plain '+' rfl).2
  · exact split

/-- A number without sign is shown as it is. -/
theorem shown_of_plain (plain : ∀ c ∈ text.head?, c ≠ '-' ∧ c ≠ '+') : shown text = text := by
  cases text with
  | nil => rfl
  | cons c others =>
    rw [shown, List.dropWhile_cons_of_neg (by simpa using (plain c rfl).2)]

/-- A number without sign is taken as one without. -/
theorem number?_of_plain (plain : ∀ c ∈ text.head?, c ≠ '-' ∧ c ≠ '+') :
    Token.number? text = Token.unsigned? text := by
  unfold Token.number?
  split
  · exact absurd rfl (plain '-' rfl).1
  · rfl

/-- The text that shows a number is the number up to a plus before it. -/
theorem shown_cases (number : isNumber text = true) :
    ∃ unsigned rest, afterMantissa? unsigned = some rest ∧ IsTail rest ∧
      ((text = '-' :: unsigned ∧ shown text = '-' :: unsigned) ∨
        ((text = '+' :: unsigned ∨ text = unsigned) ∧ shown text = unsigned)) := by
  obtain ⟨rest, found, tail⟩ := isNumber_iff.mp number
  have plain := unsigned_of_afterMantissa? found
  refine ⟨(splitSign text).2, rest, found, tail, ?_⟩
  rcases splitSign_cases text with ⟨unsigned, rfl, split⟩ | ⟨unsigned, rfl, split⟩ | ⟨split, -⟩
  · exact .inl ⟨rfl, rfl⟩
  · rw [split] at plain ⊢
    refine .inr ⟨.inl rfl, ?_⟩
    rw [shown, List.dropWhile_cons_of_pos (by simp)]
    exact shown_of_plain plain
  · rw [split] at plain ⊢
    exact .inr ⟨.inr rfl, shown_of_plain plain⟩

/-- A number is shown. -/
theorem shown_ne_nil (number : isNumber text = true) : shown text ≠ [] := by
  obtain ⟨unsigned, rest, found, -, ⟨-, same⟩ | ⟨-, same⟩⟩ := shown_cases number
  · rw [same]
    exact List.cons_ne_nil _ _
  · rw [same]
    exact ne_nil_of_afterMantissa? found

/-- The text that shows a number is one number token. -/
theorem number?_shown (number : isNumber text = true) (pointed : IsPointed (shown text)) :
    Token.number? (shown text) = some (shown text) := by
  obtain ⟨unsigned, rest, found, tail, ⟨-, same⟩ | ⟨-, same⟩⟩ := shown_cases number
  · rw [same] at pointed ⊢
    have read := unsigned?_of_afterMantissa? (.suffix ['-'] pointed) found tail
    rw [Token.number?, read]
    rfl
  · rw [same] at pointed ⊢
    rw [number?_of_plain (unsigned_of_afterMantissa? found)]
    exact unsigned?_of_afterMantissa? pointed found tail

/-- The text that shows a number has the value of the number. -/
theorem value_shown (number : isNumber text = true) :
    Numeral.value (shown text) = numberOf text := by
  obtain ⟨unsigned, rest, found, tail, ⟨rfl, same⟩ | ⟨signed, same⟩⟩ := shown_cases number
  · have integral : isIntegral ('-' :: unsigned) = isInteger ('-' :: unsigned) := by
      have here : isIntegral ('-' :: unsigned) = isIntegral unsigned := by simp [isIntegral]
      rw [here, isIntegral_unsigned found tail]
      rfl
    rw [same, Numeral.value, numberOf, integral]
  · have split := splitSign_of_plain (unsigned_of_afterMantissa? found)
    have split' : splitSign text = (false, unsigned) := by
      rcases signed with rfl | rfl
      · rfl
      · exact split
    have parts : ofText unsigned = ofText text := by
      rw [ofText, ofText, split, split']
    have integral : isIntegral unsigned = isInteger text := by
      rw [isIntegral_unsigned found tail, isInteger, split']
    rw [same, Numeral.value, numberOf, integral, parts]

end TableSchema.Catalog
