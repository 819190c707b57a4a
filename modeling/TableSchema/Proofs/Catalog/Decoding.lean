import TableSchema.Proofs.Catalog.Computed
import TableSchema.Proofs.Catalog.Default
import TableSchema.Proofs.Value.Lexemes

/-! # Literals behind casts

A default that is a literal with casts behind it holds the value of the literal: the quoted text,
whatever it holds, the integer or the boolean (`ColumnDefault.literal_of_casts`). What else comes to
a text is taken as it stands, unless it begins and ends with a quote: the outer quotes then go, also
where they belong to two literals (`ColumnDefault.text_of_expression`).
-/

namespace TableSchema

namespace Catalog

variable {after before : List Char}

/-! ### Casts hold no quote -/

/-- No quote is among blanks. -/
theorem quoteMark_not_mem_of_blank {blanks : List Char}
    (blank : ∀ c ∈ blanks, Text.isBlank c = true) : quoteMark ∉ blanks :=
  fun member => absurd (blank _ member) (by decide)

theorem quoteMark_not_mem_castsText (casts : List Cast) : quoteMark ∉ castsText casts :=
  fun member => absurd (isCastChar_castsText casts _ member) (by decide)

/-! ### Literals without their casts -/

section Behind

variable (casts : List Cast) (blank_before : ∀ c ∈ before, Text.isBlank c = true)
  (blank_after : ∀ c ∈ after, Text.isBlank c = true)

include blank_after in
theorem quoteMark_not_mem_casts_blanks : quoteMark ∉ castsText casts ++ after := by
  rw [List.mem_append, not_or]
  exact ⟨quoteMark_not_mem_castsText casts, quoteMark_not_mem_of_blank blank_after⟩

include blank_before blank_after in
/-- A quoted literal loses the casts behind it and the blanks around it. -/
theorem stripCasts_quote (text : List Char) :
    stripCasts (before ++ (quote text ++ (castsText casts ++ after))) = quote text := by
  have free : ∀ pair ∈ [(before, text)], quoteMark ∉ pair.1 := by
    intro pair member
    rw [List.mem_singleton.mp member]
    exact quoteMark_not_mem_of_blank blank_before
  have front : (removeCasts before).dropWhile Text.isBlank = [] := by
    rw [removeCasts_of_blank blank_before]
    exact List.dropWhile_eq_nil_iff.mpr blank_before
  have back : (removeCasts (castsText casts ++ after)).rdropWhile Text.isBlank = [] :=
    List.rdropWhile_eq_nil_iff.mpr
      (removeCasts_blank_iff.mpr ⟨casts, after, blank_after, rfl⟩)
  calc stripCasts (before ++ (quote text ++ (castsText casts ++ after)))
    _ = stripCasts (interleave [(before, text)] (castsText casts ++ after)) := by
      rw [interleave_cons, interleave_nil]
    _ = Text.trim (interleave [(removeCasts before, text)]
        (removeCasts (castsText casts ++ after))) := by
      rw [stripCasts_interleave free (quoteMark_not_mem_casts_blanks casts blank_after)]
      rfl
    _ = interleave [([], text)] [] := by rw [trim_interleave, front, back]
    _ = quote text := by rw [interleave_cons, interleave_nil, List.append_nil, List.nil_append]

include blank_before blank_after in
/-- A word loses the casts behind it and the blanks around it. -/
theorem stripCasts_word {word : List Char} (nonempty : word ≠ [])
    (solid : ∀ c ∈ word, Text.isBlank c = false) (plain : ∀ c ∈ word, c ≠ quoteMark ∧ c ≠ ':') :
    stripCasts (before ++ (word ++ (castsText casts ++ after))) = word := by
  have free : quoteMark ∉ before ++ (word ++ (castsText casts ++ after)) := by
    simp only [List.mem_append, not_or]
    exact ⟨quoteMark_not_mem_of_blank blank_before, fun member => (plain _ member).1 rfl,
      not_or.mp (mt List.mem_append.mpr (quoteMark_not_mem_casts_blanks casts blank_after))⟩
  have left := removeCasts_blank_iff.mpr ⟨casts, after, blank_after, rfl⟩
  have stripped := stripCasts_interleave (List.forall_mem_nil _) free
  rw [List.map_nil, interleave_nil, interleave_nil] at stripped
  rw [stripped,
    removeCasts_append_of_forall fun c member => ne_colon_of_isBlank (blank_before c member),
    removeCasts_append_of_forall fun c member => (plain c member).2,
    Text.trim_word nonempty solid blank_before left]

end Behind

/-! ### Literals -/

/-- A quoted literal is not computed, whatever it says. -/
theorem isComputed_quote (text : List Char) : isComputed (quote text) = false := by
  have free : ∀ pair ∈ [(([] : List Char), text)], quoteMark ∉ pair.1 := by simp
  have computed := isComputed_interleave free List.not_mem_nil
  rwa [interleave_cons, interleave_nil, List.append_nil, List.nil_append] at computed

/-- A computed word begins with a letter. -/
theorem isComputedWord_cons_eq_false {c : Char}
    (letterless : Text.isAsciiLower (foldLetter c) = false) (text : List Char) :
    isComputedWord (c :: text) = false := by
  have begins : ∀ word ∈ clockWords ++ computedCalls,
      word.toList.head?.any Text.isAsciiLower = true := by decide
  obtain ⟨name, spelled⟩ : ∃ name,
      name = String.ofList (((c :: text).takeWhile Text.isWordChar).map foldLetter) := ⟨_, rfl⟩
  have outside : name ∉ clockWords ++ computedCalls := by
    intro member
    have first := begins name member
    rw [spelled, String.toList_ofList] at first
    by_cases word : Text.isWordChar c = true
    · rw [List.takeWhile_cons_of_pos word, List.map_cons, List.head?_cons, Option.any_some,
        letterless] at first
      cases first
    · rw [List.takeWhile_cons_of_neg word] at first
      cases first
  obtain ⟨clock, call⟩ := not_or.mp (mt List.mem_append.mpr outside)
  simp only [isComputedWord, ← spelled, List.contains_eq_mem, clock, call, decide_false,
    Bool.false_and, Bool.or_false]

/-- A text without letters has no word of a computed expression. -/
theorem hasComputedWord_of_letterless {text : List Char}
    (letterless : ∀ c ∈ text, Text.isAsciiLower (foldLetter c) = false) (inside : Bool) :
    hasComputedWord inside text = false := by
  induction text generalizing inside with
  | nil => rfl
  | cons c text hypothesis =>
    obtain ⟨first, others⟩ := List.forall_mem_cons.mp letterless
    rw [hasComputedWord, isComputedWord_cons_eq_false first, hypothesis others, Bool.and_false,
      Bool.or_false]

/-- A lower case ASCII letter lies between `a` and `z`. -/
theorem toNat_of_isAsciiLower {c : Char} (lower : Text.isAsciiLower c = true) :
    0x61 ≤ c.toNat ∧ c.toNat ≤ 0x7A := by
  simp only [Text.isAsciiLower, Bool.and_eq_true, decide_eq_true_eq, Char.le_def,
    UInt32.le_iff_toNat_le] at lower
  exact lower

/-- A digit is not folded into a letter. -/
theorem isAsciiLower_foldLetter_of_isDigit {c : Char} (digit : Text.isDigit c = true) :
    Text.isAsciiLower (foldLetter c) = false := by
  have code := Text.toNat_of_isDigit digit
  have other {d : Char} (noDigit : Text.isDigit d = false) : c ≠ d := by
    rintro rfl
    rw [noDigit] at digit
    cases digit
  have kept : foldLetter c = c := by
    have capital : ¬('A' ≤ c ∧ c ≤ 'Z') := by
      simp only [Char.le_def, UInt32.le_iff_toNat_le]
      rintro ⟨low, high⟩
      have low' : 0x41 ≤ c.toNat := low
      have high' : c.toNat ≤ 0x5A := high
      omega
    rw [foldLetter, if_neg (other (by decide)), if_neg (other (by decide)),
      if_neg (not_or.mpr ⟨other (by decide), other (by decide)⟩), Text.lowerAscii,
      if_neg (by simpa using capital)]
  rw [kept, ← Bool.not_eq_true]
  intro lower
  have := toNat_of_isAsciiLower lower
  omega

theorem literalOf_quote (text : List Char) :
    literalOf (quote text) = .ok { value := .str (String.ofList text) } := by
  rw [literalOf, unquote?_quote]

/-- Whether a text begins with a quote and ends with another. -/
def IsEnclosed (text : List Char) : Prop :=
  2 ≤ text.length ∧ text.head? = some quoteMark ∧ text.getLast? = some quoteMark

instance : DecidablePred IsEnclosed :=
  fun _ => inferInstanceAs (Decidable (_ ∧ _ ∧ _))

theorem unquote?_of_enclosed {text : List Char} (enclosed : IsEnclosed text) :
    unquote? text = some (undouble text.tail.dropLast) :=
  if_pos enclosed

theorem unquote?_of_not_enclosed {text : List Char} (bare : ¬IsEnclosed text) :
    unquote? text = none :=
  if_neg bare

section Integer

variable {digits sign : List Char} (signed : sign = [] ∨ sign = ['+'] ∨ sign = ['-'])
  (nonempty : digits ≠ []) (all : ∀ c ∈ digits, Text.isDigit c = true)

include signed all in
/-- The sign of an integer is split off. -/
theorem splitSign_integer :
    Numeral.splitSign (sign ++ digits) = (decide (sign = ['-']), digits) := by
  rcases signed with rfl | rfl | rfl
  · apply splitSign_of_plain
    intro c member
    have digit := all c (List.mem_of_mem_head? member)
    constructor
    · rintro rfl
      exact absurd digit (by decide)
    · rintro rfl
      exact absurd digit (by decide)
  · rfl
  · rfl

include signed nonempty all in
/-- An integer is a number. -/
theorem isNumber_integer : isNumber (sign ++ digits) = true := by
  refine isNumber_iff.mpr ⟨[], ?_, .inl rfl⟩
  rw [splitSign_integer signed all]
  simp only [afterMantissa?, Text.digitRun_eq_self all, List.drop_length, List.isEmpty_iff,
    nonempty, ↓reduceIte]

include signed nonempty all in
/-- An integer of few enough digits is read as its value. -/
theorem numberOf_integer (short : digits.length ≤ integerDigitLimit) :
    numberOf (sign ++ digits) =
      .ok (.int (if sign = ['-'] then -(Text.digitsValue digits : Int)
        else Text.digitsValue digits)) := by
  have split := splitSign_integer signed all
  have integer : isInteger (sign ++ digits) = true := by
    simp only [isInteger, split, Bool.and_eq_true, Bool.not_eq_true', List.isEmpty_eq_false_iff]
    exact ⟨nonempty, List.all_eq_true.mpr all⟩
  rw [numberOf, if_pos integer]
  simp only [Numeral.ofText, split, Numeral.toInt, Text.digitRun_eq_self all, Nat.not_lt.mpr short,
    ↓reduceIte, decide_eq_true_eq]
  rfl

include signed all in
/-- An integer has no blanks, quotes, colons and letters. -/
theorem plain_integer : ∀ c ∈ sign ++ digits, Text.isBlank c = false ∧
    (c ≠ quoteMark ∧ c ≠ ':') ∧ Text.isAsciiLower (foldLetter c) = false := by
  intro c member
  have other {d : Char} (noDigit : Text.isDigit d = false) (digit : Text.isDigit c = true) :
      c ≠ d := by
    rintro rfl
    rw [noDigit] at digit
    cases digit
  rcases List.mem_append.mp member with inSign | inDigits
  · rcases signed with rfl | rfl | rfl
    · cases inSign
    · rw [List.mem_singleton.mp inSign]
      decide
    · rw [List.mem_singleton.mp inSign]
      decide
  · have digit := all c inDigits
    exact ⟨Text.isBlank_of_isDigit digit, ⟨other (by decide) digit, other (by decide) digit⟩,
      isAsciiLower_foldLetter_of_isDigit digit⟩

include signed nonempty all in
/-- An integer of few enough digits is the literal of its value. -/
theorem literalOf_integer (short : digits.length ≤ integerDigitLimit) :
    literalOf (sign ++ digits) = .ok {
      value := .int (if sign = ['-'] then -(Text.digitsValue digits : Int)
        else Text.digitsValue digits)
      text := some (String.ofList (shown (sign ++ digits))) } := by
  have unquoted : unquote? (sign ++ digits) = none := by
    apply unquote?_of_not_enclosed
    rintro ⟨-, head, -⟩
    exact (plain_integer signed all _ (List.mem_of_mem_head? head)).2.1.1 rfl
  rw [literalOf, unquoted]
  dsimp only
  rw [if_pos (isNumber_integer signed nonempty all), numberOf_integer signed nonempty all short]
  rfl

end Integer

/-! ### Expressions -/

/-- To make one quote of two lengthens nothing. -/
theorem length_undouble_le (text : List Char) : (undouble text).length ≤ text.length := by
  fun_induction undouble text with
  | case1 rest hypothesis =>
    rw [List.length_cons, List.length_cons, List.length_cons]
    omega
  | case2 c rest _ hypothesis =>
    rw [List.length_cons, List.length_cons]
    omega
  | case3 => exact Nat.le_refl _

/-- An enclosed text does not unquote to itself. -/
theorem undouble_ne {text : List Char} (enclosed : IsEnclosed text) :
    undouble text.tail.dropLast ≠ text := by
  intro same
  have short := length_undouble_le text.tail.dropLast
  rw [same, List.length_dropLast, List.length_tail] at short
  have long := enclosed.1
  omega

/-- A number is never a text. -/
theorem numberOf_ne_str (text : List Char) (content : String) :
    numberOf text ≠ .ok (.str content) := by
  unfold numberOf
  split
  · cases (Numeral.ofText text).toInt with
    | error error => rintro ⟨⟩
    | ok n => rintro ⟨⟩
  · rintro ⟨⟩

/-- A literal that is a text is an enclosed text without its quotes, or the whole text. -/
theorem str_of_literalOf {text : List Char} {literal : DefaultLiteral} {content : String}
    (read : literalOf text = .ok literal) (isText : literal.value = .str content) :
    content.toList = if IsEnclosed text then undouble text.tail.dropLast else text := by
  unfold literalOf at read
  by_cases enclosed : IsEnclosed text
  · rw [if_pos enclosed]
    rw [unquote?_of_enclosed enclosed] at read
    cases read
    cases isText
    exact String.toList_ofList
  · rw [if_neg enclosed]
    rw [unquote?_of_not_enclosed enclosed] at read
    dsimp only at read
    split at read
    · obtain ⟨value, number, rest⟩ := bind_eq_ok.mp read
      cases rest
      cases isText
      exact absurd number (numberOf_ne_str text content)
    split at read
    · cases read
      cases isText
    split at read
    · cases read
      cases isText
    · cases read
      cases isText
      exact String.toList_ofList

end Catalog

namespace ColumnDefault

open Catalog

/-- A default whose casts leave a fixed word is the literal of this word. -/
theorem ofText_of_stripCasts {text word : List Char} (stripped : stripCasts text = word)
    (fixed : isComputed word = false) : ofText text = .present <$> literalOf word := by
  rw [ofText, stripped, if_neg (by simp [fixed])]

/-- A quoted literal with casts behind it is read as the text that it quotes. -/
theorem ofValue_quote_casts {before after : List Char} (casts : List Cast)
    (blank_before : ∀ c ∈ before, Text.isBlank c = true)
    (blank_after : ∀ c ∈ after, Text.isBlank c = true) (text : String) :
    ofValue (.str (String.ofList (before ++ (quote text.toList ++ (castsText casts ++ after))))) =
      .ok (.present { value := .str text }) := by
  have stripped := stripCasts_quote casts blank_before blank_after text.toList
  have read : literalOf (quote text.toList) = .ok { value := .str text } := by
    rw [literalOf_quote, String.ofList_toList]
  rw [ofValue_str, String.toList_ofList, ofText_of_stripCasts stripped (isComputed_quote _), read]
  rfl

/-- A word with casts behind it is read as the literal that it is. -/
theorem ofText_word_casts {before after : List Char} (casts : List Cast)
    (blank_before : ∀ c ∈ before, Text.isBlank c = true)
    (blank_after : ∀ c ∈ after, Text.isBlank c = true) {word : List Char} (nonempty : word ≠ [])
    (solid : ∀ c ∈ word, Text.isBlank c = false) (plain : ∀ c ∈ word, c ≠ quoteMark ∧ c ≠ ':')
    (fixed : isComputed word = false) :
    ofText (before ++ (word ++ (castsText casts ++ after))) = .present <$> literalOf word :=
  ofText_of_stripCasts (stripCasts_word casts blank_before blank_after nonempty solid plain) fixed

/-- A literal with casts behind it, and blanks around them, is read as the literal: a quoted text as
the text, whatever it holds, an integer with its sign as the integer, and a boolean word as the
boolean. -/
theorem literal_of_casts {before after : List Char} (casts : List Cast)
    (blank_before : ∀ c ∈ before, Text.isBlank c = true)
    (blank_after : ∀ c ∈ after, Text.isBlank c = true) :
    (∀ text : String,
      ofValue (.str (String.ofList (before ++ (quote text.toList ++ (castsText casts ++ after))))) =
        .ok (.present { value := .str text })) ∧
    (∀ sign digits : List Char, (sign = [] ∨ sign = ['+'] ∨ sign = ['-']) → digits ≠ [] →
      (∀ c ∈ digits, Text.isDigit c = true) → digits.length ≤ 4300 →
      ofValue (.str (String.ofList (before ++ (sign ++ digits ++ (castsText casts ++ after))))) =
        .ok (.present {
          value := .int (if sign = ['-'] then -(Text.digitsValue digits : Int)
            else Text.digitsValue digits)
          text := some (String.ofList (shown (sign ++ digits))) })) ∧
    (∀ truth : Bool,
      ofValue (.str (String.ofList (before ++
        ((if truth then "true" else "false").toList ++ (castsText casts ++ after))))) =
        .ok (.present { value := .bool truth })) := by
  refine ⟨ofValue_quote_casts casts blank_before blank_after, ?_, ?_⟩
  · intro sign digits signed nonempty all short
    have plain := plain_integer signed all
    have fixed : isComputed (sign ++ digits) = false := by
      rw [isComputed_of_free fun member => (plain _ member).2.1.1 rfl]
      exact hasComputedWord_of_letterless (fun c member => (plain c member).2.2) false
    have read := ofText_word_casts casts blank_before blank_after
      (List.append_ne_nil_of_right_ne_nil sign nonempty) (fun c member => (plain c member).1)
      (fun c member => (plain c member).2.1) fixed
    rw [ofValue_str, String.toList_ofList, read, literalOf_integer signed nonempty all short]
    rfl
  · intro truth
    rw [ofValue_str, String.toList_ofList]
    cases truth with
    | true =>
      have nonempty : "true".toList ≠ [] := by decide
      refine (ofText_word_casts casts blank_before blank_after nonempty
        (Text.forall_of_all (by decide)) (Text.forall_of_all (by decide)) (by decide)).trans ?_
      decide
    | false =>
      have nonempty : "false".toList ≠ [] := by decide
      refine (ofText_word_casts casts blank_before blank_after nonempty
        (Text.forall_of_all (by decide)) (Text.forall_of_all (by decide)) (by decide)).trans ?_
      decide

/-- A quoted literal, an integer and a boolean word with several casts behind each. -/
theorem literal_of_casts_several :
    ofValue (.str " 'it''s now()::text'::character varying[] :: \"Mood\" ") =
        .ok (.present { value := .str "it's now()::text" }) ∧
      ofValue (.str " +007::character varying[] :: \"Mood\" ") =
        .ok (.present { value := .int 7, text := some "007" }) ∧
      ofValue (.str " true::character varying[] :: \"Mood\" ") =
        .ok (.present { value := .bool true }) := by
  have none : ∀ c ∈ [], Text.isBlank c = true := List.forall_mem_nil _
  have blank : ∀ c ∈ [' '], Text.isBlank c = true := List.all_eq_true.mp (by decide)
  obtain ⟨first, first_text⟩ : ∃ cast : Cast, cast.text = "::character varying[]".toList :=
    ⟨⟨[], [], false, "character".toList, false, some (.varying ⟨[' '], by decide, blank⟩), true,
      none, none, by decide⟩, rfl⟩
  obtain ⟨second, second_text⟩ : ∃ cast : Cast, cast.text = " :: \"Mood\"".toList :=
    ⟨⟨[' '], [' '], true, "Mood".toList, true, .none, false, blank, blank, by decide⟩, rfl⟩
  have casts : castsText [first, second] = "::character varying[] :: \"Mood\"".toList := by
    rw [castsText, List.flatMap_cons, List.flatMap_singleton, first_text, second_text]
    decide
  obtain ⟨texts, integers, booleans⟩ := literal_of_casts [first, second] blank blank
  rw [casts] at texts integers booleans
  have text := texts "it's now()::text"
  have integer := integers ['+'] "007".toList (.inr (.inl rfl)) (by decide)
    (List.all_eq_true.mp (by decide)) (by decide)
  exact ⟨text, integer, booleans true⟩

/-- A text that gives a literal gives that of the text without casts. -/
theorem ofValue_str_eq_present {text : String} {literal : DefaultLiteral}
    (read : ofValue (.str text) = .ok (.present literal)) :
    literalOf (stripCasts text.toList) = .ok literal := by
  rw [ofValue_str, ofText] at read
  by_cases computed : isComputed (stripCasts text.toList) = true
  · rw [if_pos computed] at read
    cases read
  · rw [if_neg computed] at read
    cases known : literalOf (stripCasts text.toList) with
    | error error =>
      rw [known] at read
      cases read
    | ok other =>
      rw [known] at read
      cases read
      rfl

/-- A default that comes to a text holds the expression without its casts, or what stands between
the first and the last quote of an expression that begins and ends with one. So it is the content of
one literal or the expression itself exactly if an expression that begins and ends with a quote is
one literal. -/
theorem text_of_expression {text content : String} {literal : DefaultLiteral}
    (read : ofValue (.str text) = .ok (.present literal)) (isText : literal.value = .str content) :
    (content.toList = if IsEnclosed (stripCasts text.toList) then
        undouble (stripCasts text.toList).tail.dropLast
      else stripCasts text.toList) ∧
    (((∃ quoted, stripCasts text.toList = quote quoted ∧ content.toList = quoted) ∨
        content.toList = stripCasts text.toList) ↔
      (IsEnclosed (stripCasts text.toList) →
        ∃ quoted, stripCasts text.toList = quote quoted)) := by
  have same := str_of_literalOf (ofValue_str_eq_present read) isText
  refine ⟨same, ?_⟩
  by_cases enclosed : IsEnclosed (stripCasts text.toList)
  · rw [if_pos enclosed] at same
    constructor
    · rintro (⟨quoted, whole, -⟩ | whole) -
      · exact ⟨quoted, whole⟩
      · exact absurd (same.symm.trans whole) (undouble_ne enclosed)
    · intro single
      obtain ⟨quoted, whole⟩ := single enclosed
      refine .inl ⟨quoted, whole, ?_⟩
      have unquoted := unquote?_quote quoted
      rw [← whole, unquote?_of_enclosed enclosed] at unquoted
      exact same.trans (Option.some.inj unquoted)
  · rw [if_neg enclosed] at same
    exact iff_of_true (.inr same) fun whole => absurd whole enclosed

/-- A quoted literal gives its content, with a single quote for each double one. -/
theorem text_of_expression_quoted :
    ofValue (.str "'it''s'::text") = .ok (.present { value := .str "it's" }) ∧
      ((∃ quoted, stripCasts "'it''s'::text".toList = quote quoted ∧ "it's".toList = quoted) ∨
        "it's".toList = stripCasts "'it''s'::text".toList) := by
  have read : ofValue (.str "'it''s'::text") = .ok (.present { value := .str "it's" }) := by
    decide +kernel
  exact ⟨read, (text_of_expression read rfl).2.mpr fun _ => ⟨"it's".toList, by decide +kernel⟩⟩

/-- Two literals with an operator between them lose their outer quotes. -/
theorem text_of_expression_garbled :
    ofValue (.str "'a' || 'b'") = .ok (.present { value := .str "a' || 'b" }) ∧
      ¬((∃ quoted, stripCasts "'a' || 'b'".toList = quote quoted ∧ "a' || 'b".toList = quoted) ∨
        "a' || 'b".toList = stripCasts "'a' || 'b'".toList) := by
  refine ⟨by decide +kernel, ?_⟩
  rintro (⟨quoted, whole, rfl⟩ | whole)
  · exact absurd whole (by decide +kernel)
  · exact absurd whole (by decide +kernel)

end ColumnDefault

end TableSchema
