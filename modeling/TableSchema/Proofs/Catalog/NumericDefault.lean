import TableSchema.Proofs.Catalog.Decoding
import TableSchema.Proofs.Mapping

/-! # Numeric defaults in expressions

A number whose default the catalog gave is written with the text of the default, and that text is
read back as the default exactly if every point in it has a digit behind it
(`ColumnDefault.parse_render_number_iff`). A point without one ends the number before it, so that
the reader meets the point in place of the parenthesis behind the default
(`Grammar.not_expression_of_point`).
-/

namespace TableSchema

open Lexeme

namespace Catalog

open Numeral

variable {text rest : List Char}

/-! ### Points without a digit behind them -/

/-- Whether a character may stand in a number other than as its point. -/
def isNumeralChar (c : Char) : Bool :=
  Text.isDigit c || "+-eE".toList.contains c

theorem isNumeralChar_of_isDigit {c : Char} (digit : Text.isDigit c = true) :
    isNumeralChar c = true := by
  rw [isNumeralChar, digit, Bool.true_or]

theorem isDigit_digitRun (text : List Char) : ∀ c ∈ Text.digitRun text, Text.isDigit c = true :=
  fun _ member => List.mem_takeWhile_imp member

theorem isNumeralChar_digitRun (text : List Char) :
    ∀ c ∈ Text.digitRun text, isNumeralChar c = true :=
  fun c member => isNumeralChar_of_isDigit (isDigit_digitRun text c member)

/-- An integer has only characters of numbers. -/
theorem isNumeralChar_of_isInteger (integer : isInteger text = true) :
    ∀ c ∈ text, isNumeralChar c = true := by
  simp only [isInteger, Bool.and_eq_true] at integer
  have unsigned : ∀ c ∈ (splitSign text).2, isNumeralChar c = true :=
    fun c member => isNumeralChar_of_isDigit (List.all_eq_true.mp integer.2 c member)
  rcases splitSign_cases text with ⟨digits, rfl, split⟩ | ⟨digits, rfl, split⟩ | ⟨split, -⟩
  · rw [split] at unsigned
    exact List.forall_mem_cons.mpr ⟨by decide, unsigned⟩
  · rw [split] at unsigned
    exact List.forall_mem_cons.mpr ⟨by decide, unsigned⟩
  · rwa [split] at unsigned

/-- An exponent has only characters of numbers. -/
theorem isNumeralChar_of_isTail (tail : IsTail rest) : ∀ c ∈ rest, isNumeralChar c = true := by
  rcases tail with rfl | exponent
  · exact List.forall_mem_nil _
  · cases rest with
    | nil => cases exponent
    | cons c rest =>
      simp only [isExponent, Bool.and_eq_true, Bool.or_eq_true, beq_iff_eq] at exponent
      refine List.forall_mem_cons.mpr ⟨?_, isNumeralChar_of_isInteger exponent.2⟩
      rcases exponent.1 with rfl | rfl <;> decide

theorem point_not_mem (all : ∀ c ∈ text, isNumeralChar c = true) : '.' ∉ text :=
  fun member => absurd (all _ member) (by decide)

theorem isPointed_of_not_mem (absent : '.' ∉ text) : IsPointed text := by
  rintro before after rfl
  exact absurd (List.mem_append_right _ List.mem_cons_self) absent

/-- A text without points in front asks for no digit. -/
theorem isPointed_append (absent : '.' ∉ text) : IsPointed (text ++ rest) ↔ IsPointed rest := by
  induction text with
  | nil => rfl
  | cons c text hypothesis =>
    obtain ⟨other, absent⟩ := not_or.mp (mt List.mem_cons.mpr absent)
    rw [List.cons_append, isPointed_cons, hypothesis absent]
    exact and_iff_right fun same => absurd same.symm other

/-- An unsigned number with a point that has no digit behind it is digits, the point, and perhaps an
exponent. -/
theorem exists_barePoint (found : afterMantissa? text = some rest) (tail : IsTail rest)
    (bare : ¬IsPointed text) :
    ∃ digits, digits ≠ [] ∧ (∀ c ∈ digits, Text.isDigit c = true) ∧
      text = digits ++ '.' :: rest := by
  have run := point_not_mem (isNumeralChar_digitRun text)
  have noPoint := point_not_mem (isNumeralChar_of_isTail tail)
  rcases afterMantissa?_cases found with ⟨-, same, -⟩ | ⟨behind, same, after⟩
  · refine absurd ?_ bare
    rw [same, isPointed_append run]
    exact isPointed_of_not_mem noPoint
  · have digitless : Text.digitRun behind = [] := by
      by_contra nonempty
      obtain ⟨c, digits, begins⟩ := List.exists_cons_of_ne_nil nonempty
      have digit : Text.isDigit c = true := isDigit_digitRun behind c (by simp [begins])
      refine bare ?_
      rw [same, isPointed_append run, isPointed_cons, after, begins]
      refine ⟨fun _ => by simpa using digit, isPointed_of_not_mem ?_⟩
      rw [← begins, List.mem_append, not_or]
      exact ⟨point_not_mem (isNumeralChar_digitRun behind), noPoint⟩
    rw [digitless, List.nil_append] at after
    subst after
    refine ⟨Text.digitRun text, fun empty => ?_, isDigit_digitRun text, same⟩
    rw [empty, List.nil_append] at same
    rw [same, afterMantissa?] at found
    have noDigits : Text.digitRun ('.' :: behind) = [] := by rw [← same, empty]
    simp [noDigits, digitless] at found

/-- The text of a number with a point that has no digit behind it begins with a number token, the
point, and no digit. -/
theorem exists_number?_barePoint (number : isNumber text = true) (bare : ¬IsPointed (shown text)) :
    ∃ token rest, Token.number? token = some token ∧ shown text = token ++ '.' :: rest ∧
      ∀ c ∈ rest.head?, Text.isDigit c = false := by
  obtain ⟨unsigned, rest, found, tail, shownAs⟩ := shown_cases number
  have minus : '.' ∉ ['-'] := by decide
  have bareUnsigned : ¬IsPointed unsigned := by
    rcases shownAs with ⟨-, same⟩ | ⟨-, same⟩
    · rw [same] at bare
      exact fun pointed => bare ((isPointed_append minus).mpr pointed)
    · rwa [same] at bare
  obtain ⟨digits, nonempty, all, rfl⟩ := exists_barePoint found tail bareUnsigned
  have behind : ∀ c ∈ rest.head?, Text.isDigit c = false := by
    intro c member
    rcases tail with rfl | exponent
    · cases member
    · obtain ⟨others, rfl⟩ := List.head?_eq_some_iff.mp member
      simp only [isExponent, Bool.and_eq_true, Bool.or_eq_true, beq_iff_eq] at exponent
      rcases exponent.1 with rfl | rfl <;> decide
  have whole (negative : Bool) :
      Token.number? ((if negative then ['-'] else []) ++ digits) =
        some ((if negative then ['-'] else []) ++ digits) := by
    have parts : Token.number? (partsText negative digits [] []) =
        some (partsText negative digits [] []) :=
      Token.number?_partsText nonempty all (List.forall_mem_nil _) .none
    simpa only [partsText, fractionText, List.append_nil] using parts
  rcases shownAs with ⟨-, same⟩ | ⟨-, same⟩
  · exact ⟨'-' :: digits, rest, whole true, same, behind⟩
  · exact ⟨digits, rest, whole false, same, behind⟩

end Catalog

/-! ### Points in place of a parenthesis -/

namespace Grammar

/-- No value is a number with a point behind it. -/
theorem ne_number_point_of_literal {argument : List Lexeme} {value : Value}
    (written : Literal argument value) (number : List Char) (behind rest : List Lexeme) :
    argument ++ mark ')' :: behind ≠ Lexeme.number number :: mark '.' :: rest := by
  cases written <;> simp [word, mark, Lexeme.number]

/-- No method has an argument that is a number with a point behind it. -/
theorem ne_point_of_method {lexemes : List Lexeme} {schema schema' : Schema}
    (applied : Method lexemes schema schema') (name : String) (number : List Char)
    (behind rest : List Lexeme) :
    lexemes ++ behind ≠ word name :: mark '(' :: Lexeme.number number :: mark '.' :: rest := by
  have plain (name' : String) : call name' ++ behind ≠
      word name :: mark '(' :: Lexeme.number number :: mark '.' :: rest := by
    simp [call, mark, Lexeme.number]
  have held {argument : List Lexeme} {value : Value} (written : Literal argument value)
      (name' : String) : callWith name' argument ++ behind ≠
        word name :: mark '(' :: Lexeme.number number :: mark '.' :: rest := by
    intro same
    simp only [callWith, List.cons_append, List.append_assoc, List.cons.injEq, true_and] at same
    exact ne_number_point_of_literal written number behind rest same.2
  cases applied with
  | flag => exact plain _
  | nullable => exact plain _
  | optional => exact plain _
  | mode => exact plain _
  | size _ written => exact held written _
  | default written => exact held written _

/-- The constructor of numbers has nothing between its parentheses. -/
theorem arguments_number {name : String} {arguments : List Lexeme} {shape : Shape Schema}
    (constructed : Arguments Expression name arguments shape) (number : name = "number") :
    arguments = [] := by
  cases constructed <;> first | rfl | exact absurd number (by decide)

/-- No expression has a default that is a number with a point behind it. -/
theorem not_expression_of_point (number : List Char) (rest : List Lexeme) (schema : Schema) :
    ¬Expression (construction "number" [] ++ mark '.' :: word "default" :: mark '(' ::
      Lexeme.number number :: mark '.' :: rest) schema := by
  intro derived
  generalize whole : construction "number" [] ++
    mark '.' :: word "default" :: mark '(' :: Lexeme.number number :: mark '.' :: rest =
      lexemes at derived
  cases derived with
  | @construct name arguments methods shape _ constructed decorated =>
    simp only [construction, callWith, List.cons_append, List.nil_append, List.cons.injEq, true_and]
      at whole
    obtain ⟨named, behind⟩ := whole
    have number : name = "number" := by simpa [word] using named.symm
    have none := arguments_number constructed number
    rw [none, List.nil_append, List.cons.injEq] at behind
    rw [← behind.2] at decorated
    generalize called : mark '.' :: word "default" :: mark '(' ::
      Lexeme.number _ :: mark '.' :: rest = calls at decorated
    cases decorated with
    | nil => cases called
    | cons applied others =>
      exact ne_point_of_method applied _ _ _ _ (List.cons.inj called).2.symm

end Grammar

/-! ### Written defaults -/

open Catalog

/-- The text of a number with a default. -/
def numberText (source : List Char) : List Char :=
  constructorText "number" ++ '.' :: ("default".toList ++ '(' :: (source ++ [')']))

/-- A number whose default has a source text is written with that text. -/
theorem Schema.renderChars_number_withDefault {literal : DefaultLiteral} {source : List Char}
    (nonempty : source ≠ []) (text : literal.text = some (String.ofList source)) :
    (Schema.number.withDefault literal).renderChars = .ok (numberText source) := by
  have rendered : literal.render = .ok source := by
    simp [DefaultLiteral.render, text, nonempty]
  have marks : (Schema.number.withDefault literal).decorations.text =
      .ok ('.' :: ("default".toList ++ '(' :: (source ++ [')']))) := by
    simp only [Schema.withDefault, Schema.number, Decorations.text, defaultText, rendered]
    rfl
  exact bind_eq_ok.mpr ⟨_, rfl, bind_eq_ok.mpr ⟨_, marks, rfl⟩⟩

/-- The lexemes of a number whose default is a number token and a point without a digit. -/
theorem lexemes_of_barePoint {token rest : List Char} {lexemes : List Lexeme}
    (whole : Token.number? token = some token) (bare : ∀ c ∈ rest.head?, Text.isDigit c = false)
    (scanned : ofText? (numberText (token ++ '.' :: rest)) = some lexemes) :
    ∃ behind, lexemes = construction "number" [] ++
      mark '.' :: word "default" :: mark '(' :: number token :: mark '.' :: behind := by
  obtain ⟨c, others, begins, digit⟩ :
      ∃ c others, rest ++ [')'] = c :: others ∧ Text.isDigit c = false := by
    cases rest with
    | nil => exact ⟨')', [], rfl, by decide⟩
    | cons c rest => exact ⟨c, rest ++ [')'], rfl, bare c rfl⟩
  have isName : Token.IsName "default".toList := by decide
  have constructor : Token.IsName "number".toList := by decide
  have written (rest : List Char) :=
    Schema.spells_plainConstructor "number" constructor _ (isName.breaks rest)
  rw [numberText, List.append_assoc, List.cons_append, begins, written, join_some] at scanned
  -- The call of the default, and then the digits before the point and the point on its own.
  rw [ofText?_point isName, ofText?_name isName (Token.breaks_stop (by decide) _),
    ofText?_stop (by decide), ofText?_number whole (Token.breaks_point digit _),
    ofText?_barePoint digit] at scanned
  simp only [Option.map_map, Option.map_eq_some_iff] at scanned
  obtain ⟨behind, -, rfl⟩ := scanned
  exact ⟨behind, rfl⟩

/-- A literal is a number, and then has the text that shows it, or it has no text. -/
theorem Catalog.literalOf_cases {text : List Char} {literal : DefaultLiteral}
    (read : literalOf text = .ok literal) :
    (isNumber text = true ∧ literal.text = some (String.ofList (shown text))) ∨
      (Expression.isNumber literal.value = false ∧ literal.text = none) := by
  unfold literalOf at read
  split at read
  · cases read
    exact .inr ⟨rfl, rfl⟩
  · split at read
    · next isNumber =>
      obtain ⟨value, -, same⟩ := bind_eq_ok.mp read
      cases same
      exact .inl ⟨isNumber, rfl⟩
    · split at read
      · cases read
        exact .inr ⟨rfl, rfl⟩
      · split at read <;> cases read <;> exact .inr ⟨rfl, rfl⟩

/-- A number whose default is written with every point followed by a digit is read with the default.
-/
theorem Schema.parse_numberText {text : List Char} {literal : DefaultLiteral}
    (read : literalOf text = .ok literal) (number : Expression.isNumber literal.value = true)
    (shownAs : literal.text = some (String.ofList (shown text))) (nonempty : shown text ≠ [])
    (pointed : IsPointed (shown text)) :
    Schema.parse (String.ofList (numberText (shown text))) =
      .ok (Schema.number.withDefault { value := literal.value }) := by
  have default : literal.IsWritten := by
    refine written_literalOf read (fun content isText => ?_) (fun source member => ?_)
    · rw [isText] at number
      cases number
    · rwa [← Option.some.inj (shownAs.symm.trans member), String.toList_ofList]
  have readable := (written_withDefault (faithful_number.mono fun _ => written_of_faithful)
    default).mono fun _ here => here.1
  have resolved : (Schema.number.withDefault literal).reread.resolved =
      .ok (Schema.number.withDefault { value := literal.value.reread }) := rfl
  obtain ⟨written, rendered, parsed⟩ := parse_render readable resolved
  rw [render, renderChars_number_withDefault nonempty shownAs] at rendered
  rw [← Except.ok.inj rendered, default.2] at parsed
  exact parsed

/-- A number whose default is written with a point that has no digit behind it is not read. -/
theorem Schema.not_parse_numberText {text : List Char} (number : isNumber text = true)
    (bare : ¬IsPointed (shown text)) (schema : Schema) :
    Schema.parse (String.ofList (numberText (shown text))) ≠ .ok schema := by
  intro parsed
  obtain ⟨token, rest, whole, same, behind⟩ := exists_number?_barePoint number bare
  obtain ⟨lexemes, scanned, -, derived⟩ := lexemes_of_parse parsed
  rw [String.toList_ofList, same] at scanned
  obtain ⟨following, rfl⟩ := lexemes_of_barePoint whole behind scanned
  exact Grammar.not_expression_of_point token following schema derived

namespace ColumnDefault

/-- A number with the default that a catalog reports as a number has a text that holds the number as
reported, without a plus before it. The text is read, and then as that number, exactly if every
point in the number has a digit behind it. -/
theorem parse_render_number_iff {raw : String} {literal : DefaultLiteral}
    (read : ofValue (.str raw) = .ok (.present literal))
    (number : Expression.isNumber literal.value = true) :
    ∃ source written, literal.text = some source ∧
      source.toList = shown (stripCasts raw.toList) ∧
      (Schema.number.withDefault literal).render = .ok written ∧
      ∀ schema, Schema.parse written = .ok schema ↔
        IsPointed source.toList ∧
          schema = Schema.number.withDefault { value := literal.value } := by
  have found := ofValue_str_eq_present read
  obtain ⟨isNumber, text⟩ := (literalOf_cases found).resolve_right fun other => by
    rw [other.1] at number
    cases number
  have rendered : (Schema.number.withDefault literal).render =
      .ok (String.ofList (numberText (shown (stripCasts raw.toList)))) := by
    rw [Schema.render, Schema.renderChars_number_withDefault (shown_ne_nil isNumber) text]
    rfl
  refine ⟨_, _, text, String.toList_ofList, rendered, fun schema => ?_⟩
  rw [String.toList_ofList]
  by_cases pointed : IsPointed (shown (stripCasts raw.toList))
  · rw [Schema.parse_numberText found number text (shown_ne_nil isNumber) pointed, Except.ok.injEq,
      eq_comm]
    exact (and_iff_right pointed).symm
  · exact iff_of_false (Schema.not_parse_numberText isNumber pointed schema)
      fun both => pointed both.1

/-- A number that begins with a point, and has a sign and a cast, is written and read back as its
value. -/
theorem parse_render_number_leading :
    ∃ literal source written, ofValue (.str "+.5e1::numeric") = .ok (.present literal) ∧
      literal.value = .float (Numeral.ofText "5.0".toList).toBinary64 ∧
      literal.text = some source ∧ source.toList = ".5e1".toList ∧
      (Schema.number.withDefault literal).render = .ok written ∧
      Schema.parse written = .ok (Schema.number.withDefault { value := literal.value }) := by
  let literal : DefaultLiteral :=
    { value := .float (Numeral.ofText "5.0".toList).toBinary64, text := some ".5e1" }
  have read : ofValue (.str "+.5e1::numeric") = .ok (.present literal) := by decide +kernel
  have bare : shown (stripCasts "+.5e1::numeric".toList) = ".5e1".toList := by decide +kernel
  obtain ⟨source, written, text, same, rendered, parsed⟩ := parse_render_number_iff read rfl
  have pointed : IsPointed source.toList := by
    rw [same, bare]
    decide
  exact ⟨literal, source, written, read, rfl, text, same.trans bare, rendered,
    (parsed _).mpr ⟨pointed, rfl⟩⟩

/-- A number that ends in a point is written with the point, and then not read. -/
theorem parse_render_number_trailing :
    ∃ literal, ofValue (.str "1.") = .ok (.present literal) ∧
      literal.value = .float (Numeral.ofText "1.0".toList).toBinary64 ∧
      (Schema.number.withDefault literal).render = .ok "z.number().default(1.)" ∧
      (Schema.parse "z.number().default(1.)").toOption = none := by
  refine ⟨{ value := .float (Numeral.ofText "1.0".toList).toBinary64, text := some "1." }, ?_⟩
  exact ⟨by decide +kernel, rfl, ok_of_toOption (by decide +kernel), by decide +kernel⟩

end ColumnDefault

end TableSchema
