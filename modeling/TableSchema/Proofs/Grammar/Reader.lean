import TableSchema.Proofs.Grammar

/-! # What readers take

The readers of single tokens succeed on exactly the tokens whose lexemes the grammar names. That
holds of tokens that come from a text (`Lexeme.IsProper`, `Token.isProper_of_scan`): there no number
and no name is spelled like a punctuation character, and an integer is a sign with digits.
-/

namespace TableSchema

namespace Lexeme

open Token

/-- What every lexeme of a text satisfies. -/
structure IsProper (lexeme : Lexeme) : Prop where
  /-- Only punctuation and strings are spelled like a punctuation character. -/
  marks : ∀ c ∈ punctuation, lexeme.text = String.ofList [c] →
    lexeme.group = .string ∨ lexeme.group = .punctuation
  /-- An integer is an optional minus and digits. -/
  integers : lexeme.group = .number → Numeral.isIntegral lexeme.text.toList = true →
    ∃ negative digits, lexeme.text.toList = Numeral.partsText negative digits [] [] ∧
      digits ≠ [] ∧ ∀ c ∈ digits, Text.isDigit c = true

/-- An integral number is integral in both of its parts. -/
theorem isIntegral_append {first second : List Char}
    (integral : Numeral.isIntegral (first ++ second) = true) :
    Numeral.isIntegral first = true ∧ Numeral.isIntegral second = true := by
  simpa [Numeral.isIntegral, List.any_append] using integral

/-- An integral number has no point and no exponent. -/
theorem isIntegral_cons {c : Char} {rest : List Char}
    (integral : Numeral.isIntegral (c :: rest) = true) :
    c ≠ '.' ∧ c ≠ 'e' ∧ c ≠ 'E' ∧ Numeral.isIntegral rest = true := by
  simpa [Numeral.isIntegral, not_or, and_assoc] using integral

/-- An integral number without a sign is a row of digits. -/
theorem unsigned?_integral {text number : List Char} (read : unsigned? text = some number)
    (integral : Numeral.isIntegral number = true) :
    number ≠ [] ∧ ∀ c ∈ number, Text.isDigit c = true := by
  obtain ⟨mantissa, found, rfl⟩ := Option.map_eq_some_iff.mp read
  obtain ⟨whole, mark⟩ := isIntegral_append integral
  have noExponent : (exponent? (text.drop mantissa.length)).getD [] = [] := by
    cases read : exponent? (text.drop mantissa.length) with
    | none => rfl
    | some exponent =>
      rw [read, Option.getD_some] at mark
      unfold exponent? at read
      split at read
      · split at read
        · next c rest marked =>
          obtain ⟨digits, -, rfl⟩ := Option.map_eq_some_iff.mp read
          obtain ⟨-, lower, upper, -⟩ := isIntegral_cons mark
          exact absurd marked (by simp [lower, upper])
        · cases read
      · cases read
  have noFraction {text fraction : List Char} (read : fraction? text = some fraction) :
      Numeral.isIntegral fraction = false := by
    unfold fraction? at read
    split at read
    · split at read
      · cases read
      · cases read
        simp [Numeral.isIntegral]
    · cases read
  rw [noExponent, List.append_nil]
  unfold mantissa? at found
  split at found
  · rw [noFraction found] at whole
    cases whole
  · next nonempty =>
    cases found
    obtain ⟨-, point⟩ := isIntegral_append whole
    cases read : fraction? (text.drop (Text.digitRun text).length) with
    | some fraction =>
      rw [read, Option.getD_some, noFraction read] at point
      cases point
    | none =>
      rw [Option.getD_none, List.append_nil]
      exact ⟨nonempty, fun c member => List.all_eq_true.mp List.all_takeWhile c member⟩

/-- An integral number is a row of digits with a minus in front perhaps. -/
theorem number?_integral {text number : List Char} (read : number? text = some number)
    (integral : Numeral.isIntegral number = true) :
    ∃ negative digits, number = Numeral.partsText negative digits [] [] ∧ digits ≠ [] ∧
      ∀ c ∈ digits, Text.isDigit c = true := by
  unfold number? at read
  split at read
  · obtain ⟨digits, found, rfl⟩ := Option.map_eq_some_iff.mp read
    exact ⟨true, digits, by simp [Numeral.partsText, Numeral.fractionText],
      unsigned?_integral found (isIntegral_cons integral).2.2.2⟩
  · exact ⟨false, number, by simp [Numeral.partsText, Numeral.fractionText],
      unsigned?_integral read integral⟩

/-- What is taken as a lexeme is proper. -/
theorem isProper_of_lexeme? {text taken : List Char} {group : Group}
    (read : lexeme? text = some (group, taken)) : IsProper ⟨group, String.ofList taken⟩ where
  marks c known spelled := by
    obtain rfl := String.ofList_injective spelled
    exact lexeme?_punctuation read known
  integers isNumber integral := by
    obtain rfl : group = .number := isNumber
    rcases lexeme?_eq_some read with ⟨-, found⟩ | ⟨other, -⟩ | ⟨other, -⟩ | ⟨other, -⟩
    · simp only [String.toList_ofList] at integral ⊢
      exact number?_integral found integral
    all_goals cases other

/-- The lexemes of a text are proper. -/
theorem isProper_of_ofText? {text : List Char} {lexemes : List Lexeme}
    (scanned : ofText? text = some lexemes) : ∀ lexeme ∈ lexemes, lexeme.IsProper := by
  induction scanned_of_ofText? scanned with
  | nil => simp
  | blank blank others hypothesis =>
    rw [ofText?_blank blank] at scanned
    exact hypothesis scanned
  | token solid read others hypothesis =>
    rw [ofText?_token solid read] at scanned
    obtain ⟨following, scanned, same⟩ := Option.map_eq_some_iff.mp scanned
    cases same
    exact List.forall_mem_cons.mpr ⟨isProper_of_lexeme? read, hypothesis scanned⟩

/-- A number is read as what it writes, unless it is an integer of too many digits. -/
theorem value_eq_ok {text : String} (proper : IsProper ⟨.number, text⟩) {value : Value} :
    Numeral.value text.toList = .ok value ↔
      value = numeral text ∧ IsShort ⟨.number, text⟩ := by
  unfold Numeral.value numeral IsShort
  cases integral : Numeral.isIntegral text.toList with
  | false => simp [eq_comm]
  | true =>
    obtain ⟨negative, digits, same, nonempty, all⟩ := proper.integers rfl integral
    have parts : Numeral.ofText (Numeral.partsText negative digits [] []) =
        ⟨negative, digits, [], 0⟩ :=
      Numeral.ofText_partsText nonempty all (by simp) .none
    have count : (Numeral.partsText negative digits [] []).filter Text.isDigit = digits := by
      have sign : (if negative then ['-'] else []).filter Text.isDigit = [] := by
        cases negative <;> decide
      simp [Numeral.partsText, Numeral.fractionText, List.filter_append, sign,
        List.filter_eq_self.mpr all]
    simp only [same, parts, count, Numeral.toInt]
    by_cases long : integerDigitLimit < digits.length
    · simp [long, Nat.not_le.mpr long, Functor.map, Except.map]
    · simp [long, Nat.not_lt.mp long, Functor.map, Except.map, eq_comm]

end Lexeme

namespace Expression

open Lexeme Grammar

variable {α β : Type} {tokens rest : List Token}

/-! ### Steps of readers -/

/-- Two readers in a row succeed exactly if the second does on what the first leaves. -/
theorem bind_eq_ok {reader : Reader α} {following : α → Reader β} {result : β} :
    (reader >>= following) tokens = .ok (result, rest) ↔
      ∃ found middle, reader tokens = .ok (found, middle) ∧
        following found middle = .ok (result, rest) := by
  show (StateT.bind reader following tokens) = _ ↔ _
  rw [StateT.bind]
  cases reader tokens with
  | error halt => simp [bind, Except.bind]
  | ok taken =>
    constructor
    · exact fun read => ⟨taken.1, taken.2, rfl, read⟩
    · rintro ⟨found, middle, same, read⟩
      cases same
      exact read

/-- To give a result back takes nothing. -/
theorem pure_eq_ok {value result : α} :
    (pure value : Reader α) tokens = .ok (result, rest) ↔ value = result ∧ tokens = rest := by
  show Except.ok (value, tokens) = _ ↔ _
  simp

/-- A reader that fails does not succeed. -/
theorem throw_ne_ok {halt : Halt} {result : α} :
    ¬(throw halt : Reader α) tokens = .ok (result, rest) := by
  intro same
  cases same

theorem refuse_ne_ok {token : Token} {fault : Fault} {result : α} :
    ¬(refuse token fault : Reader α) tokens = .ok (result, rest) := throw_ne_ok

/-- The next token is the first one left. -/
theorem next_eq_ok {token : Token} :
    (next : Reader Token) tokens = .ok (token, rest) ↔ tokens = token :: rest := by
  cases tokens with
  | nil => simp [next]
  | cons first others => simp [next]

theorem sees_bind {text : String} {following : Bool → Reader β} :
    ((sees text : Reader Bool) >>= following) tokens =
      following (tokens.head?.any (isWord text)) tokens := rfl

/-- What is seen is the first token left. -/
theorem sees_eq_ok {text : String} {seen : Bool} :
    (sees text : Reader Bool) tokens = .ok (seen, rest) ↔
      tokens.head?.any (isWord text) = seen ∧ tokens = rest := by
  simp [sees]

/-- A name is taken exactly where one stands. -/
theorem name_eq_ok {token : Token} :
    (name : Reader Token) tokens = .ok (token, rest) ↔
      tokens = token :: rest ∧ token.group = .name := by
  simp only [name, bind_eq_ok, next_eq_ok]
  constructor
  · rintro ⟨found, middle, rfl, taken⟩
    split at taken
    · next isName =>
      obtain ⟨rfl, rfl⟩ := pure_eq_ok.mp taken
      exact ⟨rfl, isName⟩
    · exact absurd taken refuse_ne_ok
  · rintro ⟨rfl, isName⟩
    exact ⟨token, rest, rfl, by rw [if_pos isName]; rfl⟩

/-- A key is taken exactly where one of the grammar stands. -/
theorem key_eq_ok {fault : String → Fault} {text : String} :
    (key fault : Reader String) tokens = .ok (text, rest) ↔
      ∃ token, tokens = token :: rest ∧ Key token.lexeme text := by
  simp only [key, bind_eq_ok, next_eq_ok]
  constructor
  · rintro ⟨⟨group, spelled, offset⟩, middle, rfl, taken⟩
    cases group with
    | string =>
      obtain ⟨rfl, rfl⟩ := pure_eq_ok.mp taken
      exact ⟨_, rfl, .string spelled⟩
    | name =>
      obtain ⟨rfl, rfl⟩ := pure_eq_ok.mp taken
      exact ⟨_, rfl, .name spelled⟩
    | number => exact absurd taken refuse_ne_ok
    | punctuation => exact absurd taken refuse_ne_ok
  · rintro ⟨⟨group, spelled, offset⟩, rfl, named⟩
    refine ⟨_, _, rfl, ?_⟩
    cases named <;> rfl

/-! ### Loops -/

/-- One more pass of the loop over items, with the item and the comma of the pass in sequence. -/
theorem separated_succ (close : String) (item : Reader α) (bound : Nat) :
    separated close item (bound + 1) = (do
      if ← sees close then
        expect close
        return []
      else
        let first ← item
        if !(← sees close) then expect ","
        return first :: (← separated close item bound)) := by
  rw [separated, itemLoop]
  refine bind_congr fun closed => ?_
  cases closed with
  | true => rfl
  | false =>
    simp only [Bool.false_eq_true, if_false, entry, bind_assoc]
    refine bind_congr fun first => bind_congr fun closed => ?_
    cases closed with
    | true => simp
    | false => simp

/-- One more pass of the loop over methods, with the point and the method in sequence. -/
theorem methods_succ (bound : Nat) (schema : Schema) :
    methods (bound + 1) schema = (do
      if ← sees "." then
        let _ ← next
        methods bound (← method value schema)
      else return schema) := by
  rw [methods, methodLoop]
  refine bind_congr fun pointed => ?_
  cases pointed with
  | true => simp only [if_true, step, bind_assoc]
  | false => rfl

/-! ### Punctuation -/

/-- A proper token is a punctuation character exactly if its lexeme is. -/
theorem isWord_mark {token : Token} (proper : token.lexeme.IsProper) {c : Char}
    (known : c ∈ Token.punctuation) :
    isWord (String.ofList [c]) token = true ↔ token.lexeme = mark c := by
  simp only [isWord, bne_iff_ne, ne_eq, Bool.and_eq_true, beq_iff_eq, mark, Token.lexeme,
    Lexeme.mk.injEq]
  constructor
  · rintro ⟨isString, spelled⟩
    exact ⟨(proper.marks c known spelled).resolve_left isString, spelled⟩
  · rintro ⟨isPunctuation, spelled⟩
    exact ⟨by simp [isPunctuation], spelled⟩

/-- A punctuation character is taken exactly where it stands. -/
theorem expect_eq_ok (proper : ∀ token ∈ tokens, token.lexeme.IsProper) {c : Char}
    (known : c ∈ Token.punctuation) {result : Unit} :
    (expect (String.ofList [c]) : Reader Unit) tokens = .ok (result, rest) ↔
      ∃ token, tokens = token :: rest ∧ token.lexeme = mark c := by
  simp only [expect, bind_eq_ok, next_eq_ok]
  constructor
  · rintro ⟨found, middle, rfl, taken⟩
    split at taken
    · next same =>
      obtain ⟨-, rfl⟩ := pure_eq_ok.mp taken
      exact ⟨found, rfl, (isWord_mark (proper found (List.mem_cons_self ..)) known).mp same⟩
    · exact absurd taken refuse_ne_ok
  · rintro ⟨token, rfl, same⟩
    refine ⟨token, rest, rfl, ?_⟩
    rw [if_pos ((isWord_mark (proper token (List.mem_cons_self ..)) known).mpr same)]
    rfl

/-- Whether the first token is a punctuation character. -/
def Leads (c : Char) (tokens : List Token) : Prop :=
  ∃ token rest, tokens = token :: rest ∧ token.lexeme = mark c

/-- A punctuation character is seen exactly where it stands. -/
theorem head?_any_isWord (proper : ∀ token ∈ tokens, token.lexeme.IsProper) {c : Char}
    (known : c ∈ Token.punctuation) :
    tokens.head?.any (isWord (String.ofList [c])) = true ↔ Leads c tokens := by
  cases tokens with
  | nil => simp [Leads]
  | cons token rest =>
    simp only [List.head?_cons, Option.any_some,
      isWord_mark (proper token (List.mem_cons_self ..)) known]
    constructor
    · exact fun same => ⟨token, rest, rfl, same⟩
    · rintro ⟨first, others, same, isMark⟩
      cases same
      exact isMark

end Expression

end TableSchema
