import TableSchema.Proofs.Token.Extent

/-! # The lexemes of a text

A lexeme is a token without its place. `Lexeme.ofText?` gives the lexemes of a text that scans, and
they do not depend on where the text stands (`Lexeme.ofText?_eq_some_iff`). A text that follows a
scanned one adds its own lexemes and changes none of those before it (`Lexeme.ofText?_append`).
-/

namespace TableSchema

/-- A token without its place. -/
structure Lexeme where
  group : Token.Group
  text : String
deriving DecidableEq

/-- The lexeme of a token. -/
def Token.lexeme (token : Token) : Lexeme where
  group := token.group
  text := token.text

namespace Lexeme

open Token

/-- The lexemes of a text, if it can be cut into tokens. -/
def ofText? (text : List Char) : Option (List Lexeme) :=
  (scanFrom 0 0 text).toOption.map (·.map Token.lexeme)

theorem scanFrom_token {c : Char} {rest taken : List Char} {group : Group}
    (solid : Text.isBlank c = false) (read : lexeme? (c :: rest) = some (group, taken))
    (offset : Nat) :
    (scanFrom offset 0 (c :: rest)).toOption.map (·.map Token.lexeme) =
      ((scanFrom (offset + 1) (taken.length - 1) rest).toOption.map (·.map Token.lexeme)).map
        (⟨group, String.ofList taken⟩ :: ·) := by
  rw [scanFrom, if_neg (by simp [solid]), read]
  dsimp only
  cases scanFrom (offset + 1) (taken.length - 1) rest <;> rfl

/-- Lexemes do not depend on the place of the text, and covered characters add none. -/
theorem scanFrom_eq_ofText? (text : List Char) (offset covered : Nat) :
    (scanFrom offset covered text).toOption.map (·.map Token.lexeme) =
      ofText? (text.drop covered) := by
  induction text generalizing offset covered with
  | nil => cases covered <;> rfl
  | cons c rest hypothesis =>
    cases covered with
    | succ covered =>
      rw [List.drop_succ_cons, scanFrom]
      exact hypothesis (offset + 1) covered
    | zero =>
      rw [List.drop_zero, ofText?]
      cases blank : Text.isBlank c with
      | true =>
        rw [scanFrom, if_pos blank, scanFrom, if_pos blank, hypothesis, hypothesis]
      | false =>
        cases read : lexeme? (c :: rest) with
        | none =>
          rw [scanFrom, if_neg (by simp [blank]), read, scanFrom, if_neg (by simp [blank]), read]
          rfl
        | some found =>
          obtain ⟨group, taken⟩ := found
          rw [scanFrom_token blank read, scanFrom_token blank read, hypothesis, hypothesis]

/-- A text has the given lexemes when it scans to tokens with these lexemes. -/
theorem ofText?_eq_some_iff {text : String} {lexemes : List Lexeme} :
    ofText? text.toList = some lexemes ↔
      ∃ tokens, scan text = .ok tokens ∧ tokens.map Token.lexeme = lexemes := by
  unfold ofText? scan
  cases scanFrom 0 0 text.toList <;> simp [Except.toOption]

@[simp] theorem ofText?_nil : ofText? [] = some [] := rfl

/-- A blank adds no lexeme. -/
theorem ofText?_blank {c : Char} (blank : Text.isBlank c = true) (rest : List Char) :
    ofText? (c :: rest) = ofText? rest := by
  rw [ofText?, scanFrom, if_pos blank, scanFrom_eq_ofText?, List.drop_zero]

/-- A token adds its lexeme. -/
theorem ofText?_token {taken rest : List Char} {group : Group}
    (solid : ∀ c ∈ taken.head?, Text.isBlank c = false)
    (read : lexeme? (taken ++ rest) = some (group, taken)) :
    ofText? (taken ++ rest) = (ofText? rest).map (⟨group, String.ofList taken⟩ :: ·) := by
  obtain ⟨c, inner, rfl⟩ := List.exists_cons_of_ne_nil (lexeme?_ne_nil read)
  have behind : (inner ++ rest).drop ((c :: inner).length - 1) = rest := by
    rw [List.length_cons, Nat.add_sub_cancel, List.drop_left]
  rw [List.cons_append] at read ⊢
  rw [ofText?, scanFrom_token (solid c rfl) read, scanFrom_eq_ofText?, behind]

theorem ofText?_stray {c : Char} {rest : List Char} (solid : Text.isBlank c = false)
    (read : lexeme? (c :: rest) = none) : ofText? (c :: rest) = none := by
  rw [ofText?, scanFrom, if_neg (by simp [solid]), read]
  rfl

/-- How a text is cut into lexemes, one blank or token after another. -/
inductive Scanned : List Char → List Lexeme → Prop
  | nil : Scanned [] []
  | blank {c : Char} {rest : List Char} {lexemes : List Lexeme} (blank : Text.isBlank c = true)
      (others : Scanned rest lexemes) : Scanned (c :: rest) lexemes
  | token {taken rest : List Char} {group : Group} {lexemes : List Lexeme}
      (solid : ∀ c ∈ taken.head?, Text.isBlank c = false)
      (read : lexeme? (taken ++ rest) = some (group, taken)) (others : Scanned rest lexemes) :
      Scanned (taken ++ rest) (⟨group, String.ofList taken⟩ :: lexemes)

theorem scanned_of_ofText? {text : List Char} {lexemes : List Lexeme}
    (scanned : ofText? text = some lexemes) : Scanned text lexemes := by
  induction length : text.length using Nat.strongRecOn generalizing text lexemes with
  | ind size hypothesis =>
    cases text with
    | nil =>
      cases scanned
      exact .nil
    | cons c after =>
      cases blank : Text.isBlank c with
      | true =>
        rw [ofText?_blank blank] at scanned
        refine .blank blank (hypothesis after.length ?_ scanned rfl)
        rw [← length, List.length_cons]
        omega
      | false =>
        cases read : lexeme? (c :: after) with
        | none => rw [ofText?_stray blank read] at scanned; cases scanned
        | some found =>
          obtain ⟨group, taken⟩ := found
          obtain ⟨others, same⟩ := lexeme?_isPrefix read
          have solid : ∀ d ∈ taken.head?, Text.isBlank d = false := by
            obtain ⟨d, inner, rfl⟩ := List.exists_cons_of_ne_nil (lexeme?_ne_nil read)
            cases same
            simpa using blank
          have shorter : others.length < size := by
            have positive := List.length_pos_iff.mpr (lexeme?_ne_nil read)
            rw [← length, ← same, List.length_append]
            omega
          rw [← same] at read scanned ⊢
          rw [ofText?_token solid read] at scanned
          obtain ⟨following, scannedAfter, rfl⟩ := Option.map_eq_some_iff.mp scanned
          exact .token solid read (hypothesis others.length shorter scannedAfter rfl)

/-- Text after a break adds its lexemes to those of the text before it. -/
theorem ofText?_append {text rest : List Char} {lexemes : List Lexeme} (breaks : Breaks rest)
    (scanned : ofText? text = some lexemes) :
    ofText? (text ++ rest) = (ofText? rest).map (lexemes ++ ·) := by
  induction scanned_of_ofText? scanned with
  | nil => simp
  | blank blank others hypothesis =>
    rw [ofText?_blank blank] at scanned
    rw [List.cons_append, ofText?_blank blank, hypothesis scanned]
  | token solid read others hypothesis =>
    rw [ofText?_token solid read] at scanned
    obtain ⟨following, scanned, same⟩ := Option.map_eq_some_iff.mp scanned
    cases same
    have again := lexeme?_append breaks read
    rw [List.append_assoc] at again ⊢
    rw [ofText?_token solid again, hypothesis scanned]
    cases ofText? rest <;> rfl

end Lexeme

end TableSchema
