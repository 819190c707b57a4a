import TableSchema.Proofs.Token.Lexeme
import TableSchema.Proofs.Token.Truncation

/-! # How a text is cut

`Token.Cut` cuts a text one blank or token after another, and keeps count of the places. A scan
follows the cuts of its text (`Token.Cut.scanFrom_eq`), and every text has a cut that reaches its
end or a character at which no token begins (`Token.exists_cut`).
-/

namespace TableSchema

namespace Token

/-- A text that stands at a place is cut into tokens up to another place, where the rest stands. -/
inductive Cut : Nat → List Char → List Token → Nat → List Char → Prop
  | nil (place : Nat) (rest : List Char) : Cut place rest [] place rest
  | blank {place last : Nat} {c : Char} {text rest : List Char} {tokens : List Token}
      (blank : Text.isBlank c = true) (others : Cut (place + 1) text tokens last rest) :
      Cut place (c :: text) tokens last rest
  | token {place last : Nat} {taken text rest : List Char} {group : Group} {tokens : List Token}
      (solid : ∀ c ∈ taken.head?, Text.isBlank c = false)
      (read : lexeme? (taken ++ text) = some (group, taken))
      (others : Cut (place + taken.length) text tokens last rest) :
      Cut place (taken ++ text) (⟨group, String.ofList taken, place⟩ :: tokens) last rest

/-! ### Scans follow cuts -/

/-- A blank is passed over. -/
theorem scanFrom_blank {c : Char} (blank : Text.isBlank c = true) (place : Nat)
    (rest : List Char) : scanFrom place 0 (c :: rest) = scanFrom (place + 1) 0 rest := by
  rw [scanFrom, if_pos blank]

/-- Covered characters are passed over. -/
theorem scanFrom_covered (taken rest : List Char) (place : Nat) :
    scanFrom place taken.length (taken ++ rest) = scanFrom (place + taken.length) 0 rest := by
  induction taken generalizing place with
  | nil => rfl
  | cons c taken hypothesis =>
    rw [List.cons_append, List.length_cons, scanFrom, hypothesis]
    congr 1
    omega

/-- A lexeme is taken as a token at its place. -/
theorem scanFrom_taken {taken rest : List Char} {group : Group}
    (solid : ∀ c ∈ taken.head?, Text.isBlank c = false)
    (read : lexeme? (taken ++ rest) = some (group, taken)) (place : Nat) :
    scanFrom place 0 (taken ++ rest) = (scanFrom (place + taken.length) 0 rest).map
      (⟨group, String.ofList taken, place⟩ :: ·) := by
  obtain ⟨c, inner, rfl⟩ := List.exists_cons_of_ne_nil (lexeme?_ne_nil read)
  have solid : ¬Text.isBlank c = true := by simp [solid c rfl]
  have behind : scanFrom (place + 1) inner.length (inner ++ rest) =
      scanFrom (place + (c :: inner).length) 0 rest := by
    rw [scanFrom_covered, List.length_cons, Nat.add_assoc, Nat.add_comm 1 inner.length]
  rw [List.cons_append] at read ⊢
  rw [scanFrom, if_neg solid, read]
  dsimp only
  rw [List.length_cons, Nat.add_sub_cancel, behind]
  cases scanFrom (place + (c :: inner).length) 0 rest <;> rfl

variable {place last : Nat} {text rest : List Char} {tokens : List Token}

/-- A scan finds the tokens of a cut, and goes on with the rest. -/
theorem Cut.scanFrom_eq (cut : Cut place text tokens last rest) :
    scanFrom place 0 text = (scanFrom last 0 rest).map (tokens ++ ·) := by
  induction cut with
  | nil place rest => cases scanFrom place 0 rest <;> rfl
  | blank blank others hypothesis => rw [scanFrom_blank blank, hypothesis]
  | @token place last taken text rest group tokens solid read others hypothesis =>
    rw [scanFrom_taken solid read, hypothesis]
    cases scanFrom last 0 rest <;> rfl

/-- A cut leaves off where the text that it has passed ends. -/
theorem Cut.exists_passed (cut : Cut place text tokens last rest) :
    ∃ passed, text = passed ++ rest ∧ last = place + passed.length := by
  induction cut with
  | nil place rest => exact ⟨[], rfl, rfl⟩
  | @blank place last c text rest tokens blank others hypothesis =>
    obtain ⟨passed, rfl, rfl⟩ := hypothesis
    exact ⟨c :: passed, rfl, by rw [List.length_cons]; omega⟩
  | @token place last taken text rest group tokens solid read others hypothesis =>
    obtain ⟨passed, rfl, rfl⟩ := hypothesis
    exact ⟨taken ++ passed, by rw [List.append_assoc], by rw [List.length_append]; omega⟩

/-- Cuts one behind the other make one cut. -/
theorem Cut.trans {last' : Nat} {rest' : List Char} {tokens' : List Token}
    (cut : Cut place text tokens last rest) (cut' : Cut last rest tokens' last' rest') :
    Cut place text (tokens ++ tokens') last' rest' := by
  induction cut with
  | nil place rest => exact cut'
  | blank blank others hypothesis => exact .blank blank (hypothesis cut')
  | token solid read others hypothesis => exact .token solid read (hypothesis cut')

/-- Blanks are cut into no tokens. -/
theorem cut_blanks {blanks : List Char} (blank : ∀ c ∈ blanks, Text.isBlank c = true)
    (place : Nat) (rest : List Char) :
    Cut place (blanks ++ rest) [] (place + blanks.length) rest := by
  induction blanks generalizing place with
  | nil => exact .nil place rest
  | cons c blanks hypothesis =>
    obtain ⟨first, others⟩ := List.forall_mem_cons.mp blank
    have := hypothesis others (place + 1)
    rw [show place + (c :: blanks).length = place + 1 + blanks.length by
      rw [List.length_cons]; omega]
    exact .blank first this

/-- No token begins with a character. -/
def IsStray (rest : List Char) : Prop :=
  ∃ c after, rest = c :: after ∧ Text.isBlank c = false ∧ lexeme? rest = none

/-- Every text has a cut that reaches its end or a character at which no token begins. -/
theorem exists_cut (place : Nat) (text : List Char) :
    ∃ tokens last rest, Cut place text tokens last rest ∧ (rest = [] ∨ IsStray rest) := by
  induction length : text.length using Nat.strongRecOn generalizing place text with
  | ind size hypothesis =>
    subst length
    cases text with
    | nil => exact ⟨[], place, [], .nil place [], .inl rfl⟩
    | cons c after =>
      cases blank : Text.isBlank c with
      | true =>
        obtain ⟨tokens, last, rest, cut, ends⟩ :=
          hypothesis after.length (by simp) (place + 1) after rfl
        exact ⟨tokens, last, rest, .blank blank cut, ends⟩
      | false =>
        cases read : lexeme? (c :: after) with
        | none => exact ⟨[], place, c :: after, .nil place _, .inr ⟨c, after, rfl, blank, read⟩⟩
        | some found =>
          obtain ⟨group, taken⟩ := found
          obtain ⟨others, same⟩ := lexeme?_isPrefix read
          have positive := List.length_pos_iff.mpr (lexeme?_ne_nil read)
          have shorter : others.length < (c :: after).length := by
            rw [← same, List.length_append]
            omega
          have solid : ∀ d ∈ taken.head?, Text.isBlank d = false := by
            obtain ⟨d, inner, rfl⟩ := List.exists_cons_of_ne_nil (lexeme?_ne_nil read)
            cases same
            simpa using blank
          obtain ⟨tokens, last, rest, cut, ends⟩ :=
            hypothesis others.length shorter (place + taken.length) others rfl
          rw [← same] at read ⊢
          exact ⟨_, last, rest, .token solid read cut, ends⟩

/-- Where no lexeme begins, the character is stray. -/
theorem scanFrom_stray {c : Char} {after : List Char} (solid : Text.isBlank c = false)
    (none : lexeme? (c :: after) = none) (place : Nat) :
    scanFrom place 0 (c :: after) = .error ⟨c, place⟩ := by
  rw [scanFrom, if_neg (by simp [solid]), none]

/-- A scan succeeds with the tokens of a cut that reaches the end. -/
theorem scanFrom_eq_ok_iff : scanFrom place 0 text = .ok tokens ↔
    Cut place text tokens (place + text.length) [] := by
  constructor
  · intro scanned
    obtain ⟨tokens', last, rest, cut, rfl | ⟨c, after, rfl, solid, none⟩⟩ := exists_cut place text
    · obtain ⟨passed, same, rfl⟩ := cut.exists_passed
      rw [List.append_nil] at same
      subst same
      rw [cut.scanFrom_eq] at scanned
      have same : tokens' ++ [] = tokens := Except.ok.inj scanned
      rw [List.append_nil] at same
      rwa [same] at cut
    · rw [cut.scanFrom_eq, scanFrom_stray solid none] at scanned
      cases scanned
  · intro cut
    rw [cut.scanFrom_eq]
    exact congrArg Except.ok (List.append_nil tokens)

/-- A scan fails at a character where a cut stops because no token begins there. -/
theorem scanFrom_eq_error_iff {stray : StrayCharacter} : scanFrom place 0 text = .error stray ↔
    ∃ tokens after, Cut place text tokens stray.offset (stray.char :: after) ∧
      Text.isBlank stray.char = false ∧ lexeme? (stray.char :: after) = none := by
  constructor
  · intro scanned
    obtain ⟨tokens, last, rest, cut, rfl | ⟨c, after, rfl, solid, none⟩⟩ := exists_cut place text
    · rw [cut.scanFrom_eq] at scanned
      cases scanned
    · rw [cut.scanFrom_eq, scanFrom_stray solid none] at scanned
      cases scanned
      exact ⟨tokens, after, cut, solid, none⟩
  · rintro ⟨tokens, after, cut, solid, none⟩
    rw [cut.scanFrom_eq, scanFrom_stray solid none]
    rfl

end Token

end TableSchema
