import TableSchema.Proofs.Token.Cut

/-! # Tokens and blanks cover a text

`Token.Tiles` says, without saying how a text is scanned, that tokens lie side by side between two
places of a text, each the lexeme that begins there, with nothing but blanks around them. The tokens
of a text are the only ones that tile it (`Token.scan_eq_ok_iff`), and a scan fails at the first
place behind which no tokens tile the text (`Token.scan_eq_error_iff`).
-/

namespace TableSchema

namespace Token

/-- The place behind a token. -/
def reach (token : Token) : Nat :=
  token.offset + token.text.length

/-- Tokens lie side by side between two places of a text, with blanks around them. -/
structure Tiles (text : List Char) (first : Nat) (tokens : List Token) (last : Nat) : Prop where
  inside : ∀ token ∈ tokens, first ≤ token.offset ∧ token.reach ≤ last
  nonempty : ∀ token ∈ tokens, token.text ≠ ""
  /-- Offsets increase, and no token reaches into another. -/
  ordered : tokens.Pairwise fun token next => token.offset < next.offset ∧ token.reach ≤ next.offset
  /-- A token has the text of its place. -/
  slice : ∀ token ∈ tokens,
    (text.drop token.offset).take token.text.length = token.text.toList
  /-- A token is the lexeme that begins at its place. -/
  read : ∀ token ∈ tokens,
    lexeme? (text.drop token.offset) = some (token.group, token.text.toList)
  blank : ∀ place c, first ≤ place → place < last → text[place]? = some c →
    (∀ token ∈ tokens, place < token.offset ∨ token.reach ≤ place) → Text.isBlank c = true
  first_le : first ≤ last
  last_le : last ≤ text.length

/-- No lexeme begins with a blank. -/
theorem solid_of_lexeme? {c : Char} {rest taken : List Char} {group : Group}
    (read : lexeme? (c :: rest) = some (group, taken)) : Text.isBlank c = false := by
  cases blank : Text.isBlank c with
  | false => rfl
  | true =>
    have digit : Text.isDigit c = false := by
      cases digit : Text.isDigit c with
      | false => rfl
      | true =>
        rw [Text.isBlank_of_isDigit digit] at blank
        cases blank
    have start : ¬Text.isKeyStart c = true := by
      intro start
      rw [Text.isBlank_of_isKeyStart start] at blank
      cases blank
    have apart (d : Char) (solid : Text.isBlank d = false) : c ≠ d := by
      rintro rfl
      rw [solid] at blank
      cases blank
    have number : number? (c :: rest) = none :=
      number?_eq_none digit (apart _ (by decide)) (apart _ (by decide)) rest
    have quote : ¬(c = '\x27' ∨ c = '"') :=
      not_or.mpr ⟨apart _ (by decide), apart _ (by decide)⟩
    have mark : c ∉ punctuation := by
      intro mark
      have solid : ∀ c ∈ punctuation, Text.isBlank c = false := Text.forall_of_all (by decide)
      exact apart c (solid c mark) rfl
    rw [lexeme?_of_mark number quote start, punctuation?, if_neg mark] at read
    cases read

namespace Tiles

variable {text : List Char} {first last : Nat} {tokens : List Token}

theorem nil {place : Nat} (inside : place ≤ text.length) : Tiles text place [] place where
  inside := by simp
  nonempty := by simp
  ordered := .nil
  slice := by simp
  read := by simp
  blank := by omega
  first_le := Nat.le_refl place
  last_le := inside

theorem blank_cons {c : Char} (here : text[first]? = some c) (isBlank : Text.isBlank c = true)
    (tiles : Tiles text (first + 1) tokens last) : Tiles text first tokens last where
  inside token member := by
    have := tiles.inside token member
    omega
  nonempty := tiles.nonempty
  ordered := tiles.ordered
  slice := tiles.slice
  read := tiles.read
  blank place d from_ below found apart := by
    rcases Nat.eq_or_lt_of_le from_ with rfl | later
    · cases here.symm.trans found
      exact isBlank
    · exact tiles.blank place d later below found apart
  first_le := by
    have := tiles.first_le
    omega
  last_le := tiles.last_le

theorem token_cons {taken : List Char} {group : Group}
    (read : lexeme? (text.drop first) = some (group, taken))
    (tiles : Tiles text (first + taken.length) tokens last) :
    Tiles text first (⟨group, String.ofList taken, first⟩ :: tokens) last where
  inside := by
    have := tiles.first_le
    refine List.forall_mem_cons.mpr ⟨⟨Nat.le_refl _, by simpa [reach] using this⟩, ?_⟩
    intro token member
    have := tiles.inside token member
    omega
  nonempty := List.forall_mem_cons.mpr ⟨by simpa using lexeme?_ne_nil read, tiles.nonempty⟩
  ordered := by
    refine List.pairwise_cons.mpr ⟨fun token member => ?_, tiles.ordered⟩
    have := (tiles.inside token member).1
    have positive := List.length_pos_iff.mpr (lexeme?_ne_nil read)
    simp only [reach, String.length_ofList]
    omega
  slice := by
    refine List.forall_mem_cons.mpr ⟨?_, tiles.slice⟩
    obtain ⟨after, same⟩ := lexeme?_isPrefix read
    simp only [String.length_ofList, String.toList_ofList]
    rw [← same, List.take_left]
  read := List.forall_mem_cons.mpr ⟨by simpa using read, tiles.read⟩
  blank place d from_ below found apart := by
    obtain ⟨behind, apart⟩ := List.forall_mem_cons.mp apart
    refine tiles.blank place d ?_ below found apart
    simp only [reach, String.length_ofList] at behind
    omega
  first_le := by
    have := tiles.first_le
    omega
  last_le := tiles.last_le

theorem offset_lt_reach (tiles : Tiles text first tokens last) {token : Token}
    (member : token ∈ tokens) : token.offset < token.reach := by
  refine Nat.lt_add_of_pos_right (Nat.pos_of_ne_zero fun none => ?_)
  exact tiles.nonempty token member (String.length_eq_zero_iff.mp none)

/-- Behind the first token the others tile the text. -/
theorem tail {token : Token} (tiles : Tiles text first (token :: tokens) last) :
    Tiles text token.reach tokens last where
  inside next member :=
    ⟨((List.pairwise_cons.mp tiles.ordered).1 next member).2,
      (tiles.inside next (List.mem_cons_of_mem _ member)).2⟩
  nonempty := (List.forall_mem_cons.mp tiles.nonempty).2
  ordered := (List.pairwise_cons.mp tiles.ordered).2
  slice := (List.forall_mem_cons.mp tiles.slice).2
  read := (List.forall_mem_cons.mp tiles.read).2
  blank place c behind below found apart := by
    have begins := (tiles.inside token (List.mem_cons_self ..)).1
    have behind' : first ≤ place := by
      simp only [reach] at behind
      omega
    exact tiles.blank place c behind' below found (List.forall_mem_cons.mpr ⟨.inr behind, apart⟩)
  first_le := (tiles.inside token (List.mem_cons_self ..)).2
  last_le := tiles.last_le

/-- Where no token begins, the tokens tile the text from the next place on. -/
theorem skip (tiles : Tiles text first tokens last) (before : first < last)
    (later : ∀ token ∈ tokens, first < token.offset) : Tiles text (first + 1) tokens last where
  inside token member := ⟨later token member, (tiles.inside token member).2⟩
  nonempty := tiles.nonempty
  ordered := tiles.ordered
  slice := tiles.slice
  read := tiles.read
  blank place c behind := tiles.blank place c (by omega)
  first_le := before
  last_le := tiles.last_le

/-- Only the first token can begin where the tokens begin. -/
theorem begins_or_later (tiles : Tiles text first tokens last) :
    (∃ token rest, tokens = token :: rest ∧ token.offset = first) ∨
      ∀ token ∈ tokens, first < token.offset := by
  cases tokens with
  | nil => exact .inr (by simp)
  | cons token rest =>
    have begins := (tiles.inside token (List.mem_cons_self ..)).1
    rcases Nat.eq_or_lt_of_le begins with here | later
    · exact .inl ⟨token, rest, rfl, here.symm⟩
    · refine .inr (List.forall_mem_cons.mpr ⟨later, fun next member => ?_⟩)
      exact Nat.lt_trans later ((List.pairwise_cons.mp tiles.ordered).1 next member).1

end Tiles

variable {text : List Char} {first last : Nat} {tokens : List Token}

/-- The tokens of a cut tile what it passes. -/
theorem Cut.tiles {before part rest : List Char} (cut : Cut first part tokens last rest)
    (same : text = before ++ part) (place : before.length = first) :
    Tiles text first tokens last := by
  induction cut generalizing before with
  | nil first rest =>
    subst same place
    exact .nil (by simp)
  | @blank first last c part rest tokens blank others hypothesis =>
    have others := @hypothesis (before ++ [c]) (by simp [same]) (by simp [place])
    subst same place
    exact others.blank_cons (by simp) blank
  | @token first last taken part rest group tokens solid read others hypothesis =>
    have others := @hypothesis (before ++ taken) (by simp [same]) (by simp [place])
    subst same place
    exact others.token_cons (by rwa [List.drop_left])

/-- Tokens that tile a text between two places cut it there. -/
theorem Tiles.cut (tiles : Tiles text first tokens last) :
    Cut first (text.drop first) tokens last (text.drop last) := by
  induction gap : last - first using Nat.strongRecOn generalizing first tokens with
  | ind size hypothesis =>
    subst gap
    rcases tiles.begins_or_later with ⟨⟨group, spelled, place⟩, rest, rfl, here⟩ | later
    · obtain rfl : place = first := here
      have read := tiles.read _ (List.mem_cons_self ..)
      have nonempty : spelled.toList ≠ [] := lexeme?_ne_nil read
      have positive := List.length_pos_iff.mpr nonempty
      obtain ⟨after, same⟩ := lexeme?_isPrefix read
      have behind : after = text.drop (place + spelled.toList.length) := by
        rw [← List.drop_drop, ← same, List.drop_left]
      have others : Tiles text (place + spelled.toList.length) rest last := by
        rw [String.length_toList]
        exact tiles.tail
      have reach_le := others.first_le
      have cut := hypothesis _ (by omega) others rfl
      simp only [← same, behind] at read ⊢
      have solid : ∀ c ∈ spelled.toList.head?, Text.isBlank c = false := by
        obtain ⟨c, inner, split⟩ := List.exists_cons_of_ne_nil nonempty
        rw [split, List.cons_append] at read
        rw [split]
        simpa using solid_of_lexeme? read
      simpa only [String.ofList_toList] using Cut.token solid read cut
    · rcases Nat.eq_or_lt_of_le tiles.first_le with rfl | before
      · have none : tokens = [] := by
          refine List.eq_nil_iff_forall_not_mem.mpr fun token member => ?_
          have := tiles.inside token member
          have := later token member
          simp only [reach] at *
          omega
        rw [none]
        exact .nil first _
      · have inside : first < text.length := Nat.lt_of_lt_of_le before tiles.last_le
        have blank := tiles.blank first _ (Nat.le_refl _) before (List.getElem?_eq_getElem inside)
          fun token member => .inl (later token member)
        rw [List.drop_eq_getElem_cons inside]
        exact .blank blank (hypothesis _ (by omega) (tiles.skip before later) rfl)

/-- Tokens tile a text between two places exactly if a cut finds them there. -/
theorem tiles_iff_cut (inside : first ≤ text.length) : Tiles text first tokens last ↔
    Cut first (text.drop first) tokens last (text.drop last) := by
  refine ⟨Tiles.cut, fun cut => cut.tiles (List.take_append_drop first text).symm ?_⟩
  rw [List.length_take]
  omega

/-! ### Scans -/

/-- The tokens of a text are those that tile it. -/
theorem scan_eq_ok_iff {text : String} :
    scan text = .ok tokens ↔ Tiles text.toList 0 tokens text.length := by
  have length : text.length = text.toList.length := String.length_toList.symm
  have ends : text.toList.drop text.length = [] :=
    List.drop_of_length_le (Nat.le_of_eq length.symm)
  rw [tiles_iff_cut (Nat.zero_le _), ends, scan, scanFrom_eq_ok_iff, Nat.zero_add, length]
  rfl

/-- Where a scan fails, no tokens tile the text any further. -/
theorem Tiles.le_of_stray {text : String} {stray : StrayCharacter}
    (tiles : Tiles text.toList 0 tokens last) (failed : scan text = .error stray) :
    last ≤ stray.offset := by
  have cut : Cut 0 text.toList tokens last (text.toList.drop last) := tiles.cut
  rw [scan, cut.scanFrom_eq] at failed
  cases rest : scanFrom last 0 (text.toList.drop last) with
  | ok others => rw [rest] at failed; cases failed
  | error stray' =>
    rw [rest] at failed
    cases failed
    obtain ⟨more, after, cut, -⟩ := scanFrom_eq_error_iff.mp rest
    obtain ⟨passed, -, place⟩ := cut.exists_passed
    omega

/-- Tokens and blanks cover a text up to a character at which no token begins. -/
structure StopsAt (text : List Char) (stray : StrayCharacter) : Prop where
  here : text[stray.offset]? = some stray.char
  solid : Text.isBlank stray.char = false
  unread : lexeme? (text.drop stray.offset) = none
  tiled : ∃ tokens, Tiles text 0 tokens stray.offset
  /-- No tokens reach any further. -/
  furthest : ∀ tokens last, Tiles text 0 tokens last → last ≤ stray.offset

/-- A scan fails where tokens and blanks stop. -/
theorem scan_eq_error_iff {text : String} {stray : StrayCharacter} :
    scan text = .error stray ↔ StopsAt text.toList stray := by
  constructor
  · intro failed
    obtain ⟨tokens, after, cut, solid, unread⟩ := scanFrom_eq_error_iff.mp failed
    obtain ⟨passed, same, place⟩ := cut.exists_passed
    have place : passed.length = stray.offset := by omega
    have rest : text.toList.drop stray.offset = stray.char :: after := by
      rw [same, List.drop_left' place]
    refine ⟨?_, solid, rest ▸ unread, ⟨tokens, ?_⟩, fun tokens last tiles =>
      tiles.le_of_stray failed⟩
    · rw [same, List.getElem?_append_right (Nat.le_of_eq place), place, Nat.sub_self]
      rfl
    · rw [tiles_iff_cut (Nat.zero_le _), rest]
      exact cut
  · rintro ⟨here, solid, unread, ⟨tokens, tiles⟩, -⟩
    obtain ⟨inside, same⟩ := List.getElem?_eq_some_iff.mp here
    have rest := List.drop_eq_getElem_cons inside
    have cut := tiles.cut
    rw [same] at rest
    rw [rest] at cut unread
    exact scanFrom_eq_error_iff.mpr ⟨tokens, _, cut, solid, unread⟩

end Token

end TableSchema
