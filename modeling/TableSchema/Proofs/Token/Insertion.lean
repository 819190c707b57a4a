import TableSchema.Proofs.Token.Spelling
import TableSchema.Proofs.Token.Tiling

/-! # Blanks between tokens

Blanks that are put into a text outside its tokens move the tokens behind them and change nothing
else (`Token.scan_insert`): no lexeme grows when a blank comes to stand behind it, and none shrinks.
-/

namespace TableSchema

/-- Where a place comes to lie when `count` characters are put in at `gap`. -/
def shiftedPlace (gap count place : Nat) : Nat :=
  if place < gap then place else place + count

/-- A token where it comes to lie. -/
def Token.shift (gap count : Nat) (token : Token) : Token :=
  { token with offset := shiftedPlace gap count token.offset }

/-- A stray character where it comes to lie. -/
def StrayCharacter.shift (gap count : Nat) (stray : StrayCharacter) : StrayCharacter :=
  { stray with offset := shiftedPlace gap count stray.offset }

namespace Token

variable {text rest : List Char} {first last gap : Nat} {tokens : List Token}

/-- A place between tokens: none of them lies on both sides of it. -/
def IsGap (tokens : List Token) (gap : Nat) : Prop :=
  ∀ token ∈ tokens, token.reach ≤ gap ∨ gap ≤ token.offset

/-- Before every token there is a gap. -/
theorem Tiles.isGap_offset (tiles : Tiles text first tokens last) {token : Token}
    (member : token ∈ tokens) : IsGap tokens token.offset := by
  obtain ⟨front, back, rfl⟩ := List.append_of_mem member
  obtain ⟨-, behind, across⟩ := List.pairwise_append.mp tiles.ordered
  intro other listed
  rcases List.mem_append.mp listed with earlier | later
  · exact .inl (across other earlier token (List.mem_cons_self ..)).2
  · rcases List.mem_cons.mp later with rfl | later
    · exact .inr (Nat.le_refl _)
    · exact .inr (Nat.le_of_lt ((List.pairwise_cons.mp behind).1 other later).1)

/-- Behind the last token there is a gap. -/
theorem Tiles.isGap_last (tiles : Tiles text first tokens last) : IsGap tokens last :=
  fun token member => .inl (tiles.inside token member).2

/-- The tokens before a gap tile the text up to it. -/
theorem Tiles.upTo (tiles : Tiles text first tokens last) (isGap : IsGap tokens gap)
    (first_le : first ≤ gap) (le_last : gap ≤ last) :
    Tiles text first (tokens.filter fun token => token.reach ≤ gap) gap where
  inside token member := by
    obtain ⟨listed, within⟩ := List.mem_filter.mp member
    exact ⟨(tiles.inside token listed).1, of_decide_eq_true within⟩
  nonempty token member := tiles.nonempty token (List.mem_filter.mp member).1
  ordered := tiles.ordered.filter _
  slice token member := tiles.slice token (List.mem_filter.mp member).1
  read token member := tiles.read token (List.mem_filter.mp member).1
  blank place c from_ below found apart := by
    refine tiles.blank place c from_ (Nat.lt_of_lt_of_le below le_last) found fun token member => ?_
    rcases isGap token member with within | behind
    · exact apart token (List.mem_filter.mpr ⟨member, decide_eq_true within⟩)
    · exact .inl (Nat.lt_of_lt_of_le below behind)
  first_le := first_le
  last_le := Nat.le_trans le_last tiles.last_le

/-- What follows a cut may be replaced by anything that breaks off the last lexeme. -/
theorem Cut.before_break (cut : Cut first text tokens last rest) {rest' : List Char}
    (breaks : Breaks rest') :
    ∃ passed, text = passed ++ rest ∧ last = first + passed.length ∧
      Cut first (passed ++ rest') tokens last rest' := by
  induction cut with
  | nil place rest => exact ⟨[], rfl, rfl, .nil place rest'⟩
  | @blank place last c text rest tokens blank others hypothesis =>
    obtain ⟨passed, rfl, rfl, cut⟩ := hypothesis
    exact ⟨c :: passed, rfl, by rw [List.length_cons]; omega, .blank blank cut⟩
  | @token place last taken text rest group tokens solid read others hypothesis =>
    obtain ⟨passed, rfl, rfl, cut⟩ := hypothesis
    refine ⟨taken ++ passed, (List.append_assoc ..).symm, by rw [List.length_append]; omega, ?_⟩
    rw [← List.append_assoc] at read
    have alone := lexeme?_of_append read (by simp)
    have again := lexeme?_append breaks alone
    rw [List.append_assoc] at again ⊢
    exact .token solid again cut

/-- A cut of a text that stands further on. -/
theorem Cut.moved (cut : Cut first text tokens last rest) (count : Nat) :
    Cut (first + count) text
      (tokens.map fun token => { token with offset := token.offset + count }) (last + count)
      rest := by
  induction cut with
  | nil place rest => exact .nil _ rest
  | @blank place last c text rest tokens blank others hypothesis =>
    rw [Nat.add_right_comm] at hypothesis
    exact .blank blank hypothesis
  | @token place last taken text rest group tokens solid read others hypothesis =>
    rw [Nat.add_right_comm] at hypothesis
    exact .token solid read hypothesis

/-- A token before the gap stays where it is. -/
theorem shift_of_before {token : Token} (before : token.offset < gap) (count : Nat) :
    token.shift gap count = token := by
  rw [shift, shiftedPlace, if_pos before]

/-- A token behind the gap moves on. -/
theorem shift_of_behind {token : Token} (behind : gap ≤ token.offset) (count : Nat) :
    token.shift gap count = { token with offset := token.offset + count } := by
  rw [shift, shiftedPlace, if_neg (Nat.not_lt.mpr behind)]

/-- Blanks may be put between two parts of a text that are cut apart. -/
theorem Cut.insert {before after blanks : List Char} {front back : List Token}
    (cut : Cut 0 (before ++ after) front before.length after)
    (cut' : Cut before.length after back last rest)
    (blank : ∀ c ∈ blanks, Text.isBlank c = true) :
    Cut 0 (before ++ blanks ++ after) ((front ++ back).map (·.shift before.length blanks.length))
      (last + blanks.length) rest := by
  have tiles : Tiles (before ++ after) 0 front before.length :=
    cut.tiles (List.nil_append _).symm rfl
  have tiles' : Tiles (before ++ after) before.length back last := cut'.tiles rfl rfl
  have stay : front.map (·.shift before.length blanks.length) = front := by
    refine (List.map_congr_left fun token member => shift_of_before ?_ _).trans (List.map_id' front)
    exact Nat.lt_of_lt_of_le (tiles.offset_lt_reach member) (tiles.inside token member).2
  have move : back.map (·.shift before.length blanks.length) =
      back.map fun token => { token with offset := token.offset + blanks.length } := by
    refine List.map_congr_left fun token member => shift_of_behind ?_ _
    exact (tiles'.inside token member).1
  have opened : Cut 0 (before ++ (blanks ++ after)) front before.length (blanks ++ after) := by
    cases blanks with
    | nil => exact cut
    | cons c blanks =>
      obtain ⟨passed, same, -, cut⟩ := cut.before_break
        (breaks_blank (blank c (List.mem_cons_self ..)) (blanks ++ after))
      obtain rfl := List.append_cancel_right same
      exact cut
  rw [List.map_append, stay, move, List.append_assoc]
  exact opened.trans ((cut_blanks blank before.length after).trans (cut'.moved blanks.length))

/-- Blanks between the tokens of a text move the tokens behind them. -/
theorem scan_insert {before blanks after : String}
    (tiles : Tiles (before ++ after).toList 0 tokens last) (isGap : IsGap tokens before.length)
    (inside : before.length ≤ last) (blank : ∀ c ∈ blanks.toList, Text.isBlank c = true) :
    scan (before ++ blanks ++ after) =
      ((scan (before ++ after)).map (List.map (·.shift before.length blanks.length))).mapError
        (·.shift before.length blanks.length) := by
  have front := (tiles.upTo isGap (Nat.zero_le _) inside).cut
  rw [← String.length_toList] at front
  simp only [String.toList_append, List.drop_zero, List.drop_left] at front
  obtain ⟨back, last', rest, cut', ends⟩ := exists_cut before.toList.length after.toList
  have whole := front.trans cut'
  have opened := front.insert cut' blank
  obtain ⟨passed, -, place⟩ := cut'.exists_passed
  simp only [scan, String.toList_append]
  rw [whole.scanFrom_eq, opened.scanFrom_eq]
  simp only [String.length_toList] at place ⊢
  rcases ends with rfl | ⟨c, after', rfl, solid, none⟩
  · show Except.ok (_ ++ []) = Except.ok (List.map _ (_ ++ []))
    rw [List.append_nil, List.append_nil]
  · have behind : shiftedPlace before.length blanks.length last' = last' + blanks.length :=
      if_neg (by omega)
    rw [scanFrom_stray solid none, scanFrom_stray solid none]
    show Except.error _ = Except.error (StrayCharacter.shift _ _ ⟨c, last'⟩)
    rw [StrayCharacter.shift, behind]

end Token

end TableSchema
