import TableSchema.Proofs.Catalog.NormalForm
import TableSchema.Proofs.Column

/-! # Spellings of type names

A type is classified by its normal form, and the ways to spell a name anew (`Catalog.Respelled`)
keep it (`Catalog.normalize_of_respelled`): other capitals, other blanks, blanks around the name or
before its brackets, and groups in parentheses at any place. `Classification.ofText_spelling` sums
up what classification makes of a spelling, and says which types it takes for arrays.
-/

namespace TableSchema

namespace Catalog

open Text

/-! ### Respelled names -/

/-- A text, and the text with groups put in at any places. -/
inductive Grouped : List Char → List Char → Prop
  | nil : Grouped [] []
  | char (c : Char) {text other : List Char} (rest : Grouped text other) :
      Grouped (c :: text) (c :: other)
  | group {group text other : List Char} (unclosed : ')' ∉ group) (rest : Grouped text other) :
      Grouped text ('(' :: (group ++ ')' :: other))

/-- A name, and the name in another spelling: with capitals for other letters, another run of blanks
for a run, blanks around the name, blanks before the brackets that end it, or groups put in. -/
inductive Respelled : List Char → List Char → Prop
  | letters {text other : List Char} (same : other.map lowerAscii = text.map lowerAscii) :
      Respelled text other
  | blanks (before after : List Char) {run run' : List Char} (nonempty : run ≠ [])
      (nonempty' : run' ≠ []) (blank : ∀ c ∈ run, isBlank c = true)
      (blank' : ∀ c ∈ run', isBlank c = true) :
      Respelled (before ++ (run ++ after)) (before ++ (run' ++ after))
  | around (text : List Char) {before after : List Char} (blank : ∀ c ∈ before, isBlank c = true)
      (blank' : ∀ c ∈ after, isBlank c = true) : Respelled text (before ++ (text ++ after))
  | brackets (front : List Char) {run : List Char} (blank : ∀ c ∈ run, isBlank c = true) :
      Respelled (front ++ ['[', ']']) (front ++ (run ++ ['[', ']']))
  | groups {text other : List Char} (grouped : Grouped text other) : Respelled text other

/-- A character of ASCII or a blank that opens no group. -/
def IsPlainChar (c : Char) : Prop :=
  c ≠ '(' ∧ (c.toNat < 0x80 ∨ isBlank c = true)

variable {text other rest : List Char}

/-- Blanks are plain. -/
theorem isPlainChar_of_isBlank {c : Char} (blank : isBlank c = true) : IsPlainChar c := by
  refine ⟨?_, .inr blank⟩
  rintro rfl
  exact absurd blank (by decide)

/-- A character is plain exactly if its small letter is. -/
theorem isPlainChar_lowerAscii_iff (c : Char) : IsPlainChar (lowerAscii c) ↔ IsPlainChar c := by
  have mark : lowerAscii c = '(' ↔ c = '(' := by
    have same := apply_lowerAscii (· == '(') (by decide) c
    simpa using Bool.eq_iff_iff.mp same
  rw [IsPlainChar, IsPlainChar, ascii_lowerAscii_iff, ne_eq, ne_eq, mark]

/-! ### Groups -/

/-- A character that opens no group stays. -/
theorem dropGroups_cons {c : Char} (other : c ≠ '(') (rest : List Char) :
    dropGroups false (c :: rest) = c :: dropGroups false rest := by
  rw [dropGroups, if_neg Bool.false_ne_true, if_neg (by simp [other])]

/-- Within a group all is dropped up to the parenthesis that closes it. -/
theorem dropGroups_within {group : List Char} (unclosed : ')' ∉ group) (rest : List Char) :
    dropGroups true (group ++ ')' :: rest) = dropGroups false rest := by
  induction group with
  | nil => rfl
  | cons c group hypothesis =>
    obtain ⟨other, unclosed⟩ := not_or.mp (mt List.mem_cons.mpr unclosed)
    have within : (c != ')') = true := by simpa using Ne.symm other
    rw [List.cons_append, dropGroups, if_pos rfl, within, hypothesis unclosed]

theorem dropGroups_group {group : List Char} (unclosed : ')' ∉ group) (rest : List Char) :
    dropGroups false ('(' :: (group ++ ')' :: rest)) = dropGroups false rest := by
  rw [dropGroups, if_neg Bool.false_ne_true, if_pos (by simp), dropGroups_within unclosed]

/-- Groups put into a plain name are dropped, whatever they hold. -/
theorem dropGroups_lowerFrom (grouped : Grouped text other) (plain : ∀ c ∈ text, IsPlainChar c)
    (before : List Char) : dropGroups false (lowerFrom before other) = text.map lowerAscii := by
  induction grouped generalizing before with
  | nil => rfl
  | char c _ hypothesis =>
    obtain ⟨first, others⟩ := List.forall_mem_cons.mp plain
    have lowered := (isPlainChar_lowerAscii_iff c).mpr first
    rw [lowerFrom_cons_of_ascii first.2, dropGroups_cons lowered.1, hypothesis others,
      List.map_cons]
  | @group group _ other unclosed _ hypothesis =>
    obtain ⟨lowered, same, marks⟩ := exists_lowerFrom_append ('(' :: before) group (')' :: other)
    have unclosed' : ')' ∉ lowered := fun member =>
      unclosed (marks ')' member (by decide) (by decide))
    have opening : lowerAscii '(' = '(' := by decide
    have closing : lowerAscii ')' = ')' := by decide
    rw [lowerFrom_cons_of_ascii (.inl (by decide)), same,
      lowerFrom_cons_of_ascii (.inl (by decide)), opening, closing]
    rw [dropGroups_group unclosed', hypothesis plain]

/-! ### Normal forms of respelled names -/

/-- No group need be put in. -/
theorem Grouped.refl (text : List Char) : Grouped text text := by
  induction text with
  | nil => exact .nil
  | cons c text hypothesis => exact .char c hypothesis

/-- A group may be put in at any place. -/
theorem Grouped.insert {group : List Char} (unclosed : ')' ∉ group) (before after : List Char) :
    Grouped (before ++ after) (before ++ '(' :: (group ++ ')' :: after)) := by
  induction before with
  | nil => exact .group unclosed (.refl after)
  | cons c before hypothesis => exact .char c hypothesis

/-- A plain name has its words in lower case, also with groups put in. -/
theorem nameWords_of_grouped (grouped : Grouped text other) (plain : ∀ c ∈ text, IsPlainChar c) :
    nameWords other = (words text).map (List.map lowerAscii) := by
  rw [nameWords, lower, dropGroups_lowerFrom grouped plain, words_map isBlank_lowerAscii]

/-- Plain names have the same normal form if their words, joined and in lower case, are the same. -/
theorem normalize_eq_of_words (plain : ∀ c ∈ text, IsPlainChar c)
    (plain' : ∀ c ∈ other, IsPlainChar c)
    (same : joinWords ((words other).map (List.map lowerAscii)) =
      joinWords ((words text).map (List.map lowerAscii))) : normalize other = normalize text := by
  have words_text := nameWords_of_grouped (.refl text) plain
  have words_other := nameWords_of_grouped (.refl other) plain'
  rw [normalize_eq, normalize_eq, words_text, words_other, same]

/-- Blanks before the brackets that end a name make them a word, which is joined again. -/
theorem joinWords_blanks_brackets (front : List Char) {run : List Char}
    (blank : ∀ c ∈ run, isBlank c = true) :
    joinWords ((words (front ++ (run ++ ['[', ']']))).map (List.map lowerAscii)) =
      joinWords ((words (front ++ ['[', ']'])).map (List.map lowerAscii)) := by
  have solid : ∀ c ∈ ['[', ']'], isBlank c = false := forall_of_all (by decide)
  have marks : ['[', ']'].map lowerAscii = ['[', ']'] := by decide
  cases run with
  | nil => rfl
  | cons c run =>
    obtain ⟨first, others⟩ := List.forall_mem_cons.mp blank
    have apart : words (front ++ (c :: run ++ ['[', ']'])) = words front ++ [['[', ']']] := by
      rw [List.cons_append, words_append_blank first, words_blanks_append others,
        words_word (List.cons_ne_nil _ _) solid]
    rw [apart]
    rcases words_append_word (List.cons_ne_nil _ _) solid front with same | joined
    · rw [same]
    · obtain ⟨ws, last, nonempty, before, same⟩ := joined
      have lowered : last.map lowerAscii ≠ [] := by simpa using nonempty
      have again := joinWords_append_brackets (ws.map (List.map lowerAscii)) lowered
      rw [before, same]
      simpa only [List.map_append, List.map_cons, List.map_nil, List.append_assoc, marks,
        List.cons_append, List.nil_append] using again

/-- A new spelling of a plain name has the same normal form. -/
theorem normalize_of_respelled (respelled : Respelled text other)
    (plain : ∀ c ∈ text, IsPlainChar c) : normalize other = normalize text := by
  have blanks {run : List Char} (blank : ∀ c ∈ run, isBlank c = true) :
      ∀ c ∈ run, IsPlainChar c := fun c member => isPlainChar_of_isBlank (blank c member)
  cases respelled with
  | letters same =>
    have plain' : ∀ c ∈ other, IsPlainChar c := by
      intro c member
      have inside : lowerAscii c ∈ text.map lowerAscii := same ▸ List.mem_map_of_mem member
      obtain ⟨d, listed, lowered⟩ := List.mem_map.mp inside
      rw [← isPlainChar_lowerAscii_iff, ← lowered]
      exact (isPlainChar_lowerAscii_iff d).mpr (plain d listed)
    rw [normalize, normalize, lower_of_ascii fun c member => (plain c member).2,
      lower_of_ascii fun c member => (plain' c member).2, same]
  | blanks before after nonempty nonempty' blank blank' =>
    simp only [List.forall_mem_append] at plain
    obtain ⟨first, -, last⟩ := plain
    have parted {run : List Char} (nonempty : run ≠ []) (blank : ∀ c ∈ run, isBlank c = true) :
        words (before ++ (run ++ after)) = words before ++ words after := by
      obtain ⟨c, run, rfl⟩ := List.exists_cons_of_ne_nil nonempty
      obtain ⟨isBlank, others⟩ := List.forall_mem_cons.mp blank
      rw [List.cons_append, words_append_blank isBlank, words_blanks_append others]
    refine normalize_eq_of_words ?_ ?_ (by rw [parted nonempty blank, parted nonempty' blank'])
    · simpa only [List.forall_mem_append] using ⟨first, blanks blank, last⟩
    · simpa only [List.forall_mem_append] using ⟨first, blanks blank', last⟩
  | around _ blank blank' =>
    refine normalize_eq_of_words plain ?_
      (by rw [words_blanks_append blank, words_append_blanks blank'])
    simpa only [List.forall_mem_append] using ⟨blanks blank, plain, blanks blank'⟩
  | brackets front blank =>
    refine normalize_eq_of_words plain ?_ (joinWords_blanks_brackets front blank)
    obtain ⟨first, marks⟩ := List.forall_mem_append.mp plain
    simpa only [List.forall_mem_append] using ⟨first, blanks blank, marks⟩
  | groups grouped =>
    rw [normalize_eq, normalize_eq, nameWords_of_grouped grouped plain,
      nameWords_of_grouped (.refl text) plain]

end Catalog

namespace Classification

open Catalog

/-! ### Arrays -/

/-- The element of a listed array is a text or an integer, and a type by itself. -/
theorem ofText_of_element {name : String} {kind : TypeKind}
    (isElement : TypeKind.ofElement? name = some kind) :
    (kind = .boundedString ∨ kind = .integer) ∧ ofText name.toList = { kind, token := name } := by
  have listed : ∀ name ∈ TypeKind.boundedStrings ++ TypeKind.integers,
      ∀ kind ∈ TypeKind.ofElement? name, (kind = .boundedString ∨ kind = .integer) ∧
        ofText name.toList = { kind, token := name } := by decide +kernel
  refine listed name ?_ kind isElement
  unfold TypeKind.ofElement? at isElement
  split at isElement
  · next bounded => exact List.mem_append_left _ (by simpa using bounded)
  · split at isElement
    · next integer => exact List.mem_append_right _ (by simpa using integer)
    · cases isElement

/-- The element of an array is what stands before its brackets. -/
theorem exists_element {text : List Char} (array : (ofText text).kind = .array) :
    ∃ element, (ofText text).element = some element ∧
      TypeKind.ofElement? element.token = some element.kind ∧
      (ofText text).token = element.token ++ "[]" := by
  have normal (front : List Char) (ends : normalize text = front ++ ['[', ']']) :=
    trim_of_normalize ends
  unfold ofText at array ⊢
  generalize normalize text = token at array normal
  unfold ofToken at array ⊢
  cases listed : TypeKind.ofToken? (String.ofList token) with
  | some kind =>
    rw [listed] at array
    exact absurd array (TypeKind.ne_array_of_token listed)
  | none =>
    cases found : element? token with
    | none =>
      rw [listed, found] at array
      dsimp only at array
      split at array <;> cases array
    | some element =>
      obtain ⟨front, ends, classified⟩ := Option.bind_eq_some_iff.mp found
      obtain ⟨kind, isElement, same⟩ := Option.bind_eq_some_iff.mp classified
      obtain ⟨front, rfl, rfl⟩ := elementText?_eq_some_iff.mp ends
      cases same
      rw [normal front rfl] at isElement ⊢
      exact ⟨_, rfl, isElement, String.toList_inj.mp (by simp)⟩

/-- A type whose normal form ends in brackets is an array or unknown. -/
theorem unknown_of_brackets {text front : List Char} (ends : normalize text = front ++ ['[', ']'])
    (other : (ofText text).kind ≠ .array) : (ofText text).kind = .unknown := by
  unfold ofText at other ⊢
  rw [ends] at other ⊢
  have marked : ']' ∈ front ++ ['[', ']'] := by simp
  unfold ofToken at other ⊢
  cases listed : TypeKind.ofToken? (String.ofList (front ++ ['[', ']'])) with
  | some kind =>
    have plain : ∀ name ∈ listedTypes, ']' ∉ name.toList := by decide +kernel
    exact absurd (by rwa [String.toList_ofList]) (plain _ (mem_listedTypes listed))
  | none =>
    rw [listed] at other
    cases found : element? (front ++ ['[', ']']) with
    | some element =>
      rw [found] at other
      exact absurd rfl other
    | none =>
      have named : ¬isEnumerationName (front ++ ['[', ']']) = true := fun named =>
        absurd (isNamePart_of_isTypeName (isTypeName_of_isEnumerationName named) _ marked)
          (by decide)
      exact if_neg named

/-- What classification makes of the spelling of a type. An ASCII type and its normal form, which is
its own, are classified alike, and so are a type without a parenthesis that opens and every new
spelling of it. An array has a bounded string or an integer for its element, which has no element
itself, and the other types whose normal form ends in brackets are unknown. -/
theorem ofText_spelling (text : List Char) :
    ((∀ c ∈ text, c.toNat < 0x80 ∨ Text.isBlank c = true) →
      normalize (normalize text) = normalize text ∧ ofText (normalize text) = ofText text ∧
      ('(' ∉ text → ∀ other, Respelled text other → ofText other = ofText text)) ∧
    ((ofText text).kind = .array → ∃ element, (ofText text).element = some element ∧
      (element.kind = .boundedString ∨ element.kind = .integer) ∧
      ofText element.token.toList =
        { kind := element.kind, token := element.token, element := none } ∧
      (ofText text).token = element.token ++ "[]") ∧
    ((ofText text).kind ≠ .array → ['[', ']'] <:+ normalize text →
      (ofText text).kind = .unknown) := by
  refine ⟨fun ascii => ?_, fun array => ?_, fun other ends => ?_⟩
  · have again := normalize_normalize ascii
    refine ⟨again, by rw [ofText, ofText, again], fun groupless other respelled => ?_⟩
    have plain : ∀ c ∈ text, IsPlainChar c := fun c member =>
      ⟨fun opens => groupless (opens ▸ member), ascii c member⟩
    rw [ofText, ofText, normalize_of_respelled respelled plain]
  · obtain ⟨element, same, isElement, token⟩ := exists_element array
    obtain ⟨kind, alone⟩ := ofText_of_element isElement
    exact ⟨element, same, kind, alone, token⟩
  · obtain ⟨front, same⟩ := ends
    exact unknown_of_brackets same.symm other

/-- A length and a blank before the brackets do not matter, nor do capitals. -/
theorem ofText_spelling_array :
    ofText "Character Varying(255)[]".toList = ofText "Character Varying[]".toList ∧
      ofText "Character Varying []".toList = ofText "Character Varying[]".toList ∧
      ofText "character varying[]".toList = ofText "Character Varying[]".toList ∧
      (∃ element, (ofText "Character Varying[]".toList).element = some element ∧
        (ofText "Character Varying[]".toList).token = element.token ++ "[]") ∧
      (ofText "mood []".toList).kind = .unknown := by
  obtain ⟨spellings, array, -⟩ := ofText_spelling "Character Varying[]".toList
  have same := (spellings (Text.forall_of_all (by decide))).2.2 (by decide)
  have length := @Grouped.insert "255".toList (by decide) "Character Varying".toList ['[', ']']
  have blank : ∀ c ∈ [' '], Text.isBlank c = true := Text.forall_of_all (by decide)
  obtain ⟨element, found, -, -, token⟩ := array (by decide +kernel)
  exact ⟨same _ (.groups length), same _ (.brackets "Character Varying".toList blank),
    same _ (.letters (by decide)), ⟨element, found, token⟩,
    (ofText_spelling "mood []".toList).2.2 (by decide +kernel) (by decide +kernel)⟩

end Classification

end TableSchema
