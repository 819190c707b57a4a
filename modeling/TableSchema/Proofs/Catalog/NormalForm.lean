import TableSchema.Proofs.Catalog.TypeName

/-! # Normal forms of type names

A type name in normal form has its words with a space between them, in lower case and without
groups, and a word that begins with empty brackets is joined to the word before it
(`Catalog.normalize_eq`). So normalizing an ASCII name again changes nothing
(`Catalog.normalize_normalize`), and what stands before the brackets of a normal form has no blanks
at its ends (`Catalog.trim_of_normalize`).
-/

namespace TableSchema.Catalog

open Text

variable {text word : List Char} {ws : List (List Char)}

/-! ### Groups -/

/-- Groups are dropped, and nothing else changes. -/
theorem dropGroups_sublist (inside : Bool) (text : List Char) :
    (dropGroups inside text).Sublist text := by
  induction text generalizing inside with
  | nil => exact .slnil
  | cons c text hypothesis =>
    unfold dropGroups
    split
    · exact .cons _ (hypothesis _)
    · split
      · exact .cons _ (hypothesis _)
      · exact .cons_cons _ (hypothesis _)

/-- Without its groups, a text has no parenthesis that is closed later. -/
theorem unclosed_dropGroups (inside : Bool) (text : List Char) :
    ¬['(', ')'].Sublist (dropGroups inside text) := by
  induction text generalizing inside with
  | nil => exact nofun
  | cons c text hypothesis =>
    unfold dropGroups
    split
    · exact hypothesis _
    · split
      · exact hypothesis _
      · next plain =>
        intro group
        cases group with
        | cons _ behind => exact hypothesis _ behind
        | cons_cons _ behind =>
          have closed := (dropGroups_sublist false text).subset (List.singleton_sublist.mp behind)
          exact plain (by simpa using closed)

/-! ### Brackets -/

/-- Whether a word begins with empty brackets. -/
def BeginsWithBrackets (word : List Char) : Prop :=
  ['[', ']'] <+: word

instance : DecidablePred BeginsWithBrackets :=
  fun word => inferInstanceAs (Decidable (['[', ']'] <+: word))

theorem beginsWithBrackets_brackets : BeginsWithBrackets ['[', ']'] :=
  List.prefix_rfl

/-- A word and the words behind it, of which those that begin with empty brackets are joined to the
word before. -/
def joinFrom (word : List Char) : List (List Char) → List (List Char)
  | [] => [word]
  | next :: ws =>
    if BeginsWithBrackets next then joinFrom (word ++ next) ws else word :: joinFrom next ws

/-- Words, of which those that begin with empty brackets are joined to the word before. -/
def joinWords : List (List Char) → List (List Char)
  | [] => []
  | word :: ws => joinFrom word ws

/-- What stands behind a word completes no brackets in it, if it does not begin with a closing one.
-/
theorem beginsWithBrackets_of_append {rest : List Char} (nonempty : word ≠ [])
    (apart : rest.head? ≠ some ']') (begins : BeginsWithBrackets (word ++ rest)) :
    BeginsWithBrackets word := by
  cases word with
  | nil => exact absurd rfl nonempty
  | cons c word =>
    obtain ⟨rfl, behind⟩ := List.cons_prefix_cons.mp begins
    cases word with
    | nil =>
      obtain ⟨others, rfl⟩ := behind
      exact absurd rfl apart
    | cons d word =>
      obtain ⟨rfl, -⟩ := List.cons_prefix_cons.mp behind
      exact ⟨word, rfl⟩

/-- In front of a word that begins with brackets a word begins with them only by itself. -/
theorem beginsWithBrackets_append_iff {next : List Char} (nonempty : word ≠ [])
    (brackets : BeginsWithBrackets next) :
    BeginsWithBrackets (word ++ next) ↔ BeginsWithBrackets word := by
  refine ⟨beginsWithBrackets_of_append nonempty ?_,
    fun begins => begins.trans (List.prefix_append ..)⟩
  obtain ⟨rest, rfl⟩ := brackets
  exact nofun

/-- Words begin with brackets only if the first one does. -/
theorem beginsWithBrackets_of_unwords (nonempty : word ≠ [])
    (begins : BeginsWithBrackets (unwords (word :: ws))) : BeginsWithBrackets word := by
  cases ws with
  | nil => rwa [unwords_singleton] at begins
  | cons next ws =>
    rw [unwords_cons_cons] at begins
    exact beginsWithBrackets_of_append nonempty (by simp) begins

/-- A character other than a space is kept. -/
theorem joinBrackets_cons {c : Char} (solid : c ≠ ' ') (text : List Char) :
    joinBrackets (c :: text) = c :: joinBrackets text := by
  rw [joinBrackets]
  exact fun rest space => absurd space solid

/-- A space in front of anything but brackets is kept. -/
theorem joinBrackets_space (apart : ¬BeginsWithBrackets text) :
    joinBrackets (' ' :: text) = ' ' :: joinBrackets text := by
  rw [joinBrackets]
  rintro rest - rfl
  exact apart ⟨rest, rfl⟩

/-- A space in front of brackets is dropped. -/
theorem joinBrackets_space_brackets (begins : BeginsWithBrackets text) :
    joinBrackets (' ' :: text) = joinBrackets text := by
  obtain ⟨rest, rfl⟩ := begins
  rfl

/-- A word is kept. -/
theorem joinBrackets_word_append (solid : ∀ c ∈ word, isBlank c = false) (rest : List Char) :
    joinBrackets (word ++ rest) = word ++ joinBrackets rest := by
  induction word with
  | nil => rfl
  | cons c word hypothesis =>
    obtain ⟨first, others⟩ := List.forall_mem_cons.mp solid
    have other : c ≠ ' ' := by
      rintro rfl
      exact absurd first (by decide)
    rw [List.cons_append, joinBrackets_cons other, hypothesis others, List.cons_append]

/-- What goes in front of the first word goes in front of the words. -/
theorem unwords_append_cons (front word : List Char) (ws : List (List Char)) :
    unwords ((front ++ word) :: ws) = front ++ unwords (word :: ws) := by
  cases ws with
  | nil => rw [unwords_singleton, unwords_singleton]
  | cons next ws => rw [unwords_cons_cons, unwords_cons_cons, List.append_assoc]

/-- Words begin with the first one. -/
theorem prefix_unwords (word : List Char) (ws : List (List Char)) :
    word <+: unwords (word :: ws) := by
  have whole := unwords_append_cons word [] ws
  rw [List.append_nil] at whole
  rw [whole]
  exact List.prefix_append ..

/-- Two words that are joined are one word. -/
theorem areWords_append {next : List Char} (areWords : AreWords (word :: next :: ws)) :
    AreWords ((word ++ next) :: ws) := by
  obtain ⟨⟨nonempty, solid⟩, others⟩ := List.forall_mem_cons.mp areWords
  obtain ⟨⟨-, solid'⟩, rest⟩ := List.forall_mem_cons.mp others
  exact List.forall_mem_cons.mpr ⟨⟨List.append_ne_nil_of_left_ne_nil nonempty _,
    List.forall_mem_append.mpr ⟨solid, solid'⟩⟩, rest⟩

/-- Joining leaves at least one word. -/
theorem exists_joinFrom (word : List Char) (ws : List (List Char)) :
    ∃ first others, joinFrom word ws = first :: others := by
  induction ws generalizing word with
  | nil => exact ⟨word, [], rfl⟩
  | cons next ws hypothesis =>
    rw [joinFrom]
    split
    · exact hypothesis _
    · exact ⟨word, _, rfl⟩

/-- To drop the spaces in front of brackets is to join words with the brackets behind them. -/
theorem joinBrackets_unwords_cons (areWords : AreWords (word :: ws)) :
    joinBrackets (unwords (word :: ws)) = unwords (joinFrom word ws) := by
  induction ws generalizing word with
  | nil =>
    have solid := (List.forall_mem_singleton.mp areWords).2
    have single := joinBrackets_word_append solid []
    rw [List.append_nil] at single
    rw [unwords_singleton, joinFrom, unwords_singleton, single, joinBrackets, List.append_nil]
  | cons next ws hypothesis =>
    obtain ⟨⟨-, solid⟩, others⟩ := List.forall_mem_cons.mp areWords
    rw [unwords_cons_cons, joinBrackets_word_append solid, joinFrom]
    by_cases brackets : BeginsWithBrackets next
    · have joined : joinBrackets (' ' :: unwords (next :: ws)) =
          joinBrackets (unwords (next :: ws)) :=
        joinBrackets_space_brackets (brackets.trans (prefix_unwords next ws))
      rw [if_pos brackets, ← hypothesis (areWords_append areWords), unwords_append_cons,
        joinBrackets_word_append solid, joined]
    · have apart : ¬BeginsWithBrackets (unwords (next :: ws)) :=
        mt (beginsWithBrackets_of_unwords (List.forall_mem_cons.mp others).1.1) brackets
      obtain ⟨first, behind, same⟩ := exists_joinFrom next ws
      rw [if_neg brackets, joinBrackets_space apart, hypothesis others, same, unwords_cons_cons]

/-- To drop the spaces in front of brackets among words is to join the words. -/
theorem joinBrackets_unwords (areWords : AreWords ws) :
    joinBrackets (unwords ws) = unwords (joinWords ws) := by
  cases ws with
  | nil => rfl
  | cons word ws => exact joinBrackets_unwords_cons areWords

/-- Joined words are words. -/
theorem areWords_joinFrom (areWords : AreWords (word :: ws)) : AreWords (joinFrom word ws) := by
  induction ws generalizing word with
  | nil => exact areWords
  | cons next ws hypothesis =>
    obtain ⟨isWord, others⟩ := List.forall_mem_cons.mp areWords
    rw [joinFrom]
    split
    · exact hypothesis (areWords_append areWords)
    · exact List.forall_mem_cons.mpr ⟨isWord, hypothesis others⟩

/-- Words that are joined are words. -/
theorem areWords_joinWords (areWords : AreWords ws) : AreWords (joinWords ws) := by
  cases ws with
  | nil => exact areWords
  | cons word ws => exact areWords_joinFrom areWords

/-- No word but the first begins with empty brackets. -/
def AreJoined (ws : List (List Char)) : Prop :=
  ∀ word ∈ ws.tail, ¬BeginsWithBrackets word

/-- Joined words begin with empty brackets only if their first word does, which may have grown. -/
theorem areJoined_joinFrom (areWords : AreWords (word :: ws)) :
    (∀ first ∈ (joinFrom word ws).head?, BeginsWithBrackets first → BeginsWithBrackets word) ∧
      AreJoined (joinFrom word ws) := by
  induction ws generalizing word with
  | nil => exact ⟨by rintro first ⟨⟩; exact id, List.forall_mem_nil _⟩
  | cons next ws hypothesis =>
    obtain ⟨⟨nonempty, -⟩, others⟩ := List.forall_mem_cons.mp areWords
    rw [joinFrom]
    by_cases brackets : BeginsWithBrackets next
    · rw [if_pos brackets]
      obtain ⟨begins, behind⟩ := hypothesis (areWords_append areWords)
      refine ⟨fun first member brackets' => ?_, behind⟩
      exact (beginsWithBrackets_append_iff nonempty brackets).mp (begins first member brackets')
    · rw [if_neg brackets]
      refine ⟨by rintro first ⟨⟩; exact id, ?_⟩
      obtain ⟨begins, behind⟩ := hypothesis others
      obtain ⟨first, more, same⟩ := exists_joinFrom next ws
      rw [same] at begins behind
      show ∀ v ∈ joinFrom next ws, _
      rw [same]
      exact List.forall_mem_cons.mpr ⟨mt (begins first rfl) brackets, behind⟩

/-- Words that are joined already stay as they are. -/
theorem joinFrom_of_joined (joined : AreJoined (word :: ws)) : joinFrom word ws = word :: ws := by
  induction ws generalizing word with
  | nil => rfl
  | cons next ws hypothesis =>
    obtain ⟨first, others⟩ := List.forall_mem_cons.mp joined
    rw [joinFrom, if_neg first, hypothesis others]

/-- Joining loses no character. -/
theorem flatten_joinFrom (word : List Char) (ws : List (List Char)) :
    (joinFrom word ws).flatten = word ++ ws.flatten := by
  induction ws generalizing word with
  | nil => simp [joinFrom]
  | cons next ws hypothesis =>
    rw [joinFrom]
    split
    · rw [hypothesis, List.flatten_cons, List.append_assoc]
    · rw [List.flatten_cons, hypothesis, List.flatten_cons]

/-- Brackets may be a word of their own or stand behind the last word. -/
theorem joinFrom_append_brackets (word : List Char) (ws : List (List Char)) {last : List Char}
    (nonempty : last ≠ []) :
    joinFrom word (ws ++ [last, ['[', ']']]) = joinFrom word (ws ++ [last ++ ['[', ']']]) := by
  induction ws generalizing word with
  | nil =>
    simp only [List.nil_append, joinFrom, if_pos beginsWithBrackets_brackets,
      beginsWithBrackets_append_iff nonempty beginsWithBrackets_brackets]
    split
    · rw [List.append_assoc]
    · rfl
  | cons next ws hypothesis =>
    simp only [List.cons_append, joinFrom, hypothesis]

/-- Brackets that stand apart behind the last word are joined to it. -/
theorem joinWords_append_brackets (ws : List (List Char)) {last : List Char}
    (nonempty : last ≠ []) :
    joinWords (ws ++ [last, ['[', ']']]) = joinWords (ws ++ [last ++ ['[', ']']]) := by
  cases ws with
  | nil =>
    show joinFrom last [['[', ']']] = [last ++ ['[', ']']]
    rw [joinFrom, if_pos beginsWithBrackets_brackets, joinFrom]
  | cons word ws => exact joinFrom_append_brackets word ws nonempty

/-! ### Normal forms -/

/-- The words of a name, in lower case and without its groups. -/
def nameWords (text : List Char) : List (List Char) :=
  words (dropGroups false (lower text))

theorem areWords_nameWords (text : List Char) : AreWords (nameWords text) :=
  areWords_words _

/-- The normal form of a name is its words with a space between them, joined at empty brackets. -/
theorem normalize_eq (text : List Char) :
    normalize text = unwords (joinWords (nameWords text)) := by
  rw [normalize, trim_collapseBlanks, joinBrackets_unwords (areWords_words _), nameWords]

theorem words_normalize_eq (text : List Char) :
    words (normalize text) = joinWords (nameWords text) := by
  rw [normalize_eq, words_unwords (areWords_joinWords (areWords_nameWords text))]

/-- In a normal form no word stands apart from brackets behind it. -/
theorem areJoined_words_normalize (text : List Char) : AreJoined (words (normalize text)) := by
  rw [words_normalize_eq]
  have areWords := areWords_nameWords text
  cases found : nameWords text with
  | nil => exact List.forall_mem_nil _
  | cons word ws =>
    rw [found] at areWords
    exact (areJoined_joinFrom areWords).2

/-- A normal form holds the characters of the name in lower case and without its groups, but for the
blanks. -/
theorem filter_normalize (text : List Char) :
    (normalize text).filter (fun c => !isBlank c) =
      (dropGroups false (lower text)).filter fun c => !isBlank c := by
  rw [← flatten_words, ← flatten_words, words_normalize_eq, ← nameWords]
  cases nameWords text with
  | nil => rfl
  | cons word ws => rw [joinWords, flatten_joinFrom, List.flatten_cons]

/-- The characters of a normal form are spaces and characters of the name in lower case. -/
theorem mem_lower_of_normalize {c : Char} (member : c ∈ normalize text) :
    c ∈ lower text ∨ isBlank c = true := by
  cases solid : isBlank c with
  | true => exact .inr rfl
  | false =>
    have kept : c ∈ (normalize text).filter fun c => !isBlank c :=
      List.mem_filter.mpr ⟨member, by simp [solid]⟩
    rw [filter_normalize] at kept
    exact .inl ((dropGroups_sublist ..).subset (List.mem_of_mem_filter kept))

/-- A normal form has no group in parentheses. -/
theorem unclosed_normalize (text : List Char) : ¬['(', ')'].Sublist (normalize text) := by
  intro group
  have solid := group.filter fun c => !isBlank c
  rw [filter_normalize] at solid
  exact unclosed_dropGroups _ _ (solid.trans List.filter_sublist)

/-- Normalizing an ASCII name again changes nothing. -/
theorem normalize_normalize (ascii : ∀ c ∈ text, c.toNat < 0x80 ∨ isBlank c = true) :
    normalize (normalize text) = normalize text := by
  have kept : ∀ c ∈ normalize text, (c.toNat < 0x80 ∨ isBlank c = true) ∧ lowerAscii c = c := by
    intro c member
    rcases mem_lower_of_normalize member with inside | blank
    · rw [lower_of_ascii ascii] at inside
      obtain ⟨d, listed, rfl⟩ := List.mem_map.mp inside
      exact ⟨(ascii_lowerAscii_iff d).mpr (ascii d listed), lowerAscii_lowerAscii d⟩
    · exact ⟨.inr blank, lowerAscii_of_isBlank blank⟩
  have lowered : lower (normalize text) = normalize text := by
    rw [lower_of_ascii fun c member => (kept c member).1,
      List.map_congr_left fun c member => (kept c member).2, List.map_id']
  have same : nameWords (normalize text) = words (normalize text) := by
    rw [nameWords, lowered, dropGroups_of_unclosed (unclosed_normalize text)]
  have joined := areJoined_words_normalize text
  have again : joinWords (words (normalize text)) = words (normalize text) := by
    cases found : words (normalize text) with
    | nil => rfl
    | cons word ws =>
      rw [found] at joined
      exact joinFrom_of_joined joined
  rw [normalize_eq (normalize text), same, again, words_normalize_eq, ← normalize_eq]

/-- What stands before the brackets that end a normal form has no blanks at its ends. -/
theorem trim_of_normalize {front : List Char} (ends : normalize text = front ++ ['[', ']']) :
    trim front = front := by
  have areWords := areWords_joinWords (areWords_nameWords text)
  by_cases empty : front = []
  · rw [empty]
    rfl
  have begins : ∀ c ∈ front.head?, isBlank c = false := by
    have first := isBlank_head?_unwords areWords
    rwa [← normalize_eq, ends, List.head?_append_of_ne_nil _ empty] at first
  have stops : ∀ c ∈ front.getLast?, isBlank c = false := by
    intro c last
    by_contra blank
    rw [Bool.not_eq_false] at blank
    obtain ⟨inner, rfl⟩ := List.getLast?_eq_some_iff.mp last
    have joined := areJoined_words_normalize text
    have marks : words ['[', ']'] = [['[', ']']] := by decide
    rw [ends, List.append_assoc, List.singleton_append, words_append_blank blank, marks] at joined
    -- The brackets are a word, so they are the first, and the form begins with a blank.
    cases found : words inner with
    | nil =>
      have all : ∀ d ∈ inner ++ [c], isBlank d = true :=
        List.forall_mem_append.mpr ⟨words_eq_nil_iff.mp found, List.forall_mem_singleton.mpr blank⟩
      obtain ⟨d, rest, same⟩ := List.exists_cons_of_ne_nil empty
      have first := begins d (by rw [same]; rfl)
      rw [all d (by rw [same]; exact List.mem_cons_self)] at first
      cases first
    | cons word ws =>
      rw [found] at joined
      exact joined _ (by simp) beginsWithBrackets_brackets
  have whole := trim_between empty begins stops (List.forall_mem_nil _) (List.forall_mem_nil _)
  rwa [List.nil_append, List.append_nil] at whole

end TableSchema.Catalog
