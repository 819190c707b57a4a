import Mathlib.Data.List.DropRight
import TableSchema.Text.Blank

/-! # Words between blanks

`Text.words` gives the parts of a text that hold no blank. They determine a text up to its blanks:
trimming and collapsing keep the words (`Text.words_trim`, `Text.words_collapseBlanks`) and leave
nothing but a space between them (`Text.trim_collapseBlanks`), and a text is its first word between
blanks and the text of the other words (`Text.words_eq_cons_iff`).
-/

namespace TableSchema.Text

variable {blanks rest text word : List Char}

/-- The words of a text: its longest runs of characters that are not blank. -/
def words (text : List Char) : List (List Char) :=
  (text.splitOnP isBlank).filter fun word => !word.isEmpty

/-! ### Trimming -/

/-- What is left of a text without a run at its beginning. -/
theorem dropWhile_eq_iff {holds : Char → Bool} : text.dropWhile holds = rest ↔
    ∃ run, text = run ++ rest ∧ (∀ c ∈ run, holds c = true) ∧
      ∀ c ∈ rest.head?, holds c = false := by
  constructor
  · rintro rfl
    refine ⟨text.takeWhile holds, List.takeWhile_append_dropWhile.symm,
      fun c member => List.mem_takeWhile_imp member, fun c member => ?_⟩
    have stopped := List.head?_dropWhile_not holds text
    rw [Option.mem_def.mp member] at stopped
    exact stopped
  · rintro ⟨run, rfl, all, stopped⟩
    rw [List.dropWhile_append_of_pos all]
    cases rest with
    | nil => rfl
    | cons c rest => exact List.dropWhile_cons_of_neg (by simp [stopped c rfl])

/-- A run at the front ends at a character that does not belong to it. -/
theorem dropWhile_append_cons {holds : Char → Bool} {c : Char} (stop : holds c = false)
    (text rest : List Char) :
    (text ++ c :: rest).dropWhile holds = text.dropWhile holds ++ c :: rest := by
  induction text with
  | nil => rw [List.nil_append, List.dropWhile_cons_of_neg (by simp [stop])]; rfl
  | cons d text hypothesis =>
    by_cases more : holds d = true
    · rw [List.cons_append, List.dropWhile_cons_of_pos more, List.dropWhile_cons_of_pos more,
        hypothesis]
    · rw [List.cons_append, List.dropWhile_cons_of_neg more, List.dropWhile_cons_of_neg more]
      rfl

/-- A run at the end begins behind a character that does not belong to it. -/
theorem rdropWhile_append_cons {holds : Char → Bool} {c : Char} (stop : holds c = false)
    (text rest : List Char) :
    (text ++ c :: rest).rdropWhile holds = text ++ c :: rest.rdropWhile holds := by
  have turned (after : List Char) :
      (text ++ c :: after).reverse = after.reverse ++ c :: text.reverse := by
    rw [List.reverse_append, List.reverse_cons, List.append_assoc, List.singleton_append]
  calc (text ++ c :: rest).rdropWhile holds
    _ = ((rest.reverse ++ c :: text.reverse).dropWhile holds).reverse := by
      rw [List.rdropWhile, turned]
    _ = (rest.reverse.dropWhile holds ++ c :: text.reverse).reverse := by
      rw [dropWhile_append_cons stop]
    _ = text ++ c :: rest.rdropWhile holds := by
      rw [List.rdropWhile, ← List.reverse_reverse (text ++ _), turned, List.reverse_reverse]

/-- To trim is to drop the blanks at the front and then those at the end. -/
theorem trim_eq (text : List Char) : trim text = (text.dropWhile isBlank).rdropWhile isBlank :=
  rfl

/-- A text is its trimmed form between blanks. -/
theorem exists_trim (text : List Char) :
    ∃ before after, (∀ c ∈ before, isBlank c = true) ∧ (∀ c ∈ after, isBlank c = true) ∧
      text = before ++ (trim text ++ after) := by
  refine ⟨text.takeWhile isBlank, (text.dropWhile isBlank).rtakeWhile isBlank,
    fun c member => List.mem_takeWhile_imp member,
    fun c member => List.mem_rtakeWhile_imp member, ?_⟩
  rw [trim_eq, List.rdropWhile_append_rtakeWhile, List.takeWhile_append_dropWhile]

/-- A text that begins and ends with no blank is what trimming leaves of it between blanks. -/
theorem trim_between {before after : List Char} (nonempty : text ≠ [])
    (begins : ∀ c ∈ text.head?, isBlank c = false) (ends : ∀ c ∈ text.getLast?, isBlank c = false)
    (blank_before : ∀ c ∈ before, isBlank c = true)
    (blank_after : ∀ c ∈ after, isBlank c = true) : trim (before ++ (text ++ after)) = text := by
  obtain ⟨front, c, rfl⟩ := (List.eq_nil_or_concat text).resolve_left nonempty
  rw [List.concat_eq_append] at nonempty begins ends ⊢
  have solid : isBlank c = false := ends c (by simp)
  have rest : (before ++ (front ++ [c] ++ after)).dropWhile isBlank = front ++ [c] ++ after := by
    refine dropWhile_eq_iff.mpr ⟨before, rfl, blank_before, fun d member => begins d ?_⟩
    rwa [List.head?_append_of_ne_nil _ nonempty] at member
  calc trim (before ++ (front ++ [c] ++ after))
    _ = (front ++ c :: after).rdropWhile isBlank := by
      rw [trim_eq, rest, List.append_assoc, List.singleton_append]
    _ = front ++ c :: after.rdropWhile isBlank := rdropWhile_append_cons solid front after
    _ = front ++ [c] := by rw [List.rdropWhile_eq_nil_iff.mpr blank_after]

/-- A word between blanks is trimmed to the word. -/
theorem trim_word {before after : List Char} (nonempty : word ≠ [])
    (solid : ∀ c ∈ word, isBlank c = false) (blank_before : ∀ c ∈ before, isBlank c = true)
    (blank_after : ∀ c ∈ after, isBlank c = true) : trim (before ++ (word ++ after)) = word := by
  apply trim_between nonempty _ _ blank_before blank_after
  · intro c first
    exact solid c (List.mem_of_mem_head? first)
  · intro c last
    exact solid c (List.mem_of_getLast? last)

/-! ### Words -/

/-- The empty text has no words. -/
theorem words_nil : words [] = [] :=
  rfl

/-- A blank parts the words before it from those behind it. -/
theorem words_append_blank {c : Char} (blank : isBlank c = true) (text rest : List Char) :
    words (text ++ c :: rest) = words text ++ words rest := by
  rw [words, List.splitOnP_append_cons _ _ blank, List.filter_append]
  rfl

theorem words_blank {c : Char} (blank : isBlank c = true) (rest : List Char) :
    words (c :: rest) = words rest :=
  words_append_blank blank [] rest

/-- Blanks at the front make no difference to the words. -/
theorem words_blanks_append (blank : ∀ c ∈ blanks, isBlank c = true) (rest : List Char) :
    words (blanks ++ rest) = words rest := by
  induction blanks with
  | nil => rfl
  | cons c blanks hypothesis =>
    obtain ⟨first, others⟩ := List.forall_mem_cons.mp blank
    rw [List.cons_append, words_blank first, hypothesis others]

/-- Blanks at the end make no difference to the words. -/
theorem words_append_blanks (blank : ∀ c ∈ blanks, isBlank c = true) (text : List Char) :
    words (text ++ blanks) = words text := by
  cases blanks with
  | nil => rw [List.append_nil]
  | cons c blanks =>
    obtain ⟨first, others⟩ := List.forall_mem_cons.mp blank
    have behind := words_blanks_append others []
    rw [List.append_nil] at behind
    rw [words_append_blank first, behind, words_nil, List.append_nil]

theorem words_of_blank (blank : ∀ c ∈ blanks, isBlank c = true) : words blanks = [] :=
  words_append_blanks blank []

/-- What stands behind a word: nothing, or a blank. -/
def Parts (rest : List Char) : Prop :=
  ∀ c ∈ rest.head?, isBlank c = true

/-- A word is its only word. -/
theorem words_word (nonempty : word ≠ []) (solid : ∀ c ∈ word, isBlank c = false) :
    words word = [word] := by
  rw [words, List.splitOnP_eq_singleton solid]
  simpa using nonempty

/-- A text that begins with a word, and goes on with a blank or not at all, has this as its first
word. -/
theorem words_word_append (nonempty : word ≠ []) (solid : ∀ c ∈ word, isBlank c = false)
    (parts : Parts rest) : words (word ++ rest) = word :: words rest := by
  cases rest with
  | nil => rw [List.append_nil, words_word nonempty solid, words_nil]
  | cons c rest =>
    have blank := parts c rfl
    rw [words_append_blank blank, words_word nonempty solid, words_blank blank,
      List.singleton_append]

/-- A text begins with blanks, and with a word behind them if it has one. -/
theorem exists_word (text : List Char) :
    ∃ blanks word rest, text = blanks ++ (word ++ rest) ∧ (∀ c ∈ blanks, isBlank c = true) ∧
      (∀ c ∈ word, isBlank c = false) ∧ Parts rest ∧ (word = [] → rest = []) := by
  obtain ⟨blanks, same, blank, stopped⟩ := dropWhile_eq_iff.mp (rfl : text.dropWhile isBlank = _)
  obtain ⟨word, behind, solid, parts⟩ := dropWhile_eq_iff.mp
    (rfl : (text.dropWhile isBlank).dropWhile (fun c => !isBlank c) = _)
  refine ⟨blanks, word, _, behind ▸ same, blank, by simpa using solid,
    fun c member => by simpa using parts c member, ?_⟩
  rintro rfl
  cases remaining : (text.dropWhile isBlank).dropWhile (fun c => !isBlank c) with
  | nil => rfl
  | cons c rest =>
    rw [remaining] at behind parts
    have first := stopped c (by rw [behind]; rfl)
    have last := parts c rfl
    rw [first] at last
    cases last

/-- The first word of a text stands behind blanks and ends at a blank. -/
theorem words_eq_cons_iff {others : List (List Char)} : words text = word :: others ↔
    ∃ blanks rest, text = blanks ++ (word ++ rest) ∧ (∀ c ∈ blanks, isBlank c = true) ∧
      word ≠ [] ∧ (∀ c ∈ word, isBlank c = false) ∧ Parts rest ∧ words rest = others := by
  constructor
  · intro found
    obtain ⟨blanks, first, rest, rfl, blank, solid, parts, whole⟩ := exists_word text
    rw [words_blanks_append blank] at found
    by_cases empty : first = []
    · rw [empty, whole empty] at found
      cases found
    · rw [words_word_append empty solid parts] at found
      obtain ⟨rfl, rfl⟩ := List.cons.inj found
      exact ⟨blanks, rest, rfl, blank, empty, solid, parts, rfl⟩
  · rintro ⟨blanks, rest, rfl, blank, nonempty, solid, parts, rfl⟩
    rw [words_blanks_append blank, words_word_append nonempty solid parts]

/-- A text has no words exactly if it is blank. -/
theorem words_eq_nil_iff : words text = [] ↔ ∀ c ∈ text, isBlank c = true := by
  constructor
  · intro found
    obtain ⟨blanks, word, rest, rfl, blank, solid, parts, whole⟩ := exists_word text
    rw [words_blanks_append blank] at found
    by_cases empty : word = []
    · rw [empty, whole empty, List.append_nil, List.append_nil]
      exact blank
    · rw [words_word_append empty solid parts] at found
      cases found
  · exact words_of_blank

/-- A character that is not blank belongs to a word. -/
theorem mem_iff_words {c : Char} (solid : isBlank c = false) :
    c ∈ text ↔ ∃ word ∈ words text, c ∈ word := by
  have inside : ∀ {ws : List (List Char)} {text : List Char}, words text = ws →
      (c ∈ text ↔ ∃ word ∈ ws, c ∈ word) := by
    intro ws
    induction ws with
    | nil =>
      intro text found
      have blank := words_eq_nil_iff.mp found
      constructor
      · intro member
        rw [blank c member] at solid
        cases solid
      · rintro ⟨_, ⟨⟩, _⟩
    | cons word ws hypothesis =>
      intro text found
      obtain ⟨blanks, rest, rfl, blank, -, -, -, behind⟩ := words_eq_cons_iff.mp found
      have outside : c ∉ blanks := fun member => by
        rw [blank c member] at solid
        cases solid
      simp only [List.mem_append, outside, false_or, hypothesis behind, List.exists_mem_cons_iff]
  exact inside rfl

/-- Trimming makes no difference to the words. -/
theorem words_trim (text : List Char) : words (trim text) = words text := by
  obtain ⟨before, after, blank_before, blank_after, same⟩ := exists_trim text
  calc words (trim text) = words (before ++ (trim text ++ after)) := by
        rw [words_blanks_append blank_before, words_append_blanks blank_after]
    _ = words text := by rw [← same]

/-- A word behind a text is a word by itself, or the end of the last word of the text. -/
theorem words_append_word (nonempty : word ≠ []) (solid : ∀ c ∈ word, isBlank c = false)
    (text : List Char) :
    words (text ++ word) = words text ++ [word] ∨ ∃ ws last, last ≠ [] ∧
      words text = ws ++ [last] ∧ words (text ++ word) = ws ++ [last ++ word] := by
  obtain ⟨front, run, same, inside, ends⟩ : ∃ front run, text = front ++ run ∧
      (∀ c ∈ run, isBlank c = false) ∧ ∀ c ∈ front.getLast?, isBlank c = true := by
    refine ⟨text.rdropWhile fun c => !isBlank c, text.rtakeWhile fun c => !isBlank c,
      List.rdropWhile_append_rtakeWhile.symm, ?_, ?_⟩
    · intro c member
      simpa using List.mem_rtakeWhile_imp member
    · intro c last
      obtain ⟨full, rfl⟩ := List.mem_getLast?_eq_getLast last
      simpa using List.rdropWhile_last_not _ _ full
  have behind (text : List Char) : words (front ++ text) = words front ++ words text := by
    rcases List.eq_nil_or_concat front with rfl | ⟨inner, c, rfl⟩
    · rfl
    · rw [List.concat_eq_append] at ends ⊢
      have blank := ends c (by simp)
      rw [List.append_assoc, List.singleton_append, words_append_blank blank,
        words_append_blanks (List.forall_mem_singleton.mpr blank)]
  by_cases empty : run = []
  · left
    rw [same, empty, List.append_nil, behind, words_word nonempty solid]
  · right
    have longer : words (run ++ word) = [run ++ word] :=
      words_word (List.append_ne_nil_of_left_ne_nil empty _)
        (List.forall_mem_append.mpr ⟨inside, solid⟩)
    refine ⟨words front, run, empty, ?_, ?_⟩
    · rw [same, behind, words_word empty inside]
    · rw [same, List.append_assoc, behind, longer]

/-- Words do not change when each character is replaced by one of its kind. -/
theorem words_map {change : Char → Char} (keeps : ∀ c, isBlank (change c) = isBlank c)
    (text : List Char) : words (text.map change) = (words text).map (List.map change) := by
  have blank {blanks : List Char} (blank : ∀ c ∈ blanks, isBlank c = true) :
      ∀ c ∈ blanks.map change, isBlank c = true := by
    intro c member
    obtain ⟨d, listed, rfl⟩ := List.mem_map.mp member
    exact (keeps d).trans (blank d listed)
  have inside : ∀ {ws : List (List Char)} {text : List Char}, words text = ws →
      words (text.map change) = ws.map (List.map change) := by
    intro ws
    induction ws with
    | nil => exact fun found => words_of_blank (blank (words_eq_nil_iff.mp found))
    | cons word ws hypothesis =>
      intro text found
      obtain ⟨blanks, rest, rfl, first, nonempty, solid, parts, behind⟩ :=
        words_eq_cons_iff.mp found
      refine words_eq_cons_iff.mpr ⟨blanks.map change, rest.map change, ?_, blank first, ?_, ?_,
        ?_, hypothesis behind⟩
      · rw [List.map_append, List.map_append]
      · simpa using nonempty
      · intro c member
        obtain ⟨d, listed, rfl⟩ := List.mem_map.mp member
        exact (keeps d).trans (solid d listed)
      · intro c member
        rw [List.head?_map] at member
        obtain ⟨d, head, rfl⟩ := Option.map_eq_some_iff.mp member
        exact (keeps d).trans (parts d head)
  exact inside rfl

/-- A blank becomes a space, unless one was written before it. -/
theorem collapseFrom_blank {c : Char} (blank : isBlank c = true) (pending : Bool)
    (rest : List Char) :
    collapseFrom pending (c :: rest) =
      if pending then collapseFrom true rest else ' ' :: collapseFrom true rest := by
  rw [collapseFrom, if_pos blank]

theorem collapseFrom_solid {c : Char} (solid : isBlank c = false) (pending : Bool)
    (rest : List Char) : collapseFrom pending (c :: rest) = c :: collapseFrom false rest := by
  rw [collapseFrom, if_neg (by simp [solid])]

/-! ### Texts of words -/

/-- Words with a space between them. -/
def unwords (ws : List (List Char)) : List Char :=
  List.intercalate [' '] ws

theorem unwords_singleton (word : List Char) : unwords [word] = word :=
  List.intercalate_singleton

/-- A space stands between a word and the next one. -/
theorem unwords_cons_cons (word next : List Char) (ws : List (List Char)) :
    unwords (word :: next :: ws) = word ++ ' ' :: unwords (next :: ws) := by
  rw [unwords, List.intercalate_cons_cons, List.append_assoc, List.singleton_append]
  rfl

/-- Whether each of a list of texts is a word. -/
def AreWords (ws : List (List Char)) : Prop :=
  ∀ word ∈ ws, word ≠ [] ∧ ∀ c ∈ word, isBlank c = false

/-- The words of a text are words. -/
theorem areWords_words (text : List Char) : AreWords (words text) := by
  have inside : ∀ {ws : List (List Char)} {text : List Char}, words text = ws → AreWords ws := by
    intro ws
    induction ws with
    | nil => exact fun _ => List.forall_mem_nil _
    | cons word ws hypothesis =>
      intro text found
      obtain ⟨blanks, rest, -, -, nonempty, solid, -, behind⟩ := words_eq_cons_iff.mp found
      exact List.forall_mem_cons.mpr ⟨⟨nonempty, solid⟩, hypothesis behind⟩
  exact inside rfl

/-- A text without blanks is all that its words hold. -/
theorem flatten_words (text : List Char) :
    (words text).flatten = text.filter fun c => !isBlank c := by
  have inside : ∀ {ws : List (List Char)} {text : List Char}, words text = ws →
      ws.flatten = text.filter fun c => !isBlank c := by
    intro ws
    induction ws with
    | nil =>
      intro text found
      have blank := words_eq_nil_iff.mp found
      rw [List.flatten_nil, eq_comm, List.filter_eq_nil_iff]
      intro c member
      simp [blank c member]
    | cons word ws hypothesis =>
      intro text found
      obtain ⟨blanks, rest, rfl, blank, -, solid, -, behind⟩ := words_eq_cons_iff.mp found
      have none : blanks.filter (fun c => !isBlank c) = [] :=
        List.filter_eq_nil_iff.mpr fun c member => by simp [blank c member]
      have all : word.filter (fun c => !isBlank c) = word :=
        List.filter_eq_self.mpr fun c member => by simp [solid c member]
      rw [List.flatten_cons, hypothesis behind]
      rw [List.filter_append, List.filter_append, none, all, List.nil_append]
  exact inside rfl

section Unwords

variable {ws : List (List Char)} (areWords : AreWords ws)

include areWords

/-- Words that are written with spaces between them are found again. -/
theorem words_unwords : words (unwords ws) = ws := by
  induction ws with
  | nil => rfl
  | cons word ws hypothesis =>
    obtain ⟨⟨nonempty, solid⟩, others⟩ := List.forall_mem_cons.mp areWords
    cases ws with
    | nil => rw [unwords_singleton, words_word nonempty solid]
    | cons next ws =>
      have space : isBlank ' ' = true := by decide
      have parts : Parts (' ' :: unwords (next :: ws)) := by
        rintro c ⟨⟩
        exact space
      rw [unwords_cons_cons, words_word_append nonempty solid parts, words_blank space,
        hypothesis others]

/-- Words do not begin with a blank. -/
theorem isBlank_head?_unwords : ∀ c ∈ (unwords ws).head?, isBlank c = false := by
  cases ws with
  | nil => exact nofun
  | cons word ws =>
    obtain ⟨⟨nonempty, solid⟩, -⟩ := List.forall_mem_cons.mp areWords
    have begins : (unwords (word :: ws)).head? = word.head? := by
      cases ws with
      | nil => rw [unwords_singleton]
      | cons next ws => rw [unwords_cons_cons, List.head?_append_of_ne_nil _ nonempty]
    rw [begins]
    exact fun c member => solid c (List.mem_of_mem_head? member)

/-- Words do not end with a blank. -/
theorem isBlank_getLast?_unwords : ∀ c ∈ (unwords ws).getLast?, isBlank c = false := by
  induction ws with
  | nil => exact nofun
  | cons word ws hypothesis =>
    obtain ⟨⟨nonempty, solid⟩, others⟩ := List.forall_mem_cons.mp areWords
    cases ws with
    | nil =>
      rw [unwords_singleton]
      exact fun c member => solid c (List.mem_of_getLast? member)
    | cons next ws =>
      have behind := (List.forall_mem_cons.mp others).1.1
      have full : unwords (next :: ws) ≠ [] := by
        intro empty
        have none := words_unwords others
        rw [empty] at none
        cases none
      rw [unwords_cons_cons, List.getLast?_append_of_ne_nil _ (List.cons_ne_nil _ _),
        List.getLast?_cons_of_ne_nil full]
      exact hypothesis others

end Unwords

/-- Further blanks are dropped behind a space. -/
theorem collapseFrom_blanks_append (blank : ∀ c ∈ blanks, isBlank c = true) (rest : List Char) :
    collapseFrom true (blanks ++ rest) = collapseFrom true rest := by
  induction blanks with
  | nil => rfl
  | cons c blanks hypothesis =>
    obtain ⟨first, others⟩ := List.forall_mem_cons.mp blank
    rw [List.cons_append, collapseFrom_blank first, if_pos rfl, hypothesis others]

/-- A word is kept, and a space may follow it. -/
theorem collapseFrom_word_append (nonempty : word ≠ []) (solid : ∀ c ∈ word, isBlank c = false)
    (pending : Bool) (rest : List Char) :
    collapseFrom pending (word ++ rest) = word ++ collapseFrom false rest := by
  induction word generalizing pending with
  | nil => exact absurd rfl nonempty
  | cons c word hypothesis =>
    obtain ⟨first, others⟩ := List.forall_mem_cons.mp solid
    rw [List.cons_append, collapseFrom_solid first, List.cons_append, List.cons.injEq]
    refine ⟨rfl, ?_⟩
    by_cases last : word = []
    · rw [last]
      rfl
    · exact hypothesis last others false

/-- Within a run of blanks, collapsing leaves the words that follow, and perhaps a space. -/
theorem exists_collapseFrom (text : List Char) :
    ∃ after, (∀ c ∈ after, isBlank c = true) ∧
      collapseFrom true text = unwords (words text) ++ after := by
  have space : isBlank ' ' = true := by decide
  have inside : ∀ {ws : List (List Char)} {text : List Char}, words text = ws →
      ∃ after, (∀ c ∈ after, isBlank c = true) ∧ collapseFrom true text = unwords ws ++ after := by
    intro ws
    induction ws with
    | nil =>
      intro text found
      have blank := collapseFrom_blanks_append (words_eq_nil_iff.mp found) []
      rw [List.append_nil] at blank
      exact ⟨[], List.forall_mem_nil _, blank⟩
    | cons word ws hypothesis =>
      intro text found
      obtain ⟨blanks, rest, rfl, blank, nonempty, solid, parts, behind⟩ :=
        words_eq_cons_iff.mp found
      rw [collapseFrom_blanks_append blank, collapseFrom_word_append nonempty solid]
      cases rest with
      | nil =>
        cases behind
        exact ⟨[], List.forall_mem_nil _, by rw [words_nil, unwords_singleton]; rfl⟩
      | cons c rest =>
        have first := parts c rfl
        rw [words_blank first] at behind
        obtain ⟨after, blank', same⟩ := hypothesis behind
        rw [collapseFrom_blank first, if_neg Bool.false_ne_true, same]
        cases ws with
        | nil =>
          refine ⟨' ' :: after, List.forall_mem_cons.mpr ⟨space, blank'⟩, ?_⟩
          rw [unwords_singleton]
          rfl
        | cons next ws =>
          refine ⟨after, blank', ?_⟩
          rw [unwords_cons_cons, List.append_assoc, List.cons_append]
  exact inside rfl

/-- A text that is collapsed and trimmed is its words with a space between them. -/
theorem trim_collapseBlanks (text : List Char) :
    trim (collapseBlanks text) = unwords (words text) := by
  obtain ⟨before, after, blank_before, blank_after, same⟩ :
      ∃ before after, (∀ c ∈ before, isBlank c = true) ∧ (∀ c ∈ after, isBlank c = true) ∧
        collapseBlanks text = before ++ (unwords (words text) ++ after) := by
    obtain ⟨after, blank, same⟩ := exists_collapseFrom text
    cases text with
    | nil => exact ⟨[], after, List.forall_mem_nil _, blank, same⟩
    | cons c text =>
      cases first : isBlank c with
      | true =>
        refine ⟨[' '], after, List.forall_mem_singleton.mpr (by decide), blank, ?_⟩
        rw [← same, collapseBlanks, collapseFrom_blank first, collapseFrom_blank first]
        rfl
      | false =>
        refine ⟨[], after, List.forall_mem_nil _, blank, ?_⟩
        rw [← same, collapseBlanks, collapseFrom_solid first, collapseFrom_solid first]
        rfl
  have areWords := areWords_words text
  by_cases empty : unwords (words text) = []
  · rw [same, empty, trim_eq, List.nil_append,
      List.dropWhile_eq_nil_iff.mpr (List.forall_mem_append.mpr ⟨blank_before, blank_after⟩)]
    rfl
  · rw [same]
    exact trim_between empty (isBlank_head?_unwords areWords) (isBlank_getLast?_unwords areWords)
      blank_before blank_after

/-- Words do not change when runs of blanks become spaces. -/
theorem words_collapseBlanks (text : List Char) : words (collapseBlanks text) = words text := by
  rw [← words_trim, trim_collapseBlanks, words_unwords (areWords_words text)]

end TableSchema.Text
