import TableSchema.Proofs.Token.Lexeme

/-! # Texts that spell lexemes

`Lexeme.Spells` says which lexemes a text adds in front of what follows it, provided that what
follows breaks off the last of them. Names, marks, numbers, strings and blanks spell themselves, and
`Lexeme.Spells.append` and `Lexeme.SpellsAll.intercalate` put texts together. A text that cannot be
cut into tokens spells nothing, and then neither does a text that it begins.
-/

namespace TableSchema

namespace Token

/-- The punctuation that no number takes along. -/
def stops : List Char :=
  ['(', ')', '[', ']', '\x7b', '\x7d', ',', ':', '?']

theorem breaks_nil : Breaks [] :=
  ⟨by simp, rfl⟩

/-- A character that no number and no name takes along is a break. -/
theorem breaks_cons {c : Char} (key : Text.isKeyPart c = false) (digit : Text.isDigit c = false)
    (sign : c ≠ '+' ∧ c ≠ '-') (point : c ≠ '.') (rest : List Char) : Breaks (c :: rest) := by
  refine ⟨?_, ?_⟩
  · simp [key, digit, sign]
  · rw [fraction?]
    intro more same
    cases same
    exact point rfl

/-- A character that stops lexemes is a break. -/
theorem breaks_stop {c : Char} (stop : c ∈ stops) (rest : List Char) : Breaks (c :: rest) := by
  have apart : ∀ c ∈ stops, Text.isKeyPart c = false ∧ Text.isDigit c = false ∧
      (c ≠ '+' ∧ c ≠ '-') ∧ c ≠ '.' := Text.forall_of_all (by decide)
  obtain ⟨key, digit, sign, point⟩ := apart c stop
  exact breaks_cons key digit sign point rest

/-- A blank is a break. -/
theorem breaks_blank {c : Char} (blank : Text.isBlank c = true) (rest : List Char) :
    Breaks (c :: rest) := by
  have digit : Text.isDigit c = false := by
    cases digit : Text.isDigit c with
    | false => rfl
    | true => rw [Text.isBlank_of_isDigit digit] at blank; cases blank
  have start : Text.isKeyStart c = false := by
    cases start : Text.isKeyStart c with
    | false => rfl
    | true => rw [Text.isBlank_of_isKeyStart start] at blank; cases blank
  have key : Text.isKeyPart c = false := by
    rw [← Bool.not_eq_true, Text.isKeyPart_iff, start]
    rintro (begins | ⟨lower, upper⟩)
    · cases begins
    · have ascii : c.isDigit = true := by
        simp only [Char.isDigit, Bool.and_eq_true, decide_eq_true_eq]
        exact ⟨UInt32.le_iff_toNat_le.mpr lower, UInt32.le_iff_toNat_le.mpr upper⟩
      rw [Text.isDigit, Text.isDigit_of_isDigit ascii] at digit
      cases digit
  refine breaks_cons key digit ⟨?_, ?_⟩ ?_ rest <;> rintro rfl <;> exact absurd blank (by decide)

/-- A point without a digit behind it is a break. -/
theorem breaks_point {c : Char} (bare : Text.isDigit c = false) (rest : List Char) :
    Breaks ('.' :: c :: rest) := by
  refine ⟨by simp; decide, ?_⟩
  rw [fraction?, Text.digitRun, List.takeWhile_cons_of_neg (by simp [bare])]

/-- A text that is a name and nothing else. -/
def IsName (text : List Char) : Prop :=
  ∃ c rest, text = c :: rest ∧ Text.isKeyStart c = true ∧ ∀ d ∈ rest, Text.isKeyPart d = true

/-- A name begins with what may begin a key and goes on with what may follow. -/
theorem isName_iff (text : List Char) : IsName text ↔
    (text.head?.any Text.isKeyStart && text.tail.all Text.isKeyPart) = true := by
  cases text with
  | nil => simp [IsName]
  | cons c rest =>
    simp only [List.head?_cons, Option.any_some, List.tail_cons, Bool.and_eq_true,
      List.all_eq_true]
    constructor
    · rintro ⟨d, parts, same, start, all⟩
      cases same
      exact ⟨start, all⟩
    · rintro ⟨start, all⟩
      exact ⟨c, rest, rfl, start, all⟩

instance (text : List Char) : Decidable (IsName text) :=
  decidable_of_iff' _ (isName_iff text)

/-- A call after a name is a break. -/
theorem IsName.breaks {name : List Char} (isName : IsName name) (rest : List Char) :
    Breaks ('.' :: (name ++ rest)) := by
  obtain ⟨c, tail, rfl, start, -⟩ := isName
  exact breaks_point (Text.isDigit_of_isKeyStart start) (tail ++ rest)

/-- In front of a break a name is one lexeme. -/
theorem IsName.lexeme? {name rest : List Char} (isName : IsName name) (breaks : Breaks rest) :
    lexeme? (name ++ rest) = some (.name, name) := by
  obtain ⟨c, tail, rfl, start, parts⟩ := isName
  have other {d : Char} (noStart : Text.isKeyStart d = false) : c ≠ d := by
    rintro rfl
    rw [noStart] at start
    cases start
  have number : number? (c :: (tail ++ rest)) = none :=
    number?_eq_none (Text.isDigit_of_isKeyStart start) (other (by decide)) (other (by decide)) _
  have quote : ¬(c = '\x27' ∨ c = '"') := not_or.mpr ⟨other (by decide), other (by decide)⟩
  have run : (tail ++ rest).takeWhile Text.isKeyPart = tail := by
    rw [takeWhile_append_of_head (fun c member => (breaks.1 c member).1)]
    simpa using @List.takeWhile_append_of_pos _ _ _ [] parts
  rw [List.cons_append, lexeme?_of_word number quote, name?, if_pos start, run]
  rfl

/-- A character that stops lexemes is one by itself. -/
theorem lexeme?_stop {c : Char} (stop : c ∈ stops) (rest : List Char) :
    lexeme? (c :: rest) = some (.punctuation, [c]) := by
  have apart : ∀ c ∈ stops, Text.isDigit c = false ∧ c ≠ '.' ∧ c ≠ '-' ∧
      ¬(c = '\x27' ∨ c = '"') ∧ ¬Text.isKeyStart c = true ∧ c ∈ punctuation :=
    Text.forall_of_all (by decide)
  obtain ⟨digit, point, minus, quote, start, mark⟩ := apart c stop
  have number : number? (c :: rest) = none := number?_eq_none digit point minus rest
  rw [lexeme?_of_mark number quote start, punctuation?, if_pos mark]
  rfl

/-- A point in front of anything but a digit is a lexeme by itself. -/
theorem lexeme?_point {c : Char} (bare : Text.isDigit c = false) (rest : List Char) :
    lexeme? ('.' :: c :: rest) = some (.punctuation, ['.']) := by
  have number : number? ('.' :: c :: rest) = none := by
    have run : Text.digitRun ('.' :: c :: rest) = [] :=
      List.takeWhile_cons_of_neg (by decide)
    rw [number?_cons (by decide), unsigned?, mantissa?, run, (breaks_point bare rest).2]
    rfl
  rw [lexeme?_of_mark number (by decide) (by decide), punctuation?, if_pos (by decide)]
  rfl

end Token

namespace Lexeme

open Token

/-- A punctuation character. -/
def mark (c : Char) : Lexeme where
  group := .punctuation
  text := String.ofList [c]

/-- A name. -/
def word (text : String) : Lexeme where
  group := .name
  text := text

/-- A number. -/
def number (text : List Char) : Lexeme where
  group := .number
  text := String.ofList text

/-- A quoted string. -/
def string (text : List Char) : Lexeme where
  group := .string
  text := String.ofList text

/-- A stop adds its lexeme whatever follows. -/
theorem ofText?_stop {c : Char} (stop : c ∈ stops) (rest : List Char) :
    ofText? (c :: rest) = (ofText? rest).map (mark c :: ·) := by
  refine @ofText?_token [c] _ _ ?_ (lexeme?_stop stop rest)
  have solid : ∀ c ∈ stops, Text.isBlank c = false := Text.forall_of_all (by decide)
  simpa using solid c stop

/-- A point without a digit behind it adds its lexeme. -/
theorem ofText?_barePoint {c : Char} (bare : Text.isDigit c = false) (rest : List Char) :
    ofText? ('.' :: c :: rest) = (ofText? (c :: rest)).map (mark '.' :: ·) := by
  have solid : ∀ c ∈ ['.'].head?, Text.isBlank c = false := by
    intro c member
    cases member
    decide
  exact ofText?_token solid (lexeme?_point bare rest)

/-- A point before a name adds its lexeme. -/
theorem ofText?_point {name : List Char} (isName : IsName name) (rest : List Char) :
    ofText? ('.' :: (name ++ rest)) = (ofText? (name ++ rest)).map (mark '.' :: ·) := by
  obtain ⟨c, tail, rfl, start, -⟩ := isName
  exact ofText?_barePoint (Text.isDigit_of_isKeyStart start) (tail ++ rest)

/-- A name before a break adds its lexeme. -/
theorem ofText?_name {name rest : List Char} (isName : IsName name) (breaks : Breaks rest) :
    ofText? (name ++ rest) = (ofText? rest).map (word (String.ofList name) :: ·) := by
  refine ofText?_token ?_ (isName.lexeme? breaks)
  obtain ⟨c, tail, rfl, start, -⟩ := isName
  simpa using Text.isBlank_of_isKeyStart start

/-- A number before a break adds its lexeme. -/
theorem ofText?_number {text rest : List Char} (whole : number? text = some text)
    (breaks : Breaks rest) :
    ofText? (text ++ rest) = (ofText? rest).map (number text :: ·) := by
  refine ofText?_token ?_ ?_
  · intro c member
    cases blank : Text.isBlank c with
    | false => rfl
    | true =>
      obtain ⟨tail, rfl⟩ := List.head?_eq_some_iff.mp member
      have apart : Text.isDigit c = false ∧ c ≠ '.' ∧ c ≠ '-' := by
        refine ⟨((breaks_blank blank []).1 c rfl).2.1, ?_, ?_⟩ <;> rintro rfl <;>
          exact absurd blank (by decide)
      rw [number?_eq_none apart.1 apart.2.1 apart.2.2] at whole
      cases whole
  · rw [lexeme?, number?_append breaks, whole]
    rfl

/-- A string adds its lexeme whatever follows. -/
theorem ofText?_string {text : List Char} (whole : string? text = some text) (rest : List Char) :
    ofText? (text ++ rest) = (ofText? rest).map (string text :: ·) := by
  have again := (string?_isPrefix whole).2 rest
  cases text with
  | nil => cases whole
  | cons c tail =>
    have quote : c = '\x27' ∨ c = '"' := by
      rw [string?] at whole
      split at whole
      · assumption
      · cases whole
    refine ofText?_token ?_ ?_
    · rcases quote with rfl | rfl <;> simp <;> decide
    · rw [List.cons_append] at again ⊢
      rw [lexeme?_quote quote, again]
      rfl

/-! ### Spelling -/

/-- The lexemes of two texts in a row, of which either may have none. -/
def join (before after : Option (List Lexeme)) : Option (List Lexeme) := do
  return (← before) ++ (← after)

/-- The lexemes that a text adds in front of a break; none at all where it cannot be cut. -/
def Spells (text : List Char) (lexemes : Option (List Lexeme)) : Prop :=
  ∀ rest, Breaks rest → ofText? (text ++ rest) = join lexemes (ofText? rest)

@[simp] theorem join_some (before : List Lexeme) (after : Option (List Lexeme)) :
    join (some before) after = after.map (before ++ ·) := by
  cases after <;> rfl

@[simp] theorem join_none (after : Option (List Lexeme)) : join none after = none := rfl

@[simp] theorem join_nil (before : Option (List Lexeme)) : join before (some []) = before := by
  cases before <;> simp [join]

theorem join_assoc (first second third : Option (List Lexeme)) :
    join (join first second) third = join first (join second third) := by
  cases first <;> cases second <;> cases third <;> simp

variable {text after : List Char} {lexemes following : Option (List Lexeme)}

/-- A text that is cut into lexemes spells them. -/
theorem spells_of_ofText? {lexemes : List Lexeme} (scanned : ofText? text = some lexemes) :
    Spells text (some lexemes) := by
  intro rest breaks
  rw [ofText?_append breaks scanned, join_some]

/-- A text that spells lexemes has them. -/
theorem Spells.ofText?_eq (spells : Spells text lexemes) : ofText? text = lexemes := by
  have whole := spells [] breaks_nil
  rwa [List.append_nil, ofText?_nil, join_nil] at whole

theorem spells_nil : Spells [] (some []) :=
  spells_of_ofText? rfl

/-- A name spells one lexeme. -/
theorem spells_name {name : List Char} (isName : IsName name) :
    Spells name (some [word (String.ofList name)]) := by
  intro rest breaks
  rw [ofText?_name isName breaks, join_some]
  rfl

/-- A number spells one lexeme. -/
theorem spells_number (whole : number? text = some text) : Spells text (some [number text]) := by
  intro rest breaks
  rw [ofText?_number whole breaks, join_some]
  rfl

/-- A string spells one lexeme. -/
theorem spells_string (whole : string? text = some text) : Spells text (some [string text]) := by
  intro rest _
  rw [ofText?_string whole, join_some]
  rfl

/-- Texts in a row spell the lexemes of both, if the second always begins with a break. -/
theorem Spells.append (spells : Spells text lexemes) (spells' : Spells after following)
    (breaks : ∀ rest, Breaks rest → Breaks (after ++ rest)) :
    Spells (text ++ after) (join lexemes following) := by
  intro rest breaks'
  rw [List.append_assoc, spells _ (breaks rest breaks'), spells' rest breaks', join_assoc]

/-- A stop may stand before any text. -/
theorem Spells.stop_cons (spells : Spells text lexemes) {c : Char} (stop : c ∈ stops) :
    Spells (c :: text) (join (some [mark c]) lexemes) := by
  intro rest breaks
  rw [List.cons_append, ofText?_stop stop, spells rest breaks]
  cases lexemes <;> cases ofText? rest <;> rfl

/-- A blank may stand before any text. -/
theorem Spells.blank_cons (spells : Spells text lexemes) {c : Char}
    (blank : Text.isBlank c = true) : Spells (c :: text) lexemes := by
  intro rest breaks
  rw [List.cons_append, ofText?_blank blank, spells rest breaks]

/-- Blanks may stand before any text. -/
theorem Spells.blanks_append (spells : Spells text lexemes) {blanks : List Char}
    (blank : ∀ c ∈ blanks, Text.isBlank c = true) : Spells (blanks ++ text) lexemes := by
  induction blanks with
  | nil => exact spells
  | cons c blanks hypothesis =>
    exact (hypothesis fun d member => blank d (List.mem_cons_of_mem _ member)).blank_cons
      (blank c (List.mem_cons_self ..))

/-- A stop may stand after any text. -/
theorem Spells.append_stop (spells : Spells text lexemes) {c : Char} (stop : c ∈ stops) :
    Spells (text ++ [c]) (join lexemes (some [mark c])) :=
  spells.append (spells_nil.stop_cons stop) fun rest _ => breaks_stop stop rest

/-- A call of a name opens with the name and a parenthesis. -/
theorem Spells.call_cons (spells : Spells text lexemes) {name : List Char} (isName : IsName name) :
    Spells ('.' :: (name ++ '(' :: text))
      (join (some [mark '.', word (String.ofList name), mark '(']) lexemes) := by
  intro rest breaks
  have opens : Breaks ('(' :: (text ++ rest)) := breaks_stop (by decide) _
  calc ofText? ('.' :: (name ++ '(' :: text) ++ rest)
    _ = ofText? ('.' :: (name ++ '(' :: (text ++ rest))) := by
      rw [List.cons_append, List.append_assoc, List.cons_append]
    _ = (((ofText? (text ++ rest)).map (mark '(' :: ·)).map
        (word (String.ofList name) :: ·)).map (mark '.' :: ·) := by
      rw [ofText?_point isName, ofText?_name isName opens, ofText?_stop (by decide)]
    _ = _ := by
      rw [spells rest breaks]
      cases lexemes <;> cases ofText? rest <;> rfl

/-! ### Lists of texts -/

/-- The lexemes of a text in front of those of a list of texts. -/
def prepend (first : Option (List Lexeme)) (others : Option (List (List Lexeme))) :
    Option (List (List Lexeme)) := do
  return (← first) :: (← others)

/-- The lexemes that each of a list of texts spells. -/
inductive SpellsAll : List (List Char) → Option (List (List Lexeme)) → Prop
  | nil : SpellsAll [] (some [])
  | cons {text : List Char} {texts : List (List Char)} {lexemes : Option (List Lexeme)}
      {lists : Option (List (List Lexeme))} (first : Spells text lexemes)
      (others : SpellsAll texts lists) :
      SpellsAll (text :: texts) (prepend lexemes lists)

/-- The lexemes of items with commas between them. -/
def separated (lists : List (List Lexeme)) : List Lexeme :=
  List.intercalate [mark ','] lists

/-- Texts with a comma and blanks between them spell their lexemes with commas between them. -/
theorem SpellsAll.intercalate {texts : List (List Char)} {lists : Option (List (List Lexeme))}
    (spells : SpellsAll texts lists) (blanks : List Char)
    (blank : ∀ c ∈ blanks, Text.isBlank c = true) :
    Spells (List.intercalate (',' :: blanks) texts) (lists.map separated) := by
  induction spells with
  | nil => exact spells_nil
  | @cons text texts lexemes lists first others hypothesis =>
    cases others with
    | nil =>
      have single : (prepend lexemes (some [])).map separated = lexemes := by
        cases lexemes <;> simp [prepend, separated]
      rw [single, List.intercalate_singleton]
      exact first
    | @cons text' texts lexemes' lists first' others =>
      have spelled := first.append ((hypothesis.blanks_append blank).stop_cons
        (c := ',') (by decide)) fun rest _ => breaks_stop (by decide) _
      have same : join lexemes (join (some [mark ','])
          ((prepend lexemes' lists).map separated)) =
          (prepend lexemes (prepend lexemes' lists)).map separated := by
        cases lexemes <;> cases lexemes' <;> cases lists <;>
          simp [prepend, separated, List.intercalate_cons_cons]
      rw [← same, List.intercalate_cons_cons]
      simpa using spelled

/-- Blanks may stand before each of the texts. -/
theorem SpellsAll.indented {texts : List (List Char)} {lists : Option (List (List Lexeme))}
    (spells : SpellsAll texts lists) {indent : List Char}
    (blank : ∀ c ∈ indent, Text.isBlank c = true) :
    SpellsAll (texts.map (indent ++ ·)) lists := by
  induction spells with
  | nil => exact .nil
  | cons first others hypothesis => exact .cons (first.blanks_append blank) hypothesis

end Lexeme

end TableSchema
