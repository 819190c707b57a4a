import TableSchema.Proofs.Numeral

/-! # How far a lexeme reaches

Each group of tokens takes a beginning of the text (`Token.lexeme?_isPrefix`). What it takes does
not depend on what follows, as long as that begins with nothing that a number or a name could take
along (`Token.Breaks`, `Token.lexeme?_append`).
-/

namespace TableSchema

namespace Text

/-- What a test finds of every character of a text holds of every character of it. -/
theorem forall_of_all {holds : Char → Prop} [DecidablePred holds] {text : List Char}
    (all : text.all (fun c => decide (holds c)) = true) : ∀ c ∈ text, holds c :=
  fun c member => of_decide_eq_true (List.all_eq_true.mp all c member)

/-- A key begins with an ASCII letter, an underscore or a dollar sign. -/
theorem isKeyStart_iff (c : Char) : isKeyStart c = true ↔
    (0x61 ≤ c.toNat ∧ c.toNat ≤ 0x7A) ∨ (0x41 ≤ c.toNat ∧ c.toNat ≤ 0x5A) ∨
      c.toNat = 0x5F ∨ c.toNat = 0x24 := by
  have code (d : Char) : c = d ↔ c.toNat = d.toNat := Char.toNat_inj.symm
  simp only [isKeyStart, isAsciiLetter, Bool.or_eq_true, Bool.and_eq_true, decide_eq_true_eq,
    beq_iff_eq, code, Char.le_def, UInt32.le_iff_toNat_le, or_assoc]
  rfl

/-- A key goes on with what may begin it or with an ASCII digit. -/
theorem isKeyPart_iff (c : Char) : isKeyPart c = true ↔
    isKeyStart c = true ∨ (0x30 ≤ c.toNat ∧ c.toNat ≤ 0x39) := by
  simp only [isKeyPart, isAsciiDigit, Bool.or_eq_true, Bool.and_eq_true, decide_eq_true_eq,
    Char.le_def, UInt32.le_iff_toNat_le]
  rfl

/-- No digit begins a key. -/
theorem isDigit_of_isKeyStart {c : Char} (start : isKeyStart c = true) : isDigit c = false := by
  rw [isKeyStart_iff] at start
  cases digit : isDigit c with
  | false => rfl
  | true =>
    have := toNat_of_isDigit digit
    omega

/-- No blank begins a key. -/
theorem isBlank_of_isKeyStart {c : Char} (start : isKeyStart c = true) : isBlank c = false := by
  rw [isKeyStart_iff] at start
  have ascii : c.toNat < 0x80 := by omega
  simp only [isBlank, ascii, ↓reduceIte, Bool.or_eq_false_iff, Bool.and_eq_false_imp,
    decide_eq_true_eq, decide_eq_false_iff_not]
  omega

/-- No digit is a blank. -/
theorem isBlank_of_isDigit {c : Char} (digit : isDigit c = true) : isBlank c = false := by
  have apart : ∀ first ∈ digitZeros, ∀ range ∈ blankRanges,
      range.2 < first ∨ first + 10 ≤ range.1 := by decide
  simp only [isDigit, digitValue?, Option.isSome_map, List.find?_isSome, Bool.and_eq_true,
    decide_eq_true_eq] at digit
  obtain ⟨first, member, lower, upper⟩ := digit
  unfold isBlank
  split
  · have := toNat_of_isDigit (c := c) (by
      simp only [isDigit, digitValue?, Option.isSome_map, List.find?_isSome, Bool.and_eq_true,
        decide_eq_true_eq]
      exact ⟨first, member, lower, upper⟩)
    simp only [Bool.or_eq_false_iff, Bool.and_eq_false_imp, decide_eq_true_eq,
      decide_eq_false_iff_not]
    omega
  · rw [← Bool.not_eq_true, CodeRanges.contains_iff]
    rintro ⟨range, listed, inside⟩
    have := apart first member range listed
    omega

end Text

namespace Token

/-- What follows ends any number or name before it. -/
def Breaks (rest : List Char) : Prop :=
  (∀ c ∈ rest.head?, Text.isKeyPart c = false ∧ Text.isDigit c = false ∧ c ≠ '+' ∧ c ≠ '-') ∧
    fraction? rest = none

variable {rest : List Char}

theorem Breaks.isDigit (breaks : Breaks rest) : ∀ c ∈ rest.head?, Text.isDigit c = false :=
  fun c member => (breaks.1 c member).2.1

/-- A run of characters does not reach into a text that begins with another character. -/
theorem takeWhile_append_of_head {holds : Char → Bool}
    (stops : ∀ c ∈ rest.head?, holds c = false) (text : List Char) :
    (text ++ rest).takeWhile holds = text.takeWhile holds := by
  rw [List.takeWhile_append]
  split
  · next whole =>
    have none : rest.takeWhile holds = [] := by
      cases rest with
      | nil => rfl
      | cons c rest => exact List.takeWhile_cons_of_neg (by simp [stops c rfl])
    rw [none, List.append_nil]
    exact ((List.takeWhile_prefix holds).eq_of_length whole).symm
  · rfl

theorem digitRun_append (breaks : Breaks rest) (text : List Char) :
    Text.digitRun (text ++ rest) = Text.digitRun text :=
  takeWhile_append_of_head breaks.isDigit text

/-! ### A lexeme begins its text -/

/-- A fraction is taken off the front of a text. -/
theorem fraction?_isPrefix {text fraction : List Char} (read : fraction? text = some fraction) :
    fraction <+: text := by
  unfold fraction? at read
  split at read
  · next rest =>
    split at read
    · cases read
    · next same =>
      cases read
      rw [List.prefix_cons_inj]
      exact List.takeWhile_prefix Text.isDigit
  · cases read

/-- Digits with a sign are taken off the front of a text. -/
theorem signedDigits?_isPrefix {text digits : List Char}
    (read : signedDigits? text = some digits) : digits <+: text := by
  unfold signedDigits? at read
  split at read
  · cases read
  · next c rest =>
    split at read
    · split at read
      · cases read
      · cases read
        rw [List.prefix_cons_inj]
        exact List.takeWhile_prefix Text.isDigit
    · split at read
      · cases read
      · cases read
        exact List.takeWhile_prefix Text.isDigit

/-- An exponent is taken off the front of a text. -/
theorem exponent?_isPrefix {text exponent : List Char} (read : exponent? text = some exponent) :
    exponent <+: text := by
  unfold exponent? at read
  split at read
  · next c rest =>
    split at read
    · obtain ⟨digits, found, rfl⟩ := Option.map_eq_some_iff.mp read
      rw [List.prefix_cons_inj]
      exact signedDigits?_isPrefix found
    · cases read
  · cases read

/-- A part and what an optional reader takes after it. -/
theorem append_getD_isPrefix {part text : List Char} {reader : List Char → Option (List Char)}
    (begins : part <+: text) (tail : ∀ {taken}, reader (text.drop part.length) = some taken →
      taken <+: text.drop part.length) :
    part ++ (reader (text.drop part.length)).getD [] <+: text := by
  obtain ⟨after, rfl⟩ := begins
  rw [List.drop_left] at tail ⊢
  rw [List.prefix_append_right_inj]
  cases read : reader after with
  | none => exact List.nil_prefix
  | some taken => exact tail read

/-- A mantissa is taken off the front of a text. -/
theorem mantissa?_isPrefix {text mantissa : List Char} (read : mantissa? text = some mantissa) :
    mantissa <+: text := by
  unfold mantissa? at read
  split at read
  · exact fraction?_isPrefix read
  · cases read
    exact append_getD_isPrefix (List.takeWhile_prefix Text.isDigit) fraction?_isPrefix

/-- A number without a sign is taken off the front of a text. -/
theorem unsigned?_isPrefix {text number : List Char} (read : unsigned? text = some number) :
    number <+: text := by
  obtain ⟨mantissa, found, rfl⟩ := Option.map_eq_some_iff.mp read
  exact append_getD_isPrefix (mantissa?_isPrefix found) exponent?_isPrefix

/-- A number is taken off the front of a text. -/
theorem number?_isPrefix {text number : List Char} (read : number? text = some number) :
    number <+: text := by
  unfold number? at read
  split at read
  · obtain ⟨unsigned, found, rfl⟩ := Option.map_eq_some_iff.mp read
    rw [List.prefix_cons_inj]
    exact unsigned?_isPrefix found
  · exact unsigned?_isPrefix read

/-- Behind a character other than a backslash a string ends, or goes on. -/
theorem stringTail?_cons {quote c : Char} (plain : c ≠ '\\') (rest : List Char) :
    stringTail? quote (c :: rest) =
      if c = quote then some [c] else (stringTail? quote rest).map (c :: ·) := by
  rw [stringTail?]
  · rintro rfl
    exact absurd rfl plain
  · rintro d more rfl
    exact absurd rfl plain

/-- The rest of a string is found again whatever follows it. -/
theorem stringTail?_isPrefix {quote : Char} {text tail : List Char}
    (read : stringTail? quote text = some tail) :
    tail <+: text ∧ ∀ rest, stringTail? quote (tail ++ rest) = some tail := by
  -- Away from a backslash the two hypotheses that a match leaves behind say just that.
  have plain {c : Char} {rest : List Char} (last : c = '\\' → rest = [] → False)
      (escape : ∀ d more, c = '\\' → rest = d :: more → False) : c ≠ '\\' := by
    intro same
    cases rest with
    | nil => exact last same rfl
    | cons d more => exact escape d more same rfl
  fun_induction stringTail? quote text generalizing tail with
  | case1 => cases read
  | case2 => cases read
  | case3 c rest hypothesis =>
    obtain ⟨inner, found, rfl⟩ := Option.map_eq_some_iff.mp read
    obtain ⟨begins, again⟩ := hypothesis found
    refine ⟨?_, fun rest => ?_⟩
    · simpa using begins
    · simp [stringTail?, again]
  | case4 rest last escape =>
    cases read
    refine ⟨by simp, fun after => ?_⟩
    rw [List.singleton_append, stringTail?_cons (plain last escape), if_pos rfl]
  | case5 c rest last escape other hypothesis =>
    obtain ⟨inner, found, rfl⟩ := Option.map_eq_some_iff.mp read
    obtain ⟨begins, again⟩ := hypothesis found
    refine ⟨by simpa using begins, fun after => ?_⟩
    rw [List.cons_append, stringTail?_cons (plain last escape), if_neg other, again]
    rfl

/-- A string is taken off the front of a text, and also where something else follows it. -/
theorem string?_isPrefix {text string : List Char} (read : string? text = some string) :
    string <+: text ∧ ∀ rest, string? (string ++ rest) = some string := by
  unfold string? at read
  split at read
  · next c rest =>
    split at read
    · next opens =>
      obtain ⟨tail, found, rfl⟩ := Option.map_eq_some_iff.mp read
      obtain ⟨begins, again⟩ := stringTail?_isPrefix found
      refine ⟨by simpa using begins, fun after => ?_⟩
      rw [List.cons_append, string?, if_pos opens, again]
      rfl
    · cases read
  · cases read

/-- A name is taken off the front of a text. -/
theorem name?_isPrefix {text name : List Char} (read : name? text = some name) : name <+: text := by
  unfold name? at read
  split at read
  · split at read
    · cases read
      rw [List.prefix_cons_inj]
      exact List.takeWhile_prefix Text.isKeyPart
    · cases read
  · cases read

/-- A punctuation character is taken off the front of a text. -/
theorem punctuation?_isPrefix {text mark : List Char} (read : punctuation? text = some mark) :
    mark <+: text := by
  unfold punctuation? at read
  split at read
  · split at read
    · cases read
      simp
    · cases read
  · cases read

/-- The ways in which a text begins with a lexeme. -/
theorem lexeme?_eq_some {text taken : List Char} {group : Group}
    (read : lexeme? text = some (group, taken)) :
    (group = .number ∧ number? text = some taken) ∨
      (group = .string ∧ string? text = some taken) ∨
      (group = .name ∧ name? text = some taken) ∨
      (group = .punctuation ∧ punctuation? text = some taken) := by
  simp only [lexeme?, Option.or_eq_some_iff, Option.map_eq_some_iff, Prod.mk.injEq,
    Option.map_eq_none_iff] at read
  grind

/-- A lexeme is taken off the front of a text. -/
theorem lexeme?_isPrefix {text taken : List Char} {group : Group}
    (read : lexeme? text = some (group, taken)) : taken <+: text := by
  rcases lexeme?_eq_some read with ⟨-, found⟩ | ⟨-, found⟩ | ⟨-, found⟩ | ⟨-, found⟩
  · exact number?_isPrefix found
  · exact (string?_isPrefix found).1
  · exact name?_isPrefix found
  · exact punctuation?_isPrefix found

/-! ### What a lexeme holds -/

/-- A fraction has a digit. -/
theorem fraction?_digit {text fraction : List Char} (read : fraction? text = some fraction) :
    ∃ c ∈ fraction, Text.isDigit c = true := by
  unfold fraction? at read
  split at read
  · next rest =>
    split at read
    · cases read
    · next nonempty =>
      cases read
      obtain ⟨c, digits, run⟩ := List.exists_cons_of_ne_nil nonempty
      have member : c ∈ Text.digitRun rest := by rw [run]; exact List.mem_cons_self ..
      exact ⟨c, List.mem_cons_of_mem _ member, List.all_eq_true.mp List.all_takeWhile c member⟩
  · cases read

/-- A mantissa has a digit. -/
theorem mantissa?_digit {text mantissa : List Char} (read : mantissa? text = some mantissa) :
    ∃ c ∈ mantissa, Text.isDigit c = true := by
  unfold mantissa? at read
  split at read
  · exact fraction?_digit read
  · next nonempty =>
    cases read
    obtain ⟨c, digits, run⟩ := List.exists_cons_of_ne_nil nonempty
    have member : c ∈ Text.digitRun text := by rw [run]; exact List.mem_cons_self ..
    exact ⟨c, List.mem_append_left _ member, List.all_eq_true.mp List.all_takeWhile c member⟩

/-- A number holds a digit. -/
theorem number?_digit {text number : List Char} (read : number? text = some number) :
    ∃ c ∈ number, Text.isDigit c = true := by
  have unsigned {text number : List Char} (read : unsigned? text = some number) :
      ∃ c ∈ number, Text.isDigit c = true := by
    obtain ⟨mantissa, found, rfl⟩ := Option.map_eq_some_iff.mp read
    obtain ⟨c, member, digit⟩ := mantissa?_digit found
    exact ⟨c, List.mem_append_left _ member, digit⟩
  unfold number? at read
  split at read
  · obtain ⟨inner, found, rfl⟩ := Option.map_eq_some_iff.mp read
    obtain ⟨c, member, digit⟩ := unsigned found
    exact ⟨c, List.mem_cons_of_mem _ member, digit⟩
  · exact unsigned read

/-- A name begins with the start of a key. -/
theorem name?_head {text name : List Char} (read : name? text = some name) :
    ∃ c rest, name = c :: rest ∧ Text.isKeyStart c = true := by
  unfold name? at read
  split at read
  · split at read
    · next start =>
      cases read
      exact ⟨_, _, rfl, start⟩
    · cases read
  · cases read

/-- A lexeme has at least one character. -/
theorem lexeme?_ne_nil {text taken : List Char} {group : Group}
    (read : lexeme? text = some (group, taken)) : taken ≠ [] := by
  rintro rfl
  rcases lexeme?_eq_some read with ⟨-, found⟩ | ⟨-, found⟩ | ⟨-, found⟩ | ⟨-, found⟩
  · obtain ⟨c, member, -⟩ := number?_digit found
    cases member
  · cases text with
    | nil => cases found
    | cons c rest =>
      rw [string?] at found
      split at found
      · simp at found
      · cases found
  · obtain ⟨c, rest, same, -⟩ := name?_head found
    cases same
  · cases text with
    | nil => cases found
    | cons c rest => simp [punctuation?] at found

/-- Only punctuation and strings are spelled like a punctuation character. -/
theorem lexeme?_punctuation {text : List Char} {group : Group} {c : Char}
    (read : lexeme? text = some (group, [c])) (mark : c ∈ punctuation) :
    group = .string ∨ group = .punctuation := by
  rcases lexeme?_eq_some read with ⟨-, found⟩ | ⟨rfl, -⟩ | ⟨-, found⟩ | ⟨rfl, -⟩
  · obtain ⟨d, member, digit⟩ := number?_digit found
    obtain rfl := List.mem_singleton.mp member
    have none : ∀ c ∈ punctuation, Text.isDigit c = false := Text.forall_of_all (by decide)
    exact absurd digit (by simp [none d mark])
  · exact .inl rfl
  · obtain ⟨d, rest, same, start⟩ := name?_head found
    cases same
    have none : ∀ c ∈ punctuation, Text.isKeyStart c = false :=
      Text.forall_of_all (by decide)
    exact absurd start (by simp [none c mark])
  · exact .inr rfl

/-! ### What follows a lexeme -/

/-- A fraction is the same where a break follows the text. -/
theorem fraction?_append (breaks : Breaks rest) (text : List Char) :
    fraction? (text ++ rest) = fraction? text := by
  cases text with
  | nil => exact breaks.2
  | cons c text =>
    rw [List.cons_append]
    by_cases point : c = '.'
    · subst point
      simp only [fraction?, digitRun_append breaks]
    · have pointless (rest : List Char) : fraction? (c :: rest) = none := by
        rw [fraction?]
        intro more same
        cases same
        exact point rfl
      rw [pointless, pointless]

/-- Digits with a sign are the same where a break follows the text. -/
theorem signedDigits?_append (breaks : Breaks rest) (text : List Char) :
    signedDigits? (text ++ rest) = signedDigits? text := by
  cases text with
  | nil =>
    cases rest with
    | nil => rfl
    | cons c rest =>
      obtain ⟨-, digit, plus, minus⟩ := breaks.1 c rfl
      have run : Text.digitRun (c :: rest) = [] := List.takeWhile_cons_of_neg (by simp [digit])
      simp [signedDigits?, plus, minus, run]
  | cons c text =>
    have run := digitRun_append breaks text
    have whole := digitRun_append breaks (c :: text)
    rw [List.cons_append] at whole ⊢
    simp only [signedDigits?, run, whole]

/-- An exponent is the same where a break follows the text. -/
theorem exponent?_append (breaks : Breaks rest) (text : List Char) :
    exponent? (text ++ rest) = exponent? text := by
  cases text with
  | nil =>
    cases rest with
    | nil => rfl
    | cons c rest =>
      have key := (breaks.1 c rfl).1
      have lower : c ≠ 'e' := by rintro rfl; exact absurd key (by decide)
      have upper : c ≠ 'E' := by rintro rfl; exact absurd key (by decide)
      simp [exponent?, lower, upper]
  | cons c text => simp only [List.cons_append, exponent?, signedDigits?_append breaks]

/-- A mantissa is the same where a break follows the text. -/
theorem mantissa?_append (breaks : Breaks rest) (text : List Char) :
    mantissa? (text ++ rest) = mantissa? text := by
  have length : (Text.digitRun text).length ≤ text.length :=
    (List.takeWhile_prefix Text.isDigit).length_le
  unfold mantissa?
  rw [digitRun_append breaks text]
  cases digits : Text.digitRun text with
  | nil => exact fraction?_append breaks text
  | cons c more =>
    rw [digits] at length
    simp only [List.drop_append_of_le_length length, fraction?_append breaks]

/-- A number without a sign is the same where a break follows the text. -/
theorem unsigned?_append (breaks : Breaks rest) (text : List Char) :
    unsigned? (text ++ rest) = unsigned? text := by
  unfold unsigned?
  rw [mantissa?_append breaks]
  cases read : mantissa? text with
  | none => rfl
  | some mantissa =>
    have length := (mantissa?_isPrefix read).length_le
    simp only [Option.map_some, List.drop_append_of_le_length length, exponent?_append breaks]

/-- A number that does not begin with a minus has no sign. -/
theorem number?_cons {c : Char} (unsigned : c ≠ '-') (rest : List Char) :
    number? (c :: rest) = unsigned? (c :: rest) := by
  rw [number?]
  intro more same
  cases same
  exact unsigned rfl

/-- The number that begins a text does not depend on what follows a break. -/
theorem number?_append (breaks : Breaks rest) (text : List Char) :
    number? (text ++ rest) = number? text := by
  cases text with
  | nil =>
    cases rest with
    | nil => rfl
    | cons c rest =>
      rw [List.nil_append, number?_cons (breaks.1 c rfl).2.2.2]
      exact unsigned?_append breaks []
  | cons c text =>
    rw [List.cons_append]
    by_cases minus : c = '-'
    · subst minus
      simp only [number?, unsigned?_append breaks]
    · rw [number?_cons minus, number?_cons minus]
      exact unsigned?_append breaks (c :: text)

/-- A name is the same where a break follows the text. -/
theorem name?_append (breaks : Breaks rest) {text : List Char} (nonempty : text ≠ []) :
    name? (text ++ rest) = name? text := by
  obtain ⟨c, text, rfl⟩ := List.exists_cons_of_ne_nil nonempty
  simp only [List.cons_append, name?,
    takeWhile_append_of_head (fun c member => (breaks.1 c member).1) text]

/-- A character that is no digit, no point and no minus begins no number. -/
theorem number?_eq_none {c : Char} (digit : Text.isDigit c = false) (point : c ≠ '.')
    (minus : c ≠ '-') (rest : List Char) : number? (c :: rest) = none := by
  have run : Text.digitRun (c :: rest) = [] := List.takeWhile_cons_of_neg (by simp [digit])
  rw [number?_cons minus, unsigned?, mantissa?, run, fraction?]
  · rfl
  · intro more same
    cases same
    exact point rfl

/-- What begins neither a number nor a string begins a name or is punctuation. -/
theorem lexeme?_of_word {c : Char} {rest : List Char} (number : number? (c :: rest) = none)
    (quote : ¬(c = '\x27' ∨ c = '"')) :
    lexeme? (c :: rest) = ((name? (c :: rest)).map (Group.name, ·)).or
      ((punctuation? (c :: rest)).map (Group.punctuation, ·)) := by
  have string : string? (c :: rest) = none := by rw [string?, if_neg quote]
  rw [lexeme?, number, string]
  rfl

/-- What begins no number, no string and no name is punctuation. -/
theorem lexeme?_of_mark {c : Char} {rest : List Char} (number : number? (c :: rest) = none)
    (quote : ¬(c = '\x27' ∨ c = '"')) (start : ¬Text.isKeyStart c = true) :
    lexeme? (c :: rest) = (punctuation? (c :: rest)).map (Group.punctuation, ·) := by
  have name : name? (c :: rest) = none := by rw [name?, if_neg start]
  rw [lexeme?_of_word number quote, name]
  rfl

/-- A quote begins nothing but a string. -/
theorem lexeme?_quote {c : Char} (quote : c = '\x27' ∨ c = '"') (rest : List Char) :
    lexeme? (c :: rest) = (string? (c :: rest)).map (Group.string, ·) := by
  have number : number? (c :: rest) = none := by
    apply number?_eq_none <;> rcases quote with rfl | rfl <;> decide
  have name : name? (c :: rest) = none := by
    rw [name?, if_neg (by rcases quote with rfl | rfl <;> decide)]
  have mark : punctuation? (c :: rest) = none := by
    rw [punctuation?, if_neg (by rcases quote with rfl | rfl <;> decide)]
  rw [lexeme?, number, name, mark]
  simp

/-- The lexeme that begins a text begins it whatever follows a break. -/
theorem lexeme?_append (breaks : Breaks rest) {text taken : List Char} {group : Group}
    (read : lexeme? text = some (group, taken)) :
    lexeme? (text ++ rest) = some (group, taken) := by
  cases text with
  | nil => simp [lexeme?, number?, unsigned?, mantissa?, fraction?, Text.digitRun, string?, name?,
      punctuation?] at read
  | cons c text =>
    by_cases quote : c = '\x27' ∨ c = '"'
    · rw [List.cons_append, lexeme?_quote quote]
      rw [lexeme?_quote quote] at read
      obtain ⟨string, found, same⟩ := Option.map_eq_some_iff.mp read
      obtain ⟨⟨after, begins⟩, again⟩ := string?_isPrefix found
      rw [← List.cons_append, ← begins, List.append_assoc, again, Option.map_some, same]
    · have string (rest : List Char) : string? (c :: rest) = none := by rw [string?, if_neg quote]
      have mark : punctuation? (c :: text ++ rest) = punctuation? (c :: text) := rfl
      rw [lexeme?, number?_append breaks, name?_append breaks (by simp), mark, List.cons_append,
        string]
      rw [lexeme?, string] at read
      exact read

end Token

end TableSchema
