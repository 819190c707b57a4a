import TableSchema.Proofs.Grammar

/-! # Reading quoted text

A quoted text is one string token (`Text.string?_quote`), and its content is the text with every
character replaced by what its escape reads as (`Text.content_quote`). A character reads as itself
exactly when it may stand in quotes (`Text.IsQuotable`): a control character without an escape of
its own reads as the letters of its escape, and so does every character beyond ASCII in a quoted
key. A key without quotes loses a line break at its end (`Text.rereadKey`).
-/

namespace TableSchema.Text

open Expression Token

/-! ### Escaped text -/

/-- Text between quotes, in which every backslash takes a character along. -/
inductive Escaped : List Char → Prop
  | nil : Escaped []
  | plain {c : Char} {rest : List Char} (quote : c ≠ '"') (backslash : c ≠ '\\')
      (others : Escaped rest) : Escaped (c :: rest)
  | escape {c : Char} {rest : List Char} (others : Escaped rest) : Escaped ('\\' :: c :: rest)

namespace Escaped

variable {text : List Char}

/-- Escaped texts are escaped one after another. -/
theorem append (escaped : Escaped text) {rest : List Char} (others : Escaped rest) :
    Escaped (text ++ rest) := by
  induction escaped with
  | nil => exact others
  | plain quote backslash _ hypothesis => exact .plain quote backslash hypothesis
  | escape _ hypothesis => exact .escape hypothesis

/-- A character other than a backslash stands for itself. -/
theorem unescape_cons {c : Char} (plain : c ≠ '\\') (rest : List Char) :
    Expression.unescape (c :: rest) = c :: Expression.unescape rest := by
  rw [Expression.unescape]
  rintro d more rfl
  exact absurd rfl plain

/-- Escapes do not reach beyond an escaped text. -/
theorem unescape_append (escaped : Escaped text) (rest : List Char) :
    Expression.unescape (text ++ rest) = Expression.unescape text ++ Expression.unescape rest := by
  induction escaped with
  | nil => rfl
  | plain quote backslash _ hypothesis =>
    rw [List.cons_append, unescape_cons backslash, unescape_cons backslash, hypothesis]
    rfl
  | escape _ hypothesis => simp only [List.cons_append, Expression.unescape, hypothesis]

/-- A string ends at the first quote behind an escaped text. -/
theorem stringTail?_eq (escaped : Escaped text) (rest : List Char) :
    stringTail? '"' (text ++ '"' :: rest) = some (text ++ ['"']) := by
  induction escaped with
  | nil => simp [stringTail?_cons]
  | plain quote backslash _ hypothesis =>
    rw [List.cons_append, stringTail?_cons backslash, if_neg quote, hypothesis]
    rfl
  | escape _ hypothesis =>
    simp only [List.cons_append, stringTail?, hypothesis, Option.map_some]

end Escaped

/-! ### Escapes -/

/-- A digit is neither a quote nor a backslash. -/
theorem digitChar_plain (n : Nat) : n.digitChar ≠ '"' ∧ n.digitChar ≠ '\\' := by
  match n with
  | 0 | 1 | 2 | 3 | 4 | 5 | 6 | 7 | 8 | 9 | 10 | 11 | 12 | 13 | 14 | 15 => decide
  | n + 16 => simp [Nat.digitChar]

/-- A hexadecimal digit of a number is neither a quote nor a backslash. -/
theorem toDigits_plain (n : Nat) : ∀ c ∈ Nat.toDigits 16 n, c ≠ '"' ∧ c ≠ '\\' := by
  induction n using Nat.strongRecOn with
  | ind n hypothesis =>
    rw [Nat.toDigits_eq_if (by decide)]
    split
    · exact List.forall_mem_singleton.mpr (digitChar_plain n)
    · exact List.forall_mem_append.mpr ⟨hypothesis (n / 16) (by omega),
        List.forall_mem_singleton.mpr (digitChar_plain (n % 16))⟩

/-- A padded hexadecimal digit is neither a quote nor a backslash. -/
theorem hexDigits_plain (width n : Nat) : ∀ c ∈ hexDigits width n, c ≠ '"' ∧ c ≠ '\\' := by
  refine List.forall_mem_append.mpr ⟨?_, toDigits_plain n⟩
  intro c member
  rw [List.eq_of_mem_replicate member]
  decide

/-- A text without quotes and backslashes is escaped. -/
theorem escaped_of_plain {text : List Char} (plain : ∀ c ∈ text, c ≠ '"' ∧ c ≠ '\\') :
    Escaped text := by
  induction text with
  | nil => exact .nil
  | cons c rest hypothesis =>
    obtain ⟨⟨quote, backslash⟩, others⟩ := List.forall_mem_cons.mp plain
    exact .plain quote backslash (hypothesis others)

theorem escaped_unitEscape (unit : Nat) : Escaped (unitEscape unit) :=
  .escape (escaped_of_plain (hexDigits_plain 4 unit))

/-- The escape of a character by its code is escaped. -/
theorem escaped_unicodeEscape (c : Char) : Escaped (unicodeEscape c) := by
  unfold unicodeEscape
  split
  · exact escaped_unitEscape _
  · exact (escaped_unitEscape _).append (escaped_unitEscape _)

/-- The control characters that have an escape of their own. -/
def namedControls : List Char :=
  ['\x08', '\t', '\n', '\x0C', '\r']

/-- Whether a character reads as itself when it is quoted. -/
def IsQuotable (asciiOnly : Bool) (c : Char) : Prop :=
  (0x20 ≤ c.toNat ∨ c ∈ namedControls) ∧ (asciiOnly = true → c.toNat < 0x7F)

instance (asciiOnly : Bool) (c : Char) : Decidable (IsQuotable asciiOnly c) :=
  inferInstanceAs (Decidable (_ ∧ _))

/-- A character is quoted by an escape of two characters, as it stands, or by its code. -/
theorem quotedChar_cases (asciiOnly : Bool) (c : Char) :
    (IsQuotable asciiOnly c ∧ ∃ x, quotedChar asciiOnly c = ['\\', x] ∧ escaped x = c) ∨
      (IsQuotable asciiOnly c ∧ quotedChar asciiOnly c = [c] ∧ c ≠ '"' ∧ c ≠ '\\') ∨
      (¬IsQuotable asciiOnly c ∧ quotedChar asciiOnly c = unicodeEscape c) := by
  have named {c : Char} (ascii : c.toNat < 0x7F) (visible : 0x20 ≤ c.toNat ∨ c ∈ namedControls) :
      IsQuotable asciiOnly c := ⟨visible, fun _ => ascii⟩
  unfold quotedChar
  -- Seven characters have an escape of two characters.
  iterate 7
    split
    · next same =>
      subst same
      exact .inl ⟨named (by decide) (by decide), _, rfl, by decide⟩
  split
  · next quote backslash newline return_ tab backspace feed hidden =>
    refine .inr (.inr ⟨?_, rfl⟩)
    rintro ⟨visible, ascii⟩
    simp only [namedControls, List.mem_cons, List.not_mem_nil, newline, return_, tab, backspace,
      feed, or_self, or_false] at visible
    simp only [Bool.or_eq_true, decide_eq_true_eq, Bool.and_eq_true] at hidden
    rcases hidden with low | ⟨only, high⟩
    · omega
    · exact absurd (ascii only) (by omega)
  · next quote backslash _ _ _ _ _ shown =>
    simp only [Bool.or_eq_true, decide_eq_true_eq, Bool.and_eq_true, not_or, not_and,
      Nat.not_lt, Nat.not_le] at shown
    exact .inr (.inl ⟨⟨.inl shown.1, shown.2⟩, rfl, quote, backslash⟩)

/-- A quoted character is escaped. -/
theorem escaped_quotedChar (asciiOnly : Bool) (c : Char) : Escaped (quotedChar asciiOnly c) := by
  rcases quotedChar_cases asciiOnly c with
    ⟨-, x, same, -⟩ | ⟨-, same, quote, backslash⟩ | ⟨-, same⟩ <;> rw [same]
  · exact .escape .nil
  · exact .plain quote backslash .nil
  · exact escaped_unicodeEscape c

/-- A quoted text is escaped between its quotes. -/
theorem escaped_flatMap (asciiOnly : Bool) (text : List Char) :
    Escaped (text.flatMap (quotedChar asciiOnly)) := by
  induction text with
  | nil => exact .nil
  | cons c rest hypothesis => exact (escaped_quotedChar asciiOnly c).append hypothesis

/-- A quoted text is one string token. -/
theorem string?_quote (asciiOnly : Bool) (text : List Char) :
    string? (quote asciiOnly text) = some (quote asciiOnly text) := by
  rw [quote, string?, if_pos (.inr rfl), (escaped_flatMap asciiOnly text).stringTail?_eq []]
  rfl

/-! ### What quoted text reads as -/

/-- What a character reads as when it is quoted. -/
def rereadChar (asciiOnly : Bool) (c : Char) : List Char :=
  Expression.unescape (quotedChar asciiOnly c)

/-- What a text reads as when it is quoted. -/
def reread (asciiOnly : Bool) (text : String) : String :=
  String.ofList (text.toList.flatMap (rereadChar asciiOnly))

/-- A character that can be quoted reads as itself. -/
theorem rereadChar_eq {asciiOnly : Bool} {c : Char} (quotable : IsQuotable asciiOnly c) :
    rereadChar asciiOnly c = [c] := by
  unfold rereadChar
  rcases quotedChar_cases asciiOnly c with ⟨-, x, same, reads⟩ | ⟨-, same, -⟩ | ⟨other, -⟩
  · rw [same, Expression.unescape, reads, Expression.unescape]
  · rw [same]
    simp [Expression.unescape]
  · exact absurd quotable other

/-- A text without quotes and backslashes stands for itself. -/
theorem unescape_plain {text : List Char} (plain : ∀ c ∈ text, c ≠ '"' ∧ c ≠ '\\') :
    Expression.unescape text = text := by
  induction text with
  | nil => rfl
  | cons c rest hypothesis =>
    obtain ⟨⟨-, backslash⟩, others⟩ := List.forall_mem_cons.mp plain
    rw [Escaped.unescape_cons backslash, hypothesis others]

/-- The escape of a code unit reads as more than one character: its digits stay. -/
theorem one_lt_length_unitEscape (unit : Nat) :
    1 < (Expression.unescape (unitEscape unit)).length := by
  have digits : 0 < (Nat.toDigits 16 unit).length := Nat.length_toDigits_pos
  rw [unitEscape, Expression.unescape, unescape_plain (hexDigits_plain 4 unit)]
  simp only [hexDigits, List.length_cons, List.length_append]
  omega

/-- A character that is quoted by its code reads as more than one. -/
theorem one_lt_length_rereadChar {asciiOnly : Bool} {c : Char}
    (other : ¬IsQuotable asciiOnly c) : 1 < (rereadChar asciiOnly c).length := by
  unfold rereadChar
  rcases quotedChar_cases asciiOnly c with ⟨quotable, -⟩ | ⟨quotable, -⟩ | ⟨-, same⟩
  · exact absurd quotable other
  · exact absurd quotable other
  · rw [same, unicodeEscape]
    split
    · exact one_lt_length_unitEscape _
    · rw [(escaped_unitEscape _).unescape_append, List.length_append]
      exact Nat.lt_add_right _ (one_lt_length_unitEscape _)

/-- A quoted character reads as at least one character. -/
theorem rereadChar_ne_nil (asciiOnly : Bool) (c : Char) : 0 < (rereadChar asciiOnly c).length := by
  by_cases quotable : IsQuotable asciiOnly c
  · rw [rereadChar_eq quotable, List.length_singleton]
    exact Nat.zero_lt_one
  · exact Nat.lt_trans Nat.zero_lt_one (one_lt_length_rereadChar quotable)

/-- A quoted text reads as no shorter text. -/
theorem length_le_flatMap_rereadChar (asciiOnly : Bool) (text : List Char) :
    text.length ≤ (text.flatMap (rereadChar asciiOnly)).length := by
  induction text with
  | nil => exact Nat.le_refl 0
  | cons c rest hypothesis =>
    have positive := rereadChar_ne_nil asciiOnly c
    simp only [List.flatMap_cons, List.length_cons, List.length_append]
    omega

/-- A quoted text reads as itself exactly if each of its characters does. -/
theorem flatMap_rereadChar_eq_iff (asciiOnly : Bool) (text : List Char) :
    text.flatMap (rereadChar asciiOnly) = text ↔ ∀ c ∈ text, IsQuotable asciiOnly c := by
  induction text with
  | nil => simp
  | cons c rest hypothesis =>
    rw [List.flatMap_cons, List.forall_mem_cons]
    constructor
    · intro same
      by_cases quotable : IsQuotable asciiOnly c
      · rw [rereadChar_eq quotable, List.singleton_append, List.cons.injEq, hypothesis] at same
        exact ⟨quotable, same.2⟩
      · -- The escape is too long for the rest to make up for it.
        have long := one_lt_length_rereadChar quotable
        have others := length_le_flatMap_rereadChar asciiOnly rest
        have length := congrArg List.length same
        simp only [List.length_append, List.length_cons] at length
        omega
    · rintro ⟨quotable, others⟩
      rw [rereadChar_eq quotable, hypothesis.mpr others]
      rfl

/-- A text reads as itself when it is quoted, exactly if all its characters do. -/
theorem reread_eq_iff (asciiOnly : Bool) (text : String) :
    reread asciiOnly text = text ↔ ∀ c ∈ text.toList, IsQuotable asciiOnly c := by
  rw [reread, ← flatMap_rereadChar_eq_iff, ← String.toList_inj, String.toList_ofList]

/-- The content of a quoted text is what its characters read as. -/
theorem content_quote (asciiOnly : Bool) (text : String) :
    Lexeme.content (String.ofList (quote asciiOnly text.toList)) = reread asciiOnly text := by
  have reads : ∀ text : List Char,
      Expression.unescape (text.flatMap (quotedChar asciiOnly)) =
        text.flatMap (rereadChar asciiOnly) := by
    intro text
    induction text with
    | nil => rfl
    | cons c rest hypothesis =>
      rw [List.flatMap_cons, (escaped_quotedChar asciiOnly c).unescape_append, hypothesis]
      rfl
  have inside (text : List Char) : ((quote asciiOnly text).drop 1).dropLast =
      text.flatMap (quotedChar asciiOnly) := by
    rw [quote, List.drop_succ_cons, List.drop_zero, List.dropLast_concat]
  rw [Lexeme.content, String.toList_ofList, inside, reads, reread]

/-! ### Keys -/

/-- Behind its first character a bare key goes on as a name does, perhaps with a newline at its end.
-/
theorem isKeyTail_cases {text : List Char} (tail : isKeyTail text = true) :
    ∃ parts, (∀ c ∈ parts, isKeyPart c = true) ∧ (text = parts ∨ text = parts ++ ['\n']) := by
  induction text with
  | nil => exact ⟨[], by simp, .inl rfl⟩
  | cons c rest hypothesis =>
    simp only [isKeyTail, Bool.or_eq_true, Bool.and_eq_true, beq_iff_eq,
      List.isEmpty_iff] at tail
    rcases tail with ⟨rfl, rfl⟩ | ⟨part, others⟩
    · exact ⟨[], by simp, .inr rfl⟩
    · obtain ⟨parts, all, ends⟩ := hypothesis others
      refine ⟨c :: parts, List.forall_mem_cons.mpr ⟨part, all⟩, ?_⟩
      rcases ends with rfl | rfl
      · exact .inl rfl
      · exact .inr rfl

theorem isKeyPart_newline : isKeyPart '\n' = false := by
  decide

/-- A bare key is a name, and perhaps a line break behind it. -/
theorem isBareKey_cases {text : List Char} (bare : isBareKey text = true) :
    IsName (text.takeWhile isKeyPart) ∧
      ((text = text.takeWhile isKeyPart ∧ '\n' ∉ text) ∨
        text = text.takeWhile isKeyPart ++ ['\n']) := by
  cases text with
  | nil => cases bare
  | cons c rest =>
    obtain ⟨start, tail⟩ := Bool.and_eq_true_iff.mp bare
    have part : isKeyPart c = true := (isKeyPart_iff c).mpr (.inl start)
    obtain ⟨parts, all, ends⟩ := isKeyTail_cases tail
    have allParts : ∀ d ∈ c :: parts, isKeyPart d = true := List.forall_mem_cons.mpr ⟨part, all⟩
    have fresh : '\n' ∉ c :: parts := by
      intro member
      have key := allParts _ member
      rw [isKeyPart_newline] at key
      cases key
    have whole : (c :: parts).takeWhile isKeyPart = c :: parts := by
      simpa using @List.takeWhile_append_of_pos _ _ _ [] allParts
    rcases ends with rfl | rfl
    · rw [whole]
      exact ⟨⟨c, _, rfl, start, all⟩, .inl ⟨rfl, fresh⟩⟩
    · have cut : (c :: (parts ++ ['\n'])).takeWhile isKeyPart = c :: parts := by
        rw [← List.cons_append, List.takeWhile_append_of_pos allParts]
        simp [isKeyPart_newline]
      rw [cut]
      exact ⟨⟨c, parts, rfl, start, all⟩, .inr rfl⟩

/-- What a key reads as when it is written. -/
def rereadKey (name : String) : String :=
  if isBareKey name.toList then String.ofList (name.toList.takeWhile isKeyPart)
  else reread true name

/-- The lexeme of a written key. -/
def keyLexeme (name : String) : Lexeme :=
  if isBareKey name.toList then Lexeme.word (String.ofList (name.toList.takeWhile isKeyPart))
  else Lexeme.string (quote true name.toList)

/-- Whether a key reads as itself when it is written. -/
def IsKeptKey (name : String) : Prop :=
  if isBareKey name.toList then '\n' ∉ name.toList
  else ∀ c ∈ name.toList, IsQuotable true c

/-- A key is one lexeme, a name or a string. -/
theorem spells_objectKey (name : String) :
    Lexeme.Spells (objectKey name) (some [keyLexeme name]) := by
  unfold objectKey keyLexeme
  split
  · next bare =>
    obtain ⟨isName, ends⟩ := isBareKey_cases bare
    have spells := Lexeme.spells_name isName
    rcases ends with ⟨same, -⟩ | same
    · rwa [← same] at spells ⊢
    · have broken := spells.append (Lexeme.spells_nil.blank_cons (c := '\n') (by decide))
        fun rest _ => breaks_blank (by decide) rest
      rwa [← same, Lexeme.join_nil] at broken
  · exact Lexeme.spells_string (string?_quote true name.toList)

/-- The lexeme of a key is read as what the key reads as. -/
theorem key_keyLexeme (name : String) : Grammar.Key (keyLexeme name) (rereadKey name) := by
  unfold keyLexeme rereadKey
  split
  · exact .name _
  · rw [← content_quote]
    exact .string _

/-- A key reads as itself exactly if it is kept. -/
theorem rereadKey_eq_iff (name : String) : rereadKey name = name ↔ IsKeptKey name := by
  unfold rereadKey IsKeptKey
  split
  · next bare =>
    obtain ⟨-, ⟨same, fresh⟩ | same⟩ := isBareKey_cases bare
    · rw [← same, String.ofList_toList]
      simp [fresh]
    · have member : '\n' ∈ name.toList := by
        rw [same]
        simp
      have shorter : name.toList.takeWhile isKeyPart ≠ name.toList := by
        intro whole
        have length := congrArg List.length same
        rw [whole, List.length_append, List.length_singleton] at length
        omega
      simp only [member, not_true_eq_false, iff_false]
      intro whole
      exact shorter (by rw [← String.toList_inj, String.toList_ofList] at whole; exact whole)
  · exact reread_eq_iff true name

/-- A text of visible ASCII characters and spaces. -/
def IsAscii (text : String) : Prop :=
  ∀ c ∈ text.toList, 0x20 ≤ c.toNat ∧ c.toNat ≤ 0x7E

/-- A text without control characters but for those that have an escape of their own. -/
def IsPlain (text : String) : Prop :=
  ∀ c ∈ text.toList, 0x20 ≤ c.toNat ∨ c ∈ namedControls

instance (text : String) : Decidable (IsAscii text) :=
  decidable_of_iff
    (text.toList.all (fun c => decide (0x20 ≤ c.toNat ∧ c.toNat ≤ 0x7E)) = true) (by simp [IsAscii])

instance (text : String) : Decidable (IsPlain text) :=
  decidable_of_iff
    (text.toList.all (fun c => decide (0x20 ≤ c.toNat ∨ c ∈ namedControls)) = true)
    (by simp [IsPlain])

/-- A plain text is kept in quotes. -/
theorem isQuotable_of_plain {text : String} (plain : IsPlain text) :
    ∀ c ∈ text.toList, IsQuotable false c :=
  fun c member => ⟨plain c member, nofun⟩

/-- A key of visible ASCII characters and spaces is kept. -/
theorem isKeptKey_of_ascii {name : String} (ascii : IsAscii name) :
    IsKeptKey name := by
  unfold IsKeptKey
  split
  · intro member
    have := (ascii _ member).1
    exact absurd this (by decide)
  · intro c member
    have := ascii c member
    exact ⟨.inl this.1, fun _ => by omega⟩

end TableSchema.Text
