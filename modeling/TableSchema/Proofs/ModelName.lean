import TableSchema.ModelName
import TableSchema.Proofs.Text.LowerCase

/-! # Names of models along a path

The words of a name are the words of its parts (`nameWords`), and a name that has words keeps them
when it becomes a part itself: the mark before a digit is no word, and the words that were joined
make one word that begins with its capital. So a name is the same whether a path is followed at once
or part by part (`modelName_modelName`).
-/

namespace TableSchema

variable {c : Char} {text words : List Char} {parts parts' : List String}

/-! ### Characters of names -/

/-- The characters of names are ASCII characters. -/
theorem ascii_of_isNameChar (char : isNameChar c = true) : c.toNat < 0x80 := by
  have below (d : Char) (le : c ≤ d) (ascii : d.toNat < 0x80) : c.toNat < 0x80 :=
    Nat.lt_of_le_of_lt le ascii
  simp only [isNameChar, Text.isAsciiLetter, Text.isAsciiDigit, Bool.or_eq_true, Bool.and_eq_true,
    decide_eq_true_eq] at char
  rcases char with (⟨-, high⟩ | ⟨-, high⟩) | ⟨-, high⟩ <;> exact below _ high (by decide)

theorem isNameChar_toUpper (char : isNameChar c = true) : isNameChar c.toUpper = true :=
  Text.of_ascii (fun c => isNameChar c = true → isNameChar c.toUpper = true) (by decide)
    (ascii_of_isNameChar char) char

theorem toUpper_toUpper (char : isNameChar c = true) : c.toUpper.toUpper = c.toUpper :=
  Text.of_ascii (fun c => c.toUpper.toUpper = c.toUpper) (by decide) (ascii_of_isNameChar char)

/-! ### Joined words -/

/-- Joined words have only characters of names. -/
theorem isNameChar_of_mem_joinWords {fresh : Bool} (member : c ∈ joinWords fresh text) :
    isNameChar c = true := by
  induction text generalizing fresh with
  | nil => cases member
  | cons d text hypothesis =>
    rw [joinWords] at member
    split at member
    · next char =>
      rcases List.mem_cons.mp member with rfl | later
      · cases fresh with
        | true => exact isNameChar_toUpper char
        | false => exact char
      · exact hypothesis later
    · exact hypothesis member

/-- A text with a character of names has words. -/
theorem joinWords_ne_nil {fresh : Bool} (member : c ∈ text) (char : isNameChar c = true) :
    joinWords fresh text ≠ [] := by
  induction text generalizing fresh with
  | nil => cases member
  | cons d text hypothesis =>
    rw [joinWords]
    split
    · exact List.cons_ne_nil _ _
    · next other =>
      rcases List.mem_cons.mp member with rfl | later
      · exact absurd char other
      · exact hypothesis later

/-- Within a word nothing changes. -/
theorem joinWords_within (chars : ∀ c ∈ words, isNameChar c = true) :
    joinWords false words = words := by
  induction words with
  | nil => rfl
  | cons c words hypothesis =>
    obtain ⟨first, others⟩ := List.forall_mem_cons.mp chars
    rw [joinWords, if_pos first, hypothesis others]
    rfl

/-- Whether characters are the joined words of some text: they begin with no small letter. -/
structure IsJoined (words : List Char) : Prop where
  chars : ∀ c ∈ words, isNameChar c = true
  capital : ∀ c ∈ words.head?, c.toUpper = c

/-- The words of a text are joined. -/
theorem isJoined_joinWords (text : List Char) : IsJoined (joinWords true text) where
  chars _ := isNameChar_of_mem_joinWords
  capital := by
    induction text with
    | nil => exact fun _ none => nomatch none
    | cons d text hypothesis =>
      rw [joinWords]
      split
      · next char =>
        rintro c ⟨⟩
        exact toUpper_toUpper char
      · exact hypothesis

/-- Joined words may be joined again. -/
theorem IsJoined.append {words' : List Char} (first : IsJoined words) (other : IsJoined words') :
    IsJoined (words ++ words') where
  chars := by
    intro c member
    rcases List.mem_append.mp member with inFirst | inOther
    · exact first.chars c inFirst
    · exact other.chars c inOther
  capital := by
    cases words with
    | nil => exact other.capital
    | cons d words => exact first.capital

/-- Joined words are one word with a capital first letter. -/
theorem IsJoined.joinWords_eq (joined : IsJoined words) : joinWords true words = words := by
  cases words with
  | nil => rfl
  | cons c words =>
    obtain ⟨first, others⟩ := List.forall_mem_cons.mp joined.chars
    rw [joinWords, if_pos first, if_pos rfl, joined.capital c rfl, joinWords_within others]

/-- A name has the words that it was made of. -/
theorem IsJoined.joinWords_nameOfWords (joined : IsJoined words) (nonempty : words ≠ []) :
    joinWords true (nameOfWords words) = words := by
  obtain ⟨c, rest, rfl⟩ := List.exists_cons_of_ne_nil nonempty
  rw [nameOfWords]
  split
  · exact joined.joinWords_eq
  · exact joined.joinWords_eq

/-! ### Names -/

/-- The words of the parts of a name, joined. -/
def nameWords (parts : List String) : List Char :=
  parts.flatMap fun part => joinWords true part.toList

theorem toList_modelName (parts : List String) :
    (modelName parts).toList = nameOfWords (nameWords parts) :=
  String.toList_ofList

/-- The words of several parts are joined. -/
theorem isJoined_nameWords (parts : List String) : IsJoined (nameWords parts) := by
  induction parts with
  | nil => exact isJoined_joinWords []
  | cons part parts hypothesis => exact (isJoined_joinWords part.toList).append hypothesis

/-- Whether some part of a name has a word. -/
def HasWord (parts : List String) : Prop :=
  ∃ part ∈ parts, ∃ c ∈ part.toList, isNameChar c = true

/-- Parts among which there is a word have one with further parts. -/
theorem HasWord.append (word : HasWord parts) (parts' : List String) :
    HasWord (parts ++ parts') := by
  obtain ⟨part, listed, found⟩ := word
  exact ⟨part, List.mem_append_left _ listed, found⟩

/-- Parts among which there is a word have words. -/
theorem HasWord.nameWords_ne_nil (word : HasWord parts) : nameWords parts ≠ [] := by
  obtain ⟨part, listed, c, member, char⟩ := word
  intro none
  exact joinWords_ne_nil member char (List.flatMap_eq_nil_iff.mp none part listed)

/-- A name may stand for the parts that it was made of. -/
theorem modelName_modelName (word : HasWord parts) (parts' : List String) :
    modelName (modelName parts :: parts') = modelName (parts ++ parts') := by
  have joined : joinWords true (nameOfWords (nameWords parts)) = nameWords parts :=
    (isJoined_nameWords parts).joinWords_nameOfWords word.nameWords_ne_nil
  have same : nameWords (modelName parts :: parts') = nameWords (parts ++ parts') := by
    calc nameWords (modelName parts :: parts')
      _ = joinWords true (nameOfWords (nameWords parts)) ++ nameWords parts' := by
        rw [nameWords, List.flatMap_cons, toList_modelName]
        rfl
      _ = nameWords parts ++ nameWords parts' := by rw [joined]
      _ = nameWords (parts ++ parts') := (List.flatMap_append ..).symm
  exact congrArg (fun words => String.ofList (nameOfWords words)) same

/-- Whether a text may name a model: letters, digits and underscores, with no digit in front. -/
structure IsModelName (name : String) : Prop where
  nonempty : name ≠ ""
  chars : ∀ c ∈ name.toList, isNameChar c = true ∨ c = '_'
  start : ∀ c ∈ name.toList.head?, Text.isAsciiDigit c = false

/-- What is made as the name of a model is one. -/
theorem isModelName_modelName (parts : List String) : IsModelName (modelName parts) where
  nonempty empty := by
    have none := congrArg String.toList empty
    rw [toList_modelName] at none
    exact nameOfWords_ne_nil _ none
  chars c member := by
    have chars := (isJoined_nameWords parts).chars
    rw [toList_modelName, nameOfWords.eq_def] at member
    split at member
    · exact .inl (List.all_eq_true.mp (by decide) c member)
    · next d rest same =>
      rw [same] at chars
      split at member
      · rcases List.mem_cons.mp member with rfl | later
        · exact .inr rfl
        · exact .inl (chars c later)
      · exact .inl (chars c member)
  start := by
    rw [toList_modelName, nameOfWords.eq_def]
    split
    · rintro c ⟨⟩
      decide
    · split
      · rintro c ⟨⟩
        decide
      · next c rest same other =>
        rintro c ⟨⟩
        simpa using other

end TableSchema
