import TableSchema.Catalog.TypeName
import TableSchema.Proofs.Catalog.Cast
import TableSchema.Proofs.Text.LowerCase

/-! # The words of type names

The name of a classified type has the words of a type that a cast may name (`Catalog.TypeWords`):
`Catalog.typeWords_of_known` looks them up in the tables. Normalizing a name without groups and
without detached brackets only lowers its words (`Catalog.words_normalize`).
-/

namespace TableSchema.Catalog

variable {text token : List Char}

/-! ### Normal forms -/

/-- A text without a parenthesis that is closed later has no groups. -/
theorem dropGroups_of_unclosed (unclosed : ¬['(', ')'].Sublist text) :
    dropGroups false text = text := by
  induction text with
  | nil => rfl
  | cons c text hypothesis =>
    have plain : ¬(c = '(' && text.contains ')') = true := by
      rw [Bool.and_eq_true, decide_eq_true_eq, List.contains_iff_mem]
      rintro ⟨rfl, closed⟩
      exact unclosed (.cons_cons _ (List.singleton_sublist.mpr closed))
    rw [dropGroups, if_neg Bool.false_ne_true, if_neg plain,
      hypothesis fun behind => unclosed (.cons _ behind)]

theorem dropGroups_of_groupless (groupless : '(' ∉ text) : dropGroups false text = text :=
  dropGroups_of_unclosed fun group => groupless (group.subset List.mem_cons_self)

/-- Whether brackets stand apart from the word before them. -/
def HasDetachedBracket (text : List Char) : Prop :=
  ∃ word ∈ Text.words text, word.head? = some '['

/-- A blank in front of an opening bracket detaches it. -/
theorem hasDetachedBracket_append {c : Char} (blank : Text.isBlank c = true)
    (before rest : List Char) : HasDetachedBracket (before ++ c :: '[' :: rest) := by
  have solid : Text.isBlank '[' = false := by decide
  obtain ⟨blanks, word, behind, same, all, inside, parts, whole⟩ := Text.exists_word ('[' :: rest)
  have started : blanks = [] := by
    cases blanks with
    | nil => rfl
    | cons c blanks =>
      cases same
      rw [all '[' List.mem_cons_self] at solid
      cases solid
  rw [started, List.nil_append] at same
  have nonempty : word ≠ [] := by
    rintro rfl
    rw [whole rfl] at same
    cases same
  refine ⟨word, ?_, ?_⟩
  · rw [Text.words_append_blank blank, same, Text.words_word_append nonempty inside parts]
    exact List.mem_append_right _ List.mem_cons_self
  · rw [← List.head?_append_of_ne_nil _ nonempty, ← same]
    rfl

/-- Nothing is joined where no bracket is detached. -/
theorem joinBrackets_of_joined (joined : ¬HasDetachedBracket text) : joinBrackets text = text := by
  have apart : ∀ before rest, text ≠ before ++ ' ' :: '[' :: rest := by
    rintro before rest rfl
    exact joined (hasDetachedBracket_append (by decide) before rest)
  clear joined
  fun_induction joinBrackets text with
  | case1 rest => exact absurd rfl (apart [] (']' :: rest))
  | case2 c rest _ hypothesis =>
    rw [hypothesis fun before behind same => apart (c :: before) behind (by rw [same]; rfl)]
  | case3 => rfl

/-- Joining brackets loses spaces at most. -/
theorem mem_joinBrackets {c : Char} (solid : c ≠ ' ') (member : c ∈ text) :
    c ∈ joinBrackets text := by
  fun_induction joinBrackets text with
  | case1 rest hypothesis =>
    have behind := (List.mem_cons.mp member).resolve_left solid
    simp only [List.mem_cons] at behind ⊢
    tauto
  | case2 d rest _ hypothesis =>
    exact List.mem_cons.mpr ((List.mem_cons.mp member).imp id hypothesis)
  | case3 => exact member

/-- A name without groups and detached brackets keeps its words, in lower case. -/
theorem words_normalize (groupless : '(' ∉ text) (joined : ¬HasDetachedBracket (Text.lower text)) :
    Text.words (normalize text) = Text.words (Text.lower text) := by
  have lowered : '(' ∉ Text.lower text :=
    fun member => groupless (Text.mem_of_mem_lower (by decide) (by decide) member)
  have same : Text.words (Text.trim (Text.collapseBlanks (Text.lower text))) =
      Text.words (Text.lower text) := by
    rw [Text.words_trim, Text.words_collapseBlanks]
  rw [normalize, dropGroups_of_groupless lowered, joinBrackets_of_joined, same]
  rintro ⟨word, member, head⟩
  exact joined ⟨word, same ▸ member, head⟩

/-- The marks in a name without groups are in its normal form. -/
theorem mem_normalize {c : Char} (groupless : '(' ∉ text) (solid : Text.isBlank c = false)
    (member : c ∈ Text.lower text) : c ∈ normalize text := by
  have lowered : '(' ∉ Text.lower text :=
    fun member => groupless (Text.mem_of_mem_lower (by decide) (by decide) member)
  have space : c ≠ ' ' := by
    rintro rfl
    exact absurd solid (by decide)
  rw [normalize, dropGroups_of_groupless lowered]
  apply mem_joinBrackets space
  rw [Text.mem_iff_words solid, Text.words_trim, Text.words_collapseBlanks]
  exact (Text.mem_iff_words solid).mp member

/-! ### Classified names -/

/-- The words of a type that a cast may name. -/
inductive TypeWords : List (List Char) → Prop where
  | alone {name : List Char} (named : isTypeName name = true) (brackets : Bool) :
    TypeWords [name ++ optional brackets ['[', ']']]
  | pair {name second : List Char} (named : isTypeName name = true)
      (listed : second ∈ ["varying".toList, "precision".toList]) (brackets : Bool) :
    TypeWords [name, second ++ optional brackets ['[', ']']]
  | timeZone {name : List Char} (named : isTypeName name = true) (out brackets : Bool) :
    TypeWords [name, "with".toList ++ optional out "out".toList, "time".toList,
      "zone".toList ++ optional brackets ['[', ']']]

/-- The names in the tables. -/
def listedTypes : List String :=
  TypeKind.table.flatMap Prod.snd

/-- The name of an enumeration is the name of a type. -/
theorem isTypeName_of_isEnumerationName (named : isEnumerationName token = true) :
    isTypeName token = true := by
  cases token with
  | nil => cases named
  | cons c token =>
    have start {c : Char} (lower : Text.isAsciiLower c = true) : Text.isAsciiLetter c = true := by
      rw [Text.isAsciiLetter, Bool.or_eq_true]
      exact .inl lower
    rw [isEnumerationName, Bool.and_eq_true, List.all_eq_true] at named
    rw [isTypeName, Bool.and_eq_true, List.all_eq_true]
    refine ⟨?_, fun d member => ?_⟩
    · rw [isNameStart, Bool.or_eq_true]
      exact ((Bool.or_eq_true ..).mp named.1).imp_left start
    · have part := named.2 d member
      simp only [isNamePart, Bool.or_eq_true] at part ⊢
      exact part.imp_left (Or.imp_left start)

/-- A word with brackets behind it, or none, is one word. -/
theorem words_bracketed {word : List Char} (nonempty : word ≠ [])
    (part : ∀ c ∈ word, isNamePart c = true) (brackets : Bool) :
    Text.words (word ++ optional brackets ['[', ']']) = [word ++ optional brackets ['[', ']']] := by
  apply Text.words_word (List.append_ne_nil_of_left_ne_nil nonempty _)
  exact List.forall_mem_append.mpr ⟨fun c member => isBlank_of_isNamePart (part c member),
    forall_mem_optional (Text.forall_of_all (by decide)) brackets⟩

theorem ne_nil_of_isTypeName {name : List Char} (named : isTypeName name = true) : name ≠ [] := by
  rintro rfl
  cases named

/-- A name is the words of a type, with and without brackets. -/
theorem typeWords_name {name : List Char} (named : isTypeName name = true) (brackets : Bool) :
    TypeWords (Text.words (name ++ optional brackets ['[', ']'])) := by
  rw [words_bracketed (ne_nil_of_isTypeName named) (isNamePart_of_isTypeName named)]
  exact .alone named brackets

/-- A type that is listed is the words of a type, with and without brackets. -/
theorem typeWords_listed (brackets : Bool) : ∀ name ∈ listedTypes,
    TypeWords (Text.words (name.toList ++ optional brackets ['[', ']'])) := by
  have split : ∀ name ∈ listedTypes, isEnumerationName name.toList = true ∨
      name ∈ ["character varying", "double precision", "bit varying",
        "timestamp without time zone", "timestamp with time zone", "time without time zone",
        "time with time zone"] := by decide +kernel
  intro name listed
  rcases split name listed with named | several
  · exact typeWords_name (isTypeName_of_isEnumerationName named) brackets
  -- The names of several words, one by one.
  have of_words {text : List Char} {words : List (List Char)} (known : TypeWords words)
      (same : Text.words text = words) : TypeWords (Text.words text) := same ▸ known
  have varying : "varying".toList ∈ ["varying".toList, "precision".toList] := List.mem_cons_self
  have precision : "precision".toList ∈ ["varying".toList, "precision".toList] :=
    List.mem_cons_of_mem _ List.mem_cons_self
  have timestamp : isTypeName "timestamp".toList = true := by decide
  have time : isTypeName "time".toList = true := by decide
  simp only [List.mem_cons, List.not_mem_nil, or_false] at several
  rcases several with rfl | rfl | rfl | rfl | rfl | rfl | rfl
  · have character : isTypeName "character".toList = true := by decide
    exact of_words (.pair character varying brackets) (by revert brackets; decide)
  · have double : isTypeName "double".toList = true := by decide
    exact of_words (.pair double precision brackets) (by revert brackets; decide)
  · have bit : isTypeName "bit".toList = true := by decide
    exact of_words (.pair bit varying brackets) (by revert brackets; decide)
  · exact of_words (.timeZone timestamp true brackets) (by revert brackets; decide)
  · exact of_words (.timeZone timestamp false brackets) (by revert brackets; decide)
  · exact of_words (.timeZone time true brackets) (by revert brackets; decide)
  · exact of_words (.timeZone time false brackets) (by revert brackets; decide)

/-- The further words of a type are in lower case, and none begins with a bracket. -/
theorem TypeWords.tail {words : List (List Char)} (known : TypeWords words) :
    ∀ word ∈ words.tail, word.map Text.lowerAscii = word ∧ word.head? ≠ some '[' := by
  cases known with
  | alone named brackets => exact List.forall_mem_nil _
  | @pair _ second named listed brackets =>
    have all : ∀ second ∈ ["varying".toList, "precision".toList], ∀ brackets : Bool,
        ∀ word ∈ [second ++ optional brackets ['[', ']']],
          word.map Text.lowerAscii = word ∧ word.head? ≠ some '[' := by decide
    exact all second listed brackets
  | timeZone named out brackets =>
    rw [List.tail_cons]
    revert out brackets
    decide

/-- The words of a type do not begin with a bracket. -/
theorem TypeWords.head {first : List Char} {others : List (List Char)}
    (known : TypeWords (first :: others)) : first.head? ≠ some '[' := by
  have begins {name : List Char} (named : isTypeName name = true) (rest : List Char) :
      (name ++ rest).head? ≠ some '[' := by
    obtain ⟨c, head, start⟩ := head?_isTypeName named
    rw [List.head?_append, head, Option.some_or]
    rintro ⟨⟩
    exact absurd start (by decide)
  cases known with
  | alone named brackets => exact begins named _
  | pair named listed brackets | timeZone named out brackets =>
    rw [← List.append_nil first]
    exact begins named []

/-- The words of a type have no detached bracket. -/
theorem TypeWords.joined (known : TypeWords (Text.words text)) : ¬HasDetachedBracket text := by
  rintro ⟨word, member, head⟩
  cases found : Text.words text with
  | nil =>
    rw [found] at member
    cases member
  | cons first others =>
    rw [found] at known member
    rcases List.mem_cons.mp member with rfl | member
    · exact known.head head
    · exact (known.tail word member).2 head

/-- The element of a type is what stands in front of its last brackets, without blanks around it. -/
theorem elementText?_eq_some_iff : elementText? token = some text ↔
    ∃ front, token = front ++ ['[', ']'] ∧ text = Text.trim front := by
  have taken (front : List Char) :
      (front ++ ['[', ']']).take ((front ++ ['[', ']']).length - 2) = front := by simp
  have marks : "[]".toList = ['[', ']'] := rfl
  rw [elementText?, marks]
  constructor
  · intro ends
    split at ends
    · next suffix =>
      obtain ⟨front, rfl⟩ := List.isSuffixOf_iff_suffix.mp suffix
      rw [taken] at ends
      exact ⟨front, rfl, (Option.some.inj ends).symm⟩
    · cases ends
  · rintro ⟨front, rfl, rfl⟩
    rw [if_pos (List.isSuffixOf_iff_suffix.mpr (List.suffix_append ..)), taken]

/-- A name written as an array is a listed name between blanks, with brackets behind it. -/
theorem exists_of_element? {element : ElementType} (array : element? token = some element) :
    ∃ name ∈ listedTypes, ∃ before after, (∀ c ∈ before, Text.isBlank c = true) ∧
      (∀ c ∈ after, Text.isBlank c = true) ∧
      token = before ++ (name.toList ++ after) ++ ['[', ']'] := by
  obtain ⟨text, ends, classified⟩ := Option.bind_eq_some_iff.mp array
  obtain ⟨kind, isElement, -⟩ := Option.bind_eq_some_iff.mp classified
  have member : String.ofList text ∈ listedTypes := by
    have elements : TypeKind.boundedStrings ++ TypeKind.integers ⊆ listedTypes := by
      decide +kernel
    apply elements
    unfold TypeKind.ofElement? at isElement
    split at isElement
    · next bounded => exact List.mem_append_left _ (by simpa using bounded)
    split at isElement
    · next integer => exact List.mem_append_right _ (by simpa using integer)
    · cases isElement
  obtain ⟨front, rfl, rfl⟩ := elementText?_eq_some_iff.mp ends
  obtain ⟨before, after, blank_before, blank_after, whole⟩ := Text.exists_trim front
  refine ⟨_, member, before, after, blank_before, blank_after, ?_⟩
  rw [String.toList_ofList, ← whole]

/-- A type with a kind is listed. -/
theorem mem_listedTypes {name : String} {kind : TypeKind}
    (listed : TypeKind.ofToken? name = some kind) : name ∈ listedTypes := by
  obtain ⟨entry, found, -⟩ := Option.map_eq_some_iff.mp listed
  have member := List.find?_some found
  exact List.mem_flatMap.mpr ⟨entry, List.mem_of_find?_eq_some found, by simpa using member⟩

/-- The forms of a name that is classified: a listed name, the array of a listed name, or a name
that may be an enumeration. -/
theorem known_cases (known : (Classification.ofToken token).kind ≠ .unknown) :
    (∃ name ∈ listedTypes, token = name.toList) ∨
      (∃ name ∈ listedTypes, ∃ before after, (∀ c ∈ before, Text.isBlank c = true) ∧
        (∀ c ∈ after, Text.isBlank c = true) ∧
        token = before ++ (name.toList ++ after) ++ ['[', ']']) ∨
      isEnumerationName token = true := by
  unfold Classification.ofToken at known
  cases listed : TypeKind.ofToken? (String.ofList token) with
  | some kind => exact .inl ⟨_, mem_listedTypes listed, String.toList_ofList.symm⟩
  | none =>
    cases array : element? token with
    | some element => exact .inr (.inl (exists_of_element? array))
    | none =>
      rw [listed, array] at known
      by_cases named : isEnumerationName token = true
      · exact .inr (.inr named)
      · rw [if_neg named] at known
        exact absurd rfl known

/-- Whether a character may stand in a classified name. -/
def isTokenChar (c : Char) : Bool :=
  Text.isBlank c || isNamePart c || c == '[' || c == ']'

/-- A type with a known kind has only characters of types. -/
theorem isTokenChar_of_known (known : (Classification.ofToken token).kind ≠ .unknown) :
    ∀ c ∈ token, isTokenChar c = true := by
  have listed : ∀ name ∈ listedTypes, name.toList.all isTokenChar = true := by decide +kernel
  have brackets : ∀ c ∈ ['[', ']'], isTokenChar c = true := List.all_eq_true.mp (by decide)
  have blank {blanks : List Char} (blank : ∀ c ∈ blanks, Text.isBlank c = true) :
      ∀ c ∈ blanks, isTokenChar c = true := by
    intro c member
    simp only [isTokenChar, blank c member, Bool.true_or]
  rcases known_cases known with ⟨name, member, rfl⟩ | array | named
  · exact List.all_eq_true.mp (listed name member)
  · obtain ⟨name, member, before, after, blank_before, blank_after, rfl⟩ := array
    simp only [List.forall_mem_append]
    exact ⟨⟨blank blank_before, List.all_eq_true.mp (listed name member), blank blank_after⟩,
      brackets⟩
  · intro c member
    have part := isNamePart_of_isTypeName (isTypeName_of_isEnumerationName named) c member
    simp only [isTokenChar, part, Bool.or_true, Bool.true_or]

/-- Characters of types are ASCII characters or blanks. -/
theorem ascii_of_isTokenChar {c : Char} (char : isTokenChar c = true) :
    c.toNat < 0x80 ∨ Text.isBlank c = true := by
  simp only [isTokenChar, Bool.or_eq_true, beq_iff_eq] at char
  rcases char with ((blank | part) | rfl) | rfl
  · exact .inr blank
  · have key := isKeyPart_of_isNamePart part
    rw [Text.isKeyPart_iff, Text.isKeyStart_iff] at key
    exact .inl (by omega)
  · exact .inl (by decide)
  · exact .inl (by decide)

/-- A classified name without detached brackets has the words of a type that a cast may name. -/
theorem typeWords_of_known (known : (Classification.ofToken token).kind ≠ .unknown)
    (joined : ¬HasDetachedBracket token) : TypeWords (Text.words token) := by
  rcases known_cases known with ⟨name, member, rfl⟩ | array | named
  · have words := typeWords_listed false name member
    rwa [show optional false ['[', ']'] = [] from rfl, List.append_nil] at words
  · obtain ⟨name, member, before, after, blank_before, blank_after, rfl⟩ := array
    have attached : after = [] := by
      rcases List.eq_nil_or_concat after with empty | ⟨front, c, rfl⟩
      · exact empty
      · have blank : Text.isBlank c = true := blank_after c (by simp)
        have detached :=
          hasDetachedBracket_append blank (before ++ (name.toList ++ front)) [']']
        refine absurd ?_ joined
        simpa only [List.concat_eq_append, List.append_assoc, List.singleton_append] using detached
    rw [attached, List.append_nil, List.append_assoc, Text.words_blanks_append blank_before]
    exact typeWords_listed true name member
  · have words := typeWords_name (isTypeName_of_isEnumerationName named) false
    rwa [show optional false ['[', ']'] = [] from rfl, List.append_nil] at words

end TableSchema.Catalog
