import TableSchema.Proofs.Catalog.Decoding
import TableSchema.Proofs.Catalog.TypeName

/-! # Casts to classified types

The type of a column and the cast behind its default are read by two grammars, and a type that one
of them knows is not always a cast for the other. `ColumnDefault.literal_of_type_iff` gives the
spellings on which they agree (`Catalog.PlainSpelling`): a quoted literal with a cast to a
classified type is read as the text that it quotes exactly for those. Any other spelling leaves a
part of the cast behind the literal.
-/

namespace TableSchema

namespace Catalog

variable {blanks text : List Char}

/-! ### The words of a cast -/

/-- A gap parts words. -/
theorem Gap.parts (gap : Gap) (rest : List Char) : Text.Parts (gap.run ++ rest) := by
  obtain ⟨d, head, blank⟩ := gap.head?
  intro c member
  rw [List.head?_append, head, Option.some_or] at member
  cases member
  exact blank

/-- A name with brackets is a word, and blanks behind it make no difference. -/
theorem words_bracketed_append {word : List Char} (nonempty : word ≠ [])
    (part : ∀ c ∈ word, isNamePart c = true) (brackets : Bool)
    (blank : ∀ c ∈ blanks, Text.isBlank c = true) :
    Text.words (word ++ (optional brackets ['[', ']'] ++ blanks)) =
      [word ++ optional brackets ['[', ']']] := by
  rw [← List.append_assoc, Text.words_append_blanks blank, words_bracketed nonempty part]

/-- A cast without quotation marks has the words of a type. -/
theorem typeWords_type (cast : Cast) (unopened : cast.opened = false)
    (unclosed : cast.closed = false) (blank : ∀ c ∈ blanks, Text.isBlank c = true) :
    TypeWords (Text.words (cast.type ++ blanks)) := by
  have nonempty := ne_nil_of_isTypeName cast.named
  have part := isNamePart_of_isTypeName cast.named
  have solid {word : List Char} (part : ∀ c ∈ word, isNamePart c = true) :
      ∀ c ∈ word, Text.isBlank c = false := fun c member => isBlank_of_isNamePart (part c member)
  have constant {word : List Char} (all : word.all isNamePart = true) :
      ∀ c ∈ word, isNamePart c = true := List.all_eq_true.mp all
  have whole : cast.type ++ blanks = cast.gap ++ (cast.name ++
      (cast.further.elim [] FurtherWords.text ++
        (optional cast.brackets ['[', ']'] ++ blanks))) := by
    simp only [Cast.type, unopened, unclosed, optional, Bool.false_eq_true, ↓reduceIte,
      List.nil_append, List.append_assoc]
  rw [whole, Text.words_blanks_append cast.blank_gap]
  cases cast.further with
  | none =>
    rw [Option.elim_none, List.nil_append, words_bracketed_append nonempty part _ blank]
    exact .alone cast.named cast.brackets
  | some words =>
    rw [Option.elim_some]
    cases words with
    | varying gap =>
      rw [FurtherWords.text, List.append_assoc,
        Text.words_word_append nonempty (solid part) (gap.parts _),
        Text.words_blanks_append gap.blank,
        words_bracketed_append (by decide) (constant (by decide)) _ blank]
      exact .pair cast.named List.mem_cons_self cast.brackets
    | precision gap =>
      rw [FurtherWords.text, List.append_assoc,
        Text.words_word_append nonempty (solid part) (gap.parts _),
        Text.words_blanks_append gap.blank,
        words_bracketed_append (by decide) (constant (by decide)) _ blank]
      exact .pair cast.named (List.mem_cons_of_mem _ List.mem_cons_self) cast.brackets
    | timeZone gap out second third =>
      have first : ∀ c ∈ "with".toList ++ optional out "out".toList, isNamePart c = true :=
        List.forall_mem_append.mpr
          ⟨constant (by decide), forall_mem_optional (constant (by decide)) out⟩
      have grouped : FurtherWords.text (.timeZone gap out second third) ++
            (optional cast.brackets ['[', ']'] ++ blanks) =
          gap.run ++ (("with".toList ++ optional out "out".toList) ++ (second.run ++
            ("time".toList ++ (third.run ++ ("zone".toList ++
              (optional cast.brackets ['[', ']'] ++ blanks)))))) := by
        simp only [FurtherWords.text, List.append_assoc]
      rw [grouped, Text.words_word_append nonempty (solid part) (gap.parts _),
        Text.words_blanks_append gap.blank,
        Text.words_word_append (List.append_ne_nil_of_left_ne_nil (by decide) _) (solid first)
          (second.parts _),
        Text.words_blanks_append second.blank,
        Text.words_word_append (by decide) (solid (constant (by decide))) (third.parts _),
        Text.words_blanks_append third.blank,
        words_bracketed_append (by decide) (constant (by decide)) _ blank]
      exact .timeZone cast.named out cast.brackets

/-- In front of a further word stands a gap. -/
theorem exists_gap {rest word : List Char} {others : List (List Char)} (parts : Text.Parts rest)
    (found : Text.words rest = word :: others) :
    ∃ (gap : Gap) (behind : List Char), rest = gap.run ++ (word ++ behind) ∧
      Text.Parts behind ∧ Text.words behind = others := by
  obtain ⟨run, behind, rfl, blank, nonempty, solid, parts', same⟩ :=
    Text.words_eq_cons_iff.mp found
  by_cases empty : run = []
  · obtain ⟨c, word, rfl⟩ := List.exists_cons_of_ne_nil nonempty
    rw [empty] at parts
    have first := parts c rfl
    rw [solid c List.mem_cons_self] at first
    cases first
  · exact ⟨⟨run, empty, blank⟩, behind, rfl, parts', same⟩

/-- A text with the words of a type is a cast behind two colons. -/
theorem exists_cast_of_typeWords (known : TypeWords (Text.words text)) :
    ∃ (cast : Cast) (blanks : List Char), (∀ c ∈ blanks, Text.isBlank c = true) ∧
      ':' :: ':' :: text = cast.text ++ blanks := by
  generalize found : Text.words text = words at known
  cases known with
  | alone named brackets =>
    obtain ⟨gap, rest, rfl, blank, -, -, -, behind⟩ := Text.words_eq_cons_iff.mp found
    refine ⟨⟨[], gap, false, _, false, none, brackets, List.forall_mem_nil _, blank, named⟩, rest,
      Text.words_eq_nil_iff.mp behind, ?_⟩
    simp [Cast.text, Cast.type, optional]
  | pair named listed brackets =>
    obtain ⟨gap, rest, rfl, blank, -, -, parts, behind⟩ := Text.words_eq_cons_iff.mp found
    obtain ⟨second, last, rfl, -, done⟩ := exists_gap parts behind
    rcases List.mem_cons.mp listed with rfl | listed
    · refine ⟨⟨[], gap, false, _, false, some (.varying second), brackets, List.forall_mem_nil _,
        blank, named⟩, last, Text.words_eq_nil_iff.mp done, ?_⟩
      simp [Cast.text, Cast.type, FurtherWords.text, optional]
    · obtain rfl := List.mem_singleton.mp listed
      refine ⟨⟨[], gap, false, _, false, some (.precision second), brackets, List.forall_mem_nil _,
        blank, named⟩, last, Text.words_eq_nil_iff.mp done, ?_⟩
      simp [Cast.text, Cast.type, FurtherWords.text, optional]
  | timeZone named out brackets =>
    obtain ⟨gap, rest, rfl, blank, -, -, parts, behind⟩ := Text.words_eq_cons_iff.mp found
    obtain ⟨first, rest, rfl, parts, behind⟩ := exists_gap parts behind
    obtain ⟨second, rest, rfl, parts, behind⟩ := exists_gap parts behind
    obtain ⟨third, last, rfl, -, done⟩ := exists_gap parts behind
    refine ⟨⟨[], gap, false, _, false, some (.timeZone first out second third), brackets,
      List.forall_mem_nil _, blank, named⟩, last, Text.words_eq_nil_iff.mp done, ?_⟩
    simp [Cast.text, Cast.type, FurtherWords.text, optional]

/-! ### Lower case -/

/-- The name of a type is one in either case. -/
theorem isTypeName_map_lowerAscii (name : List Char) :
    isTypeName (name.map Text.lowerAscii) = isTypeName name := by
  have start := Text.apply_lowerAscii isNameStart (by decide)
  have part := Text.apply_lowerAscii isNamePart (by decide)
  cases name with
  | nil => rfl
  | cons c name =>
    rw [List.map_cons, isTypeName, isTypeName, start, List.all_map]
    exact congrArg (isNameStart c && ·) (congrArg name.all (funext part))

/-- Marks without letters are the same in either case. -/
theorem eq_of_map_lowerAscii {marks text : List Char} (image : text.map Text.lowerAscii = marks)
    (letterless : ∀ c ∈ marks, Text.isAsciiLetter c = false) : text = marks := by
  have kept : ∀ c ∈ text, Text.lowerAscii c = c := fun c member =>
    Text.lowerAscii_eq_self (letterless _ (image ▸ List.mem_map_of_mem member))
  rw [← image, List.map_congr_left kept, List.map_id']

/-- Words are those of a type if they are in lower case and only the first one was changed. -/
theorem typeWords_of_lower {words : List (List Char)}
    (known : TypeWords (words.map (List.map Text.lowerAscii)))
    (lower : ∀ word ∈ words.tail, word.map Text.lowerAscii = word) : TypeWords words := by
  cases words with
  | nil => exact known
  | cons first others =>
    rw [List.tail_cons] at lower
    have kept : others.map (List.map Text.lowerAscii) = others := by
      rw [List.map_congr_left lower, List.map_id']
    rw [List.map_cons, kept] at known
    generalize image : first.map Text.lowerAscii = lowered at known
    cases known with
    | alone named brackets =>
      obtain ⟨name, behind, rfl, rfl, bracketed⟩ := List.map_eq_append_iff.mp image
      rw [isTypeName_map_lowerAscii] at named
      have marks : ∀ c ∈ ['[', ']'], Text.isAsciiLetter c = false :=
        Text.forall_of_all (by decide)
      rw [eq_of_map_lowerAscii bracketed (forall_mem_optional marks brackets)]
      exact .alone named brackets
    | pair named listed brackets =>
      rw [← image, isTypeName_map_lowerAscii] at named
      exact .pair named listed brackets
    | timeZone named out brackets =>
      rw [← image, isTypeName_map_lowerAscii] at named
      exact .timeZone named out brackets

/-! ### Spellings -/

/-- The spellings of a classified type that a cast may name: no group in parentheses, no Kelvin sign
for a letter, no blank before brackets, and capitals in the first word only. -/
structure PlainSpelling (type : List Char) : Prop where
  groupless : '(' ∉ type
  unsigned : '\u212A' ∉ type
  joined : ¬HasDetachedBracket type
  lower : ∀ word ∈ (Text.words type).tail, word.map Text.lowerAscii = word

/-- The characters of casts are ASCII characters or blanks. -/
theorem ascii_of_isCastChar {c : Char} (char : isCastChar c = true) :
    c.toNat < 0x80 ∨ Text.isBlank c = true := by
  have token : isTokenChar c = true ∨ c = ':' ∨ c = '"' := by
    simp only [isCastChar, isTokenChar, Bool.or_eq_true, beq_iff_eq] at char ⊢
    tauto
  rcases token with token | rfl | rfl
  · exact ascii_of_isTokenChar token
  · exact .inl (by decide)
  · exact .inl (by decide)

/-- What stands behind the colons of casts has only characters of casts. -/
theorem isCastChar_of_eq {casts : List Cast}
    (blank : ∀ c ∈ blanks, Text.isBlank c = true)
    (same : ':' :: ':' :: text = castsText casts ++ blanks) :
    ∀ c ∈ text, isCastChar c = true := by
  intro c member
  have inside : c ∈ castsText casts ++ blanks :=
    same ▸ List.mem_cons_of_mem _ (List.mem_cons_of_mem _ member)
  rcases List.mem_append.mp inside with cast | blank'
  · exact isCastChar_castsText casts c cast
  · exact isCastChar_of_isBlank (blank c blank')

theorem castsText_singleton (cast : Cast) : castsText [cast] = cast.text :=
  List.flatMap_singleton ..

/-- Two colons that begin casts belong to the first of them. -/
theorem exists_type_of_eq {casts : List Cast} (blank : ∀ c ∈ blanks, Text.isBlank c = true)
    (same : ':' :: ':' :: text = castsText casts ++ blanks) :
    ∃ cast others, casts = cast :: others ∧ text = cast.type ++ (castsText others ++ blanks) := by
  have solid : Text.isBlank ':' = false := by decide
  cases casts with
  | nil =>
    have first : ':' ∈ castsText [] ++ blanks := same ▸ List.mem_cons_self
    rw [blank ':' first] at solid
    cases solid
  | cons cast others =>
    rw [castsText_cons, Cast.text, List.append_assoc] at same
    cases begins : cast.before with
    | nil =>
      rw [begins] at same
      exact ⟨cast, others, rfl, (List.cons.inj (List.cons.inj same).2).2⟩
    | cons c before =>
      rw [begins] at same
      obtain ⟨rfl, -⟩ := List.cons.inj same
      rw [cast.blank_before ':' (begins ▸ List.mem_cons_self)] at solid
      cases solid

/-- A row of casts has a colon. -/
theorem colon_mem_castsText (cast : Cast) (casts : List Cast) :
    ':' ∈ castsText (cast :: casts) := by
  rw [castsText, List.flatMap_cons, Cast.text]
  exact List.mem_append_left _ (List.mem_append_right _ List.mem_cons_self)

/-- A bracket that is detached in lower case was detached before. -/
theorem hasDetachedBracket_of_map (image : HasDetachedBracket (text.map Text.lowerAscii)) :
    HasDetachedBracket text := by
  obtain ⟨word, member, head⟩ := image
  rw [Text.words_map Text.isBlank_lowerAscii] at member
  obtain ⟨original, listed, rfl⟩ := List.mem_map.mp member
  rw [List.head?_map] at head
  obtain ⟨c, first, bracket⟩ := Option.map_eq_some_iff.mp head
  have same : Text.lowerAscii c = c := Text.lowerAscii_eq_self (by rw [bracket]; decide)
  exact ⟨original, listed, by rw [first, ← same, bracket]⟩

section Classified

variable {type : List Char} (known : (Classification.ofText type).kind ≠ .unknown)

include known

/-- A classified type that casts name has no mark but brackets. -/
theorem mark_not_mem {casts : List Cast} (blank : ∀ c ∈ blanks, Text.isBlank c = true)
    (same : ':' :: ':' :: type = castsText casts ++ blanks) : ':' ∉ type ∧ '"' ∉ type := by
  have char := isCastChar_of_eq blank same
  have groupless : '(' ∉ type := fun member => absurd (char _ member) (by decide)
  have lower := Text.lower_of_ascii fun c member => ascii_of_isCastChar (char c member)
  have absent {mark : Char} (solid : Text.isBlank mark = false)
      (fixed : Text.lowerAscii mark = mark) (foreign : isTokenChar mark = false) :
      mark ∉ type := by
    intro member
    have lowered : mark ∈ Text.lower type := by
      rw [lower, ← fixed]
      exact List.mem_map_of_mem member
    have token := isTokenChar_of_known known mark (mem_normalize groupless solid lowered)
    rw [foreign] at token
    cases token
  exact ⟨absent (by decide) (by decide) (by decide), absent (by decide) (by decide) (by decide)⟩

/-- Two colons and a classified type are left blank without casts exactly if the type has the words
of a type that a cast may name. -/
theorem removeCasts_type_iff :
    (∀ c ∈ removeCasts (':' :: ':' :: type), Text.isBlank c = true) ↔
      TypeWords (Text.words type) := by
  rw [removeCasts_blank_iff]
  constructor
  · rintro ⟨casts, blanks, blank, same⟩
    obtain ⟨colon, mark⟩ := mark_not_mem known blank same
    obtain ⟨cast, others, rfl, rfl⟩ := exists_type_of_eq blank same
    have single : others = [] := by
      cases others with
      | nil => rfl
      | cons next others =>
        have second := List.mem_append_left blanks (colon_mem_castsText next others)
        exact absurd (List.mem_append_right _ second) colon
    have bare : cast.opened = false ∧ cast.closed = false := by
      constructor
      · by_contra opened
        rw [Bool.not_eq_false] at opened
        refine mark ?_
        simp [Cast.type, opened, optional]
      · by_contra closed
        rw [Bool.not_eq_false] at closed
        refine mark ?_
        simp [Cast.type, closed, optional]
    rw [single]
    exact typeWords_type cast bare.1 bare.2 blank
  · intro words
    obtain ⟨cast, blanks, blank, same⟩ := exists_cast_of_typeWords words
    exact ⟨[cast], blanks, blank, by rw [castsText_singleton, same]⟩

/-- Normalizing a plainly spelled type changes capital letters only. -/
theorem words_normalize_of_plain (plain : PlainSpelling type) :
    Text.words (normalize type) = (Text.words type).map (List.map Text.lowerAscii) ∧
      ¬HasDetachedBracket (normalize type) := by
  have ascii : ∀ d ∈ Text.lower type, d.toNat < 0x80 ∨ Text.isBlank d = true := by
    intro d member
    by_cases blank : Text.isBlank d = true
    · exact .inr blank
    · have inside := mem_normalize plain.groupless (by simpa using blank) member
      exact ascii_of_isTokenChar (isTokenChar_of_known known d inside)
  have lowered := Text.lower_of_ascii (Text.ascii_of_lower ascii plain.unsigned)
  have joined : ¬HasDetachedBracket (Text.lower type) := by
    rw [lowered]
    exact mt hasDetachedBracket_of_map plain.joined
  have normal := words_normalize plain.groupless joined
  refine ⟨?_, ?_⟩
  · rw [normal, lowered, Text.words_map Text.isBlank_lowerAscii]
  · rintro ⟨word, member, head⟩
    exact joined ⟨word, normal ▸ member, head⟩

/-- A classified type has the words of a type that a cast may name exactly if it is spelled
plainly. -/
theorem typeWords_iff : TypeWords (Text.words type) ↔ PlainSpelling type := by
  constructor
  · intro words
    obtain ⟨cast, blanks, blank, same⟩ := exists_cast_of_typeWords words
    have char : ∀ c ∈ type, isCastChar c = true :=
      isCastChar_of_eq blank (by rw [same, castsText_singleton])
    exact ⟨fun member => absurd (char _ member) (by decide),
      fun member => absurd (char _ member) (by decide +kernel), words.joined,
      fun word member => (words.tail word member).1⟩
  · intro plain
    obtain ⟨normal, joined⟩ := words_normalize_of_plain known plain
    have words := typeWords_of_known known joined
    rw [normal] at words
    exact typeWords_of_lower words plain.lower

end Classified

end Catalog

namespace ColumnDefault

open Catalog

/-- A quoted literal with code behind it is read as the text that it quotes exactly if the code is
left blank without its casts. -/
theorem ofValue_quote_iff {code : List Char} (free : quoteMark ∉ code) (text : String) :
    ofValue (.str (String.ofList (quote text.toList ++ code))) =
        .ok (.present { value := .str text }) ↔
      ∀ c ∈ removeCasts code, Text.isBlank c = true := by
  constructor
  · intro read
    have single : ∀ pair ∈ [(([] : List Char), text.toList)], quoteMark ∉ pair.1 := by simp
    have stripped : stripCasts (quote text.toList ++ code) =
        quote text.toList ++ (removeCasts code).rdropWhile Text.isBlank := by
      have whole := stripCasts_interleave single free
      rw [List.map_singleton, Prod.map_apply, trim_interleave, interleave_cons, interleave_cons,
        interleave_nil, interleave_nil] at whole
      exact whole
    have same := str_of_literalOf (ofValue_str_eq_present read) rfl
    rw [String.toList_ofList, stripped] at same
    by_contra remains
    have nonempty : (removeCasts code).rdropWhile Text.isBlank ≠ [] :=
      fun empty => remains (List.rdropWhile_eq_nil_iff.mp empty)
    have bare : ¬IsEnclosed (quote text.toList ++ (removeCasts code).rdropWhile Text.isBlank) := by
      rintro ⟨-, -, last⟩
      rw [List.getLast?_append_of_ne_nil _ nonempty] at last
      have inside := (List.rdropWhile_prefix _ _).subset (List.mem_of_getLast? last)
      exact quoteMark_not_mem_removeCasts free inside
    rw [if_neg bare] at same
    have lengths := congrArg List.length same
    have longer := length_le_doubled text.toList
    rw [quote_eq, List.length_append, List.length_cons, List.length_append] at lengths
    omega
  · intro left
    obtain ⟨casts, blanks, blank, rfl⟩ := removeCasts_blank_iff.mp left
    exact ofValue_quote_casts casts (List.forall_mem_nil _) blank text

/-- A quoted literal with a cast to a classified type is read as the text that it quotes exactly if
the type is spelled plainly. -/
theorem literal_of_type_iff {text type : String} (free : quoteMark ∉ type.toList)
    (known : (Classification.ofText type.toList).kind ≠ .unknown) :
    ofValue (.str (String.ofList (quote text.toList) ++ "::" ++ type)) =
        .ok (.present { value := .str text }) ↔
      PlainSpelling type.toList := by
  have behind : quoteMark ∉ ':' :: ':' :: type.toList := by
    simp only [List.mem_cons, not_or]
    exact ⟨by decide, by decide, free⟩
  have spelled : String.ofList (quote text.toList) ++ "::" ++ type =
      String.ofList (quote text.toList ++ ':' :: ':' :: type.toList) := by
    apply String.toList_inj.mp
    simp [String.toList_append]
  rw [spelled, ofValue_quote_iff behind, removeCasts_type_iff known, typeWords_iff known]

/-- A cast to an array of a type in two words, with capitals in the first one. -/
theorem literal_of_type_iff_array :
    ofValue (.str (String.ofList (quote "it's".toList) ++ "::" ++ " Character varying[]")) =
      .ok (.present { value := .str "it's" }) := by
  have plain : PlainSpelling " Character varying[]".toList := by
    refine ⟨by decide, by decide, ?_, by decide⟩
    rintro ⟨word, member, head⟩
    have joined : ∀ word ∈ Text.words " Character varying[]".toList, word.head? ≠ some '[' := by
      decide
    exact joined word member head
  exact (literal_of_type_iff (by decide) (by decide +kernel)).mpr plain

/-- A cast with a length leaves the length behind the literal. -/
theorem literal_of_type_length :
    quoteMark ∉ "varchar(10)".toList ∧
      (Classification.ofText "varchar(10)".toList).kind = .boundedString ∧
      ofValue (.str (String.ofList (quote "abc".toList) ++ "::" ++ "varchar(10)")) =
        .ok (.present { value := .str "'abc'(10)" }) := by
  refine ⟨by decide, by decide +kernel, by decide +kernel⟩

end ColumnDefault

end TableSchema
