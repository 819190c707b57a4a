import TableSchema.Catalog.Cast
import TableSchema.Proofs.Catalog.Quotation
import TableSchema.Proofs.Text.Words
import TableSchema.Proofs.Token.Spelling

/-! # The grammar of casts

A cast is two colons and a type: a name, perhaps between quotation marks, perhaps with further words
(`varying`, `precision`, `with time zone`, `without time zone`) and perhaps with brackets.
`Catalog.afterCast?` takes exactly such a text (`Catalog.afterCast?_text`, `Catalog.exists_cast`),
so that code is left blank by `Catalog.removeCasts` exactly if it is made of casts and blanks
(`Catalog.removeCasts_blank_iff`).
-/

namespace TableSchema.Catalog

variable {rest word : List Char}

/-! ### Parts of a cast -/

/-- One or more blanks. -/
structure Gap where
  run : List Char
  nonempty : run ≠ []
  blank : ∀ c ∈ run, Text.isBlank c = true

/-- The further words of a type name. -/
inductive FurtherWords where
  | varying (gap : Gap)
  | precision (gap : Gap)
  | timeZone (gap : Gap) (out : Bool) (second third : Gap)

/-- A part that may be left out. -/
def optional (written : Bool) (word : List Char) : List Char :=
  if written then word else []

/-- The further words with the blanks before them. -/
def FurtherWords.text : FurtherWords → List Char
  | .varying gap => gap.run ++ "varying".toList
  | .precision gap => gap.run ++ "precision".toList
  | .timeZone gap out second third =>
    gap.run ++ ("with".toList ++ (optional out "out".toList ++ (second.run ++ ("time".toList ++
      (third.run ++ "zone".toList)))))

/-- Whether a character may begin the name of a type. -/
def isNameStart (c : Char) : Bool :=
  Text.isAsciiLetter c || c == '_'

/-- Whether a character may stand in the name of a type. -/
def isNamePart (c : Char) : Bool :=
  Text.isAsciiLetter c || Text.isAsciiDigit c || c == '_'

/-- Whether a text is an ASCII identifier. -/
def isTypeName : List Char → Bool
  | c :: rest => isNameStart c && rest.all isNamePart
  | [] => false

/-- A cast, with the blanks before it. -/
structure Cast where
  before : List Char
  /-- The blanks behind the colons. -/
  gap : List Char
  /-- Whether a quotation mark opens the name. -/
  opened : Bool
  name : List Char
  /-- Whether a quotation mark closes the name. -/
  closed : Bool
  further : Option FurtherWords
  brackets : Bool
  blank_before : ∀ c ∈ before, Text.isBlank c = true
  blank_gap : ∀ c ∈ gap, Text.isBlank c = true
  named : isTypeName name = true

/-- The type that a cast names, with the blanks before it. -/
def Cast.type (cast : Cast) : List Char :=
  cast.gap ++ (optional cast.opened ['"'] ++ (cast.name ++ (optional cast.closed ['"'] ++
    ((cast.further.elim [] FurtherWords.text) ++ optional cast.brackets ['[', ']']))))

/-- A cast as it is written. -/
def Cast.text (cast : Cast) : List Char :=
  cast.before ++ ':' :: ':' :: cast.type

/-! ### Words -/

/-- A word is taken exactly off a text that begins with it. -/
theorem after?_eq_some_iff {text : List Char} :
    after? word text = some rest ↔ text = word ++ rest := by
  unfold after?
  split
  · next found =>
    obtain ⟨behind, rfl⟩ := List.isPrefixOf_iff_prefix.mp found
    rw [List.drop_left, Option.some.injEq, List.append_cancel_left_eq]
  · next absent =>
    constructor
    · rintro ⟨⟩
    · rintro rfl
      exact absurd (List.isPrefixOf_iff_prefix.mpr (List.prefix_append ..)) absent

/-- A word that a text begins with is taken off it. -/
theorem after?_append (word rest : List Char) : after? word (word ++ rest) = some rest :=
  after?_eq_some_iff.mpr rfl

/-- A word is not taken off a text whose first character is another one. -/
theorem after?_eq_none {text : List Char} {c : Char} (head : word.head? = some c)
    (other : text.head? ≠ some c) : after? word text = none := by
  cases found : after? word text with
  | none => rfl
  | some rest =>
    rw [after?_eq_some_iff.mp found, List.head?_append, head] at other
    exact absurd rfl other

/-- A text is a part, written or left out, and what is taken to stand behind the part. -/
theorem exists_optional (word text : List Char) :
    ∃ written, text = optional written word ++ afterOptional word text := by
  unfold afterOptional
  cases found : after? word text with
  | none => exact ⟨false, rfl⟩
  | some rest => exact ⟨true, after?_eq_some_iff.mp found⟩

/-- A part that may be left out is taken off where it is written, if what follows cannot be mistaken
for it. -/
theorem afterOptional_append {c : Char} (head : word.head? = some c)
    (other : rest.head? ≠ some c) (written : Bool) :
    afterOptional word (optional written word ++ rest) = rest := by
  cases written with
  | true =>
    have taken : after? word (optional true word ++ rest) = some rest := after?_append word rest
    rw [afterOptional, taken, Option.getD_some]
  | false =>
    have left : after? word (optional false word ++ rest) = none := after?_eq_none head other
    rw [afterOptional, left, Option.getD_none]
    rfl

/-- What stands behind blanks: nothing, or something else. -/
def Solid (rest : List Char) : Prop :=
  ∀ c ∈ rest.head?, Text.isBlank c = false

/-- Blanks are taken off whole, and at least one. -/
theorem afterBlanks?_eq_some_iff {text : List Char} : afterBlanks? text = some rest ↔
    ∃ gap : Gap, text = gap.run ++ rest ∧ Solid rest := by
  constructor
  · intro found
    cases text with
    | nil => cases found
    | cons c text =>
      by_cases blank : Text.isBlank c = true
      · rw [afterBlanks?, if_pos blank, Option.some.injEq] at found
        obtain ⟨run, rfl, all, solid⟩ := Text.dropWhile_eq_iff.mp found
        exact ⟨⟨c :: run, List.cons_ne_nil _ _, List.forall_mem_cons.mpr ⟨blank, all⟩⟩, rfl, solid⟩
      · rw [afterBlanks?, if_neg blank] at found
        cases found
  · rintro ⟨⟨run, nonempty, blank⟩, rfl, solid⟩
    cases run with
    | nil => exact absurd rfl nonempty
    | cons c run =>
      obtain ⟨first, others⟩ := List.forall_mem_cons.mp blank
      rw [List.cons_append, afterBlanks?, if_pos first]
      exact congrArg some (Text.dropWhile_eq_iff.mpr ⟨run, rfl, others, solid⟩)

/-- A gap is taken off, up to what follows. -/
theorem afterBlanks?_append (solid : Solid rest) (gap : Gap) :
    afterBlanks? (gap.run ++ rest) = some rest :=
  afterBlanks?_eq_some_iff.mpr ⟨gap, rfl, solid⟩

/-- Where no blank stands, no gap is taken off. -/
theorem afterBlanks?_eq_none (solid : Solid rest) : afterBlanks? rest = none := by
  cases rest with
  | nil => rfl
  | cons c rest => rw [afterBlanks?, if_neg (by simp [solid c rfl])]

/-- A text is solid in front if it begins with a word whose first character is no blank. -/
theorem solid_append {c : Char} (head : word.head? = some c) (solid : Text.isBlank c = false)
    (rest : List Char) : Solid (word ++ rest) := by
  intro d member
  rw [List.head?_append, head, Option.some_or] at member
  cases member
  exact solid

/-- The name of a type is taken off whole: it is an identifier, and no character of a name follows.
-/
theorem afterName?_eq_some_iff {text : List Char} : afterName? text = some rest ↔
    ∃ name, isTypeName name = true ∧ text = name ++ rest ∧
      ∀ c ∈ rest.head?, isNamePart c = false := by
  constructor
  · intro found
    cases text with
    | nil => cases found
    | cons c text =>
      by_cases start : (Text.isAsciiLetter c || c == '_') = true
      · rw [afterName?, if_pos start, Option.some.injEq] at found
        obtain ⟨run, rfl, all, stopped⟩ := Text.dropWhile_eq_iff.mp found
        refine ⟨c :: run, ?_, rfl, stopped⟩
        rw [isTypeName, Bool.and_eq_true]
        exact ⟨start, List.all_eq_true.mpr all⟩
      · rw [afterName?, if_neg start] at found
        cases found
  · rintro ⟨name, named, rfl, stopped⟩
    cases name with
    | nil => cases named
    | cons c name =>
      rw [isTypeName, Bool.and_eq_true] at named
      have start : (Text.isAsciiLetter c || c == '_') = true := named.1
      rw [List.cons_append, afterName?, if_pos start]
      exact congrArg some
        (Text.dropWhile_eq_iff.mpr ⟨name, rfl, List.all_eq_true.mp named.2, stopped⟩)

/-! ### Further words -/

/-- What is taken as a time zone is `with` or `without`, `time` and `zone`, with gaps between them.
-/
theorem exists_timeZone {text : List Char} (read : afterZone? text = some rest) :
    ∃ (out : Bool) (second third : Gap), text = "with".toList ++ (optional out "out".toList ++
      (second.run ++ ("time".toList ++ (third.run ++ ("zone".toList ++ rest))))) := by
  obtain ⟨afterWith, with_, read⟩ := Option.bind_eq_some_iff.mp read
  obtain ⟨beforeTime, blanks, read⟩ := Option.bind_eq_some_iff.mp read
  obtain ⟨afterTime, time, read⟩ := Option.bind_eq_some_iff.mp read
  obtain ⟨beforeZone, more, zone⟩ := Option.bind_eq_some_iff.mp read
  obtain ⟨out, without⟩ := exists_optional "out".toList afterWith
  obtain ⟨second, afterOut, -⟩ := afterBlanks?_eq_some_iff.mp blanks
  obtain ⟨third, between, -⟩ := afterBlanks?_eq_some_iff.mp more
  refine ⟨out, second, third, ?_⟩
  calc text = "with".toList ++ afterWith := after?_eq_some_iff.mp with_
    _ = "with".toList ++ (optional out "out".toList ++ (second.run ++ beforeTime)) := by
      rw [← afterOut, ← without]
    _ = _ := by
      rw [after?_eq_some_iff.mp time, between, after?_eq_some_iff.mp zone]

/-- Whatever is taken as further words is a gap with the words of one of the three kinds. -/
theorem exists_furtherWords {text : List Char} (read : afterSecondWord? text = some rest) :
    ∃ words : FurtherWords, text = words.text ++ rest := by
  obtain ⟨behind, blanks, read⟩ := Option.bind_eq_some_iff.mp read
  obtain ⟨gap, same, -⟩ := afterBlanks?_eq_some_iff.mp blanks
  rcases Option.or_eq_some_iff.mp read with varying | ⟨-, read⟩
  · refine ⟨.varying gap, ?_⟩
    rw [same, after?_eq_some_iff.mp varying, FurtherWords.text, List.append_assoc]
  rcases Option.or_eq_some_iff.mp read with precision | ⟨-, read⟩
  · refine ⟨.precision gap, ?_⟩
    rw [same, after?_eq_some_iff.mp precision, FurtherWords.text, List.append_assoc]
  obtain ⟨out, second, third, zone⟩ := exists_timeZone read
  refine ⟨.timeZone gap out second third, ?_⟩
  rw [same, zone]
  simp only [FurtherWords.text, List.append_assoc]

/-- A gap begins with a blank. -/
theorem Gap.head? (gap : Gap) : ∃ c, gap.run.head? = some c ∧ Text.isBlank c = true := by
  obtain ⟨c, run, same⟩ := List.exists_cons_of_ne_nil gap.nonempty
  exact ⟨c, by rw [same]; rfl, gap.blank c (same ▸ List.mem_cons_self)⟩

/-- A gap does not begin with a character that is no blank. -/
theorem Gap.head?_append_ne {c : Char} (solid : Text.isBlank c = false) (gap : Gap)
    (rest : List Char) : (gap.run ++ rest).head? ≠ some c := by
  obtain ⟨d, head, blank⟩ := gap.head?
  rw [List.head?_append, head, Option.some_or]
  rintro ⟨⟩
  rw [blank] at solid
  cases solid

/-- The words of a time zone are taken whole, with and without `out`. -/
theorem afterZone?_append (out : Bool) (second third : Gap) (rest : List Char) :
    afterZone? ("with".toList ++ (optional out "out".toList ++ (second.run ++ ("time".toList ++
      (third.run ++ ("zone".toList ++ rest)))))) = some rest := by
  have time (rest : List Char) : Solid ("time".toList ++ rest) := solid_append rfl (by decide) rest
  have zone (rest : List Char) : Solid ("zone".toList ++ rest) := solid_append rfl (by decide) rest
  have skipped (rest : List Char) :
      afterOptional "out".toList (optional out "out".toList ++ (second.run ++ rest)) =
        second.run ++ rest :=
    afterOptional_append rfl (second.head?_append_ne (by decide) rest) out
  simp only [afterZone?, Option.bind_eq_bind, after?_append, Option.bind_some, skipped,
    afterBlanks?_append (time _), afterBlanks?_append (zone _)]

/-- Further words are taken whole. -/
theorem afterSecondWord?_text (words : FurtherWords) (rest : List Char) :
    afterSecondWord? (words.text ++ rest) = some rest := by
  have others {word other : List Char} {c d : Char} (head : word.head? = some c)
      (begins : other.head? = some d) (apart : d ≠ c) (rest : List Char) :
      after? word (other ++ rest) = none := by
    apply after?_eq_none head
    rw [List.head?_append, begins]
    exact fun same => apart (Option.some.inj same)
  simp only [afterSecondWord?, Option.bind_eq_bind]
  cases words with
  | varying gap =>
    have skipped : afterBlanks? (gap.run ++ ("varying".toList ++ rest)) =
        some ("varying".toList ++ rest) :=
      afterBlanks?_append (solid_append rfl (by decide) rest) gap
    rw [FurtherWords.text, List.append_assoc, skipped, Option.bind_some]
    rw [after?_append, Option.some_or]
  | precision gap =>
    have skipped : afterBlanks? (gap.run ++ ("precision".toList ++ rest)) =
        some ("precision".toList ++ rest) :=
      afterBlanks?_append (solid_append rfl (by decide) rest) gap
    rw [FurtherWords.text, List.append_assoc, skipped, Option.bind_some]
    rw [others rfl rfl (by decide), after?_append, Option.none_or, Option.some_or]
  | timeZone gap out second third =>
    have whole : FurtherWords.text (.timeZone gap out second third) ++ rest =
        gap.run ++ ("with".toList ++ (optional out "out".toList ++ (second.run ++
          ("time".toList ++ (third.run ++ ("zone".toList ++ rest)))))) := by
      simp only [FurtherWords.text, List.append_assoc]
    have solid (rest : List Char) : Solid ("with".toList ++ rest) :=
      solid_append rfl (by decide) rest
    rw [whole, afterBlanks?_append (solid _), Option.bind_some]
    rw [others rfl rfl (by decide), others rfl rfl (by decide), afterZone?_append]
    rw [Option.none_or, Option.none_or]

/-- Further words begin with the blank of their gap. -/
theorem FurtherWords.head? (words : FurtherWords) :
    ∃ c, words.text.head? = some c ∧ Text.isBlank c = true := by
  cases words with
  | varying gap | precision gap | timeZone gap =>
    obtain ⟨c, head, blank⟩ := gap.head?
    exact ⟨c, by rw [FurtherWords.text, List.head?_append, head, Option.some_or], blank⟩

/-! ### Casts -/

/-- The name of a type begins with a letter or an underscore. -/
theorem head?_isTypeName {name : List Char} (named : isTypeName name = true) :
    ∃ c, name.head? = some c ∧ isNameStart c = true := by
  cases name with
  | nil => cases named
  | cons c name =>
    rw [isTypeName, Bool.and_eq_true] at named
    exact ⟨c, rfl, named.1⟩

/-- What may stand in the name of a type may stand in a key. -/
theorem isKeyPart_of_isNamePart {c : Char} (part : isNamePart c = true) :
    Text.isKeyPart c = true := by
  simp only [isNamePart, Bool.or_eq_true] at part
  simp only [Text.isKeyPart, Text.isKeyStart, Bool.or_eq_true]
  tauto

/-- No blank stands in the name of a type. -/
theorem isBlank_of_isNamePart {c : Char} (part : isNamePart c = true) : Text.isBlank c = false := by
  have key := isKeyPart_of_isNamePart part
  cases blank : Text.isBlank c with
  | false => rfl
  | true =>
    have apart := (Token.breaks_blank blank []).1 c rfl
    rw [apart.1] at key
    cases key

/-- What may begin the name of a type may also stand within it. -/
theorem isNamePart_of_isNameStart {c : Char} (start : isNameStart c = true) :
    isNamePart c = true := by
  simp only [isNameStart, isNamePart, Bool.or_eq_true] at start ⊢
  tauto

/-- A text behind a part that may be left out begins as this part does or as itself. -/
theorem head?_optional_append {c : Char} {written : Bool}
    (member : c ∈ (optional written word ++ rest).head?) : c ∈ word.head? ∨ c ∈ rest.head? := by
  cases written with
  | false => exact .inr member
  | true =>
    cases word with
    | nil => exact .inr member
    | cons d word => exact .inl member

/-- What ends a cast: a blank or a colon, but no further words. -/
structure EndsCast (rest : List Char) : Prop where
  first : ∀ c ∈ rest.head?, Text.isBlank c = true ∨ c = ':'
  furtherless : afterSecondWord? rest = none

/-- Whether a character may stand behind the name of a type and its mark. -/
def IsBoundary (c : Char) : Prop :=
  Text.isBlank c = true ∨ c = ':' ∨ c = '['

/-- A name ends at a boundary. -/
theorem IsBoundary.not_isNamePart {c : Char} (boundary : IsBoundary c) : isNamePart c = false := by
  rcases boundary with blank | rfl | rfl
  · cases part : isNamePart c with
    | false => rfl
    | true =>
      rw [isBlank_of_isNamePart part] at blank
      cases blank
  · decide
  · decide

/-- A quotation mark is no boundary, so a closing mark belongs to the type. -/
theorem not_isBoundary_mark : ¬IsBoundary '"' := by
  rintro (blank | colon | bracket)
  · exact absurd blank (by decide)
  · exact absurd colon (by decide)
  · exact absurd bracket (by decide)

namespace Cast

variable (cast : Cast)

/-- A text from the brackets of a cast before it. -/
def fromBrackets (rest : List Char) : List Char :=
  optional cast.brackets ['[', ']'] ++ rest

/-- A text from the further words of a cast before it. -/
def fromWords (rest : List Char) : List Char :=
  cast.further.elim [] FurtherWords.text ++ cast.fromBrackets rest

/-- A text from the closing quotation mark of a cast before it. -/
def fromMark (rest : List Char) : List Char :=
  optional cast.closed ['"'] ++ cast.fromWords rest

/-- A text from the name of a cast before it, and the quotation mark that opens it. -/
def fromName (rest : List Char) : List Char :=
  optional cast.opened ['"'] ++ (cast.name ++ cast.fromMark rest)

/-- A type with a text behind it, cut in front of its name. -/
theorem type_append (rest : List Char) : cast.type ++ rest = cast.gap ++ cast.fromName rest := by
  simp only [type, fromName, fromMark, fromWords, fromBrackets, List.append_assoc]

/-- The brackets of a cast are taken off. -/
theorem afterBrackets (ends : EndsCast rest) :
    afterOptional ['[', ']'] (cast.fromBrackets rest) = rest := by
  apply afterOptional_append rfl
  intro bracket
  rcases ends.first '[' bracket with blank | colon
  · exact absurd blank (by decide)
  · exact absurd colon (by decide)

/-- In front of the brackets of a cast, or of what ends it, no further words are found. -/
theorem afterSecondWord?_fromBrackets (ends : EndsCast rest) :
    afterSecondWord? (cast.fromBrackets rest) = none := by
  unfold fromBrackets
  cases cast.brackets with
  | false => exact ends.furtherless
  | true =>
    have solid : Solid (optional true ['[', ']'] ++ rest) := solid_append rfl (by decide) rest
    rw [afterSecondWord?, afterBlanks?_eq_none solid]
    rfl

/-- The further words of a cast are taken off, if it has any. -/
theorem afterWords (ends : EndsCast rest) :
    (afterSecondWord? (cast.fromWords rest)).getD (cast.fromWords rest) =
      cast.fromBrackets rest := by
  unfold fromWords
  cases cast.further with
  | none =>
    rw [Option.elim_none, List.nil_append, cast.afterSecondWord?_fromBrackets ends,
      Option.getD_none]
  | some words => rw [Option.elim_some, afterSecondWord?_text, Option.getD_some]

/-- Behind the name of a cast and its closing mark stands a boundary. -/
theorem isBoundary_fromWords (ends : EndsCast rest) :
    ∀ c ∈ (cast.fromWords rest).head?, IsBoundary c := by
  intro c member
  unfold fromWords at member
  cases further : cast.further with
  | none =>
    rw [further, Option.elim_none, List.nil_append] at member
    rcases head?_optional_append member with bracket | member
    · cases bracket
      exact .inr (.inr rfl)
    · exact (ends.first c member).imp_right .inl
  | some words =>
    obtain ⟨d, head, blank⟩ := words.head?
    rw [further, Option.elim_some, List.head?_append, head, Option.some_or] at member
    cases member
    exact .inl blank

/-- The closing quotation mark of a cast is taken off, if there is one. -/
theorem afterMark (ends : EndsCast rest) :
    afterOptional ['"'] (cast.fromMark rest) = cast.fromWords rest := by
  apply afterOptional_append rfl
  exact fun mark => not_isBoundary_mark (cast.isBoundary_fromWords ends '"' mark)

/-- The name of a cast is taken whole. -/
theorem afterName (ends : EndsCast rest) :
    afterName? (cast.name ++ cast.fromMark rest) = some (cast.fromMark rest) := by
  refine afterName?_eq_some_iff.mpr ⟨cast.name, cast.named, rfl, fun c member => ?_⟩
  rcases head?_optional_append member with mark | member
  · cases mark
    decide
  · exact (cast.isBoundary_fromWords ends c member).not_isNamePart

/-- A text that begins with the name of a cast begins with a character of a name. -/
theorem head?_name (rest : List Char) :
    ∃ c, (cast.name ++ rest).head? = some c ∧ isNamePart c = true := by
  obtain ⟨c, head, start⟩ := head?_isTypeName cast.named
  exact ⟨c, by rw [List.head?_append, head, Option.some_or], isNamePart_of_isNameStart start⟩

/-- The opening quotation mark of a cast is taken off, if there is one. -/
theorem afterOpening (rest : List Char) :
    afterOptional ['"'] (cast.fromName rest) = cast.name ++ cast.fromMark rest := by
  apply afterOptional_append rfl
  obtain ⟨c, head, part⟩ := cast.head?_name (cast.fromMark rest)
  rw [head]
  rintro ⟨⟩
  exact absurd part (by decide)

/-- The blanks between the colons and the type are skipped. -/
theorem afterGap (rest : List Char) :
    (cast.gap ++ cast.fromName rest).dropWhile Text.isBlank = cast.fromName rest := by
  refine Text.dropWhile_eq_iff.mpr ⟨cast.gap, rfl, cast.blank_gap, fun c member => ?_⟩
  rcases head?_optional_append member with mark | member
  · cases mark
    decide
  · obtain ⟨d, head, part⟩ := cast.head?_name (cast.fromMark rest)
    rw [head] at member
    cases member
    exact isBlank_of_isNamePart part

end Cast

/-- A cast is taken whole. -/
theorem afterCast?_type (cast : Cast) (ends : EndsCast rest) :
    afterCast? (':' :: ':' :: (cast.type ++ rest)) = some rest := by
  rw [cast.type_append]
  have colons : after? [':', ':'] (':' :: ':' :: (cast.gap ++ cast.fromName rest)) =
      some (cast.gap ++ cast.fromName rest) := after?_append [':', ':'] _
  simp only [afterCast?, Option.bind_eq_bind, colons, Option.bind_some, cast.afterGap,
    cast.afterOpening, cast.afterName ends, cast.afterMark ends, cast.afterWords ends,
    cast.afterBrackets ends, Option.pure_def]

/-- Whatever is taken is a cast. -/
theorem exists_cast {text : List Char} (read : afterCast? text = some rest) :
    ∃ cast : Cast, cast.before = [] ∧ text = cast.text ++ rest := by
  obtain ⟨behind, colons, read⟩ := Option.bind_eq_some_iff.mp read
  obtain ⟨afterName, found, read⟩ := Option.bind_eq_some_iff.mp read
  obtain ⟨gap, spaced, blank, -⟩ :=
    Text.dropWhile_eq_iff.mp (rfl : behind.dropWhile Text.isBlank = _)
  obtain ⟨opened, opening⟩ := exists_optional ['"'] (behind.dropWhile Text.isBlank)
  obtain ⟨name, named, whole, -⟩ := afterName?_eq_some_iff.mp found
  obtain ⟨closed, closing⟩ := exists_optional ['"'] afterName
  obtain ⟨afterMark, marked⟩ : ∃ afterMark, afterMark = afterOptional ['"'] afterName := ⟨_, rfl⟩
  obtain ⟨further, words⟩ : ∃ further : Option FurtherWords, afterMark =
      further.elim [] FurtherWords.text ++ (afterSecondWord? afterMark).getD afterMark := by
    cases second : afterSecondWord? afterMark with
    | none => exact ⟨none, rfl⟩
    | some behindWords =>
      obtain ⟨words, same⟩ := exists_furtherWords second
      exact ⟨some words, same⟩
  obtain ⟨brackets, bracketed⟩ :=
    exists_optional ['[', ']'] ((afterSecondWord? afterMark).getD afterMark)
  have last : rest = afterOptional ['[', ']'] ((afterSecondWord? afterMark).getD afterMark) := by
    rw [marked]
    exact (Option.some.inj read).symm
  refine ⟨⟨[], gap, opened, name, closed, further, brackets, by simp, blank, named⟩, rfl, ?_⟩
  calc text = ':' :: ':' :: behind := after?_eq_some_iff.mp colons
    _ = ':' :: ':' :: (gap ++ (optional opened ['"'] ++ (name ++ (optional closed ['"'] ++
        (further.elim [] FurtherWords.text ++ (optional brackets ['[', ']'] ++ rest)))))) := by
      rw [last, ← bracketed, ← words, marked, ← closing, ← whole, ← opening, ← spaced]
    _ = _ := by
      simp only [Cast.text, Cast.type, List.nil_append, List.cons_append, List.append_assoc]

/-! ### Text without casts -/

/-- What is left of a text of which some characters are covered is what is left of the rest. -/
theorem removeCastsFrom_eq (covered : Nat) (text : List Char) :
    removeCastsFrom covered text = removeCasts (text.drop covered) := by
  induction text generalizing covered with
  | nil => cases covered <;> rfl
  | cons c text hypothesis =>
    cases covered with
    | zero => rfl
    | succ covered => exact hypothesis covered

/-- A character at which no cast begins stays. -/
theorem removeCasts_cons {c : Char} {text : List Char} (kept : afterCast? (c :: text) = none) :
    removeCasts (c :: text) = c :: removeCasts text := by
  rw [removeCasts, removeCastsFrom, kept]
  rfl

/-- A character other than a colon stays. -/
theorem removeCasts_cons_of_ne {c : Char} (plain : c ≠ ':') (text : List Char) :
    removeCasts (c :: text) = c :: removeCasts text := by
  apply removeCasts_cons
  have other : (c :: text).head? ≠ some ':' := fun same => plain (Option.some.inj same)
  rw [afterCast?, after?_eq_none rfl other]
  rfl

/-- A text without colons stays, whatever follows. -/
theorem removeCasts_append_of_forall {text : List Char} (plain : ∀ c ∈ text, c ≠ ':')
    (rest : List Char) : removeCasts (text ++ rest) = text ++ removeCasts rest := by
  induction text with
  | nil => rfl
  | cons c text hypothesis =>
    obtain ⟨first, others⟩ := List.forall_mem_cons.mp plain
    rw [List.cons_append, removeCasts_cons_of_ne first, hypothesis others, List.cons_append]

/-- Where a cast begins, nothing of it is left. -/
theorem removeCasts_of_taken {text : List Char} (read : afterCast? text = some rest) :
    removeCasts text = removeCasts rest := by
  obtain ⟨cast, begins, rfl⟩ := exists_cast read
  have behind : (':' :: (cast.type ++ rest)).drop
      ((':' :: (cast.type ++ rest)).length - rest.length) = rest := by
    rw [← List.cons_append, List.length_append, Nat.add_sub_cancel]
    exact List.drop_left
  rw [Cast.text, begins] at read ⊢
  rw [List.nil_append, List.cons_append, List.cons_append] at read ⊢
  rw [removeCasts, removeCastsFrom, read]
  show removeCastsFrom _ _ = _
  rw [removeCastsFrom_eq, behind]

/-- A colon is no blank. -/
theorem ne_colon_of_isBlank {c : Char} (blank : Text.isBlank c = true) : c ≠ ':' := by
  rintro rfl
  exact absurd blank (by decide)

/-- Of a cast only the blanks before it are left. -/
theorem removeCasts_cast (cast : Cast) (ends : EndsCast rest) :
    removeCasts (cast.text ++ rest) = cast.before ++ removeCasts rest := by
  have plain : ∀ c ∈ cast.before, c ≠ ':' :=
    fun c member => ne_colon_of_isBlank (cast.blank_before c member)
  have taken : afterCast? (':' :: ':' :: (cast.type ++ rest)) = some rest :=
    afterCast?_type cast ends
  calc removeCasts (cast.text ++ rest)
    _ = removeCasts (cast.before ++ ':' :: ':' :: (cast.type ++ rest)) := by
      rw [Cast.text, List.append_assoc, List.cons_append, List.cons_append]
    _ = cast.before ++ removeCasts (':' :: ':' :: (cast.type ++ rest)) :=
      removeCasts_append_of_forall plain _
    _ = cast.before ++ removeCasts rest := by rw [removeCasts_of_taken taken]

/-- Removing casts adds no character. -/
theorem removeCasts_subset (text : List Char) : removeCasts text ⊆ text := by
  have inside : ∀ covered, removeCastsFrom covered text ⊆ text := by
    intro covered
    fun_induction removeCastsFrom covered text with
    | case1 => exact List.Subset.refl _
    | case2 covered c rest hypothesis => exact List.subset_cons_of_subset c hypothesis
    | case3 c rest after found hypothesis => exact List.subset_cons_of_subset c hypothesis
    | case4 c rest found hypothesis => exact List.cons_subset_cons c hypothesis
  exact inside 0

/-- A text made of casts. -/
def castsText (casts : List Cast) : List Char :=
  casts.flatMap Cast.text

/-- The text of casts begins with that of the first one. -/
theorem castsText_cons (cast : Cast) (casts : List Cast) (rest : List Char) :
    castsText (cast :: casts) ++ rest = cast.text ++ (castsText casts ++ rest) := by
  rw [castsText, List.flatMap_cons, List.append_assoc]
  rfl

/-- Whether a character may stand in a cast. -/
def isCastChar (c : Char) : Bool :=
  Text.isBlank c || isNamePart c || c == ':' || c == '"' || c == '[' || c == ']'

/-- A blank may stand in a cast. -/
theorem isCastChar_of_isBlank {c : Char} (blank : Text.isBlank c = true) :
    isCastChar c = true := by
  simp only [isCastChar, blank, Bool.true_or]

/-- What may stand in a name may stand in a cast. -/
theorem isCastChar_of_isNamePart {c : Char} (part : isNamePart c = true) :
    isCastChar c = true := by
  simp only [isCastChar, part, Bool.or_true, Bool.true_or]

/-- All characters of the name of a type are characters of names. -/
theorem isNamePart_of_isTypeName {name : List Char} (named : isTypeName name = true) :
    ∀ c ∈ name, isNamePart c = true := by
  cases name with
  | nil => cases named
  | cons c name =>
    rw [isTypeName, Bool.and_eq_true] at named
    exact List.forall_mem_cons.mpr
      ⟨isNamePart_of_isNameStart named.1, List.all_eq_true.mp named.2⟩

/-- What holds of the characters of a part holds of them if the part is left out, too. -/
theorem forall_mem_optional {holds : Char → Prop} (all : ∀ c ∈ word, holds c) (written : Bool) :
    ∀ c ∈ optional written word, holds c := by
  cases written with
  | true => exact all
  | false => exact List.forall_mem_nil _

/-- Further words are made of characters of casts. -/
theorem FurtherWords.isCastChar_text (words : FurtherWords) :
    ∀ c ∈ words.text, isCastChar c = true := by
  have gap (gap : Gap) : ∀ c ∈ gap.run, isCastChar c = true :=
    fun c member => isCastChar_of_isBlank (gap.blank c member)
  have constant {word : List Char} (all : word.all isCastChar = true) :
      ∀ c ∈ word, isCastChar c = true := List.all_eq_true.mp all
  cases words with
  | varying first | precision first =>
    rw [FurtherWords.text, List.forall_mem_append]
    exact ⟨gap first, constant (by decide)⟩
  | timeZone first out second third =>
    simp only [FurtherWords.text, List.forall_mem_append]
    exact ⟨gap first, constant (by decide), forall_mem_optional (constant (by decide)) out,
      gap second, constant (by decide), gap third, constant (by decide)⟩

/-- A cast is made of blanks, characters of names, colons, quotation marks and brackets. -/
theorem Cast.isCastChar_text (cast : Cast) : ∀ c ∈ cast.text, isCastChar c = true := by
  have further : ∀ c ∈ cast.further.elim [] FurtherWords.text, isCastChar c = true := by
    cases cast.further with
    | none => exact List.forall_mem_nil _
    | some words => exact words.isCastChar_text
  have mark : ∀ c ∈ ['"'], isCastChar c = true := List.all_eq_true.mp (by decide)
  have brackets : ∀ c ∈ ['[', ']'], isCastChar c = true := List.all_eq_true.mp (by decide)
  simp only [Cast.text, Cast.type, List.forall_mem_append, List.forall_mem_cons]
  exact ⟨fun c member => isCastChar_of_isBlank (cast.blank_before c member), by decide, by decide,
    fun c member => isCastChar_of_isBlank (cast.blank_gap c member),
    forall_mem_optional mark _,
    fun c member => isCastChar_of_isNamePart (isNamePart_of_isTypeName cast.named c member),
    forall_mem_optional mark _, further, forall_mem_optional brackets _⟩

/-- A row of casts is made of characters of casts. -/
theorem isCastChar_castsText (casts : List Cast) :
    ∀ c ∈ castsText casts, isCastChar c = true := by
  intro c member
  obtain ⟨cast, -, inside⟩ := List.mem_flatMap.mp member
  exact cast.isCastChar_text c inside

/-- A colon or the end, with blanks before it, ends a cast. -/
theorem endsCast_blanks {blanks : List Char} (blank : ∀ c ∈ blanks, Text.isBlank c = true)
    (colon : ∀ c ∈ rest.head?, c = ':') : EndsCast (blanks ++ rest) := by
  have solid : Solid rest := by
    intro c member
    rw [colon c member]
    decide
  have other {c : Char} (apart : c ≠ ':') : rest.head? ≠ some c :=
    fun member => apart (colon c member)
  constructor
  · intro c member
    cases blanks with
    | nil => exact .inr (colon c member)
    | cons d blanks =>
      cases member
      exact .inl (blank c List.mem_cons_self)
  · by_cases empty : blanks = []
    · rw [empty, List.nil_append, afterSecondWord?, afterBlanks?_eq_none solid]
      rfl
    · simp only [afterSecondWord?, Option.bind_eq_bind,
        afterBlanks?_append solid ⟨blanks, empty, blank⟩, Option.bind_some, afterZone?,
        after?_eq_none (show "varying".toList.head? = some 'v' from rfl) (other (by decide)),
        after?_eq_none (show "precision".toList.head? = some 'p' from rfl) (other (by decide)),
        after?_eq_none (show "with".toList.head? = some 'w' from rfl) (other (by decide)),
        Option.none_or, Option.bind_none]

/-- A cast ends where further casts and blanks follow, or nothing. -/
theorem endsCast_casts (casts : List Cast) {blanks : List Char}
    (blank : ∀ c ∈ blanks, Text.isBlank c = true) : EndsCast (castsText casts ++ blanks) := by
  cases casts with
  | nil =>
    have ends : EndsCast (blanks ++ []) := endsCast_blanks blank (by rintro c ⟨⟩)
    rwa [List.append_nil] at ends
  | cons cast casts =>
    rw [castsText_cons, Cast.text, List.append_assoc]
    apply endsCast_blanks cast.blank_before
    rintro c ⟨⟩
    rfl

/-- Nothing is removed from blanks. -/
theorem removeCasts_of_blank {blanks : List Char} (blank : ∀ c ∈ blanks, Text.isBlank c = true) :
    removeCasts blanks = blanks := by
  have kept := removeCasts_append_of_forall
    (fun c member => ne_colon_of_isBlank (blank c member)) []
  have empty : removeCasts [] = [] := rfl
  rwa [empty, List.append_nil] at kept

/-- Code is left blank exactly if it is made of casts and blanks. -/
theorem removeCasts_blank_iff {code : List Char} :
    (∀ c ∈ removeCasts code, Text.isBlank c = true) ↔
      ∃ casts blanks, (∀ c ∈ blanks, Text.isBlank c = true) ∧ code = castsText casts ++ blanks := by
  constructor
  · -- By induction on the length: what is left behind a cast is shorter.
    induction hlength : code.length using Nat.strongRecOn generalizing code with
    | ind length hypothesis =>
      intro blank
      obtain ⟨before, same, blank_before, solid⟩ :=
        Text.dropWhile_eq_iff.mp (rfl : code.dropWhile Text.isBlank = _)
      have kept (rest : List Char) := removeCasts_append_of_forall
        (fun c member => ne_colon_of_isBlank (blank_before c member)) rest
      cases behind : code.dropWhile Text.isBlank with
      | nil =>
        rw [behind, List.append_nil] at same
        exact ⟨[], before, blank_before, same⟩
      | cons c rest =>
        rw [behind] at same solid
        rw [same, kept] at blank
        cases read : afterCast? (c :: rest) with
        | none =>
          rw [removeCasts_cons read] at blank
          have first := blank c (List.mem_append_right _ List.mem_cons_self)
          rw [solid c rfl] at first
          cases first
        | some after =>
          obtain ⟨cast, begins, taken⟩ := exists_cast read
          have shorter : after.length < length := by
            rw [← hlength, same, taken, Cast.text]
            simp only [List.length_append, List.length_cons]
            omega
          rw [removeCasts_of_taken read] at blank
          obtain ⟨casts, blanks, blank_last, whole⟩ := hypothesis _ shorter rfl
            fun c member => blank c (List.mem_append_right _ member)
          refine ⟨{ cast with before, blank_before } :: casts, blanks, blank_last, ?_⟩
          rw [same, taken, castsText_cons, ← whole, Cast.text, begins, Cast.text]
          simp only [List.nil_append, List.append_assoc]
          rfl
  · rintro ⟨casts, blanks, blank, rfl⟩
    induction casts with
    | nil =>
      intro c member
      have kept : removeCasts (castsText [] ++ blanks) = blanks := removeCasts_of_blank blank
      exact blank c (kept ▸ member)
    | cons cast casts hypothesis =>
      rw [castsText_cons, removeCasts_cast cast (endsCast_casts casts blank)]
      exact List.forall_mem_append.mpr ⟨cast.blank_before, hypothesis⟩

end TableSchema.Catalog
