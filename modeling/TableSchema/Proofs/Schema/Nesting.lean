import TableSchema.Proofs.Schema.Lexemes

/-! # Nesting in schema texts

A reader that follows only brackets and quotes finds the members of an object in its text
(`Nesting.members`). A text is level if it leaves the reader where it was and neither parts nor ends
the members around it (`Nesting.Level`). The literal of a value is level (`Value.level_literal`),
and so is the text of a schema without expressions that were given as text
(`Schema.level_renderChars`).
-/

namespace TableSchema

namespace Nesting

/-! ### Members -/

/-- Where a reader is: in code so many brackets deep, or in a string that a mark ends, where the
next character may be taken along by a backslash. -/
inductive Place where
  | code (depth : Nat)
  | quoted (mark : Char) (depth : Nat)
  | escaped (mark : Char) (depth : Nat)
deriving DecidableEq

/-- The brackets that open. -/
def opening : List Char :=
  ['(', '[', '\x7b']

/-- The brackets that close. -/
def closing : List Char :=
  [')', ']', '\x7d']

/-- The marks of strings. -/
def quotes : List Char :=
  ['"', '\x27']

/-- Where the reader is behind a character. -/
def Place.next : Place → Char → Place
  | .code depth, c =>
    if c ∈ opening then .code (depth + 1)
    else if c ∈ closing then .code (depth - 1)
    else if c ∈ quotes then .quoted c depth
    else .code depth
  | .quoted mark depth, c =>
    if c = '\\' then .escaped mark depth
    else if c = mark then .code depth
    else .quoted mark depth
  | .escaped mark depth, _ => .quoted mark depth

/-- Text in front of the first of some parts. -/
def extend (text : List Char) : List (List Char) → List (List Char)
  | [] => []
  | part :: parts => (text ++ part) :: parts

/-- The parts of a text between the commas outside all brackets, up to the brace that ends it. -/
def members (place : Place) : List Char → Option (List (List Char))
  | [] => none
  | c :: rest =>
    if place = .code 0 ∧ c = '\x7d' then some [[]]
    else if place = .code 0 ∧ c ∈ closing then none
    else if place = .code 0 ∧ c = ',' then (members place rest).map ([] :: ·)
    else (members (place.next c) rest).map (extend [c])

/-- Whether a character parts or ends the members among which it stands. -/
def Place.Parts (place : Place) (c : Char) : Prop :=
  place = .code 0 ∧ (c = ',' ∨ c ∈ closing)

/-- A text that leads the reader from one place to another and stays within a member. -/
inductive Walk : Place → List Char → Place → Prop
  | nil {place : Place} : Walk place [] place
  | cons {place final : Place} {c : Char} {rest : List Char} (within : ¬place.Parts c)
      (others : Walk (place.next c) rest final) : Walk place (c :: rest) final

variable {text after : List Char} {place middle final : Place}

/-- Texts that lead from place to place lead as far one after another. -/
theorem Walk.append (walk : Walk place text middle) (walk' : Walk middle after final) :
    Walk place (text ++ after) final := by
  induction walk with
  | nil => exact walk'
  | cons within _ hypothesis => exact .cons within (hypothesis walk')

/-- To set two texts in front is to set the second in front and then the first. -/
theorem extend_append (text after : List Char) (parts : List (List Char)) :
    extend (text ++ after) parts = extend text (extend after parts) := by
  cases parts with
  | nil => rfl
  | cons part parts => exact congrArg (· :: parts) (List.append_assoc ..)

/-- Text within a member goes in front of the member. -/
theorem members_of_walk (walk : Walk place text final) (rest : List Char) :
    members place (text ++ rest) = (members final rest).map (extend text) := by
  induction walk with
  | nil =>
    have same : extend [] = id := by
      funext parts
      cases parts <;> rfl
    rw [List.nil_append, same, Option.map_id_fun, id]
  | @cons place final c text within _ hypothesis =>
    have stays (other : c = '\x7d' ∨ c ∈ closing ∨ c = ',') : place ≠ .code 0 := by
      rintro rfl
      refine within ⟨rfl, ?_⟩
      rcases other with rfl | closes | rfl
      · exact .inr (by decide)
      · exact .inr closes
      · exact .inl rfl
    have noEnd : ¬(place = .code 0 ∧ c = '\x7d') := fun both => stays (.inl both.2) both.1
    have noClose : ¬(place = .code 0 ∧ c ∈ closing) :=
      fun both => stays (.inr (.inl both.2)) both.1
    have noComma : ¬(place = .code 0 ∧ c = ',') := fun both => stays (.inr (.inr both.2)) both.1
    have joined : extend [c] ∘ extend text = extend (c :: text) :=
      funext fun parts => (extend_append [c] text parts).symm
    rw [List.cons_append, members, if_neg noEnd, if_neg noClose, if_neg noComma]
    rw [hypothesis, Option.map_map, joined]

/-! ### Level texts -/

/-- A text that stays within a member and leaves the depth as it was. -/
def Level (text : List Char) : Prop :=
  ∀ depth, Walk (.code depth) text (.code depth)

/-- A text that leaves the depth as it was within brackets. -/
def Inner (text : List Char) : Prop :=
  ∀ depth, Walk (.code (depth + 1)) text (.code (depth + 1))

/-- The characters that mean something to the reader in code. -/
def marks : List Char :=
  opening ++ (closing ++ (quotes ++ [',']))

/-- A text of characters that mean nothing to the reader. -/
def Neutral (text : List Char) : Prop :=
  ∀ c ∈ text, c ∉ marks

instance (text : List Char) : Decidable (Neutral text) :=
  decidable_of_iff (text.all (fun c => !marks.contains c) = true) (by simp [Neutral])

theorem Level.inner (level : Level text) : Inner text :=
  fun depth => level (depth + 1)

theorem level_nil : Level [] :=
  fun _ => .nil

theorem Level.append (level : Level text) (level' : Level after) : Level (text ++ after) :=
  fun depth => (level depth).append (level' depth)

theorem Inner.append (inner : Inner text) (inner' : Inner after) : Inner (text ++ after) :=
  fun depth => (inner depth).append (inner' depth)

theorem Neutral.append (neutral : Neutral text) (neutral' : Neutral after) :
    Neutral (text ++ after) :=
  List.forall_mem_append.mpr ⟨neutral, neutral'⟩

/-- A text is neutral if its characters are of a class that leaves out the marks. -/
theorem neutral_of_class {class' : Char → Bool} (apart : ∀ c ∈ marks, class' c = false)
    (all : ∀ c ∈ text, class' c = true) : Neutral text := by
  intro c member mark
  have inside := all c member
  rw [apart c mark] at inside
  cases inside

/-- A neutral text is level. -/
theorem Neutral.level (neutral : Neutral text) : Level text := by
  intro depth
  induction text with
  | nil => exact .nil
  | cons c text hypothesis =>
    obtain ⟨first, others⟩ := List.forall_mem_cons.mp neutral
    simp only [marks, List.mem_append, List.mem_singleton, not_or] at first
    obtain ⟨opens, closes, quotes, comma⟩ := first
    have stays : (Place.code depth).next c = .code depth := by
      simp only [Place.next, opens, closes, quotes, ↓reduceIte]
    refine .cons (fun parts => parts.2.elim comma closes) ?_
    rw [stays]
    exact hypothesis others

theorem inner_comma : Inner [','] := by
  intro depth
  exact .cons (fun parts => by cases parts.1) .nil

/-- What stands in brackets is level. -/
theorem Inner.bracketed (inner : Inner text) {first last : Char} (opens : first ∈ opening)
    (closes : last ∈ closing) : Level (first :: (text ++ [last])) := by
  intro depth
  have apart : ∀ c ∈ opening, c ≠ ',' ∧ c ∉ closing := Text.forall_of_all (by decide)
  have apart' : ∀ c ∈ closing, c ∉ opening := Text.forall_of_all (by decide)
  have deeper : (Place.code depth).next first = .code (depth + 1) := if_pos opens
  have back : (Place.code (depth + 1)).next last = .code depth := by
    simp only [Place.next, apart' last closes, closes, ↓reduceIte, Nat.add_sub_cancel]
  refine .cons (fun parts => parts.2.elim (apart first opens).1 (apart first opens).2) ?_
  rw [deeper]
  refine (inner depth).append (.cons (fun parts => by cases parts.1) ?_)
  rw [back]
  exact .nil

/-- A string is level. -/
theorem level_string (escaped : Text.Escaped text) : Level ('"' :: (text ++ ['"'])) := by
  intro depth
  have begins : (Place.code depth).next '"' = .quoted '"' depth := by
    simp [Place.next, opening, closing, quotes]
  have content : Walk (.quoted '"' depth) text (.quoted '"' depth) := by
    induction escaped with
    | nil => exact .nil
    | plain quote backslash _ hypothesis =>
      refine .cons (fun parts => by cases parts.1) ?_
      rw [Place.next, if_neg backslash, if_neg quote]
      exact hypothesis
    | escape _ hypothesis =>
      exact .cons (fun parts => by cases parts.1) (.cons (fun parts => by cases parts.1) hypothesis)
  refine .cons (by simp [Place.Parts, closing]) ?_
  rw [begins]
  exact content.append (.cons (fun parts => by cases parts.1) .nil)

theorem level_quote (asciiOnly : Bool) (text : List Char) : Level (Text.quote asciiOnly text) :=
  level_string (Text.escaped_flatMap asciiOnly text)

/-! ### Parts of texts -/

/-- A name is neutral. -/
theorem neutral_name (isName : Token.IsName text) : Neutral text := by
  obtain ⟨c, rest, rfl, start, parts⟩ := isName
  refine neutral_of_class (Text.forall_of_all (by decide)) (List.forall_mem_cons.mpr ⟨?_, parts⟩)
  exact (Text.isKeyPart_iff c).mpr (.inl start)

theorem neutral_digits (digits : ∀ c ∈ text, Text.isDigit c = true) : Neutral text :=
  neutral_of_class (Text.forall_of_all (by decide)) digits

/-- A number that is written in parts is neutral. -/
theorem neutral_partsText {negative : Bool} {whole fraction mark : List Char} {power : Int}
    (digits : ∀ c ∈ whole, Text.isDigit c = true)
    (digits' : ∀ c ∈ fraction, Text.isDigit c = true)
    (written : Numeral.ExponentText mark power) :
    Neutral (Numeral.partsText negative whole fraction mark) := by
  have sign : Neutral (if negative then ['-'] else []) := by
    cases negative <;> decide
  have point : Neutral (Numeral.fractionText fraction) := by
    cases fraction with
    | nil => exact List.forall_mem_nil _
    | cons c fraction => exact List.forall_mem_cons.mpr ⟨by decide, neutral_digits digits'⟩
  have exponent : Neutral mark := by
    cases written with
    | none => exact List.forall_mem_nil _
    | signed sign digits isSign nonempty all =>
      refine List.forall_mem_cons.mpr ⟨by decide, List.forall_mem_cons.mpr ⟨?_, neutral_digits all⟩⟩
      rcases isSign with rfl | rfl <;> decide
  exact sign.append ((neutral_digits digits).append (point.append exponent))

/-- An integer is neutral. -/
theorem neutral_integerText (n : Int) : Neutral (integerText n) := by
  rw [Numeral.integerText_eq]
  exact neutral_partsText (Numeral.textDigits_of_isDigit Numeral.isDigit_toDigits)
    (List.forall_mem_nil _) .none

/-- A floating point number is neutral. -/
theorem neutral_literalNumbers (x : Binary64) : Neutral (literalNumbers.text x) := by
  cases x with
  | finite negative rank =>
    obtain ⟨text, digits, exponent, written, reads⟩ :=
      Numeral.writesDecimal_text literalNumbers rank
    obtain ⟨whole, fraction, mark, power, zeros, rfl, -, all, marked, -⟩ := written.parts
    have digits := Numeral.textDigits_of_isDigit all
    rw [(reads negative).1]
    exact neutral_partsText (fun c member => digits c (List.mem_append_left _ member))
      (fun c member => digits c (List.mem_append_right _ member)) marked
  | infinite negative => cases negative <;> decide
  | nan => decide

/-- A key is level, bare or quoted. -/
theorem level_objectKey (name : String) : Level (Text.objectKey name) := by
  unfold Text.objectKey
  split
  · next bare =>
    obtain ⟨isName, ⟨same, -⟩ | same⟩ := Text.isBareKey_cases bare
    · rw [same]
      exact (neutral_name isName).level
    · have newline : Neutral ['\n'] := by decide
      rw [same]
      exact ((neutral_name isName).append newline).level
  · exact level_quote true name.toList

/-- A key and what stands under it. -/
theorem Level.keyed (level : Level text) (name : String) :
    Level (Text.objectKey name ++ [':', ' '] ++ text) := by
  have colon : Neutral [':', ' '] := by decide
  exact ((level_objectKey name).append colon.level).append level

/-- Level texts with commas between them stay within brackets. -/
theorem inner_commaSeparated {texts : List (List Char)} (level : ∀ text ∈ texts, Level text) :
    Inner (commaSeparated texts) := by
  have blank : Neutral [' '] := by decide
  induction texts with
  | nil => exact level_nil.inner
  | cons text texts hypothesis =>
    obtain ⟨first, others⟩ := List.forall_mem_cons.mp level
    cases texts with
    | nil =>
      rw [commaSeparated, List.intercalate_singleton]
      exact first.inner
    | cons next texts =>
      rw [commaSeparated, List.intercalate_cons_cons]
      exact (first.inner.append (inner_comma.append blank.level.inner)).append (hypothesis others)

/-- A call of a neutral name is level. -/
theorem Inner.call (inner : Inner text) {name : List Char} (neutral : Neutral name) :
    Level ('.' :: (name ++ '(' :: (text ++ [')']))) := by
  have point : Neutral ('.' :: name) := List.forall_mem_cons.mpr ⟨by decide, neutral⟩
  exact point.level.append (inner.bracketed (by decide) (by decide))

theorem level_plainCall {name : List Char} (neutral : Neutral name) :
    Level ('.' :: (name ++ ['(', ')'])) :=
  level_nil.inner.call neutral

/-- A constructor and its arguments are level. -/
theorem Inner.construction (inner : Inner text) (name : String) (neutral : Neutral name.toList) :
    Level ("z.".toList ++ name.toList ++ '(' :: (text ++ [')'])) := by
  have root : Neutral ['z'] := by decide
  exact root.level.append (inner.call neutral)

theorem level_constructorText {name : String} (neutral : Neutral name.toList) :
    Level (constructorText name) :=
  level_nil.inner.construction name neutral

/-- What stands in braces, with a blank at both ends, is level. -/
theorem Inner.braced (inner : Inner text) : Level ('\x7b' :: ' ' :: (text ++ [' ', '\x7d'])) := by
  have blank : Neutral [' '] := by decide
  have spaced := (blank.level.inner.append (inner.append blank.level.inner)).bracketed
    (by decide : '\x7b' ∈ opening) (by decide : '\x7d' ∈ closing)
  simpa using spaced

end Nesting

open Nesting

/-! ### Literals -/

namespace Value

/-- The literals of items are level if the literal of each item is. -/
theorem level_literals {items : List Value} {texts : List (List Char)}
    (level : ∀ item ∈ items, ∀ {text}, item.literal = .ok text → Level text)
    (written : literals items = .ok texts) : ∀ text ∈ texts, Level text := by
  induction items generalizing texts with
  | nil =>
    cases written
    exact List.forall_mem_nil _
  | cons item items hypothesis =>
    obtain ⟨text, others, first, rest, rfl⟩ := literals_cons_ok.mp written
    obtain ⟨levelItem, levelItems⟩ := List.forall_mem_cons.mp level
    exact List.forall_mem_cons.mpr ⟨levelItem first, hypothesis levelItems rest⟩

/-- The entries of a dictionary are level if the literals of its values are. -/
theorem level_memberLiterals {entries : List (String × Value)} {texts : List (List Char)}
    (level : ∀ value ∈ entries.map Prod.snd, ∀ {text}, value.literal = .ok text → Level text)
    (written : memberLiterals entries = .ok texts) : ∀ text ∈ texts, Level text := by
  induction entries generalizing texts with
  | nil =>
    cases written
    exact List.forall_mem_nil _
  | cons entry entries hypothesis =>
    obtain ⟨key, value⟩ := entry
    obtain ⟨text, others, first, rest, rfl⟩ := memberLiterals_cons_ok.mp written
    obtain ⟨levelValue, levelValues⟩ := List.forall_mem_cons.mp level
    exact List.forall_mem_cons.mpr ⟨(levelValue first).keyed key, hypothesis levelValues rest⟩

/-- The literal of a value is level. -/
theorem level_literal (value : Value) {text : List Char} (written : value.literal = .ok text) :
    Level text := by
  have constant {text : List Char} (neutral : Neutral text) : Level text := neutral.level
  induction value using Value.induct generalizing text with
  | step value hypothesis =>
    cases value with
    | null =>
      cases written
      exact constant (by decide)
    | bool truth =>
      cases truth <;> cases written <;> exact constant (by decide)
    | int n =>
      rw [literal, integerLiteral] at written
      split at written
      · cases written
        exact (neutral_integerText n).level
      · cases written
    | float x =>
      cases written
      exact (neutral_literalNumbers x).level
    | str text =>
      cases written
      exact level_quote false text.toList
    | list items =>
      obtain ⟨texts, items, same⟩ := bind_eq_ok.mp written
      cases same
      exact (inner_commaSeparated (level_literals hypothesis items)).bracketed (by decide)
        (by decide)
    | tuple items =>
      obtain ⟨texts, items, same⟩ := bind_eq_ok.mp written
      cases same
      exact (inner_commaSeparated (level_literals hypothesis items)).bracketed (by decide)
        (by decide)
    | bytes octets => cases written
    | dict entries =>
      cases entries with
      | nil =>
        cases written
        exact level_nil.inner.bracketed (by decide) (by decide)
      | cons entry entries =>
        obtain ⟨texts, members, same⟩ := bind_eq_ok.mp written
        cases same
        exact (inner_commaSeparated (level_memberLiterals hypothesis members)).braced
    | formatted format text => cases written

end Value

/-! ### Schemas -/

/-- Whether a schema, apart from its parts, has a level text: it is not given as text, its
refinements have neutral names, and the source text of its default is level. -/
structure Schema.IsLevel (schema : Schema) : Prop where
  names : ∀ check ∈ schema.decorations.checks, Neutral check.name.toList
  default : ∀ literal ∈ schema.decorations.default, ∀ text ∈ literal.text, Level text.toList
  constructed : ∀ text, schema.shape ≠ .raw text

/-- Refinements are level: their names are neutral and their arguments literals. -/
theorem level_checksText {checks : List Check} {text : List Char}
    (written : checksText checks = .ok text)
    (names : ∀ check ∈ checks, Neutral check.name.toList) : Level text := by
  induction checks generalizing text with
  | nil =>
    cases written
    exact level_nil
  | cons check checks hypothesis =>
    obtain ⟨first, head, tail⟩ := bind_eq_ok.mp written
    obtain ⟨others, rest, same⟩ := bind_eq_ok.mp tail
    cases same
    obtain ⟨args, literals, same⟩ := bind_eq_ok.mp head
    cases same
    obtain ⟨neutral, names⟩ := List.forall_mem_cons.mp names
    have level := Value.level_literals (fun item _ {_} => Value.level_literal item) literals
    exact ((inner_commaSeparated level).call neutral).append (hypothesis rest names)

/-- A default is level, if its source is where it has one. -/
theorem DefaultLiteral.level_render {literal : DefaultLiteral} {text : List Char}
    (level : ∀ source ∈ literal.text, Level source.toList)
    (written : literal.render = .ok text) : Level text := by
  unfold DefaultLiteral.render at written
  split at written
  · next source known =>
    split at written
    · exact Value.level_literal _ written
    · cases written
      exact level source known
  · exact Value.level_literal _ written

/-- The text of decorations is level. -/
theorem Decorations.level_text {marks : Decorations} {text : List Char}
    (written : marks.text = .ok text)
    (names : ∀ check ∈ marks.checks, Neutral check.name.toList)
    (default : ∀ literal ∈ marks.default, ∀ text ∈ literal.text, Level text.toList) :
    Level text := by
  obtain ⟨checks, checksWritten, tail⟩ := bind_eq_ok.mp written
  obtain ⟨ending, defaultWritten, same⟩ := bind_eq_ok.mp tail
  cases same
  have mode : Level (modeText marks.mode) := by
    cases marks.mode with
    | none => exact level_nil
    | some mode => cases mode <;> exact level_plainCall (by decide)
  have optional : Level (if marks.optional then ".optional()".toList else []) := by
    cases marks.optional with
    | false => exact level_nil
    | true => exact @level_plainCall "optional".toList (by decide)
  have nullable : Level (if marks.nullable then ".nullable()".toList else []) := by
    cases marks.nullable with
    | false => exact level_nil
    | true => exact @level_plainCall "nullable".toList (by decide)
  have last : Level ending := by
    cases held : marks.default with
    | none =>
      rw [held] at defaultWritten
      cases defaultWritten
      exact level_nil
    | some literal =>
      rw [held] at defaultWritten
      obtain ⟨value, valueWritten, same⟩ := bind_eq_ok.mp defaultWritten
      cases same
      have level := DefaultLiteral.level_render (default literal held) valueWritten
      exact @Inner.call value level.inner "default".toList (by decide)
  exact ((((level_checksText checksWritten names).append mode).append optional).append
    nullable).append last

namespace Schema

/-- Fields are level if their schemas are. -/
theorem level_renderFields {fields : List (String × Schema)} {texts : List (List Char)}
    (level : ∀ schema ∈ fields.map Prod.snd, ∀ {text}, schema.renderChars = .ok text → Level text)
    (written : renderFields fields = .ok texts) : ∀ text ∈ texts, Level text := by
  induction fields generalizing texts with
  | nil =>
    cases written
    exact List.forall_mem_nil _
  | cons field fields hypothesis =>
    obtain ⟨name, schema⟩ := field
    obtain ⟨text, others, first, rest, rfl⟩ := renderFields_cons_ok.mp written
    obtain ⟨levelField, levelFields⟩ := List.forall_mem_cons.mp level
    exact List.forall_mem_cons.mpr ⟨(levelField first).keyed name, hypothesis levelFields rest⟩

/-- Variants are level if each of them is. -/
theorem level_renderVariants {variants : List Schema} {texts : List (List Char)}
    (level : ∀ schema ∈ variants, ∀ {text}, schema.renderChars = .ok text → Level text)
    (written : renderVariants variants = .ok texts) : ∀ text ∈ texts, Level text := by
  induction variants generalizing texts with
  | nil =>
    cases written
    exact List.forall_mem_nil _
  | cons schema variants hypothesis =>
    obtain ⟨text, others, first, rest, rfl⟩ := renderVariants_cons_ok.mp written
    obtain ⟨levelVariant, levelVariants⟩ := List.forall_mem_cons.mp level
    exact List.forall_mem_cons.mpr ⟨levelVariant first, hypothesis levelVariants rest⟩

/-- The text of a shape is level, if the texts of its parts are. -/
theorem level_renderShape {shape : Shape Schema} {text : List Char}
    (parts : ∀ part ∈ shape.parts, ∀ {text}, part.renderChars = .ok text → Level text)
    (constructed : ∀ text, shape ≠ .raw text) (written : renderShape shape = .ok text) :
    Level text := by
  cases shape with
  | string =>
    cases written
    exact level_constructorText (by decide)
  | number =>
    cases written
    exact level_constructorText (by decide)
  | boolean =>
    cases written
    exact level_constructorText (by decide)
  | unknown =>
    cases written
    exact level_constructorText (by decide)
  | binary =>
    cases written
    have buffer : Neutral "Buffer".toList := by decide
    exact buffer.level.inner.construction "instanceof" (by decide)
  | array item =>
    obtain ⟨inner, itemWritten, same⟩ := bind_eq_ok.mp written
    cases same
    have level := parts item (List.mem_singleton_self item) itemWritten
    exact level.inner.construction "array" (by decide)
  | record value =>
    obtain ⟨inner, valueWritten, same⟩ := bind_eq_ok.mp written
    cases same
    have level := parts value (List.mem_singleton_self value) valueWritten
    exact level.inner.construction "record" (by decide)
  | object fields =>
    cases fields with
    | nil =>
      cases written
      have braces := level_nil.inner.bracketed (by decide : '\x7b' ∈ opening)
        (by decide : '\x7d' ∈ closing)
      exact braces.inner.construction "object" (by decide)
    | cons field fields =>
      obtain ⟨members, fieldsWritten, same⟩ := bind_eq_ok.mp written
      cases same
      have level := level_renderFields parts fieldsWritten
      have whole := (inner_commaSeparated level).braced.inner.construction "object" (by decide)
      simpa using whole
  | enum options =>
    obtain ⟨inner, optionsWritten, same⟩ := bind_eq_ok.mp written
    cases same
    exact (Value.level_literal _ optionsWritten).inner.construction "enum" (by decide)
  | union variants =>
    obtain ⟨inner, variantsWritten, same⟩ := bind_eq_ok.mp written
    cases same
    have level := (inner_commaSeparated (level_renderVariants parts variantsWritten)).bracketed
      (by decide : '[' ∈ opening) (by decide : ']' ∈ closing)
    have whole := level.inner.construction "union" (by decide)
    simpa using whole
  | literal values =>
    cases values with
    | nil => cases written
    | cons value values =>
      obtain ⟨inner, valueWritten, same⟩ := bind_eq_ok.mp written
      cases same
      exact (value.level_literal valueWritten).inner.construction "literal" (by decide)
  | raw source => exact absurd rfl (constructed source)

/-- The text of a schema without parts that were given as text is level. -/
theorem level_renderChars {schema : Schema} (level : schema.Everywhere IsLevel)
    {text : List Char} (written : schema.renderChars = .ok text) : Level text := by
  induction schema using Schema.induct generalizing text with
  | step shape marks hypothesis =>
    obtain ⟨base, baseWritten, tail⟩ := bind_eq_ok.mp written
    obtain ⟨decorations, marksWritten, same⟩ := bind_eq_ok.mp tail
    cases same
    refine Level.append ?_
      (Decorations.level_text marksWritten level.here.names level.here.default)
    exact level_renderShape
      (fun part member {_} => hypothesis part member (level.ofParts part member))
      level.here.constructed baseWritten

end Schema

end TableSchema
