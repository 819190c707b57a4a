import TableSchema.Proofs.Schema.Reading

/-! # Rendered schemas are read

A schema has a text if its values have literals (`Schema.exists_renderChars`), and every number
among the lexemes of the text is the literal of a number or was there in a source text
(`Schema.forall_mem_lexemes`). So the text of a readable schema exists and is read as the schema
reads (`Schema.parse_render`), also when it is laid out as a block (`Schema.parse_renderBlock`).
-/

namespace TableSchema

open Lexeme

/-! ### Numbers among lexemes -/

namespace Lexeme

/-- A property that all lexemes have but perhaps numbers, and the literals of numbers have too. -/
structure Covers (holds : Lexeme → Prop) : Prop where
  plain : ∀ lexeme : Lexeme, lexeme.group ≠ .number → holds lexeme
  integer : ∀ n : Int, n.natAbs < 10 ^ integerDigitLimit → holds (number (integerText n))
  finite : ∀ negative rank, holds (number (literalNumbers.text (.finite negative rank)))

variable {holds : Lexeme → Prop}

theorem Covers.mark (covers : Covers holds) (c : Char) : holds (mark c) :=
  covers.plain _ (by simp [Lexeme.mark])

theorem Covers.word (covers : Covers holds) (text : String) : holds (word text) :=
  covers.plain _ (by simp [Lexeme.word])

/-- A key is covered: it is written as a name or as a string, never as a number. -/
theorem Covers.key (covers : Covers holds) (name : String) : holds (Text.keyLexeme name) := by
  have group {lexeme : Lexeme} {name : String} (named : Grammar.Key lexeme name) :
      lexeme.group ≠ .number := by
    cases named <;> exact nofun
  exact covers.plain _ (group (Text.key_keyLexeme name))

/-- Lists of covered lexemes stay covered when commas are set between them. -/
theorem Covers.separated (covers : Covers holds) {lists : List (List Lexeme)}
    (all : ∀ lexemes ∈ lists, ∀ lexeme ∈ lexemes, holds lexeme) :
    ∀ lexeme ∈ separated lists, holds lexeme := by
  induction lists with
  | nil => simp [Lexeme.separated]
  | cons lexemes lists hypothesis =>
    obtain ⟨first, others⟩ := List.forall_mem_cons.mp all
    cases lists with
    | nil =>
      rw [Lexeme.separated, List.intercalate_singleton]
      exact first
    | cons second lists =>
      rw [Lexeme.separated, List.intercalate_cons_cons, List.append_assoc]
      exact List.forall_mem_append.mpr
        ⟨first, List.forall_mem_cons.mpr ⟨covers.mark ',', hypothesis others⟩⟩

/-- A call is covered if its arguments are. -/
theorem Covers.callWith (covers : Covers holds) (name : String) (args : List Lexeme)
    (all : ∀ lexeme ∈ args, holds lexeme) :
    ∀ lexeme ∈ Grammar.callWith name args, holds lexeme := by
  simp only [Grammar.callWith, List.forall_mem_cons, List.forall_mem_append]
  exact ⟨covers.word name, covers.mark '(', all, covers.mark ')', by simp⟩

/-- A bracketed list is covered if its items are. -/
theorem Covers.enclosed (covers : Covers holds) {first last : Char} {lists : List (List Lexeme)}
    (all : ∀ lexemes ∈ lists, ∀ lexeme ∈ lexemes, holds lexeme) :
    ∀ lexeme ∈ Lexeme.mark first :: (Lexeme.separated lists ++ [Lexeme.mark last]),
      holds lexeme := by
  simp only [List.forall_mem_cons, List.forall_mem_append]
  exact ⟨covers.mark first, covers.separated all, covers.mark last, by simp⟩

end Lexeme

/-- All lexemes of a text have a property, if it can be cut. -/
def AllHold (holds : Lexeme → Prop) (lexemes : Option (List Lexeme)) : Prop :=
  ∀ found, lexemes = some found → ∀ lexeme ∈ found, holds lexeme

/-- All lexemes of a list of texts have a property, if all of them can be cut. -/
def AllHoldIn (holds : Lexeme → Prop) (lists : Option (List (List Lexeme))) : Prop :=
  ∀ found, lists = some found → ∀ lexemes ∈ found, ∀ lexeme ∈ lexemes, holds lexeme

section AllHold

variable {holds : Lexeme → Prop} {first second lexemes : Option (List Lexeme)}
  {lists : Option (List (List Lexeme))}

/-- What holds of the lexemes of two texts holds of those of both together. -/
theorem AllHold.join (before : AllHold holds first) (after : AllHold holds second) :
    AllHold holds (join first second) := by
  intro found same
  cases first with
  | none => cases same
  | some left =>
    cases second with
    | none => cases same
    | some right =>
      cases same
      exact List.forall_mem_append.mpr ⟨before left rfl, after right rfl⟩

/-- What holds of the lexemes of a text and of further ones holds of all of them. -/
theorem AllHoldIn.prepend (before : AllHold holds first) (after : AllHoldIn holds lists) :
    AllHoldIn holds (prepend first lists) := by
  intro found same
  cases first with
  | none => cases same
  | some left =>
    cases lists with
    | none => cases same
    | some right =>
      cases same
      exact List.forall_mem_cons.mpr ⟨before left rfl, after right rfl⟩

/-- What a wrapping adds to lexemes may not break what holds of them. -/
theorem AllHold.map (all : AllHold holds lexemes) {wrap : List Lexeme → List Lexeme}
    (wraps : ∀ found, (∀ lexeme ∈ found, holds lexeme) → ∀ lexeme ∈ wrap found, holds lexeme) :
    AllHold holds (lexemes.map wrap) := by
  intro found same
  obtain ⟨inner, spelled, rfl⟩ := Option.map_eq_some_iff.mp same
  exact wraps inner (all inner spelled)

/-- What a wrapping of several lists into one adds may not break what holds of their lexemes. -/
theorem AllHoldIn.map (all : AllHoldIn holds lists) {wrap : List (List Lexeme) → List Lexeme}
    (wraps : ∀ found, (∀ lexemes ∈ found, ∀ lexeme ∈ lexemes, holds lexeme) →
      ∀ lexeme ∈ wrap found, holds lexeme) : AllHold holds (lists.map wrap) := by
  intro found same
  obtain ⟨inner, spelled, rfl⟩ := Option.map_eq_some_iff.mp same
  exact wraps inner (all inner spelled)

/-- Where there are lexemes, what holds of each holds of all. -/
theorem allHold_some {found : List Lexeme} (all : ∀ lexeme ∈ found, holds lexeme) :
    AllHold holds (some found) := by
  intro other same
  cases same
  exact all

end AllHold

namespace Value

variable {holds : Lexeme → Prop}

/-- What holds of the lexemes of each item holds of those of the items. -/
theorem allHoldIn_items {items : List Value} (parts : ∀ item ∈ items, AllHold holds item.lexemes) :
    AllHoldIn holds (itemLexemes items) := by
  induction items with
  | nil =>
    intro found same
    cases same
    simp
  | cons item items hypothesis =>
    obtain ⟨first, others⟩ := List.forall_mem_cons.mp parts
    exact .prepend first (hypothesis others)

/-- A key and a colon in front of covered lexemes are covered. -/
theorem keyed_holds (covers : Covers holds) (name : String) :
    ∀ found : List Lexeme, (∀ lexeme ∈ found, holds lexeme) →
      ∀ lexeme ∈ keyed name found, holds lexeme := by
  intro found all
  simp only [keyed, List.forall_mem_cons]
  exact ⟨covers.key name, covers.mark ':', all⟩

/-- What holds of the lexemes of each value of a dictionary holds of those of the entries. -/
theorem allHoldIn_entries (covers : Covers holds) {entries : List (String × Value)}
    (parts : ∀ value ∈ entries.map Prod.snd, AllHold holds value.lexemes) :
    AllHoldIn holds (entryLexemes entries) := by
  induction entries with
  | nil =>
    intro found same
    cases same
    simp
  | cons entry entries hypothesis =>
    obtain ⟨first, others⟩ := List.forall_mem_cons.mp parts
    exact .prepend (first.map (keyed_holds covers entry.1)) (hypothesis others)

/-- The lexemes of a literal have every property that covers literals. -/
theorem allHold_lexemes (covers : Covers holds) {value : Value}
    (writable : value.Everywhere IsWritable) : AllHold holds value.lexemes := by
  have single {lexeme : Lexeme} (held : holds lexeme) : AllHold holds (some [lexeme]) :=
    allHold_some (List.forall_mem_singleton.mpr held)
  induction writable with
  | @intro value here below hypothesis =>
    cases value with
    | null => exact single (covers.word _)
    | bool truth => cases truth <;> exact single (covers.word _)
    | int n => exact single (covers.integer n here)
    | float x =>
      cases x with
      | finite negative rank => exact single (covers.finite negative rank)
      | infinite negative =>
        cases negative with
        | true => exact nofun
        | false => exact single (covers.word _)
      | nan => exact single (covers.word _)
    | str text => exact single (covers.plain _ (by simp [string]))
    | list items => exact (allHoldIn_items hypothesis).map fun _ => covers.enclosed
    | tuple items => exact (allHoldIn_items hypothesis).map fun _ => covers.enclosed
    | bytes octets => exact here.elim
    | dict entries => exact (allHoldIn_entries covers hypothesis).map fun _ => covers.enclosed
    | formatted format text => exact here.elim

end Value

/-! ### Schemas -/

/-- Whether a default has a text all of whose numbers are covered. -/
structure DefaultLiteral.IsCovered (holds : Lexeme → Prop) (literal : DefaultLiteral) : Prop where
  writable : ∃ text, literal.render = .ok text
  covered : AllHold holds literal.lexemes

namespace Schema

/-- Whether a shape, apart from its parts, has a text all of whose numbers are covered. -/
def IsCoveredShape (holds : Lexeme → Prop) : Shape Schema → Prop
  | .enum options => ∀ option ∈ options, option.Everywhere Value.IsWritable
  | .literal values =>
    ∃ value others, values = value :: others ∧ value.Everywhere Value.IsWritable
  | .raw text => AllHold holds (ofText? (text.getD "").toList)
  | _ => True

/-- Whether a schema, apart from its parts, has a text all of whose numbers are covered. -/
structure IsCovered (holds : Lexeme → Prop) (schema : Schema) : Prop where
  checks : ∀ check ∈ schema.decorations.checks, ∀ arg ∈ check.args, arg.Everywhere Value.IsWritable
  default : ∀ literal ∈ schema.decorations.default, literal.IsCovered holds
  shape : IsCoveredShape holds schema.shape

variable {holds : Lexeme → Prop}

/-- Refinements have a text if their arguments can be written. -/
theorem exists_checksText {checks : List Check} (writable : ∀ check ∈ checks,
      ∀ arg ∈ check.args, arg.Everywhere Value.IsWritable) :
    ∃ text, checksText checks = .ok text := by
  induction checks with
  | nil => exact ⟨_, rfl⟩
  | cons check checks hypothesis =>
    obtain ⟨first, others⟩ := List.forall_mem_cons.mp writable
    obtain ⟨args, written⟩ :=
      Value.exists_literals fun arg member => Value.exists_literal (first arg member)
    obtain ⟨rest, writtenRest⟩ := hypothesis others
    exact ⟨_, bind_eq_ok.mpr ⟨_, bind_eq_ok.mpr ⟨args, written, rfl⟩,
      bind_eq_ok.mpr ⟨rest, writtenRest, rfl⟩⟩⟩

/-- The decorations of a covered schema have a text. -/
theorem exists_marksText {schema : Schema} (covered : schema.IsCovered holds) :
    ∃ text, schema.decorations.text = .ok text := by
  obtain ⟨checks, checksWritten⟩ := exists_checksText covered.checks
  have default : ∃ text, defaultText schema.decorations.default = .ok text := by
    cases held : schema.decorations.default with
    | none => exact ⟨_, rfl⟩
    | some literal =>
      obtain ⟨text, written⟩ := (covered.default literal held).writable
      exact ⟨_, bind_eq_ok.mpr ⟨text, written, rfl⟩⟩
  obtain ⟨default, defaultWritten⟩ := default
  exact ⟨_, bind_eq_ok.mpr ⟨checks, checksWritten, bind_eq_ok.mpr ⟨default, defaultWritten, rfl⟩⟩⟩

/-- Fields have texts if their schemas have. -/
theorem exists_renderFields {fields : List (String × Schema)}
    (parts : ∀ schema ∈ fields.map Prod.snd, ∃ text, schema.renderChars = .ok text) :
    ∃ texts, renderFields fields = .ok texts := by
  induction fields with
  | nil => exact ⟨[], rfl⟩
  | cons field fields hypothesis =>
    obtain ⟨⟨text, first⟩, others⟩ := List.forall_mem_cons.mp parts
    obtain ⟨texts, rest⟩ := hypothesis others
    exact ⟨_, renderFields_cons_ok.mpr ⟨text, texts, first, rest, rfl⟩⟩

/-- Variants have texts if each of them has one. -/
theorem exists_renderVariants {variants : List Schema}
    (parts : ∀ schema ∈ variants, ∃ text, schema.renderChars = .ok text) :
    ∃ texts, renderVariants variants = .ok texts := by
  induction variants with
  | nil => exact ⟨[], rfl⟩
  | cons schema variants hypothesis =>
    obtain ⟨⟨text, first⟩, others⟩ := List.forall_mem_cons.mp parts
    obtain ⟨texts, rest⟩ := hypothesis others
    exact ⟨_, renderVariants_cons_ok.mpr ⟨text, texts, first, rest, rfl⟩⟩

/-- A schema whose values have literals has a text. -/
theorem exists_renderChars {schema : Schema} (covered : schema.Everywhere (IsCovered holds)) :
    ∃ text, schema.renderChars = .ok text := by
  induction schema using Schema.induct with
  | step shape marks hypothesis =>
    have parts : ∀ part ∈ shape.parts, ∃ text, part.renderChars = .ok text := fun part member =>
      hypothesis part member (covered.ofParts part member)
    have base : ∃ text, renderShape shape = .ok text := by
      cases shape with
      | array item =>
        obtain ⟨text, written⟩ := parts item (List.mem_singleton_self item)
        exact ⟨_, bind_eq_ok.mpr ⟨text, written, rfl⟩⟩
      | record value =>
        obtain ⟨text, written⟩ := parts value (List.mem_singleton_self value)
        exact ⟨_, bind_eq_ok.mpr ⟨text, written, rfl⟩⟩
      | object fields =>
        cases fields with
        | nil => exact ⟨_, rfl⟩
        | cons field fields =>
          obtain ⟨texts, written⟩ := exists_renderFields parts
          exact ⟨_, bind_eq_ok.mpr ⟨texts, written, rfl⟩⟩
      | enum options =>
        obtain ⟨texts, written⟩ := Value.exists_literals fun option member =>
          Value.exists_literal (covered.here.shape option member)
        exact ⟨_, bind_eq_ok.mpr ⟨_, bind_eq_ok.mpr ⟨texts, written, rfl⟩, rfl⟩⟩
      | union variants =>
        obtain ⟨texts, written⟩ := @exists_renderVariants variants parts
        exact ⟨_, bind_eq_ok.mpr ⟨texts, written, rfl⟩⟩
      | literal values =>
        obtain ⟨value, others, rfl, writable⟩ := covered.here.shape
        obtain ⟨text, written⟩ := Value.exists_literal writable
        exact ⟨_, bind_eq_ok.mpr ⟨text, written, rfl⟩⟩
      | _ => exact ⟨_, rfl⟩
    obtain ⟨base, baseWritten⟩ := base
    obtain ⟨decorations, marksWritten⟩ := exists_marksText covered.here
    exact ⟨_, bind_eq_ok.mpr ⟨base, baseWritten,
      bind_eq_ok.mpr ⟨decorations, marksWritten, rfl⟩⟩⟩

/-- An object whose values have literals can be laid out as a block. -/
theorem exists_renderBlockChars {fields : List (String × Schema)} {marks : Decorations}
    (covered : Everywhere (IsCovered holds) ⟨.object fields, marks⟩) (indent : List Char) :
    ∃ text, renderBlockChars indent ⟨.object fields, marks⟩ = .ok text := by
  obtain ⟨texts, written⟩ := @exists_renderFields fields fun schema member =>
    exists_renderChars (covered.ofParts schema member)
  obtain ⟨decorations, marksWritten⟩ := exists_marksText covered.here
  exact ⟨_, bind_eq_ok.mpr ⟨texts, written, bind_eq_ok.mpr ⟨decorations, marksWritten, rfl⟩⟩⟩

/-- The lexemes of refinements are covered if their arguments can be written. -/
theorem allHold_checksLexemes (covers : Covers holds) {checks : List Check}
    (writable : ∀ check ∈ checks, ∀ arg ∈ check.args, arg.Everywhere Value.IsWritable) :
    AllHold holds (checksLexemes checks) := by
  induction checks with
  | nil => exact allHold_some (by simp)
  | cons check checks hypothesis =>
    obtain ⟨first, others⟩ := List.forall_mem_cons.mp writable
    refine .join (AllHoldIn.map (Value.allHoldIn_items fun arg member =>
      Value.allHold_lexemes covers (first arg member)) fun args all => ?_) (hypothesis others)
    exact List.forall_mem_cons.mpr
      ⟨covers.mark '.', covers.callWith check.name _ (covers.separated all)⟩

/-- The lexemes of the decorations of a covered schema are covered. -/
theorem allHold_marks (covers : Covers holds) {schema : Schema}
    (covered : schema.IsCovered holds) : AllHold holds schema.decorations.lexemes := by
  have call (name : String) : ∀ lexeme ∈ mark '.' :: Grammar.call name, holds lexeme :=
    List.forall_mem_cons.mpr ⟨covers.mark '.', covers.callWith name [] (by simp)⟩
  refine .join (allHold_checksLexemes covers covered.checks)
    (.join (allHold_some ?_) (.join (allHold_some ?_) (.join (allHold_some ?_) ?_)))
  · cases schema.decorations.mode with
    | none => simp [modeLexemes]
    | some mode => exact call mode.name
  · cases schema.decorations.optional with
    | false => simp [flagLexemes]
    | true => exact call "optional"
  · cases schema.decorations.nullable with
    | false => simp [flagLexemes]
    | true => exact call "nullable"
  · cases held : schema.decorations.default with
    | none => exact allHold_some (by simp)
    | some literal =>
      refine AllHold.map (covered.default literal held).covered fun found all => ?_
      exact List.forall_mem_cons.mpr ⟨covers.mark '.', covers.callWith "default" _ all⟩

/-- What is covered in the schema of each field is covered in the fields. -/
theorem allHoldIn_fields (covers : Covers holds) {fields : List (String × Schema)}
    (parts : ∀ schema ∈ fields.map Prod.snd, AllHold holds schema.lexemes) :
    AllHoldIn holds (fieldLexemes fields) := by
  induction fields with
  | nil =>
    intro found same
    cases same
    simp
  | cons field fields hypothesis =>
    obtain ⟨first, others⟩ := List.forall_mem_cons.mp parts
    exact .prepend (first.map (Value.keyed_holds covers field.1)) (hypothesis others)

/-- What is covered in each variant is covered in the variants. -/
theorem allHoldIn_variants {variants : List Schema}
    (parts : ∀ schema ∈ variants, AllHold holds schema.lexemes) :
    AllHoldIn holds (variantLexemes variants) := by
  induction variants with
  | nil =>
    intro found same
    cases same
    simp
  | cons schema variants hypothesis =>
    obtain ⟨first, others⟩ := List.forall_mem_cons.mp parts
    exact .prepend first (hypothesis others)

/-- The lexemes of a rendered schema have every property that covers literals and source texts. -/
theorem forall_mem_lexemes (covers : Covers holds) {schema : Schema}
    (covered : schema.Everywhere (IsCovered holds)) : AllHold holds schema.lexemes := by
  have build {name : String} {args : List Lexeme} (all : ∀ lexeme ∈ args, holds lexeme) :
      ∀ lexeme ∈ construction name args, holds lexeme := by
    simp only [construction, List.forall_mem_cons]
    exact ⟨covers.word "z", covers.mark '.', covers.callWith name _ all⟩
  induction schema using Schema.induct with
  | step shape marks hypothesis =>
    have parts : ∀ part ∈ shape.parts, AllHold holds part.lexemes := fun part member =>
      hypothesis part member (covered.ofParts part member)
    refine .join ?_ (allHold_marks covers covered.here)
    cases shape with
    | binary => exact allHold_some (build (by simpa using covers.word "Buffer"))
    | array item => exact (parts item (List.mem_singleton_self item)).map fun _ => build
    | record value => exact (parts value (List.mem_singleton_self value)).map fun _ => build
    | object fields =>
      exact (allHoldIn_fields covers parts).map fun _ all => build (covers.enclosed all)
    | enum options =>
      refine (Value.allHoldIn_items fun option member => ?_).map fun _ all =>
        build (covers.enclosed all)
      exact Value.allHold_lexemes covers (covered.here.shape option member)
    | union variants =>
      exact (allHoldIn_variants parts).map fun _ all => build (covers.enclosed all)
    | literal values =>
      obtain ⟨value, others, rfl, writable⟩ := covered.here.shape
      exact (Value.allHold_lexemes covers writable).map fun _ => build
    | raw text => exact covered.here.shape
    | _ => exact allHold_some (build (by simp))

end Schema

/-! ### Readable schemas -/

/-- A number token that is read is not too long. -/
theorem Lexeme.isShort_number {text : List Char} {value : Value}
    (whole : Token.number? text = some text) (reads : Numeral.value text = .ok value) :
    (number text).IsShort := by
  have read : Token.lexeme? text = some (.number, text) := by
    rw [Token.lexeme?, whole]
    rfl
  have reads : Numeral.value (String.ofList text).toList = .ok value := by
    rw [String.toList_ofList]
    exact reads
  exact ((value_eq_ok (isProper_of_lexeme? read)).mp reads).2

/-- Shortness covers literals: only integers can be too long. -/
theorem Lexeme.covers_isShort : Covers IsShort where
  plain _ other := fun isNumber => absurd isNumber other
  integer n short :=
    isShort_number (Numeral.number?_integerText n) (Numeral.value_integerText short)
  finite negative rank := isShort_number (Numeral.number?_literalNumbers_text negative rank)
    (Numeral.value_literalNumbers_text negative rank)

theorem Value.writable_of_readable {value : Value} (readable : value.Everywhere Value.IsReadable) :
    value.Everywhere Value.IsWritable :=
  readable.mono fun _ here => here.1

/-- Known refinements are names. -/
theorem Check.isName_of_known {check : Check} (known : check.IsKnown) :
    Token.IsName check.name.toList := by
  have flags : ∀ name ∈ Expression.flagChecks, Token.IsName name.toList := by decide
  have sizes : ∀ name ∈ Expression.sizeChecks, Token.IsName name.toList := by decide
  cases known with
  | flag known => exact flags _ known
  | size known _ => exact sizes _ known

namespace DefaultLiteral

variable {literal : DefaultLiteral}

/-- The text of a readable default can be cut into lexemes. -/
theorem scans_of_readable (readable : literal.IsReadable) : literal.Scans := by
  cases readable with
  | literal _ => exact nofun
  | @numeral value text _ whole _ =>
    intro other same
    cases same
    rw [(spells_number whole).ofText?_eq]
    rfl

/-- A readable default has a text without integers that are too long. -/
theorem covered_of_readable (readable : literal.IsReadable) : literal.IsCovered IsShort := by
  cases readable with
  | literal readable =>
    have writable := Value.writable_of_readable readable
    exact ⟨Value.exists_literal writable, Value.allHold_lexemes covers_isShort writable⟩
  | @numeral value text nonempty whole reads =>
    refine ⟨⟨text.toList, ?_⟩, ?_⟩
    · simp only [render, nonempty, Bool.false_eq_true, ↓reduceIte]
    · rw [lexemes]
      simp only [nonempty, Bool.false_eq_true, ↓reduceIte]
      rw [(spells_number whole).ofText?_eq]
      exact allHold_some (List.forall_mem_singleton.mpr (isShort_number whole reads))

end DefaultLiteral

namespace Schema

/-- The refinements of a readable schema are names, and its source texts can be cut. -/
theorem spelled_of_readable {schema : Schema} (readable : schema.IsReadable) :
    schema.IsSpelled where
  names check member := Check.isName_of_known (readable.checks check member).1
  default literal member := DefaultLiteral.scans_of_readable (readable.default literal member)
  raw text isRaw := by
    have parsed := readable.shape
    rw [isRaw] at parsed
    obtain ⟨read, parsed⟩ := parsed
    obtain ⟨lexemes, scanned, -⟩ := lexemes_of_parse parsed
    exact Option.isSome_of_eq_some scanned

/-- A readable schema has a text without integers that are too long. -/
theorem covered_of_readable {schema : Schema} (readable : schema.IsReadable) :
    schema.IsCovered IsShort where
  checks check member arg held :=
    Value.writable_of_readable ((readable.checks check member).2 arg held)
  default literal member := DefaultLiteral.covered_of_readable (readable.default literal member)
  shape := by
    have here := readable.shape
    cases shape : schema.shape with
    | enum options =>
      rw [shape] at here
      intro option member
      have isText := here.2 option member
      cases option with
      | str text => exact .intro trivial (by simp [Value.parts])
      | _ => cases isText
    | literal values =>
      rw [shape] at here
      obtain ⟨value, rfl, readable⟩ := here
      exact ⟨value, [], rfl, Value.writable_of_readable readable⟩
    | raw text =>
      rw [shape] at here
      obtain ⟨read, parsed⟩ := here
      obtain ⟨lexemes, scanned, short, -⟩ := lexemes_of_parse parsed
      rw [IsCoveredShape, scanned]
      exact allHold_some short
    | _ => trivial

variable {schema read : Schema}

/-- A text that spells the lexemes of a readable schema is read as the schema reads. -/
theorem parse_of_spells (readable : schema.Everywhere IsReadable)
    (resolved : schema.reread.resolved = .ok read) {text : List Char}
    (spells : Spells text schema.lexemes) : Schema.parse (String.ofList text) = .ok read := by
  obtain ⟨lexemes, spelled, written⟩ := expression_of_readable readable resolved
  have short := forall_mem_lexemes covers_isShort (readable.mono fun _ => covered_of_readable)
    lexemes spelled
  refine parse_of_lexemes ?_ short written
  rw [String.toList_ofList, spells.ofText?_eq, spelled]

/-- The text of a readable schema exists and is read as the schema reads. -/
theorem parse_render (readable : schema.Everywhere IsReadable)
    (resolved : schema.reread.resolved = .ok read) :
    ∃ text, schema.render = .ok text ∧ Schema.parse text = .ok read := by
  obtain ⟨text, written⟩ := exists_renderChars (readable.mono fun _ => covered_of_readable)
  refine ⟨String.ofList text, ?_, parse_of_spells readable resolved ?_⟩
  · rw [render, written]
    rfl
  · exact spells_renderChars (readable.mono fun _ => spelled_of_readable) written

/-- The block of a readable object exists and is read as the object reads. -/
theorem parse_renderBlock {fields : List (String × Schema)} (object : schema.shape = .object fields)
    (readable : schema.Everywhere IsReadable) (resolved : schema.reread.resolved = .ok read)
    {indent : String} (blank : ∀ c ∈ indent.toList, Text.isBlank c = true) :
    ∃ text, schema.renderBlock indent = .ok text ∧ Schema.parse text = .ok read := by
  obtain ⟨shape, marks⟩ := schema
  cases object
  obtain ⟨text, written⟩ :=
    exists_renderBlockChars (readable.mono fun _ => covered_of_readable) indent.toList
  refine ⟨String.ofList text, ?_, parse_of_spells readable resolved ?_⟩
  · rw [renderBlock, written]
    rfl
  · exact spells_renderBlockChars (readable.mono fun _ => spelled_of_readable) blank written

end Schema

end TableSchema
