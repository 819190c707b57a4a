import TableSchema.Live
import TableSchema.Proofs.Grammar.Acceptance
import TableSchema.Proofs.Schema.Lexemes
import TableSchema.Proofs.Value.Reading

/-! # Reading rendered schemas

`Schema.reread` is what the text of a schema reads as where nothing was given as text: values and
keys as their literals read, and defaults without the text they came from. `Schema.resolved` puts
schemas in place of the expressions that were given as text. The grammar gives
`schema.reread.resolved` to the lexemes of a readable schema (`Schema.expression_of_readable`), so
that its text is read as that (`Schema.parse_render`), on one line or as a block
(`Schema.parse_renderBlock`).
-/

namespace TableSchema

open Lexeme Grammar

/-! ### What is read -/

/-- What the text of decorations reads as. -/
def Decorations.reread (marks : Decorations) : Decorations :=
  { marks with default := marks.default.map fun literal => { value := literal.value.reread } }

namespace Schema

mutual

/-- What the text of a schema reads as, apart from expressions that were given as text. -/
def reread : Schema → Schema
  | ⟨shape, marks⟩ => ⟨rereadShape shape, marks.reread⟩

/-- What the text of a shape reads as. -/
def rereadShape : Shape Schema → Shape Schema
  | .array item => .array (reread item)
  | .record value => .record (reread value)
  | .object fields => .object (rereadFields fields)
  | .enum options => .enum (options.map Value.reread)
  | .union variants => .union (rereadVariants variants)
  | .literal values => .literal (values.map Value.reread)
  | shape => shape

/-- What the text of the members of an object reads as. -/
def rereadFields : List (String × Schema) → List (String × Schema)
  | [] => []
  | (name, schema) :: fields => (Text.rereadKey name, reread schema) :: rereadFields fields

/-- What the texts of variants read as. -/
def rereadVariants : List Schema → List Schema
  | [] => []
  | schema :: variants => reread schema :: rereadVariants variants

end

mutual

/-- The schema with every expression that was given as text replaced by what it stands for. -/
def resolved : Schema → Except ParseError Schema
  | ⟨shape, marks⟩ =>
    match shape with
    | .raw text => resolve (text.getD "") marks
    | shape => do return ⟨← resolvedShape shape, marks⟩

/-- The shape with every expression below it replaced. -/
def resolvedShape : Shape Schema → Except ParseError (Shape Schema)
  | .array item => do return .array (← resolved item)
  | .record value => do return .record (← resolved value)
  | .object fields => do return .object (← resolvedFields fields)
  | .union variants => do return .union (← resolvedVariants variants)
  | shape => .ok shape

/-- The members of an object with every expression below them replaced. -/
def resolvedFields : List (String × Schema) → Except ParseError (List (String × Schema))
  | [] => .ok []
  | (name, schema) :: fields => do
    let schema ← resolved schema
    return (name, schema) :: (← resolvedFields fields)

/-- The variants of a union with every expression below them replaced. -/
def resolvedVariants : List Schema → Except ParseError (List Schema)
  | [] => .ok []
  | schema :: variants => do
    let schema ← resolved schema
    return schema :: (← resolvedVariants variants)

end

end Schema

/-! ### What is readable -/

/-- A refinement that the grammar knows, with the arguments that it takes. -/
inductive Check.IsKnown : Check → Prop
  | flag {name : String} (known : name ∈ Expression.flagChecks) : IsKnown ⟨name, []⟩
  | size {name : String} {size : Value} (known : name ∈ Expression.sizeChecks)
      (number : Expression.isNumber size = true) : IsKnown ⟨name, [size]⟩

/-- A default whose text is read as its value: the literal of a value, or the text of a number. -/
inductive DefaultLiteral.IsReadable : DefaultLiteral → Prop
  | literal {value : Value} (readable : value.Everywhere Value.IsReadable) : IsReadable { value }
  | numeral {value : Value} {text : String} (nonempty : text.isEmpty = false)
      (whole : Token.number? text.toList = some text.toList)
      (reads : Numeral.value text.toList = .ok value) : IsReadable { value, text := some text }

namespace Schema

/-- An object, or an expression given as text that stands for one. -/
def IsObject (schema : Schema) : Prop :=
  match schema.shape with
  | .object _ => True
  | .raw text => ∃ read fields, Schema.parse (text.getD "") = .ok read ∧ read.shape = .object fields
  | _ => False

/-- Whether a shape, apart from its parts, is read from its text. -/
def IsReadableShape : Shape Schema → Prop
  | .enum options => options ≠ [] ∧ ∀ option ∈ options, Expression.isText option = true
  | .literal values => ∃ value, values = [value] ∧ value.Everywhere Value.IsReadable
  | .raw text => ∃ read, Schema.parse (text.getD "") = .ok read
  | _ => True

/-- Whether a schema, apart from its parts, is read from its text. -/
structure IsReadable (schema : Schema) : Prop where
  checks : ∀ check ∈ schema.decorations.checks,
    check.IsKnown ∧ ∀ arg ∈ check.args, arg.Everywhere Value.IsReadable
  mode : ∀ mode ∈ schema.decorations.mode, schema.IsObject
  default : ∀ literal ∈ schema.decorations.default, literal.IsReadable
  shape : IsReadableShape schema.shape

end Schema

/-! ### Methods -/

/-- Decorations over none are as they are. -/
theorem Decorations.over_empty (marks : Decorations) : marks.over {} = marks := by
  obtain ⟨checks, mode, optional, nullable, default⟩ := marks
  simp [Decorations.over]

namespace Grammar

/-- Methods that are followed by others are applied one after the other. -/
theorem Methods.append {first second third : Schema} {lexemes rest : List Lexeme}
    (applied : Methods lexemes first second) (others : Methods rest second third) :
    Methods (lexemes ++ rest) first third := by
  induction applied with
  | nil => exact others
  | cons applied _ hypothesis =>
    rw [List.cons_append, List.append_assoc]
    exact .cons applied (hypothesis others)

/-- One method with a point in front is a row of methods. -/
theorem Methods.single {first second : Schema} {lexemes : List Lexeme}
    (applied : Method lexemes first second) : Methods (mark '.' :: lexemes) first second := by
  have methods := Methods.cons applied .nil
  rwa [List.append_nil] at methods

/-- Methods may follow an expression that has methods already. -/
theorem Expression.append {lexemes rest : List Lexeme} {first second : Schema}
    (written : Expression lexemes first) (applied : Methods rest first second) :
    Expression (lexemes ++ rest) second := by
  obtain ⟨constructed, decorated⟩ := written
  simp only [List.cons_append, List.append_assoc]
  exact .construct constructed (decorated.append applied)

/-- A constructor with its arguments is an expression. -/
theorem Arguments.expression {name : String} {arguments : List Lexeme} {shape : Shape Schema}
    (constructed : Arguments Expression name arguments shape) :
    Expression (construction name arguments) { shape } :=
  .construct constructed .nil

end Grammar

/-- A known refinement with readable arguments is a method. -/
theorem Check.method_of_known {check : Check} (known : check.IsKnown)
    (readable : ∀ arg ∈ check.args, arg.Everywhere Value.IsReadable) (schema : Schema) :
    ∃ lexemes, check.lexemes = some (mark '.' :: lexemes) ∧
      Method lexemes schema (schema.check check.name check.args) := by
  cases known with
  | flag known => exact ⟨_, rfl, .flag known⟩
  | @size name size known number =>
    obtain ⟨lexemes, spelled, read⟩ := Value.literal_of_readable (readable size (by simp))
    have same : size.reread = size := by
      cases size with
      | int n => rfl
      | float x => rfl
      | _ => cases number
    rw [same] at read
    refine ⟨_, ?_, .size known read number⟩
    simp [Check.lexemes, Value.itemLexemes, spelled, prepend, separated]

variable {shape : Shape Schema} {marks : Decorations}

/-- The refinements of a schema are methods that add them. -/
theorem methods_checks (shape : Shape Schema) {checks : List Check} (known : ∀ check ∈ checks,
      check.IsKnown ∧ ∀ arg ∈ check.args, arg.Everywhere Value.IsReadable) (marks : Decorations) :
    ∃ lexemes, checksLexemes checks = some lexemes ∧
      Methods lexemes ⟨shape, marks⟩ ⟨shape, { marks with checks := marks.checks ++ checks }⟩ := by
  induction checks generalizing marks with
  | nil => exact ⟨[], rfl, by rw [List.append_nil]; exact .nil⟩
  | cons check checks hypothesis =>
    obtain ⟨⟨isKnown, readable⟩, others⟩ := List.forall_mem_cons.mp known
    obtain ⟨first, spelledFirst, applied⟩ := check.method_of_known isKnown readable ⟨shape, marks⟩
    obtain ⟨rest, spelledRest, methods⟩ :=
      hypothesis others { marks with checks := marks.checks ++ [check] }
    refine ⟨(mark '.' :: first) ++ rest, ?_, ?_⟩
    · rw [checksLexemes, spelledFirst, spelledRest]
      rfl
    · have whole := (Methods.single applied).append methods
      rwa [List.append_assoc] at whole

/-- The mode of an object is a method that sets it. -/
theorem methods_mode (mode : Option ObjectMode)
    (object : ∀ given ∈ mode, ∃ fields, shape = .object fields) (marks : Decorations) :
    Methods (modeLexemes mode) ⟨shape, marks⟩
      ⟨shape, { marks with mode := mode.or marks.mode }⟩ := by
  cases mode with
  | none => exact .nil
  | some mode =>
    obtain ⟨fields, rfl⟩ := object mode rfl
    exact .single (.mode mode rfl)

/-- The optional mark is a method that sets it. -/
theorem methods_optional (made : Bool) (marks : Decorations) :
    Methods (flagLexemes "optional" made) ⟨shape, marks⟩
      ⟨shape, { marks with optional := marks.optional || made }⟩ := by
  cases made with
  | false => rw [Bool.or_false]; exact .nil
  | true => rw [Bool.or_true]; exact .single .optional

/-- The nullable mark is a method that sets it. -/
theorem methods_nullable (made : Bool) (marks : Decorations) :
    Methods (flagLexemes "nullable" made) ⟨shape, marks⟩
      ⟨shape, { marks with nullable := marks.nullable || made }⟩ := by
  cases made with
  | false => rw [Bool.or_false]; exact .nil
  | true => rw [Bool.or_true]; exact .single .nullable

/-- A readable default is a literal, of the value as which it reads. -/
theorem DefaultLiteral.literal_of_readable {literal : DefaultLiteral}
    (readable : literal.IsReadable) :
    ∃ lexemes, literal.lexemes = some lexemes ∧ Literal lexemes literal.value.reread := by
  cases readable with
  | literal readable => exact Value.literal_of_readable readable
  | @numeral value text nonempty whole reads =>
    have same : value.reread = value := Value.reread_of_numeral reads
    refine ⟨[number text.toList], ?_, ?_⟩
    · rw [DefaultLiteral.lexemes]
      simp only [nonempty, Bool.false_eq_true, ↓reduceIte]
      exact (spells_number whole).ofText?_eq
    · rw [same]
      exact Value.literal_number reads

/-- A readable default is a method that sets it to what it reads as. -/
theorem methods_default (shape : Shape Schema) (default : Option DefaultLiteral)
    (readable : ∀ literal ∈ default, literal.IsReadable) (marks : Decorations) :
    ∃ lexemes, defaultLexemes default = some lexemes ∧ Methods lexemes ⟨shape, marks⟩
      ⟨shape, { marks with
        default := (default.map fun literal => { value := literal.value.reread }).or
          marks.default }⟩ := by
  cases default with
  | none => exact ⟨[], rfl, .nil⟩
  | some literal =>
    obtain ⟨lexemes, spelled, read⟩ := literal.literal_of_readable (readable literal rfl)
    exact ⟨_, by rw [defaultLexemes, spelled]; rfl, .single (.default read)⟩

/-- The methods of decorations put them over those that a schema has already. -/
theorem Decorations.methods {outer : Decorations} (checks : ∀ check ∈ outer.checks,
      check.IsKnown ∧ ∀ arg ∈ check.args, arg.Everywhere Value.IsReadable)
    (mode : ∀ given ∈ outer.mode, ∃ fields, shape = .object fields)
    (default : ∀ literal ∈ outer.default, literal.IsReadable) (inner : Decorations) :
    ∃ lexemes, outer.lexemes = some lexemes ∧
      Methods lexemes ⟨shape, inner⟩ ⟨shape, outer.reread.over inner⟩ := by
  obtain ⟨first, spelledFirst, refined⟩ := methods_checks shape checks inner
  have moded := refined.append (methods_mode outer.mode mode _)
  have loosened := (moded.append (methods_optional outer.optional _)).append
    (methods_nullable outer.nullable _)
  obtain ⟨last, spelledLast, defaulted⟩ := methods_default shape outer.default default _
  refine ⟨_, ?_, loosened.append defaulted⟩
  rw [Decorations.lexemes, spelledFirst, spelledLast]
  simp only [join_some, Option.map_some, List.append_assoc]

/-! ### Expressions -/

namespace Schema

/-- The grammar gives to the lexemes of a schema what the schema reads as. -/
def Reads (schema : Schema) : Prop :=
  ∀ {read : Schema}, schema.reread.resolved = .ok read →
    ∃ lexemes, schema.lexemes = some lexemes ∧ Grammar.Expression lexemes read

/-- Fields whose schemas read are fields of the grammar. -/
theorem allGive_fields {fields read : List (String × Schema)}
    (parts : ∀ schema ∈ fields.map Prod.snd, schema.Reads)
    (resolved : resolvedFields (rereadFields fields) = .ok read) :
    ∃ lists, fieldLexemes fields = some lists ∧
      AllGive (Grammar.Member Grammar.Expression) lists read := by
  induction fields generalizing read with
  | nil =>
    cases resolved
    exact ⟨[], rfl, .nil⟩
  | cons field fields hypothesis =>
    obtain ⟨name, schema⟩ := field
    obtain ⟨first, resolvedFirst, tail⟩ := bind_eq_ok.mp resolved
    obtain ⟨rest, resolvedRest, same⟩ := bind_eq_ok.mp tail
    cases same
    obtain ⟨reads, others⟩ := List.forall_mem_cons.mp parts
    obtain ⟨lexemes, spelled, written⟩ := reads resolvedFirst
    obtain ⟨lists, spelledAll, writtenAll⟩ := hypothesis others resolvedRest
    refine ⟨keyed name lexemes :: lists, ?_, .cons ?_ writtenAll⟩
    · rw [fieldLexemes, spelled, spelledAll]
      rfl
    · exact .required (Text.key_keyLexeme name) written

/-- Variants that read are expressions of the grammar. -/
theorem allGive_variants {variants read : List Schema}
    (parts : ∀ schema ∈ variants, schema.Reads)
    (resolved : resolvedVariants (rereadVariants variants) = .ok read) :
    ∃ lists, variantLexemes variants = some lists ∧ AllGive Grammar.Expression lists read := by
  induction variants generalizing read with
  | nil =>
    cases resolved
    exact ⟨[], rfl, .nil⟩
  | cons schema variants hypothesis =>
    obtain ⟨first, resolvedFirst, tail⟩ := bind_eq_ok.mp resolved
    obtain ⟨rest, resolvedRest, same⟩ := bind_eq_ok.mp tail
    cases same
    obtain ⟨reads, others⟩ := List.forall_mem_cons.mp parts
    obtain ⟨lexemes, spelled, written⟩ := reads resolvedFirst
    obtain ⟨lists, spelledAll, writtenAll⟩ := hypothesis others resolvedRest
    refine ⟨lexemes :: lists, ?_, .cons written writtenAll⟩
    rw [variantLexemes, spelled, spelledAll]
    rfl

/-- Options that are texts read as texts. -/
theorem allGive_options {options : List Value}
    (texts : ∀ option ∈ options, Expression.isText option = true) :
    ∃ (lists : List (List Lexeme)) (names : List String), Value.itemLexemes options = some lists ∧
      options.map Value.reread = names.map .str ∧ AllGive Literal lists (names.map .str) := by
  induction options with
  | nil => exact ⟨[], [], rfl, rfl, .nil⟩
  | cons option options hypothesis =>
    obtain ⟨isText, others⟩ := List.forall_mem_cons.mp texts
    obtain ⟨lists, names, spelled, same, read⟩ := hypothesis others
    cases option with
    | str text =>
      refine ⟨[Lexeme.string (Text.quote false text.toList)] :: lists,
        Text.reread false text :: names, ?_, ?_, .cons ?_ read⟩
      · rw [Value.itemLexemes, spelled]
        rfl
      · rw [List.map_cons, same, List.map_cons, Value.reread]
      · rw [← Text.content_quote]
        exact .string _
    | _ => cases isText

/-- A shape that was not given as text is a constructor with its arguments. -/
theorem arguments_of_readable {shape read : Shape Schema} (parts : ∀ part ∈ shape.parts, part.Reads)
    (readable : IsReadableShape shape) (constructed : ∀ text, shape ≠ .raw text)
    (resolved : resolvedShape (rereadShape shape) = .ok read) :
    ∃ name arguments, shapeLexemes shape = some (construction name arguments) ∧
      Arguments Grammar.Expression name arguments read := by
  cases shape with
  | string =>
    cases resolved
    exact ⟨_, _, rfl, .string⟩
  | number =>
    cases resolved
    exact ⟨_, _, rfl, .number⟩
  | boolean =>
    cases resolved
    exact ⟨_, _, rfl, .boolean⟩
  | unknown =>
    cases resolved
    exact ⟨_, _, rfl, .unknown⟩
  | binary =>
    cases resolved
    exact ⟨_, _, rfl, .binary⟩
  | array item =>
    obtain ⟨read, resolvedItem, same⟩ := bind_eq_ok.mp resolved
    cases same
    obtain ⟨lexemes, spelled, written⟩ := parts item (List.mem_singleton_self item) resolvedItem
    exact ⟨_, _, by rw [shapeLexemes, spelled]; rfl, .array written⟩
  | record value =>
    obtain ⟨read, resolvedValue, same⟩ := bind_eq_ok.mp resolved
    cases same
    obtain ⟨lexemes, spelled, written⟩ := parts value (List.mem_singleton_self value) resolvedValue
    exact ⟨_, _, by rw [shapeLexemes, spelled]; rfl, .record written⟩
  | object fields =>
    obtain ⟨read, resolvedFields, same⟩ := bind_eq_ok.mp resolved
    cases same
    obtain ⟨lists, spelled, written⟩ := allGive_fields parts resolvedFields
    exact ⟨_, _, by rw [shapeLexemes, spelled]; rfl, .object written.separated⟩
  | enum options =>
    cases resolved
    obtain ⟨nonempty, texts⟩ := readable
    obtain ⟨lists, names, spelled, same, written⟩ := allGive_options texts
    refine ⟨_, _, by rw [shapeLexemes, spelled]; rfl, ?_⟩
    rw [rereadShape, same]
    refine .enum ?_ written.separated
    rintro rfl
    exact nonempty (List.map_eq_nil_iff.mp same)
  | union variants =>
    obtain ⟨read, resolvedVariants, same⟩ := bind_eq_ok.mp resolved
    cases same
    obtain ⟨lists, spelled, written⟩ := @allGive_variants variants _ parts resolvedVariants
    exact ⟨_, _, by rw [shapeLexemes, spelled]; rfl, .union written.separated⟩
  | literal values =>
    cases resolved
    obtain ⟨value, rfl, readable⟩ := readable
    obtain ⟨lexemes, spelled, written⟩ := Value.literal_of_readable readable
    exact ⟨_, _, by rw [shapeLexemes, spelled]; rfl, .literal written⟩
  | raw text => exact absurd rfl (constructed text)

/-- A constructor is read as a constructor. -/
theorem constructed_reread {shape : Shape Schema} (constructed : ∀ text, shape ≠ .raw text) :
    ∀ text, rereadShape shape ≠ .raw text := by
  cases shape with
  | raw text => exact absurd rfl (constructed text)
  | _ => exact fun text => nofun

/-- Where no text is given, a schema is resolved in its parts. -/
theorem resolved_of_constructed {shape : Shape Schema} {marks : Decorations}
    (constructed : ∀ text, shape ≠ .raw text) :
    resolved ⟨shape, marks⟩ = do return ⟨← resolvedShape shape, marks⟩ := by
  cases shape with
  | raw text => exact absurd rfl (constructed text)
  | _ => rfl

/-- The grammar gives to the lexemes of a readable schema what its text reads as. -/
theorem expression_of_readable {schema : Schema} (readable : schema.Everywhere IsReadable) :
    schema.Reads := by
  induction schema using Schema.induct with
  | step shape marks hypothesis =>
    intro read resolved
    have parts : ∀ part ∈ shape.parts, part.Reads := fun part member =>
      hypothesis part member (readable.ofParts part member)
    obtain ⟨checks, mode, default, here⟩ := readable.here
    by_cases raw : ∃ text, shape = .raw text
    · obtain ⟨text, rfl⟩ := raw
      obtain ⟨inner, parsed, same⟩ := bind_eq_ok.mp resolved
      cases same
      obtain ⟨lexemes, scanned, -, written⟩ := lexemes_of_parse parsed
      obtain ⟨shape', marks'⟩ := inner
      have object : ∀ given ∈ marks.mode, ∃ fields, shape' = .object fields := by
        intro given member
        obtain ⟨read, fields, again, isObject⟩ := mode given member
        rw [parsed] at again
        cases again
        exact ⟨fields, isObject⟩
      obtain ⟨following, spelled, applied⟩ := Decorations.methods checks object default marks'
      refine ⟨lexemes ++ following, ?_, written.append applied⟩
      rw [Schema.lexemes, shapeLexemes, scanned, spelled]
      rfl
    · have constructed : ∀ text, shape ≠ .raw text := fun text same => raw ⟨text, same⟩
      rw [reread, resolved_of_constructed (constructed_reread constructed)] at resolved
      obtain ⟨shape', resolvedShape, same⟩ := bind_eq_ok.mp resolved
      cases same
      obtain ⟨name, arguments, spelledBase, written⟩ :=
        arguments_of_readable parts here constructed resolvedShape
      have object : ∀ given ∈ marks.mode, ∃ fields, shape' = .object fields := by
        intro given member
        have isObject := mode given member
        cases shape with
        | object fields =>
          obtain ⟨read, -, same⟩ := bind_eq_ok.mp resolvedShape
          cases same
          exact ⟨read, rfl⟩
        | raw text => exact absurd rfl (constructed text)
        | _ => exact isObject.elim
      obtain ⟨following, spelled, applied⟩ := Decorations.methods checks object default {}
      refine ⟨construction name arguments ++ following, ?_, ?_⟩
      · rw [Schema.lexemes, spelledBase, spelled]
        rfl
      · rw [Decorations.over_empty] at applied
        exact written.expression.append applied

end Schema

end TableSchema
