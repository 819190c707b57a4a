import TableSchema.Value

/-! # Schemas

A schema is a shape, which says what kind of value is meant, and decorations, which narrow that
kind: refinements in the order in which they were called, an object's treatment of unknown keys,
whether the value may be left out or be null, and a default. The shape is a functor in the schemas
below it, so that the two levels stay apart and a decoration never depends on the shape.
-/

namespace TableSchema

/-- A refinement called on a schema, with its arguments. -/
structure Check where
  name : String
  args : List Value := []
deriving DecidableEq

/-- What an object does with keys that it does not list. -/
inductive ObjectMode where
  /-- Unknown keys are refused. -/
  | strict
  /-- Unknown keys are kept. -/
  | passthrough
deriving DecidableEq

/-- The method that sets an object mode. -/
def ObjectMode.name : ObjectMode → String
  | .strict => "strict"
  | .passthrough => "passthrough"

/-- A default, and the text it was read from when that text is to be shown again. -/
structure DefaultLiteral where
  value : Value
  text : Option String := none
deriving DecidableEq

/-- What kind of value a default holds. -/
inductive LiteralKind where
  | boolean
  | number
  | string
  | json
deriving DecidableEq

/-- The kind of a default. -/
def DefaultLiteral.kind (literal : DefaultLiteral) : LiteralKind :=
  match literal.value with
  | .bool _ => .boolean
  | .int _ => .number
  | .float _ => .number
  | .str _ => .string
  | _ => .json

/-- Whether two defaults are the same default: the source text does not count. -/
def DefaultLiteral.alike (a b : DefaultLiteral) : Bool :=
  a.value.alike b.value

/-- What narrows a schema. -/
structure Decorations where
  checks : List Check := []
  mode : Option ObjectMode := none
  optional : Bool := false
  nullable : Bool := false
  default : Option DefaultLiteral := none
deriving DecidableEq

/-- The kind of value a schema describes, over the schemas of its parts. -/
inductive Shape (σ : Type) where
  | string
  | number
  | boolean
  | unknown
  | binary
  /-- A list of items. -/
  | array (item : σ)
  /-- A dictionary with any keys. -/
  | record (value : σ)
  /-- A dictionary with known keys, in order. -/
  | object (fields : List (String × σ))
  /-- One of the listed options. -/
  | enum (options : List Value)
  /-- A value of one of the variants. -/
  | union (variants : List σ)
  /-- The first of the listed values. -/
  | literal (values : List Value)
  /-- An expression that the caller supplied as text; without text it stands for an empty one. -/
  | raw (text : Option String)

/-- A schema: a shape with its decorations. -/
structure Schema where
  shape : Shape Schema
  decorations : Decorations := {}

namespace Schema

instance : Inhabited Schema := ⟨{ shape := .unknown }⟩

mutual

/-- Whether two schemas are the same, as a boolean. -/
def same : Schema → Schema → Bool
  | ⟨shape, marks⟩, ⟨shape', marks'⟩ => sameShape shape shape' && marks == marks'

/-- Whether two shapes are the same. -/
def sameShape : Shape Schema → Shape Schema → Bool
  | .string, .string => true
  | .number, .number => true
  | .boolean, .boolean => true
  | .unknown, .unknown => true
  | .binary, .binary => true
  | .array item, .array item' => same item item'
  | .record value, .record value' => same value value'
  | .object fields, .object fields' => sameFields fields fields'
  | .enum options, .enum options' => options == options'
  | .union variants, .union variants' => sameVariants variants variants'
  | .literal values, .literal values' => values == values'
  | .raw text, .raw text' => text == text'
  | _, _ => false

/-- Whether two lists of fields are the same. -/
def sameFields : List (String × Schema) → List (String × Schema) → Bool
  | [], [] => true
  | (name, schema) :: fields, (name', schema') :: fields' =>
    name == name' && same schema schema' && sameFields fields fields'
  | _, _ => false

/-- Whether two lists of variants are the same. -/
def sameVariants : List Schema → List Schema → Bool
  | [], [] => true
  | schema :: variants, schema' :: variants' =>
    same schema schema' && sameVariants variants variants'
  | _, _ => false

end

mutual

/-- `same` decides equality. -/
theorem same_iff : ∀ a b : Schema, same a b = true ↔ a = b
  | ⟨shape, marks⟩, ⟨shape', marks'⟩ => by simp [same, sameShape_iff shape]

/-- `sameShape` decides equality. -/
theorem sameShape_iff : ∀ a b : Shape Schema, sameShape a b = true ↔ a = b
  | .string, b => by cases b <;> simp [sameShape]
  | .number, b => by cases b <;> simp [sameShape]
  | .boolean, b => by cases b <;> simp [sameShape]
  | .unknown, b => by cases b <;> simp [sameShape]
  | .binary, b => by cases b <;> simp [sameShape]
  | .array item, b => by cases b <;> simp [sameShape, same_iff item]
  | .record value, b => by cases b <;> simp [sameShape, same_iff value]
  | .object fields, b => by cases b <;> simp [sameShape, sameFields_iff fields]
  | .enum _, b => by cases b <;> simp [sameShape]
  | .union variants, b => by cases b <;> simp [sameShape, sameVariants_iff variants]
  | .literal _, b => by cases b <;> simp [sameShape]
  | .raw _, b => by cases b <;> simp [sameShape]

/-- `sameFields` decides equality. -/
theorem sameFields_iff : ∀ a b : List (String × Schema), sameFields a b = true ↔ a = b
  | [], b => by cases b <;> simp [sameFields]
  | (name, schema) :: fields, b => by
    cases b with
    | nil => simp [sameFields]
    | cons field fields' =>
      obtain ⟨name', schema'⟩ := field
      simp [sameFields, same_iff schema, sameFields_iff fields]

/-- `sameVariants` decides equality. -/
theorem sameVariants_iff : ∀ a b : List Schema, sameVariants a b = true ↔ a = b
  | [], b => by cases b <;> simp [sameVariants]
  | schema :: variants, b => by
    cases b <;> simp [sameVariants, same_iff schema, sameVariants_iff variants]

end

instance : DecidableEq Schema := fun a b =>
  decidable_of_iff (same a b = true) (same_iff a b)

/-- The schema without its default. -/
def withoutDefault (schema : Schema) : Schema :=
  { schema with decorations.default := none }

/-- Whether two schemas differ at most in the way in which their defaults are given. -/
def alike (a b : Schema) : Bool :=
  a.withoutDefault == b.withoutDefault &&
    match a.decorations.default, b.decorations.default with
    | none, none => true
    | some literal, some literal' => literal.alike literal'
    | _, _ => false

/-- The schema with a further refinement. -/
def check (schema : Schema) (name : String) (args : List Value := []) : Schema :=
  { schema with decorations.checks := schema.decorations.checks ++ [⟨name, args⟩] }

/-- The schema whose values may be null. -/
def asNullable (schema : Schema) : Schema :=
  { schema with decorations.nullable := true }

/-- The schema whose value may be left out. -/
def asOptional (schema : Schema) : Schema :=
  { schema with decorations.optional := true }

/-- The schema with a default in place of any it had. -/
def withDefault (schema : Schema) (literal : DefaultLiteral) : Schema :=
  { schema with decorations.default := some literal }

/-- The schema with an object mode in place of any it had. -/
def withMode (schema : Schema) (mode : ObjectMode) : Schema :=
  { schema with decorations.mode := some mode }

/-- Any text. -/
def string : Schema := { shape := .string }

/-- Any number. -/
def number : Schema := { shape := .number }

/-- Any integer. -/
def integer : Schema := number.check "int"

/-- Either boolean. -/
def boolean : Schema := { shape := .boolean }

/-- Any value. -/
def unknown : Schema := { shape := .unknown }

/-- Bytes. -/
def binary : Schema := { shape := .binary }

/-- Lists of values of one schema. -/
def array (item : Schema) : Schema := { shape := .array item }

/-- Dictionaries with values of one schema. -/
def record (value : Schema) : Schema := { shape := .record value }

/-- An object with the given fields. A repeated name keeps its first place and its last schema. -/
def object (fields : Entries Schema) (mode : Option ObjectMode := none) : Schema :=
  { shape := .object (Entries.ofList fields), decorations.mode := mode }

/-- One of the given texts. -/
def enum (options : List String) : Schema := { shape := .enum (options.map .str) }

/-- A value of one of the variants. -/
def union (variants : List Schema) : Schema := { shape := .union variants }

/-- One value. -/
def literal (value : Value) : Schema := { shape := .literal [value] }

/-- An expression given as text. -/
def raw (text : String) : Schema := { shape := .raw (some text) }

end Schema

end TableSchema
