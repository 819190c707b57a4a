import TableSchema.Proofs.Live.Building

/-! # Schemas that were read are well formed

A node lists side by side what any kind of schema may have. Whoever walks a schema takes the item
of a list, the value of a literal or the argument of a size without asking whether it is there.
`Node.IsWellFormed` says when that is safe, and every schema that was read is well formed at all
depths (`Schema.parse_wellFormed`).
-/

namespace TableSchema

/-- The kinds of schemas. -/
inductive NodeKind where
  | string
  | number
  | boolean
  | unknown
  | binary
  | array
  | record
  | object
  | enum
  | union
  | literal
  | raw
deriving DecidableEq

namespace Shape

variable {σ : Type}

/-- The kind of a shape. -/
def kind : Shape σ → NodeKind
  | .string => .string
  | .number => .number
  | .boolean => .boolean
  | .unknown => .unknown
  | .binary => .binary
  | .array _ => .array
  | .record _ => .record
  | .object _ => .object
  | .enum _ => .enum
  | .union _ => .union
  | .literal _ => .literal
  | .raw _ => .raw

/-- What the items of a list or the values of a dictionary are. -/
def item? : Shape σ → Option σ
  | .array item => some item
  | .record value => some value
  | _ => none

/-- The members of an object. -/
def fields : Shape σ → List (String × σ)
  | .object fields => fields
  | _ => []

/-- The options of an enumeration, or the value of a literal. -/
def values : Shape σ → List Value
  | .enum options => options
  | .literal values => values
  | _ => []

/-- The variants of a union. -/
def variants : Shape σ → List σ
  | .union variants => variants
  | _ => []

/-- The text of an expression that was given as text. -/
def source? : Shape σ → Option String
  | .raw text => text
  | _ => none

end Shape

/-- A schema as one record of all that any kind of schema may have. -/
structure Node where
  kind : NodeKind
  item : Option Schema
  fields : List (String × Schema)
  values : List Value
  variants : List Schema
  source : Option String
  marks : Decorations

/-- The record of a schema. -/
def Schema.node (schema : Schema) : Node where
  kind := schema.shape.kind
  item := schema.shape.item?
  fields := schema.shape.fields
  values := schema.shape.values
  variants := schema.shape.variants
  source := schema.shape.source?
  marks := schema.decorations

/-- Whether a node has what its kind needs, and nothing that belongs to other kinds. -/
structure Node.IsWellFormed (node : Node) : Prop where
  kind : node.kind ≠ .raw
  source : node.source = none
  item : node.item.isSome = true ↔ node.kind = .array ∨ node.kind = .record
  fields : node.fields ≠ [] → node.kind = .object
  variants : node.variants ≠ [] → node.kind = .union
  mode : node.marks.mode.isSome = true → node.kind = .object
  options : node.kind = .enum →
    node.values ≠ [] ∧ ∀ option ∈ node.values, ∃ text, option = .str text
  value : node.kind = .literal → ∃ value, node.values = [value]
  known : ∀ check ∈ node.marks.checks,
    check.name ∈ Expression.flagChecks ∨ check.name ∈ Expression.sizeChecks
  flags : ∀ check ∈ node.marks.checks, check.name ∈ Expression.flagChecks → check.args = []
  sizes : ∀ check ∈ node.marks.checks, check.name ∈ Expression.sizeChecks →
    ∃ size, check.args = [size] ∧ Expression.isNumber size = true
  default : ∀ literal ∈ node.marks.default, literal.text = none

namespace Check

variable {check : Check}

/-- A known refinement has no argument or a number. -/
theorem mem_of_known (known : check.IsKnown) :
    check.name ∈ Expression.flagChecks ∨ check.name ∈ Expression.sizeChecks := by
  cases known with
  | flag known => exact .inl known
  | size known _ => exact .inr known

/-- Known refinements without argument have none. -/
theorem args_of_flag (known : check.IsKnown) (flag : check.name ∈ Expression.flagChecks) :
    check.args = [] := by
  cases known with
  | flag _ => rfl
  | size sized _ => exact absurd flag (Expression.not_mem_flagChecks sized)

/-- Known refinements of the size have one number. -/
theorem args_of_size (known : check.IsKnown) (sized : check.name ∈ Expression.sizeChecks) :
    ∃ size, check.args = [size] ∧ Expression.isNumber size = true := by
  cases known with
  | flag flag => exact absurd flag (Expression.not_mem_flagChecks sized)
  | size _ number => exact ⟨_, rfl, number⟩

end Check

namespace Schema

variable {holds : Value → Prop} {schema : Schema}

/-- A schema that is not given as text is no node of a source. -/
theorem kind_of_constructed (constructed : schema.IsConstructed) : schema.node.kind ≠ .raw := by
  obtain ⟨shape, marks⟩ := schema
  cases shape with
  | raw text => exact absurd rfl (constructed text)
  | _ => nofun

/-- An object is a node of objects. -/
theorem kind_eq_object {fields : List (String × Schema)} (object : schema.shape = .object fields) :
    schema.node.kind = .object := by
  rw [node, object]
  rfl

/-- What the grammar gives is well formed. -/
theorem wellFormed_of_given (given : schema.IsGiven holds) : schema.node.IsWellFormed := by
  have constructed := constructed_of_given given
  have shapeGiven := given.shape
  have isObject : schema.node.marks.mode.isSome = true → schema.node.kind = .object := by
    intro marked
    obtain ⟨mode, found⟩ := Option.isSome_iff_exists.mp marked
    obtain ⟨fields, object⟩ := given.mode mode found
    exact kind_eq_object object
  have known : ∀ check ∈ schema.node.marks.checks, check.IsKnown :=
    fun check member => (given.checks check member).1
  obtain ⟨shape, marks⟩ := schema
  exact {
    kind := kind_of_constructed constructed
    source := by
      cases shape with
      | raw text => exact absurd rfl (constructed text)
      | _ => rfl
    item := by cases shape <;> simp [node, Shape.item?, Shape.kind]
    fields := by cases shape <;> simp [node, Shape.fields, Shape.kind]
    variants := by cases shape <;> simp [node, Shape.variants, Shape.kind]
    mode := isObject
    options := by
      cases shape with
      | enum options =>
        exact fun _ => ⟨shapeGiven.1, fun option held => (shapeGiven.2 option held).1⟩
      | _ => nofun
    value := by
      cases shape with
      | literal values =>
        obtain ⟨value, same, -⟩ := shapeGiven
        exact fun _ => ⟨value, same⟩
      | _ => nofun
    known := fun check member => Check.mem_of_known (known check member)
    flags := fun check member => Check.args_of_flag (known check member)
    sizes := fun check member => Check.args_of_size (known check member)
    default := fun literal member => (given.default literal member).1 }

/-- Resolving the text of an expression leaves no expression that is given as text. -/
theorem constructed_of_resolve {text : String} {marks : Decorations}
    (resolved : resolve text marks = .ok schema) : schema.Everywhere IsConstructed := by
  obtain ⟨inner, parsed, same⟩ := bind_eq_ok.mp resolved
  cases same
  have constructed := (given_of_parse parsed).mono fun _ => constructed_of_given
  exact constructed.decorated constructed.here

/-- A schema that was read is well formed at all depths, and a text that is resolved once leaves no
text to be resolved below it. -/
theorem parse_wellFormed :
    (∀ text schema, Schema.parse text = .ok schema →
      schema.Everywhere fun schema => schema.node.IsWellFormed) ∧
    ∀ text marks schema, resolve text marks = .ok schema →
      schema.Everywhere fun schema => schema.node.kind ≠ .raw := by
  constructor
  · intro text schema parsed
    exact (given_of_parse parsed).mono fun _ => wellFormed_of_given
  · intro text marks schema resolved
    exact (constructed_of_resolve resolved).mono fun _ => kind_of_constructed

/-- A dictionary of lists is well formed down to the items, also where null is let through around
its text. -/
theorem parse_wellFormed_record :
    ∃ schema marked, Schema.parse "z.record(z.array(z.enum(['a'])).min(1))" = .ok schema ∧
      (schema.Everywhere fun schema => schema.node.IsWellFormed) ∧
      resolve "z.record(z.array(z.enum(['a'])).min(1))" { nullable := true } = .ok marked ∧
      marked.Everywhere fun schema => schema.node.kind ≠ .raw := by
  have parsed : Schema.parse "z.record(z.array(z.enum(['a'])).min(1))" =
      .ok (record ((array (enum ["a"])).check "min" [.int 1])) :=
    ok_of_toOption (by decide +kernel)
  have resolved : resolve "z.record(z.array(z.enum(['a'])).min(1))" { nullable := true } =
      .ok (record ((array (enum ["a"])).check "min" [.int 1])).asNullable := by
    rw [resolve, parsed]
    rfl
  exact ⟨_, _, parsed, parse_wellFormed.1 _ _ parsed, resolved, parse_wellFormed.2 _ _ _ resolved⟩

end Schema

end TableSchema
