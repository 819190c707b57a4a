import TableSchema.Schema

/-! # Parts of values and schemas

The parts of a value or schema are those one level below it. `Value.induct` and `Schema.induct`
prove a property of all of them from the parts up, and `Everywhere` says that a value or schema and
all that is below it have a property.
-/

namespace TableSchema

namespace Value

/-- The values one level below a value. -/
def parts : Value → List Value
  | .list items => items
  | .tuple items => items
  | .dict entries => entries.map Prod.snd
  | _ => []

/-- A part of a value is smaller than the value. -/
theorem sizeOf_lt_of_mem_parts {value part : Value} (member : part ∈ value.parts) :
    sizeOf part < sizeOf value := by
  cases value with
  | list items =>
    have : sizeOf part < sizeOf items := List.sizeOf_lt_of_mem member
    simp only [list.sizeOf_spec]
    omega
  | tuple items =>
    have : sizeOf part < sizeOf items := List.sizeOf_lt_of_mem member
    simp only [tuple.sizeOf_spec]
    omega
  | dict entries =>
    obtain ⟨⟨key, held⟩, listed, rfl⟩ := List.mem_map.mp member
    have := List.sizeOf_lt_of_mem listed
    simp only [dict.sizeOf_spec, Prod.mk.sizeOf_spec] at this ⊢
    omega
  | _ => cases member

/-- What holds of a value whenever it holds of its parts holds of every value. -/
@[elab_as_elim]
theorem induct {motive : Value → Prop}
    (step : ∀ value : Value, (∀ part ∈ value.parts, motive part) → motive value)
    (value : Value) : motive value :=
  step value fun part _ => induct step part
termination_by sizeOf value
decreasing_by exact sizeOf_lt_of_mem_parts ‹_›

/-- A value and all that is below it have a property. -/
inductive Everywhere (holds : Value → Prop) : Value → Prop
  | intro {value : Value} (here : holds value)
      (below : ∀ part ∈ value.parts, Everywhere holds part) : Everywhere holds value

namespace Everywhere

variable {holds holds' : Value → Prop} {value : Value}

theorem here (everywhere : Everywhere holds value) : holds value := by
  cases everywhere
  assumption

/-- What holds everywhere in a value holds everywhere in its parts. -/
theorem ofParts (everywhere : Everywhere holds value) :
    ∀ part ∈ value.parts, Everywhere holds part := by
  cases everywhere
  assumption

/-- What holds everywhere in a value may be weakened. -/
theorem mono (everywhere : Everywhere holds value)
    (weaker : ∀ value, holds value → holds' value) : Everywhere holds' value := by
  induction everywhere with
  | intro here below hypothesis => exact .intro (weaker _ here) hypothesis

/-- What holds everywhere in a value may be put together. -/
theorem and (everywhere : Everywhere holds value) (everywhere' : Everywhere holds' value) :
    Everywhere (fun value => holds value ∧ holds' value) value := by
  induction everywhere with
  | intro here below hypothesis =>
    exact .intro ⟨here, everywhere'.here⟩ fun part member =>
      hypothesis part member (everywhere'.ofParts part member)

end Everywhere

end Value

/-- The schemas one level below a shape. -/
def Shape.parts {σ : Type} : Shape σ → List σ
  | .array item => [item]
  | .record value => [value]
  | .object fields => fields.map Prod.snd
  | .union variants => variants
  | _ => []

namespace Schema

/-- A part of a schema is smaller than the schema. -/
theorem sizeOf_lt_of_mem_parts {shape : Shape Schema} {marks : Decorations} {part : Schema}
    (member : part ∈ shape.parts) : sizeOf part < sizeOf (Schema.mk shape marks) := by
  cases shape with
  | array item =>
    obtain rfl := List.mem_singleton.mp member
    simp only [mk.sizeOf_spec, Shape.array.sizeOf_spec]
    omega
  | record value =>
    obtain rfl := List.mem_singleton.mp member
    simp only [mk.sizeOf_spec, Shape.record.sizeOf_spec]
    omega
  | object fields =>
    obtain ⟨⟨key, held⟩, listed, rfl⟩ := List.mem_map.mp member
    have := List.sizeOf_lt_of_mem listed
    simp only [mk.sizeOf_spec, Shape.object.sizeOf_spec, Prod.mk.sizeOf_spec] at this ⊢
    omega
  | union variants =>
    have : sizeOf part < sizeOf variants := List.sizeOf_lt_of_mem member
    simp only [mk.sizeOf_spec, Shape.union.sizeOf_spec]
    omega
  | _ => cases member

/-- What holds of a schema whenever it holds of its parts holds of every schema. -/
@[elab_as_elim]
theorem induct {motive : Schema → Prop}
    (step : ∀ (shape : Shape Schema) (marks : Decorations),
      (∀ part ∈ shape.parts, motive part) → motive ⟨shape, marks⟩) :
    ∀ schema : Schema, motive schema
  | ⟨shape, marks⟩ => step shape marks fun part _ => induct step part
termination_by schema => sizeOf schema
decreasing_by exact sizeOf_lt_of_mem_parts ‹_›

/-- A schema and all that is below it have a property. -/
inductive Everywhere (holds : Schema → Prop) : Schema → Prop
  | intro {schema : Schema} (here : holds schema)
      (below : ∀ part ∈ schema.shape.parts, Everywhere holds part) : Everywhere holds schema

namespace Everywhere

variable {holds holds' : Schema → Prop} {schema : Schema}

theorem here (everywhere : Everywhere holds schema) : holds schema := by
  cases everywhere
  assumption

/-- What holds everywhere in a schema holds everywhere in its parts. -/
theorem ofParts (everywhere : Everywhere holds schema) :
    ∀ part ∈ schema.shape.parts, Everywhere holds part := by
  cases everywhere
  assumption

/-- What holds everywhere in a schema may be weakened. -/
theorem mono (everywhere : Everywhere holds schema)
    (weaker : ∀ schema, holds schema → holds' schema) : Everywhere holds' schema := by
  induction everywhere with
  | intro here below hypothesis => exact .intro (weaker _ here) hypothesis

/-- What holds everywhere in a schema may be put together. -/
theorem and (everywhere : Everywhere holds schema) (everywhere' : Everywhere holds' schema) :
    Everywhere (fun schema => holds schema ∧ holds' schema) schema := by
  induction everywhere with
  | intro here below hypothesis =>
    exact .intro ⟨here, everywhere'.here⟩ fun part member =>
      hypothesis part member (everywhere'.ofParts part member)

/-- What is below a schema stays below it when its decorations change. -/
theorem decorated (everywhere : Everywhere holds schema) {marks : Decorations}
    (here : holds { schema with decorations := marks }) :
    Everywhere holds { schema with decorations := marks } :=
  .intro here everywhere.ofParts

end Everywhere

end Schema

end TableSchema
