import TableSchema.Proofs.Schema.Reading
import TableSchema.Proofs.Value.Keeping

/-! # Schemas that texts keep

A schema whose values are plain, and whose defaults came from no text, is what its text reads as
exactly if the texts and keys in it are kept (`Schema.reread_eq_iff`).
-/

namespace TableSchema.Schema

/-- Whether the values that a shape holds are plain. -/
def IsPlainShape : Shape Schema → Prop
  | .enum options => ∀ option ∈ options, option.Everywhere Value.IsPlain
  | .literal values => ∀ value ∈ values, value.Everywhere Value.IsPlain
  | _ => True

/-- Whether a schema, apart from its parts, holds plain values and no source text of a default. -/
structure IsPlain (schema : Schema) : Prop where
  default : ∀ literal ∈ schema.decorations.default,
    literal.text = none ∧ literal.value.Everywhere Value.IsPlain
  shape : IsPlainShape schema.shape

/-- Whether the text of a shape, apart from its parts, loses nothing of its values and keys. -/
def IsKeptShape : Shape Schema → Prop
  | .object fields => ∀ field ∈ fields, Text.IsKeptKey field.1
  | .enum options => ∀ option ∈ options, option.Everywhere Value.IsKept
  | .literal values => ∀ value ∈ values, value.Everywhere Value.IsKept
  | _ => True

/-- Whether the text of a schema, apart from its parts, loses nothing of its values and keys. -/
structure IsKept (schema : Schema) : Prop where
  default : ∀ literal ∈ schema.decorations.default, literal.value.Everywhere Value.IsKept
  shape : IsKeptShape schema.shape

/-- What holds everywhere in a schema holds of the schema and everywhere in its parts. -/
theorem everywhere_iff {holds : Schema → Prop} {schema : Schema} : schema.Everywhere holds ↔
    holds schema ∧ ∀ part ∈ schema.shape.parts, part.Everywhere holds := by
  constructor
  · intro everywhere
    exact ⟨everywhere.here, everywhere.ofParts⟩
  · rintro ⟨here, below⟩
    exact .intro here below

/-- Plain decorations are read as they are exactly if their default is kept. -/
theorem reread_marks_eq_iff {marks : Decorations} (plain : ∀ literal ∈ marks.default,
      literal.text = none ∧ literal.value.Everywhere Value.IsPlain) :
    marks.reread = marks ↔ ∀ literal ∈ marks.default, literal.value.Everywhere Value.IsKept := by
  obtain ⟨checks, mode, optional, nullable, default⟩ := marks
  cases default with
  | none => exact ⟨fun _ => nofun, fun _ => rfl⟩
  | some literal =>
    obtain ⟨value, text⟩ := literal
    obtain ⟨noText, plain⟩ := plain _ rfl
    cases noText
    simp only [Decorations.reread, Option.map_some, Decorations.mk.injEq, Option.some.injEq,
      DefaultLiteral.mk.injEq, and_true, true_and, Value.reread_eq_iff plain]
    exact ⟨fun kept literal same => by cases same; exact kept, fun kept => kept _ rfl⟩

/-- Plain values are read as they are exactly if they are kept. -/
theorem map_reread_eq_iff {values : List Value}
    (plain : ∀ value ∈ values, value.Everywhere Value.IsPlain) :
    values.map Value.reread = values ↔ ∀ value ∈ values, value.Everywhere Value.IsKept := by
  rw [Value.map_eq_self_iff]
  exact forall₂_congr fun value member => Value.reread_eq_iff (plain value member)

/-- Fields read as what each key and schema reads as. -/
theorem rereadFields_eq_map (fields : List (String × Schema)) :
    rereadFields fields = fields.map fun field => (Text.rereadKey field.1, reread field.2) := by
  induction fields with
  | nil => rfl
  | cons field fields hypothesis => rw [rereadFields, hypothesis, List.map_cons]

/-- Variants read as what each of them reads as. -/
theorem rereadVariants_eq_map (variants : List Schema) :
    rereadVariants variants = variants.map reread := by
  induction variants with
  | nil => rfl
  | cons schema variants hypothesis => rw [rereadVariants, hypothesis, List.map_cons]

/-- A plain shape is read as it is exactly if it is kept and so are its parts. -/
theorem reread_shape_eq_iff {shape : Shape Schema} (plain : IsPlainShape shape)
    (parts : ∀ part ∈ shape.parts, part.reread = part ↔ part.Everywhere IsKept) :
    rereadShape shape = shape ↔
      IsKeptShape shape ∧ ∀ part ∈ shape.parts, part.Everywhere IsKept := by
  cases shape with
  | array item =>
    rw [rereadShape, Shape.array.injEq, parts item (List.mem_singleton_self item)]
    simp [IsKeptShape, Shape.parts]
  | record value =>
    rw [rereadShape, Shape.record.injEq, parts value (List.mem_singleton_self value)]
    simp [IsKeptShape, Shape.parts]
  | object fields =>
    rw [rereadShape, Shape.object.injEq, rereadFields_eq_map, Value.map_eq_self_iff]
    constructor
    · intro same
      refine ⟨fun field member => (Text.rereadKey_eq_iff field.1).mp
        (congrArg Prod.fst (same field member)), ?_⟩
      intro part member
      obtain ⟨field, listed, rfl⟩ := List.mem_map.mp member
      exact (parts _ member).mp (congrArg Prod.snd (same field listed))
    · rintro ⟨keys, schemas⟩ field member
      have held : field.2 ∈ Shape.parts (.object fields) := List.mem_map_of_mem member
      exact Prod.ext ((Text.rereadKey_eq_iff field.1).mpr (keys field member))
        ((parts _ held).mpr (schemas _ held))
  | enum options =>
    rw [rereadShape, Shape.enum.injEq, map_reread_eq_iff plain]
    simp [IsKeptShape, Shape.parts]
  | union variants =>
    rw [rereadShape, Shape.union.injEq, rereadVariants_eq_map, Value.map_eq_self_iff]
    constructor
    · exact fun same => ⟨trivial, fun part member => (parts part member).mp (same part member)⟩
    · exact fun kept part member => (parts part member).mpr (kept.2 part member)
  | literal values =>
    rw [rereadShape, Shape.literal.injEq, map_reread_eq_iff plain]
    simp [IsKeptShape, Shape.parts]
  | _ => simp [rereadShape, IsKeptShape, Shape.parts]

/-- The text of a plain schema reads as the schema exactly if its texts and keys are kept. -/
theorem reread_eq_iff {schema : Schema} (plain : schema.Everywhere IsPlain) :
    schema.reread = schema ↔ schema.Everywhere IsKept := by
  induction schema using Schema.induct with
  | step shape marks hypothesis =>
    have parts : ∀ part ∈ shape.parts, part.reread = part ↔ part.Everywhere IsKept :=
      fun part member => hypothesis part member (plain.ofParts part member)
    rw [reread, Schema.mk.injEq, reread_shape_eq_iff plain.here.shape parts,
      reread_marks_eq_iff plain.here.default, everywhere_iff]
    constructor
    · rintro ⟨⟨shape, below⟩, default⟩
      exact ⟨⟨default, shape⟩, below⟩
    · rintro ⟨⟨default, shape⟩, below⟩
      exact ⟨⟨shape, below⟩, default⟩

end TableSchema.Schema
