import TableSchema.Proofs.Schema.RoundTrip

/-! # Building what was read

What the text of a schema reads as is built to the same live value as the schema
(`Schema.build_resolved`), as long as reading keeps the values and keys of the schema. The source
text of a default is lost on the way, and no field shows it. An expression that was given as text is
read on both ways, and what was read holds no further text (`Schema.buildWith_of_constructed`).
-/

namespace TableSchema

open Grammar

/-- Two decorations that differ at most in the source text of their default. -/
structure Decorations.SameButSource (marks marks' : Decorations) : Prop where
  checks : marks.checks = marks'.checks
  mode : marks.mode = marks'.mode
  optional : marks.optional = marks'.optional
  nullable : marks.nullable = marks'.nullable
  default : marks.default.map DefaultLiteral.value = marks'.default.map DefaultLiteral.value

namespace Schema

/-- Whether reading keeps the values and keys of a shape, apart from its parts. -/
def IsStableShape : Shape Schema → Prop
  | .object fields => ∀ field ∈ fields, Text.rereadKey field.1 = field.1
  | .enum options => options.map Value.reread = options
  | .literal values => values.map Value.reread = values
  | _ => True

/-- Whether reading keeps the values and keys of a schema, apart from its parts. -/
structure IsStable (schema : Schema) : Prop where
  default : ∀ literal ∈ schema.decorations.default, literal.value.reread = literal.value
  shape : IsStableShape schema.shape

variable {σ : Type} {backend : Backend σ} {schema : Schema}

/-- Whether two ways of building come to the same, but for the source texts of defaults. -/
inductive Agree : Except BuildError (Built σ) → Except BuildError (Built σ) → Prop
  | error (error : BuildError) : Agree (.error error) (.error error)
  | ok (live : σ) {marks marks' : Decorations} (same : marks.SameButSource marks') :
    Agree (.ok (live, marks)) (.ok (live, marks'))

namespace Agree

variable {first second : Except BuildError (Built σ)}

/-- What follows agreeing builds and does not look at source texts comes to the same. -/
theorem bind_eq {α : Type} (agree : Agree first second) {following : Built σ → Except BuildError α}
    (blind : ∀ live marks marks', marks.SameButSource marks' →
      following (live, marks) = following (live, marks')) :
    (first >>= following) = (second >>= following) := by
  cases agree with
  | error error => rfl
  | ok live same => exact blind live _ _ same

end Agree

/-- A member does not depend on the source of a default. -/
theorem memberOf_congr {marks marks' : Decorations} (same : marks.SameButSource marks')
    (name : String) (live : σ) : memberOf name (live, marks) = memberOf name (live, marks') := by
  have value := same.default
  unfold memberOf
  dsimp only
  cases held : marks.default with
  | none =>
    cases held' : marks'.default with
    | none => simp only [same.optional]
    | some literal => rw [held, held'] at value; cases value
  | some literal =>
    cases held' : marks'.default with
    | none => rw [held, held'] at value; cases value
    | some literal' =>
      rw [held, held'] at value
      simp only [Option.some.inj value]

/-! ### Schemas without text -/

/-- Whether a schema, apart from its parts, is no expression that was given as text. -/
def IsConstructed (schema : Schema) : Prop :=
  ∀ text, schema.shape ≠ .raw text

/-- A schema that the grammar gives is not given as text. -/
theorem constructed_of_given {holds : Value → Prop} (given : schema.IsGiven holds) :
    schema.IsConstructed := by
  intro text isRaw
  have here := given.shape
  rw [isRaw] at here
  exact here

/-- Fields are built alike if their schemas are. -/
theorem buildFields_congr {text text' : TextBuilder σ} {fields : List (String × Schema)}
    (parts : ∀ schema ∈ fields.map Prod.snd, ∀ model,
      buildWith backend text model schema = buildWith backend text' model schema)
    (model : String) :
    buildFields backend text model fields = buildFields backend text' model fields := by
  induction fields with
  | nil => rfl
  | cons field fields hypothesis =>
    obtain ⟨first, others⟩ := List.forall_mem_cons.mp parts
    rw [buildFields, buildFields, first, hypothesis others]

/-- Variants are built alike if each of them is. -/
theorem buildVariants_congr {text text' : TextBuilder σ} {variants : List Schema}
    (parts : ∀ schema ∈ variants, ∀ model,
      buildWith backend text model schema = buildWith backend text' model schema)
    (model : String) :
    buildVariants backend text model variants = buildVariants backend text' model variants := by
  induction variants with
  | nil => rfl
  | cons schema variants hypothesis =>
    obtain ⟨first, others⟩ := List.forall_mem_cons.mp parts
    rw [buildVariants, buildVariants, first, hypothesis others]

/-- Where no expression was given as text, it does not matter how one is built. -/
theorem buildWith_of_constructed (constructed : schema.Everywhere IsConstructed)
    (text text' : TextBuilder σ) (model : String) :
    buildWith backend text model schema = buildWith backend text' model schema := by
  induction schema using Schema.induct generalizing model with
  | step shape marks hypothesis =>
    have parts : ∀ part ∈ shape.parts, ∀ model,
        buildWith backend text model part = buildWith backend text' model part :=
      fun part member model => hypothesis part member (constructed.ofParts part member) model
    cases shape with
    | raw text => exact absurd rfl (constructed.here text)
    | array item =>
      simp only [buildWith, buildShape, parts item (List.mem_singleton_self item)]
    | record value =>
      simp only [buildWith, buildShape, parts value (List.mem_singleton_self value)]
    | object fields => simp only [buildWith, buildShape, buildFields_congr parts]
    | union variants =>
      simp only [buildWith, buildShape, @buildVariants_congr _ _ _ _ variants parts]
    | literal values => cases values <;> rfl
    | _ => rfl

/-! ### Schemas that were read -/

variable {text : TextBuilder σ} {model : String} {shape shape' : Shape Schema}
  {marks marks' : Decorations}

/-- A shape looks at the refinements and the mode that decorate it. -/
theorem buildShape_congr (same : marks.SameButSource marks') :
    buildShape backend text model marks shape = buildShape backend text model marks' shape := by
  cases shape with
  | string => simp only [buildShape, same.checks]
  | number => simp only [buildShape, same.checks]
  | array item => simp only [buildShape, same.checks]
  | object fields => simp only [buildShape, same.mode]
  | literal values => cases values <;> rfl
  | _ => rfl

/-- A schema that is not given as text is built of its shape, and null is let through last. -/
theorem buildWith_of_shape (constructed : ∀ text, shape ≠ .raw text) :
    buildWith backend text model ⟨shape, marks⟩ = do
      let live ← buildShape backend text model marks shape
      if marks.nullable then return (← call (backend.nullable live), marks)
      else return (live, marks) := by
  cases shape with
  | raw text => exact absurd rfl (constructed text)
  | _ => rfl

/-- What a schema that is not given as text is built to: the live value of its shape, which null is
let through if the schema is nullable, with the decorations of the schema. -/
theorem exists_of_buildWith (constructed : ∀ text, shape ≠ .raw text) {live : σ}
    (built : buildWith backend text model ⟨shape, marks⟩ = .ok (live, marks')) :
    marks' = marks ∧ ∃ inner, buildShape backend text model marks shape = .ok inner ∧
      (live = inner ∨ backend.nullable inner = .ok live) := by
  rw [buildWith_of_shape constructed] at built
  obtain ⟨inner, builtShape, tail⟩ := bind_eq_ok.mp built
  split at tail
  · obtain ⟨nullable, called, same⟩ := bind_eq_ok.mp tail
    cases same
    exact ⟨rfl, inner, builtShape, .inr (mapError_eq_ok called)⟩
  · cases tail
    exact ⟨rfl, _, builtShape, .inl rfl⟩

/-- Schemas agree if their shapes are built alike and their decorations differ in source texts only.
-/
theorem Agree.ofShapes (constructed : ∀ text, shape ≠ .raw text)
    (constructed' : ∀ text, shape' ≠ .raw text) (same : marks.SameButSource marks')
    (shapes : buildShape backend text model marks shape =
      buildShape backend text model marks' shape') :
    Agree (buildWith backend text model ⟨shape, marks⟩)
      (buildWith backend text model ⟨shape', marks'⟩) := by
  rw [buildWith_of_shape constructed, buildWith_of_shape constructed', shapes, same.nullable]
  cases buildShape backend text model marks' shape' with
  | error error => exact .error error
  | ok live =>
    show Agree (if _ then _ else _) (if _ then _ else _)
    split
    · cases call (backend.nullable live) with
      | error error => exact .error error
      | ok live => exact .ok live same
    · exact .ok live same

/-- Decorations with a stable default are read as they are, but for the source of it. -/
theorem sameButSource_reread
    (stable : ∀ literal ∈ marks.default, literal.value.reread = literal.value) :
    marks.reread.SameButSource marks := by
  refine ⟨rfl, rfl, rfl, rfl, ?_⟩
  cases held : marks.default with
  | none => rw [Decorations.reread, held]; rfl
  | some literal =>
    rw [Decorations.reread, held]
    exact congrArg some (stable literal held)

/-- Decorations that differ in a source only do so over others. -/
theorem sameButSource_over (same : marks.SameButSource marks') (inner : Decorations) :
    (marks.over inner).SameButSource (marks'.over inner) := by
  constructor
  · simp only [Decorations.over, same.checks]
  · simp only [Decorations.over, same.mode]
  · simp only [Decorations.over, same.optional]
  · simp only [Decorations.over, same.nullable]
  · simp only [Decorations.over, Option.map_or, same.default]

/-- Whether what a schema reads as is built to the same live values as the schema. -/
def IsBuiltAlike (backend : Backend σ) (schema : Schema) : Prop :=
  ∀ {read : Schema} (model : String), schema.reread.resolved = .ok read →
    Agree (buildWith backend (buildText backend) model read)
      (buildWith backend (buildText backend) model schema)

/-- Fields are built as their resolved schemas are. -/
theorem buildFields_resolved {fields read : List (String × Schema)}
    (kept : ∀ field ∈ fields, Text.rereadKey field.1 = field.1)
    (parts : ∀ schema ∈ fields.map Prod.snd, schema.IsBuiltAlike backend)
    (resolved : resolvedFields (rereadFields fields) = .ok read) (model : String) :
    buildFields backend (buildText backend) model read =
      buildFields backend (buildText backend) model fields := by
  induction fields generalizing read with
  | nil =>
    cases resolved
    rfl
  | cons field fields hypothesis =>
    obtain ⟨name, schema⟩ := field
    obtain ⟨same, kept⟩ := List.forall_mem_cons.mp kept
    obtain ⟨alike, parts⟩ := List.forall_mem_cons.mp parts
    obtain ⟨first, resolvedFirst, tail⟩ := bind_eq_ok.mp resolved
    obtain ⟨rest, resolvedRest, read⟩ := bind_eq_ok.mp tail
    cases read
    rw [show Text.rereadKey name = name from same, buildFields, buildFields,
      hypothesis kept parts resolvedRest]
    apply (alike (modelName [model, name]) resolvedFirst).bind_eq
    intro live marks marks' same
    rw [memberOf_congr same]

/-- Variants are built as their resolved schemas are. -/
theorem buildVariants_resolved {variants read : List Schema}
    (parts : ∀ schema ∈ variants, schema.IsBuiltAlike backend)
    (resolved : resolvedVariants (rereadVariants variants) = .ok read) (model : String) :
    buildVariants backend (buildText backend) model read =
      buildVariants backend (buildText backend) model variants := by
  induction variants generalizing read with
  | nil =>
    cases resolved
    rfl
  | cons schema variants hypothesis =>
    obtain ⟨alike, parts⟩ := List.forall_mem_cons.mp parts
    obtain ⟨first, resolvedFirst, tail⟩ := bind_eq_ok.mp resolved
    obtain ⟨rest, resolvedRest, read⟩ := bind_eq_ok.mp tail
    cases read
    rw [buildVariants, buildVariants, hypothesis parts resolvedRest]
    apply (alike model resolvedFirst).bind_eq
    intro live marks marks' same
    rfl

/-- What a shape reads as is built to the same live value as the shape. -/
theorem buildShape_resolved (constructed : ∀ text, shape ≠ .raw text) (stable : IsStableShape shape)
    (parts : ∀ part ∈ shape.parts, part.IsBuiltAlike backend)
    (resolved : resolvedShape (rereadShape shape) = .ok shape') :
    buildShape backend (buildText backend) model marks shape' =
        buildShape backend (buildText backend) model marks shape ∧
      ∀ text, shape' ≠ .raw text := by
  cases shape with
  | raw text => exact absurd rfl (constructed text)
  | array item =>
    obtain ⟨read, resolvedItem, same⟩ := bind_eq_ok.mp resolved
    cases same
    refine ⟨?_, fun text isRaw => by cases isRaw⟩
    apply (parts item (List.mem_singleton_self item) model resolvedItem).bind_eq
    intro live marks marks' same
    rfl
  | record value =>
    obtain ⟨read, resolvedValue, same⟩ := bind_eq_ok.mp resolved
    cases same
    refine ⟨?_, fun text isRaw => by cases isRaw⟩
    apply (parts value (List.mem_singleton_self value) model resolvedValue).bind_eq
    intro live marks marks' same
    rfl
  | object fields =>
    obtain ⟨read, resolvedFields, same⟩ := bind_eq_ok.mp resolved
    cases same
    refine ⟨?_, fun text isRaw => by cases isRaw⟩
    rw [buildShape, buildShape, buildFields_resolved stable parts resolvedFields]
  | union variants =>
    obtain ⟨read, resolvedVariants, same⟩ := bind_eq_ok.mp resolved
    cases same
    refine ⟨?_, fun text isRaw => by cases isRaw⟩
    rw [buildShape, buildShape, @buildVariants_resolved _ _ variants _ parts resolvedVariants]
  | enum options =>
    cases resolved
    refine ⟨?_, fun text isRaw => by cases isRaw⟩
    rw [rereadShape, show options.map Value.reread = options from stable]
  | literal values =>
    cases resolved
    refine ⟨?_, fun text isRaw => by cases isRaw⟩
    rw [rereadShape, show values.map Value.reread = values from stable]
  | _ =>
    cases resolved
    exact ⟨rfl, fun text isRaw => by cases isRaw⟩

/-- What the text of a stable schema reads as is built to the same live values as the schema. -/
theorem builtAlike_of_stable (stable : schema.Everywhere IsStable) :
    schema.IsBuiltAlike backend := by
  induction schema using Schema.induct with
  | step shape marks hypothesis =>
    intro read model resolved
    have parts : ∀ part ∈ shape.parts, part.IsBuiltAlike backend := fun part member =>
      hypothesis part member (stable.ofParts part member)
    have same := sameButSource_reread stable.here.default
    by_cases raw : ∃ text, shape = .raw text
    · -- The text is read on both ways, here before the schema is built and there while it is.
      obtain ⟨text, rfl⟩ := raw
      obtain ⟨inner, parsed, isRead⟩ := bind_eq_ok.mp resolved
      cases isRead
      have constructed := (given_of_parse parsed).mono fun _ => constructed_of_given
      have around (marks : Decorations) :
          Everywhere IsConstructed { inner with decorations := marks } :=
        constructed.decorated constructed.here
      have built : buildWith backend (buildText backend) model ⟨.raw text, marks⟩ =
          buildWith backend (buildText backend) model
            { inner with decorations := marks.over inner.decorations } := by
        rw [buildWith_of_constructed (around _) (buildText backend) fun _ _ _ => .error .nestedText]
        show buildText backend model (text.getD "") marks = _
        rw [buildText, resolve, parsed]
        rfl
      rw [built]
      exact .ofShapes constructed.here constructed.here (sameButSource_over same _)
        (buildShape_congr (sameButSource_over same _))
    · have constructed : ∀ text, shape ≠ .raw text := fun text same => raw ⟨text, same⟩
      rw [reread, resolved_of_constructed (constructed_reread constructed)] at resolved
      obtain ⟨shape', resolvedShape, isRead⟩ := bind_eq_ok.mp resolved
      cases isRead
      obtain ⟨built, constructed'⟩ :=
        buildShape_resolved constructed stable.here.shape parts resolvedShape
      exact .ofShapes constructed' constructed same (built.trans (buildShape_congr same))

/-- What the text of a stable schema reads as is built to the live value of the schema. -/
theorem build_resolved {read : Schema} (stable : schema.Everywhere IsStable)
    (resolved : schema.reread.resolved = .ok read) (model : String) :
    read.build backend model = schema.build backend model := by
  have alike : Agree (buildWith backend (buildText backend) model read)
      (buildWith backend (buildText backend) model schema) :=
    builtAlike_of_stable stable model resolved
  -- The decorations, which may differ in source texts, are dropped from what was built.
  apply alike.bind_eq
  intro live marks marks' same
  rfl

end Schema

end TableSchema
