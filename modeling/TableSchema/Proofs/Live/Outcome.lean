import TableSchema.Proofs.Schema.Occurrence

/-! # What building comes to

`Settles possible result` says that a result is a value if something is possible, and otherwise an
error of a foreseen kind: an expression that is not understood, a refinement that numbers do not
have, or a constructor that the backend lacks. The relation composes along a build, so that a schema
is built exactly if all that is below it is buildable (`Schema.settles_buildWith`).
-/

namespace TableSchema

/-- The causes for which building is known to fail. -/
def BuildError.IsForeseen : BuildError → Prop
  | .expression _ => True
  | .notOnNumbers _ => True
  | .backend (.unimplemented _) => True
  | _ => False

/-- Whether a result is a value if something is possible, and a foreseen error if it is not. -/
inductive Settles {α : Type} (possible : Prop) : Except BuildError α → Prop
  | ok (value : α) (holds : possible) : Settles possible (.ok value)
  | error {cause : BuildError} (foreseen : cause.IsForeseen) (fails : ¬possible) :
      Settles possible (.error cause)

namespace Settles

variable {α β : Type} {possible possible' : Prop} {result : Except BuildError α}

/-- What settles a result may be stated otherwise. -/
theorem congr (settles : Settles possible result) (same : possible ↔ possible') :
    Settles possible' result := by
  cases settles with
  | ok value holds => exact .ok value (same.mp holds)
  | error foreseen fails => exact .error foreseen (mt same.mpr fails)

/-- Two steps settle what both of them ask for. -/
theorem bind (settles : Settles possible result) {following : α → Except BuildError β}
    (next : ∀ value, Settles possible' (following value)) :
    Settles (possible ∧ possible') (result >>= following) := by
  cases settles with
  | ok value holds => exact (next value).congr ⟨fun later => ⟨holds, later⟩, And.right⟩
  | error foreseen fails => exact .error foreseen fun both => fails both.1

/-- A step that cannot fail leaves what was settled before it. -/
theorem map (settles : Settles possible result) (change : α → β) :
    Settles possible (result >>= fun value => .ok (change value)) :=
  (settles.bind fun value => .ok (change value) trivial).congr (and_iff_left trivial)

end Settles

/-! ### Refinements -/

/-- The refinements that numbers have. -/
def numberRefinements : List String :=
  ["int", "positive", "nonnegative", "negative", "nonpositive", "min", "max"]

/-- Whether a refinement that sets a size has an argument. -/
def Check.IsComplete (check : Check) : Prop :=
  check.name ∈ Expression.sizeChecks → check.args ≠ []

variable {check : Check} {checks : List Check}

/-- A complete refinement of the size has its argument. -/
theorem Check.settles_argument (complete : check.IsComplete)
    (sized : check.name ∈ Expression.sizeChecks) : Settles True check.argument := by
  obtain ⟨name, args⟩ := check
  cases args with
  | nil => exact absurd rfl (complete sized)
  | cons value args => exact .ok value trivial

/-- A complete refinement always refines the bounds of a length. -/
theorem LengthBounds.settles_refine (complete : check.IsComplete) (bounds : LengthBounds) :
    Settles True (bounds.refine check) := by
  have sized (named : check.name = "min" ∨ check.name = "max" ∨ check.name = "length") :
      Settles True check.argument :=
    check.settles_argument complete (by simpa [Expression.sizeChecks] using named)
  unfold LengthBounds.refine
  split
  · next named => exact (sized (.inl named)).map _
  split
  · next named => exact (sized (.inr (.inl named))).map _
  split
  · next named => exact (sized (.inr (.inr named))).map _
  · exact .ok bounds trivial

/-- A complete refinement refines the bounds of a number exactly if it is one of numbers. -/
theorem NumberBounds.settles_refine (complete : check.IsComplete) (bounds : NumberBounds) :
    Settles (check.name ∈ numberRefinements) (bounds.refine check) := by
  have sized (named : check.name = "min" ∨ check.name = "max") :
      Settles (check.name ∈ numberRefinements) check.argument := by
    refine (check.settles_argument complete ?_).congr (iff_of_true trivial ?_)
    all_goals rcases named with named | named <;> rw [named] <;> decide
  unfold NumberBounds.refine
  split
  · next named => exact .ok _ (by simp [named, numberRefinements])
  split
  · next named => exact .ok _ (by simp [named, numberRefinements])
  split
  · next named => exact .ok _ (by simp [named, numberRefinements])
  split
  · next named => exact .ok _ (by simp [named, numberRefinements])
  split
  · next named => exact .ok _ (by simp [named, numberRefinements])
  split
  · next named => exact (sized (.inl named)).map _
  split
  · next named => exact (sized (.inr named)).map _
  · exact .error trivial (by simp [*, numberRefinements])

/-- Refinements are taken together if each of them can be. -/
theorem settles_foldlM {β : Type} {step : β → Check → Except BuildError β} {fits : Check → Prop}
    (each : ∀ check ∈ checks, ∀ bounds, Settles (fits check) (step bounds check)) (bounds : β) :
    Settles (∀ check ∈ checks, fits check) (checks.foldlM step bounds) := by
  induction checks generalizing bounds with
  | nil => exact .ok bounds (by simp)
  | cons check checks hypothesis =>
    obtain ⟨first, others⟩ := List.forall_mem_cons.mp each
    rw [List.foldlM_cons]
    exact ((first bounds).bind (hypothesis others)).congr List.forall_mem_cons.symm

theorem LengthBounds.settles_ofChecks (complete : ∀ check ∈ checks, check.IsComplete) :
    Settles True (LengthBounds.ofChecks checks) := by
  have each : ∀ check ∈ checks, ∀ bounds, Settles True (LengthBounds.refine bounds check) :=
    fun check member => settles_refine (complete check member)
  exact (settles_foldlM each {}).congr (by simp)

/-- Complete refinements give bounds of a number exactly if all of them are refinements of numbers.
-/
theorem NumberBounds.settles_ofChecks (complete : ∀ check ∈ checks, check.IsComplete) :
    Settles (∀ check ∈ checks, check.name ∈ numberRefinements) (NumberBounds.ofChecks checks) := by
  have each : ∀ check ∈ checks, ∀ bounds,
      Settles (check.name ∈ numberRefinements) (NumberBounds.refine bounds check) :=
    fun check member => settles_refine (complete check member)
  exact settles_foldlM each {}

/-! ### Backends -/

variable {σ : Type} {backend : Backend σ} {missing : List String}

/-- Whether the constructor of a name is not implemented if it is missing, and returns a value if it
is not. -/
def Backend.Answers (missing : List String) (constructor : String)
    (result : Except BackendError σ) : Prop :=
  if constructor ∈ missing then ∃ detail, result = .error (.unimplemented detail)
  else ∃ live, result = .ok live

/-- A backend that lacks the missing constructors and returns a value from all others. -/
structure Backend.Lacks (backend : Backend σ) (missing : List String) : Prop where
  string : ∀ format bounds, Answers missing "string" (backend.string format bounds)
  number : ∀ bounds, Answers missing "number" (backend.number bounds)
  boolean : Answers missing "boolean" backend.boolean
  unknown : Answers missing "unknown" backend.unknown
  binary : Answers missing "binary" backend.binary
  array : ∀ item bounds, Answers missing "array" (backend.array item bounds)
  record : ∀ value, Answers missing "record" (backend.record value)
  enum : ∀ options, Answers missing "enum" (backend.enum options)
  literal : ∀ value, Answers missing "literal" (backend.literal value)
  union : ∀ variants, Answers missing "union" (backend.union variants)
  nullable : ∀ live, Answers missing "nullable" (backend.nullable live)
  object : ∀ name members mode, Answers missing "object" (backend.object name members mode)

/-- A constructor gives a result exactly if it is not missing. -/
theorem Backend.Answers.settles {constructor : String} {result : Except BackendError σ}
    (answers : Answers missing constructor result) :
    Settles (constructor ∉ missing) (Schema.call result) := by
  unfold Answers at answers
  split at answers
  · next lacking =>
    obtain ⟨detail, rfl⟩ := answers
    exact .error trivial (not_not_intro lacking)
  · next present =>
    obtain ⟨live, rfl⟩ := answers
    exact .ok live present

namespace Schema

/-- The constructor that builds a shape, if the shape is not given as text. -/
def constructor? : Shape Schema → Option String
  | .string => "string"
  | .number => "number"
  | .boolean => "boolean"
  | .unknown => "unknown"
  | .binary => "binary"
  | .array _ => "array"
  | .record _ => "record"
  | .object _ => "object"
  | .enum _ => "enum"
  | .union _ => "union"
  | .literal _ => "literal"
  | .raw _ => none

/-- Whether a schema, apart from its parts, is built with a constructor. -/
def Needs (schema : Schema) (constructor : String) : Prop :=
  constructor? schema.shape = some constructor ∨
    schema.decorations.nullable = true ∧ constructor = "nullable"

/-- Whether a number has no refinement that numbers do not have. -/
def IsRefined (schema : Schema) : Prop :=
  schema.shape = .number → ∀ check ∈ schema.decorations.checks, check.name ∈ numberRefinements

/-- Whether a schema, apart from its parts, can be built without the missing constructors. -/
structure IsBuildable (missing : List String) (schema : Schema) : Prop where
  refined : schema.IsRefined
  available : ∀ constructor, schema.Needs constructor → constructor ∉ missing

/-- Whether the refinements and the literal of a schema, apart from its parts, have the arguments
that they need. -/
structure IsComplete (schema : Schema) : Prop where
  checks : ∀ check ∈ schema.decorations.checks, check.IsComplete
  literal : schema.shape ≠ .literal []

variable {text : TextBuilder σ} {possible : Schema → Prop} {shape : Shape Schema}
  {marks : Decorations} {model : String}

/-- Fields can be built exactly if all of their schemas can. -/
theorem settles_buildFields {fields : List (String × Schema)}
    (parts : ∀ schema ∈ fields.map Prod.snd, ∀ model,
      Settles (possible schema) (buildWith backend text model schema)) :
    Settles (∀ schema ∈ fields.map Prod.snd, possible schema)
      (buildFields backend text model fields) := by
  induction fields with
  | nil => exact .ok [] (by simp)
  | cons field fields hypothesis =>
    obtain ⟨name, schema⟩ := field
    obtain ⟨first, others⟩ := List.forall_mem_cons.mp parts
    rw [buildFields]
    refine ((first (modelName [model, name])).bind fun built => ?_).congr List.forall_mem_cons.symm
    exact (hypothesis others).map _

/-- Variants can be built exactly if all of them can. -/
theorem settles_buildVariants {variants : List Schema}
    (parts : ∀ schema ∈ variants, ∀ model,
      Settles (possible schema) (buildWith backend text model schema)) :
    Settles (∀ schema ∈ variants, possible schema)
      (buildVariants backend text model variants) := by
  induction variants with
  | nil => exact .ok [] (by simp)
  | cons schema variants hypothesis =>
    obtain ⟨first, others⟩ := List.forall_mem_cons.mp parts
    rw [buildVariants]
    refine ((first model).bind fun built => ?_).congr List.forall_mem_cons.symm
    exact (hypothesis others).map _

/-- A shape is built exactly if its refinements are known to it, its constructor is there, and its
parts can be built. -/
theorem settles_buildShape (lacks : backend.Lacks missing) (complete : IsComplete ⟨shape, marks⟩)
    (constructed : ∀ text, shape ≠ .raw text)
    (parts : ∀ part ∈ shape.parts, ∀ model,
      Settles (possible part) (buildWith backend text model part)) :
    Settles (IsRefined ⟨shape, marks⟩ ∧ (∀ name, constructor? shape = some name → name ∉ missing) ∧
        ∀ part ∈ shape.parts, possible part)
      (buildShape backend text model marks shape) := by
  have bounds := LengthBounds.settles_ofChecks complete.checks
  cases shape with
  | string =>
    refine (bounds.bind fun bounds => (lacks.string _ bounds).settles).congr ?_
    simp [IsRefined, constructor?, Shape.parts]
  | number =>
    refine ((NumberBounds.settles_ofChecks complete.checks).bind fun bounds =>
      (lacks.number bounds).settles).congr ?_
    simp [IsRefined, constructor?, Shape.parts]
  | boolean => exact lacks.boolean.settles.congr (by simp [IsRefined, constructor?, Shape.parts])
  | unknown => exact lacks.unknown.settles.congr (by simp [IsRefined, constructor?, Shape.parts])
  | binary => exact lacks.binary.settles.congr (by simp [IsRefined, constructor?, Shape.parts])
  | array item =>
    refine ((parts item (List.mem_singleton_self item) model).bind fun live =>
      bounds.bind fun bounds => (lacks.array live.1 bounds).settles).congr ?_
    simp [IsRefined, constructor?, Shape.parts, and_comm]
  | record value =>
    refine ((parts value (List.mem_singleton_self value) model).bind fun live =>
      (lacks.record live.1).settles).congr ?_
    simp [IsRefined, constructor?, Shape.parts, and_comm]
  | object fields =>
    refine ((settles_buildFields parts).bind fun members =>
      (lacks.object model members marks.mode).settles).congr ?_
    simp [IsRefined, constructor?, Shape.parts, and_comm]
  | enum options =>
    exact (lacks.enum options).settles.congr (by simp [IsRefined, constructor?, Shape.parts])
  | union variants =>
    refine ((settles_buildVariants parts).bind fun variants =>
      (lacks.union variants).settles).congr ?_
    simp [IsRefined, constructor?, Shape.parts, and_comm]
  | literal values =>
    cases values with
    | nil => exact absurd rfl complete.literal
    | cons value values =>
      exact (lacks.literal value).settles.congr (by simp [IsRefined, constructor?, Shape.parts])
  | raw text => exact absurd rfl (constructed text)

/-- A schema that is not given as text is built exactly if it is buildable and its parts can be
built. -/
theorem settles_buildWith_of_parts (lacks : backend.Lacks missing)
    (complete : IsComplete ⟨shape, marks⟩) (constructed : ∀ text, shape ≠ .raw text)
    (parts : ∀ part ∈ shape.parts, ∀ model,
      Settles (possible part) (buildWith backend text model part)) :
    Settles (IsBuildable missing ⟨shape, marks⟩ ∧ ∀ part ∈ shape.parts, possible part)
      (buildWith backend text model ⟨shape, marks⟩) := by
  have last (live : σ) : Settles (marks.nullable = true → "nullable" ∉ missing)
      (if marks.nullable then do return (← call (backend.nullable live), marks)
        else return (live, marks) : Except BuildError (Built σ)) := by
    split
    · next nullable =>
      exact ((lacks.nullable live).settles.map _).congr (by simp [nullable])
    · next required => exact .ok _ fun nullable => absurd nullable required
  rw [buildWith_of_shape constructed]
  refine ((settles_buildShape lacks complete constructed parts).bind last).congr ?_
  constructor
  · rintro ⟨⟨refined, shaped, parts⟩, nullable⟩
    refine ⟨⟨refined, ?_⟩, parts⟩
    rintro name (built | ⟨marked, rfl⟩)
    · exact shaped name built
    · exact nullable marked
  · rintro ⟨⟨refined, available⟩, parts⟩
    exact ⟨⟨refined, fun name built => available name (.inl built), parts⟩,
      fun marked => available _ (.inr ⟨marked, rfl⟩)⟩

/-- A schema is built exactly if something is possible that asks of every schema in it that it is
buildable, and of every expression given as text that it can be built. -/
theorem settles_buildWith {schema : Schema} (lacks : backend.Lacks missing)
    (step : ∀ shape marks, (∀ text, shape ≠ .raw text) → (possible ⟨shape, marks⟩ ↔
      IsBuildable missing ⟨shape, marks⟩ ∧ ∀ part ∈ shape.parts, possible part))
    (texts : schema.Everywhere fun schema => ∀ expression, schema.shape = .raw expression →
      ∀ model, Settles (possible schema) (text model (expression.getD "") schema.decorations))
    (complete : schema.Everywhere IsComplete) (model : String) :
    Settles (possible schema) (buildWith backend text model schema) := by
  induction schema using Schema.induct generalizing model with
  | step shape marks hypothesis =>
    by_cases raw : ∃ expression, shape = .raw expression
    · obtain ⟨expression, rfl⟩ := raw
      exact texts.here expression rfl model
    · have constructed : ∀ text, shape ≠ .raw text := fun text same => raw ⟨text, same⟩
      refine (settles_buildWith_of_parts lacks complete.here constructed ?_).congr
        (step shape marks constructed).symm
      exact fun part member model => hypothesis part member (texts.ofParts part member)
        (complete.ofParts part member) model

/-! ### Expressions given as text -/

/-- Resolving keeps the constructor of a shape. -/
theorem constructor?_resolvedShape {read : Shape Schema}
    (resolved : resolvedShape shape = .ok read) :
    constructor? read = constructor? shape := by
  cases shape with
  | array item =>
    obtain ⟨inner, -, same⟩ := bind_eq_ok.mp resolved
    cases same
    rfl
  | record value =>
    obtain ⟨inner, -, same⟩ := bind_eq_ok.mp resolved
    cases same
    rfl
  | object fields =>
    obtain ⟨inner, -, same⟩ := bind_eq_ok.mp resolved
    cases same
    rfl
  | union variants =>
    obtain ⟨inner, -, same⟩ := bind_eq_ok.mp resolved
    cases same
    rfl
  | _ =>
    cases resolved
    rfl

/-- A shape is a number exactly if it is built by the constructor of numbers. -/
theorem isNumber_iff : shape = .number ↔ constructor? shape = some "number" := by
  cases shape <;> simp [constructor?]

/-- Whether numbers are refined as numbers can be told of the resolved schema. -/
theorem resolvable_refined : IsResolvable IsRefined := by
  intro shape shape' marks resolved
  simp only [IsRefined, isNumber_iff, constructor?_resolvedShape resolved]

/-- Whether no constructor is missing can be told of the resolved schema. -/
theorem resolvable_buildable : IsResolvable (IsBuildable missing) := by
  intro shape shape' marks resolved
  have needs : Needs ⟨shape', marks⟩ = Needs ⟨shape, marks⟩ := by
    funext name
    simp only [Needs, constructor?_resolvedShape resolved]
  constructor
  · rintro ⟨refined, available⟩
    exact ⟨(resolvable_refined resolved).mp refined, needs ▸ available⟩
  · rintro ⟨refined, available⟩
    exact ⟨(resolvable_refined resolved).mpr refined, needs ▸ available⟩

/-- What the text of an expression reads as is complete. -/
theorem complete_of_parse {text : String} {read : Schema} (parsed : Schema.parse text = .ok read) :
    read.Everywhere IsComplete := by
  refine (given_of_parse parsed).mono fun schema given => ⟨?_, ?_⟩
  · intro check member sized
    cases (given.checks check member).1 with
    | flag known => exact absurd known (Expression.not_mem_flagChecks sized)
    | size known number => simp
  · intro empty
    have shape := given.shape
    rw [empty] at shape
    obtain ⟨value, same, -⟩ := shape
    cases same

/-- Building the text of an expression settles whether it is understood, and all that then stands in
it is buildable. -/
theorem settles_buildText (lacks : backend.Lacks missing) {expression : Option String}
    (complete : IsComplete ⟨.raw expression, marks⟩) :
    Settles (ResolvesTo (IsBuildable missing) ⟨.raw expression, marks⟩)
      (buildText backend model (expression.getD "") marks) := by
  have resolves : ResolvesTo (IsBuildable missing) ⟨.raw expression, marks⟩ ↔
      ∃ inner, Schema.parse (expression.getD "") = .ok inner ∧
        Everywhere (IsBuildable missing)
          { inner with decorations := marks.over inner.decorations } :=
    exists_ok_iff
  rw [resolves, buildText, resolve]
  cases parsed : Schema.parse (expression.getD "") with
  | error error =>
    refine .error trivial ?_
    rintro ⟨inner, same, -⟩
    cases same
  | ok inner =>
    have constructed := (given_of_parse parsed).mono fun _ => constructed_of_given
    have parsedComplete := complete_of_parse parsed
    have innerComplete := parsedComplete.here
    have around : Everywhere IsConstructed
        { inner with decorations := marks.over inner.decorations } :=
      constructed.decorated constructed.here
    have built : Settles (Everywhere (IsBuildable missing) _)
        (buildWith backend (fun _ _ _ => .error .nestedText) model _) :=
      settles_buildWith lacks (fun _ _ _ => everywhere_iff)
        (around.mono fun schema constructed expression raw => absurd raw (constructed expression))
        (parsedComplete.decorated ⟨List.forall_mem_append.mpr
          ⟨innerComplete.checks, complete.checks⟩, innerComplete.literal⟩) model
    refine built.congr ⟨fun buildable => ⟨inner, rfl, buildable⟩, ?_⟩
    rintro ⟨inner, same, buildable⟩
    cases same
    exact buildable

/-- A schema is built exactly if the expressions in it that were given as text are understood, and
all schemas are buildable that then stand in it. -/
theorem settles_build {schema : Schema} (lacks : backend.Lacks missing)
    (complete : schema.Everywhere IsComplete) :
    Settles (schema.ResolvesTo (IsBuildable missing)) (schema.build backend model) := by
  refine (settles_buildWith lacks (fun shape marks => resolvesTo_iff resolvable_buildable) ?_
    complete model).map Prod.fst
  refine complete.mono ?_
  rintro ⟨shape, marks⟩ complete expression rfl model
  exact settles_buildText lacks complete

end Schema

end TableSchema
