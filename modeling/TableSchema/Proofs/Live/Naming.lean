import TableSchema.Backend.Description
import TableSchema.Live
import TableSchema.Proofs.ModelName
import TableSchema.Proofs.Schema.Parts

/-! # Models are named after their paths

`Schema.build` hands the name of a model down and makes the names of the models below it out of it.
`Schema.buildAlong` hands down the table and the fields that lead to a schema, and makes a name only
where an object is built. Both call a backend in the same way (`Schema.build_named`).
-/

namespace TableSchema

namespace Schema

variable {σ : Type}

/-- A way to build the text of an expression at the end of a path. -/
abbrev PathBuilder (σ : Type) : Type :=
  List String → String → Decorations → Except BuildError (Built σ)

mutual

/-- Builds a schema at the end of a path, and the text of expressions by the given way. -/
def buildWithAlong (backend : Backend σ) (text : PathBuilder σ) (path : List String) :
    Schema → Except BuildError (Built σ)
  | ⟨shape, marks⟩ => do
    match shape with
    | .raw expression => text path (expression.getD "") marks
    | shape =>
      let live ← buildShapeAlong backend text path marks shape
      if marks.nullable then return (← call (backend.nullable live), marks)
      else return (live, marks)

/-- Builds a shape with its refinements and mode. Only a field leads further along the path. -/
def buildShapeAlong (backend : Backend σ) (text : PathBuilder σ) (path : List String)
    (marks : Decorations) : Shape Schema → Except BuildError σ
  | .string => do
    let bounds ← LengthBounds.ofChecks marks.checks
    call (backend.string (formatOfChecks marks.checks) bounds)
  | .number => do
    call (backend.number (← NumberBounds.ofChecks marks.checks))
  | .boolean => call backend.boolean
  | .unknown => call backend.unknown
  | .binary => call backend.binary
  | .array item => do
    let live ← buildWithAlong backend text path item
    call (backend.array live.1 (← LengthBounds.ofChecks marks.checks))
  | .record value => do
    let live ← buildWithAlong backend text path value
    call (backend.record live.1)
  | .object fields => do
    let members ← buildFieldsAlong backend text path fields
    call (backend.object (modelName path) members marks.mode)
  | .enum options => call (backend.enum options)
  | .union variants => do
    call (backend.union (← buildVariantsAlong backend text path variants))
  | .literal (value :: _) => call (backend.literal value)
  | .literal [] => throw .missingArgument
  | .raw _ => throw .nestedText

/-- Builds the fields of an object, each at the end of the path that it adds its name to. -/
def buildFieldsAlong (backend : Backend σ) (text : PathBuilder σ) (path : List String) :
    List (String × Schema) → Except BuildError (List (Member σ))
  | [] => .ok []
  | (name, schema) :: fields => do
    let built ← buildWithAlong backend text (path ++ [name]) schema
    return memberOf name built :: (← buildFieldsAlong backend text path fields)

/-- Builds the variants of a union. -/
def buildVariantsAlong (backend : Backend σ) (text : PathBuilder σ) (path : List String) :
    List Schema → Except BuildError (List σ)
  | [] => .ok []
  | schema :: variants => do
    let built ← buildWithAlong backend text path schema
    return built.1 :: (← buildVariantsAlong backend text path variants)

end

/-- Builds the text of an expression at the end of a path. -/
def buildTextAlong (backend : Backend σ) : PathBuilder σ := fun path expression marks => do
  let schema ← (resolve expression marks).mapError .expression
  buildWithAlong backend (fun _ _ _ => .error .nestedText) path schema

/-- Builds a schema at the end of a path. -/
def buildAlong (schema : Schema) (backend : Backend σ) (path : List String) :
    Except BuildError σ :=
  Prod.fst <$> buildWithAlong backend (buildTextAlong backend) path schema

/-! ### Both ways come to the same -/

variable {backend : Backend σ} {text : TextBuilder σ} {text' : PathBuilder σ} {path : List String}

/-- Whether a schema is built in a model as at the end of the path that names it. -/
def IsNamedAlong (backend : Backend σ) (text : TextBuilder σ) (text' : PathBuilder σ)
    (schema : Schema) : Prop :=
  ∀ path, HasWord path →
    buildWith backend text (modelName path) schema = buildWithAlong backend text' path schema

/-- A field adds its name to the path, and the model below it is named after both. -/
theorem buildFields_modelName {fields : List (String × Schema)}
    (parts : ∀ schema ∈ fields.map Prod.snd, schema.IsNamedAlong backend text text')
    (word : HasWord path) :
    buildFields backend text (modelName path) fields =
      buildFieldsAlong backend text' path fields := by
  induction fields with
  | nil => rfl
  | cons field fields hypothesis =>
    obtain ⟨name, schema⟩ := field
    obtain ⟨first, others⟩ := List.forall_mem_cons.mp parts
    rw [buildFields, buildFieldsAlong, modelName_modelName word, first _ (word.append [name]),
      hypothesis others]

theorem buildVariants_modelName {variants : List Schema}
    (parts : ∀ schema ∈ variants, schema.IsNamedAlong backend text text')
    (word : HasWord path) :
    buildVariants backend text (modelName path) variants =
      buildVariantsAlong backend text' path variants := by
  induction variants with
  | nil => rfl
  | cons schema variants hypothesis =>
    obtain ⟨first, others⟩ := List.forall_mem_cons.mp parts
    rw [buildVariants, buildVariantsAlong, first path word, hypothesis others]

/-- A model is named after its path if the models in the text of expressions are. -/
theorem isNamedAlong (texts : ∀ path expression marks, HasWord path →
    text (modelName path) expression marks = text' path expression marks) (schema : Schema) :
    schema.IsNamedAlong backend text text' := by
  induction schema using Schema.induct with
  | step shape marks parts =>
    intro path word
    cases shape with
    | raw expression => exact texts path _ marks word
    | array item =>
      simp only [buildWith, buildShape, buildWithAlong, buildShapeAlong,
        parts item (List.mem_singleton_self item) path word]
    | record value =>
      simp only [buildWith, buildShape, buildWithAlong, buildShapeAlong,
        parts value (List.mem_singleton_self value) path word]
    | object fields =>
      simp only [buildWith, buildShape, buildWithAlong, buildShapeAlong,
        buildFields_modelName parts word]
    | union variants =>
      simp only [buildWith, buildShape, buildWithAlong, buildShapeAlong,
        @buildVariants_modelName _ _ _ _ _ variants parts word]
    | literal values => cases values <;> rfl
    | _ => rfl

/-- The text of an expression is read before any model is named. -/
theorem buildText_modelName (expression : String) (marks : Decorations) (word : HasWord path) :
    buildText backend (modelName path) expression marks =
      buildTextAlong backend path expression marks := by
  unfold buildText buildTextAlong
  cases (resolve expression marks).mapError BuildError.expression with
  | error error => rfl
  | ok schema => exact isNamedAlong (fun _ _ _ _ => rfl) schema path word

/-- Every object is built in the model named after the table and the fields that lead to it, since a
name may stand for the path that it was made of; and names are well formed. -/
theorem build_named :
    (∀ (σ : Type) (backend : Backend σ) (schema : Schema) (table : String),
      (∃ c ∈ table.toList, isNameChar c = true) →
      schema.build backend (modelName [table]) = schema.buildAlong backend [table]) ∧
    (∀ parts parts', HasWord parts →
      modelName (modelName parts :: parts') = modelName (parts ++ parts')) ∧
    ∀ parts, IsModelName (modelName parts) := by
  refine ⟨fun σ backend schema table char => ?_, fun parts parts' word =>
    modelName_modelName word parts', isModelName_modelName⟩
  have word : HasWord [table] := ⟨table, List.mem_singleton_self table, char⟩
  have texts : ∀ path expression marks, HasWord path →
      buildText backend (modelName path) expression marks =
        buildTextAlong backend path expression marks :=
    fun _ expression marks => buildText_modelName expression marks
  rw [build, buildAlong, isNamedAlong texts schema [table] word]

/-- The objects in a list keep to the path of the field that holds the list. -/
theorem build_named_list :
    (⟨.object [("back up", ⟨.array ⟨.object [], {}⟩, {}⟩)], {}⟩ : Schema).build
        Description.backend (modelName ["2fa-codes"]) =
      .ok (.object "_2faCodes" [{
        name := "back up"
        schema := .array (.object "_2faCodesBackUp" [] none) {}
        required := true }] none) ∧
    modelName [modelName ["2fa-codes"], "back up"] = "_2faCodesBackUp" := by
  obtain ⟨along, flat, -⟩ := build_named
  have char : ∃ c ∈ "2fa-codes".toList, isNameChar c = true := ⟨'2', by decide, by decide⟩
  constructor
  · rw [along _ _ _ _ char]
    rfl
  · rw [flat ["2fa-codes"] ["back up"] ⟨_, .head _, char⟩]
    decide +kernel

end Schema

end TableSchema
