import TableSchema.Proofs.Live.Building

/-! # Failures of constructors

Building a schema calls the constructors of a backend, and fails with the failure of a constructor
only where a constructor of the backend fails so (`Backend.Explains.build`).
-/

namespace TableSchema

open Schema

variable {σ α β : Type} {backend : Backend σ}

/-- Whether some constructor of a backend fails with an error. -/
inductive Backend.Fails (backend : Backend σ) (error : BackendError) : Prop
  | string {format : Option StringFormat} {bounds : LengthBounds}
    (failed : backend.string format bounds = .error error)
  | number {bounds : NumberBounds} (failed : backend.number bounds = .error error)
  | boolean (failed : backend.boolean = .error error)
  | unknown (failed : backend.unknown = .error error)
  | binary (failed : backend.binary = .error error)
  | array {item : σ} {bounds : LengthBounds} (failed : backend.array item bounds = .error error)
  | record {value : σ} (failed : backend.record value = .error error)
  | enum {options : List Value} (failed : backend.enum options = .error error)
  | literal {value : Value} (failed : backend.literal value = .error error)
  | union {variants : List σ} (failed : backend.union variants = .error error)
  | nullable {live : σ} (failed : backend.nullable live = .error error)
  | object {name : String} {members : List (Member σ)} {mode : Option ObjectMode}
    (failed : backend.object name members mode = .error error)

/-- Whether a backend explains a result: where it is the failure of a constructor, a constructor of
the backend fails so. -/
def Backend.Explains (backend : Backend σ) (result : Except BuildError α) : Prop :=
  ∀ error, result = .error (.backend error) → backend.Fails error

namespace Backend.Explains

variable {result : Except BuildError α}

theorem ok (value : α) : backend.Explains (.ok value : Except BuildError α) :=
  nofun

/-- Steps in a row are explained if each of them is. -/
theorem bind (first : backend.Explains result) {following : α → Except BuildError β}
    (next : ∀ value, backend.Explains (following value)) :
    backend.Explains (result >>= following) := by
  intro error failed
  cases result with
  | error cause =>
    cases failed
    exact first error rfl
  | ok value => exact next value error failed

/-- The failure of a constructor explains itself. -/
theorem call {result : Except BackendError α}
    (fails : ∀ error, result = .error error → backend.Fails error) :
    backend.Explains (Schema.call result) := by
  intro error failed
  cases result with
  | error failure =>
    cases failed
    exact fails error rfl
  | ok value => cases failed

/-- A fold over refinements is explained if each step is. -/
theorem foldlM {step : β → Check → Except BuildError β}
    (each : ∀ bounds check, backend.Explains (step bounds check)) (checks : List Check)
    (bounds : β) : backend.Explains (checks.foldlM step bounds) := by
  induction checks generalizing bounds with
  | nil => exact ok bounds
  | cons check checks hypothesis =>
    rw [List.foldlM_cons]
    exact (each bounds check).bind hypothesis

theorem argument (check : Check) : backend.Explains check.argument := by
  obtain ⟨name, args⟩ := check
  cases args <;> nofun

/-- That bounds of a length cannot be made is no failure of a constructor. -/
theorem lengthBounds (checks : List Check) : backend.Explains (LengthBounds.ofChecks checks) := by
  refine foldlM (fun bounds check => ?_) checks _
  have next (refined : Value → LengthBounds) :
      backend.Explains (check.argument >>= fun value => .ok (refined value)) :=
    (argument check).bind fun value => ok _
  unfold LengthBounds.refine
  iterate 3 (split; exact next _)
  exact ok _

/-- That bounds of a number cannot be made is no failure of a constructor. -/
theorem numberBounds (checks : List Check) : backend.Explains (NumberBounds.ofChecks checks) := by
  refine foldlM (fun bounds check => ?_) checks _
  have next (refined : Value → NumberBounds) :
      backend.Explains (check.argument >>= fun value => .ok (refined value)) :=
    (argument check).bind fun value => ok _
  unfold NumberBounds.refine
  iterate 5 (split; exact ok _)
  iterate 2 (split; exact next _)
  nofun

variable {text : TextBuilder σ}

/-- What happens to fields is explained by what happens to their schemas. -/
theorem buildFields {fields : List (String × Schema)}
    (parts : ∀ schema ∈ fields.map Prod.snd, ∀ model,
      backend.Explains (buildWith backend text model schema)) (model : String) :
    backend.Explains (Schema.buildFields backend text model fields) := by
  induction fields with
  | nil => exact ok []
  | cons field fields hypothesis =>
    obtain ⟨name, schema⟩ := field
    obtain ⟨first, others⟩ := List.forall_mem_cons.mp parts
    exact (first _).bind fun built => (hypothesis others).bind fun members => ok _

/-- What happens to variants is explained by what happens to each of them. -/
theorem buildVariants {variants : List Schema}
    (parts : ∀ schema ∈ variants, ∀ model,
      backend.Explains (buildWith backend text model schema)) (model : String) :
    backend.Explains (Schema.buildVariants backend text model variants) := by
  induction variants with
  | nil => exact ok []
  | cons schema variants hypothesis =>
    obtain ⟨first, others⟩ := List.forall_mem_cons.mp parts
    exact (first _).bind fun built => (hypothesis others).bind fun variants => ok _

/-- What happens to a shape is explained by what happens to its parts and by its constructor. -/
theorem buildShape {shape : Shape Schema}
    (parts : ∀ part ∈ shape.parts, ∀ model,
      backend.Explains (buildWith backend text model part)) (model : String)
    (marks : Decorations) :
    backend.Explains (Schema.buildShape backend text model marks shape) := by
  cases shape with
  | string => exact (lengthBounds _).bind fun bounds => call fun _ => .string
  | number => exact (numberBounds _).bind fun bounds => call fun _ => .number
  | boolean => exact call fun _ => .boolean
  | unknown => exact call fun _ => .unknown
  | binary => exact call fun _ => .binary
  | array item =>
    exact (parts item (List.mem_singleton_self item) model).bind fun live =>
      (lengthBounds _).bind fun bounds => call fun _ => .array
  | record value =>
    exact (parts value (List.mem_singleton_self value) model).bind fun live => call fun _ => .record
  | object fields => exact (buildFields parts model).bind fun members => call fun _ => .object
  | enum options => exact call fun _ => .enum
  | union variants =>
    exact (buildVariants parts model).bind fun variants => call fun _ => .union
  | literal values =>
    cases values with
    | nil => nofun
    | cons value values => exact call fun _ => .literal
  | raw text => nofun

/-- A backend explains what a schema is built to, if it explains what the text of an expression is
built to. -/
theorem buildWith (texts : ∀ model expression marks,
      backend.Explains (text model expression marks)) (schema : Schema) (model : String) :
    backend.Explains (Schema.buildWith backend text model schema) := by
  induction schema using Schema.induct generalizing model with
  | step shape marks hypothesis =>
    -- The text of an expression is built by the given way, and any other shape of its parts.
    by_cases raw : ∃ expression, shape = .raw expression
    · obtain ⟨expression, rfl⟩ := raw
      exact texts model (expression.getD "") marks
    · rw [buildWith_of_shape fun expression same => raw ⟨expression, same⟩]
      refine (buildShape hypothesis model marks).bind fun live => ?_
      split
      · exact (call fun _ => .nullable).bind fun live => ok _
      · exact ok _

/-- A backend explains what any schema is built to. -/
theorem build (schema : Schema) (model : String) :
    backend.Explains (schema.build backend model) := by
  have texts (model expression : String) (marks : Decorations) :
      backend.Explains (buildText backend model expression marks) := by
    have reading : backend.Explains ((resolve expression marks).mapError .expression) := by
      intro error failed
      cases read : resolve expression marks <;> rw [read] at failed <;> cases failed
    exact reading.bind fun schema =>
      buildWith (fun _ _ _ _ failed => by cases failed) schema model
  exact (buildWith texts schema model).bind fun built => ok _

end Backend.Explains

end TableSchema
