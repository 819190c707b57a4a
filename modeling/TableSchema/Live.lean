import TableSchema.Assembly
import TableSchema.Backend
import TableSchema.Expression
import TableSchema.ModelName

/-! # Building live schemas

`Schema.build` walks a schema and calls the constructors of a backend, innermost first. An
expression that a caller supplied as text is read, never evaluated, and the decorations around it
are merged with its own (`Schema.resolve`); the schema that was read holds no further text. Models
are named after the fields that lead to them.
-/

namespace TableSchema

/-- Why a schema cannot be built. -/
inductive BuildError where
  /-- The text of an expression is not understood. -/
  | expression (error : ParseError)
  /-- A refinement is called on a number that does not apply to numbers. -/
  | notOnNumbers (check : String)
  /-- A refinement or a literal lacks its argument. -/
  | missingArgument
  /-- An expression that was read holds an expression as text. -/
  | nestedText
  /-- A constructor of the backend fails. -/
  | backend (error : BackendError)
deriving DecidableEq

/-- The text of the error. -/
def BuildError.message : BuildError → String
  | .expression error => error.message
  | .notOnNumbers check => "." ++ check ++ "() is not a number refinement"
  | .missingArgument => "tuple index out of range"
  | .nestedText => "Cannot build schema node of kind 'raw'"
  | .backend error => error.message

/-- The decorations of a read expression together with those around its text: refinements follow
one another, and around the text wins over within it. -/
def Decorations.over (outer inner : Decorations) : Decorations where
  checks := inner.checks ++ outer.checks
  mode := outer.mode.or inner.mode
  optional := inner.optional || outer.optional
  nullable := inner.nullable || outer.nullable
  default := outer.default.or inner.default

/-- The schema that the text of an expression stands for, with the decorations around it. -/
def Schema.resolve (text : String) (marks : Decorations) : Except ParseError Schema := do
  let schema ← Schema.parse text
  return { schema with decorations := marks.over schema.decorations }

/-- The first argument of a refinement. -/
def Check.argument (check : Check) : Except BuildError Value :=
  match check.args with
  | value :: _ => .ok value
  | [] => .error .missingArgument

/-- Length bounds with one more refinement; those that set no length change nothing. -/
def LengthBounds.refine (bounds : LengthBounds) (check : Check) :
    Except BuildError LengthBounds := do
  if check.name = "min" then return { bounds with min := some (← check.argument) }
  else if check.name = "max" then return { bounds with max := some (← check.argument) }
  else if check.name = "length" then
    let size ← check.argument
    return { min := some size, max := some size }
  else return bounds

/-- The length bounds that refinements come to; the last one on a side counts. -/
def LengthBounds.ofChecks (checks : List Check) : Except BuildError LengthBounds :=
  checks.foldlM LengthBounds.refine {}

/-- Number bounds with one more refinement. -/
def NumberBounds.refine (bounds : NumberBounds) (check : Check) :
    Except BuildError NumberBounds := do
  if check.name = "int" then return { bounds with integer := true }
  else if check.name = "positive" then return { bounds with greater := some (.int 0) }
  else if check.name = "nonnegative" then return { bounds with atLeast := some (.int 0) }
  else if check.name = "negative" then return { bounds with less := some (.int 0) }
  else if check.name = "nonpositive" then return { bounds with atMost := some (.int 0) }
  else if check.name = "min" then return { bounds with atLeast := some (← check.argument) }
  else if check.name = "max" then return { bounds with atMost := some (← check.argument) }
  else throw (.notOnNumbers check.name)

/-- The number bounds that refinements come to; the last one on a side counts. -/
def NumberBounds.ofChecks (checks : List Check) : Except BuildError NumberBounds :=
  checks.foldlM NumberBounds.refine {}

/-- The format that refinements ask for; the first one counts. -/
def formatOfChecks (checks : List Check) : Option StringFormat :=
  checks.findSome? fun check => StringFormat.ofName? check.name

namespace Schema

variable {σ : Type}

/-- What a schema is built to: a live value, and the decorations that say how a field holds it. -/
abbrev Built (σ : Type) : Type := σ × Decorations

/-- A way to build the text of an expression in a model of the given name. -/
abbrev TextBuilder (σ : Type) : Type :=
  String → String → Decorations → Except BuildError (Built σ)

/-- A call of a constructor of the backend. -/
def call {α : Type} (result : Except BackendError α) : Except BuildError α :=
  result.mapError .backend

/-- The field that a built schema makes. A default makes a field optional. -/
def memberOf (name : String) (built : Built σ) : Member σ :=
  match built.2.default with
  | some literal => { name, schema := built.1, required := false, default := literal.value }
  | none => { name, schema := built.1, required := !built.2.optional }

mutual

/-- Builds a schema, and the text of expressions by the given way. -/
def buildWith (backend : Backend σ) (text : TextBuilder σ) (model : String) :
    Schema → Except BuildError (Built σ)
  | ⟨shape, marks⟩ => do
    match shape with
    | .raw expression => text model (expression.getD "") marks
    | shape =>
      let live ← buildShape backend text model marks shape
      if marks.nullable then return (← call (backend.nullable live), marks)
      else return (live, marks)

/-- Builds a shape with its refinements and mode. -/
def buildShape (backend : Backend σ) (text : TextBuilder σ) (model : String)
    (marks : Decorations) : Shape Schema → Except BuildError σ
  | .string => do
    let bounds ← LengthBounds.ofChecks marks.checks
    call (backend.string (formatOfChecks marks.checks) bounds)
  | .number => do
    call (backend.number (← NumberBounds.ofChecks marks.checks))
  | .boolean => call backend.boolean
  | .unknown => call backend.unknown
  | .binary => call backend.binary
  | .array item => do
    let live ← buildWith backend text model item
    call (backend.array live.1 (← LengthBounds.ofChecks marks.checks))
  | .record value => do
    let live ← buildWith backend text model value
    call (backend.record live.1)
  | .object fields => do
    let members ← buildFields backend text model fields
    call (backend.object model members marks.mode)
  | .enum options => call (backend.enum options)
  | .union variants => do
    call (backend.union (← buildVariants backend text model variants))
  | .literal (value :: _) => call (backend.literal value)
  | .literal [] => throw .missingArgument
  | .raw _ => throw .nestedText

/-- Builds the fields of an object. -/
def buildFields (backend : Backend σ) (text : TextBuilder σ) (model : String) :
    List (String × Schema) → Except BuildError (List (Member σ))
  | [] => .ok []
  | (name, schema) :: fields => do
    let built ← buildWith backend text (modelName [model, name]) schema
    return memberOf name built :: (← buildFields backend text model fields)

/-- Builds the variants of a union. -/
def buildVariants (backend : Backend σ) (text : TextBuilder σ) (model : String) :
    List Schema → Except BuildError (List σ)
  | [] => .ok []
  | schema :: variants => do
    let built ← buildWith backend text model schema
    return built.1 :: (← buildVariants backend text model variants)

end

/-- Builds the text of an expression; what was read holds no further text. -/
def buildText (backend : Backend σ) : TextBuilder σ := fun model expression marks => do
  let schema ← (resolve expression marks).mapError .expression
  buildWith backend (fun _ _ _ => .error .nestedText) model schema

/-- Builds a schema in a model of the given name. -/
def build (schema : Schema) (backend : Backend σ) (model : String) : Except BuildError σ :=
  Prod.fst <$> buildWith backend (buildText backend) model schema

end Schema

/-- Why a table has no live schema. -/
inductive LiveError where
  /-- No backend with an object constructor was given. -/
  | noBackend
  | assembly (error : AssemblyError)
  /-- The backend fails in a way that callers know by name. -/
  | passedOn (kind message : String)
  /-- The schema of the table cannot be built. -/
  | build (table : String) (error : BuildError)
deriving DecidableEq

/-- The text of the error. -/
def LiveError.message : LiveError → String
  | .noBackend => "A schema runtime exposing an object() constructor must be provided"
  | .assembly error => error.message
  | .passedOn _ message => message
  | .build table error =>
    "Failed to build schema object for table \"" ++ table ++ "\": " ++ error.message

/-- The error that a table reports for an error of building it. -/
def LiveError.ofBuild (table : String) : BuildError → LiveError
  | .backend (.passedOn kind message) => .passedOn kind message
  | error => .build table error

/-- The live schema of a table, on a backend if there is one. -/
def liveSchema {σ : Type} (source : ColumnSource) (table : String) (backend : Option (Backend σ))
    (options : TableOptions := {}) : Except LiveError σ :=
  match backend with
  | none => .error .noBackend
  | some backend => do
    let schema ← (assemble source table options).mapError .assembly
    (schema.build backend (modelName [table])).mapError (.ofBuild table)

end TableSchema
