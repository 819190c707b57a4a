import TableSchema.Schema

/-! # Backends for live schemas

A backend makes live values out of schemas: it has one constructor for each shape, and one for
nullable schemas. Constructors get the bounds that the refinements of a schema come to. Any of them
may fail; `Backend.failing` makes chosen ones fail.
-/

namespace TableSchema

/-- The formats that a text may be asked to have. -/
inductive StringFormat where
  | parsed (format : TextFormat)
  | email
deriving DecidableEq

/-- The refinement that asks for a format. -/
def StringFormat.name : StringFormat → String
  | .parsed .date => "date"
  | .parsed .datetime => "datetime"
  | .parsed .time => "time"
  | .parsed .uuid => "uuid"
  | .parsed .url => "url"
  | .email => "email"

/-- All formats. -/
def StringFormat.list : List StringFormat :=
  [.parsed .date, .parsed .datetime, .parsed .time, .parsed .uuid, .parsed .url, .email]

/-- The format that a refinement asks for. -/
def StringFormat.ofName? (name : String) : Option StringFormat :=
  StringFormat.list.find? fun format => format.name == name

/-- Bounds on a length, as the refinements give them. -/
structure LengthBounds where
  min : Option Value := none
  max : Option Value := none
deriving DecidableEq

/-- Bounds on a number, as the refinements give them. -/
structure NumberBounds where
  integer : Bool := false
  greater : Option Value := none
  atLeast : Option Value := none
  less : Option Value := none
  atMost : Option Value := none
deriving DecidableEq

/-- A field of an object that is being built. -/
structure Member (σ : Type) where
  name : String
  schema : σ
  required : Bool
  /-- The value of a field that is left out; null where no default was given. -/
  default : Value := .null

/-- How a constructor of a backend fails. -/
inductive BackendError where
  /-- The backend has no such constructor. -/
  | unimplemented (constructor : String)
  /-- A failure that callers of the generator know by name; it reaches them unchanged. -/
  | passedOn (kind message : String)
  /-- Any other failure. -/
  | failed (kind message : String)
deriving DecidableEq

/-- The text of the error. -/
def BackendError.message : BackendError → String
  | .unimplemented constructor => constructor
  | .passedOn _ message => message
  | .failed _ message => message

/-- The constructors of live schemas. -/
structure Backend (σ : Type) where
  string : Option StringFormat → LengthBounds → Except BackendError σ
  number : NumberBounds → Except BackendError σ
  boolean : Except BackendError σ
  unknown : Except BackendError σ
  binary : Except BackendError σ
  array : σ → LengthBounds → Except BackendError σ
  record : σ → Except BackendError σ
  enum : List Value → Except BackendError σ
  literal : Value → Except BackendError σ
  union : List σ → Except BackendError σ
  nullable : σ → Except BackendError σ
  object : String → List (Member σ) → Option ObjectMode → Except BackendError σ

namespace Backend

variable {σ : Type}

/-- Fails if an error is given, and otherwise goes on. -/
def guarded (error : Option BackendError) (result : Except BackendError σ) :
    Except BackendError σ :=
  match error with
  | some error => .error error
  | none => result

/-- The backend in which the constructors with an error fail. -/
def failing (backend : Backend σ) (error : String → Option BackendError) : Backend σ where
  string format bounds := guarded (error "string") (backend.string format bounds)
  number bounds := guarded (error "number") (backend.number bounds)
  boolean := guarded (error "boolean") backend.boolean
  unknown := guarded (error "unknown") backend.unknown
  binary := guarded (error "binary") backend.binary
  array item bounds := guarded (error "array") (backend.array item bounds)
  record value := guarded (error "record") (backend.record value)
  enum options := guarded (error "enum") (backend.enum options)
  literal value := guarded (error "literal") (backend.literal value)
  union variants := guarded (error "union") (backend.union variants)
  nullable schema := guarded (error "nullable") (backend.nullable schema)
  object name fields mode := guarded (error "object") (backend.object name fields mode)

/-- The backend that lacks the given constructors. -/
def without (backend : Backend σ) (constructors : List String) : Backend σ :=
  backend.failing fun name =>
    if constructors.contains name then some (.unimplemented name) else none

end Backend

end TableSchema
