import TableSchema.Catalog.Default
import TableSchema.Catalog.TypeName
import TableSchema.Column
import TableSchema.Pattern

/-! # From columns to schemas

`Column.schema` maps a column to a schema: its catalog type gives the base, nullability and the
default decorate it. Only a bounded string looks at the length limit, only a JSON column looks at
the override, and the elements of an array look at neither.
-/

namespace TableSchema

/-- Why a column has no schema. -/
inductive MappingError where
  | unknownPattern (error : UnknownPattern)
  /-- The default is an integer that is too long to be read. -/
  | integerTooLong (error : IntegerTooLong)
deriving DecidableEq

/-- The text of the error. -/
def MappingError.message : MappingError → String
  | .unknownPattern error => error.message
  | .integerTooLong error => error.message

/-- Text of at most the given length; a limit that is not positive is none. -/
def limitedString : Option Int → Schema
  | some limit => if 0 < limit then Schema.string.check "max" [.int limit] else .string
  | none => .string

/-- The schema of a type that is neither JSON nor an array. -/
def TypeKind.schema (kind : TypeKind) (maxLength : Option Int) : Schema :=
  match kind with
  | .boundedString => limitedString maxLength
  | .unboundedString => .string
  | .enumerated => .string
  | .integer => .integer
  | .real => .number
  | .boolean => .boolean
  | .date => Schema.string.check "date"
  | .timestamp => Schema.string.check "datetime"
  | .time => Schema.string.check "time"
  | .identifier => Schema.string.check "uuid"
  | .binary => .binary
  | .document => .unknown
  | .array => .unknown
  | .unknown => .unknown

/-- The schema of a named pattern; an empty name is no pattern. -/
def Override.patternSchema (override : Override) : Except UnknownPattern Schema :=
  match override.pattern with
  | none => .ok .unknown
  | some name =>
    if name.isEmpty then .ok .unknown
    else match Pattern.schema? name with
      | some schema => .ok schema
      | none => .error { pattern := name, column := override.column }

/-- The schema of a JSON column: the expression if it is not empty, else the pattern, else any
value. -/
def Override.schema (override : Override) : Except UnknownPattern Schema :=
  match override.expression with
  | some expression => if expression.isEmpty then override.patternSchema else .ok (.raw expression)
  | none => override.patternSchema

/-- The schema of a classified type, before nullability and default. -/
def Classification.schema (classification : Classification) (maxLength : Option Int)
    (override : Option Override) : Except UnknownPattern Schema :=
  match classification.element with
  | some element => .ok (.array (element.kind.schema none))
  | none =>
    match classification.kind, override with
    | .document, some override => override.schema
    | kind, _ => .ok (kind.schema maxLength)

namespace Column

/-- The schema of a type, before nullability and default. -/
def baseSchema (typeName : String) (column : Column) (override : Option Override) :
    Except MappingError Schema :=
  ((Classification.ofText typeName.toList).schema column.maxLength override).mapError
    .unknownPattern

/-- The schema of a column whose type is given apart from it. -/
def schemaOfType (typeName : String) (column : Column) (override : Option Override) :
    Except MappingError Schema := do
  let base ← baseSchema typeName column override
  let schema := if column.nullable then base.asNullable else base
  match ← (ColumnDefault.ofValue column.defaultValue).mapError .integerTooLong with
  | .skipped => return schema
  | .present literal => return schema.withDefault literal

/-- The schema of a column. -/
def schema (column : Column) (override : Option Override) : Except MappingError Schema :=
  schemaOfType column.typeName column override

end Column

end TableSchema
