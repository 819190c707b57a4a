import TableSchema.Issue
import TableSchema.Mapping
import TableSchema.Schema.Printer

/-! # From tables to schemas

A source of columns names its database dialect and gives the columns of a table. `assemble` makes an
object schema of the selected columns, in the order of the source. The checks come in a fixed order:
the dialect before anything is fetched, then the columns, then each selected column in turn.
-/

namespace TableSchema

/-- Why a source cannot give columns. -/
inductive FetchError where
  /-- The source does not know how. -/
  | unimplemented
  /-- The database fails, by the kind of failure and its message. -/
  | database (kind message : String)
  /-- A column of the database cannot be described. -/
  | invalidColumn (issues : List Issue)
deriving DecidableEq

/-- The text of the error. -/
def FetchError.message : FetchError → String
  | .unimplemented => ""
  | .database _ message => message
  | .invalidColumn _ => ""

/-- Something that knows the columns of tables. -/
structure ColumnSource where
  /-- The name of the database engine. -/
  dialect : String
  /-- The columns of a table, in order; none for a table that does not exist. -/
  columns : String → Except FetchError (Entries Column)

namespace ColumnSource

/-- The source that knows the given tables. -/
def ofTables (tables : Entries (Entries Column)) (dialect : String := "postgresql") :
    ColumnSource where
  dialect := dialect
  columns table := .ok ((tables.find? table).getD [])

/-- The source that knows no way to fetch columns. -/
def unimplemented : ColumnSource where
  dialect := "postgresql"
  columns _ := .error .unimplemented

end ColumnSource

/-- The dialects that are understood. -/
def supportedDialects : List String :=
  ["postgresql"]

/-- Why a table has no schema. -/
inductive AssemblyError where
  | unsupportedDialect (dialect : String)
  | tableNotFound (table : String)
  | fetch (error : FetchError)
  | mapping (error : MappingError)
deriving DecidableEq

/-- The text of the error. -/
def AssemblyError.message : AssemblyError → String
  | .unsupportedDialect dialect =>
    "Schema generation currently only supports PostgreSQL (got '" ++ dialect ++ "')"
  | .tableNotFound table => "Table \"" ++ table ++ "\" not found or has no columns"
  | .fetch error => error.message
  | .mapping error => error.message

/-- The schemas of the selected columns, in order. -/
def selectedFields (options : TableOptions) :
    Entries Column → Except MappingError (Entries Schema)
  | [] => .ok []
  | (name, column) :: columns =>
    if options.selects name then do
      let schema ← column.schema (some (options.overrideFor name))
      return (name, schema) :: (← selectedFields options columns)
    else selectedFields options columns

/-- The treatment of unknown keys that options ask for. -/
def TableOptions.mode (options : TableOptions) : ObjectMode :=
  if options.strict then .strict else .passthrough

/-- Whether the dialect of a source is understood. A source is asked for columns only if it is. -/
def ColumnSource.isSupported (source : ColumnSource) : Bool :=
  supportedDialects.contains source.dialect

/-- The columns of a table, of which there must be one. -/
def ColumnSource.fetch (source : ColumnSource) (table : String) :
    Except AssemblyError (Entries Column) := do
  if !source.isSupported then
    throw (.unsupportedDialect source.dialect)
  let columns ← (source.columns table).mapError .fetch
  if columns.isEmpty then throw (.tableNotFound table)
  return columns

/-- The object schema of a table. -/
def assemble (source : ColumnSource) (table : String) (options : TableOptions := {}) :
    Except AssemblyError Schema := do
  let columns ← source.fetch table
  let fields ← (selectedFields options columns).mapError .mapping
  return .object fields (some options.mode)

/-- Why a table has no text. -/
inductive TextError where
  | assembly (error : AssemblyError)
  | write (error : WriteError)
deriving DecidableEq

/-- The text of the error. -/
def TextError.message : TextError → String
  | .assembly error => error.message
  | .write error => error.message

/-- The text of the schema of a table, one column on a line. -/
def schemaText (source : ColumnSource) (table : String) (options : TableOptions := {}) :
    Except TextError String := do
  let schema ← (assemble source table options).mapError .assembly
  schema.renderBlock.mapError .write

end TableSchema
