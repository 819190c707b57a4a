import TableSchema.Assembly
import TableSchema.Intake
import TableSchema.Settings

/-! # Reflecting a database

The catalog of a database describes the columns of its tables and the labels of its enumerations.
`Database.source` makes a source of columns of it. A table that is not there has no columns, and a
type that has no text in the dialect goes by its class; every other failure is passed on. The labels
of an enumeration are looked up as well as can be, and a lookup that fails finds none.
-/

namespace TableSchema.Reflection

/-- Where a failure comes from. -/
inductive FailureOrigin where
  /-- The table is not in the database. -/
  | missingTable
  /-- The database refuses. -/
  | database
  /-- The catalog does not offer what it is asked for. -/
  | unavailable
  /-- A value is not what it should be. -/
  | badValue
deriving DecidableEq

/-- A failure of a database. -/
structure Failure where
  origin : FailureOrigin
  /-- The name of its kind. -/
  kind : String
  message : String
deriving DecidableEq

/-- Whether it is the database that refuses. -/
def Failure.isOfDatabase (failure : Failure) : Bool :=
  failure.origin == .missingTable || failure.origin == .database

/-- The failure as a reason for which there are no columns. -/
def Failure.toFetchError (failure : Failure) : FetchError :=
  .database failure.kind failure.message

/-- The type of a column in a database. -/
structure ColumnType where
  /-- The name of its class. -/
  className : String
  /-- Its text in the dialect of the database. -/
  compiled : Except Failure String
  /-- Its length, if it has one. -/
  length : Value := .null

/-- The text of a type; its class where the database has no text for it. -/
def ColumnType.text (type : ColumnType) : Except FetchError String :=
  match type.compiled with
  | .ok text => .ok text
  | .error failure =>
    if failure.isOfDatabase then .ok type.className else .error failure.toFetchError

/-- The length limit of a type; a length that is no integer is none. -/
def ColumnType.limit (type : ColumnType) : Option Int :=
  match type.length with
  | .int n => some n
  | .bool truth => some (if truth then 1 else 0)
  | _ => none

/-- A column in a database. -/
structure CatalogColumn where
  name : String
  type : ColumnType
  /-- A value that is true if the column may be null. Nothing known counts as not. -/
  nullable : Value := .null
  default : Value := .null

/-- The named description of a column. -/
def CatalogColumn.describe (column : CatalogColumn) : Except FetchError (String × Column) := do
  let typeName ← column.type.text
  let default ← ((Intake.optional Intake.scalar column.default).under "default_value").toExcept
    |>.mapError .invalidColumn
  return (column.name,
    { typeName := typeName
      nullable := column.nullable.isTruthy
      maxLength := column.type.limit
      default := default })

/-- An enumeration in a database. -/
structure Enumeration where
  name : Option String
  labels : List String := []
deriving DecidableEq

/-- A question to a database. -/
inductive Lookup where
  /-- What are the columns of a table in a schema of the database? -/
  | columns (table : String) (schema : Option String)
  /-- What are the enumerations of a schema of the database? -/
  | enumerations (schema : String)
deriving DecidableEq

/-- A database, as far as its catalog can be asked about it. -/
structure Database where
  /-- The name of the database engine. -/
  dialect : String
  columns : (table : String) → (schema : Option String) → Except Failure (List CatalogColumn)
  enumerations : (schema : String) → Except Failure (List Enumeration)

namespace Database

/-- Whether the database is one that knows schemas and enumerations. -/
def isPostgres (database : Database) : Bool :=
  database.dialect == "postgresql"

/-- The schema of the database that is looked into: the named one, also if its name is empty, else
the one of the settings. -/
def schema (database : Database) (settings : Settings) (named : Option String) : Option String :=
  named.or (if database.isPostgres then some settings.defaultSchema else none)

/-- The columns of a table, by their names. -/
def fetch (database : Database) (schema : Option String) (table : String) :
    Except FetchError (Entries Column) :=
  match database.columns table schema with
  | .ok columns => Entries.ofList <$> columns.mapM CatalogColumn.describe
  | .error failure =>
    if failure.origin = .missingTable then .ok [] else .error failure.toFetchError

/-- The source of the columns in a schema of the database. -/
def source (database : Database) (schema : Option String) : ColumnSource where
  dialect := database.dialect
  columns := database.fetch schema

/-- The lookups by which columns are fetched. -/
def fetchLookups (schema : Option String) (table : String) : List Lookup :=
  [.columns table schema]

/-- The lookups by which the schema of a table is assembled. -/
def assemblyLookups (database : Database) (schema : Option String) (table : String) : List Lookup :=
  if (database.source schema).isSupported then fetchLookups schema table else []

/-- The schema of the database in which an enumeration is looked up: the named one unless its name
is empty, else the one of the settings. -/
def enumerationSchema (settings : Settings) (named : Option String) : String :=
  match named with
  | some name => if name.isEmpty then settings.defaultSchema else name
  | none => settings.defaultSchema

/-- The labels of the first enumeration of a name. -/
def labels (database : Database) (schema : String) (name : Option String) :
    Except Failure (List String) :=
  if !database.isPostgres then .ok []
  else match database.enumerations schema with
    | .ok enumerations =>
      let found := enumerations.find? fun enumeration => enumeration.name == name
      .ok ((found.map (·.labels)).getD [])
    | .error failure => if failure.origin = .badValue then .error failure else .ok []

/-- The lookups by which labels are found. -/
def labelLookups (database : Database) (schema : String) : List Lookup :=
  if database.isPostgres then [.enumerations schema] else []

end Database

end TableSchema.Reflection
