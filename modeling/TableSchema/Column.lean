import TableSchema.Entries
import TableSchema.Value

/-! # Columns and options

A column is described by its catalog type, its nullability, a length limit and a default. Options
choose columns of a table and say how its JSON columns are described. `TableOptions.select` keeps
the order of the names it is given: the list of wanted names filters them, then the list of unwanted
names does.
-/

namespace TableSchema

/-- A default as a catalog reports it: one value without parts. -/
inductive Scalar where
  | bool (truth : Bool)
  | int (n : Int)
  | float (x : Binary64)
  | str (text : String)
deriving DecidableEq

/-- A scalar as a value. -/
def Scalar.toValue : Scalar → Value
  | .bool truth => .bool truth
  | .int n => .int n
  | .float x => .float x
  | .str text => .str text

/-- The scalar that a value is, if it is one. -/
def Value.toScalar? : Value → Option Scalar
  | .bool truth => some (.bool truth)
  | .int n => some (.int n)
  | .float x => some (.float x)
  | .str text => some (.str text)
  | _ => none

/-- A column of a table. -/
structure Column where
  /-- The type, as the catalog spells it. -/
  typeName : String
  nullable : Bool := false
  maxLength : Option Int := none
  default : Option Scalar := none
deriving DecidableEq

namespace Column

/-- The column without its length limit. -/
def withoutLength (column : Column) : Column :=
  { column with maxLength := none }

/-- The default as a value, null when there is none. -/
def defaultValue (column : Column) : Value :=
  match column.default with
  | some scalar => scalar.toValue
  | none => .null

end Column

/-- How one JSON column is described. -/
structure Override where
  /-- The name of the column, for messages. -/
  column : String := ""
  /-- The text of an expression. It wins over a pattern unless it is empty. -/
  expression : Option String := none
  /-- The name of a pattern. -/
  pattern : Option String := none
deriving DecidableEq

/-- What a caller asks of the schema of a table. -/
structure TableOptions where
  /-- The wanted columns; none at all, or an empty list, means every column. -/
  wanted : Option (List String) := none
  /-- The unwanted columns. -/
  unwanted : List String := []
  /-- Whether unknown keys are refused. -/
  strict : Bool := true
  /-- The expression of a column. -/
  expressions : Entries String := []
  /-- The pattern of a column. -/
  patterns : Entries String := []
deriving DecidableEq

namespace TableOptions

/-- Whether a column is selected. -/
def selects (options : TableOptions) (name : String) : Bool :=
  (match options.wanted with
    | some (first :: names) => (first :: names).contains name
    | _ => true) && !options.unwanted.contains name

/-- The selected ones of the given names, in their order. -/
def select (options : TableOptions) (names : List String) : List String :=
  names.filter options.selects

/-- How a column is described if it holds JSON. -/
def overrideFor (options : TableOptions) (name : String) : Override where
  column := name
  expression := options.expressions.find? name
  pattern := options.patterns.find? name

end TableOptions

end TableSchema
