import TableSchema.Assembly

/-! # The text of a column

`Column.textOfType` maps a column to its schema and writes the schema on one line.
-/

namespace TableSchema

/-- The text of the schema of a column whose type is given apart from it. -/
def Column.textOfType (typeName : String) (column : Column) (override : Option Override) :
    Except TextError String := do
  let schema ← (column.schemaOfType typeName override).mapError fun error =>
    .assembly (.mapping error)
  schema.render.mapError .write

end TableSchema
