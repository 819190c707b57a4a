import TableSchema.Proofs.Value.Lexemes
import TableSchema.Service

/-! # Requests for the schema of a table

A request asks for the schema of a table if it is sent to the endpoint of tables and its body reads
as a query. It is answered as the query is (`Service.respond_of_asks`).
-/

namespace TableSchema

variable {source : ColumnSource} {table : String} {options : TableOptions}
  {columns : Entries Column}

/-- The text of a table depends on the dialect of its source and on its columns. -/
theorem schemaText_congr {source' : ColumnSource} (dialect : source'.dialect = source.dialect)
    (columns : source'.columns table = source.columns table) :
    schemaText source' table options = schemaText source table options := by
  simp only [schemaText, assemble, ColumnSource.fetch, ColumnSource.isSupported, dialect, columns]

/-- The text of a query is that of the table of any source that has its columns. -/
theorem Service.TableQuery.text_eq (fetched : source.columns table = .ok columns) :
    TableQuery.text ⟨table, source.dialect, columns, options⟩ =
      schemaText source table options := by
  refine schemaText_congr rfl ?_
  rw [fetched]
  simp [ColumnSource.ofTables, Entries.find?]

namespace Service

/-- Whether a request asks for the schema of a table: it is sent to the endpoint of tables, with a
body without bytes that reads as a query. -/
structure Request.Asks (request : Request) (query : TableQuery) : Prop where
  method : request.method = "POST"
  target : ∃ parameters, Target.find? request.target = some (.tableSchema, parameters)
  body : ∃ body, request.body = some body ∧ body.anyAtom isBytes = false ∧
    TableQuery.intake body = .accepted query

variable {request : Request} {query : TableQuery}

/-- A request for the schema of a table is answered as its query is. -/
theorem respond_of_asks (asks : request.Asks query) (settings : Settings) :
    respond settings request = query.answer.map fun response =>
      { response with sharing := sharingHeaders settings.origins request } := by
  obtain ⟨parameters, found⟩ := asks.target
  obtain ⟨body, given, plain, read⟩ := asks.body
  have noPreflight : request.preflight? = none := by
    rw [Request.preflight?, asks.method]
    rfl
  have answered : answer request = query.answer := by
    rw [answer, found]
    simp only [asks.method, Endpoint.method, ↓reduceIte, Endpoint.answer, answerBody, readBody,
      given, read, Checked.under]
  rw [respond, given, noPreflight, answered]
  simp only [Option.any_some, plain]
  cases query.answer <;> rfl

/-- A query whose text is known is answered with it. -/
theorem answer_of_text {text : String} (written : query.text = .ok text) :
    query.answer = .ok (.give
      [("table_name", .str query.table),
        ("columns", .list ((query.options.select query.columns.names).map .str)),
        ("strict", .bool query.options.strict), ("schema_text", .str text)]) := by
  rw [TableQuery.answer, written]
  rfl

end Service

end TableSchema
