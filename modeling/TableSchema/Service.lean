import TableSchema.ColumnText
import TableSchema.Service.CrossOrigin
import TableSchema.Settings

/-! # The service

The service answers requests for patterns and for schemas. `respond` finds the endpoint of a request
and gives its answer; what goes wrong is told by the status of the answer, and an error that has no
status of its own is passed on. Bodies and answers are written in a notation that has no bytes and,
in answers, no numbers that are not finite.
-/

namespace TableSchema.Service

/-- The version of the service. -/
def version : String :=
  "1.0.0"

/-- What an answer holds. -/
inductive Content where
  | nothing
  | value (value : Value)
  /-- The issues with the body of the request. -/
  | issues (issues : List Issue)

/-- An answer. -/
structure Response where
  status : Nat
  content : Content := .nothing
  /-- The headers for pages of other origins. -/
  sharing : List (String × String) := []

namespace Response

/-- An answer that gives what was asked for. -/
def give (entries : Entries Value) : Response where
  status := 200
  content := .value (.dict entries)

/-- An answer that says why there is nothing to give. -/
def refuse (status : Nat) (detail : String) : Response where
  status := status
  content := .value (.dict [("detail", .str detail)])

/-- The answer to a body with issues. -/
def unprocessable (issues : List Issue) : Response where
  status := 422
  content := .issues issues

end Response

/-- The status of an answer that reports an error, if the error is one to report. -/
def status? : TextError → Option Nat
  | .assembly (.tableNotFound _) => some 404
  | .assembly (.unsupportedDialect _) => some 400
  | .assembly (.mapping (.unknownPattern _)) => some 422
  | _ => none

/-- Why there is no answer. -/
inductive ServiceError where
  | text (error : TextError)
  /-- The body of the request holds bytes. -/
  | bytes
  /-- The answer would show a number that is not finite. -/
  | notFinite
deriving DecidableEq

/-- The text of the error. -/
def ServiceError.message : ServiceError → String
  | .text error => error.message
  | .bytes => "Object of type bytes is not JSON serializable"
  | .notFinite => "Out of range float values are not JSON compliant"

/-- The answer to a query that gives some text or an error. -/
def report (outcome : Except TextError String) (entries : String → Entries Value) :
    Except ServiceError Response :=
  match outcome with
  | .ok text => .ok (.give (entries text))
  | .error error =>
    match status? error with
    | some status => .ok (.refuse status error.message)
    | none => .error (.text error)

/-- The schema of the table, as text. -/
def TableQuery.text (query : TableQuery) : Except TextError String :=
  schemaText (.ofTables [(query.table, query.columns)] query.dialect) query.table query.options

/-- The answer to a request for the schema of a table. -/
def TableQuery.answer (query : TableQuery) : Except ServiceError Response :=
  report query.text fun text =>
    [("table_name", .str query.table),
      ("columns", .list ((query.options.select query.columns.names).map .str)),
      ("strict", .bool query.options.strict), ("schema_text", .str text)]

/-- The schema of the type, as text. -/
def TypeQuery.text (query : TypeQuery) : Except TextError String :=
  let column := query.column.getD { typeName := query.typeName }
  column.textOfType query.typeName (some query.override)

/-- The answer to a request for the schema of a type. -/
def TypeQuery.answer (query : TypeQuery) : Except ServiceError Response :=
  report query.text fun text =>
    [("base_type", .str query.typeName), ("expression", .str text)]

/-- Whether a value is a number that is not finite. -/
def isUnbounded : Value → Bool
  | .float x => x.units?.isNone
  | _ => false

/-- Whether a value is bytes. -/
def isBytes : Value → Bool
  | .bytes _ => true
  | _ => false

/-- The part of a body that an issue is about. Of a missing field it is what the field is missing
from. -/
def subject (body : Value) (issue : Issue) : Value :=
  body.follow (issue.path.drop 1)

/-- The answer to a query that is read from the body of a request. The answer to a body with issues
shows the parts that they are about. -/
def answerBody {α : Type} (reader : Value → Checked α)
    (answer : α → Except ServiceError Response) (request : Request) :
    Except ServiceError Response :=
  match readBody reader request.body with
  | .accepted query => answer query
  | .refused issues =>
    if request.body.any fun body => issues.any fun issue => (subject body issue).anyAtom isUnbounded
    then .error .notFinite
    else .ok (.unprocessable issues)

/-- The text of a pattern. -/
def patternText (pattern : Pattern) (parameter : Option String) : Except TextError String :=
  (pattern.schema (parameter.map .raw)).render.mapError .write

/-- A pattern as it is listed. -/
def patternEntry (pattern : Pattern) : Except TextError Value := do
  return .dict [("name", .str pattern.name), ("description", .str pattern.description),
    ("parameterized", .bool pattern.parameterized),
    ("expression", .str (← patternText pattern none))]

/-- The answer to a request for the pattern of a name. -/
def answerPattern (name : String) (parameter : Option String) : Except TextError Response :=
  match Pattern.find? name with
  | some pattern => do
    return .give [("name", .str name), ("expression", .str (← patternText pattern parameter))]
  | none => .ok (.refuse 404 (UnknownPattern.message { pattern := name }))

/-- The answer of an endpoint to a request with a query. -/
def Endpoint.answer (endpoint : Endpoint) (query : List Char) (request : Request) :
    Except ServiceError Response :=
  match endpoint with
  | .health => .ok (.give [("status", .str "ok"), ("version", .str version)])
  | .patterns => do
    let patterns ← (Pattern.library.mapM patternEntry).mapError .text
    return .give [("patterns", .list patterns)]
  | .pattern name => (answerPattern name (queryValue? query "parameter")).mapError .text
  | .tableSchema => answerBody TableQuery.intake TableQuery.answer request
  | .typeSchema => answerBody TypeQuery.intake TypeQuery.answer request

/-- The answer to a plain request. -/
def answer (request : Request) : Except ServiceError Response :=
  match Target.find? request.target with
  | none => .ok (.refuse 404 "Not Found")
  | some (endpoint, query) =>
    if request.method = endpoint.method then endpoint.answer query request
    else .ok (.refuse 405 "Method Not Allowed")

/-- The answer to a request. -/
def respond (settings : Settings) (request : Request) : Except ServiceError Response := do
  if request.body.any (·.anyAtom isBytes) then throw .bytes
  match request.preflight? with
  | some preflight =>
    return { status := if preflight.isAllowed settings.origins then 200 else 400
             sharing := preflight.sharingHeaders settings.origins }
  | none =>
    return { ← answer request with sharing := sharingHeaders settings.origins request }

end TableSchema.Service
