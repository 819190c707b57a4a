import TableSchema.Intake
import TableSchema.Text.Octets
import TableSchema.Text.Split

/-! # Requests to the service

A request names a target and a method. A target is a path and perhaps a query. `Target.find?` gives
the endpoint at a target and the query: the escapes of the path are resolved first. If nothing is
found and the path ends in slashes, the path without them is tried as a new target, so that escapes
may be resolved again and a query may come out of the path. Two endpoints read a body, which is
checked as a whole before anything is done with it.
-/

namespace TableSchema.Service

/-- A request. -/
structure Request where
  method : String
  /-- The path and the query, with their escapes. -/
  target : String
  body : Option Value := none
  headers : Entries String := []

/-- The value of a header, by its name in lower case. The case of the header does not matter. -/
def Request.header? (request : Request) (name : String) : Option String :=
  request.headers.findSome? fun (key, value) =>
    if String.ofList (key.toList.map Text.lowerAscii) = name then some value else none

/-- What the service offers. -/
inductive Endpoint where
  /-- Whether the service runs. -/
  | health
  /-- All patterns. -/
  | patterns
  /-- The pattern of a name. -/
  | pattern (name : String)
  /-- The schema of a table. -/
  | tableSchema
  /-- The schema of a type. -/
  | typeSchema
deriving DecidableEq

namespace Endpoint

/-- The method by which an endpoint is reached. -/
def method : Endpoint → String
  | .health => "GET"
  | .patterns => "GET"
  | .pattern _ => "GET"
  | .tableSchema => "POST"
  | .typeSchema => "POST"

/-- The endpoints that have a path of their own, by its last segment. -/
def named : Entries Endpoint :=
  [("health", .health), ("patterns", .patterns), ("schema", .tableSchema),
    ("map-type", .typeSchema)]

/-- The endpoint of a segment, which may have a line feed at its end. -/
def ofSegment? (segment : String) : Option Endpoint :=
  (named.find? segment).or (named.findSome? fun (name, endpoint) =>
    if segment = name ++ "\n" then some endpoint else none)

/-- The endpoint at the segments of a path, of which the first is empty. -/
def ofSegments? : List String → Option Endpoint
  | ["", "api", segment] => ofSegment? segment
  | ["", "api", "patterns", name] => if name.isEmpty then none else some (.pattern name)
  | _ => none

/-- The endpoint at a path without escapes. -/
def ofPath? (path : List Char) : Option Endpoint :=
  ofSegments? ((Text.splitOn (· == '/') path).map String.ofList)

end Endpoint

namespace Target

/-- The path of a target, and its query. What follows a number sign is neither. -/
def parts (target : List Char) : List Char × List Char :=
  let (path, query) := Text.breakAt (· == '?') (target.takeWhile (· != '#'))
  (path, query.drop 1)

/-- The segments passed so far, after one more: a segment of one dot stays, one of two dots goes
back. -/
def passSegment (passed : List (List Char)) (segment : List Char) : List (List Char) :=
  if segment = ['.'] then passed
  else if segment = ['.', '.'] then (if passed = [[]] then passed else passed.dropLast)
  else passed ++ [segment]

/-- A path without segments of dots, and without escapes. -/
def plainPath (path : List Char) : List Char :=
  Text.unescape
    (List.intercalate ['/'] ((Text.splitOn (· == '/') path).foldl passSegment []))

/-- A path without the slashes at its end. -/
def withoutSlashes (path : List Char) : List Char :=
  (path.reverse.dropWhile (· == '/')).reverse

/-- The endpoint at a target, and the query; at most `steps` new targets are tried. -/
def findWithin? : Nat → List Char → Option (Endpoint × List Char)
  | 0, _ => none
  | steps + 1, target =>
    let (path, query) := parts target
    let plain := plainPath path
    match Endpoint.ofPath? plain with
    | some endpoint => some (endpoint, query)
    | none =>
      let shorter := withoutSlashes plain
      if shorter.length < plain.length ∧ (Endpoint.ofPath? shorter).isSome then
        findWithin? steps (shorter ++ if query.isEmpty then [] else '?' :: query)
      else none

/-- The endpoint at a target, and the query. Each new target has fewer slashes, counting those in
escapes, so that the length of the target bounds their number. -/
def find? (target : String) : Option (Endpoint × List Char) :=
  findWithin? (target.length + 1) target.toList

end Target

/-- A name or a value in a query, without escapes. A plus stands for a space. -/
def queryText (text : List Char) : String :=
  String.ofList (Text.unescape (text.map fun c => if c = '+' then ' ' else c))

/-- The value that a query gives to a name; the last one, if there are several. -/
def queryValue? (query : List Char) (name : String) : Option String :=
  let pairs := (Text.splitOn (· == '&') query).filterMap fun pair =>
    let (key, value) := Text.breakAt (· == '=') pair
    if pair.isEmpty || queryText key != name then none else some (queryText (value.drop 1))
  pairs.getLast?

/-- A request for the schema of a table whose columns are given with it. -/
structure TableQuery where
  table : String
  dialect : String
  columns : Entries Column
  options : TableOptions
deriving DecidableEq

/-- A request for the schema of a type. -/
structure TypeQuery where
  typeName : String
  /-- The column that has the type; otherwise one that is not null and has no default. -/
  column : Option Column
  override : Override
deriving DecidableEq

/-- Reads a body, which has to be present. -/
def readBody {α : Type} (reader : Value → Checked α) : Option Value → Checked α
  | some body => (reader body).under "body"
  | none => .refused [⟨["body"], .missing⟩]

open Intake

/-- Reads a request for the schema of a table. -/
def TableQuery.intake : Value → Checked TableQuery :=
  model .attributesType fun entries =>
    TableQuery.mk <$> required entries ["table_name"] text
      <*> field entries ["dialect"] text (pure "postgresql")
      <*> required entries ["columns"] (dictOf (Column.intake .attributesType))
      <*> field entries ["options"] (TableOptions.intake .attributesType) (pure {})

/-- Reads a request for the schema of a type. -/
def TypeQuery.intake : Value → Checked TypeQuery :=
  model .attributesType fun entries =>
    TypeQuery.mk <$> required entries ["base_type"] text
      <*> field entries ["column"] (optional (Column.intake .attributesType)) (pure none)
      <*> (Override.mk <$> field entries ["column_name"] text (pure "")
        <*> field entries ["override"] (optional text) (pure none)
        <*> field entries ["pattern"] (optional text) (pure none))

end TableSchema.Service
