import TableSchema.Text.Blank
import TableSchema.Text.Identifier
import TableSchema.Text.LowerCase

/-! # Types of catalog columns

`Catalog.normalize` brings the spellings of a type to one form: lower case, no groups in
parentheses, single spaces, and no space before empty brackets. `Classification.ofText` looks the
form up. An array is known by its element, which must be a bounded string or an integer; a name that
no table lists is taken for an enumeration, and anything else is unknown.
-/

namespace TableSchema

namespace Catalog

/-- A text without its groups in parentheses. A parenthesis that is never closed stays. `inside`
tells that the text begins within a group. -/
def dropGroups (inside : Bool) : List Char → List Char
  | [] => []
  | c :: rest =>
    if inside then dropGroups (c != ')') rest
    else if c = '(' && rest.contains ')' then dropGroups true rest
    else c :: dropGroups false rest

/-- A text without the space before empty brackets. -/
def joinBrackets : List Char → List Char
  | ' ' :: '[' :: ']' :: rest => '[' :: ']' :: joinBrackets rest
  | c :: rest => c :: joinBrackets rest
  | [] => []

/-- The normal form of a type name. -/
def normalize (text : List Char) : List Char :=
  joinBrackets (Text.trim (Text.collapseBlanks (dropGroups false (Text.lower text))))

end Catalog

/-- The kinds of column types. -/
inductive TypeKind where
  | boundedString
  | unboundedString
  | integer
  | real
  | boolean
  | date
  | timestamp
  | time
  | document
  | identifier
  | binary
  | array
  | enumerated
  | unknown
deriving DecidableEq

namespace TypeKind

/-- The name of a kind. -/
def name : TypeKind → String
  | .boundedString => "bounded_string"
  | .unboundedString => "unbounded_string"
  | .integer => "integer"
  | .real => "real"
  | .boolean => "boolean"
  | .date => "date"
  | .timestamp => "timestamp"
  | .time => "time"
  | .document => "document"
  | .identifier => "identifier"
  | .binary => "binary"
  | .array => "array"
  | .enumerated => "enumerated"
  | .unknown => "unknown"

/-- The types that hold text of a bounded length. -/
def boundedStrings : List String :=
  ["character varying", "varchar", "character", "char", "text"]

/-- The integer types. -/
def integers : List String :=
  ["integer", "int", "int4", "smallint", "int2", "bigint", "int8", "serial", "bigserial"]

/-- The types that travel as text: geometry, networks, bits, money and ranges. -/
def unboundedStrings : List String :=
  ["point", "line", "lseg", "box", "path", "polygon", "circle", "cidr", "inet", "macaddr",
    "macaddr8", "bit", "bit varying", "varbit", "money", "int4range", "int8range", "numrange",
    "tsrange", "tstzrange", "daterange"]

/-- The listed types of every kind. -/
def table : List (TypeKind × List String) :=
  [(.boundedString, boundedStrings),
    (.integer, integers),
    (.real, ["real", "float4", "double precision", "float8", "numeric", "decimal"]),
    (.boolean, ["boolean", "bool"]),
    (.date, ["date"]),
    (.timestamp, ["timestamp", "timestamp without time zone", "timestamp with time zone",
      "timestamptz"]),
    (.time, ["time", "time without time zone", "time with time zone", "timetz"]),
    (.document, ["json", "jsonb"]),
    (.identifier, ["uuid"]),
    (.binary, ["bytea"]),
    (.unboundedString, unboundedStrings)]

/-- The kind of a listed type. -/
def ofToken? (token : String) : Option TypeKind :=
  (table.find? fun entry => entry.2.contains token).map Prod.fst

/-- The kind of a type that may be the element of an array. -/
def ofElement? (token : String) : Option TypeKind :=
  if boundedStrings.contains token then some .boundedString
  else if integers.contains token then some .integer
  else none

end TypeKind

/-- The type of the elements of an array. -/
structure ElementType where
  kind : TypeKind
  token : String
deriving DecidableEq

/-- What is known of a column type: its kind, its normal form, and the elements of an array. -/
structure Classification where
  kind : TypeKind
  token : String
  element : Option ElementType := none
deriving DecidableEq

namespace Catalog

/-- Whether a text is a name in lower-case ASCII letters, digits and underscores. -/
def isEnumerationName : List Char → Bool
  | c :: rest =>
    (Text.isAsciiLower c || c == '_') &&
      rest.all fun c => Text.isAsciiLower c || Text.isAsciiDigit c || c == '_'
  | [] => false

/-- The text before the brackets that end it. -/
def elementText? (token : List Char) : Option (List Char) :=
  if "[]".toList.isSuffixOf token then some (Text.trim (token.take (token.length - 2))) else none

/-- The element of a type that is written as an array. -/
def element? (token : List Char) : Option ElementType := do
  let element := String.ofList (← elementText? token)
  return { kind := ← TypeKind.ofElement? element, token := element }

end Catalog

namespace Classification

/-- The classification of a type in normal form. -/
def ofToken (token : List Char) : Classification :=
  match TypeKind.ofToken? (String.ofList token) with
  | some kind => { kind, token := String.ofList token }
  | none =>
    match Catalog.element? token with
    | some element => { kind := .array, token := String.ofList token, element := some element }
    | none =>
      let kind := if Catalog.isEnumerationName token then TypeKind.enumerated else .unknown
      { kind, token := String.ofList token }

/-- The classification of a type name. -/
def ofText (text : List Char) : Classification :=
  ofToken (Catalog.normalize text)

end Classification

end TableSchema
