import TableSchema.Schema

/-! # The pattern library

Patterns are named schemas for the shapes that JSON columns often have. Two of them take a schema
as parameter and have a plain form without one; the others ignore a parameter. `Pattern.schema?`
finds a pattern by its exact name.
-/

namespace TableSchema

/-- A named schema, which may depend on a parameter. -/
structure Pattern where
  name : String
  description : String
  /-- Whether the pattern takes a parameter. -/
  parameterized : Bool := false
  /-- The schema for a parameter. -/
  build : Option Schema → Schema

namespace Pattern

/-- Links and free-form details of a user. -/
def userProfile : Schema :=
  .object
    [("avatar", (Schema.string.check "url").asOptional),
      ("bio", (Schema.string.check "max" [.int 500]).asOptional),
      ("location", Schema.string.asOptional),
      ("website", (Schema.string.check "url").asOptional),
      ("social", (Schema.record .string).asOptional),
      ("preferences", (Schema.record .unknown).asOptional)]

/-- Choices of a user. -/
def settings : Schema :=
  .object
    [("theme", (Schema.enum ["light", "dark", "auto"]).asOptional),
      ("notifications", Schema.boolean.asOptional),
      ("language", Schema.string.asOptional),
      ("timezone", Schema.string.asOptional)]

/-- A postal address. -/
def address : Schema :=
  .object
    [("street", .string), ("city", .string), ("state", Schema.string.asOptional),
      ("postal_code", Schema.string.asOptional), ("country", .string)]

/-- All patterns, in the order in which they are listed. -/
def library : List Pattern :=
  [{ name := "record"
     description := "Keyed mapping; parameter is the value schema"
     parameterized := true
     build := fun value => .record (value.getD .unknown) },
    { name := "string_record"
      description := "Keyed mapping of strings"
      build := fun _ => .record .string },
    { name := "string_array"
      description := "Array of strings"
      build := fun _ => .array .string },
    { name := "number_array"
      description := "Array of numbers"
      build := fun _ => .array .number },
    { name := "object_array"
      description := "Array of objects; parameter is the element schema"
      parameterized := true
      build := fun item => .array (item.getD (.object [] (some .passthrough))) },
    { name := "tags"
      description := "List of string tags"
      build := fun _ => .array .string },
    { name := "user_profile"
      description := "Avatar, bio, links and free-form preferences"
      build := fun _ => userProfile },
    { name := "settings"
      description := "Theme, notification and locale settings"
      build := fun _ => settings },
    { name := "metadata"
      description := "Free-form mapping of primitive values"
      build := fun _ => .record (.union [.string, .number, .boolean]) },
    { name := "address"
      description := "Postal address"
      build := fun _ => address }]

/-- The pattern of a name. -/
def find? (name : String) : Option Pattern :=
  library.find? fun pattern => pattern.name == name

/-- The schema of a pattern; a pattern without parameter ignores the one it is given. -/
def schema (pattern : Pattern) (parameter : Option Schema) : Schema :=
  pattern.build (if pattern.parameterized then parameter else none)

/-- The schema of the pattern of a name. -/
def schema? (name : String) (parameter : Option Schema := none) : Option Schema :=
  (find? name).map (·.schema parameter)

end Pattern

/-- A pattern that is not in the library was asked for. -/
structure UnknownPattern where
  pattern : String
  /-- The column that asked for it, empty when there is none. -/
  column : String := ""
deriving DecidableEq

/-- The text of the error. -/
def UnknownPattern.message (error : UnknownPattern) : String :=
  "Unknown JSON pattern '" ++ error.pattern ++ "'" ++
    (if error.column.isEmpty then "" else " (column '" ++ error.column ++ "')")

end TableSchema
