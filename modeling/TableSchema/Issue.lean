import TableSchema.Entries
import TableSchema.Value

/-! # Issues with values

Reading a value against a declared form either gives a result or a list of issues, each a problem
at a path. `Checked` collects the issues of all parts of a value, where an exception would stop at
the first.
-/

namespace TableSchema

/-- What is wrong with a value. -/
inductive Problem where
  | missing
  | extraForbidden
  | modelType
  /-- The value of a request body is not an object. -/
  | attributesType
  | stringType
  /-- The bytes of a text are no text. -/
  | stringUnicode
  | stringTooLong
  | stringTooShort
  | stringMismatch
  | boolType
  | boolParsing
  | intType
  | intParsing
  | intParsingSize
  | intFromFloat
  | finiteNumber
  | floatType
  | bytesType
  | listType
  | tooLong
  | tooShort
  | dictType
  | literalError
  | notAtMost
  | notLess
  | notAtLeast
  | notGreater
  /-- The value is of a kind that is not read in a format. -/
  | formatType (format : TextFormat)
  /-- The text is not in the format. -/
  | formatParsing (format : TextFormat)
  /-- A date is given with a time of day that is not midnight. -/
  | dateInexact
  /-- A date is given that cannot be kept. -/
  | dateNotKept
  /-- A date with a time of day is given that cannot be kept, or counted and not found. -/
  | datetimeNotKept
deriving DecidableEq

/-- The name of a problem. -/
def Problem.name : Problem → String
  | .missing => "missing"
  | .extraForbidden => "extra_forbidden"
  | .modelType => "model_type"
  | .attributesType => "model_attributes_type"
  | .stringType => "string_type"
  | .stringUnicode => "string_unicode"
  | .stringTooLong => "string_too_long"
  | .stringTooShort => "string_too_short"
  | .stringMismatch => "string_pattern_mismatch"
  | .boolType => "bool_type"
  | .boolParsing => "bool_parsing"
  | .intType => "int_type"
  | .intParsing => "int_parsing"
  | .intParsingSize => "int_parsing_size"
  | .intFromFloat => "int_from_float"
  | .finiteNumber => "finite_number"
  | .floatType => "float_type"
  | .bytesType => "bytes_type"
  | .listType => "list_type"
  | .tooLong => "too_long"
  | .tooShort => "too_short"
  | .dictType => "dict_type"
  | .literalError => "literal_error"
  | .notAtMost => "less_than_equal"
  | .notLess => "less_than"
  | .notAtLeast => "greater_than_equal"
  | .notGreater => "greater_than"
  | .formatType .date => "date_type"
  | .formatType .datetime => "datetime_type"
  | .formatType .time => "time_type"
  | .formatType .uuid => "uuid_type"
  | .formatType .url => "url_type"
  | .formatParsing .date => "date_from_datetime_parsing"
  | .formatParsing .datetime => "datetime_from_date_parsing"
  | .formatParsing .time => "time_parsing"
  | .formatParsing .uuid => "uuid_parsing"
  | .formatParsing .url => "url_parsing"
  | .dateInexact => "date_from_datetime_inexact"
  | .dateNotKept => "date_parsing"
  | .datetimeNotKept => "datetime_parsing"

/-- A problem and the path to the part that has it. -/
structure Issue where
  path : List String
  problem : Problem
deriving DecidableEq

/-- The issue with a part, seen from the whole. -/
def Issue.under (part : String) (issue : Issue) : Issue :=
  { issue with path := part :: issue.path }

/-- A result, or the issues that stand in its way. -/
inductive Checked (α : Type) where
  | accepted (result : α)
  | refused (issues : List Issue)
deriving DecidableEq

namespace Checked

variable {α β : Type}

/-- Refuses a value as a whole. -/
def refuse (problem : Problem) : Checked α :=
  .refused [⟨[], problem⟩]

/-- Applies a checked function to a checked value, keeping the issues of both. -/
def apply : Checked (α → β) → Checked α → Checked β
  | .accepted function, .accepted result => .accepted (function result)
  | .accepted _, .refused issues => .refused issues
  | .refused issues, .accepted _ => .refused issues
  | .refused issues, .refused others => .refused (issues ++ others)

instance : Applicative Checked where
  pure := .accepted
  seq function argument := function.apply (argument ())

/-- The issues of a check. -/
def issues : Checked α → List Issue
  | .accepted _ => []
  | .refused issues => issues

/-- The result of a check, if it has one. -/
def result? : Checked α → Option α
  | .accepted result => some result
  | .refused _ => none

/-- A check of a part, seen from the whole. -/
def under (part : String) : Checked α → Checked α
  | .accepted result => .accepted result
  | .refused issues => .refused (issues.map (·.under part))

/-- Checks in a row, as one check of the list. -/
def all : List (Checked α) → Checked (List α)
  | [] => .accepted []
  | check :: checks => List.cons <$> check <*> all checks

/-- Checks of named parts, as one check of the entries. -/
def entries (checks : List (String × Checked α)) : Checked (Entries α) :=
  all (checks.map fun check => (check.1, ·) <$> check.2.under check.1)

/-- Checks of numbered parts, as one check of the list. -/
def items (checks : List (Checked α)) : Checked (List α) :=
  all (checks.zipIdx.map fun check => check.1.under (toString check.2))

/-- The check as an exception. -/
def toExcept : Checked α → Except (List Issue) α
  | .accepted result => .ok result
  | .refused issues => .error issues

end Checked

end TableSchema
