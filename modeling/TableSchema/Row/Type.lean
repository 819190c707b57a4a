import TableSchema.Intake
import TableSchema.Row.Attribute

/-! # Types of row values

A row type says which values a row may hold, and what they are turned into. Types are checked as
they are built: a bound that no check could use makes a type unusable, which shows when a model is
made of it.
-/

namespace TableSchema

/-- What a model does with keys that it does not list. -/
inductive Extras where
  | forbid
  | allow
  | ignore
deriving DecidableEq

/-- The name of a treatment of unknown keys. -/
def Extras.name : Extras → String
  | .forbid => "forbid"
  | .allow => "allow"
  | .ignore => "ignore"

/-- The treatment of unknown keys in an object mode. -/
def Extras.ofMode : Option ObjectMode → Extras
  | some .strict => .forbid
  | some .passthrough => .allow
  | none => .ignore

/-- Bounds on a length. -/
structure LengthRange where
  min : Option Nat := none
  max : Option Nat := none
deriving DecidableEq

/-- Bounds on a number. -/
structure NumberRange (ν : Type) where
  greater : Option ν := none
  atLeast : Option ν := none
  less : Option ν := none
  atMost : Option ν := none

/-- Whether there are no bounds. -/
def NumberRange.isFree {ν : Type} (range : NumberRange ν) : Bool :=
  range.greater.isNone && range.atLeast.isNone && range.less.isNone && range.atMost.isNone

/-- A type of values in rows. -/
inductive RowType where
  /-- Text of a bounded length, and perhaps the address of a mailbox. -/
  | text (email : Bool) (length : LengthRange)
  /-- Text that is read in a format. -/
  | formatted (format : TextFormat)
  | integer (range : NumberRange Int)
  | number (range : NumberRange Binary64)
  | boolean
  | any
  | bytes
  | list (item : RowType) (length : LengthRange)
  | dict (value : RowType)
  | literal (values : List Value)
  /-- The best of several members. -/
  | union (members : List RowType)
  | nullable (type : RowType)
  | model (name : String) (extras : Extras) (fields : List (RowField RowType))

namespace RowType

/-- The members that a type brings into a union: those of a union, also behind null. -/
def members : RowType → List RowType
  | .union members => members
  | .nullable type => type.members
  | type => [type]

/-- Whether a type is nullable on its outside. -/
def isNullable : RowType → Bool
  | .nullable _ => true
  | _ => false

/-- Whether a type can be compared with others: the values of its literals have no parts. -/
def isComparable : RowType → Bool
  | .literal values => !values.any Value.isCompound
  | .list item _ => item.isComparable
  | .dict value => value.isComparable
  | _ => true

/-- Whether two values of literals are the same: of one kind, and equal as data. -/
def sameLiteral : Value → Value → Bool
  | .null, .null => true
  | .bool a, .bool b => a == b
  | .int m, .int n => m == n
  | .float x, .float y => x.equals y
  | .str s, .str t => s == t
  | _, _ => false

mutual

/-- Whether two types mean the same. The order of members and of literal values does not count.
Types with bounds on numbers or on the length of lists are always apart, and so are models. -/
def alike : RowType → RowType → Bool
  | .text email length, .text email' length' => email == email' && length == length'
  | .formatted format, .formatted format' => format == format'
  | .integer range, .integer range' => range.isFree && range'.isFree
  | .number range, .number range' => range.isFree && range'.isFree
  | .boolean, .boolean => true
  | .any, .any => true
  | .bytes, .bytes => true
  | .list item length, .list item' length' => length == {} && length' == {} && alike item item'
  | .dict value, .dict value' => alike value value'
  | .literal values, .literal values' =>
    values.all (fun value => values'.any (sameLiteral value)) &&
      values'.all (fun value => values.any (sameLiteral value))
  | .union members, .union members' => allIn members members' && members'.all (hasAlike members)
  | .nullable type, .nullable type' => alike type type'
  | _, _ => false

/-- Whether each type of the first list means the same as one of the second. -/
def allIn : List RowType → List RowType → Bool
  | [], _ => true
  | type :: types, others => others.any (fun other => alike type other) && allIn types others

/-- Whether one type of a list means the same as the given one. -/
def hasAlike : List RowType → RowType → Bool
  | [], _ => false
  | type :: types, other => alike type other || hasAlike types other

end

/-- Types without those that mean the same as an earlier one. -/
def distinct (types : List RowType) : List RowType :=
  types.foldl (fun kept type => if hasAlike kept type then kept else kept ++ [type]) []

/-- The union of types. Unions within it are dissolved, types that mean the same count once, and
null is let through first. -/
def unionOf (types : List RowType) : RowType :=
  let union :=
    match distinct (types.flatMap members) with
    | [type] => type
    | types => .union types
  if types.any isNullable then .nullable union else union

/-- The type that lets null through, too. -/
def orNull (type : RowType) : RowType :=
  if type.isNullable then type else .nullable type

/-- Whether a type is made like a known one: a nullable type of the same members, a union of the
same members in the same order, or a literal of the same values in the same order. -/
def isMadeLike (type known : RowType) : Bool :=
  match type, known with
  | .nullable _, .nullable _ => alike type known
  | .union types, .union types' =>
    types.length == types'.length && (types.zip types').all fun pair => alike pair.1 pair.2
  | .literal values, .literal values' =>
    values.length == values'.length &&
      (values.zip values').all fun pair => sameLiteral pair.1 pair.2
  | _, _ => false

/-- The known type that is made like the given one; otherwise that one, which is known then. -/
def settle (known : List RowType) (type : RowType) : RowType × List RowType :=
  match known.find? (isMadeLike type) with
  | some type => (type, known)
  | none => (type, known ++ [type])

end RowType

namespace Row

/-- A bound on a length: an integer of 64 bits that is not negative. -/
def lengthBound? : Value → Option Nat
  | .int n => if 0 ≤ n ∧ n < 0x10000000000000000 then some n.toNat else none
  | _ => none

/-- A bound on an integer: what reads as an integer. -/
def integerBound? (value : Value) : Option Int :=
  (Intake.integer value).result?

/-- A bound on a number. An integer past the greatest finite number is none. -/
def numberBound? : Value → Option Binary64
  | .int n => Binary64.nearest? n
  | .float x => some x
  | _ => none

/-- An optional bound, absent where it is null; the outer level tells whether it can be used. -/
def optionalBound? {β : Type} (read : Value → Option β) : Option Value → Option (Option β)
  | none => some none
  | some .null => some none
  | some value => (read value).map some

/-- Usable bounds on a length. -/
def lengthRange? (bounds : LengthBounds) : Option LengthRange := do
  return {
    min := ← optionalBound? lengthBound? bounds.min
    max := ← optionalBound? lengthBound? bounds.max }

/-- Usable bounds on a number. -/
def numberRange? {ν : Type} (read : Value → Option ν) (bounds : NumberBounds) :
    Option (NumberRange ν) := do
  return {
    greater := ← optionalBound? read bounds.greater
    atLeast := ← optionalBound? read bounds.atLeast
    less := ← optionalBound? read bounds.less
    atMost := ← optionalBound? read bounds.atMost }

/-- The type of texts; a format other than a mailbox leaves the length free. -/
def textType? (format : Option StringFormat) (bounds : LengthBounds) : Option RowType :=
  match format with
  | some (.parsed format) => some (.formatted format)
  | some .email => (lengthRange? bounds).map (.text true)
  | none => (lengthRange? bounds).map (.text false)

/-- The type of numbers. -/
def numberType? (bounds : NumberBounds) : Option RowType :=
  if bounds.integer then (numberRange? integerBound? bounds).map .integer
  else (numberRange? numberBound? bounds).map .number

/-- Members whose types are all usable. -/
def usableMembers : List (Member (Option RowType)) → Option (List (Member RowType))
  | [] => some []
  | { name, schema, required, default } :: members => do
    let type ← schema
    return { name, schema := type, required, default } :: (← usableMembers members)

end Row

end TableSchema
