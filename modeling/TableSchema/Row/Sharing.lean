import TableSchema.Row.Type

/-! # Shared row types

Types that mean the same are one type. A nullable type is known by the set of its members, a union
by the list of them, and a literal by its values; where one is made that is known already, the known
one is taken. `shareMembers` does so for the fields of a model, in the order in which their types
are made, so that of two nullable types which list their members in different orders the first one
decides about the order of both.
-/

namespace TableSchema

namespace RowType

mutual

/-- The type with all its parts shared with the known types, and what is known then. -/
def share (known : List RowType) : RowType → RowType × List RowType
  | .literal values => settle known (.literal values)
  | .list item length =>
    let (item, known) := share known item
    (.list item length, known)
  | .dict value =>
    let (value, known) := share known value
    (.dict value, known)
  | .union members =>
    let (members, known) := shareList known members
    settle known (.union members)
  | .nullable type =>
    let (type, known) := share known type
    settle known (.nullable type)
  | .model name extras fields =>
    let (fields, known) := shareFields known fields
    (.model name extras fields, known)
  | type => (type, known)

/-- Types with all their parts shared, one after the other. -/
def shareList (known : List RowType) : List RowType → List RowType × List RowType
  | [] => ([], known)
  | type :: types =>
    let (type, known) := share known type
    let (types, known) := shareList known types
    (type :: types, known)

/-- Fields with all parts of their types shared, one after the other. -/
def shareFields (known : List RowType) :
    List (RowField RowType) → List (RowField RowType) × List RowType
  | [] => ([], known)
  | ⟨attr, alias?, type, required, default⟩ :: fields =>
    let (type, known) := share known type
    let (fields, known) := shareFields known fields
    (⟨attr, alias?, type, required, default⟩ :: fields, known)

end

/-- The members of a model that is made, with all parts of their types shared. -/
def shareMembers (known : List RowType) : List (Member RowType) → List (Member RowType)
  | [] => []
  | { name, schema, required, default } :: members =>
    let (schema, known) := share known schema
    { name, schema, required, default } :: shareMembers known members

end RowType

end TableSchema
