import TableSchema.Row.Sharing

/-! # Models of rows

The backend of row types. A model is made of the types of its members, shared with one another. A
type with a bound that cannot be used is nothing until a model is made of it, which then fails; a
union of nothing fails at once, and so does a union or a nullable type of types that cannot be
compared.
-/

namespace TableSchema

namespace Row

/-- The model of an object. -/
def modelOf (name : String) (members : List (Member RowType)) (mode : Option ObjectMode) :
    RowType :=
  .model name (Extras.ofMode mode) (define (RowType.shareMembers [] members))

/-- A type that is usable and cannot be compared. -/
def isIncomparable (type : Option RowType) : Bool :=
  type.any (!·.isComparable)

/-- The failure to compare types. -/
def incomparable : BackendError :=
  .failed "TypeError" "Cannot compare types of lists or dictionaries."

/-- The backend of row types. -/
def backend : Backend (Option RowType) where
  string format bounds := .ok (textType? format bounds)
  number bounds := .ok (numberType? bounds)
  boolean := .ok (some .boolean)
  unknown := .ok (some .any)
  binary := .ok (some .bytes)
  array item bounds := .ok do return .list (← item) (← lengthRange? bounds)
  record value := .ok (value.map .dict)
  enum options := .ok (some (.literal options))
  literal value := .ok (some (.literal [value]))
  union variants :=
    if variants.isEmpty then .error (.failed "TypeError" "Cannot take a Union of no types.")
    else if variants.any isIncomparable then .error incomparable
    else .ok ((variants.mapM id).map RowType.unionOf)
  nullable type := if isIncomparable type then .error incomparable else .ok (type.map .orNull)
  object name members mode :=
    match usableMembers members with
    | some members => .ok (some (modelOf name members mode))
    | none => .error (.failed "SchemaError" "Invalid Schema")

end Row

end TableSchema
