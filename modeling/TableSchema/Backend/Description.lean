import TableSchema.Backend

/-! # Descriptions of live schemas

The backend of descriptions records which constructor was called with which arguments. It never
fails, so it shows what a backend is asked for.
-/

namespace TableSchema

/-- A call of a constructor of a backend. -/
inductive Description where
  | string (format : Option StringFormat) (bounds : LengthBounds)
  | number (bounds : NumberBounds)
  | boolean
  | unknown
  | binary
  | array (item : Description) (bounds : LengthBounds)
  | record (value : Description)
  | enum (options : List Value)
  | literal (value : Value)
  | union (variants : List Description)
  | nullable (schema : Description)
  | object (name : String) (fields : List (Member Description)) (mode : Option ObjectMode)

/-- The backend that describes what it is asked for. -/
def Description.backend : Backend Description where
  string format bounds := .ok (.string format bounds)
  number bounds := .ok (.number bounds)
  boolean := .ok .boolean
  unknown := .ok .unknown
  binary := .ok .binary
  array item bounds := .ok (.array item bounds)
  record value := .ok (.record value)
  enum options := .ok (.enum options)
  literal value := .ok (.literal value)
  union variants := .ok (.union variants)
  nullable schema := .ok (.nullable schema)
  object name fields mode := .ok (.object name fields mode)

end TableSchema
