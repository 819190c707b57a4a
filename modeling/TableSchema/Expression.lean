import TableSchema.Expression.Body

/-! # Reading schema expressions

`Schema.parse` reads the text of an expression as a schema. Nothing is evaluated: constructors and
methods come from fixed lists, and all else is refused at the position of the token where the
reading stops. A reader takes tokens off a list; it fails at a token, or because the tokens run out.

Nesting is bounded by a depth that the number of tokens gives. A list of items is bounded by the
number of tokens left. Both bounds are reached only when no token is left, so that a reader at its
bound may answer that the tokens ran out.
-/

namespace TableSchema

namespace Expression

/-- Reads something off a list of tokens. -/
abbrev Reader : Type → Type := StateT (List Token) (Except Halt)

instance : Cursor Reader where
  next := fun tokens =>
    match tokens with
    | [] => .error .endOfTokens
    | token :: rest => .ok (token, rest)
  sees text := fun tokens => .ok (tokens.head?.any (isWord text), tokens)

/-- Items up to a closing token, separated by commas. -/
def separated {α : Type} (close : String) (item : Reader α) : Nat → Reader (List α)
  | 0 => throw .endOfTokens
  | bound + 1 => itemLoop close (entry close item) (separated close item bound)

/-- Items up to a closing token, bounded by the number of tokens left. -/
def items {α : Type} (close : String) (item : Reader α) : Reader (List α) := fun tokens =>
  separated close item tokens.length tokens

/-- A literal value nested at most `depth` deep. -/
def valueWithin : Nat → Reader Value
  | 0 => throw .endOfTokens
  | depth + 1 =>
    literal (items "]" (valueWithin depth)) (items "\x7d" (pair (valueWithin depth)))

/-- A literal value. -/
def value : Reader Value := fun tokens =>
  valueWithin tokens.length tokens

/-- The methods that follow a schema, each after a point. -/
def methods : Nat → Schema → Reader Schema
  | 0 => fun schema => return schema
  | bound + 1 => methodLoop (step (method value)) (methods bound)

/-- The methods that follow a schema, bounded by the number of tokens left. -/
def allMethods (schema : Schema) : Reader Schema := fun tokens =>
  methods tokens.length schema tokens

/-- What arguments are read by, given a reader of schemas. -/
def partsOf (schema : Reader Schema) : Parts Reader where
  schema := schema
  value := value
  members := items "\x7d" (member schema)
  options := items "]" value
  variants := items "]" schema

/-- An expression nested at most `depth` deep. -/
def schemaWithin : Nat → Reader Schema
  | 0 => throw .endOfTokens
  | depth + 1 => rooted (construction (partsOf (schemaWithin depth))) allMethods

/-- An expression, and nothing after it. -/
def whole (tokens : List Token) : Except Halt Schema := do
  match ← (schemaWithin tokens.length).run tokens with
  | (schema, []) => return schema
  | (_, token :: _) => throw (.refused .trailingInput token.offset)

/-- The error of a reader that stopped in a text of the given length. -/
def Halt.toError (length : Nat) : Halt → ParseError
  | .refused fault position => .malformed fault position
  | .endOfTokens => .malformed .unexpectedEnd length
  | .integerTooLong error => .integerTooLong error

end Expression

/-- The schema that an expression writes. -/
def Schema.parse (text : String) : Except ParseError Schema :=
  match Token.scan text with
  | .error stray => .error (.malformed (.unexpectedCharacter stray.char) stray.offset)
  | .ok tokens => (Expression.whole tokens).mapError (·.toError text.length)

end TableSchema
