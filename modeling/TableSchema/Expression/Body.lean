import TableSchema.Expression.Fault
import TableSchema.Schema

/-! # What is read off the tokens of an expression

The programs here take tokens at a cursor and halt where these are none of an expression. They are
written for any monad with such a cursor, and each takes the programs that read its parts as
parameters: whoever runs them says how deep parts may nest and how long loops may go on.
-/

namespace TableSchema

namespace Expression

/-- Why reading stops. -/
inductive Halt where
  /-- A fault at a token. -/
  | refused (fault : Fault) (position : Nat)
  /-- The tokens run out. -/
  | endOfTokens
  /-- An integer is too long. -/
  | integerTooLong (error : IntegerTooLong)
deriving DecidableEq

/-- A monad that has a cursor over tokens. -/
class Cursor (m : Type → Type) where
  /-- Takes the next token. -/
  next : m Token
  /-- Whether the next token is the given one. -/
  sees : String → m Bool

export Cursor (next sees)

/-! ### Tokens and their content -/

/-- Whether a token is the given punctuation or name. A string is neither, whatever it holds. -/
def isWord (text : String) (token : Token) : Bool :=
  token.group != .string && token.text == text

/-- The character that an escape stands for. -/
def escaped (c : Char) : Char :=
  if c = 'n' then '\n'
  else if c = 't' then '\t'
  else if c = 'r' then '\r'
  else if c = 'b' then '\x08'
  else if c = 'f' then '\x0C'
  else c

/-- A text with its escapes resolved. -/
def unescape : List Char → List Char
  | '\\' :: c :: rest => escaped c :: unescape rest
  | c :: rest => c :: unescape rest
  | [] => []

/-- The content of a string token. -/
def content (token : Token) : String :=
  String.ofList (unescape (token.text.toList.drop 1).dropLast)

/-- The value of a name that is a constant. -/
def constant? (text : String) : Option Value :=
  if text = "true" then some (.bool true)
  else if text = "false" then some (.bool false)
  else if text = "null" then some .null
  else none

/-- The shapes that a constructor without arguments gives. -/
def simpleShape? (name : String) : Option (Shape Schema) :=
  if name = "string" then some .string
  else if name = "number" then some .number
  else if name = "boolean" then some .boolean
  else if name = "unknown" ∨ name = "any" then some .unknown
  else none

/-- Whether a value is a text. -/
def isText : Value → Bool
  | .str _ => true
  | _ => false

/-- Whether a value is a number; a boolean is none. -/
def isNumber : Value → Bool
  | .int _ => true
  | .float _ => true
  | _ => false

/-- Refinements without argument. -/
def flagChecks : List String :=
  ["int", "positive", "negative", "nonnegative", "nonpositive",
    "date", "datetime", "time", "uuid", "url", "email"]

/-- Refinements with one number. -/
def sizeChecks : List String :=
  ["min", "max", "length"]

section Bodies

variable {m : Type → Type} [Monad m] [MonadExceptOf Halt m]

/-! ### Single tokens -/

/-- Stops with a fault at a token. -/
def refuse {α : Type} (token : Token) (fault : Fault) : m α :=
  throw (.refused fault token.offset)

/-- The value of a number token. -/
def numberValue (token : Token) : m Value :=
  match Numeral.value token.text.toList with
  | .ok value => return value
  | .error error => throw (.integerTooLong error)

/-- The schema with an object mode, if it is an object. -/
def setMode (method : Token) (schema : Schema) (mode : ObjectMode) : m Schema :=
  match schema.shape with
  | .object _ => return schema.withMode mode
  | _ => refuse method (.objectsOnly method.text)

variable [Cursor m]

/-- Takes the given token. -/
def expect (wanted : String) : m Unit := do
  let token ← next
  if isWord wanted token then return ()
  else refuse token (.expectedToken wanted token.text)

/-- Takes a name. -/
def name : m Token := do
  let token ← next
  if token.group = .name then return token
  else refuse token (.expectedName token.text)

/-- Takes a key, a name or a string; `fault` words the refusal of anything else. -/
def key (fault : String → Fault) : m String := do
  let token ← next
  match token.group with
  | .string => return content token
  | .name => return token.text
  | _ => refuse token (fault token.text)

/-! ### Lists -/

section Lists

variable {α : Type}

/-- One pass of the loop over items: an item, and a comma unless the list ends behind it. -/
def entry (close : String) (item : m α) : m α := do
  let first ← item
  if !(← sees close) then expect ","
  return first

/-- The loop over the items of a list: it ends at the closing token, or makes a pass and goes on.
A comma may follow the last item. -/
def itemLoop (close : String) (entry : m α) (others : m (List α)) : m (List α) := do
  if ← sees close then
    expect close
    return []
  else
    let first ← entry
    return first :: (← others)

end Lists

/-! ### Values -/

/-- A key, a colon and a value. -/
def pair (value : m Value) : m (String × Value) := do
  let name ← key .expectedKey
  expect ":"
  return (name, ← value)

/-- A literal value, of which a list or a dictionary has parts. -/
def literal (values : m (List Value)) (pairs : m (List (String × Value))) : m Value := do
  let token ← next
  match token.group with
  | .number => numberValue token
  | .string => return .str (content token)
  | .name =>
    match constant? token.text with
    | some value => return value
    | none => refuse token (.expectedLiteral token.text)
  | .punctuation =>
    if token.text = "[" then
      return .list (← values)
    else if token.text = "\x7b" then
      return .dict (Entries.ofList (← pairs))
    else refuse token (.expectedLiteral token.text)

/-! ### Methods -/

/-- What a method makes of a schema, up to the closing parenthesis. -/
def application (value : m Value) (schema : Schema) (method : Token) : m Schema := do
  if method.text ∈ flagChecks then
    return schema.check method.text
  else if method.text ∈ sizeChecks then
    let size ← value
    if isNumber size then return schema.check method.text [size]
    else refuse method (.expectedNumber method.text)
  else if method.text = "nullable" then
    return schema.asNullable
  else if method.text = "optional" then
    return schema.asOptional
  else if method.text = "default" then
    return schema.withDefault { value := ← value }
  else if method.text = "strict" then
    setMode method schema .strict
  else if method.text = "passthrough" then
    setMode method schema .passthrough
  else refuse method (.unknownMethod method.text)

/-- A method with its arguments, applied to a schema. -/
def method (value : m Value) (schema : Schema) : m Schema := do
  let token ← name
  expect "("
  let schema ← application value schema token
  expect ")"
  return schema

/-- One pass of the loop over methods: a point and a method. -/
def step (method : Schema → m Schema) (schema : Schema) : m Schema := do
  let _ ← next
  method schema

/-- The loop over the methods that follow a schema: at a point it makes a pass and goes on. -/
def methodLoop (step others : Schema → m Schema) (schema : Schema) : m Schema := do
  if ← sees "." then
    let made ← step schema
    others made
  else return schema

/-! ### Schemas -/

/-- A field of an object: a key, an optional mark, a colon and a schema. -/
def member (schema : m Schema) : m (String × Schema) := do
  let name ← key .expectedProperty
  if ← sees "?" then
    let _ ← next
    expect ":"
    return (name, (← schema).asOptional)
  else
    expect ":"
    return (name, ← schema)

/-- What the arguments of constructors are read by. -/
structure Parts (m : Type → Type) where
  /-- A schema. -/
  schema : m Schema
  /-- A literal value. -/
  value : m Value
  /-- The fields of an object, behind the opening brace. -/
  members : m (List (String × Schema))
  /-- The options of an enumeration, behind the opening bracket. -/
  options : m (List Value)
  /-- The variants of a union, behind the opening bracket. -/
  variants : m (List Schema)

/-- The arguments of a constructor, up to the closing parenthesis. -/
def arguments (parts : Parts m) (constructor : Token) : m (Shape Schema) := do
  match simpleShape? constructor.text with
  | some shape => return shape
  | none =>
    if constructor.text = "array" then
      return .array (← parts.schema)
    else if constructor.text = "record" then
      let first ← parts.schema
      if ← sees "," then
        let _ ← next
        return .record (← parts.schema)
      else return .record first
    else if constructor.text = "object" then
      expect "\x7b"
      return .object (← parts.members)
    else if constructor.text = "enum" then
      expect "["
      let options ← parts.options
      if options.isEmpty || !options.all isText then refuse constructor .enumOptions
      else return .enum options
    else if constructor.text = "union" then
      expect "["
      return .union (← parts.variants)
    else if constructor.text = "literal" then
      return .literal [← parts.value]
    else if constructor.text = "instanceof" then
      let target ← name
      if target.text = "Buffer" then return .binary
      else refuse constructor (.instanceTarget target.text)
    else refuse constructor (.unknownConstructor constructor.text)

/-- A constructor with its arguments. -/
def construction (parts : Parts m) : m Schema := do
  let constructor ← name
  expect "("
  let shape ← arguments parts constructor
  expect ")"
  return { shape }

/-- An expression: the root, a constructor, and the methods that follow. -/
def rooted (construction : m Schema) (methods : Schema → m Schema) : m Schema := do
  let root ← name
  if root.text = "z" then
    expect "."
    let base ← construction
    methods base
  else refuse root .withoutRoot

end Bodies

end Expression

end TableSchema
