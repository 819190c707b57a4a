import TableSchema.Expression
import TableSchema.Proofs.Token.Spelling

/-! # The grammar of schema expressions

`Grammar.Expression` says which lexemes write which schema, without saying how they are read. A list
of items has commas between them and perhaps one behind the last. A constructor is a name with the
lexemes between its parentheses, and a method turns the schema before it into another.
-/

namespace TableSchema

namespace Lexeme

/-- The content of a string, with its escapes resolved. -/
def content (text : String) : String :=
  String.ofList (Expression.unescape (text.toList.drop 1).dropLast)

/-- The number that a text writes, however long it is. -/
def numeral (text : String) : Value :=
  if Numeral.isIntegral text.toList then
    let parts := Numeral.ofText text.toList
    .int (if parts.negative then -(Text.digitsValue parts.whole : Int)
      else Text.digitsValue parts.whole)
  else .float (Numeral.ofText text.toList).toBinary64

/-- Whether a lexeme is no integer of more digits than may be read. -/
def IsShort (lexeme : Lexeme) : Prop :=
  lexeme.group = .number → Numeral.isIntegral lexeme.text.toList = true →
    (lexeme.text.toList.filter Text.isDigit).length ≤ integerDigitLimit

end Lexeme

namespace Grammar

open Lexeme

variable {α : Type}

/-- Items with commas between them, and perhaps one behind the last. -/
inductive Separated (Item : List Lexeme → α → Prop) : List Lexeme → List α → Prop
  | nil : Separated Item [] []
  | last {lexemes : List Lexeme} {item : α} (single : Item lexemes item) :
      Separated Item lexemes [item]
  | cons {lexemes rest : List Lexeme} {item : α} {items : List α} (first : Item lexemes item)
      (others : Separated Item rest items) :
      Separated Item (lexemes ++ mark ',' :: rest) (item :: items)

/-- A key: a name, or a string for its content. -/
inductive Key : Lexeme → String → Prop
  | name (text : String) : Key ⟨.name, text⟩ text
  | string (text : String) : Key ⟨.string, text⟩ (content text)

/-- A key, a colon and a value. -/
inductive Pair (Item : List Lexeme → α → Prop) : List Lexeme → String × α → Prop
  | pair {key : Lexeme} {name : String} {lexemes : List Lexeme} {value : α} (named : Key key name)
      (held : Item lexemes value) : Pair Item (key :: mark ':' :: lexemes) (name, value)

/-- A literal value. A key that is repeated in a dictionary keeps its first place and its last
value. -/
inductive Literal : List Lexeme → Value → Prop
  | null : Literal [word "null"] .null
  | true : Literal [word "true"] (.bool true)
  | false : Literal [word "false"] (.bool false)
  | number (text : String) : Literal [⟨.number, text⟩] (numeral text)
  | string (text : String) : Literal [⟨.string, text⟩] (.str (content text))
  | list {lexemes : List Lexeme} {items : List Value}
      (inner : Separated Literal lexemes items) :
      Literal (mark '[' :: (lexemes ++ [mark ']'])) (.list items)
  | dict {lexemes : List Lexeme} {entries : List (String × Value)}
      (inner : Separated (Pair Literal) lexemes entries) :
      Literal (mark '\x7b' :: (lexemes ++ [mark '\x7d'])) (.dict (Entries.ofList entries))

/-- A method without arguments. -/
def call (name : String) : List Lexeme :=
  [word name, mark '(', mark ')']

/-- A method with an argument. -/
def callWith (name : String) (argument : List Lexeme) : List Lexeme :=
  word name :: mark '(' :: (argument ++ [mark ')'])

/-- A method, and what it makes of a schema. -/
inductive Method : List Lexeme → Schema → Schema → Prop
  | flag {name : String} {schema : Schema} (known : name ∈ Expression.flagChecks) :
      Method (call name) schema (schema.check name)
  | size {name : String} {schema : Schema} {argument : List Lexeme} {bound : Value}
      (known : name ∈ Expression.sizeChecks) (written : Literal argument bound)
      (number : Expression.isNumber bound = true) :
      Method (callWith name argument) schema (schema.check name [bound])
  | nullable {schema : Schema} : Method (call "nullable") schema schema.asNullable
  | optional {schema : Schema} : Method (call "optional") schema schema.asOptional
  | default {schema : Schema} {argument : List Lexeme} {value : Value}
      (written : Literal argument value) :
      Method (callWith "default" argument) schema (schema.withDefault { value })
  | mode {schema : Schema} {fields : List (String × Schema)} (mode : ObjectMode)
      (object : schema.shape = .object fields) :
      Method (call mode.name) schema (schema.withMode mode)

/-- The methods that follow a schema, each after a point. -/
inductive Methods : List Lexeme → Schema → Schema → Prop
  | nil {schema : Schema} : Methods [] schema schema
  | cons {lexemes rest : List Lexeme} {first second last : Schema}
      (applied : Method lexemes first second) (others : Methods rest second last) :
      Methods (mark '.' :: (lexemes ++ rest)) first last

/-- A field of an object. A mark behind its key makes it optional. -/
inductive Member (Item : List Lexeme → Schema → Prop) : List Lexeme → String × Schema → Prop
  | required {key : Lexeme} {name : String} {lexemes : List Lexeme} {schema : Schema}
      (named : Key key name) (held : Item lexemes schema) :
      Member Item (key :: mark ':' :: lexemes) (name, schema)
  | optional {key : Lexeme} {name : String} {lexemes : List Lexeme} {schema : Schema}
      (named : Key key name) (held : Item lexemes schema) :
      Member Item (key :: mark '?' :: mark ':' :: lexemes) (name, schema.asOptional)

/-- What stands between the parentheses of a constructor, and the shape it gives. -/
inductive Arguments (Item : List Lexeme → Schema → Prop) :
    String → List Lexeme → Shape Schema → Prop
  | string : Arguments Item "string" [] .string
  | number : Arguments Item "number" [] .number
  | boolean : Arguments Item "boolean" [] .boolean
  | unknown : Arguments Item "unknown" [] .unknown
  | any : Arguments Item "any" [] .unknown
  | array {lexemes : List Lexeme} {item : Schema} (written : Item lexemes item) :
      Arguments Item "array" lexemes (.array item)
  | record {lexemes : List Lexeme} {value : Schema} (written : Item lexemes value) :
      Arguments Item "record" lexemes (.record value)
  | keyedRecord {keys lexemes : List Lexeme} {key value : Schema} (keyWritten : Item keys key)
      (written : Item lexemes value) :
      Arguments Item "record" (keys ++ mark ',' :: lexemes) (.record value)
  | object {lexemes : List Lexeme} {fields : List (String × Schema)}
      (members : Separated (Member Item) lexemes fields) :
      Arguments Item "object" (mark '\x7b' :: (lexemes ++ [mark '\x7d'])) (.object fields)
  | enum {lexemes : List Lexeme} {options : List String} (nonempty : options ≠ [])
      (written : Separated Literal lexemes (options.map .str)) :
      Arguments Item "enum" (mark '[' :: (lexemes ++ [mark ']'])) (.enum (options.map .str))
  | union {lexemes : List Lexeme} {variants : List Schema}
      (written : Separated Item lexemes variants) :
      Arguments Item "union" (mark '[' :: (lexemes ++ [mark ']'])) (.union variants)
  | literal {lexemes : List Lexeme} {value : Value} (written : Literal lexemes value) :
      Arguments Item "literal" lexemes (.literal [value])
  | binary : Arguments Item "instanceof" [word "Buffer"] .binary

/-- An expression: a constructor of the root name, and the methods that follow it. -/
inductive Expression : List Lexeme → Schema → Prop
  | construct {name : String} {arguments methods : List Lexeme} {shape : Shape Schema}
      {schema : Schema} (constructed : Arguments Expression name arguments shape)
      (decorated : Methods methods { shape } schema) :
      Expression
        (word "z" :: mark '.' :: word name :: mark '(' :: (arguments ++ mark ')' :: methods)) schema

end Grammar

end TableSchema
