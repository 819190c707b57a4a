import TableSchema.Token
import TableSchema.Value.Numeral

/-! # Why an expression is refused

A refusal is a fault at a position of the text, or an integer that is too long to be read. Faults
are causes; `Fault.message` holds the wording of them all.
-/

namespace TableSchema.Expression

/-- What is wrong with an expression. -/
inductive Fault where
  /-- No token begins with this character. -/
  | unexpectedCharacter (c : Char)
  /-- The tokens end before the expression does. -/
  | unexpectedEnd
  /-- One token was wanted and another found. -/
  | expectedToken (wanted found : String)
  /-- A name was wanted. -/
  | expectedName (found : String)
  /-- Tokens follow the expression. -/
  | trailingInput
  /-- The expression does not begin with its root name. -/
  | withoutRoot
  /-- The options of an enumeration are missing or not all texts. -/
  | enumOptions
  /-- Only one class may be asked for. -/
  | instanceTarget (name : String)
  /-- There is no such constructor. -/
  | unknownConstructor (name : String)
  /-- A property name was wanted. -/
  | expectedProperty (found : String)
  /-- A size refinement needs a number. -/
  | expectedNumber (method : String)
  /-- An object mode was set on something else. -/
  | objectsOnly (method : String)
  /-- There is no such method. -/
  | unknownMethod (method : String)
  /-- A literal value was wanted. -/
  | expectedLiteral (found : String)
  /-- A dictionary key was wanted. -/
  | expectedKey (found : String)
deriving DecidableEq

/-- A text as messages show it. -/
def shown (text : String) : String :=
  String.ofList (Text.inspect text.toList)

/-- The wording of a fault, without its position. -/
def Fault.message : Fault → String
  | .unexpectedCharacter c => "Unexpected character " ++ shown (String.singleton c)
  | .unexpectedEnd => "Unexpected end of expression"
  | .expectedToken wanted found => "Expected " ++ shown wanted ++ " but found " ++ shown found
  | .expectedName found => "Expected a name but found " ++ shown found
  | .trailingInput => "Trailing input"
  | .withoutRoot => "Expressions must start with 'z.'"
  | .enumOptions => "z.enum() expects a non-empty list of strings"
  | .instanceTarget name => "Unsupported instanceof target " ++ shown name
  | .unknownConstructor name => "Unknown constructor z." ++ name ++ "()"
  | .expectedProperty found => "Expected a property name but found " ++ shown found
  | .expectedNumber method => "." ++ method ++ "() expects a number"
  | .objectsOnly method => "." ++ method ++ "() only applies to objects"
  | .unknownMethod method => "Unknown method ." ++ method ++ "()"
  | .expectedLiteral found => "Expected a literal value but found " ++ shown found
  | .expectedKey found => "Expected a key but found " ++ shown found

end TableSchema.Expression

namespace TableSchema

/-- Why a text is not read as a schema. -/
inductive ParseError where
  /-- A fault, and the number of characters before it. -/
  | malformed (fault : Expression.Fault) (position : Nat)
  /-- An integer is too long to be read. -/
  | integerTooLong (error : IntegerTooLong)
deriving DecidableEq

/-- The text of the error. -/
def ParseError.message : ParseError → String
  | .malformed fault position => fault.message ++ " at offset " ++ toString position
  | .integerTooLong error => error.message

end TableSchema
