import TableSchema.Schema
import TableSchema.Value.Literal

/-! # Schemas as text

`Schema.render` writes a schema as one line: the base of its shape, then the decorations in a fixed
order, namely refinements, object mode, optional, nullable, default. `Schema.renderBlock` writes an
object with one member on a line. Both build a list of characters from the texts of the parts, in
the order in which an error in a part is met.
-/

namespace TableSchema

/-- The text of a refinement: a method call with its arguments. -/
def Check.text (check : Check) : Except WriteError (List Char) := do
  let args ← Value.literals check.args
  return '.' :: (check.name.toList ++ '(' :: (commaSeparated args ++ [')']))

/-- The texts of refinements, one after another. -/
def checksText : List Check → Except WriteError (List Char)
  | [] => .ok []
  | check :: checks => do
    let text ← check.text
    return text ++ (← checksText checks)

/-- The text of a default: the source text where there is one that is not empty, and otherwise the
literal. -/
def DefaultLiteral.render (literal : DefaultLiteral) : Except WriteError (List Char) :=
  match literal.text with
  | some text => if text.isEmpty then literal.value.literal else .ok text.toList
  | none => literal.value.literal

/-- The method call that sets a mode. -/
def modeText : Option ObjectMode → List Char
  | some mode => '.' :: (mode.name.toList ++ ['(', ')'])
  | none => []

/-- The method call that sets a default. -/
def defaultText : Option DefaultLiteral → Except WriteError (List Char)
  | some literal => do
    return ".default(".toList ++ (← literal.render) ++ [')']
  | none => .ok []

/-- The text of decorations, in their fixed order. -/
def Decorations.text (marks : Decorations) : Except WriteError (List Char) := do
  let checks ← checksText marks.checks
  let default ← defaultText marks.default
  return checks ++ modeText marks.mode ++
    (if marks.optional then ".optional()".toList else []) ++
    (if marks.nullable then ".nullable()".toList else []) ++ default

/-- A constructor without arguments. -/
def constructorText (name : String) : List Char :=
  "z.".toList ++ name.toList ++ ['(', ')']

namespace Schema

mutual

/-- The characters of a schema on one line. -/
def renderChars : Schema → Except WriteError (List Char)
  | ⟨shape, marks⟩ => do
    let base ← renderShape shape
    return base ++ (← marks.text)

/-- The characters of a shape. -/
def renderShape : Shape Schema → Except WriteError (List Char)
  | .string => .ok (constructorText "string")
  | .number => .ok (constructorText "number")
  | .boolean => .ok (constructorText "boolean")
  | .unknown => .ok (constructorText "unknown")
  | .binary => .ok "z.instanceof(Buffer)".toList
  | .array item => do
    return "z.array(".toList ++ (← renderChars item) ++ [')']
  | .record value => do
    return "z.record(".toList ++ (← renderChars value) ++ [')']
  | .object [] => .ok "z.object(\x7b\x7d)".toList
  | .object fields => do
    return "z.object(\x7b ".toList ++ commaSeparated (← renderFields fields) ++ " \x7d)".toList
  | .enum options => do
    return "z.enum(".toList ++ (← (Value.list options).literal) ++ [')']
  | .union variants => do
    return "z.union([".toList ++ commaSeparated (← renderVariants variants) ++ "])".toList
  | .literal [] => .error .literalWithoutValue
  | .literal (value :: _) => do
    return "z.literal(".toList ++ (← value.literal) ++ [')']
  | .raw text => .ok (text.getD "").toList

/-- The members of an object, each a key, a colon and a schema. -/
def renderFields : List (String × Schema) → Except WriteError (List (List Char))
  | [] => .ok []
  | (name, schema) :: fields => do
    let text ← renderChars schema
    return (Text.objectKey name ++ [':', ' '] ++ text) :: (← renderFields fields)

/-- The variants of a union. -/
def renderVariants : List Schema → Except WriteError (List (List Char))
  | [] => .ok []
  | schema :: variants => do
    let text ← renderChars schema
    return text :: (← renderVariants variants)

end

/-- The text of a schema on one line. -/
def render (schema : Schema) : Except WriteError String :=
  String.ofList <$> schema.renderChars

/-- The characters of an object with one member on a line. -/
def renderBlockChars (indent : List Char) (schema : Schema) : Except WriteError (List Char) :=
  match schema.shape with
  | .object fields => do
    let members ← renderFields fields
    let lines := List.intercalate [',', '\n'] (members.map (indent ++ ·))
    return "z.object(\x7b\n".toList ++ lines ++ "\n\x7d)".toList ++ (← schema.decorations.text)
  | _ => .error .notAnObject

/-- The text of an object with one member on a line. -/
def renderBlock (schema : Schema) (indent : String := "  ") : Except WriteError String :=
  String.ofList <$> schema.renderBlockChars indent.toList

end Schema

end TableSchema
