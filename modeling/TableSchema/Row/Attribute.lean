import TableSchema.Backend
import TableSchema.Text.Identifier

/-! # Attributes of row models

A field of a row model is an attribute. Most names of columns may name attributes themselves; the
others get an attribute of their own and stay the alias under which the field is known. The
attribute of an aliased field is numbered by the place of the field, and lengthened until it differs
from all names and from the attributes given before.
-/

namespace TableSchema

/-- A field of a row model, over the types of values. -/
structure RowField (τ : Type) where
  attr : String
  /-- The name of the field where it differs from the attribute. -/
  alias? : Option String := none
  type : τ
  required : Bool
  /-- The value of a field that is left out. -/
  default : Value := .null

namespace RowField

/-- The name under which a field is known. -/
def name {τ : Type} (field : RowField τ) : String :=
  field.alias?.getD field.attr

end RowField

namespace Row

/-- The reserved words of the language that models are made in. -/
def reservedWords : List String :=
  ["False", "None", "True", "and", "as", "assert", "async", "await", "break", "class", "continue",
    "def", "del", "elif", "else", "except", "finally", "for", "from", "global", "if", "import",
    "in", "is", "lambda", "nonlocal", "not", "or", "pass", "raise", "return", "try", "while",
    "with", "yield"]

/-- The names that every model has already. -/
def inheritedNames : List String :=
  ["construct", "copy", "dict", "from_orm", "json", "mro", "parse_file", "parse_obj", "parse_raw",
    "register", "schema", "schema_json", "update_forward_refs", "validate"]

/-- Whether a name may not name an attribute. -/
def needsAlias (name : String) : Bool :=
  !Text.isIdentifier name || reservedWords.contains name || inheritedNames.contains name ||
    "_".toList.isPrefixOf name.toList || "model_".toList.isPrefixOf name.toList

/-- The name lengthened until it is not taken, at most `steps` times. -/
def freeName (taken : List String) : Nat → String → String
  | 0, name => name
  | steps + 1, name => if taken.contains name then freeName taken steps (name ++ "_") else name

/-- The attribute of the aliased field at a place. As many steps as there are taken names suffice,
since the names tried are all different. -/
def attributeAt (place : Nat) (taken : List String) : String :=
  freeName taken taken.length ("field_" ++ toString place)

/-- The fields that members define, by attribute, from a place on. A member that repeats a name
without alias redefines its field. -/
def defineFrom {τ : Type} (place : Nat) (taken : List String) (defined : Entries (RowField τ)) :
    List (Member τ) → Entries (RowField τ)
  | [] => defined
  | { name, schema := type, required, default } :: members =>
    if needsAlias name then
      let attr := attributeAt place taken
      let field := { attr, alias? := some name, type, required, default }
      defineFrom (place + 1) (attr :: taken) (defined.insert attr field) members
    else
      let field := { attr := name, type, required, default }
      defineFrom (place + 1) taken (defined.insert name field) members

/-- The fields that members define, in order. -/
def define {τ : Type} (members : List (Member τ)) : List (RowField τ) :=
  (defineFrom 0 (members.map (·.name)) [] members).map Prod.snd

end Row

end TableSchema
