import TableSchema.Text.Identifier

/-! # Names of models

The name of a model is made of the words of its table and of the fields that lead to it. A word is a
run of ASCII letters and digits; it keeps its spelling but for its first letter, which becomes a
capital. A name is never empty and never begins with a digit.
-/

namespace TableSchema

/-- Whether a character may stand in a word of a model name. -/
def isNameChar (c : Char) : Bool :=
  Text.isAsciiLetter c || Text.isAsciiDigit c

/-- The words of a text, joined, each with a capital first letter. `fresh` tells that a word may
begin. -/
def joinWords (fresh : Bool) : List Char → List Char
  | [] => []
  | c :: rest =>
    if isNameChar c then (if fresh then c.toUpper else c) :: joinWords false rest
    else joinWords true rest

/-- The name that joined words make. -/
def nameOfWords : List Char → List Char
  | [] => "Schema".toList
  | c :: rest => if Text.isAsciiDigit c then '_' :: c :: rest else c :: rest

/-- The name of the model that the given parts lead to. -/
def modelName (parts : List String) : String :=
  String.ofList (nameOfWords (parts.flatMap fun part => joinWords true part.toList))

theorem nameOfWords_ne_nil (words : List Char) : nameOfWords words ≠ [] := by
  unfold nameOfWords
  split
  · simp
  · split <;> simp

end TableSchema
