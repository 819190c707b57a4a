/-! # Splitting a text

A text is cut at every character of a class (`splitOn`) or at the first one (`breakAt`). Cutting
loses nothing but the characters at which `splitOn` cuts.
-/

namespace TableSchema.Text

/-- The parts of a text between the characters of a class. There is always at least one part. -/
def splitOn (separates : Char → Bool) : List Char → List (List Char)
  | [] => [[]]
  | c :: rest =>
    match splitOn separates rest with
    | part :: parts => if separates c then [] :: part :: parts else (c :: part) :: parts
    | [] => [[c]]

/-- Splits a text at the first character of a class; the character stays with the second part. -/
def breakAt (stops : Char → Bool) (text : List Char) : List Char × List Char :=
  (text.takeWhile fun c => !stops c, text.dropWhile fun c => !stops c)

end TableSchema.Text
