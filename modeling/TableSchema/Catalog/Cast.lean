import TableSchema.Catalog.Quotation
import TableSchema.Text.Blank

/-! # Casts in catalog expressions

A catalog marks the type of an expression by a cast behind it: two colons, the name of a type,
perhaps in double quotes, perhaps with a second word such as `varying` or `with time zone`, and
perhaps with empty brackets. `Catalog.stripCasts` removes the casts that stand in code; what looks
like a cast inside a quoted literal is kept.
-/

namespace TableSchema.Catalog

/-- What follows a word that begins a text. -/
def after? (word : List Char) (text : List Char) : Option (List Char) :=
  if word.isPrefixOf text then some (text.drop word.length) else none

/-- A text without a word that may begin it. -/
def afterOptional (word : List Char) (text : List Char) : List Char :=
  (after? word text).getD text

/-- What follows one or more blanks. -/
def afterBlanks? : List Char → Option (List Char)
  | c :: rest => if Text.isBlank c then some (rest.dropWhile Text.isBlank) else none
  | [] => none

/-- What follows a name in ASCII letters, digits and underscores that begins with no digit. -/
def afterName? : List Char → Option (List Char)
  | c :: rest =>
    if Text.isAsciiLetter c || c == '_' then
      some (rest.dropWhile fun c => Text.isAsciiLetter c || Text.isAsciiDigit c || c == '_')
    else none
  | [] => none

/-- What follows `with` or `without`, and `time zone`. -/
def afterZone? (text : List Char) : Option (List Char) := do
  let rest ← after? "with".toList text
  let rest ← afterBlanks? (afterOptional "out".toList rest)
  let rest ← after? "time".toList rest
  let rest ← afterBlanks? rest
  after? "zone".toList rest

/-- What follows the second part of a type name of several words. -/
def afterSecondWord? (text : List Char) : Option (List Char) := do
  let rest ← afterBlanks? text
  (after? "varying".toList rest).or ((after? "precision".toList rest).or (afterZone? rest))

/-- What follows the cast that begins a text. -/
def afterCast? (text : List Char) : Option (List Char) := do
  let rest ← after? [':', ':'] text
  let rest ← afterName? (afterOptional ['"'] (rest.dropWhile Text.isBlank))
  let rest := afterOptional ['"'] rest
  return afterOptional ['[', ']'] ((afterSecondWord? rest).getD rest)

/-- A text without its casts; the first `covered` characters belong to a cast already met. -/
def removeCastsFrom : Nat → List Char → List Char
  | _, [] => []
  | covered + 1, _ :: rest => removeCastsFrom covered rest
  | 0, c :: rest =>
    match afterCast? (c :: rest) with
    | some after => removeCastsFrom (rest.length - after.length) rest
    | none => c :: removeCastsFrom 0 rest

/-- A text without its casts. -/
def removeCasts (text : List Char) : List Char :=
  removeCastsFrom 0 text

/-- A segment without the casts in its code. -/
def Segment.withoutCasts : Segment → List Char
  | .code text => removeCasts text
  | .quoted text => text

/-- An expression without the casts in its code and the blanks around it. -/
def stripCasts (text : List Char) : List Char :=
  Text.trim ((segments text).flatMap Segment.withoutCasts)

end TableSchema.Catalog
