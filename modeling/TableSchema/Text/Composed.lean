import TableSchema.Text.CombiningClass
import TableSchema.Text.Composition

/-! # Composed texts

A text may be written in several ways that mean the same: with a mark as a character of its own or
with both as one, and with marks that do not touch in either order. `composed` brings a text to the
one way that has the fewest characters: it decomposes everything, puts the marks in the order of
their combining classes, and composes what can be composed.
-/

namespace TableSchema.Text

/-- The parts of a Hangul syllable: a syllable without its last consonant and that consonant, or a
consonant and a vowel. -/
def syllableParts? (c : Char) : Option (List Char) :=
  let place := c.toNat - 0xAC00
  if 0xAC00 ≤ c.toNat ∧ place < 11172 then
    some <| if place % 28 = 0 then
        [Char.ofNat (0x1100 + place / 588), Char.ofNat (0x1161 + place % 588 / 28)]
      else [Char.ofNat (c.toNat - place % 28), Char.ofNat (0x11A7 + place % 28)]
  else none

/-- The Hangul syllable of two parts, if there is one. -/
def syllable? (first second : Char) : Option Char :=
  let consonant := first.toNat - 0x1100
  let vowel := second.toNat - 0x1161
  let openPlace := first.toNat - 0xAC00
  let last := second.toNat - 0x11A7
  if 0x1100 ≤ first.toNat ∧ consonant < 19 ∧ 0x1161 ≤ second.toNat ∧ vowel < 21 then
    some (Char.ofNat (0xAC00 + 588 * consonant + 28 * vowel))
  else if 0xAC00 ≤ first.toNat ∧ openPlace < 11172 ∧ openPlace % 28 = 0 ∧
      0x11A7 < second.toNat ∧ last < 28 then
    some (Char.ofNat (first.toNat + last))
  else none

/-- The one or two characters into which a character decomposes. -/
def parts? (c : Char) : Option (List Char) :=
  (syllableParts? c).or <| (compositions.find? c).or (decompositions.find? c)

/-- The character that two characters compose. -/
def compose? (first second : Char) : Option Char :=
  (syllable? first second).or (compositions.source? [first, second])

/-- The characters into which a character decomposes in the given number of steps. -/
def decomposeChar : Nat → Char → List Char
  | 0, c => [c]
  | steps + 1, c =>
    match parts? c with
    | some parts => parts.flatMap (decomposeChar steps)
    | none => [c]

/-- The largest number of steps in which a character decomposes. -/
def decompositionSteps : Nat :=
  4

/-- Puts a character behind others, of which the last comes first. A mark goes in front of marks of
higher classes. -/
def insertMark (c : Char) : List Char → List Char
  | [] => [c]
  | last :: before =>
    if 0 < combiningClass c ∧ combiningClass c < combiningClass last then
      last :: insertMark c before
    else c :: last :: before

/-- A text with everything decomposed and with its marks in order. -/
def decomposed (text : List Char) : List Char :=
  ((text.flatMap (decomposeChar decompositionSteps)).foldl
    (fun passed c => insertMark c passed) []).reverse

/-- A text that is being composed. Lists have their last characters first. -/
structure Composing where
  /-- What is in front of the base. -/
  done : List Char := []
  /-- The character that those behind it may be composed with. -/
  base : Option Char := none
  /-- The marks behind the base that are not composed with it. -/
  marks : List Char := []
deriving DecidableEq

namespace Composing

/-- What the base and a character behind its marks compose. A mark of the same class or a higher one
keeps the character from the base. -/
def composed? (state : Composing) (c : Char) : Option Char := do
  let base ← state.base
  if state.marks.head?.any fun mark => combiningClass c ≤ combiningClass mark then none
  else compose? base c

/-- Adds a character to the text. -/
def add (state : Composing) (c : Char) : Composing :=
  match state.composed? c with
  | some base => { state with base := some base }
  | none =>
    if combiningClass c = 0 then
      { done := state.marks ++ state.base.toList ++ state.done, base := some c }
    else { state with marks := c :: state.marks }

/-- The text. -/
def text (state : Composing) : List Char :=
  (state.marks ++ state.base.toList ++ state.done).reverse

end Composing

/-- A text in composed form. -/
def composed (text : List Char) : List Char :=
  ((decomposed text).foldl Composing.add {}).text

end TableSchema.Text
