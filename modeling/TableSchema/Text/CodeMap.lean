import TableSchema.Text.CodeRange
import TableSchema.Text.Octets
import TableSchema.Text.Split

/-! # Maps of code points

A map with many rules is kept as text, one word for each rule. `C0=41+300` says which codes one
character stands for, `41-5A=61` says it for each character of a range, and `100-12E/2=101` for
every second one; in a range the codes given for the first character move along. `CodeMap.ofLines`
reads the words, and `CodeMap.find?` applies the first rule that has the character.
-/

namespace TableSchema.Text

/-- What each character of a range stands for. -/
structure CodeRule where
  first : Nat
  last : Nat
  /-- The distance between the characters of the range. -/
  step : Nat
  /-- What the first character stands for. -/
  codes : List Nat
deriving DecidableEq

namespace CodeRule

/-- Reads a rule. -/
def ofWord (word : List Char) : CodeRule :=
  let (source, codes) := breakAt (· == '=') word
  let (range, step) := breakAt (· == '/') source
  let (first, last) := breakAt (· == '-') range
  { first := hexNumber first
    last := hexNumber (if last.isEmpty then first else last.drop 1)
    step := if step.isEmpty then 1 else hexNumber (step.drop 1)
    codes := (splitOn (· == '+') (codes.drop 1)).map hexNumber }

/-- What a character stands for, if the rule has it. -/
def target? (rule : CodeRule) (c : Char) : Option (List Char) :=
  let place := c.toNat - rule.first
  if rule.first ≤ c.toNat ∧ c.toNat ≤ rule.last ∧ place % rule.step = 0 then
    some (rule.codes.map fun code => Char.ofNat (code + place))
  else none

end CodeRule

/-- What characters stand for. -/
abbrev CodeMap : Type := List CodeRule

namespace CodeMap

/-- Reads the rules on all lines. -/
def ofLines (lines : List String) : CodeMap :=
  lines.flatMap fun line => (splitOn (· == ' ') line.toList).map CodeRule.ofWord

/-- What a character stands for, if a rule has it. -/
def find? (map : CodeMap) (c : Char) : Option (List Char) :=
  map.findSome? (·.target? c)

/-- The first character that stands for the given ones. -/
def source? (map : CodeMap) (text : List Char) : Option Char :=
  (List.find? (fun rule => rule.codes == text.map Char.toNat) map).map (Char.ofNat ·.first)

end CodeMap

end TableSchema.Text
