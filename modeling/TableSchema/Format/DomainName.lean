import TableSchema.Format.DomainName.Direction
import TableSchema.Format.DomainName.Joining
import TableSchema.Format.DomainName.Meaning
import TableSchema.Format.Punycode
import TableSchema.Text.Composed

/-! # Domain names

A domain name is a list of labels with full stops between them. It may be written with characters
of any script and has one form in ASCII, `ascii?`, in which a label with other characters is
encoded and follows a mark. A label may also be written in that form, and is then read, so that a
name has to be in order in either way of writing.
-/

namespace TableSchema.Format.DomainName

open Text (splitOn)

/-- Whether all characters are in ASCII. -/
def isAscii (text : List Char) : Bool :=
  text.all (·.toNat < 0x80)

/-- A name with its characters replaced by what they stand for, in composed form. -/
def normal? (name : List Char) : Option (List Char) := do
  return Text.composed (← name.mapM meaning?).flatten

/-- What is in front of an encoded label. -/
def encodedMark : List Char :=
  ['x', 'n', '-', '-']

/-- The length of the longest encoding that is read. -/
def longestEncoding : Nat :=
  2000

/-- The length of the longest label that is encoded. -/
def longestLabel : Nat :=
  1000

/-- The label that an encoding stands for. There is a need to encode it, and it is in normal form.
-/
def encodedLabel? (encoding : List Char) : Option (List Char) := do
  if longestEncoding < encoding.length then none
  else
    let label ← Punycode.decode? encoding
    if !isAscii label ∧ normal? label = some label then some label else none

/-- The label that a label in normal form stands for. -/
def label? (label : List Char) : Option (List Char) :=
  if encodedMark.isPrefixOf label then encodedLabel? (label.drop encodedMark.length)
  else some label

/-- Whether a label is in order by itself. -/
def isOrderly (label : List Char) : Bool :=
  !label.head?.any Text.isMark && joinersFit [] label &&
    (isAscii label || label.length ≤ longestLabel)

/-- A label in ASCII. -/
def asciiLabel (label : List Char) : List Char :=
  if isAscii label then label else encodedMark ++ Punycode.encode label

/-- A domain name in ASCII. -/
def ascii? (name : List Char) : Option (List Char) := do
  let labels ← (splitOn (· == '.') (← normal? name)).mapM label?
  if labels.all isOrderly && keepDirection labels then
    return List.intercalate ['.'] (labels.map asciiLabel)
  else none

end TableSchema.Format.DomainName
