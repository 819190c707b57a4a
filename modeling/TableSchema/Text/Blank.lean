import TableSchema.Text.CodeRange

/-! # Blank characters

Blanks separate tokens and words and are trimmed from the ends of a text. The class is wider than
the ASCII blanks: it holds the separators of Unicode and the four information separators, and it
leaves out the zero-width space and the byte order mark.
-/

namespace TableSchema.Text

/-- The blank code points above ASCII. -/
def blankRanges : CodeRanges :=
  [(0x85, 0x85), (0xA0, 0xA0), (0x1680, 0x1680), (0x2000, 0x200A), (0x2028, 0x2029),
    (0x202F, 0x202F), (0x205F, 0x205F), (0x3000, 0x3000)]

/-- Whether a character is blank. -/
def isBlank (c : Char) : Bool :=
  if c.toNat < 0x80 then
    (0x09 ≤ c.toNat && c.toNat ≤ 0x0D) || (0x1C ≤ c.toNat && c.toNat ≤ 0x20)
  else blankRanges.contains c

/-- The blanks that an address may not contain: the white space of Unicode, which does not count
the information separators. -/
def isWhiteSpace (c : Char) : Bool :=
  isBlank c && !(0x1C ≤ c.toNat && c.toNat ≤ 0x1F)

/-- A text without the blanks at its ends. -/
def trim (text : List Char) : List Char :=
  ((text.dropWhile isBlank).reverse.dropWhile isBlank).reverse

/-- A text in which every run of blanks is one space. `pending` tells that a run is under way and
already written. -/
def collapseFrom (pending : Bool) : List Char → List Char
  | [] => []
  | c :: rest =>
    if isBlank c then
      if pending then collapseFrom true rest else ' ' :: collapseFrom true rest
    else c :: collapseFrom false rest

/-- A text in which every run of blanks is one space. -/
def collapseBlanks (text : List Char) : List Char :=
  collapseFrom false text

end TableSchema.Text
