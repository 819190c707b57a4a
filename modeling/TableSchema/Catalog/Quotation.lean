import TableSchema.Text.Quoted

/-! # Quoted literals in catalog text

A catalog writes a text between single quotes and doubles the quotes inside it. `Catalog.segments`
cuts an expression into quoted literals and the code between them, and the cut loses nothing. A
quote that opens a literal which never ends is code. Where the last doubled quote has no quote after
it, its first half closes the literal.
-/

namespace TableSchema.Catalog

/-- The quote around a text in a catalog. -/
def quoteMark : Char := '\x27'

/-- What remains of a quoted literal after its opening quote, up to and with its closing quote. -/
def quotedTail? : List Char → Option (List Char)
  | [] => none
  | '\x27' :: '\x27' :: rest =>
    match quotedTail? rest with
    | some tail => some (quoteMark :: quoteMark :: tail)
    | none => some [quoteMark]
  | '\x27' :: _ => some [quoteMark]
  | c :: rest => (quotedTail? rest).map (c :: ·)

/-- A piece of an expression. -/
inductive Segment where
  | code (text : List Char)
  /-- A literal with its quotes. -/
  | quoted (text : List Char)
deriving DecidableEq

/-- The characters of a segment. -/
def Segment.text : Segment → List Char
  | .code text => text
  | .quoted text => text

/-- Puts a character of code in front of segments. -/
def consCode (c : Char) : List Segment → List Segment
  | .code text :: segments => .code (c :: text) :: segments
  | segments => .code [c] :: segments

/-- The segments of a text whose first `covered` characters belong to a listed literal. -/
def segmentsFrom : Nat → List Char → List Segment
  | _, [] => []
  | covered + 1, _ :: rest => segmentsFrom covered rest
  | 0, c :: rest =>
    match if c = quoteMark then quotedTail? rest else none with
    | some tail => .quoted (c :: tail) :: segmentsFrom tail.length rest
    | none => consCode c (segmentsFrom 0 rest)

/-- The segments of an expression. -/
def segments (text : List Char) : List Segment :=
  segmentsFrom 0 text

/-- A text as a quoted literal. -/
def quote (text : List Char) : List Char :=
  quoteMark :: (text.flatMap (fun c => if c = quoteMark then [c, c] else [c]) ++ [quoteMark])

/-- A text in which two quotes in a row are one. -/
def undouble : List Char → List Char
  | '\x27' :: '\x27' :: rest => quoteMark :: undouble rest
  | c :: rest => c :: undouble rest
  | [] => []

/-- The text between the quotes of an expression that begins and ends with one. -/
def unquote? (text : List Char) : Option (List Char) :=
  if 2 ≤ text.length ∧ text.head? = some quoteMark ∧ text.getLast? = some quoteMark then
    some (undouble text.tail.dropLast)
  else none

theorem quotedTail?_append {text tail : List Char} (read : quotedTail? text = some tail) :
    ∃ rest, text = tail ++ rest := by
  fun_induction quotedTail? text generalizing tail with
  | case1 => cases read
  | case2 rest inner found hypothesis =>
    cases read
    obtain ⟨after, same⟩ := hypothesis found
    exact ⟨after, by simp [same, quoteMark]⟩
  | case3 rest found hypothesis =>
    cases read
    exact ⟨quoteMark :: rest, rfl⟩
  | case4 rest =>
    cases read
    exact ⟨rest, rfl⟩
  | case5 c rest _ _ hypothesis =>
    obtain ⟨inner, found, rfl⟩ := Option.map_eq_some_iff.mp read
    obtain ⟨after, same⟩ := hypothesis found
    exact ⟨after, by simp [same]⟩

theorem flatMap_text_consCode (c : Char) (segments : List Segment) :
    (consCode c segments).flatMap Segment.text = c :: segments.flatMap Segment.text := by
  unfold consCode
  split <;> rfl

/-- The segments of an expression make up the expression. -/
theorem flatMap_text_segmentsFrom (covered : Nat) (text : List Char) :
    (segmentsFrom covered text).flatMap Segment.text = text.drop covered := by
  fun_induction segmentsFrom covered text with
  | case1 => simp
  | case2 covered c rest hypothesis => simpa using hypothesis
  | case3 c rest tail found hypothesis =>
    have read : quotedTail? rest = some tail := by
      split at found
      · exact found
      · cases found
    obtain ⟨after, same⟩ := quotedTail?_append read
    rw [List.flatMap_cons, hypothesis]
    simp [Segment.text, same]
  | case4 c rest found hypothesis => simp [flatMap_text_consCode, hypothesis]

end TableSchema.Catalog
