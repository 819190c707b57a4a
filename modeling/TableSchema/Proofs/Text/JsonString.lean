import TableSchema.Proofs.Text.Quoted
import TableSchema.Text.Octets

/-! # Quoted texts as strings of JSON

A string of JSON is read as units of sixteen bits, some of them behind escapes, and pairs of
surrogates among the units make one character (`Text.jsonString?`). A quoted text is read as the
text, whether it is kept in ASCII or not (`Text.jsonString?_quote`).
-/

namespace TableSchema.Text

/-! ### Units -/

/-- The units of sixteen bits of a character: a pair of surrogates beyond the basic plane. -/
def units (c : Char) : List Nat :=
  if c.toNat < 0x10000 then [c.toNat]
  else [0xD800 + (c.toNat - 0x10000) / 0x400, 0xDC00 + (c.toNat - 0x10000) % 0x400]

/-- The characters of units, unless a surrogate stands alone. -/
def ofUnits? : List Nat → Option (List Char)
  | [] => some []
  | high :: low :: rest =>
    if 0xD800 ≤ high ∧ high < 0xDC00 then
      if 0xDC00 ≤ low ∧ low < 0xE000 then
        (ofUnits? rest).map
          (Char.ofNat (0x10000 + (high - 0xD800) * 0x400 + (low - 0xDC00)) :: ·)
      else none
    else if 0xDC00 ≤ high ∧ high < 0xE000 then none
    else (ofUnits? (low :: rest)).map (Char.ofNat high :: ·)
  | [unit] => if 0xD800 ≤ unit ∧ unit < 0xE000 then none else some [Char.ofNat unit]

/-- No character is half of a surrogate pair. -/
theorem not_surrogate (c : Char) : c.toNat < 0xD800 ∨ 0xE000 ≤ c.toNat ∧ c.toNat < 0x110000 := by
  rcases c.valid with low | ⟨above, high⟩
  · exact .inl low
  · exact .inr ⟨above, high⟩

/-- The code units of a character are read as the character. -/
theorem ofUnits?_units_append (c : Char) (rest : List Nat) :
    ofUnits? (units c ++ rest) = (ofUnits? rest).map (c :: ·) := by
  have valid := not_surrogate c
  unfold units
  split
  · next basic =>
    cases rest with
    | nil =>
      have single : ofUnits? [c.toNat] = some [Char.ofNat c.toNat] := if_neg (by omega)
      rw [List.append_nil, single, Char.ofNat_toNat]
      rfl
    | cons unit rest =>
      rw [List.singleton_append, ofUnits?, if_neg (by omega), if_neg (by omega), Char.ofNat_toNat]
  · next beyond =>
    have high : 0xD800 ≤ 0xD800 + (c.toNat - 0x10000) / 0x400 ∧
        0xD800 + (c.toNat - 0x10000) / 0x400 < 0xDC00 := by omega
    have low : 0xDC00 ≤ 0xDC00 + (c.toNat - 0x10000) % 0x400 ∧
        0xDC00 + (c.toNat - 0x10000) % 0x400 < 0xE000 := by omega
    have whole : 0x10000 + (0xD800 + (c.toNat - 0x10000) / 0x400 - 0xD800) * 0x400 +
        (0xDC00 + (c.toNat - 0x10000) % 0x400 - 0xDC00) = c.toNat := by omega
    rw [List.cons_append, List.singleton_append, ofUnits?, if_pos high, if_pos low, whole,
      Char.ofNat_toNat]

/-- The units of a text make the text. -/
theorem ofUnits?_flatMap (text : List Char) : ofUnits? (text.flatMap units) = some text := by
  induction text with
  | nil => rfl
  | cons c text hypothesis =>
    rw [List.flatMap_cons, ofUnits?_units_append, hypothesis, Option.map_some]

/-! ### Strings -/

/-- The character that a letter behind a backslash stands for. -/
def namedEscape? : Char → Option Char
  | '"' => some '"'
  | '\\' => some '\\'
  | '/' => some '/'
  | 'b' => some '\x08'
  | 'f' => some '\x0C'
  | 'n' => some '\n'
  | 'r' => some '\r'
  | 't' => some '\t'
  | _ => none

/-- Units in front of those that were read, with the text behind them. -/
def withUnits (first : List Nat) (read : List Nat × List Char) : List Nat × List Char :=
  (first ++ read.1, read.2)

/-- The units of a string up to the double quote that ends it, and the text behind the quote. -/
def stringUnits? : List Char → Option (List Nat × List Char)
  | [] => none
  | '"' :: rest => some ([], rest)
  | '\\' :: 'u' :: a :: b :: c :: d :: rest =>
    if [a, b, c, d].all isHexDigit then (stringUnits? rest).map (withUnits [hexNumber [a, b, c, d]])
    else none
  | '\\' :: letter :: rest => do
    let c ← namedEscape? letter
    (stringUnits? rest).map (withUnits (units c))
  | c :: rest =>
    if c = '\\' ∨ c.toNat < 0x20 then none else (stringUnits? rest).map (withUnits (units c))

/-- The string of JSON that begins a text, and the text behind it. -/
def jsonString? : List Char → Option (String × List Char)
  | '"' :: text => do
    let (read, rest) ← stringUnits? text
    return (String.ofList (← ofUnits? read), rest)
  | _ => none

/-- A string begins with a quote. -/
theorem jsonString?_eq_none {c : Char} (other : c ≠ '"') (rest : List Char) :
    jsonString? (c :: rest) = none := by
  rw [jsonString?]
  exact fun _ same => other (List.cons.inj same).1

theorem digitChar_hex : ∀ digit < 16, isHexDigit digit.digitChar = true ∧
    hexValue digit.digitChar = digit := by
  decide

/-- Hexadecimal digits end with the last one of the number. -/
theorem hexDigits_succ (width n : Nat) :
    hexDigits (width + 2) n = hexDigits (width + 1) (n / 16) ++ [(n % 16).digitChar] := by
  unfold hexDigits
  rw [Nat.toDigits_eq_if (by decide)]
  split
  · next single =>
    have zero : n / 16 = 0 := by omega
    have same : n % 16 = n := by omega
    rw [zero, same, Nat.toDigits_zero]
    simp [← List.replicate_succ']
  · simp

/-- Four digits are enough for a unit. -/
theorem hexDigits_four {unit : Nat} (short : unit < 0x10000) :
    hexDigits 4 unit = [(unit / 16 / 16 / 16).digitChar, (unit / 16 / 16 % 16).digitChar,
      (unit / 16 % 16).digitChar, (unit % 16).digitChar] := by
  have single : hexDigits 1 (unit / 16 / 16 / 16) = [(unit / 16 / 16 / 16).digitChar] := by
    rw [hexDigits, Nat.toDigits_of_lt_base (by omega)]
    rfl
  rw [hexDigits_succ, hexDigits_succ, hexDigits_succ, single]
  rfl

/-- The escape of a code unit is read as the unit. -/
theorem stringUnits?_unitEscape {unit : Nat} (short : unit < 0x10000) (rest : List Char) :
    stringUnits? (unitEscape unit ++ rest) = (stringUnits? rest).map (withUnits [unit]) := by
  have first := digitChar_hex (unit / 16 / 16 / 16) (by omega)
  have second := digitChar_hex (unit / 16 / 16 % 16) (by omega)
  have third := digitChar_hex (unit / 16 % 16) (by omega)
  have fourth := digitChar_hex (unit % 16) (by omega)
  have whole : 16 * (16 * (16 * (16 * 0 + unit / 16 / 16 / 16) + unit / 16 / 16 % 16) +
      unit / 16 % 16) + unit % 16 = unit := by omega
  rw [unitEscape, hexDigits_four short]
  simp only [List.cons_append, List.nil_append, stringUnits?, List.all_cons, List.all_nil,
    first.1, second.1, third.1, fourth.1, Bool.and_true, ↓reduceIte, hexNumber, List.foldl_cons,
    List.foldl_nil, first.2, second.2, third.2, fourth.2, whole]

theorem withUnits_append (first second : List Nat) (read : List Nat × List Char) :
    withUnits first (withUnits second read) = withUnits (first ++ second) read :=
  Prod.ext (List.append_assoc ..).symm rfl

/-- The escape of a character is read as its code units. -/
theorem stringUnits?_unicodeEscape (c : Char) (rest : List Char) :
    stringUnits? (unicodeEscape c ++ rest) = (stringUnits? rest).map (withUnits (units c)) := by
  have valid := not_surrogate c
  unfold unicodeEscape units
  split
  · next basic => exact stringUnits?_unitEscape basic rest
  · next beyond =>
    rw [List.append_assoc, stringUnits?_unitEscape (by omega), stringUnits?_unitEscape (by omega),
      Option.map_map]
    exact congrArg (Option.map · _) (funext fun read => withUnits_append ..)

/-- A quoted character is read as its units. -/
theorem stringUnits?_quotedChar (asciiOnly : Bool) (c : Char) (rest : List Char) :
    stringUnits? (quotedChar asciiOnly c ++ rest) =
      (stringUnits? rest).map (withUnits (units c)) := by
  unfold quotedChar
  -- Seven characters have an escape of two characters.
  iterate 7
    split
    · next same =>
      subst same
      rfl
  split
  · exact stringUnits?_unicodeEscape c rest
  · next quote backslash _ _ _ _ _ shown =>
    have visible : ¬(c = '\\' ∨ c.toNat < 0x20) := by
      simp only [Bool.or_eq_true, decide_eq_true_eq, not_or] at shown
      exact not_or.mpr ⟨backslash, shown.1⟩
    rw [List.singleton_append, stringUnits?, if_neg visible]
    · exact quote
    · exact fun _ _ _ _ _ same _ => backslash same
    · exact fun _ _ same _ => backslash same

/-- A quoted text is read as the text. -/
theorem jsonString?_quote (asciiOnly : Bool) (text rest : List Char) :
    jsonString? (quote asciiOnly text ++ rest) = some (String.ofList text, rest) := by
  have content : stringUnits? (text.flatMap (quotedChar asciiOnly) ++ '"' :: rest) =
      some (text.flatMap units, rest) := by
    induction text with
    | nil => rfl
    | cons c text hypothesis =>
      rw [List.flatMap_cons, List.append_assoc, stringUnits?_quotedChar, hypothesis]
      rfl
  have joined : ofUnits? (text.flatMap units) = some text := ofUnits?_flatMap text
  rw [quote, List.cons_append, List.append_assoc, List.singleton_append, jsonString?, content]
  simp only [joined, Option.bind_eq_bind, Option.bind_some]
  rfl

end TableSchema.Text
