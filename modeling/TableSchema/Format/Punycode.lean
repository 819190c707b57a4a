import TableSchema.Text.Identifier

/-! # Punycode

A label of a host name that holds characters beyond ASCII is written as its ASCII characters
followed by the places and the steps between the others. The steps are numbers in base 36 whose
digits have thresholds that adapt to the numbers already written. `encode` writes a label so, and
`decode?` reads it.
-/

namespace TableSchema.Format.Punycode

/-- The character of a digit in base 36: letters, then decimal digits. -/
def digitChar (digit : Nat) : Char :=
  if digit < 26 then Char.ofNat (97 + digit) else Char.ofNat (22 + digit)

/-- The value of a digit in base 36. -/
def digitValue? (c : Char) : Option Nat :=
  if Text.isAsciiDigit c then some (c.toNat - 22)
  else if 'a' ≤ c ∧ c ≤ 'z' then some (c.toNat - 97)
  else none

/-- The threshold of the digit at a place. -/
def threshold (place bias : Nat) : Nat :=
  min 26 (max 1 (place - bias))

/-- The bias that a remaining step asks for; `rounds` bounds the divisions. -/
def biasOf : Nat → Nat → Nat → Nat
  | 0, place, step => place + 36 * step / (step + 38)
  | rounds + 1, place, step =>
    if 455 < step then biasOf rounds (place + 36) (step / 35) else place + 36 * step / (step + 38)

/-- The bias after a step, given the number of characters written. -/
def adapt (step written : Nat) (first : Bool) : Nat :=
  let step := if first then step / 700 else step / 2
  biasOf step 0 (step + step / written)

/-- The digits of a step; `rounds` bounds their number. -/
def digits (bias : Nat) : Nat → Nat → Nat → List Char
  | 0, _, step => [digitChar step]
  | rounds + 1, place, step =>
    let limit := threshold place bias
    if step < limit then [digitChar step]
    else
      digitChar (limit + (step - limit) % (36 - limit)) ::
        digits bias rounds (place + 36) ((step - limit) / (36 - limit))

/-- What is known while steps are written. -/
structure State where
  step : Nat
  bias : Nat
  /-- The number of characters written so far. -/
  written : Nat
  output : List Char

/-- Passes a character of the label while characters of code `code` are written. -/
def State.pass (basic code : Nat) (state : State) (c : Char) : State :=
  if c.toNat < code then { state with step := state.step + 1 }
  else if c.toNat = code then
    { step := 0
      bias := adapt state.step (state.written + 1) (state.written == basic)
      written := state.written + 1
      output := state.output ++ digits state.bias (state.step + 1) 36 state.step }
  else state

/-- The steps to the given codes in ascending order, the first of them reached from `code`. -/
def steps (label : List Char) (basic : Nat) : List Nat → Nat → State → List Char
  | [], _, state => state.output
  | next :: codes, code, state =>
    let state := { state with step := state.step + (next - code) * (state.written + 1) }
    let state := label.foldl (State.pass basic next) state
    steps label basic codes (next + 1) { state with step := state.step + 1 }

/-- The encoding of a label, without a prefix. -/
def encode (label : List Char) : List Char :=
  let basic := label.filter fun c => c.toNat < 0x80
  let others := (label.filter fun c => 0x80 ≤ c.toNat).map Char.toNat
  let codes := (others.mergeSort).eraseReps
  basic ++ (if basic.isEmpty then [] else ['-']) ++
    steps label basic.length codes 0x80
      { step := 0, bias := 72, written := basic.length, output := [] }

/-- The largest number in a step. -/
def largest : Nat :=
  0xFFFFFFFF

/-- A label that is read step by step, with what is known of the step that is being read. -/
structure Reading where
  label : List Char
  /-- The code of the last character that was put into the label. -/
  code : Nat := 0x80
  /-- The place behind that character. -/
  start : Nat := 0
  bias : Nat := 72
  /-- The place of the next digit. -/
  place : Nat := 36
  /-- What the next digit is multiplied with. -/
  weight : Nat := 1
  /-- The sum of the digits so far, counted from the start. -/
  step : Nat := start
deriving DecidableEq

namespace Reading

/-- Puts the character to which a step leads into the label. -/
def insert? (reading : Reading) (step : Nat) : Option Reading :=
  let count := reading.label.length + 1
  let code := reading.code + step / count
  let place := step % count
  if code.isValidChar then
    some
      { label := reading.label.take place ++ Char.ofNat code :: reading.label.drop place
        code := code
        start := place + 1
        bias := adapt (step - reading.start) count (reading.start == 0) }
  else none

/-- Reads a digit. One below its threshold ends a step. -/
def read? (reading : Reading) (c : Char) : Option Reading := do
  let digit ← digitValue? c
  let step := reading.step + digit * reading.weight
  let limit := threshold reading.place reading.bias
  let weight := reading.weight * (36 - limit)
  if largest < step then none
  else if digit < limit then reading.insert? step
  else if largest < weight then none
  else some { reading with place := reading.place + 36, weight := weight, step := step }

/-- The label, if no step is broken off. -/
def finished? (reading : Reading) : Option (List Char) :=
  if reading.place = 36 then some reading.label else none

end Reading

/-- The label of an encoding: characters in ASCII up to the last hyphen, and steps behind it. -/
def decode? (text : List Char) : Option (List Char) := do
  let digits := (text.reverse.takeWhile (· != '-')).reverse
  let basic := text.take (text.length - digits.length - 1)
  if basic.all fun c => c.toNat < 0x80 then
    let digits := if basic.isEmpty then text else digits
    (← digits.foldlM Reading.read? { label := basic }).finished?
  else none

end TableSchema.Format.Punycode
