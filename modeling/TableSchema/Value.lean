import TableSchema.Binary64
import TableSchema.Entries

/-! # Values

The dynamic values that columns have as defaults, that rows hold and that schemas name as literals.
`Value.alike` is equality of values as data: a boolean counts as the number zero or one, an integer
and a floating point number are compared exactly, dictionaries are compared without order, and
not-a-number is like nothing. Equality of `Value` itself is finer and decidable.
-/

namespace TableSchema

/-- The formats of which a checked text keeps the canonical spelling. -/
inductive TextFormat where
  | date
  | datetime
  | time
  | uuid
  | url
deriving DecidableEq

/-- A dynamic value. -/
inductive Value where
  | null
  | bool (truth : Bool)
  | int (n : Int)
  | float (x : Binary64)
  | str (text : String)
  | list (items : List Value)
  | tuple (items : List Value)
  | bytes (octets : List UInt8)
  | dict (entries : List (String × Value))
  /-- A text that was read in a format, in its canonical spelling. -/
  | formatted (format : TextFormat) (text : String)
deriving Inhabited

namespace Value

mutual

/-- Whether two values are the same, as a boolean. -/
def same : Value → Value → Bool
  | .null, .null => true
  | .bool a, .bool b => a == b
  | .int m, .int n => m == n
  | .float x, .float y => x == y
  | .str s, .str t => s == t
  | .list xs, .list ys => sameItems xs ys
  | .tuple xs, .tuple ys => sameItems xs ys
  | .bytes xs, .bytes ys => xs == ys
  | .dict es, .dict fs => sameEntries es fs
  | .formatted f s, .formatted g t => f == g && s == t
  | _, _ => false

/-- Whether two lists hold the same values. -/
def sameItems : List Value → List Value → Bool
  | [], [] => true
  | x :: xs, y :: ys => same x y && sameItems xs ys
  | _, _ => false

/-- Whether two dictionaries hold the same entries in the same order. -/
def sameEntries : List (String × Value) → List (String × Value) → Bool
  | [], [] => true
  | (k, x) :: es, (l, y) :: fs => k == l && same x y && sameEntries es fs
  | _, _ => false

end

mutual

/-- `same` decides equality. -/
theorem same_iff : ∀ a b : Value, same a b = true ↔ a = b
  | .null, b => by cases b <;> simp [same]
  | .bool _, b => by cases b <;> simp [same]
  | .int _, b => by cases b <;> simp [same]
  | .float _, b => by cases b <;> simp [same]
  | .str _, b => by cases b <;> simp [same]
  | .list xs, b => by cases b <;> simp [same, sameItems_iff xs]
  | .tuple xs, b => by cases b <;> simp [same, sameItems_iff xs]
  | .bytes _, b => by cases b <;> simp [same]
  | .dict es, b => by cases b <;> simp [same, sameEntries_iff es]
  | .formatted _ _, b => by cases b <;> simp [same]

/-- `sameItems` decides equality. -/
theorem sameItems_iff : ∀ xs ys : List Value, sameItems xs ys = true ↔ xs = ys
  | [], ys => by cases ys <;> simp [sameItems]
  | x :: xs, ys => by cases ys <;> simp [sameItems, same_iff x, sameItems_iff xs]

/-- `sameEntries` decides equality. -/
theorem sameEntries_iff : ∀ es fs : List (String × Value), sameEntries es fs = true ↔ es = fs
  | [], fs => by cases fs <;> simp [sameEntries]
  | (k, x) :: es, fs => by
    cases fs with
    | nil => simp [sameEntries]
    | cons entry fs =>
      obtain ⟨l, y⟩ := entry
      simp [sameEntries, same_iff x, sameEntries_iff es]

end

instance : DecidableEq Value := fun a b =>
  decidable_of_iff (same a b = true) (same_iff a b)

/-- The number that a boolean or number counts as. -/
def asNumber? : Value → Option (Int ⊕ Binary64)
  | .bool truth => some (.inl (if truth then 1 else 0))
  | .int n => some (.inl n)
  | .float x => some (.inr x)
  | _ => none

/-- Whether two numbers are equal as exact numbers. -/
def numbersAlike : Int ⊕ Binary64 → Int ⊕ Binary64 → Bool
  | .inl m, .inl n => m == n
  | .inl m, .inr y => y.equalsInt m
  | .inr x, .inl n => x.equalsInt n
  | .inr x, .inr y => x.equals y

/-- Whether two values without parts are equal as data. -/
def atomsAlike (a b : Value) : Bool :=
  match a.asNumber?, b.asNumber? with
  | some m, some n => numbersAlike m n
  | some _, none => false
  | none, some _ => false
  | none, none => same a b

mutual

/-- Whether two values are equal as data. -/
def alike : Value → Value → Bool
  | .list xs, b =>
    match b with
    | .list ys => alikeItems xs ys
    | _ => false
  | .tuple xs, b =>
    match b with
    | .tuple ys => alikeItems xs ys
    | _ => false
  | .dict es, b =>
    match b with
    | .dict fs => es.length == fs.length && alikeEntries es fs
    | _ => false
  | a, b => atomsAlike a b

/-- Whether two lists are equal as data, item by item. -/
def alikeItems : List Value → List Value → Bool
  | [], [] => true
  | x :: xs, y :: ys => alike x y && alikeItems xs ys
  | _, _ => false

/-- Whether each entry has a counterpart of its name in the second dictionary. -/
def alikeEntries : List (String × Value) → List (String × Value) → Bool
  | [], _ => true
  | (k, x) :: es, fs =>
    (match List.lookup k fs with
      | some y => alike x y
      | none => false) && alikeEntries es fs

end

/-- Whether a value is a list or a dictionary. -/
def isCompound : Value → Bool
  | .list _ => true
  | .dict _ => true
  | _ => false

mutual

/-- Whether a value, or a part of it, has a property that only values without parts have. -/
def anyAtom (holds : Value → Bool) : Value → Bool
  | .list items => anyAtomIn holds items
  | .tuple items => anyAtomIn holds items
  | .dict entries => anyAtomOf holds entries
  | value => holds value

/-- Whether an item of a list has a property of values without parts. -/
def anyAtomIn (holds : Value → Bool) : List Value → Bool
  | [] => false
  | item :: items => anyAtom holds item || anyAtomIn holds items

/-- Whether an entry of a dictionary has a property of values without parts. -/
def anyAtomOf (holds : Value → Bool) : List (String × Value) → Bool
  | [] => false
  | (_, value) :: entries => anyAtom holds value || anyAtomOf holds entries

end

/-- The part of a value under a key: an entry of a dictionary or an item of a list. -/
def part? (value : Value) (key : String) : Option Value :=
  match value with
  | .dict entries => List.lookup key entries
  | .list items => (items.zipIdx.find? fun item => toString item.2 == key).map Prod.fst
  | _ => none

/-- The part of a value at the end of a path, as far as the path can be followed. -/
def follow (value : Value) : List String → Value
  | [] => value
  | key :: path =>
    match value.part? key with
    | some part => part.follow path
    | none => value

/-- Whether a value counts as true: all values do but null, false, zero and the empty ones. -/
def isTruthy : Value → Bool
  | .null => false
  | .bool truth => truth
  | .int n => n != 0
  | .float x => !x.equalsInt 0
  | .str text => text != ""
  | .list items => !items.isEmpty
  | .tuple items => !items.isEmpty
  | .bytes octets => !octets.isEmpty
  | .dict entries => !entries.isEmpty
  | .formatted _ _ => true

end Value

end TableSchema
