import TableSchema.Proofs.Entries
import TableSchema.Proofs.Value.Reading

/-! # Values that literals keep

A value of the kind that expressions hold (`Value.IsPlain`) is what its literal reads as exactly if
its texts and keys are (`Value.reread_eq_iff`).
-/

namespace TableSchema.Value

/-- Whether a value, apart from its parts, is one that an expression may hold. -/
def IsPlain : Value → Prop
  | .int n => n.natAbs < 10 ^ integerDigitLimit
  | .tuple _ => False
  | .bytes _ => False
  | .dict entries => (Entries.names entries).Nodup
  | .formatted _ _ => False
  | _ => True

/-- Whether the literal of a value, apart from its parts, loses nothing of its text and keys. -/
def IsKept : Value → Prop
  | .str text => ∀ c ∈ text.toList, Text.IsQuotable false c
  | .dict entries => ∀ entry ∈ entries, Text.IsKeptKey entry.1
  | _ => True

theorem writable_of_plain {value : Value} (plain : value.IsPlain) : value.IsWritable := by
  cases value with
  | int n => exact plain
  | bytes octets => exact plain
  | formatted format text => exact plain
  | _ => trivial

/-- A number that is read is a plain value. -/
theorem plain_of_numeral {text : List Char} {value : Value}
    (read : Numeral.value text = .ok value) : value.IsPlain := by
  unfold Numeral.value at read
  split at read
  · cases parsed : (Numeral.ofText text).toInt with
    | error long => rw [parsed] at read; cases read
    | ok n =>
      rw [parsed] at read
      cases read
      unfold Numeral.toInt at parsed
      split at parsed
      · cases parsed
      · next short =>
        cases parsed
        have digits := Text.digitsValue_lt (Numeral.ofText text).whole
        have within : (10 : Nat) ^ (Numeral.ofText text).whole.length ≤ 10 ^ integerDigitLimit :=
          Nat.pow_le_pow_right (by decide) (by omega)
        have same : (if (Numeral.ofText text).negative then
            -(Text.digitsValue (Numeral.ofText text).whole : Int)
          else Text.digitsValue (Numeral.ofText text).whole).natAbs =
            Text.digitsValue (Numeral.ofText text).whole := by
          split <;> omega
        show Int.natAbs _ < _
        omega
  · cases read
    trivial
/-- A function changes no item of a list exactly if it leaves the list as it is. -/
theorem map_eq_self_iff {α : Type} {change : α → α} {items : List α} :
    items.map change = items ↔ ∀ item ∈ items, change item = item := by
  induction items with
  | nil => simp
  | cons item items hypothesis =>
    rw [List.map_cons, List.cons.injEq, hypothesis, List.forall_mem_cons]

theorem everywhere_iff {holds : Value → Prop} {value : Value} :
    value.Everywhere holds ↔ holds value ∧ ∀ part ∈ value.parts, part.Everywhere holds := by
  constructor
  · intro everywhere
    exact ⟨everywhere.here, everywhere.ofParts⟩
  · rintro ⟨here, below⟩
    exact .intro here below

theorem reread_dict_eq_iff {entries : List (String × Value)}
    (distinct : (Entries.names entries).Nodup) :
    reread (.dict entries) = .dict entries ↔
      ∀ entry ∈ entries, Text.rereadKey entry.1 = entry.1 ∧ reread entry.2 = entry.2 := by
  have pairs : (∀ entry ∈ entries, (Text.rereadKey entry.1, reread entry.2) = entry) ↔
      ∀ entry ∈ entries, Text.rereadKey entry.1 = entry.1 ∧ reread entry.2 = entry.2 := by
    simp only [Prod.ext_iff]
  rw [reread, dict.injEq, ← pairs, ← map_eq_self_iff, ← rereadEntries_eq_map]
  constructor
  · intro same
    -- A key that is lost would leave fewer entries than there were.
    have length : (rereadEntries entries).length = entries.length := by
      rw [rereadEntries_eq_map, List.length_map]
    have distinct' := Entries.nodup_of_length_ofList (by rw [same, length])
    rwa [Entries.ofList_of_nodup distinct'] at same
  · intro same
    rw [same, Entries.ofList_of_nodup distinct]

/-- The literal of a value reads as the value exactly if its texts and keys are kept. -/
theorem reread_eq_iff {value : Value} (plain : value.Everywhere IsPlain) :
    value.reread = value ↔ value.Everywhere IsKept := by
  induction plain with
  | @intro value here below hypothesis =>
    rw [everywhere_iff]
    cases value with
    | str text =>
      rw [reread, str.injEq, Text.reread_eq_iff]
      exact ⟨fun kept => ⟨kept, by simp [parts]⟩, fun kept => kept.1⟩
    | list items =>
      rw [reread, list.injEq, rereadItems_eq_map, map_eq_self_iff]
      constructor
      · exact fun same => ⟨trivial, fun item member =>
          (hypothesis item member).mp (same item member)⟩
      · exact fun kept item member => (hypothesis item member).mpr (kept.2 item member)
    | dict entries =>
      rw [reread_dict_eq_iff here]
      constructor
      · intro same
        refine ⟨fun entry member => (Text.rereadKey_eq_iff entry.1).mp (same entry member).1, ?_⟩
        intro part member
        obtain ⟨entry, listed, rfl⟩ := List.mem_map.mp member
        exact (hypothesis _ member).mp (same entry listed).2
      · rintro ⟨keys, values⟩ entry member
        have held : entry.2 ∈ parts (.dict entries) := List.mem_map_of_mem member
        exact ⟨(Text.rereadKey_eq_iff entry.1).mpr (keys entry member),
          (hypothesis _ held).mpr (values _ held)⟩
    | tuple items => exact here.elim
    | bytes octets => exact here.elim
    | formatted format text => exact here.elim
    | _ => exact ⟨fun _ => ⟨trivial, by simp [parts]⟩, fun _ => rfl⟩

end TableSchema.Value
