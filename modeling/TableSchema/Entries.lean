/-! # Ordered entries

A dictionary is a list of entries in the order in which their keys first came. `insert` keeps the
place of a key that is already there and gives it the new value, so `ofList` reads a list with
repeated keys the way a sequence of assignments does: a key stands where it came first and holds
what it got last. After `insert` and `ofList` no key stands twice (`ofList_nodup`).
-/

namespace TableSchema

/-- Named entries in order. -/
abbrev Entries (α : Type) : Type := List (String × α)

namespace Entries

variable {α : Type}

/-- The names of the entries, in order. -/
def names (entries : Entries α) : List String :=
  entries.map Prod.fst

/-- Gives `name` the value `value`, in its place if it has one and at the end otherwise. -/
def insert : Entries α → String → α → Entries α
  | [], name, value => [(name, value)]
  | (key, old) :: rest, name, value =>
    if key = name then (name, value) :: rest else (key, old) :: insert rest name value

/-- The value of a name. -/
def find? (entries : Entries α) (name : String) : Option α :=
  entries.lookup name

/-- The entries without those of one name. -/
def erase (entries : Entries α) (name : String) : Entries α :=
  entries.filter fun entry => entry.1 != name

/-- The dictionary that a list of assignments leaves. -/
def ofList (assignments : Entries α) : Entries α :=
  assignments.foldl (fun entries assignment => entries.insert assignment.1 assignment.2) []

theorem mem_names_insert (entries : Entries α) (name other : String) (value : α) :
    other ∈ (entries.insert name value).names ↔ other = name ∨ other ∈ entries.names := by
  induction entries with
  | nil => simp [insert, names]
  | cons entry rest hypothesis =>
    obtain ⟨key, old⟩ := entry
    simp only [names] at hypothesis
    unfold insert
    split
    · next same => subst same; simp [names]
    · next different =>
      simp only [names, List.map_cons, List.mem_cons, hypothesis]
      exact or_left_comm

/-- Inserting keeps the names distinct. -/
theorem insert_nodup {entries : Entries α} (distinct : entries.names.Nodup) (name : String)
    (value : α) : (entries.insert name value).names.Nodup := by
  induction entries with
  | nil => simp [insert, names]
  | cons entry rest hypothesis =>
    obtain ⟨key, old⟩ := entry
    have ⟨fresh, distinct⟩ := List.nodup_cons.mp distinct
    unfold insert
    split
    · next same => subst same; exact List.nodup_cons.mpr ⟨fresh, distinct⟩
    · next different =>
      refine List.nodup_cons.mpr ⟨?_, hypothesis distinct⟩
      intro member
      rcases (mem_names_insert rest name key value).mp member with same | member
      · exact different same
      · exact fresh member

/-- A dictionary read from a list has distinct names. -/
theorem ofList_nodup (assignments : Entries α) : (ofList assignments).names.Nodup := by
  suffices general : ∀ entries : Entries α, entries.names.Nodup →
      (assignments.foldl (fun entries assignment =>
        entries.insert assignment.1 assignment.2) entries).names.Nodup from
    general [] (by simp [names])
  induction assignments with
  | nil => exact fun _ distinct => distinct
  | cons assignment rest hypothesis =>
    exact fun entries distinct => hypothesis _ (insert_nodup distinct _ _)

end Entries

end TableSchema
