import TableSchema.Entries

/-! # When assignments are a dictionary already

Reading a list of assignments as a dictionary makes no new entries (`Entries.mem_of_mem_ofList`),
and changes nothing exactly if no name comes twice (`Entries.ofList_of_nodup`,
`Entries.nodup_of_length_ofList`). An entry is found under its name, also after assignments to other
names (`Entries.find?_ofList_append`).
-/

namespace TableSchema.Entries

variable {α : Type}

/-- An entry behind an assignment is the assigned one or was there before. -/
theorem mem_of_mem_insert {entries : Entries α} {name : String} {value : α} {entry : String × α}
    (member : entry ∈ entries.insert name value) : entry = (name, value) ∨ entry ∈ entries := by
  induction entries with
  | nil => exact .inl (List.mem_singleton.mp member)
  | cons first rest hypothesis =>
    obtain ⟨key, old⟩ := first
    rw [insert] at member
    split at member
    · rcases List.mem_cons.mp member with same | later
      · exact .inl same
      · exact .inr (List.mem_cons_of_mem _ later)
    · rcases List.mem_cons.mp member with same | later
      · exact .inr (List.mem_cons.mpr (.inl same))
      · rcases hypothesis later with same | found
        · exact .inl same
        · exact .inr (List.mem_cons_of_mem _ found)

/-- Every entry of a dictionary was assigned. -/
theorem mem_of_mem_ofList {assignments : Entries α} {entry : String × α}
    (member : entry ∈ ofList assignments) : entry ∈ assignments := by
  suffices general : ∀ entries : Entries α,
      entry ∈ assignments.foldl (fun entries assignment =>
        entries.insert assignment.1 assignment.2) entries →
      entry ∈ entries ∨ entry ∈ assignments from
    (general [] member).resolve_left (List.not_mem_nil)
  clear member
  induction assignments with
  | nil => exact fun _ found => .inl found
  | cons assignment rest hypothesis =>
    intro entries found
    rcases hypothesis _ found with early | late
    · rcases mem_of_mem_insert early with rfl | old
      · exact .inr (List.mem_cons_self ..)
      · exact .inl old
    · exact .inr (List.mem_cons_of_mem _ late)

/-- The names of a dictionary are those that were assigned to. -/
theorem mem_names_ofList {assignments : Entries α} {name : String} :
    name ∈ (ofList assignments).names ↔ name ∈ assignments.names := by
  suffices general : ∀ entries : Entries α,
      name ∈ names (assignments.foldl (fun entries assignment =>
        entries.insert assignment.1 assignment.2) entries) ↔
      name ∈ entries.names ∨ name ∈ assignments.names from
    (general []).trans (or_iff_right List.not_mem_nil)
  induction assignments with
  | nil => exact fun entries => (or_iff_left List.not_mem_nil).symm
  | cons assignment rest hypothesis =>
    intro entries
    have split : name ∈ names (assignment :: rest) ↔ name = assignment.1 ∨ name ∈ names rest :=
      List.mem_cons
    rw [List.foldl_cons, hypothesis, mem_names_insert, split, or_assoc, or_left_comm]

/-- A fresh name is assigned at the end. -/
theorem insert_of_fresh {entries : Entries α} {name : String} (fresh : name ∉ entries.names)
    (value : α) : entries.insert name value = entries ++ [(name, value)] := by
  induction entries with
  | nil => rfl
  | cons entry rest hypothesis =>
    obtain ⟨key, old⟩ := entry
    simp only [names, List.map_cons, List.mem_cons, not_or] at fresh
    rw [insert, if_neg (Ne.symm fresh.1), hypothesis fresh.2, List.cons_append]

/-- To assign a known name adds no entry. -/
theorem length_insert_of_mem {entries : Entries α} {name : String} (member : name ∈ entries.names)
    (value : α) : (entries.insert name value).length = entries.length := by
  induction entries with
  | nil => cases member
  | cons entry rest hypothesis =>
    obtain ⟨key, old⟩ := entry
    rw [insert]
    split
    · rfl
    · next different =>
      have later : name ∈ names rest := by
        rcases List.mem_cons.mp member with same | later
        · exact absurd same.symm different
        · exact later
      rw [List.length_cons, hypothesis later, List.length_cons]

/-- Assignments to entries whose names are all fresh are appended. -/
theorem foldl_insert_of_nodup {assignments entries : Entries α}
    (distinct : (names (entries ++ assignments)).Nodup) :
    assignments.foldl (fun entries assignment => entries.insert assignment.1 assignment.2) entries =
      entries ++ assignments := by
  induction assignments generalizing entries with
  | nil => simp
  | cons assignment rest hypothesis =>
    have fresh : assignment.1 ∉ entries.names := by
      simp only [names, List.map_append, List.map_cons, List.nodup_append] at distinct
      exact fun member => distinct.2.2 _ member _ (List.mem_cons_self ..) rfl
    rw [List.foldl_cons, insert_of_fresh fresh, hypothesis]
    · simp
    · simpa using distinct

/-- Assignments with distinct names are a dictionary. -/
theorem ofList_of_nodup {assignments : Entries α} (distinct : assignments.names.Nodup) :
    ofList assignments = assignments :=
  foldl_insert_of_nodup distinct

/-- An assignment adds an entry at most. -/
theorem length_insert_le (entries : Entries α) (name : String) (value : α) :
    (entries.insert name value).length ≤ entries.length + 1 := by
  by_cases member : name ∈ entries.names
  · rw [length_insert_of_mem member]
    omega
  · rw [insert_of_fresh member, List.length_append]
    exact Nat.le_refl _

/-- Several assignments add so many entries at most. -/
theorem length_foldl_insert_le (assignments entries : Entries α) :
    (assignments.foldl (fun entries assignment => entries.insert assignment.1 assignment.2)
      entries).length ≤ entries.length + assignments.length := by
  induction assignments generalizing entries with
  | nil => exact Nat.le_refl _
  | cons assignment rest hypothesis =>
    have later := hypothesis (entries.insert assignment.1 assignment.2)
    have first := length_insert_le entries assignment.1 assignment.2
    rw [List.foldl_cons, List.length_cons]
    omega

/-- A dictionary with as many entries as there were assignments has had no name twice. -/
theorem nodup_of_length_foldl_insert {assignments entries : Entries α}
    (distinct : entries.names.Nodup)
    (length : (assignments.foldl (fun entries assignment =>
      entries.insert assignment.1 assignment.2) entries).length =
        entries.length + assignments.length) : (names (entries ++ assignments)).Nodup := by
  induction assignments generalizing entries with
  | nil => simpa using distinct
  | cons assignment rest hypothesis =>
    rw [List.foldl_cons, List.length_cons] at length
    have later := length_foldl_insert_le rest (entries.insert assignment.1 assignment.2)
    by_cases member : assignment.1 ∈ entries.names
    · rw [length_insert_of_mem member] at later
      omega
    · have grown := insert_nodup distinct assignment.1 assignment.2
      rw [insert_of_fresh member] at grown length
      have all := hypothesis grown (by rw [length, List.length_append]; simp; omega)
      simpa using all

/-- Assignments that all add an entry have different names. -/
theorem nodup_of_length_ofList {assignments : Entries α}
    (length : (ofList assignments).length = assignments.length) : assignments.names.Nodup := by
  have start : (names ([] : Entries α)).Nodup := List.nodup_nil
  apply nodup_of_length_foldl_insert start
  rw [List.length_nil, Nat.zero_add]
  exact length

/-! ### Looking up -/

/-- A name has no value exactly if it is not among the names. -/
theorem find?_eq_none_iff {entries : Entries α} {name : String} :
    entries.find? name = none ↔ name ∉ entries.names := by
  simp only [find?, names, List.lookup_eq_none_iff, bne_iff_ne, ne_eq]
  constructor
  · intro apart member
    obtain ⟨entry, listed, rfl⟩ := List.mem_map.mp member
    exact apart entry listed rfl
  · rintro fresh entry listed rfl
    exact fresh (List.mem_map_of_mem listed)

end TableSchema.Entries
