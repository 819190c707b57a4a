import TableSchema.Proofs.Row.Model

/-! # Keys of accepted rows

Every key of a row that a strict model accepts is taken by a field. An aliased field takes its
attribute where its name is missing, so a row of a strict table may have a key that names no column
(`liveSchema_row_keys`).
-/

namespace TableSchema

namespace Row

/-- A field takes its name where the row has it. -/
theorem given?_of_name {τ : Type} {field : RowField τ} {row : Entries Value} {value : Value}
    (byName : row.find? field.name = some value) :
    given? field row = some (field.name, value) := by
  rw [given?, List.findSome?_cons, byName, Option.map_some]

/-- A field takes its name, or its attribute where the name is missing. -/
theorem given?_cases {τ : Type} {field : RowField τ} {row : Entries Value} {key : String}
    {value : Value} (given : given? field row = some (key, value)) :
    key = field.name ∨ key = field.attr ∧ field.name ∉ row.names := by
  cases byName : row.find? field.name with
  | some found =>
    cases (given?_of_name byName).symm.trans given
    exact .inl rfl
  | none =>
    have missing := Entries.find?_eq_none_iff.mp byName
    cases byAttribute : row.find? field.attr with
    | some found =>
      simp only [given?, List.findSome?_cons, byName, byAttribute, Option.map_none,
        Option.map_some] at given
      cases given
      exact .inr ⟨rfl, missing⟩
    | none =>
      simp [given?, byName, byAttribute] at given

/-- All keys of a row that leaves nothing over are taken. -/
theorem exists_given?_of_extraEntries {τ : Type} {fields : List (RowField τ)} {row : Entries Value}
    (nothing : extraEntries fields row = []) {key : String} (member : key ∈ row.names) :
    ∃ field ∈ fields, ∃ value, given? field row = some (key, value) := by
  obtain ⟨entry, listed, rfl⟩ := List.mem_map.mp member
  have taken : entry.1 ∈ takenKeys fields row := by
    simpa using List.filter_eq_nil_iff.mp nothing entry listed
  obtain ⟨field, found, given⟩ := List.mem_filterMap.mp taken
  obtain ⟨⟨key, value⟩, given, same⟩ := Option.map_eq_some_iff.mp given
  cases same
  exact ⟨field, found, value, given⟩

/-- The name of a field is no key that is left over. -/
theorem not_mem_names_extraEntries {τ : Type} {fields : List (RowField τ)} {row : Entries Value}
    {field : RowField τ} (listed : field ∈ fields) :
    field.name ∉ (extraEntries fields row).names := by
  intro member
  obtain ⟨entry, found, named⟩ := List.mem_map.mp member
  obtain ⟨inRow, free⟩ := List.mem_filter.mp found
  have untaken : field.name ∉ takenKeys fields row := by simpa [named] using free
  cases byName : row.find? field.name with
  | none => exact Entries.find?_eq_none_iff.mp byName (List.mem_map.mpr ⟨entry, inRow, named⟩)
  | some value =>
    refine untaken (List.mem_filterMap.mpr ⟨field, listed, ?_⟩)
    rw [given?_of_name byName, Option.map_some]

end Row

variable {source : ColumnSource} {table : String} {options : TableOptions}
  {columns : Entries Column}

/-- Every key of a row that the model of a strict table accepts is the name of a selected column, or
else the attribute of an aliased column whose name is missing from the row. Where no selected column
needs an alias, every key is the name of a selected column. -/
theorem liveSchema_row_keys (fetched : source.columns table = .ok columns)
    (dictionary : columns.names.Nodup) (strict : options.strict = true) {type : RowType}
    (built : liveSchema source table (some Row.backend) options = .ok (some type))
    {row : Entries Value} (accepted : type.Accepts (.dict row)) :
    (∀ key ∈ row.names, key ∈ options.select columns.names ∨
      ∃ field ∈ type.fields, field.attr = key ∧ field.name ∈ options.select columns.names ∧
        Row.needsAlias field.name = true ∧ field.name ∉ row.names) ∧
    ((∀ name ∈ options.select columns.names, Row.needsAlias name = false) →
      ∀ key ∈ row.names, key ∈ options.select columns.names) := by
  obtain ⟨fields, rowFields, selected, -, each, same⟩ :=
    rowModel_of_liveSchema fetched dictionary built
  cases same
  have names := names_selectedFields selected
  obtain ⟨-, onto⟩ := RowType.exists_of_forall₂ each
  obtain ⟨row', isRow, -, nothing⟩ := RowType.accepts_model.mp accepted
  cases isRow
  have taken : ∀ key ∈ row.names, key ∈ options.select columns.names ∨
      ∃ field ∈ rowFields, field.attr = key ∧ field.name ∈ options.select columns.names ∧
        Row.needsAlias field.name = true ∧ field.name ∉ row.names := by
    intro key member
    have strictly : Extras.ofMode (some options.mode) = .forbid := by
      simp [TableOptions.mode, strict, Extras.ofMode]
    obtain ⟨field, listed, value, given⟩ :=
      Row.exists_given?_of_extraEntries (nothing strictly) member
    obtain ⟨entry, found, isField⟩ := onto field listed
    have named : field.name ∈ options.select columns.names := by
      rw [isField.name, ← names]
      exact List.mem_map_of_mem found
    rcases Row.given?_cases given with rfl | ⟨rfl, missing⟩
    · exact .inl named
    · cases aliased : Row.needsAlias entry.1 with
      | false =>
        rw [isField.plain aliased, ← isField.name]
        exact .inl named
      | true => exact .inr ⟨field, listed, rfl, named, isField.name ▸ aliased, missing⟩
  refine ⟨taken, fun unaliased key member => ?_⟩
  rcases taken key member with named | ⟨field, -, -, named, aliased, -⟩
  · exact named
  · cases (unaliased _ named).symm.trans aliased

/-- The model of a table with a column `_id` accepts the attribute of the column as a key. -/
theorem exists_model_underscore :
    ∃ type, liveSchema (.ofTables [("items", [("_id", { typeName := "integer" })])]) "items"
        (some Row.backend) { strict := true } = .ok (some type) ∧
      type.check (.dict [("field_0", .int 1)]) = .accepted (.dict [("_id", .int 1)]) := by
  have found : ((liveSchema (.ofTables [("items", [("_id", { typeName := "integer" })])]) "items"
      (some Row.backend) { strict := true }).toOption.join.any fun type =>
        type.check (.dict [("field_0", .int 1)]) = .accepted (.dict [("_id", .int 1)])) = true := by
    decide +kernel
  obtain ⟨type, live, checked⟩ := exists_type_of_any found
  exact ⟨type, live, of_decide_eq_true checked⟩

/-- A strict model accepts a row whose key names no column. -/
theorem liveSchema_row_keys_foreign :
    ∃ type, liveSchema (.ofTables [("items", [("_id", { typeName := "integer" })])]) "items"
        (some Row.backend) { strict := true } = .ok (some type) ∧
      type.Accepts (.dict [("field_0", .int 1)]) ∧
      "field_0" ∉ TableOptions.select { strict := true } ["_id"] := by
  obtain ⟨type, live, checked⟩ := exists_model_underscore
  exact ⟨type, live, ⟨_, checked⟩, by decide⟩

/-- The key of that row is the attribute of the column, whose name is missing. -/
theorem liveSchema_row_keys_attribute :
    ∃ type, liveSchema (.ofTables [("items", [("_id", { typeName := "integer" })])]) "items"
        (some Row.backend) { strict := true } = .ok (some type) ∧
      type.Accepts (.dict [("field_0", .int 1)]) ∧
      ∃ field ∈ type.fields, field.attr = "field_0" ∧ field.name ∈ ["_id"] ∧
        Row.needsAlias field.name = true := by
  obtain ⟨type, live, checked⟩ := exists_model_underscore
  have taken := (liveSchema_row_keys rfl (by decide) rfl live ⟨_, checked⟩).1 "field_0" (by decide)
  obtain named | ⟨field, listed, same, named, aliased, -⟩ := taken
  · exact absurd named (by decide)
  · exact ⟨type, live, ⟨_, checked⟩, field, listed, same, named, aliased⟩

end TableSchema
