import TableSchema.Proofs.Row.Filled
import TableSchema.Proofs.Selection

/-! # Keys that no field takes

The models of a table that differ in strictness have the same fields, so a row has the same issues
with both, but for one more with the strict model for each key that no field takes. The strict model
accepts a row exactly if the other does and keeps no key beyond the selected columns
(`liveSchema_strict_iff`).
-/

namespace TableSchema

open Schema

/-! ### Issues -/

namespace Checked

variable {α β : Type}

@[simp] theorem issues_map {check : Checked α} (change : α → β) :
    (change <$> check).issues = check.issues := by
  cases check <;> rfl

/-- The issues of two checks in a row are those of the first and those of the second. -/
@[simp] theorem issues_seq {function : Checked (α → β)} {check : Checked α} :
    (function <*> check).issues = function.issues ++ check.issues := by
  cases function with
  | accepted function => cases check <;> rfl
  | refused issues =>
    cases check with
    | accepted result => exact (List.append_nil issues).symm
    | refused others => rfl

@[simp] theorem issues_under {check : Checked α} (part : String) :
    (check.under part).issues = check.issues.map (·.under part) := by
  cases check <;> rfl

/-- The issues of a list of checks are those of each, in order. -/
theorem issues_all {checks : List (Checked α)} : (all checks).issues = checks.flatMap issues := by
  induction checks with
  | nil => rfl
  | cons check checks hypothesis =>
    rw [all, issues_seq, issues_map, hypothesis, List.flatMap_cons]

/-- The issues of named checks lie in the parts that they check. -/
theorem issues_entries {checks : List (String × Checked α)} :
    (entries checks).issues =
      checks.flatMap fun check => check.2.issues.map (·.under check.1) := by
  rw [entries, issues_all, List.flatMap_map]
  simp only [issues_map, issues_under]

end Checked

namespace Row

variable {fields : List (RowField RowType)} {row : Entries Value}

/-- Where other keys are forbidden, each of them is an issue. -/
theorem issues_checkExtras_forbid (entries : Entries Value) :
    (checkExtras .forbid entries).issues =
      entries.names.map fun key => ⟨[key], .extraForbidden⟩ := by
  calc (checkExtras .forbid entries).issues
    _ = entries.flatMap fun entry => [⟨[entry.1], .extraForbidden⟩] := by
      rw [checkExtras, Checked.issues_entries, List.flatMap_map]
      rfl
    _ = entries.map fun entry => ⟨[entry.1], .extraForbidden⟩ := (List.map_eq_flatMap ..).symm
    _ = entries.names.map fun key => ⟨[key], .extraForbidden⟩ := by
      rw [Entries.names, List.map_map]
      rfl

/-! ### Free keys -/

/-- A key is taken exactly if a field is given its value. -/
theorem mem_takenKeys {τ : Type} {fields : List (RowField τ)} {key : String} :
    key ∈ takenKeys fields row ↔
      ∃ field ∈ fields, ∃ value, given? field row = some (key, value) := by
  simp [takenKeys]

/-- The keys that are left over are those of the row that no field takes. -/
theorem mem_names_extraEntries {key : String} : key ∈ (extraEntries fields row).names ↔
    key ∈ row.names ∧ ∀ field ∈ fields, ∀ value, given? field row ≠ some (key, value) := by
  have free : key ∉ takenKeys fields row ↔
      ∀ field ∈ fields, ∀ value, given? field row ≠ some (key, value) := by
    simp [mem_takenKeys]
  rw [← free]
  constructor
  · intro member
    obtain ⟨entry, left, rfl⟩ := List.mem_map.mp member
    obtain ⟨listed, untaken⟩ := List.mem_filter.mp left
    exact ⟨List.mem_map_of_mem listed, by simpa using untaken⟩
  · rintro ⟨member, untaken⟩
    obtain ⟨entry, listed, rfl⟩ := List.mem_map.mp member
    exact List.mem_map_of_mem (List.mem_filter.mpr ⟨listed, by simpa using untaken⟩)

/-- The keys that no field takes are different in a dictionary. -/
theorem nodup_extraEntries (dictionary : row.names.Nodup) :
    (extraEntries fields row).names.Nodup := by
  have kept : (extraEntries fields row).Sublist row := List.filter_sublist
  exact dictionary.sublist (kept.map _)

/-- An issue with the fields of a row is under the key that a field takes, or under the name of a
field that is left out. -/
theorem path_of_issue {issue : Issue} (member : issue ∈ (fitFields fields row).issues) :
    ∃ field ∈ fields, ∃ key path, issue.path = key :: path ∧
      ((∃ value, given? field row = some (key, value)) ∨
        key = field.name ∧ given? field row = none) := by
  induction fields with
  | nil => cases member
  | cons field fields hypothesis =>
    obtain ⟨attr, alias?, type, required, default⟩ := field
    rw [fitFields, Checked.issues_seq, Checked.issues_map, Checked.issues_map,
      List.mem_append] at member
    rcases member with here | later
    · refine ⟨_, List.mem_cons_self .., ?_⟩
      cases given : given? ⟨attr, alias?, type, required, default⟩ row with
      | some entry =>
        rw [given, Checked.issues_under] at here
        obtain ⟨inner, -, rfl⟩ := List.mem_map.mp here
        exact ⟨entry.1, inner.path, rfl, .inl ⟨entry.2, rfl⟩⟩
      | none =>
        rw [given] at here
        cases required with
        | false => cases here
        | true =>
          cases List.mem_singleton.mp here
          exact ⟨_, [], rfl, .inr ⟨rfl, rfl⟩⟩
    · obtain ⟨field, listed, found⟩ := hypothesis later
      exact ⟨field, List.mem_cons_of_mem _ listed, found⟩

/-- No issue with the fields of a row is about a key that is left over. -/
theorem path_ne_of_issue {issue : Issue} (member : issue ∈ (fitFields fields row).issues)
    {key : String} (free : key ∈ (extraEntries fields row).names) : issue.path ≠ [key] := by
  intro same
  obtain ⟨inRow, untaken⟩ := mem_names_extraEntries.mp free
  obtain ⟨field, listed, key', path, isPath, found⟩ := path_of_issue member
  cases isPath.symm.trans same
  rcases found with ⟨value, given⟩ | ⟨named, left⟩
  · exact untaken field listed value given
  · exact not_mem_names_extraEntries listed (named ▸ free)

end Row

namespace RowType

variable {name : String} {extras : Extras} {fields : List (RowField RowType)} {row : Entries Value}

/-- The issues of a model with a row are those of its fields and those of further keys. -/
theorem issues_check_model : ((model name extras fields).check (.dict row)).issues =
    (Row.fitFields fields row).issues ++
      (Row.checkExtras extras (Row.extraEntries fields row)).issues := by
  calc ((model name extras fields).check (.dict row)).issues
    _ = (Row.fit (model name extras fields) (.dict row)).issues := by
      rw [check, Checked.issues_map]
    _ = (Row.fitFields fields row).issues ++ [] ++
        (Row.checkExtras extras (Row.extraEntries fields row)).issues := by
      rw [Row.fit, Checked.issues_seq, Checked.issues_seq, Checked.issues_map]
      rfl
    _ = _ := by rw [List.append_nil]

/-- The values of a validated row: those of the fields, and then those of the kept keys. -/
theorem check_model_eq_accepted {dump : Value} :
    (model name extras fields).check (.dict row) = .accepted dump ↔
      ∃ entries kept, Row.fitFields fields row = .accepted entries ∧
        Row.checkExtras extras (Row.extraEntries fields row) = .accepted kept ∧
        dump = .dict (Entries.ofList
          (entries.map (fun entry => (entry.1, entry.2.1)) ++ kept)) := by
  constructor
  · intro accepted
    obtain ⟨fitted, fits, rfl⟩ := Checked.map_eq_accepted accepted
    rw [Row.fit] at fits
    obtain ⟨make, kept, made, keeps, rfl⟩ := Checked.seq_eq_accepted fits
    obtain ⟨make', count, made', -, rfl⟩ := Checked.seq_eq_accepted made
    obtain ⟨entries, fitFields, rfl⟩ := Checked.map_eq_accepted made'
    exact ⟨entries, kept, fitFields, keeps, rfl⟩
  · rintro ⟨entries, kept, fitFields, keeps, rfl⟩
    rw [check, Row.fit, fitFields, keeps]
    rfl

/-- A row is accepted where other keys are forbidden exactly if it is accepted where they are kept
and none is kept. -/
theorem check_forbid_eq_accepted {dump : Value} :
    (model name .forbid fields).check (.dict row) = .accepted dump ↔
      (model name .allow fields).check (.dict row) = .accepted dump ∧
        ∃ kept : Entries Value, dump = .dict kept ∧
          ∀ key ∈ kept.names, key ∈ fields.map (·.name) := by
  have names {entries : Entries Row.Fitted} (fits : Row.fitFields fields row = .accepted entries) :
      Entries.names (entries.map fun entry => (entry.1, entry.2.1)) = fields.map (·.name) := by
    rw [Entries.names, List.map_map]
    exact map_eq_of_forall₂ And.left (Row.forall₂_fitFields fits)
  rw [check_model_eq_accepted, check_model_eq_accepted]
  constructor
  · rintro ⟨entries, kept, fits, keeps, rfl⟩
    have nothing := Row.isAccepted_checkExtras.mp ⟨kept, keeps⟩ rfl
    rw [nothing] at keeps ⊢
    cases keeps
    refine ⟨⟨entries, [], fits, rfl, rfl⟩, _, rfl, fun key member => ?_⟩
    rwa [Entries.mem_names_ofList, List.append_nil, names fits] at member
  · rintro ⟨⟨entries, kept, fits, keeps, rfl⟩, _, same, within⟩
    cases same
    cases keeps
    have nothing : Row.extraEntries fields row = [] := by
      refine List.eq_nil_iff_forall_not_mem.mpr fun entry left => ?_
      have free : entry.1 ∈ (Row.extraEntries fields row).names := List.mem_map_of_mem left
      have member : entry.1 ∈ Entries.names (Entries.ofList
          (entries.map (fun entry => (entry.1, entry.2.1)) ++ Row.extraEntries fields row)) := by
        rw [Entries.mem_names_ofList, Entries.names, List.map_append]
        exact List.mem_append_right _ free
      obtain ⟨field, listed, named⟩ := List.mem_map.mp (within _ member)
      exact Row.not_mem_names_extraEntries listed (named ▸ free)
    exact ⟨entries, [], fits, by rw [nothing]; rfl, by rw [nothing]⟩

end RowType

/-! ### Strict and loose tables -/

/-- The options with the given strictness. -/
def TableOptions.withStrict (options : TableOptions) (strict : Bool) : TableOptions :=
  { options with strict }

variable {source : ColumnSource} {table : String} {options : TableOptions}
  {columns : Entries Column}

/-- The fields of a table do not depend on its strictness. -/
theorem selectedFields_withStrict (strict : Bool) :
    selectedFields (options.withStrict strict) columns = selectedFields options columns := by
  induction columns with
  | nil => rfl
  | cons entry columns hypothesis =>
    obtain ⟨name, column⟩ := entry
    rw [selectedFields, selectedFields, hypothesis]
    rfl

/-- The live schema of a table is built of its fields, and then its mode is looked at. -/
theorem liveSchema_of_selectedFields {σ : Type} {backend : Backend σ} {fields : Entries Schema}
    (found : source.fetch table = .ok columns) (distinct : fields.names.Nodup)
    (selected : selectedFields options columns = .ok fields) :
    liveSchema source table (some backend) options = Except.mapError (.ofBuild table)
      (buildFields backend (buildText backend) (modelName [table]) fields >>= fun members =>
        call (backend.object (modelName [table]) members (some options.mode))) := by
  rw [liveSchema, assemble_of_selectedFields found distinct selected]
  refine congrArg (Except.mapError (LiveError.ofBuild table)) ?_
  rw [build, buildWith_of_shape (fun _ isRaw => by cases isRaw), buildShape]
  cases buildFields backend (buildText backend) (modelName [table]) fields with
  | error error => rfl
  | ok members =>
    show Prod.fst <$> (call (backend.object (modelName [table]) members _) >>= _) =
      call (backend.object (modelName [table]) members (some options.mode))
    cases backend.object (modelName [table]) members (some options.mode) <;> rfl

/-- The models of a table are those of the same fields, whatever its strictness, unless the table
has no model. -/
theorem rowModels_of_liveSchema (fetched : source.columns table = .ok columns)
    (dictionary : columns.names.Nodup) :
    (∃ error, ∀ strict, liveSchema source table (some Row.backend) (options.withStrict strict) =
      .error error) ∨
    ∃ fields : List (RowField RowType), fields.map (·.name) = options.select columns.names ∧
      ∀ strict, liveSchema source table (some Row.backend) (options.withStrict strict) =
        .ok (some (.model (modelName [table]) (if strict then .forbid else .allow) fields)) := by
  -- No step up to the fields of the model looks at the mode, and each may fail for both alike.
  cases found : source.fetch table with
  | error error =>
    refine .inl ⟨.assembly error, fun strict => ?_⟩
    rw [liveSchema, assemble, found]
    rfl
  | ok columns' =>
    cases fetched.symm.trans (columns_of_fetch found)
    cases selected : selectedFields options columns with
    | error error =>
      refine .inl ⟨.assembly (.mapping error), fun strict => ?_⟩
      rw [liveSchema, assemble, found]
      show Except.bind (Except.mapError _ (Except.bind (Except.mapError _
        (selectedFields (options.withStrict strict) columns)) _)) _ = _
      rw [selectedFields_withStrict, selected]
      rfl
    | ok fields =>
      have names := names_selectedFields selected
      have distinct : fields.names.Nodup := names ▸ dictionary.filter _
      have live (strict : Bool) : liveSchema source table (some Row.backend) _ = _ :=
        liveSchema_of_selectedFields found distinct
          ((selectedFields_withStrict strict).trans selected)
      cases built : buildFields Row.backend (buildText Row.backend) (modelName [table]) fields with
      | error error => exact .inl ⟨_, fun strict => by rw [live, built]; rfl⟩
      | ok members =>
        have made (strict : Bool) :
            liveSchema source table (some Row.backend) (options.withStrict strict) =
              (call (Row.backend.object (modelName [table]) members
                (some (options.withStrict strict).mode))).mapError (.ofBuild table) := by
          rw [live, built]
          rfl
        cases usable : Row.usableMembers members with
        | none =>
          refine .inl ⟨.ofBuild table (.backend (.failed "SchemaError" "Invalid Schema")),
            fun strict => ?_⟩
          rw [made]
          simp only [Row.backend, usable]
          rfl
        | some usable' =>
          have each := Row.forall₂_modelFields distinct built usable
          have rowNames : (Row.define (RowType.shareMembers [] usable')).map (·.name) =
              fields.names := map_eq_of_forall₂ Row.IsFieldFor.name each
          refine .inr ⟨_, rowNames.trans names, fun strict => ?_⟩
          rw [made]
          simp only [Row.backend, usable]
          cases strict <;> rfl

/-- The strict and the loose model of a table have the same fields, if the table has a model. The
strict one accepts a row with the same values as the loose one, provided that no key beyond the
selected columns is among them. Its issues with a row are those of the loose one, and one more for
each key of the row that no field takes.

A row is a dictionary whose keys are texts, each of which it holds once: the rows that the operation
of validating is handed. Nothing is said here of a dictionary with a key of another kind, which a
model that forbids other keys refuses whether or not a field could take it. -/
theorem liveSchema_strict_iff (fetched : source.columns table = .ok columns)
    (dictionary : columns.names.Nodup) :
    (∃ error, ∀ strict, liveSchema source table (some Row.backend) (options.withStrict strict) =
      .error error) ∨
    ∃ strict loose : RowType,
      liveSchema source table (some Row.backend) (options.withStrict true) = .ok (some strict) ∧
      liveSchema source table (some Row.backend) (options.withStrict false) = .ok (some loose) ∧
      strict.fields = loose.fields ∧
      ∀ row : Entries Value, row.names.Nodup →
        (∀ dump, strict.check (.dict row) = .accepted dump ↔
          loose.check (.dict row) = .accepted dump ∧
            ∃ kept : Entries Value, dump = .dict kept ∧
              ∀ key ∈ kept.names, key ∈ options.select columns.names) ∧
        ∃ free : List String, free.Nodup ∧
          (∀ key, key ∈ free ↔ key ∈ row.names ∧
            ∀ field ∈ loose.fields, ∀ value, Row.given? field row ≠ some (key, value)) ∧
          (strict.check (.dict row)).issues = (loose.check (.dict row)).issues ++
            free.map (fun key => ⟨[key], .extraForbidden⟩) ∧
          ∀ issue ∈ (loose.check (.dict row)).issues, ∀ key ∈ free, issue.path ≠ [key] := by
  refine (rowModels_of_liveSchema fetched dictionary).imp_right ?_
  rintro ⟨fields, names, live⟩
  refine ⟨.model (modelName [table]) .forbid fields, .model (modelName [table]) .allow fields,
    live true, live false, rfl, fun row distinct => ⟨fun dump => ?_, ?_⟩⟩
  · rw [← names]
    exact RowType.check_forbid_eq_accepted
  · have loose : ((RowType.model (modelName [table]) .allow fields).check (.dict row)).issues =
        (Row.fitFields fields row).issues := by
      rw [RowType.issues_check_model]
      exact List.append_nil _
    refine ⟨(Row.extraEntries fields row).names, Row.nodup_extraEntries distinct,
      fun key => Row.mem_names_extraEntries, ?_, fun issue member key free => ?_⟩
    · rw [loose, RowType.issues_check_model, Row.issues_checkExtras_forbid]
    · rw [loose] at member
      exact Row.path_ne_of_issue member free

/-- Of a row with the name and the attribute of a column the strict model refuses the attribute. -/
theorem liveSchema_strict_iff_underscore :
    let source : ColumnSource := .ofTables [("items", [("_id", { typeName := "integer" })])]
    let row : Entries Value := [("_id", .str "x"), ("field_0", .int 2), ("y", .int 1)]
    ∃ (strict loose : RowType) (free : List String),
      liveSchema source "items" (some Row.backend) { strict := true } = .ok (some strict) ∧
      liveSchema source "items" (some Row.backend) { strict := false } = .ok (some loose) ∧
      (strict.check (.dict row)).issues = (loose.check (.dict row)).issues ++
        free.map (fun key => ⟨[key], .extraForbidden⟩) ∧
      "field_0" ∈ free ∧ "y" ∈ free ∧ "_id" ∉ free := by
  intro source row
  have found : ((liveSchema source "items" (some Row.backend) (TableOptions.withStrict {} false)
      ).toOption.join.any fun type => Row.takenKeys type.fields row = ["_id"]) = true := by
    decide +kernel
  obtain ⟨type, live, taken⟩ := exists_type_of_any found
  have fetched : source.columns "items" = .ok [("_id", { typeName := "integer" })] := rfl
  obtain ⟨error, failed⟩ | ⟨strict, loose, isStrict, isLoose, -, each⟩ :=
    liveSchema_strict_iff fetched (by decide)
  · cases live.symm.trans (failed false)
  cases live.symm.trans isLoose
  obtain ⟨-, free, -, member, issues, -⟩ := each row (by decide)
  have isFree (key : String) : key ∈ free ↔ key ∈ row.names ∧ key ∉ ["_id"] := by
    rw [member, ← of_decide_eq_true taken, Row.mem_takenKeys]
    simp only [not_exists, not_and]
  refine ⟨strict, type, free, isStrict, isLoose, issues, ?_⟩
  rw [isFree, isFree, isFree]
  decide

end TableSchema
