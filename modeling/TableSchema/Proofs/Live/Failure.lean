import TableSchema.Backend.Description
import TableSchema.Proofs.Column
import TableSchema.Proofs.Live.Agreement
import TableSchema.Proofs.Live.Outcome

/-! # When a table has no live schema

All that the mapping of columns and the patterns make is complete and refined, so a table whose
schema is assembled fails to be built for three reasons only: an expression that is not understood,
a refinement in an expression that numbers do not have, or a constructor that the backend lacks
(`liveSchema_error_iff`).
-/

namespace TableSchema

namespace Schema

/-- Whether a schema, apart from its parts, is not given as text, has its arguments, and has no
refinement on a number that numbers do not have. -/
def isRegular (schema : Schema) : Bool :=
  let complete (check : Check) : Bool :=
    !Expression.sizeChecks.contains check.name || !check.args.isEmpty
  match schema.shape with
  | .raw _ => false
  | .literal [] => false
  | .number => schema.decorations.checks.all fun check =>
      complete check && numberRefinements.contains check.name
  | _ => schema.decorations.checks.all complete

variable {schema : Schema}

/-- A regular schema is not given as text. -/
theorem constructed_of_regular (regular : schema.isRegular = true) : schema.IsConstructed := by
  intro text isRaw
  rw [isRegular, isRaw] at regular
  cases regular

/-- The numbers of a regular schema are refined as numbers. -/
theorem refined_of_regular (regular : schema.isRegular = true) : schema.IsRefined := by
  intro isNumber check member
  rw [isRegular, isNumber] at regular
  have both := List.all_eq_true.mp regular check member
  rw [Bool.and_eq_true] at both
  exact List.contains_iff_mem.mp both.2

/-- The refinements and literals of a regular schema have their arguments. -/
theorem complete_of_regular (regular : schema.isRegular = true) : schema.IsComplete := by
  have complete (check : Check)
      (given : (!Expression.sizeChecks.contains check.name || !check.args.isEmpty) = true) :
      check.IsComplete := by
    intro sized empty
    simp [sized, empty] at given
  obtain ⟨shape, marks⟩ := schema
  constructor
  · intro check member
    cases shape with
    | raw text => cases regular
    | number =>
      have both := List.all_eq_true.mp regular check member
      rw [Bool.and_eq_true] at both
      exact complete check both.1
    | literal values =>
      cases values with
      | nil => cases regular
      | cons value values => exact complete check (List.all_eq_true.mp regular check member)
    | _ => exact complete check (List.all_eq_true.mp regular check member)
  · rintro ⟨⟩
    cases regular

/-- Whether a schema and all schemas below it are regular. -/
abbrev IsRegular (schema : Schema) : Prop :=
  schema.Everywhere fun schema => schema.isRegular = true

end Schema

open Schema

/-! ### Columns -/

/-- The patterns of the library are regular. -/
theorem Pattern.regular_schema? {name : String} {schema : Schema}
    (found : Pattern.schema? name = some schema) : schema.IsRegular :=
  all_iff.mp (holds_schema? (by decide) found)

/-- The schemas of types are regular. -/
theorem TypeKind.regular_schema (kind : TypeKind) (maxLength : Option Int) :
    (kind.schema maxLength).IsRegular := by
  refine all_iff.mp ?_
  rcases kind.schema_cases maxLength with same | ⟨limit, same⟩
  · rw [same]
    cases kind <;> rfl
  · rw [same]
    rfl

variable {column : Column} {override : Override} {schema : Schema} {text : String}

/-- A column that no expression describes has a regular schema. -/
theorem Column.regular_schema (found : column.schema (some override) = .ok schema) :
    (∃ text, override.Describes column text) ∨ schema.IsRegular := by
  obtain ⟨base, default, baseFound, -, rfl⟩ := exists_base found
  refine (isBase_of_found baseFound).imp_right fun isBase => ?_
  suffices regular : base.IsRegular from
    -- Only the shape and the refinements are looked at.
    regular.decorated regular.here
  cases isBase with
  | array isArray element =>
    exact .intro rfl (List.forall_mem_singleton.mpr (element.regular_schema none))
  | pattern document asked nonempty found => exact Pattern.regular_schema? found
  | kind single free => exact TypeKind.regular_schema _ _

/-! ### Backends -/

/-- A backend that lacks nothing lacks the constructors that are taken from it. -/
theorem Backend.lacks_without {σ : Type} {backend : Backend σ} (total : backend.Lacks [])
    (missing : List String) : (backend.without missing).Lacks missing := by
  have answers {constructor : String} {result : Except BackendError σ}
      (total : Answers [] constructor result) : Answers missing constructor
        (guarded (if missing.contains constructor then some (.unimplemented constructor) else none)
          result) := by
    by_cases lacking : constructor ∈ missing
    · simp [Answers, guarded, lacking]
    · simpa [Answers, guarded, lacking] using total
  exact
    { string := fun format bounds => answers (total.string format bounds)
      number := fun bounds => answers (total.number bounds)
      boolean := answers total.boolean
      unknown := answers total.unknown
      binary := answers total.binary
      array := fun item bounds => answers (total.array item bounds)
      record := fun value => answers (total.record value)
      enum := fun options => answers (total.enum options)
      literal := fun value => answers (total.literal value)
      union := fun variants => answers (total.union variants)
      nullable := fun live => answers (total.nullable live)
      object := fun name members mode => answers (total.object name members mode) }

theorem Description.lacks_nothing : Description.backend.Lacks [] := by
  constructor <;> intros <;> exact ⟨_, rfl⟩

/-! ### Tables -/

variable {options : TableOptions} {columns : Entries Column} {fields : Entries Schema}

/-- The fields of a table are named like its selected columns. -/
theorem names_selectedFields (selected : selectedFields options columns = .ok fields) :
    fields.names = options.select columns.names := by
  induction columns generalizing fields with
  | nil =>
    cases selected
    rfl
  | cons entry columns hypothesis =>
    obtain ⟨name, column⟩ := entry
    rw [selectedFields] at selected
    split at selected
    · next isSelected =>
      obtain ⟨schema, -, tail⟩ := bind_eq_ok.mp selected
      obtain ⟨rest, others, same⟩ := bind_eq_ok.mp tail
      cases same
      have names := hypothesis others
      simp only [TableOptions.select, Entries.names] at names ⊢
      rw [List.map_cons, List.map_cons, List.filter_cons_of_pos isSelected, names]
    · next unselected =>
      rw [hypothesis selected]
      simp only [TableOptions.select, Entries.names]
      rw [List.map_cons, List.filter_cons_of_neg unselected]

/-- The assembled schema of a table has the selected columns as its fields. -/
theorem schema_of_assemble {source : ColumnSource} {table : String}
    (fetched : source.columns table = .ok columns) (dictionary : columns.names.Nodup)
    (assembled : assemble source table options = .ok schema) :
    ∃ fields, selectedFields options columns = .ok fields ∧ fields.names.Nodup ∧
      schema = ⟨.object fields, { mode := some options.mode }⟩ := by
  obtain ⟨columns', fetched', tail⟩ := bind_eq_ok.mp assembled
  obtain ⟨fields, selected, same⟩ := bind_eq_ok.mp tail
  cases fetched.symm.trans (columns_of_fetch fetched')
  have selected := mapError_eq_ok selected
  have distinct : fields.names.Nodup := by
    rw [names_selectedFields selected]
    exact dictionary.filter _
  cases same
  refine ⟨fields, selected, distinct, ?_⟩
  rw [object, Entries.ofList_of_nodup distinct]

/-- A column that is selected has a field, with the schema of the column. -/
theorem field_of_mem_columns (selected : selectedFields options columns = .ok fields)
    {name : String} (member : (name, column) ∈ columns)
    (isSelected : options.selects name = true) :
    ∃ schema, (name, schema) ∈ fields ∧
      column.schema (some (options.overrideFor name)) = .ok schema := by
  induction columns generalizing fields with
  | nil => cases member
  | cons entry columns hypothesis =>
    obtain ⟨name', column'⟩ := entry
    rw [selectedFields] at selected
    split at selected
    · obtain ⟨schema, described, tail⟩ := bind_eq_ok.mp selected
      obtain ⟨rest, others, same⟩ := bind_eq_ok.mp tail
      cases same
      rcases List.mem_cons.mp member with same | later
      · cases same
        exact ⟨schema, List.mem_cons_self .., described⟩
      · obtain ⟨schema, found, described⟩ := hypothesis others later
        exact ⟨schema, List.mem_cons_of_mem _ found, described⟩
    · next unselected =>
      rcases List.mem_cons.mp member with same | later
      · cases same
        exact absurd isSelected unselected
      · exact hypothesis selected later

/-- Whether options describe a selected column of a table by an expression. -/
def TableOptions.Describes (options : TableOptions) (columns : Entries Column)
    (name text : String) : Prop :=
  ∃ column, (name, column) ∈ columns ∧ options.selects name = true ∧
    (options.overrideFor name).Describes column text

/-- A field of a table is regular, or it is the expression that describes its column. -/
theorem field_cases (selected : selectedFields options columns = .ok fields) :
    ∀ field ∈ fields, field.2.IsRegular ∨ ∃ text, options.Describes columns field.1 text ∧
      field.2.shape = .raw text ∧ field.2.decorations.checks = [] := by
  intro field member
  obtain ⟨column, listed, isSelected, found⟩ :=
    mem_columns_of_selectedFields selected field member
  rcases Column.regular_schema found with ⟨text, described⟩ | regular
  · exact .inr ⟨text, ⟨column, listed, isSelected, described⟩,
      Column.schema_of_described described found⟩
  · exact .inl regular

/-- An expression without further refinements around it is refined if it is understood and what it
reads as is refined. -/
theorem resolvesTo_refined_of_raw (raw : schema.shape = .raw text)
    (unchecked : schema.decorations.checks = []) : schema.ResolvesTo IsRefined ↔
      ∃ read, Schema.parse text = .ok read ∧ read.Everywhere IsRefined := by
  obtain ⟨shape, marks⟩ := schema
  cases raw
  refine exists_ok_iff.trans (exists_congr fun read => and_congr_right fun _ => ?_)
  have refined (marks' : Decorations) (same : marks'.checks = read.decorations.checks) :
      IsRefined { read with decorations := marks' } ↔ IsRefined read := by
    simp only [IsRefined, same]
  have checks : (marks.over read.decorations).checks = read.decorations.checks := by
    rw [Decorations.over, show marks.checks = [] from unchecked, List.append_nil]
  rw [everywhere_iff, everywhere_iff, refined _ checks]

/-- The assembled schema of a table is refined if all expressions that describe columns are
understood, and what they read as is refined. -/
theorem resolvesTo_refined_iff (selected : selectedFields options columns = .ok fields)
    {marks : Decorations} :
    ResolvesTo IsRefined ⟨.object fields, marks⟩ ↔
      ∀ name text, options.Describes columns name text →
        ∃ read, Schema.parse text = .ok read ∧ read.Everywhere IsRefined := by
  rw [resolvesTo_iff resolvable_refined (by simp)]
  constructor
  · rintro ⟨-, each⟩ name text ⟨column, listed, isSelected, described⟩
    obtain ⟨schema, member, found⟩ := field_of_mem_columns selected listed isSelected
    obtain ⟨raw, unchecked⟩ := Column.schema_of_described described found
    exact (resolvesTo_refined_of_raw raw unchecked).mp (each schema (List.mem_map_of_mem member))
  · refine fun understood => ⟨nofun, List.forall_mem_map.mpr fun field member => ?_⟩
    rcases field_cases selected field member with regular | ⟨text, described, raw, unchecked⟩
    · have constructed := regular.mono fun _ => constructed_of_regular
      rw [resolvesTo_iff_everywhere resolvable_refined constructed]
      exact regular.mono fun _ => refined_of_regular
    · exact (resolvesTo_refined_of_raw raw unchecked).mpr (understood _ _ described)

/-- The object of the selected columns is complete. -/
theorem complete_selectedFields (selected : selectedFields options columns = .ok fields) :
    Everywhere IsComplete ⟨.object fields, { mode := some options.mode }⟩ := by
  refine .intro ⟨by simp, nofun⟩ (List.forall_mem_map.mpr fun field member => ?_)
  rcases field_cases selected field member with regular | ⟨text, -, raw, unchecked⟩
  · exact regular.mono fun _ => complete_of_regular
  · refine .intro ⟨by simp [unchecked], by simp [raw]⟩ ?_
    rw [raw]
    nofun

/-- A schema is buildable if it is refined and needs no constructor that is missing. -/
theorem resolvesTo_buildable_iff {missing : List String} :
    schema.ResolvesTo (IsBuildable missing) ↔ schema.ResolvesTo IsRefined ∧
      ¬∃ read, schema.resolved = .ok read ∧
        read.Somewhere fun node => ∃ constructor ∈ missing, node.Needs constructor := by
  constructor
  · rintro ⟨read, resolved, buildable⟩
    refine ⟨⟨read, resolved, buildable.mono fun _ here => here.refined⟩, ?_⟩
    rintro ⟨read, same, needing⟩
    cases resolved.symm.trans same
    refine not_everywhere_of_somewhere needing ?_ buildable
    rintro node ⟨constructor, isMissing, needs⟩ here
    exact here.available constructor needs isMissing
  · rintro ⟨⟨read, resolved, refined⟩, none⟩
    have available : read.Everywhere fun node =>
        ¬∃ constructor ∈ missing, node.Needs constructor := by
      apply Classical.byContradiction
      intro violated
      have needing := (not_everywhere_iff.mp violated).mono fun _ => Classical.not_not.mp
      exact none ⟨read, resolved, needing⟩
    refine ⟨read, resolved, (refined.and available).mono ?_⟩
    rintro node ⟨refined, available⟩
    exact ⟨refined, fun constructor needs isMissing => available ⟨constructor, isMissing, needs⟩⟩

/-- A foreseen failure is reported as one of building the table. -/
theorem LiveError.ofBuild_of_foreseen {cause : BuildError} (foreseen : cause.IsForeseen)
    (table : String) : LiveError.ofBuild table cause = .build table cause := by
  cases cause with
  | backend error =>
    cases error with
    | unimplemented constructor => rfl
    | _ => cases foreseen
  | _ => rfl

/-- An expression is not understood, or what it reads as is not refined. -/
theorem exists_unrefined_iff :
    (¬∀ name text, options.Describes columns name text →
        ∃ read, Schema.parse text = .ok read ∧ read.Everywhere IsRefined) ↔
      (∃ name text error, options.Describes columns name text ∧ Schema.parse text = .error error) ∨
      ∃ name text read, options.Describes columns name text ∧ Schema.parse text = .ok read ∧
        read.Somewhere fun node => ¬node.IsRefined := by
  constructor
  · intro violated
    simp only [Classical.not_forall] at violated
    obtain ⟨name, text, described, fails⟩ := violated
    cases parsed : Schema.parse text with
    | error error => exact .inl ⟨name, text, error, described, parsed⟩
    | ok read =>
      have unrefined : ¬read.Everywhere IsRefined := fun refined => fails ⟨read, parsed, refined⟩
      exact .inr ⟨name, text, read, described, parsed, not_everywhere_iff.mp unrefined⟩
  · rintro (⟨name, text, error, described, parsed⟩ | ⟨name, text, read, described, parsed, found⟩)
      understood
    · obtain ⟨read, again, -⟩ := understood name text described
      cases parsed.symm.trans again
    · obtain ⟨read', again, refined⟩ := understood name text described
      cases parsed.symm.trans again
      exact not_everywhere_iff.mpr found refined

/-- A table whose schema is assembled has no live schema on a backend that lacks some constructors
exactly if the expression of a column is not understood, a number in an expression has a refinement
that numbers do not have, or something needs a constructor that is missing. The error names the
table, and no other error comes of building it. -/
theorem liveSchema_error_iff {σ : Type} {source : ColumnSource} {table : String}
    {backend : Backend σ} {missing : List String} (lacks : backend.Lacks missing)
    (fetched : source.columns table = .ok columns) (dictionary : columns.names.Nodup)
    (assembled : assemble source table options = .ok schema) :
    ((∃ cause, liveSchema source table (some backend) options = .error (.build table cause)) ↔
      (∃ name text error, options.Describes columns name text ∧ Schema.parse text = .error error) ∨
      (∃ name text read, options.Describes columns name text ∧ Schema.parse text = .ok read ∧
        read.Somewhere fun node => ¬node.IsRefined) ∨
      ∃ read, schema.resolved = .ok read ∧
        read.Somewhere fun node => ∃ constructor ∈ missing, node.Needs constructor) ∧
    ((∃ live, liveSchema source table (some backend) options = .ok live) ∨
      ∃ cause, cause.IsForeseen ∧
        liveSchema source table (some backend) options = .error (.build table cause)) := by
  obtain ⟨fields, selected, distinct, rfl⟩ := schema_of_assemble fetched dictionary assembled
  rw [← or_assoc, ← exists_unrefined_iff]
  have built : liveSchema source table (some backend) options =
      (build ⟨.object fields, { mode := some options.mode }⟩ backend (modelName [table])).mapError
        (.ofBuild table) := by
    rw [liveSchema, assembled]
    rfl
  have settles : Settles _ (build _ backend (modelName [table])) :=
    settles_build lacks (complete_selectedFields selected)
  rw [resolvesTo_buildable_iff, resolvesTo_refined_iff selected] at settles
  rw [built]
  generalize build _ backend (modelName [table]) = result at settles
  cases settles with
  | ok live holds =>
    refine ⟨iff_of_false nofun ?_, .inl ⟨live, rfl⟩⟩
    exact not_or.mpr ⟨not_not_intro holds.1, holds.2⟩
  | @error cause foreseen fails =>
    have named : (Except.error cause : Except BuildError σ).mapError (LiveError.ofBuild table) =
        .error (.build table cause) :=
      congrArg _ (LiveError.ofBuild_of_foreseen foreseen table)
    refine ⟨iff_of_true ⟨cause, named⟩ ?_, .inr ⟨cause, foreseen, named⟩⟩
    exact (Classical.not_and_iff_not_or_not.mp fails).imp_right Classical.not_not.mp

/-- A list of texts that may be null has no live schema where nothing may be null. -/
theorem liveSchema_error_iff_nullable :
    ∃ cause, liveSchema (.ofTables [("items", [("details", { typeName := "jsonb" })])]) "items"
      (some (Description.backend.without ["nullable"]))
      { expressions := [("details", "z.array(z.string().nullable())")] } =
        .error (.build "items" cause) := by
  have assembled : assemble (.ofTables [("items", [("details", { typeName := "jsonb" })])]) "items"
      { expressions := [("details", "z.array(z.string().nullable())")] } =
        .ok (object [("details", raw "z.array(z.string().nullable())")] (some .strict)) :=
    ok_of_toOption (by decide +kernel)
  have resolved : (object [("details", raw "z.array(z.string().nullable())")]
      (some .strict)).resolved =
        .ok (object [("details", array string.asNullable)] (some .strict)) :=
    ok_of_toOption (by decide +kernel)
  have lacks := Backend.lacks_without Description.lacks_nothing ["nullable"]
  refine (liveSchema_error_iff lacks rfl (by decide) assembled).1.mpr
    (.inr (.inr ⟨_, resolved, ?_⟩))
  exact .inPart (List.mem_singleton_self _) (.inPart (List.mem_singleton_self _)
    (.here ⟨"nullable", List.mem_singleton_self _, .inr ⟨rfl, rfl⟩⟩))

end TableSchema
