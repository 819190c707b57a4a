import TableSchema.Backend.Description
import TableSchema.Proofs.Mapping

/-! # The text of a table and its live schema

If the live schema of a table can be built, then the table has a text, the text is read, and
building what was read gives the same live schema (`schemaText_of_liveSchema`). This holds for every
backend, every choice of columns, and every expression that was given as text.
-/

namespace TableSchema

open Schema

variable {options : TableOptions} {columns : Entries Column} {fields : Entries Schema}

/-- The fields of a table are the schemas of its selected columns. -/
theorem mem_columns_of_selectedFields (selected : selectedFields options columns = .ok fields) :
    ∀ field ∈ fields, ∃ column, (field.1, column) ∈ columns ∧ options.selects field.1 = true ∧
      column.schema (some (options.overrideFor field.1)) = .ok field.2 := by
  induction columns generalizing fields with
  | nil =>
    cases selected
    simp
  | cons entry columns hypothesis =>
    obtain ⟨name, column⟩ := entry
    rw [selectedFields] at selected
    have later {fields : Entries Schema} (rest : selectedFields options columns = .ok fields) :
        ∀ field ∈ fields, ∃ column', (field.1, column') ∈ (name, column) :: columns ∧
          options.selects field.1 = true ∧
          column'.schema (some (options.overrideFor field.1)) = .ok field.2 := by
      intro field member
      obtain ⟨column', listed, isSelected, described⟩ := hypothesis rest field member
      exact ⟨column', List.mem_cons_of_mem _ listed, isSelected, described⟩
    split at selected
    · next isSelected =>
      obtain ⟨schema, described, tail⟩ := bind_eq_ok.mp selected
      obtain ⟨rest, others, same⟩ := bind_eq_ok.mp tail
      cases same
      exact List.forall_mem_cons.mpr
        ⟨⟨column, List.mem_cons_self .., isSelected, described⟩, later others⟩
    · exact later selected

namespace Schema

/-- The text of an expression is understood if it can be built. -/
theorem understood_of_buildFields {σ : Type} {backend : Backend σ} {model : String}
    {fields : List (String × Schema)} {members : List (Member σ)}
    (built : buildFields backend (buildText backend) model fields = .ok members) :
    ∀ field ∈ fields, ∀ text, field.2.shape = .raw text →
      ∃ read, Schema.parse (text.getD "") = .ok read := by
  induction fields generalizing members with
  | nil => simp
  | cons field fields hypothesis =>
    obtain ⟨name, shape, marks⟩ := field
    obtain ⟨first, builtFirst, tail⟩ := bind_eq_ok.mp built
    obtain ⟨rest, builtRest, -⟩ := bind_eq_ok.mp tail
    refine List.forall_mem_cons.mpr ⟨?_, hypothesis builtRest⟩
    rintro text rfl
    obtain ⟨schema, resolved, -⟩ := bind_eq_ok.mp builtFirst
    obtain ⟨read, parsed, -⟩ := bind_eq_ok.mp (mapError_eq_ok resolved)
    exact ⟨read, parsed⟩

/-- The text of a field is understood if the object that has it can be built. -/
theorem understood_of_build {σ : Type} {backend : Backend σ} {model : String} {live : σ}
    {fields : Entries Schema} {mode : Option ObjectMode}
    (built : (object fields mode).build backend model = .ok live) :
    ∀ field ∈ Entries.ofList fields, ∀ text, field.2.shape = .raw text →
      ∃ read, Schema.parse (text.getD "") = .ok read := by
  obtain ⟨whole, builtWith, -⟩ := bind_eq_ok.mp built
  obtain ⟨shape, builtShape, -⟩ := bind_eq_ok.mp builtWith
  obtain ⟨members, builtFields, -⟩ := bind_eq_ok.mp builtShape
  exact understood_of_buildFields builtFields

/-- An object whose keys are visible is written. -/
theorem written_of_fields {fields : Entries Schema} {mode : Option ObjectMode}
    (ascii : ∀ field ∈ Entries.ofList fields, Text.IsAscii field.1) :
    (object fields mode).IsWritten := by
  refine ⟨⟨by simp [object], fun _ _ => trivial, by simp [object], trivial⟩, by simp [object], ?_⟩
  intro field member
  exact (Text.rereadKey_eq_iff _).mpr (Text.isKeptKey_of_ascii (ascii field member))

end Schema

/-- The columns that are fetched are those that the source gives. -/
theorem columns_of_fetch {source : ColumnSource} {table : String}
    (fetched : source.fetch table = .ok columns) : source.columns table = .ok columns := by
  unfold ColumnSource.fetch at fetched
  split at fetched
  · cases fetched
  · obtain ⟨found, given, tail⟩ := bind_eq_ok.mp fetched
    split at tail
    · cases tail
    · cases tail
      exact mapError_eq_ok given

/-- If the live schema of a table can be built, and the selected columns have visible names and can
be written, then building what the text of the table reads as gives the same live schema. -/
theorem schemaText_of_liveSchema {σ : Type} {source : ColumnSource} {table : String}
    {backend : Backend σ} {live : σ}
    (built : liveSchema source table (some backend) options = .ok live)
    (writable : ∀ columns, source.columns table = .ok columns → ∀ entry ∈ columns,
      options.selects entry.1 = true → Text.IsAscii entry.1 ∧ entry.2.IsWritable) :
    ∃ text read, schemaText source table options = .ok text ∧ Schema.parse text = .ok read ∧
      read.build backend (modelName [table]) = .ok live := by
  obtain ⟨schema, assembled, tail⟩ := bind_eq_ok.mp built
  have assembled := mapError_eq_ok assembled
  have builtSchema : schema.build backend (modelName [table]) = .ok live := mapError_eq_ok tail
  obtain ⟨columns, fetched, tail⟩ := bind_eq_ok.mp assembled
  obtain ⟨fields, selected, same⟩ := bind_eq_ok.mp tail
  cases same
  have selectedWith := mem_columns_of_selectedFields (mapError_eq_ok selected)
  -- Nothing is asked of the expressions given as text: those that can be built are understood.
  have understood := understood_of_build builtSchema
  have written : (object fields (some options.mode)).Everywhere IsWritten := by
    refine .intro (written_of_fields ?_) ?_
    · intro field member
      obtain ⟨column, listed, isSelected, -⟩ :=
        selectedWith field (Entries.mem_of_mem_ofList member)
      exact (writable columns (columns_of_fetch fetched) _ listed isSelected).1
    · intro part member
      obtain ⟨field, kept, rfl⟩ := List.mem_map.mp member
      obtain ⟨column, listed, isSelected, described⟩ :=
        selectedWith field (Entries.mem_of_mem_ofList kept)
      have columnWritable := (writable columns (columns_of_fetch fetched) _ listed isSelected).2
      exact Column.written_schema columnWritable described (understood field kept)
  obtain ⟨read, resolved⟩ := exists_resolved (written.mono fun _ here => here.1)
  obtain ⟨text, rendered, parsed⟩ := parse_renderBlock rfl (written.mono fun _ here => here.1)
    resolved (Text.forall_of_all (by decide : "  ".toList.all _ = true))
  refine ⟨text, read, ?_, parsed, ?_⟩
  · refine bind_eq_ok.mpr ⟨object fields (some options.mode), ?_, ?_⟩
    · rw [assembled]
      rfl
    · rw [rendered]
      rfl
  · rw [build_resolved (written.mono fun _ here => here.2) resolved]
    exact builtSchema

/-- A price whose default has a plus, beside details that are described by an expression. -/
theorem schemaText_of_liveSchema_price :
    ∃ live text read,
      schemaText (.ofTables [("items",
          [("price", { typeName := "numeric", default := some (.str "+1.50") }),
            ("details", { typeName := "jsonb", nullable := true })])])
        "items" { expressions := [("details", "z.object(\x7b a: z.string().min(1) \x7d)")] } =
          .ok text ∧
      Schema.parse text = .ok read ∧
      read.build Description.backend (modelName ["items"]) = .ok live := by
  have exists_live : (liveSchema (.ofTables [("items",
          [("price", { typeName := "numeric", default := some (.str "+1.50") }),
            ("details", { typeName := "jsonb", nullable := true })])])
        "items" (some Description.backend)
        { expressions :=
          [("details", "z.object(\x7b a: z.string().min(1) \x7d)")] }).toOption.isSome = true := by
    decide +kernel
  have default : ColumnDefault.ofValue (.str "+1.50") =
      .ok (.present ⟨.float (.finite false ⟨4609434218613702656, by decide⟩), some "1.50"⟩) :=
    ok_of_toOption (by decide +kernel)
  obtain ⟨live, built⟩ := Option.isSome_iff_exists.mp exists_live
  refine ⟨live, schemaText_of_liveSchema (ok_of_toOption built) ?_⟩
  rintro columns ⟨⟩
  refine List.forall_mem_cons.mpr ⟨fun _ => ⟨by decide, ?_⟩,
    List.forall_mem_cons.mpr ⟨fun _ => ⟨by decide, ?_⟩, by simp⟩⟩
  · refine ⟨by simp, by simp, by simp, ?_, ?_⟩
    · intro literal present content holds
      cases default.symm.trans present
      cases holds
    · intro literal present source member
      cases default.symm.trans present
      cases member
      exact (by decide : Catalog.IsPointed "1.50".toList)
  · refine ⟨by simp, by simp, by simp, ?_, ?_⟩ <;>
      · intro literal present
        cases present

end TableSchema
