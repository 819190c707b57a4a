import TableSchema.ColumnText
import TableSchema.Proofs.Assembly
import TableSchema.Proofs.Selection

/-! # The text of a column, part by part

The text of a column is the text of the column without nullability and default, then the call that
admits null, then the call that sets the default (`Column.textOfType_parts`). The first part looks
at the length limit for bounded strings only and at the override for JSON only, and never at the
type that the column itself names.
-/

namespace TableSchema

namespace Column

/-- The column without nullability and default. -/
def bare (column : Column) : Column :=
  { column with nullable := false, default := none }

/-- What a default adds to the text of a column: nothing, unless there is a literal to fill in. -/
def defaultSuffix (default : Value) : Except TextError String := do
  let read ← (ColumnDefault.ofValue default).mapError fun long =>
    .assembly (.mapping (.integerTooLong long))
  (String.ofList <$> defaultText read.literal?).mapError .write

end Column

/-! ### Schemas without nullability and default -/

/-- A schema that is not nullable and has no default. -/
def Schema.IsBare (schema : Schema) : Prop :=
  schema.decorations.nullable = false ∧ schema.decorations.default = none

instance (schema : Schema) : Decidable schema.IsBare :=
  inferInstanceAs (Decidable (_ ∧ _))

theorem TypeKind.isBare_schema (kind : TypeKind) (maxLength : Option Int) :
    (kind.schema maxLength).IsBare := by
  rcases kind.schema_cases maxLength with same | ⟨limit, same⟩
  · rw [same]
    cases kind <;> exact ⟨rfl, rfl⟩
  · rw [same]
    exact ⟨rfl, rfl⟩

theorem Override.isBare_patternSchema {override : Override} {base : Schema}
    (found : override.patternSchema = .ok base) : base.IsBare := by
  rcases patternSchema_cases found with rfl | ⟨name, named⟩
  · exact ⟨rfl, rfl⟩
  · exact Pattern.holds_schema? (by decide) named

theorem Override.isBare_schema {override : Override} {base : Schema}
    (found : override.schema = .ok base) : base.IsBare := by
  unfold Override.schema at found
  split at found
  · split at found
    · exact isBare_patternSchema found
    · cases found
      exact ⟨rfl, rfl⟩
  · exact isBare_patternSchema found

/-- The schema of a classified type is not nullable and has no default. -/
theorem Classification.isBare_schema {classification : Classification} {maxLength : Option Int}
    {override : Option Override} {base : Schema}
    (found : classification.schema maxLength override = .ok base) : base.IsBare := by
  unfold Classification.schema at found
  split at found
  · cases found
    exact ⟨rfl, rfl⟩
  · split at found
    · exact Override.isBare_schema found
    · cases found
      exact TypeKind.isBare_schema _ _

/-- Nullability and a default are written behind everything else. -/
theorem Schema.renderChars_decorated {schema : Schema} (isBare : schema.IsBare) (nullable : Bool)
    (default : Option DefaultLiteral) :
    renderChars { schema with decorations := { schema.decorations with nullable, default } } = do
      let inner ← schema.renderChars
      let suffix ← defaultText default
      return inner ++ (if nullable then ".nullable()".toList else []) ++ suffix := by
  obtain ⟨shape, checks, mode, optional, _, _⟩ := schema
  obtain ⟨rfl, rfl⟩ := isBare
  have none : defaultText none = .ok [] := rfl
  simp only [renderChars, Decorations.text, none]
  cases renderShape shape with
  | error error => rfl
  | ok base =>
    cases checksText checks with
    | error error => rfl
    | ok text =>
      cases defaultText default with
      | error error => rfl
      | ok suffix =>
        refine congrArg Except.ok ?_
        cases nullable <;> simp only [List.append_assoc, Bool.false_eq_true,
          ↓reduceIte, List.append_nil]

/-! ### What the parts look at -/

/-- The schema of a classified type looks at the length limit of a bounded string, and at the
override of a JSON column. -/
theorem Classification.schema_congr {classification : Classification}
    {maxLength maxLength' : Option Int} {override override' : Option Override}
    (limit : classification.kind = .boundedString → maxLength' = maxLength)
    (described : classification.kind = .document → override' = override) :
    classification.schema maxLength' override' = classification.schema maxLength override := by
  obtain ⟨kind, token, element⟩ := classification
  cases element with
  | some element => rfl
  | none =>
    cases kind with
    | boundedString =>
      rw [limit rfl]
      rfl
    | document =>
      rw [described rfl]
      cases override <;> rfl
    | _ => rfl

namespace Column

variable {typeName text : String} {column : Column} {override : Option Override}

/-- The schema of a column is that of its type with the nullability and the default of the column.
-/
theorem schemaOfType_eq_ok_iff {schema : Schema} :
    column.schemaOfType typeName override = .ok schema ↔ ∃ base default,
      (Classification.ofText typeName.toList).schema column.maxLength override = .ok base ∧
      ColumnDefault.ofValue column.defaultValue = .ok default ∧
      schema = { base with decorations := { base.decorations with
        nullable := column.nullable
        default := default.literal? } } := by
  constructor
  · intro found
    obtain ⟨base, baseFound, tail⟩ := bind_eq_ok.mp found
    obtain ⟨default, defaultFound, same⟩ := bind_eq_ok.mp tail
    have baseFound := mapError_eq_ok baseFound
    refine ⟨base, default, baseFound, mapError_eq_ok defaultFound, ?_⟩
    obtain ⟨shape, checks, mode, optional, _, _⟩ := base
    obtain ⟨rfl, rfl⟩ := Classification.isBare_schema baseFound
    cases default <;> cases same <;> cases column.nullable <;> rfl
  · rintro ⟨base, default, baseFound, defaultFound, rfl⟩
    rw [schemaOfType, baseSchema, baseFound, defaultFound]
    obtain ⟨shape, checks, mode, optional, _, _⟩ := base
    obtain ⟨rfl, rfl⟩ := Classification.isBare_schema baseFound
    cases default <;> cases column.nullable <;> rfl

theorem defaultSuffix_eq_ok_iff {value : Value} {suffix : String} :
    defaultSuffix value = .ok suffix ↔ ∃ default, ColumnDefault.ofValue value = .ok default ∧
      defaultText default.literal? = .ok suffix.toList := by
  constructor
  · intro found
    obtain ⟨default, read, written⟩ := bind_eq_ok.mp found
    refine ⟨default, mapError_eq_ok read, ?_⟩
    have written := mapError_eq_ok written
    cases chars : defaultText default.literal? with
    | error error => rw [chars] at written; cases written
    | ok chars' =>
      rw [chars] at written
      cases written
      rw [String.toList_ofList]
  · rintro ⟨default, read, written⟩
    rw [defaultSuffix, read]
    show Except.mapError _ (String.ofList <$> defaultText default.literal?) = _
    rw [written]
    exact congrArg Except.ok String.ofList_toList

/-- A default adds something exactly if there is a literal to fill in. -/
theorem defaultSuffix_ne_empty_iff {value : Value} {suffix : String}
    (found : defaultSuffix value = .ok suffix) :
    suffix ≠ "" ↔ ∃ literal, ColumnDefault.ofValue value = .ok (.present literal) := by
  obtain ⟨default, read, written⟩ := defaultSuffix_eq_ok_iff.mp found
  cases default with
  | skipped =>
    have empty : suffix.toList = [] := (Except.ok.inj written).symm
    refine iff_of_false (not_not.mpr (String.toList_inj.mp empty)) ?_
    rintro ⟨literal, present⟩
    cases read.symm.trans present
  | present literal =>
    refine iff_of_true ?_ ⟨literal, read⟩
    rintro rfl
    obtain ⟨text, -, same⟩ := bind_eq_ok.mp written
    have length := congrArg List.length (Except.ok.inj same)
    simp at length

/-- The text of a column is that of the schema of its type, followed by the decorations. -/
theorem textOfType_eq_ok_iff : column.textOfType typeName override = .ok text ↔
    ∃ base inner suffix,
      (Classification.ofText typeName.toList).schema column.maxLength override = .ok base ∧
      base.render = .ok inner ∧ defaultSuffix column.defaultValue = .ok suffix ∧
      text = inner ++ (if column.nullable then ".nullable()" else "") ++ suffix := by
  constructor
  · intro written
    obtain ⟨schema, found, rendered⟩ := bind_eq_ok.mp written
    obtain ⟨base, default, baseFound, read, rfl⟩ := schemaOfType_eq_ok_iff.mp (mapError_eq_ok found)
    have chars := Schema.render_eq_ok_iff.mp (mapError_eq_ok rendered)
    rw [Schema.renderChars_decorated (Classification.isBare_schema baseFound)] at chars
    obtain ⟨inner, innerChars, tail⟩ := bind_eq_ok.mp chars
    obtain ⟨suffix, suffixChars, same⟩ := bind_eq_ok.mp tail
    refine ⟨base, .ofList inner, .ofList suffix, baseFound, ?_, ?_, ?_⟩
    · exact Schema.render_eq_ok_iff.mpr (by rwa [String.toList_ofList])
    · exact defaultSuffix_eq_ok_iff.mpr ⟨default, read, by rwa [String.toList_ofList]⟩
    · refine String.toList_inj.mp ((Except.ok.inj same).symm.trans ?_)
      cases column.nullable <;> simp only [String.toList_append, String.toList_ofList] <;> rfl
  · rintro ⟨base, inner, suffix, baseFound, innerText, suffixText, rfl⟩
    obtain ⟨default, read, suffixChars⟩ := defaultSuffix_eq_ok_iff.mp suffixText
    have found := schemaOfType_eq_ok_iff.mpr ⟨base, default, baseFound, read, rfl⟩
    have isBare := Classification.isBare_schema baseFound
    have chars : Schema.renderChars { base with decorations := { base.decorations with
        nullable := column.nullable
        default := default.literal? } } =
        .ok (inner ++ (if column.nullable then ".nullable()" else "") ++ suffix).toList := by
      rw [Schema.renderChars_decorated isBare, Schema.render_eq_ok_iff.mp innerText, suffixChars]
      refine congrArg Except.ok ?_
      cases column.nullable <;> simp only [String.toList_append] <;> rfl
    rw [textOfType, found]
    exact congrArg (Except.mapError _) (Schema.render_eq_ok_iff.mpr chars)

/-- The text of a column is the text of the column without nullability and default, followed by the
call that admits null if the column is nullable, and by what the default adds, which is something
exactly if there is a literal to fill in. The first part is the same for every column and override
that have the same length limit, if the type is a bounded string, and the same override, if it is
JSON. -/
theorem textOfType_parts (written : column.textOfType typeName override = .ok text) :
    ∃ inner suffix, column.bare.textOfType typeName override = .ok inner ∧
      defaultSuffix column.defaultValue = .ok suffix ∧
      text = inner ++ (if column.nullable then ".nullable()" else "") ++ suffix ∧
      (suffix ≠ "" ↔
        ∃ literal, ColumnDefault.ofValue column.defaultValue = .ok (.present literal)) ∧
      ∀ (column' : Column) (override' : Option Override),
        ((Classification.ofText typeName.toList).kind = .boundedString →
          column'.maxLength = column.maxLength) →
        ((Classification.ofText typeName.toList).kind = .document → override' = override) →
        column'.bare.textOfType typeName override' = .ok inner := by
  obtain ⟨base, inner, suffix, baseFound, innerText, suffixText, same⟩ :=
    textOfType_eq_ok_iff.mp written
  have bare {column' : Column} {override' : Option Override}
      (found : (Classification.ofText typeName.toList).schema column'.maxLength override' =
        .ok base) : column'.bare.textOfType typeName override' = .ok inner :=
    textOfType_eq_ok_iff.mpr ⟨base, inner, "", found, innerText, rfl, by simp [Column.bare]⟩
  refine ⟨inner, suffix, bare baseFound, suffixText, same,
    defaultSuffix_ne_empty_iff suffixText, ?_⟩
  intro column' override' limit described
  exact bare ((Classification.schema_congr limit described).trans baseFound)

/-- The text of a nullable bounded string with a quoted default. -/
theorem textOfType_parts_limited : ∃ inner suffix,
    textOfType "CHARACTER VARYING(255)"
      (bare { typeName := "integer", nullable := true, maxLength := some 20,
              default := some (.str "'it''s'::text") }) none = .ok inner ∧
    defaultSuffix (.str "'it''s'::text") = .ok suffix ∧
    "z.string().max(20).nullable().default(\"it's\")" = inner ++ ".nullable()" ++ suffix ∧
    suffix ≠ "" ∧
    textOfType "CHARACTER VARYING(255)" (bare { typeName := "jsonb", maxLength := some 20 })
      (some { expression := some "z.any()" }) = .ok inner := by
  obtain ⟨inner, suffix, bare, added, same, present, others⟩ :=
    @textOfType_parts "CHARACTER VARYING(255)"
      "z.string().max(20).nullable().default(\"it's\")"
      { typeName := "integer", nullable := true, maxLength := some 20,
        default := some (.str "'it''s'::text") }
      none (ok_of_toOption (by decide +kernel))
  refine ⟨inner, suffix, bare, added, same, ?_, ?_⟩
  · exact present.mpr ⟨{ value := .str "it's" }, ok_of_toOption (by decide +kernel)⟩
  · exact others _ _ (fun _ => rfl) fun document => absurd document (by decide +kernel)

end Column

end TableSchema
