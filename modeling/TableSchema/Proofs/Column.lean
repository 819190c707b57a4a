import TableSchema.Proofs.Mapping

/-! # Where the schema of a column comes from

The schema of a column is a base with the nullability and the default of the column
(`Column.exists_base`). The base of a column that no expression describes is an array, the schema of
a pattern, or the schema of the kind of its type (`Column.isBase_of_found`).
-/

namespace TableSchema

/-! ### Kinds of types -/

theorem TypeKind.ne_array_of_token {token : String} {kind : TypeKind}
    (found : ofToken? token = some kind) : kind ≠ .array := by
  have listed : ∀ entry ∈ table, entry.1 ≠ .array := by decide
  obtain ⟨entry, first, rfl⟩ := Option.map_eq_some_iff.mp found
  exact listed entry (List.mem_of_find?_eq_some first)

/-- The length limit makes a difference to bounded strings only. -/
theorem TypeKind.schema_cases (kind : TypeKind) (maxLength : Option Int) :
    kind.schema maxLength = kind.schema none ∨
      ∃ limit, kind.schema maxLength = Schema.string.check "max" [.int limit] := by
  cases kind with
  | boundedString =>
    cases maxLength with
    | none => exact .inl rfl
    | some limit =>
      simp only [schema, limitedString]
      split
      · exact .inr ⟨limit, rfl⟩
      · exact .inl rfl
  | _ => exact .inl rfl

/-- The arrays are the types that are known by their elements. -/
theorem Classification.isSome_element_iff (text : List Char) :
    (ofText text).element.isSome = true ↔ (ofText text).kind = .array := by
  unfold ofText ofToken
  split
  · next kind found => exact iff_of_false nofun (TypeKind.ne_array_of_token found)
  · split
    · exact iff_of_true rfl rfl
    · dsimp only
      split <;> exact iff_of_false nofun nofun

namespace Column

/-- The kind of the type of a column. -/
def kind (column : Column) : TypeKind :=
  (Classification.ofText column.typeName.toList).kind

end Column

/-- Whether an override describes a column by an expression: the column holds JSON, and the override
has an expression that is not empty. -/
def Override.Describes (override : Override) (column : Column) (text : String) : Prop :=
  column.kind = .document ∧ override.expression = some text ∧ text ≠ ""

namespace Column

variable {column : Column} {override : Override} {schema base : Schema} {text : String}

/-- The schema of a column is that of its type with the nullability and the default of the column.
-/
theorem exists_base {override : Option Override}
    (found : column.schema override = .ok schema) : ∃ base default,
      (Classification.ofText column.typeName.toList).schema column.maxLength override = .ok base ∧
      ColumnDefault.ofValue column.defaultValue = .ok default ∧
      schema = { base with decorations := { base.decorations with
        nullable := column.nullable || base.decorations.nullable
        default := default.literal?.or base.decorations.default } } := by
  obtain ⟨⟨shape, marks⟩, baseFound, tail⟩ := bind_eq_ok.mp found
  obtain ⟨default, defaultFound, same⟩ := bind_eq_ok.mp tail
  refine ⟨⟨shape, marks⟩, default, mapError_eq_ok baseFound, mapError_eq_ok defaultFound, ?_⟩
  cases default <;> cases same <;> cases column.nullable <;> rfl

/-- The base of a column that an expression describes is the expression. -/
theorem base_of_described (described : override.Describes column text) :
    (Classification.ofText column.typeName.toList).schema column.maxLength (some override) =
      .ok (.raw text) := by
  obtain ⟨document, expression, nonempty⟩ := described
  have isRaw : override.schema = .ok (.raw text) := by
    rw [Override.schema, expression]
    exact if_neg (by simpa using nonempty)
  have single : (Classification.ofText column.typeName.toList).element = none := by
    rw [← Option.not_isSome_iff_eq_none, Classification.isSome_element_iff]
    intro isArray
    cases document.symm.trans isArray
  rw [← isRaw]
  simp only [Classification.schema, single,
    show (Classification.ofText column.typeName.toList).kind = _ from document]

/-- A column that an expression describes has the expression as its schema. -/
theorem schema_of_described (described : override.Describes column text)
    (found : column.schema (some override) = .ok schema) :
    schema.shape = .raw text ∧ schema.decorations.checks = [] := by
  obtain ⟨base, default, baseFound, -, rfl⟩ := exists_base found
  cases (base_of_described described).symm.trans baseFound
  exact ⟨rfl, rfl⟩

/-- The bases of a column that no expression describes. -/
inductive IsBase (column : Column) (override : Override) : Schema → Prop
  | array (isArray : column.kind = .array) (element : TypeKind) :
    IsBase column override (.array (element.schema none))
  | pattern {schema : Schema} {name : String} (document : column.kind = .document)
    (asked : override.pattern.getD "" = name) (nonempty : name ≠ "")
    (found : Pattern.schema? name = some schema) : IsBase column override schema
  | kind (single : column.kind ≠ .array)
    (free : column.kind = .document → override.pattern.getD "" = "") :
    IsBase column override (column.kind.schema column.maxLength)

/-- The base of a JSON column that a pattern may describe. -/
theorem isBase_of_pattern (document : column.kind = .document)
    (found : override.patternSchema = .ok base) : column.IsBase override base := by
  have free (none : override.pattern.getD "" = "") : column.IsBase override .unknown := by
    have same : column.kind.schema column.maxLength = .unknown := by rw [document]; rfl
    rw [← same]
    exact .kind (by simp [document]) fun _ => none
  unfold Override.patternSchema at found
  split at found
  · next absent =>
    cases found
    exact free (by rw [absent]; rfl)
  · next name given =>
    have asked : override.pattern.getD "" = name := by rw [given]; rfl
    split at found
    · next empty =>
      cases found
      exact free (asked.trans (by simpa using empty))
    · next nonempty =>
      split at found
      · next named =>
        cases found
        exact .pattern document asked (by simpa using nonempty) named
      · cases found

/-- An expression describes a column, or its base is one of those of a column that none describes.
-/
theorem isBase_of_found (found : (Classification.ofText column.typeName.toList).schema
    column.maxLength (some override) = .ok base) :
    (∃ text, override.Describes column text) ∨ column.IsBase override base := by
  have isArray := Classification.isSome_element_iff column.typeName.toList
  unfold Classification.schema at found
  split at found
  · next element known =>
    obtain rfl := Except.ok.inj found
    exact .inr (.array (isArray.mp (by rw [known]; rfl)) element.kind)
  · next unknown =>
    have single : column.kind ≠ .array := by
      intro array
      have known := isArray.mpr array
      rw [unknown] at known
      cases known
    split at found
    · next document same =>
      cases same
      unfold Override.schema at found
      split at found
      · next expression given =>
        split at found
        · exact .inr (isBase_of_pattern document found)
        · next nonempty => exact .inl ⟨expression, document, given, by simpa using nonempty⟩
      · exact .inr (isBase_of_pattern document found)
    · next other =>
      obtain rfl := Except.ok.inj found
      exact .inr (.kind single fun document => absurd rfl (other _ document))

/-- A base has no default and may not be left out. -/
theorem IsBase.bare (isBase : column.IsBase override base) :
    base.decorations.optional = false ∧ base.decorations.default = none := by
  cases isBase with
  | array isArray element => exact ⟨rfl, rfl⟩
  | pattern document asked nonempty found => exact Pattern.holds_schema? (by decide) found
  | kind single free =>
    rcases column.kind.schema_cases column.maxLength with same | ⟨limit, same⟩
    · rw [same]
      cases column.kind <;> exact ⟨rfl, rfl⟩
    · rw [same]
      exact ⟨rfl, rfl⟩

end Column

end TableSchema
