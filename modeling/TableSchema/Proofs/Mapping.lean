import TableSchema.Proofs.Catalog.Default
import TableSchema.Proofs.Live.Building
import TableSchema.Proofs.Schema.Resolution

/-! # Schemas of columns

The constructors of schemas keep them faithful, so that the patterns of the library and the schemas
of column types are faithful. A column whose values can be written (`Column.IsWritable`) has a
default that is read as it is, and therefore a schema that is readable and stable
(`Column.written_schema`).
-/

namespace TableSchema

/-- A default that is read from its text as it is. -/
def DefaultLiteral.IsWritten (literal : DefaultLiteral) : Prop :=
  literal.IsReadable ∧ literal.value.reread = literal.value

/-- A faithful value without parts is a default that is read as it is. -/
theorem DefaultLiteral.IsWritten.of_faithful {value : Value} (faithful : value.IsFaithful)
    (atomic : value.parts = []) : DefaultLiteral.IsWritten { value } := by
  have everywhere : value.Everywhere Value.IsFaithful := .intro faithful (by simp [atomic])
  refine ⟨.literal (everywhere.mono fun _ => Value.readable_of_faithful), ?_⟩
  exact (Value.reread_eq_iff (everywhere.mono fun _ => Value.plain_of_faithful)).mpr
    (everywhere.mono fun _ => Value.kept_of_faithful)

namespace Schema

variable {schema : Schema}

/-- Whether a schema, apart from its parts, is read from its text with the values that it has. -/
def IsWritten (schema : Schema) : Prop :=
  schema.IsReadable ∧ schema.IsStable

/-- A faithful schema is read from its text as it is. -/
theorem written_of_faithful (faithful : schema.IsFaithful) : schema.IsWritten := by
  have plain := plain_of_faithful faithful
  have kept := kept_of_faithful faithful
  refine ⟨readable_of_faithful faithful, ?_, ?_⟩
  · intro literal member
    exact (Value.reread_eq_iff (plain.default literal member).2).mpr (kept.default literal member)
  · have isPlain := plain.shape
    have isKept := kept.shape
    cases shape : schema.shape with
    | object fields =>
      rw [shape] at isKept
      exact fun field member => (Text.rereadKey_eq_iff _).mpr (isKept field member)
    | enum options =>
      rw [shape] at isPlain isKept
      exact (map_reread_eq_iff isPlain).mpr isKept
    | literal values =>
      rw [shape] at isPlain isKept
      exact (map_reread_eq_iff isPlain).mpr isKept
    | _ => trivial

/-! ### Constructors -/

/-- A shape without decorations is faithful if it and its parts are. -/
theorem faithful_undecorated {shape : Shape Schema} (here : IsFaithfulShape shape)
    (parts : ∀ part ∈ shape.parts, part.Everywhere IsFaithful) :
    Everywhere IsFaithful { shape } :=
  .intro ⟨by simp, by simp, by simp, here⟩ parts

theorem faithful_string : Everywhere IsFaithful .string :=
  faithful_undecorated trivial (by simp [Shape.parts])

theorem faithful_number : Everywhere IsFaithful .number :=
  faithful_undecorated trivial (by simp [Shape.parts])

theorem faithful_boolean : Everywhere IsFaithful .boolean :=
  faithful_undecorated trivial (by simp [Shape.parts])

theorem faithful_unknown : Everywhere IsFaithful .unknown :=
  faithful_undecorated trivial (by simp [Shape.parts])

theorem faithful_binary : Everywhere IsFaithful .binary :=
  faithful_undecorated trivial (by simp [Shape.parts])

theorem faithful_array (faithful : schema.Everywhere IsFaithful) :
    Everywhere IsFaithful (.array schema) :=
  faithful_undecorated trivial (List.forall_mem_singleton.mpr faithful)

theorem faithful_record (faithful : schema.Everywhere IsFaithful) :
    Everywhere IsFaithful (.record schema) :=
  faithful_undecorated trivial (List.forall_mem_singleton.mpr faithful)

/-- A union is faithful if its variants are. -/
theorem faithful_union {variants : List Schema}
    (faithful : ∀ schema ∈ variants, schema.Everywhere IsFaithful) :
    Everywhere IsFaithful (.union variants) :=
  faithful_undecorated trivial faithful

/-- An enumeration of plain texts is faithful. -/
theorem faithful_enum {options : List String} (nonempty : options ≠ [])
    (plain : ∀ option ∈ options, Text.IsPlain option) : Everywhere IsFaithful (.enum options) := by
  refine faithful_undecorated ⟨by simpa using nonempty, ?_⟩ (by simp [Shape.parts])
  intro option member
  obtain ⟨text, listed, rfl⟩ := List.mem_map.mp member
  exact ⟨text, rfl, plain text listed⟩

/-- An object with ASCII keys is faithful if its fields are. -/
theorem faithful_object {fields : Entries Schema} (mode : Option ObjectMode)
    (faithful : ∀ field ∈ fields, Text.IsAscii field.1 ∧ field.2.Everywhere IsFaithful) :
    Everywhere IsFaithful (.object fields mode) := by
  refine .intro ⟨by simp [object], fun _ _ => trivial, by simp [object], ?_⟩ ?_
  · exact fun field member => (faithful field (Entries.mem_of_mem_ofList member)).1
  · intro part member
    obtain ⟨field, listed, rfl⟩ := List.mem_map.mp member
    exact (faithful field (Entries.mem_of_mem_ofList listed)).2

/-- A faithful schema stays faithful as an optional one. -/
theorem faithful_asOptional (faithful : schema.Everywhere IsFaithful) :
    schema.asOptional.Everywhere IsFaithful := by
  have here := faithful.here
  exact faithful.decorated ⟨here.checks, here.mode, here.default, here.shape⟩

/-- A known refinement with faithful arguments keeps a schema faithful. -/
theorem faithful_check (faithful : schema.Everywhere IsFaithful) {name : String} {args : List Value}
    (known : Check.IsKnown ⟨name, args⟩) (values : ∀ arg ∈ args, arg.Everywhere Value.IsFaithful) :
    (schema.check name args).Everywhere IsFaithful := by
  have here := faithful.here
  refine faithful.decorated ⟨?_, here.mode, here.default, here.shape⟩
  exact List.forall_mem_append.mpr
    ⟨here.checks, List.forall_mem_singleton.mpr ⟨known, values⟩⟩

theorem faithful_flag (faithful : schema.Everywhere IsFaithful) {name : String}
    (known : name ∈ Expression.flagChecks) : (schema.check name).Everywhere IsFaithful :=
  faithful_check faithful (.flag known) (by simp)

/-- An upper bound that is short enough keeps a schema faithful. -/
theorem faithful_max (faithful : schema.Everywhere IsFaithful) {n : Int}
    (short : n.natAbs < 10 ^ integerDigitLimit) :
    (schema.check "max" [.int n]).Everywhere IsFaithful :=
  faithful_check faithful (.size (by decide) rfl)
    (List.forall_mem_singleton.mpr (.intro short (by simp [Value.parts])))

/-! ### Decorations -/

/-- A schema that is read as it is stays so as a nullable one. -/
theorem written_asNullable (written : schema.Everywhere IsWritten) :
    schema.asNullable.Everywhere IsWritten := by
  obtain ⟨readable, stable⟩ := written.here
  exact written.decorated ⟨⟨readable.checks, readable.mode, readable.default, readable.shape⟩,
    ⟨stable.default, stable.shape⟩⟩

/-- A schema that is read as it is stays so with a default that is read as it is. -/
theorem written_withDefault (written : schema.Everywhere IsWritten)
    {literal : DefaultLiteral} (default : literal.IsWritten) :
    (schema.withDefault literal).Everywhere IsWritten := by
  obtain ⟨readable, stable⟩ := written.here
  refine written.decorated ⟨⟨readable.checks, readable.mode, ?_, readable.shape⟩, ?_, stable.shape⟩
  · rintro literal ⟨⟩
    exact default.1
  · rintro literal ⟨⟩
    exact default.2

end Schema

open Schema

/-! ### Patterns and types -/

namespace Pattern

/-- The pattern of a user profile is faithful. -/
theorem faithful_userProfile : userProfile.Everywhere IsFaithful := by
  have short : (500 : Int).natAbs < 10 ^ integerDigitLimit :=
    Nat.lt_of_lt_of_le (by decide : 500 < 10 ^ 3) (Nat.pow_le_pow_right (by decide) (by decide))
  have link := faithful_asOptional (faithful_flag faithful_string (by decide : "url" ∈ _))
  apply faithful_object
  simp only [List.forall_mem_cons]
  exact ⟨⟨by decide, link⟩, ⟨by decide, faithful_asOptional (faithful_max faithful_string short)⟩,
    ⟨by decide, faithful_asOptional faithful_string⟩, ⟨by decide, link⟩,
    ⟨by decide, faithful_asOptional (faithful_record faithful_string)⟩,
    ⟨by decide, faithful_asOptional (faithful_record faithful_unknown)⟩, by simp⟩

/-- The pattern of settings is faithful. -/
theorem faithful_settings : settings.Everywhere IsFaithful := by
  have text := faithful_asOptional faithful_string
  apply faithful_object
  simp only [List.forall_mem_cons]
  exact ⟨⟨by decide, faithful_asOptional (faithful_enum (by simp) (by decide))⟩,
    ⟨by decide, faithful_asOptional faithful_boolean⟩, ⟨by decide, text⟩, ⟨by decide, text⟩,
    by simp⟩

/-- The pattern of an address is faithful. -/
theorem faithful_address : address.Everywhere IsFaithful := by
  have text := faithful_asOptional faithful_string
  apply faithful_object
  simp only [List.forall_mem_cons]
  exact ⟨⟨by decide, faithful_string⟩, ⟨by decide, faithful_string⟩, ⟨by decide, text⟩,
    ⟨by decide, text⟩, ⟨by decide, faithful_string⟩, by simp⟩

/-- The patterns of the library are faithful where no parameter is given. -/
theorem faithful_library :
    ∀ pattern ∈ library, (pattern.schema none).Everywhere IsFaithful := by
  have anyObject : (object [] (some .passthrough)).Everywhere IsFaithful :=
    faithful_object _ (by simp)
  have primitive : (union [.string, .number, .boolean]).Everywhere IsFaithful := by
    apply faithful_union
    simp only [List.forall_mem_cons]
    exact ⟨faithful_string, faithful_number, faithful_boolean, by simp⟩
  simp only [library, List.forall_mem_cons]
  exact ⟨faithful_record faithful_unknown, faithful_record faithful_string,
    faithful_array faithful_string, faithful_array faithful_number, faithful_array anyObject,
    faithful_array faithful_string, faithful_userProfile, faithful_settings,
    faithful_record primitive, faithful_address, by simp⟩

/-- The schema that the library has for a name is that of one of its patterns. -/
@[elab_as_elim]
theorem holds_schema? {holds : Schema → Prop}
    (each : ∀ pattern ∈ library, holds (pattern.schema none)) {name : String} {schema : Schema}
    (found : Pattern.schema? name = some schema) : holds schema := by
  obtain ⟨pattern, listed, rfl⟩ := Option.map_eq_some_iff.mp found
  exact each pattern (List.mem_of_find?_eq_some listed)

end Pattern

/-- The schema of a type is faithful, if its length limit is not too long. -/
theorem TypeKind.faithful_schema (kind : TypeKind) {maxLength : Option Int}
    (short : ∀ n ∈ maxLength, n.natAbs < 10 ^ integerDigitLimit) :
    (kind.schema maxLength).Everywhere IsFaithful := by
  cases kind with
  | boundedString =>
    cases maxLength with
    | none => exact faithful_string
    | some limit =>
      show Everywhere IsFaithful (if _ then _ else _)
      split
      · exact faithful_max faithful_string (short limit rfl)
      · exact faithful_string
  | unboundedString => exact faithful_string
  | enumerated => exact faithful_string
  | integer => exact faithful_flag faithful_number (by decide)
  | real => exact faithful_number
  | boolean => exact faithful_boolean
  | date => exact faithful_flag faithful_string (by decide)
  | timestamp => exact faithful_flag faithful_string (by decide)
  | time => exact faithful_flag faithful_string (by decide)
  | identifier => exact faithful_flag faithful_string (by decide)
  | binary => exact faithful_binary
  | _ => exact faithful_unknown

/-- A pattern has the schema that the library has for its name; where none is given, any value does.
-/
theorem Override.patternSchema_cases {override : Override} {schema : Schema}
    (found : override.patternSchema = .ok schema) :
    schema = .unknown ∨ ∃ name, Pattern.schema? name = some schema := by
  unfold Override.patternSchema at found
  split at found
  · cases found
    exact .inl rfl
  · split at found
    · cases found
      exact .inl rfl
    · split at found
      · next named =>
        cases found
        exact .inr ⟨_, named⟩
      · cases found

/-- The schema of a JSON column is faithful, unless it is an expression given as text. -/
theorem Override.faithful_schema {override : Override} {schema : Schema}
    (found : override.schema = .ok schema)
    (understood : ∀ text, schema.shape = .raw text →
      ∃ read, Schema.parse (text.getD "") = .ok read) : schema.Everywhere IsFaithful := by
  have pattern (found : override.patternSchema = .ok schema) : schema.Everywhere IsFaithful := by
    rcases patternSchema_cases found with rfl | ⟨name, named⟩
    · exact faithful_unknown
    · exact Pattern.holds_schema? Pattern.faithful_library named
  unfold Override.schema at found
  split at found
  · split at found
    · exact pattern found
    · cases found
      exact faithful_undecorated (understood _ rfl) (by simp [Shape.parts])
  · exact pattern found

/-- The schema of a classified type is faithful, unless it is an expression given as text. -/
theorem Classification.faithful_schema {classification : Classification} {maxLength : Option Int}
    {override : Option Override} {schema : Schema}
    (found : classification.schema maxLength override = .ok schema)
    (short : ∀ n ∈ maxLength, n.natAbs < 10 ^ integerDigitLimit)
    (understood : ∀ text, schema.shape = .raw text →
      ∃ read, Schema.parse (text.getD "") = .ok read) : schema.Everywhere IsFaithful := by
  unfold Classification.schema at found
  split at found
  · next element _ =>
    cases found
    exact faithful_array (element.kind.faithful_schema (by simp))
  · split at found
    · exact Override.faithful_schema found understood
    · cases found
      exact TypeKind.faithful_schema _ short

/-! ### Columns -/

/-- A default that an expression writes is written, if its text is plain and its number has a digit
behind every point. -/
theorem Catalog.written_literalOf {text : List Char} {literal : DefaultLiteral}
    (read : literalOf text = .ok literal)
    (plain : ∀ content, literal.value = .str content → Text.IsPlain content)
    (pointed : ∀ source ∈ literal.text, IsPointed source.toList) : literal.IsWritten := by
  unfold literalOf at read
  split at read
  · cases read
    exact .of_faithful (plain _ rfl) rfl
  · split at read
    · next number =>
      obtain ⟨value, found, same⟩ := bind_eq_ok.mp read
      cases same
      have pointed : IsPointed (shown text) := by
        have := pointed _ rfl
        rwa [String.toList_ofList] at this
      have whole := number?_shown number pointed
      have reads : Numeral.value (shown text) = .ok value := (value_shown number).trans found
      have nonempty := shown_ne_nil number
      refine ⟨.numeral ?_ ?_ ?_, Value.reread_of_numeral reads⟩
      · show (String.ofList (shown text)).isEmpty = false
        simpa using nonempty
      · rw [String.toList_ofList]
        exact whole
      · rw [String.toList_ofList]
        exact reads
    · split at read
      · cases read
        exact .of_faithful trivial rfl
      · split at read
        · cases read
          exact .of_faithful trivial rfl
        · cases read
          exact .of_faithful (plain _ rfl) rfl

namespace Column

/-- A column whose length limit and default are written into a schema as they are: integers are not
too long, floating point numbers are finite, texts are plain, and a point in a number has a digit
behind it. -/
structure IsWritable (column : Column) : Prop where
  limit : ∀ n ∈ column.maxLength, n.natAbs < 10 ^ integerDigitLimit
  integer : ∀ n, column.default = some (.int n) → n.natAbs < 10 ^ integerDigitLimit
  float : ∀ x, column.default = some (.float x) → ∃ negative rank, x = .finite negative rank
  text : ∀ literal, ColumnDefault.ofValue column.defaultValue = .ok (.present literal) →
    ∀ content, literal.value = .str content → Text.IsPlain content
  numeral : ∀ literal, ColumnDefault.ofValue column.defaultValue = .ok (.present literal) →
    ∀ source ∈ literal.text, Catalog.IsPointed source.toList

variable {column : Column}

/-- The literal of a catalog default is the reported scalar, or what a reported text reads as. -/
theorem literal_cases {literal : DefaultLiteral}
    (present : ColumnDefault.ofValue column.defaultValue = .ok (.present literal)) :
    (∃ scalar, column.default = some scalar ∧ literal = { value := scalar.toValue }) ∨
      ∃ text, column.default = some (.str text) ∧
        Catalog.literalOf (Catalog.stripCasts text.toList) = .ok literal := by
  unfold defaultValue at present
  cases held : column.default with
  | none =>
    rw [held] at present
    cases present
  | some scalar =>
    rw [held] at present
    cases scalar with
    | str text =>
      change ColumnDefault.ofText text.toList = _ at present
      unfold ColumnDefault.ofText at present
      dsimp only at present
      split at present
      · cases present
      · cases read : Catalog.literalOf (Catalog.stripCasts text.toList) with
        | error long => rw [read] at present; cases present
        | ok found =>
          rw [read] at present
          cases present
          exact .inr ⟨text, rfl, read⟩
    | _ =>
      cases present
      exact .inl ⟨_, rfl, rfl⟩

/-- The default of a writable column is written. -/
theorem written_default (writable : column.IsWritable) {literal : DefaultLiteral}
    (present : ColumnDefault.ofValue column.defaultValue = .ok (.present literal)) :
    literal.IsWritten := by
  have plain := writable.text literal present
  rcases literal_cases present with ⟨scalar, held, rfl⟩ | ⟨text, -, read⟩
  · cases scalar with
    | bool truth => exact .of_faithful trivial rfl
    | int n => exact .of_faithful (writable.integer n held) rfl
    | float x => exact .of_faithful (writable.float x held) rfl
    | str text => exact .of_faithful (plain text rfl) rfl
  · exact Catalog.written_literalOf read plain (writable.numeral literal present)

/-- The schema of a writable column is read from its text with the values that it has, if an
expression that was given as text for it is understood. -/
theorem written_schema (writable : column.IsWritable) {override : Option Override} {schema : Schema}
    (found : column.schema override = .ok schema)
    (understood : ∀ text, schema.shape = .raw text →
      ∃ read, Schema.parse (text.getD "") = .ok read) : schema.Everywhere IsWritten := by
  obtain ⟨base, baseFound, tail⟩ := bind_eq_ok.mp found
  obtain ⟨default, defaultFound, same⟩ := bind_eq_ok.mp tail
  have shape : schema.shape = base.shape := by
    cases default <;> cases same <;> cases column.nullable <;> rfl
  have faithful : base.Everywhere IsFaithful :=
    Classification.faithful_schema (mapError_eq_ok baseFound) writable.limit
      fun text isRaw => understood text (shape.trans isRaw)
  have written := faithful.mono fun _ => written_of_faithful
  have nullable : (if column.nullable then base.asNullable else base).Everywhere IsWritten := by
    split
    · exact written_asNullable written
    · exact written
  cases default with
  | skipped =>
    cases same
    exact nullable
  | present literal =>
    cases same
    exact written_withDefault nullable (written_default writable (mapError_eq_ok defaultFound))

end Column

end TableSchema
