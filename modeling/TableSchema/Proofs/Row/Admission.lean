import TableSchema.Proofs.Column
import TableSchema.Proofs.Row.Acceptance

/-! # Which defaults a column admits

The literal of a catalog default is a scalar (`ColumnDefault.exists_scalar`). Which scalars a column
admits depends on the kind of its type, on its length limit, and for JSON on its pattern. The row
type that is built of the column accepts these scalars and no others (`Column.accepts_iff_admits`),
unless an expression describes the column.
-/

namespace TableSchema

open Schema

/-- A number has no problem where there are no bounds. -/
theorem Row.rangeProblem?_free {ν : Type} (less atMost : ν → ν → Bool) (x : ν) :
    rangeProblem? less atMost {} x = none :=
  rfl

/-- What can be kept has a canonical text. -/
theorem Row.isAccepted_kept {α : Type} {isKept : α → Bool} {canonical : α → List Char}
    {problem : Problem} {read : α} :
    (kept isKept canonical problem read).IsAccepted ↔ isKept read = true := by
  unfold kept
  split
  · next keeps => exact iff_of_true (Checked.isAccepted_accepted _) keeps
  · next loses => exact iff_of_false (Checked.not_isAccepted_refused _) loses

/-- Whether a format has a value for a count of seconds and microseconds: for timestamps a moment in
a year that can be kept, for dates such a moment at the beginning of a day, for times a time before
the end of the day. -/
def TextFormat.Counts (format : TextFormat) (seconds : Int) (microseconds : Nat) : Prop :=
  match format with
  | .datetime => ∃ moment, Format.Timestamp.ofCount? seconds microseconds = some moment ∧
    moment.date.isKept = true
  | .date => ∃ moment, Format.Timestamp.ofCount? seconds microseconds = some moment ∧
    moment.isMidnight = true ∧ moment.date.isKept = true
  | .time => 0 ≤ seconds ∧ seconds.toNat + microseconds / 1000000 < 86400
  | .uuid => False
  | .url => False

/-- A number has a canonical text in a format if it counts something that the format has. -/
theorem Row.isAccepted_canonicalCount {format : TextFormat} {number : Value} :
    (canonicalCount format number).IsAccepted ↔ ∃ seconds microseconds,
      countOf? number = some (seconds, microseconds) ∧ format.Counts seconds microseconds := by
  cases counted : countOf? number with
  | none =>
    refine iff_of_false ?_ nofun
    unfold canonicalCount
    rw [counted]
    cases format <;> exact Checked.not_isAccepted_refused _
  | some count =>
    obtain ⟨seconds, microseconds⟩ := count
    have only : (∃ seconds' microseconds', some (seconds, microseconds) =
        some (seconds', microseconds') ∧ format.Counts seconds' microseconds') ↔
          format.Counts seconds microseconds := by
      constructor
      · rintro ⟨_, _, ⟨⟩, counts⟩
        exact counts
      · intro counts
        exact ⟨seconds, microseconds, rfl, counts⟩
    rw [only]
    unfold canonicalCount
    rw [counted]
    cases format with
    | datetime =>
      simp only [Option.bind_some, TextFormat.Counts]
      cases Format.Timestamp.ofCount? seconds microseconds with
      | none => exact iff_of_false (Checked.not_isAccepted_refused _) nofun
      | some moment => simp [canonicalMoment, isAccepted_kept]
    | date =>
      simp only [Option.bind_some, TextFormat.Counts]
      cases Format.Timestamp.ofCount? seconds microseconds with
      | none => exact iff_of_false (Checked.not_isAccepted_refused _) nofun
      | some moment =>
        by_cases midnight : moment.isMidnight = true
        · simp [canonicalDay, midnight, isAccepted_kept]
        · simp [canonicalDay, midnight]
    | time =>
      simp only [Option.bind_some, TextFormat.Counts, Format.TimeOfDay.ofCount?]
      split
      · next within => exact iff_of_true (Checked.isAccepted_accepted _) within
      · next outside => exact iff_of_false (Checked.not_isAccepted_refused _) outside
    | uuid => exact iff_of_false (Checked.not_isAccepted_refused _) id
    | url => exact iff_of_false (Checked.not_isAccepted_refused _) id

-- The count 0 is the beginning of 1970, and a second before midnight is no date.
example : Row.canonicalCount .datetime (.int 0) =
    .accepted "1970-01-01T00:00:00+00:00".toList := by rfl
example : Row.canonicalCount .date (.int 86399) = .refuse .dateInexact := by rfl

/-- A text that is bounded above has no problem exactly within the bound. -/
theorem Row.textProblem?_max {max : Option Nat} {content : List Char} :
    textProblem? false { max } content = none ↔ ∀ limit ∈ max, content.length ≤ limit := by
  cases max <;> simp [textProblem?]

namespace RowType

variable {scalar : Scalar}

/-- A type of texts accepts the texts without problem. -/
theorem accepts_text {email : Bool} {length : LengthRange} :
    (text email length).Accepts scalar.toValue ↔
      ∃ content, scalar = .str content ∧ Row.textProblem? email length content.toList = none := by
  rw [accepts_iff_fit, Row.fit]
  cases scalar <;> simp [Scalar.toValue, Row.checkText, Row.isAccepted_acceptUnless]

theorem accepts_freeText :
    (text false {}).Accepts scalar.toValue ↔ ∃ content, scalar = .str content := by
  simp [accepts_text, Row.textProblem?]

/-- A format accepts its texts. -/
theorem accepts_formatted_text {format : TextFormat} {content : String} :
    (formatted format).Accepts (.str content) ↔
      (Row.canonicalText format content.toList).IsAccepted := by
  rw [accepts_iff_fit, Row.fit, Row.checkFormatted, Checked.isAccepted_map]

/-- A format accepts, besides its texts, the numbers of seconds that it counts. -/
theorem accepts_formatted {format : TextFormat} :
    (formatted format).Accepts scalar.toValue ↔
      (∃ content, scalar = .str content ∧
        (Row.canonicalText format content.toList).IsAccepted) ∨
      ∃ seconds microseconds,
        Row.countOf? scalar.toValue = some (seconds, microseconds) ∧
          format.Counts seconds microseconds := by
  cases scalar with
  | str content =>
    rw [Scalar.toValue, accepts_formatted_text]
    constructor
    · intro accepted
      exact .inl ⟨content, rfl, accepted⟩
    · rintro (⟨_, same, accepted⟩ | ⟨_, _, counted, -⟩)
      · cases same
        exact accepted
      · cases counted
  | bool truth =>
    refine iff_of_false ?_ ?_
    · rw [accepts_iff_fit, Row.fit]
      exact Checked.not_isAccepted_refused _
    · rintro (⟨_, same, -⟩ | ⟨_, _, counted, -⟩)
      · cases same
      · cases counted
  | int n =>
    have noText : ¬∃ content, Scalar.int n = .str content ∧
        (Row.canonicalText format content.toList).IsAccepted := by
      rintro ⟨_, same, -⟩
      cases same
    rw [or_iff_right noText, accepts_iff_fit, Row.fit, Scalar.toValue, Row.checkFormatted,
      Checked.isAccepted_map, Row.isAccepted_canonicalCount]
  | float x =>
    have noText : ¬∃ content, Scalar.float x = .str content ∧
        (Row.canonicalText format content.toList).IsAccepted := by
      rintro ⟨_, same, -⟩
      cases same
    rw [or_iff_right noText, accepts_iff_fit, Row.fit, Scalar.toValue, Row.checkFormatted,
      Checked.isAccepted_map, Row.isAccepted_canonicalCount]

/-- A type of integers without bounds accepts every integer. -/
theorem accepts_integer : (integer {}).Accepts scalar.toValue ↔ ∃ n, scalar = .int n := by
  rw [accepts_iff_fit, Row.fit]
  cases scalar <;>
    simp [Scalar.toValue, Row.checkInteger, Row.isAccepted_acceptUnless, Row.rangeProblem?_free]

/-- A type of numbers without bounds accepts every number that a floating point number can stand
for. -/
theorem accepts_number : (number {}).Accepts scalar.toValue ↔
    (∃ x, scalar = .float x) ∨ ∃ n, scalar = .int n ∧ (Binary64.nearest? n).isSome = true := by
  have free (exactness : Row.Exactness) (x : Binary64) :
      (Row.checkFloat {} exactness x).IsAccepted := by
    rw [Row.checkFloat, Row.isAccepted_acceptUnless, Row.rangeProblem?_free]
  rw [accepts_iff_fit, Row.fit]
  cases scalar with
  | float x => exact iff_of_true (free .exact x) (.inl ⟨x, rfl⟩)
  | int n =>
    rw [Scalar.toValue, Row.checkNumber]
    cases found : Binary64.nearest? n <;> simp [found, Row.checkNearest, free]
  | _ => simp [Scalar.toValue, Row.checkNumber]

/-- A type of truth values accepts those. -/
theorem accepts_boolean : boolean.Accepts scalar.toValue ↔ ∃ truth, scalar = .bool truth := by
  rw [accepts_iff_fit]
  cases scalar with
  | bool truth => exact iff_of_true ⟨_, rfl⟩ ⟨truth, rfl⟩
  | _ => simp [Scalar.toValue, Row.fit]

/-- A type of bytes accepts texts for them. -/
theorem accepts_bytes : bytes.Accepts scalar.toValue ↔ ∃ content, scalar = .str content := by
  rw [accepts_iff_fit, Row.fit]
  cases scalar with
  | str content => exact iff_of_true ⟨_, rfl⟩ ⟨content, rfl⟩
  | _ => simp [Scalar.toValue, Row.checkBytes]

theorem accepts_any (value : Value) : any.Accepts value := by
  rw [accepts_iff_fit, Row.fit]
  exact ⟨_, rfl⟩

/-- Lists, dictionaries and models accept no scalar. -/
theorem not_accepts_list {item : RowType} {length : LengthRange} :
    ¬(list item length).Accepts scalar.toValue := by
  rw [accepts_iff_fit, Row.fit]
  cases scalar <;> simp [Scalar.toValue, Row.checkList]

theorem not_accepts_dict {type : RowType} : ¬(dict type).Accepts scalar.toValue := by
  rw [accepts_iff_fit, Row.fit]
  cases scalar <;> simp [Scalar.toValue, Row.checkDict]

/-- A model accepts no catalog default. -/
theorem not_accepts_model {name : String} {extras : Extras} {fields : List (RowField RowType)} :
    ¬(model name extras fields).Accepts scalar.toValue := by
  rw [accepts_model]
  cases scalar <;> simp [Scalar.toValue]

end RowType

/-! ### Kinds of types -/

/-- Whether a kind of types, with a length limit, has a scalar among its values. A limit that is not
positive is none. Dates, timestamps and times may be numbers of seconds. -/
def TypeKind.Admits (kind : TypeKind) (maxLength : Option Int) (scalar : Scalar) : Prop :=
  let isFormatted (format : TextFormat) : Prop :=
    (∃ content, scalar = .str content ∧ (Row.canonicalText format content.toList).IsAccepted) ∨
      ∃ seconds microseconds, Row.countOf? scalar.toValue = some (seconds, microseconds) ∧
        format.Counts seconds microseconds
  match kind with
  | .boundedString =>
    ∃ content, scalar = .str content ∧ ∀ limit ∈ maxLength, 0 < limit → content.length ≤ limit
  | .unboundedString => ∃ content, scalar = .str content
  | .enumerated => ∃ content, scalar = .str content
  | .binary => ∃ content, scalar = .str content
  | .integer => ∃ n, scalar = .int n
  | .real => (∃ x, scalar = .float x) ∨ ∃ n, scalar = .int n ∧ (Binary64.nearest? n).isSome = true
  | .boolean => ∃ truth, scalar = .bool truth
  | .date => isFormatted .date
  | .timestamp => isFormatted .datetime
  | .time => isFormatted .time
  | .identifier => isFormatted .uuid
  | .document => True
  | .unknown => True
  | .array => False

/-- The row type of a kind with a length limit, none where the limit is too great to be used. -/
def TypeKind.rowType? (kind : TypeKind) (maxLength : Option Int) : Option RowType :=
  match kind with
  | .boundedString =>
    (Row.lengthRange? { max := (maxLength.filter (0 < ·)).map .int }).map (.text false)
  | .unboundedString => some (.text false {})
  | .enumerated => some (.text false {})
  | .integer => some (.integer {})
  | .real => some (.number {})
  | .boolean => some .boolean
  | .date => some (.formatted .date)
  | .timestamp => some (.formatted .datetime)
  | .time => some (.formatted .time)
  | .identifier => some (.formatted .uuid)
  | .binary => some .bytes
  | .document => some .any
  | .array => some .any
  | .unknown => some .any

variable {text : TextBuilder (Option RowType)} {name : String} {marks : Decorations}

/-- The schema of a kind is built to the row type of the kind. -/
theorem TypeKind.buildShape_schema (kind : TypeKind) (maxLength : Option Int)
    (checks : marks.checks = (kind.schema maxLength).decorations.checks) :
    buildShape Row.backend text name marks (kind.schema maxLength).shape =
      .ok (kind.rowType? maxLength) := by
  obtain ⟨marksChecks, mode, optional, nullable, default⟩ := marks
  cases checks
  cases kind with
  | boundedString =>
    cases maxLength with
    | none => rfl
    | some limit =>
      by_cases positive : 0 < limit
      · simp only [schema, limitedString, rowType?, if_pos positive, Option.filter_some,
          decide_eq_true positive]
        rfl
      · simp only [schema, limitedString, rowType?, if_neg positive, Option.filter_some,
          decide_eq_false positive]
        rfl
  | _ => rfl

/-- An upper bound on a length that can be used is that of the length range. -/
theorem Row.max_of_lengthRange {limit? : Option Int} {range : LengthRange}
    (bounded : lengthRange? { max := limit?.map .int } = some range) :
    range = { max := limit?.map Int.toNat } := by
  cases limit? with
  | none =>
    cases bounded
    rfl
  | some limit =>
    by_cases usable : 0 ≤ limit ∧ limit < 0x10000000000000000
    · simp only [lengthRange?, optionalBound?, lengthBound?, Option.map_some,
        if_pos usable] at bounded
      cases bounded
      rfl
    · simp only [lengthRange?, optionalBound?, lengthBound?, Option.map_some,
        if_neg usable] at bounded
      cases bounded

/-- The schema of a type is not given as text. -/
theorem TypeKind.constructed_schema (kind : TypeKind) (maxLength : Option Int)
    (text : Option String) : (kind.schema maxLength).shape ≠ .raw text := by
  intro isRaw
  cases kind with
  | boundedString =>
    cases maxLength with
    | none => cases isRaw
    | some limit =>
      simp only [schema, limitedString] at isRaw
      split at isRaw <;> cases isRaw
  | _ => cases isRaw

/-- The row type of a kind accepts the scalars that the kind admits. -/
theorem TypeKind.accepts_iff_admits {kind : TypeKind} {maxLength : Option Int}
    (single : kind ≠ .array) {type : RowType} (usable : kind.rowType? maxLength = some type)
    (scalar : Scalar) : type.Accepts scalar.toValue ↔ kind.Admits maxLength scalar := by
  cases kind with
  | boundedString =>
    obtain ⟨range, bounded, rfl⟩ := Option.map_eq_some_iff.mp usable
    cases Row.max_of_lengthRange bounded
    refine RowType.accepts_text.trans (exists_congr fun content => and_congr_right fun _ => ?_)
    rw [Row.textProblem?_max, String.length_toList]
    cases maxLength with
    | none => simp
    | some limit =>
      by_cases positive : 0 < limit
      · have within : content.length ≤ limit.toNat ↔ (content.length : Int) ≤ limit := by omega
        simp [positive, within]
      · simp [positive]
  | array => exact absurd rfl single
  | unboundedString => cases usable; exact RowType.accepts_freeText
  | enumerated => cases usable; exact RowType.accepts_freeText
  | integer => cases usable; exact RowType.accepts_integer
  | real => cases usable; exact RowType.accepts_number
  | boolean => cases usable; exact RowType.accepts_boolean
  | date => cases usable; exact RowType.accepts_formatted
  | timestamp => cases usable; exact RowType.accepts_formatted
  | time => cases usable; exact RowType.accepts_formatted
  | identifier => cases usable; exact RowType.accepts_formatted
  | binary => cases usable; exact RowType.accepts_bytes
  | document => cases usable; exact iff_of_true (RowType.accepts_any _) trivial
  | unknown => cases usable; exact iff_of_true (RowType.accepts_any _) trivial

/-! ### Columns -/

/-- Whether a shape is one of values with parts. -/
def Shape.isCompound : Shape Schema → Bool
  | .array _ => true
  | .record _ => true
  | .object _ => true
  | _ => false

theorem Pattern.isCompound_schema? {name : String} {schema : Schema}
    (found : Pattern.schema? name = some schema) : schema.shape.isCompound = true :=
  holds_schema? (by decide) found

/-- What is compound is not given as text. -/
theorem Schema.constructed_of_isCompound {shape : Shape Schema} (compound : shape.isCompound = true)
    (text : Option String) : shape ≠ .raw text := by
  rintro rfl
  cases compound

/-- The row type of a shape of values with parts accepts no scalar. -/
theorem RowType.not_accepts_of_isCompound {shape : Shape Schema}
    (compound : shape.isCompound = true) {type : RowType}
    (built : buildShape Row.backend text name marks shape = .ok (some type))
    (scalar : Scalar) : ¬type.Accepts scalar.toValue := by
  cases shape with
  | array item =>
    obtain ⟨live, -, tail⟩ := bind_eq_ok.mp built
    obtain ⟨bounds, -, called⟩ := bind_eq_ok.mp tail
    have made := Except.ok.inj (mapError_eq_ok called)
    obtain ⟨item, -, tail⟩ := Option.bind_eq_some_iff.mp made
    obtain ⟨range, -, same⟩ := Option.bind_eq_some_iff.mp tail
    cases same
    exact not_accepts_list
  | record value =>
    obtain ⟨live, -, called⟩ := bind_eq_ok.mp built
    obtain ⟨value, -, same⟩ := Option.map_eq_some_iff.mp (Except.ok.inj (mapError_eq_ok called))
    cases same
    exact not_accepts_dict
  | object fields =>
    obtain ⟨members, -, called⟩ := bind_eq_ok.mp built
    obtain ⟨usable, -, same⟩ := Row.exists_usable_of_object (mapError_eq_ok called)
    cases same
    exact not_accepts_model
  | _ => cases compound

/-- A schema is built to a type that accepts, null apart, what the type of its shape accepts. -/
theorem Schema.accepts_of_build {shape : Shape Schema} (constructed : ∀ text, shape ≠ .raw text)
    {own : RowType} (built : build ⟨shape, marks⟩ Row.backend name = .ok (some own)) :
    ∃ type, buildShape Row.backend (buildText Row.backend) name marks shape = .ok (some type) ∧
      ∀ value, value ≠ .null → (own.Accepts value ↔ type.Accepts value) := by
  obtain ⟨⟨live, marks'⟩, builtWith, same⟩ := bind_eq_ok.mp built
  cases same
  obtain ⟨-, inner, builtShape, made⟩ := exists_of_buildWith constructed builtWith
  rcases made with rfl | made
  · exact ⟨own, builtShape, fun _ _ => Iff.rfl⟩
  · simp only [Row.backend] at made
    split at made
    · cases made
    · obtain ⟨type, rfl, rfl⟩ := Option.map_eq_some_iff.mp (Except.ok.inj made)
      refine ⟨type, builtShape, fun value nonnull => ?_⟩
      rw [RowType.accepts_orNull]
      exact or_iff_right nonnull

/-- Whether a column has a scalar among its values, by the kind of its type, and for JSON by its
pattern: all patterns are of values with parts. -/
def Column.Admits (column : Column) (override : Override) (scalar : Scalar) : Prop :=
  column.kind.Admits column.maxLength scalar ∧
    (column.kind = .document → override.pattern.getD "" = "")

variable {column : Column} {override : Override} {own : RowType}

/-- A base of a column is not given as text. -/
theorem Column.IsBase.constructed {base : Schema} (isBase : column.IsBase override base)
    (text : Option String) : base.shape ≠ .raw text := by
  cases isBase with
  | array isArray element => nofun
  | pattern document asked nonempty named =>
    exact constructed_of_isCompound (Pattern.isCompound_schema? named) text
  | kind single free => exact column.kind.constructed_schema column.maxLength text

/-- The row type that is built of a base of a column accepts the scalars that the column admits. -/
theorem Column.IsBase.accepts_iff_admits {base : Schema} (isBase : column.IsBase override base)
    (built : build ⟨base.shape, marks⟩ Row.backend name = .ok (some own))
    (checks : marks.checks = base.decorations.checks) (scalar : Scalar) :
    own.Accepts scalar.toValue ↔ column.Admits override scalar := by
  have nonnull : scalar.toValue ≠ .null := by cases scalar <;> nofun
  obtain ⟨type, builtShape, same⟩ := accepts_of_build isBase.constructed built
  rw [same _ nonnull]
  cases isBase with
  | array isArray element =>
    refine iff_of_false (RowType.not_accepts_of_isCompound rfl builtShape scalar) ?_
    rw [Column.Admits, isArray]
    exact fun both => both.1
  | pattern document asked nonempty named =>
    have compound := Pattern.isCompound_schema? named
    refine iff_of_false (RowType.not_accepts_of_isCompound compound builtShape scalar) ?_
    rintro ⟨-, free⟩
    exact nonempty (asked.symm.trans (free document))
  | kind single free =>
    rw [TypeKind.buildShape_schema _ _ checks] at builtShape
    rw [TypeKind.accepts_iff_admits single (Except.ok.inj builtShape)]
    exact (and_iff_left free).symm

/-- The row type of a column that no expression describes accepts the scalars that the column
admits. -/
theorem Column.accepts_iff_admits {schema : Schema}
    (found : column.schema (some override) = .ok schema)
    (undescribed : ¬∃ text, override.Describes column text)
    (built : schema.build Row.backend name = .ok (some own)) (scalar : Scalar) :
    own.Accepts scalar.toValue ↔ column.Admits override scalar := by
  obtain ⟨base, default, baseFound, -, rfl⟩ := exists_base found
  have isBase := (isBase_of_found baseFound).resolve_left undescribed
  exact isBase.accepts_iff_admits built rfl scalar

end TableSchema
