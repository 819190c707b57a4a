import Mathlib.Data.List.Permutation
import TableSchema.Proofs.Format.Length
import TableSchema.Proofs.Live.Heeded
import TableSchema.Proofs.Row.Admission

/-! # Limits on the length of a text

A text without a format, or with that of a mailbox, is accepted within its limits only. A text in
another format is accepted whatever its length, so that its limits hold exactly if no text of the
format is outside them (`Schema.accepts_within_iff`).
-/

namespace TableSchema

/-- A lower limit as a refinement. -/
def Check.atLeast (limit : Int) : Check :=
  ⟨"min", [.int limit]⟩

/-- An upper limit as a refinement. -/
def Check.atMost (limit : Int) : Check :=
  ⟨"max", [.int limit]⟩

/-- Refinements that ask for a format and limits at most, each at most once and in any order.
Refinements that neither set a size nor ask for a format do not matter. -/
structure AskForText (checks : List Check) (format : Option StringFormat) (min max : Option Int) :
    Prop where
  formats : checks.filter Check.isFormat = format.toList.map fun format => ⟨format.name, []⟩
  sizes : (checks.filter Check.isSize).Perm
    (min.toList.map Check.atLeast ++ max.toList.map Check.atMost)

/-- The format that refinements ask for depends on the refinements that ask for one. -/
theorem formatOfChecks_filter_isFormat {checks : List Check} :
    formatOfChecks (checks.filter Check.isFormat) = formatOfChecks checks := by
  induction checks with
  | nil => rfl
  | cons check checks hypothesis =>
    cases asked : StringFormat.ofName? check.name with
    | none =>
      have other : ¬check.isFormat = true := by simp [Check.isFormat, asked]
      rw [List.filter_cons_of_neg other, hypothesis, formatOfChecks_cons_of_other asked]
    | some format =>
      have isFormat : check.isFormat = true := by rw [Check.isFormat, asked, Option.isSome_some]
      rw [List.filter_cons_of_pos isFormat]
      rw [formatOfChecks_cons_of_asked asked, formatOfChecks_cons_of_asked asked]

/-- A format has its name. -/
theorem StringFormat.ofName?_name (format : StringFormat) : ofName? format.name = some format := by
  cases format with
  | parsed format => cases format <;> rfl
  | email => rfl

namespace AskForText

variable {checks : List Check} {format : Option StringFormat} {min max : Option Int}

/-- The refinements that ask for a text of a format give this format. -/
theorem formatOfChecks_eq (ask : AskForText checks format min max) :
    formatOfChecks checks = format := by
  rw [← formatOfChecks_filter_isFormat, ask.formats]
  cases format with
  | none => rfl
  | some format =>
    show ([_] : List Check).findSome? _ = _
    rw [List.findSome?_singleton]
    exact format.ofName?_name

/-- The refinements that ask for a text within bounds give these bounds. -/
theorem ofChecks_eq (ask : AskForText checks format min max) :
    LengthBounds.ofChecks checks = .ok { min := min.map .int, max := max.map .int } := by
  rw [← LengthBounds.ofChecks_filter_isSize]
  have sizes := ask.sizes
  cases min with
  | none =>
    cases max with
    | none =>
      rw [List.perm_nil.mp sizes]
      rfl
    | some greatest =>
      rw [List.perm_singleton.mp sizes]
      rfl
  | some least =>
    cases max with
    | none =>
      rw [List.perm_singleton.mp sizes]
      rfl
    | some greatest =>
      rcases List.perm_pair.mp sizes with order | order <;> rw [order] <;> rfl

end AskForText

/-! ### Types of texts -/

namespace Row

/-- A bound that can be used is not negative. -/
theorem eq_of_optionalBound? {limit : Option Int} {bound : Option Nat}
    (usable : optionalBound? lengthBound? (limit.map .int) = some bound) :
    limit = bound.map Int.ofNat := by
  cases limit with
  | none =>
    cases usable
    rfl
  | some limit =>
    obtain ⟨size, read, rfl⟩ := Option.map_eq_some_iff.mp usable
    rw [lengthBound?] at read
    split at read
    · next inRange =>
      cases read
      exact congrArg some (Int.toNat_of_nonneg inRange.1).symm
    · cases read

/-- A text without problem is within the bounds. -/
theorem isWithin_of_textProblem? {email : Bool} {length : LengthRange} {min max : Option Int}
    (usable : lengthRange? { min := min.map .int, max := max.map .int } = some length)
    {text : List Char} (free : textProblem? email length text = none) :
    IsWithin min max text.length := by
  obtain ⟨least, minUsable, tail⟩ := Option.bind_eq_some_iff.mp usable
  obtain ⟨greatest, maxUsable, same⟩ := Option.bind_eq_some_iff.mp tail
  cases same
  rw [eq_of_optionalBound? minUsable, eq_of_optionalBound? maxUsable]
  unfold textProblem? at free
  split at free
  · cases free
  next notLong =>
  split at free
  · cases free
  next notShort =>
  constructor
  · rintro limit given
    obtain ⟨size, rfl, rfl⟩ := Option.map_eq_some_iff.mp given
    simpa using notShort
  · rintro limit given
    obtain ⟨size, rfl, rfl⟩ := Option.map_eq_some_iff.mp given
    simpa using notLong

end Row

namespace Schema

variable {format : Option StringFormat} {min max : Option Int} {marks : Decorations}
  {model : String} {type : RowType}

/-- The row type of a text accepts the texts that the type of its format and bounds accepts. -/
theorem textType_of_build (ask : AskForText marks.checks format min max)
    (built : Schema.build ⟨.string, marks⟩ Row.backend model = .ok (some type)) :
    ∃ base, Row.textType? format { min := min.map .int, max := max.map .int } = some base ∧
      ∀ text : String, type.Accepts (.str text) ↔ base.Accepts (.str text) := by
  obtain ⟨⟨live, marks'⟩, builtWith, same⟩ := bind_eq_ok.mp built
  cases same
  have constructed : ∀ text, (.string : Shape Schema) ≠ .raw text :=
    fun text isRaw => by cases isRaw
  obtain ⟨-, inner, builtShape, made⟩ := exists_of_buildWith constructed builtWith
  obtain ⟨bounds, found, called⟩ := bind_eq_ok.mp builtShape
  rw [ask.ofChecks_eq] at found
  cases found
  rw [ask.formatOfChecks_eq] at called
  obtain rfl : Row.textType? format { min := min.map .int, max := max.map .int } = inner :=
    Except.ok.inj (mapError_eq_ok called)
  rcases made with plain | nullable
  · exact ⟨type, plain.symm, fun text => Iff.rfl⟩
  · simp only [Row.backend] at nullable
    split at nullable
    · cases nullable
    · obtain ⟨base, found, rfl⟩ := Option.map_eq_some_iff.mp (Except.ok.inj nullable)
      have notNull (text : String) : (.str text : Value) ≠ .null := fun isNull => by cases isNull
      exact ⟨base, found, fun text => RowType.accepts_orNull.trans (or_iff_right (notNull text))⟩

/-- The length of every text that is accepted is within the limits that were asked for exactly if
there is no format that texts are read in, or no text of that format is outside the limits. -/
theorem accepts_within_iff (ask : AskForText marks.checks format min max)
    (built : Schema.build ⟨.string, marks⟩ Row.backend model = .ok (some type)) :
    (∀ text : String, type.Accepts (.str text) → IsWithin min max text.length) ↔
      ∀ parsed, format = some (.parsed parsed) → (∀ limit ∈ min, limit ≤ parsed.shortest) ∧
        ∀ limit ∈ max, ∃ length ∈ parsed.longest?, (length : Int) ≤ limit := by
  obtain ⟨base, found, same⟩ := textType_of_build ask built
  simp only [same]
  -- Texts that are not read in a format are measured, whether or not they are a mailbox.
  have measured {email : Bool} {length : LengthRange}
      (usable : Row.lengthRange? { min := min.map .int, max := max.map .int } = some length)
      (text : String) (accepts : (RowType.text email length).Accepts (.str text)) :
      IsWithin min max text.length := by
    obtain ⟨content, same, free⟩ := (@RowType.accepts_text (.str text) _ _).mp accepts
    cases same
    rw [← String.length_toList]
    exact Row.isWithin_of_textProblem? usable free
  match format with
  | none =>
    obtain ⟨length, usable, rfl⟩ := Option.map_eq_some_iff.mp found
    exact iff_of_true (measured usable) nofun
  | some .email =>
    obtain ⟨length, usable, rfl⟩ := Option.map_eq_some_iff.mp found
    exact iff_of_true (measured usable) nofun
  | some (.parsed parsed) =>
    cases found
    have reads (text : String) :
        (RowType.formatted parsed).Accepts (.str text) ↔ parsed.Reads text.toList :=
      RowType.accepts_formatted_text
    constructor
    · intro within other same
      cases same
      refine TextFormat.isWithin_iff.mp fun text accepted => ?_
      have short := within (String.ofList text)
        ((reads _).mpr (by rw [String.toList_ofList]; exact accepted))
      rwa [String.length_ofList] at short
    · intro limits text accepted
      rw [← String.length_toList]
      exact TextFormat.isWithin_iff.mpr (limits parsed rfl) _ ((reads text).mp accepted)

/-- The limits are those of identifiers themselves. -/
theorem accepts_within_iff_uuid :
    ∃ marks type, Schema.parse "z.string().min(32).uuid().max(45)" = .ok ⟨.string, marks⟩ ∧
      AskForText marks.checks (some (.parsed .uuid)) (some 32) (some 45) ∧
      Schema.build ⟨.string, marks⟩ Row.backend "Item" = .ok (some type) ∧
      ∀ text : String, type.Accepts (.str text) → IsWithin (some 32) (some 45) text.length := by
  have parsed : Schema.parse "z.string().min(32).uuid().max(45)" =
      .ok (((string.check "min" [.int 32]).check "uuid").check "max" [.int 45]) :=
    ok_of_toOption (by decide +kernel)
  have ask : AskForText [⟨"min", [.int 32]⟩, ⟨"uuid", []⟩, ⟨"max", [.int 45]⟩]
      (some (.parsed .uuid)) (some 32) (some 45) := ⟨rfl, .refl _⟩
  have built : (((string.check "min" [.int 32]).check "uuid").check "max" [.int 45]).build
      Row.backend "Item" = .ok (some (.formatted .uuid)) := rfl
  refine ⟨_, _, parsed, ask, built, (accepts_within_iff ask built).mpr ?_⟩
  rintro - ⟨⟩
  refine ⟨?_, ?_⟩ <;> rintro limit ⟨⟩
  · decide
  · exact ⟨45, rfl, by decide⟩

/-- An address of 19 characters is accepted where ten are the limit. -/
theorem accepts_within_iff_url :
    ∃ marks type, Schema.parse "z.string().url().max(10)" = .ok ⟨.string, marks⟩ ∧
      AskForText marks.checks (some (.parsed .url)) none (some 10) ∧
      Schema.build ⟨.string, marks⟩ Row.backend "Item" = .ok (some type) ∧
      type.Accepts (.str "urn:isbn:0451450523") ∧
      ¬IsWithin none (some 10) "urn:isbn:0451450523".length := by
  have parsed : Schema.parse "z.string().url().max(10)" =
      .ok ((string.check "url").check "max" [.int 10]) := ok_of_toOption (by decide +kernel)
  have ask : AskForText [⟨"url", []⟩, ⟨"max", [.int 10]⟩] (some (.parsed .url)) none (some 10) :=
    ⟨rfl, .refl _⟩
  have built : ((string.check "url").check "max" [.int 10]).build Row.backend "Item" =
      .ok (some (.formatted .url)) := rfl
  have accepted : TextFormat.url.Reads "urn:isbn:0451450523".toList :=
    TextFormat.reads_of_isSome (by decide +kernel)
  refine ⟨_, _, parsed, ask, built,
    RowType.accepts_formatted_text.mpr accepted, ?_⟩
  intro within
  exact absurd (within.2 10 rfl) (by decide)

end Schema

end TableSchema
