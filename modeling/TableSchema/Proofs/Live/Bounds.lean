import Mathlib.Algebra.Order.Ring.Rat
import Mathlib.Order.WithBot
import TableSchema.Backend.Description
import TableSchema.Proofs.Live.Building

/-! # Bounds that are handed to constructors

Refinements set limits on four sides. The constructor of a number, a text or a list is handed, on
each side, the last limit that is set there, so what satisfies all refinements is within the limits
that are handed over. The converse fails where a later limit is less strict than an earlier one, and
for refinements of sign on lengths, which are not heeded (`handed_limits`).
-/

namespace TableSchema

open Schema

/-! ### Limits -/

/-- The exact value of a number, also one that is not finite. -/
abbrev Bound : Type := WithBot (WithTop ℚ)

/-- The exact value of a number, none for not-a-number. -/
def Binary64.bound? (x : Binary64) : Option Bound :=
  match x with
  | .finite _ _ => x.units?.map fun units => (((units : ℚ) / unitsInOne : ℚ) : WithTop ℚ)
  | .infinite true => some ⊥
  | .infinite false => some (⊤ : WithTop ℚ)
  | .nan => none

/-- The exact number that a value stands for, if it stands for one. -/
def Value.bound? : Value → Option Bound
  | .int n => some ((n : ℚ) : WithTop ℚ)
  | .bool truth => some ((truth.toNat : ℚ) : WithTop ℚ)
  | .float x => x.bound?
  | _ => none

/-- A side on which numbers are bounded. -/
inductive Side where
  | greater
  | atLeast
  | less
  | atMost
deriving DecidableEq

namespace Side

/-- Whether a number is on this side of a bound. -/
def Holds (side : Side) (bound : Bound) (x : ℚ) : Prop :=
  match side with
  | .greater => bound < ((x : WithTop ℚ) : Bound)
  | .atLeast => bound ≤ ((x : WithTop ℚ) : Bound)
  | .less => ((x : WithTop ℚ) : Bound) < bound
  | .atMost => ((x : WithTop ℚ) : Bound) ≤ bound

/-- Whether a limit on a side admits a number. Null is no limit, and a limit that stands for no
number admits none. -/
def Admits (side : Side) (limit : Value) (x : ℚ) : Prop :=
  limit = .null ∨ ∃ bound, limit.bound? = some bound ∧ side.Holds bound x

/-- Whether a bound on a side is as strict as another. -/
def Covers (side : Side) (bound other : Bound) : Prop :=
  match side with
  | .greater => other ≤ bound
  | .atLeast => other ≤ bound
  | .less => bound ≤ other
  | .atMost => bound ≤ other

/-- Whether a limit on a side is as strict as another. -/
def IsAsStrict (side : Side) (limit other : Value) : Prop :=
  limit = other ∨ ∃ bound bound', limit.bound? = some bound ∧ other.bound? = some bound' ∧
    side.Covers bound bound'

/-- What a limit admits is admitted by every limit that it is as strict as. -/
theorem admits_of_isAsStrict {side : Side} {limit other : Value} {x : ℚ}
    (asStrict : side.IsAsStrict limit other) (admits : side.Admits limit x) :
    side.Admits other x := by
  rcases asStrict with rfl | ⟨bound, bound', number, number', covers⟩
  · exact admits
  rcases admits with rfl | ⟨same, known, holds⟩
  · cases number
  cases number.symm.trans known
  refine .inr ⟨bound', number', ?_⟩
  cases side with
  | greater => exact lt_of_le_of_lt covers holds
  | atLeast => exact le_trans covers holds
  | less => exact lt_of_lt_of_le holds covers
  | atMost => exact le_trans holds covers

end Side

/-- Limits on the sides on which there are any. -/
abbrev Limits : Type := Side → Option Value

/-- Whether a number is within limits. -/
def Limits.Admit (limits : Limits) (x : ℚ) : Prop :=
  ∀ side limit, limits side = some limit → side.Admits limit x

/-- The limits that a refinement of sign or size sets. -/
def Check.limits (check : Check) : Limits
  | .greater => if check.name = "positive" then some (.int 0) else none
  | .atLeast =>
    if check.name = "nonnegative" then some (.int 0)
    else if check.name = "min" ∨ check.name = "length" then check.args.head?
    else none
  | .less => if check.name = "negative" then some (.int 0) else none
  | .atMost =>
    if check.name = "nonpositive" then some (.int 0)
    else if check.name = "max" ∨ check.name = "length" then check.args.head?
    else none

/-- The limits of bounds on a number. -/
def NumberBounds.limits (bounds : NumberBounds) : Limits
  | .greater => bounds.greater
  | .atLeast => bounds.atLeast
  | .less => bounds.less
  | .atMost => bounds.atMost

/-- The limits of bounds on a length. -/
def LengthBounds.limits (bounds : LengthBounds) : Limits
  | .atLeast => bounds.min
  | .atMost => bounds.max
  | _ => none

/-- What the bounds of a schema are about. -/
inductive Measure where
  /-- The value itself, which is any number. -/
  | amount
  /-- The length of the value. -/
  | length

namespace Measure

/-- The limits that a refinement comes to. Of lengths only those of size do. -/
def limits (measure : Measure) (check : Check) : Limits :=
  match measure with
  | .amount => check.limits
  | .length => if check.name ∈ Expression.sizeChecks then check.limits else fun _ => none

/-- Whether a number is one that is measured. -/
def Measures (measure : Measure) (x : ℚ) : Prop :=
  match measure with
  | .amount => True
  | .length => ∃ n : ℕ, x = n

/-- The last of the limits that refinements come to on each side. -/
def lastLimits (measure : Measure) (checks : List Check) : Limits := fun side =>
  checks.reverse.findSome? fun check => measure.limits check side

end Measure

/-! ### Refinements -/

/-- The argument of a refinement is the first one. -/
theorem Check.head?_of_argument {check : Check} {value : Value}
    (found : check.argument = .ok value) : check.args.head? = some value := by
  obtain ⟨name, args⟩ := check
  cases args with
  | nil => cases found
  | cons first args => cases found; rfl

/-- A refinement of a number replaces the limits that it sets, and leaves the others. -/
theorem NumberBounds.limits_refine {bounds next : NumberBounds} {check : Check}
    (refined : bounds.refine check = .ok next) (side : Side) :
    next.limits side = (Measure.amount.limits check side).or (bounds.limits side) := by
  unfold refine at refined
  -- Five refinements have a limit of their own or none, two have their argument for a limit.
  iterate 5
    split at refined
    · next named => cases refined; cases side <;> simp [limits, Measure.limits, Check.limits, named]
  iterate 2
    split at refined
    · next named =>
      obtain ⟨value, found, same⟩ := bind_eq_ok.mp refined
      cases same
      cases side <;>
        simp [limits, Measure.limits, Check.limits, named, Check.head?_of_argument found]
  cases refined

/-- A refinement of a length replaces the limits that it sets, and leaves the others. -/
theorem LengthBounds.limits_refine {bounds next : LengthBounds} {check : Check}
    (refined : bounds.refine check = .ok next) (side : Side) :
    next.limits side = (Measure.length.limits check side).or (bounds.limits side) := by
  unfold refine at refined
  iterate 3
    split at refined
    · next named =>
      obtain ⟨value, found, same⟩ := bind_eq_ok.mp refined
      cases same
      cases side <;> simp [limits, Measure.limits, Check.limits, Expression.sizeChecks, named,
        Check.head?_of_argument found]
  · cases refined
    simp [Measure.limits, Expression.sizeChecks, *]

/-- Where each step replaces the limits that it sets, the last limits count. -/
theorem limits_of_foldlM {β : Type} (step : β → Check → Except BuildError β) {held : β → Limits}
    {sets : Check → Limits}
    (each : ∀ bounds check next, step bounds check = .ok next →
      ∀ side, held next side = (sets check side).or (held bounds side))
    {checks : List Check} {bounds result : β} (folded : checks.foldlM step bounds = .ok result)
    (side : Side) : held result side =
      (checks.reverse.findSome? fun check => sets check side).or (held bounds side) := by
  induction checks generalizing bounds with
  | nil =>
    cases folded
    rfl
  | cons check checks hypothesis =>
    rw [List.foldlM_cons] at folded
    obtain ⟨next, first, others⟩ := bind_eq_ok.mp folded
    have last : (check :: checks).reverse.findSome? (fun check => sets check side) =
        (checks.reverse.findSome? fun check => sets check side).or (sets check side) := by
      rw [List.reverse_cons, List.findSome?_append, List.findSome?_singleton]
    rw [hypothesis others, each _ _ _ first, last, Option.or_assoc]

/-- Bounds on a number are the last limits. -/
theorem NumberBounds.limits_ofChecks {checks : List Check} {bounds : NumberBounds}
    (found : ofChecks checks = .ok bounds) : bounds.limits = Measure.amount.lastLimits checks := by
  funext side
  rw [limits_of_foldlM refine (fun _ _ _ => limits_refine) found, Measure.lastLimits]
  cases side <;> exact Option.or_none

/-- Bounds on a length are the last limits of size. -/
theorem LengthBounds.limits_ofChecks {checks : List Check} {bounds : LengthBounds}
    (found : ofChecks checks = .ok bounds) : bounds.limits = Measure.length.lastLimits checks := by
  funext side
  rw [limits_of_foldlM refine (fun _ _ _ => limits_refine) found, Measure.lastLimits]
  cases side <;> exact Option.or_none

/-! ### Constructors -/

/-- What the bounds of a shape are about, if it has bounds. -/
def Schema.measure? : Shape Schema → Option Measure
  | .number => some .amount
  | .string => some .length
  | .array _ => some .length
  | _ => none

variable {σ : Type} {backend : Backend σ} {text : TextBuilder σ} {model : String}
  {shape : Shape Schema} {marks marks' : Decorations} {live : σ}

/-- Whether the constructor of a shape makes a live value with bounds that have the given limits. -/
inductive Schema.MakesWithin (backend : Backend σ) (live : σ) : Shape Schema → Limits → Prop
  | number {bounds : NumberBounds} (made : backend.number bounds = .ok live) :
    MakesWithin backend live .number bounds.limits
  | string {format : Option StringFormat} {bounds : LengthBounds}
      (made : backend.string format bounds = .ok live) :
    MakesWithin backend live .string bounds.limits
  | array {item : Schema} {element : σ} {bounds : LengthBounds}
      (made : backend.array element bounds = .ok live) :
    MakesWithin backend live (.array item) bounds.limits

/-- A number, a text or a list is made with the last limits. -/
theorem Schema.makesWithin_of_buildShape {measure : Measure}
    (measured : measure? shape = some measure)
    (built : buildShape backend text model marks shape = .ok live) :
    MakesWithin backend live shape (measure.lastLimits marks.checks) := by
  cases shape with
  | number =>
    cases measured
    obtain ⟨bounds, found, called⟩ := bind_eq_ok.mp built
    rw [← NumberBounds.limits_ofChecks found]
    exact .number (mapError_eq_ok called)
  | string =>
    cases measured
    obtain ⟨bounds, found, called⟩ := bind_eq_ok.mp built
    rw [← LengthBounds.limits_ofChecks found]
    exact .string (mapError_eq_ok called)
  | array item =>
    cases measured
    obtain ⟨element, -, tail⟩ := bind_eq_ok.mp built
    obtain ⟨bounds, found, called⟩ := bind_eq_ok.mp tail
    rw [← LengthBounds.limits_ofChecks found]
    exact .array (mapError_eq_ok called)
  | _ => cases measured

/-! ### Conjunctions -/

namespace Measure

variable {measure : Measure} {checks : List Check} {x : ℚ}

/-- What sets a limit for a measure sets it at all. -/
theorem limits_le {check : Check} {side : Side} {limit : Value}
    (sets : measure.limits check side = some limit) : check.limits side = some limit := by
  cases measure with
  | amount => exact sets
  | length =>
    simp only [limits] at sets
    split at sets
    · exact sets
    · cases sets

/-- What satisfies all refinements is within the last limits. -/
theorem admit_lastLimits (all : ∀ check ∈ checks, check.limits.Admit x) :
    (measure.lastLimits checks).Admit x := by
  intro side limit last
  -- The last limit on a side is the limit of one of the refinements.
  obtain ⟨check, member, sets⟩ := List.exists_of_findSome?_eq_some last
  exact all check (List.mem_reverse.mp member) side limit (limits_le sets)

/-- The last limits come to all refinements exactly if they are enough for the limits that are not
among them. -/
theorem admit_lastLimits_iff {measures : ℚ → Prop} :
    (∀ x, measures x →
      ((measure.lastLimits checks).Admit x ↔ ∀ check ∈ checks, check.limits.Admit x)) ↔
    ∀ check ∈ checks, ∀ side limit, check.limits side = some limit →
      measure.lastLimits checks side ≠ some limit →
      ∀ x, measures x → (measure.lastLimits checks).Admit x → side.Admits limit x := by
  constructor
  · rintro same check member side limit sets - x measured within
    exact (same x measured).mp within check member side limit sets
  · intro enough x measured
    refine ⟨fun within check member side limit sets => ?_, admit_lastLimits⟩
    by_cases last : measure.lastLimits checks side = some limit
    · exact within side limit last
    · exact enough check member side limit sets last x measured within

/-- Where the last limit on each side is the strictest one, the last limits come to all refinements.
-/
theorem admit_lastLimits_of_strictest (strictest : ∀ check ∈ checks, ∀ side limit,
      check.limits side = some limit →
      ∃ last, measure.lastLimits checks side = some last ∧ side.IsAsStrict last limit) :
    (measure.lastLimits checks).Admit x ↔ ∀ check ∈ checks, check.limits.Admit x := by
  refine ⟨fun within check member side limit sets => ?_, admit_lastLimits⟩
  obtain ⟨last, isLast, asStrict⟩ := strictest check member side limit sets
  exact Side.admits_of_isAsStrict asStrict (within side last isLast)

end Measure

/-- A number, a text or a list that can be built is made with the last limit on each side, which
what satisfies all refinements is within. The converse holds exactly if these limits are enough for
the limits that were replaced or not heeded, and so wherever the last limit on each side is the
strictest one. -/
theorem handed_limits {measure : Measure} (measured : measure? shape = some measure)
    (built : buildWith backend text model ⟨shape, marks⟩ = .ok (live, marks')) :
    ∃ inner limits, MakesWithin backend inner shape limits ∧
      (live = inner ∨ backend.nullable inner = .ok live) ∧
      limits = measure.lastLimits marks.checks ∧
      (∀ x, (∀ check ∈ marks.checks, check.limits.Admit x) → limits.Admit x) ∧
      ((∀ x, measure.Measures x →
          (limits.Admit x ↔ ∀ check ∈ marks.checks, check.limits.Admit x)) ↔
        ∀ check ∈ marks.checks, ∀ side limit, check.limits side = some limit →
          limits side ≠ some limit →
          ∀ x, measure.Measures x → limits.Admit x → side.Admits limit x) ∧
      ((∀ check ∈ marks.checks, ∀ side limit, check.limits side = some limit →
          ∃ last, limits side = some last ∧ side.IsAsStrict last limit) →
        ∀ x, limits.Admit x ↔ ∀ check ∈ marks.checks, check.limits.Admit x) := by
  have constructed (text : Option String) : shape ≠ .raw text := by
    rintro rfl
    cases measured
  obtain ⟨-, inner, builtShape, made⟩ := exists_of_buildWith constructed built
  exact ⟨inner, _, makesWithin_of_buildShape measured builtShape, made, rfl,
    fun x => Measure.admit_lastLimits, Measure.admit_lastLimits_iff,
    fun strictest x => Measure.admit_lastLimits_of_strictest strictest⟩

/-- Where the limits on each side become stricter, the constructor is handed all of them. -/
theorem handed_limits_stricter :
    let checks : List Check := [⟨"min", [.int 3]⟩, ⟨"max", [.int 9]⟩, ⟨"min", [.int 5]⟩]
    ∃ inner limits, MakesWithin Description.backend inner .number limits ∧
      ∀ x, limits.Admit x ↔ ∀ check ∈ checks, check.limits.Admit x := by
  intro checks
  have built : buildWith Description.backend (buildText Description.backend) "Level"
      ⟨.number, { checks }⟩ =
        .ok (.number { atLeast := some (.int 5), atMost := some (.int 9) }, { checks }) := rfl
  obtain ⟨inner, limits, made, -, rfl, -, -, strictest⟩ := handed_limits rfl built
  refine ⟨inner, _, made, strictest ?_⟩
  have three : Side.IsAsStrict .atLeast (.int 5) (.int 3) := by
    refine .inr ⟨_, _, rfl, rfl, ?_⟩
    show (((3 : ℤ) : ℚ) : WithTop ℚ) ≤ ((((5 : ℤ) : ℚ) : WithTop ℚ) : Bound)
    norm_cast
  simp only [checks, List.forall_mem_cons]
  refine ⟨?_, ?_, ?_, List.forall_mem_nil _⟩
  · intro side limit sets
    cases side <;> cases sets
    exact ⟨_, rfl, three⟩
  · intro side limit sets
    cases side <;> cases sets
    exact ⟨_, rfl, .inl rfl⟩
  · intro side limit sets
    cases side <;> cases sets
    exact ⟨_, rfl, .inl rfl⟩

/-- A later limit that is less strict replaces an earlier one: four is within the limits that are
handed over, and is not at least five. -/
theorem handed_limits_looser :
    let schema := (Schema.number.check "min" [.int 5]).check "min" [.int 3]
    ∃ bounds, schema.build Description.backend "Level" = .ok (.number bounds) ∧
      bounds.limits.Admit 4 ∧
      ¬∀ check ∈ schema.decorations.checks, check.limits.Admit 4 := by
  refine ⟨{ atLeast := some (.int 3) }, rfl, ?_, fun all => ?_⟩
  · intro side limit last
    cases side <;> cases last
    refine .inr ⟨_, rfl, ?_⟩
    show (((3 : ℤ) : ℚ) : WithTop ℚ) ≤ (((4 : ℚ) : WithTop ℚ) : Bound)
    norm_cast
  · obtain ⟨bound, known, holds⟩ :=
      (all ⟨"min", [.int 5]⟩ (by simp [Schema.check, number]) .atLeast (.int 5) rfl).resolve_left
        nofun
    cases known
    change (((5 : ℤ) : ℚ) : WithTop ℚ) ≤ (((4 : ℚ) : WithTop ℚ) : Bound) at holds
    norm_cast at holds

end TableSchema
