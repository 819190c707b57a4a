import TableSchema.Proofs.Rearrangement
import TableSchema.Schema.Printer

/-! # Schemas as calls on a shape

A decorated schema is what calls make of its bare shape. Calls of different kinds commute, and so do
calls that only let a value be left out or be null: what a rearrangement of calls makes of a schema
is the same (`Schema.foldl_decorate`). The text of a schema is that of its shape with the texts of
the calls that `Decorations.calls` lists, which are in a fixed order (`Schema.renderChars_calls`).
-/

namespace TableSchema

/-- A call on a schema. -/
inductive Call where
  | check (check : Check)
  | mode (mode : ObjectMode)
  | optional
  | nullable
  | default (literal : DefaultLiteral)

/-- The calls whose order counts among themselves: refinements add up, and of modes and of defaults
the last one counts. -/
inductive Call.Kind where
  | refinement
  | mode
  | default
deriving DecidableEq

namespace Call

/-- The kind of a call, if its order among others counts. -/
def kind? : Call → Option Kind
  | .check _ => some .refinement
  | .mode _ => some .mode
  | .default _ => some .default
  | _ => none

/-- The place of a call in the text of a schema. -/
def place : Call → Nat
  | .check _ => 0
  | .mode _ => 1
  | .optional => 2
  | .nullable => 3
  | .default _ => 4

/-- The text of a call. -/
def text : Call → Except WriteError (List Char)
  | .check refinement => refinement.text
  | .mode treatment => .ok (modeText (some treatment))
  | .optional => .ok ".optional()".toList
  | .nullable => .ok ".nullable()".toList
  | .default literal => defaultText (some literal)

/-- The texts of calls, one after another. -/
def texts : List Call → Except WriteError (List Char)
  | [] => .ok []
  | call :: calls => do
    let text ← call.text
    return text ++ (← texts calls)

end Call

/-- What a call makes of a schema. -/
def Schema.decorate (schema : Schema) : Call → Schema
  | .check check => schema.check check.name check.args
  | .mode mode => schema.withMode mode
  | .optional => schema.asOptional
  | .nullable => schema.asNullable
  | .default literal => schema.withDefault literal

/-- The calls that decorations come from, in a fixed order. -/
def Decorations.calls (marks : Decorations) : List Call :=
  marks.checks.map .check ++ marks.mode.toList.map .mode ++
    (if marks.optional then [.optional] else []) ++ (if marks.nullable then [.nullable] else []) ++
    marks.default.toList.map .default

namespace Schema

/-- Calls that are not of one kind commute. -/
theorem decorate_comm {first second : Call} (apart : Apart Call.kind? first second)
    (schema : Schema) :
    (schema.decorate first).decorate second = (schema.decorate second).decorate first := by
  cases first <;> cases second
  all_goals first
    | rfl
    -- Two calls of one kind do not commute, and are not apart.
    | exact absurd rfl (apart _ rfl)

/-- A rearrangement of calls makes the same of a schema. -/
theorem foldl_decorate {calls calls' : List Call} (rearranged : Rearranged Call.kind? calls calls')
    (schema : Schema) : calls.foldl decorate schema = calls'.foldl decorate schema :=
  rearranged.foldl_eq (fun _ _ => decorate_comm) schema

/-! ### Calls of decorations -/

/-- Calls of refinements add the refinements in order. -/
theorem foldl_decorate_checks (shape : Shape Schema) (marks : Decorations) (checks : List Check) :
    (checks.map Call.check).foldl decorate ⟨shape, marks⟩ =
      ⟨shape, { marks with checks := marks.checks ++ checks }⟩ := by
  induction checks generalizing marks with
  | nil => simp
  | cons check checks hypothesis =>
    rw [List.map_cons, List.foldl_cons]
    exact (hypothesis _).trans (by simp)

/-- A schema is what the calls of its decorations make of its bare shape. -/
theorem foldl_decorate_calls (shape : Shape Schema) (marks : Decorations) :
    marks.calls.foldl decorate { shape } = ⟨shape, marks⟩ := by
  obtain ⟨checks, mode, optional, nullable, default⟩ := marks
  simp only [Decorations.calls, List.foldl_append, foldl_decorate_checks, List.nil_append]
  cases mode <;> cases optional <;> cases nullable <;> cases default <;> rfl

end Schema

/-- The calls of decorations stand in the order of their places. -/
theorem Decorations.calls_sorted (marks : Decorations) :
    marks.calls.Pairwise (·.place ≤ ·.place) := by
  obtain ⟨checks, mode, optional, nullable, default⟩ := marks
  have checksPlaced : (checks.map Call.check).Pairwise (·.place ≤ ·.place) :=
    List.pairwise_map.mpr (List.pairwise_of_forall fun _ _ => Nat.le_refl 0)
  simp only [calls, List.append_assoc]
  refine List.pairwise_append.mpr ⟨checksPlaced, ?_, ?_⟩
  · cases mode <;> cases optional <;> cases nullable <;> cases default <;> simp [Call.place]
  · intro call member other _
    obtain ⟨check, -, rfl⟩ := List.mem_map.mp member
    exact Nat.zero_le _

/-! ### Texts -/

namespace Call

/-- The texts of calls stand one behind the other. -/
theorem texts_append (calls calls' : List Call) : texts (calls ++ calls') = do
    let text ← texts calls
    return text ++ (← texts calls') := by
  induction calls with
  | nil =>
    show texts calls' = ([] ++ ·) <$> texts calls'
    cases texts calls' <;> rfl
  | cons call calls hypothesis =>
    rw [List.cons_append, texts, hypothesis, texts]
    cases call.text with
    | error error => rfl
    | ok text =>
      cases texts calls with
      | error error => rfl
      | ok others =>
        cases texts calls' with
        | error error => rfl
        | ok last => exact congrArg Except.ok (List.append_assoc text others last).symm

/-- The texts of refinements are those of their calls. -/
theorem texts_checks (checks : List Check) : texts (checks.map .check) = checksText checks := by
  induction checks with
  | nil => rfl
  | cons check checks hypothesis => rw [List.map_cons, texts, hypothesis, checksText, text]

/-- The text of a mode is that of its call. -/
theorem texts_mode (mode : Option ObjectMode) :
    texts (mode.toList.map .mode) = .ok (modeText mode) := by
  cases mode with
  | none => rfl
  | some mode => exact congrArg Except.ok (List.append_nil _)

/-- The text of a default is that of its call. -/
theorem texts_default (default : Option DefaultLiteral) :
    texts (default.toList.map .default) = defaultText default := by
  cases default with
  | none => rfl
  | some literal =>
    show (do let text ← defaultText (some literal); return text ++ (← texts [])) = _
    cases defaultText (some literal) with
    | error error => rfl
    | ok text => exact congrArg Except.ok (List.append_nil text)

end Call

/-- The text of decorations is that of their calls. -/
theorem Decorations.text_eq_texts (marks : Decorations) : marks.text = Call.texts marks.calls := by
  have optional : Call.texts (if marks.optional then [.optional] else []) =
      .ok (if marks.optional then ".optional()".toList else []) := by
    cases marks.optional <;> rfl
  have nullable : Call.texts (if marks.nullable then [.nullable] else []) =
      .ok (if marks.nullable then ".nullable()".toList else []) := by
    cases marks.nullable <;> rfl
  simp only [text, calls, Call.texts_append, Call.texts_checks, Call.texts_mode, optional, nullable,
    Call.texts_default]
  cases checksText marks.checks with
  | error error => rfl
  | ok checks => cases defaultText marks.default <;> rfl

/-- The text of a schema is that of its shape and that of the calls of its decorations. -/
theorem Schema.renderChars_calls (shape : Shape Schema) (marks : Decorations) :
    renderChars ⟨shape, marks⟩ = do
      let base ← renderShape shape
      return base ++ (← Call.texts marks.calls) := by
  rw [renderChars, Decorations.text_eq_texts]

end TableSchema
