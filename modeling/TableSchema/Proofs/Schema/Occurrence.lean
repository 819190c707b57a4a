import TableSchema.Proofs.Live.Building
import TableSchema.Proofs.Schema.Keeping

/-! # Where schemas have a property

`Schema.Somewhere` says that a schema or one below it has a property, the opposite of
`Schema.Everywhere` (`Schema.not_everywhere_iff`). A decidable property of single schemas can be
decided everywhere in a schema (`Schema.all_iff`). `Schema.ResolvesTo` looks at the schema in which
the expressions that were given as text are replaced by what they stand for.
-/

namespace TableSchema.Schema

/-- A schema, or one below it, has a property. -/
inductive Somewhere (holds : Schema → Prop) : Schema → Prop
  | here {schema : Schema} (found : holds schema) : Somewhere holds schema
  | inPart {schema part : Schema} (member : part ∈ schema.shape.parts)
      (found : Somewhere holds part) : Somewhere holds schema

variable {holds holds' : Schema → Prop} {schema : Schema}

/-- What occurs may be weakened. -/
theorem Somewhere.mono (somewhere : Somewhere holds schema)
    (weaker : ∀ schema, holds schema → holds' schema) : Somewhere holds' schema := by
  induction somewhere with
  | here found => exact .here (weaker _ found)
  | inPart member _ hypothesis => exact .inPart member hypothesis

/-- What is excluded somewhere does not hold everywhere. -/
theorem not_everywhere_of_somewhere (somewhere : Somewhere holds schema)
    (excluded : ∀ schema, holds schema → ¬holds' schema) : ¬Everywhere holds' schema := by
  intro everywhere
  induction somewhere with
  | here found => exact excluded _ found everywhere.here
  | inPart member _ hypothesis => exact hypothesis (everywhere.ofParts _ member)

/-- A property fails to hold everywhere exactly if it is violated somewhere. -/
theorem not_everywhere_iff :
    ¬Everywhere holds schema ↔ Somewhere (fun schema => ¬holds schema) schema := by
  refine ⟨?_, fun somewhere => not_everywhere_of_somewhere somewhere fun _ fails => fails⟩
  induction schema using Schema.induct with
  | step shape marks hypothesis =>
    intro violated
    by_cases here : holds ⟨shape, marks⟩
    · rw [everywhere_iff, not_and] at violated
      obtain ⟨part, member, below⟩ : ∃ part ∈ shape.parts, ¬Everywhere holds part := by
        simpa using violated here
      exact .inPart member (hypothesis part member below)
    · exact .here here

/-! ### Deciding -/

mutual

/-- Whether a schema and all schemas below it pass a test. -/
def all (test : Schema → Bool) : Schema → Bool
  | ⟨shape, marks⟩ => test ⟨shape, marks⟩ && allParts test shape

/-- Whether all schemas below a shape pass a test. -/
def allParts (test : Schema → Bool) : Shape Schema → Bool
  | .array item => all test item
  | .record value => all test value
  | .object fields => allFields test fields
  | .union variants => allVariants test variants
  | _ => true

/-- Whether all schemas of fields pass a test. -/
def allFields (test : Schema → Bool) : List (String × Schema) → Bool
  | [] => true
  | (_, schema) :: fields => all test schema && allFields test fields

/-- Whether all variants pass a test. -/
def allVariants (test : Schema → Bool) : List Schema → Bool
  | [] => true
  | schema :: variants => all test schema && allVariants test variants

end

/-- A test succeeds for fields exactly if it does for each of their schemas. -/
theorem allFields_iff (test : Schema → Bool) (fields : List (String × Schema)) :
    allFields test fields = true ↔ ∀ part ∈ fields.map Prod.snd, all test part = true := by
  induction fields with
  | nil => simp [allFields]
  | cons field fields hypothesis =>
    rw [allFields, Bool.and_eq_true, hypothesis, List.map_cons, List.forall_mem_cons]

/-- A test succeeds for variants exactly if it does for each of them. -/
theorem allVariants_iff (test : Schema → Bool) (variants : List Schema) :
    allVariants test variants = true ↔ ∀ part ∈ variants, all test part = true := by
  induction variants with
  | nil => simp [allVariants]
  | cons schema variants hypothesis =>
    rw [allVariants, Bool.and_eq_true, hypothesis, List.forall_mem_cons]

/-- A test succeeds for the parts of a shape exactly if it does for each. -/
theorem allParts_iff (test : Schema → Bool) (shape : Shape Schema) :
    allParts test shape = true ↔ ∀ part ∈ shape.parts, all test part = true := by
  cases shape with
  | array item => simp [allParts, Shape.parts]
  | record value => simp [allParts, Shape.parts]
  | object fields => exact allFields_iff test fields
  | union variants => exact allVariants_iff test variants
  | _ => simp [allParts, Shape.parts]

/-- `all` decides whether a test is passed everywhere. -/
theorem all_iff {test : Schema → Bool} :
    all test schema = true ↔ Everywhere (fun schema => test schema = true) schema := by
  induction schema using Schema.induct with
  | step shape marks hypothesis =>
    rw [all, Bool.and_eq_true, allParts_iff, everywhere_iff]
    exact and_congr_right fun _ => forall₂_congr hypothesis

/-! ### Expressions given as text -/

/-- Whether all expressions in a schema that were given as text are understood, and all schemas have
a property that then stand in it. -/
def ResolvesTo (holds : Schema → Prop) (schema : Schema) : Prop :=
  ∃ read, schema.resolved = .ok read ∧ read.Everywhere holds

/-- Fields resolve to schemas with a property exactly if each of them does. -/
theorem exists_resolvedFields_iff {fields : List (String × Schema)} :
    (∃ read, resolvedFields fields = .ok read ∧ ∀ part ∈ read.map Prod.snd, part.Everywhere holds) ↔
      ∀ part ∈ fields.map Prod.snd, part.ResolvesTo holds := by
  induction fields with
  | nil => simp [resolvedFields]
  | cons field fields hypothesis =>
    obtain ⟨name, schema⟩ := field
    rw [List.map_cons, List.forall_mem_cons, ← hypothesis, resolvedFields]
    constructor
    · rintro ⟨read, resolved, each⟩
      obtain ⟨first, resolvedFirst, tail⟩ := bind_eq_ok.mp resolved
      obtain ⟨rest, resolvedRest, same⟩ := bind_eq_ok.mp tail
      cases same
      obtain ⟨here, others⟩ := List.forall_mem_cons.mp each
      exact ⟨⟨first, resolvedFirst, here⟩, rest, resolvedRest, others⟩
    · rintro ⟨⟨first, resolvedFirst, here⟩, rest, resolvedRest, others⟩
      refine ⟨(name, first) :: rest, ?_, List.forall_mem_cons.mpr ⟨here, others⟩⟩
      rw [resolvedFirst, resolvedRest]
      rfl

/-- Variants resolve to schemas with a property exactly if each of them does. -/
theorem exists_resolvedVariants_iff {variants : List Schema} :
    (∃ read, resolvedVariants variants = .ok read ∧ ∀ part ∈ read, part.Everywhere holds) ↔
      ∀ part ∈ variants, part.ResolvesTo holds := by
  induction variants with
  | nil => simp [resolvedVariants]
  | cons schema variants hypothesis =>
    rw [List.forall_mem_cons, ← hypothesis, resolvedVariants]
    constructor
    · rintro ⟨read, resolved, each⟩
      obtain ⟨first, resolvedFirst, tail⟩ := bind_eq_ok.mp resolved
      obtain ⟨rest, resolvedRest, same⟩ := bind_eq_ok.mp tail
      cases same
      obtain ⟨here, others⟩ := List.forall_mem_cons.mp each
      exact ⟨⟨first, resolvedFirst, here⟩, rest, resolvedRest, others⟩
    · rintro ⟨⟨first, resolvedFirst, here⟩, rest, resolvedRest, others⟩
      refine ⟨first :: rest, ?_, List.forall_mem_cons.mpr ⟨here, others⟩⟩
      rw [resolvedFirst, resolvedRest]
      rfl

/-- A changed result exists and is good exactly if a result exists whose change is good. -/
theorem exists_ok_iff {ε α β : Type} {first : Except ε α} {change : α → β} {good : β → Prop} :
    (∃ result, (first >>= fun found => pure (change found)) = .ok result ∧ good result) ↔
      ∃ found, first = .ok found ∧ good (change found) := by
  cases first with
  | error error =>
    apply iff_of_false
    · rintro ⟨_, same, -⟩
      cases same
    · rintro ⟨_, same, -⟩
      cases same
  | ok found =>
    constructor
    · rintro ⟨_, same, holds⟩
      cases same
      exact ⟨found, rfl, holds⟩
    · rintro ⟨_, same, holds⟩
      cases same
      exact ⟨change found, rfl, holds⟩

/-- A shape is resolved exactly if its parts are. -/
theorem exists_resolvedShape_iff {shape : Shape Schema}
    (constructed : ∀ text, shape ≠ .raw text) :
    (∃ read, resolvedShape shape = .ok read ∧ ∀ part ∈ read.parts, part.Everywhere holds) ↔
      ∀ part ∈ shape.parts, part.ResolvesTo holds := by
  cases shape with
  | array item =>
    refine exists_ok_iff.trans ?_
    simp only [Shape.parts, List.forall_mem_singleton]
    exact Iff.rfl
  | record value =>
    refine exists_ok_iff.trans ?_
    simp only [Shape.parts, List.forall_mem_singleton]
    exact Iff.rfl
  | object fields => exact exists_ok_iff.trans exists_resolvedFields_iff
  | union variants => exact exists_ok_iff.trans exists_resolvedVariants_iff
  | raw text => exact absurd rfl (constructed text)
  | _ => simp [Shape.parts, resolvedShape]

/-- Whether a property is kept while the expressions below a schema are resolved. -/
def IsResolvable (holds : Schema → Prop) : Prop :=
  ∀ {shape shape' : Shape Schema} {marks : Decorations}, resolvedShape shape = .ok shape' →
    (holds ⟨shape', marks⟩ ↔ holds ⟨shape, marks⟩)

/-- A schema that is not given as text resolves to what has a property if the schema has it and its
parts resolve to such schemas. -/
theorem resolvesTo_iff {shape : Shape Schema} {marks : Decorations}
    (resolvable : IsResolvable holds) (constructed : ∀ text, shape ≠ .raw text) :
    ResolvesTo holds ⟨shape, marks⟩ ↔
      holds ⟨shape, marks⟩ ∧ ∀ part ∈ shape.parts, part.ResolvesTo holds := by
  rw [← exists_resolvedShape_iff constructed, ResolvesTo, resolved_of_constructed constructed]
  refine exists_ok_iff.trans ?_
  constructor
  · rintro ⟨read, resolved, everywhere⟩
    exact ⟨(resolvable resolved).mp everywhere.here, read, resolved, everywhere.ofParts⟩
  · rintro ⟨here, read, resolved, each⟩
    exact ⟨read, resolved, .intro ((resolvable resolved).mpr here) each⟩

/-- Nothing changes where no expression was given as text. -/
theorem resolvesTo_iff_everywhere (resolvable : IsResolvable holds)
    (constructed : schema.Everywhere IsConstructed) :
    schema.ResolvesTo holds ↔ schema.Everywhere holds := by
  induction schema using Schema.induct with
  | step shape marks hypothesis =>
    rw [resolvesTo_iff resolvable constructed.here, everywhere_iff]
    refine and_congr_right fun _ => forall₂_congr fun part member => ?_
    exact hypothesis part member (constructed.ofParts part member)

end TableSchema.Schema
