import TableSchema.Proofs.Live.Failure

/-! # Refinements that count

A number is not built with a refinement that numbers do not have. Every other shape passes over the
refinements that it has no use for: `Schema.heeded` is the schema without them, and it is built to
the same live value on every backend (`Schema.build_heeded`). So a schema that can be built has
only refinements that its shapes honour exactly if nothing is lost on the way to `Schema.heeded`.
-/

namespace TableSchema

namespace Check

/-- Whether a refinement sets a size. -/
def isSize (check : Check) : Bool :=
  Expression.sizeChecks.contains check.name

/-- Whether a refinement asks for a format. -/
def isFormat (check : Check) : Bool :=
  (StringFormat.ofName? check.name).isSome

/-- A refinement of the size sets no format. -/
theorem not_isFormat_of_isSize {check : Check} (size : check.isSize = true) :
    check.isFormat = false := by
  have none : ∀ name ∈ Expression.sizeChecks, StringFormat.ofName? name = none := by decide
  rw [isFormat, none check.name (List.contains_iff_mem.mp size), Option.isSome_none]

end Check

/-- The refinements that a text heeds: those that set a size, and the first that asks for a format.
-/
def heededOnText : List Check → List Check
  | [] => []
  | check :: checks =>
    if check.isSize then check :: heededOnText checks
    else if check.isFormat then check :: checks.filter Check.isSize
    else heededOnText checks

namespace Schema

/-- The refinements that a shape heeds. A number heeds all, or is not built; an expression that is
given as text leaves them to what it is read as. -/
def heededChecks (checks : List Check) : Shape Schema → List Check
  | .string => heededOnText checks
  | .number => checks
  | .array _ => checks.filter Check.isSize
  | .raw _ => checks
  | _ => []

mutual

/-- The schema with the refinements that its shapes heed, at every depth. -/
def heeded : Schema → Schema
  | ⟨shape, marks⟩ => ⟨heededShape shape, { marks with checks := heededChecks marks.checks shape }⟩

/-- The shape whose parts have the refinements that they heed. -/
def heededShape : Shape Schema → Shape Schema
  | .array item => .array (heeded item)
  | .record value => .record (heeded value)
  | .object fields => .object (heededFields fields)
  | .union variants => .union (heededVariants variants)
  | shape => shape

/-- The fields whose schemas have the refinements that they heed. -/
def heededFields : List (String × Schema) → List (String × Schema)
  | [] => []
  | (name, schema) :: fields => (name, heeded schema) :: heededFields fields

/-- The variants with the refinements that they heed. -/
def heededVariants : List Schema → List Schema
  | [] => []
  | schema :: variants => heeded schema :: heededVariants variants

end

/-- Whether a schema, apart from its parts, has only refinements that its kind honours: sizes and
one format on a text, sizes on a list, those of numbers on a number. -/
def IsHonoured (schema : Schema) : Prop :=
  let checks := schema.decorations.checks
  match schema.shape with
  | .string => ∀ check ∈ checks, check.isSize = true ∨ checks.filter Check.isFormat = [check]
  | .array _ => ∀ check ∈ checks, check.isSize = true
  | .number => ∀ check ∈ checks, check.name ∈ numberRefinements
  | _ => checks = []

end Schema

variable {check : Check} {checks : List Check}

/-! ### Bounds and formats -/

/-- A refinement that is none of the size leaves the bounds of a length as they are. -/
theorem LengthBounds.refine_of_not_isSize (other : check.isSize = false) (bounds : LengthBounds) :
    bounds.refine check = .ok bounds := by
  have none : check.name ∉ Expression.sizeChecks := by
    simpa [Check.isSize] using other
  simp only [Expression.sizeChecks, List.mem_cons, List.not_mem_nil, or_false, not_or] at none
  rw [refine, if_neg none.1, if_neg none.2.1, if_neg none.2.2]
  rfl

/-- Bounds of a length come from the refinements of the size alone. -/
theorem LengthBounds.foldlM_filter_isSize (bounds : LengthBounds) :
    (checks.filter Check.isSize).foldlM refine bounds = checks.foldlM refine bounds := by
  induction checks generalizing bounds with
  | nil => rfl
  | cons check checks hypothesis =>
    cases size : check.isSize with
    | false =>
      rw [List.filter_cons_of_neg (by simp [size]), hypothesis, List.foldlM_cons,
        refine_of_not_isSize size]
      rfl
    | true =>
      rw [List.filter_cons_of_pos size, List.foldlM_cons, List.foldlM_cons]
      exact congrArg _ (funext hypothesis)

/-- The bounds on a length depend on the refinements of size only. -/
theorem LengthBounds.ofChecks_filter_isSize :
    ofChecks (checks.filter Check.isSize) = ofChecks checks :=
  foldlM_filter_isSize {}

/-- Of the refinements of a text all those of the size are heeded. -/
theorem filter_isSize_heededOnText :
    (heededOnText checks).filter Check.isSize = checks.filter Check.isSize := by
  induction checks with
  | nil => rfl
  | cons check checks hypothesis =>
    rw [heededOnText]
    split
    · next size => rw [List.filter_cons_of_pos size, List.filter_cons_of_pos size, hypothesis]
    · next other =>
      split
      · rw [List.filter_cons_of_neg other, List.filter_cons_of_neg other, List.filter_filter]
        simp only [Bool.and_self]
      · rw [hypothesis, List.filter_cons_of_neg other]

/-- The heeded refinements of a text give the bounds that all of them give. -/
theorem ofChecks_heededOnText :
    LengthBounds.ofChecks (heededOnText checks) = LengthBounds.ofChecks checks := by
  rw [← LengthBounds.ofChecks_filter_isSize, filter_isSize_heededOnText,
    LengthBounds.ofChecks_filter_isSize]

/-- The first refinement that asks for a format decides about it. -/
theorem formatOfChecks_cons_of_asked {check : Check} {format : StringFormat}
    (asked : StringFormat.ofName? check.name = some format) :
    formatOfChecks (check :: checks) = some format := by
  rw [formatOfChecks, List.findSome?_cons, asked]

/-- A refinement that asks for no format leaves it to the others. -/
theorem formatOfChecks_cons_of_other {check : Check}
    (asked : StringFormat.ofName? check.name = none) :
    formatOfChecks (check :: checks) = formatOfChecks checks := by
  rw [formatOfChecks, List.findSome?_cons, asked]
  rfl

/-- The format that a text is built with is that of the refinements that it heeds. -/
theorem formatOfChecks_heededOnText :
    formatOfChecks (heededOnText checks) = formatOfChecks checks := by
  induction checks with
  | nil => rfl
  | cons check checks hypothesis =>
    rw [heededOnText]
    cases asked : StringFormat.ofName? check.name with
    | some format =>
      have isFormat : check.isFormat = true := by rw [Check.isFormat, asked, Option.isSome_some]
      have noSize : ¬check.isSize = true := by
        intro size
        rw [Check.not_isFormat_of_isSize size] at isFormat
        cases isFormat
      rw [if_neg noSize, if_pos isFormat]
      rw [formatOfChecks_cons_of_asked asked, formatOfChecks_cons_of_asked asked]
    | none =>
      have noFormat : ¬check.isFormat = true := by simp [Check.isFormat, asked]
      rw [formatOfChecks_cons_of_other asked]
      by_cases size : check.isSize = true
      · rw [if_pos size, formatOfChecks_cons_of_other asked, hypothesis]
      · rw [if_neg size, if_neg noFormat, hypothesis]

/-- To heed refinements is to leave some out. -/
theorem length_heededOnText_le : (heededOnText checks).length ≤ checks.length := by
  induction checks with
  | nil => exact Nat.le_refl _
  | cons check checks hypothesis =>
    rw [heededOnText]
    split
    · exact Nat.succ_le_succ hypothesis
    split
    · exact Nat.succ_le_succ (List.length_filter_le _ _)
    · exact Nat.le_succ_of_le hypothesis

/-- A text heeds all of its refinements if each is a size or a format, and there is one format at
most. -/
theorem heededOnText_eq_self_iff : heededOnText checks = checks ↔
    (∀ check ∈ checks, check.isSize = true ∨ check.isFormat = true) ∧
      (checks.filter Check.isFormat).length ≤ 1 := by
  induction checks with
  | nil => simp [heededOnText]
  | cons check checks hypothesis =>
    rw [heededOnText, List.forall_mem_cons]
    by_cases size : check.isSize = true
    · have unlisted : ¬check.isFormat = true := by simp [Check.not_isFormat_of_isSize size]
      rw [if_pos size, List.cons.injEq, hypothesis, List.filter_cons_of_neg unlisted]
      simp [size]
    by_cases format : check.isFormat = true
    · -- Behind a format no other one is heeded, so none may be left.
      have single : (checks.filter Check.isFormat).length + 1 ≤ 1 ↔
          ∀ check ∈ checks, ¬check.isFormat = true := by
        rw [Nat.succ_le_succ_iff, Nat.le_zero, List.length_eq_zero_iff, List.filter_eq_nil_iff]
      rw [if_neg size, if_pos format, List.cons.injEq, List.filter_eq_self,
        List.filter_cons_of_pos format, List.length_cons, single]
      constructor
      · rintro ⟨-, sizes⟩
        refine ⟨⟨.inr format, fun check member => .inl (sizes check member)⟩, ?_⟩
        intro check member
        simp [Check.not_isFormat_of_isSize (sizes check member)]
      · rintro ⟨⟨-, each⟩, none⟩
        refine ⟨rfl, ?_⟩
        intro check member
        exact (each check member).resolve_right (none check member)
    · rw [if_neg size, if_neg format]
      apply iff_of_false
      · intro same
        have shorter := @length_heededOnText_le checks
        rw [same] at shorter
        exact absurd shorter (Nat.not_succ_le_self _)
      · rintro ⟨⟨either, -⟩, -⟩
        exact either.elim size format

/-- Each refinement is a size or the only format exactly if each is a size or a format, and there is
one format at most. -/
theorem onlyFormat_iff :
    (∀ check ∈ checks, check.isSize = true ∨ checks.filter Check.isFormat = [check]) ↔
      (∀ check ∈ checks, check.isSize = true ∨ check.isFormat = true) ∧
        (checks.filter Check.isFormat).length ≤ 1 := by
  constructor
  · intro each
    refine ⟨fun check member => (each check member).imp_right fun only => ?_, ?_⟩
    · have member : check ∈ checks.filter Check.isFormat := by simp [only]
      exact (List.mem_filter.mp member).2
    · cases formats : checks.filter Check.isFormat with
      | nil => exact Nat.zero_le 1
      | cons check others =>
        have member : check ∈ checks.filter Check.isFormat := by simp [formats]
        obtain ⟨listed, isFormat⟩ := List.mem_filter.mp member
        rcases each check listed with size | only
        · rw [Check.not_isFormat_of_isSize size] at isFormat
          cases isFormat
        · rw [← formats, only]
          exact Nat.le_refl 1
  · rintro ⟨each, single⟩ check member
    refine (each check member).imp_right fun isFormat => ?_
    have listed : check ∈ checks.filter Check.isFormat := List.mem_filter.mpr ⟨member, isFormat⟩
    obtain ⟨only, formats⟩ :=
      List.length_eq_one_iff.mp (Nat.le_antisymm single (List.length_pos_of_mem listed))
    rw [formats] at listed ⊢
    rw [List.mem_singleton.mp listed]

/-! ### Building -/

/-- A result that is settled by a condition exists exactly under the condition. -/
theorem Settles.exists_ok_iff {α : Type} {possible : Prop} {result : Except BuildError α}
    (settles : Settles possible result) : (∃ value, result = .ok value) ↔ possible := by
  cases settles with
  | ok value holds => exact iff_of_true ⟨value, rfl⟩ holds
  | error foreseen fails => exact iff_of_false nofun fails

theorem Decorations.empty_over (marks : Decorations) : ({} : Decorations).over marks = marks := by
  simp [Decorations.over]

namespace Schema

variable {σ : Type} {backend : Backend σ} {text : TextBuilder σ} {shape : Shape Schema}
  {marks : Decorations} {model : String} {schema : Schema}

/-- What a schema is built to, but for the refinements that decorated it. -/
def Built.withoutChecks (built : Built σ) : Built σ :=
  (built.1, { built.2 with checks := [] })

/-- Whether two ways of building come to the same, but for the refinements that decorated the
schema. -/
def AgreeButChecks (first second : Except BuildError (Built σ)) : Prop :=
  Built.withoutChecks <$> first = Built.withoutChecks <$> second

/-- What follows and does not look at refinements comes to the same. -/
theorem AgreeButChecks.bind_eq {α : Type} {first second : Except BuildError (Built σ)}
    (agree : AgreeButChecks first second) {following : Built σ → Except BuildError α}
    (blind : ∀ built, following built.withoutChecks = following built) :
    (first >>= following) = (second >>= following) := by
  have looked (result : Except BuildError (Built σ)) :
      (result >>= following) = (Built.withoutChecks <$> result) >>= following := by
    cases result with
    | error error => rfl
    | ok built => exact (blind built).symm
  rw [looked first, agree, ← looked second]

/-- Fields are built alike from heeded schemas if each schema is. -/
theorem buildFields_heeded {fields : List (String × Schema)}
    (parts : ∀ schema ∈ fields.map Prod.snd, ∀ model,
      AgreeButChecks (buildWith backend text model schema.heeded)
        (buildWith backend text model schema)) :
    buildFields backend text model (heededFields fields) =
      buildFields backend text model fields := by
  induction fields with
  | nil => rfl
  | cons field fields hypothesis =>
    obtain ⟨name, schema⟩ := field
    obtain ⟨first, others⟩ := List.forall_mem_cons.mp parts
    rw [heededFields, buildFields, buildFields, hypothesis others]
    exact (first _).bind_eq fun built => rfl

/-- Variants are built alike from heeded schemas if each of them is. -/
theorem buildVariants_heeded {variants : List Schema}
    (parts : ∀ schema ∈ variants, ∀ model,
      AgreeButChecks (buildWith backend text model schema.heeded)
        (buildWith backend text model schema)) :
    buildVariants backend text model (heededVariants variants) =
      buildVariants backend text model variants := by
  induction variants with
  | nil => rfl
  | cons schema variants hypothesis =>
    obtain ⟨first, others⟩ := List.forall_mem_cons.mp parts
    rw [heededVariants, buildVariants, buildVariants, hypothesis others]
    exact (first _).bind_eq fun built => rfl

/-- A shape is built alike from the refinements that it heeds. -/
theorem buildShape_heeded (parts : ∀ part ∈ shape.parts, ∀ model,
      AgreeButChecks (buildWith backend text model part.heeded)
        (buildWith backend text model part)) :
    buildShape backend text model { marks with checks := heededChecks marks.checks shape }
        (heededShape shape) =
      buildShape backend text model marks shape := by
  cases shape with
  | string =>
    simp only [heededShape, heededChecks, buildShape, ofChecks_heededOnText,
      formatOfChecks_heededOnText]
  | array item =>
    simp only [heededShape, heededChecks, buildShape, LengthBounds.ofChecks_filter_isSize]
    exact (parts item (List.mem_singleton_self item) model).bind_eq fun built => rfl
  | record value =>
    exact (parts value (List.mem_singleton_self value) model).bind_eq fun built => rfl
  | object fields => simp only [heededShape, buildShape, buildFields_heeded parts]
  | union variants =>
    simp only [heededShape, buildShape, @buildVariants_heeded _ _ _ _ variants parts]
  | literal values => cases values <;> rfl
  | _ => rfl

/-- A schema is built to the same live value as the schema without the refinements that are passed
over. -/
theorem buildWith_heeded :
    AgreeButChecks (buildWith backend text model schema.heeded)
      (buildWith backend text model schema) := by
  induction schema using Schema.induct generalizing model with
  | step shape marks hypothesis =>
    by_cases raw : ∃ expression, shape = .raw expression
    · obtain ⟨expression, rfl⟩ := raw
      rfl
    · have constructed : ∀ text, shape ≠ .raw text := fun text same => raw ⟨text, same⟩
      have constructed' : ∀ text, heededShape shape ≠ .raw text := by
        intro text same
        cases shape <;> cases same
        exact constructed _ rfl
      rw [heeded, buildWith_of_shape constructed, buildWith_of_shape constructed',
        buildShape_heeded fun part member model => hypothesis part member]
      cases buildShape backend text model marks shape with
      | error error => rfl
      | ok live =>
        show AgreeButChecks (if _ then _ else _) (if _ then _ else _)
        split
        · cases call (backend.nullable live) <;> rfl
        · rfl

/-- The refinements that are passed over make no difference to what is built. -/
theorem build_heeded (schema : Schema) (backend : Backend σ) (model : String) :
    schema.heeded.build backend model = schema.build backend model := by
  have agree := @buildWith_heeded σ backend (buildText backend) model schema
  have live (result : Except BuildError (Built σ)) :
      Prod.fst <$> result = Prod.fst <$> Built.withoutChecks <$> result := by
    cases result <;> rfl
  rw [build, build, live, agree, ← live]

/-! ### Refinements that are honoured -/

/-- To heed the refinements of fields is to heed those of each schema. -/
theorem heededFields_eq_map (fields : List (String × Schema)) :
    heededFields fields = fields.map fun field => (field.1, heeded field.2) := by
  induction fields with
  | nil => rfl
  | cons field fields hypothesis => rw [heededFields, hypothesis, List.map_cons]

/-- To heed the refinements of variants is to heed those of each variant. -/
theorem heededVariants_eq_map (variants : List Schema) :
    heededVariants variants = variants.map heeded := by
  induction variants with
  | nil => rfl
  | cons schema variants hypothesis => rw [heededVariants, hypothesis, List.map_cons]

/-- A shape has only refinements that are heeded exactly if each of its parts has. -/
theorem heededShape_eq_self_iff :
    heededShape shape = shape ↔ ∀ part ∈ shape.parts, part.heeded = part := by
  cases shape with
  | array item => simp [heededShape, Shape.parts]
  | record value => simp [heededShape, Shape.parts]
  | object fields =>
    have each (field : String × Schema) :
        (field.1, field.2.heeded) = field ↔ field.2.heeded = field.2 := by
      constructor
      · intro same
        exact congrArg Prod.snd same
      · intro same
        rw [same]
    rw [heededShape, Shape.object.injEq, heededFields_eq_map, Value.map_eq_self_iff, Shape.parts,
      List.forall_mem_map]
    exact forall₂_congr fun field member => each field
  | union variants =>
    rw [heededShape, Shape.union.injEq, heededVariants_eq_map, Value.map_eq_self_iff, Shape.parts]
  | _ => simp [heededShape, Shape.parts]

/-- Nothing is lost exactly if every shape heeds all refinements that decorate it. -/
theorem heeded_eq_self_iff : schema.heeded = schema ↔ schema.Everywhere fun schema =>
    heededChecks schema.decorations.checks schema.shape = schema.decorations.checks := by
  induction schema using Schema.induct with
  | step shape marks hypothesis =>
    have checks : ({ marks with checks := heededChecks marks.checks shape } : Decorations) = marks ↔
        heededChecks marks.checks shape = marks.checks := by
      constructor
      · intro same
        exact congrArg Decorations.checks same
      · intro same
        rw [same]
    rw [heeded, Schema.mk.injEq, heededShape_eq_self_iff, checks, everywhere_iff, and_comm]
    refine and_congr_right fun _ => ?_
    exact forall₂_congr hypothesis

/-- A schema that is not given as text has only refinements that its kind honours exactly if its
shape heeds all of them, and none of a number is foreign to numbers. -/
theorem isHonoured_iff (constructed : schema.IsConstructed) : schema.IsHonoured ↔
    heededChecks schema.decorations.checks schema.shape = schema.decorations.checks ∧
      schema.IsRefined := by
  obtain ⟨shape, marks⟩ := schema
  cases shape with
  | string => simp [IsHonoured, heededChecks, IsRefined, onlyFormat_iff, heededOnText_eq_self_iff]
  | number => simp [IsHonoured, heededChecks, IsRefined]
  | array item => simp [IsHonoured, heededChecks, IsRefined, List.filter_eq_self]
  | raw text => exact absurd rfl (constructed text)
  | _ => simp [IsHonoured, heededChecks, IsRefined, eq_comm]

/-- All refinements of a schema that can be constructed are honoured exactly if each is heeded and
none is refused. -/
theorem everywhere_isHonoured_iff (constructed : schema.Everywhere IsConstructed) :
    schema.Everywhere IsHonoured ↔ schema.heeded = schema ∧ schema.Everywhere IsRefined := by
  rw [heeded_eq_self_iff]
  constructor
  · intro honoured
    have both := (honoured.and constructed).mono fun _ both => (isHonoured_iff both.2).mp both.1
    exact ⟨both.mono fun _ => And.left, both.mono fun _ => And.right⟩
  · rintro ⟨heeded, refined⟩
    have both := (heeded.and refined).and constructed
    exact both.mono fun _ both => (isHonoured_iff both.2).mpr both.1

/-! ### Numbers -/

/-- Whether a schema is built in some model. -/
def IsBuilt (backend : Backend σ) (text : TextBuilder σ) (schema : Schema) : Prop :=
  ∃ model built, buildWith backend text model schema = .ok built

/-- Where fields are built, the schema of each field is built. -/
theorem built_of_buildFields {fields : List (String × Schema)} {members : List (Member σ)}
    (built : buildFields backend text model fields = .ok members) :
    ∀ part ∈ fields.map Prod.snd, IsBuilt backend text part := by
  induction fields generalizing members with
  | nil => nofun
  | cons field fields hypothesis =>
    obtain ⟨first, builtFirst, tail⟩ := bind_eq_ok.mp built
    obtain ⟨rest, builtRest, -⟩ := bind_eq_ok.mp tail
    exact List.forall_mem_cons.mpr ⟨⟨_, first, builtFirst⟩, hypothesis builtRest⟩

/-- Where variants are built, each of them is built. -/
theorem built_of_buildVariants {variants : List Schema} {lives : List σ}
    (built : buildVariants backend text model variants = .ok lives) :
    ∀ part ∈ variants, IsBuilt backend text part := by
  induction variants generalizing lives with
  | nil => nofun
  | cons schema variants hypothesis =>
    obtain ⟨first, builtFirst, tail⟩ := bind_eq_ok.mp built
    obtain ⟨rest, builtRest, -⟩ := bind_eq_ok.mp tail
    exact List.forall_mem_cons.mpr ⟨⟨_, first, builtFirst⟩, hypothesis builtRest⟩

/-- Where a shape is built, each of its parts is built. -/
theorem built_of_buildShape {live : σ}
    (built : buildShape backend text model marks shape = .ok live) :
    ∀ part ∈ shape.parts, IsBuilt backend text part := by
  cases shape with
  | array item =>
    obtain ⟨inner, builtItem, -⟩ := bind_eq_ok.mp built
    exact List.forall_mem_singleton.mpr ⟨_, inner, builtItem⟩
  | record value =>
    obtain ⟨inner, builtValue, -⟩ := bind_eq_ok.mp built
    exact List.forall_mem_singleton.mpr ⟨_, inner, builtValue⟩
  | object fields =>
    obtain ⟨members, builtFields, -⟩ := bind_eq_ok.mp built
    exact built_of_buildFields builtFields
  | union variants =>
    obtain ⟨lives, builtVariants, -⟩ := bind_eq_ok.mp built
    exact built_of_buildVariants builtVariants
  | _ => nofun

/-- Whatever is built has no number with a refinement that numbers do not have. -/
theorem refined_of_built (constructed : schema.Everywhere IsConstructed)
    (complete : schema.Everywhere IsComplete) (built : IsBuilt backend text schema) :
    schema.Everywhere IsRefined := by
  induction schema using Schema.induct with
  | step shape marks hypothesis =>
    obtain ⟨model, ⟨live, marks'⟩, built⟩ := built
    obtain ⟨rfl, inner, builtShape, -⟩ := exists_of_buildWith constructed.here built
    refine .intro (fun isNumber => ?_) fun part member => hypothesis part member
      (constructed.ofParts part member) (complete.ofParts part member)
      (built_of_buildShape builtShape part member)
    obtain rfl : shape = .number := isNumber
    obtain ⟨bounds, found, -⟩ := bind_eq_ok.mp builtShape
    have settles := NumberBounds.settles_ofChecks complete.here.checks
    rw [found] at settles
    cases settles with
    | ok _ refined => exact refined

/-- On a backend that lacks nothing, a schema is built exactly if no number has a refinement that
numbers do not have. -/
theorem settles_build_refined (total : backend.Lacks [])
    (constructed : schema.Everywhere IsConstructed) (complete : schema.Everywhere IsComplete) :
    Settles (schema.Everywhere IsRefined) (schema.build backend model) := by
  refine (settles_buildWith total (fun shape marks _ => ?_) ?_ complete model).map Prod.fst
  · have refined : IsBuildable [] ⟨shape, marks⟩ ↔ IsRefined ⟨shape, marks⟩ :=
      ⟨IsBuildable.refined, fun refined => ⟨refined, fun _ _ => List.not_mem_nil⟩⟩
    rw [refined]
    exact everywhere_iff
  · exact constructed.mono fun schema constructed expression isRaw =>
      absurd isRaw (constructed expression)

/-- An expression that is given as text is built as what it is read as. -/
theorem build_raw {expression : String} (parsed : parse expression = .ok schema)
    (backend : Backend σ) (model : String) :
    (raw expression).build backend model = schema.build backend model := by
  have resolved : resolve expression {} = .ok schema := by
    rw [resolve, parsed]
    cases schema with
    | mk shape marks => exact congrArg (Except.ok ∘ Schema.mk shape) (Decorations.empty_over marks)
  have constructed := (given_of_parse parsed).mono fun _ => constructed_of_given
  show Prod.fst <$> buildText backend model expression {} = _
  rw [buildText, resolved, build]
  exact congrArg _ (buildWith_of_constructed constructed _ _ model)

/-- The text of an expression is built as what it is read as, without the refinements that are
passed over. If it can be built, the kinds in it honour all refinements exactly if none is passed
over; and on a backend that lacks nothing it can be built exactly if no number has a refinement that
numbers do not have. -/
theorem build_expression {expression : String} (parsed : parse expression = .ok schema)
    (backend : Backend σ) (model : String) :
    (raw expression).build backend model = schema.heeded.build backend model ∧
      (∀ live, (raw expression).build backend model = .ok live →
        schema.Everywhere IsRefined ∧ (schema.Everywhere IsHonoured ↔ schema.heeded = schema)) ∧
      (backend.Lacks [] → ((∃ live, (raw expression).build backend model = .ok live) ↔
        schema.Everywhere IsRefined)) := by
  have constructed := (given_of_parse parsed).mono fun _ => constructed_of_given
  have complete := complete_of_parse parsed
  rw [build_raw parsed, build_heeded]
  refine ⟨rfl, fun live built => ?_, fun total =>
    (settles_build_refined total constructed complete).exists_ok_iff⟩
  obtain ⟨whole, builtWhole, -⟩ := bind_eq_ok.mp built
  have refined := refined_of_built constructed complete ⟨_, _, builtWhole⟩
  exact ⟨refined, (everywhere_isHonoured_iff constructed).trans (and_iff_left refined)⟩

/-- A text with one format in a list with one size is built, and both are honoured. -/
theorem build_expression_list :
    let read := object [("tags", (array (string.check "uuid")).check "max" [.int 9])]
    Schema.parse "z.object({ tags: z.array(z.string().uuid()).max(9) })" = .ok read ∧
      (∃ live, (raw "z.object({ tags: z.array(z.string().uuid()).max(9) })").build
        Description.backend "Item" = .ok live) ∧ read.Everywhere IsHonoured := by
  intro read
  have parsed : Schema.parse "z.object({ tags: z.array(z.string().uuid()).max(9) })" = .ok read :=
    ok_of_toOption (by decide +kernel)
  obtain ⟨same, honoured, -⟩ := build_expression parsed Description.backend "Item"
  exact ⟨parsed, ⟨_, same⟩, (honoured _ same).2.mpr rfl⟩

/-- A boolean is built with a size, which it passes over. -/
theorem build_expression_size :
    let read := boolean.check "min" [.int 3]
    Schema.parse "z.boolean().min(3)" = .ok read ∧
      (raw "z.boolean().min(3)").build Description.backend "Item" = .ok .boolean ∧
      ¬read.Everywhere IsHonoured := by
  intro read
  have parsed : Schema.parse "z.boolean().min(3)" = .ok read := ok_of_toOption (by decide +kernel)
  exact ⟨parsed, build_raw parsed Description.backend "Item", fun all => nomatch all.here⟩

end Schema

end TableSchema
