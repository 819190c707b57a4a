import TableSchema.Proofs.Row.Acceptance

/-! # Sharing keeps what types accept

Types that mean the same accept the same values (`RowType.sameValues_of_alike`), and so does a type
that is made like a known one. Therefore a type accepts the same values after its parts have been
shared with known types (`RowType.sameValues_share`), although it may list its members in another
order then.
-/

namespace TableSchema.RowType

variable {a b : RowType}

/-! ### Parts of types -/

/-- The types one level below a type. -/
def parts : RowType → List RowType
  | .list item _ => [item]
  | .dict value => [value]
  | .union members => members
  | .nullable type => [type]
  | .model _ _ fields => fields.map (·.type)
  | _ => []

/-- A part of a type is smaller than the type. -/
theorem sizeOf_lt_of_mem_parts {type part : RowType} (member : part ∈ type.parts) :
    sizeOf part < sizeOf type := by
  cases type with
  | list item length =>
    obtain rfl := List.mem_singleton.mp member
    simp only [list.sizeOf_spec]
    omega
  | dict value =>
    obtain rfl := List.mem_singleton.mp member
    simp only [dict.sizeOf_spec]
    omega
  | union members =>
    have : sizeOf part < sizeOf members := List.sizeOf_lt_of_mem member
    simp only [union.sizeOf_spec]
    omega
  | nullable type =>
    obtain rfl := List.mem_singleton.mp member
    simp only [nullable.sizeOf_spec]
    omega
  | model name extras fields =>
    obtain ⟨field, listed, rfl⟩ := List.mem_map.mp member
    obtain ⟨attr, alias?, type, required, default⟩ := field
    have := List.sizeOf_lt_of_mem listed
    simp only [model.sizeOf_spec, RowField.mk.sizeOf_spec] at this ⊢
    omega
  | _ => cases member

/-- What holds of a type whenever it holds of its parts holds of every type. -/
@[elab_as_elim]
theorem induct {motive : RowType → Prop}
    (step : ∀ type : RowType, (∀ part ∈ type.parts, motive part) → motive type)
    (type : RowType) : motive type :=
  step type fun part _ => induct step part
termination_by sizeOf type
decreasing_by exact sizeOf_lt_of_mem_parts ‹_›

/-! ### Types that mean the same -/

/-- Types are all among others exactly if each has its like there. -/
theorem allIn_iff {types others : List RowType} :
    allIn types others = true ↔ ∀ type ∈ types, ∃ other ∈ others, alike type other = true := by
  induction types with
  | nil => simp [allIn]
  | cons type types hypothesis =>
    rw [allIn, Bool.and_eq_true, hypothesis, List.any_eq_true, List.forall_mem_cons]

/-- A type has its like among others exactly if one of them is alike. -/
theorem hasAlike_iff {types : List RowType} {other : RowType} :
    hasAlike types other = true ↔ ∃ type ∈ types, alike type other = true := by
  induction types with
  | nil => simp [hasAlike]
  | cons type types hypothesis => simp [hasAlike, hypothesis]

/-- Ranges without bounds are equal. -/
theorem eq_of_isFree {ν : Type} {range range' : NumberRange ν}
    (free : range.isFree = true) (free' : range'.isFree = true) : range = range' := by
  obtain ⟨greater, atLeast, less, atMost⟩ := range
  obtain ⟨greater', atLeast', less', atMost'⟩ := range'
  simp only [NumberRange.isFree, Bool.and_eq_true, Option.isNone_iff_eq_none] at free free'
  obtain ⟨⟨⟨rfl, rfl⟩, rfl⟩, rfl⟩ := free
  obtain ⟨⟨⟨rfl, rfl⟩, rfl⟩, rfl⟩ := free'
  rfl

theorem isAny_of_alike (same : alike a b = true) : Row.isAny a = Row.isAny b := by
  unfold alike at same
  split at same <;> first | rfl | cases same

/-- Types that mean the same accept the same values. -/
theorem sameValues_of_alike (same : alike a b = true) : SameValues a b := by
  induction a using RowType.induct generalizing b with
  | step type hypothesis =>
    have anything := isAny_of_alike same
    unfold alike at same
    split at same
    · obtain ⟨email, length⟩ := Bool.and_eq_true_iff.mp same
      rw [eq_of_beq email, eq_of_beq length]
      exact .refl _
    · rw [eq_of_beq same]
      exact .refl _
    · obtain ⟨free, free'⟩ := Bool.and_eq_true_iff.mp same
      rw [eq_of_isFree free free']
      exact .refl _
    · obtain ⟨free, free'⟩ := Bool.and_eq_true_iff.mp same
      rw [eq_of_isFree free free']
      exact .refl _
    · exact .refl _
    · exact .refl _
    · exact .refl _
    · next item length item' length' =>
      obtain ⟨lengths, items⟩ := Bool.and_eq_true_iff.mp same
      obtain ⟨length, length'⟩ := Bool.and_eq_true_iff.mp lengths
      rw [eq_of_beq length, eq_of_beq length']
      exact sameValues_list (hypothesis item (List.mem_singleton_self _) items)
        (isAny_of_alike items) {}
    · next value value' =>
      exact sameValues_dict (hypothesis value (List.mem_singleton_self _) same)
    · next values values' =>
      obtain ⟨into, onto⟩ := Bool.and_eq_true_iff.mp same
      simp only [List.all_eq_true, List.any_eq_true] at into onto
      refine sameValues_literal (fun value listed => ?_) fun value' listed => ?_
      · obtain ⟨value', found, same⟩ := into value listed
        exact ⟨value', found, interchangeable_of_sameLiteral same⟩
      · obtain ⟨value, found, same⟩ := onto value' listed
        exact ⟨value, found, (interchangeable_of_sameLiteral same).symm⟩
    · next members members' =>
      obtain ⟨into, onto⟩ := Bool.and_eq_true_iff.mp same
      rw [List.all_eq_true] at onto
      refine sameValues_union (fun member listed => ?_) fun member' listed => ?_
      · obtain ⟨member', found, same⟩ := allIn_iff.mp into member listed
        exact ⟨member', found, hypothesis member listed same⟩
      · obtain ⟨member, found, same⟩ := hasAlike_iff.mp (onto member' listed)
        exact ⟨member, found, hypothesis member found same⟩
    · next type type' =>
      exact sameValues_nullable (hypothesis type (List.mem_singleton_self _) same)
    · cases same

/-! ### Sharing -/

/-- What is related item by item is related to something on either side. -/
theorem exists_of_forall₂ {α β : Type} {holds : α → β → Prop} {first : List α} {second : List β}
    (related : List.Forall₂ holds first second) :
    (∀ a ∈ first, ∃ b ∈ second, holds a b) ∧ ∀ b ∈ second, ∃ a ∈ first, holds a b := by
  induction related with
  | nil => exact ⟨nofun, nofun⟩
  | cons here others hypothesis =>
    refine ⟨List.forall_mem_cons.mpr ⟨⟨_, List.mem_cons_self .., here⟩, fun a listed => ?_⟩,
      List.forall_mem_cons.mpr ⟨⟨_, List.mem_cons_self .., here⟩, fun b listed => ?_⟩⟩
    · obtain ⟨b, found, held⟩ := hypothesis.1 a listed
      exact ⟨b, List.mem_cons_of_mem _ found, held⟩
    · obtain ⟨a, found, held⟩ := hypothesis.2 b listed
      exact ⟨a, List.mem_cons_of_mem _ found, held⟩

/-- Lists of one length are related item by item if a sound test says so of all pairs. -/
theorem forall₂_of_all_zip {α : Type} {holds : α → α → Prop} {test : α × α → Bool}
    {first second : List α} (length : (first.length == second.length) = true)
    (all : (first.zip second).all test = true)
    (sound : ∀ a b, test (a, b) = true → holds a b) : List.Forall₂ holds first second := by
  refine List.forall₂_iff_zip.mpr ⟨eq_of_beq length, ?_⟩
  intro a b member
  exact sound a b (List.all_eq_true.mp all (a, b) member)

/-- A type accepts the same values as a known one that is made like it. -/
theorem sameValues_of_isMadeLike (same : isMadeLike a b = true) : SameValues a b := by
  unfold isMadeLike at same
  split at same
  · exact sameValues_of_alike same
  · obtain ⟨length, all⟩ := Bool.and_eq_true_iff.mp same
    obtain ⟨into, onto⟩ := exists_of_forall₂
      (forall₂_of_all_zip length all fun _ _ => sameValues_of_alike)
    exact sameValues_union into onto
  · obtain ⟨length, all⟩ := Bool.and_eq_true_iff.mp same
    obtain ⟨into, onto⟩ := exists_of_forall₂
      (forall₂_of_all_zip length all fun _ _ => interchangeable_of_sameLiteral)
    exact sameValues_literal into onto
  · cases same

theorem isAny_of_isMadeLike (same : isMadeLike a b = true) : Row.isAny a = Row.isAny b := by
  unfold isMadeLike at same
  split at same <;> first | rfl | cases same

/-- A type is settled as itself or as a known one that is made like it. -/
theorem settle_cases (known : List RowType) (type : RowType) :
    (settle known type).1 = type ∨ isMadeLike type (settle known type).1 = true := by
  unfold settle
  split
  · next found => exact .inr (List.find?_some found)
  · exact .inl rfl

/-- A settled type accepts the values that it accepted before. -/
theorem sameValues_settle (known : List RowType) (type : RowType) :
    SameValues type (settle known type).1 := by
  rcases settle_cases known type with same | madeLike
  · rw [same]
    exact .refl _
  · exact sameValues_of_isMadeLike madeLike

/-- A settled type takes anything if it did before. -/
theorem isAny_settle (known : List RowType) (type : RowType) :
    Row.isAny (settle known type).1 = Row.isAny type := by
  rcases settle_cases known type with same | madeLike
  · rw [same]
  · exact (isAny_of_isMadeLike madeLike).symm

/-- A shared type takes anything if it did before. -/
theorem isAny_share (known : List RowType) (type : RowType) :
    Row.isAny (share known type).1 = Row.isAny type := by
  cases type with
  | literal values => exact isAny_settle known _
  | union members => exact isAny_settle _ _
  | nullable type => exact isAny_settle _ _
  | _ => rfl

/-- Shared types accept the values that they accepted before, one by one. -/
theorem forall₂_shareList {types : List RowType}
    (parts : ∀ type ∈ types, ∀ known, SameValues type (share known type).1)
    (known : List RowType) : List.Forall₂ SameValues types (shareList known types).1 := by
  induction types generalizing known with
  | nil => exact .nil
  | cons type types hypothesis =>
    obtain ⟨first, others⟩ := List.forall_mem_cons.mp parts
    exact .cons (first known) (hypothesis others _)

/-- Fields with shared types are the same to rows as before. -/
theorem forall₂_shareFields {fields : List (RowField RowType)}
    (parts : ∀ type ∈ fields.map (·.type), ∀ known, SameValues type (share known type).1)
    (known : List RowType) : List.Forall₂ SameField fields (shareFields known fields).1 := by
  induction fields generalizing known with
  | nil => exact .nil
  | cons field fields hypothesis =>
    obtain ⟨first, others⟩ := List.forall_mem_cons.mp parts
    exact .cons ⟨rfl, rfl, rfl, first known⟩ (hypothesis others _)

/-- A type accepts the same values after its parts have been shared. -/
theorem sameValues_share (known : List RowType) (type : RowType) :
    SameValues type (share known type).1 := by
  induction type using RowType.induct generalizing known with
  | step type hypothesis =>
    cases type with
    | list item length =>
      exact sameValues_list (hypothesis item (List.mem_singleton_self _) known)
        (isAny_share known item).symm length
    | dict value => exact sameValues_dict (hypothesis value (List.mem_singleton_self _) known)
    | literal values => exact sameValues_settle known _
    | union members =>
      obtain ⟨into, onto⟩ := exists_of_forall₂ (forall₂_shareList hypothesis known)
      exact (sameValues_union into onto).trans (sameValues_settle _ _)
    | nullable type =>
      exact (sameValues_nullable (hypothesis type (List.mem_singleton_self _) known)).trans
        (sameValues_settle _ _)
    | model name extras fields =>
      exact sameValues_model (forall₂_shareFields hypothesis known)
    | _ => exact .refl _

end TableSchema.RowType
