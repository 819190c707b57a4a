import Mathlib.Data.List.Forall2
import Mathlib.Data.List.Nodup
import Mathlib.Data.List.Perm.Subperm
import TableSchema.Proofs.Entries
import TableSchema.Proofs.Pointwise
import TableSchema.Row.Attribute

/-! # Attributes of fields

The attribute of an aliased field is searched for among longer and longer names, and the search ends
at one that is not taken (`Row.findsFree_attributeAt`). So the names of members are given attributes
one after the other (`Row.exists_named`), and distinct names are given distinct ones
(`Row.Named.nodup`). A model whose members have distinct names has one field for each member, in
order (`Row.define_of_named`).
-/

namespace TableSchema.Row

variable {taken names attrs : List String} {name found : String} {place : Nat}

/-! ### Free names -/

/-- A name lengthened a number of times. -/
def lengthened (name : String) : Nat → String
  | 0 => name
  | steps + 1 => lengthened (name ++ "_") steps

/-- Each step of the search adds a character. -/
theorem length_lengthened (name : String) (steps : Nat) :
    (lengthened name steps).length = name.length + steps := by
  induction steps generalizing name with
  | zero => rfl
  | succ steps hypothesis =>
    rw [lengthened, hypothesis, String.length_append]
    have : "_".length = 1 := by decide
    omega

/-- All names that were tried are taken if the last one is. -/
theorem lengthened_mem_of_freeName_mem {taken : List String} {steps : Nat} {name : String}
    (last : freeName taken steps name ∈ taken) : ∀ i ≤ steps, lengthened name i ∈ taken := by
  induction steps generalizing name with
  | zero =>
    intro i bound
    obtain rfl := Nat.le_zero.mp bound
    exact last
  | succ steps hypothesis =>
    rw [freeName] at last
    split at last
    · next occupied =>
      intro i bound
      cases i with
      | zero => exact List.contains_iff_mem.mp occupied
      | succ i => exact hypothesis last i (Nat.le_of_succ_le_succ bound)
    · next free => exact absurd (List.contains_iff_mem.mpr last) free

/-- As many steps as there are taken names find a free one: the names that are tried differ. -/
theorem freeName_not_mem (taken : List String) (name : String) :
    freeName taken taken.length name ∉ taken := by
  intro last
  have tried := lengthened_mem_of_freeName_mem last
  have distinct : ((List.range (taken.length + 1)).map (lengthened name)).Nodup := by
    refine List.Nodup.map (fun i j same => ?_) List.nodup_range
    have lengths := congrArg String.length same
    rw [length_lengthened, length_lengthened] at lengths
    exact Nat.add_left_cancel lengths
  have within : (List.range (taken.length + 1)).map (lengthened name) ⊆ taken := by
    intro other member
    obtain ⟨i, bound, rfl⟩ := List.mem_map.mp member
    exact tried i (Nat.le_of_lt_succ (List.mem_range.mp bound))
  have fits := (List.subperm_of_subset distinct within).length_le
  rw [List.length_map, List.length_range] at fits
  omega

theorem attributeAt_not_mem (place : Nat) (taken : List String) :
    attributeAt place taken ∉ taken :=
  freeName_not_mem taken _

/-- The search for a free name: a name that is taken is lengthened and tried again. -/
inductive FindsFree (taken : List String) : String → String → Prop
  | free {name : String} (isFree : name ∉ taken) : FindsFree taken name name
  | lengthen {name found : String} (isTaken : name ∈ taken)
      (further : FindsFree taken (name ++ "_") found) : FindsFree taken name found

/-- What the search finds is not taken. -/
theorem FindsFree.not_mem (search : FindsFree taken name found) : found ∉ taken := by
  induction search with
  | free isFree => exact isFree
  | lengthen _ _ hypothesis => exact hypothesis

/-- The search finds one name. -/
theorem FindsFree.unique (search : FindsFree taken name found) {other : String}
    (search' : FindsFree taken name other) : other = found := by
  induction search with
  | free isFree =>
    cases search' with
    | free => rfl
    | lengthen isTaken => exact absurd isTaken isFree
  | lengthen isTaken _ hypothesis =>
    cases search' with
    | free isFree => exact absurd isTaken isFree
    | lengthen _ further => exact hypothesis further

/-- A free name at the end of the search is what it finds. -/
theorem findsFree_of_not_mem {steps : Nat} (isFree : freeName taken steps name ∉ taken) :
    FindsFree taken name (freeName taken steps name) := by
  induction steps generalizing name with
  | zero => exact .free isFree
  | succ steps hypothesis =>
    rw [freeName] at isFree ⊢
    split
    · next occupied =>
      rw [if_pos occupied] at isFree
      exact .lengthen (List.contains_iff_mem.mp occupied) (hypothesis isFree)
    · next free => exact .free (mt List.contains_iff_mem.mpr free)

/-- The search for the attribute of an aliased field ends. -/
theorem findsFree_attributeAt (place : Nat) (taken : List String) :
    FindsFree taken ("field_" ++ toString place) (attributeAt place taken) :=
  findsFree_of_not_mem (attributeAt_not_mem place taken)

/-! ### Attributes of names -/

/-- The attributes that names are given from a place on: a name that may name an attribute is its
own, and any other gets a free one, which is taken from then on. -/
inductive Named : Nat → List String → List String → List String → Prop
  | nil {place : Nat} {taken : List String} : Named place taken [] []
  | plain {place : Nat} {taken names attrs : List String} {name : String}
      (own : needsAlias name = false) (others : Named (place + 1) taken names attrs) :
      Named place taken (name :: names) (name :: attrs)
  | aliased {place : Nat} {taken names attrs : List String} {name attr : String}
      (foreign : needsAlias name = true)
      (search : FindsFree taken ("field_" ++ toString place) attr)
      (others : Named (place + 1) (attr :: taken) names attrs) :
      Named place taken (name :: names) (attr :: attrs)

/-- Any names are given attributes. -/
theorem exists_named (place : Nat) (taken names : List String) :
    ∃ attrs, Named place taken names attrs := by
  induction names generalizing place taken with
  | nil => exact ⟨[], .nil⟩
  | cons name names hypothesis =>
    cases aliased : needsAlias name with
    | false =>
      obtain ⟨attrs, others⟩ := hypothesis (place + 1) taken
      exact ⟨name :: attrs, .plain aliased others⟩
    | true =>
      obtain ⟨attrs, others⟩ := hypothesis (place + 1) (attributeAt place taken :: taken)
      exact ⟨_, .aliased aliased (findsFree_attributeAt place taken) others⟩

/-- An attribute is one of the names, or was not taken. -/
theorem Named.mem_or_not_mem (named : Named place taken names attrs) :
    ∀ attr ∈ attrs, attr ∈ names ∨ attr ∉ taken := by
  induction named with
  | nil => exact List.forall_mem_nil _
  | plain own others hypothesis =>
    refine List.forall_mem_cons.mpr ⟨.inl List.mem_cons_self, fun attr member => ?_⟩
    exact (hypothesis attr member).imp_left (List.mem_cons_of_mem _)
  | aliased foreign search others hypothesis =>
    refine List.forall_mem_cons.mpr ⟨.inr search.not_mem, fun attr member => ?_⟩
    exact (hypothesis attr member).imp (List.mem_cons_of_mem _) (mt (List.mem_cons_of_mem _))

/-- Distinct names that are taken are given distinct attributes. -/
theorem Named.nodup (named : Named place taken names attrs) (distinct : names.Nodup)
    (known : names ⊆ taken) : attrs.Nodup := by
  induction named with
  | nil => exact List.nodup_nil
  | plain own others hypothesis =>
    obtain ⟨apart, distinct⟩ := List.nodup_cons.mp distinct
    obtain ⟨isTaken, known⟩ := List.cons_subset.mp known
    refine List.nodup_cons.mpr ⟨fun again => ?_, hypothesis distinct known⟩
    rcases others.mem_or_not_mem _ again with named | isFree
    · exact apart named
    · exact isFree isTaken
  | aliased foreign search others hypothesis =>
    obtain ⟨-, distinct⟩ := List.nodup_cons.mp distinct
    obtain ⟨-, known⟩ := List.cons_subset.mp known
    refine List.nodup_cons.mpr
      ⟨fun again => ?_, hypothesis distinct (List.subset_cons_of_subset _ known)⟩
    rcases others.mem_or_not_mem _ again with named | isFree
    · exact search.not_mem (known named)
    · exact isFree List.mem_cons_self

/-- A name keeps its own attribute if it may, and otherwise gets one that was free. -/
theorem Named.forall₂ (named : Named place taken names attrs) :
    List.Forall₂ (fun name attr => (needsAlias name = false → attr = name) ∧
      (needsAlias name = true → attr ∉ taken)) names attrs := by
  induction named with
  | nil => exact .nil
  | plain own others hypothesis =>
    exact .cons ⟨fun _ => rfl, fun foreign => absurd (own.symm.trans foreign) nofun⟩ hypothesis
  | aliased foreign search others hypothesis =>
    refine .cons ⟨fun own => absurd (own.symm.trans foreign) nofun, fun _ => search.not_mem⟩ ?_
    exact hypothesis.imp fun _ _ kept =>
      ⟨kept.1, fun aliased => mt (List.mem_cons_of_mem _) (kept.2 aliased)⟩

/-! ### Fields -/

section Fields

variable {τ : Type} {members : List (Member τ)}

/-- The field that a member makes under an attribute. -/
def fieldOf (member : Member τ) (attr : String) : RowField τ where
  attr := attr
  alias? := if needsAlias member.name then some member.name else none
  type := member.schema
  required := member.required
  default := member.default

/-- Members are defined with the attributes of their names, behind the fields that are defined
already. -/
theorem defineFrom_of_named {defined : Entries (RowField τ)}
    (named : Named place taken (members.map (·.name)) attrs) (distinct : attrs.Nodup)
    (fresh : ∀ attr ∈ attrs, attr ∉ defined.names) :
    defineFrom place taken defined members =
      defined ++ List.zipWith (fun member attr => (attr, fieldOf member attr)) members attrs := by
  induction members generalizing place taken attrs defined with
  | nil => rw [defineFrom, List.zipWith_nil_left, List.append_nil]
  | cons member members hypothesis =>
    -- Either way the member defines its field under the next attribute.
    have step {taken' : List String} {attr : String} {attrs : List String}
        (others : Named (place + 1) taken' (members.map (·.name)) attrs)
        (distinct : (attr :: attrs).Nodup)
        (fresh : ∀ other ∈ attr :: attrs, other ∉ defined.names) :
        defineFrom (place + 1) taken' (defined.insert attr (fieldOf member attr)) members =
          defined ++ List.zipWith (fun member attr => (attr, fieldOf member attr))
            (member :: members) (attr :: attrs) := by
      obtain ⟨isNew, fresh⟩ := List.forall_mem_cons.mp fresh
      obtain ⟨apart, distinct⟩ := List.nodup_cons.mp distinct
      rw [Entries.insert_of_fresh isNew, hypothesis others distinct, List.zipWith_cons_cons,
        List.append_assoc, List.singleton_append]
      intro other member
      rw [Entries.names, List.map_append, List.mem_append, List.map_singleton,
        List.mem_singleton, not_or]
      refine ⟨fresh other member, ?_⟩
      rintro rfl
      exact apart member
    rw [List.map_cons] at named
    rw [defineFrom]
    cases named with
    | plain own others =>
      rw [if_neg (by simp [own]), ← step others distinct fresh, fieldOf, own]
      rfl
    | aliased foreign search others =>
      obtain rfl := (findsFree_attributeAt place taken).unique search
      rw [if_pos foreign, ← step others distinct fresh, fieldOf, foreign]
      rfl

/-- Members with distinct names define their fields under the attributes of their names. -/
theorem define_of_named (distinct : (members.map (·.name)).Nodup)
    (named : Named 0 (members.map (·.name)) (members.map (·.name)) attrs) :
    define members = List.zipWith fieldOf members attrs := by
  have fresh : ∀ attr ∈ attrs, attr ∉ Entries.names ([] : Entries (RowField τ)) :=
    fun _ _ => List.not_mem_nil
  rw [define, defineFrom_of_named named (named.nodup distinct (List.Subset.refl _)) fresh,
    List.nil_append, List.map_zipWith]

/-- The fields that are defined have these attributes. -/
theorem map_attr_fieldOf (same : members.length = attrs.length) :
    (List.zipWith fieldOf members attrs).map (·.attr) = attrs := by
  induction members generalizing attrs with
  | nil => exact (List.length_eq_zero_iff.mp same.symm).symm
  | cons member members hypothesis =>
    cases attrs with
    | nil => cases same
    | cons attr attrs =>
      rw [List.zipWith_cons_cons, List.map_cons, hypothesis (Nat.succ.inj same)]
      rfl

/-- The field that a member makes where some names are taken. -/
structure IsFieldOf (taken : List String) (member : Member τ) (field : RowField τ) : Prop where
  name : field.name = member.name
  type : field.type = member.schema
  required : field.required = member.required
  default : field.default = member.default
  plain : needsAlias member.name = false → field.alias? = none ∧ field.attr = member.name
  aliased : needsAlias member.name = true → field.alias? = some member.name ∧ field.attr ∉ taken

/-- The field that is defined for a member belongs to it. -/
theorem isFieldOf_fieldOf {member : Member τ} {attr : String}
    (own : needsAlias member.name = false → attr = member.name)
    (isFree : needsAlias member.name = true → attr ∉ taken) :
    IsFieldOf taken member (fieldOf member attr) where
  name := by
    cases aliased : needsAlias member.name with
    | false => simp [RowField.name, fieldOf, aliased, own aliased]
    | true => simp [RowField.name, fieldOf, aliased]
  type := rfl
  required := rfl
  default := rfl
  plain unaliased := ⟨by simp [fieldOf, unaliased], own unaliased⟩
  aliased aliased := ⟨by simp [fieldOf, aliased], isFree aliased⟩

/-- Members with distinct names define one field each, in order, under the attributes of their
names. -/
theorem forall₂_define (distinct : (members.map (·.name)).Nodup)
    (named : Named 0 (members.map (·.name)) (members.map (·.name)) attrs) :
    List.Forall₂ (IsFieldOf (members.map (·.name))) members (define members) ∧
      (define members).map (·.attr) = attrs := by
  have each := List.forall₂_map_left_iff.mp named.forall₂
  rw [define_of_named distinct named]
  refine ⟨?_, ?_⟩
  · refine (forall₂_zipWith fieldOf each).imp ?_
    rintro member field ⟨attr, ⟨own, isFree⟩, rfl⟩
    exact isFieldOf_fieldOf own isFree
  · exact map_attr_fieldOf each.length_eq

end Fields

end TableSchema.Row
