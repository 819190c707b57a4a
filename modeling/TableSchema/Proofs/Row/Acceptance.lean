import Mathlib.Data.List.Forall2
import TableSchema.Row.Validation

/-! # What row types accept

`RowType.Accepts` says that a check of a value against a row type succeeds. The lemmas of this
module say when it does, shape by shape: a union accepts what a member accepts
(`RowType.accepts_union`), a literal type what is equal to a literal as data
(`RowType.accepts_literal`), and a model what gives each field a value of its type or may leave it
out (`RowType.accepts_model`).
-/

namespace TableSchema

namespace Checked

variable {α β : Type}

/-- Whether a check has a result. -/
def IsAccepted (check : Checked α) : Prop :=
  ∃ result, check = .accepted result

/-- What is accepted is accepted with its result. -/
theorem isAccepted_accepted (result : α) : (accepted result).IsAccepted :=
  ⟨result, rfl⟩

/-- What is refused is not accepted, whatever the issues. -/
theorem not_isAccepted_refused (issues : List Issue) :
    ¬(refused issues : Checked α).IsAccepted :=
  nofun

/-- A check that refuses with a problem accepts nothing. -/
@[simp] theorem isAccepted_refuse (problem : Problem) :
    (refuse problem : Checked α).IsAccepted ↔ False :=
  iff_false_intro nofun

/-- To change the result changes nothing about acceptance. -/
@[simp] theorem isAccepted_map {check : Checked α} (change : α → β) :
    (change <$> check).IsAccepted ↔ check.IsAccepted := by
  cases check with
  | accepted result => exact iff_of_true ⟨change result, rfl⟩ ⟨result, rfl⟩
  | refused issues => exact iff_of_false nofun nofun

/-- Two checks in a row accept exactly if both do. -/
@[simp] theorem isAccepted_seq {function : Checked (α → β)} {check : Checked α} :
    (function <*> check).IsAccepted ↔ function.IsAccepted ∧ check.IsAccepted := by
  cases function with
  | refused issues =>
    apply iff_of_false
    · cases check <;> exact not_isAccepted_refused _
    · rintro ⟨accepted, -⟩
      exact not_isAccepted_refused _ accepted
  | accepted function =>
    cases check with
    | accepted result =>
      exact iff_of_true (isAccepted_accepted _) ⟨isAccepted_accepted _, isAccepted_accepted _⟩
    | refused issues =>
      apply iff_of_false
      · exact not_isAccepted_refused _
      · rintro ⟨-, accepted⟩
        exact not_isAccepted_refused _ accepted

/-- A changed result comes from a result that was accepted. -/
theorem map_eq_accepted {check : Checked α} {change : α → β} {result : β}
    (accepted : change <$> check = .accepted result) :
    ∃ part, check = .accepted part ∧ change part = result := by
  cases check with
  | accepted part =>
    cases accepted
    exact ⟨part, rfl, rfl⟩
  | refused issues => cases accepted

/-- The result of two checks in a row comes from the results of both. -/
theorem seq_eq_accepted {function : Checked (α → β)} {check : Checked α} {result : β}
    (accepted : function <*> check = .accepted result) : ∃ change part,
      function = .accepted change ∧ check = .accepted part ∧ change part = result := by
  cases function with
  | accepted change =>
    cases check with
    | accepted part =>
      cases accepted
      exact ⟨change, part, rfl, rfl, rfl⟩
    | refused issues => cases accepted
  | refused issues => cases check <;> cases accepted

/-- A check of a part gives the result that it gives by itself. -/
theorem under_eq_accepted {check : Checked α} {part : String} {result : α}
    (accepted : check.under part = .accepted result) : check = .accepted result := by
  cases check with
  | accepted result => exact accepted
  | refused issues => cases accepted

/-- Where a check stands makes no difference to acceptance. -/
@[simp] theorem isAccepted_under {check : Checked α} (part : String) :
    (check.under part).IsAccepted ↔ check.IsAccepted := by
  cases check with
  | accepted result => exact Iff.rfl
  | refused issues => exact iff_of_false nofun nofun

/-- A list of checks accepts exactly if each of them does. -/
theorem isAccepted_all {checks : List (Checked α)} :
    (all checks).IsAccepted ↔ ∀ check ∈ checks, check.IsAccepted := by
  induction checks with
  | nil => exact iff_of_true ⟨[], rfl⟩ nofun
  | cons check checks hypothesis =>
    rw [all, isAccepted_seq, isAccepted_map, hypothesis, List.forall_mem_cons]

/-- Named checks accept exactly if each of them does. -/
theorem isAccepted_entries {checks : List (String × Checked α)} :
    (entries checks).IsAccepted ↔ ∀ check ∈ checks, check.2.IsAccepted := by
  rw [entries, isAccepted_all, List.forall_mem_map]
  simp only [isAccepted_map, isAccepted_under]

/-- Numbered checks accept exactly if each of them does. -/
theorem isAccepted_items {checks : List (Checked α)} :
    (items checks).IsAccepted ↔ ∀ check ∈ checks, check.IsAccepted := by
  rw [items, isAccepted_all, List.forall_mem_map]
  simp only [isAccepted_under]
  constructor
  · intro each check member
    obtain ⟨index, found, rfl⟩ := List.mem_iff_getElem.mp member
    exact each (checks[index], index) (List.mk_mem_zipIdx_iff_getElem?.mpr (by simp [found]))
  · rintro each ⟨check, index⟩ member
    exact each check (List.mem_of_getElem? (List.mk_mem_zipIdx_iff_getElem?.mp member))

end Checked

namespace Row

/-- A union finds a fit if it has one already or a member fits. -/
theorem isAccepted_pick {best : Option Fitted} {issues : List Issue}
    {checks : List (Checked Fitted)} : (pick best issues checks).IsAccepted ↔
      best.isSome = true ∨ ∃ check ∈ checks, check.IsAccepted := by
  induction checks generalizing best issues with
  | nil =>
    cases best with
    | none => exact iff_of_false nofun (by simp)
    | some fitted => exact iff_of_true ⟨fitted, rfl⟩ (.inl rfl)
  | cons check checks hypothesis =>
    cases check with
    | accepted next =>
      refine iff_of_true ?_ (.inr ⟨_, List.mem_cons_self .., next, rfl⟩)
      rw [pick]
      split
      · exact ⟨next, rfl⟩
      · exact hypothesis.mpr (.inl rfl)
    | refused others =>
      rw [pick, hypothesis]
      simp [Checked.not_isAccepted_refused]

/-- A value is fitted to each member by itself. -/
theorem fitMembers_eq_map (members : List RowType) (value : Value) :
    fitMembers members value = members.map fun type => fit type value := by
  induction members with
  | nil => rfl
  | cons type members hypothesis => rw [fitMembers, hypothesis, List.map_cons]

/-- A value is accepted unless there is a problem. -/
theorem isAccepted_acceptUnless {problem : Option Problem} {exactness : Exactness}
    {value : Value} : (acceptUnless problem exactness value).IsAccepted ↔ problem = none := by
  cases problem with
  | none => exact iff_of_true ⟨_, rfl⟩ rfl
  | some problem => exact iff_of_false nofun nofun

/-- A list fits if its length does and its items do, which need no look where anything fits. -/
theorem isAccepted_checkItems {item : Value → Checked Fitted} {anything : Bool}
    {length : LengthRange} {items : List Value} :
    (checkItems item anything length items).IsAccepted ↔
      shortProblem? length items.length = none ∧ longProblem? length items.length = none ∧
        (anything = false → ∀ value ∈ items, (item value).IsAccepted) := by
  unfold checkItems
  split
  · next free => simp [isAccepted_acceptUnless, free]
  · next checked =>
    have checked : anything = false := by simpa using checked
    have each : (∀ check ∈ items.map item, check.IsAccepted) ↔
        ∀ value ∈ items, (item value).IsAccepted := List.forall_mem_map
    cases long : longProblem? length items.length with
    | some problem => simp
    | none =>
      rw [← each, ← Checked.isAccepted_items]
      cases Checked.items (items.map item) with
      | refused issues => simp [Checked.not_isAccepted_refused, checked]
      | accepted found =>
        cases short : shortProblem? length items.length with
        | some problem => simp
        | none => simp [Checked.isAccepted_accepted]

end Row

namespace RowType

/-! ### Acceptance -/

/-- Whether a value passes the check against a type. -/
def Accepts (type : RowType) (value : Value) : Prop :=
  ∃ result, type.check value = .accepted result

/-- A type accepts a value exactly if the value can be fitted to it. -/
theorem accepts_iff_fit {type : RowType} {value : Value} :
    type.Accepts value ↔ (Row.fit type value).IsAccepted :=
  Checked.isAccepted_map _

/-- Whether two types accept the same values. -/
def SameValues (a b : RowType) : Prop :=
  ∀ value, a.Accepts value ↔ b.Accepts value

/-- A type accepts the values that it accepts. -/
theorem SameValues.refl (type : RowType) : SameValues type type :=
  fun _ => Iff.rfl

/-- Types that accept the same values as a third one accept the same values. -/
theorem SameValues.trans {a b c : RowType} (same : SameValues a b) (same' : SameValues b c) :
    SameValues a c := by
  intro value
  rw [same value, same' value]

variable {a b : RowType}

/-- Lists of the same length accept the same values if their items do. -/
theorem sameValues_list (same : SameValues a b) (anything : Row.isAny a = Row.isAny b)
    (length : LengthRange) : SameValues (.list a length) (.list b length) := by
  have items (items : List Value) :
      (Row.checkItems (Row.fit a) (Row.isAny a) length items).IsAccepted ↔
        (Row.checkItems (Row.fit b) (Row.isAny b) length items).IsAccepted := by
    simp only [Row.isAccepted_checkItems, ← accepts_iff_fit, same _, anything]
  intro value
  rw [accepts_iff_fit, accepts_iff_fit, Row.fit, Row.fit]
  cases value with
  | list held => exact items held
  | tuple held => simpa only [Row.checkList, Checked.isAccepted_map] using items held
  | _ => exact Iff.rfl

/-- Dictionaries accept the same values if the types of their values do. -/
theorem sameValues_dict (same : SameValues a b) : SameValues (.dict a) (.dict b) := by
  intro value
  rw [accepts_iff_fit, accepts_iff_fit, Row.fit, Row.fit]
  cases value with
  | dict entries =>
    simp only [Row.checkDict, Checked.isAccepted_map, Checked.isAccepted_entries,
      List.forall_mem_map, ← accepts_iff_fit, same _]
  | _ => exact Iff.rfl

/-- A nullable type accepts null besides what it accepts anyway. -/
theorem accepts_nullable {type : RowType} {value : Value} :
    (nullable type).Accepts value ↔ value = .null ∨ type.Accepts value := by
  rw [accepts_iff_fit, accepts_iff_fit]
  cases value with
  | null => exact iff_of_true ⟨(.null, { exactness := .exact }), by rw [Row.fit]; rfl⟩ (.inl rfl)
  | _ => simp [Row.fit]

/-- The type that lets null through accepts null and what the type accepts. -/
theorem accepts_orNull {type : RowType} {value : Value} :
    type.orNull.Accepts value ↔ value = .null ∨ type.Accepts value := by
  rw [orNull]
  split
  · next isNullable =>
    cases type with
    | nullable type =>
      rw [accepts_nullable]
      exact or_self_left.symm
    | _ => cases isNullable
  · exact accepts_nullable

/-- Nullable types accept the same values if the types within do. -/
theorem sameValues_nullable (same : SameValues a b) : SameValues (.nullable a) (.nullable b) := by
  intro value
  rw [accepts_nullable, accepts_nullable, same value]

/-- A union accepts what one of its members accepts. -/
theorem accepts_union {members : List RowType} {value : Value} :
    (union members).Accepts value ↔ ∃ member ∈ members, member.Accepts value := by
  simp only [accepts_iff_fit, Row.fit, Row.isAccepted_pick, Row.fitMembers_eq_map]
  constructor
  · rintro (none | ⟨check, listed, accepted⟩)
    · cases none
    · obtain ⟨member, found, rfl⟩ := List.mem_map.mp listed
      exact ⟨member, found, accepted⟩
  · rintro ⟨member, listed, accepted⟩
    exact .inr ⟨_, List.mem_map_of_mem listed, accepted⟩

/-- Unions accept the same values if each member of one has its like in the other. -/
theorem sameValues_union {members members' : List RowType}
    (into : ∀ member ∈ members, ∃ member' ∈ members', SameValues member member')
    (onto : ∀ member' ∈ members', ∃ member ∈ members, SameValues member member') :
    SameValues (.union members) (.union members') := by
  intro value
  rw [accepts_union, accepts_union]
  constructor
  · rintro ⟨member, listed, accepts⟩
    obtain ⟨member', found, same⟩ := into member listed
    exact ⟨member', found, (same value).mp accepts⟩
  · rintro ⟨member', listed, accepts⟩
    obtain ⟨member, found, same⟩ := onto member' listed
    exact ⟨member, found, (same value).mpr accepts⟩

end RowType

/-! ### Literals -/

/-- Equal numbers are equal to the same numbers. -/
theorem Binary64.equals_congr {x y : Binary64} (equal : x.equals y = true) (z : Binary64) :
    x.equals z = y.equals z := by
  cases x with
  | finite s m =>
    cases y with
    | finite t n =>
      have units := eq_of_beq equal
      cases z with
      | finite u k => simp only [equals, units]
      | _ => rfl
    | _ => cases equal
  | infinite s =>
    cases y with
    | infinite t => rw [eq_of_beq equal]
    | _ => cases equal
  | nan => cases y <;> cases equal

/-- Equal numbers are equal to the same integers. -/
theorem Binary64.equalsInt_congr {x y : Binary64} (equal : x.equals y = true) (n : Int) :
    x.equalsInt n = y.equalsInt n := by
  cases x with
  | finite s m =>
    cases y with
    | finite t k =>
      have units := eq_of_beq equal
      simp only [equalsInt, units]
    | _ => cases equal
  | infinite s =>
    cases y with
    | infinite t => rfl
    | _ => cases equal
  | nan => cases y <;> cases equal

/-- Whether a literal may stand for another: the same values are equal to both as data, and both or
neither are integers of 64 bits. -/
structure Value.Interchangeable (a b : Value) : Prop where
  alike : ∀ value, a.alike value = b.alike value
  short : Row.isShortInteger a = Row.isShortInteger b

/-- A value may stand for itself. -/
theorem Value.Interchangeable.refl (value : Value) : value.Interchangeable value :=
  ⟨fun _ => rfl, rfl⟩

/-- Of two values that may stand for one another either is as good. -/
theorem Value.Interchangeable.symm {a b : Value} (same : a.Interchangeable b) :
    b.Interchangeable a :=
  ⟨fun value => (same.alike value).symm, same.short.symm⟩

/-- Values that count as the same literal may stand for one another. -/
theorem RowType.interchangeable_of_sameLiteral {a b : Value} (same : sameLiteral a b = true) :
    a.Interchangeable b := by
  unfold sameLiteral at same
  split at same
  · exact .refl _
  · rw [eq_of_beq same]
    exact .refl _
  · rw [eq_of_beq same]
    exact .refl _
  · next x y =>
    refine ⟨fun value => ?_, rfl⟩
    cases value with
    | float z => exact Binary64.equals_congr same z
    | int n => exact Binary64.equalsInt_congr same n
    | bool truth => exact Binary64.equalsInt_congr same _
    | _ => rfl
  · rw [eq_of_beq same]
    exact .refl _
  · cases same

/-- A value of the same kind as a literal, and equal to it, is like it. -/
theorem Row.alike_of_sameKind {value literal : Value} (same : sameKind value literal = true) :
    literal.alike value = true := by
  unfold sameKind at same
  split at same
  · rw [eq_of_beq same]
    simp [Value.alike, Value.atomsAlike, Value.asNumber?, Value.numbersAlike]
  · rw [eq_of_beq same]
    simp [Value.alike, Value.atomsAlike, Value.asNumber?, Value.numbersAlike]
  · rw [eq_of_beq same]
    simp [Value.alike, Value.atomsAlike, Value.asNumber?, Value.same]
  · cases same

namespace RowType

/-- A literal type accepts what is equal to a literal as data, unless it looks integers up and the
value is one that is too long for that. -/
theorem accepts_literal {values : List Value} {value : Value} :
    (literal values).Accepts value ↔
      (∃ literal ∈ values, literal.alike value = true) ∧
        ¬(Row.isLongInteger value = true ∧
          ∃ literal ∈ values, Row.isShortInteger literal = true) := by
  have found : (Row.findLiteral values value).isSome = true ↔
      ∃ literal ∈ values, literal.alike value = true := by
    rw [Row.findLiteral, Option.isSome_or, Bool.or_eq_true, List.find?_isSome, List.find?_isSome]
    -- A literal of the same kind that is equal is alike, so the second search finds it as well.
    refine or_iff_right_of_imp ?_
    rintro ⟨literal, listed, same⟩
    exact ⟨literal, listed, Row.alike_of_sameKind same⟩
  rw [accepts_iff_fit, Row.fit, Row.checkLiteral, ← found, ← List.any_eq_true, ← Bool.and_eq_true]
  by_cases long : (Row.isLongInteger value && values.any Row.isShortInteger) = true
  · rw [if_pos long]
    apply iff_of_false (Checked.not_isAccepted_refused _)
    rintro ⟨-, short⟩
    exact short long
  · rw [if_neg long]
    cases Row.findLiteral values value with
    | none =>
      apply iff_of_false (Checked.not_isAccepted_refused _)
      rintro ⟨some, -⟩
      cases some
    | some literal => exact iff_of_true (Checked.isAccepted_accepted _) ⟨rfl, long⟩

/-- Literal types accept the same values if each literal of one has its like in the other. -/
theorem sameValues_literal {values values' : List Value}
    (into : ∀ value ∈ values, ∃ value' ∈ values', value.Interchangeable value')
    (onto : ∀ value' ∈ values', ∃ value ∈ values, value.Interchangeable value') :
    SameValues (.literal values) (.literal values') := by
  have exists_iff {holds : Value → Prop} (stable : ∀ value value' : Value,
      value.Interchangeable value' → (holds value ↔ holds value')) :
      (∃ value ∈ values, holds value) ↔ ∃ value ∈ values', holds value := by
    constructor
    · rintro ⟨value, listed, here⟩
      obtain ⟨value', found, same⟩ := into value listed
      exact ⟨value', found, (stable _ _ same).mp here⟩
    · rintro ⟨value', listed, here⟩
      obtain ⟨value, found, same⟩ := onto value' listed
      exact ⟨value, found, (stable _ _ same).mpr here⟩
  intro value
  rw [accepts_literal, accepts_literal,
    exists_iff fun _ _ same => by rw [same.alike value],
    exists_iff fun _ _ same => by rw [same.short]]

end RowType

/-! ### Models -/

/-- An object is made a model of its members, all of which have usable types. -/
theorem Row.exists_usable_of_object {name : String} {members : List (Member (Option RowType))}
    {mode : Option ObjectMode} {live : Option RowType}
    (made : backend.object name members mode = .ok live) :
    ∃ usable, usableMembers members = some usable ∧ live = some (modelOf name usable mode) := by
  cases found : usableMembers members with
  | none =>
    simp only [backend, found] at made
    cases made
  | some usable =>
    simp only [backend, found] at made
    cases made
    exact ⟨usable, rfl, rfl⟩

/-- Whether a row gives a field a value of its type, or may leave it out. -/
def RowField.Takes (field : RowField RowType) (row : Entries Value) : Prop :=
  match Row.given? field row with
  | some (_, value) => field.type.Accepts value
  | none => field.required = false

/-- A row fits fields exactly if each field takes it. -/
theorem Row.isAccepted_fitFields {fields : List (RowField RowType)} {row : Entries Value} :
    (fitFields fields row).IsAccepted ↔ ∀ field ∈ fields, field.Takes row := by
  induction fields with
  | nil => exact iff_of_true ⟨[], rfl⟩ nofun
  | cons field fields hypothesis =>
    obtain ⟨attr, alias?, type, required, default⟩ := field
    rw [fitFields, List.forall_mem_cons, Checked.isAccepted_seq, Checked.isAccepted_map,
      Checked.isAccepted_map, hypothesis]
    refine and_congr_left fun _ => ?_
    rw [RowField.Takes]
    cases given? ⟨attr, alias?, type, required, default⟩ row with
    | none => cases required <;> simp [Checked.isAccepted_accepted, Checked.not_isAccepted_refused]
    | some entry => simp [RowType.accepts_iff_fit]

/-- Further keys are accepted unless they are forbidden and there is one. -/
theorem Row.isAccepted_checkExtras {extras : Extras} {entries : Entries Value} :
    (checkExtras extras entries).IsAccepted ↔ (extras = .forbid → entries = []) := by
  cases extras with
  | forbid =>
    rw [checkExtras, Checked.isAccepted_entries, List.forall_mem_map]
    simp [List.eq_nil_iff_forall_not_mem]
  | allow => exact iff_of_true ⟨entries, rfl⟩ nofun
  | ignore => exact iff_of_true ⟨[], rfl⟩ nofun

namespace RowType

/-- A model accepts a dictionary that gives each field a value of its type or may leave it out, and
has no other key where that is forbidden. -/
theorem accepts_model {name : String} {extras : Extras} {fields : List (RowField RowType)}
    {value : Value} : (model name extras fields).Accepts value ↔
      ∃ row, value = .dict row ∧ (∀ field ∈ fields, field.Takes row) ∧
        (extras = .forbid → Row.extraEntries fields row = []) := by
  rw [accepts_iff_fit]
  cases value with
  | dict row =>
    have parts : (Row.fit (model name extras fields) (.dict row)).IsAccepted ↔
        (∀ field ∈ fields, field.Takes row) ∧
          (extras = .forbid → Row.extraEntries fields row = []) := by
      rw [Row.fit, Checked.isAccepted_seq, Checked.isAccepted_seq, Checked.isAccepted_map,
        Row.isAccepted_fitFields, Row.isAccepted_checkExtras]
      exact and_congr_left fun _ => and_iff_left ⟨_, rfl⟩
    rw [parts]
    simp only [Value.dict.injEq, exists_eq_left']
  | _ => simp [Row.fit]

/-- Two fields of one name and attribute, whose types accept the same values. -/
structure SameField (field field' : RowField RowType) : Prop where
  attr : field.attr = field'.attr
  alias? : field.alias? = field'.alias?
  required : field.required = field'.required
  type : SameValues field.type field'.type

/-- Fields that are the same to rows are given the same entry of a row. -/
theorem SameField.given? {field field' : RowField RowType} (same : SameField field field')
    (row : Entries Value) : Row.given? field row = Row.given? field' row := by
  simp only [Row.given?, RowField.name, same.attr, same.alias?]

/-- Fields that are the same to rows take the same rows. -/
theorem SameField.takes {field field' : RowField RowType} (same : SameField field field')
    (row : Entries Value) : field.Takes row ↔ field'.Takes row := by
  rw [RowField.Takes, RowField.Takes, same.given?, same.required]
  cases Row.given? field' row with
  | none => exact Iff.rfl
  | some entry => exact same.type entry.2

/-- Lists of fields that are the same to rows take the same rows. -/
theorem takes_congr {fields fields' : List (RowField RowType)}
    (same : List.Forall₂ SameField fields fields') (row : Entries Value) :
    (∀ field ∈ fields, field.Takes row) ↔ ∀ field ∈ fields', field.Takes row := by
  induction same with
  | nil => exact Iff.rfl
  | cons first others hypothesis =>
    rw [List.forall_mem_cons, List.forall_mem_cons, first.takes, hypothesis]

/-- Lists of fields that are the same to rows take the same keys of a row. -/
theorem takenKeys_congr {fields fields' : List (RowField RowType)}
    (same : List.Forall₂ SameField fields fields') (row : Entries Value) :
    Row.takenKeys fields row = Row.takenKeys fields' row := by
  induction same with
  | nil => rfl
  | cons first others hypothesis =>
    simp only [Row.takenKeys, List.filterMap_cons, first.given?] at hypothesis ⊢
    rw [hypothesis]

/-- Models with fields that are the same to rows accept the same values. -/
theorem sameValues_model {name name' : String} {extras : Extras}
    {fields fields' : List (RowField RowType)} (same : List.Forall₂ SameField fields fields') :
    SameValues (.model name extras fields) (.model name' extras fields') := by
  intro value
  simp only [accepts_model, takes_congr same, Row.extraEntries, takenKeys_congr same]

end RowType

end TableSchema
