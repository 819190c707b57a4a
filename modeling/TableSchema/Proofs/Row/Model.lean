import TableSchema.Proofs.Live.Failure
import TableSchema.Proofs.Pointwise
import TableSchema.Proofs.Row.Attribute
import TableSchema.Proofs.Row.Sharing

/-! # The row model of a table

The row model of a table has one field for each selected column, in order, whose type accepts the
same values as the schema of the column built alone (`rowModel_of_liveSchema`).
-/

namespace TableSchema

open Schema

variable {σ : Type} {backend : Backend σ} {text : TextBuilder σ}

/-- The members of an object are made of its fields, built in models of their own names. -/
theorem Schema.forall₂_buildFields {model : String} {fields : List (String × Schema)}
    {members : List (Member σ)} (built : buildFields backend text model fields = .ok members) :
    List.Forall₂ (fun field member => ∃ live,
      buildWith backend text (modelName [model, field.1]) field.2 = .ok live ∧
        member = memberOf field.1 live) fields members := by
  induction fields generalizing members with
  | nil =>
    cases built
    exact .nil
  | cons field fields hypothesis =>
    obtain ⟨name, schema⟩ := field
    obtain ⟨live, first, tail⟩ := bind_eq_ok.mp built
    obtain ⟨rest, others, same⟩ := bind_eq_ok.mp tail
    cases same
    exact .cons ⟨live, first, rfl⟩ (hypothesis others)

namespace Row

/-- Two members that differ at most in their types, which are related. -/
structure SameMember {τ τ' : Type} (related : τ → τ' → Prop) (member : Member τ)
    (member' : Member τ') : Prop where
  name : member'.name = member.name
  schema : related member.schema member'.schema
  required : member'.required = member.required
  default : member'.default = member.default

theorem forall₂_usableMembers {members : List (Member (Option RowType))}
    {usable : List (Member RowType)} (found : usableMembers members = some usable) :
    List.Forall₂ (SameMember fun type type' => type = some type') members usable := by
  induction members generalizing usable with
  | nil =>
    cases found
    exact .nil
  | cons member members hypothesis =>
    obtain ⟨name, schema, required, default⟩ := member
    obtain ⟨type, rfl, tail⟩ := Option.bind_eq_some_iff.mp found
    obtain ⟨rest, others, same⟩ := Option.bind_eq_some_iff.mp tail
    cases same
    exact .cons ⟨rfl, rfl, rfl, rfl⟩ (hypothesis others)

theorem forall₂_shareMembers (known : List RowType) (members : List (Member RowType)) :
    List.Forall₂ (SameMember RowType.SameValues) members
      (RowType.shareMembers known members) := by
  induction members generalizing known with
  | nil => exact .nil
  | cons member members hypothesis =>
    exact .cons ⟨rfl, RowType.sameValues_share known _, rfl, rfl⟩ (hypothesis _)

end Row

/-- The row field of a named schema, in a model of some names: it accepts what the schema accepts
when it is built alone, and may be left out where the schema says so. -/
structure Row.IsFieldFor (names : List String) (model : String) (entry : String × Schema)
    (field : RowField RowType) : Prop where
  name : field.name = entry.1
  plain : needsAlias entry.1 = false → field.attr = entry.1
  fresh : needsAlias entry.1 = true → field.attr ∉ names
  built : ∃ own marks, buildWith Row.backend (buildText Row.backend) (modelName [model, entry.1])
      entry.2 = .ok (some own, marks) ∧ RowType.SameValues own field.type ∧
    field.required = (memberOf entry.1 (some own, marks)).required ∧
    field.default = (memberOf entry.1 (some own, marks)).default

/-- The members of a model have a field each for the named schemas that they were built of. -/
theorem Row.forall₂_modelFields {model : String} {fields : Entries Schema}
    {members : List (Member (Option RowType))} {usable : List (Member RowType)}
    (distinct : fields.names.Nodup)
    (built : buildFields Row.backend (buildText Row.backend) model fields = .ok members)
    (found : usableMembers members = some usable) :
    List.Forall₂ (IsFieldFor fields.names model) fields
      (define (RowType.shareMembers [] usable)) := by
  have typed : List.Forall₂ (fun field member => ∃ own marks,
      buildWith Row.backend (buildText Row.backend) (modelName [model, field.1]) field.2 =
        .ok (some own, marks) ∧
      SameMember (fun type type' => type = some type') (memberOf field.1 (some own, marks)) member ∧
      RowType.SameValues own member.schema ∧ member.name = field.1) fields usable := by
    refine forall₂_trans ?_ (forall₂_buildFields built) (forall₂_usableMembers found)
    rintro field member usable ⟨⟨live, marks⟩, builtField, rfl⟩ same
    have name (marks : Decorations) : (memberOf field.1 (live, marks)).name = field.1 := by
      unfold memberOf
      split <;> rfl
    have schema : (memberOf field.1 (live, marks)).schema = live := by
      unfold memberOf
      split <;> rfl
    have isUsable : live = some usable.schema := schema.symm.trans same.schema
    subst isUsable
    exact ⟨usable.schema, marks, builtField, same, .refl _, same.name.trans (name marks)⟩
  have shared : List.Forall₂ (fun field member => member.name = field.1 ∧
      ∃ own marks, buildWith Row.backend (buildText Row.backend) (modelName [model, field.1])
        field.2 = .ok (some own, marks) ∧ RowType.SameValues own member.schema ∧
      member.required = (memberOf field.1 (some own, marks)).required ∧
      member.default = (memberOf field.1 (some own, marks)).default) fields
        (RowType.shareMembers [] usable) := by
    refine forall₂_trans ?_ typed (forall₂_shareMembers [] usable)
    rintro field member member' ⟨own, marks, builtField, same, values, name⟩ same'
    exact ⟨same'.name.trans name, own, marks, builtField, values.trans same'.schema,
      same'.required.trans same.required, same'.default.trans same.default⟩
  have names : (RowType.shareMembers [] usable).map (·.name) = fields.names :=
    map_eq_of_forall₂ And.left shared
  obtain ⟨attrs, named⟩ := exists_named 0 fields.names fields.names
  obtain ⟨defined, -⟩ := forall₂_define (names ▸ distinct) (names ▸ named)
  rw [names] at defined
  refine forall₂_trans ?_ shared defined
  rintro field member rowField ⟨named, own, marks, builtField, values, required, default⟩ isField
  exact
    { name := isField.name.trans named
      plain := fun plain => (isField.plain (named ▸ plain)).2.trans named
      fresh := fun aliased => (isField.aliased (named ▸ aliased)).2
      built := ⟨own, marks, builtField, isField.type ▸ values, isField.required.trans required,
        isField.default.trans default⟩ }

/-- The fields of a model; other types have none. -/
def RowType.fields : RowType → List (RowField RowType)
  | .model _ _ fields => fields
  | _ => []

variable {source : ColumnSource} {table : String} {options : TableOptions}
  {columns : Entries Column}

/-- The row model of a table has one field for each selected column, in order. -/
theorem rowModel_of_liveSchema (fetched : source.columns table = .ok columns)
    (dictionary : columns.names.Nodup) {live : Option RowType}
    (built : liveSchema source table (some Row.backend) options = .ok live) :
    ∃ fields rowFields, selectedFields options columns = .ok fields ∧ fields.names.Nodup ∧
      List.Forall₂ (Row.IsFieldFor fields.names (modelName [table])) fields rowFields ∧
      live = some (.model (modelName [table]) (Extras.ofMode (some options.mode)) rowFields) := by
  obtain ⟨schema, assembled, tail⟩ := bind_eq_ok.mp built
  obtain ⟨fields, selected, distinct, rfl⟩ :=
    schema_of_assemble fetched dictionary (mapError_eq_ok assembled)
  obtain ⟨whole, builtWith, same⟩ := bind_eq_ok.mp (mapError_eq_ok tail)
  obtain ⟨shape, builtShape, same'⟩ := bind_eq_ok.mp builtWith
  obtain ⟨members, builtFields, called⟩ := bind_eq_ok.mp builtShape
  cases same'
  cases same
  obtain ⟨usable, found, rfl⟩ := Row.exists_usable_of_object (mapError_eq_ok called)
  exact ⟨fields, _, selected, distinct, Row.forall₂_modelFields distinct builtFields found, rfl⟩

theorem exists_type_of_any {computed : Except LiveError (Option RowType)} {test : RowType → Bool}
    (found : computed.toOption.join.any test = true) :
    ∃ type, computed = .ok (some type) ∧ test type = true := by
  obtain ⟨type, joined, tested⟩ := (Option.any_eq_true _ _).mp found
  exact ⟨type, ok_of_toOption (Option.join_eq_some_iff.mp joined), tested⟩

end TableSchema
