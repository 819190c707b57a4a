import TableSchema.Proofs.Entries
import TableSchema.Proofs.Schema.Parts
import TableSchema.Proofs.Schema.Reading

/-! # What the grammar gives

Values that the grammar gives are built from numbers of the text, from words and strings, and from
lists and dictionaries of such values (`Grammar.Literal.everywhere`). Schemas that it gives hold
such values only, know all their refinements, set a mode on objects alone, and hold no expression as
text (`Grammar.Expression.everywhere`).
-/

namespace TableSchema

open Lexeme Grammar

/-- Whether a value, apart from its parts, is one that the grammar gives to no number. -/
def Value.IsGiven : Value → Prop
  | .null => True
  | .bool _ => True
  | .str _ => True
  | .list _ => True
  | .dict entries => (Entries.names entries).Nodup
  | _ => False

namespace Schema

/-- Whether a shape, apart from its parts, is one that the grammar gives. -/
def IsGivenShape (holds : Value → Prop) : Shape Schema → Prop
  | .enum options =>
    options ≠ [] ∧ ∀ option ∈ options, (∃ text, option = .str text) ∧ option.Everywhere holds
  | .literal values => ∃ value, values = [value] ∧ value.Everywhere holds
  | .raw _ => False
  | _ => True

/-- Whether a schema, apart from its parts, is one that the grammar gives, and all its values have a
property. -/
structure IsGiven (holds : Value → Prop) (schema : Schema) : Prop where
  checks : ∀ check ∈ schema.decorations.checks,
    check.IsKnown ∧ ∀ arg ∈ check.args, arg.Everywhere holds
  mode : ∀ mode ∈ schema.decorations.mode, ∃ fields, schema.shape = .object fields
  default : ∀ literal ∈ schema.decorations.default,
    literal.text = none ∧ literal.value.Everywhere holds
  shape : IsGivenShape holds schema.shape

end Schema

namespace Grammar

variable {holds : Value → Prop} {lexemes : List Lexeme}

/-- What holds of each item that some of the lexemes write holds of all items that they write. -/
theorem Separated.forall_mem {α : Type} {Item : List Lexeme → α → Prop} {motive : α → Prop}
    {items : List α} (written : Separated Item lexemes items)
    (each : ∀ inner item, inner <:+: lexemes → Item inner item → motive item) :
    ∀ item ∈ items, motive item := by
  induction written with
  | nil => simp
  | last single => exact List.forall_mem_singleton.mpr (each _ _ (List.infix_refl _) single)
  | @cons lexemes rest item items first others hypothesis =>
    refine List.forall_mem_cons.mpr ⟨each _ _ ⟨[], mark ',' :: rest, rfl⟩ first, ?_⟩
    apply hypothesis
    intro inner item within
    exact each inner item (within.trans ⟨lexemes ++ [mark ','], [], by simp⟩)

theorem infix_enclosed (first last : Lexeme) {inner : List Lexeme} (within : inner <:+: lexemes) :
    inner <:+: first :: (lexemes ++ [last]) :=
  within.trans ⟨[first], [last], rfl⟩

theorem everywhere_numeral {text : String} (number : holds (numeral text)) :
    (numeral text).Everywhere holds := by
  refine .intro number ?_
  unfold numeral
  split <;> simp [Value.parts]

/-- A property of the numbers among lexemes, and of all values that are given without numbers, holds
of all values that the lexemes write. -/
theorem Literal.everywhere {value : Value} (written : Literal lexemes value)
    (given : ∀ value : Value, value.IsGiven → holds value)
    (numbers : ∀ text, ⟨.number, text⟩ ∈ lexemes → holds (numeral text)) :
    value.Everywhere holds := by
  -- The induction is on the number of lexemes: the grammar of lists is not part of that of values.
  induction length : lexemes.length using Nat.strongRecOn generalizing lexemes value with
  | ind count hypothesis =>
    subst length
    have below {first last : Lexeme} {inside part : List Lexeme} {value : Value}
        (enclosed : lexemes = first :: (inside ++ [last])) (within : part <:+: inside)
        (single : Literal part value) : value.Everywhere holds := by
      subst enclosed
      have whole := infix_enclosed first last within
      have shorter : part.length < (first :: (inside ++ [last])).length := by
        have := within.length_le
        simp only [List.length_cons, List.length_append]
        omega
      exact hypothesis part.length shorter single
        (fun text member => numbers text (whole.subset member)) rfl
    cases written with
    | number text => exact everywhere_numeral (numbers text (List.mem_singleton_self _))
    | list inner =>
      refine .intro (given _ trivial) ?_
      exact inner.forall_mem fun part item within single => below rfl within single
    | dict inner =>
      refine .intro (given _ (Entries.ofList_nodup _)) ?_
      intro part member
      obtain ⟨entry, kept, rfl⟩ := List.mem_map.mp member
      refine inner.forall_mem (motive := fun entry => entry.2.Everywhere holds) ?_ entry
        (Entries.mem_of_mem_ofList kept)
      rintro part entry within ⟨named, held⟩
      exact below rfl ((List.infix_cons (List.infix_cons (List.infix_refl _))).trans within) held
    | _ => exact .intro (given _ trivial) (by simp [Value.parts])

/-! ### Schemas -/

theorem Method.shape_eq {first second : Schema} (applied : Method lexemes first second) :
    second.shape = first.shape := by
  cases applied <;> rfl

/-- A method makes a given schema of a given schema. -/
theorem Method.given {first second : Schema} (applied : Method lexemes first second)
    (values : ∀ inner value, inner <:+: lexemes → Literal inner value → value.Everywhere holds)
    (given : first.IsGiven holds) : second.IsGiven holds := by
  have argument (name : String) (inner : List Lexeme) : inner <:+: callWith name inner :=
    ⟨[word name, mark '('], [mark ')'], rfl⟩
  cases applied with
  | flag known =>
    refine ⟨?_, given.mode, given.default, given.shape⟩
    exact List.forall_mem_append.mpr ⟨given.checks, List.forall_mem_singleton.mpr
      ⟨.flag known, by simp⟩⟩
  | size known written number =>
    refine ⟨?_, given.mode, given.default, given.shape⟩
    exact List.forall_mem_append.mpr ⟨given.checks, List.forall_mem_singleton.mpr
      ⟨.size known number, List.forall_mem_singleton.mpr (values _ _ (argument _ _) written)⟩⟩
  | nullable => exact ⟨given.checks, given.mode, given.default, given.shape⟩
  | optional => exact ⟨given.checks, given.mode, given.default, given.shape⟩
  | default written =>
    refine ⟨given.checks, given.mode, ?_, given.shape⟩
    rintro literal ⟨⟩
    exact ⟨rfl, values _ _ (argument _ _) written⟩
  | mode mode object => exact ⟨given.checks, fun _ _ => ⟨_, object⟩, given.default, given.shape⟩

/-- Methods keep a schema given, and its shape as it is. -/
theorem Methods.given {first second : Schema} (applied : Methods lexemes first second)
    (values : ∀ inner value, inner <:+: lexemes → Literal inner value → value.Everywhere holds)
    (given : first.IsGiven holds) : second.IsGiven holds ∧ second.shape = first.shape := by
  induction applied with
  | nil => exact ⟨given, rfl⟩
  | @cons lexemes rest first second last applied others hypothesis =>
    have next : second.IsGiven holds := by
      apply applied.given _ given
      intro inner value within written
      exact values inner value (within.trans ⟨[mark '.'], rest, rfl⟩) written
    obtain ⟨given, same⟩ := hypothesis
      (fun inner value within written =>
        values inner value (within.trans ⟨mark '.' :: lexemes, [], by simp⟩) written) next
    exact ⟨given, same.trans applied.shape_eq⟩

theorem everywhere_asOptional {schema : Schema}
    (given : schema.Everywhere (Schema.IsGiven holds)) :
    schema.asOptional.Everywhere (Schema.IsGiven holds) := by
  have here := given.here
  exact given.decorated ⟨here.checks, here.mode, here.default, here.shape⟩

/-- A constructor gives a given shape over given schemas. -/
theorem Arguments.given {name : String} {shape : Shape Schema}
    (constructed : Arguments Expression name lexemes shape)
    (values : ∀ inner value, inner <:+: lexemes → Literal inner value → value.Everywhere holds)
    (parts : ∀ inner schema, inner <:+: lexemes → Expression inner schema →
      schema.Everywhere (Schema.IsGiven holds)) :
    Schema.IsGivenShape holds shape ∧
      ∀ part ∈ shape.parts, part.Everywhere (Schema.IsGiven holds) := by
  cases constructed with
  | array written =>
    exact ⟨trivial, List.forall_mem_singleton.mpr (parts _ _ (List.infix_refl _) written)⟩
  | record written =>
    exact ⟨trivial, List.forall_mem_singleton.mpr (parts _ _ (List.infix_refl _) written)⟩
  | @keyedRecord keys lexemes key value keyWritten written =>
    exact ⟨trivial, List.forall_mem_singleton.mpr
      (parts _ _ ⟨keys ++ [mark ','], [], by simp⟩ written)⟩
  | object members =>
    refine ⟨trivial, List.forall_mem_map.mpr ?_⟩
    refine members.forall_mem (motive := fun field => field.2.Everywhere (Schema.IsGiven holds)) ?_
    rintro inner field within (⟨named, held⟩ | ⟨named, held⟩)
    · have inside := (List.infix_cons (List.infix_cons (List.infix_refl _))).trans within
      exact parts _ _ (infix_enclosed _ _ inside) held
    · have inside :=
        (List.infix_cons (List.infix_cons (List.infix_cons (List.infix_refl _)))).trans within
      exact everywhere_asOptional (parts _ _ (infix_enclosed _ _ inside) held)
  | @enum lexemes options nonempty written =>
    refine ⟨⟨by simpa using nonempty, fun option member => ⟨?_, ?_⟩⟩, by simp [Shape.parts]⟩
    · obtain ⟨text, -, rfl⟩ := List.mem_map.mp member
      exact ⟨text, rfl⟩
    · exact written.forall_mem (fun inner value within single =>
        values inner value (infix_enclosed _ _ within) single) option member
  | union written =>
    exact ⟨trivial, written.forall_mem fun inner schema within single =>
      parts inner schema (infix_enclosed _ _ within) single⟩
  | literal written =>
    exact ⟨⟨_, rfl, values _ _ (List.infix_refl _) written⟩, by simp [Shape.parts]⟩
  | _ => exact ⟨trivial, by simp [Shape.parts]⟩

/-- If all values that lexemes write have a property, then all schemas below an expression are given
with it. -/
theorem Expression.everywhere {schema : Schema} (written : Expression lexemes schema)
    (values : ∀ inner value, inner <:+: lexemes → Literal inner value → value.Everywhere holds) :
    schema.Everywhere (Schema.IsGiven holds) := by
  induction length : lexemes.length using Nat.strongRecOn generalizing lexemes schema with
  | ind count hypothesis =>
    subst length
    obtain @⟨name, arguments, methods, shape, schema, constructed, decorated⟩ := written
    have inArguments {inner : List Lexeme} (within : inner <:+: arguments) : inner <:+:
        word "z" :: mark '.' :: word name :: mark '(' :: (arguments ++ mark ')' :: methods) :=
      within.trans ⟨[word "z", mark '.', word name, mark '('], mark ')' :: methods, by simp⟩
    have inMethods {inner : List Lexeme} (within : inner <:+: methods) : inner <:+:
        word "z" :: mark '.' :: word name :: mark '(' :: (arguments ++ mark ')' :: methods) :=
      within.trans ⟨word "z" :: mark '.' :: word name :: mark '(' :: (arguments ++ [mark ')']), [],
        by simp⟩
    obtain ⟨shapeGiven, parts⟩ := constructed.given
      (fun inner value within single => values inner value (inArguments within) single)
      (fun inner schema within single => by
        refine hypothesis inner.length ?_ single (fun inner' value within' single' =>
          values inner' value (within'.trans (inArguments within)) single') rfl
        have := within.length_le
        simp only [List.length_cons, List.length_append]
        omega)
    obtain ⟨given, same⟩ := decorated.given
      (fun inner value within single => values inner value (inMethods within) single)
      ⟨by simp, nofun, nofun, shapeGiven⟩
    exact .intro given (by rw [same]; exact parts)

end Grammar

end TableSchema
