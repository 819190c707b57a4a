import Mathlib.Algebra.Group.Int.Defs
import TableSchema.Proofs.Schema.Keeping
import TableSchema.Proofs.Schema.Writing

/-! # Expressions given as text

Writing an expression that was given as text out as it stands means the same as reading it and
merging the decorations around it with its own: the text of a faithful schema, on one line or as a
block, is read as the schema with every such expression resolved (`Schema.parse_render_resolved`).
-/

namespace TableSchema

/-- Whether a value, apart from its parts, is read from its literal as it is. -/
def Value.IsFaithful : Value → Prop
  | .int n => n.natAbs < 10 ^ integerDigitLimit
  | .float x => ∃ negative rank, x = .finite negative rank
  | .str text => Text.IsPlain text
  | .dict entries =>
    (Entries.names entries).Nodup ∧ ∀ entry ∈ entries, Text.IsAscii entry.1
  | .tuple _ => False
  | .bytes _ => False
  | .formatted _ _ => False
  | _ => True

namespace Value

variable {value : Value}

/-- A faithful value is readable. -/
theorem readable_of_faithful (faithful : value.IsFaithful) : value.IsReadable := by
  cases value with
  | int n => exact ⟨faithful, trivial⟩
  | float x => exact ⟨trivial, faithful⟩
  | tuple items => exact faithful.elim
  | bytes octets => exact faithful.elim
  | formatted format text => exact faithful.elim
  | _ => exact ⟨trivial, trivial⟩

/-- A faithful value is plain. -/
theorem plain_of_faithful (faithful : value.IsFaithful) : value.IsPlain := by
  cases value with
  | int n => exact faithful
  | dict entries => exact faithful.1
  | tuple items => exact faithful.elim
  | bytes octets => exact faithful.elim
  | formatted format text => exact faithful.elim
  | _ => trivial

/-- A faithful value is kept by its literal. -/
theorem kept_of_faithful (faithful : value.IsFaithful) : value.IsKept := by
  cases value with
  | str text => exact Text.isQuotable_of_plain faithful
  | dict entries =>
    exact fun entry member => Text.isKeptKey_of_ascii (faithful.2 entry member)
  | _ => trivial

end Value

namespace Schema

/-- Whether a shape, apart from its parts, is read from its text as it is. -/
def IsFaithfulShape : Shape Schema → Prop
  | .object fields => ∀ field ∈ fields, Text.IsAscii field.1
  | .enum options =>
    options ≠ [] ∧ ∀ option ∈ options, ∃ text, option = .str text ∧ Text.IsPlain text
  | .literal values => ∃ value, values = [value] ∧ value.Everywhere Value.IsFaithful
  | .raw text => ∃ read, Schema.parse (text.getD "") = .ok read
  | _ => True

/-- Whether a schema, apart from its parts, is read from its text as it is, but for an expression
that was given as text. -/
structure IsFaithful (schema : Schema) : Prop where
  checks : ∀ check ∈ schema.decorations.checks,
    check.IsKnown ∧ ∀ arg ∈ check.args, arg.Everywhere Value.IsFaithful
  mode : ∀ mode ∈ schema.decorations.mode, schema.IsObject
  default : ∀ literal ∈ schema.decorations.default,
    literal.text = none ∧ literal.value.Everywhere Value.IsFaithful
  shape : IsFaithfulShape schema.shape

variable {schema : Schema}

/-- A faithful schema is readable. -/
theorem readable_of_faithful (faithful : schema.IsFaithful) : schema.IsReadable where
  checks check member := by
    obtain ⟨known, args⟩ := faithful.checks check member
    exact ⟨known, fun arg held => (args arg held).mono fun _ => Value.readable_of_faithful⟩
  mode := faithful.mode
  default literal member := by
    obtain ⟨value, text⟩ := literal
    obtain ⟨noText, held⟩ := faithful.default _ member
    cases noText
    exact .literal (held.mono fun _ => Value.readable_of_faithful)
  shape := by
    have here := faithful.shape
    cases shape : schema.shape with
    | enum options =>
      rw [shape] at here
      refine ⟨here.1, fun option member => ?_⟩
      obtain ⟨text, rfl, -⟩ := here.2 option member
      rfl
    | literal values =>
      rw [shape] at here
      obtain ⟨value, rfl, held⟩ := here
      exact ⟨value, rfl, held.mono fun _ => Value.readable_of_faithful⟩
    | raw text =>
      rw [shape] at here
      exact here
    | _ => trivial

/-- A faithful schema is plain. -/
theorem plain_of_faithful (faithful : schema.IsFaithful) : schema.IsPlain where
  default literal member := by
    obtain ⟨noText, held⟩ := faithful.default literal member
    exact ⟨noText, held.mono fun _ => Value.plain_of_faithful⟩
  shape := by
    have here := faithful.shape
    cases shape : schema.shape with
    | enum options =>
      rw [shape] at here
      intro option member
      obtain ⟨text, rfl, -⟩ := here.2 option member
      exact .intro trivial (by simp [Value.parts])
    | literal values =>
      rw [shape] at here
      obtain ⟨value, rfl, held⟩ := here
      exact List.forall_mem_singleton.mpr (held.mono fun _ => Value.plain_of_faithful)
    | _ => trivial

/-- A faithful schema is kept by its text. -/
theorem kept_of_faithful (faithful : schema.IsFaithful) : schema.IsKept where
  default literal member := (faithful.default literal member).2.mono fun _ => Value.kept_of_faithful
  shape := by
    have here := faithful.shape
    cases shape : schema.shape with
    | object fields =>
      rw [shape] at here
      exact fun field member => Text.isKeptKey_of_ascii (here field member)
    | enum options =>
      rw [shape] at here
      intro option member
      obtain ⟨text, rfl, plain⟩ := here.2 option member
      exact .intro (Text.isQuotable_of_plain plain) (by simp [Value.parts])
    | literal values =>
      rw [shape] at here
      obtain ⟨value, rfl, held⟩ := here
      exact List.forall_mem_singleton.mpr (held.mono fun _ => Value.kept_of_faithful)
    | _ => trivial

/-- Nothing but expressions that were given as text changes when a faithful schema is read. -/
theorem reread_of_faithful (faithful : schema.Everywhere IsFaithful) : schema.reread = schema := by
  have plain := faithful.mono fun _ => plain_of_faithful
  have kept := faithful.mono fun _ => kept_of_faithful
  exact (reread_eq_iff plain).mpr kept

/-! ### Resolving -/

/-- Fields can be resolved if each of their schemas can. -/
theorem exists_resolvedFields {fields : List (String × Schema)}
    (parts : ∀ schema ∈ fields.map Prod.snd, ∃ read, schema.reread.resolved = .ok read) :
    ∃ read, resolvedFields (rereadFields fields) = .ok read := by
  induction fields with
  | nil => exact ⟨[], rfl⟩
  | cons field fields hypothesis =>
    obtain ⟨⟨read, first⟩, others⟩ := List.forall_mem_cons.mp parts
    obtain ⟨rest, resolved⟩ := hypothesis others
    exact ⟨_, bind_eq_ok.mpr ⟨read, first, bind_eq_ok.mpr ⟨rest, resolved, rfl⟩⟩⟩

/-- Variants can be resolved if each of them can. -/
theorem exists_resolvedVariants {variants : List Schema}
    (parts : ∀ schema ∈ variants, ∃ read, schema.reread.resolved = .ok read) :
    ∃ read, resolvedVariants (rereadVariants variants) = .ok read := by
  induction variants with
  | nil => exact ⟨[], rfl⟩
  | cons schema variants hypothesis =>
    obtain ⟨⟨read, first⟩, others⟩ := List.forall_mem_cons.mp parts
    obtain ⟨rest, resolved⟩ := hypothesis others
    exact ⟨_, bind_eq_ok.mpr ⟨read, first, bind_eq_ok.mpr ⟨rest, resolved, rfl⟩⟩⟩

/-- Every expression in a readable schema that was given as text is understood. -/
theorem exists_resolved (readable : schema.Everywhere IsReadable) :
    ∃ read, schema.reread.resolved = .ok read := by
  induction schema using Schema.induct with
  | step shape marks hypothesis =>
    have parts : ∀ part ∈ shape.parts, ∃ read, part.reread.resolved = .ok read :=
      fun part member => hypothesis part member (readable.ofParts part member)
    cases shape with
    | raw text =>
      obtain ⟨read, parsed⟩ := readable.here.shape
      exact ⟨_, bind_eq_ok.mpr ⟨read, parsed, rfl⟩⟩
    | array item =>
      obtain ⟨read, resolved⟩ := parts item (List.mem_singleton_self item)
      exact ⟨_, bind_eq_ok.mpr ⟨_, bind_eq_ok.mpr ⟨read, resolved, rfl⟩, rfl⟩⟩
    | record value =>
      obtain ⟨read, resolved⟩ := parts value (List.mem_singleton_self value)
      exact ⟨_, bind_eq_ok.mpr ⟨_, bind_eq_ok.mpr ⟨read, resolved, rfl⟩, rfl⟩⟩
    | object fields =>
      obtain ⟨read, resolved⟩ := exists_resolvedFields parts
      exact ⟨_, bind_eq_ok.mpr ⟨_, bind_eq_ok.mpr ⟨read, resolved, rfl⟩, rfl⟩⟩
    | union variants =>
      obtain ⟨read, resolved⟩ := @exists_resolvedVariants variants parts
      exact ⟨_, bind_eq_ok.mpr ⟨_, bind_eq_ok.mpr ⟨read, resolved, rfl⟩, rfl⟩⟩
    | _ => exact ⟨_, rfl⟩

/-- A number with a bound of too many digits has no text. -/
theorem render_of_long {name : String} {n : Int} (long : 10 ^ integerDigitLimit ≤ n.natAbs) :
    (number.check name [.int n]).render = .error .integerTooLong := by
  have size : Value.literal (.int n) = .error .integerTooLong := by
    rw [Value.literal, integerLiteral, Nat.pow_eq, if_neg (Nat.not_lt.mpr long)]
  have chars : renderChars (number.check name [.int n]) = .error .integerTooLong := by
    simp only [check, number, List.nil_append, renderChars, renderShape, Decorations.text,
      checksText, Check.text, Value.literals, size]
    rfl
  rw [render, chars]
  rfl

/-- The text of a faithful schema exists and is read as the schema with every expression that was
given as text resolved; for an object, so is every block. -/
theorem parse_render_resolved (schema : Schema) (faithful : schema.Everywhere IsFaithful) :
    ∃ read, schema.resolved = .ok read ∧
      (∃ text, schema.render = .ok text ∧ Schema.parse text = .ok read) ∧
      ∀ fields, schema.shape = .object fields → ∀ indent : String,
        (∀ c ∈ indent.toList, Text.isBlank c = true) →
        ∃ text, schema.renderBlock indent = .ok text ∧ Schema.parse text = .ok read := by
  have readable : schema.Everywhere IsReadable := faithful.mono fun _ => readable_of_faithful
  obtain ⟨read, reread⟩ := exists_resolved readable
  have resolved : schema.resolved = .ok read := by
    rw [reread_of_faithful faithful] at reread
    exact reread
  exact ⟨read, resolved, parse_render readable reread,
    fun fields object indent blank => parse_renderBlock object readable reread blank⟩

/-- A nested expression keeps its own decorations below those around it. -/
theorem parse_render_resolved_raw :
    ∃ text, (object
          [("a b", ((raw "z.object(\x7b\x7d).strict()").withMode .passthrough).asNullable)]
          (some .strict)).render = .ok text ∧
      Schema.parse text =
        .ok (object [("a b", ((object []).withMode .passthrough).asNullable)] (some .strict)) := by
  have parsed : Schema.parse "z.object(\x7b\x7d).strict()" = .ok ((object []).withMode .strict) :=
    ok_of_toOption (by decide +kernel)
  have inner : IsFaithful ((raw "z.object(\x7b\x7d).strict()").withMode .passthrough).asNullable :=
    { checks := nofun
      mode := fun _ _ => ⟨_, [], parsed, rfl⟩
      default := nofun
      shape := ⟨_, parsed⟩ }
  have outer : IsFaithful (object
      [("a b", ((raw "z.object(\x7b\x7d).strict()").withMode .passthrough).asNullable)]
      (some .strict)) :=
    { checks := nofun
      mode := fun _ _ => trivial
      default := nofun
      shape := List.forall_mem_singleton.mpr (Text.forall_of_all (by decide)) }
  obtain ⟨read, resolved, written, -⟩ := parse_render_resolved _
    (.intro outer (List.forall_mem_singleton.mpr (.intro inner nofun)))
  have same :
      read = object [("a b", ((object []).withMode .passthrough).asNullable)] (some .strict) :=
    Except.ok.inj (resolved.symm.trans (ok_of_toOption (by decide +kernel)))
  rwa [same] at written

/-- Reading what was written brings back neither an option with a control character that has no
escape of its own nor a bound of more digits than an integer may have. -/
theorem parse_render_resolved_unfaithful :
    ((enum ["\x01"]).resolved = .ok (enum ["\x01"]) ∧
      (enum ["\x01"]).render = .ok "z.enum([\"\\u0001\"])" ∧
      Schema.parse "z.enum([\"\\u0001\"])" = .ok (enum ["u0001"]) ∧
      enum ["u0001"] ≠ enum ["\x01"]) ∧
    (number.check "min" [.int (10 ^ integerDigitLimit)]).resolved =
        .ok (number.check "min" [.int (10 ^ integerDigitLimit)]) ∧
      (number.check "min" [.int (10 ^ integerDigitLimit)]).render = .error .integerTooLong := by
  refine ⟨⟨ok_of_toOption (by decide +kernel), ok_of_toOption (by decide +kernel),
    ok_of_toOption (by decide +kernel), by decide +kernel⟩, rfl, render_of_long ?_⟩
  simp [Int.natAbs_pow]

end Schema

end TableSchema
