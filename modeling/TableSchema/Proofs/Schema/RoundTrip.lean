import TableSchema.Proofs.Grammar.Given
import TableSchema.Proofs.Schema.Keeping
import TableSchema.Proofs.Schema.Writing

/-! # What rendering keeps

A schema that was read has a text, and the text is read as that schema exactly if the schema is
lossless: its numbers are finite, and the texts and keys in it are kept (`Schema.parse_render_iff`).
-/

namespace TableSchema

open Lexeme Grammar

/-- Whether the literal of a value, apart from its parts, is read as it was. -/
def Value.IsLossless (value : Value) : Prop :=
  value.IsKept ∧ value.IsFinite

/-- Whether a lexeme is no number beyond all finite numbers. -/
def Lexeme.IsFinite (lexeme : Lexeme) : Prop :=
  lexeme.group = .number → (numeral lexeme.text).IsFinite

/-- A value that the grammar gives to no number is plain. -/
theorem Value.plain_of_given {value : Value} (given : value.IsGiven) : value.IsPlain := by
  cases value with
  | dict entries => exact given
  | int n => exact given.elim
  | float x => exact given.elim
  | tuple items => exact given.elim
  | bytes octets => exact given.elim
  | formatted format text => exact given.elim
  | _ => trivial

/-- A value that the grammar gives to no number is finite, being no number itself. -/
theorem Value.finite_of_given {value : Value} (given : value.IsGiven) : value.IsFinite := by
  cases value with
  | float x => exact given.elim
  | _ => trivial

/-- Finiteness covers literals. -/
theorem Lexeme.covers_isFinite : Covers Lexeme.IsFinite where
  plain _ other := fun isNumber => absurd isNumber other
  integer n short _ := by
    have reads : Numeral.value (number (integerText n)).text.toList = .ok (.int n) := by
      rw [number, String.toList_ofList]
      exact Numeral.value_integerText short
    rw [Value.numeral_of_value reads]
    trivial
  finite negative rank _ := by
    have reads : Numeral.value (number (literalNumbers.text (.finite negative rank))).text.toList =
        .ok (.float (.finite negative rank)) := by
      rw [number, String.toList_ofList]
      exact Numeral.value_literalNumbers_text negative rank
    rw [Value.numeral_of_value reads]
    exact ⟨negative, rank, rfl⟩

namespace Schema

/-- Whether the text of a shape, apart from its parts, is read as it was. -/
def IsLosslessShape : Shape Schema → Prop
  | .object fields => ∀ field ∈ fields, Text.IsKeptKey field.1
  | .enum options => ∀ option ∈ options, option.Everywhere Value.IsLossless
  | .literal values => ∀ value ∈ values, value.Everywhere Value.IsLossless
  | _ => True

/-- Whether the text of a schema, apart from its parts, is read as it was. -/
structure IsLossless (schema : Schema) : Prop where
  checks : ∀ check ∈ schema.decorations.checks, ∀ arg ∈ check.args, arg.Everywhere Value.IsFinite
  default : ∀ literal ∈ schema.decorations.default, literal.value.Everywhere Value.IsLossless
  shape : IsLosslessShape schema.shape

variable {schema : Schema}

/-- A schema that was read is given, and all its values are plain. -/
theorem given_of_parse {text : String} (read : Schema.parse text = .ok schema) :
    schema.Everywhere (IsGiven Value.IsPlain) := by
  obtain ⟨lexemes, scanned, short, written⟩ := lexemes_of_parse read
  apply written.everywhere
  intro inner value within single
  apply single.everywhere fun _ => Value.plain_of_given
  intro text member
  have listed := within.subset member
  have proper := isProper_of_ofText? scanned _ listed
  exact Value.plain_of_numeral ((value_eq_ok proper).mpr ⟨rfl, short _ listed⟩)

/-! ### Schemas of plain values -/

/-- The refinements of a schema that the grammar gives are names. -/
theorem known_of_given {holds : Value → Prop} (given : schema.IsGiven holds) :
    ∀ check ∈ schema.decorations.checks, Token.IsName check.name.toList :=
  fun check member => Check.isName_of_known (given.checks check member).1

/-- A schema that the grammar gives is plain if its values are. -/
theorem plain_of_given (given : schema.IsGiven Value.IsPlain) : schema.IsPlain where
  default := given.default
  shape := by
    have here := given.shape
    cases shape : schema.shape with
    | enum options =>
      rw [shape] at here
      exact fun option member => (here.2 option member).2
    | literal values =>
      rw [shape] at here
      obtain ⟨value, rfl, plain⟩ := here
      exact List.forall_mem_singleton.mpr plain
    | _ => trivial

/-- A schema that the grammar gives is spelled with names. -/
theorem spelled_of_given {holds : Value → Prop} (given : schema.IsGiven holds) :
    schema.IsSpelled where
  names := known_of_given given
  default literal member text source := by
    rw [(given.default literal member).1] at source
    cases source
  raw text isRaw := by
    have here := given.shape
    rw [isRaw] at here
    exact here.elim

theorem writable_of_plain {value : Value} (plain : value.Everywhere Value.IsPlain) :
    value.Everywhere Value.IsWritable :=
  plain.mono fun _ => Value.writable_of_plain

/-- A schema that the grammar gives has a text if its values are plain. -/
theorem covered_of_given {property : Lexeme → Prop} (covers : Covers property)
    (given : schema.IsGiven Value.IsPlain) : schema.IsCovered property where
  checks check member arg held := writable_of_plain ((given.checks check member).2 arg held)
  default literal member := by
    obtain ⟨noText, plain⟩ := given.default literal member
    obtain ⟨value, text⟩ := literal
    cases noText
    exact ⟨Value.exists_literal (writable_of_plain plain),
      Value.allHold_lexemes covers (writable_of_plain plain)⟩
  shape := by
    have here := given.shape
    cases shape : schema.shape with
    | enum options =>
      rw [shape] at here
      exact fun option member => writable_of_plain (here.2 option member).2
    | literal values =>
      rw [shape] at here
      obtain ⟨value, rfl, plain⟩ := here
      exact ⟨value, [], rfl, writable_of_plain plain⟩
    | raw text =>
      rw [shape] at here
      exact here.elim
    | _ => trivial

/-- A given schema of plain, finite values is readable. -/
theorem readable_of_given (plain : schema.IsGiven Value.IsPlain)
    (finite : schema.IsGiven Value.IsFinite) : schema.IsReadable := by
  have readable {value : Value} (plain : value.Everywhere Value.IsPlain)
      (finite : value.Everywhere Value.IsFinite) : value.Everywhere Value.IsReadable :=
    (writable_of_plain plain).and finite
  constructor
  · intro check member
    obtain ⟨known, plainArgs⟩ := plain.checks check member
    exact ⟨known, fun arg held =>
      readable (plainArgs arg held) ((finite.checks check member).2 arg held)⟩
  · intro mode member
    obtain ⟨fields, object⟩ := plain.mode mode member
    rw [IsObject, object]
    trivial
  · intro literal member
    obtain ⟨noText, plainValue⟩ := plain.default literal member
    have finiteValue := (finite.default literal member).2
    obtain ⟨value, text⟩ := literal
    cases noText
    exact .literal (readable plainValue finiteValue)
  · have here := plain.shape
    have here' := finite.shape
    cases shape : schema.shape with
    | enum options =>
      rw [shape] at here
      refine ⟨here.1, fun option member => ?_⟩
      obtain ⟨⟨text, rfl⟩, -⟩ := here.2 option member
      rfl
    | literal values =>
      rw [shape] at here here'
      obtain ⟨value, rfl, plainValue⟩ := here
      obtain ⟨value', same, finiteValue⟩ := here'
      cases same
      exact ⟨value, rfl, readable plainValue finiteValue⟩
    | raw text =>
      rw [shape] at here
      exact here.elim
    | _ => trivial

/-! ### Lossless schemas -/

/-- A schema whose values are kept, all of them finite, is lossless. -/
theorem lossless_of_kept (kept : schema.IsKept) (finite : schema.IsGiven Value.IsFinite) :
    schema.IsLossless where
  checks check member := (finite.checks check member).2
  default literal member := (kept.default literal member).and (finite.default literal member).2
  shape := by
    have here := kept.shape
    have here' := finite.shape
    cases shape : schema.shape with
    | object fields =>
      rw [shape] at here
      exact here
    | enum options =>
      rw [shape] at here here'
      exact fun option member => (here option member).and (here'.2 option member).2
    | literal values =>
      rw [shape] at here here'
      obtain ⟨value, rfl, finiteValue⟩ := here'
      exact List.forall_mem_singleton.mpr ((here value (by simp)).and finiteValue)
    | _ => trivial

/-- A lossless schema keeps its values. -/
theorem kept_of_lossless (lossless : schema.IsLossless) : schema.IsKept where
  default literal member := (lossless.default literal member).mono fun _ here => here.1
  shape := by
    have here := lossless.shape
    cases shape : schema.shape with
    | object fields =>
      rw [shape] at here
      exact here
    | enum options =>
      rw [shape] at here
      exact fun option member => (here option member).mono fun _ held => held.1
    | literal values =>
      rw [shape] at here
      exact fun value member => (here value member).mono fun _ held => held.1
    | _ => trivial

/-- The values of a lossless schema are finite. -/
theorem finite_of_lossless (given : schema.IsGiven Value.IsPlain) (lossless : schema.IsLossless) :
    schema.IsGiven Value.IsFinite where
  checks check member := ⟨(given.checks check member).1, lossless.checks check member⟩
  mode := given.mode
  default literal member :=
    ⟨(given.default literal member).1, (lossless.default literal member).mono fun _ here => here.2⟩
  shape := by
    have here := given.shape
    have here' := lossless.shape
    cases shape : schema.shape with
    | enum options =>
      rw [shape] at here here'
      exact ⟨here.1, fun option member => ⟨(here.2 option member).1,
        (here' option member).mono fun _ held => held.2⟩⟩
    | literal values =>
      rw [shape] at here here'
      obtain ⟨value, rfl, -⟩ := here
      exact ⟨value, rfl, (here' value (by simp)).mono fun _ held => held.2⟩
    | raw text =>
      rw [shape] at here
      exact here.elim
    | _ => trivial

/-! ### Round trips -/

/-- Fields that have been read need not be resolved. -/
theorem resolvedFields_reread {fields : List (String × Schema)}
    (parts : ∀ schema ∈ fields.map Prod.snd, schema.reread.resolved = .ok schema.reread) :
    resolvedFields (rereadFields fields) = .ok (rereadFields fields) := by
  induction fields with
  | nil => rfl
  | cons field fields hypothesis =>
    obtain ⟨first, others⟩ := List.forall_mem_cons.mp parts
    exact bind_eq_ok.mpr ⟨_, first, bind_eq_ok.mpr ⟨_, hypothesis others, rfl⟩⟩

/-- Variants that have been read need not be resolved. -/
theorem resolvedVariants_reread {variants : List Schema}
    (parts : ∀ schema ∈ variants, schema.reread.resolved = .ok schema.reread) :
    resolvedVariants (rereadVariants variants) = .ok (rereadVariants variants) := by
  induction variants with
  | nil => rfl
  | cons schema variants hypothesis =>
    obtain ⟨first, others⟩ := List.forall_mem_cons.mp parts
    exact bind_eq_ok.mpr ⟨_, first, bind_eq_ok.mpr ⟨_, hypothesis others, rfl⟩⟩

/-- What the text of a given schema reads as holds no expression as text. -/
theorem resolved_reread {holds : Value → Prop} (given : schema.Everywhere (IsGiven holds)) :
    schema.reread.resolved = .ok schema.reread := by
  induction schema using Schema.induct with
  | step shape marks hypothesis =>
    have parts : ∀ part ∈ shape.parts, part.reread.resolved = .ok part.reread :=
      fun part member => hypothesis part member (given.ofParts part member)
    cases shape with
    | raw text => exact given.here.shape.elim
    | array item =>
      have item := parts item (List.mem_singleton_self item)
      exact bind_eq_ok.mpr ⟨_, bind_eq_ok.mpr ⟨_, item, rfl⟩, rfl⟩
    | record value =>
      have value := parts value (List.mem_singleton_self value)
      exact bind_eq_ok.mpr ⟨_, bind_eq_ok.mpr ⟨_, value, rfl⟩, rfl⟩
    | object fields =>
      exact bind_eq_ok.mpr ⟨_, bind_eq_ok.mpr ⟨_, resolvedFields_reread parts, rfl⟩, rfl⟩
    | union variants =>
      exact bind_eq_ok.mpr ⟨_, bind_eq_ok.mpr ⟨_, resolvedVariants_reread parts, rfl⟩, rfl⟩
    | _ => rfl

/-- The text of a given schema of plain, finite values exists and is read as the schema reads. -/
theorem parse_render_of_given (plain : schema.Everywhere (IsGiven Value.IsPlain))
    (finite : schema.Everywhere (IsGiven Value.IsFinite)) :
    ∃ written, schema.render = .ok written ∧ Schema.parse written = .ok schema.reread := by
  have readable := (plain.and finite).mono fun _ here => readable_of_given here.1 here.2
  exact parse_render readable (resolved_reread plain)

/-- If the text of a given schema is read as the schema, then its numbers are finite. -/
theorem finite_of_parse_render (given : schema.Everywhere (IsGiven Value.IsPlain))
    {written : List Char} (rendered : schema.renderChars = .ok written)
    (read : Schema.parse (String.ofList written) = .ok schema) :
    schema.Everywhere (IsGiven Value.IsFinite) := by
  obtain ⟨lexemes, scanned, -, derived⟩ := lexemes_of_parse read
  have spells := spells_renderChars (given.mono fun _ => spelled_of_given) rendered
  rw [String.toList_ofList, spells.ofText?_eq] at scanned
  -- What is read is derived from the lexemes of the literals, and those of numbers are finite.
  have numbers := forall_mem_lexemes covers_isFinite
    (given.mono fun _ => covered_of_given covers_isFinite) lexemes scanned
  apply derived.everywhere
  intro inner value within single
  apply single.everywhere fun _ => Value.finite_of_given
  intro text member
  exact numbers _ (within.subset member) rfl

/-- The text of a schema that was read exists, and it is read as the schema exactly if the schema is
lossless. -/
theorem parse_render_iff {text : String} (read : Schema.parse text = .ok schema) :
    ∃ written, schema.render = .ok written ∧
      (Schema.parse written = .ok schema ↔ schema.Everywhere IsLossless) := by
  have given := given_of_parse read
  obtain ⟨chars, rendered⟩ :=
    exists_renderChars (given.mono fun _ => covered_of_given covers_isFinite)
  refine ⟨String.ofList chars, by rw [render, rendered]; rfl, ?_⟩
  have reads (finite : schema.Everywhere (IsGiven Value.IsFinite)) :
      Schema.parse (String.ofList chars) = .ok schema.reread := by
    obtain ⟨written, same, again⟩ := parse_render_of_given given finite
    rw [render, rendered] at same
    cases same
    exact again
  have kept : schema.reread = schema ↔ schema.Everywhere IsKept :=
    reread_eq_iff (given.mono fun _ => plain_of_given)
  constructor
  · intro again
    have finite := finite_of_parse_render given rendered again
    have same : schema.reread = schema := Except.ok.inj ((reads finite).symm.trans again)
    exact ((kept.mp same).and finite).mono fun _ here => lossless_of_kept here.1 here.2
  · intro lossless
    have finite := (given.and lossless).mono fun _ here => finite_of_lossless here.1 here.2
    rw [reads finite, kept.mpr (lossless.mono fun _ => kept_of_lossless)]

/-- A text outside ASCII is kept as an option, and a key that needs quotes is kept. -/
theorem parse_render_enum :
    ∃ written, (object [("a b", (enum ["é"]).asNullable)] (some .strict)).render = .ok written ∧
      Schema.parse written = .ok (object [("a b", (enum ["é"]).asNullable)] (some .strict)) := by
  have read : Schema.parse "z.object(\x7b 'a b': z.enum(['é']).nullable() \x7d).strict()" =
      .ok (object [("a b", (enum ["é"]).asNullable)] (some .strict)) :=
    ok_of_toOption (by decide +kernel)
  have option : IsLossless (enum ["é"]).asNullable :=
    { checks := nofun
      default := nofun
      shape := List.forall_mem_singleton.mpr
        (.intro ⟨Text.forall_of_all (by decide), trivial⟩ nofun) }
  have outer : IsLossless (object [("a b", (enum ["é"]).asNullable)] (some .strict)) :=
    { checks := nofun
      default := nofun
      shape := List.forall_mem_singleton.mpr
        (Text.isKeptKey_of_ascii (Text.forall_of_all (by decide))) }
  obtain ⟨written, rendered, again⟩ := parse_render_iff read
  exact ⟨written, rendered, again.mpr
    (.intro outer (List.forall_mem_singleton.mpr (.intro option nofun)))⟩

/-- Rendering loses a control character without an escape of its own, a key outside ASCII, and a
number beyond all finite ones. -/
theorem parse_render_lossy :
    (Schema.parse "z.literal('\x01')" = .ok (literal (.str "\x01")) ∧
      (literal (.str "\x01")).render = .ok "z.literal(\"\\u0001\")" ∧
      Schema.parse "z.literal(\"\\u0001\")" = .ok (literal (.str "u0001"))) ∧
    (Schema.parse "z.object(\x7b 'é': z.string() \x7d)" = .ok (object [("é", .string)]) ∧
      (object [("é", .string)]).render = .ok "z.object(\x7b \"\\u00e9\": z.string() \x7d)" ∧
      Schema.parse "z.object(\x7b \"\\u00e9\": z.string() \x7d)" =
        .ok (object [("u00e9", .string)])) ∧
    (Schema.parse "z.literal(1e999)" = .ok (literal (.float (.infinite false))) ∧
      (literal (.float (.infinite false))).render = .ok "z.literal(Infinity)" ∧
      (Schema.parse "z.literal(Infinity)").toOption = none) := by
  refine ⟨⟨?_, ?_, ?_⟩, ⟨?_, ?_, ?_⟩, ?_, ?_, by decide +kernel⟩
  all_goals exact ok_of_toOption (by decide +kernel)

end Schema

end TableSchema
