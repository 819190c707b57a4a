import Mathlib.Logic.Relation
import TableSchema.Proofs.Grammar.Acceptance
import TableSchema.Proofs.Grammar.Exchange
import TableSchema.Proofs.Schema.Calls

/-! # The order of methods

A method is a call on the schema before it, so that methods in a row may be rearranged as calls may
(`Grammar.Methods.rearrange`). `MethodText` is the text of a method, and `Reorders` says that the
texts of methods in a row are rearranged anywhere in a text. What is read stays the same, and its
text has the methods in a fixed order (`Schema.parse_reordered`).
-/

namespace TableSchema

open Lexeme

/-- The kind of the call that a method of a name makes. -/
def Call.Kind.ofName? (name : String) : Option Call.Kind :=
  if name ∈ Expression.flagChecks ∨ name ∈ Expression.sizeChecks then some .refinement
  else if name = "strict" ∨ name = "passthrough" then some .mode
  else if name = "default" then some .default
  else none

theorem Schema.shape_decorate (schema : Schema) (call : Call) :
    (schema.decorate call).shape = schema.shape := by
  cases call <;> rfl

namespace Grammar

variable {lexemes lexemes' : List Lexeme} {methods methods' : List (List Lexeme)}
  {first second last : Schema}

/-- The kind of the call that a method makes. -/
def kindOf? : List Lexeme → Option Call.Kind
  | ⟨_, name⟩ :: _ => Call.Kind.ofName? name
  | [] => none

/-- A method makes the same call on every schema of the shape. -/
theorem Method.exists_call (applied : Method lexemes first second) : ∃ call : Call,
    call.kind? = kindOf? lexemes ∧ second = first.decorate call ∧
      ∀ other : Schema, other.shape = first.shape → Method lexemes other (other.decorate call) := by
  cases applied with
  | @flag name schema known =>
    have kind : kindOf? (call name) = some .refinement := if_pos (.inl known)
    exact ⟨.check ⟨name, []⟩, kind.symm, rfl, fun _ _ => .flag known⟩
  | @size name schema argument bound known written number =>
    have kind : kindOf? (callWith name argument) = some .refinement := if_pos (.inr known)
    exact ⟨.check ⟨name, [bound]⟩, kind.symm, rfl, fun _ _ => .size known written number⟩
  | nullable => exact ⟨.nullable, by decide, rfl, fun _ _ => .nullable⟩
  | optional => exact ⟨.optional, by decide, rfl, fun _ _ => .optional⟩
  | default written => exact ⟨.default _, rfl, rfl, fun _ _ => .default written⟩
  | mode mode object =>
    exact ⟨.mode mode, by cases mode <;> decide, rfl,
      fun _ same => .mode mode (same.trans object)⟩

/-- Methods that are not of one kind may trade places. -/
theorem Method.swap (applied : Method lexemes first second) (applied' : Method lexemes' second last)
    (apart : Apart kindOf? lexemes lexemes') :
    ∃ between, Method lexemes' first between ∧ Method lexemes between last := by
  obtain ⟨call, kind, rfl, again⟩ := applied.exists_call
  obtain ⟨call', kind', rfl, again'⟩ := applied'.exists_call
  have apartCalls : Apart Call.kind? call call' := by
    intro found isKind isKind'
    exact apart found (kind ▸ isKind) (kind' ▸ isKind')
  refine ⟨first.decorate call', again' first (first.shape_decorate call).symm, ?_⟩
  rw [Schema.decorate_comm apartCalls]
  exact again _ (first.shape_decorate call')

/-- Methods in a row are the first one and the others. -/
theorem methods_cons (isMethod : IsMethod lexemes)
    (applied : Methods (row (lexemes :: methods)) first last) :
    ∃ between, Method lexemes first between ∧ Methods (row methods) between last := by
  generalize whole : row (lexemes :: methods) = written at applied
  rw [row, List.flatMap_cons] at whole
  cases applied with
  | nil => cases whole
  | cons applied others =>
    obtain ⟨rfl, rfl⟩ := isMethod.append_inj ⟨_, _, applied⟩ (List.cons.inj whole).2
    exact ⟨_, applied, others⟩

/-- Methods that trade places with others of another kind make the same of a schema. -/
theorem Methods.of_trades (trades : Trades kindOf? methods methods')
    (each : ∀ method ∈ methods, IsMethod method) (applied : Methods (row methods) first last) :
    (∀ method ∈ methods', IsMethod method) ∧ Methods (row methods') first last := by
  induction trades generalizing first with
  | refl methods => exact ⟨each, applied⟩
  | cons method others hypothesis =>
    obtain ⟨isMethod, each⟩ := List.forall_mem_cons.mp each
    obtain ⟨between, here, behind⟩ := methods_cons isMethod applied
    obtain ⟨each', behind'⟩ := hypothesis each behind
    exact ⟨List.forall_mem_cons.mpr ⟨isMethod, each'⟩, .cons here behind'⟩
  | swap apart methods =>
    obtain ⟨isMethod, each⟩ := List.forall_mem_cons.mp each
    obtain ⟨isMethod', each⟩ := List.forall_mem_cons.mp each
    obtain ⟨second, here, behind⟩ := methods_cons isMethod applied
    obtain ⟨third, next, behind⟩ := methods_cons isMethod' behind
    obtain ⟨between, here, next⟩ := here.swap next apart
    exact ⟨List.forall_mem_cons.mpr ⟨isMethod', List.forall_mem_cons.mpr ⟨isMethod, each⟩⟩,
      .cons here (.cons next behind)⟩
  | trans before after hypothesis hypothesis' =>
    obtain ⟨each, applied⟩ := hypothesis each applied
    exact hypothesis' each applied

end Grammar

/-! ### Texts -/

open Grammar Token

/-- The text of a method with the point in front of it: what opens it, up to its closing
parenthesis, and that parenthesis. There may be blanks anywhere, and in front of the point, too. -/
structure MethodText where
  name : String
  argument : List Lexeme
  opening : String
  scanned : ofText? opening.toList = some (mark '.' :: word name :: mark '(' :: argument)
  isMethod : IsMethod (callWith name argument)

namespace MethodText

/-- The lexemes of a method without the point in front of it. -/
def lexemes (method : MethodText) : List Lexeme :=
  callWith method.name method.argument

/-- The kind of the call that a method makes. -/
def kind? (method : MethodText) : Option Call.Kind :=
  Call.Kind.ofName? method.name

/-- The text of methods in a row. -/
def rowText : List MethodText → String
  | [] => ""
  | method :: methods => method.opening ++ ")" ++ rowText methods

variable {methods methods' : List MethodText}

/-- Methods in a row add their lexemes whatever follows. -/
theorem ofText?_rowText (methods : List MethodText) (rest : List Char) :
    ofText? ((rowText methods).toList ++ rest) =
      (ofText? rest).map (row (methods.map lexemes) ++ ·) := by
  induction methods with
  | nil => simp [rowText, row]
  | cons method methods hypothesis =>
    have split : (rowText (method :: methods)).toList ++ rest =
        method.opening.toList ++ ')' :: ((rowText methods).toList ++ rest) := by
      simp [rowText]
    rw [split, ofText?_append (breaks_stop (by decide) _) method.scanned,
      ofText?_stop (by decide), hypothesis]
    cases ofText? rest with
    | none => rfl
    | some lexemes => simp [row, MethodText.lexemes, callWith]

/-- A point that is a lexeme of its own has no digit behind it. -/
theorem isDigit_of_point {c : Char} {text taken : List Char}
    (read : lexeme? ('.' :: c :: text) = some (.punctuation, taken)) : Text.isDigit c = false := by
  cases digit : Text.isDigit c with
  | false => rfl
  | true =>
    have run : Text.digitRun ('.' :: c :: text) = [] := List.takeWhile_cons_of_neg (by decide)
    have digits : Text.digitRun (c :: text) = c :: Text.digitRun text :=
      List.takeWhile_cons_of_pos digit
    have fraction : fraction? ('.' :: c :: text) = some ('.' :: c :: Text.digitRun text) := by
      rw [fraction?, digits]
    have number : (number? ('.' :: c :: text)).isSome = true := by
      rw [number?_cons (by decide), unsigned?, mantissa?, run, fraction]
      rfl
    obtain ⟨found, isNumber⟩ := Option.isSome_iff_exists.mp number
    rw [lexeme?, isNumber] at read
    cases read

/-- A point that is a lexeme of its own, with others behind it, breaks off what stands before. -/
theorem breaks_of_point {text : List Char} {lexeme : Lexeme} {lexemes : List Lexeme}
    (scanned : ofText? text = some (mark '.' :: lexeme :: lexemes)) (rest : List Char) :
    Breaks (text ++ rest) := by
  generalize all : mark '.' :: lexeme :: lexemes = found at scanned
  cases scanned_of_ofText? scanned with
  | nil => cases all
  | blank blank others => exact breaks_blank blank _
  | @token taken after group lexemes solid read others =>
    obtain ⟨point, behind⟩ := List.cons.inj all
    obtain ⟨rfl, spelled⟩ := Lexeme.mk.inj point
    obtain rfl : ['.'] = taken := String.ofList_injective spelled
    cases after with
    | nil =>
      rw [ofText?_token solid read, ofText?_nil, ← behind] at scanned
      cases scanned
    | cons c after => exact breaks_point (isDigit_of_point read) _

/-- Methods trade places as their lexemes do. -/
theorem trades_lexemes (trades : Trades kind? methods methods') :
    Trades kindOf? (methods.map lexemes) (methods'.map lexemes) := by
  induction trades with
  | refl methods => exact .refl _
  | cons method others hypothesis => exact .cons _ hypothesis
  | @swap first second apart methods =>
    have apartLexemes : Apart kindOf? first.lexemes second.lexemes := apart
    exact .swap apartLexemes _
  | trans before after hypothesis hypothesis' => exact hypothesis.trans hypothesis'

/-- Methods in a row are exchanged for a rearrangement of them. -/
theorem exchanges_of_rearranged (nonempty : methods ≠ [])
    (rearranged : Rearranged kind? methods methods') :
    Exchanges (row (methods.map lexemes)) (row (methods'.map lexemes)) := by
  have each : ∀ method ∈ methods.map lexemes, IsMethod method :=
    List.forall_mem_map.mpr fun method _ => method.isMethod
  refine ⟨⟨_, by simpa using nonempty, each, rfl⟩, fun first last applied => ?_⟩
  exact (applied.of_trades (trades_lexemes rearranged.trades) each).2

end MethodText

/-- Methods in a row, anywhere in a text, are rearranged: refinements keep their order, and so do
methods that set a mode and those that set a default. The text before them ends with a token. -/
inductive Reorders : String → String → Prop
  | row {before after : String} {tokens : List Token} {methods methods' : List MethodText}
      (scanned : scan before = .ok tokens)
      (rearranged : Rearranged MethodText.kind? methods methods') :
    Reorders (before ++ MethodText.rowText methods ++ after)
      (before ++ MethodText.rowText methods' ++ after)

namespace Schema

/-- The lexemes of a text with methods in a row. -/
theorem ofText?_around {before after : String} {tokens : List Token} {methods : List MethodText}
    (scanned : scan before = .ok tokens) (nonempty : methods ≠ []) :
    ofText? (before ++ MethodText.rowText methods ++ after).toList =
      (ofText? after.toList).map fun behind => tokens.map Token.lexeme ++
        (row (methods.map MethodText.lexemes) ++ behind) := by
  obtain ⟨method, others, rfl⟩ := List.exists_cons_of_ne_nil nonempty
  have breaks : Breaks ((MethodText.rowText (method :: others)).toList ++ after.toList) := by
    simp only [MethodText.rowText, String.toList_append, List.append_assoc]
    exact MethodText.breaks_of_point method.scanned _
  have lexemes : ofText? before.toList = some (tokens.map Token.lexeme) :=
    ofText?_eq_some_iff.mpr ⟨tokens, scanned, rfl⟩
  rw [String.toList_append, String.toList_append, List.append_assoc]
  rw [ofText?_append breaks lexemes, MethodText.ofText?_rowText, Option.map_map]
  rfl

/-- A text with reordered methods is read as the same schema. -/
theorem parse_of_reorders {text text' : String} (reorders : Reorders text text') {schema : Schema}
    (read : Schema.parse text = .ok schema) : Schema.parse text' = .ok schema := by
  obtain @⟨before, after, tokens, methods, methods', scanned, rearranged⟩ := reorders
  by_cases empty : methods = []
  · subst empty
    rw [List.nil_perm.mp rearranged.perm]
    exact read
  · have empty' : methods' ≠ [] := fun same =>
      empty (List.perm_nil.mp (same ▸ rearranged.perm))
    obtain ⟨lexemes, whole, short, written⟩ := lexemes_of_parse read
    rw [ofText?_around scanned empty] at whole
    obtain ⟨behind, scannedAfter, rfl⟩ := Option.map_eq_some_iff.mp whole
    have changed : ofText? (before ++ MethodText.rowText methods' ++ after).toList =
        some (tokens.map Token.lexeme ++ (row (methods'.map MethodText.lexemes) ++ behind)) := by
      rw [ofText?_around scanned empty', scannedAfter]
      rfl
    have exchanges := MethodText.exchanges_of_rearranged empty rearranged
    refine parse_of_lexemes changed (fun lexeme member => short lexeme ?_)
      (written.exchange exchanges)
    have same := (rearranged.perm.map MethodText.lexemes).flatMap_right (mark '.' :: ·)
    rcases List.mem_append.mp member with member | member
    · exact List.mem_append_left _ member
    rcases List.mem_append.mp member with member | member
    · exact List.mem_append_right _ (List.mem_append_left _ (same.symm.subset member))
    · exact List.mem_append_right _ (List.mem_append_right _ member)

/-- A text whose methods are reordered, in any number of places, is read as the same schema. The
calls that the methods stand for make the same of every schema. And the text of a schema has its
calls in a fixed order: refinements, mode, optional, nullable, default. -/
theorem parse_reordered :
    (∀ text text' schema, Relation.ReflTransGen Reorders text text' →
      Schema.parse text = .ok schema → Schema.parse text' = .ok schema) ∧
    (∀ calls calls', Rearranged Call.kind? calls calls' → ∀ schema : Schema,
      calls.foldl decorate schema = calls'.foldl decorate schema) ∧
    ∀ shape marks, marks.calls.Pairwise (·.place ≤ ·.place) ∧
      marks.calls.foldl decorate { shape } = ⟨shape, marks⟩ ∧
      renderChars ⟨shape, marks⟩ = do
        let base ← renderShape shape
        return base ++ (← Call.texts marks.calls) := by
  refine ⟨fun text text' schema reorders read => ?_, fun calls calls' rearranged schema => ?_,
    fun shape marks => ⟨marks.calls_sorted, foldl_decorate_calls shape marks,
      renderChars_calls shape marks⟩⟩
  · induction reorders with
    | refl => exact read
    | tail _ step hypothesis => exact parse_of_reorders step hypothesis
  · exact foldl_decorate rearranged schema

/-- Four methods of the schema of the items, rearranged: the two refinements keep their order. -/
theorem parse_reordered_nested :
    let text := "z.array(z.number().min(1).int() .optional().default(2))"
    let text' := "z.array(z.number().default(2).min(1) .optional().int())"
    let schema := array ((((number.check "min" [.int 1]).check "int").asOptional).withDefault
      { value := .int 2 })
    Reorders text text' ∧ Schema.parse text = .ok schema ∧ Schema.parse text' = .ok schema := by
  intro text text' schema
  have parsed : Schema.parse text = .ok schema := ok_of_toOption (by decide +kernel)
  have isSome : (scan "z.array(z.number()").toOption.isSome = true := by decide +kernel
  obtain ⟨tokens, scanned⟩ := Option.isSome_iff_exists.mp isSome
  let min : MethodText := ⟨"min", [⟨.number, "1"⟩], ".min(1", by decide +kernel, number, _,
    .size (by decide) (.number "1") (by decide +kernel)⟩
  let int : MethodText := ⟨"int", [], ".int(", by decide +kernel, number, _, .flag (by decide)⟩
  let optional : MethodText := ⟨"optional", [], " .optional(", by decide +kernel, number, _,
    .optional⟩
  let default : MethodText := ⟨"default", [⟨.number, "2"⟩], ".default(2", by decide +kernel,
    number, _, .default (.number "2")⟩
  have perm : [min, int, optional, default].Perm [default, min, optional, int] :=
    (@List.perm_append_comm _ [min, int, optional] [default]).trans
      (.cons _ (.cons _ (.swap ..)))
  have kept : ∀ kind, [min, int, optional, default].filter (MethodText.kind? · = some kind) =
      [default, min, optional, int].filter (MethodText.kind? · = some kind) := by
    intro kind
    cases kind <;> rfl
  have before : text = "z.array(z.number()" ++
      MethodText.rowText [min, int, optional, default] ++ ")" := by decide +kernel
  have after : text' = "z.array(z.number()" ++
      MethodText.rowText [default, min, optional, int] ++ ")" := by decide +kernel
  have reorders : Reorders text text' := by
    rw [before, after]
    exact .row (ok_of_toOption scanned) ⟨perm, kept⟩
  exact ⟨reorders, parsed, parse_reordered.1 _ _ _ (.single reorders) parsed⟩

end Schema

end TableSchema
