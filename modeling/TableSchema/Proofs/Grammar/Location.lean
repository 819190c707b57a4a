import Mathlib.Data.List.Forall2
import TableSchema.Expression

/-! # Where readers stop

Readers look at the lexemes of their tokens. On two lists of tokens that differ at most in their
places they come to the same result, or stop for the same cause at tokens that stand at the same
position of the lists (`Expression.whole_located`). The proof goes through the readers one by one,
for any relation that ties tokens with the same lexeme.
-/

namespace TableSchema.Expression

/-- Whether a fault is found at a token: neither at a stray character nor at the end. -/
def Fault.IsAtToken : Fault → Prop
  | .unexpectedCharacter _ => False
  | .unexpectedEnd => False
  | _ => True

section Agree

variable (Tied : Token → Token → Prop)

/-- Two halts for the same cause, at tokens that are tied. -/
inductive SameHalt : Halt → Halt → Prop
  | refused {token token' : Token} {fault : Fault} (tied : Tied token token')
      (atToken : fault.IsAtToken) :
      SameHalt (.refused fault token.offset) (.refused fault token'.offset)
  | endOfTokens : SameHalt .endOfTokens .endOfTokens
  | integerTooLong {token token' : Token} {error : IntegerTooLong} (tied : Tied token token')
      (isNumber : token.group = .number) (long : Numeral.value token.text.toList = .error error) :
      SameHalt (.integerTooLong error) (.integerTooLong error)

variable {α β γ δ : Type}

/-- Two outcomes of readers that leave tied tokens, or halts for the same cause. -/
inductive SameOutcome (Same : α → β → Prop) :
    Except Halt (α × List Token) → Except Halt (β × List Token) → Prop
  | ok {result : α} {result' : β} {rest rest' : List Token} (same : Same result result')
      (tied : List.Forall₂ Tied rest rest') :
      SameOutcome Same (.ok (result, rest)) (.ok (result', rest'))
  | error {halt halt' : Halt} (same : SameHalt Tied halt halt') :
      SameOutcome Same (.error halt) (.error halt')

/-- Two readers that come to the same on tied tokens. -/
def Agree (Same : α → β → Prop) (reader : Reader α) (reader' : Reader β) : Prop :=
  ∀ ⦃tokens tokens' : List Token⦄, List.Forall₂ Tied tokens tokens' →
    SameOutcome Tied Same (reader tokens) (reader' tokens')

/-- A reader that comes to the same result on tied tokens. -/
abbrev Blind (reader : Reader α) : Prop :=
  Agree Tied Eq reader reader

variable {Tied} {Same : α → β → Prop} {Same' : γ → δ → Prop}

namespace Agree

theorem pure {result : α} {result' : β} (same : Same result result') :
    Agree Tied Same (Pure.pure result) (Pure.pure result') :=
  fun _ _ tied => .ok same tied

theorem halt {halt halt' : Halt} (same : SameHalt Tied halt halt') :
    Agree Tied Same (throw halt) (throw halt') :=
  fun _ _ _ => .error same

/-- To refuse tied tokens with the same fault agrees. -/
theorem refuse {token token' : Token} {fault : Fault} (tied : Tied token token')
    (atToken : fault.IsAtToken) :
    Agree Tied Same (Expression.refuse token fault) (Expression.refuse token' fault) :=
  halt (.refused tied atToken)

/-- Readers that agree agree in sequence, if the later ones agree on results that are the same. -/
theorem bind {reader : Reader α} {reader' : Reader β} {following : α → Reader γ}
    {following' : β → Reader δ} (agree : Agree Tied Same reader reader')
    (others : ∀ result result', Same result result' →
      Agree Tied Same' (following result) (following' result')) :
    Agree Tied Same' (reader >>= following) (reader' >>= following') := by
  intro tokens tokens' tied
  change SameOutcome Tied Same'
    (Except.bind (reader tokens) fun taken => following taken.1 taken.2)
    (Except.bind (reader' tokens') fun taken => following' taken.1 taken.2)
  have same := agree tied
  revert same
  generalize reader tokens = outcome
  generalize reader' tokens' = outcome'
  rintro (⟨same, rest⟩ | ⟨same⟩)
  · exact others _ _ same rest
  · exact .error same

/-- Readers that branch on the same condition agree if their branches do. -/
theorem ite {condition : Prop} [Decidable condition] {first second : Reader α}
    {first' second' : Reader β} (yes : condition → Agree Tied Same first first')
    (no : ¬condition → Agree Tied Same second second') :
    Agree Tied Same (if condition then first else second)
      (if condition then first' else second') := by
  by_cases holds : condition
  · simpa only [if_pos holds] using yes holds
  · simpa only [if_neg holds] using no holds

/-- What a blind reader reads may be used further on. -/
theorem bind_blind {reader : Reader α} {following : α → Reader γ} {following' : α → Reader δ}
    (blind : Blind Tied reader)
    (others : ∀ result, Agree Tied Same' (following result) (following' result)) :
    Agree Tied Same' (reader >>= following) (reader >>= following') := by
  refine blind.bind fun result result' same => ?_
  subst same
  exact others result

end Agree

/-! ### Readers of tokens -/

variable (moved : ∀ {token token' : Token}, Tied token token' →
  ∃ offset, token' = { token with offset })

/-- The next tokens of tied lists are tied. -/
theorem agree_next : Agree Tied Tied next next := by
  intro tokens tokens' tied
  cases tied with
  | nil => exact .error .endOfTokens
  | cons first others => exact .ok first others

include moved

/-- To look at the next token is blind, since tied tokens have the same lexeme. -/
theorem blind_sees (text : String) : Blind Tied (sees text) := by
  intro tokens tokens' tied
  cases tied with
  | nil => exact .ok rfl .nil
  | cons first others =>
    obtain ⟨offset, rfl⟩ := moved first
    exact .ok rfl (.cons first others)

/-- To expect a token is blind. -/
theorem blind_expect (wanted : String) : Blind Tied (expect wanted) := by
  refine agree_next.bind fun token token' tied => ?_
  obtain ⟨offset, rfl⟩ := moved tied
  refine .ite (fun isWanted => ?_) fun other => ?_
  · exact .pure rfl
  · exact .refuse tied trivial

/-- Names that are taken off tied lists are tied. -/
theorem agree_name : Agree Tied Tied name name := by
  refine agree_next.bind fun token token' tied => ?_
  obtain ⟨offset, rfl⟩ := moved tied
  refine .ite (fun isName => ?_) fun other => ?_
  · exact .pure tied
  · exact .refuse tied trivial

/-- To take a key is blind. -/
theorem blind_key {fault : String → Fault} (atToken : ∀ text, (fault text).IsAtToken) :
    Blind Tied (key fault) := by
  refine agree_next.bind fun ⟨group, text, place⟩ token' tied => ?_
  obtain ⟨offset, rfl⟩ := moved tied
  cases group with
  | string => exact .pure rfl
  | name => exact .pure rfl
  | number => exact .refuse tied (atToken text)
  | punctuation => exact .refuse tied (atToken text)

/-! ### Lists -/

/-- A pass of the loop over items is blind if the item is. -/
theorem blind_entry {close : String} {item : Reader α} (blind : Blind Tied item) :
    Blind Tied (entry close item) := by
  refine .bind_blind blind fun first => ?_
  refine .bind_blind (blind_sees moved close) fun closed => ?_
  refine .ite (fun goesOn => ?_) fun ends => .pure rfl
  exact .bind_blind (blind_expect moved ",") fun _ => .pure rfl

/-- The loop over items is blind within every bound, if the item is. -/
theorem blind_separated {close : String} {item : Reader α} (blind : Blind Tied item) :
    ∀ bound, Blind Tied (separated close item bound) := by
  intro bound
  induction bound with
  | zero => exact .halt .endOfTokens
  | succ bound hypothesis =>
    refine .bind_blind (blind_sees moved close) fun closed => ?_
    refine .ite (fun isClosed => ?_) fun goesOn => ?_
    · exact .bind_blind (blind_expect moved close) fun _ => .pure rfl
    · refine .bind_blind (blind_entry moved blind) fun first => ?_
      exact .bind_blind hypothesis fun others => .pure rfl

/-- Tied lists are equally long, and so the loop over items has the same bound on both. -/
theorem blind_items {close : String} {item : Reader α} (blind : Blind Tied item) :
    Blind Tied (items close item) := by
  intro tokens tokens' tied
  simpa only [items, tied.length_eq] using blind_separated moved blind tokens'.length tied

/-! ### Values -/

/-- Tied numbers have the same value, or the same excess of digits. -/
theorem agree_numberValue {token token' : Token} (tied : Tied token token')
    (isNumber : token.group = .number) :
    Agree (α := Value) Tied Eq (numberValue token) (numberValue token') := by
  obtain ⟨offset, rfl⟩ := moved tied
  unfold numberValue
  cases read : Numeral.value token.text.toList with
  | ok value => exact .pure rfl
  | error error => exact .halt (.integerTooLong tied isNumber read)

/-- A pair is read blindly if its value is. -/
theorem blind_pair {value : Reader Value} (blind : Blind Tied value) :
    Blind Tied (pair value) := by
  refine .bind_blind (blind_key moved fun _ => trivial) fun name => ?_
  refine .bind_blind (blind_expect moved ":") fun _ => ?_
  exact .bind_blind blind fun held => .pure rfl

/-- Literal values are read blindly at every depth. -/
theorem blind_valueWithin : ∀ depth, Blind Tied (valueWithin depth) := by
  intro depth
  induction depth with
  | zero => exact .halt .endOfTokens
  | succ depth within =>
    refine agree_next.bind fun ⟨group, text, place⟩ token' tied => ?_
    have same := agree_numberValue moved tied
    obtain ⟨offset, rfl⟩ := moved tied
    cases group with
    | number => exact same rfl
    | string => exact .pure rfl
    | name =>
      have refused : Agree Tied Eq (refuse (α := Value) _ (.expectedLiteral text)) (refuse _ _) :=
        .refuse tied trivial
      cases constant : constant? text with
      | some value => simpa only [constant] using .pure rfl
      | none => simpa only [constant] using refused
    | punctuation =>
      refine .ite (fun _ => ?list) fun _ => .ite (fun _ => ?dict) fun _ => .refuse tied trivial
      case list => exact .bind_blind (blind_items moved within) fun items => .pure rfl
      case dict =>
        have paired := blind_pair moved within
        exact .bind_blind (blind_items moved paired) fun entries => .pure rfl

theorem blind_value : Blind Tied value := by
  intro tokens tokens' tied
  simpa only [value, tied.length_eq] using blind_valueWithin moved tokens'.length tied

/-! ### Schemas -/

/-- A field is read blindly if its schema is. -/
theorem blind_member {schema : Reader Schema} (blind : Blind Tied schema) :
    Blind Tied (member schema) := by
  refine .bind_blind (blind_key moved fun _ => trivial) fun name => ?_
  refine .bind_blind (blind_sees moved "?") fun marked => ?_
  refine .ite (fun isMarked => ?_) fun bare => ?_
  · refine agree_next.bind fun _ _ _ => ?_
    refine .bind_blind (blind_expect moved ":") fun _ => ?_
    exact .bind_blind blind fun held => .pure rfl
  · refine .bind_blind (blind_expect moved ":") fun _ => ?_
    exact .bind_blind blind fun held => .pure rfl

/-- Tied constructors have the same arguments. -/
theorem agree_arguments {schema : Reader Schema} (blind : Blind Tied schema)
    {constructor constructor' : Token} (tied : Tied constructor constructor') :
    Agree Tied Eq (arguments (partsOf schema) constructor)
      (arguments (partsOf schema) constructor') := by
  have refused {α : Type} (fault : Fault) (atToken : fault.IsAtToken) :
      Agree Tied (α := α) Eq (refuse constructor fault) (refuse constructor' fault) :=
    .refuse tied atToken
  obtain ⟨offset, rfl⟩ := moved tied
  unfold arguments
  cases simple : simpleShape? constructor.text with
  | some shape => exact .pure rfl
  | none =>
    refine .ite (fun _ => ?array) fun _ => .ite (fun _ => ?record) fun _ =>
      .ite (fun _ => ?object) fun _ => .ite (fun _ => ?enum) fun _ =>
      .ite (fun _ => ?union) fun _ => .ite (fun _ => ?literal) fun _ =>
      .ite (fun _ => ?instanceof) fun _ => refused _ trivial
    case array => exact .bind_blind blind fun _ => .pure rfl
    case record =>
      refine .bind_blind blind fun first => .bind_blind (blind_sees moved ",") fun more =>
        .ite (fun _ => ?_) fun _ => .pure rfl
      exact agree_next.bind fun _ _ _ => .bind_blind blind fun _ => .pure rfl
    case object =>
      exact .bind_blind (blind_expect moved _) fun _ =>
        .bind_blind (blind_items moved (blind_member moved blind)) fun _ => .pure rfl
    case enum =>
      refine .bind_blind (blind_expect moved "[") fun _ =>
        .bind_blind (blind_items moved (blind_value moved)) fun options => ?_
      exact .ite (fun _ => refused _ trivial) fun _ => .pure rfl
    case union =>
      exact .bind_blind (blind_expect moved "[") fun _ =>
        .bind_blind (blind_items moved blind) fun _ => .pure rfl
    case literal => exact .bind_blind (blind_value moved) fun _ => .pure rfl
    case instanceof =>
      refine (agree_name moved).bind fun target target' tied => ?_
      obtain ⟨offset, rfl⟩ := moved tied
      exact .ite (fun _ => .pure rfl) fun _ => refused _ trivial

/-- A constructor is read blindly if schemas are. -/
theorem blind_construction {schema : Reader Schema} (blind : Blind Tied schema) :
    Blind Tied (construction (partsOf schema)) := by
  refine (agree_name moved).bind fun constructor constructor' tied => ?_
  refine .bind_blind (blind_expect moved "(") fun _ => ?_
  refine (agree_arguments moved blind tied).bind fun shape shape' same => ?_
  subst same
  exact .bind_blind (blind_expect moved ")") fun _ => .pure rfl

/-- Tied methods set the same mode or are refused alike. -/
theorem agree_setMode {method method' : Token} (tied : Tied method method') (schema : Schema)
    (mode : ObjectMode) :
    Agree Tied Eq (setMode method schema mode) (setMode method' schema mode) := by
  have refused : Agree Tied (α := Schema) Eq (refuse method (.objectsOnly method.text))
      (refuse method' (.objectsOnly method.text)) := .refuse tied trivial
  obtain ⟨offset, rfl⟩ := moved tied
  unfold setMode
  split
  · exact .pure rfl
  · exact refused

/-- Tied methods make the same of a schema. -/
theorem agree_application (schema : Schema) {method method' : Token}
    (tied : Tied method method') :
    Agree Tied Eq (application value schema method) (application value schema method') := by
  have modes := agree_setMode moved tied schema
  have refused (fault : Fault) (atToken : fault.IsAtToken) :
      Agree Tied (α := Schema) Eq (refuse method fault) (refuse method' fault) :=
    .refuse tied atToken
  obtain ⟨offset, rfl⟩ := moved tied
  refine .ite (fun _ => .pure rfl) fun _ => .ite (fun _ => ?size) fun _ =>
    .ite (fun _ => .pure rfl) fun _ => .ite (fun _ => .pure rfl) fun _ =>
    .ite (fun _ => ?default) fun _ => .ite (fun _ => modes .strict) fun _ =>
    .ite (fun _ => modes .passthrough) fun _ => refused _ trivial
  case size =>
    exact .bind_blind (blind_value moved) fun _ =>
      .ite (fun _ => .pure rfl) fun _ => refused _ trivial
  case default => exact .bind_blind (blind_value moved) fun _ => .pure rfl

/-- A method is read blindly. -/
theorem blind_method (schema : Schema) : Blind Tied (method value schema) := by
  refine (agree_name moved).bind fun method method' tied => ?_
  refine .bind_blind (blind_expect moved "(") fun _ => ?_
  refine (agree_application moved schema tied).bind fun made made' same => ?_
  exact .bind_blind (blind_expect moved ")") fun _ => .pure same

theorem blind_step (schema : Schema) : Blind Tied (step (method value) schema) := by
  refine agree_next.bind fun _ _ _ => ?_
  exact blind_method moved schema

/-- The loop over methods is blind within every bound. -/
theorem blind_methods : ∀ bound schema, Blind Tied (methods bound schema) := by
  intro bound
  induction bound with
  | zero =>
    intro schema
    exact .pure rfl
  | succ bound hypothesis =>
    intro schema
    refine .bind_blind (blind_sees moved ".") fun pointed => ?_
    refine .ite (fun isPointed => ?_) fun ends => .pure rfl
    exact .bind_blind (blind_step moved schema) fun made => hypothesis made

/-- Methods are read blindly. -/
theorem blind_allMethods (schema : Schema) : Blind Tied (allMethods schema) := by
  intro tokens tokens' tied
  simpa only [allMethods, tied.length_eq] using
    blind_methods moved tokens'.length schema tied

/-- Expressions are read blindly at every depth. -/
theorem blind_schemaWithin : ∀ depth, Blind Tied (schemaWithin depth) := by
  intro depth
  induction depth with
  | zero => exact .halt .endOfTokens
  | succ depth within =>
    refine (agree_name moved).bind fun root root' tied => ?_
    have refused : Agree Tied (α := Schema) Eq (refuse root .withoutRoot)
        (refuse root' .withoutRoot) := .refuse tied trivial
    obtain ⟨offset, rfl⟩ := moved tied
    refine .ite (fun isRoot => ?_) fun other => refused
    refine .bind_blind (blind_expect moved ".") fun _ => ?_
    refine .bind_blind (blind_construction moved within) fun schema => ?_
    exact blind_allMethods moved schema

/-! ### Whole expressions -/

/-- Two outcomes for whole lists of tokens: the same schema, or halts for the same cause. -/
inductive SameReading (Tied : Token → Token → Prop) :
    Except Halt Schema → Except Halt Schema → Prop
  | ok (schema : Schema) : SameReading Tied (.ok schema) (.ok schema)
  | error {halt halt' : Halt} (same : SameHalt Tied halt halt') :
      SameReading Tied (.error halt) (.error halt')

/-- Expressions with the same lexemes are read as the same schema or refused at the same place. -/
theorem whole_located {tokens tokens' : List Token} (tied : List.Forall₂ Tied tokens tokens') :
    SameReading Tied (whole tokens) (whole tokens') := by
  have same := blind_schemaWithin moved tokens.length tied
  unfold whole
  simp only [StateT.run]
  rw [← tied.length_eq]
  revert same
  generalize schemaWithin tokens.length tokens = outcome
  generalize schemaWithin tokens.length tokens' = outcome'
  rintro (⟨rfl, rest⟩ | ⟨same⟩)
  · cases rest with
    | nil => exact .ok _
    | cons first others => exact .error (.refused first trivial)
  · exact .error same

end Agree

end TableSchema.Expression
