import TableSchema.Expression.Body

/-! # Reading with a cursor

A walk reads a list of tokens with a cursor. The cursor may stand anywhere, also behind the last
token. It moves behind each token that is taken, and a walk that fails leaves it behind the last
token it took.

The walks of expressions run the programs that the readers run. They call one another as the grammar
nests, and their loops go on until they see what ends them; no walk counts what is left. `Walk.body`
says what a call does in terms of the calls it makes. `Walk.within` cuts calls off that nest too
deep: they come to nothing. A call ends if it comes to something at some depth (`Call.Ends`), and
that is then what it comes to at every greater depth (`Walk.within_of_le`).
-/

namespace TableSchema

namespace Expression

/-- Reads tokens at a cursor. A failure leaves the cursor where it is, and `none` is what a walk
comes to that is cut off. -/
abbrev Walk : Type → Type :=
  ReaderT (List Token) (ExceptT Halt (StateT Nat Option))

instance : Cursor Walk where
  next := fun tokens place =>
    match tokens[place]? with
    | none => some (.error .endOfTokens, place)
    | some token => some (.ok token, place + 1)
  sees text := fun tokens place => some (.ok (tokens[place]?.any (isWord text)), place)

namespace Walk

/-! ### Calls -/

/-- What stands in a list. -/
inductive Item where
  | schema
  | member
  | value
  | pair

/-- What an item is read as. -/
abbrev Item.Result : Item → Type
  | .schema => Schema
  | .member => String × Schema
  | .value => Value
  | .pair => String × Value

/-- The calls that walks make. -/
inductive Call where
  /-- An item by itself. -/
  | single (item : Item)
  /-- A constructor with its arguments. -/
  | construction
  /-- A method with its arguments, applied to a schema. -/
  | method (schema : Schema)
  /-- The loop over the methods that follow a schema. -/
  | methods (schema : Schema)
  /-- One pass of the loop over methods: a point and a method. -/
  | step (schema : Schema)
  /-- The loop over the items of a list, up to its closing token. -/
  | items (close : String) (item : Item)
  /-- One pass of the loop over items: an item, and a comma unless the list ends behind it. -/
  | entry (close : String) (item : Item)

/-- What a call gives. -/
abbrev Call.Result : Call → Type
  | .single item => item.Result
  | .construction => Schema
  | .method _ => Schema
  | .methods _ => Schema
  | .step _ => Schema
  | .items _ item => List item.Result
  | .entry _ item => item.Result

/-- A walk for each call. -/
abbrev Calls : Type :=
  (call : Call) → Walk call.Result

section Bodies

variable (calls : Calls)

/-- The calls that read the arguments of constructors. -/
def parts : Parts Walk where
  schema := calls (.single .schema)
  value := calls (.single .value)
  members := calls (.items "\x7d" .member)
  options := calls (.items "]" .value)
  variants := calls (.items "]" .schema)

/-- What a call does, in terms of the calls it makes. -/
def body : Calls
  | .single .schema => rooted (calls .construction) fun base => calls (.methods base)
  | .single .member => member (calls (.single .schema))
  | .single .value => literal (calls (.items "]" .value)) (calls (.items "\x7d" .pair))
  | .single .pair => pair (calls (.single .value))
  | .construction => construction (parts calls)
  | .method schema => method (calls (.single .value)) schema
  | .methods schema =>
    methodLoop (fun schema => calls (.step schema)) (fun made => calls (.methods made)) schema
  | .step schema => step (fun schema => calls (.method schema)) schema
  | .items close item => itemLoop close (calls (.entry close item)) (calls (.items close item))
  | .entry close item => entry close (calls (.single item))

end Bodies

/-- Calls that may nest so deep, each pass of a loop within the one before it. -/
def within : Nat → Calls
  | 0 => fun _ _ _ => none
  | depth + 1 => body (within depth)

/-- A call ends with an outcome, and with the cursor at a place. -/
def Call.Ends (tokens : List Token) (place : Nat) (call : Call)
    (outcome : Except Halt call.Result) (stop : Nat) : Prop :=
  ∃ depth, within depth call tokens place = some (outcome, stop)

/-! ### One walk after another -/

section Sequence

variable {α β : Type} {tokens : List Token} {place middle stop : Nat} {walk walk' : Walk α}
  {following following' : α → Walk β}

/-- Where a walk succeeds, the next one goes on from there. -/
theorem bind_of_ok {result : α} (walked : walk tokens place = some (.ok result, middle)) :
    (walk >>= following) tokens place = following result tokens middle := by
  change Option.bind (walk tokens place) _ = _
  rw [walked]
  rfl

/-- Where a walk fails, no other follows. -/
theorem bind_of_error {halt : Halt} (walked : walk tokens place = some (.error halt, stop)) :
    (walk >>= following) tokens place = some (.error halt, stop) := by
  change Option.bind (walk tokens place) _ = _
  rw [walked]
  rfl

/-- To look at the next token moves nothing. -/
theorem sees_bind {text : String} {following : Bool → Walk β} :
    (sees text >>= following) tokens place =
      following (tokens[place]?.any (isWord text)) tokens place := rfl

/-- Whatever one walk comes to, the other comes to. -/
def Below (walk walk' : Walk α) : Prop :=
  ∀ ⦃tokens place ended⦄, walk tokens place = some ended → walk' tokens place = some ended

/-- A walk comes to what it comes to. -/
theorem Below.refl (walk : Walk α) : Below walk walk :=
  fun _ _ _ walked => walked

/-- Walks in a row come to what both come to. -/
theorem Below.bind (below : Below walk walk')
    (others : ∀ result, Below (following result) (following' result)) :
    Below (walk >>= following) (walk' >>= following') := by
  intro tokens place ended walked
  cases first : walk tokens place with
  | none =>
    change Option.bind (walk tokens place) _ = _ at walked
    rw [first] at walked
    cases walked
  | some found =>
    obtain ⟨outcome, middle⟩ := found
    cases outcome with
    | error halt =>
      rw [bind_of_error first] at walked
      exact (bind_of_error (below first)).trans walked
    | ok result =>
      rw [bind_of_ok first] at walked
      exact (bind_of_ok (below first)).trans (others result walked)

/-- Walks that branch on the same condition come to what their branches come to. -/
theorem Below.ite {condition : Prop} [Decidable condition] {other other' : Walk α}
    (yes : Below walk walk') (no : Below other other') :
    Below (if condition then walk else other) (if condition then walk' else other') := by
  by_cases holds : condition
  · simpa only [if_pos holds] using yes
  · simpa only [if_neg holds] using no

end Sequence

/-! ### Deeper calls

A program of the grammar comes to whatever it comes to with its parts cut off earlier. -/

section Deeper

/-- A literal value comes to more where its lists and dictionaries do. -/
theorem literal_below {values values' : Walk (List Value)}
    {pairs pairs' : Walk (List (String × Value))} (list : Below values values')
    (dict : Below pairs pairs') : Below (literal values pairs) (literal values' pairs') := by
  refine .bind (.refl _) fun token => ?_
  cases token.group with
  | number => exact .refl _
  | string => exact .refl _
  | name => exact .refl _
  | punctuation =>
    refine .ite ?list (.ite ?dict (.refl _))
    case list => exact .bind list fun _ => .refl _
    case dict => exact .bind dict fun _ => .refl _

/-- A pair comes to more where its value does. -/
theorem pair_below {value value' : Walk Value} (below : Below value value') :
    Below (pair value) (pair value') :=
  .bind (.refl _) fun _ => .bind (.refl _) fun _ => .bind below fun _ => .refl _

/-- A field comes to more where its schema does. -/
theorem member_below {schema schema' : Walk Schema} (below : Below schema schema') :
    Below (member schema) (member schema') := by
  refine .bind (.refl _) fun name => .bind (.refl _) fun marked => .ite ?_ ?_
  · exact .bind (.refl _) fun _ => .bind (.refl _) fun _ => .bind below fun _ => .refl _
  · exact .bind (.refl _) fun _ => .bind below fun _ => .refl _

/-- An expression comes to more where its constructor and its methods do. -/
theorem rooted_below {construction construction' : Walk Schema}
    {methods methods' : Schema → Walk Schema} (base : Below construction construction')
    (others : ∀ schema, Below (methods schema) (methods' schema)) :
    Below (rooted construction methods) (rooted construction' methods') := by
  refine .bind (.refl _) fun root => .ite ?_ (.refl _)
  exact .bind (.refl _) fun _ => .bind base others

/-- The arguments of a method come to more where values do. -/
theorem application_below {value value' : Walk Value} (below : Below value value')
    (schema : Schema) (method : Token) :
    Below (application value schema method) (application value' schema method) := by
  refine .ite (.refl _) (.ite ?size (.ite (.refl _) (.ite (.refl _) (.ite ?default (.refl _)))))
  case size => exact .bind below fun _ => .refl _
  case default => exact .bind below fun _ => .refl _

/-- A method comes to more where values do. -/
theorem method_below {value value' : Walk Value} (below : Below value value') (schema : Schema) :
    Below (method value schema) (method value' schema) := by
  refine .bind (.refl _) fun token => .bind (.refl _) fun _ => ?_
  exact .bind (application_below below schema token) fun _ => .refl _

/-- The loop over methods comes to more where its passes do. -/
theorem methodLoop_below {step step' others others' : Schema → Walk Schema}
    (first : ∀ schema, Below (step schema) (step' schema))
    (rest : ∀ schema, Below (others schema) (others' schema)) (schema : Schema) :
    Below (methodLoop step others schema) (methodLoop step' others' schema) :=
  .bind (.refl _) fun _ => .ite (.bind (first schema) rest) (.refl _)

/-- A pass of the loop over items comes to more where the item does. -/
theorem entry_below {α : Type} {item item' : Walk α} (close : String) (below : Below item item') :
    Below (entry close item) (entry close item') :=
  .bind below fun _ => .refl _

/-- The loop over items comes to more where its passes do. -/
theorem itemLoop_below {α : Type} {entry entry' : Walk α} {others others' : Walk (List α)}
    (close : String) (first : Below entry entry') (rest : Below others others') :
    Below (itemLoop close entry others) (itemLoop close entry' others') := by
  refine .bind (.refl _) fun closed => .ite (.refl _) ?_
  exact .bind first fun _ => .bind rest fun _ => .refl _

variable {calls calls' : Calls} (below : ∀ call, Below (calls call) (calls' call))

include below

/-- The arguments of a constructor come to more where the calls that read them do. -/
theorem arguments_below (constructor : Token) :
    Below (arguments (parts calls) constructor) (arguments (parts calls') constructor) := by
  unfold arguments
  cases simpleShape? constructor.text with
  | some shape => exact .refl _
  | none =>
    refine .ite ?array (.ite ?record (.ite ?object (.ite ?enum (.ite ?union (.ite ?literal
      (.refl _))))))
    case array => exact .bind (below _) fun _ => .refl _
    case record =>
      refine .bind (below _) fun _ => .bind (.refl _) fun _ => .ite ?_ (.refl _)
      exact .bind (.refl _) fun _ => .bind (below _) fun _ => .refl _
    case object => exact .bind (.refl _) fun _ => .bind (below _) fun _ => .refl _
    case enum => exact .bind (.refl _) fun _ => .bind (below _) fun _ => .refl _
    case union => exact .bind (.refl _) fun _ => .bind (below _) fun _ => .refl _
    case literal => exact .bind (below _) fun _ => .refl _

/-- A constructor comes to more where the calls that read its arguments do. -/
theorem construction_below :
    Below (construction (parts calls)) (construction (parts calls')) := by
  refine .bind (.refl _) fun constructor => .bind (.refl _) fun _ => ?_
  exact .bind (arguments_below below constructor) fun _ => .refl _

/-- Where calls come to more, so does the body of each call. -/
theorem body_below (call : Call) : Below (body calls call) (body calls' call) := by
  cases call with
  | single item =>
    cases item with
    | schema => exact rooted_below (below _) fun base => below (.methods base)
    | member => exact member_below (below _)
    | value => exact literal_below (below _) (below _)
    | pair => exact pair_below (below _)
  | construction => exact construction_below below
  | method schema => exact method_below (below _) schema
  | methods schema =>
    exact methodLoop_below (fun schema => below (.step schema)) (fun made => below (.methods made))
      schema
  | step schema => exact .bind (.refl _) fun _ => below _
  | items close item => exact itemLoop_below close (below _) (below _)
  | entry close item => exact entry_below close (below _)

end Deeper

/-- What a call comes to at some depth, it comes to at every greater depth. -/
theorem within_of_le {depth : Nat} : ∀ {depth'}, depth ≤ depth' → ∀ call,
    Below (within depth call) (within depth' call) := by
  -- One more depth opens one body, whose calls the hypothesis compares.
  induction depth with
  | zero =>
    intro depth' _ call tokens place ended walked
    cases walked
  | succ depth hypothesis =>
    intro depth' deeper call
    obtain ⟨depth', rfl⟩ := Nat.exists_eq_add_of_lt deeper
    exact body_below (hypothesis (Nat.le_add_right _ _)) call

/-- A call ends in one way at most. -/
theorem Call.Ends.unique {tokens : List Token} {place stop stop' : Nat} {call : Call}
    {outcome outcome' : Except Halt call.Result} (ends : call.Ends tokens place outcome stop)
    (ends' : call.Ends tokens place outcome' stop') : outcome = outcome' ∧ stop = stop' := by
  obtain ⟨depth, walked⟩ := ends
  obtain ⟨depth', walked'⟩ := ends'
  have deep := within_of_le (Nat.le_max_left depth depth') call walked
  have deep' := within_of_le (Nat.le_max_right depth depth') call walked'
  simpa using deep.symm.trans deep'

end Walk

end Expression

end TableSchema
