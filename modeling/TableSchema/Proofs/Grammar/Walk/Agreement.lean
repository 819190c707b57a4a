import TableSchema.Expression
import TableSchema.Proofs.Grammar.Walk

/-! # Walks come to what is read

A walk and a reader are compared from a place on. They come to the same (`Meets`), and the cursor
stops where it may: a walk that advances takes a token at least, or fails because there is none.
Behind each token that is taken, less is left to compare.

Two calls may begin at the same place only if the second is of a lower rank: a loop over items makes
a pass, and the pass reads an item. Three calls for each token left are therefore deep enough, and
then each call comes to what is read off the tokens left (`Expression.serves_call`).
-/

namespace TableSchema

namespace Expression

variable {α β : Type} {tokens : List Token} {start place middle stop : Nat}
  {outcome : Except Halt α} {walk : Walk α} {reader : Reader α}

/-- At a place, a walk ends with an outcome, and a reader comes to it on the tokens left. -/
structure Agrees (tokens : List Token) (place : Nat) (walk : Walk α) (reader : Reader α)
    (outcome : Except Halt α) (stop : Nat) : Prop where
  walks : walk tokens place = some (outcome, stop)
  reads : reader (tokens.drop place) = outcome.map (·, tokens.drop stop)

/-- The cursor has moved neither back nor beyond the end of the tokens. -/
def Keeps (tokens : List Token) (place stop : Nat) : Prop :=
  place ≤ stop ∧ stop ≤ max place tokens.length

/-- The cursor has moved behind at least one token; or there was none, and that is the outcome. -/
inductive Moves (tokens : List Token) (place : Nat) : Except Halt α → Nat → Prop
  | ahead {outcome : Except Halt α} {stop : Nat} (forward : place < stop)
      (inside : stop ≤ tokens.length) : Moves tokens place outcome stop
  | exhausted (atEnd : tokens.length ≤ place) : Moves tokens place (.error .endOfTokens) place

/-- From a place on, a walk and a reader come to the same, and the cursor stops as it should. -/
def Meets (tokens : List Token) (start : Nat) (Stops : Nat → Except Halt α → Nat → Prop)
    (walk : Walk α) (reader : Reader α) : Prop :=
  ∀ place, start ≤ place → ∃ outcome stop,
    Agrees tokens place walk reader outcome stop ∧ Stops place outcome stop

/-- The walk comes to the same as the reader. -/
abbrev Follows (tokens : List Token) (start : Nat) (walk : Walk α) (reader : Reader α) : Prop :=
  Meets tokens start (fun place _ stop => Keeps tokens place stop) walk reader

/-- The walk comes to the same as the reader, and it takes a token if there is one. -/
abbrev Advances (tokens : List Token) (start : Nat) (walk : Walk α) (reader : Reader α) : Prop :=
  Meets tokens start (Moves tokens) walk reader

theorem Keeps.refl : Keeps tokens place place :=
  ⟨Nat.le_refl place, Nat.le_max_left ..⟩

/-- Moves within the tokens add up to one. -/
theorem Keeps.trans (first : Keeps tokens place middle) (others : Keeps tokens middle stop) :
    Keeps tokens place stop := by
  unfold Keeps at *
  omega

/-- To take a token is to stay within the tokens. -/
theorem Moves.keeps (moved : Moves tokens place outcome stop) : Keeps tokens place stop := by
  cases moved with
  | ahead forward inside => exact ⟨Nat.le_of_lt forward, Nat.le_trans inside (Nat.le_max_right ..)⟩
  | exhausted => exact .refl

/-! ### One walk after another -/

section Sequence

variable {following : α → Walk β} {following' : α → Reader β} {outcome' : Except Halt β}

/-- Where the first step fails, nothing follows in the walk nor in the reader. -/
theorem Agrees.bind_error {halt : Halt}
    (first : Agrees tokens place walk reader (.error halt) stop) :
    Agrees tokens place (walk >>= following) (reader >>= following') (.error halt) stop where
  walks := Walk.bind_of_error first.walks
  reads := by
    change Except.bind (reader (tokens.drop place)) _ = _
    rw [first.reads]
    rfl

/-- Where the first step succeeds, the walk and the reader go on from where the cursor then stands.
-/
theorem Agrees.bind_ok {result : α} (first : Agrees tokens place walk reader (.ok result) middle)
    (others : Agrees tokens middle (following result) (following' result) outcome' stop) :
    Agrees tokens place (walk >>= following) (reader >>= following') outcome' stop where
  walks := (Walk.bind_of_ok first.walks).trans others.walks
  reads := by
    change Except.bind (reader (tokens.drop place)) _ = _
    rw [first.reads]
    exact others.reads

/-- A walk and a reader that branch on the same condition meet if their branches do. -/
theorem Meets.ite {Stops : Nat → Except Halt α → Nat → Prop} {condition : Prop}
    [Decidable condition] {first second : Walk α} {first' second' : Reader α}
    (yes : Meets tokens start Stops first first') (no : Meets tokens start Stops second second') :
    Meets tokens start Stops (if condition then first else second)
      (if condition then first' else second') := by
  by_cases holds : condition
  · simpa only [if_pos holds] using yes
  · simpa only [if_neg holds] using no

theorem Meets.pure (result : α) : Follows tokens start (Pure.pure result) (Pure.pure result) :=
  fun place _ => ⟨.ok result, place, ⟨rfl, rfl⟩, .refl⟩

theorem Meets.throw (halt : Halt) :
    Follows tokens start (throw halt : Walk α) (throw halt : Reader α) :=
  fun place _ => ⟨.error halt, place, ⟨rfl, rfl⟩, .refl⟩

theorem Meets.refuse (token : Token) (fault : Fault) :
    Follows tokens start (refuse token fault : Walk α) (refuse token fault : Reader α) :=
  .throw _

/-- Walks that follow readers, one after another, follow them in sequence. -/
theorem Follows.bind (first : Follows tokens start walk reader)
    (others : ∀ result, Follows tokens start (following result) (following' result)) :
    Follows tokens start (walk >>= following) (reader >>= following') := by
  intro place later
  obtain ⟨outcome, middle, agrees, kept⟩ := first place later
  cases outcome with
  | error halt => exact ⟨_, middle, agrees.bind_error, kept⟩
  | ok result =>
    obtain ⟨outcome, stop, agrees', kept'⟩ := others result middle (Nat.le_trans later kept.1)
    exact ⟨outcome, stop, agrees.bind_ok agrees', kept.trans kept'⟩

namespace Advances

/-- A walk that advances follows its reader. -/
theorem follows (advances : Advances tokens start walk reader) :
    Follows tokens start walk reader := by
  intro place later
  obtain ⟨outcome, stop, agrees, moved⟩ := advances place later
  exact ⟨outcome, stop, agrees, moved.keeps⟩

/-- Once the first walk has taken a token, the others need not take any. -/
theorem bind (first : Advances tokens start walk reader)
    (others : ∀ result, start < tokens.length →
      Follows tokens (start + 1) (following result) (following' result)) :
    Advances tokens start (walk >>= following) (reader >>= following') := by
  intro place later
  obtain ⟨outcome, middle, agrees, moved⟩ := first place later
  cases moved with
  | exhausted atEnd => exact ⟨_, place, agrees.bind_error, .exhausted atEnd⟩
  | ahead forward inside =>
    cases outcome with
    | error halt => exact ⟨_, middle, agrees.bind_error, .ahead forward inside⟩
    | ok result =>
      obtain ⟨outcome, stop, agrees', forward', inside'⟩ :=
        others result (by omega) middle (by omega)
      exact ⟨outcome, stop, agrees.bind_ok agrees', .ahead (by omega) (by omega)⟩

/-- Where no token is left, a walk that advances fails for that. -/
theorem exhausted (advances : Advances tokens start walk reader) (later : start ≤ place)
    (atEnd : tokens.length ≤ place) :
    walk tokens place = some (.error .endOfTokens, place) := by
  obtain ⟨outcome, stop, agrees, moved⟩ := advances place later
  cases moved with
  | ahead forward inside => omega
  | exhausted => exact agrees.walks

/-- Where no token is left, it does not matter what a reader would do with one. -/
theorem bind_atEnd (first : Advances tokens start walk reader) (atEnd : tokens.length ≤ start) :
    Advances tokens start (walk >>= following) (throw .endOfTokens) := by
  intro place later
  have atEnd : tokens.length ≤ place := Nat.le_trans atEnd later
  exact ⟨_, place, ⟨Walk.bind_of_error (first.exhausted later atEnd), rfl⟩, .exhausted atEnd⟩

end Advances

end Sequence

/-! ### Walks of single tokens -/

/-- The next token is taken off the list as at the cursor. -/
theorem advances_next : Advances tokens start (next : Walk Token) (next : Reader Token) := by
  intro place _
  by_cases inside : place < tokens.length
  · have split : tokens.drop place = tokens[place] :: tokens.drop (place + 1) :=
      List.drop_eq_getElem_cons inside
    refine ⟨.ok tokens[place], place + 1, ⟨?_, ?_⟩, .ahead (Nat.lt_succ_self place) inside⟩
    · simp [next, inside]
    · rw [split]
      rfl
  · have atEnd : tokens.length ≤ place := Nat.le_of_not_lt inside
    refine ⟨.error .endOfTokens, place, ⟨?_, ?_⟩, .exhausted atEnd⟩
    · simp [next, atEnd]
    · rw [List.drop_eq_nil_of_le atEnd]
      rfl

section Seeing

variable {text : String} {following : Bool → Walk α} {following' : Bool → Reader α}

/-- A walk sees at its cursor what a reader sees in front of the tokens left. -/
theorem Agrees.sees_bind
    (others : Agrees tokens place (following (tokens[place]?.any (isWord text)))
      (following' (tokens[place]?.any (isWord text))) outcome stop) :
    Agrees tokens place (sees text >>= following) (sees text >>= following') outcome stop where
  walks := others.walks
  reads := by
    change following' ((tokens.drop place).head?.any (isWord text)) (tokens.drop place) = _
    rw [List.head?_drop]
    exact others.reads

/-- A walk and a reader that look at the next token and then meet, whatever it is, meet as a whole.
-/
theorem Meets.sees_bind {Stops : Nat → Except Halt α → Nat → Prop}
    (others : ∀ seen, Meets tokens start Stops (following seen) (following' seen)) :
    Meets tokens start Stops (sees text >>= following) (sees text >>= following') := by
  intro place later
  obtain ⟨outcome, stop, agrees, stops⟩ := others (tokens[place]?.any (isWord text)) place later
  exact ⟨outcome, stop, agrees.sees_bind, stops⟩

end Seeing

/-- A walk and a reader that expect the same token take it, or refuse the one that stands there. -/
theorem advances_expect (wanted : String) :
    Advances tokens start (expect wanted : Walk Unit) (expect wanted : Reader Unit) := by
  refine advances_next.bind fun token inside => ?_
  exact .ite (.pure ()) (.refuse token _)

theorem advances_name : Advances tokens start (name : Walk Token) (name : Reader Token) := by
  refine advances_next.bind fun token inside => ?_
  exact .ite (.pure token) (.refuse token _)

/-- A walk and a reader that expect a key take the same one. -/
theorem advances_key (fault : String → Fault) :
    Advances tokens start (key fault : Walk String) (key fault : Reader String) := by
  refine advances_next.bind fun ⟨group, text, place⟩ _ => ?_
  cases group with
  | string => exact .pure _
  | name => exact .pure _
  | number => exact .refuse _ _
  | punctuation => exact .refuse _ _

/-- The value of a number is the same, or too long, in the walk and the reader. -/
theorem follows_numberValue (token : Token) :
    Follows tokens start (numberValue token : Walk Value) (numberValue token : Reader Value) := by
  unfold numberValue
  cases Numeral.value token.text.toList with
  | ok value => exact .pure value
  | error error => exact .throw _

/-- A mode is set or refused alike in the walk and the reader. -/
theorem follows_setMode (method : Token) (schema : Schema) (mode : ObjectMode) :
    Follows tokens start (setMode method schema mode : Walk Schema)
      (setMode method schema mode : Reader Schema) := by
  unfold setMode
  cases schema.shape with
  | object fields => exact .pure _
  | _ => exact .refuse _ _

/-! ### Calls -/

/-- Where a call may leave the cursor. The loop over methods need not make any pass. -/
def Walk.Call.Stops (tokens : List Token) :
    (call : Walk.Call) → Nat → Except Halt call.Result → Nat → Prop
  | .methods _ => fun place _ stop => Keeps tokens place stop
  | _ => Moves tokens

/-- Wherever a call may stop, the cursor has stayed within the tokens. -/
theorem Walk.Call.Stops.keeps {call : Walk.Call} {outcome : Except Halt call.Result}
    (stops : call.Stops tokens place outcome stop) : Keeps tokens place stop := by
  cases call with
  | methods schema => exact stops
  | _ => exact Moves.keeps stops

/-- From a place on, a call comes to the same as a reader, if calls may nest deep enough: three for
each token left, and those that begin where it begins. -/
def Serves (tokens : List Token) (start rank : Nat) (call : Walk.Call)
    (reader : Reader call.Result) : Prop :=
  ∀ place, start ≤ place → ∀ depth, 3 * (tokens.length - place) + rank ≤ depth →
    Meets tokens place (call.Stops tokens) (Walk.within depth call) reader

namespace Serves

variable {rank depth : Nat} {call : Walk.Call} {reader : Reader call.Result}

/-- A call comes to what is read if its body does with one call less to go. -/
theorem of_body (meets : ∀ place, start ≤ place → ∀ depth,
    3 * (tokens.length - place) + rank ≤ depth →
      Meets tokens place (call.Stops tokens) (Walk.body (Walk.within depth) call) reader) :
    Serves tokens start (rank + 1) call reader := by
  intro place later depth deep
  cases depth with
  | zero => omega
  | succ depth => exact meets place later depth (by omega)

theorem mono (serves : Serves tokens start rank call reader) (later : start ≤ middle) :
    Serves tokens middle rank call reader :=
  fun place behind => serves place (Nat.le_trans later behind)

theorem weaken {rank' : Nat} (serves : Serves tokens start rank call reader)
    (more : rank ≤ rank') : Serves tokens start rank' call reader :=
  fun place later depth deep => serves place later depth (by omega)

/-- A call that serves follows its reader at every depth that is enough. -/
theorem follows (serves : Serves tokens start rank call reader) (later : start ≤ place)
    (deep : 3 * (tokens.length - place) + rank ≤ depth) :
    Follows tokens place (Walk.within depth call) reader := by
  intro place' later'
  obtain ⟨outcome, stop, agrees, stops⟩ := serves place later depth deep place' later'
  exact ⟨outcome, stop, agrees, stops.keeps⟩

/-- A reader with a bound that is never felt may take the number of tokens left for it. -/
theorem of_bounded {readers : Nat → Reader call.Result}
    (bounded : ∀ place, start ≤ place → ∀ bound, tokens.length ≤ place + bound →
      Serves tokens place rank call (readers bound)) :
    Serves tokens start rank call fun tokens => readers tokens.length tokens := by
  intro place later depth deep place' later'
  have enough : tokens.length ≤ place' + (tokens.drop place').length := by
    rw [List.length_drop]
    omega
  obtain ⟨outcome, stop, agrees, stops⟩ := bounded place' (by omega) _ enough place'
    (Nat.le_refl place') depth (by omega) place' (Nat.le_refl place')
  exact ⟨outcome, stop, ⟨agrees.walks, agrees.reads⟩, stops⟩

end Serves

/-! ### Lists -/

section Lists

variable {item : Walk.Item} {reader : Reader item.Result}

/-- A pass of the loop over items comes to what is read for it. -/
theorem serves_entry (close : String) (single : Serves tokens start 1 (.single item) reader) :
    Serves tokens start 2 (.entry close item) (entry close reader) := by
  refine .of_body fun place later depth deep => ?_
  have first : Advances tokens place (Walk.within depth (.single item)) reader :=
    single place later depth deep
  refine first.bind fun taken inside => ?_
  refine .sees_bind fun closed => ?_
  cases closed with
  | true => exact .pure taken
  | false =>
    refine (advances_expect ",").follows.bind fun _ => ?_
    exact .pure taken

/-- A bound that is at least the number of tokens left is never felt. -/
theorem serves_separated (close : String) {bound : Nat} :
    ∀ start, tokens.length ≤ start + bound → Serves tokens start 1 (.single item) reader →
      Serves tokens start 3 (.items close item) (separated close reader bound) := by
  induction bound with
  | zero =>
    intro start enough single
    refine .of_body fun place later depth deep place' later' => ?_
    -- The reader fails at its bound. The walk knows none: it makes a pass, and that fails.
    have atEnd : tokens.length ≤ place' := by omega
    have first : Advances tokens place (Walk.within depth (.entry close item)) _ :=
      serves_entry close single place later depth deep
    have unseen : tokens[place']?.any (isWord close) = false := by
      rw [List.getElem?_eq_none atEnd, Option.any_none]
    refine ⟨.error .endOfTokens, place', ⟨?_, rfl⟩, .exhausted atEnd⟩
    change itemLoop close (Walk.within depth (.entry close item)) _ tokens place' = _
    rw [itemLoop, Walk.sees_bind, unseen]
    exact Walk.bind_of_error (first.exhausted later' atEnd)
  | succ bound hypothesis =>
    intro start enough single
    refine .of_body fun place later depth deep => ?_
    refine .sees_bind fun closed => ?_
    cases closed with
    | true => exact (advances_expect close).bind fun _ _ => .pure []
    | false =>
      have first : Advances tokens place (Walk.within depth (.entry close item)) _ :=
        serves_entry close single place later depth deep
      have others := hypothesis (start + 1) (by omega) (single.mono (Nat.le_succ start))
      refine first.bind fun taken inside => ?_
      exact (others.follows (by omega) (by omega)).bind fun rest => .pure (taken :: rest)

theorem serves_items (close : String) (single : Serves tokens start 1 (.single item) reader) :
    Serves tokens start 3 (.items close item) (items close reader) :=
  .of_bounded fun place later _ enough => serves_separated close place enough (single.mono later)

end Lists

/-! ### Values -/

/-- A pair comes to what is read for it, if its value does behind the key. -/
theorem serves_pair {reader : Reader Value}
    (held : Serves tokens (start + 1) 1 (.single .value) reader) :
    Serves tokens start 1 (.single .pair) (pair reader) := by
  refine .of_body fun place later depth deep => ?_
  refine (advances_key _).bind fun name inside => ?_
  have behind : Follows tokens (place + 1) (Walk.within depth (.single .value)) reader :=
    held.follows (by omega) (by omega)
  refine (advances_expect ":").follows.bind fun _ => ?_
  exact behind.bind fun value => .pure (name, value)

/-- A bound that is at least the number of tokens left is never felt. -/
theorem serves_valueWithin {bound : Nat} : ∀ start, tokens.length ≤ start + bound →
    Serves tokens start 1 (.single .value) (valueWithin bound) := by
  induction bound with
  | zero =>
    intro start enough
    exact .of_body fun place later _ _ => advances_next.bind_atEnd (Nat.le_trans enough later)
  | succ bound hypothesis =>
    intro start enough
    have single := hypothesis (start + 1) (by omega)
    have listed := serves_items "]" single
    have paired := serves_items "\x7d" (serves_pair (single.mono (Nat.le_succ _)))
    refine .of_body fun place later depth deep => ?_
    refine advances_next.bind fun token inside => ?_
    cases token.group with
    | number => exact follows_numberValue token
    | string => exact .pure _
    | name =>
      dsimp only
      cases constant? token.text with
      | some value => exact .pure value
      | none => exact .refuse _ _
    | punctuation =>
      refine .ite ?_ (.ite ?_ (.refuse _ _))
      · exact (listed.follows (by omega) (by omega)).bind fun _ => .pure _
      · exact (paired.follows (by omega) (by omega)).bind fun _ => .pure _

theorem serves_value : Serves tokens start 1 (.single .value) value :=
  .of_bounded fun place _ _ enough => serves_valueWithin place enough

/-! ### Methods -/

/-- What a method makes of a schema is the same in the walk and the reader. -/
theorem follows_application {depth : Nat} (deep : 3 * (tokens.length - start) + 1 ≤ depth)
    (schema : Schema) (method : Token) :
    Follows tokens start (application (Walk.within depth (.single .value)) schema method)
      (application value schema method) := by
  have argument : Follows tokens start (Walk.within depth (.single .value)) value :=
    serves_value.follows (Nat.le_refl start) deep
  refine .ite (.pure _) (.ite ?size (.ite (.pure _) (.ite (.pure _) (.ite ?default (.ite ?strict
    (.ite ?passthrough (.refuse _ _)))))))
  case size => exact argument.bind fun size => .ite (.pure _) (.refuse _ _)
  case default => exact argument.bind fun value => .pure _
  case strict => exact follows_setMode method schema .strict
  case passthrough => exact follows_setMode method schema .passthrough

/-- A method comes to what is read for it. -/
theorem serves_method (schema : Schema) :
    Serves tokens start 1 (.method schema) (method value schema) := by
  refine .of_body fun place later depth deep => ?_
  refine advances_name.bind fun token inside => ?_
  refine (advances_expect "(").follows.bind fun _ => ?_
  refine (follows_application (by omega) schema token).bind fun made => ?_
  exact (advances_expect ")").follows.bind fun _ => .pure made

/-- A pass of the loop over methods comes to what is read for it. -/
theorem serves_step (schema : Schema) :
    Serves tokens start 1 (.step schema) (step (method value) schema) := by
  refine .of_body fun place later depth deep => ?_
  refine advances_next.bind fun point inside => ?_
  exact (serves_method schema).follows (Nat.le_refl (place + 1)) (by omega)

/-- A bound that is at least the number of tokens left is never felt. -/
theorem serves_methods {bound : Nat} : ∀ start schema, tokens.length ≤ start + bound →
    Serves tokens start 2 (.methods schema) (methods bound schema) := by
  induction bound with
  | zero =>
    intro start schema enough
    refine .of_body fun place later depth deep place' later' => ?_
    -- No token is left, and so no point is seen: both give the schema back.
    have unseen : tokens[place']?.any (isWord ".") = false := by
      rw [List.getElem?_eq_none (by omega), Option.any_none]
    refine ⟨.ok schema, place', ⟨?_, rfl⟩, Keeps.refl⟩
    change methodLoop (fun schema => Walk.within depth (.step schema)) _ schema tokens place' = _
    rw [methodLoop, Walk.sees_bind, unseen]
    rfl
  | succ bound hypothesis =>
    intro start schema enough
    refine .of_body fun place later depth deep => ?_
    refine .sees_bind fun pointed => ?_
    cases pointed with
    | false => exact Meets.pure schema
    | true =>
      have first : Advances tokens place (Walk.within depth (.step schema))
          (step (method value) schema) :=
        serves_step schema place (Nat.le_refl place) depth (by omega)
      have others (made : Schema) := hypothesis (start + 1) made (by omega)
      exact (first.bind fun made inside => (others made).follows (by omega) (by omega)).follows

theorem serves_allMethods (schema : Schema) :
    Serves tokens start 2 (.methods schema) (allMethods schema) :=
  .of_bounded fun place _ _ enough => serves_methods place schema enough

/-! ### Schemas -/

section Schemas

variable {reader : Reader Schema}

/-- A field comes to what is read for it, if its schema does behind the key. -/
theorem serves_member (held : Serves tokens (start + 1) 1 (.single .schema) reader) :
    Serves tokens start 1 (.single .member) (member reader) := by
  refine .of_body fun place later depth deep => ?_
  refine (advances_key _).bind fun name inside => ?_
  have held : Follows tokens (place + 1) (Walk.within depth (.single .schema)) reader :=
    held.follows (by omega) (by omega)
  refine .sees_bind fun marked => .ite ?_ ?_
  · refine advances_next.follows.bind fun mark => ?_
    refine (advances_expect ":").follows.bind fun _ => ?_
    exact held.bind fun schema => .pure (name, schema.asOptional)
  · refine (advances_expect ":").follows.bind fun _ => ?_
    exact held.bind fun schema => .pure (name, schema)

/-- The arguments of a constructor are the same in the walk and the reader. -/
theorem follows_arguments {depth : Nat} (deep : 3 * (tokens.length - start) + 3 ≤ depth)
    (single : Serves tokens start 1 (.single .schema) reader) (constructor : Token) :
    Follows tokens start (arguments (Walk.parts (Walk.within depth)) constructor)
      (arguments (partsOf reader) constructor) := by
  have inner : Follows tokens start (Walk.within depth (.single .schema)) reader :=
    single.follows (Nat.le_refl start) (by omega)
  have listed : Follows tokens start (Walk.within depth (.items "]" .schema)) (items "]" reader) :=
    (serves_items "]" single).follows (Nat.le_refl start) deep
  have fields : Follows tokens start (Walk.within depth (.items "\x7d" .member))
      (items "\x7d" (member reader)) :=
    (serves_items "\x7d" (serves_member (single.mono (Nat.le_succ start)))).follows
      (Nat.le_refl start) deep
  have options : Follows tokens start (Walk.within depth (.items "]" .value)) (items "]" value) :=
    (serves_items "]" serves_value).follows (Nat.le_refl start) deep
  have held : Follows tokens start (Walk.within depth (.single .value)) value :=
    serves_value.follows (Nat.le_refl start) (by omega)
  unfold arguments
  cases simpleShape? constructor.text with
  | some shape => exact .pure shape
  | none =>
    refine .ite ?array (.ite ?record (.ite ?object (.ite ?enum (.ite ?union (.ite ?literal
      (.ite ?instanceof (.refuse _ _)))))))
    case array => exact inner.bind fun item => .pure _
    case record =>
      refine inner.bind fun first => ?_
      refine .sees_bind fun separated => .ite ?_ (.pure _)
      refine advances_next.follows.bind fun comma => ?_
      exact inner.bind fun second => .pure _
    case object =>
      refine (advances_expect "\x7b").follows.bind fun _ => ?_
      exact fields.bind fun members => .pure _
    case enum =>
      refine (advances_expect "[").follows.bind fun _ => ?_
      refine options.bind fun members => ?_
      exact .ite (.refuse _ _) (.pure _)
    case union =>
      refine (advances_expect "[").follows.bind fun _ => ?_
      exact listed.bind fun variants => .pure _
    case literal => exact held.bind fun literal => .pure _
    case instanceof =>
      refine advances_name.follows.bind fun target => ?_
      exact .ite (.pure _) (.refuse _ _)

/-- A constructor comes to what is read for it, if schemas do behind its name. -/
theorem serves_construction (single : Serves tokens (start + 1) 1 (.single .schema) reader) :
    Serves tokens start 1 .construction (construction (partsOf reader)) := by
  refine .of_body fun place later depth deep => ?_
  refine advances_name.bind fun constructor inside => ?_
  have behind : Serves tokens (place + 1) 1 (.single .schema) reader := single.mono (by omega)
  refine (advances_expect "(").follows.bind fun _ => ?_
  refine (follows_arguments (by omega) behind constructor).bind fun shape => ?_
  exact (advances_expect ")").follows.bind fun _ => .pure _

end Schemas

/-- A bound that is at least the number of tokens left is never felt. -/
theorem serves_schemaWithin {bound : Nat} : ∀ start, tokens.length ≤ start + bound →
    Serves tokens start 1 (.single .schema) (schemaWithin bound) := by
  induction bound with
  | zero =>
    intro start enough
    refine .of_body fun place later depth deep => ?_
    exact advances_name.bind_atEnd (Nat.le_trans enough later)
  | succ bound hypothesis =>
    intro start enough
    have single := hypothesis (start + 1) (by omega)
    have base := serves_construction (single.mono (Nat.le_succ _))
    refine .of_body fun place later depth deep => ?_
    refine advances_name.bind fun root inside => ?_
    refine .ite ?_ (.refuse root _)
    refine (advances_expect ".").follows.bind fun _ => ?_
    refine (base.follows (by omega) (by omega)).bind fun schema => ?_
    exact (serves_allMethods schema).follows (Nat.le_refl (place + 1)) (by omega)

/-- An expression, as deep as the tokens allow. -/
def schemaOf : Reader Schema := fun tokens => schemaWithin tokens.length tokens

theorem serves_schema : Serves tokens start 1 (.single .schema) schemaOf :=
  .of_bounded fun place _ _ enough => serves_schemaWithin place enough

/-! ### All calls -/

/-- What is read for an item. -/
def Walk.Item.read : (item : Walk.Item) → Reader item.Result
  | .schema => schemaOf
  | .member => Expression.member schemaOf
  | .value => Expression.value
  | .pair => Expression.pair Expression.value

/-- What is read for a call. -/
def Walk.Call.read : (call : Walk.Call) → Reader call.Result
  | .single item => item.read
  | .construction => Expression.construction (partsOf schemaOf)
  | .method schema => Expression.method Expression.value schema
  | .methods schema => Expression.allMethods schema
  | .step schema => Expression.step (Expression.method Expression.value) schema
  | .items close item => Expression.items close item.read
  | .entry close item => Expression.entry close item.read

/-- An item by itself comes to what is read for it. -/
theorem serves_single (item : Walk.Item) : Serves tokens start 1 (.single item) item.read := by
  cases item with
  | schema => exact serves_schema
  | member => exact serves_member serves_schema
  | value => exact serves_value
  | pair => exact serves_pair serves_value

/-- Every call comes to what is read for it. -/
theorem serves_call (call : Walk.Call) : Serves tokens start 3 call call.read := by
  cases call with
  | single item => exact (serves_single item).weaken (by decide)
  | construction => exact (serves_construction serves_schema).weaken (by decide)
  | method schema => exact (serves_method schema).weaken (by decide)
  | methods schema => exact (serves_allMethods schema).weaken (by decide)
  | step schema => exact (serves_step schema).weaken (by decide)
  | items close item => exact serves_items close (serves_single item)
  | entry close item => exact (serves_entry close (serves_single item)).weaken (by decide)

end Expression

end TableSchema
