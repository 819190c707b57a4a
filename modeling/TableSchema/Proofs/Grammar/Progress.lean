import TableSchema.Proofs.Grammar.Walk.Agreement

/-! # Reading makes progress

Every call ends, and it ends as the readers do. It takes at least one token and stays within the
list, whether it succeeds or fails; only where no token is left does it fail for that, with the
cursor where it was. So each pass of the two loops takes a token, and a loop has no more passes than
there are tokens left (`Expression.walk_progress`).
-/

namespace TableSchema

namespace Expression

namespace Walk

/-- One full pass of a loop: from its head at one place to its head at another. -/
inductive Pass (tokens : List Token) : Call → Nat → Call → Nat → Prop
  | items {close : String} {item : Item} {first : item.Result} {start stop : Nat}
      (unseen : tokens[start]?.any (isWord close) = false)
      (passed : (Call.entry close item).Ends tokens start (.ok first) stop) :
      Pass tokens (.items close item) start (.items close item) stop
  | methods {schema made : Schema} {start stop : Nat}
      (pointed : tokens[start]?.any (isWord ".") = true)
      (passed : (Call.step schema).Ends tokens start (.ok made) stop) :
      Pass tokens (.methods schema) start (.methods made) stop

/-- A number of full passes, one behind the other. -/
inductive Passes (tokens : List Token) : Nat → Call → Nat → Call → Nat → Prop
  | none {loop : Call} {place : Nat} : Passes tokens 0 loop place loop place
  | cons {loop loop' last : Call} {count start middle stop : Nat}
      (first : Pass tokens loop start loop' middle)
      (others : Passes tokens count loop' middle last stop) :
      Passes tokens (count + 1) loop start last stop

end Walk

variable {tokens : List Token} {start middle stop : Nat}

theorem exists_ends (tokens : List Token) (start : Nat) (call : Walk.Call) :
    ∃ outcome stop,
      (∀ depth, 3 * (tokens.length - start) + 3 ≤ depth →
        Walk.within depth call tokens start = some (outcome, stop)) ∧
      call.read (tokens.drop start) = outcome.map (·, tokens.drop stop) ∧
      call.Stops tokens start outcome stop := by
  obtain ⟨outcome, stop, agrees, stops⟩ :=
    serves_call call start (Nat.le_refl start) _ (Nat.le_refl _) start (Nat.le_refl start)
  exact ⟨outcome, stop, fun depth deep => Walk.within_of_le deep call agrees.walks, agrees.reads,
    stops⟩

theorem Walk.Call.Ends.stops {call : Walk.Call} {outcome : Except Halt call.Result}
    (ends : call.Ends tokens start outcome stop) : call.Stops tokens start outcome stop := by
  obtain ⟨outcome', stop', walks, -, stops⟩ := exists_ends tokens start call
  obtain ⟨rfl, rfl⟩ := ends.unique ⟨_, walks _ (Nat.le_refl _)⟩
  exact stops

namespace Walk.Pass

variable {loop loop' : Walk.Call}

theorem forward (pass : Walk.Pass tokens loop start loop' stop) :
    start < stop ∧ stop ≤ tokens.length := by
  cases pass with
  | items _ passed =>
    cases passed.stops with
    | ahead forward inside => exact ⟨forward, inside⟩
  | methods _ passed =>
    cases passed.stops with
    | ahead forward inside => exact ⟨forward, inside⟩

/-- Behind a pass, a loop ends where it would end from there. -/
theorem exists_ends (pass : Walk.Pass tokens loop start loop' middle)
    {outcome : Except Halt loop'.Result} (ends : loop'.Ends tokens middle outcome stop) :
    ∃ outcome', loop.Ends tokens start outcome' stop := by
  obtain ⟨depth', walked'⟩ := ends
  -- The pass and the rest of the loop both end within the greater of their depths.
  cases pass with
  | @items close item first _ _ unseen passed =>
    obtain ⟨depth, walked⟩ := passed
    have first' := within_of_le (Nat.le_max_left depth depth') _ walked
    have others := within_of_le (Nat.le_max_right depth depth') _ walked'
    have ahead : within (max depth depth' + 1) (.items close item) tokens start =
        (within (max depth depth') (.items close item) >>= fun others => pure (first :: others))
          tokens middle := by
      change itemLoop close (within (max depth depth') (.entry close item)) _ tokens start = _
      rw [itemLoop, Walk.sees_bind, unseen]
      exact bind_of_ok first'
    cases outcome with
    | error halt => exact ⟨_, _, ahead.trans (bind_of_error others)⟩
    | ok made => exact ⟨_, _, ahead.trans (bind_of_ok others)⟩
  | methods pointed passed =>
    obtain ⟨depth, walked⟩ := passed
    have first' := within_of_le (Nat.le_max_left depth depth') _ walked
    have others := within_of_le (Nat.le_max_right depth depth') _ walked'
    refine ⟨outcome, max depth depth' + 1, ?_⟩
    change methodLoop (fun schema => within (max depth depth') (.step schema)) _ _ tokens start = _
    rw [methodLoop, Walk.sees_bind, pointed]
    exact (bind_of_ok first').trans others

end Walk.Pass

/-- A loop ends behind all its passes, and each of them has taken a token. -/
theorem exists_ends_of_passes {count : Nat} {loop last : Walk.Call}
    (passes : Walk.Passes tokens count loop start last stop) :
    ∃ outcome place, loop.Ends tokens start outcome place ∧ start + count ≤ stop ∧ stop ≤ place ∧
      place ≤ max start tokens.length := by
  induction passes with
  | @none loop start =>
    obtain ⟨outcome, place, walks, -, stops⟩ := exists_ends tokens start loop
    exact ⟨outcome, place, ⟨_, walks _ (Nat.le_refl _)⟩, Nat.le_refl _, stops.keeps⟩
  | cons first others hypothesis =>
    obtain ⟨outcome, place, ends, forward, before, inside⟩ := hypothesis
    obtain ⟨outcome', ends'⟩ := first.exists_ends ends
    obtain ⟨ahead, within⟩ := first.forward
    exact ⟨outcome', place, ends', by omega, before, by omega⟩

/-- Whatever the tokens and wherever the cursor stands, each call ends: three calls for each token
left are deep enough, and it comes to what is read off the tokens left. It has taken at least one
token and has stayed within the list; or none was left, and it has failed for that. Only the loop
over methods need not take any. A loop that has made a number of passes has taken as many tokens at
least, and it ends within the list. -/
theorem walk_progress (tokens : List Token) (start : Nat) :
    (∀ call : Walk.Call, ∃ outcome stop,
      (∀ depth, 3 * (tokens.length - start) + 3 ≤ depth →
        Walk.within depth call tokens start = some (outcome, stop)) ∧
      call.read (tokens.drop start) = outcome.map (·, tokens.drop stop) ∧
      call.Stops tokens start outcome stop) ∧
    ∀ (count : Nat) (loop last : Walk.Call) (stop : Nat),
      Walk.Passes tokens count loop start last stop →
        ∃ outcome place, loop.Ends tokens start outcome place ∧ start + count ≤ stop ∧
          stop ≤ place ∧ place ≤ max start tokens.length :=
  ⟨exists_ends tokens start, fun _ _ _ _ => exists_ends_of_passes⟩

/-- A list that breaks off behind its second comma: two passes take its four tokens. -/
theorem walk_progress_unclosed :
    let tokens : List Token := [⟨.number, "1", 0⟩, ⟨.punctuation, ",", 1⟩, ⟨.string, "'a'", 2⟩,
      ⟨.punctuation, ",", 5⟩]
    let loop : Walk.Call := .items "]" .value
    Walk.Passes tokens 2 loop 0 loop 4 ∧ ∃ outcome place,
      loop.Ends tokens 0 outcome place ∧ 0 + 2 ≤ 4 ∧ 4 ≤ place ∧ place ≤ 4 := by
  intro tokens loop
  have first : Walk.within 2 (.entry "]" .value) tokens 0 = some (.ok (.int 1), 2) := rfl
  have second : Walk.within 2 (.entry "]" .value) tokens 2 = some (.ok (.str "a"), 4) := rfl
  have passes : Walk.Passes tokens 2 loop 0 loop 4 :=
    .cons (.items rfl ⟨2, first⟩) (.cons (.items rfl ⟨2, second⟩) .none)
  exact ⟨passes, (walk_progress tokens 0).2 2 loop loop 4 passes⟩

end Expression

end TableSchema
