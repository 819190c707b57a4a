import TableSchema.Proofs.Grammar.Reader

/-! # What is in the grammar is read

A reader takes the tokens that the grammar gives to a result, if it is allowed to go deep enough and
no point follows that would begin a method (`Expression.Complete`). As many levels as there are
tokens are always enough.
-/

namespace TableSchema

namespace Expression

open Lexeme Grammar

variable {α : Type} {tokens rest : List Token}

/-- A reader takes all tokens that the grammar gives to a result, up to a number of tokens. -/
def Complete (reader : Reader α) (Item : List Lexeme → α → Prop) (limit : Nat) : Prop :=
  ∀ {used rest : List Token} {result : α},
    (∀ token ∈ used ++ rest, token.lexeme.IsProper) → (∀ token ∈ used, token.lexeme.IsShort) →
    ¬Leads '.' rest → used.length ≤ limit → Item (used.map Token.lexeme) result →
    reader (used ++ rest) = .ok (result, rest)

/-- Items begin with something else than the end of a list. -/
def Begins (Item : List Lexeme → α → Prop) : Prop :=
  ∀ (lexemes : List Lexeme) (result : α), Item lexemes result →
    ∃ first others, lexemes = first :: others ∧ first ≠ mark ']' ∧ first ≠ mark '\x7d'

/-- A token that is one punctuation character is no other one. -/
theorem not_leads_cons {token : Token} {c d : Char} (same : token.lexeme = mark c)
    (other : c ≠ d) : ¬Leads d (token :: rest) := by
  rintro ⟨first, others, split, isMark⟩
  cases split
  have text := congrArg Lexeme.text (same.symm.trans isMark)
  exact other (List.singleton_inj.mp (String.ofList_injective text))

variable {Item : List Lexeme → α → Prop} {item : Reader α}

/-! ### Lists of items -/

/-- The closing characters of lists. -/
def IsClose (c : Char) : Prop :=
  c = ']' ∨ c = '\x7d'

theorem IsClose.mem {c : Char} (isClose : IsClose c) : c ∈ Token.punctuation := by
  rcases isClose with rfl | rfl <;> decide

/-- An item does not begin with what closes a list. -/
theorem not_leads_of_begins (begins : Begins Item) {used : List Token} {result : α}
    (written : Item (used.map Token.lexeme) result) {close : Char} (isClose : IsClose close) :
    ¬Leads close (used ++ rest) := by
  obtain ⟨first, others, same, bracket, brace⟩ := begins _ _ written
  obtain ⟨token, after, rfl, rfl, -⟩ := List.map_eq_cons_iff.mp same
  rintro ⟨leader, others, split, isMark⟩
  cases split
  rcases isClose with rfl | rfl
  · exact bracket isMark
  · exact brace isMark

/-- Items that the grammar separates are read up to the closing token. -/
theorem separated_complete {limit : Nat} (complete : Complete item Item limit)
    (begins : Begins Item) {close : Char} (isClose : IsClose close) {last : Token}
    (closes : last.lexeme = mark close) {lexemes : List Lexeme} {items : List α}
    (written : Separated Item lexemes items) : ∀ {bound : Nat} {used : List Token},
    (∀ token ∈ used ++ last :: rest, token.lexeme.IsProper) →
    (∀ token ∈ used, token.lexeme.IsShort) → used.length ≤ limit → used.length < bound →
    used.map Token.lexeme = lexemes →
    separated (String.ofList [close]) item bound (used ++ last :: rest) = .ok (items, rest) := by
  have ends {bound : Nat} (proper : ∀ token ∈ last :: rest, token.lexeme.IsProper)
      (positive : 0 < bound) :
      separated (String.ofList [close]) item bound (last :: rest) = .ok ([], rest) := by
    obtain ⟨bound, rfl⟩ := Nat.exists_eq_succ_of_ne_zero (Nat.ne_of_gt positive)
    have seen := (head?_any_isWord proper isClose.mem).mpr ⟨last, rest, rfl, closes⟩
    rw [separated_succ, sees_bind, seen, if_pos rfl]
    exact bind_eq_ok.mpr ⟨(), rest, (expect_eq_ok proper isClose.mem).mpr ⟨last, rfl, closes⟩, rfl⟩
  induction written with
  | nil =>
    intro bound used proper _ _ positive same
    obtain rfl := List.map_eq_nil_iff.mp same
    exact ends proper (by omega)
  | last single =>
    intro bound used proper short within below same
    subst same
    obtain ⟨bound, rfl⟩ := Nat.exists_eq_succ_of_ne_zero (Nat.ne_of_gt (Nat.zero_lt_of_lt below))
    have unseen := mt (head?_any_isWord proper isClose.mem).mp
      (not_leads_of_begins begins single isClose)
    have properAfter := (List.forall_mem_append.mp proper).2
    have seen := (head?_any_isWord properAfter isClose.mem).mpr ⟨last, rest, rfl, closes⟩
    have nonempty : used ≠ [] := by
      rintro rfl
      obtain ⟨first, others, same, -⟩ := begins _ _ single
      cases same
    have positive := List.length_pos_iff.mpr nonempty
    -- After the last item without a comma one more round sees the closing token.
    rw [separated_succ, sees_bind, if_neg unseen]
    refine bind_eq_ok.mpr ⟨_, _, complete proper short
      (not_leads_cons closes (by rcases isClose with rfl | rfl <;> decide)) within single, ?_⟩
    rw [sees_bind, seen]
    exact bind_eq_ok.mpr ⟨_, _, ends properAfter (by omega), rfl⟩
  | @cons first others item' items' single otherwise hypothesis =>
    intro bound used proper short within below same
    obtain ⟨usedFirst, after, rfl, rfl, sameAfter⟩ := List.map_eq_append_iff.mp same
    obtain ⟨comma, usedAfter, rfl, isComma, rfl⟩ := List.map_eq_cons_iff.mp sameAfter
    obtain ⟨bound, rfl⟩ := Nat.exists_eq_succ_of_ne_zero (Nat.ne_of_gt (Nat.zero_lt_of_lt below))
    rw [List.append_assoc] at proper ⊢
    simp only [List.length_append, List.length_cons] at within below
    obtain ⟨shortFirst, shortAfter⟩ := List.forall_mem_append.mp short
    have unseen := mt (head?_any_isWord proper isClose.mem).mp
      (not_leads_of_begins begins single isClose)
    have properAfter := (List.forall_mem_append.mp proper).2
    have notClosing := mt (head?_any_isWord properAfter isClose.mem).mp
      (not_leads_cons isComma (by rcases isClose with rfl | rfl <;> decide))
    rw [separated_succ, sees_bind, if_neg unseen]
    refine bind_eq_ok.mpr ⟨_, _, complete proper shortFirst (not_leads_cons isComma (by decide))
      (by omega) single, ?_⟩
    rw [sees_bind, Bool.eq_false_iff.mpr notClosing]
    refine bind_eq_ok.mpr ⟨(), usedAfter ++ last :: rest,
      (expect_eq_ok properAfter (c := ',') (by decide)).mpr ⟨comma, rfl, isComma⟩, ?_⟩
    refine bind_eq_ok.mpr ⟨_, _, hypothesis (List.forall_mem_cons.mp properAfter).2
      (List.forall_mem_cons.mp shortAfter).2 (by omega) (by omega) rfl, rfl⟩

/-- Items that the grammar separates are read with as many rounds as there are tokens. -/
theorem items_complete {limit : Nat} (complete : Complete item Item limit) (begins : Begins Item)
    {close : Char} (isClose : IsClose close) {used : List Token} {inner : List Lexeme}
    {items : List α} (proper : ∀ token ∈ used ++ rest, token.lexeme.IsProper)
    (short : ∀ token ∈ used, token.lexeme.IsShort) (within : used.length ≤ limit + 1)
    (written : Separated Item inner items) (same : used.map Token.lexeme = inner ++ [mark close]) :
    Expression.items (String.ofList [close]) item (used ++ rest) = .ok (items, rest) := by
  obtain ⟨usedInner, closing, rfl, rfl, single⟩ := List.map_eq_append_iff.mp same
  obtain ⟨last, rfl, closes⟩ := List.map_eq_singleton_iff.mp single
  rw [List.append_assoc] at proper ⊢
  simp only [List.length_append, List.length_cons, List.length_nil] at within
  exact separated_complete complete begins isClose closes written proper
    (List.forall_mem_append.mp short).1 (by omega) (by simp) rfl

/-! ### Literal values -/

/-- No literal begins with what closes a list. -/
theorem begins_literal : Begins Literal := by
  intro lexemes value written
  cases written <;> exact ⟨_, _, rfl, by simp [mark, word]⟩

theorem begins_of_key {lexeme : Lexeme} {name : String} (named : Key lexeme name) :
    lexeme ≠ mark ']' ∧ lexeme ≠ mark '\x7d' := by
  cases named <;> simp [mark]

theorem begins_pair : Begins (Pair Literal) := by
  rintro lexemes entry ⟨named, held⟩
  exact ⟨_, _, rfl, begins_of_key named⟩

/-- A pair of the grammar is read if its value is. -/
theorem pair_complete {value : Reader Value} {limit : Nat}
    (complete : Complete value Literal limit) : Complete (pair value) (Pair Literal) limit := by
  intro used rest entry proper short follows within written
  obtain ⟨lexemes, same⟩ : ∃ lexemes, used.map Token.lexeme = lexemes := ⟨_, rfl⟩
  rw [same] at written
  cases written with
  | pair named held =>
    obtain ⟨key, after, rfl, rfl, sameAfter⟩ := List.map_eq_cons_iff.mp same
    obtain ⟨colon, usedValue, rfl, isColon, rfl⟩ := List.map_eq_cons_iff.mp sameAfter
    have properAfter := (List.forall_mem_cons.mp proper).2
    have shortAfter := (List.forall_mem_cons.mp (List.forall_mem_cons.mp short).2).2
    simp only [List.length_cons] at within
    rw [pair]
    refine bind_eq_ok.mpr ⟨_, _, key_eq_ok.mpr ⟨key, rfl, named⟩, ?_⟩
    refine bind_eq_ok.mpr ⟨(), _, (expect_eq_ok properAfter (c := ':') (by decide)).mpr
      ⟨colon, rfl, isColon⟩, ?_⟩
    exact bind_eq_ok.mpr ⟨_, _, complete (List.forall_mem_cons.mp properAfter).2 shortAfter
      follows (by omega) held, rfl⟩

/-- A token is its lexeme at some place. -/
theorem token_of_lexeme {token : Token} {lexeme : Lexeme} (same : token.lexeme = lexeme) :
    ∃ offset, token = ⟨lexeme.group, lexeme.text, offset⟩ := by
  subst same
  exact ⟨token.offset, rfl⟩

/-- Literals of the grammar are read at a depth that is not less than the number of their tokens. -/
theorem valueWithin_complete (depth : Nat) : Complete (valueWithin depth) Literal depth := by
  induction depth with
  | zero =>
    intro used rest value _ _ _ within written
    obtain ⟨first, others, same, -⟩ := begins_literal _ _ written
    rw [List.length_eq_zero_iff.mp (Nat.le_zero.mp within)] at same
    cases same
  | succ depth hypothesis =>
    intro used rest value proper short follows within written
    obtain ⟨lexemes, same⟩ : ∃ lexemes, used.map Token.lexeme = lexemes := ⟨_, rfl⟩
    rw [same] at written
    rw [valueWithin, literal]
    cases written with
    | number text =>
      obtain ⟨token, rfl, isNumber⟩ := List.map_eq_singleton_iff.mp same
      have read := (value_eq_ok (isNumber ▸ proper token (List.mem_cons_self ..))).mpr
        ⟨rfl, isNumber ▸ short token (List.mem_cons_self ..)⟩
      obtain ⟨offset, rfl⟩ := token_of_lexeme isNumber
      refine bind_eq_ok.mpr ⟨_, rest, rfl, ?_⟩
      simp only [numberValue, read]
      rfl
    | list inner =>
      obtain ⟨token, usedAfter, rfl, isOpen, sameAfter⟩ := List.map_eq_cons_iff.mp same
      have read := items_complete hypothesis begins_literal (.inl rfl)
        (List.forall_mem_cons.mp proper).2 (List.forall_mem_cons.mp short).2
        (by simp only [List.length_cons] at within; omega) inner sameAfter
      obtain ⟨offset, rfl⟩ := token_of_lexeme isOpen
      exact bind_eq_ok.mpr ⟨_, _, rfl, bind_eq_ok.mpr ⟨_, _, read, rfl⟩⟩
    | dict inner =>
      obtain ⟨token, usedAfter, rfl, isOpen, sameAfter⟩ := List.map_eq_cons_iff.mp same
      have read := items_complete (pair_complete hypothesis) begins_pair (.inr rfl)
        (List.forall_mem_cons.mp proper).2 (List.forall_mem_cons.mp short).2
        (by simp only [List.length_cons] at within; omega) inner sameAfter
      obtain ⟨offset, rfl⟩ := token_of_lexeme isOpen
      exact bind_eq_ok.mpr ⟨_, _, rfl, bind_eq_ok.mpr ⟨_, _, read, rfl⟩⟩
    | _ =>
      obtain ⟨token, rfl, isAtom⟩ := List.map_eq_singleton_iff.mp same
      obtain ⟨offset, rfl⟩ := token_of_lexeme isAtom
      rfl

theorem value_complete : ∀ limit, Complete value Literal limit := by
  intro limit used rest result proper short follows within written
  exact valueWithin_complete _ proper short follows (by simp) written

/-! ### Methods -/

/-- The tokens of a name with something in parentheses. -/
theorem tokens_of_callWith {used : List Token} {name : String} {argument : List Lexeme}
    (same : used.map Token.lexeme = callWith name argument) :
    ∃ offset first inner last, used = ⟨.name, name, offset⟩ :: first :: (inner ++ [last]) ∧
      first.lexeme = mark '(' ∧ last.lexeme = mark ')' ∧ inner.map Token.lexeme = argument := by
  obtain ⟨token, after, rfl, isName, sameAfter⟩ := List.map_eq_cons_iff.mp same
  obtain ⟨first, others, rfl, isOpen, sameOthers⟩ := List.map_eq_cons_iff.mp sameAfter
  obtain ⟨inner, closing, rfl, rfl, single⟩ := List.map_eq_append_iff.mp sameOthers
  obtain ⟨last, rfl, isClose⟩ := List.map_eq_singleton_iff.mp single
  obtain ⟨offset, rfl⟩ := token_of_lexeme isName
  exact ⟨offset, first, inner, last, rfl, isOpen, isClose, rfl⟩

/-- Something in parentheses is read between them. -/
theorem parenthesized_complete {β : Type} {argument : Reader α} (finish : α → β) {result : α}
    {inner : List Token} {first last : Token}
    (proper : ∀ token ∈ first :: (inner ++ last :: rest), token.lexeme.IsProper)
    (opens : first.lexeme = mark '(') (closes : last.lexeme = mark ')')
    (read : argument (inner ++ last :: rest) = .ok (result, last :: rest)) :
    (do expect "("; let result ← argument; expect ")"; return finish result : Reader β)
      (first :: (inner ++ last :: rest)) = .ok (finish result, rest) := by
  have properLast := (List.forall_mem_append.mp (List.forall_mem_cons.mp proper).2).2
  refine bind_eq_ok.mpr ⟨(), _, (expect_eq_ok proper (c := '(') (by decide)).mpr
    ⟨first, rfl, opens⟩, ?_⟩
  refine bind_eq_ok.mpr ⟨_, _, read, ?_⟩
  exact bind_eq_ok.mpr ⟨(), _, (expect_eq_ok properLast (c := ')') (by decide)).mpr
    ⟨last, rfl, closes⟩, rfl⟩

theorem not_mem_flagChecks {name : String} (known : name ∈ sizeChecks) : name ∉ flagChecks := by
  have apart : ∀ name ∈ sizeChecks, name ∉ flagChecks := by decide
  exact apart name known

/-- The arguments of a method of the grammar are read, up to the closing parenthesis. -/
theorem application_complete {first second : Schema} {name : String} {lexemes : List Lexeme}
    {inner : List Token} {last : Token} {offset : Nat}
    (proper : ∀ token ∈ inner ++ last :: rest, token.lexeme.IsProper)
    (short : ∀ token ∈ inner, token.lexeme.IsShort) (closes : last.lexeme = mark ')')
    (applied : Method lexemes first second)
    (same : lexemes = callWith name (inner.map Token.lexeme)) :
    application value first ⟨.name, name, offset⟩ (inner ++ last :: rest) =
      .ok (second, last :: rest) := by
  have follows : ¬Leads '.' (last :: rest) := not_leads_cons closes (by decide)
  have plain {name' : String} (same : call name' = callWith name (inner.map Token.lexeme)) :
      name' = name ∧ inner = [] := by
    simpa [call, callWith, word] using same
  have argued {name' : String} {argument : List Lexeme}
      (same : callWith name' argument = callWith name (inner.map Token.lexeme)) :
      name' = name ∧ argument = inner.map Token.lexeme := by
    simpa [callWith, word] using same
  cases applied with
  | flag known =>
    obtain ⟨rfl, rfl⟩ := plain same
    rw [application, if_pos known]
    rfl
  | size known written number =>
    obtain ⟨rfl, rfl⟩ := argued same
    rw [application, if_neg (not_mem_flagChecks known), if_pos known]
    refine bind_eq_ok.mpr ⟨_, _,
      value_complete _ proper short follows (Nat.le_refl _) written, ?_⟩
    rw [if_pos number]
    rfl
  | nullable =>
    obtain ⟨rfl, rfl⟩ := plain same
    rfl
  | optional =>
    obtain ⟨rfl, rfl⟩ := plain same
    rfl
  | default written =>
    obtain ⟨rfl, rfl⟩ := argued same
    exact bind_eq_ok.mpr ⟨_, _,
      value_complete _ proper short follows (Nat.le_refl _) written, rfl⟩
  | mode mode object =>
    obtain ⟨rfl, rfl⟩ := plain same
    obtain ⟨shape, marks⟩ := first
    cases object
    cases mode <;> rfl

/-- A method is read whatever follows it. -/
theorem method_complete {used : List Token} {schema result : Schema}
    (proper : ∀ token ∈ used ++ rest, token.lexeme.IsProper)
    (short : ∀ token ∈ used, token.lexeme.IsShort)
    (written : Method (used.map Token.lexeme) schema result) :
    method value schema (used ++ rest) = .ok (result, rest) := by
  obtain ⟨lexemes, same⟩ : ∃ lexemes, used.map Token.lexeme = lexemes := ⟨_, rfl⟩
  rw [same] at written
  have shape : ∃ name argument, lexemes = callWith name argument := by
    cases written
    all_goals first | exact ⟨_, [], rfl⟩ | exact ⟨_, _, rfl⟩
  obtain ⟨name, argument, rfl⟩ := shape
  obtain ⟨offset, first, inner, last, rfl, opens, closes, rfl⟩ := tokens_of_callWith same
  simp only [List.cons_append, List.append_assoc, List.nil_append] at proper ⊢
  obtain ⟨-, properAfter⟩ := List.forall_mem_cons.mp proper
  have shortInner := (List.forall_mem_append.mp
    (List.forall_mem_cons.mp (List.forall_mem_cons.mp short).2).2).1
  refine bind_eq_ok.mpr ⟨_, _, name_eq_ok.mpr ⟨rfl, rfl⟩, ?_⟩
  exact parenthesized_complete (fun result => result) properAfter opens closes
    (application_complete (List.forall_mem_cons.mp properAfter).2 shortInner closes written rfl)

/-- Methods of the grammar are read one after another, up to where no point follows. -/
theorem methods_complete {lexemes : List Lexeme} {first last : Schema}
    (written : Methods lexemes first last) : ∀ {bound : Nat} {used : List Token},
    (∀ token ∈ used ++ rest, token.lexeme.IsProper) → (∀ token ∈ used, token.lexeme.IsShort) →
    ¬Leads '.' rest → used.length ≤ bound → used.map Token.lexeme = lexemes →
    methods bound first (used ++ rest) = .ok (last, rest) := by
  induction written with
  | nil =>
    intro bound used proper _ follows _ same
    obtain rfl := List.map_eq_nil_iff.mp same
    cases bound with
    | zero => rfl
    | succ bound =>
      have unseen := mt (head?_any_isWord proper (c := '.') (by decide)).mp follows
      rw [methods_succ, sees_bind]
      exact if_neg unseen ▸ rfl
  | cons applied others hypothesis =>
    intro bound used proper short follows within same
    obtain ⟨point, after, rfl, isPoint, sameAfter⟩ := List.map_eq_cons_iff.mp same
    obtain ⟨usedMethod, usedAfter, rfl, rfl, rfl⟩ := List.map_eq_append_iff.mp sameAfter
    rw [List.cons_append, List.append_assoc] at proper ⊢
    simp only [List.length_cons, List.length_append] at within
    obtain ⟨bound, rfl⟩ := Nat.exists_eq_succ_of_ne_zero (n := bound) (by omega)
    have properAfter := (List.forall_mem_cons.mp proper).2
    obtain ⟨shortMethod, shortAfter⟩ :=
      List.forall_mem_append.mp (List.forall_mem_cons.mp short).2
    have seen := (head?_any_isWord proper (c := '.') (by decide)).mpr ⟨point, _, rfl, isPoint⟩
    rw [methods_succ, sees_bind, if_pos seen]
    refine bind_eq_ok.mpr ⟨point, _, rfl, ?_⟩
    exact bind_eq_ok.mpr ⟨_, _, method_complete properAfter shortMethod applied,
      hypothesis (List.forall_mem_append.mp properAfter).2 shortAfter follows (by omega) rfl⟩

/-! ### Expressions -/

variable {schema : Reader Schema} {Item : List Lexeme → Schema → Prop} {limit : Nat}

/-- No field begins with what closes a list. -/
theorem begins_member : Begins (Grammar.Member Item) := by
  intro lexemes field written
  cases written with
  | required named held => exact ⟨_, _, rfl, begins_of_key named⟩
  | optional named held => exact ⟨_, _, rfl, begins_of_key named⟩

theorem begins_expression : Begins Grammar.Expression := by
  rintro lexemes schema ⟨constructed, decorated⟩
  exact ⟨_, _, rfl, by simp [mark, word]⟩

/-- A field of the grammar is read if its schema is. -/
theorem member_complete (complete : Complete schema Item limit) :
    Complete (member schema) (Grammar.Member Item) limit := by
  intro used rest field proper short follows within written
  obtain ⟨lexemes, same⟩ : ∃ lexemes, used.map Token.lexeme = lexemes := ⟨_, rfl⟩
  rw [same] at written
  rw [member]
  cases written with
  | required named held =>
    obtain ⟨key, after, rfl, rfl, sameAfter⟩ := List.map_eq_cons_iff.mp same
    obtain ⟨colon, usedValue, rfl, isColon, rfl⟩ := List.map_eq_cons_iff.mp sameAfter
    have properAfter := (List.forall_mem_cons.mp proper).2
    have shortAfter := (List.forall_mem_cons.mp (List.forall_mem_cons.mp short).2).2
    have unseen := mt (head?_any_isWord properAfter (c := '?') (by decide)).mp
      (not_leads_cons isColon (by decide))
    simp only [List.length_cons] at within
    refine bind_eq_ok.mpr ⟨_, _, key_eq_ok.mpr ⟨key, rfl, named⟩, ?_⟩
    rw [sees_bind, if_neg unseen]
    refine bind_eq_ok.mpr ⟨(), _, (expect_eq_ok properAfter (c := ':') (by decide)).mpr
      ⟨colon, rfl, isColon⟩, ?_⟩
    exact bind_eq_ok.mpr ⟨_, _, complete (List.forall_mem_cons.mp properAfter).2 shortAfter
      follows (by omega) held, rfl⟩
  | optional named held =>
    obtain ⟨key, after, rfl, rfl, sameAfter⟩ := List.map_eq_cons_iff.mp same
    obtain ⟨question, others, rfl, isQuestion, sameOthers⟩ := List.map_eq_cons_iff.mp sameAfter
    obtain ⟨colon, usedValue, rfl, isColon, rfl⟩ := List.map_eq_cons_iff.mp sameOthers
    have properAfter := (List.forall_mem_cons.mp proper).2
    have properColon := (List.forall_mem_cons.mp properAfter).2
    have shortAfter := (List.forall_mem_cons.mp
      (List.forall_mem_cons.mp (List.forall_mem_cons.mp short).2).2).2
    have seen := (head?_any_isWord properAfter (c := '?') (by decide)).mpr
      ⟨question, _, rfl, isQuestion⟩
    simp only [List.length_cons] at within
    refine bind_eq_ok.mpr ⟨_, _, key_eq_ok.mpr ⟨key, rfl, named⟩, ?_⟩
    rw [sees_bind, if_pos seen]
    refine bind_eq_ok.mpr ⟨question, _, rfl, ?_⟩
    refine bind_eq_ok.mpr ⟨(), _, (expect_eq_ok properColon (c := ':') (by decide)).mpr
      ⟨colon, rfl, isColon⟩, ?_⟩
    exact bind_eq_ok.mpr ⟨_, _, complete (List.forall_mem_cons.mp properColon).2 shortAfter
      follows (by omega) held, rfl⟩

/-- A bracketed list is read up to its closing token. -/
theorem bracketed_complete {item : Reader α} {Item : List Lexeme → α → Prop}
    (complete : Complete item Item limit) (begins : Begins Item) (opening : Char) {close : Char}
    (known : opening ∈ Token.punctuation) (isClose : IsClose close) {used : List Token}
    {inner : List Lexeme} {items : List α}
    (proper : ∀ token ∈ used ++ rest, token.lexeme.IsProper)
    (short : ∀ token ∈ used, token.lexeme.IsShort) (within : used.length ≤ limit + 1)
    (written : Separated Item inner items)
    (same : used.map Token.lexeme = mark opening :: (inner ++ [mark close])) :
    (do expect (String.ofList [opening]); Expression.items (String.ofList [close]) item)
      (used ++ rest) = .ok (items, rest) := by
  obtain ⟨token, usedAfter, rfl, isOpen, sameAfter⟩ := List.map_eq_cons_iff.mp same
  refine bind_eq_ok.mpr ⟨(), _, (expect_eq_ok proper known).mpr ⟨token, rfl, isOpen⟩, ?_⟩
  exact items_complete complete begins isClose (List.forall_mem_cons.mp proper).2
    (List.forall_mem_cons.mp short).2 (by simp only [List.length_cons] at within; omega) written
    sameAfter

theorem all_isText (names : List String) : (names.map Value.str).all isText = true := by
  simp [isText]

/-- The arguments of a constructor of the grammar are read, up to the closing parenthesis. -/
theorem arguments_complete (complete : Complete schema Item limit) (begins : Begins Item)
    {name : String} {offset : Nat} {inner : List Token} {last : Token} {shape : Shape Schema}
    (proper : ∀ token ∈ inner ++ last :: rest, token.lexeme.IsProper)
    (short : ∀ token ∈ inner, token.lexeme.IsShort) (closes : last.lexeme = mark ')')
    (within : inner.length ≤ limit)
    (written : Arguments Item name (inner.map Token.lexeme) shape) :
    arguments (partsOf schema) ⟨.name, name, offset⟩ (inner ++ last :: rest) =
      .ok (shape, last :: rest) := by
  have follows : ¬Leads '.' (last :: rest) := not_leads_cons closes (by decide)
  obtain ⟨lexemes, same⟩ : ∃ lexemes, inner.map Token.lexeme = lexemes := ⟨_, rfl⟩
  rw [same] at written
  cases written with
  | array held =>
    subst same
    exact bind_eq_ok.mpr ⟨_, _, complete proper short follows within held, rfl⟩
  | record held =>
    subst same
    have properLast := (List.forall_mem_append.mp proper).2
    have unseen := mt (head?_any_isWord properLast (c := ',') (by decide)).mp
      (not_leads_cons closes (by decide))
    refine bind_eq_ok.mpr ⟨_, _, complete proper short follows within held, ?_⟩
    rw [sees_bind, if_neg unseen]
    rfl
  | keyedRecord keyHeld held =>
    obtain ⟨usedKey, after, rfl, rfl, sameAfter⟩ := List.map_eq_append_iff.mp same
    obtain ⟨comma, usedValue, rfl, isComma, rfl⟩ := List.map_eq_cons_iff.mp sameAfter
    rw [List.append_assoc] at proper ⊢
    simp only [List.length_append, List.length_cons] at within
    obtain ⟨shortKey, shortAfter⟩ := List.forall_mem_append.mp short
    have properAfter := (List.forall_mem_append.mp proper).2
    have seen := (head?_any_isWord properAfter (c := ',') (by decide)).mpr ⟨comma, _, rfl, isComma⟩
    refine bind_eq_ok.mpr ⟨_, _, complete proper shortKey (not_leads_cons isComma (by decide))
      (by omega) keyHeld, ?_⟩
    rw [sees_bind, if_pos seen]
    refine bind_eq_ok.mpr ⟨comma, _, rfl, ?_⟩
    exact bind_eq_ok.mpr ⟨_, _, complete (List.forall_mem_cons.mp properAfter).2
      (List.forall_mem_cons.mp shortAfter).2 follows (by omega) held, rfl⟩
  | object members =>
    have read := bracketed_complete (member_complete complete) begins_member '\x7b'
      (by decide) (.inr rfl) proper short (by omega) members same
    obtain ⟨_, middle, opened, read⟩ := bind_eq_ok.mp read
    exact bind_eq_ok.mpr ⟨_, _, opened, bind_eq_ok.mpr ⟨_, _, read, rfl⟩⟩
  | enum nonempty options =>
    have read := bracketed_complete (value_complete limit) begins_literal '['
      (by decide) (.inl rfl) proper short (by omega) options same
    obtain ⟨_, middle, opened, read⟩ := bind_eq_ok.mp read
    refine bind_eq_ok.mpr ⟨_, _, opened, bind_eq_ok.mpr ⟨_, _, read, ?_⟩⟩
    rw [all_isText]
    simp [nonempty, pure_eq_ok]
  | union variants =>
    have read := bracketed_complete complete begins '[' (by decide) (.inl rfl) proper
      short (by omega) variants same
    obtain ⟨_, middle, opened, read⟩ := bind_eq_ok.mp read
    exact bind_eq_ok.mpr ⟨_, _, opened, bind_eq_ok.mpr ⟨_, _, read, rfl⟩⟩
  | literal held =>
    subst same
    exact bind_eq_ok.mpr ⟨_, _, value_complete limit proper short follows within held, rfl⟩
  | binary =>
    obtain ⟨token, rfl, isBuffer⟩ := List.map_eq_singleton_iff.mp same
    obtain ⟨offset, rfl⟩ := token_of_lexeme isBuffer
    rfl
  | _ =>
    obtain rfl := List.map_eq_nil_iff.mp same
    rfl

/-- A constructor of the grammar is read with its arguments. -/
theorem construction_complete (complete : Complete schema Item limit) (begins : Begins Item)
    {name : String} {argument : List Lexeme} {used : List Token} {shape : Shape Schema}
    (proper : ∀ token ∈ used ++ rest, token.lexeme.IsProper)
    (short : ∀ token ∈ used, token.lexeme.IsShort) (within : used.length ≤ limit)
    (same : used.map Token.lexeme = callWith name argument)
    (written : Arguments Item name argument shape) :
    construction (partsOf schema) (used ++ rest) = .ok ({ shape }, rest) := by
  obtain ⟨offset, first, inner, last, rfl, opens, closes, rfl⟩ := tokens_of_callWith same
  simp only [List.length_cons, List.length_append, List.length_nil] at within
  simp only [List.cons_append, List.append_assoc, List.nil_append] at proper ⊢
  obtain ⟨-, properAfter⟩ := List.forall_mem_cons.mp proper
  have shortInner := (List.forall_mem_append.mp
    (List.forall_mem_cons.mp (List.forall_mem_cons.mp short).2).2).1
  refine bind_eq_ok.mpr ⟨_, _, name_eq_ok.mpr ⟨rfl, rfl⟩, ?_⟩
  exact parenthesized_complete (fun shape => Schema.mk shape {}) properAfter opens closes
    (arguments_complete complete begins (List.forall_mem_cons.mp properAfter).2 shortInner closes
      (by omega) written)

/-- Expressions of the grammar are read at a depth that is not less than the number of their tokens.
-/
theorem schemaWithin_complete (depth : Nat) :
    Complete (schemaWithin depth) Grammar.Expression depth := by
  induction depth with
  | zero =>
    intro used rest schema _ _ _ within written
    obtain ⟨first, others, same, -⟩ := begins_expression _ _ written
    rw [List.length_eq_zero_iff.mp (Nat.le_zero.mp within)] at same
    cases same
  | succ depth hypothesis =>
    intro used rest schema proper short follows within written
    obtain ⟨lexemes, same⟩ : ∃ lexemes, used.map Token.lexeme = lexemes := ⟨_, rfl⟩
    rw [same] at written
    obtain @⟨name, argument, decorations, shape, _, constructed, decorated⟩ := written
    have split : used.map Token.lexeme =
        word "z" :: mark '.' :: (callWith name argument ++ decorations) := by
      simpa [callWith] using same
    obtain ⟨root, afterRoot, rfl, isRoot, sameRoot⟩ := List.map_eq_cons_iff.mp split
    obtain ⟨point, afterPoint, rfl, isPoint, samePoint⟩ := List.map_eq_cons_iff.mp sameRoot
    obtain ⟨usedBase, usedMethods, rfl, sameBase, rfl⟩ := List.map_eq_append_iff.mp samePoint
    obtain ⟨offset, rfl⟩ := token_of_lexeme isRoot
    simp only [List.cons_append, List.append_assoc] at proper ⊢
    simp only [List.length_cons, List.length_append] at within
    have properPoint := (List.forall_mem_cons.mp proper).2
    have properBase := (List.forall_mem_cons.mp properPoint).2
    obtain ⟨shortBase, shortMethods⟩ := List.forall_mem_append.mp
      (List.forall_mem_cons.mp (List.forall_mem_cons.mp short).2).2
    refine bind_eq_ok.mpr ⟨_, _, name_eq_ok.mpr ⟨rfl, rfl⟩, ?_⟩
    refine bind_eq_ok.mpr ⟨(), _, (expect_eq_ok properPoint (c := '.') (by decide)).mpr
      ⟨point, rfl, isPoint⟩, ?_⟩
    refine bind_eq_ok.mpr ⟨_, _, construction_complete hypothesis begins_expression properBase
      shortBase (by omega) sameBase constructed, ?_⟩
    exact methods_complete decorated (List.forall_mem_append.mp properBase).2 shortMethods follows
      (by simp) rfl

/-- A schema that the grammar gives to the lexemes of all tokens is read off them. -/
theorem whole_complete (proper : ∀ token ∈ tokens, token.lexeme.IsProper)
    (short : ∀ token ∈ tokens, token.lexeme.IsShort) {schema : Schema}
    (written : Grammar.Expression (tokens.map Token.lexeme) schema) :
    whole tokens = .ok schema := by
  have ends : ¬Leads '.' [] := by
    rintro ⟨token, others, same, -⟩
    cases same
  have read : schemaWithin tokens.length (tokens ++ []) = .ok (schema, []) :=
    schemaWithin_complete tokens.length (by simpa using proper) short ends (Nat.le_refl _) written
  rw [List.append_nil] at read
  rw [whole, StateT.run, read]
  rfl

end Expression

end TableSchema
