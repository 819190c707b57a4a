import TableSchema.Proofs.Grammar.Brackets

/-! # Methods in a row are exchanged for others

Wherever methods stand in a row in an expression, they follow the constructor of one schema. Other
methods that make the same of every schema may stand there instead, and the expression gives the
same schema (`Grammar.Expression.exchange`).
-/

namespace TableSchema.Grammar

open Lexeme

variable {α : Type} {chunk chunk' before after lexemes rest : List Lexeme}

/-- Whether methods in a row may be exchanged for other lexemes, since these are methods that make
the same of every schema. -/
structure Exchanges (chunk chunk' : List Lexeme) : Prop where
  methods : ∃ methods, methods ≠ [] ∧ (∀ method ∈ methods, IsMethod method) ∧ chunk = row methods
  applied : ∀ first last, Methods chunk first last → Methods chunk' first last

/-- Whether lexemes may be exchanged inside the lexemes of an item that are fewer than a limit. -/
def ExchangesIn (Item : List Lexeme → α → Prop) (limit : Nat) (chunk chunk' : List Lexeme) : Prop :=
  ∀ before after item, (before ++ (chunk ++ after)).length < limit →
    Item (before ++ (chunk ++ after)) item → Item (before ++ (chunk' ++ after)) item

namespace Exchanges

/-- Methods in a row begin with a point and the name of a method. -/
theorem exists_name (exchanges : Exchanges chunk chunk') :
    ∃ name tail, chunk = mark '.' :: word name :: tail ∧ name ∈ methodNames := by
  obtain ⟨methods, nonempty, each, rfl⟩ := exchanges.methods
  obtain ⟨method, methods, rfl⟩ := List.exists_cons_of_ne_nil nonempty
  obtain ⟨name, argument, rfl, known, -⟩ := (each method (List.mem_cons_self ..)).parts
  exact ⟨name, _, rfl, known⟩

theorem head?_eq (exchanges : Exchanges chunk chunk') : chunk.head? = some (mark '.') := by
  obtain ⟨name, tail, rfl, -⟩ := exchanges.exists_name
  rfl

theorem isTied (exchanges : Exchanges chunk chunk') : IsTied chunk := by
  obtain ⟨methods, -, each, rfl⟩ := exchanges.methods
  exact isTied_row each

/-- Where methods are exchanged, there is a point. -/
theorem mem_whole (exchanges : Exchanges chunk chunk') :
    mark '.' ∈ before ++ (chunk ++ after) := by
  obtain ⟨name, tail, rfl, -⟩ := exchanges.exists_name
  simp

theorem whole_ne_nil (exchanges : Exchanges chunk chunk') : before ++ (chunk ++ after) ≠ [] :=
  List.ne_nil_of_mem exchanges.mem_whole

/-- What does not begin with a point stands in front of the methods. -/
theorem before_cons (exchanges : Exchanges chunk chunk') {lexeme : Lexeme}
    (other : lexeme ≠ mark '.') (same : lexeme :: rest = before ++ (chunk ++ after)) :
    ∃ before', before = lexeme :: before' ∧ rest = before' ++ (chunk ++ after) := by
  cases before with
  | nil =>
    obtain ⟨name, tail, rfl, -⟩ := exchanges.exists_name
    exact absurd (List.cons.inj same).1 other
  | cons first before' =>
    obtain ⟨rfl, rest⟩ := List.cons.inj same
    exact ⟨before', rfl, rest⟩

/-- Methods stand on one side of a separator behind closed lexemes, and this side is shorter than
the whole. -/
theorem beside (exchanges : Exchanges chunk chunk') {separator : Lexeme} (closed : IsClosed lexemes)
    (separates : separator ∈ separators)
    (same : lexemes ++ separator :: rest = before ++ (chunk ++ after)) :
    (∃ last, lexemes = before ++ (chunk ++ last) ∧ after = last ++ separator :: rest ∧
      lexemes.length < (before ++ (chunk ++ after)).length) ∨
    ∃ first, before = lexemes ++ separator :: first ∧ rest = first ++ (chunk ++ after) ∧
      rest.length < (before ++ (chunk ++ after)).length := by
  have lengths : lexemes.length + (rest.length + 1) = (before ++ (chunk ++ after)).length := by
    rw [← same, List.length_append, List.length_cons]
  rcases exchanges.isTied.inside exchanges.head?_eq closed separates same with
    ⟨last, within, behind⟩ | ⟨first, within, behind⟩
  · exact .inl ⟨last, within, behind, by omega⟩
  · exact .inr ⟨first, within, behind, by omega⟩

/-- Methods among enclosed lexemes are inside, and the inside is shorter than the whole. -/
theorem enclosed (exchanges : Exchanges chunk chunk') {first last : Lexeme}
    (closed : IsClosed lexemes) (other : first ≠ mark '.') (separates : last ∈ separators)
    (same : first :: (lexemes ++ [last]) = before ++ (chunk ++ after)) :
    ∃ before' after', before = first :: before' ∧ after = after' ++ [last] ∧
      lexemes = before' ++ (chunk ++ after') ∧
      lexemes.length < (before ++ (chunk ++ after)).length := by
  obtain ⟨before', rfl, inner⟩ := exchanges.before_cons other same
  rcases exchanges.beside closed separates inner with
    ⟨after', within, rfl, shorter⟩ | ⟨beyond, -, past, -⟩
  · exact ⟨before', after', rfl, rfl, within, Nat.lt_succ_of_lt shorter⟩
  · exact absurd past.symm exchanges.whole_ne_nil

end Exchanges

/-! ### Methods -/

/-- A method ends at its only closing parenthesis. -/
theorem IsMethod.exists_opening {method : List Lexeme} (isMethod : IsMethod method) :
    ∃ opening, method = opening ++ [mark ')'] ∧ mark ')' ∉ opening := by
  obtain ⟨name, argument, rfl, -, outside⟩ := isMethod.parts
  refine ⟨word name :: mark '(' :: argument, rfl, fun member => ?_⟩
  rcases List.mem_cons.mp member with named | member
  · exact word_ne_mark name ')' named.symm
  rcases List.mem_cons.mp member with opened | member
  · exact absurd opened (by decide)
  · exact outside _ member (by decide)

/-- A method by itself has no point. -/
theorem IsMethod.point_not_mem {method : List Lexeme} (isMethod : IsMethod method) :
    mark '.' ∉ method := by
  obtain ⟨name, argument, rfl, -, outside⟩ := isMethod.parts
  intro member
  rcases List.mem_cons.mp member with named | member
  · exact word_ne_mark name '.' named.symm
  rcases List.mem_cons.mp member with opened | member
  · exact absurd opened (by decide)
  rcases List.mem_append.mp member with member | closed
  · exact outside _ member (by decide)
  · exact absurd (List.mem_singleton.mp closed) (by decide)

/-- A method is the beginning of other lexemes in one way only. -/
theorem IsMethod.append_inj {method method' : List Lexeme} (isMethod : IsMethod method)
    (isMethod' : IsMethod method') (same : method ++ before = method' ++ after) :
    method = method' ∧ before = after := by
  obtain ⟨opening, rfl, absent⟩ := isMethod.exists_opening
  obtain ⟨opening', rfl, absent'⟩ := isMethod'.exists_opening
  simp only [List.append_assoc, List.singleton_append] at same
  have run (opening rest : List Lexeme) (absent : mark ')' ∉ opening) :
      (opening ++ mark ')' :: rest).takeWhile (· ≠ mark ')') = opening := by
    rw [List.takeWhile_append_of_pos, List.takeWhile_cons_of_neg (by simp), List.append_nil]
    exact fun lexeme member => decide_eq_true fun same => absent (same ▸ member)
  obtain rfl : opening = opening' := by
    rw [← run opening before absent, same, run opening' after absent']
  exact ⟨rfl, (List.cons.inj (List.append_cancel_left same)).2⟩

/-- Methods that begin with methods in a row are these and those behind them. -/
theorem Methods.split {methods : List (List Lexeme)} (each : ∀ method ∈ methods, IsMethod method)
    {first last : Schema} (applied : Methods (row methods ++ after) first last) :
    ∃ between, Methods (row methods) first between ∧ Methods after between last := by
  induction methods generalizing first with
  | nil => exact ⟨first, .nil, applied⟩
  | cons method methods hypothesis =>
    obtain ⟨isMethod, others⟩ := List.forall_mem_cons.mp each
    generalize whole : row (method :: methods) ++ after = lexemes at applied
    rw [row, List.flatMap_cons, List.append_assoc] at whole
    cases applied with
    | nil => cases whole
    | @cons lexemes rest first second last applied following =>
      obtain ⟨rfl, rfl⟩ := isMethod.append_inj ⟨_, _, applied⟩ (List.cons.inj whole).2
      obtain ⟨between, inRow, behind⟩ := hypothesis others following
      exact ⟨between, .cons applied inRow, behind⟩

/-- Methods in a row are exchanged among the methods of a schema. -/
theorem Methods.exchange (exchanges : Exchanges chunk chunk') {first last : Schema}
    (applied : Methods (before ++ (chunk ++ after)) first last) :
    Methods (before ++ (chunk' ++ after)) first last := by
  generalize whole : before ++ (chunk ++ after) = lexemes at applied
  induction applied generalizing before with
  | nil => exact absurd whole exchanges.whole_ne_nil
  | @cons lexemes rest first second last applied others hypothesis =>
    cases before with
    | nil =>
      have all : Methods (chunk ++ after) first last := by
        rw [List.nil_append] at whole
        rw [whole]
        exact .cons applied others
      obtain ⟨methods, -, each, rfl⟩ := exchanges.methods
      obtain ⟨between, inRow, behind⟩ := all.split each
      exact (exchanges.applied _ _ inRow).append behind
    | cons point before =>
      obtain ⟨rfl, inner⟩ := List.cons.inj whole
      have isMethod : IsMethod lexemes := ⟨_, _, applied⟩
      obtain ⟨before', rfl, behind⟩ : ∃ before', before = lexemes ++ before' ∧
          rest = before' ++ (chunk ++ after) := by
        rcases List.append_eq_append_iff.mp inner with ⟨inside, split, follows⟩ | split
        · cases inside with
          | nil => exact ⟨[], by simpa using split.symm, by simpa using follows.symm⟩
          | cons lexeme inside =>
            -- The row would begin inside the method, which has no point.
            have point : lexeme = mark '.' := by
              obtain ⟨name, tail, rfl, -⟩ := exchanges.exists_name
              exact (List.cons.inj follows).1.symm
            exact absurd (by simp [split, point]) isMethod.point_not_mem
        · exact split
      rw [List.cons_append, List.append_assoc]
      exact .cons applied (hypothesis behind.symm)

/-! ### Items and arguments -/

/-- Methods may be exchanged in a list of items if they may be in each item. -/
theorem Separated.exchange {Item : List Lexeme → α → Prop} {limit : Nat} {items : List α}
    (exchanges : Exchanges chunk chunk')
    (closed : ∀ lexemes item, Item lexemes item → IsClosed lexemes)
    (each : ExchangesIn Item limit chunk chunk')
    (within : (before ++ (chunk ++ after)).length < limit)
    (written : Separated Item (before ++ (chunk ++ after)) items) :
    Separated Item (before ++ (chunk' ++ after)) items := by
  generalize whole : before ++ (chunk ++ after) = lexemes at written
  induction written generalizing before with
  | nil => exact absurd whole exchanges.whole_ne_nil
  | last single =>
    subst whole
    exact .last (each _ _ _ within single)
  | @cons lexemes rest item items first others hypothesis =>
    rcases exchanges.beside (closed _ _ first) (by decide) whole.symm with
      ⟨last, rfl, rfl, shorter⟩ | ⟨before', rfl, rfl, shorter⟩
    · have changed := Separated.cons (each _ _ _ (Nat.lt_trans shorter within) first) others
      simpa only [List.append_assoc] using changed
    · have changed := Separated.cons first (hypothesis (Nat.lt_trans shorter within) rfl)
      simpa only [List.append_assoc, List.cons_append] using changed

/-- Methods may be exchanged in a field if they may be in its schema. -/
theorem Member.exchange {Item : List Lexeme → Schema → Prop} {limit : Nat}
    (exchanges : Exchanges chunk chunk') (each : ExchangesIn Item limit chunk chunk') :
    ExchangesIn (Member Item) limit chunk chunk' := by
  intro before after field within written
  generalize whole : before ++ (chunk ++ after) = lexemes at written
  cases written with
  | @required key name lexemes schema named held =>
    obtain ⟨before, rfl, behindKey⟩ := exchanges.before_cons (named.ne_mark '.') whole.symm
    obtain ⟨before, rfl, rfl⟩ := exchanges.before_cons (by decide) behindKey
    refine .required named (each _ _ _ ?_ held)
    simp only [List.length_append, List.length_cons] at within ⊢
    omega
  | @optional key name lexemes schema named held =>
    obtain ⟨before, rfl, behindKey⟩ := exchanges.before_cons (named.ne_mark '.') whole.symm
    obtain ⟨before, rfl, behindMark⟩ := exchanges.before_cons (by decide) behindKey
    obtain ⟨before, rfl, rfl⟩ := exchanges.before_cons (by decide) behindMark
    refine .optional named (each _ _ _ ?_ held)
    simp only [List.length_append, List.length_cons] at within ⊢
    omega

/-- A field is closed. -/
theorem Member.isClosed {field : String × Schema} (written : Member Expression lexemes field) :
    IsClosed lexemes := by
  cases written with
  | required named held => exact (held.isClosed.cons (by decide)).cons (named.ne_mark '(')
  | optional named held =>
    exact ((held.isClosed.cons (by decide)).cons (by decide)).cons (named.ne_mark '(')

/-- Lexemes without a point hold no methods. -/
theorem Exchanges.ne_whole (exchanges : Exchanges chunk chunk')
    (outside : ∀ lexeme ∈ lexemes, lexeme ≠ mark '.') : before ++ (chunk ++ after) ≠ lexemes := by
  rintro rfl
  exact outside _ exchanges.mem_whole rfl

/-- Methods in a row are exchanged inside the arguments of a constructor. -/
theorem Arguments.exchange {limit : Nat} {name : String} {shape : Shape Schema}
    (exchanges : Exchanges chunk chunk') (each : ExchangesIn Expression limit chunk chunk')
    (within : (before ++ (chunk ++ after)).length < limit)
    (constructed : Arguments Expression name (before ++ (chunk ++ after)) shape) :
    Arguments Expression name (before ++ (chunk' ++ after)) shape := by
  generalize whole : before ++ (chunk ++ after) = lexemes at constructed
  cases constructed with
  | array written =>
    subst whole
    exact .array (each _ _ _ within written)
  | record written =>
    subst whole
    exact .record (each _ _ _ within written)
  | @keyedRecord keys lexemes key value keyWritten written =>
    rcases exchanges.beside keyWritten.isClosed (by decide) whole.symm with
      ⟨last, rfl, rfl, shorter⟩ | ⟨before', rfl, rfl, shorter⟩
    · have changed :=
        Arguments.keyedRecord (each _ _ _ (Nat.lt_trans shorter within) keyWritten) written
      simpa only [List.append_assoc] using changed
    · have changed :=
        Arguments.keyedRecord keyWritten (each _ _ _ (Nat.lt_trans shorter within) written)
      simpa only [List.append_assoc, List.cons_append] using changed
  | @object lexemes fields members =>
    have closed : IsClosed lexemes := members.isClosed fun _ _ _ single => single.isClosed
    obtain ⟨before, after, rfl, rfl, rfl, shorter⟩ :=
      exchanges.enclosed closed (by decide) (by decide) whole.symm
    have changed := Arguments.object (members.exchange exchanges
      (fun _ _ single => single.isClosed) (Member.exchange exchanges each)
      (Nat.lt_trans shorter within))
    simpa only [List.append_assoc, List.cons_append] using changed
  | @union lexemes variants written =>
    have closed : IsClosed lexemes := written.isClosed fun _ _ _ single => single.isClosed
    obtain ⟨before, after, rfl, rfl, rfl, shorter⟩ :=
      exchanges.enclosed closed (by decide) (by decide) whole.symm
    have changed := Arguments.union (written.exchange exchanges
      (fun _ _ single => single.isClosed) each (Nat.lt_trans shorter within))
    simpa only [List.append_assoc, List.cons_append] using changed
  | enum nonempty written =>
    have inner := written.forall_lexeme (motive := (· ≠ mark '.')) (by decide)
      fun _ _ _ single lexeme member point =>
        single.not_mem_outsideLiterals lexeme member (by simp [point, outsideLiterals])
    refine absurd whole (exchanges.ne_whole (List.forall_mem_cons.mpr ⟨by decide, ?_⟩))
    exact List.forall_mem_append.mpr ⟨inner, List.forall_mem_singleton.mpr (by decide)⟩
  | literal written =>
    refine absurd whole (exchanges.ne_whole fun lexeme member point => ?_)
    exact written.not_mem_outsideLiterals lexeme member (by simp [point, outsideLiterals])
  | _ => exact absurd whole (exchanges.ne_whole (by decide))

/-- Methods in a row are exchanged in an expression, at any depth. -/
theorem Expression.exchange (exchanges : Exchanges chunk chunk') {schema : Schema}
    (written : Expression (before ++ (chunk ++ after)) schema) :
    Expression (before ++ (chunk' ++ after)) schema := by
  induction length : (before ++ (chunk ++ after)).length using Nat.strongRecOn
    generalizing before after schema with
  | ind count hypothesis =>
    subst length
    generalize whole : before ++ (chunk ++ after) = lexemes at written
    obtain @⟨name, arguments, methods, shape, schema, constructed, decorated⟩ := written
    -- The point behind the root name is followed by a constructor, which no method is named like.
    obtain ⟨before, rfl, behindRoot⟩ := exchanges.before_cons (word_ne_mark "z" '.') whole.symm
    obtain ⟨before, rfl, behindPoint⟩ : ∃ before', before = mark '.' :: before' ∧
        word name :: mark '(' :: (arguments ++ mark ')' :: methods) =
          before' ++ (chunk ++ after) := by
      cases before with
      | nil =>
        obtain ⟨method, tail, rfl, known⟩ := exchanges.exists_name
        have named := (List.cons.inj (List.cons.inj behindRoot).2).1
        cases named
        exact absurd known constructed.not_mem_methodNames
      | cons point before =>
        obtain ⟨rfl, behind⟩ := List.cons.inj behindRoot
        exact ⟨before, rfl, behind⟩
    obtain ⟨before, rfl, behindName⟩ := exchanges.before_cons (word_ne_mark name '.') behindPoint
    obtain ⟨before, rfl, inner⟩ := exchanges.before_cons (by decide) behindName
    have closed : IsClosed arguments := constructed.isClosed fun _ _ _ single => single.isClosed
    have each : ExchangesIn Expression
        (word "z" :: mark '.' :: word name :: mark '(' :: before ++ (chunk ++ after)).length
        chunk chunk' :=
      fun _ _ _ shorter single => hypothesis _ shorter single rfl
    rcases exchanges.beside closed (by decide) inner with
      ⟨last, rfl, rfl, shorter⟩ | ⟨before, rfl, rfl, -⟩
    · have changed := Expression.construct
        (constructed.exchange exchanges each (Nat.lt_add_right 4 shorter)) decorated
      simpa only [List.append_assoc, List.cons_append] using changed
    · have changed := Expression.construct constructed (decorated.exchange exchanges)
      simpa only [List.append_assoc, List.cons_append] using changed

end TableSchema.Grammar
