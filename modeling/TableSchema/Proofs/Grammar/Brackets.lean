import TableSchema.Proofs.Grammar.Given

/-! # Parentheses among lexemes

What the grammar gives closes as many parentheses as it opens, from any place on
(`Grammar.Expression.isClosed`). Methods in a row open more than they close before each separator
that stands among them, so that such a row is within one item of a list or past it
(`Grammar.IsTied.inside`).
-/

namespace TableSchema.Grammar

open Lexeme

variable {lexemes rest : List Lexeme} {α : Type}

/-- The marks that no literal has. -/
def outsideLiterals : List Lexeme :=
  [mark '.', mark '(', mark ')']

/-- The marks that an item of a list is followed by. -/
def separators : List Lexeme :=
  [mark ',', mark ')', mark ']', mark '\x7d']

/-- Every end of the lexemes closes as many parentheses as it opens, at least. -/
def IsClosed (lexemes : List Lexeme) : Prop :=
  ∀ last, last <:+ lexemes → last.count (mark '(') ≤ last.count (mark ')')

/-- Before each separator more parentheses are opened than closed. -/
def IsTied (lexemes : List Lexeme) : Prop :=
  ∀ before separator after, lexemes = before ++ separator :: after → separator ∈ separators →
    before.count (mark ')') < before.count (mark '(')

/-! ### Literals -/

/-- What holds of the comma and of all lexemes of the items of a list holds of all its lexemes. -/
theorem Separated.forall_lexeme {Item : List Lexeme → α → Prop} {motive : Lexeme → Prop}
    {items : List α} (written : Separated Item lexemes items) (comma : motive (mark ','))
    (each : ∀ inner item, inner <:+: lexemes → Item inner item → ∀ lexeme ∈ inner, motive lexeme) :
    ∀ lexeme ∈ lexemes, motive lexeme := by
  induction written with
  | nil => nofun
  | last single => exact each _ _ (List.infix_refl _) single
  | @cons lexemes rest item items first others hypothesis =>
    have following : ∀ lexeme ∈ rest, motive lexeme := hypothesis fun inner item within =>
      each inner item (within.trans ⟨lexemes ++ [mark ','], [], by simp⟩)
    exact List.forall_mem_append.mpr ⟨each _ _ ⟨[], mark ',' :: rest, rfl⟩ first,
      List.forall_mem_cons.mpr ⟨comma, following⟩⟩

theorem token_not_mem_outsideLiterals {group : Token.Group} (other : group ≠ .punctuation)
    (text : String) : (⟨group, text⟩ : Lexeme) ∉ outsideLiterals := by
  simp [outsideLiterals, mark, other]

theorem Key.not_mem_outsideLiterals {key : Lexeme} {name : String} (named : Key key name) :
    key ∉ outsideLiterals := by
  cases named <;> exact token_not_mem_outsideLiterals (by decide) _

/-- A literal has no lexeme that stands outside of literals only. -/
theorem Literal.not_mem_outsideLiterals {value : Value} (written : Literal lexemes value) :
    ∀ lexeme ∈ lexemes, lexeme ∉ outsideLiterals := by
  induction length : lexemes.length using Nat.strongRecOn generalizing lexemes value with
  | ind count hypothesis =>
    subst length
    have shorter {first last : Lexeme} {inside part : List Lexeme} {value : Value}
        (same : lexemes = first :: (inside ++ [last])) (within : part <:+: inside)
        (single : Literal part value) : ∀ lexeme ∈ part, lexeme ∉ outsideLiterals := by
      refine hypothesis part.length ?_ single rfl
      have := within.length_le
      rw [same, List.length_cons, List.length_append]
      omega
    cases written with
    | number text =>
      exact List.forall_mem_singleton.mpr (token_not_mem_outsideLiterals (by decide) _)
    | string text =>
      exact List.forall_mem_singleton.mpr (token_not_mem_outsideLiterals (by decide) _)
    | list inner =>
      have items := inner.forall_lexeme (by decide) fun part item within single =>
        shorter rfl within single
      exact List.forall_mem_cons.mpr ⟨by decide, List.forall_mem_append.mpr
        ⟨items, List.forall_mem_singleton.mpr (by decide)⟩⟩
    | dict inner =>
      have entries := inner.forall_lexeme (motive := (· ∉ outsideLiterals)) (by decide) (by
        rintro part entry within ⟨named, held⟩
        exact List.forall_mem_cons.mpr ⟨named.not_mem_outsideLiterals, List.forall_mem_cons.mpr
          ⟨by decide, shorter rfl
            ((List.infix_cons (List.infix_cons (List.infix_refl _))).trans within) held⟩⟩)
      exact List.forall_mem_cons.mpr ⟨by decide, List.forall_mem_append.mpr
        ⟨entries, List.forall_mem_singleton.mpr (by decide)⟩⟩
    | _ => exact List.forall_mem_singleton.mpr (by decide)

/-! ### Closed lexemes -/

/-- Where nothing is opened, all is closed. -/
theorem isClosed_of_forall (none : ∀ lexeme ∈ lexemes, lexeme ≠ mark '(') : IsClosed lexemes := by
  intro last within
  rw [List.count_eq_zero.mpr fun member => none _ (within.subset member) rfl]
  exact Nat.zero_le _

/-- Lexemes are closed where none of them stands outside of literals only. -/
theorem isClosed_of_not_mem (outside : ∀ lexeme ∈ lexemes, lexeme ∉ outsideLiterals) :
    IsClosed lexemes := by
  apply isClosed_of_forall
  intro lexeme member same
  exact outside lexeme member (by simp [same, outsideLiterals])

theorem isClosed_nil : IsClosed [] :=
  isClosed_of_forall nofun

/-- Closed lexemes are closed one after another. -/
theorem IsClosed.append (closed : IsClosed lexemes) (closed' : IsClosed rest) :
    IsClosed (lexemes ++ rest) := by
  rintro last ⟨before, same⟩
  rcases List.append_eq_append_iff.mp same with ⟨last', split, rfl⟩ | ⟨between, -, split⟩
  · rw [List.count_append, List.count_append]
    exact Nat.add_le_add (closed last' ⟨before, split.symm⟩) (closed' rest (List.suffix_refl rest))
  · exact closed' last ⟨between, split.symm⟩

theorem IsClosed.cons {lexeme : Lexeme} (other : lexeme ≠ mark '(') (closed : IsClosed lexemes) :
    IsClosed (lexeme :: lexemes) :=
  (isClosed_of_forall (List.forall_mem_singleton.mpr other)).append closed

/-- What stands between parentheses is closed with them. -/
theorem IsClosed.parenthesized (closed : IsClosed lexemes) :
    IsClosed (mark '(' :: (lexemes ++ [mark ')'])) := by
  have close : IsClosed [mark ')'] := isClosed_of_forall (by decide)
  intro last within
  rcases List.suffix_cons_iff.mp within with rfl | within
  · have whole := closed lexemes (List.suffix_refl lexemes)
    rw [List.count_cons_self, List.count_cons_of_ne (by decide), List.count_append,
      List.count_append]
    exact Nat.succ_le_succ whole
  · exact closed.append close last within

/-- Items with commas between them are closed if each item is. -/
theorem Separated.isClosed {Item : List Lexeme → α → Prop} {items : List α}
    (written : Separated Item lexemes items)
    (each : ∀ inner item, inner <:+: lexemes → Item inner item → IsClosed inner) :
    IsClosed lexemes := by
  induction written with
  | nil => exact isClosed_nil
  | last single => exact each _ _ (List.infix_refl _) single
  | @cons lexemes rest item items first others hypothesis =>
    have following : IsClosed rest := hypothesis fun inner item within =>
      each inner item (within.trans ⟨lexemes ++ [mark ','], [], by simp⟩)
    exact (each _ _ ⟨[], mark ',' :: rest, rfl⟩ first).append (following.cons (by decide))

/-- Closed lexemes stay closed between two that open nothing. -/
theorem IsClosed.enclosed {first last : Lexeme} (closed : IsClosed lexemes)
    (opens : first ≠ mark '(') (closes : last ≠ mark '(') :
    IsClosed (first :: (lexemes ++ [last])) :=
  (closed.append (isClosed_nil.cons closes)).cons opens

theorem Literal.isClosed {value : Value} (written : Literal lexemes value) : IsClosed lexemes :=
  isClosed_of_not_mem written.not_mem_outsideLiterals

theorem word_ne_mark (text : String) (c : Char) : word text ≠ mark c :=
  nofun

theorem Key.ne_mark {key : Lexeme} {name : String} (named : Key key name) (c : Char) :
    key ≠ mark c := by
  cases named <;> nofun

/-! ### Expressions -/

/-- The lexemes of some method. -/
def IsMethod (lexemes : List Lexeme) : Prop :=
  ∃ first second, Method lexemes first second

/-- The names of methods. -/
def methodNames : List String :=
  TableSchema.Expression.flagChecks ++ TableSchema.Expression.sizeChecks ++
    ["nullable", "optional", "default", "strict", "passthrough"]

/-- A method is a name and an argument in parentheses, which holds no marks of its own. -/
theorem IsMethod.parts (isMethod : IsMethod lexemes) : ∃ name argument,
    lexemes = callWith name argument ∧ name ∈ methodNames ∧
      ∀ lexeme ∈ argument, lexeme ∉ outsideLiterals := by
  obtain ⟨first, second, applied⟩ := isMethod
  cases applied with
  | @flag name schema known => exact ⟨name, [], rfl, by simp [methodNames, known], nofun⟩
  | @size name schema argument bound known written number =>
    exact ⟨name, argument, rfl, by simp [methodNames, known], written.not_mem_outsideLiterals⟩
  | nullable => exact ⟨_, [], rfl, by decide, nofun⟩
  | optional => exact ⟨_, [], rfl, by decide, nofun⟩
  | default written => exact ⟨_, _, rfl, by decide, written.not_mem_outsideLiterals⟩
  | mode mode object => exact ⟨_, [], rfl, by cases mode <;> decide, nofun⟩

theorem IsMethod.isClosed (isMethod : IsMethod lexemes) : IsClosed lexemes := by
  obtain ⟨name, argument, rfl, -, outside⟩ := isMethod.parts
  exact (isClosed_of_not_mem outside).parenthesized.cons (word_ne_mark name '(')

/-- Methods one after another are closed. -/
theorem Methods.isClosed {first last : Schema} (applied : Methods lexemes first last) :
    IsClosed lexemes := by
  induction applied with
  | nil => exact isClosed_nil
  | cons applied others hypothesis =>
    exact ((IsMethod.isClosed ⟨_, _, applied⟩).append hypothesis).cons (by decide)

/-- No constructor has the name of a method. -/
theorem Arguments.not_mem_methodNames {Item : List Lexeme → Schema → Prop} {name : String}
    {shape : Shape Schema} (constructed : Arguments Item name lexemes shape) :
    name ∉ methodNames := by
  cases constructed <;> decide

/-- The arguments of a constructor are closed if the expressions among them are. -/
theorem Arguments.isClosed {name : String} {shape : Shape Schema}
    (constructed : Arguments Expression name lexemes shape)
    (parts : ∀ inner schema, inner <:+: lexemes → Expression inner schema → IsClosed inner) :
    IsClosed lexemes := by
  cases constructed with
  | array written => exact parts _ _ (List.infix_refl _) written
  | record written => exact parts _ _ (List.infix_refl _) written
  | @keyedRecord keys lexemes key value keyWritten written =>
    have value := parts _ _ ⟨keys ++ [mark ','], [], by simp⟩ written
    exact (parts _ _ ⟨[], mark ',' :: lexemes, rfl⟩ keyWritten).append (value.cons (by decide))
  | object members =>
    have inner := members.isClosed fun inner field within single => by
      rcases single with ⟨named, held⟩ | ⟨named, held⟩
      · have inside := (List.infix_cons (List.infix_cons (List.infix_refl _))).trans within
        have closed := parts _ _ (infix_enclosed _ _ inside) held
        exact (closed.cons (by decide)).cons (named.ne_mark '(')
      · have inside :=
          (List.infix_cons (List.infix_cons (List.infix_cons (List.infix_refl _)))).trans within
        have closed := parts _ _ (infix_enclosed _ _ inside) held
        exact ((closed.cons (by decide)).cons (by decide)).cons (named.ne_mark '(')
    exact inner.enclosed (by decide) (by decide)
  | enum nonempty written =>
    exact (written.isClosed fun _ _ _ single => single.isClosed).enclosed (by decide) (by decide)
  | union written =>
    have inner := written.isClosed fun inner schema within single =>
      parts inner schema (infix_enclosed _ _ within) single
    exact inner.enclosed (by decide) (by decide)
  | literal written => exact written.isClosed
  | _ => exact isClosed_of_forall (by decide)

/-- The lexemes of an expression close as many parentheses as they open, from any place on. -/
theorem Expression.isClosed {schema : Schema} (written : Expression lexemes schema) :
    IsClosed lexemes := by
  induction length : lexemes.length using Nat.strongRecOn generalizing lexemes schema with
  | ind count hypothesis =>
    subst length
    obtain @⟨name, arguments, methods, shape, schema, constructed, decorated⟩ := written
    have inner : IsClosed arguments := constructed.isClosed fun inner schema within single => by
      refine hypothesis inner.length ?_ single rfl
      have := within.length_le
      simp only [List.length_cons, List.length_append]
      omega
    have whole := inner.parenthesized.append decorated.isClosed
    rw [List.cons_append, List.append_assoc] at whole
    exact ((whole.cons (word_ne_mark _ _)).cons (by decide)).cons (word_ne_mark _ _)

/-! ### Methods in a row -/

/-- Tied lexemes that close what they open may be followed by tied ones. -/
theorem IsTied.append (tied : IsTied lexemes)
    (balanced : lexemes.count (mark ')') = lexemes.count (mark '(')) (tied' : IsTied rest) :
    IsTied (lexemes ++ rest) := by
  intro before separator after same separates
  rcases List.append_eq_append_iff.mp same with ⟨before', rfl, split⟩ | ⟨inner, split, follows⟩
  · have fewer := tied' before' separator after split separates
    rw [List.count_append, List.count_append, balanced]
    exact Nat.add_lt_add_left fewer _
  · cases inner with
    | nil =>
      have fewer := tied' [] separator after follows.symm separates
      exact absurd fewer (Nat.lt_irrefl 0)
    | cons other inner =>
      cases follows
      exact tied before separator inner split separates

/-- Behind the point of a method, all separators are within its parentheses. -/
theorem IsMethod.isTied (isMethod : IsMethod lexemes) : IsTied (mark '.' :: lexemes) := by
  obtain ⟨name, argument, rfl, -, outside⟩ := isMethod.parts
  intro before separator after same separates
  -- The first three lexemes separate nothing.
  match before, same with
  | [], same => cases same; exact absurd separates (by decide)
  | [_], same => cases same; exact absurd separates (by simp [separators, word, mark])
  | [_, _], same => cases same; exact absurd separates (by decide)
  | _ :: _ :: _ :: inner, same =>
    obtain ⟨rfl, rfl, rfl, split⟩ : mark '.' = _ ∧ word name = _ ∧ mark '(' = _ ∧
      argument ++ [mark ')'] = inner ++ separator :: after := by
        simpa [callWith] using same
    have within : inner <+: argument := by
      refine List.prefix_of_prefix_length_le ⟨separator :: after, split.symm⟩ ⟨[mark ')'], rfl⟩ ?_
      have lengths := congrArg List.length split
      simp only [List.length_append, List.length_cons, List.length_nil] at lengths
      omega
    have none : inner.count (mark ')') = 0 := List.count_eq_zero.mpr fun member =>
      outside _ (within.subset member) (by decide)
    have opened : [mark '.', word name, mark '('].count (mark '(') = 1 := by simp [word, mark]
    have closed : [mark '.', word name, mark '('].count (mark ')') = 0 := by simp [word, mark]
    show ([mark '.', word name, mark '('] ++ inner).count (mark ')') <
      ([mark '.', word name, mark '('] ++ inner).count (mark '(')
    rw [List.count_append, List.count_append, opened, closed, none]
    exact Nat.lt_add_right _ Nat.zero_lt_one

/-- A method closes as many parentheses as it opens. -/
theorem IsMethod.balanced (isMethod : IsMethod lexemes) :
    lexemes.count (mark ')') = lexemes.count (mark '(') := by
  obtain ⟨name, argument, rfl, -, outside⟩ := isMethod.parts
  have opens : argument.count (mark '(') = 0 := List.count_eq_zero.mpr fun member =>
    outside _ member (by decide)
  have closes : argument.count (mark ')') = 0 := List.count_eq_zero.mpr fun member =>
    outside _ member (by decide)
  show ([word name, mark '('] ++ (argument ++ [mark ')'])).count (mark ')') =
    ([word name, mark '('] ++ (argument ++ [mark ')'])).count (mark '(')
  simp only [List.count_append, opens, closes]
  simp [word, mark]

/-- Methods in a row, each behind a point. -/
def row (methods : List (List Lexeme)) : List Lexeme :=
  methods.flatMap (mark '.' :: ·)

variable {methods : List (List Lexeme)}

/-- In a row of methods all separators are within parentheses. -/
theorem isTied_row (each : ∀ method ∈ methods, IsMethod method) : IsTied (row methods) := by
  induction methods with
  | nil => exact fun before separator after same => by simp [row] at same
  | cons method methods hypothesis =>
    obtain ⟨isMethod, others⟩ := List.forall_mem_cons.mp each
    rw [row, List.flatMap_cons]
    refine isMethod.isTied.append ?_ (hypothesis others)
    rw [List.count_cons_of_ne (by decide), List.count_cons_of_ne (by decide), isMethod.balanced]

/-- Lexemes that begin with a point, and with more parentheses open at each separator, are within an
item or past the separator behind it. -/
theorem IsTied.inside {item chunk before after : List Lexeme} {separator : Lexeme}
    (tied : IsTied chunk) (point : chunk.head? = some (mark '.')) (closed : IsClosed item)
    (separates : separator ∈ separators)
    (same : item ++ separator :: rest = before ++ (chunk ++ after)) :
    (∃ last, item = before ++ (chunk ++ last) ∧ after = last ++ separator :: rest) ∨
      ∃ first, before = item ++ separator :: first ∧ rest = first ++ (chunk ++ after) := by
  have pointed : separator ≠ mark '.' := by
    rintro rfl
    exact absurd separates (by decide)
  obtain ⟨tail, rfl⟩ : ∃ tail, chunk = mark '.' :: tail := List.head?_eq_some_iff.mp point
  rcases List.append_eq_append_iff.mp same with ⟨first, behind, split⟩ | ⟨last, split, follows⟩
  · cases first with
    | nil => exact absurd (List.cons.inj split).1 pointed
    | cons other first =>
      obtain ⟨rfl, rest⟩ := List.cons.inj split
      exact .inr ⟨first, behind, rest⟩
  · rcases List.append_eq_append_iff.mp follows with ⟨last', rfl, behind⟩ | ⟨beyond, cut, behind⟩
    · exact .inl ⟨last', split, behind⟩
    · cases beyond with
      | nil => exact .inl ⟨[], by simpa [cut] using split, by simpa using behind.symm⟩
      | cons other beyond =>
        -- The item would end where more parentheses are open than it closes.
        obtain ⟨rfl, -⟩ := List.cons.inj behind
        have fewer := tied last _ beyond cut separates
        exact absurd (closed last ⟨before, split.symm⟩) (Nat.not_le_of_lt fewer)

end TableSchema.Grammar
