import TableSchema.Proofs.Schema.Writing

/-! # Texts and keys in their places

A place is a schema as a function of the content of one of its texts, or of one of its keys. The
lexemes of the schema are the same for every content, but for one string or name that stands for the
content (`Schema.Place.hasPlace`), so no content of a text or key changes how the text of the schema
is cut into tokens around it (`Schema.scan_render_place`).
-/

namespace TableSchema

open Lexeme

namespace Lexeme

/-! ### Lexemes around one -/

/-- What a content stands for. -/
inductive Role where
  /-- A text, as a value. -/
  | text
  /-- A key of a dictionary or an object. -/
  | key
deriving DecidableEq

/-- The lexeme of a content. -/
def Role.lexeme : Role → String → Lexeme
  | .text, content => string (Text.quote false content.toList)
  | .key, content => Text.keyLexeme content

/-- The groups of tokens that a content may stand for. -/
def Role.groups : Role → List Token.Group
  | .text => [.string]
  | .key => [.name, .string]

/-- The lexeme of a role is of one of the groups of the role. -/
theorem Role.group_lexeme (role : Role) (content : String) :
    (role.lexeme content).group ∈ role.groups := by
  cases role with
  | text => exact List.mem_singleton_self _
  | key =>
    rw [lexeme, Text.keyLexeme]
    split <;> simp [word, string, groups]

/-- Whether lexemes depend on a content in one lexeme only, which is that of the content. -/
def HasPlace (role : Role) (lexemes : String → Option (List Lexeme)) : Prop :=
  ∃ before after, ∀ content,
    lexemes content = join before (join (some [role.lexeme content]) after)

variable {role : Role} {lexemes : String → Option (List Lexeme)}

/-- A place stays one behind further lexemes. -/
theorem HasPlace.join_left (place : HasPlace role lexemes) (before : Option (List Lexeme)) :
    HasPlace role fun content => join before (lexemes content) := by
  obtain ⟨before', after, same⟩ := place
  refine ⟨join before before', after, fun content => ?_⟩
  simp only [same, join_assoc]

/-- A place stays one in front of further lexemes. -/
theorem HasPlace.join_right (place : HasPlace role lexemes) (after : Option (List Lexeme)) :
    HasPlace role fun content => join (lexemes content) after := by
  obtain ⟨before, after', same⟩ := place
  refine ⟨before, join after' after, fun content => ?_⟩
  simp only [same, join_assoc]

/-- Lexemes may be put around those with a place. -/
theorem HasPlace.wrap (place : HasPlace role lexemes) {wrap : List Lexeme → List Lexeme}
    (before after : List Lexeme) (wraps : ∀ inner, wrap inner = before ++ (inner ++ after)) :
    HasPlace role fun content => (lexemes content).map wrap := by
  have around (inner : Option (List Lexeme)) :
      inner.map wrap = join (some before) (join inner (some after)) := by
    cases inner <;> simp [wraps]
  simp only [around]
  exact (place.join_right _).join_left _

/-! ### Lists of lexemes -/

/-- The lexemes of all of a list of texts, if each of them has some. -/
def gather (lists : List (Option (List Lexeme))) : Option (List (List Lexeme)) :=
  lists.foldr prepend (some [])

/-- Lists of lexemes that all exist are gathered. -/
theorem exists_gather {lists : List (Option (List Lexeme))}
    (all : ∀ lexemes ∈ lists, ∃ found, lexemes = some found) :
    ∃ found, gather lists = some found := by
  induction lists with
  | nil => exact ⟨[], rfl⟩
  | cons lexemes lists hypothesis =>
    obtain ⟨⟨first, rfl⟩, others⟩ := List.forall_mem_cons.mp all
    obtain ⟨rest, same⟩ := hypothesis others
    exact ⟨first :: rest, by rw [gather, List.foldr_cons, ← gather, same]; rfl⟩

/-- The first of several lists stands in front of a comma and the others. -/
theorem separated_gather_cons (first : Option (List Lexeme)) {rest : List (Option (List Lexeme))}
    (nonempty : rest ≠ []) : (gather (first :: rest)).map separated =
      join first (join (some [mark ',']) ((gather rest).map separated)) := by
  cases rest with
  | nil => exact absurd rfl nonempty
  | cons second rest =>
    have head (others : Option (List (List Lexeme))) :
        (prepend first (prepend second others)).map separated =
          join first (join (some [mark ',']) ((prepend second others).map separated)) := by
      cases first <;> cases second <;> cases others <;>
        simp [prepend, separated, List.intercalate_cons_cons]
    exact head (gather rest)

/-- Lexemes with a place may stand among others, with commas between them. -/
theorem HasPlace.separated (place : HasPlace role lexemes)
    (before after : List (Option (List Lexeme))) :
    HasPlace role fun content =>
      (gather (before ++ lexemes content :: after)).map Lexeme.separated := by
  induction before with
  | nil =>
    cases after with
    | nil =>
      have single (lexemes : Option (List Lexeme)) :
          (gather [lexemes]).map Lexeme.separated = lexemes := by
        cases lexemes <;> simp [gather, prepend, Lexeme.separated]
      simpa only [List.nil_append, single] using place
    | cons second after =>
      simp only [List.nil_append, separated_gather_cons _ (List.cons_ne_nil second after)]
      exact place.join_right _
  | cons first before hypothesis =>
    have nonempty (content : String) : before ++ lexemes content :: after ≠ [] := by simp
    simp only [List.cons_append, separated_gather_cons first (nonempty _)]
    exact (hypothesis.join_left _).join_left _

end Lexeme

/-! ### Values -/

namespace Value

/-- The lexemes of items are gathered from those of each item. -/
theorem itemLexemes_eq_gather (items : List Value) :
    itemLexemes items = gather (items.map lexemes) := by
  induction items with
  | nil => rfl
  | cons item items hypothesis => rw [itemLexemes, hypothesis]; rfl

/-- The lexemes of entries are gathered from those of each entry. -/
theorem entryLexemes_eq_gather (entries : List (String × Value)) : entryLexemes entries =
    gather (entries.map fun entry => entry.2.lexemes.map (keyed entry.1)) := by
  induction entries with
  | nil => rfl
  | cons entry entries hypothesis => rw [entryLexemes, hypothesis]; rfl

/-- A value as a function of the content of one of its texts or keys. -/
inductive Place : Role → (String → Value) → Prop
  | text : Place .text .str
  | item {role : Role} {place : String → Value} (before after : List Value)
      (inner : Place role place) :
      Place role fun content => .list (before ++ place content :: after)
  | tupleItem {role : Role} {place : String → Value} (before after : List Value)
      (inner : Place role place) :
      Place role fun content => .tuple (before ++ place content :: after)
  | key (before after : List (String × Value)) (value : Value) :
      Place .key fun content => .dict (before ++ (content, value) :: after)
  | entry {role : Role} {place : String → Value} (before after : List (String × Value))
      (key : String) (inner : Place role place) :
      Place role fun content => .dict (before ++ (key, place content) :: after)

variable {role : Role} {place : String → Value}

end Value

namespace Lexeme

variable {role : Role} {lexemes : String → Option (List Lexeme)}

/-- A key has a place. -/
theorem hasPlace_keyed_content (held : Option (List Lexeme)) :
    HasPlace .key fun content => held.map (keyed content) := by
  refine ⟨some [], held.map (mark ':' :: ·), fun content => ?_⟩
  cases held <;> rfl

theorem HasPlace.keyed (place : HasPlace role lexemes) (name : String) :
    HasPlace role fun content => (lexemes content).map (keyed name) :=
  place.wrap [Text.keyLexeme name, mark ':'] [] (by simp [Lexeme.keyed])

/-- Lexemes that stand among others with a place may be enclosed. -/
theorem HasPlace.enclosed (place : HasPlace role lexemes) (before after : List Lexeme)
    (lists : List (Option (List Lexeme))) (lists' : List (Option (List Lexeme)))
    {wrap : List (List Lexeme) → List Lexeme}
    (wraps : ∀ inner, wrap inner = before ++ (Lexeme.separated inner ++ after)) :
    HasPlace role fun content => (gather (lists ++ lexemes content :: lists')).map wrap := by
  have around (inner : Option (List (List Lexeme))) :
      inner.map wrap =
        (inner.map Lexeme.separated).map fun inner => before ++ (inner ++ after) := by
    cases inner <;> simp [wraps]
  simp only [around]
  exact (place.separated lists lists').wrap before after fun _ => rfl

end Lexeme

/-- The lexemes of a value with a place depend on its content in one lexeme only. -/
theorem Value.Place.hasPlace {role : Role} {place : String → Value} (here : Place role place) :
    HasPlace role fun content => (place content).lexemes := by
  induction here with
  | text => exact ⟨some [], some [], fun content => rfl⟩
  | item before after inner hypothesis =>
    simp only [lexemes, itemLexemes_eq_gather, List.map_append, List.map_cons]
    exact hypothesis.enclosed [mark '['] [mark ']'] _ _ fun _ => rfl
  | tupleItem before after inner hypothesis =>
    simp only [lexemes, itemLexemes_eq_gather, List.map_append, List.map_cons]
    exact hypothesis.enclosed [mark '['] [mark ']'] _ _ fun _ => rfl
  | key before after value =>
    simp only [lexemes, entryLexemes_eq_gather, List.map_append, List.map_cons]
    exact (hasPlace_keyed_content _).enclosed [mark '\x7b'] [mark '\x7d'] _ _ fun _ => rfl
  | entry before after key inner hypothesis =>
    simp only [lexemes, entryLexemes_eq_gather, List.map_append, List.map_cons]
    exact (hypothesis.keyed key).enclosed [mark '\x7b'] [mark '\x7d'] _ _ fun _ => rfl

/-- What holds of all items still does when one of them gives way to another of which it holds. -/
theorem forall_mem_replaced {α : Type} {holds : α → Prop} {before after : List α} {old new : α}
    (all : ∀ item ∈ before ++ old :: after, holds item) (here : holds old → holds new) :
    ∀ item ∈ before ++ new :: after, holds item := by
  obtain ⟨first, rest⟩ := List.forall_mem_append.mp all
  obtain ⟨middle, last⟩ := List.forall_mem_cons.mp rest
  exact List.forall_mem_append.mpr ⟨first, List.forall_mem_cons.mpr ⟨here middle, last⟩⟩

/-- A value stays readable whatever stands in its places. -/
theorem Value.Place.readable {role : Role} {place : String → Value} (here : Place role place)
    {content : String} (content' : String) (readable : (place content).Everywhere IsReadable) :
    (place content').Everywhere IsReadable := by
  have inside := readable.ofParts
  induction here with
  | text => exact .intro ⟨trivial, trivial⟩ (by simp [parts])
  | item before after inner hypothesis =>
    refine .intro ⟨trivial, trivial⟩ (forall_mem_replaced inside fun held => ?_)
    exact hypothesis held held.ofParts
  | tupleItem before after inner hypothesis =>
    refine .intro ⟨trivial, trivial⟩ (forall_mem_replaced inside fun held => ?_)
    exact hypothesis held held.ofParts
  | key before after value =>
    refine .intro ⟨trivial, trivial⟩ (List.forall_mem_map.mpr ?_)
    exact forall_mem_replaced (List.forall_mem_map.mp inside) id
  | entry before after key inner hypothesis =>
    refine .intro ⟨trivial, trivial⟩ (List.forall_mem_map.mpr ?_)
    refine forall_mem_replaced (List.forall_mem_map.mp inside) fun held => ?_
    exact hypothesis held held.ofParts

/-! ### Schemas -/

/-- The lexemes of refinements are gathered from those of each. -/
theorem checksLexemes_append (before after : List Check) :
    checksLexemes (before ++ after) = join (checksLexemes before) (checksLexemes after) := by
  induction before with
  | nil => cases found : checksLexemes after <;> simp [checksLexemes, found]
  | cons check before hypothesis =>
    rw [List.cons_append, checksLexemes, hypothesis, checksLexemes, join_assoc]

namespace Schema

/-- The lexemes of fields are gathered from those of each field. -/
theorem fieldLexemes_eq_gather (fields : List (String × Schema)) :
    fieldLexemes fields = gather (fields.map fun field => field.2.lexemes.map (keyed field.1)) := by
  induction fields with
  | nil => rfl
  | cons field fields hypothesis => rw [fieldLexemes, hypothesis]; rfl

/-- The lexemes of variants are gathered from those of each variant. -/
theorem variantLexemes_eq_gather (variants : List Schema) :
    variantLexemes variants = gather (variants.map lexemes) := by
  induction variants with
  | nil => rfl
  | cons variant variants hypothesis => rw [variantLexemes, hypothesis]; rfl

/-- A schema as a function of the content of one of its texts or keys. -/
inductive Place : Role → (String → Schema) → Prop
  | arrayItem {role : Role} {place : String → Schema} (marks : Decorations)
      (inner : Place role place) : Place role fun content => ⟨.array (place content), marks⟩
  | recordValue {role : Role} {place : String → Schema} (marks : Decorations)
      (inner : Place role place) : Place role fun content => ⟨.record (place content), marks⟩
  | fieldName (marks : Decorations) (before after : List (String × Schema)) (schema : Schema) :
      Place .key fun content => ⟨.object (before ++ (content, schema) :: after), marks⟩
  | field {role : Role} {place : String → Schema} (marks : Decorations)
      (before after : List (String × Schema)) (name : String) (inner : Place role place) :
      Place role fun content => ⟨.object (before ++ (name, place content) :: after), marks⟩
  | variant {role : Role} {place : String → Schema} (marks : Decorations)
      (before after : List Schema) (inner : Place role place) :
      Place role fun content => ⟨.union (before ++ place content :: after), marks⟩
  | option {role : Role} {place : String → Value} (marks : Decorations)
      (before after : List Value) (inner : Value.Place role place) :
      Place role fun content => ⟨.enum (before ++ place content :: after), marks⟩
  | literal {role : Role} {place : String → Value} (marks : Decorations)
      (inner : Value.Place role place) :
      Place role fun content => ⟨.literal [place content], marks⟩
  | default {role : Role} {place : String → Value} (shape : Shape Schema) (marks : Decorations)
      (inner : Value.Place role place) :
      Place role fun content =>
        ⟨shape, { marks with default := some { value := place content } }⟩
  | argument {role : Role} {place : String → Value} (shape : Shape Schema) (marks : Decorations)
      (before after : List Check) (name : String) (before' after' : List Value)
      (inner : Value.Place role place) :
      Place role fun content =>
        ⟨shape, { marks with
          checks := before ++ ⟨name, before' ++ place content :: after'⟩ :: after }⟩

/-- The lexemes of a schema with a place depend on its content in one lexeme only. -/
theorem Place.hasPlace {role : Role} {place : String → Schema} (here : Place role place) :
    HasPlace role fun content => (place content).lexemes := by
  have construct {role : Role} {lexemes : String → Option (List Lexeme)} (name : String)
      (place : HasPlace role lexemes) :
      HasPlace role fun content => (lexemes content).map (construction name) :=
    place.wrap [word "z", mark '.', word name, mark '('] [mark ')']
      (by simp [construction, Grammar.callWith])
  induction here with
  | arrayItem marks inner hypothesis =>
    simp only [lexemes, shapeLexemes]
    exact (construct _ hypothesis).join_right _
  | recordValue marks inner hypothesis =>
    simp only [lexemes, shapeLexemes]
    exact (construct _ hypothesis).join_right _
  | fieldName marks before after schema =>
    simp only [lexemes, shapeLexemes, fieldLexemes_eq_gather, List.map_append, List.map_cons]
    refine HasPlace.join_right ?_ _
    exact (hasPlace_keyed_content _).enclosed
      [word "z", mark '.', word "object", mark '(', mark '\x7b'] [mark '\x7d', mark ')'] _ _
      (by simp [construction, Grammar.callWith, braced])
  | field marks before after name inner hypothesis =>
    simp only [lexemes, shapeLexemes, fieldLexemes_eq_gather, List.map_append, List.map_cons]
    refine HasPlace.join_right ?_ _
    exact (hypothesis.keyed name).enclosed
      [word "z", mark '.', word "object", mark '(', mark '\x7b'] [mark '\x7d', mark ')'] _ _
      (by simp [construction, Grammar.callWith, braced])
  | variant marks before after inner hypothesis =>
    simp only [lexemes, shapeLexemes, variantLexemes_eq_gather, List.map_append, List.map_cons]
    refine HasPlace.join_right ?_ _
    exact hypothesis.enclosed
      [word "z", mark '.', word "union", mark '(', mark '['] [mark ']', mark ')'] _ _
      (by simp [construction, Grammar.callWith, bracketed])
  | option marks before after inner =>
    simp only [lexemes, shapeLexemes, Value.itemLexemes_eq_gather, List.map_append, List.map_cons]
    refine HasPlace.join_right ?_ _
    exact inner.hasPlace.enclosed
      [word "z", mark '.', word "enum", mark '(', mark '['] [mark ']', mark ')'] _ _
      (by simp [construction, Grammar.callWith, bracketed])
  | literal marks inner =>
    simp only [lexemes, shapeLexemes]
    exact (construct _ inner.hasPlace).join_right _
  | default shape marks inner =>
    simp only [lexemes, Decorations.lexemes, defaultLexemes, DefaultLiteral.lexemes]
    refine HasPlace.join_left (HasPlace.join_left (HasPlace.join_left (HasPlace.join_left
      (HasPlace.join_left ?_ _) _) _) _) _
    exact inner.hasPlace.wrap [mark '.', word "default", mark '('] [mark ')']
      (by simp [Grammar.callWith])
  | argument shape marks before after name before' after' inner =>
    simp only [lexemes, Decorations.lexemes, checksLexemes_append, checksLexemes, Check.lexemes,
      Value.itemLexemes_eq_gather, List.map_append, List.map_cons]
    refine HasPlace.join_left (HasPlace.join_right (HasPlace.join_left (HasPlace.join_right ?_ _)
      _) _) _
    exact inner.hasPlace.enclosed [mark '.', word name, mark '('] [mark ')'] _ _
      (by simp [Grammar.callWith])

/-- Whether a shape, apart from its parts, is not given as text and holds values that are read from
their literals. -/
def IsLexicalShape : Shape Schema → Prop
  | .enum options => ∀ option ∈ options, option.Everywhere Value.IsReadable
  | .literal values => ∃ value, values = [value] ∧ value.Everywhere Value.IsReadable
  | .raw _ => False
  | _ => True

/-- Whether a schema, apart from its parts, is not given as text and has known refinements, no
source text of a default, and values that are read from their literals. -/
structure IsLexical (schema : Schema) : Prop where
  checks : ∀ check ∈ schema.decorations.checks,
    check.name ∈ Expression.flagChecks ++ Expression.sizeChecks ∧
      ∀ arg ∈ check.args, arg.Everywhere Value.IsReadable
  default : ∀ literal ∈ schema.decorations.default,
    literal.text = none ∧ literal.value.Everywhere Value.IsReadable
  shape : IsLexicalShape schema.shape

variable {schema : Schema}

/-- A lexical schema is spelled with names. -/
theorem spelled_of_lexical (lexical : schema.IsLexical) : schema.IsSpelled where
  names check member := by
    have names : ∀ name ∈ Expression.flagChecks ++ Expression.sizeChecks,
        Token.IsName name.toList := by decide
    exact names _ (lexical.checks check member).1
  default literal member := by
    intro text source
    rw [(lexical.default literal member).1] at source
    cases source
  raw text isRaw := by
    have here := lexical.shape
    rw [isRaw] at here
    exact here.elim

/-- A lexical schema has a text. -/
theorem covered_of_lexical (lexical : schema.IsLexical) :
    schema.IsCovered fun _ => True where
  checks check member arg held :=
    Value.writable_of_readable ((lexical.checks check member).2 arg held)
  default literal member := by
    obtain ⟨noSource, readable⟩ := lexical.default literal member
    refine ⟨?_, fun _ _ _ _ => trivial⟩
    rw [DefaultLiteral.render, noSource]
    exact Value.exists_literal (Value.writable_of_readable readable)
  shape := by
    have here := lexical.shape
    cases shape : schema.shape with
    | enum options =>
      rw [shape] at here
      exact fun option member => Value.writable_of_readable (here option member)
    | literal values =>
      rw [shape] at here
      obtain ⟨value, rfl, readable⟩ := here
      exact ⟨value, [], rfl, Value.writable_of_readable readable⟩
    | raw text =>
      rw [shape] at here
      exact here.elim
    | _ => trivial

/-- Readable values have lexemes. -/
theorem exists_valueLexemes {values : List Value}
    (readable : ∀ value ∈ values, value.Everywhere Value.IsReadable) :
    ∃ found, Value.itemLexemes values = some found := by
  rw [Value.itemLexemes_eq_gather]
  refine exists_gather (List.forall_mem_map.mpr fun value member => ?_)
  obtain ⟨found, spelled, -⟩ := Value.literal_of_readable (readable value member)
  exact ⟨found, spelled⟩

/-- Refinements with readable arguments have lexemes. -/
theorem exists_checksLexemes {checks : List Check}
    (readable : ∀ check ∈ checks, ∀ arg ∈ check.args, arg.Everywhere Value.IsReadable) :
    ∃ found, checksLexemes checks = some found := by
  induction checks with
  | nil => exact ⟨[], rfl⟩
  | cons check checks hypothesis =>
    obtain ⟨first, others⟩ := List.forall_mem_cons.mp readable
    obtain ⟨args, spelled⟩ := exists_valueLexemes first
    obtain ⟨rest, spelledRest⟩ := hypothesis others
    exact ⟨_, by rw [checksLexemes, Check.lexemes, spelled, spelledRest]; rfl⟩

/-- The text of a lexical schema is cut into lexemes. -/
theorem exists_lexemes (lexical : schema.Everywhere IsLexical) :
    ∃ found, schema.lexemes = some found := by
  induction schema using Schema.induct with
  | step shape marks hypothesis =>
    have parts : ∀ part ∈ shape.parts, ∃ found, part.lexemes = some found :=
      fun part member => hypothesis part member (lexical.ofParts part member)
    have base : ∃ found, shapeLexemes shape = some found := by
      have here := lexical.here.shape
      cases shape with
      | array item =>
        obtain ⟨found, spelled⟩ := parts item (List.mem_singleton_self item)
        exact ⟨_, by rw [shapeLexemes, spelled]; rfl⟩
      | record value =>
        obtain ⟨found, spelled⟩ := parts value (List.mem_singleton_self value)
        exact ⟨_, by rw [shapeLexemes, spelled]; rfl⟩
      | object fields =>
        have each : ∀ lexemes ∈ fields.map fun field => field.2.lexemes.map (keyed field.1),
            ∃ found, lexemes = some found := by
          refine List.forall_mem_map.mpr fun field member => ?_
          obtain ⟨found, spelled⟩ := parts field.2 (List.mem_map_of_mem member)
          exact ⟨_, by rw [spelled]; rfl⟩
        obtain ⟨found, spelled⟩ := exists_gather each
        exact ⟨_, by rw [shapeLexemes, fieldLexemes_eq_gather, spelled]; rfl⟩
      | enum options =>
        obtain ⟨found, spelled⟩ := exists_valueLexemes here
        exact ⟨_, by rw [shapeLexemes, spelled]; rfl⟩
      | union variants =>
        obtain ⟨found, spelled⟩ : ∃ found, gather (variants.map lexemes) = some found :=
          exists_gather (List.forall_mem_map.mpr parts)
        exact ⟨_, by rw [shapeLexemes, variantLexemes_eq_gather, spelled]; rfl⟩
      | literal values =>
        obtain ⟨value, rfl, readable⟩ := here
        obtain ⟨found, spelled, -⟩ := Value.literal_of_readable readable
        exact ⟨_, by rw [shapeLexemes, spelled]; rfl⟩
      | raw text => exact here.elim
      | _ => exact ⟨_, rfl⟩
    have default : ∃ found, defaultLexemes marks.default = some found := by
      cases held : marks.default with
      | none => exact ⟨[], rfl⟩
      | some literal =>
        obtain ⟨noSource, readable⟩ := lexical.here.default literal held
        obtain ⟨found, spelled, -⟩ := Value.literal_of_readable readable
        exact ⟨_, by rw [defaultLexemes, DefaultLiteral.lexemes, noSource, spelled]; rfl⟩
    obtain ⟨base, spelledBase⟩ := base
    obtain ⟨default, spelledDefault⟩ := default
    obtain ⟨checks, spelledChecks⟩ := exists_checksLexemes fun check member =>
      (lexical.here.checks check member).2
    exact ⟨_, by rw [lexemes, Decorations.lexemes, spelledBase, spelledChecks, spelledDefault]; rfl⟩

/-- A schema stays lexical whatever stands in its places. -/
theorem Place.lexical {role : Role} {place : String → Schema} (here : Place role place)
    {content : String} (content' : String) (lexical : (place content).Everywhere IsLexical) :
    (place content').Everywhere IsLexical := by
  have top := lexical.here
  have inside := lexical.ofParts
  induction here with
  | arrayItem marks inner hypothesis =>
    have item := inside _ (List.mem_singleton_self _)
    exact .intro ⟨top.checks, top.default, trivial⟩
      (List.forall_mem_singleton.mpr (hypothesis item item.here item.ofParts))
  | recordValue marks inner hypothesis =>
    have value := inside _ (List.mem_singleton_self _)
    exact .intro ⟨top.checks, top.default, trivial⟩
      (List.forall_mem_singleton.mpr (hypothesis value value.here value.ofParts))
  | fieldName marks before after schema =>
    refine .intro ⟨top.checks, top.default, trivial⟩ (List.forall_mem_map.mpr ?_)
    exact forall_mem_replaced (List.forall_mem_map.mp inside) id
  | field marks before after name inner hypothesis =>
    refine .intro ⟨top.checks, top.default, trivial⟩ (List.forall_mem_map.mpr ?_)
    refine forall_mem_replaced (List.forall_mem_map.mp inside) fun held => ?_
    exact hypothesis held held.here held.ofParts
  | variant marks before after inner hypothesis =>
    refine .intro ⟨top.checks, top.default, trivial⟩ ?_
    refine forall_mem_replaced inside fun held => ?_
    exact hypothesis held held.here held.ofParts
  | option marks before after inner =>
    exact .intro ⟨top.checks, top.default,
      forall_mem_replaced top.shape (inner.readable content')⟩ inside
  | literal marks inner =>
    obtain ⟨value, same, readable⟩ := top.shape
    cases same
    exact .intro ⟨top.checks, top.default, _, rfl, inner.readable content' readable⟩ inside
  | default shape marks inner =>
    refine lexical.decorated ⟨top.checks, ?_, top.shape⟩
    rintro literal ⟨⟩
    exact ⟨rfl, inner.readable content' (top.default _ rfl).2⟩
  | argument shape marks before after name before' after' inner =>
    refine lexical.decorated ⟨?_, top.default, top.shape⟩
    refine forall_mem_replaced top.checks fun ⟨known, readable⟩ => ⟨known, ?_⟩
    exact forall_mem_replaced readable (inner.readable content')

/-- A lexical schema has a text, which is cut into the tokens of its lexemes. -/
theorem scan_render (lexical : schema.Everywhere IsLexical) :
    ∃ text tokens, schema.render = .ok text ∧ Token.scan text = .ok tokens ∧
      schema.lexemes = some (tokens.map Token.lexeme) := by
  obtain ⟨text, written⟩ := exists_renderChars (lexical.mono fun _ => covered_of_lexical)
  obtain ⟨found, spelled⟩ := exists_lexemes lexical
  have spells := spells_renderChars (lexical.mono fun _ => spelled_of_lexical) written
  have cut : ofText? (String.ofList text).toList = some found := by
    rw [String.toList_ofList, spells.ofText?_eq, spelled]
  obtain ⟨tokens, scanned, same⟩ := ofText?_eq_some_iff.mp cut
  refine ⟨String.ofList text, tokens, ?_, scanned, by rw [spelled, same]⟩
  rw [render, written]
  rfl

/-- The text of a lexical schema is cut into tokens, and whatever the content of a text or key in it
is, it stands for one token, a string or else a name for a key, and all other tokens are the same.
-/
theorem scan_render_place (lexical : schema.Everywhere IsLexical) :
    (∃ text tokens, schema.render = .ok text ∧ Token.scan text = .ok tokens) ∧
    ∀ role place content, Place role place → place content = schema →
      ∃ before after : List Lexeme, ∀ content', ∃ text tokens lexeme,
        (place content').render = .ok text ∧ Token.scan text = .ok tokens ∧
        tokens.map Token.lexeme = before ++ lexeme :: after ∧ lexeme.group ∈ role.groups := by
  obtain ⟨text, tokens, rendered, scanned, spelled⟩ := scan_render lexical
  refine ⟨⟨text, tokens, rendered, scanned⟩, ?_⟩
  rintro role place content here rfl
  obtain ⟨before, after, same⟩ := here.hasPlace
  have around := (same content).symm.trans spelled
  cases before with
  | none => cases around
  | some before =>
    cases after with
    | none => cases around
    | some after =>
      refine ⟨before, after, fun content' => ?_⟩
      obtain ⟨text, tokens, rendered, scanned, spelled⟩ :=
        scan_render (here.lexical content' lexical)
      refine ⟨text, tokens, role.lexeme content', rendered, scanned, ?_, role.group_lexeme content'⟩
      have same := spelled.symm.trans (same content')
      simpa using same

/-- Whatever the second option of a theme is, it is one string among the tokens. -/
theorem scan_render_place_theme :
    ∃ before after : List Lexeme, ∀ content, ∃ text tokens lexeme,
      (object [("theme", enum ["light", content])]).render = .ok text ∧
      Token.scan text = .ok tokens ∧ tokens.map Token.lexeme = before ++ lexeme :: after ∧
      lexeme.group ∈ Role.groups .text := by
  have readable (text : String) : (Value.str text).Everywhere Value.IsReadable :=
    .intro ⟨trivial, trivial⟩ nofun
  have options : (enum ["light", "dark"]).IsLexical :=
    ⟨nofun, nofun, List.forall_mem_map.mpr fun text _ => readable text⟩
  have lexical : (object [("theme", enum ["light", "dark"])]).Everywhere IsLexical :=
    .intro ⟨nofun, nofun, trivial⟩ (List.forall_mem_singleton.mpr (.intro options nofun))
  exact (scan_render_place lexical).2 .text _ "dark"
    (.field {} [] [] "theme" (.option {} [.str "light"] [] .text)) rfl

end Schema

end TableSchema
