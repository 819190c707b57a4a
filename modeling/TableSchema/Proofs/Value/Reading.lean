import TableSchema.Proofs.Grammar
import TableSchema.Proofs.Value.Lexemes

/-! # Reading literals

`Value.reread` is what the literal of a value reads as: texts and keys as their escapes read, a
tuple as a list, and a dictionary as the assignments of its entries. `Value.literal_of_readable`
proves that the grammar gives it to the lexemes of the literal, for every value without bytes,
formatted texts, numbers that are not finite and integers that are too long.
-/

namespace TableSchema

open Lexeme Grammar

namespace Value

mutual

/-- What the literal of a value reads as. -/
def reread : Value → Value
  | .str text => .str (Text.reread false text)
  | .list items => .list (rereadItems items)
  | .tuple items => .list (rereadItems items)
  | .dict entries => .dict (Entries.ofList (rereadEntries entries))
  | value => value

/-- What the literals of a list of values read as. -/
def rereadItems : List Value → List Value
  | [] => []
  | item :: items => reread item :: rereadItems items

/-- What the members of a dictionary read as. -/
def rereadEntries : List (String × Value) → List (String × Value)
  | [] => []
  | (key, value) :: entries => (Text.rereadKey key, reread value) :: rereadEntries entries

end

/-- Items read as what each of them reads as. -/
theorem rereadItems_eq_map (items : List Value) : rereadItems items = items.map reread := by
  induction items with
  | nil => rfl
  | cons item items hypothesis => rw [rereadItems, hypothesis, List.map_cons]

/-- Entries read as what each key and value reads as. -/
theorem rereadEntries_eq_map (entries : List (String × Value)) :
    rereadEntries entries = entries.map fun entry => (Text.rereadKey entry.1, reread entry.2) := by
  induction entries with
  | nil => rfl
  | cons entry entries hypothesis => rw [rereadEntries, hypothesis, List.map_cons]

/-- Whether a value, apart from its parts, has a literal. -/
def IsWritable : Value → Prop
  | .int n => n.natAbs < 10 ^ integerDigitLimit
  | .bytes _ => False
  | .formatted _ _ => False
  | _ => True

/-- Whether a value, apart from its parts, is no number that is infinite or not a number. -/
def IsFinite : Value → Prop
  | .float x => ∃ negative rank, x = .finite negative rank
  | _ => True

/-- Whether a value, apart from its parts, has a literal that is read. -/
def IsReadable (value : Value) : Prop :=
  value.IsWritable ∧ value.IsFinite

/-- Items have literals if each of them has one. -/
theorem exists_literals {items : List Value}
    (parts : ∀ item ∈ items, ∃ text, item.literal = .ok text) :
    ∃ texts, literals items = .ok texts := by
  induction items with
  | nil => exact ⟨[], rfl⟩
  | cons item items hypothesis =>
    obtain ⟨⟨text, first⟩, others⟩ := List.forall_mem_cons.mp parts
    obtain ⟨texts, rest⟩ := hypothesis others
    exact ⟨_, literals_cons_ok.mpr ⟨text, texts, first, rest, rfl⟩⟩

/-- Entries have literals if each value has one. -/
theorem exists_memberLiterals {entries : List (String × Value)}
    (parts : ∀ value ∈ entries.map Prod.snd, ∃ text, value.literal = .ok text) :
    ∃ texts, memberLiterals entries = .ok texts := by
  induction entries with
  | nil => exact ⟨[], rfl⟩
  | cons entry entries hypothesis =>
    obtain ⟨⟨text, first⟩, others⟩ := List.forall_mem_cons.mp parts
    obtain ⟨texts, rest⟩ := hypothesis others
    exact ⟨_, memberLiterals_cons_ok.mpr ⟨text, texts, first, rest, rfl⟩⟩

/-- A value whose parts have literals has one. -/
theorem exists_literal {value : Value} (writable : value.Everywhere IsWritable) :
    ∃ text, value.literal = .ok text := by
  induction writable with
  | @intro value here below hypothesis =>
    cases value with
    | bool truth => cases truth <;> exact ⟨_, rfl⟩
    | int n =>
      have short : n.natAbs < 10 ^ integerDigitLimit := here
      exact ⟨_, by rw [literal, integerLiteral, Nat.pow_eq, if_pos short]⟩
    | list items =>
      obtain ⟨texts, written⟩ := exists_literals hypothesis
      exact ⟨_, bind_eq_ok.mpr ⟨texts, written, rfl⟩⟩
    | tuple items =>
      obtain ⟨texts, written⟩ := exists_literals hypothesis
      exact ⟨_, bind_eq_ok.mpr ⟨texts, written, rfl⟩⟩
    | dict entries =>
      cases entries with
      | nil => exact ⟨_, rfl⟩
      | cons entry entries =>
        obtain ⟨texts, written⟩ := exists_memberLiterals hypothesis
        exact ⟨_, bind_eq_ok.mpr ⟨texts, written, rfl⟩⟩
    | bytes octets => exact here.elim
    | formatted format text => exact here.elim
    | _ => exact ⟨_, rfl⟩

end Value

namespace Lexeme

variable {α : Type}

/-- Lists of lexemes, each of which the grammar gives to one item. -/
inductive AllGive (Item : List Lexeme → α → Prop) : List (List Lexeme) → List α → Prop
  | nil : AllGive Item [] []
  | cons {lexemes : List Lexeme} {lists : List (List Lexeme)} {item : α} {items : List α}
      (first : Item lexemes item) (others : AllGive Item lists items) :
      AllGive Item (lexemes :: lists) (item :: items)

/-- Items with commas between them are separated items. -/
theorem AllGive.separated {Item : List Lexeme → α → Prop} {lists : List (List Lexeme)}
    {items : List α} (all : AllGive Item lists items) : Separated Item (separated lists) items := by
  induction all with
  | nil => exact .nil
  | @cons lexemes lists item items first others hypothesis =>
    cases others with
    | nil =>
      rw [Lexeme.separated, List.intercalate_singleton]
      exact .last first
    | cons second others =>
      rw [Lexeme.separated, List.intercalate_cons_cons, List.append_assoc]
      exact .cons first hypothesis

end Lexeme

namespace Value

/-- What a number is read as is what the grammar gives to it. -/
theorem numeral_of_value {text : String} {value : Value}
    (read : Numeral.value text.toList = .ok value) : numeral text = value := by
  unfold Numeral.value at read
  unfold numeral
  split at read
  · next integral =>
    rw [if_pos integral]
    unfold Numeral.toInt at read
    split at read
    · cases read
    · cases read
      rfl
  · next inexact =>
    cases read
    rw [if_neg inexact]

/-- A number is what its literal reads as. -/
theorem reread_of_numeral {text : List Char} {value : Value}
    (read : Numeral.value text = .ok value) : value.reread = value := by
  unfold Numeral.value at read
  split at read
  · obtain ⟨n, -, rfl⟩ : ∃ n, (Numeral.ofText text).toInt = .ok n ∧ value = .int n := by
      cases found : (Numeral.ofText text).toInt with
      | error long => rw [found] at read; cases read
      | ok n => rw [found] at read; cases read; exact ⟨n, rfl, rfl⟩
    rfl
  · cases read
    rfl

/-- A number that can be read is a literal. -/
theorem literal_number {text : List Char} {value : Value}
    (read : Numeral.value text = .ok value) : Literal [number text] value := by
  have same : numeral (String.ofList text) = value :=
    numeral_of_value (by rw [String.toList_ofList]; exact read)
  rw [← same]
  exact .number _

/-- Items that read are literals of the grammar. -/
theorem allGive_items {items : List Value}
    (parts : ∀ item ∈ items, ∃ lexemes, item.lexemes = some lexemes ∧ Literal lexemes item.reread) :
    ∃ lists, itemLexemes items = some lists ∧ AllGive Literal lists (rereadItems items) := by
  induction items with
  | nil => exact ⟨[], rfl, .nil⟩
  | cons item items hypothesis =>
    obtain ⟨⟨lexemes, spelled, read⟩, others⟩ := List.forall_mem_cons.mp parts
    obtain ⟨lists, spelledAll, readAll⟩ := hypothesis others
    refine ⟨lexemes :: lists, ?_, .cons read readAll⟩
    rw [itemLexemes, spelled, spelledAll]
    rfl

/-- Entries whose values read are pairs of the grammar. -/
theorem allGive_entries {entries : List (String × Value)}
    (parts : ∀ value ∈ entries.map Prod.snd,
      ∃ lexemes, value.lexemes = some lexemes ∧ Literal lexemes value.reread) :
    ∃ lists, entryLexemes entries = some lists ∧
      AllGive (Pair Literal) lists (rereadEntries entries) := by
  induction entries with
  | nil => exact ⟨[], rfl, .nil⟩
  | cons entry entries hypothesis =>
    obtain ⟨⟨lexemes, spelled, read⟩, others⟩ := List.forall_mem_cons.mp parts
    obtain ⟨lists, spelledAll, readAll⟩ := hypothesis others
    refine ⟨keyed entry.1 lexemes :: lists, ?_, .cons ?_ readAll⟩
    · rw [entryLexemes, spelled, spelledAll]
      rfl
    · exact .pair (Text.key_keyLexeme entry.1) read

/-- The grammar gives to the lexemes of a literal what the literal reads as. -/
theorem literal_of_readable {value : Value} (readable : value.Everywhere IsReadable) :
    ∃ lexemes, value.lexemes = some lexemes ∧ Literal lexemes value.reread := by
  induction readable with
  | @intro value here below hypothesis =>
    cases value with
    | null => exact ⟨_, rfl, .null⟩
    | bool truth =>
      cases truth with
      | true => exact ⟨_, rfl, .true⟩
      | false => exact ⟨_, rfl, .false⟩
    | int n => exact ⟨_, rfl, literal_number (Numeral.value_integerText here.1)⟩
    | float x =>
      obtain ⟨negative, rank, rfl⟩ := here.2
      exact ⟨_, rfl, literal_number (Numeral.value_literalNumbers_text negative rank)⟩
    | str text =>
      refine ⟨_, rfl, ?_⟩
      rw [reread, ← Text.content_quote]
      exact .string _
    | list items =>
      obtain ⟨lists, spelled, read⟩ := @allGive_items items hypothesis
      exact ⟨bracketed lists, by rw [lexemes, spelled]; rfl, .list read.separated⟩
    | tuple items =>
      obtain ⟨lists, spelled, read⟩ := @allGive_items items hypothesis
      exact ⟨bracketed lists, by rw [lexemes, spelled]; rfl, .list read.separated⟩
    | dict entries =>
      obtain ⟨lists, spelled, read⟩ := allGive_entries hypothesis
      exact ⟨braced lists, by rw [lexemes, spelled]; rfl, .dict read.separated⟩
    | bytes octets => exact here.1.elim
    | formatted format text => exact here.1.elim

end Value

end TableSchema
