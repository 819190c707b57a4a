import TableSchema.Proofs.Numeral.Shortest
import TableSchema.Proofs.Schema.Parts
import TableSchema.Proofs.Text.Quoted
import TableSchema.Value.Literal

/-! # The lexemes of literals

`Value.lexemes` gives the lexemes of the literal of a value without looking at its text, and
`Value.spells_literal` proves that the text spells them.
-/

namespace TableSchema

open Lexeme

/-- A computation in two steps succeeds exactly if both do. -/
theorem bind_eq_ok {ε α β : Type} {first : Except ε α} {following : α → Except ε β} {result : β} :
    (first >>= following) = .ok result ↔
      ∃ found, first = .ok found ∧ following found = .ok result := by
  cases first <;> simp [bind, Except.bind]

/-- What succeeds with another error succeeds without. -/
theorem mapError_eq_ok {ε ε' α : Type} {computed : Except ε α} {change : ε → ε'} {result : α}
    (found : computed.mapError change = .ok result) : computed = .ok result := by
  cases computed with
  | error error => cases found
  | ok value => cases found; rfl

/-- What has a result succeeds with it. -/
theorem ok_of_toOption {ε α : Type} {computed : Except ε α} {result : α}
    (found : computed.toOption = some result) : computed = .ok result := by
  cases computed with
  | error error => cases found
  | ok value => cases found; rfl

namespace Lexeme

/-- Items in brackets, with commas between them. -/
def bracketed (lists : List (List Lexeme)) : List Lexeme :=
  mark '[' :: (separated lists ++ [mark ']'])

/-- Members in braces, with commas between them. -/
def braced (lists : List (List Lexeme)) : List Lexeme :=
  mark '\x7b' :: (separated lists ++ [mark '\x7d'])

/-- A member: a key, a colon, and what stands under the key. -/
def keyed (name : String) (held : List Lexeme) : List Lexeme :=
  Text.keyLexeme name :: mark ':' :: held

end Lexeme

namespace Value

/-- The lexemes of the literal of a number. A minus before a word begins no token. -/
def numberLexemes : Binary64 → Option (List Lexeme)
  | .finite negative rank => some [number (literalNumbers.text (.finite negative rank))]
  | .infinite true => none
  | .infinite false => some [word literalNumbers.infinity]
  | .nan => some [word literalNumbers.notANumber]

mutual

/-- The lexemes of the literal of a value. -/
def lexemes : Value → Option (List Lexeme)
  | .null => some [word "null"]
  | .bool true => some [word "true"]
  | .bool false => some [word "false"]
  | .int n => some [number (integerText n)]
  | .float x => numberLexemes x
  | .str text => some [string (Text.quote false text.toList)]
  | .list items => (itemLexemes items).map bracketed
  | .tuple items => (itemLexemes items).map bracketed
  | .bytes _ => none
  | .dict entries => (entryLexemes entries).map braced
  | .formatted _ _ => none

/-- The lexemes of the literals of a list of values. -/
def itemLexemes : List Value → Option (List (List Lexeme))
  | [] => some []
  | item :: items => prepend (lexemes item) (itemLexemes items)

/-- The lexemes of the members of a dictionary. -/
def entryLexemes : List (String × Value) → Option (List (List Lexeme))
  | [] => some []
  | (key, value) :: entries =>
    prepend ((lexemes value).map (keyed key)) (entryLexemes entries)

end

end Value

namespace Lexeme

variable {text : List Char} {texts : List (List Char)} {lexemes : Option (List Lexeme)}
  {lists : Option (List (List Lexeme))}

/-- A key and what stands under it. -/
theorem Spells.keyed (spells : Spells text lexemes) (name : String) :
    Spells (Text.objectKey name ++ [':', ' '] ++ text) (lexemes.map (keyed name)) := by
  have held := (spells.blank_cons (c := ' ') (by decide)).stop_cons (c := ':') (by decide)
  have whole := (Text.spells_objectKey name).append held fun rest _ =>
    Token.breaks_stop (by decide) _
  have same : join (some [Text.keyLexeme name]) (join (some [mark ':']) lexemes) =
      lexemes.map (Lexeme.keyed name) := by
    cases lexemes <;> rfl
  rw [same] at whole
  rw [List.append_assoc]
  exact whole

/-- Texts with commas between them spell their lexemes with commas between them. -/
theorem SpellsAll.separated (spells : SpellsAll texts lists) :
    Spells (TableSchema.commaSeparated texts) (lists.map Lexeme.separated) :=
  spells.intercalate [' '] (Text.forall_of_all (by decide))

/-- A bracketed list of texts spells their lexemes in brackets. -/
theorem SpellsAll.bracketed (spells : SpellsAll texts lists) :
    Spells ('[' :: (TableSchema.commaSeparated texts ++ [']'])) (lists.map bracketed) := by
  have whole := (spells.separated.append_stop (c := ']') (by decide)).stop_cons (c := '[')
    (by decide)
  cases lists <;> simpa [Lexeme.bracketed] using whole

/-- Blanks at both ends of what stands in braces add nothing. -/
theorem Spells.braced (spells : Spells text (lists.map Lexeme.separated)) (blank : Char)
    (isBlank : Text.isBlank blank = true) :
    Spells ('\x7b' :: blank :: (text ++ [blank, '\x7d'])) (lists.map braced) := by
  have closed := spells.append (((spells_nil.stop_cons (c := '\x7d') (by decide)).blank_cons
    isBlank)) fun rest _ => Token.breaks_blank isBlank _
  have whole := (closed.blank_cons isBlank).stop_cons (c := '\x7b') (by decide)
  cases lists <;> simpa [Lexeme.braced] using whole

end Lexeme

namespace Value

/-- Items have literals exactly if the first one has one and the others have. -/
theorem literals_cons_ok {item : Value} {items : List Value} {texts : List (List Char)} :
    literals (item :: items) = .ok texts ↔ ∃ text others, item.literal = .ok text ∧
      literals items = .ok others ∧ texts = text :: others := by
  simp only [literals, bind_eq_ok]
  constructor
  · rintro ⟨text, first, others, rest, same⟩
    exact ⟨text, others, first, rest, by cases same; rfl⟩
  · rintro ⟨text, others, first, rest, rfl⟩
    exact ⟨text, first, others, rest, rfl⟩

/-- Entries have literals exactly if the first value has one and the others have. -/
theorem memberLiterals_cons_ok {key : String} {value : Value} {entries : List (String × Value)}
    {texts : List (List Char)} :
    memberLiterals ((key, value) :: entries) = .ok texts ↔ ∃ text others,
      value.literal = .ok text ∧ memberLiterals entries = .ok others ∧
      texts = (Text.objectKey key ++ [':', ' '] ++ text) :: others := by
  simp only [memberLiterals, bind_eq_ok]
  constructor
  · rintro ⟨text, first, others, rest, same⟩
    exact ⟨text, others, first, rest, by cases same; rfl⟩
  · rintro ⟨text, others, first, rest, rfl⟩
    exact ⟨text, first, others, rest, rfl⟩

/-- The literals of items spell the lexemes of the items if each of them does. -/
theorem spellsAll_literals {items : List Value} {texts : List (List Char)}
    (spells : ∀ item ∈ items, ∀ {text}, item.literal = .ok text → Spells text item.lexemes)
    (written : literals items = .ok texts) : SpellsAll texts (itemLexemes items) := by
  induction items generalizing texts with
  | nil =>
    cases written
    exact .nil
  | cons item items hypothesis =>
    obtain ⟨text, others, first, rest, rfl⟩ := literals_cons_ok.mp written
    obtain ⟨spellsItem, spellsItems⟩ := List.forall_mem_cons.mp spells
    exact .cons (spellsItem first) (hypothesis spellsItems rest)

/-- The literals of entries spell the lexemes of the entries if those of the values do. -/
theorem spellsAll_memberLiterals {entries : List (String × Value)} {texts : List (List Char)}
    (spells : ∀ value ∈ entries.map Prod.snd, ∀ {text}, value.literal = .ok text →
      Spells text value.lexemes)
    (written : memberLiterals entries = .ok texts) : SpellsAll texts (entryLexemes entries) := by
  induction entries generalizing texts with
  | nil =>
    cases written
    exact .nil
  | cons entry entries hypothesis =>
    obtain ⟨key, value⟩ := entry
    obtain ⟨text, others, first, rest, rfl⟩ := memberLiterals_cons_ok.mp written
    obtain ⟨spellsValue, spellsValues⟩ := List.forall_mem_cons.mp spells
    exact .cons ((spellsValue first).keyed key) (hypothesis spellsValues rest)

/-- A minus before a word begins no token. -/
theorem spells_minus {name : List Char} (isName : Token.IsName name) :
    Spells ('-' :: name) none := by
  intro rest _
  obtain ⟨c, tail, rfl, start, -⟩ := isName
  have run : Text.digitRun (c :: (tail ++ rest)) = [] :=
    List.takeWhile_cons_of_neg (by simp [Text.isDigit_of_isKeyStart start])
  have point : c ≠ '.' := by rintro rfl; exact absurd start (by decide)
  have noFraction : Token.fraction? (c :: (tail ++ rest)) = none := by
    rw [Token.fraction?]
    intro more same
    cases same
    exact point rfl
  have unread : Token.lexeme? ('-' :: c :: (tail ++ rest)) = none := by
    simp [Token.lexeme?, Token.number?, Token.unsigned?, Token.mantissa?, run, noFraction,
      Token.string?, Token.name?, Token.punctuation?, Token.punctuation]
    decide
  exact ofText?_stray (by decide) unread

/-- The text of a floating point number spells its lexemes. -/
theorem spells_number_text (x : Binary64) : Spells (literalNumbers.text x) (numberLexemes x) := by
  have infinity : Token.IsName literalNumbers.infinity.toList := (by decide)
  have notANumber : Token.IsName literalNumbers.notANumber.toList := (by decide)
  cases x with
  | finite negative rank =>
    exact spells_number (Numeral.number?_literalNumbers_text negative rank)
  | infinite negative =>
    cases negative with
    | true => exact spells_minus infinity
    | false => exact spells_name infinity
  | nan => exact spells_name notANumber

/-- A name spells itself. -/
theorem isName_word (text : String) (name : Token.IsName text.toList) :
    Spells text.toList (some [word text]) := by
  have spells := spells_name name
  rwa [String.ofList_toList] at spells

/-- The literal of a value spells its lexemes. -/
theorem spells_literal (value : Value) {text : List Char} (written : value.literal = .ok text) :
    Spells text value.lexemes := by
  induction value using Value.induct generalizing text with
  | step value hypothesis =>
    cases value with
    | null =>
      cases written
      exact isName_word _ (by decide)
    | bool truth =>
      cases truth with
      | true =>
        cases written
        exact isName_word _ (by decide)
      | false =>
        cases written
        exact isName_word _ (by decide)
    | int n =>
      rw [literal, integerLiteral] at written
      split at written
      · cases written
        exact spells_number (Numeral.number?_integerText n)
      · cases written
    | float x =>
      cases written
      exact spells_number_text x
    | str text =>
      cases written
      exact spells_string (Text.string?_quote false text.toList)
    | list items =>
      obtain ⟨texts, items, same⟩ := bind_eq_ok.mp written
      cases same
      exact (spellsAll_literals hypothesis items).bracketed
    | tuple items =>
      obtain ⟨texts, items, same⟩ := bind_eq_ok.mp written
      cases same
      exact (spellsAll_literals hypothesis items).bracketed
    | bytes octets => cases written
    | dict entries =>
      cases entries with
      | nil =>
        cases written
        exact (spells_nil.stop_cons (c := '\x7d') (by decide)).stop_cons (c := '\x7b') (by decide)
      | cons entry entries =>
        obtain ⟨texts, members, same⟩ := bind_eq_ok.mp written
        cases same
        exact (spellsAll_memberLiterals hypothesis members).separated.braced ' '
          (by decide)
    | formatted format text => cases written

end Value

end TableSchema
