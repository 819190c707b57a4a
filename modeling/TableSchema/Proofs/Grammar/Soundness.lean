import TableSchema.Proofs.Grammar.Reader

/-! # What is read is in the grammar

Every reader takes lexemes off its tokens that the grammar gives to the result, and no integer among
them is too long (`Expression.Sound`). Readers of nested things are sound for every depth, by
induction on the depth: what is one level below is sound already.
-/

namespace TableSchema

namespace Lexeme

theorem isShort_mark (c : Char) : (mark c).IsShort := nofun

theorem isShort_word (text : String) : (word text).IsShort := nofun

theorem isShort_string (text : String) : Lexeme.IsShort ⟨.string, text⟩ := nofun

theorem isShort_of_key {lexeme : Lexeme} {name : String} (named : Grammar.Key lexeme name) :
    lexeme.IsShort := by
  cases named <;> exact nofun

end Lexeme

namespace Expression

open Lexeme Grammar

variable {α : Type} {tokens rest : List Token}

/-- The tokens that a reader takes have the given lexemes, none of them too long. -/
def Takes (Item : List Lexeme → α → Prop) (tokens : List Token) (result : α)
    (rest : List Token) : Prop :=
  ∃ used, tokens = used ++ rest ∧ Item (used.map Token.lexeme) result ∧
    ∀ token ∈ used, token.lexeme.IsShort

/-- A reader takes only what the grammar gives to its result. -/
def Sound (reader : Reader α) (Item : List Lexeme → α → Prop) : Prop :=
  ∀ {tokens rest : List Token} {result : α}, (∀ token ∈ tokens, token.lexeme.IsProper) →
    reader tokens = .ok (result, rest) → Takes Item tokens result rest

variable {Item : List Lexeme → α → Prop} {item : Reader α}

/-- What the grammar makes of the same lexemes is taken with them. -/
theorem Takes.map {β : Type} {Whole : List Lexeme → β → Prop} {result : α} {made : β}
    (taken : Takes Item tokens result rest)
    (whole : ∀ {lexemes}, Item lexemes result → Whole lexemes made) :
    Takes Whole tokens made rest := by
  obtain ⟨used, rfl, written, short⟩ := taken
  exact ⟨used, rfl, whole written, short⟩

/-- One token with a lexeme that the grammar gives to the result. -/
theorem takes_one {token : Token} {lexeme : Lexeme} {result : α} (same : token.lexeme = lexeme)
    (written : Item [lexeme] result) (short : lexeme.IsShort) :
    Takes Item (token :: rest) result rest := by
  subst same
  exact ⟨[token], rfl, written, List.forall_mem_singleton.mpr short⟩

/-- What is made of a result is sound if the grammar gives it to the same lexemes. -/
theorem Sound.map {β : Type} {Whole : List Lexeme → β → Prop} {finish : α → β}
    (sound : Sound item Item)
    (whole : ∀ {lexemes result}, Item lexemes result → Whole lexemes (finish result)) :
    Sound (do return finish (← item)) Whole := by
  intro tokens rest result proper read
  simp only [bind_eq_ok, pure_eq_ok] at read
  obtain ⟨found, middle, readItem, rfl, rfl⟩ := read
  exact (sound proper readItem).map whole

/-! ### Lists of items -/

/-- Where the closing token stands, there are no more items. -/
theorem separated_of_leads (proper : ∀ token ∈ tokens, token.lexeme.IsProper) {close : Char}
    (known : close ∈ Token.punctuation) (leads : Leads close tokens) {bound : Nat} {items : List α}
    (read : separated (String.ofList [close]) item bound tokens = .ok (items, rest)) :
    items = [] ∧ ∃ token, tokens = token :: rest ∧ token.lexeme = mark close := by
  cases bound with
  | zero => exact absurd read throw_ne_ok
  | succ bound =>
    rw [separated_succ, sees_bind, (head?_any_isWord proper known).mpr leads] at read
    simp only [↓reduceIte, bind_eq_ok, expect_eq_ok proper known, pure_eq_ok] at read
    obtain ⟨-, -, ⟨token, rfl, isClose⟩, rfl, rfl⟩ := read
    exact ⟨rfl, token, rfl, isClose⟩

/-- Items up to a closing token are separated by commas. -/
theorem separated_sound (sound : Sound item Item) {close : Char}
    (known : close ∈ Token.punctuation) (bound : Nat) :
    Sound (separated (String.ofList [close]) item bound) fun lexemes items =>
      ∃ inner, lexemes = inner ++ [mark close] ∧ Separated Item inner items := by
  induction bound with
  | zero => exact fun _ read => absurd read throw_ne_ok
  | succ bound hypothesis =>
    intro tokens rest items proper read
    by_cases leads : Leads close tokens
    · obtain ⟨rfl, token, rfl, isClose⟩ := separated_of_leads proper known leads read
      exact ⟨[token], rfl, ⟨[], by simp [isClose], .nil⟩, by simp [isClose, isShort_mark]⟩
    · rw [separated_succ, sees_bind, Bool.eq_false_iff.mpr
        (mt (head?_any_isWord proper known).mp leads)] at read
      simp only [Bool.false_eq_true, ↓reduceIte, bind_eq_ok, sees_eq_ok] at read
      obtain ⟨first, middle, readFirst, seen, _, ⟨rfl, rfl⟩, read⟩ := read
      obtain ⟨used, rfl, written, short⟩ := sound proper readFirst
      have properAfter := (List.forall_mem_append.mp proper).2
      by_cases closes : Leads close middle
      · -- No comma stands before the closing token, so that the item was the last one.
        rw [(head?_any_isWord properAfter known).mpr closes] at read
        simp only [Bool.not_true, Bool.false_eq_true, ↓reduceIte, bind_eq_ok, pure_eq_ok] at read
        obtain ⟨others, after, readOthers, rfl, rfl⟩ := read
        obtain ⟨rfl, token, rfl, isClose⟩ :=
          separated_of_leads properAfter known closes readOthers
        refine ⟨used ++ [token], by simp, ⟨used.map Token.lexeme, by simp [isClose], ?_⟩, ?_⟩
        · exact .last written
        · exact List.forall_mem_append.mpr ⟨short, by simp [isClose, isShort_mark]⟩
      · rw [Bool.eq_false_iff.mpr (mt (head?_any_isWord properAfter known).mp closes)] at read
        simp only [Bool.not_false, ↓reduceIte, bind_eq_ok, pure_eq_ok] at read
        obtain ⟨_, _, comma, others, after, readOthers, rfl, rfl⟩ := read
        obtain ⟨token, rfl, isComma⟩ :=
          (expect_eq_ok properAfter (c := ',') (by decide)).mp comma
        obtain ⟨usedAfter, rfl, ⟨inner, same, writtenAfter⟩, shortAfter⟩ :=
          hypothesis (List.forall_mem_cons.mp properAfter).2 readOthers
        refine ⟨used ++ token :: usedAfter, by simp,
          ⟨used.map Token.lexeme ++ mark ',' :: inner, by simp [isComma, same], ?_⟩, ?_⟩
        · exact .cons written writtenAfter
        · exact List.forall_mem_append.mpr ⟨short, List.forall_mem_cons.mpr
            ⟨by simp [isComma, isShort_mark], shortAfter⟩⟩

/-- An opening token, and items up to the closing one. -/
theorem takes_bracketed (sound : Sound item Item) {first last : Char}
    (closes : last ∈ Token.punctuation) {token : Token} (isOpen : token.lexeme = mark first)
    (proper : ∀ token ∈ tokens, token.lexeme.IsProper) {found : List α}
    (read : items (String.ofList [last]) item tokens = .ok (found, rest)) :
    Takes (fun lexemes items => ∃ inner, lexemes = mark first :: (inner ++ [mark last]) ∧
      Separated Item inner items) (token :: tokens) found rest := by
  obtain ⟨used, rfl, ⟨inner, closed, written⟩, short⟩ :=
    separated_sound sound closes _ proper read
  refine ⟨token :: used, rfl, ⟨inner, by rw [List.map_cons, isOpen, closed], written⟩, ?_⟩
  exact List.forall_mem_cons.mpr ⟨isOpen ▸ isShort_mark first, short⟩

/-- A bracketed list of items. -/
theorem bracketed_sound (sound : Sound item Item) (first last : Char)
    (opens : first ∈ Token.punctuation) (closes : last ∈ Token.punctuation) :
    Sound (do expect (String.ofList [first]); items (String.ofList [last]) item)
      fun lexemes items => ∃ inner, lexemes = mark first :: (inner ++ [mark last]) ∧
        Separated Item inner items := by
  intro tokens rest result proper read
  rw [bind_eq_ok] at read
  obtain ⟨_, _, opened, read⟩ := read
  obtain ⟨token, rfl, isOpen⟩ := (expect_eq_ok proper opens).mp opened
  exact takes_bracketed sound closes isOpen (List.forall_mem_cons.mp proper).2 read

/-! ### Literal values -/

/-- What is read as a pair is one of the grammar if its value is. -/
theorem pair_sound {value : Reader Value} (sound : Sound value Literal) :
    Sound (pair value) (Pair Literal) := by
  intro tokens rest result proper read
  simp only [pair, bind_eq_ok, key_eq_ok, pure_eq_ok] at read
  obtain ⟨name, _, ⟨key, rfl, named⟩, _, _, colon, held, _, readHeld, rfl, rfl⟩ := read
  have properAfter := (List.forall_mem_cons.mp proper).2
  obtain ⟨token, rfl, isColon⟩ := (expect_eq_ok properAfter (c := ':') (by decide)).mp colon
  obtain ⟨used, rfl, written, short⟩ := sound (List.forall_mem_cons.mp properAfter).2 readHeld
  refine ⟨key :: token :: used, rfl, ?_, ?_⟩
  · rw [List.map_cons, List.map_cons, isColon]
    exact .pair named written
  · simp only [List.forall_mem_cons]
    exact ⟨isShort_of_key named, isColon ▸ isShort_mark ':', short⟩

/-- The names of constants are literals of the grammar. -/
theorem constant?_sound {text : String} {value : Value} (found : constant? text = some value) :
    Literal [word text] value := by
  unfold constant? at found
  split at found
  · next same =>
    cases found
    rw [same]
    exact .true
  split at found
  · next same =>
    cases found
    rw [same]
    exact .false
  split at found
  · next same =>
    cases found
    rw [same]
    exact .null
  · cases found

/-- A punctuation token with the text of a mark has its lexeme. -/
theorem lexeme_eq_mark {token : Token} (group : token.group = .punctuation) {c : Char}
    (same : token.text = String.ofList [c]) : token.lexeme = mark c := by
  rw [Token.lexeme, group, same, mark]

/-- What is read as a literal is one of the grammar, at every depth. -/
theorem valueWithin_sound (depth : Nat) : Sound (valueWithin depth) Literal := by
  induction depth with
  | zero => exact fun _ read => absurd read throw_ne_ok
  | succ depth hypothesis =>
    intro tokens rest value proper read
    simp only [valueWithin, literal, bind_eq_ok, next_eq_ok] at read
    obtain ⟨token, after, rfl, read⟩ := read
    obtain ⟨properToken, properAfter⟩ := List.forall_mem_cons.mp proper
    cases group : token.group with
    | number =>
      have same : token.lexeme = ⟨.number, token.text⟩ := by rw [Token.lexeme, group]
      simp only [group, numberValue] at read
      cases found : Numeral.value token.text.toList with
      | error long =>
        rw [found] at read
        exact absurd read throw_ne_ok
      | ok value' =>
        rw [found] at read
        obtain ⟨rfl, rfl⟩ := pure_eq_ok.mp read
        obtain ⟨rfl, short⟩ := (value_eq_ok (same ▸ properToken)).mp found
        exact takes_one same (.number token.text) short
    | string =>
      simp only [group] at read
      obtain ⟨rfl, rfl⟩ := pure_eq_ok.mp read
      have same : token.lexeme = ⟨.string, token.text⟩ := by rw [Token.lexeme, group]
      exact takes_one same (.string token.text) (isShort_string _)
    | name =>
      have same : token.lexeme = word token.text := by rw [Token.lexeme, group, word]
      simp only [group] at read
      cases found : constant? token.text with
      | none =>
        rw [found] at read
        exact absurd read refuse_ne_ok
      | some value' =>
        rw [found] at read
        obtain ⟨rfl, rfl⟩ := pure_eq_ok.mp read
        exact takes_one same (constant?_sound found) (isShort_word _)
    | punctuation =>
      simp only [group] at read
      split at read
      · next same =>
        simp only [bind_eq_ok, pure_eq_ok] at read
        obtain ⟨items, _, readItems, rfl, rfl⟩ := read
        have isOpen := lexeme_eq_mark group (c := '[') same
        have taken := takes_bracketed hypothesis (by decide : ']' ∈ _) isOpen properAfter readItems
        refine taken.map ?_
        rintro lexemes ⟨inner, rfl, written⟩
        exact .list written
      · split at read
        · next same =>
          simp only [bind_eq_ok, pure_eq_ok] at read
          obtain ⟨entries, _, readEntries, rfl, rfl⟩ := read
          have isOpen := lexeme_eq_mark group (c := '\x7b') same
          have taken := takes_bracketed (pair_sound hypothesis) (by decide : '\x7d' ∈ _) isOpen
            properAfter readEntries
          refine taken.map ?_
          rintro lexemes ⟨inner, rfl, written⟩
          exact .dict written
        · exact absurd read refuse_ne_ok

theorem value_sound : Sound value Literal :=
  fun proper read => valueWithin_sound _ proper read

/-! ### Methods -/

/-- What is read behind the name of a method makes it one of the grammar. -/
theorem application_sound (schema : Schema) (method : Token) :
    Sound (application value schema method) fun lexemes result =>
      Method (callWith method.text lexemes) schema result := by
  intro tokens rest result proper read
  -- A method without arguments takes no token.
  have none {result' : Schema} (applied : Method (call method.text) schema result')
      (read : (pure result' : Reader Schema) tokens = .ok (result, rest)) :
      Takes (fun lexemes result => Method (callWith method.text lexemes) schema result) tokens
        result rest := by
    obtain ⟨rfl, rfl⟩ := pure_eq_ok.mp read
    exact ⟨[], rfl, applied, by simp⟩
  have mode (mode : ObjectMode) (same : method.text = mode.name)
      (read : (setMode method schema mode : Reader Schema) tokens = .ok (result, rest)) :
      Takes (fun lexemes result => Method (callWith method.text lexemes) schema result) tokens
        result rest := by
    rw [setMode] at read
    cases object : schema.shape with
    | object fields =>
      rw [object] at read
      exact none (by rw [same]; exact .mode mode object) read
    | _ =>
      rw [object] at read
      exact absurd read refuse_ne_ok
  unfold application at read
  split at read
  · next known => exact none (.flag known) read
  split at read
  · next known =>
    rw [bind_eq_ok] at read
    obtain ⟨size, middle, readSize, read⟩ := read
    obtain ⟨used, rfl, written, short⟩ := value_sound proper readSize
    split at read
    · next number =>
      obtain ⟨rfl, rfl⟩ := pure_eq_ok.mp read
      exact ⟨used, rfl, .size known written number, short⟩
    · exact absurd read refuse_ne_ok
  split at read
  · next same => exact none (by rw [same]; exact .nullable) read
  split at read
  · next same => exact none (by rw [same]; exact .optional) read
  split at read
  · next same =>
    rw [same]
    exact value_sound.map .default proper read
  split at read
  · next same => exact mode .strict same read
  split at read
  · next same => exact mode .passthrough same read
  · exact absurd read refuse_ne_ok

/-- A name, and something in parentheses that depends on the name. -/
theorem parenthesized_sound {β : Type} {name : Token} {argument : Reader α} (finish : α → β)
    {Item : List Lexeme → α → Prop} {Whole : List Lexeme → β → Prop}
    (sound : Sound argument Item) (isName : name.group = .name)
    (whole : ∀ {lexemes result}, Item lexemes result →
      Whole (callWith name.text lexemes) (finish result))
    {result : β} (proper : ∀ token ∈ name :: tokens, token.lexeme.IsProper)
    (read : (do expect "("; let result ← argument; expect ")"; return finish result : Reader β)
      tokens = .ok (result, rest)) : Takes Whole (name :: tokens) result rest := by
  have properAfter := (List.forall_mem_cons.mp proper).2
  simp only [bind_eq_ok, pure_eq_ok] at read
  obtain ⟨_, _, opens, result', middle, readArgument, _, after, closes, rfl, rfl⟩ := read
  obtain ⟨first, rfl, isOpen⟩ := (expect_eq_ok properAfter (c := '(') (by decide)).mp opens
  obtain ⟨used, rfl, written, short⟩ :=
    sound (List.forall_mem_cons.mp properAfter).2 readArgument
  have properLast := (List.forall_mem_append.mp (List.forall_mem_cons.mp properAfter).2).2
  obtain ⟨last, rfl, isClose⟩ := (expect_eq_ok properLast (c := ')') (by decide)).mp closes
  have same : name.lexeme = word name.text := by rw [Token.lexeme, isName, word]
  refine ⟨name :: first :: (used ++ [last]), by simp, ?_, ?_⟩
  · have shape : (name :: first :: (used ++ [last])).map Token.lexeme =
        callWith name.text (used.map Token.lexeme) := by
      simp [same, isOpen, isClose, callWith]
    rw [shape]
    exact whole written
  · simp only [List.forall_mem_cons, List.forall_mem_append]
    exact ⟨same ▸ isShort_word name.text, isOpen ▸ isShort_mark '(', short,
      isClose ▸ isShort_mark ')', by simp⟩

/-- What is read as a method is one of the grammar. -/
theorem method_sound (schema : Schema) :
    Sound (method value schema) fun lexemes result => Method lexemes schema result := by
  intro tokens rest result proper read
  rw [method, bind_eq_ok] at read
  obtain ⟨token, middle, readName, read⟩ := read
  obtain ⟨rfl, isName⟩ := name_eq_ok.mp readName
  exact parenthesized_sound (fun result => result) (application_sound schema token) isName id proper
    read

/-- What is read as methods are methods of the grammar, one after another. -/
theorem methods_sound (bound : Nat) (schema : Schema) :
    Sound (methods bound schema) fun lexemes result => Methods lexemes schema result := by
  induction bound generalizing schema with
  | zero =>
    intro tokens rest result proper read
    obtain ⟨rfl, rfl⟩ := pure_eq_ok.mp read
    exact ⟨[], rfl, .nil, by simp⟩
  | succ bound hypothesis =>
    intro tokens rest result proper read
    rw [methods_succ, sees_bind] at read
    split at read
    · next seen =>
      obtain ⟨point, after, rfl, isPoint⟩ :=
        (head?_any_isWord proper (c := '.') (by decide)).mp seen
      have properAfter := (List.forall_mem_cons.mp proper).2
      simp only [bind_eq_ok, next_eq_ok] at read
      obtain ⟨_, _, same, second, middle, readMethod, read⟩ := read
      cases same
      obtain ⟨used, rfl, applied, short⟩ := method_sound schema properAfter readMethod
      obtain ⟨usedAfter, rfl, others, shortAfter⟩ :=
        hypothesis second (List.forall_mem_append.mp properAfter).2 read
      refine ⟨point :: (used ++ usedAfter), by simp, ?_, ?_⟩
      · rw [List.map_cons, List.map_append, isPoint]
        exact .cons applied others
      · exact List.forall_mem_cons.mpr
          ⟨isPoint ▸ isShort_mark '.', List.forall_mem_append.mpr ⟨short, shortAfter⟩⟩
    · obtain ⟨rfl, rfl⟩ := pure_eq_ok.mp read
      exact ⟨[], rfl, .nil, by simp⟩

/-! ### Expressions -/

variable {schema : Reader Schema} {Item : List Lexeme → Schema → Prop}

/-- What is read as a field is one of the grammar if its schema is. -/
theorem member_sound (sound : Sound schema Item) : Sound (member schema) (Grammar.Member Item) := by
  intro tokens rest result proper read
  simp only [member, bind_eq_ok, key_eq_ok, sees_eq_ok] at read
  obtain ⟨name, _, ⟨key, rfl, named⟩, seen, _, ⟨rfl, rfl⟩, read⟩ := read
  have properAfter := (List.forall_mem_cons.mp proper).2
  split at read
  · next marked =>
    obtain ⟨question, after, rfl, isQuestion⟩ :=
      (head?_any_isWord properAfter (c := '?') (by decide)).mp marked
    have properColon := (List.forall_mem_cons.mp properAfter).2
    simp only [bind_eq_ok, next_eq_ok, pure_eq_ok] at read
    obtain ⟨_, _, same, _, _, colon, held, _, readHeld, rfl, rfl⟩ := read
    cases same
    obtain ⟨token, rfl, isColon⟩ := (expect_eq_ok properColon (c := ':') (by decide)).mp colon
    obtain ⟨used, rfl, written, short⟩ := sound (List.forall_mem_cons.mp properColon).2 readHeld
    refine ⟨key :: question :: token :: used, rfl, ?_, ?_⟩
    · rw [List.map_cons, List.map_cons, List.map_cons, isQuestion, isColon]
      exact .optional named written
    · simp only [List.forall_mem_cons]
      exact ⟨isShort_of_key named, isQuestion ▸ isShort_mark '?', isColon ▸ isShort_mark ':', short⟩
  · simp only [bind_eq_ok, pure_eq_ok] at read
    obtain ⟨_, _, colon, held, _, readHeld, rfl, rfl⟩ := read
    obtain ⟨token, rfl, isColon⟩ := (expect_eq_ok properAfter (c := ':') (by decide)).mp colon
    obtain ⟨used, rfl, written, short⟩ := sound (List.forall_mem_cons.mp properAfter).2 readHeld
    refine ⟨key :: token :: used, rfl, ?_, ?_⟩
    · rw [List.map_cons, List.map_cons, isColon]
      exact .required named written
    · simp only [List.forall_mem_cons]
      exact ⟨isShort_of_key named, isColon ▸ isShort_mark ':', short⟩

/-- Constructors without arguments are constructors of the grammar. -/
theorem simpleShape?_sound {name : String} {shape : Shape Schema}
    (found : simpleShape? name = some shape) : Arguments Item name [] shape := by
  unfold simpleShape? at found
  split at found
  · next same =>
    cases found
    rw [same]
    exact .string
  split at found
  · next same =>
    cases found
    rw [same]
    exact .number
  split at found
  · next same =>
    cases found
    rw [same]
    exact .boolean
  split at found
  · next same =>
    cases found
    rcases same with same | same
    · rw [same]
      exact .unknown
    · rw [same]
      exact .any
  · cases found

/-- Values that are all texts are the values of some texts. -/
theorem exists_texts {options : List Value} (texts : options.all isText = true) :
    ∃ names : List String, options = names.map .str := by
  induction options with
  | nil => exact ⟨[], rfl⟩
  | cons option options hypothesis =>
    obtain ⟨first, others⟩ := Bool.and_eq_true_iff.mp (List.all_cons ▸ texts)
    obtain ⟨names, rfl⟩ := hypothesis others
    cases option with
    | str name => exact ⟨name :: names, rfl⟩
    | _ => cases first

/-- One schema, or a second one after a comma, which is then the one that counts. -/
theorem recordArguments_sound (sound : Sound schema Item) :
    Sound (do
      let first ← schema
      if ← sees "," then
        let _ ← next
        return .record (← schema)
      else return .record first) (Arguments Item "record") := by
  intro tokens rest shape proper read
  simp only [bind_eq_ok, sees_eq_ok] at read
  obtain ⟨first, middle, readFirst, seen, _, ⟨rfl, rfl⟩, read⟩ := read
  obtain ⟨used, rfl, written, short⟩ := sound proper readFirst
  have properAfter := (List.forall_mem_append.mp proper).2
  split at read
  · next seen =>
    obtain ⟨comma, after, rfl, isComma⟩ :=
      (head?_any_isWord properAfter (c := ',') (by decide)).mp seen
    simp only [bind_eq_ok, next_eq_ok, pure_eq_ok] at read
    obtain ⟨_, _, same, second, _, readSecond, rfl, rfl⟩ := read
    cases same
    obtain ⟨usedAfter, rfl, writtenAfter, shortAfter⟩ :=
      sound (List.forall_mem_cons.mp properAfter).2 readSecond
    refine ⟨used ++ comma :: usedAfter, by simp, ?_, ?_⟩
    · rw [List.map_append, List.map_cons, isComma]
      exact .keyedRecord written writtenAfter
    · exact List.forall_mem_append.mpr ⟨short, List.forall_mem_cons.mpr
        ⟨isComma ▸ isShort_mark ',', shortAfter⟩⟩
  · obtain ⟨rfl, rfl⟩ := pure_eq_ok.mp read
    exact ⟨used, rfl, .record written, short⟩

/-- A bracketed list of texts. -/
theorem enumArguments_sound (constructor : Token) :
    Sound (do
      let options ← (do expect "["; items "]" value)
      if options.isEmpty || !options.all isText then refuse constructor .enumOptions
      else return .enum options) (Arguments Item "enum") := by
  intro tokens rest shape proper read
  rw [bind_eq_ok] at read
  obtain ⟨options, middle, readOptions, read⟩ := read
  obtain ⟨used, rfl, ⟨inner, bracketed, written⟩, short⟩ :=
    bracketed_sound value_sound '[' ']' (by decide) (by decide) proper readOptions
  split at read
  · exact absurd read refuse_ne_ok
  · next accepted =>
    obtain ⟨rfl, rfl⟩ := pure_eq_ok.mp read
    simp only [Bool.or_eq_true, List.isEmpty_iff, Bool.not_eq_true', not_or,
      Bool.not_eq_false] at accepted
    obtain ⟨names, rfl⟩ := exists_texts accepted.2
    refine ⟨used, rfl, ?_, short⟩
    rw [bracketed]
    exact .enum (by simpa using accepted.1) written

/-- The one name that may be the target. -/
theorem targetArguments_sound (constructor : Token) :
    Sound (do
      let target ← name
      if target.text = "Buffer" then return .binary
      else refuse constructor (.instanceTarget target.text)) (Arguments Item "instanceof") := by
  intro tokens rest shape proper read
  simp only [bind_eq_ok, name_eq_ok] at read
  obtain ⟨target, middle, ⟨rfl, isName⟩, read⟩ := read
  split at read
  · next isBuffer =>
    obtain ⟨rfl, rfl⟩ := pure_eq_ok.mp read
    have isWord : target.lexeme = word "Buffer" := by
      rw [Token.lexeme, isName, isBuffer, word]
    exact takes_one isWord .binary (isShort_word _)
  · exact absurd read refuse_ne_ok

/-- What is read as arguments are those that the grammar gives to the constructor. -/
theorem arguments_sound (sound : Sound schema Item) (constructor : Token) :
    Sound (arguments (partsOf schema) constructor) (Arguments Item constructor.text) := by
  intro tokens rest shape proper read
  rw [arguments] at read
  cases simple : simpleShape? constructor.text with
  | some shape' =>
    rw [simple] at read
    obtain ⟨rfl, rfl⟩ := pure_eq_ok.mp read
    exact ⟨[], rfl, simpleShape?_sound simple, by simp⟩
  | none =>
    simp only [simple] at read
    split at read
    · next same =>
      rw [same]
      exact sound.map .array proper read
    split at read
    · next same =>
      rw [same]
      exact recordArguments_sound sound proper read
    split at read
    · next same =>
      rw [same]
      rw [← bind_assoc] at read
      have fields : Sound _ _ :=
        bracketed_sound (member_sound sound) '\x7b' '\x7d' (by decide) (by decide)
      refine fields.map ?_ proper read
      rintro lexemes result ⟨inner, rfl, written⟩
      exact .object written
    split at read
    · next same =>
      rw [same]
      rw [← bind_assoc] at read
      exact enumArguments_sound constructor proper read
    split at read
    · next same =>
      rw [same]
      rw [← bind_assoc] at read
      have variants : Sound _ _ :=
        bracketed_sound sound '[' ']' (by decide) (by decide)
      refine variants.map ?_ proper read
      rintro lexemes result ⟨inner, rfl, written⟩
      exact .union written
    split at read
    · next same =>
      rw [same]
      exact value_sound.map .literal proper read
    split at read
    · next same =>
      rw [same]
      exact targetArguments_sound constructor proper read
    · exact absurd read refuse_ne_ok

/-- What is read as a constructor is one of the grammar, with its arguments. -/
theorem construction_sound (sound : Sound schema Item) :
    Sound (construction (partsOf schema)) fun lexemes result => ∃ name arguments shape,
      lexemes = callWith name arguments ∧ result = { shape } ∧
        Arguments Item name arguments shape := by
  intro tokens rest result proper read
  rw [construction, bind_eq_ok] at read
  obtain ⟨token, middle, readName, read⟩ := read
  obtain ⟨rfl, isName⟩ := name_eq_ok.mp readName
  exact parenthesized_sound (fun shape => { shape }) (arguments_sound sound token) isName
    (fun {lexemes shape} written => ⟨token.text, lexemes, shape, rfl, rfl, written⟩) proper read

/-- What is read as an expression is one of the grammar, at every depth. -/
theorem schemaWithin_sound (depth : Nat) : Sound (schemaWithin depth) Grammar.Expression := by
  induction depth with
  | zero => exact fun _ read => absurd read throw_ne_ok
  | succ depth hypothesis =>
    intro tokens rest result proper read
    simp only [schemaWithin, rooted, bind_eq_ok, name_eq_ok] at read
    obtain ⟨root, after, ⟨rfl, isName⟩, read⟩ := read
    have properAfter := (List.forall_mem_cons.mp proper).2
    split at read
    · next isRoot =>
      simp only [bind_eq_ok] at read
      obtain ⟨_, _, pointed, base, middle, readBase, read⟩ := read
      obtain ⟨point, rfl, isPoint⟩ := (expect_eq_ok properAfter (c := '.') (by decide)).mp pointed
      obtain ⟨used, rfl, ⟨name, arguments, shape, same, rfl, written⟩, short⟩ :=
        construction_sound hypothesis (List.forall_mem_cons.mp properAfter).2 readBase
      have properLast :=
        (List.forall_mem_append.mp (List.forall_mem_cons.mp properAfter).2).2
      obtain ⟨usedAfter, rfl, decorated, shortAfter⟩ := methods_sound _ _ properLast read
      have isZ : root.lexeme = word "z" := by rw [Token.lexeme, isName, isRoot, word]
      refine ⟨root :: point :: (used ++ usedAfter), by simp, ?_, ?_⟩
      · simp only [List.map_cons, List.map_append, isZ, isPoint, same, callWith, List.cons_append,
          List.append_assoc, List.nil_append]
        exact .construct written decorated
      · simp only [List.forall_mem_cons, List.forall_mem_append]
        exact ⟨isZ ▸ isShort_word "z", isPoint ▸ isShort_mark '.', short, shortAfter⟩
    · exact absurd read refuse_ne_ok

/-- A schema that is read off all tokens is what the grammar gives to their lexemes. -/
theorem whole_sound (proper : ∀ token ∈ tokens, token.lexeme.IsProper) {schema : Schema}
    (read : whole tokens = .ok schema) :
    Grammar.Expression (tokens.map Token.lexeme) schema ∧
      ∀ token ∈ tokens, token.lexeme.IsShort := by
  rw [whole] at read
  cases taken : (schemaWithin tokens.length).run tokens with
  | error halt =>
    rw [taken] at read
    cases read
  | ok found =>
    obtain ⟨schema', rest⟩ := found
    rw [taken] at read
    cases rest with
    | cons token others => cases read
    | nil =>
      cases read
      obtain ⟨used, same, written, short⟩ := schemaWithin_sound _ proper taken
      rw [List.append_nil] at same
      exact same ▸ ⟨written, short⟩

end Expression

end TableSchema
