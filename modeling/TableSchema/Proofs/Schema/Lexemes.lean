import TableSchema.Proofs.Value.Lexemes
import TableSchema.Schema.Printer

/-! # The lexemes of rendered schemas

`Schema.lexemes` gives the lexemes of the text of a schema without looking at the text.
`Schema.spells_renderChars` proves that the text spells them, and `Schema.spells_renderBlockChars`
that an object laid out as a block spells the same.
-/

namespace TableSchema

open Lexeme

/-! ### Decorations -/

/-- The lexemes of a refinement. -/
def Check.lexemes (check : Check) : Option (List Lexeme) :=
  (Value.itemLexemes check.args).map fun args =>
    mark '.' :: Grammar.callWith check.name (separated args)

/-- The lexemes of refinements, one after another. -/
def checksLexemes : List Check → Option (List Lexeme)
  | [] => some []
  | check :: checks => join check.lexemes (checksLexemes checks)

/-- The lexemes of a default: those of its source text where there is one that is not empty. -/
def DefaultLiteral.lexemes (literal : DefaultLiteral) : Option (List Lexeme) :=
  match literal.text with
  | some text => if text.isEmpty then literal.value.lexemes else ofText? text.toList
  | none => literal.value.lexemes

/-- The lexemes of the call that sets a mode. -/
def modeLexemes : Option ObjectMode → List Lexeme
  | some mode => mark '.' :: Grammar.call mode.name
  | none => []

/-- The lexemes of a call that is made or not. -/
def flagLexemes (name : String) (made : Bool) : List Lexeme :=
  if made then mark '.' :: Grammar.call name else []

/-- The lexemes of the call that sets a default. -/
def defaultLexemes : Option DefaultLiteral → Option (List Lexeme)
  | some literal => literal.lexemes.map fun value => mark '.' :: Grammar.callWith "default" value
  | none => some []

/-- The lexemes of decorations, in their fixed order. -/
def Decorations.lexemes (marks : Decorations) : Option (List Lexeme) :=
  join (checksLexemes marks.checks) <| join (some (modeLexemes marks.mode)) <|
    join (some (flagLexemes "optional" marks.optional)) <|
      join (some (flagLexemes "nullable" marks.nullable)) (defaultLexemes marks.default)

namespace Lexeme

variable {text after : List Char} {lexemes following : Option (List Lexeme)}

/-- A text that may follow any other, since it is empty or begins with a break. -/
structure Follows (text : List Char) (lexemes : Option (List Lexeme)) : Prop where
  spells : Spells text lexemes
  breaks : ∀ rest, Token.Breaks rest → Token.Breaks (text ++ rest)

theorem follows_nil : Follows [] (some []) :=
  ⟨spells_nil, fun _ breaks => breaks⟩

/-- Texts that may follow any other may follow one another. -/
theorem Follows.append (follows : Follows text lexemes) (follows' : Follows after following) :
    Follows (text ++ after) (join lexemes following) := by
  refine ⟨follows.spells.append follows'.spells follows'.breaks, fun rest breaks => ?_⟩
  rw [List.append_assoc]
  exact follows.breaks _ (follows'.breaks rest breaks)

/-- A call of a method follows any text. -/
theorem follows_call (name : String) (isName : Token.IsName name.toList)
    (spells : Spells text lexemes) :
    Follows ('.' :: (name.toList ++ '(' :: (text ++ [')'])))
      (lexemes.map fun args => mark '.' :: Grammar.callWith name args) := by
  constructor
  · have whole := (spells.append_stop (c := ')') (by decide)).call_cons isName
    rw [String.ofList_toList] at whole
    cases lexemes <;> simpa [Grammar.callWith] using whole
  · intro rest _
    rw [List.cons_append, List.append_assoc]
    exact isName.breaks _

/-- A constructor with what stands between its parentheses. -/
def construction (name : String) (args : List Lexeme) : List Lexeme :=
  word "z" :: mark '.' :: Grammar.callWith name args

/-- A constructor spells its lexemes around those of its arguments. -/
theorem spells_construction (name : String) (isName : Token.IsName name.toList)
    (spells : Spells text lexemes) :
    Spells ('z' :: '.' :: (name.toList ++ '(' :: (text ++ [')'])))
      (lexemes.map (construction name)) := by
  have called := follows_call _ isName spells
  have root := @spells_name ['z'] ⟨'z', [], rfl, by decide, by simp⟩
  have whole := root.append called.spells called.breaks
  cases lexemes <;> simpa [construction] using whole

end Lexeme

/-- A refinement spells its lexemes behind any text. -/
theorem Check.text_ok {check : Check} {text : List Char} (written : check.text = .ok text)
    (isName : Token.IsName check.name.toList) : Follows text check.lexemes := by
  obtain ⟨args, literals, same⟩ := bind_eq_ok.mp written
  cases same
  have spells := (Value.spellsAll_literals (fun item _ {_} => Value.spells_literal item)
    literals).separated
  have follows := follows_call _ isName spells
  rwa [Option.map_map] at follows

/-- Refinements one after another spell their lexemes behind any text. -/
theorem follows_checksText {checks : List Check} {text : List Char}
    (written : checksText checks = .ok text)
    (names : ∀ check ∈ checks, Token.IsName check.name.toList) :
    Follows text (checksLexemes checks) := by
  induction checks generalizing text with
  | nil =>
    cases written
    exact follows_nil
  | cons check checks hypothesis =>
    obtain ⟨first, head, tail⟩ := bind_eq_ok.mp written
    obtain ⟨others, rest, same⟩ := bind_eq_ok.mp tail
    cases same
    obtain ⟨isName, names⟩ := List.forall_mem_cons.mp names
    exact (check.text_ok head isName).append (hypothesis rest names)

/-- The source text of a default can be cut into tokens. -/
def DefaultLiteral.Scans (literal : DefaultLiteral) : Prop :=
  ∀ text ∈ literal.text, (ofText? text.toList).isSome = true

/-- A default spells its lexemes, if its source can be cut. -/
theorem DefaultLiteral.spells_render {literal : DefaultLiteral} (scans : literal.Scans)
    {text : List Char} (written : literal.render = .ok text) : Spells text literal.lexemes := by
  unfold DefaultLiteral.render at written
  unfold DefaultLiteral.lexemes
  cases source : literal.text with
  | none =>
    simp only [source] at written ⊢
    exact Value.spells_literal _ written
  | some spelled =>
    simp only [source] at written ⊢
    split at written
    · next empty =>
      rw [if_pos empty]
      exact Value.spells_literal _ written
    · next full =>
      cases written
      rw [if_neg full]
      obtain ⟨lexemes, scanned⟩ := Option.isSome_iff_exists.mp (scans spelled source)
      rw [scanned]
      exact spells_of_ofText? scanned

/-- The mode of an object is a name. -/
theorem isName_mode (mode : ObjectMode) : Token.IsName mode.name.toList := by
  cases mode with
  | strict => exact (by decide)
  | passthrough => exact (by decide)

theorem follows_plainCall (name : String) (isName : Token.IsName name.toList) :
    Follows ('.' :: (name.toList ++ ['(', ')'])) (some (mark '.' :: Grammar.call name)) :=
  follows_call _ isName spells_nil

/-- The text of decorations spells their lexemes and may follow any text. -/
theorem Decorations.follows_text {marks : Decorations} {text : List Char}
    (written : marks.text = .ok text)
    (names : ∀ check ∈ marks.checks, Token.IsName check.name.toList)
    (scans : ∀ literal ∈ marks.default, literal.Scans) : Follows text marks.lexemes := by
  obtain ⟨checks, checksWritten, tail⟩ := bind_eq_ok.mp written
  obtain ⟨default, defaultWritten, same⟩ := bind_eq_ok.mp tail
  cases same
  have mode : Follows (modeText marks.mode) (some (modeLexemes marks.mode)) := by
    cases marks.mode with
    | none => exact follows_nil
    | some mode => exact follows_plainCall _ (isName_mode mode)
  have optional : Follows (if marks.optional then ".optional()".toList else [])
      (some (flagLexemes "optional" marks.optional)) := by
    cases marks.optional with
    | false => exact follows_nil
    | true => exact follows_plainCall "optional" (by decide)
  have nullable : Follows (if marks.nullable then ".nullable()".toList else [])
      (some (flagLexemes "nullable" marks.nullable)) := by
    cases marks.nullable with
    | false => exact follows_nil
    | true => exact follows_plainCall "nullable" (by decide)
  have last : Follows default (defaultLexemes marks.default) := by
    cases held : marks.default with
    | none =>
      rw [held] at defaultWritten
      cases defaultWritten
      exact follows_nil
    | some literal =>
      rw [held] at defaultWritten
      obtain ⟨value, valueWritten, same⟩ := bind_eq_ok.mp defaultWritten
      cases same
      exact follows_call "default" (by decide)
        (DefaultLiteral.spells_render (scans literal held) valueWritten)
  have whole := (follows_checksText checksWritten names).append
    (mode.append (optional.append (nullable.append last)))
  rw [Decorations.lexemes]
  simpa only [List.append_assoc] using whole

/-! ### Schemas -/

namespace Schema

mutual

/-- The lexemes of a rendered schema. -/
def lexemes : Schema → Option (List Lexeme)
  | ⟨shape, marks⟩ => join (shapeLexemes shape) marks.lexemes

/-- The lexemes of a rendered shape. -/
def shapeLexemes : Shape Schema → Option (List Lexeme)
  | .string => some (construction "string" [])
  | .number => some (construction "number" [])
  | .boolean => some (construction "boolean" [])
  | .unknown => some (construction "unknown" [])
  | .binary => some (construction "instanceof" [word "Buffer"])
  | .array item => (lexemes item).map (construction "array")
  | .record value => (lexemes value).map (construction "record")
  | .object fields => (fieldLexemes fields).map fun lists => construction "object" (braced lists)
  | .enum options =>
    (Value.itemLexemes options).map fun lists => construction "enum" (bracketed lists)
  | .union variants =>
    (variantLexemes variants).map fun lists => construction "union" (bracketed lists)
  | .literal [] => none
  | .literal (value :: _) => value.lexemes.map (construction "literal")
  | .raw text => ofText? (text.getD "").toList

/-- The lexemes of the members of an object. -/
def fieldLexemes : List (String × Schema) → Option (List (List Lexeme))
  | [] => some []
  | (name, schema) :: fields => prepend ((lexemes schema).map (keyed name)) (fieldLexemes fields)

/-- The lexemes of the variants of a union. -/
def variantLexemes : List Schema → Option (List (List Lexeme))
  | [] => some []
  | schema :: variants => prepend (lexemes schema) (variantLexemes variants)

end

/-- What the text of a schema needs in order to be cut into tokens: refinements with the names of
methods, and source texts that can be cut themselves. -/
structure IsSpelled (schema : Schema) : Prop where
  names : ∀ check ∈ schema.decorations.checks, Token.IsName check.name.toList
  default : ∀ literal ∈ schema.decorations.default, literal.Scans
  raw : ∀ text, schema.shape = .raw text → (ofText? (text.getD "").toList).isSome = true

/-- Fields have texts exactly if the first one has one and the others have. -/
theorem renderFields_cons_ok {name : String} {schema : Schema} {fields : List (String × Schema)}
    {texts : List (List Char)} :
    renderFields ((name, schema) :: fields) = .ok texts ↔ ∃ text others,
      schema.renderChars = .ok text ∧ renderFields fields = .ok others ∧
      texts = (Text.objectKey name ++ [':', ' '] ++ text) :: others := by
  simp only [renderFields, bind_eq_ok]
  constructor
  · rintro ⟨text, first, others, rest, same⟩
    exact ⟨text, others, first, rest, by cases same; rfl⟩
  · rintro ⟨text, others, first, rest, rfl⟩
    exact ⟨text, first, others, rest, rfl⟩

/-- Variants have texts exactly if the first one has one and the others have. -/
theorem renderVariants_cons_ok {schema : Schema} {variants : List Schema}
    {texts : List (List Char)} :
    renderVariants (schema :: variants) = .ok texts ↔ ∃ text others,
      schema.renderChars = .ok text ∧ renderVariants variants = .ok others ∧
      texts = text :: others := by
  simp only [renderVariants, bind_eq_ok]
  constructor
  · rintro ⟨text, first, others, rest, same⟩
    exact ⟨text, others, first, rest, by cases same; rfl⟩
  · rintro ⟨text, others, first, rest, rfl⟩
    exact ⟨text, first, others, rest, rfl⟩

/-- The texts of fields spell the lexemes of the fields if those of their schemas do. -/
theorem spellsAll_renderFields {fields : List (String × Schema)} {texts : List (List Char)}
    (spells : ∀ schema ∈ fields.map Prod.snd, ∀ {text}, schema.renderChars = .ok text →
      Spells text schema.lexemes)
    (written : renderFields fields = .ok texts) : SpellsAll texts (fieldLexemes fields) := by
  induction fields generalizing texts with
  | nil =>
    cases written
    exact .nil
  | cons field fields hypothesis =>
    obtain ⟨name, schema⟩ := field
    obtain ⟨text, others, first, rest, rfl⟩ := renderFields_cons_ok.mp written
    obtain ⟨spellsField, spellsFields⟩ := List.forall_mem_cons.mp spells
    exact .cons ((spellsField first).keyed name) (hypothesis spellsFields rest)

/-- The texts of variants spell the lexemes of the variants if each of them does. -/
theorem spellsAll_renderVariants {variants : List Schema} {texts : List (List Char)}
    (spells : ∀ schema ∈ variants, ∀ {text}, schema.renderChars = .ok text →
      Spells text schema.lexemes)
    (written : renderVariants variants = .ok texts) :
    SpellsAll texts (variantLexemes variants) := by
  induction variants generalizing texts with
  | nil =>
    cases written
    exact .nil
  | cons schema variants hypothesis =>
    obtain ⟨text, others, first, rest, rfl⟩ := renderVariants_cons_ok.mp written
    obtain ⟨spellsVariant, spellsVariants⟩ := List.forall_mem_cons.mp spells
    exact .cons (spellsVariant first) (hypothesis spellsVariants rest)

/-- An object spells its lexemes around those of its fields. -/
theorem spells_objectText {text : List Char} {lists : Option (List (List Lexeme))}
    (spells : Spells text (lists.map braced)) :
    Spells ('z' :: '.' :: ("object".toList ++ '(' :: (text ++ [')'])))
      (lists.map fun lists => construction "object" (braced lists)) := by
  have whole := spells_construction "object" (by decide) spells
  rwa [Option.map_map] at whole

/-- A constructor without arguments spells its call. -/
theorem spells_plainConstructor (name : String) (isName : Token.IsName name.toList) :
    Spells (constructorText name) (some (construction name [])) := by
  have spells := spells_construction _ isName spells_nil
  rw [constructorText]
  simpa using spells

/-- The text of a shape spells its lexemes, if the texts of its parts do. -/
theorem spells_renderShape {shape : Shape Schema} {text : List Char}
    (parts : ∀ part ∈ shape.parts, ∀ {text}, part.renderChars = .ok text →
      Spells text part.lexemes)
    (raw : ∀ text, shape = .raw text → (ofText? (text.getD "").toList).isSome = true)
    (written : renderShape shape = .ok text) : Spells text (shapeLexemes shape) := by
  cases shape with
  | string =>
    cases written
    exact spells_plainConstructor "string" (by decide)
  | number =>
    cases written
    exact spells_plainConstructor "number" (by decide)
  | boolean =>
    cases written
    exact spells_plainConstructor "boolean" (by decide)
  | unknown =>
    cases written
    exact spells_plainConstructor "unknown" (by decide)
  | binary =>
    cases written
    have spells := spells_construction "instanceof"
      (by decide)
      (Value.isName_word "Buffer" (by decide))
    simpa [shapeLexemes] using spells
  | array item =>
    obtain ⟨inner, itemWritten, same⟩ := bind_eq_ok.mp written
    cases same
    have spells := spells_construction "array" (by decide)
      (parts item (List.mem_singleton_self item) itemWritten)
    simpa [shapeLexemes] using spells
  | record value =>
    obtain ⟨inner, valueWritten, same⟩ := bind_eq_ok.mp written
    cases same
    have spells := spells_construction "record" (by decide)
      (parts value (List.mem_singleton_self value) valueWritten)
    simpa [shapeLexemes] using spells
  | object fields =>
    cases fields with
    | nil =>
      cases written
      exact @spells_objectText ['\x7b', '\x7d'] (some [])
        ((spells_nil.stop_cons (c := '\x7d') (by decide)).stop_cons (c := '\x7b') (by decide))
    | cons field fields =>
      obtain ⟨members, fieldsWritten, same⟩ := bind_eq_ok.mp written
      cases same
      have inner := (spellsAll_renderFields parts fieldsWritten).separated
      have spells := spells_objectText (inner.braced ' ' (by decide))
      simpa [shapeLexemes] using spells
  | enum options =>
    obtain ⟨inner, optionsWritten, same⟩ := bind_eq_ok.mp written
    cases same
    have spells := spells_construction "enum" (by decide)
      (Value.spells_literal _ optionsWritten)
    rw [Value.lexemes, Option.map_map] at spells
    rw [shapeLexemes]
    simpa [Function.comp_def, Shape.parts] using spells
  | union variants =>
    obtain ⟨inner, variantsWritten, same⟩ := bind_eq_ok.mp written
    cases same
    have spells := spells_construction "union" (by decide)
      (spellsAll_renderVariants parts variantsWritten).bracketed
    rw [Option.map_map] at spells
    rw [shapeLexemes]
    simpa [Function.comp_def, Shape.parts] using spells
  | literal values =>
    cases values with
    | nil => cases written
    | cons value values =>
      obtain ⟨inner, valueWritten, same⟩ := bind_eq_ok.mp written
      cases same
      have spells := spells_construction "literal" (by decide)
        (value.spells_literal valueWritten)
      simpa [shapeLexemes] using spells
  | raw source =>
    cases written
    obtain ⟨lexemes, scanned⟩ := Option.isSome_iff_exists.mp (raw source rfl)
    rw [shapeLexemes, scanned]
    exact spells_of_ofText? scanned

/-- The text of a schema spells its lexemes. -/
theorem spells_renderChars {schema : Schema} (spelled : schema.Everywhere IsSpelled)
    {text : List Char} (written : schema.renderChars = .ok text) : Spells text schema.lexemes := by
  induction schema using Schema.induct generalizing text with
  | step shape marks hypothesis =>
    obtain ⟨base, baseWritten, tail⟩ := bind_eq_ok.mp written
    obtain ⟨decorations, marksWritten, same⟩ := bind_eq_ok.mp tail
    cases same
    have follows := Decorations.follows_text marksWritten spelled.here.names spelled.here.default
    have spells := spells_renderShape
      (fun part member {_} => hypothesis part member (spelled.ofParts part member))
      spelled.here.raw baseWritten
    exact spells.append follows.spells follows.breaks

/-- An object that is laid out as a block spells the same lexemes as on one line. -/
theorem spells_renderBlockChars {schema : Schema} (spelled : schema.Everywhere IsSpelled)
    {indent text : List Char} (blank : ∀ c ∈ indent, Text.isBlank c = true)
    (written : schema.renderBlockChars indent = .ok text) : Spells text schema.lexemes := by
  obtain ⟨shape, marks⟩ := schema
  cases shape with
  | object fields =>
    obtain ⟨members, fieldsWritten, tail⟩ := bind_eq_ok.mp written
    obtain ⟨decorations, marksWritten, same⟩ := bind_eq_ok.mp tail
    cases same
    have follows := Decorations.follows_text marksWritten spelled.here.names spelled.here.default
    have lines := ((spellsAll_renderFields
      (fun part member {_} => spells_renderChars (spelled.ofParts part member))
      fieldsWritten).indented blank).intercalate ['\n']
        (Text.forall_of_all (by decide))
    have spells := (spells_objectText (lines.braced '\n' (by decide))).append
      follows.spells follows.breaks
    rw [lexemes, shapeLexemes]
    simpa using spells
  | _ => cases written

end Schema

end TableSchema
