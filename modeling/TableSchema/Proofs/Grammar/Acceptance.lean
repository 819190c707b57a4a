import TableSchema.Proofs.Grammar.Completeness
import TableSchema.Proofs.Grammar.Soundness

/-! # The parser accepts exactly its grammar

`Schema.parse_iff_grammar` joins soundness and completeness: a text is read as a schema exactly when
it can be cut into tokens, no integer among them is too long, and the grammar gives the schema to
their lexemes. `Schema.parse_of_lexemes` and `Schema.lexemes_of_parse` say the same about the
lexemes alone.
-/

namespace TableSchema

namespace Lexeme

open Token

theorem isProper_of_scan {text : String} {tokens : List Token} (scanned : scan text = .ok tokens) :
    ∀ token ∈ tokens, token.lexeme.IsProper := by
  have lexemes : ofText? text.toList = some (tokens.map Token.lexeme) :=
    ofText?_eq_some_iff.mpr ⟨tokens, scanned, rfl⟩
  intro token member
  exact isProper_of_ofText? lexemes _ (List.mem_map_of_mem member)

end Lexeme

namespace Schema

open Lexeme

/-- A text is read as the schema that the grammar gives to its lexemes. -/
theorem parse_of_lexemes {text : String} {lexemes : List Lexeme} {schema : Schema}
    (scanned : ofText? text.toList = some lexemes) (short : ∀ lexeme ∈ lexemes, lexeme.IsShort)
    (written : Grammar.Expression lexemes schema) : Schema.parse text = .ok schema := by
  obtain ⟨tokens, cut, rfl⟩ := ofText?_eq_some_iff.mp scanned
  have read := Expression.whole_complete (isProper_of_scan cut)
    (fun token member => short _ (List.mem_map_of_mem member)) written
  simp only [Schema.parse, cut, read]
  rfl

/-- The lexemes of a text that is read as a schema. -/
theorem lexemes_of_parse {text : String} {schema : Schema}
    (read : Schema.parse text = .ok schema) :
    ∃ lexemes, ofText? text.toList = some lexemes ∧ (∀ lexeme ∈ lexemes, lexeme.IsShort) ∧
      Grammar.Expression lexemes schema := by
  cases scanned : Token.scan text with
  | error stray =>
    rw [Schema.parse, scanned] at read
    cases read
  | ok tokens =>
    rw [Schema.parse, scanned] at read
    cases whole : Expression.whole tokens with
    | error halt =>
      simp only [whole] at read
      cases read
    | ok found =>
      simp only [whole] at read
      cases read
      obtain ⟨written, short⟩ := Expression.whole_sound (isProper_of_scan scanned) whole
      refine ⟨_, ofText?_eq_some_iff.mpr ⟨tokens, scanned, rfl⟩, ?_, written⟩
      exact List.forall_mem_map.mpr short

/-- A text is read as a schema exactly when it scans, no integer is too long, and the grammar gives
the schema to the lexemes of its tokens. -/
theorem parse_iff_grammar (text : String) (schema : Schema) :
    Schema.parse text = .ok schema ↔ ∃ tokens, Token.scan text = .ok tokens ∧
      (∀ token ∈ tokens, token.lexeme.IsShort) ∧
      Grammar.Expression (tokens.map Token.lexeme) schema := by
  constructor
  · intro read
    obtain ⟨lexemes, scanned, short, written⟩ := lexemes_of_parse read
    obtain ⟨tokens, cut, rfl⟩ := ofText?_eq_some_iff.mp scanned
    exact ⟨tokens, cut, List.forall_mem_map.mp short, written⟩
  · rintro ⟨tokens, scanned, short, written⟩
    exact parse_of_lexemes (ofText?_eq_some_iff.mpr ⟨tokens, scanned, rfl⟩)
      (List.forall_mem_map.mpr short) written

end Schema

end TableSchema
