import TableSchema.Proofs.Grammar.Acceptance
import TableSchema.Proofs.Grammar.Location
import TableSchema.Proofs.Token.Tiling

/-! # Where expressions are refused

Every refusal lies at a token, at the character where the tokens stop, or at the end of the text,
and at the end only when the tokens run out (`Schema.parse_located`). The one error without a place
is an integer of too many digits, and the text has a token that is one.
-/

namespace TableSchema

namespace Expression

/-- Texts that differ within the first characters of one of them. -/
theorem ne_of_opening {opening rest other : String} (place : Nat)
    (inside : place < opening.toList.length)
    (differs : opening.toList[place]? ≠ other.toList[place]?) : opening ++ rest ≠ other := by
  rintro rfl
  rw [String.toList_append, List.getElem?_append_left inside] at differs
  exact differs rfl

/-- Only the fault at the end of the tokens is worded like it. -/
theorem Fault.message_eq_end_iff {fault : Fault} :
    fault.message = "Unexpected end of expression" ↔ fault = .unexpectedEnd := by
  constructor
  · intro same
    -- Every other wording departs from this one before its first quoted part.
    cases fault <;> unfold message at same <;> try simp only [String.append_assoc] at same
    case unexpectedEnd => rfl
    case unexpectedCharacter => exact (ne_of_opening 11 (by decide) (by decide) same).elim
    case unknownConstructor => exact (ne_of_opening 2 (by decide) (by decide) same).elim
    case unknownMethod => exact (ne_of_opening 2 (by decide) (by decide) same).elim
    case instanceTarget => exact (ne_of_opening 2 (by decide) (by decide) same).elim
    case trailingInput => exact absurd same (by decide)
    case withoutRoot => exact absurd same (by decide)
    case enumOptions => exact absurd same (by decide)
    all_goals exact (ne_of_opening 0 (by decide) (by decide) same).elim
  · rintro rfl
    rfl

theorem Fault.IsAtToken.ne_end {fault : Fault} (atToken : fault.IsAtToken) :
    fault ≠ .unexpectedEnd := by
  rintro rfl
  exact atToken

/-- What stops the reading of tokens is found among them, or behind them all. -/
inductive Halt.IsOf (tokens : List Token) : Halt → Prop
  | refused {token : Token} {fault : Fault} (member : token ∈ tokens)
      (atToken : fault.IsAtToken) : IsOf tokens (.refused fault token.offset)
  | endOfTokens : IsOf tokens .endOfTokens
  | integerTooLong {token : Token} {error : IntegerTooLong} (member : token ∈ tokens)
      (isNumber : token.group = .number) (long : Numeral.value token.text.toList = .error error) :
      IsOf tokens (.integerTooLong error)

/-- Reading stops at one of the tokens that it is given. -/
theorem isOf_of_whole {tokens : List Token} {halt : Halt} (stopped : whole tokens = .error halt) :
    halt.IsOf tokens := by
  have tied : List.Forall₂ (fun token token' => token = token' ∧ token ∈ tokens) tokens tokens :=
    List.forall₂_same.mpr fun token member => ⟨rfl, member⟩
  have located := whole_located (fun {token _} tied => ⟨token.offset, tied.1.symm⟩) tied
  rw [stopped] at located
  have ⟨other, located⟩ : ∃ other, SameReading _ (.error halt) other := ⟨_, located⟩
  cases located with
  | error same =>
    cases same with
    | refused tied atToken => exact .refused tied.2 atToken
    | endOfTokens => exact .endOfTokens
    | integerTooLong tied isNumber long => exact .integerTooLong tied.2 isNumber long

end Expression

open Expression

/-- A number that cannot be read is an integer of too many digits. -/
theorem Lexeme.not_isShort_of_value {text : String} (proper : IsProper ⟨.number, text⟩)
    {error : IntegerTooLong} (long : Numeral.value text.toList = .error error) :
    Numeral.isIntegral text.toList = true ∧
      integerDigitLimit < (text.toList.filter Text.isDigit).length := by
  have unread : ¬IsShort ⟨.number, text⟩ := by
    intro short
    rw [(value_eq_ok proper).mpr ⟨rfl, short⟩] at long
    cases long
  simpa [IsShort] using unread

/-- Tokens begin before the end of their text. -/
theorem Token.offset_lt_length {text : String} {tokens : List Token} {token : Token}
    (scanned : scan text = .ok tokens) (member : token ∈ tokens) : token.offset < text.length := by
  have tiles := scan_eq_ok_iff.mp scanned
  exact Nat.lt_of_lt_of_le (tiles.offset_lt_reach member) (tiles.inside token member).2

/-- The places of a text that a refusal may name. -/
inductive Token.IsPlace (text : String) : Nat → Prop
  | token {tokens : List Token} {token : Token} (scanned : scan text = .ok tokens)
      (member : token ∈ tokens) : IsPlace text token.offset
  | stray {stray : StrayCharacter} (stops : StopsAt text.toList stray) :
      IsPlace text stray.offset
  | atEnd : IsPlace text text.length

/-- A text is read as a schema, or refused at a token, at the first character that begins none, or
at its end, and there exactly when the tokens run out; or it has an integer of too many digits. -/
theorem Schema.parse_located (text : String) :
    (∃ schema, parse text = .ok schema) ∨
    (∃ fault position, parse text = .error (.malformed fault position) ∧
      Token.IsPlace text position ∧ position ≤ text.length ∧
      (position = text.length ↔ fault.message = "Unexpected end of expression")) ∨
    ∃ error tokens token, parse text = .error (.integerTooLong error) ∧
      Token.scan text = .ok tokens ∧ token ∈ tokens ∧ token.group = .number ∧
      Numeral.isIntegral token.text.toList = true ∧
      integerDigitLimit < (token.text.toList.filter Text.isDigit).length := by
  have before {fault : Fault} {position : Nat} (inside : position < text.length)
      (other : fault ≠ .unexpectedEnd) : position ≤ text.length ∧
        (position = text.length ↔ fault.message = "Unexpected end of expression") :=
    ⟨Nat.le_of_lt inside, iff_of_false (Nat.ne_of_lt inside) (mt Fault.message_eq_end_iff.mp other)⟩
  unfold parse
  cases scanned : Token.scan text with
  | error stray =>
    have stops := Token.scan_eq_error_iff.mp scanned
    obtain ⟨inside, -⟩ := List.getElem?_eq_some_iff.mp stops.here
    rw [String.length_toList] at inside
    exact .inr (.inl ⟨_, _, rfl, .stray stops, before inside nofun⟩)
  | ok tokens =>
    dsimp only
    cases read : whole tokens with
    | ok schema => exact .inl ⟨schema, rfl⟩
    | error halt =>
      cases isOf_of_whole read with
      | refused member atToken =>
        exact .inr (.inl ⟨_, _, rfl, .token scanned member,
          before (Token.offset_lt_length scanned member) atToken.ne_end⟩)
      | endOfTokens => exact .inr (.inl ⟨_, _, rfl, .atEnd, Nat.le_refl _, iff_of_true rfl rfl⟩)
      | @integerTooLong token error member isNumber long =>
        have proper := Lexeme.isProper_of_scan scanned token member
        rw [Token.lexeme, isNumber] at proper
        exact .inr (.inr ⟨error, tokens, token, rfl, rfl, member, isNumber,
          Lexeme.not_isShort_of_value proper long⟩)

end TableSchema
