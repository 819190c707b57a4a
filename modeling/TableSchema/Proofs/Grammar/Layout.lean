import TableSchema.Proofs.Grammar.Location
import TableSchema.Proofs.Token.Insertion

/-! # The layout of expressions

An expression may be laid out freely: blanks between its tokens leave the tokens as they are, so
that the same schema is read, or the same fault found at the same token (`Schema.parse_layout`).
-/

namespace TableSchema

/-- An error where it comes to lie when `count` characters are put in at `gap`. -/
def ParseError.shift (gap count : Nat) : ParseError → ParseError
  | .malformed fault position => .malformed fault (shiftedPlace gap count position)
  | .integerTooLong error => .integerTooLong error

namespace Expression

/-- Tokens that lie elsewhere are read as the same schema, or refused where they lie. -/
theorem whole_shift {gap count length : Nat} (inside : gap ≤ length) (tokens : List Token) :
    (whole (tokens.map (·.shift gap count))).mapError (·.toError (length + count)) =
      ((whole tokens).mapError (·.toError length)).mapError (·.shift gap count) := by
  have tied : List.Forall₂ (fun token token' => token' = token.shift gap count) tokens
      (tokens.map (·.shift gap count)) := by
    simp [List.forall₂_map_right_iff, List.forall₂_same]
  have located := whole_located (fun {token _} same => ⟨_, same⟩) tied
  revert located
  generalize whole tokens = outcome
  generalize whole (tokens.map (·.shift gap count)) = outcome'
  rintro (⟨schema⟩ | ⟨⟨rfl, -⟩ | - | ⟨-, -, -⟩⟩)
  · rfl
  · rfl
  · have behind : shiftedPlace gap count length = length + count := if_neg (Nat.not_lt.mpr inside)
    show Except.error _ = Except.error (ParseError.malformed _ (shiftedPlace gap count length))
    rw [behind]
    rfl
  · rfl

end Expression

/-- Blanks between the tokens of an expression only move what is found behind them. -/
theorem Schema.parse_insert {before blanks after : String} {tokens : List Token} {last : Nat}
    (tiles : Token.Tiles (before ++ after).toList 0 tokens last)
    (isGap : Token.IsGap tokens before.length) (inside : before.length ≤ last)
    (blank : ∀ c ∈ blanks.toList, Text.isBlank c = true) :
    parse (before ++ blanks ++ after) =
      (parse (before ++ after)).mapError (·.shift before.length blanks.length) := by
  have within : before.length ≤ (before ++ after).length := by
    rw [String.length_append]
    omega
  have length : (before ++ blanks ++ after).length = (before ++ after).length + blanks.length := by
    simp only [String.length_append]
    omega
  unfold parse
  rw [Token.scan_insert tiles isGap inside blank, length]
  cases Token.scan (before ++ after) with
  | error stray => rfl
  | ok tokens => exact Expression.whole_shift within tokens

/-- A text is covered by its tokens and blanks, or up to the first character that begins neither;
and blanks between the tokens change nothing but places. -/
theorem Schema.parse_layout (text : String) :
    (∀ tokens, Token.scan text = .ok tokens ↔ Token.Tiles text.toList 0 tokens text.length) ∧
    (∀ stray, Token.scan text = .error stray ↔ Token.StopsAt text.toList stray) ∧
    (∀ stray, Token.scan text = .error stray →
      parse text = .error (.malformed (.unexpectedCharacter stray.char) stray.offset)) ∧
    (∀ tokens last, Token.Tiles text.toList 0 tokens last →
      Token.IsGap tokens last ∧ ∀ token ∈ tokens, Token.IsGap tokens token.offset) ∧
    ∀ before blanks after tokens last, text = before ++ after →
      Token.Tiles text.toList 0 tokens last → Token.IsGap tokens before.length →
      before.length ≤ last → (∀ c ∈ blanks.toList, Text.isBlank c = true) →
      Token.scan (before ++ blanks ++ after) =
          ((Token.scan text).map (List.map (·.shift before.length blanks.length))).mapError
            (·.shift before.length blanks.length) ∧
        parse (before ++ blanks ++ after) =
          (parse text).mapError (·.shift before.length blanks.length) := by
  refine ⟨fun _ => Token.scan_eq_ok_iff, fun _ => Token.scan_eq_error_iff, ?_,
    fun tokens last tiles => ⟨tiles.isGap_last, fun token => tiles.isGap_offset⟩, ?_⟩
  · intro stray failed
    rw [parse, failed]
  · rintro before blanks after tokens last rfl tiles isGap inside blank
    exact ⟨Token.scan_insert tiles isGap inside blank, parse_insert tiles isGap inside blank⟩

/-- A wrong constructor is refused where blanks in front of it have moved it to. -/
theorem Schema.parse_layout_moved :
    parse ("z." ++ " \n" ++ "strin()") =
      .error (.malformed (.unknownConstructor "strin") 4) := by
  obtain ⟨scanned, -, -, gaps, moved⟩ := parse_layout "z.strin()"
  have tiles := (scanned [⟨.name, "z", 0⟩, ⟨.punctuation, ".", 1⟩, ⟨.name, "strin", 2⟩,
    ⟨.punctuation, "(", 7⟩, ⟨.punctuation, ")", 8⟩]).mp (by decide +kernel)
  have isGap : Token.IsGap _ 2 := (gaps _ _ tiles).2 _ (.tail _ (.tail _ (.head _)))
  have inside : "z.".length ≤ "z.strin()".length := by decide +kernel
  have blank : ∀ c ∈ " \n".toList, Text.isBlank c = true := Text.forall_of_all (by decide)
  exact (moved "z." " \n" "strin()" _ _ rfl tiles isGap inside blank).2.trans (by decide +kernel)

end TableSchema
