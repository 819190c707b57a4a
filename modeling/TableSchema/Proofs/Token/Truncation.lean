import TableSchema.Proofs.Token.Extent

/-! # Lexemes of shorter texts

The lexeme that begins a text begins every beginning of the text that still holds it
(`Token.lexeme?_of_append`). The readers of numbers and names look at more than they take; but what
they see behind it could only have made them take more.
-/

namespace TableSchema

namespace Token

/-- What is taken from a part of a text that has room for some characters: nothing if nothing is
taken from the whole, and the same if there is room for it. -/
structure Truncates (room : Nat) (whole part : Option (List Char)) : Prop where
  none : whole = none → part = none
  some : ∀ taken, whole = some taken → taken.length ≤ room → part = some taken

/-- A reader takes the same from a beginning of a text that has room for it. -/
def IsTruncated (reader : List Char → Option (List Char)) : Prop :=
  ∀ text rest, Truncates text.length (reader (text ++ rest)) (reader text)

namespace Truncates

variable {room : Nat} {whole part : Option (List Char)}

theorem refl (taken : Option (List Char)) : Truncates room taken taken :=
  ⟨id, fun _ same _ => same⟩

/-- Where there is no room for what is taken from the whole, anything may be taken from the part. -/
theorem of_long {taken : List Char} (long : room < taken.length) :
    Truncates room (.some taken) part := by
  refine ⟨nofun, fun taken' same short => ?_⟩
  cases same
  omega

/-- There is no room in an empty text. -/
theorem of_nonempty (nonempty : ∀ taken, whole = .some taken → taken ≠ []) :
    Truncates 0 whole .none := by
  refine ⟨fun _ => rfl, fun taken same short => ?_⟩
  exact absurd (List.eq_nil_of_length_eq_zero (by omega)) (nonempty taken same)

/-- A character in front of what is taken needs room for one more. -/
theorem map_cons (truncates : Truncates room whole part) (c : Char) :
    Truncates (room + 1) (whole.map (c :: ·)) (part.map (c :: ·)) := by
  constructor
  · intro none
    rw [truncates.none (Option.map_eq_none_iff.mp none), Option.map_none]
  · intro taken same short
    obtain ⟨inner, found, rfl⟩ := Option.map_eq_some_iff.mp same
    rw [truncates.some inner found (by simpa using short), Option.map_some]

/-- Characters in front of what may be taken behind them need room for as many more. -/
theorem append_getD (truncates : Truncates room whole part) (before : List Char) :
    Truncates (before.length + room) (.some (before ++ whole.getD []))
      (.some (before ++ part.getD [])) := by
  refine ⟨nofun, fun taken same short => ?_⟩
  cases same
  cases found : whole with
  | none => rw [truncates.none found]
  | some inner =>
    rw [found, Option.getD_some, List.length_append] at short
    rw [truncates.some inner found (by omega)]

end Truncates

/-! ### Readers in a row -/

variable {first second : List Char → Option (List Char)}

/-- A reader that takes at least one character may be looked at where there is one. -/
theorem IsTruncated.of_cons (empty : first [] = none)
    (nonempty : ∀ text taken, first text = some taken → taken ≠ [])
    (step : ∀ c text rest,
      Truncates (text.length + 1) (first (c :: (text ++ rest))) (first (c :: text))) :
    IsTruncated first := by
  intro text rest
  cases text with
  | nil =>
    rw [empty]
    exact .of_nonempty (nonempty rest)
  | cons c text => exact step c text rest

/-- The first of two readers that takes something is truncated if both are. -/
theorem IsTruncated.or (isTruncated : IsTruncated first) (isTruncated' : IsTruncated second) :
    IsTruncated fun text => (first text).or (second text) := by
  intro text rest
  dsimp only
  constructor
  · intro none
    obtain ⟨none, none'⟩ := Option.or_eq_none_iff.mp none
    rw [(isTruncated text rest).none none, (isTruncated' text rest).none none', Option.or_none]
  · intro taken same short
    rcases Option.or_eq_some_iff.mp same with found | ⟨none, found⟩
    · rw [(isTruncated text rest).some taken found short, Option.some_or]
    · rw [(isTruncated text rest).none none, (isTruncated' text rest).some taken found short,
        Option.none_or]

/-- A reader, and what another one takes behind it. -/
theorem IsTruncated.followed (isTruncated : IsTruncated first)
    (isTruncated' : IsTruncated second) :
    IsTruncated fun text => (first text).map fun taken =>
      taken ++ (second (text.drop taken.length)).getD [] := by
  intro text rest
  dsimp only
  cases found : first (text ++ rest) with
  | none =>
    rw [(isTruncated text rest).none found]
    exact .refl none
  | some taken =>
    by_cases short : taken.length ≤ text.length
    · rw [(isTruncated text rest).some taken found short, Option.map_some, Option.map_some,
        List.drop_append_of_le_length short]
      have room : text.length = taken.length + (text.drop taken.length).length := by
        rw [List.length_drop]
        omega
      rw [room]
      exact (isTruncated' _ rest).append_getD taken
    · refine .of_long ?_
      rw [List.length_append]
      omega

/-! ### Numbers -/

/-- A run of characters that fits into a part of a text is the run of the part. -/
theorem takeWhile_of_append {holds : Char → Bool} {text rest : List Char}
    (short : ((text ++ rest).takeWhile holds).length ≤ text.length) :
    text.takeWhile holds = (text ++ rest).takeWhile holds := by
  rw [List.takeWhile_append] at short ⊢
  split
  · next whole =>
    rw [if_pos whole, List.length_append] at short
    have none : rest.takeWhile holds = [] := List.eq_nil_of_length_eq_zero (by omega)
    rw [none, List.append_nil]
    exact (List.takeWhile_prefix holds).eq_of_length whole
  · rfl

/-- At least one digit. -/
def digits? (text : List Char) : Option (List Char) :=
  match Text.digitRun text with
  | [] => none
  | digits => some digits

/-- Digits are truncated. -/
theorem isTruncated_digits? : IsTruncated digits? := by
  intro text rest
  unfold digits?
  by_cases short : (Text.digitRun (text ++ rest)).length ≤ text.length
  · have same : Text.digitRun text = Text.digitRun (text ++ rest) := takeWhile_of_append short
    rw [same]
    exact .refl _
  · cases run : Text.digitRun (text ++ rest) with
    | nil => simp [run] at short
    | cons c digits =>
      rw [run] at short
      exact .of_long (Nat.lt_of_not_le short)

/-- Digits are at least one. -/
theorem digits?_ne_nil {text taken : List Char} (read : digits? text = some taken) :
    taken ≠ [] := by
  unfold digits? at read
  split at read
  · cases read
  · next nonempty =>
    cases read
    exact nonempty

/-- A fraction is a point and digits. -/
theorem fraction?_point (rest : List Char) :
    fraction? ('.' :: rest) = (digits? rest).map ('.' :: ·) := by
  rw [fraction?, digits?]
  cases Text.digitRun rest <;> rfl

/-- A fraction is truncated. -/
theorem isTruncated_fraction? : IsTruncated fraction? := by
  refine .of_cons rfl (fun text taken read => ?_) fun c text rest => ?_
  · obtain ⟨c, member, -⟩ := fraction?_digit read
    exact List.ne_nil_of_mem member
  · by_cases point : c = '.'
    · subst point
      rw [fraction?_point, fraction?_point]
      exact (isTruncated_digits? text rest).map_cons '.'
    · have none (rest : List Char) : fraction? (c :: rest) = none := by
        rw [fraction?]
        intro more same
        cases same
        exact point rfl
      rw [none, none]
      exact .refl _

/-- Digits may have a sign in front. -/
theorem signedDigits?_cons (c : Char) (rest : List Char) :
    signedDigits? (c :: rest) =
      if c = '+' ∨ c = '-' then (digits? rest).map (c :: ·) else digits? (c :: rest) := by
  simp only [signedDigits?, digits?]
  cases Text.digitRun rest <;> cases Text.digitRun (c :: rest) <;> rfl

/-- Digits with a sign are at least one character. -/
theorem signedDigits?_ne_nil {text taken : List Char} (read : signedDigits? text = some taken) :
    taken ≠ [] := by
  cases text with
  | nil => cases read
  | cons c text =>
    rw [signedDigits?_cons] at read
    split at read
    · obtain ⟨digits, -, rfl⟩ := Option.map_eq_some_iff.mp read
      exact List.cons_ne_nil _ _
    · exact digits?_ne_nil read

/-- Digits with a sign are truncated. -/
theorem isTruncated_signedDigits? : IsTruncated signedDigits? := by
  refine .of_cons rfl (fun text taken => signedDigits?_ne_nil) fun c text rest => ?_
  rw [signedDigits?_cons, signedDigits?_cons]
  split
  · exact (isTruncated_digits? text rest).map_cons c
  · exact isTruncated_digits? (c :: text) rest

/-- An exponent is at least one character. -/
theorem exponent?_ne_nil {text taken : List Char} (read : exponent? text = some taken) :
    taken ≠ [] := by
  cases text with
  | nil => cases read
  | cons c text =>
    rw [exponent?] at read
    split at read
    · obtain ⟨digits, -, rfl⟩ := Option.map_eq_some_iff.mp read
      exact List.cons_ne_nil _ _
    · cases read

/-- An exponent is truncated. -/
theorem isTruncated_exponent? : IsTruncated exponent? := by
  refine .of_cons rfl (fun text taken => exponent?_ne_nil) fun c text rest => ?_
  rw [exponent?, exponent?]
  split
  · exact (isTruncated_signedDigits? text rest).map_cons c
  · exact .refl _

/-- A mantissa is digits, with a fraction behind them perhaps, or a fraction alone. -/
theorem mantissa?_eq (text : List Char) :
    mantissa? text = ((digits? text).map fun digits =>
      digits ++ (fraction? (text.drop digits.length)).getD []).or (fraction? text) := by
  unfold mantissa? digits?
  cases Text.digitRun text <;> rfl

/-- A mantissa is truncated. -/
theorem isTruncated_mantissa? : IsTruncated mantissa? := by
  intro text rest
  rw [mantissa?_eq, mantissa?_eq]
  exact (isTruncated_digits?.followed isTruncated_fraction?).or isTruncated_fraction? text rest

theorem isTruncated_unsigned? : IsTruncated unsigned? :=
  isTruncated_mantissa?.followed isTruncated_exponent?

/-- A number is truncated. -/
theorem isTruncated_number? : IsTruncated number? := by
  refine .of_cons rfl (fun text taken read => ?_) fun c text rest => ?_
  · obtain ⟨c, member, -⟩ := number?_digit read
    exact List.ne_nil_of_mem member
  · by_cases minus : c = '-'
    · subst minus
      exact (isTruncated_unsigned? text rest).map_cons '-'
    · rw [number?_cons minus, number?_cons minus]
      exact isTruncated_unsigned? (c :: text) rest

/-! ### Strings, names and punctuation -/

/-- A string is truncated. -/
theorem isTruncated_string? : IsTruncated string? := by
  intro text rest
  constructor
  · intro none
    cases read : string? text with
    | none => rfl
    | some taken =>
      obtain ⟨⟨after, rfl⟩, again⟩ := string?_isPrefix read
      rw [List.append_assoc, again] at none
      cases none
  · intro taken read short
    obtain ⟨begins, again⟩ := string?_isPrefix read
    obtain ⟨after, rfl⟩ := List.prefix_of_prefix_length_le begins (List.prefix_append _ _) short
    exact again after

/-- A name is truncated. -/
theorem isTruncated_name? : IsTruncated name? := by
  refine .of_cons rfl (fun text taken read => ?_) fun c text rest => ?_
  · obtain ⟨c, tail, rfl, -⟩ := name?_head read
    exact List.cons_ne_nil c tail
  · rw [name?, name?]
    split
    · refine ⟨fun none => absurd none (Option.some_ne_none _), fun taken same short => ?_⟩
      cases same
      rw [takeWhile_of_append (by simpa using short)]
    · exact .refl _

/-- A punctuation character is truncated. -/
theorem isTruncated_punctuation? : IsTruncated punctuation? := by
  refine .of_cons rfl (fun text taken read => ?_) fun c text rest => .refl _
  unfold punctuation? at read
  split at read
  · split at read
    · cases read
      exact List.cons_ne_nil _ _
    · cases read
  · cases read

/-- The lexeme that begins a text begins every beginning of the text that holds it. -/
theorem lexeme?_of_append {text rest taken : List Char} {group : Group}
    (read : lexeme? (text ++ rest) = some (group, taken)) (short : taken.length ≤ text.length) :
    lexeme? text = some (group, taken) := by
  have number := isTruncated_number? text rest
  have string := isTruncated_string? text rest
  have name := isTruncated_name? text rest
  simp only [lexeme?, Option.or_eq_some_iff, Option.map_eq_some_iff, Option.map_eq_none_iff,
    Prod.mk.injEq] at read ⊢
  -- The groups that were tried before find nothing in the shorter text either.
  rcases read with ⟨_, found, same, rfl⟩ | ⟨none, ⟨_, found, same, rfl⟩ |
    ⟨none', ⟨_, found, same, rfl⟩ | ⟨none'', _, found, same, rfl⟩⟩⟩
  · exact .inl ⟨_, number.some _ found short, same, rfl⟩
  · exact .inr ⟨number.none none, .inl ⟨_, string.some _ found short, same, rfl⟩⟩
  · exact .inr ⟨number.none none, .inr ⟨string.none none', .inl
      ⟨_, name.some _ found short, same, rfl⟩⟩⟩
  · exact .inr ⟨number.none none, .inr ⟨string.none none', .inr ⟨name.none none'',
      _, (isTruncated_punctuation? text rest).some _ found short, same, rfl⟩⟩⟩

end Token

end TableSchema
