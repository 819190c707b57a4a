import TableSchema.Catalog.Quotation

/-! # Expressions made of code and quoted literals

`Catalog.interleave` writes texts as literals between pieces of code. `Catalog.segments` finds the
pieces again, but for one thing: literals with no code between them are one literal, because the
quotes where they touch count as a doubled quote (`Catalog.quote_append_quote`).
`Catalog.segments_interleave` gives the segments with such literals joined, whatever the quoted
texts hold.
-/

namespace TableSchema.Catalog

variable {code last rest text : List Char}

/-! ### Doubled quotes -/

/-- A text with its quotes doubled. -/
def doubled (text : List Char) : List Char :=
  text.flatMap fun c => if c = quoteMark then [c, c] else [c]

theorem quote_eq (text : List Char) : quote text = quoteMark :: (doubled text ++ [quoteMark]) :=
  rfl

theorem doubled_append (text rest : List Char) :
    doubled (text ++ rest) = doubled text ++ doubled rest :=
  List.flatMap_append

@[simp] theorem doubled_quoteMark (text : List Char) :
    doubled (quoteMark :: text) = quoteMark :: quoteMark :: doubled text :=
  rfl

theorem doubled_cons {c : Char} (plain : c ≠ quoteMark) (text : List Char) :
    doubled (c :: text) = c :: doubled text := by
  simp only [doubled, List.flatMap_cons, plain, ↓reduceIte, List.cons_append, List.nil_append]

/-- Doubling shortens nothing. -/
theorem length_le_doubled (text : List Char) : text.length ≤ (doubled text).length := by
  induction text with
  | nil => exact Nat.le_refl _
  | cons c text hypothesis =>
    by_cases mark : c = quoteMark
    · rw [mark, doubled_quoteMark, List.length_cons, List.length_cons, List.length_cons]
      omega
    · rw [doubled_cons mark, List.length_cons, List.length_cons]
      omega

/-- Two literals that touch are one literal with a quote inside. -/
theorem quote_append_quote (text rest : List Char) :
    quote text ++ quote rest = quote (text ++ quoteMark :: rest) := by
  simp only [quote_eq, doubled_append, doubled_quoteMark, List.cons_append, List.append_assoc,
    List.nil_append]

/-- A character that is no quote stays. -/
theorem undouble_cons {c : Char} (plain : c ≠ quoteMark) (text : List Char) :
    undouble (c :: text) = c :: undouble text := by
  rw [undouble]
  rintro rest rfl
  exact absurd rfl plain

/-- Doubled quotes are made single again. -/
theorem undouble_doubled (text : List Char) : undouble (doubled text) = text := by
  induction text with
  | nil => rfl
  | cons c text hypothesis =>
    by_cases mark : c = quoteMark
    · subst mark
      rw [doubled_quoteMark]
      exact congrArg (quoteMark :: ·) hypothesis
    · rw [doubled_cons mark, undouble_cons mark, hypothesis]

/-- A literal is unquoted to the text that it quotes. -/
theorem unquote?_quote (text : List Char) : unquote? (quote text) = some text := by
  have ends : (quote text).getLast? = some quoteMark := by
    rw [quote_eq, ← List.cons_append, List.getLast?_concat]
  have inner : (quote text).tail.dropLast = doubled text := by
    rw [quote_eq, List.tail_cons, List.dropLast_concat]
  have long : 2 ≤ (quote text).length := by
    rw [quote_eq, List.length_cons, List.length_append]
    exact Nat.succ_le_succ (Nat.le_add_left ..)
  rw [unquote?, if_pos ⟨long, rfl, ends⟩, inner, undouble_doubled]

/-! ### The literal that begins a text -/

/-- A literal goes on behind a character that is no quote. -/
theorem quotedTail?_cons {c : Char} (plain : c ≠ quoteMark) (text : List Char) :
    quotedTail? (c :: text) = (quotedTail? text).map (c :: ·) := by
  rw [quotedTail?]
  · rintro rest rfl
    exact absurd rfl plain
  · rintro rfl
    exact absurd rfl plain

/-- A literal ends at a single quote. -/
theorem quotedTail?_quoteMark (closed : rest.head? ≠ some quoteMark) :
    quotedTail? (quoteMark :: rest) = some [quoteMark] := by
  cases rest with
  | nil => rfl
  | cons c rest =>
    have plain : c ≠ quoteMark := fun same => closed (congrArg some same)
    rw [quoteMark, quotedTail?]
    · rfl
    · rintro more same
      cases same
      exact plain rfl

/-- A literal goes on behind a doubled quote. -/
theorem quotedTail?_pair {tail : List Char} (found : quotedTail? text = some tail) :
    quotedTail? (quoteMark :: quoteMark :: text) = some (quoteMark :: quoteMark :: tail) := by
  unfold quoteMark
  rw [quotedTail?, found]
  rfl

/-- A literal ends at its own closing quote, unless another quote follows. -/
theorem quotedTail?_doubled (closed : rest.head? ≠ some quoteMark) (text : List Char) :
    quotedTail? (doubled text ++ quoteMark :: rest) = some (doubled text ++ [quoteMark]) := by
  induction text with
  | nil => exact quotedTail?_quoteMark closed
  | cons c text hypothesis =>
    by_cases mark : c = quoteMark
    · subst mark
      rw [doubled_quoteMark, List.cons_append, List.cons_append, quotedTail?_pair hypothesis]
      rfl
    · rw [doubled_cons mark, List.cons_append, quotedTail?_cons mark, hypothesis]
      rfl

/-! ### Segments -/

/-- The segments of a text of which some characters are covered are those of the rest. -/
theorem segmentsFrom_eq (covered : Nat) (text : List Char) :
    segmentsFrom covered text = segments (text.drop covered) := by
  induction text generalizing covered with
  | nil => cases covered <;> rfl
  | cons c text hypothesis =>
    cases covered with
    | zero => rfl
    | succ covered => exact hypothesis covered

/-- A quoted text is one segment. -/
theorem segments_quote (closed : rest.head? ≠ some quoteMark) (text : List Char) :
    segments (quote text ++ rest) = .quoted (quote text) :: segments rest := by
  have tail := quotedTail?_doubled closed text
  have remaining : (doubled text ++ quoteMark :: rest).drop (doubled text ++ [quoteMark]).length =
      rest := by
    rw [List.append_cons (doubled text) quoteMark rest]
    exact List.drop_left
  calc segments (quote text ++ rest)
    _ = segments (quoteMark :: (doubled text ++ quoteMark :: rest)) := by
      rw [quote_eq, List.cons_append, List.append_assoc, List.singleton_append]
    _ = .quoted (quoteMark :: (doubled text ++ [quoteMark])) ::
        segmentsFrom (doubled text ++ [quoteMark]).length (doubled text ++ quoteMark :: rest) := by
      rw [segments, segmentsFrom, if_pos rfl, tail]
    _ = .quoted (quote text) :: segments rest := by
      rw [segmentsFrom_eq, remaining, quote_eq]

/-- A character of code belongs to the code that follows. -/
theorem segments_cons {c : Char} (plain : c ≠ quoteMark) (text : List Char) :
    segments (c :: text) = consCode c (segments text) := by
  rw [segments, segmentsFrom, if_neg plain]
  rfl

/-- A piece of code as segments: none if it is empty. -/
def codeSegments : List Char → List Segment
  | [] => []
  | c :: code => [.code (c :: code)]

/-- Code is one segment, up to a segment that is no code. -/
theorem segments_code (free : quoteMark ∉ code)
    (solid : ∀ text, (segments rest).head? ≠ some (.code text)) :
    segments (code ++ rest) = codeSegments code ++ segments rest := by
  induction code with
  | nil => rfl
  | cons c code hypothesis =>
    obtain ⟨plain, others⟩ := not_or.mp (mt List.mem_cons.mpr free)
    rw [List.cons_append, segments_cons (Ne.symm plain), hypothesis others]
    cases code with
    | cons d code => rfl
    | nil =>
      cases segmented : segments rest with
      | nil => rfl
      | cons segment segments =>
        cases segment with
        | quoted text => rfl
        | code text => exact absurd (congrArg List.head? segmented) (solid text)

/-- A text without quotes is code. -/
theorem segments_of_free (free : quoteMark ∉ code) : segments code = codeSegments code := by
  have alone : segments (code ++ []) = codeSegments code ++ [] :=
    segments_code free (by rintro text ⟨⟩)
  simpa only [List.append_nil] using alone

/-! ### Interleaved code and literals -/

/-- An expression that holds each text as a literal behind its piece of code, and a last piece of
code. -/
def interleave (pairs : List (List Char × List Char)) (last : List Char) : List Char :=
  pairs.flatMap (fun pair => pair.1 ++ quote pair.2) ++ last

@[simp] theorem interleave_nil (last : List Char) : interleave [] last = last :=
  rfl

/-- Code and a literal stand in front of the others. -/
@[simp] theorem interleave_cons (code text : List Char) (pairs : List (List Char × List Char))
    (last : List Char) :
    interleave ((code, text) :: pairs) last = code ++ (quote text ++ interleave pairs last) := by
  simp only [interleave, List.flatMap_cons, List.append_assoc]

/-- The segments of an expression that begins with a literal. Literals that touch are joined. -/
def literalSegments (text : List Char) : List (List Char × List Char) → List Char → List Segment
  | [], last => .quoted (quote text) :: codeSegments last
  | ([], next) :: pairs, last => literalSegments (text ++ quoteMark :: next) pairs last
  | (c :: code, next) :: pairs, last =>
    .quoted (quote text) :: .code (c :: code) :: literalSegments next pairs last

/-- Behind a literal the first segment is no code. -/
theorem head?_literalSegments_ne (text : List Char) (pairs : List (List Char × List Char))
    (last : List Char) :
    ∀ code, (literalSegments text pairs last).head? ≠ some (.code code) := by
  fun_induction literalSegments text pairs last with
  | case1 text last =>
    rintro code ⟨⟩
  | case2 text next pairs last hypothesis => exact hypothesis
  | case3 text c code next pairs last =>
    rintro code ⟨⟩

/-- The segments of interleaved code and literals that begin with a literal. -/
theorem segments_literal (text : List Char) {pairs : List (List Char × List Char)}
    (free : ∀ pair ∈ pairs, quoteMark ∉ pair.1) (free_last : quoteMark ∉ last) :
    segments (quote text ++ interleave pairs last) = literalSegments text pairs last := by
  have closed {code : List Char} (free : quoteMark ∉ code) : code.head? ≠ some quoteMark :=
    fun found => free (List.mem_of_mem_head? found)
  induction pairs generalizing text with
  | nil =>
    rw [interleave_nil, segments_quote (closed free_last), segments_of_free free_last,
      literalSegments]
  | cons pair pairs hypothesis =>
    obtain ⟨code, next⟩ := pair
    obtain ⟨free_code, others⟩ := List.forall_mem_cons.mp free
    rw [interleave_cons]
    cases code with
    | nil =>
      rw [List.nil_append, ← List.append_assoc, quote_append_quote, literalSegments]
      exact hypothesis _ others
    | cons c code =>
      have behind := hypothesis next others
      have first : (c :: code).head? ≠ some quoteMark := closed free_code
      have apart : (c :: code ++ (quote next ++ interleave pairs last)).head? ≠ some quoteMark :=
        first
      rw [segments_quote apart, literalSegments,
        segments_code free_code (behind ▸ head?_literalSegments_ne next pairs last), behind]
      rfl

/-- The segments of interleaved code and literals, whatever texts are quoted. -/
theorem segments_interleave {pairs : List (List Char × List Char)}
    (free : ∀ pair ∈ pairs, quoteMark ∉ pair.1) (free_last : quoteMark ∉ last) :
    segments (interleave pairs last) =
      match pairs with
      | [] => codeSegments last
      | (code, text) :: pairs => codeSegments code ++ literalSegments text pairs last := by
  cases pairs with
  | nil => exact segments_of_free free_last
  | cons pair pairs =>
    obtain ⟨code, text⟩ := pair
    obtain ⟨free_code, others⟩ := List.forall_mem_cons.mp free
    have literal := segments_literal text others free_last
    have solid := head?_literalSegments_ne text pairs last
    rw [interleave_cons, segments_code free_code (literal ▸ solid), literal]

end TableSchema.Catalog
