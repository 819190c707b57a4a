import TableSchema.Catalog.Default
import TableSchema.Proofs.Catalog.Cast
import TableSchema.Proofs.Text.LowerCase

/-! # Which defaults the database computes

A default is skipped if its code holds a word of the clock or a call of the clock or of a sequence.
The search for such a word can be split where no word goes on (`Catalog.hasComputedWord_append`), so
each piece of code between literals counts for itself: an expression is skipped exactly if one of
its pieces of code, without casts, holds a computed word (`ColumnDefault.skipped_interleave_iff`).
The quoted texts have no part in it.
-/

namespace TableSchema

namespace Catalog

variable {last rest : List Char}

/-! ### Expressions -/

/-- An expression without casts keeps its literals. -/
theorem stripCasts_interleave {pairs : List (List Char × List Char)} {last : List Char}
    (free : ∀ pair ∈ pairs, quoteMark ∉ pair.1) (free_last : quoteMark ∉ last) :
    stripCasts (interleave pairs last) =
      Text.trim (interleave (pairs.map (Prod.map removeCasts id)) (removeCasts last)) := by
  have code (code : List Char) :
      (codeSegments code).flatMap Segment.withoutCasts = removeCasts code := by
    cases code with
    | nil => rfl
    | cons c code => exact List.append_nil _
  have literals (text : List Char) (pairs : List (List Char × List Char)) (last : List Char) :
      (literalSegments text pairs last).flatMap Segment.withoutCasts =
        quote text ++ interleave (pairs.map (Prod.map removeCasts id)) (removeCasts last) := by
    fun_induction literalSegments text pairs last with
    | case1 text last =>
      rw [List.flatMap_cons, code]
      rfl
    | case2 text next pairs last hypothesis =>
      rw [hypothesis, ← quote_append_quote, List.append_assoc, List.map_cons, Prod.map_apply,
        interleave_cons]
      rfl
    | case3 text c code next pairs last hypothesis =>
      rw [List.flatMap_cons, List.flatMap_cons, hypothesis, List.map_cons, Prod.map_apply,
        interleave_cons]
      rfl
  rw [stripCasts, segments_interleave free free_last]
  cases pairs with
  | nil => rw [code, List.map_nil, interleave_nil]
  | cons pair pairs =>
    obtain ⟨first, text⟩ := pair
    rw [List.flatMap_append, code, literals, List.map_cons, Prod.map_apply, interleave_cons]
    rfl

/-- Blanks go from the first piece of code and from the last one. -/
theorem trim_interleave (code text : List Char) (pairs : List (List Char × List Char))
    (last : List Char) :
    Text.trim (interleave ((code, text) :: pairs) last) =
      interleave ((code.dropWhile Text.isBlank, text) :: pairs) (last.rdropWhile Text.isBlank) := by
  have solid : Text.isBlank quoteMark = false := by decide
  have ends (code : List Char) : ∃ before, ∀ last,
      interleave ((code, text) :: pairs) last = before ++ quoteMark :: last := by
    rcases List.eq_nil_or_concat ((code, text) :: pairs) with empty | ⟨front, ⟨c, t⟩, same⟩
    · cases empty
    · refine ⟨front.flatMap (fun pair => pair.1 ++ quote pair.2) ++ (c ++ quoteMark :: doubled t),
        fun last => ?_⟩
      rw [interleave, same, List.concat_eq_append]
      simp only [List.flatMap_append, List.flatMap_cons, List.flatMap_nil, quote_eq,
        List.append_assoc, List.cons_append, List.nil_append, List.append_nil]
  have front : (interleave ((code, text) :: pairs) last).dropWhile Text.isBlank =
      interleave ((code.dropWhile Text.isBlank, text) :: pairs) last := by
    rw [interleave_cons, interleave_cons, quote_eq, List.cons_append,
      Text.dropWhile_append_cons solid]
  obtain ⟨before, same⟩ := ends (code.dropWhile Text.isBlank)
  calc Text.trim (interleave ((code, text) :: pairs) last)
    _ = (before ++ quoteMark :: last).rdropWhile Text.isBlank := by
      rw [Text.trim_eq, front, same]
    _ = before ++ quoteMark :: last.rdropWhile Text.isBlank :=
      Text.rdropWhile_append_cons solid _ _
    _ = _ := (same _).symm

/-! ### Computed words -/

/-- No blank stands in a word. -/
theorem isWordChar_of_isBlank {c : Char} (blank : Text.isBlank c = true) :
    Text.isWordChar c = false := by
  by_cases ascii : c.toNat < 0x80
  · have apart : ∀ code < 0x80, Text.isBlank (Char.ofNat code) = true →
        Text.isWordChar (Char.ofNat code) = false := by decide
    exact Text.of_ascii (fun c => Text.isBlank c = true → Text.isWordChar c = false) apart ascii
      blank
  · rw [Text.isBlank, if_neg ascii] at blank
    rw [Text.isWordChar, if_neg ascii]
    have apart : ∀ range ∈ Text.blankRanges, ∀ other ∈ Text.identifierStarts ++ Text.wordNumbers,
        other.2 < range.1 ∨ range.2 < other.1 := by decide +kernel
    obtain ⟨range, listed, lower, upper⟩ := (Text.CodeRanges.contains_iff ..).mp blank
    have outside (ranges : Text.CodeRanges)
        (part : ranges ⊆ Text.identifierStarts ++ Text.wordNumbers) :
        ranges.contains c = false := by
      rw [← Bool.not_eq_true, Text.CodeRanges.contains_iff]
      rintro ⟨other, member, inside⟩
      have := apart range listed other (part member)
      omega
    rw [outside _ (List.subset_append_left ..), outside _ (List.subset_append_right ..)]
    rfl

/-- What cannot continue a word before it, nor be the parenthesis of a call. -/
structure EndsWord (rest : List Char) : Prop where
  first : ∀ c ∈ rest.head?, Text.isWordChar c = false
  callless : (rest.dropWhile Text.isBlank).head? ≠ some '('

/-- A word ends at a quote. -/
theorem endsWord_quoteMark (rest : List Char) : EndsWord (quoteMark :: rest) := by
  constructor
  · rintro c ⟨⟩
    decide
  · rw [List.dropWhile_cons_of_neg (by decide)]
    rintro ⟨⟩

/-- A word ends at blanks that nothing follows. -/
theorem endsWord_blanks {blanks : List Char} (blank : ∀ c ∈ blanks, Text.isBlank c = true) :
    EndsWord blanks := by
  constructor
  · exact fun c member => isWordChar_of_isBlank (blank c (List.mem_of_mem_head? member))
  · rw [List.dropWhile_eq_nil_iff.mpr blank]
    rintro ⟨⟩

/-- Whether a word is computed does not depend on what stands behind its end. -/
theorem isComputedWord_append (ends : EndsWord rest) (text : List Char) :
    isComputedWord (text ++ rest) = isComputedWord text := by
  have called (behind : List Char) :
      (((behind ++ rest).dropWhile Text.isBlank).head? == some '(') =
        ((behind.dropWhile Text.isBlank).head? == some '(') := by
    rw [List.dropWhile_append]
    by_cases blank : (behind.dropWhile Text.isBlank).isEmpty = true
    · rw [if_pos blank, List.isEmpty_iff.mp blank]
      exact beq_eq_false_iff_ne.mpr ends.callless
    · rw [if_neg blank, List.head?_append_of_ne_nil _ (by simpa using blank)]
  have short : (text.takeWhile Text.isWordChar).length ≤ text.length :=
    (List.takeWhile_prefix _).length_le
  simp only [isComputedWord, Token.takeWhile_append_of_head ends.first,
    List.drop_append_of_le_length short, called]

/-- The search for a computed word can be split where no word goes on. -/
theorem hasComputedWord_append (ends : EndsWord rest) (inside : Bool) (text : List Char) :
    hasComputedWord inside (text ++ rest) =
      (hasComputedWord inside text || hasComputedWord false rest) := by
  induction text generalizing inside with
  | nil =>
    cases rest with
    | nil => rfl
    | cons c rest =>
      have apart := ends.first c rfl
      simp only [List.nil_append, hasComputedWord, apart, Bool.and_false, Bool.false_and,
        Bool.false_or]
  | cons c text hypothesis =>
    have begun := isComputedWord_append ends (c :: text)
    rw [List.cons_append] at begun
    rw [List.cons_append, hasComputedWord, hasComputedWord, begun, hypothesis, Bool.or_assoc]

/-- Blanks have no computed word. -/
theorem hasComputedWord_of_blank {blanks : List Char}
    (blank : ∀ c ∈ blanks, Text.isBlank c = true) : hasComputedWord false blanks = false := by
  induction blanks with
  | nil => rfl
  | cons c blanks hypothesis =>
    obtain ⟨first, others⟩ := List.forall_mem_cons.mp blank
    rw [hasComputedWord, isWordChar_of_isBlank first, hypothesis others]
    rfl

/-- Blanks at the front have no computed word. -/
theorem hasComputedWord_dropWhile (code : List Char) :
    hasComputedWord false (code.dropWhile Text.isBlank) = hasComputedWord false code := by
  induction code with
  | nil => rfl
  | cons c code hypothesis =>
    by_cases blank : Text.isBlank c = true
    · rw [List.dropWhile_cons_of_pos blank, hypothesis, hasComputedWord,
        isWordChar_of_isBlank blank]
      rfl
    · rw [List.dropWhile_cons_of_neg blank]

/-- Blanks at the end have no computed word. -/
theorem hasComputedWord_rdropWhile (code : List Char) :
    hasComputedWord false (code.rdropWhile Text.isBlank) = hasComputedWord false code := by
  have blank : ∀ c ∈ code.rtakeWhile Text.isBlank, Text.isBlank c = true :=
    fun c member => List.mem_rtakeWhile_imp member
  have split := hasComputedWord_append (endsWord_blanks blank) false
    (code.rdropWhile Text.isBlank)
  rw [List.rdropWhile_append_rtakeWhile, hasComputedWord_of_blank blank, Bool.or_false] at split
  exact split.symm

/-! ### Computed expressions -/

/-- Code without literals stays as it is when literals are blanked. -/
theorem flatMap_blanked_codeSegments (code : List Char) :
    (codeSegments code).flatMap Segment.blanked = code := by
  cases code with
  | nil => rfl
  | cons c code => exact List.append_nil _

/-- A blanked literal begins with a quote. -/
theorem exists_blanked (text : List Char) (pairs : List (List Char × List Char))
    (last : List Char) : ∃ rest,
    (literalSegments text pairs last).flatMap Segment.blanked = quoteMark :: rest := by
  fun_induction literalSegments text pairs last with
  | case1 text last => exact ⟨_, rfl⟩
  | case2 text next pairs last hypothesis => exact hypothesis
  | case3 text c code next pairs last hypothesis => exact ⟨_, rfl⟩

/-- Behind a literal, computed words are those of the code that follows, piece by piece. -/
theorem hasComputedWord_literal (text : List Char) (pairs : List (List Char × List Char))
    (last : List Char) :
    hasComputedWord false ((literalSegments text pairs last).flatMap Segment.blanked) =
      (pairs.any (fun pair => hasComputedWord false pair.1) || hasComputedWord false last) := by
  have mark (rest : List Char) :
      hasComputedWord false (quoteMark :: quoteMark :: rest) = hasComputedWord false rest := rfl
  fun_induction literalSegments text pairs last with
  | case1 text last =>
    rw [List.flatMap_cons, flatMap_blanked_codeSegments]
    exact mark last
  | case2 text next pairs last hypothesis => exact hypothesis
  | case3 text c code next pairs last hypothesis =>
    obtain ⟨rest, begins⟩ := exists_blanked next pairs last
    have ends : EndsWord ((literalSegments next pairs last).flatMap Segment.blanked) := by
      rw [begins]
      exact endsWord_quoteMark rest
    rw [List.flatMap_cons, List.flatMap_cons, List.any_cons, Bool.or_assoc, ← hypothesis,
      ← hasComputedWord_append ends]
    exact mark _

/-- An expression is computed exactly if one of its pieces of code holds a computed word. -/
theorem isComputed_interleave {pairs : List (List Char × List Char)}
    (free : ∀ pair ∈ pairs, quoteMark ∉ pair.1) (free_last : quoteMark ∉ last) :
    isComputed (interleave pairs last) =
      (pairs.any (fun pair => hasComputedWord false pair.1) || hasComputedWord false last) := by
  rw [isComputed, segments_interleave free free_last]
  cases pairs with
  | nil =>
    rw [flatMap_blanked_codeSegments]
    rfl
  | cons pair pairs =>
    obtain ⟨code, text⟩ := pair
    obtain ⟨rest, begins⟩ := exists_blanked text pairs last
    have ends : EndsWord ((literalSegments text pairs last).flatMap Segment.blanked) := by
      rw [begins]
      exact endsWord_quoteMark rest
    rw [List.flatMap_append, flatMap_blanked_codeSegments, hasComputedWord_append ends,
      hasComputedWord_literal, List.any_cons, Bool.or_assoc]

/-- An expression without quotes is computed exactly if it has a computed word. -/
theorem isComputed_of_free {code : List Char} (free : quoteMark ∉ code) :
    isComputed code = hasComputedWord false code := by
  rw [isComputed, segments_of_free free, flatMap_blanked_codeSegments]

/-- Code without its casts holds no quote that the code does not hold. -/
theorem quoteMark_not_mem_removeCasts {code : List Char} (free : quoteMark ∉ code) :
    quoteMark ∉ removeCasts code :=
  fun member => free (removeCasts_subset code member)

/-- An expression without casts is computed exactly if one of its pieces of code without casts
holds a computed word. -/
theorem isComputed_stripCasts {pairs : List (List Char × List Char)}
    (free : ∀ pair ∈ pairs, quoteMark ∉ pair.1) (free_last : quoteMark ∉ last) :
    isComputed (stripCasts (interleave pairs last)) =
      (pairs.any (fun pair => hasComputedWord false (removeCasts pair.1)) ||
        hasComputedWord false (removeCasts last)) := by
  have trimmed {text : List Char} (free : quoteMark ∉ text) :
      quoteMark ∉ text.rdropWhile Text.isBlank :=
    fun member => free ((List.rdropWhile_prefix _ _).subset member)
  rw [stripCasts_interleave free free_last]
  cases pairs with
  | nil =>
    have alone : quoteMark ∉ Text.trim (removeCasts last) := by
      apply trimmed
      exact fun member => quoteMark_not_mem_removeCasts free_last
        ((List.dropWhile_suffix _).subset member)
    rw [List.map_nil, interleave_nil, isComputed_of_free alone, Text.trim_eq,
      hasComputedWord_rdropWhile, hasComputedWord_dropWhile]
    rfl
  | cons pair pairs =>
    obtain ⟨code, text⟩ := pair
    obtain ⟨free_code, others⟩ := List.forall_mem_cons.mp free
    have first : quoteMark ∉ (removeCasts code).dropWhile Text.isBlank :=
      fun member => quoteMark_not_mem_removeCasts free_code
        ((List.dropWhile_suffix _).subset member)
    have between : ∀ pair ∈ pairs.map (Prod.map removeCasts id), quoteMark ∉ pair.1 := by
      intro pair member
      obtain ⟨⟨inner, quoted⟩, listed, rfl⟩ := List.mem_map.mp member
      exact quoteMark_not_mem_removeCasts (others _ listed)
    have apart : ∀ pair ∈ ((removeCasts code).dropWhile Text.isBlank, text) ::
        pairs.map (Prod.map removeCasts id), quoteMark ∉ pair.1 :=
      List.forall_mem_cons.mpr ⟨first, between⟩
    rw [List.map_cons, Prod.map_apply, id_eq, trim_interleave,
      isComputed_interleave apart (trimmed (quoteMark_not_mem_removeCasts free_last))]
    -- Blanks at either end make no word, so none is lost with them.
    rw [List.any_cons, List.any_cons, List.any_map, hasComputedWord_dropWhile,
      hasComputedWord_rdropWhile]
    rfl

end Catalog

namespace ColumnDefault

open Catalog

theorem ofValue_str (text : String) : ofValue (.str text) = ofText text.toList :=
  rfl

/-- A text is skipped exactly if it is computed without its casts. -/
theorem ofValue_eq_skipped_iff (text : List Char) :
    ofValue (.str (String.ofList text)) = .ok .skipped ↔ isComputed (stripCasts text) = true := by
  rw [ofValue_str, String.toList_ofList, ofText]
  by_cases computed : isComputed (stripCasts text) = true
  · rw [if_pos computed]
    exact iff_of_true rfl computed
  · rw [if_neg computed]
    refine iff_of_false ?_ computed
    cases literalOf (stripCasts text) with
    | error error => rintro ⟨⟩
    | ok literal => rintro ⟨⟩

/-- Whether a default is skipped does not depend on what it quotes: it is skipped exactly if one of
its pieces of code, without casts, holds a computed word. -/
theorem skipped_interleave_iff {codes texts others : List (List Char)} {last : List Char}
    (free : ∀ code ∈ codes, quoteMark ∉ code) (free_last : quoteMark ∉ last)
    (texts_length : texts.length = codes.length) (others_length : others.length = codes.length) :
    (ofValue (.str (String.ofList (interleave (codes.zip texts) last))) = .ok .skipped ↔
      ofValue (.str (String.ofList (interleave (codes.zip others) last))) = .ok .skipped) ∧
    (ofValue (.str (String.ofList (interleave (codes.zip texts) last))) = .ok .skipped ↔
      ∃ code ∈ codes ++ [last], hasComputedWord false (removeCasts code) = true) := by
  have decided {texts : List (List Char)} (length : texts.length = codes.length) :
      ofValue (.str (String.ofList (interleave (codes.zip texts) last))) = .ok .skipped ↔
        ∃ code ∈ codes ++ [last], hasComputedWord false (removeCasts code) = true := by
    have outside : ∀ pair ∈ codes.zip texts, quoteMark ∉ pair.1 :=
      fun pair member => free _ (List.of_mem_zip member).1
    have pieces : (codes.zip texts).any (fun pair => hasComputedWord false (removeCasts pair.1)) =
        codes.any (fun code => hasComputedWord false (removeCasts code)) := by
      have firsts : (codes.zip texts).map Prod.fst = codes := List.map_fst_zip length.ge
      conv_rhs => rw [← firsts, List.any_map]
      rfl
    rw [ofValue_eq_skipped_iff, isComputed_stripCasts outside free_last, pieces]
    simp only [Bool.or_eq_true, List.any_eq_true, List.mem_append, List.mem_singleton, or_and_right,
      exists_or, exists_eq_left]
  exact ⟨(decided texts_length).trans (decided others_length).symm, decided texts_length⟩

/-- The current date, behind literals that name a function and touch code, is computed. -/
theorem skipped_interleave_iff_touching :
    (∀ code ∈ [" ".toList, "::text".toList, "||now".toList], quoteMark ∉ code) ∧
      quoteMark ∉ " (1)::date".toList ∧
      (ofValue (.str (String.ofList (interleave ([" ".toList, "::text".toList, "||now".toList].zip
          ["now()".toList, "it's".toList, "current_date".toList]) " (1)::date".toList))) =
            .ok .skipped ↔
        ofValue (.str (String.ofList (interleave ([" ".toList, "::text".toList, "||now".toList].zip
          ["".toList, "'".toList, "::text".toList]) " (1)::date".toList))) = .ok .skipped) := by
  have free : ∀ code ∈ [" ".toList, "::text".toList, "||now".toList], quoteMark ∉ code := by decide
  have free_last : quoteMark ∉ " (1)::date".toList := by decide
  refine ⟨free, free_last, ?_⟩
  exact (skipped_interleave_iff free free_last (by decide) (by decide)).1

end ColumnDefault

end TableSchema
