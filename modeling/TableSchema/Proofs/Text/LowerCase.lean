import Mathlib.Data.List.Basic
import TableSchema.Text.Blank
import TableSchema.Text.LowerCase

/-! # What lower case leaves alone

A character beyond ASCII stays beyond ASCII in lower case and becomes no blank, but for the Kelvin
sign, which becomes a letter (`Text.Lowered`). So a text whose lower case is written in ASCII and
blanks is written in them itself, unless it holds a Kelvin sign (`Text.ascii_of_lower`), and the
lower case of such a text changes its capital letters only (`Text.lower_of_ascii`).
-/

namespace TableSchema.Text

variable {text : List Char} {c : Char}

/-- What holds of every code below 128 holds of every ASCII character. -/
theorem of_ascii (holds : Char → Prop) (all : ∀ code < 0x80, holds (Char.ofNat code))
    (ascii : c.toNat < 0x80) : holds c := by
  rw [← Char.ofNat_toNat c]
  exact all c.toNat ascii

/-- A character beyond ASCII has no small ASCII letter. -/
theorem lowerAscii_of_le (beyond : 0x80 ≤ c.toNat) : lowerAscii c = c := by
  have capital : ¬(('A' ≤ c && c ≤ 'Z') = true) := by
    rw [Bool.and_eq_true, decide_eq_true_eq, decide_eq_true_eq]
    rintro ⟨-, high⟩
    have : c.toNat ≤ 'Z'.toNat := high
    have : 'Z'.toNat = 0x5A := rfl
    omega
  rw [lowerAscii, if_neg capital]

/-- A test that does not tell capital letters from small ones. -/
theorem apply_lowerAscii (test : Char → Bool)
    (same : ∀ code < 0x80, test (lowerAscii (Char.ofNat code)) = test (Char.ofNat code))
    (c : Char) : test (lowerAscii c) = test c := by
  by_cases ascii : c.toNat < 0x80
  · exact of_ascii (fun c => test (lowerAscii c) = test c) same ascii
  · rw [lowerAscii_of_le (Nat.not_lt.mp ascii)]

theorem isBlank_lowerAscii (c : Char) : isBlank (lowerAscii c) = isBlank c :=
  apply_lowerAscii isBlank (by decide) c

/-- What becomes no letter stays as it is. -/
theorem lowerAscii_eq_self (letterless : isAsciiLetter (lowerAscii c) = false) :
    lowerAscii c = c := by
  by_cases ascii : c.toNat < 0x80
  · have kept : ∀ code < 0x80, isAsciiLetter (lowerAscii (Char.ofNat code)) = false →
        lowerAscii (Char.ofNat code) = Char.ofNat code := by decide
    exact of_ascii (fun c => isAsciiLetter (lowerAscii c) = false → lowerAscii c = c) kept ascii
      letterless
  · exact lowerAscii_of_le (Nat.not_lt.mp ascii)

/-- A small letter stays as it is. -/
theorem lowerAscii_lowerAscii (c : Char) : lowerAscii (lowerAscii c) = lowerAscii c := by
  by_cases ascii : c.toNat < 0x80
  · exact of_ascii (fun c => lowerAscii (lowerAscii c) = lowerAscii c) (by decide) ascii
  · rw [lowerAscii_of_le (Nat.not_lt.mp ascii), lowerAscii_of_le (Nat.not_lt.mp ascii)]

/-- A blank stays as it is. -/
theorem lowerAscii_of_isBlank (blank : isBlank c = true) : lowerAscii c = c := by
  by_cases ascii : c.toNat < 0x80
  · exact of_ascii (fun c => isBlank c = true → lowerAscii c = c) (by decide) ascii blank
  · exact lowerAscii_of_le (Nat.not_lt.mp ascii)

/-- A character is in ASCII or a blank exactly if its lower case is. -/
theorem ascii_lowerAscii_iff (c : Char) :
    ((lowerAscii c).toNat < 0x80 ∨ isBlank (lowerAscii c) = true) ↔
      (c.toNat < 0x80 ∨ isBlank c = true) := by
  have same := apply_lowerAscii (fun c => decide (c.toNat < 0x80) || isBlank c) (by decide) c
  simpa only [Bool.or_eq_true, decide_eq_true_eq] using Bool.eq_iff_iff.mp same

/-- What a character becomes in lower case. -/
inductive Lowered (c : Char) : List Char → Prop where
  | ascii (low : c.toNat < 0x80) : Lowered c [lowerAscii c]
  | same (beyond : 0x80 ≤ c.toNat) : Lowered c [c]
  | kelvin (sign : c = '\u212A') : Lowered c ['k']
  | beyond {result : List Char} (beyond : 0x80 ≤ c.toNat) (solid : isBlank c = false)
      (some : ∃ d ∈ result, 0x80 ≤ d.toNat ∧ isBlank d = false)
      (all : ∀ d ∈ result, 0x80 ≤ d.toNat ∨ d = 'i') : Lowered c result

/-- The runs of the table stay beyond ASCII and out of the blanks, but for the Kelvin sign. -/
theorem run_bounds {run : CaseRun} (listed : run ∈ lowerCaseRuns) :
    (run.first = 0x212A ∧ run.last = 0x212A ∧ run.offset = -8383) ∨
      (0x80 ≤ run.first + run.offset ∧ run.last + run.offset < 0x110000 ∧
        (run.last + run.offset < 0xD800 ∨ 0xDFFF < run.first + run.offset)) ∧
      ∀ range ∈ blankRanges, (range.2 < run.first ∨ run.last < range.1) ∧
        (range.2 < run.first + run.offset ∨ run.last + run.offset < range.1) := by
  revert run
  decide +kernel

/-- A character beyond ASCII and outside of the ranges of blanks is no blank. -/
theorem isBlank_eq_false_of_ranges (beyond : 0x80 ≤ c.toNat)
    (outside : ∀ range ∈ blankRanges, range.2 < c.toNat ∨ c.toNat < range.1) :
    isBlank c = false := by
  rw [isBlank, if_neg (Nat.not_lt.mpr beyond), ← Bool.not_eq_true, CodeRanges.contains_iff]
  rintro ⟨range, listed, lower, upper⟩
  have := outside range listed
  omega

/-- A character by itself becomes what lower case may make of it. -/
theorem lowered_lowerChar (c : Char) : Lowered c [lowerChar c] := by
  rw [lowerChar]
  by_cases ascii : c.toNat < 0x80
  · rw [if_pos ascii]
    exact .ascii ascii
  rw [if_neg ascii]
  have beyond : 0x80 ≤ c.toNat := Nat.not_lt.mp ascii
  cases found : lowerCaseRuns.find? (·.covers c) with
  | none => exact .same beyond
  | some run =>
    have covers := List.find?_some found
    simp only [CaseRun.covers, Bool.and_eq_true, decide_eq_true_eq] at covers
    obtain ⟨⟨low, high⟩, -⟩ := covers
    rcases run_bounds (List.mem_of_find?_eq_some found) with ⟨first, last, offset⟩ | ⟨image, blanks⟩
    · have sign : c = '\u212A' := by
        rw [← Char.toNat_inj]
        show c.toNat = 0x212A
        omega
      subst sign
      dsimp only
      rw [offset]
      exact .kelvin rfl
    · obtain ⟨code, isCode⟩ : ∃ code, code = Int.toNat (c.toNat + run.offset) := ⟨_, rfl⟩
      have moved : (code : Int) = c.toNat + run.offset := by omega
      have valid : code.isValidChar := by
        unfold Nat.isValidChar
        omega
      have kept : (Char.ofNat code).toNat = code := by
        rw [Char.ofNat, dif_pos valid]
        rfl
      have beyond' : 0x80 ≤ (Char.ofNat code).toNat := by omega
      have solid : isBlank (Char.ofNat code) = false := by
        apply isBlank_eq_false_of_ranges beyond'
        intro range listed
        have := (blanks range listed).2
        omega
      dsimp only
      rw [← isCode]
      refine .beyond beyond (isBlank_eq_false_of_ranges beyond fun range listed => ?_)
        ⟨_, List.mem_singleton_self _, beyond', solid⟩ fun d member => ?_
      · have := (blanks range listed).1
        omega
      · rw [List.mem_singleton.mp member]
        exact .inl beyond'

/-- A character in a text becomes what lower case may make of it, whatever is around it. -/
theorem lowerFrom_cons (before : List Char) (c : Char) (after : List Char) :
    ∃ result, Lowered c result ∧
      lowerFrom before (c :: after) = result ++ lowerFrom (c :: before) after := by
  rw [lowerFrom]
  refine ⟨_, ?_, rfl⟩
  by_cases sigma : c = '\u03A3'
  · have small {d : Char} (beyond : 0x80 ≤ d.toNat) (solid : isBlank d = false) :
        Lowered c [d] := by
      subst sigma
      exact .beyond (by decide) (by decide) ⟨d, List.mem_singleton_self d, beyond, solid⟩
        (List.forall_mem_singleton.mpr (.inl beyond))
    rw [if_pos sigma]
    split
    · exact small (by decide) (by decide)
    · exact small (by decide) (by decide)
  rw [if_neg sigma]
  by_cases dotted : c = '\u0130'
  · subst dotted
    have dot : '\u0307' ∈ ['i', '\u0307'] := List.mem_cons_of_mem _ List.mem_cons_self
    exact .beyond (by decide) (by decide) ⟨'\u0307', dot, by decide, by decide⟩
      (List.forall_mem_cons.mpr ⟨.inr rfl, List.forall_mem_singleton.mpr (.inl (by decide))⟩)
  · rw [if_neg dotted]
    exact lowered_lowerChar c

/-- An ASCII character or a blank changes only if it is a capital letter. -/
theorem lowerFrom_cons_of_ascii (ascii : c.toNat < 0x80 ∨ isBlank c = true)
    (before after : List Char) :
    lowerFrom before (c :: after) = lowerAscii c :: lowerFrom (c :: before) after := by
  obtain ⟨result, lowered, same⟩ := lowerFrom_cons before c after
  rw [same]
  cases lowered with
  | ascii low => rfl
  | same beyond =>
    rw [lowerAscii_of_le beyond]
    rfl
  | kelvin sign =>
    subst sign
    exact absurd ascii (by decide)
  | beyond beyond solid =>
    rw [solid] at ascii
    rcases ascii with low | ⟨⟨⟩⟩
    exact absurd low (Nat.not_lt.mpr beyond)

/-- A text of ASCII characters and blanks changes its capital letters only. -/
theorem lower_of_ascii (ascii : ∀ c ∈ text, c.toNat < 0x80 ∨ isBlank c = true) :
    lower text = text.map lowerAscii := by
  have inside (before : List Char) : lowerFrom before text = text.map lowerAscii := by
    induction text generalizing before with
    | nil => rfl
    | cons c text hypothesis =>
      obtain ⟨first, others⟩ := List.forall_mem_cons.mp ascii
      rw [lowerFrom_cons_of_ascii first, hypothesis others, List.map_cons]
  exact inside []

/-- A text whose lower case is written in ASCII characters and blanks is written in them, unless it
holds a Kelvin sign. -/
theorem ascii_of_lower (ascii : ∀ d ∈ lower text, d.toNat < 0x80 ∨ isBlank d = true)
    (unsigned : '\u212A' ∉ text) : ∀ c ∈ text, c.toNat < 0x80 ∨ isBlank c = true := by
  unfold lower at ascii
  generalize [] = before at ascii
  induction text generalizing before with
  | nil => exact List.forall_mem_nil _
  | cons c text hypothesis =>
    obtain ⟨other, unsigned⟩ := not_or.mp (mt List.mem_cons.mpr unsigned)
    obtain ⟨result, lowered, whole⟩ := lowerFrom_cons before c text
    rw [whole, List.forall_mem_append] at ascii
    obtain ⟨first, others⟩ := ascii
    refine List.forall_mem_cons.mpr ⟨?_, hypothesis unsigned _ others⟩
    cases lowered with
    | ascii low => exact .inl low
    | same beyond => exact first c (List.mem_singleton_self c)
    | kelvin sign => exact absurd sign.symm other
    | beyond beyond solid some all =>
      obtain ⟨d, member, beyond, solid⟩ := some
      have kept := first d member
      rw [solid] at kept
      rcases kept with ascii | ⟨⟨⟩⟩
      exact absurd ascii (Nat.not_lt.mpr beyond)

/-- A character becomes a mark only if it is the mark. -/
theorem Lowered.eq_of_mem {mark : Char} {result : List Char} (lowered : Lowered c result)
    (ascii : mark.toNat < 0x80) (letterless : isAsciiLetter mark = false)
    (member : mark ∈ result) : mark = c := by
  cases lowered with
  | ascii low =>
    obtain rfl := List.mem_singleton.mp member
    exact lowerAscii_eq_self letterless
  | same beyond => exact List.mem_singleton.mp member
  | kelvin sign =>
    obtain rfl := List.mem_singleton.mp member
    exact absurd letterless (by decide)
  | beyond beyond solid some all =>
    rcases all mark member with outside | rfl
    · exact absurd ascii (Nat.not_lt.mpr outside)
    · exact absurd letterless (by decide)

/-- Lower case changes the two parts of a text by themselves, as far as marks are concerned. -/
theorem exists_lowerFrom_append (before text rest : List Char) :
    ∃ result, lowerFrom before (text ++ rest) = result ++ lowerFrom (text.reverse ++ before) rest ∧
      ∀ mark ∈ result, mark.toNat < 0x80 → isAsciiLetter mark = false → mark ∈ text := by
  induction text generalizing before with
  | nil => exact ⟨[], rfl, List.forall_mem_nil _⟩
  | cons c text hypothesis =>
    obtain ⟨first, lowered, whole⟩ := lowerFrom_cons before c (text ++ rest)
    obtain ⟨others, same, marks⟩ := hypothesis (c :: before)
    have turned : (c :: text).reverse ++ before = text.reverse ++ c :: before := by
      rw [List.reverse_cons, List.append_assoc, List.singleton_append]
    refine ⟨first ++ others, ?_, ?_⟩
    · rw [List.cons_append, whole, same, turned, List.append_assoc]
    · intro mark member ascii letterless
      rcases List.mem_append.mp member with inside | behind
      · rw [lowered.eq_of_mem ascii letterless inside]
        exact List.mem_cons_self
      · exact List.mem_cons_of_mem c (marks mark behind ascii letterless)

/-- Lower case makes no mark that was not there. -/
theorem mem_of_mem_lower {mark : Char} (ascii : mark.toNat < 0x80)
    (letterless : isAsciiLetter mark = false) (member : mark ∈ lower text) : mark ∈ text := by
  obtain ⟨result, same, marks⟩ := exists_lowerFrom_append [] text []
  rw [List.append_nil] at same
  rw [lower, same, List.mem_append] at member
  exact marks mark (member.resolve_right List.not_mem_nil) ascii letterless

end TableSchema.Text
