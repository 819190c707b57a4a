import Mathlib.Data.List.Perm.Basic

/-! # Rearrangements

A rearrangement of a list keeps the order of the items of each kind, and lets items without a kind
go anywhere. It comes about by trading places of neighbours that are not of one kind
(`Rearranged.trades`), so that whatever such a trade preserves is preserved by a rearrangement.
-/

namespace TableSchema

variable {α κ : Type}

/-- Whether two items are not of one kind. -/
def Apart (kind? : α → Option κ) (first second : α) : Prop :=
  ∀ kind, kind? first = some kind → kind? second ≠ some kind

/-- Neighbours that are not of one kind trade places, one pair after another. -/
inductive Trades (kind? : α → Option κ) : List α → List α → Prop
  | refl (items : List α) : Trades kind? items items
  | cons (item : α) {items items' : List α} (others : Trades kind? items items') :
    Trades kind? (item :: items) (item :: items')
  | swap {first second : α} (apart : Apart kind? first second) (items : List α) :
    Trades kind? (first :: second :: items) (second :: first :: items)
  | trans {items items' items'' : List α} (before : Trades kind? items items')
    (after : Trades kind? items' items'') : Trades kind? items items''

variable {kind? : α → Option κ} {items items' : List α}

/-- An item passes those before it if none of them is of its kind. -/
theorem Trades.to_front {before : List α} {item : α}
    (apart : ∀ other ∈ before, Apart kind? other item) (after : List α) :
    Trades kind? (before ++ item :: after) (item :: (before ++ after)) := by
  induction before with
  | nil => exact .refl _
  | cons other before hypothesis =>
    obtain ⟨first, others⟩ := List.forall_mem_cons.mp apart
    exact (Trades.cons other (hypothesis others)).trans (.swap first _)

variable [DecidableEq κ]

/-- Two lists of the same items, with those of each kind in the same order. -/
structure Rearranged (kind? : α → Option κ) (items items' : List α) : Prop where
  perm : items.Perm items'
  kept : ∀ kind, items.filter (kind? · = some kind) = items'.filter (kind? · = some kind)

namespace Rearranged

/-- The first item of a rearrangement stands behind items of other kinds only. -/
theorem exists_split {item : α} (rearranged : Rearranged kind? items (item :: items')) :
    ∃ before after, items = before ++ item :: after ∧
      ∀ other ∈ before, Apart kind? other item := by
  cases kinded : kind? item with
  | none =>
    obtain ⟨before, after, same⟩ := List.append_of_mem
      (rearranged.perm.symm.subset (List.mem_cons_self ..))
    refine ⟨before, after, same, fun other _ kind _ isKind => ?_⟩
    rw [kinded] at isKind
    cases isKind
  | some kind =>
    have first := rearranged.kept kind
    rw [List.filter_cons_of_pos (by simp [kinded])] at first
    obtain ⟨before, after, same, others, -, -⟩ := List.filter_eq_cons_iff.mp first
    refine ⟨before, after, same, fun other member kind' isKind isKind' => ?_⟩
    rw [kinded] at isKind'
    cases isKind'
    exact others other member (by simp [isKind])

theorem tail {before after : List α} {item : α}
    (rearranged : Rearranged kind? (before ++ item :: after) (item :: items'))
    (apart : ∀ other ∈ before, Apart kind? other item) :
    Rearranged kind? (before ++ after) items' := by
  refine ⟨(List.perm_middle.symm.trans rearranged.perm).cons_inv, fun kind => ?_⟩
  have kept := rearranged.kept kind
  rw [List.filter_append] at kept ⊢
  by_cases isKind : kind? item = some kind
  · -- Nothing in front of the item is of its kind.
    have none : before.filter (kind? · = some kind) = [] := by
      refine List.filter_eq_nil_iff.mpr fun other member => ?_
      have := apart other member kind
      simpa using fun same => this same isKind
    rw [none, List.filter_cons_of_pos (by simp [isKind]),
      List.filter_cons_of_pos (by simp [isKind])] at kept
    rw [none]
    exact (List.cons.inj kept).2
  · rwa [List.filter_cons_of_neg (by simp [isKind]),
      List.filter_cons_of_neg (by simp [isKind])] at kept

/-- A rearrangement comes about by trades. -/
theorem trades (rearranged : Rearranged kind? items items') : Trades kind? items items' := by
  induction items' generalizing items with
  | nil =>
    rw [rearranged.perm.eq_nil]
    exact .refl []
  | cons item items' hypothesis =>
    obtain ⟨before, after, rfl, apart⟩ := rearranged.exists_split
    exact (Trades.to_front apart after).trans (.cons item (hypothesis (rearranged.tail apart)))

end Rearranged

/-- What is computed from the left is the same for a rearrangement, if it is for a trade. -/
theorem Rearranged.foldl_eq {β : Type} {step : β → α → β}
    (commute : ∀ first second, Apart kind? first second → ∀ state,
      step (step state first) second = step (step state second) first)
    (rearranged : Rearranged kind? items items') (state : β) :
    items.foldl step state = items'.foldl step state := by
  have trades := rearranged.trades
  clear rearranged
  induction trades generalizing state with
  | refl items => rfl
  | cons item others hypothesis => exact hypothesis _
  | swap apart items => rw [List.foldl_cons, List.foldl_cons, commute _ _ apart]; rfl
  | trans before after first second => exact (first state).trans (second state)

end TableSchema
