import Mathlib.Data.List.Forall2

/-! # Lists that are related item by item -/

namespace TableSchema

variable {α β γ : Type} {related : α → β → Prop} {as : List α} {bs : List β} {cs : List γ}

/-- What is related to what is related to something is related to it. -/
theorem forall₂_trans {first : α → β → Prop} {second : β → γ → Prop} {whole : α → γ → Prop}
    (compose : ∀ {a b c}, first a b → second b c → whole a c)
    (related : List.Forall₂ first as bs) (related' : List.Forall₂ second bs cs) :
    List.Forall₂ whole as cs := by
  induction related generalizing cs with
  | nil =>
    cases related'
    exact .nil
  | cons here others hypothesis =>
    cases related' with
    | cons here' others' => exact .cons (compose here here') (hypothesis others')

theorem map_eq_of_forall₂ {left : α → γ} {right : β → γ}
    (same : ∀ {a b}, related a b → right b = left a) (each : List.Forall₂ related as bs) :
    bs.map right = as.map left := by
  induction each with
  | nil => rfl
  | cons here others hypothesis => rw [List.map_cons, List.map_cons, same here, hypothesis]

/-- What is made of two related lists is made of related items. -/
theorem forall₂_zipWith (make : α → β → γ) (each : List.Forall₂ related as bs) :
    List.Forall₂ (fun a c => ∃ b, related a b ∧ c = make a b) as (List.zipWith make as bs) := by
  induction each with
  | nil => exact .nil
  | cons here others hypothesis => exact .cons ⟨_, here, rfl⟩ hypothesis

/-- What is related to some of a list is some of what is related to the list. -/
theorem forall₂_filter (each : List.Forall₂ related as bs) (keeps : α → Bool) :
    ∃ kept, kept.Sublist bs ∧ List.Forall₂ related (as.filter keeps) kept := by
  induction each with
  | nil => exact ⟨[], .slnil, .nil⟩
  | @cons a b as bs here others hypothesis =>
    obtain ⟨kept, some, rest⟩ := hypothesis
    rw [List.filter_cons]
    split
    · exact ⟨b :: kept, some.cons_cons b, .cons here rest⟩
    · exact ⟨kept, some.cons b, rest⟩

end TableSchema
