import Mathlib.Data.List.Forall2

/-!
# Lists that are related item by item

An induction on arguments or documents speaks of the items of a list only. `forall₂_mem` adds that
the related items are such items; symmetry, transitivity and the equality of mapped lists follow
from what holds of each item.
-/

namespace CaseLabel

variable {α β : Type} {R : α → α → Prop} {as bs cs : List α}

theorem forall₂_mem (h : List.Forall₂ R as bs) :
    List.Forall₂ (fun a b => a ∈ as ∧ R a b) as bs := by
  rw [List.forall₂_iff_zip] at h ⊢
  exact ⟨h.1, fun zipped => ⟨(List.of_mem_zip zipped).1, h.2 zipped⟩⟩

theorem forall₂_symm (symm : ∀ a ∈ as, ∀ b, R a b → R b a) (h : List.Forall₂ R as bs) :
    List.Forall₂ R bs as := by
  have reversed : List.Forall₂ (flip R) as bs :=
    (forall₂_mem h).imp fun a b related => symm a related.1 b related.2
  exact reversed.flip

theorem forall₂_trans (trans : ∀ a ∈ as, ∀ b c, R a b → R b c → R a c)
    (h : List.Forall₂ R as bs) (h' : List.Forall₂ R bs cs) : List.Forall₂ R as cs := by
  induction h generalizing cs with
  | nil => exact h'
  | cons first _ ih =>
    cases h' with
    | cons second rest =>
      exact .cons (trans _ (by simp) _ _ first second)
        (ih (fun a member => trans a (by simp [member])) rest)

theorem map_eq_of_forall₂ {f : α → β} (equal : ∀ a ∈ as, ∀ b, R a b → f a = f b)
    (h : List.Forall₂ R as bs) : as.map f = bs.map f := by
  rw [← List.forall₂_eq_eq_eq, List.forall₂_map_left_iff, List.forall₂_map_right_iff]
  exact (forall₂_mem h).imp fun a b related => equal a related.1 b related.2

/-- Related lists are equal if related items at the same place are. -/
theorem eq_of_forall₂ (h : List.Forall₂ R as bs)
    (equal : ∀ (i : Nat) (a b : α), as[i]? = some a → bs[i]? = some b → R a b → a = b) :
    as = bs := by
  induction h with
  | nil => rfl
  | cons first _ ih =>
    rw [equal 0 _ _ rfl rfl first, ih fun i => equal (i + 1)]

end CaseLabel
