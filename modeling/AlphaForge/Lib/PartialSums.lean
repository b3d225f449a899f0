/-
  File:      AlphaForge/Lib/PartialSums.lean
  Subject:   The highest value that a running total reaches. No program fact.

  * `highest` -- the largest of the partial sums of a list, the empty one among them.
  * **`isGreatest_highest`** -- it is the greatest of the sums of the front parts.
  * `highest_fold` -- a loop that keeps a total and its maximum ends with it.
-/
import Mathlib.Algebra.BigOperators.Group.List.Basic
import Mathlib.Algebra.Order.Group.MinMax
import Mathlib.Order.Bounds.Basic

namespace AlphaForge.Lib

variable {M : Type} [AddCommGroup M] [LinearOrder M]

/-- The largest partial sum. -/
def highest : List M → M
  | [] => 0
  | x :: rest => max 0 (x + highest rest)

theorem highest_cons (x : M) (rest : List M) : highest (x :: rest) = max 0 (x + highest rest) := rfl

theorem highest_nonneg (xs : List M) : 0 ≤ highest xs := by
  cases xs with
  | nil => exact le_refl _
  | cons x rest => exact le_max_left _ _

/-- The sums of the front parts. -/
def partialSums (xs : List M) : Set M := { s | ∃ front, front <+: xs ∧ front.sum = s }

variable [IsOrderedAddMonoid M]

/-- **The largest partial sum is one, and no other one is larger.** -/
theorem isGreatest_highest (xs : List M) : IsGreatest (partialSums xs) (highest xs) := by
  induction xs with
  | nil =>
    constructor
    · exact ⟨[], List.nil_prefix, List.sum_nil⟩
    · rintro s ⟨front, hfront, rfl⟩
      rw [List.prefix_nil.mp hfront, List.sum_nil]
      exact le_refl _
  | cons x rest ih =>
    rw [highest_cons]
    constructor
    · rcases max_choice 0 (x + highest rest) with hmax | hmax
      · rw [hmax]
        exact ⟨[], List.nil_prefix, List.sum_nil⟩
      · rw [hmax]
        obtain ⟨front, hfront, hsum⟩ := ih.1
        exact ⟨x :: front, List.cons_prefix_cons.mpr ⟨rfl, hfront⟩, by rw [List.sum_cons, hsum]⟩
    · rintro s ⟨front, hfront, rfl⟩
      cases front with
      | nil =>
        rw [List.sum_nil]
        exact le_max_left _ _
      | cons y front =>
        obtain ⟨rfl, hrest⟩ := List.cons_prefix_cons.mp hfront
        rw [List.sum_cons]
        have hle := ih.2 ⟨front, hrest, rfl⟩
        exact le_trans (add_le_add_right hle y) (le_max_right _ _)

/-- A total and the highest total so far. -/
theorem highest_fold (xs : List M) {total peak : M} (h : total ≤ peak) :
    xs.foldl (fun s x => (s.1 + x, max s.2 (s.1 + x))) (total, peak) =
      (total + xs.sum, max peak (total + highest xs)) := by
  induction xs generalizing total peak with
  | nil =>
    rw [List.foldl_nil, List.sum_nil, add_zero]
    unfold highest
    rw [add_zero, max_eq_left h]
  | cons x rest ih =>
    have hnext : total + x ≤ max peak (total + x) := le_max_right _ _
    rw [List.foldl_cons, ih hnext, List.sum_cons, add_assoc]
    have hrest : total + x ≤ total + x + highest rest :=
      le_add_of_nonneg_right (highest_nonneg rest)
    have hmax : max (max peak (total + x)) (total + x + highest rest) =
        max peak (total + highest (x :: rest)) := by
      rw [highest_cons, max_assoc, max_eq_right hrest, ← max_add_add_left, add_zero, ← max_assoc,
        max_eq_left h,
        add_assoc]
    rw [hmax]

end AlphaForge.Lib
