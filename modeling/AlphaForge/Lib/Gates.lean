/-
  File:      AlphaForge/Lib/Gates.lean
  Subject:   Checks under the names of gates, all of them made, with what was found. No program
             fact.

  * `Findings.run` -- every check is made; a gate is named once, every failed check is put down.
  * `primary` -- the failed gate that comes first in an order of the gates.
  * **`findings_eq`** -- where no two checks share a gate, what is found is exactly the failed
    checks in their order; `primary_eq_some_iff` says when a gate is the primary one.
-/
import Mathlib

namespace AlphaForge.Lib

variable {G E : Type} [DecidableEq G]

/-- A check under the name of a gate, and what is put down where it fails. -/
structure Check (G E : Type) where
  gate : G
  fails : Bool
  evidence : E

/-- What the checks found. -/
structure Findings (G E : Type) where
  failed : List G
  evidence : List (G × E)

namespace Findings

/-- A check failed. -/
def fail (f : Findings G E) (c : Check G E) : Findings G E :=
  { failed := if c.gate ∈ f.failed then f.failed else f.failed ++ [c.gate]
    evidence := f.evidence ++ [(c.gate, c.evidence)] }

/-- One check is made. -/
def make (f : Findings G E) (c : Check G E) : Findings G E := if c.fails then f.fail c else f

/-- All checks are made, in their order. -/
def run (checks : List (Check G E)) : Findings G E := checks.foldl make ⟨[], []⟩

end Findings

/-- The checks that fail. -/
def failing (checks : List (Check G E)) : List (Check G E) := checks.filter fun c => c.fails

/-- The failed gate that comes first in the order. -/
def primary (order failed : List G) : Option G := order.find? fun g => g ∈ failed

open Findings

theorem foldl_make {checks : List (Check G E)} (f : Findings G E)
    (hnodup : (checks.map Check.gate).Nodup) (hnew : ∀ c ∈ checks, c.gate ∉ f.failed) :
    checks.foldl make f =
      ⟨f.failed ++ (failing checks).map Check.gate,
        f.evidence ++ (failing checks).map fun c => (c.gate, c.evidence)⟩ := by
  induction checks generalizing f with
  | nil => simp [failing]
  | cons c rest ih =>
    obtain ⟨hc, hrest⟩ := List.nodup_cons.mp hnodup
    obtain ⟨hhead, htail⟩ := List.forall_mem_cons.mp hnew
    rw [List.foldl_cons]
    cases hfails : c.fails with
    | false =>
      have hmake : f.make c = f := by simp [make, hfails]
      have hfiltered : failing (c :: rest) = failing rest := by simp [failing, hfails]
      rw [hmake, hfiltered, ih f hrest htail]
    | true =>
      have hmake : f.make c = ⟨f.failed ++ [c.gate], f.evidence ++ [(c.gate, c.evidence)]⟩ := by
        simp [make, fail, hfails, hhead]
      have hfiltered : failing (c :: rest) = c :: failing rest := by simp [failing, hfails]
      have hstill : ∀ d ∈ rest, d.gate ∉ f.failed ++ [c.gate] := by
        intro d hd hmem
        rcases List.mem_append.mp hmem with hmem | hmem
        · exact htail d hd hmem
        · exact hc (List.mem_map.mpr ⟨d, hd, List.mem_singleton.mp hmem⟩)
      rw [hmake, hfiltered, ih _ hrest hstill]
      simp

/-- **Where no two checks share a gate, what is found is the failed checks in their order.** -/
theorem findings_eq {checks : List (Check G E)} (hnodup : (checks.map Check.gate).Nodup) :
    run checks =
      ⟨(failing checks).map Check.gate, (failing checks).map fun c => (c.gate, c.evidence)⟩ := by
  have h := foldl_make (⟨[], []⟩ : Findings G E) hnodup fun c _ => List.not_mem_nil
  simpa [run] using h

theorem findings_nil_iff {checks : List (Check G E)} (hnodup : (checks.map Check.gate).Nodup) :
    (run checks).failed = [] ↔ ∀ c ∈ checks, c.fails = false := by
  rw [findings_eq hnodup]
  simp [failing, List.filter_eq_nil_iff]

/-- The gate is named where its check fails. -/
theorem mem_failed_iff {checks : List (Check G E)} (hnodup : (checks.map Check.gate).Nodup)
    {g : G} : g ∈ (run checks).failed ↔ ∃ c ∈ checks, c.fails = true ∧ c.gate = g := by
  rw [findings_eq hnodup]
  simp [failing, and_assoc]

/-- Every failed check is put down, under its gate, in the order of the gates. -/
theorem findings_evidence {checks : List (Check G E)} (hnodup : (checks.map Check.gate).Nodup) :
    (run checks).evidence.map Prod.fst = (run checks).failed := by
  rw [findings_eq hnodup]
  simp

theorem primary_eq_none_iff {order failed : List G} (hall : ∀ g ∈ failed, g ∈ order) :
    primary order failed = none ↔ failed = [] := by
  unfold primary
  rw [List.find?_eq_none, List.eq_nil_iff_forall_not_mem]
  constructor
  · intro h g hg
    exact h g (hall g hg) (decide_eq_true hg)
  · intro h g _ hg
    exact h g (of_decide_eq_true hg)

/-- The primary gate failed, and no gate before it in the order did. -/
theorem primary_eq_some_iff {order failed : List G} {g : G} :
    primary order failed = some g ↔
      g ∈ failed ∧ ∃ before after, order = before ++ g :: after ∧ ∀ h ∈ before, h ∉ failed := by
  unfold primary
  rw [List.find?_eq_some_iff_append]
  simp

end AlphaForge.Lib
