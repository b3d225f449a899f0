/-
  File:      AlphaForge/Lib/Occurrences.lean
  Subject:   Loops over a list whose result must not depend on its order: repeated elements, and
             maps that may fail. No program fact.

  * `firsts`, `repeats` -- the elements that a loop with a set of seen ones meets for the first
    time, and the ones it meets again.
  * **`perm_repeats`**, `length_repeats` -- the repeats as a collection, and their number, do not
    depend on the order.
  * `perm_mapM` -- nor does what a checked map yields, or whether it fails.
-/
import Mathlib.Data.List.Dedup
import Mathlib.Data.List.Forall2
import Mathlib.Data.List.Perm.Basic

namespace AlphaForge.Lib

/-! ## 1. Repeated elements -/

section Repeats

variable {κ : Type} [DecidableEq κ]

/-- The elements not seen before. -/
def firsts (seen : List κ) : List κ → List κ
  | [] => []
  | x :: rest => if x ∈ seen then firsts seen rest else x :: firsts (x :: seen) rest

/-- The elements seen before. -/
def repeats (seen : List κ) : List κ → List κ
  | [] => []
  | x :: rest => if x ∈ seen then x :: repeats seen rest else repeats (x :: seen) rest

theorem firsts_append_repeats (seen l : List κ) : (firsts seen l ++ repeats seen l).Perm l := by
  induction l generalizing seen with
  | nil => exact List.Perm.nil
  | cons x rest ih =>
    unfold firsts repeats
    by_cases h : x ∈ seen
    · rw [if_pos h, if_pos h]
      exact List.perm_middle.trans ((ih seen).cons x)
    · rw [if_neg h, if_neg h]
      exact (ih (x :: seen)).cons x

theorem mem_firsts {seen l : List κ} {x : κ} : x ∈ firsts seen l ↔ x ∈ l ∧ x ∉ seen := by
  induction l generalizing seen with
  | nil => simp [firsts]
  | cons y rest ih =>
    unfold firsts
    by_cases h : y ∈ seen
    · rw [if_pos h, ih, List.mem_cons]
      constructor
      · intro ⟨hx, hseen⟩
        exact ⟨Or.inr hx, hseen⟩
      · intro ⟨hx, hseen⟩
        rcases hx with hx | hx
        · exact absurd (hx ▸ h) hseen
        · exact ⟨hx, hseen⟩
    · rw [if_neg h, List.mem_cons, List.mem_cons, ih, List.mem_cons]
      by_cases hxy : x = y
      · rw [hxy]
        simp [h]
      · simp [hxy]

theorem nodup_firsts (seen l : List κ) : (firsts seen l).Nodup := by
  induction l generalizing seen with
  | nil => exact List.nodup_nil
  | cons x rest ih =>
    unfold firsts
    by_cases h : x ∈ seen
    · rw [if_pos h]
      exact ih seen
    · rw [if_neg h]
      refine List.nodup_cons.mpr ⟨fun hmem => ?_, ih _⟩
      exact (mem_firsts.mp hmem).2 (List.mem_cons_self ..)

theorem firsts_perm_dedup (l : List κ) : (firsts [] l).Perm l.dedup := by
  refine (List.perm_ext_iff_of_nodup (nodup_firsts [] l) l.nodup_dedup).mpr fun x => ?_
  rw [mem_firsts, List.mem_dedup]
  exact and_iff_left List.not_mem_nil

/-- **The repeats do not depend on the order.** -/
theorem perm_repeats {l l' : List κ} (h : l.Perm l') : (repeats [] l).Perm (repeats [] l') := by
  have hfirsts : (firsts [] l).Perm (firsts [] l') :=
    (firsts_perm_dedup l).trans (h.dedup.trans (firsts_perm_dedup l').symm)
  have hall : (firsts [] l ++ repeats [] l).Perm (firsts [] l ++ repeats [] l') :=
    (firsts_append_repeats [] l).trans (h.trans ((firsts_append_repeats [] l').symm.trans
      (hfirsts.symm.append_right _)))
  exact (List.perm_append_left_iff _).mp hall

theorem length_repeats (l : List κ) : (repeats [] l).length + l.dedup.length = l.length := by
  have hlen := (firsts_append_repeats [] l).length_eq
  rw [List.length_append, (firsts_perm_dedup l).length_eq] at hlen
  omega

/-- Nothing repeats exactly where no element occurs twice. -/
theorem repeats_eq_nil_iff {l : List κ} : repeats [] l = [] ↔ l.Nodup := by
  have hlen := length_repeats l
  rw [← List.length_eq_zero_iff, ← List.dedup_eq_self]
  constructor
  · intro h
    exact (List.dedup_sublist l).eq_of_length (by omega)
  · intro h
    rw [h] at hlen
    omega

end Repeats

/-! ## 2. Checked maps -/

section CheckedMap

variable {α β ε : Type} {f : α → Except ε β}

theorem mapM_cons_ok_iff {x : α} {l : List α} {ys : List β} :
    (x :: l).mapM f = .ok ys ↔ ∃ y rest, f x = .ok y ∧ l.mapM f = .ok rest ∧ ys = y :: rest := by
  rw [List.mapM_cons]
  cases hx : f x with
  | error e =>
    refine iff_of_false nofun ?_
    intro ⟨y, rest, h, _⟩
    cases h
  | ok y =>
    cases hl : l.mapM f with
    | error e =>
      refine iff_of_false nofun ?_
      intro ⟨y, rest, _, h, _⟩
      cases h
    | ok rest =>
      constructor
      · intro h
        cases h
        exact ⟨y, rest, rfl, rfl, rfl⟩
      · intro ⟨_, _, h₁, h₂, h⟩
        cases h₁
        cases h₂
        rw [h]
        rfl

/-- A checked map yields the results of its elements. -/
theorem mapM_ok_iff {l : List α} {ys : List β} :
    l.mapM f = .ok ys ↔ List.Forall₂ (fun x y => f x = .ok y) l ys := by
  induction l generalizing ys with
  | nil =>
    rw [List.mapM_nil, List.forall₂_nil_left_iff]
    constructor
    · intro h
      cases h
      rfl
    · intro h
      rw [h]
      rfl
  | cons x l ih =>
    rw [mapM_cons_ok_iff]
    constructor
    · intro ⟨y, rest, hx, hl, hys⟩
      rw [hys]
      exact List.Forall₂.cons hx (ih.mp hl)
    · intro h
      cases h with
      | cons hx hl => exact ⟨_, _, hx, ih.mpr hl, rfl⟩

/-- Every result comes from an element. -/
theorem mem_mapM {l : List α} {ys : List β} (h : l.mapM f = .ok ys) {y : β} (hy : y ∈ ys) :
    ∃ x ∈ l, f x = .ok y := by
  have hforall := mapM_ok_iff.mp h
  clear h
  induction hforall with
  | nil => exact absurd hy List.not_mem_nil
  | cons hx _ ih =>
    rcases List.mem_cons.mp hy with hy | hy
    · exact ⟨_, List.mem_cons_self .., hy ▸ hx⟩
    · obtain ⟨x, hmem, hfx⟩ := ih hy
      exact ⟨x, List.mem_cons_of_mem _ hmem, hfx⟩

/-- A checked map into lists: every item has a property exactly where every element has the one
    that says so of its own items. -/
theorem forall_flatten_mapM {f : α → Except ε (List β)} {l : List α} {ys : List (List β)}
    (h : l.mapM f = .ok ys) {P : β → Prop} {Q : α → Prop}
    (hQ : ∀ x items, f x = .ok items → ((∀ i ∈ items, P i) ↔ Q x)) :
    (∀ i ∈ ys.flatten, P i) ↔ ∀ x ∈ l, Q x := by
  have hforall := mapM_ok_iff.mp h
  clear h
  induction hforall with
  | nil => simp
  | cons hx _ ih =>
    rw [List.flatten_cons, List.forall_mem_append, hQ _ _ hx, List.forall_mem_cons]
    exact and_congr_right fun _ => ih

/-- **A checked map of a permuted list** yields the same results in another order. -/
theorem perm_mapM {l l' : List α} (h : l.Perm l') {ys : List β} (hl : l.mapM f = .ok ys) :
    ∃ ys', l'.mapM f = .ok ys' ∧ ys.Perm ys' := by
  have hforall := mapM_ok_iff.mp hl
  obtain ⟨ys', hforall', hperm⟩ := List.perm_comp_forall₂ h.symm hforall
  exact ⟨ys', mapM_ok_iff.mpr hforall', hperm.symm⟩

end CheckedMap

end AlphaForge.Lib
