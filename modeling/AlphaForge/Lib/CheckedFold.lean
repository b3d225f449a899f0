/-
  File:      AlphaForge/Lib/CheckedFold.lean
  Subject:   Folds that check every member and its key against the keys before it, and go on after
             a failure. No program fact.

  * **`foldl_clean_iff`** -- the fold is clean exactly where every member is in order and no key
    comes twice.
  * `foldl_clean_eq` -- what a clean round does to a part of the state, a clean fold does.
-/
import Mathlib.Data.List.Nodup

namespace AlphaForge.Lib

variable {σ α κ β : Type}

/-- A checked round: `clean` after it says that the member is in order and its key is new, and
    then the key is known. -/
structure ChecksKeys (step : σ → α → σ) (clean : σ → Prop) (known : σ → List κ) (key : α → κ)
    (ok : α → Prop) : Prop where
  clean_iff : ∀ s a, clean (step s a) ↔ clean s ∧ ok a ∧ key a ∉ known s
  known_eq : ∀ s a, clean (step s a) → known (step s a) = known s ++ [key a]

variable {step : σ → α → σ} {clean : σ → Prop} {known : σ → List κ} {key : α → κ} {ok : α → Prop}

theorem foldl_clean_iff (h : ChecksKeys step clean known key ok) (rows : List α) (s : σ) :
    clean (rows.foldl step s) ↔
      clean s ∧ (∀ a ∈ rows, ok a) ∧ (rows.map key).Nodup ∧ ∀ a ∈ rows, key a ∉ known s := by
  induction rows generalizing s with
  | nil =>
    simp only [List.foldl_nil, List.not_mem_nil, false_imp_iff, implies_true, List.map_nil,
      List.nodup_nil, and_true]
  | cons a rows ih =>
    rw [List.foldl_cons, ih, List.map_cons, List.nodup_cons, List.forall_mem_cons,
      List.forall_mem_cons]
    constructor
    · intro ⟨hclean, hrest, hnodup, hfresh⟩
      obtain ⟨hs, hok, hhead⟩ := (h.clean_iff s a).mp hclean
      rw [h.known_eq s a hclean] at hfresh
      simp only [List.mem_append, List.mem_singleton, not_or] at hfresh
      refine ⟨hs, ⟨hok, hrest⟩, ⟨fun hmem => ?_, hnodup⟩, hhead, fun b hb => (hfresh b hb).1⟩
      obtain ⟨b, hb, heq⟩ := List.mem_map.mp hmem
      exact (hfresh b hb).2 heq
    · intro ⟨hs, ⟨hok, hrest⟩, ⟨hnew, hnodup⟩, hhead, htail⟩
      have hclean : clean (step s a) := (h.clean_iff s a).mpr ⟨hs, hok, hhead⟩
      refine ⟨hclean, hrest, hnodup, fun b hb => ?_⟩
      rw [h.known_eq s a hclean]
      simp only [List.mem_append, List.mem_singleton, not_or]
      exact ⟨htail b hb, fun heq => hnew (List.mem_map.mpr ⟨b, hb, heq⟩)⟩

theorem foldl_clean_eq (h : ChecksKeys step clean known key ok) (part : σ → β)
    (good : β → α → β) (hpart : ∀ s a, clean (step s a) → part (step s a) = good (part s) a)
    (rows : List α) (s : σ) (hclean : clean (rows.foldl step s)) :
    part (rows.foldl step s) = rows.foldl good (part s) := by
  induction rows generalizing s with
  | nil => rfl
  | cons a rows ih =>
    have hhead : clean (step s a) := ((foldl_clean_iff h rows (step s a)).mp hclean).1
    rw [List.foldl_cons, List.foldl_cons, ← hpart s a hhead]
    exact ih (step s a) hclean

end AlphaForge.Lib
