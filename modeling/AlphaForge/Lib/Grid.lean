/-
  File:      AlphaForge/Lib/Grid.lean
  Subject:   Equally spaced points on the integers. No program fact.

  * `Grid.phase`, `Grid.next` -- how far behind a point a number is, and the first point after it.
  * `Grid.window` -- the points in `(s, s + n * step]`; there are `n` of them (`card_window`), and
    the last one is as far from the end as `s` is behind its point (`last_mem`, `le_last`).
-/
import Mathlib.Algebra.Order.Ring.Int
import Mathlib.Data.Finset.Card
import Mathlib.Data.Finset.Image
import Mathlib.Data.Finset.Range
import Mathlib.Tactic.Linarith
import Mathlib.Tactic.Ring

namespace AlphaForge.Lib

/-- The numbers `origin + k * step`. -/
structure Grid where
  origin : ℤ
  step : ℤ
  positive : 0 < step

namespace Grid

variable (g : Grid)

def On (t : ℤ) : Prop := g.step ∣ t - g.origin

instance : DecidablePred g.On := fun _ => inferInstanceAs (Decidable (_ ∣ _))

/-- How far behind a point `t` is. -/
def phase (t : ℤ) : ℤ := (t - g.origin) % g.step

/-- The first point after `t`. -/
def next (t : ℤ) : ℤ := t - g.phase t + g.step

theorem phase_nonneg (t : ℤ) : 0 ≤ g.phase t := Int.emod_nonneg _ g.positive.ne'

theorem phase_lt (t : ℤ) : g.phase t < g.step := Int.emod_lt_of_pos _ g.positive

theorem on_sub_phase (t : ℤ) : g.On (t - g.phase t) := by
  have hdvd : g.step ∣ t - g.origin - (t - g.origin) % g.step := Int.dvd_self_sub_emod
  unfold On phase
  have heq : t - (t - g.origin) % g.step - g.origin = t - g.origin - (t - g.origin) % g.step := by
    ring
  rw [heq]
  exact hdvd

theorem on_add {t : ℤ} (h : g.On t) (k : ℤ) : g.On (t + k * g.step) := by
  unfold On at h ⊢
  have heq : t + k * g.step - g.origin = t - g.origin + k * g.step := by ring
  rw [heq]
  exact Int.dvd_add h (Dvd.intro_left k rfl)

theorem on_next (t : ℤ) : g.On (g.next t) := by
  have hadd := g.on_add (g.on_sub_phase t) 1
  rw [one_mul] at hadd
  exact hadd

theorem lt_next (t : ℤ) : t < g.next t := by
  have hlt := g.phase_lt t
  unfold next
  omega

theorem next_le_add (t : ℤ) : g.next t ≤ t + g.step := by
  have hnonneg := g.phase_nonneg t
  unfold next
  omega

/-- Two points differ by a multiple of the step. -/
theorem exists_mul {s t : ℤ} (hs : g.On s) (ht : g.On t) : ∃ k, t = s + k * g.step := by
  obtain ⟨k, hk⟩ := Int.dvd_sub ht hs
  refine ⟨k, ?_⟩
  have heq : t - g.origin - (s - g.origin) = t - s := by ring
  rw [heq] at hk
  rw [mul_comm k, ← hk]
  ring

/-- There is no point between `t` and the next one. -/
theorem next_le {t x : ℤ} (hx : g.On x) (h : t < x) : g.next t ≤ x := by
  obtain ⟨k, rfl⟩ := g.exists_mul (g.on_sub_phase t) hx
  have hphase := g.phase_nonneg t
  have hstep := g.positive
  have hk : 0 < k := by
    by_contra hneg
    have hmul : k * g.step ≤ 0 := mul_nonpos_of_nonpos_of_nonneg (by omega) hstep.le
    omega
  have hmul : 1 * g.step ≤ k * g.step := mul_le_mul_of_nonneg_right (by omega) hstep.le
  unfold next
  omega

/-- The points in `(s, s + n * step]`. -/
def window (s : ℤ) (n : ℕ) : Finset ℤ := (Finset.range n).image fun i : ℕ => g.next s + i * g.step

theorem card_window (s : ℤ) (n : ℕ) : (g.window s n).card = n := by
  unfold window
  rw [Finset.card_image_of_injective, Finset.card_range]
  intro i j h
  have hmul : (i : ℤ) * g.step = j * g.step := by
    dsimp only at h
    omega
  exact_mod_cast mul_right_cancel₀ g.positive.ne' hmul

theorem mem_window {s x : ℤ} {n : ℕ} :
    x ∈ g.window s n ↔ g.On x ∧ s < x ∧ x ≤ s + n * g.step := by
  have hstep := g.positive
  have hphase := g.phase_nonneg s
  have hlt := g.phase_lt s
  unfold window
  rw [Finset.mem_image]
  constructor
  · rintro ⟨i, hi, rfl⟩
    rw [Finset.mem_range] at hi
    have hle : ((i : ℤ) + 1) * g.step ≤ n * g.step :=
      mul_le_mul_of_nonneg_right (by omega) hstep.le
    have hpos : 0 ≤ (i : ℤ) * g.step := mul_nonneg (by omega) hstep.le
    have hnext := g.lt_next s
    refine ⟨g.on_add (g.on_next s) i, by omega, ?_⟩
    rw [add_mul, one_mul] at hle
    unfold next
    omega
  · rintro ⟨hx, hafter, hbefore⟩
    obtain ⟨k, rfl⟩ := g.exists_mul (g.on_next s) hx
    have hnext := g.next_le hx hafter
    have hk : 0 ≤ k := by
      by_contra hneg
      have hmul : k * g.step < 0 := mul_neg_of_neg_of_pos (by omega) hstep
      omega
    have hn : k < n := by
      by_contra hge
      have hmul : (n : ℤ) * g.step ≤ k * g.step := mul_le_mul_of_nonneg_right (by omega) hstep.le
      unfold next at hbefore
      omega
    refine ⟨k.toNat, ?_, ?_⟩
    · rw [Finset.mem_range]
      omega
    · rw [Int.toNat_of_nonneg hk]

/-- The last point of a window is as far from its end as its start is behind a point. -/
theorem last_mem {s : ℤ} {n : ℕ} (hn : 0 < n) :
    s + n * g.step - g.phase s ∈ g.window s n := by
  have hstep := g.positive
  have hlt := g.phase_lt s
  have hphase := g.phase_nonneg s
  have hle : (1 : ℤ) * g.step ≤ n * g.step := mul_le_mul_of_nonneg_right (by omega) hstep.le
  rw [mem_window]
  refine ⟨?_, by omega, by omega⟩
  have hon := g.on_add (g.on_sub_phase s) n
  have heq : s - g.phase s + n * g.step = s + n * g.step - g.phase s := by ring
  rw [← heq]
  exact hon

theorem le_last {s x : ℤ} {n : ℕ} (h : x ∈ g.window s n) : x ≤ s + n * g.step - g.phase s := by
  rw [mem_window] at h
  obtain ⟨k, rfl⟩ := g.exists_mul (g.on_sub_phase s) h.1
  have hstep := g.positive
  have hlt := g.phase_lt s
  have hk : k ≤ n := by
    by_contra hgt
    have hmul : ((n : ℤ) + 1) * g.step ≤ k * g.step :=
      mul_le_mul_of_nonneg_right (by omega) hstep.le
    rw [add_mul, one_mul] at hmul
    omega
  have hmul : k * g.step ≤ n * g.step := mul_le_mul_of_nonneg_right hk hstep.le
  omega

end Grid

end AlphaForge.Lib
