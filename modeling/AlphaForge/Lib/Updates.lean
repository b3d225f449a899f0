/-
  File:      AlphaForge/Lib/Updates.lean
  Subject:   `UPDATE … WHERE …` on a list of rows: what it changes and what it leaves. Any rows, no
             program fact.

  * `updateWhere`, `rowCount` -- the update and the number of rows it matches.
  * `mem_updateWhere` -- its rows.
  * `updateWhere_eq_self` -- an update that matches nothing.
-/
import Mathlib.Data.List.Nodup

namespace AlphaForge.Lib

variable {α κ : Type}

/-- `UPDATE rows SET … WHERE p`. -/
def updateWhere (p : α → Bool) (f : α → α) (rows : List α) : List α :=
  rows.map fun a => if p a then f a else a

/-- The `rowcount` of an update. -/
def rowCount (p : α → Bool) (rows : List α) : ℕ := rows.countP p

variable {p : α → Bool} {f : α → α} {rows : List α}

theorem mem_updateWhere {b : α} :
    b ∈ updateWhere p f rows ↔ ∃ a ∈ rows, p a = true ∧ b = f a ∨ p a = false ∧ b = a := by
  unfold updateWhere
  rw [List.mem_map]
  refine exists_congr fun a => and_congr_right fun _ => ?_
  cases p a with
  | true => simp [eq_comm]
  | false => simp [eq_comm]

theorem map_updateWhere (key : α → κ) (hkey : ∀ a, key (f a) = key a) :
    (updateWhere p f rows).map key = rows.map key := by
  unfold updateWhere
  rw [List.map_map]
  refine List.map_congr_left fun a _ => ?_
  by_cases hp : p a = true
  · simp [hp, hkey]
  · simp [hp]

theorem updateWhere_eq_self (h : ∀ a ∈ rows, p a = false) : updateWhere p f rows = rows :=
  (List.map_congr_left fun a ha => if_neg (by simp [h a ha])).trans (List.map_id rows)

theorem rowCount_pos : 0 < rowCount p rows ↔ ∃ a ∈ rows, p a = true := List.countP_pos_iff

end AlphaForge.Lib
