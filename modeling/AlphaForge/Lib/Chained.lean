/-
  File:      AlphaForge/Lib/Chained.lean
  Subject:   Append-only logs whose entries carry a number, the digest of the entry before them and
             running totals over the records they are written for. No program fact.

  * `Log` -- what an entry carries.
  * `Chained` -- a log that was written record by record; `chained_concat` is the one way to
    lengthen it.
  * `chained_ascends` -- the numbers go up by one.
-/
import Mathlib

namespace AlphaForge.Lib

/-- Entries in `E` for records in `R`, with digests in `H` and totals in `A`. -/
structure Log (E R H A : Type) where
  sequence : E → ℤ
  previous : E → Option H
  digest : E → H
  total : E → A
  zero : A
  add : A → R → A

namespace Log

variable {E R H A : Type} (log : Log E R H A)

/-- `e` is the entry for `r` that comes after `last`. -/
structure Follows (last : Option E) (r : R) (e : E) : Prop where
  sequence : log.sequence e = (last.map log.sequence).getD 0 + 1
  previous : log.previous e = last.map log.digest
  total : log.total e = log.add ((last.map log.total).getD log.zero) r

/-- The entries for the records, one by one, after `last`. -/
def Chained : Option E → List R → List E → Prop
  | _, [], [] => True
  | last, r :: rs, e :: es => log.Follows last r e ∧ Chained (some e) rs es
  | _, [], _ :: _ => False
  | _, _ :: _, [] => False

variable {log} {last : Option E} {rs : List R} {es : List E}

theorem chained_length (h : log.Chained last rs es) : rs.length = es.length := by
  induction rs generalizing last es with
  | nil =>
    cases es with
    | nil => rfl
    | cons e es => exact False.elim h
  | cons r rs ih =>
    cases es with
    | nil => exact False.elim h
    | cons e es =>
      have := ih h.2
      simp only [List.length_cons]
      omega

/-- **A log grows by the entry that follows its last one.** -/
theorem chained_concat (h : log.Chained last rs es) {r : R} {e : E}
    (he : log.Follows (es.getLast?.or last) r e) : log.Chained last (rs ++ [r]) (es ++ [e]) := by
  induction rs generalizing last es with
  | nil =>
    cases es with
    | nil => exact ⟨he, trivial⟩
    | cons x es => exact False.elim h
  | cons x rs ih =>
    cases es with
    | nil => exact False.elim h
    | cons y es =>
      refine ⟨h.1, ih h.2 ?_⟩
      have hlast : (y :: es).getLast?.or last = es.getLast?.or (some y) := by
        rw [List.getLast?_cons]
        cases es.getLast? <;> rfl
      rw [← hlast]
      exact he

/-- The numbers go up by one. -/
theorem chained_sequence (h : log.Chained last rs es) (i : ℕ) (hi : i < es.length) :
    log.sequence es[i] = (last.map log.sequence).getD 0 + i + 1 := by
  induction rs generalizing last es i with
  | nil =>
    cases es with
    | nil => exact absurd hi (Nat.not_lt_zero i)
    | cons e es => exact False.elim h
  | cons r rs ih =>
    cases es with
    | nil => exact False.elim h
    | cons e es =>
      have hfirst := h.1.sequence
      cases i with
      | zero =>
        show log.sequence e = _
        rw [hfirst]
        simp
      | succ i =>
        have hlt : i < es.length := by
          simp only [List.length_cons] at hi
          omega
        have hrest := ih h.2 i hlt
        show log.sequence es[i] = _
        rw [hrest]
        show log.sequence e + i + 1 = _
        rw [hfirst]
        push_cast
        omega

theorem chained_ascends (h : log.Chained last rs es) :
    es.Pairwise fun a b => log.sequence a < log.sequence b := by
  refine List.pairwise_iff_getElem.mpr fun i j hi hj hij => ?_
  rw [chained_sequence h i hi, chained_sequence h j hj]
  omega

end Log

end AlphaForge.Lib
