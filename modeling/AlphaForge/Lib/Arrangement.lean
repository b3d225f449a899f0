/-
  File:      AlphaForge/Lib/Arrangement.lean
  Subject:   `SELECT … ORDER BY key, time`: the answers a database may give, where the order among
             equal keys and times is its own. Any keys, any times, no program fact.

  * `Arranged` -- a list in some such order.
  * **`exists_arranged`** -- a list whose groups ascend in time has an answer that keeps every
    group.
  * **`exists_arranged_group`** -- and, for one group, an answer that shows any ascending order of
    it.
  * `arranged_group_eq` -- a group whose times are all different is answered in one order only.
-/
import Mathlib.Data.List.Pairwise
import Mathlib.Data.List.Sort
import Mathlib.Data.List.Perm.Basic

namespace AlphaForge.Lib

variable {κ τ α : Type*} [LinearOrder κ] [LinearOrder τ] (key : α → κ) (time : α → τ)

/-- The order of the query. -/
def QueryLe (a b : α) : Prop := key a < key b ∨ key a = key b ∧ time a ≤ time b

instance (a b : α) : Decidable (QueryLe key time a b) := inferInstanceAs (Decidable (_ ∨ _))

/-- An answer of the query over the rows `l`. -/
def Arranged (l rows : List α) : Prop := rows.Perm l ∧ rows.Pairwise (QueryLe key time)

instance [DecidableEq α] (l rows : List α) : Decidable (Arranged key time l rows) :=
  inferInstanceAs (Decidable (_ ∧ _))

/-- The rows of one key. -/
def group (k : κ) (l : List α) : List α := l.filter fun a => key a = k

variable {key time}

theorem queryLe_trans {a b c : α} (hab : QueryLe key time a b) (hbc : QueryLe key time b c) :
    QueryLe key time a c := by
  rcases hab with hab | ⟨hab, hab'⟩
  · rcases hbc with hbc | ⟨hbc, _⟩
    · exact Or.inl (hab.trans hbc)
    · exact Or.inl (hbc ▸ hab)
  · rcases hbc with hbc | ⟨hbc, hbc'⟩
    · exact Or.inl (hab ▸ hbc)
    · exact Or.inr ⟨hab.trans hbc, hab'.trans hbc'⟩

theorem queryLe_total (a b : α) : QueryLe key time a b ∨ QueryLe key time b a := by
  rcases lt_trichotomy (key a) (key b) with h | h | h
  · exact Or.inl (Or.inl h)
  · rcases le_total (time a) (time b) with ht | ht
    · exact Or.inl (Or.inr ⟨h, ht⟩)
    · exact Or.inr (Or.inr ⟨h.symm, ht⟩)
  · exact Or.inr (Or.inl h)

theorem group_perm {l rows : List α} (h : Arranged key time l rows) (k : κ) :
    (group key k rows).Perm (group key k l) := h.1.filter _

/-- Within a group the answer ascends in time. -/
theorem group_ascends {l rows : List α} (h : Arranged key time l rows) (k : κ) :
    (group key k rows).Pairwise fun a b => time a ≤ time b := by
  refine List.Pairwise.imp_of_mem ?_ (h.2.filter _)
  intro a b ha hb hle
  have hka : key a = k := by simpa using (List.mem_filter.mp ha).2
  have hkb : key b = k := by simpa using (List.mem_filter.mp hb).2
  rcases hle with hlt | ⟨_, hle⟩
  · exact absurd hlt (by rw [hka, hkb]; exact lt_irrefl k)
  · exact hle

/-- **A list whose groups ascend in time has an answer that keeps every group.** -/
theorem exists_arranged {l : List α}
    (h : ∀ k, (group key k l).Pairwise fun a b => time a ≤ time b) :
    ∃ rows, Arranged key time l rows ∧ ∀ k, group key k rows = group key k l := by
  let le : α → α → Bool := fun a b => decide (QueryLe key time a b)
  have htrans : ∀ a b c, le a b = true → le b c = true → le a c = true := by
    intro a b c hab hbc
    exact decide_eq_true (queryLe_trans (of_decide_eq_true hab) (of_decide_eq_true hbc))
  have htotal : ∀ a b, (le a b || le b a) = true := by
    intro a b
    rw [Bool.or_eq_true]
    have htotal : QueryLe key time a b ∨ QueryLe key time b a := queryLe_total a b
    rcases htotal with hab | hba
    · exact Or.inl (decide_eq_true hab)
    · exact Or.inr (decide_eq_true hba)
  have hperm : (l.mergeSort le).Perm l := List.mergeSort_perm l le
  refine ⟨l.mergeSort le, ⟨hperm, ?_⟩, fun k => ?_⟩
  · exact (List.pairwise_mergeSort htrans htotal l).imp of_decide_eq_true
  · -- the sort is stable: an ascending sublist stays one, and the lengths leave no room
    have hsorted : (group key k l).Pairwise fun a b => le a b = true := by
      refine List.Pairwise.imp_of_mem ?_ (h k)
      intro a b ha hb hle
      have hka : key a = k := by simpa using (List.mem_filter.mp ha).2
      have hkb : key b = k := by simpa using (List.mem_filter.mp hb).2
      exact decide_eq_true (Or.inr ⟨hka.trans hkb.symm, hle⟩)
    have hsub : (group key k l).Sublist (l.mergeSort le) :=
      List.sublist_mergeSort htrans htotal hsorted List.filter_sublist
    have hsub' : (group key k l).Sublist (group key k (l.mergeSort le)) := by
      have := hsub.filter fun a => decide (key a = k)
      simpa [group, List.filter_filter] using this
    exact (hsub'.eq_of_length (hperm.filter _).length_eq.symm).symm

/-- **For one group, every ascending order of its rows is part of an answer.** -/
theorem exists_arranged_group {l : List α}
    (h : ∀ k, (group key k l).Pairwise fun a b => time a ≤ time b) (k : κ) {own : List α}
    (hperm : own.Perm (group key k l)) (hown : own.Pairwise fun a b => time a ≤ time b) :
    ∃ rows, Arranged key time l rows ∧ group key k rows = own := by
  let l' := l.filter (fun a => ¬ key a = k) ++ own
  have hl' : l'.Perm l := by
    refine (List.perm_append_comm.trans (hperm.append_right _)).trans ?_
    simpa [group] using List.filter_append_perm (fun a => decide (key a = k)) l
  have hkown : ∀ a ∈ own, key a = k := fun a ha => by
    simpa using (List.mem_filter.mp (hperm.mem_iff.mp ha)).2
  have hown' : group key k own = own := List.filter_eq_self.mpr fun a ha => by
    simpa using hkown a ha
  have hgroup : ∀ k', group key k' l' = if k' = k then own else group key k' l := by
    intro k'
    unfold l' group
    rw [List.filter_append, List.filter_filter]
    by_cases hk : k' = k
    · rw [if_pos hk, hk]
      have hnone : l.filter (fun a => decide (key a = k) && decide (¬ key a = k)) = [] := by
        simp
      rw [hnone, List.nil_append]
      exact hown'
    · rw [if_neg hk]
      have hnone : own.filter (fun a => decide (key a = k')) = [] :=
        List.filter_eq_nil_iff.mpr fun a ha => by simp [hkown a ha, Ne.symm hk]
      rw [hnone, List.append_nil]
      refine List.filter_congr fun a _ => ?_
      by_cases ha : key a = k'
      · simp [ha, hk]
      · simp [ha]
  have hascends : ∀ k', (group key k' l').Pairwise fun a b => time a ≤ time b := by
    intro k'
    rw [hgroup]
    by_cases hk : k' = k
    · rw [if_pos hk]
      exact hown
    · rw [if_neg hk]
      exact h k'
  obtain ⟨rows, hrows, hkeep⟩ := exists_arranged hascends
  refine ⟨rows, ⟨hrows.1.trans hl', hrows.2⟩, ?_⟩
  rw [hkeep, hgroup, if_pos rfl]

/-- A group whose times are all different is answered in one order only. -/
theorem arranged_group_eq {l rows : List α} (h : Arranged key time l rows) {k : κ}
    (hstrict : (group key k l).Pairwise fun a b => time a < time b) :
    group key k rows = group key k l := by
  have hdistinct : ∀ a ∈ group key k l, ∀ b ∈ group key k l, time a = time b → a = b := by
    intro a ha b hb hab
    by_contra hne
    have : Std.Symm fun x y : α => time x ≠ time y := ⟨fun _ _ hxy => hxy.symm⟩
    exact (hstrict.imp ne_of_lt).forall ha hb hne hab
  have hascends : (group key k rows).Pairwise fun a b => time a ≤ time b := group_ascends h k
  refine List.Perm.eq_of_pairwise ?_ hascends (hstrict.imp le_of_lt) (group_perm h k)
  intro a b ha hb hab hba
  exact hdistinct a ((group_perm h k).mem_iff.mp ha) b hb (le_antisymm hab hba)

end AlphaForge.Lib
