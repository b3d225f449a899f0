/-
  File:      AlphaForge/Lib/Dictionary.lean
  Subject:   Dictionaries in the order of insertion, and sums over their entries. No program fact.

  * `Dictionary` -- its keys are pairwise different: a structure that cannot be built otherwise.
  * `latest`, `hidden` -- the rows of a table that survive an assignment row by row, and those a
    later row with the same key overwrites.
  * **`sum_update`** -- the sum after such an assignment: the entries with other keys and the
    latest rows.
-/
import Mathlib.Data.List.Nodup
import Mathlib.Algebra.BigOperators.Group.List.Basic
import Mathlib.Algebra.Order.BigOperators.Group.List
import Mathlib.Tactic.Abel

namespace AlphaForge.Lib

variable {κ ν M : Type} [DecidableEq κ] [AddCommMonoid M]

/-! ## 1. Assignment -/

/-- `entries[key] = value`: a known key keeps its place. -/
def assign (entries : List (κ × ν)) (key : κ) (value : ν) : List (κ × ν) :=
  match entries with
  | [] => [(key, value)]
  | e :: rest => if e.1 = key then (key, value) :: rest else e :: assign rest key value

omit [AddCommMonoid M] in
theorem mem_keys_assign (entries : List (κ × ν)) (key k : κ) (value : ν) :
    k ∈ (assign entries key value).map Prod.fst ↔ k = key ∨ k ∈ entries.map Prod.fst := by
  induction entries with
  | nil => simp [assign]
  | cons e rest ih =>
    unfold assign
    by_cases h : e.1 = key
    · rw [if_pos h, List.map_cons, List.map_cons, List.mem_cons, List.mem_cons, h]
      tauto
    · rw [if_neg h, List.map_cons, List.map_cons, List.mem_cons, List.mem_cons, ih]
      tauto

omit [AddCommMonoid M] in
theorem nodup_assign {entries : List (κ × ν)} (h : (entries.map Prod.fst).Nodup) (key : κ)
    (value : ν) : ((assign entries key value).map Prod.fst).Nodup := by
  induction entries with
  | nil => exact List.nodup_singleton key
  | cons e rest ih =>
    obtain ⟨hnew, hrest⟩ := List.nodup_cons.mp h
    unfold assign
    by_cases he : e.1 = key
    · rw [if_pos he, List.map_cons]
      exact List.nodup_cons.mpr ⟨he ▸ hnew, hrest⟩
    · rw [if_neg he, List.map_cons]
      refine List.nodup_cons.mpr ⟨fun hmem => ?_, ih hrest⟩
      rcases (mem_keys_assign rest key e.1 value).mp hmem with heq | hold
      · exact he heq
      · exact hnew hold

omit [AddCommMonoid M] in
theorem lookup_assign [BEq κ] [LawfulBEq κ] (entries : List (κ × ν)) (key k : κ) (value : ν) :
    (assign entries key value).lookup k =
      if k = key then some value else entries.lookup k := by
  induction entries with
  | nil =>
    by_cases h : k = key
    · simp [assign, h]
    · simp [assign, List.lookup_cons, h, beq_eq_false_iff_ne.mpr h]
  | cons e rest ih =>
    obtain ⟨a, v⟩ := e
    unfold assign
    by_cases ha : a = key
    · subst ha
      rw [if_pos rfl]
      by_cases hk : k = a
      · simp [hk]
      · simp [List.lookup_cons, hk, beq_eq_false_iff_ne.mpr hk]
    · rw [if_neg ha]
      by_cases hk : k = a
      · subst hk
        rw [if_neg ha]
        simp
      · have hb : (k == a) = false := beq_eq_false_iff_ne.mpr hk
        simp only [List.lookup_cons, hb]
        exact ih

/-- A dictionary: its entries in the order of insertion. -/
structure Dictionary (κ ν : Type) where
  entries : List (κ × ν)
  nodup : (entries.map Prod.fst).Nodup

namespace Dictionary

def empty : Dictionary κ ν := ⟨[], List.nodup_nil⟩

def keys (d : Dictionary κ ν) : List κ := d.entries.map Prod.fst

/-- `d.get(key)`. -/
def get? (d : Dictionary κ ν) (key : κ) : Option ν := d.entries.lookup key

/-- `d[key] = value`. -/
def set (d : Dictionary κ ν) (key : κ) (value : ν) : Dictionary κ ν :=
  ⟨assign d.entries key value, nodup_assign d.nodup key value⟩

/-- `d` without the keys outside `p`. -/
def keep (d : Dictionary κ ν) (p : κ → Bool) : Dictionary κ ν :=
  ⟨d.entries.filter fun e => p e.1, d.nodup.sublist (List.filter_sublist.map _)⟩

/-- One assignment for each row, in the order of the rows. -/
def update (d : Dictionary κ ν) (rows : List (κ × ν)) : Dictionary κ ν :=
  rows.foldl (fun d e => d.set e.1 e.2) d

end Dictionary

/-! ## 2. Sums -/

/-- The rows no later row overwrites. -/
def latest : List (κ × ν) → List (κ × ν)
  | [] => []
  | e :: rest => if e.1 ∈ rest.map Prod.fst then latest rest else e :: latest rest

/-- The rows a later row with the same key overwrites. -/
def hidden : List (κ × ν) → List (κ × ν)
  | [] => []
  | e :: rest => if e.1 ∈ rest.map Prod.fst then e :: hidden rest else hidden rest

/-- The sum of a weight over rows. -/
def rowSum (w : κ → ν → M) (rows : List (κ × ν)) : M := (rows.map fun e => w e.1 e.2).sum

/-- The sum of a weight over the entries of a dictionary. -/
def Dictionary.sum (w : κ → ν → M) (d : Dictionary κ ν) : M := rowSum w d.entries

omit [DecidableEq κ] in
@[simp] theorem rowSum_nil (w : κ → ν → M) : rowSum w [] = 0 := rfl

omit [DecidableEq κ] in
@[simp] theorem rowSum_cons (w : κ → ν → M) (e : κ × ν) (rows : List (κ × ν)) :
    rowSum w (e :: rows) = w e.1 e.2 + rowSum w rows := by
  unfold rowSum
  rw [List.map_cons, List.sum_cons]

omit [DecidableEq κ] in
/-- A sum over the rows in `p` is a sum of a weight that is zero elsewhere. -/
theorem rowSum_filter {w w' : κ → ν → M} {p : κ × ν → Bool} (rows : List (κ × ν))
    (h : ∀ k v, w' k v = if p (k, v) then w k v else 0) :
    rowSum w (rows.filter p) = rowSum w' rows := by
  induction rows with
  | nil => rfl
  | cons e rest ih =>
    rw [rowSum_cons, h, ← ih]
    by_cases hp : p e = true
    · rw [List.filter_cons_of_pos hp, rowSum_cons, if_pos hp]
    · rw [List.filter_cons_of_neg hp, if_neg hp, zero_add]

omit [AddCommMonoid M] in
theorem latest_subset (rows : List (κ × ν)) : latest rows ⊆ rows := by
  induction rows with
  | nil => exact List.Subset.refl []
  | cons e rest ih =>
    unfold latest
    by_cases h : e.1 ∈ rest.map Prod.fst
    · rw [if_pos h]
      exact fun a ha => List.mem_cons_of_mem e (ih ha)
    · rw [if_neg h]
      exact List.cons_subset_cons e ih

omit [DecidableEq κ] in
theorem rowSum_congr {w w' : κ → ν → M} {rows : List (κ × ν)}
    (h : ∀ e ∈ rows, w e.1 e.2 = w' e.1 e.2) : rowSum w rows = rowSum w' rows :=
  congrArg List.sum (List.map_congr_left h)

omit [DecidableEq κ] [AddCommMonoid M] in
/-- Amounts that are not negative add up to zero only if each of them is zero. -/
theorem sum_map_eq_zero_iff [AddCommMonoid M] [PartialOrder M] [IsOrderedAddMonoid M] {α : Type}
    {f : α → M} {l : List α} (h : ∀ a ∈ l, 0 ≤ f a) :
    (l.map f).sum = 0 ↔ ∀ a ∈ l, f a = 0 := by
  constructor
  · intro hsum a ha
    refine List.all_zero_of_le_zero_le_of_sum_eq_zero (fun x hx => ?_) hsum
      (List.mem_map_of_mem ha)
    obtain ⟨b, hb, rfl⟩ := List.mem_map.mp hx
    exact h b hb
  · intro hzero
    refine List.sum_eq_zero fun x hx => ?_
    obtain ⟨b, hb, rfl⟩ := List.mem_map.mp hx
    exact hzero b hb

omit [DecidableEq κ] in
/-- A fold that adds a weight with every row ends with the sum of the weights. -/
theorem foldl_rowSum {σ : Type} {step : σ → κ × ν → σ} {f : σ → M} {w : κ → ν → M}
    (h : ∀ s e, f (step s e) = f s + w e.1 e.2) (rows : List (κ × ν)) (s : σ) :
    f (rows.foldl step s) = f s + rowSum w rows := by
  induction rows generalizing s with
  | nil => simp
  | cons e rest ih => rw [List.foldl_cons, ih, h, rowSum_cons, add_assoc]

/-- Every row survives or is overwritten. -/
theorem latest_add_hidden (w : κ → ν → M) (rows : List (κ × ν)) :
    rowSum w rows = rowSum w (latest rows) + rowSum w (hidden rows) := by
  induction rows with
  | nil => simp [latest, hidden]
  | cons e rest ih =>
    unfold latest hidden
    by_cases h : e.1 ∈ rest.map Prod.fst
    · rw [if_pos h, if_pos h, rowSum_cons, rowSum_cons, ih]
      abel
    · rw [if_neg h, if_neg h, rowSum_cons, rowSum_cons, ih]
      abel

omit [AddCommMonoid M] in
/-- Without two rows of one key every row survives. -/
theorem latest_eq_self {rows : List (κ × ν)} (h : (rows.map Prod.fst).Nodup) :
    latest rows = rows := by
  induction rows with
  | nil => rfl
  | cons e rest ih =>
    obtain ⟨hnew, hrest⟩ := List.nodup_cons.mp h
    unfold latest
    rw [if_neg hnew, ih hrest]

omit [AddCommMonoid M] in
/-- If as many rows survive as there are, no two have the same key. -/
theorem nodup_of_length_latest {rows : List (κ × ν)} (h : (latest rows).length = rows.length) :
    (rows.map Prod.fst).Nodup := by
  have hle : ∀ rows : List (κ × ν), (latest rows).length ≤ rows.length := by
    intro rows
    induction rows with
    | nil => exact le_refl _
    | cons e rest ih =>
      unfold latest
      split
      · rw [List.length_cons]
        omega
      · rw [List.length_cons, List.length_cons]
        omega
  induction rows with
  | nil => exact List.nodup_nil
  | cons e rest ih =>
    unfold latest at h
    by_cases hmem : e.1 ∈ rest.map Prod.fst
    · have hshort := hle rest
      rw [if_pos hmem, List.length_cons] at h
      omega
    · rw [if_neg hmem, List.length_cons, List.length_cons] at h
      exact List.nodup_cons.mpr ⟨hmem, ih (by omega)⟩

/-- A weight that is zero at the assigned key does not see the assignment. -/
theorem rowSum_assign {w : κ → ν → M} {entries : List (κ × ν)}
    (hnodup : (entries.map Prod.fst).Nodup) (key : κ) (value : ν) :
    rowSum w (assign entries key value) =
      rowSum (fun k v => if k = key then 0 else w k v) entries + w key value := by
  induction entries with
  | nil => simp [assign]
  | cons e rest ih =>
    obtain ⟨hnew, hrest⟩ := List.nodup_cons.mp hnodup
    unfold assign
    by_cases h : e.1 = key
    · have hoff : rowSum (fun k v => if k = key then 0 else w k v) rest = rowSum w rest := by
        refine rowSum_congr fun a ha => if_neg fun hk => hnew ?_
        rw [h, ← hk]
        exact List.mem_map_of_mem ha
      rw [if_pos h, rowSum_cons, rowSum_cons, if_pos h, hoff]
      abel
    · rw [if_neg h, rowSum_cons, rowSum_cons, if_neg h, ih hrest]
      abel

namespace Dictionary

theorem sum_set (w : κ → ν → M) (d : Dictionary κ ν) (key : κ) (value : ν) :
    (d.set key value).sum w = d.sum (fun k v => if k = key then 0 else w k v) + w key value :=
  rowSum_assign d.nodup key value

omit [DecidableEq κ] in
theorem sum_keep (w : κ → ν → M) (d : Dictionary κ ν) (p : κ → Bool) :
    (d.keep p).sum w = d.sum fun k v => if p k then w k v else 0 :=
  rowSum_filter d.entries fun _ _ => rfl

/-- **The sum after an assignment row by row**: the entries with other keys, and the latest rows. -/
theorem sum_update (w : κ → ν → M) (rows : List (κ × ν)) (d : Dictionary κ ν) :
    (d.update rows).sum w =
      d.sum (fun k v => if k ∈ rows.map Prod.fst then 0 else w k v) + rowSum w (latest rows) := by
  induction rows generalizing d with
  | nil => simp [update, latest, sum]
  | cons e rest ih =>
    show ((d.set e.1 e.2).update rest).sum w = _
    rw [ih, sum_set]
    -- an entry counts if its key is neither the first row's nor a later one's
    have hoff : d.sum (fun k v => if k = e.1 then 0
          else if k ∈ rest.map Prod.fst then 0 else w k v) =
        d.sum (fun k v => if k ∈ (e :: rest).map Prod.fst then 0 else w k v) := by
      congr 1
      funext k v
      by_cases h₁ : k = e.1
      · simp [h₁]
      · simp only [List.map_cons, List.mem_cons, h₁, if_false, false_or]
    rw [hoff]
    by_cases h : e.1 ∈ rest.map Prod.fst
    · rw [if_pos h, add_zero]
      show _ = _ + rowSum w (if e.1 ∈ rest.map Prod.fst then latest rest else e :: latest rest)
      rw [if_pos h]
    · rw [if_neg h]
      show _ = _ + rowSum w (if e.1 ∈ rest.map Prod.fst then latest rest else e :: latest rest)
      rw [if_neg h, rowSum_cons, add_assoc]

/-- **After such an assignment and the removal of all other keys** only the latest rows count. -/
theorem sum_keep_update (w : κ → ν → M) (rows : List (κ × ν)) (d : Dictionary κ ν) :
    ((d.update rows).keep fun k => k ∈ rows.map Prod.fst).sum w = rowSum w (latest rows) := by
  have hold : d.sum (fun k v => if k ∈ rows.map Prod.fst then 0
      else if decide (k ∈ rows.map Prod.fst) = true then w k v else 0) = 0 := by
    refine List.sum_eq_zero fun x hx => ?_
    obtain ⟨e, _, rfl⟩ := List.mem_map.mp hx
    dsimp only
    by_cases h : e.1 ∈ rows.map Prod.fst
    · rw [if_pos h]
    · rw [if_neg h, if_neg (by simpa using h)]
  rw [sum_keep, sum_update, hold, zero_add]
  refine rowSum_congr fun e he => if_pos (decide_eq_true ?_)
  exact List.mem_map_of_mem (latest_subset rows he)

end Dictionary

end AlphaForge.Lib
