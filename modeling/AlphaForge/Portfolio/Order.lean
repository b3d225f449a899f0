/-
  File:      AlphaForge/Portfolio/Order.lean
  Subject:   The processing order of the allocator and the order of its input.

  * `insertionSort_eq_of_perm` -- a sort by a key that tells the members apart does not depend on
    the order of its input.
  * `NeverDecidedByNaN` -- where two candidates' keys first differ, neither component is NaN.
    `before_eq` -- then the tuple comparison is the lexicographic order of the keys.
  * **`permutation_invariant_iff`** -- every two candidates are processed in the same order
    whichever comes first exactly under that condition, and under it every permutation of the
    candidates is allocated the same.
  * `nan_order` -- a NaN preference, and two candidates whose allocations depend on their order.
-/
import AlphaForge.Portfolio.Allocator
import Mathlib.Data.List.Lex
import Mathlib.Data.Prod.Lex
import Mathlib.Data.String.Basic
import Mathlib.Order.WithBot

namespace AlphaForge.Portfolio

open AlphaForge.Lib

/-! ## 1. Sorting by a key -/

section Sorting

variable {α κ : Type} [LinearOrder κ] {r : α → α → Prop} [DecidableRel r] {k : α → κ}

theorem pairwise_of_key {l : List α} (hr : ∀ a ∈ l, ∀ b ∈ l, r a b ↔ k a ≤ k b) :
    (l.insertionSort r).Pairwise fun a b => k a ≤ k b := by
  have hmap : (l.insertionSort r).map k = (l.map k).insertionSort (· ≤ ·) :=
    List.map_insertionSort r (· ≤ ·) k l hr
  have hsorted := List.pairwise_insertionSort (· ≤ ·) (l.map k)
  rw [← hmap] at hsorted
  exact List.pairwise_map.mp hsorted

/-- A sort by a key that tells the members apart depends on the members only. -/
theorem insertionSort_eq_of_perm {l l' : List α} (hr : ∀ a ∈ l, ∀ b ∈ l, r a b ↔ k a ≤ k b)
    (hinj : ∀ a ∈ l, ∀ b ∈ l, k a = k b → a = b) (hp : l'.Perm l) :
    l'.insertionSort r = l.insertionSort r := by
  have hr' : ∀ a ∈ l', ∀ b ∈ l', r a b ↔ k a ≤ k b := fun a ha b hb =>
    hr a (hp.mem_iff.mp ha) b (hp.mem_iff.mp hb)
  have hperm : (l'.insertionSort r).Perm (l.insertionSort r) :=
    (List.perm_insertionSort r l').trans (hp.trans (List.perm_insertionSort r l).symm)
  refine List.Perm.eq_of_pairwise ?_ (pairwise_of_key hr') (pairwise_of_key hr) hperm
  intro a b ha hb hab hba
  have ha' : a ∈ l := hp.mem_iff.mp ((List.perm_insertionSort r l').mem_iff.mp ha)
  have hb' : b ∈ l := (List.perm_insertionSort r l).mem_iff.mp hb
  exact hinj a ha' b hb' (le_antisymm hab hba)

end Sorting

/-! ## 2. The key -/

/-- Where two keys first differ, both components are numbers. -/
def Decided : List (Option ExtRat) → List (Option ExtRat) → Prop
  | a :: as, b :: bs => if keyEq a b = true then Decided as bs else a ≠ none ∧ b ≠ none
  | _, _ => True

instance decidableDecided : ∀ as bs, Decidable (Decided as bs)
  | a :: as, b :: bs =>
    have : Decidable (Decided as bs) := decidableDecided as bs
    inferInstanceAs (Decidable (if keyEq a b = true then Decided as bs else a ≠ none ∧ b ≠ none))
  | [], _ => isTrue trivial
  | _ :: _, [] => isTrue trivial

theorem eq_of_keyEq {a b : Option ExtRat} (h : keyEq a b = true) : a = b := by
  cases a with
  | none => cases h
  | some x =>
    cases b with
    | none => cases h
    | some y => exact congrArg some (eq_of_beq h)

theorem keyEq_self {a : ExtRat} : keyEq (some a) (some a) = true := beq_self_eq_true a

/-- Numbers that differ compare as the extended order does. -/
theorem keyLt_eq {a b : WithTop ExtRat} (ha : a ≠ ⊤) (hb : b ≠ ⊤) : keyLt a b = decide (a < b) := by
  obtain ⟨x, rfl⟩ := WithTop.ne_top_iff_exists.mp ha
  obtain ⟨y, rfl⟩ := WithTop.ne_top_iff_exists.mp hb
  show decide (x < y) = _
  rw [decide_eq_decide]
  exact WithTop.coe_lt_coe.symm

/-- Keys that NaN does not decide compare lexicographically. -/
theorem numbersLt_eq {as bs : List (WithTop ExtRat)} (hlen : as.length = bs.length)
    (h : Decided as bs) :
    numbersLt as bs = if as = bs then none else some (decide (as < bs)) := by
  induction as generalizing bs with
  | nil =>
    cases bs with
    | nil => rfl
    | cons b bs => cases hlen
  | cons a as ih =>
    cases bs with
    | nil => cases hlen
    | cons b bs =>
      simp only [Decided] at h
      simp only [numbersLt]
      by_cases hab : keyEq a b = true
      · have he : a = b := eq_of_keyEq hab
        rw [if_pos hab] at h ⊢
        rw [ih (Nat.succ.inj hlen) h, he]
        simp only [List.cons.injEq, true_and, List.cons_lt_cons_iff, lt_irrefl, false_or]
      · rw [if_neg hab] at h ⊢
        have hne : a ≠ b := by
          intro he
          obtain ⟨x, hx⟩ := Option.ne_none_iff_exists'.mp h.1
          rw [← he, hx] at hab
          exact hab keyEq_self
        have hlt : (a :: as < b :: bs) ↔ a < b := by
          rw [List.cons_lt_cons_iff]
          exact ⟨fun hc => hc.resolve_right fun hr => hne hr.1, .inl⟩
        rw [if_neg fun hc => hne (List.cons.inj hc).1, keyLt_eq h.1 h.2]
        exact congrArg some (decide_eq_decide.mpr hlt.symm)

/-- A comparison that NaN decides says no both ways. -/
theorem numbersLt_of_not_decided {as bs : List (Option ExtRat)} (h : ¬ Decided as bs) :
    numbersLt as bs = some false ∧ numbersLt bs as = some false := by
  induction as generalizing bs with
  | nil => exact absurd trivial h
  | cons a as ih =>
    cases bs with
    | nil => exact absurd trivial h
    | cons b bs =>
      simp only [Decided] at h
      simp only [numbersLt]
      have hcomm : keyEq b a = keyEq a b := by
        cases a <;> cases b <;> simp [keyEq, Bool.beq_comm]
      rw [hcomm]
      by_cases hab : keyEq a b = true
      · rw [if_pos hab] at h
        rw [if_pos hab, if_pos hab]
        exact ih h
      · rw [if_neg hab] at h
        rw [if_neg hab, if_neg hab]
        cases a with
        | none => exact ⟨rfl, by cases b <;> rfl⟩
        | some x =>
          cases b with
          | none => exact ⟨rfl, rfl⟩
          | some y => exact absurd ⟨Option.some_ne_none x, Option.some_ne_none y⟩ h

theorem numbersLt_self (as : List (Option ExtRat)) :
    numbersLt as as = none ∨ numbersLt as as = some false := by
  induction as with
  | nil => exact .inl rfl
  | cons a as ih =>
    simp only [numbersLt]
    split
    · exact ih
    · rename_i hne
      cases a with
      | none => exact .inr rfl
      | some x => exact absurd keyEq_self hne

theorem textsLt_eq {as bs : List String} (hlen : as.length = bs.length) :
    textsLt as bs = decide (as < bs) := by
  induction as generalizing bs with
  | nil =>
    cases bs with
    | nil => rfl
    | cons b bs => cases hlen
  | cons a as ih =>
    cases bs with
    | nil => cases hlen
    | cons b bs =>
      simp only [textsLt]
      split
      · rename_i he
        rw [ih (Nat.succ.inj hlen), he]
        exact decide_eq_decide.mpr (by simp only [List.cons_lt_cons_iff, lt_irrefl,
          true_and, false_or])
      · rename_i hne
        refine decide_eq_decide.mpr ?_
        rw [List.cons_lt_cons_iff]
        exact ⟨.inl, fun hc => hc.resolve_right fun hr => hne hr.1⟩

section Order

variable {F : Type} [FloatNum F]

/-- The key as one value of a linear order. -/
def Item.sortKey (item : Item F) : List (WithTop ExtRat) ×ₗ List String :=
  toLex (item.preferenceKeys, [item.candidateId, item.symbol, item.side])

theorem before_eq {a b : Item F} (h : Decided a.preferenceKeys b.preferenceKeys) :
    a.before b = decide (a.sortKey < b.sortKey) := by
  have hnum := @numbersLt_eq a.preferenceKeys b.preferenceKeys rfl h
  have htxt : textsLt [a.candidateId, a.symbol, a.side] [b.candidateId, b.symbol, b.side] =
      decide ([a.candidateId, a.symbol, a.side] < [b.candidateId, b.symbol, b.side]) :=
        textsLt_eq rfl
  unfold Item.before
  rw [hnum, htxt]
  unfold Item.sortKey
  split
  · rename_i he
    rw [Option.getD_none]
    refine decide_eq_decide.mpr ?_
    rw [Prod.Lex.toLex_lt_toLex]
    exact ⟨fun hl => .inr ⟨he, hl⟩, fun hc => hc.elim (fun hl => absurd he hl.ne) fun hl => hl.2⟩
  · rename_i hne
    rw [Option.getD_some]
    refine decide_eq_decide.mpr ?_
    rw [Prod.Lex.toLex_lt_toLex]
    exact ⟨.inl, fun hc => hc.resolve_right fun hr => hne hr.1⟩

theorem before_self (a : Item F) : a.before a = false := by
  unfold Item.before
  rcases numbersLt_self a.preferenceKeys with h | h
  · rw [h, Option.getD_none, textsLt_eq rfl]
    exact decide_eq_false (lt_irrefl _)
  · rw [h]
    rfl

/-- Two different candidates are told apart by numbers or by texts, never by NaN. -/
def NeverDecidedByNaN (items : List (Item F)) : Prop :=
  ∀ a ∈ items, ∀ b ∈ items, a ≠ b → Decided a.preferenceKeys b.preferenceKeys

theorem before_iff_key {items : List (Item F)} (h : NeverDecidedByNaN items) {a b : Item F}
    (ha : a ∈ items) (hb : b ∈ items) : b.before a = false ↔ a.sortKey ≤ b.sortKey := by
  by_cases hab : a = b
  · subst hab
    exact ⟨fun _ => le_rfl, fun _ => before_self a⟩
  · rw [before_eq (h b hb a ha fun e => hab e.symm), decide_eq_false_iff_not, not_lt]

omit [FloatNum F] in
theorem id_injective {items : List (Item F)} (hids : (items.map Item.candidateId).Nodup)
    {a b : Item F} (ha : a ∈ items) (hb : b ∈ items) (h : a.candidateId = b.candidateId) : a = b :=
  List.inj_on_of_nodup_map hids ha hb h

/-! ## 3. Permutations -/

theorem preferenceSort_perm {items items' : List (Item F)} (h : NeverDecidedByNaN items)
    (hids : (items.map Item.candidateId).Nodup) (hp : items'.Perm items) :
    preferenceSort items' = preferenceSort items := by
  refine insertionSort_eq_of_perm (k := Item.sortKey)
    (fun a ha b hb => before_iff_key h ha hb) ?_ hp
  intro a ha b hb hk
  have htexts := congrArg (fun k => (ofLex k).2) hk
  exact id_injective hids ha hb (List.cons.inj htexts).1

theorem startSymbols_perm {s : Snapshot F} {items items' : List (Item F)} (hp : items'.Perm items) :
    startSymbols s items' = startSymbols s items := by
  funext key
  unfold startSymbols
  rw [hp.any_eq]

omit [FloatNum F] in
theorem legacyKey_perm {s : Snapshot F} {items items' : List (Item F)} (hp : items'.Perm items) :
    s.legacyKey items' = s.legacyKey items := by
  funext key
  unfold Snapshot.legacyKey
  split
  · exact hp.any_eq
  · rfl

theorem initialLedger_perm {s : Snapshot F} {items items' : List (Item F)}
    (hp : items'.Perm items) :
    initialLedger s items' = initialLedger s items := by
  have hempty : items'.isEmpty = items.isEmpty := by
    rw [Bool.eq_iff_iff, List.isEmpty_iff_length_eq_zero, List.isEmpty_iff_length_eq_zero,
      hp.length_eq]
  have hgroups : startGroups s items' = startGroups s items := by
    funext key
    unfold startGroups
    rw [legacyKey_perm hp]
  unfold initialLedger Snapshot.legacyCount
  rw [hempty, startSymbols_perm hp, hgroups, legacyKey_perm hp]

/-- Under the condition every permutation is allocated the same. -/
theorem allocation_perm {candidates permuted : List (RawCandidate F)} {snapshot : Snapshot F}
    {config : Config F} (hids : ((candidates.map normalizedAllocationCandidate).map
      Item.candidateId).Nodup)
    (h : NeverDecidedByNaN (candidates.map normalizedAllocationCandidate))
    (hp : permuted.Perm candidates) :
    allocatePortfolioCandidates permuted snapshot config =
      allocatePortfolioCandidates candidates snapshot config := by
  have hitems := hp.map normalizedAllocationCandidate
  have hids' := (hitems.map Item.candidateId).nodup_iff.mpr hids
  unfold allocatePortfolioCandidates
  simp only
  rw [if_neg (not_not.mpr hids'), if_neg (not_not.mpr hids), initialLedger_perm hitems,
    preferenceSort_perm h hids hitems]

theorem preferenceSort_pair (a b : Item F) :
    preferenceSort [a, b] = if b.before a = false then [a, b] else [b, a] := by
  unfold preferenceSort
  simp only [List.insertionSort_cons, List.insertionSort_nil, List.orderedInsert]

/-- **When the allocation does not depend on the order of the candidates**: every two candidates
    are processed in the same order whichever comes first exactly where NaN decides no comparison,
    and then every permutation of the whole set is allocated the same. -/
theorem permutation_invariant_iff {candidates : List (RawCandidate F)} {snapshot : Snapshot F}
    {config : Config F} (hids : ((candidates.map normalizedAllocationCandidate).map
      Item.candidateId).Nodup) :
    ((∀ a ∈ candidates.map normalizedAllocationCandidate,
        ∀ b ∈ candidates.map normalizedAllocationCandidate,
          preferenceSort [a, b] = preferenceSort [b, a]) ↔
        NeverDecidedByNaN (candidates.map normalizedAllocationCandidate)) ∧
      (NeverDecidedByNaN (candidates.map normalizedAllocationCandidate) →
        ∀ permuted, permuted.Perm candidates →
          allocatePortfolioCandidates permuted snapshot config =
            allocatePortfolioCandidates candidates snapshot config) := by
  refine ⟨⟨fun h a ha b hb hab => ?_, fun h a ha b hb => ?_⟩, fun h permuted hp =>
    allocation_perm hids h hp⟩
  · by_contra hdecided
    obtain ⟨h1, h2⟩ := numbersLt_of_not_decided hdecided
    have hsort := h a ha b hb
    have hba : b.before a = false := by
      unfold Item.before
      rw [h2]
      rfl
    have hab' : a.before b = false := by
      unfold Item.before
      rw [h1]
      rfl
    rw [preferenceSort_pair, preferenceSort_pair, if_pos hba, if_pos hab'] at hsort
    exact hab (List.cons.inj hsort).1
  · by_cases hab : a = b
    · rw [hab]
    · have hpair : ∀ x ∈ [b, a], x ∈ candidates.map normalizedAllocationCandidate := by
        intro x hx
        rcases List.mem_pair.mp hx with rfl | rfl
        · exact hb
        · exact ha
      refine preferenceSort_perm (fun x hx y hy => h x (hpair x hx) y (hpair y hy)) ?_
        (List.Perm.swap b a [])
      simp only [List.map_cons, List.map_nil, List.nodup_cons, List.mem_singleton, List.not_mem_nil,
        not_false_eq_true, List.nodup_nil, and_true]
      exact fun he => hab (id_injective hids ha hb he.symm)

end Order

/-- A candidate of 100 with a preference. -/
def rankedCandidate (id : String) (netR : Float) : RawCandidate Float :=
  { symbol := some "BTCUSDT"
    candidateId := some id
    numbers := fun key =>
      if key = "notional" then .number 100 else if key = "expected_net_r" then .number netR
        else .none }

/-- Room for one candidate of 100. -/
def oneSlot : Snapshot Float :=
  { equity := some 1000
    openPositionCount := some (.int 0)
    maxOpenPositions := some (.int 1)
    totalNotionalExposure := some 0
    symbolNotionalExposure := some 0 }

def rankedPair : List (RawCandidate Float) := [rankedCandidate "a" 1, rankedCandidate "b" 2]

/-- The preferences of the two are numbers. -/
theorem rankedPair_decided : NeverDecidedByNaN (rankedPair.map normalizedAllocationCandidate) := by
  have hall : (rankedPair.map normalizedAllocationCandidate).all (fun a =>
      (rankedPair.map normalizedAllocationCandidate).all fun b =>
        a.candidateId = b.candidateId ∨ Decided a.preferenceKeys b.preferenceKeys) = true := by
    decide +kernel
  have hids : ((rankedPair.map normalizedAllocationCandidate).map Item.candidateId).Nodup := by
    decide +kernel
  intro a ha b hb hab
  rcases of_decide_eq_true (List.all_eq_true.mp (List.all_eq_true.mp hall a ha) b hb) with hid | hd
  · exact absurd (id_injective hids ha hb hid) hab
  · exact hd

/-- Two ranked candidates for one place, in either order. -/
theorem permutation_invariant_iff_sample :
    (∀ a ∈ rankedPair.map normalizedAllocationCandidate,
      ∀ b ∈ rankedPair.map normalizedAllocationCandidate,
        preferenceSort [a, b] = preferenceSort [b, a]) ∧
      allocatePortfolioCandidates [rankedCandidate "b" 2, rankedCandidate "a" 1] oneSlot {} =
        allocatePortfolioCandidates rankedPair oneSlot {} := by
  have hids : ((rankedPair.map normalizedAllocationCandidate).map Item.candidateId).Nodup := by
    decide +kernel
  have hinvariant := @permutation_invariant_iff Float _ rankedPair oneSlot {} hids
  exact ⟨hinvariant.1.mpr rankedPair_decided,
    hinvariant.2 rankedPair_decided _ (List.Perm.swap _ _ [])⟩

/-- With a NaN preference the candidate that stands first gets the only slot. -/
theorem nan_order :
    (allocatePortfolioCandidates [rankedCandidate "a" (0 / 0), rankedCandidate "b" 1]
      oneSlot {}).map
        (fun r => r.candidates.map fun d => (d.candidateId, d.allocatedNotional)) =
          .ok [("a", 100), ("b", 0)] ∧
      (allocatePortfolioCandidates [rankedCandidate "b" 1, rankedCandidate "a" (0 / 0)]
        oneSlot {}).map
        (fun r => r.candidates.map fun d => (d.candidateId, d.allocatedNotional)) =
          .ok [("b", 100), ("a", 0)] := by
  decide +kernel

end AlphaForge.Portfolio
