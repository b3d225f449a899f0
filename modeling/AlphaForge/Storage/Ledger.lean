/-
  File:      AlphaForge/Storage/Ledger.lean
  Subject:   The ledger of the stats-only retention over whole runs: the rollups of the cycles that
             were deleted and the hash chain over them.

  Between two batches anything may happen to the other tables; only a batch writes the ledger.

  * `Ledger` -- the invariant: every hash is right, and for every campaign the checkpoints are the
    chain of its rollups, in the order in which the cycles were compacted.
  * `ledger_wrote`, `ledger_reaches` -- a compacted cycle keeps it, and so does every run.
  * `summary_eq` -- what `stats_only_campaign_summary` makes of such a ledger.
  * **`ledger_verifies_iff`** -- after every run the summary verifies, with the exact totals, where
    the cycles of the campaign were compacted in the order of time; and where they were not, it
    raises for good: no later batch takes another cycle of the campaign, and every batch that plans
    one fails.
-/
import AlphaForge.Storage.Compaction
import AlphaForge.Universe.Replay

namespace AlphaForge.Storage

open AlphaForge.Lib AlphaForge.Universe

variable {F B : Type} [FloatNum F] {a : Archive F B}

/-! ## 1. The invariant -/

/-- The checkpoints as a log over the rollups. -/
def ledgerLog : Log Checkpoint (Rollup F) String Totals where
  sequence c := c.sequence
  previous c := c.previousCheckpointHash
  digest c := c.checkpointHash
  total c := c.totals
  zero := Totals.zero
  add := Totals.add

variable (a) in
/-- The ledger is in order, except for the order of the cycles. -/
structure Ledger (t : Tables F) : Prop where
  ids : (t.rollups.map fun r => r.cycleId).Nodup
  rollups : ∀ r ∈ t.rollups, canonicalHash a.toHost r.toRollupCore.asDict = .ok r.rollupHash
  checkpoints : ∀ c ∈ t.checkpoints,
    canonicalHash a.toHost (c.asDict : Value F) = .ok c.checkpointHash
  chained : ∀ id, ledgerLog.Chained none (t.rollupsOf id) (t.checkpointsOf id)
  cycles : ∀ id, ((t.checkpointsOf id).map fun c => c.cycleId) =
    (t.rollupsOf id).map fun r => r.cycleId

/-- No cycle was compacted yet. -/
theorem ledger_empty {t : Tables F} (hrollups : t.rollups = [])
    (hcheckpoints : t.checkpoints = []) :
    Ledger a t := by
  refine ⟨?_, ?_, ?_, fun id => ?_, fun id => ?_⟩
  · rw [hrollups]
    exact List.nodup_nil
  · rw [hrollups]
    exact List.forall_mem_nil _
  · rw [hcheckpoints]
    exact List.forall_mem_nil _
  · unfold Tables.rollupsOf Tables.checkpointsOf
    rw [hrollups, hcheckpoints]
    trivial
  · unfold Tables.rollupsOf Tables.checkpointsOf
    rw [hrollups, hcheckpoints]
    rfl

/-- The sort by the number leaves a chain as it is. -/
theorem sorted_checkpoints {t : Tables F} (h : Ledger a t) (id : String) :
    sortOn (fun c : Checkpoint => c.sequence) (t.checkpointsOf id) = t.checkpointsOf id := by
  refine sortOn_sorted ((Log.chained_ascends (h.chained id)).imp ?_)
  intro x y hxy
  exact le_of_lt hxy

theorem latestCheckpoint_eq {t : Tables F} (h : Ledger a t) (id : String) :
    latestCheckpoint t id = (t.checkpointsOf id).getLast? := by
  unfold latestCheckpoint
  rw [sorted_checkpoints h]

section Step

variable {k : Compaction F} {t t' : Tables F} {row : PlanRow F} {r : Rollup F} {deleted : ℕ}
  {c : Checkpoint} {payload : Payload F} {candidates : List (Payload F)} {states : List String}

theorem rollupsOf_wrote (hw : Wrote a k row r t t' deleted c)
    (hcampaign : r.campaignId = row.link.campaignId) (id : String) : t'.rollupsOf id =
      if row.link.campaignId = id then t.rollupsOf id ++ [r] else t.rollupsOf id := by
  rw [hw.tables]
  show (t.rollups ++ [r]).filter _ = _
  rw [List.filter_append, List.filter_singleton, hcampaign]
  unfold Tables.rollupsOf
  split <;> simp_all

theorem checkpointsOf_wrote (hw : Wrote a k row r t t' deleted c) (id : String) :
    t'.checkpointsOf id =
      if row.link.campaignId = id then t.checkpointsOf id ++ [c] else t.checkpointsOf id := by
  have hcampaign : c.campaignId = row.link.campaignId := by rw [hw.core]; rfl
  rw [hw.tables]
  show (t.checkpoints ++ [c]).filter _ = _
  rw [List.filter_append, List.filter_singleton, hcampaign]
  unfold Tables.checkpointsOf
  split <;> simp_all

/-- The checkpoint that is written is the one that follows. -/
theorem follows_wrote (h : Ledger a t) (hw : Wrote a k row r t t' deleted c) :
    ledgerLog.Follows ((t.checkpointsOf row.link.campaignId).getLast?.or none) r c := by
  have hcore := hw.core
  rw [latestCheckpoint_eq h] at hcore
  rw [Option.or_none]
  refine ⟨?_, ?_, ?_⟩
  · show c.sequence = _
    rw [hcore]
    rfl
  · show c.previousCheckpointHash = _
    rw [hcore]
    rfl
  · show c.totals = _
    rw [hcore]
    rfl

/-- **A compacted cycle keeps the ledger.** -/
theorem ledger_wrote (h : Ledger a t) (hr : RollsUp a t row r payload candidates states)
    (hw : Wrote a k row r t t' deleted c) : Ledger a t' := by
  have hcycle : c.cycleId = r.cycleId := by
    rw [hw.core, hr.cycleId]
    rfl
  have hrollups : t'.rollups = t.rollups ++ [r] := by rw [hw.tables]
  have hcheckpoints : t'.checkpoints = t.checkpoints ++ [c] := by rw [hw.tables]
  refine ⟨?_, ?_, ?_, fun id => ?_, fun id => ?_⟩
  · rw [hrollups, List.map_append, List.map_singleton]
    refine List.nodup_append.mpr ⟨h.ids, List.nodup_singleton _, ?_⟩
    intro x hx y hy heq
    obtain ⟨q, hq, rfl⟩ := List.mem_map.mp hx
    rw [List.mem_singleton.mp hy, hr.cycleId] at heq
    exact hw.fresh q hq heq
  · rw [hrollups]
    intro q hq
    rcases List.mem_append.mp hq with hq | hq
    · exact h.rollups q hq
    · rw [List.mem_singleton.mp hq]
      exact hr.hashed
  · rw [hcheckpoints]
    intro q hq
    rcases List.mem_append.mp hq with hq | hq
    · exact h.checkpoints q hq
    · rw [List.mem_singleton.mp hq]
      exact hw.hashed
  · rw [rollupsOf_wrote hw hr.campaignId, checkpointsOf_wrote hw]
    split
    · rename_i hid
      subst hid
      exact Log.chained_concat (h.chained _) (follows_wrote h hw)
    · exact h.chained id
  · rw [rollupsOf_wrote hw hr.campaignId, checkpointsOf_wrote hw]
    split
    · rw [List.map_append, List.map_append, h.cycles id, List.map_singleton, List.map_singleton,
        hcycle]
    · exact h.cycles id

end Step

/-! ## 2. What the summary makes of it -/

/-- The totals of rollups. -/
def totalsOf (rollups : List (Rollup F)) : Totals where
  cycles := rollups.length
  candidates := (rollups.map fun r => r.candidateCount).sum
  eligible := (rollups.map fun r => r.eligibleCount).sum
  selected := (rollups.map fun r => r.selectedCount).sum
  rejected := (rollups.map fun r => r.rejectedCount).sum

omit [FloatNum F] in
theorem foldl_add (rollups : List (Rollup F)) (s : Totals) : rollups.foldl Totals.add s =
    ⟨s.cycles + (totalsOf rollups).cycles, s.candidates + (totalsOf rollups).candidates,
      s.eligible + (totalsOf rollups).eligible, s.selected + (totalsOf rollups).selected,
      s.rejected + (totalsOf rollups).rejected⟩ := by
  induction rollups generalizing s with
  | nil => simp [totalsOf]
  | cons r rest ih =>
    rw [List.foldl_cons, ih]
    simp only [totalsOf, Totals.add, List.length_cons, List.map_cons, List.sum_cons,
      Totals.mk.injEq]
    push_cast
    omega

omit [FloatNum F] in
/-- The running totals end with the sums. -/
theorem foldl_totals (rollups : List (Rollup F)) :
    rollups.foldl Totals.add Totals.zero = totalsOf rollups := by
  rw [foldl_add]
  simp [Totals.zero]

def orderInvalid : PyError := .valueError "STATS_ONLY_CHECKPOINT_ORDER_INVALID"

/-- The answer of the loop over a chain: where the rollups that are met are not the ones ahead, it
    raises. -/
theorem verifyCheckpoints_eq {all rs ahead : List (Rollup F)} {es : List Checkpoint}
    {last : Option Checkpoint} {n : ℕ} (hids : (all.map fun r => r.cycleId).Nodup)
    (hrs : ∀ r ∈ rs, r ∈ all) (hes : ∀ c ∈ es,
      canonicalHash a.toHost (c.asDict : Value F) = .ok c.checkpointHash)
    (hchain : ledgerLog.Chained last rs es)
    (hcycles : (es.map fun c => c.cycleId) = rs.map fun r => r.cycleId)
    (hn : (n : ℤ) = (last.map fun c => c.sequence).getD 0) (hlength : ahead.length = rs.length) :
    verifyCheckpoints a all n (last.map fun c => c.checkpointHash)
        ((last.map fun c => c.totals).getD Totals.zero) ahead es =
      if (rs.map fun r => r.cycleId) = ahead.map fun r => r.cycleId then
        .ok (rs.foldl Totals.add ((last.map fun c => c.totals).getD Totals.zero),
          (es.getLast?.or last).map fun c => c.checkpointHash)
      else .error orderInvalid := by
  induction rs generalizing last n ahead es with
  | nil =>
    have hnil : ahead = [] := List.length_eq_zero_iff.mp hlength
    cases es with
    | nil =>
      subst hnil
      rfl
    | cons e es => exact False.elim hchain
  | cons r rs ih =>
    cases es with
    | nil => exact False.elim hchain
    | cons e es =>
      cases ahead with
      | nil => simp at hlength
      | cons x ahead =>
        obtain ⟨hfollows, hrest⟩ := hchain
        have hcycle : e.cycleId = r.cycleId := (List.cons.inj hcycles).1
        have hfound : all.find? (fun q => q.cycleId = e.cycleId) = some r := by
          have hr : r ∈ all := hrs r List.mem_cons_self
          cases hfind : all.find? (fun q => q.cycleId = e.cycleId) with
          | none =>
            have := List.find?_eq_none.mp hfind r hr
            simp [hcycle] at this
          | some q =>
            have hq := List.mem_of_find?_eq_some hfind
            have hqid := List.find?_some hfind
            simp only [decide_eq_true_eq] at hqid
            rw [List.inj_on_of_nodup_map hids hq hr (hqid.trans hcycle)]
        have hsequence : e.sequence = (n : ℤ) + 1 := hn ▸ hfollows.sequence
        have hprevious : e.previousCheckpointHash = last.map fun c => c.checkpointHash :=
          hfollows.previous
        have htotals : e.totals =
            ((last.map fun c => c.totals).getD Totals.zero).add r := hfollows.total
        have hhash := hes e List.mem_cons_self
        unfold verifyCheckpoints
        rw [require_ok.mpr ⟨hsequence, hprevious⟩, ok_bind, hfound]
        by_cases hhead : x.cycleId = e.cycleId
        · have horder : (List.head? (x :: ahead)).map (fun q => q.cycleId) = some e.cycleId := by
            rw [List.head?_cons, Option.map_some, hhead]
          simp only
          rw [require_ok.mpr horder, ok_bind, require_ok.mpr htotals, ok_bind, hhash, ok_bind,
            require_ok.mpr rfl, ok_bind, ← htotals]
          have hleft : ahead.length = rs.length := by simpa using hlength
          have hcount : ((n + 1 : ℕ) : ℤ) = e.sequence := by
            push_cast
            exact hsequence.symm
          refine (ih (fun q hq => hrs q (List.mem_cons_of_mem r hq))
            (fun q hq => hes q (List.mem_cons_of_mem e hq)) hrest (List.cons.inj hcycles).2
            hcount hleft).trans ?_
          have hlast : (e :: es).getLast?.or last = es.getLast?.or (some e) := by
            rw [List.getLast?_cons]
            cases es.getLast? <;> rfl
          rw [hlast, List.foldl_cons, ← htotals]
          simp only [List.map_cons, List.cons.injEq, hhead, hcycle, true_and, Option.map_some,
            Option.getD_some]
        · have hne : ¬ ((r :: rs).map fun q => q.cycleId) = (x :: ahead).map
            fun q => q.cycleId := by
            intro heq
            exact hhead ((List.cons.inj heq).1.symm.trans hcycle.symm)
          rw [if_neg hne]
          simp only
          unfold require
          rw [if_neg]
          · rfl
          · intro horder
            exact hhead (Option.some.inj horder)

/-- The cycles of a campaign were compacted in the order of time. -/
def InOrder (t : Tables F) (campaignId : String) : Prop :=
  (t.rollupsOf campaignId).Pairwise fun x y => x.moment < y.moment

/-- The cycles stand in the order of the query exactly where they were compacted in it. -/
theorem sorted_ids_iff {rs : List (Rollup F)} (hids : (rs.map fun r => r.cycleId).Nodup) :
    ((rs.map fun r => r.cycleId) = (sortOn Rollup.moment rs).map fun r => r.cycleId) ↔
      rs.Pairwise fun x y => x.moment < y.moment := by
  constructor
  · intro heq
    have hperm : (sortOn Rollup.moment rs).Perm rs := perm_of_sortOn rs
    have hsame : rs = sortOn Rollup.moment rs := by
      refine List.ext_getElem hperm.length_eq.symm fun i hi hi' => ?_
      refine List.inj_on_of_nodup_map hids (List.getElem_mem hi)
        (hperm.mem_iff.mp (List.getElem_mem hi')) ?_
      have hi₁ : i < (rs.map fun r => r.cycleId).length := by simpa using hi
      have hget := List.getElem_of_eq heq hi₁
      simpa using hget
    have hle : rs.Pairwise fun x y => x.moment ≤ y.moment := by
      rw [hsame]
      exact pairwise_sortOn rs
    have hne : rs.Pairwise fun x y => x.cycleId ≠ y.cycleId := List.pairwise_map.mp hids
    refine (hle.and hne).imp ?_
    intro x y hxy
    refine lt_of_le_of_ne hxy.1 fun hmoment => hxy.2 ?_
    exact congrArg (fun m : Moment => (ofLex m).2) hmoment
  · intro hlt
    rw [sortOn_sorted (hlt.imp fun h => le_of_lt h)]

section Summary

variable {t : Tables F} {id : String}

theorem rollupsOf_ids (h : Ledger a t) (id : String) :
    ((t.rollupsOf id).map fun r => r.cycleId).Nodup :=
  h.ids.sublist (List.filter_sublist.map _)

theorem checkpointsOf_nil (h : Ledger a t) (hnil : t.rollupsOf id = []) :
    t.checkpointsOf id = [] := by
  have hlength := Log.chained_length (h.chained id)
  rw [hnil] at hlength
  exact List.length_eq_zero_iff.mp hlength.symm

theorem summary_none (h : Ledger a t) (hnil : t.rollupsOf id = []) :
    statsOnlyCampaignSummary a t id = .ok .noStatsOnlyCompaction := by
  unfold statsOnlyCampaignSummary
  rw [hnil, checkpointsOf_nil h hnil]
  rfl

/-- The answer where something was compacted. -/
theorem summary_eq (h : Ledger a t) (hsome : t.rollupsOf id ≠ []) :
    statsOnlyCampaignSummary a t id =
      if ((t.rollupsOf id).map fun r => r.cycleId) =
          (sortOn Rollup.moment (t.rollupsOf id)).map fun r => r.cycleId then
        .ok (.verified (totalsOf (t.rollupsOf id))
          ((t.checkpointsOf id).getLast?.map fun c => c.checkpointHash))
      else .error orderInvalid := by
  have hperm : (sortOn Rollup.moment (t.rollupsOf id)).Perm (t.rollupsOf id) :=
    perm_of_sortOn (t.rollupsOf id)
  have hlength := Log.chained_length (h.chained id)
  have hnonempty : ¬ ((sortOn Rollup.moment (t.rollupsOf id)).isEmpty ∧
      (t.checkpointsOf id).isEmpty) := by
    intro hempty
    have hnil := List.isEmpty_iff.mp hempty.2
    rw [hnil] at hlength
    exact hsome (List.length_eq_zero_iff.mp hlength)
  have hrollups : (sortOn Rollup.moment (t.rollupsOf id)).forM (verifyRollup a) = .ok () := by
    refine forM_ok_iff.mpr fun r hr => ?_
    have hmem : r ∈ t.rollups := List.mem_of_mem_filter (mem_sortOn.mp hr)
    unfold verifyRollup
    rw [h.rollups r hmem, ok_bind]
    exact require_ok.mpr rfl
  have hids : ((sortOn Rollup.moment (t.rollupsOf id)).map fun r => r.cycleId).Nodup :=
    (hperm.map _).nodup_iff.mpr (rollupsOf_ids h id)
  have hmem : ∀ r ∈ t.rollupsOf id, r ∈ sortOn Rollup.moment (t.rollupsOf id) :=
    fun r hr => mem_sortOn.mpr hr
  have hloop := verifyCheckpoints_eq hids hmem
    (fun c hc => h.checkpoints c (List.mem_of_mem_filter hc)) (h.chained id) (h.cycles id)
    (Nat.cast_zero : ((0 : ℕ) : ℤ) = 0) hperm.length_eq
  unfold statsOnlyCampaignSummary
  rw [sorted_checkpoints h]
  simp only
  rw [if_neg hnonempty, if_neg (not_not.mpr (hperm.length_eq.trans hlength)), hrollups, ok_bind]
  refine (congrArg (fun x => x >>= fun p => pure (CampaignSummary.verified p.1 p.2)) hloop).trans ?_
  split
  · rw [Option.or_none]
    show Except.ok (CampaignSummary.verified
      ((t.rollupsOf id).foldl Totals.add Totals.zero) _) = _
    rw [foldl_totals]
    rfl
  · rfl

theorem summary_verified (h : Ledger a t) (hsome : t.rollupsOf id ≠ []) (horder : InOrder t id) :
    statsOnlyCampaignSummary a t id = .ok (.verified (totalsOf (t.rollupsOf id))
      ((t.checkpointsOf id).getLast?.map fun c => c.checkpointHash)) := by
  rw [summary_eq h hsome, if_pos ((sorted_ids_iff (rollupsOf_ids h id)).mpr horder)]

theorem summary_raises (h : Ledger a t) (horder : ¬ InOrder t id) :
    statsOnlyCampaignSummary a t id = .error orderInvalid := by
  have hsome : t.rollupsOf id ≠ [] := by
    intro hnil
    refine horder ?_
    unfold InOrder
    rw [hnil]
    exact List.Pairwise.nil
  rw [summary_eq h hsome, if_neg fun heq => horder ((sorted_ids_iff (rollupsOf_ids h id)).mp heq)]

end Summary

/-! ## 3. Runs -/

variable (a) in
/-- One step: something is written that is no batch, as far as `W` allows and outside the ledger; or
    a batch runs, to its end or not. -/
inductive Step (W : Tables F → Tables F → Prop) : Tables F → Tables F → Prop where
  | written {t t' : Tables F} (allowed : W t t') (rollups : t'.rollups = t.rollups)
      (checkpoints : t'.checkpoints = t.checkpoints) : Step W t t'
  | batch {t : Tables F} (k : Compaction F) (now : F) (late : ℕ → Bool) :
      Step W t (compactStatsOnlyUniverseBatch a k now late t).1

variable (a) in
/-- A run. -/
def Reaches (W : Tables F → Tables F → Prop) : Tables F → Tables F → Prop :=
  Relation.ReflTransGen (Step a W)

section Runs

variable {k : Compaction F} {now : F} {late : ℕ → Bool} {t t' : Tables F}

/-- What every compacted cycle keeps, the loop over the plan keeps. -/
theorem compactRows_keeps {P : Tables F → Prop} (step : ∀ {t t' row r deleted c payload candidates
      states}, P t → RollsUp a t row r payload candidates states → Wrote a k row r t t' deleted c →
      P t')
    {i : ℕ} {validated : List String} {plan : List (PlanRow F)} {deleted : ℕ}
    (h : compactRows a k late i validated plan t = .ok (t', deleted)) (hp : P t) : P t' := by
  induction plan generalizing t i validated deleted with
  | nil =>
    cases Except.ok.inj h
    exact hp
  | cons row rest ih =>
    obtain ⟨⟨t₁, first⟩, hrow, h⟩ := ok_of_bind h
    obtain ⟨⟨t₂, others⟩, hrest, h⟩ := ok_of_bind h
    cases Except.ok.inj h
    obtain ⟨_, r, c, payload, candidates, states, hr, hw⟩ := compactRow_ok hrow
    exact ih hrest (step hp hr hw)

variable (a k now late t) in
/-- A batch commits what its loop leaves, or changes nothing. -/
theorem batch_cases : (compactStatsOnlyUniverseBatch a k now late t).1 = t ∨
    ∃ scan deleted, planStatsOnlyUniverse a k.policy now t = .planned scan ∧
      compactRows a k late 0 [] scan.chosen t =
        .ok ((compactStatsOnlyUniverseBatch a k now late t).1, deleted) := by
  cases hop : operation a k now late t with
  | error e =>
    refine Or.inl ?_
    unfold compactStatsOnlyUniverseBatch
    rw [hop]
  | ok result =>
    refine Or.inr ?_
    have hfirst : (compactStatsOnlyUniverseBatch a k now late t).1 = result.1 := by
      unfold compactStatsOnlyUniverseBatch
      rw [hop]
    rw [hfirst]
    unfold operation at hop
    split at hop
    · cases hop
    · rename_i scan hscan
      obtain ⟨⟨t₁, deleted⟩, hrows, hop⟩ := ok_of_bind hop
      cases Except.ok.inj hop
      exact ⟨scan, deleted, hscan, hrows⟩

theorem ledger_batch (h : Ledger a t) :
    Ledger a (compactStatsOnlyUniverseBatch a k now late t).1 := by
  rcases batch_cases a k now late t with
    hsame | ⟨scan, deleted, _, hrows⟩
  · rw [hsame]
    exact h
  · exact compactRows_keeps (fun hp hr hw => ledger_wrote hp hr hw) hrows h

theorem ledger_step {W : Tables F → Tables F → Prop} (h : Ledger a t) (hstep : Step a W t t') :
    Ledger a t' := by
  cases hstep with
  | written _ hrollups hcheckpoints =>
    have hr : ∀ id, t'.rollupsOf id = t.rollupsOf id := fun id => by
      unfold Tables.rollupsOf
      rw [hrollups]
    have hc : ∀ id, t'.checkpointsOf id = t.checkpointsOf id := fun id => by
      unfold Tables.checkpointsOf
      rw [hcheckpoints]
    refine ⟨?_, ?_, ?_, fun id => ?_, fun id => ?_⟩
    · rw [hrollups]
      exact h.ids
    · rw [hrollups]
      exact h.rollups
    · rw [hcheckpoints]
      exact h.checkpoints
    · rw [hr, hc]
      exact h.chained id
    · rw [hr, hc]
      exact h.cycles id
  | batch k now late => exact ledger_batch h

/-- **Every run keeps the ledger.** -/
theorem ledger_reaches {W : Tables F → Tables F → Prop} (h : Ledger a t) (hrun : Reaches a W t t') :
    Ledger a t' := by
  induction hrun with
  | refl => exact h
  | tail _ hstep ih => exact ledger_step ih hstep

/-! ## 4. A campaign out of order -/

/-- A loop that ends well has met no cycle of a campaign out of order. -/
theorem compactRows_frozen {id : String} {i : ℕ} {validated : List String}
    {plan : List (PlanRow F)} {deleted : ℕ}
    (h : compactRows a k late i validated plan t = .ok (t', deleted)) (hl : Ledger a t)
    (horder : ¬ InOrder t id) (hnew : id ∉ validated) :
    (∀ row ∈ plan, row.link.campaignId ≠ id) ∧ t'.rollupsOf id = t.rollupsOf id := by
  induction plan generalizing t i validated deleted with
  | nil =>
    cases Except.ok.inj h
    exact ⟨List.forall_mem_nil _, rfl⟩
  | cons row rest ih =>
    obtain ⟨⟨t₁, first⟩, hrow, h⟩ := ok_of_bind h
    obtain ⟨⟨t₂, others⟩, hrest, h⟩ := ok_of_bind h
    cases Except.ok.inj h
    obtain ⟨hvalid, r, c, payload, candidates, states, hr, hw⟩ := compactRow_ok hrow
    have hother : row.link.campaignId ≠ id := by
      intro heq
      subst heq
      rcases hvalid with hmem | ⟨s, hs⟩
      · exact hnew hmem
      · rw [summary_raises hl horder] at hs
        cases hs
    have hsame : t₁.rollupsOf id = t.rollupsOf id := by
      rw [rollupsOf_wrote hw hr.campaignId, if_neg hother]
    have horder₁ : ¬ InOrder t₁ id := by
      unfold InOrder
      rw [hsame]
      exact horder
    have hnew₁ : id ∉ row.link.campaignId :: validated := by
      intro hmem
      rcases List.mem_cons.mp hmem with heq | hmem
      · exact hother heq.symm
      · exact hnew hmem
    obtain ⟨hplan, hfrozen⟩ := ih hrest (ledger_wrote hl hr hw) horder₁ hnew₁
    exact ⟨List.forall_mem_cons.mpr ⟨hother, hplan⟩, hfrozen.trans hsame⟩

theorem frozen_step {W : Tables F → Tables F → Prop} {id : String} (hl : Ledger a t)
    (horder : ¬ InOrder t id) (hstep : Step a W t t') : t'.rollupsOf id = t.rollupsOf id := by
  cases hstep with
  | written _ hrollups _ =>
    unfold Tables.rollupsOf
    rw [hrollups]
  | batch k now late =>
    rcases batch_cases a k now late t with
      hsame | ⟨scan, deleted, _, hrows⟩
    · rw [hsame]
    · exact (compactRows_frozen hrows hl horder List.not_mem_nil).2

theorem frozen_reaches {W : Tables F → Tables F → Prop} {id : String} (hl : Ledger a t)
    (horder : ¬ InOrder t id) (hrun : Reaches a W t t') : t'.rollupsOf id = t.rollupsOf id := by
  induction hrun with
  | refl => rfl
  | tail hbefore hstep ih =>
    rename_i x y
    have horder' : ¬ InOrder x id := by
      unfold InOrder
      rw [ih]
      exact horder
    rw [frozen_step (ledger_reaches hl hbefore) horder' hstep, ih]

/-- A batch that plans a cycle of such a campaign fails. -/
theorem batch_fails {id : String} {scan : Scan F} (hl : Ledger a t) (horder : ¬ InOrder t id)
    (hplan : planStatsOnlyUniverse a k.policy now t = .planned scan)
    (hrow : ∃ row ∈ scan.chosen, row.link.campaignId = id) :
    ∃ e, compactStatsOnlyUniverseBatch a k now late t = (t, .error e) := by
  unfold compactStatsOnlyUniverseBatch
  cases hop : operation a k now late t with
  | error e => exact ⟨e, rfl⟩
  | ok result =>
    unfold operation at hop
    rw [hplan] at hop
    obtain ⟨⟨t₁, deleted⟩, hrows, _⟩ := ok_of_bind hop
    obtain ⟨row, hmem, hid⟩ := hrow
    exact absurd hid ((compactRows_frozen hrows hl horder List.not_mem_nil).1 row hmem)

end Runs

/-- **After every run the summary verifies exactly where the cycles of the campaign were compacted
    in the order of time**, and then it has the totals of what was compacted. Where they were not,
    it raises, and so it stays: no cycle of the campaign is compacted any more, and every batch that
    plans one fails and changes nothing. -/
theorem ledger_verifies_iff {W : Tables F → Tables F → Prop} {t₀ t : Tables F}
    (hrollups : t₀.rollups = []) (hcheckpoints : t₀.checkpoints = []) (hrun : Reaches a W t₀ t)
    (id : String) :
    (t.rollupsOf id = [] → statsOnlyCampaignSummary a t id = .ok .noStatsOnlyCompaction) ∧
      (t.rollupsOf id ≠ [] → InOrder t id →
        statsOnlyCampaignSummary a t id = .ok (.verified (totalsOf (t.rollupsOf id))
          ((t.checkpointsOf id).getLast?.map fun c => c.checkpointHash))) ∧
      (¬ InOrder t id → ∀ t', Reaches a W t t' →
        statsOnlyCampaignSummary a t' id = .error orderInvalid ∧
          t'.rollupsOf id = t.rollupsOf id ∧
          ∀ (k : Compaction F) (now : F) (late : ℕ → Bool) (scan : Scan F),
            planStatsOnlyUniverse a k.policy now t' = .planned scan →
              (∃ row ∈ scan.chosen, row.link.campaignId = id) →
                ∃ e, compactStatsOnlyUniverseBatch a k now late t' = (t', .error e)) := by
  have hl : Ledger a t := ledger_reaches (ledger_empty hrollups hcheckpoints) hrun
  refine ⟨summary_none hl, summary_verified hl, fun horder t' hlater => ?_⟩
  have hl' : Ledger a t' := ledger_reaches hl hlater
  have hsame : t'.rollupsOf id = t.rollupsOf id := frozen_reaches hl horder hlater
  have horder' : ¬ InOrder t' id := by
    unfold InOrder
    rw [hsame]
    exact horder
  exact ⟨summary_raises hl' horder', hsame, fun k now late scan hplan hrow =>
    batch_fails hl' horder' hplan hrow⟩

/-! ## 5. A run that leaves a campaign out of order -/

/-- A number as strokes. -/
def strokes (n : ℕ) : String := String.ofList (List.replicate n '|')

def tick : Value Extended → ℕ
  | .float (.finite q) => q.num.natAbs
  | .int n => n.natAbs
  | _ => 0

/-- A digest that tells times and numbers apart. -/
def sampleTag : Value Extended → String
  | .mapping entries =>
    strokes (tick (Payload.get entries "decision_timestamp") +
      tick (Payload.get entries "sequence"))
  | _ => ""

/-- A cycle without candidates, as an earlier version stored it. -/
def samplePayload (time : ℕ) : Payload Extended :=
  [("_storage_codec", .text "candidate-rows-v2"),
    ("cycle_id", .text ("universe:PAPER:" ++ strokes time)),
    ("decision_timestamp", .float (.finite time)), ("execution_mode", .text "PAPER"),
    ("constraints", .mapping []), ("selected_symbols", .list []), ("config_hash", .text ""),
    ("strategy_config_hash", .text "s"), ("universe_hash", .text ""),
    ("evidence_hash", .text (strokes time)), ("git_sha", .text "g"),
    ("source_provenance", .list []),
    ("ranking_version", .text "r"), ("schema_version", .text "v")]

/-- `json.loads`, where `#` and strokes stand for the payload of a sample cycle. -/
def shortLoads (text : List Char) : Except PyError (Value Extended) :=
  match text with
  | '#' :: rest => .ok (.mapping (samplePayload rest.length))
  | _ => sampleRead text

theorem writeValue_head (v : Value Extended) (rest : List Char) :
    writeValue Code.extended v ≠ '#' :: rest := by
  cases v with
  | bool b => cases b <;> simp [writeValue]
  | _ => simp [writeValue]

theorem shortLoads_write (v : Value Extended) :
    shortLoads (writeValue Code.extended v) = .ok v := by
  unfold shortLoads
  split
  · rename_i rest heq
    exact absurd heq (writeValue_head v rest)
  · exact sampleRead_write v

def shortArchive : Archive Extended (List Char) :=
  { sampleArchive with
    digest := fun v => sampleTag v.canonical
    sha256 := fun text => ((sampleRead text).toOption.map sampleTag).getD ""
    loads := fun text => shortLoads text.toList
    loads_dumps := fun v _ => by
      show shortLoads (String.toList (String.ofList _)) = _
      rw [String.toList_ofList, shortLoads_write]
    loads_compact := fun v _ => by
      show shortLoads (String.toList (String.ofList _)) = _
      rw [String.toList_ofList, shortLoads_write]
    digest_eq := fun v => by
      show _ = ((sampleRead (String.toList (String.ofList _))).toOption.map sampleTag).getD ""
      rw [String.toList_ofList, sampleRead_write]
      rfl }

def sampleCycle (time : ℕ) : CycleRow Extended where
  cycleId := "universe:PAPER:" ++ strokes time
  decisionTimestamp := .finite time
  executionMode := "PAPER"
  selectedSymbolsJson := "le"
  candidateCount := 0
  configHash := ""
  strategyConfigHash := some "s"
  universeHash := ""
  evidenceHash := strokes time
  gitSha := "g"
  sourceProvenanceJson := "le"
  rankingVersion := "r"
  schemaVersion := "v"
  payloadJson := "#" ++ strokes time

def samplePolicy : StoragePolicy Extended := ⟨true, 10, .finite 1, 1, "P", Nat.one_pos⟩

def sampleLink (time : ℕ) (run : String) : Link Extended :=
  ⟨"", "C", run, (sampleCycle time).cycleId, .finite time, "v"⟩

def sampleTables (labels : List PendingLabel) : Tables Extended where
  cycles := [sampleCycle 1, sampleCycle 2, sampleCycle 3]
  candidates := []
  links := [sampleLink 1 "A", sampleLink 2 "B", sampleLink 3 "B"]
  campaigns := [⟨"C", "h", "s", "g", some [("storage_retention_mode", .text "PAPER_STATS_ONLY"),
    ("storage_policy_hash", .text "P")], none, none, "COMPLETED",
    some "1970-01-01T00:00:02", none, []⟩]
  campaignRuns := [("C", "A"), ("C", "B")]
  runs := [⟨"A", "PAPER", "g", "h", "COMPLETED", some 0⟩,
    ⟨"B", "PAPER", "g", "h", "COMPLETED", some 0⟩]
  pendingLabels := labels
  pendingOutcomes := []
  snapshots := [⟨some "C", some 0, some 0, some 0, some 0, some "STOPPED"⟩]
  qualifiedRuns := []
  schemaAvailable := true
  unknownDependency := none
  positions := none
  orders := none
  incidents := none
  authorizedAmbiguityIds _ _ := []
  rollups := []
  checkpoints := []
  authorizations := []

def sampleLabel : PendingLabel := ⟨"L", "C", "A", "", "PENDING", 0⟩

def sampleCompaction : Compaction Extended := ⟨samplePolicy, "now", fun _ => .finite 0⟩

def sampleBatch (t : Tables Extended) : Tables Extended × Except PyError BatchReport :=
  compactStatsOnlyUniverseBatch shortArchive sampleCompaction (.finite 100) (fun _ => false) t

def afterBatch (t : Tables Extended) : Tables Extended := (sampleBatch t).1

/-- The label of a run is resolved. -/
def resolved (t : Tables Extended) : Tables Extended := { t with pendingLabels := [] }

/-- The first cycle is protected by a label of its run, and the one of the other run is taken. -/
def blockedTables : Tables Extended := afterBatch (sampleTables [sampleLabel])

/-- The label is resolved, and the first cycle is taken too. -/
def lateTables : Tables Extended := afterBatch (resolved blockedTables)

theorem step_afterBatch (t : Tables Extended) :
    Step shortArchive (fun _ _ => True) t (afterBatch t) :=
  Step.batch sampleCompaction (.finite 100) fun _ => false

theorem step_resolved (t : Tables Extended) : Step shortArchive (fun _ _ => True) t (resolved t) :=
  Step.written trivial rfl rfl

theorem lateTables_reached :
    Reaches shortArchive (fun _ _ => True) (sampleTables [sampleLabel]) lateTables :=
  ((Relation.ReflTransGen.single (step_afterBatch _)).tail (step_resolved _)).tail
    (step_afterBatch _)

/-- The later cycle of the campaign was compacted first. -/
theorem lateTables_disordered : ¬ InOrder lateTables "C" := by
  unfold InOrder
  decide +kernel

/-- Two runs of one campaign, and a label that is resolved late: the summary of the campaign still
    raises after the next batch. -/
theorem ledger_verifies_sample :
    statsOnlyCampaignSummary shortArchive (afterBatch lateTables) "C" = .error orderInvalid := by
  have hnext : Reaches shortArchive (fun _ _ => True) lateTables (afterBatch lateTables) :=
    Relation.ReflTransGen.single (step_afterBatch lateTables)
  exact ((ledger_verifies_iff rfl rfl lateTables_reached "C").2.2 lateTables_disordered _ hnext).1

end AlphaForge.Storage
