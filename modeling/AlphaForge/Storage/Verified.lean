/-
  File:      AlphaForge/Storage/Verified.lean
  Subject:   The stats-only ledger after whole histories: batches in any order with whatever arrives
             and is resolved in between.

  * `Ran` -- a history, with the cycles that were compacted in it.
  * `InTime` -- a batch takes no cycle that is earlier than a compacted one of its campaign.
  * `agrees_ran` -- the rollups are those of the compacted cycles, one by one.
  * **`ledger_verifies`** -- where every batch is in time, the summary verifies in every state, with
    the totals over all cycles compacted so far; and a batch that commits and is not in time leaves
    a campaign whose summary raises for ever.
-/
import AlphaForge.Storage.SingleRun

namespace AlphaForge.Storage

open AlphaForge.Lib AlphaForge.Universe

variable {F B : Type} [FloatNum F] {a : Archive F B} {W : Tables F → Tables F → Prop}

/-! ## 1. Histories -/

/-- A cycle that was compacted: its campaign, its place in time, and the rows it had. -/
structure Compacted (F : Type) where
  campaignId : String
  cycleId : String
  moment : Moment
  rows : List (CandidateRow F)

/-- The cycle of a row of the plan, as it is stored. -/
def asStored (t : Tables F) (row : PlanRow F) : Compacted F where
  campaignId := row.link.campaignId
  cycleId := row.cycle.cycleId
  moment := cycleMoment row.cycle
  rows := t.db.stored row.cycle.cycleId

variable (a) in
/-- The cycles that a batch compacts; none where it raises. -/
def takenBy (k : Compaction F) (now : F) (late : ℕ → Bool) (t : Tables F) : List (Compacted F) :=
  match (compactStatsOnlyUniverseBatch a k now late t).2,
    planStatsOnlyUniverse a k.policy now t with
  | .ok _, .planned scan => scan.chosen.map (asStored t)
  | _, _ => []

variable (a) in
/-- A batch would take no cycle that is earlier than one that its campaign has lost already. -/
def InTime (k : Compaction F) (now : F) (t : Tables F) : Prop :=
  ∀ scan, planStatsOnlyUniverse a k.policy now t = .planned scan → ∀ row ∈ scan.chosen,
    ∀ r ∈ t.rollupsOf row.link.campaignId, r.moment < cycleMoment row.cycle

variable (a W) in
/-- The histories whose batches meet `C`: the ledger is empty, then batches run and other things are
    written, as far as `W` allows and outside the ledger. -/
inductive Ran (C : Compaction F → F → Tables F → Prop) : List (Compacted F) → Tables F → Prop where
  | start {t : Tables F} (rollups : t.rollups = []) (checkpoints : t.checkpoints = []) : Ran C [] t
  | written {cs : List (Compacted F)} {t t' : Tables F} (before : Ran C cs t) (allowed : W t t')
      (rollups : t'.rollups = t.rollups) (checkpoints : t'.checkpoints = t.checkpoints) :
        Ran C cs t'
  | batch {cs : List (Compacted F)} {t : Tables F} (before : Ran C cs t)
      (k : Compaction F) (now : F)
      (late : ℕ → Bool) (met : C k now t) :
      Ran C (cs ++ takenBy a k now late t) (compactStatsOnlyUniverseBatch a k now late t).1

/-- The compacted cycles of a campaign. -/
def ofCampaign (id : String) (cs : List (Compacted F)) : List (Compacted F) :=
  cs.filter fun c => c.campaignId = id

/-- The totals over compacted cycles. -/
def compactedTotals (cs : List (Compacted F)) : Totals where
  cycles := cs.length
  candidates := (cs.map fun c => (c.rows.length : ℤ)).sum
  eligible := (cs.map fun c => (c.rows.countP fun q => q.eligibilityState = "ELIGIBLE" : ℤ)).sum
  selected := (cs.map fun c => (c.rows.countP fun q => q.selected ≠ 0 : ℤ)).sum
  rejected := (cs.map fun c => (c.rows.countP fun q => q.eligibilityState ≠ "ELIGIBLE" : ℤ)).sum

variable (a) in
/-- The summary of a campaign verifies, with the totals over what was compacted. -/
def Verified (t : Tables F) (cs : List (Compacted F)) (id : String) : Prop :=
  ∃ hash, statsOnlyCampaignSummary a t id =
    .ok (if ofCampaign id cs = [] then .noStatsOnlyCompaction
      else .verified (compactedTotals (ofCampaign id cs)) hash)

/-! ## 2. The rollups are those of the compacted cycles -/

/-- A rollup says of a compacted cycle what is true. -/
structure Says (c : Compacted F) (r : Rollup F) : Prop where
  campaignId : r.campaignId = c.campaignId
  cycleId : r.cycleId = c.cycleId
  moment : r.moment = c.moment
  candidates : r.candidateCount = c.rows.length
  eligible : r.eligibleCount = c.rows.countP fun q => q.eligibilityState = "ELIGIBLE"
  selected : r.selectedCount = c.rows.countP fun q => q.selected ≠ 0
  rejected : r.rejectedCount = c.rows.countP fun q => q.eligibilityState ≠ "ELIGIBLE"

theorem says_asStored {t : Tables F} {row : PlanRow F} {r : Rollup F} (h : StandsFor a t row r) :
    Says (asStored t row) r :=
  ⟨h.campaignId, h.cycleId, moment_stands h, h.counts.candidates, h.counts.eligible,
    h.counts.selected, h.counts.rejected⟩

/-- What a batch adds to the rollups are the rollups of what it takes. -/
theorem batch_says (k : Compaction F) (now : F) (late : ℕ → Bool) (t : Tables F) :
    ∃ rs, (compactStatsOnlyUniverseBatch a k now late t).1.rollups = t.rollups ++ rs ∧
      List.Forall₂ Says (takenBy a k now late t) rs := by
  unfold takenBy
  cases hop : compactStatsOnlyUniverseBatch a k now late t with
  | mk t' result =>
    cases result with
    | error e =>
      refine ⟨[], ?_, List.Forall₂.nil⟩
      rw [List.append_nil]
      exact congrArg Tables.rollups (batch_error hop)
    | ok report =>
      obtain ⟨scan, rs, hscan, hbatched, _⟩ := batch_ok hop
      refine ⟨rs, hbatched.rollups, ?_⟩
      rw [hscan]
      simp only
      rw [List.forall₂_map_left_iff]
      exact hbatched.stands.imp fun row r h => says_asStored h

/-- One rollup for each compacted cycle, in the order in which they went. -/
theorem agrees_ran {C : Compaction F → F → Tables F → Prop} {cs : List (Compacted F)} {t : Tables F}
    (h : Ran a W C cs t) : Ledger a t ∧ List.Forall₂ Says cs t.rollups := by
  induction h with
  | start hrollups hcheckpoints =>
    refine ⟨ledger_empty hrollups hcheckpoints, ?_⟩
    rw [hrollups]
    exact List.Forall₂.nil
  | written _ hallowed hrollups hcheckpoints ih =>
    obtain ⟨hl, hsaid⟩ := ih
    refine ⟨ledger_step hl (Step.written hallowed hrollups hcheckpoints), ?_⟩
    rw [hrollups]
    exact hsaid
  | batch _ k now late _ ih =>
    obtain ⟨hl, hsaid⟩ := ih
    obtain ⟨rs, hrollups, htaken⟩ := batch_says (a := a) k now late _
    refine ⟨ledger_batch hl, ?_⟩
    rw [hrollups]
    exact List.rel_append hsaid htaken

section Agrees

variable {cs : List (Compacted F)} {rs : List (Rollup F)}

theorem says_ofCampaign (h : List.Forall₂ Says cs rs) (id : String) :
    List.Forall₂ Says (ofCampaign id cs) (rs.filter fun r => r.campaignId = id) := by
  induction h with
  | nil => exact List.Forall₂.nil
  | cons hfirst _ ih =>
    unfold ofCampaign
    rw [List.filter_cons, List.filter_cons, hfirst.campaignId]
    split
    · exact List.Forall₂.cons hfirst ih
    · exact ih

theorem totals_says (h : List.Forall₂ Says cs rs) : totalsOf rs = compactedTotals cs := by
  induction h with
  | nil => rfl
  | cons hfirst _ ih =>
    simp only [totalsOf, compactedTotals, Totals.mk.injEq, List.length_cons, List.map_cons,
      List.sum_cons, hfirst.candidates, hfirst.eligible, hfirst.selected, hfirst.rejected] at ih ⊢
    obtain ⟨hcycles, hcandidates, heligible, hselected, hrejected⟩ := ih
    push_cast at hcycles ⊢
    omega

end Agrees

/-! ## 3. In the order of time -/

section Order

variable {k : Compaction F} {now : F} {late : ℕ → Bool} {t t' : Tables F} {id : String}

theorem inOrder_written (hrollups : t'.rollups = t.rollups) : InOrder t' id ↔ InOrder t id := by
  unfold InOrder Tables.rollupsOf
  rw [hrollups]

/-- A batch that is in time keeps the order of every campaign. -/
theorem inOrder_batch (hin : InTime a k now t) (h : InOrder t id) :
    InOrder (compactStatsOnlyUniverseBatch a k now late t).1 id := by
  rcases batch_leaves (a := a) k now late t with hsame | ⟨scan, rs, hplan, hb⟩
  · rw [hsame]
    exact h
  · unfold InOrder Tables.rollupsOf
    rw [hb.rollups, List.filter_append]
    refine List.pairwise_append.mpr ⟨h, (rollups_ascend hb hplan).filter _, fun q hq r hr => ?_⟩
    obtain ⟨hmem, hcampaign⟩ := List.mem_filter.mp hr
    obtain ⟨row, hrow, hstands⟩ := row_of_rollup hb hmem
    have hown : row.link.campaignId = id := hstands.campaignId.symm.trans
      (of_decide_eq_true hcampaign)
    rw [moment_stands hstands]
    refine hin scan hplan row hrow q ?_
    rw [hown]
    exact hq

theorem inOrder_ran {cs : List (Compacted F)} (h : Ran a W (InTime a) cs t) (id : String) :
    InOrder t id := by
  induction h with
  | start hrollups _ =>
    unfold InOrder Tables.rollupsOf
    rw [hrollups]
    exact List.Pairwise.nil
  | written _ _ hrollups _ ih => exact (inOrder_written hrollups).mpr ih
  | batch _ k now late hin ih => exact inOrder_batch hin ih

/-- A batch that commits and is not in time leaves a campaign out of order. -/
theorem disorder_batch {report : BatchReport}
    (hop : compactStatsOnlyUniverseBatch a k now late t = (t', .ok report))
    (hin : ¬ InTime a k now t) : ∃ id, ¬ InOrder t' id := by
  obtain ⟨scan, rs, hplan, hb, _⟩ := batch_ok hop
  unfold InTime at hin
  push Not at hin
  obtain ⟨scan', hplan', row, hrow, q, hq, hearly⟩ := hin
  cases Plan.planned.inj (hplan.symm.trans hplan')
  obtain ⟨r, hr, hstands⟩ := hb.rollup_of_row hrow
  refine ⟨row.link.campaignId, fun horder => ?_⟩
  unfold InOrder Tables.rollupsOf at horder
  rw [hb.rollups, List.filter_append] at horder
  have hlt := (List.pairwise_append.mp horder).2.2 q hq r
    (List.mem_filter.mpr ⟨hr, decide_eq_true hstands.campaignId⟩)
  rw [moment_stands hstands] at hlt
  exact absurd hlt (not_lt.mpr hearly)

end Order

/-- The summary of a campaign in order has the totals over what was compacted. -/
theorem verified_of_inOrder {cs : List (Compacted F)} {t : Tables F} {id : String} (hl : Ledger a t)
    (hsaid : List.Forall₂ Says cs t.rollups) (horder : InOrder t id) : Verified a t cs id := by
  have hown : List.Forall₂ Says (ofCampaign id cs) (t.rollupsOf id) := says_ofCampaign hsaid id
  refine ⟨(t.checkpointsOf id).getLast?.map fun c => c.checkpointHash, ?_⟩
  by_cases hnil : ofCampaign id cs = []
  · rw [hnil] at hown
    rw [if_pos hnil]
    exact summary_none hl (List.forall₂_nil_left_iff.mp hown)
  · have hsome : t.rollupsOf id ≠ [] := by
      intro hempty
      rw [hempty] at hown
      exact hnil (List.forall₂_nil_right_iff.mp hown)
    rw [if_neg hnil, summary_verified hl hsome horder, totals_says hown]

/-- **Where every batch is in time, the summary of every campaign verifies in every state**, with
    the totals over all the cycles that were compacted so far. And a batch that commits and is not
    in time leaves a campaign whose summary raises, whatever happens then. -/
theorem ledger_verifies :
    (∀ cs t, Ran a W (InTime a) cs t → ∀ id, Verified a t cs id) ∧
      ∀ cs t, Ran a W (fun _ _ _ => True) cs t → ∀ k now late t' report,
        compactStatsOnlyUniverseBatch a k now late t = (t', .ok report) → ¬ InTime a k now t →
          ∃ id, ∀ t'', Reaches a W t' t'' → statsOnlyCampaignSummary a t'' id =
            .error orderInvalid := by
  constructor
  · intro cs t h id
    obtain ⟨hl, hsaid⟩ := agrees_ran h
    exact verified_of_inOrder hl hsaid (inOrder_ran h id)
  · intro cs t h k now late t' report hop hin
    have hl : Ledger a t' := by
      have hafter : Ledger a (compactStatsOnlyUniverseBatch a k now late t).1 :=
        ledger_batch (agrees_ran h).1
      rw [hop] at hafter
      exact hafter
    obtain ⟨id, horder⟩ := disorder_batch hop hin
    refine ⟨id, fun t'' hlater => ?_⟩
    refine summary_raises (ledger_reaches hl hlater) ?_
    unfold InOrder
    rw [frozen_reaches hl horder hlater]
    exact horder

/-! ## 4. Batches in time, and one that is not -/

/-- The label of the older run is resolved. -/
def Resolves (t t' : Tables Extended) : Prop := t' = resolved t

/-- A first batch is in time. -/
theorem inTime_first {k : Compaction F} {now : F} {t : Tables F} (hrollups : t.rollups = []) :
    InTime a k now t := by
  intro scan _ row _ r hr
  unfold Tables.rollupsOf at hr
  rw [hrollups] at hr
  exact absurd hr List.not_mem_nil

section Samples

variable {C : Compaction Extended → Extended → Tables Extended → Prop} {t t' : Tables Extended}
  {cs : List (Compacted Extended)}

theorem ran_afterBatch (h : Ran shortArchive Resolves C cs t)
    (hmet : C sampleCompaction (.finite 100) t) :
    Ran shortArchive Resolves C
      (cs ++ takenBy shortArchive sampleCompaction (.finite 100) (fun _ => false) t)
        (afterBatch t) :=
  h.batch sampleCompaction (.finite 100) (fun _ => false) hmet

theorem ran_steadyBatch (h : Ran shortArchive Resolves C cs t)
    (hmet : C steadyCompaction (.finite 100) t) : Ran shortArchive Resolves C
      (cs ++ takenBy shortArchive steadyCompaction (.finite 100) (fun _ => false) t)
        (steadyBatch t) :=
  h.batch steadyCompaction (.finite 100) (fun _ => false) hmet

theorem inOrder_afterBatch (hin : InTime shortArchive sampleCompaction (.finite 100) t)
    (h : InOrder t "C") : InOrder (afterBatch t) "C" := inOrder_batch hin h

/-- A batch that leaves a campaign out of order has committed, and was not in time. -/
theorem late_afterBatch (h : InOrder t "C") (hafter : ¬ InOrder (afterBatch t) "C") :
    ∃ report, compactStatsOnlyUniverseBatch shortArchive sampleCompaction (.finite 100)
        (fun _ => false) t = (afterBatch t, .ok report) ∧
      ¬ InTime shortArchive sampleCompaction (.finite 100) t := by
  refine (?_ : ∃ report, sampleBatch t = (afterBatch t, .ok report) ∧ _)
  cases hbatch : sampleBatch t with
  | mk t' result =>
    have hleft : afterBatch t = t' := congrArg Prod.fst hbatch
    cases result with
    | error e =>
      refine absurd h ?_
      rw [← batch_error hbatch, ← hleft]
      exact hafter
    | ok report =>
      rw [hleft]
      exact ⟨report, rfl, fun hin => hafter (inOrder_afterBatch hin h)⟩

theorem ran_resolved (h : Ran shortArchive Resolves C cs t) :
    Ran shortArchive Resolves C cs (resolved t) :=
  h.written rfl rfl rfl

end Samples

/-- The second cycle of the run is later than the first. -/
theorem inTime_second : InTime shortArchive steadyCompaction (.finite 100)
    (steadyBatch steadyTables) := by
  have hlater : ∀ row ∈ (scanRows shortArchive steadyCompaction.policy (steadyBatch steadyTables) 0
      (candidateRows steadyCompaction.policy (.finite 100) (steadyBatch steadyTables))).chosen,
      ∀ r ∈ (steadyBatch steadyTables).rollupsOf row.link.campaignId,
        r.moment < cycleMoment row.cycle := by
    decide +kernel
  intro scan hscan
  rw [planned_eq hscan]
  exact hlater

/-- The cycle of the newer run was compacted, and then the label of the older run was resolved. -/
theorem ran_blocked : ∃ cs, Ran shortArchive Resolves (fun _ _ _ => True) cs
    (resolved blockedTables) :=
  ⟨_, ran_resolved (ran_afterBatch (Ran.start rfl rfl) trivial)⟩

theorem resolved_inOrder : InOrder (resolved blockedTables) "C" :=
  inOrder_afterBatch (inTime_first rfl) List.Pairwise.nil

/-- Two cycles of one run go in time, and the summary has both. Of two runs, the cycle of the newer
    goes first, and then the batch that takes the older one leaves a summary that always raises. -/
theorem ledger_verifies_steady :
    (∃ cs : List (Compacted Extended), cs.length = 2 ∧
      Verified shortArchive (steadyBatch (steadyBatch steadyTables)) cs "C") ∧
    ∃ id, ∀ t, Reaches shortArchive Resolves lateTables t →
      statsOnlyCampaignSummary shortArchive t id = .error orderInvalid := by
  constructor
  · have hstart : Ran shortArchive Resolves (InTime shortArchive) [] steadyTables :=
      Ran.start rfl rfl
    have hboth := ran_steadyBatch (ran_steadyBatch hstart (inTime_first rfl)) inTime_second
    refine ⟨_, ?_, ledger_verifies.1 _ _ hboth "C"⟩
    exact (agrees_ran hboth).2.length_eq.trans steadyBatch_two
  · obtain ⟨cs, hran⟩ := ran_blocked
    obtain ⟨report, hcommits, hlate⟩ := late_afterBatch resolved_inOrder lateTables_disordered
    exact ledger_verifies.2 _ _ hran sampleCompaction (.finite 100) (fun _ => false) lateTables
      report hcommits hlate

/-- The cycle of the newer run is compacted, then the label of the older run is resolved, then its
    cycle is compacted: the summary of the campaign raises. -/
theorem late_label_breaks : ∃ cs t, Ran shortArchive Resolves (fun _ _ _ => True) cs t ∧
    ¬ Verified shortArchive t cs "C" := by
  obtain ⟨cs, hran⟩ := ran_blocked
  have hlate := ran_afterBatch hran trivial
  refine ⟨_, _, hlate, fun ⟨hash, hok⟩ => ?_⟩
  have hraises := summary_raises (agrees_ran hlate).1 lateTables_disordered
  cases hraises.symm.trans hok

end AlphaForge.Storage
