/-
  File:      AlphaForge/Storage/Retention.lean
  Subject:   What the stats-only retention takes: the plan, and what a batch leaves.

  * `chosen_front` -- the plan is what comes first, among the rows of the query that nothing blocks.
  * `Batched` -- what a batch that commits leaves: without the evidence of the chosen cycles, with a
    rollup for each of them.
  * **`batch_safe`** -- what a batch takes was safe to lose: a PAPER cycle of one campaign that is
    bound to the policy, older than everything that is unresolved in its run; and the newest cycles
    of every campaign stay, whatever the batch takes.
  * `accounted_step` -- a step keeps what is stored, with all its rows, or leaves a rollup with the
    exact counts of what was stored.
-/
import AlphaForge.Lib.Occurrences
import AlphaForge.Storage.Ledger
import AlphaForge.Universe.Tamper

namespace AlphaForge.Storage

open AlphaForge.Lib AlphaForge.Universe

variable {F B : Type} [FloatNum F] {a : Archive F B}

/-! ## 1. The plan -/

section Plan

variable {policy : StoragePolicy F} {now : F} {t : Tables F}

/-- Nothing blocks the row. -/
def free (a : Archive F B) (policy : StoragePolicy F) (t : Tables F) (row : PlanRow F) : Bool :=
  (blockedReason a policy t row).isNone

variable (a policy t) in
/-- **The plan is what comes first, among the rows that nothing blocks.** -/
theorem chosen_front (rows : List (PlanRow F)) (budget : ℤ) :
    (scanRows a policy t budget rows).chosen <+: rows.filter (free a policy t) := by
  induction rows generalizing budget with
  | nil => exact ⟨_, List.nil_append _⟩
  | cons row rest ih =>
    unfold scanRows
    rw [List.filter_cons]
    split
    · rename_i reason hreason
      have hblocked : ¬ free a policy t row = true := by simp [free, hreason]
      rw [if_neg hblocked]
      exact ih budget
    · rename_i hnone
      have hfree : free a policy t row = true := by simp [free, hnone]
      rw [if_pos hfree]
      split
      · exact ⟨_, List.nil_append _⟩
      · exact List.cons_prefix_cons.mpr ⟨rfl, ih _⟩

variable (a policy t) in
/-- The budget counts the rows of the plan. -/
theorem scan_sum (rows : List (PlanRow F)) (budget : ℤ) :
    (scanRows a policy t budget rows).budget =
      budget + ((scanRows a policy t budget rows).chosen.map PlanRow.rows).sum := by
  induction rows generalizing budget with
  | nil => simp [scanRows]
  | cons row rest ih =>
    unfold scanRows
    split
    · exact ih budget
    · split
      · simp
      · have hsum := ih (budget + row.rows)
        simp only [List.map_cons, List.sum_cons]
        omega

variable (a policy t) in
/-- The rows of the plan fit in its budget. -/
theorem scan_budget (rows : List (PlanRow F)) {budget : ℤ} (h : budget ≤ policy.batchRows) :
    (scanRows a policy t budget rows).budget ≤ policy.batchRows := by
  induction rows generalizing budget with
  | nil => exact h
  | cons row rest ih =>
    unfold scanRows
    split
    · exact ih h
    · split
      · exact h
      · rename_i hfits
        exact ih (not_lt.mp hfits)

/-- What the query asks of a row. -/
structure Queried (policy : StoragePolicy F) (now : F) (t : Tables F) (row : PlanRow F)
    (run : BurninRun) : Prop where
  cycle : row.cycle ∈ t.cycles
  link : row.link ∈ t.links
  same : row.link.cycleId = row.cycle.cycleId
  campaign : t.campaign row.link.campaignId = some row.campaign
  found : t.run row.link.burninRunId = some run
  selected : Selected policy now t row run

theorem joinRow_some {c : CycleRow F} {l : Link F} {row : PlanRow F} :
    joinRow policy now t c l = some row ↔ row.cycle = c ∧ row.link = l ∧
      t.campaign l.campaignId = some row.campaign ∧
        ∃ run, t.run l.burninRunId = some run ∧ Selected policy now t row run := by
  unfold joinRow
  rw [Option.bind_eq_some_iff]
  constructor
  · intro ⟨campaign, hcampaign, h⟩
    obtain ⟨run, hrun, h⟩ := Option.bind_eq_some_iff.mp h
    split at h
    · rename_i hselected
      cases Option.some.inj h
      exact ⟨rfl, rfl, hcampaign, run, hrun, hselected⟩
    · cases h
  · intro ⟨hcycle, hlink, hcampaign, run, hrun, hselected⟩
    obtain ⟨cycle, link, campaign⟩ := row
    subst hcycle hlink
    exact ⟨campaign, hcampaign, Option.bind_eq_some_iff.mpr ⟨run, hrun, if_pos hselected⟩⟩

theorem mem_candidateRows {row : PlanRow F} : row ∈ candidateRows policy now t ↔
    ∃ run, Queried policy now t row run := by
  unfold candidateRows
  rw [List.mem_flatMap]
  constructor
  · intro ⟨c, hc, hrow⟩
    obtain ⟨l, hl, hjoin⟩ := List.mem_filterMap.mp hrow
    obtain ⟨hcycle, hlink, hcampaign, run, hrun, hselected⟩ := joinRow_some.mp hjoin
    obtain ⟨hmem, hsame⟩ := List.mem_filter.mp hl
    subst hcycle hlink
    exact ⟨run, mem_sortOn.mp hc, hmem, of_decide_eq_true hsame, hcampaign, hrun, hselected⟩
  · intro ⟨run, h⟩
    exact ⟨row.cycle, mem_sortOn.mpr h.cycle, List.mem_filterMap.mpr ⟨row.link,
      List.mem_filter.mpr ⟨h.link, decide_eq_true h.same⟩,
      joinRow_some.mpr ⟨rfl, rfl, h.campaign, run, h.found, h.selected⟩⟩⟩

variable (policy now t) in
/-- The rows come in the order of their cycles. -/
theorem candidateRows_sorted : (candidateRows policy now t).Pairwise fun x y =>
    cycleMoment x.cycle ≤ cycleMoment y.cycle := by
  unfold candidateRows
  have hcycle : ∀ c : CycleRow F, ∀ row ∈ (t.linksOf c.cycleId).filterMap (joinRow policy now t c),
      row.cycle = c := by
    intro c row hrow
    obtain ⟨l, _, hjoin⟩ := List.mem_filterMap.mp hrow
    exact (joinRow_some.mp hjoin).1
  refine List.pairwise_flatMap.mpr ⟨fun c _ => ?_, ?_⟩
  · refine List.pairwise_of_forall_mem_list fun x hx y hy => ?_
    rw [hcycle c x hx, hcycle c y hy]
  · refine (pairwise_sortOn t.cycles).imp fun {c d} hle x hx y hy => ?_
    rw [hcycle c x hx, hcycle d y hy]
    exact hle

end Plan

/-! ## 2. The statistics are those of the rows -/

section Counts

/-- The counts of a rollup are those of the stored rows of a cycle. -/
structure CountsOf (t : Tables F) (id : String) (r : Rollup F) : Prop where
  candidates : r.candidateCount = (t.db.stored id).length
  eligible : r.eligibleCount = (t.db.stored id).countP fun q => q.eligibilityState = "ELIGIBLE"
  selected : r.selectedCount = (t.db.stored id).countP fun q => q.selected ≠ 0
  rejected : r.rejectedCount = (t.db.stored id).countP fun q => q.eligibilityState ≠ "ELIGIBLE"

theorem lookup_bump (counts : List (String × ℤ)) (key k : String) :
    ((bump counts key).lookup k).getD 0 =
      (counts.lookup k).getD 0 + if k = key then 1 else 0 := by
  unfold bump
  rw [lookup_assign]
  split
  · rename_i heq
    rw [heq]
    rfl
  · omega

theorem lookup_countAll (texts : List String) (k : String) :
    ((countAll texts).lookup k).getD 0 = (texts.count k : ℤ) := by
  have hfold : ∀ counts : List (String × ℤ),
      ((texts.foldl bump counts).lookup k).getD 0 = (counts.lookup k).getD 0 + texts.count k := by
    induction texts with
    | nil =>
      intro counts
      simp
    | cons x rest ih =>
      intro counts
      rw [List.foldl_cons, ih, lookup_bump, List.count_cons]
      by_cases hx : k = x
      · subst hx
        simp
        omega
      · have hne : (x == k) = false := beq_eq_false_iff_ne.mpr fun heq => hx heq.symm
        simp [hx, hne]
  rw [countAll, hfold]
  simp

theorem eligibleOf_eq (states : List String) : eligibleOf states = (states.count "ELIGIBLE" : ℤ) :=
  lookup_countAll states "ELIGIBLE"

/-- What equals a truth value has its truth. -/
theorem truthy_of_same {v : Value F} {b : Bool} (h : v.normal = (Value.bool b : Value F).normal) :
    v.truthy = b := by
  have hzero : ((0 : ℚ) : WithTop ℚ) ≠ ((1 : ℚ) : WithTop ℚ) := by
    rw [Ne, WithTop.coe_inj]
    norm_num
  cases v with
  | none => cases b <;> simp [Value.normal, Value.reshape, denoted] at h
  | bool c => cases b <;> cases c <;> simp_all [Value.normal, Value.reshape, denoted, Value.truthy]
  | int n =>
    cases b <;> simp [Value.normal, Value.reshape, denoted, Value.truthy] at h ⊢
    · exact_mod_cast h
    · have hone : (n : ℚ) = 1 := by exact_mod_cast h
      have : n = 1 := by exact_mod_cast hone
      omega
  | float x =>
    have hvalue : FloatNum.value x =
        some (((if b then 1 else 0 : ℚ) : WithTop ℚ) : ExtRat) := by
      simpa [Value.normal, Value.reshape, denoted] using h
    show (!FloatNum.feq x (FloatNum.ofInt 0)) = b
    cases b with
    | false =>
      rw [(FloatNum.feq_iff x (FloatNum.ofInt 0)).mpr ⟨_, hvalue, FloatNum.value_zero⟩]
      rfl
    | true =>
      have hne : FloatNum.feq x (FloatNum.ofInt 0) ≠ true := by
        intro heq
        obtain ⟨y, hy, hy'⟩ := (FloatNum.feq_iff x (FloatNum.ofInt 0)).mp heq
        rw [FloatNum.value_zero] at hy'
        rw [hvalue, ← hy'] at hy
        simp at hy
      rw [Bool.eq_false_iff.mpr hne]
      rfl
  | text s => cases b <;> simp [Value.normal, Value.reshape, denoted] at h
  | list items => cases b <;> simp [Value.normal, Value.reshape, denoted] at h
  | mapping entries => cases b <;> simp [Value.normal, Value.reshape, denoted] at h

/-- A dictionary that equals the one read from a row. -/
def Mirrors (q : CandidateRow F) (c : Payload F) : Prop :=
  ∃ g, IsRead q g ∧ (Value.mapping c).normal = (Value.mapping g).normal

theorem lookup_mirrors {c g : Payload F}
    (h : (Value.mapping c).normal = (Value.mapping g).normal) (key : String) :
    (c.lookup key).map Value.normal = (g.lookup key).map Value.normal := by
  have hentries : reshapeEntries denoted c = reshapeEntries denoted g := by
    rw [Value.normal, Value.normal, reshape_mapping, reshape_mapping] at h
    exact Value.mapping.inj h
  have hlookup := congrArg (fun entries => entries.lookup key) hentries
  simp only [lookup_reshape] at hlookup
  exact hlookup

theorem stateText_mirrors {q : CandidateRow F} {c : Payload F} (h : Mirrors q c) :
    stateText a c = .ok q.eligibilityState := by
  obtain ⟨g, ⟨reasons, observed, components, availability, rfl⟩, hsame⟩ := h
  have hlookup := lookup_mirrors hsame "state"
  have hrow : ((candidateDict q reasons observed components availability).lookup "state").map
      Value.normal = some (Value.text q.eligibilityState : Value F).normal := by
    simp [candidateDict, List.lookup_cons]
  rw [hrow] at hlookup
  obtain ⟨v, hv, hnormal⟩ := Option.map_eq_some_iff.mp hlookup
  unfold stateText item
  rw [hv, normal_eq_text (hnormal.trans (reshape_text _))]
  rfl

theorem truthy_mirrors {q : CandidateRow F} {c : Payload F} (h : Mirrors q c) :
    (c.get "selected").truthy = decide (q.selected ≠ 0) := by
  obtain ⟨g, ⟨reasons, observed, components, availability, rfl⟩, hsame⟩ := h
  have hlookup := lookup_mirrors hsame "selected"
  have hrow : ((candidateDict q reasons observed components availability).lookup "selected").map
      Value.normal = some (Value.bool (decide (q.selected ≠ 0)) : Value F).normal := by
    simp [candidateDict, List.lookup_cons]
  rw [hrow] at hlookup
  obtain ⟨v, hv, hnormal⟩ := Option.map_eq_some_iff.mp hlookup
  rw [get_of_lookup hv]
  exact truthy_of_same hnormal

omit [FloatNum F] in
theorem dictionaries_ok {v : Value F} {cs : List (Payload F)} (h : dictionaries v = .ok cs) :
    v = .list (cs.map .mapping) := by
  cases v with
  | list items =>
    refine congrArg Value.list ?_
    replace h : items.mapM dictionary = .ok cs := h
    induction items generalizing cs with
    | nil =>
      cases Except.ok.inj h
      rfl
    | cons x rest ih =>
      rw [List.mapM_cons] at h
      obtain ⟨c, hc, h⟩ := ok_of_bind h
      obtain ⟨others, hothers, h⟩ := ok_of_bind h
      cases Except.ok.inj h
      rw [List.map_cons, ih hothers]
      unfold dictionary at hc
      split at hc
      · rw [Except.ok.inj hc]
      · cases hc
  | _ => cases h

/-- The candidates of a payload that is read mirror the rows. -/
theorem mirrors_of_reads {db : Db F} {id : String} {g : Reading F} {payload : Payload F}
    {candidates : List (Payload F)} (hg : Reads a db id g payload)
    (h : (item payload "candidates") >>= dictionaries = .ok candidates) :
    List.Forall₂ Mirrors (db.stored id) candidates := by
  obtain ⟨v, hv, hdict⟩ := ok_of_bind h
  have hlookup : payload.lookup "candidates" = some v := by
    unfold item at hv
    split at hv
    · rename_i w hw
      rw [hw, Except.ok.inj hv]
    · cases hv
  have hnormal := lookup_candidates hg
  rw [hlookup, dictionaries_ok hdict] at hnormal
  have hitems := Option.some.inj hnormal
  rw [Value.normal, Value.normal, reshape_list, reshape_list, reshapeItems_eq_map,
    reshapeItems_eq_map, List.map_map, List.map_map] at hitems
  have heq := Value.list.inj hitems
  have hrows := readCandidates_rows hg.candidates
  clear hg h hv hdict hlookup hnormal hitems
  generalize db.stored id = rows at hrows ⊢
  generalize g.candidates = gs at hrows heq
  induction hrows generalizing candidates with
  | nil =>
    have hnil : candidates = [] := List.map_eq_nil_iff.mp heq
    rw [hnil]
    exact List.Forall₂.nil
  | cons hrow _ ih =>
    cases candidates with
    | nil => cases heq
    | cons c rest =>
      obtain ⟨hfirst, hrest⟩ := List.cons.inj heq
      exact List.Forall₂.cons ⟨_, hrow, hfirst⟩ (ih hrest)

/-- **The counts of a rollup are those of the rows that it stands for.** -/
theorem counts_rollsUp {t : Tables F} {row : PlanRow F} {r : Rollup F} {payload : Payload F}
    {candidates : List (Payload F)} {states : List String}
    (h : RollsUp a t row r payload candidates states) : CountsOf t row.cycle.cycleId r := by
  obtain ⟨g, hg⟩ := load_ok_iff.mp h.loaded
  have hmirrors := mirrors_of_reads hg h.read
  have hstates : states = (t.db.stored row.cycle.cycleId).map CandidateRow.eligibilityState := by
    have htexts := h.texts
    clear h hg
    generalize t.db.stored row.cycle.cycleId = rows at hmirrors ⊢
    induction hmirrors generalizing states with
    | nil => exact (Except.ok.inj htexts).symm
    | cons hrow _ ih =>
      rw [List.mapM_cons, stateText_mirrors hrow, ok_bind] at htexts
      obtain ⟨others, hothers, htexts⟩ := ok_of_bind htexts
      rw [← Except.ok.inj htexts, List.map_cons, ih hothers]
  have hselected : (candidates.countP fun c => (c.get "selected").truthy) =
      (t.db.stored row.cycle.cycleId).countP fun q => q.selected ≠ 0 := by
    clear h hg hstates
    generalize t.db.stored row.cycle.cycleId = rows at hmirrors ⊢
    induction hmirrors with
    | nil => rfl
    | cons hrow _ ih => rw [List.countP_cons, List.countP_cons, ih, truthy_mirrors hrow]
  have hlength : candidates.length = (t.db.stored row.cycle.cycleId).length :=
    hmirrors.length_eq.symm
  have heligible : r.eligibleCount =
      (t.db.stored row.cycle.cycleId).countP fun q => q.eligibilityState = "ELIGIBLE" := by
    rw [h.eligibleCount, eligibleOf_eq, hstates, List.count, List.countP_map]
    congr 1
  have hcandidates : r.candidateCount = (t.db.stored row.cycle.cycleId).length := by
    rw [h.candidateCount, hlength]
  refine ⟨hcandidates, heligible, ?_, ?_⟩
  · rw [h.selectedCount, hselected]
  · rw [h.rejectedCount, heligible, hcandidates]
    have hsplit := List.length_eq_countP_add_countP
      (fun q : CandidateRow F => decide (q.eligibilityState = "ELIGIBLE"))
      (l := t.db.stored row.cycle.cycleId)
    simp only [decide_eq_true_eq] at hsplit
    simp only [ne_eq]
    omega

/-- The hash of a rollup is the one of the stored cycle. -/
theorem evidenceHash_rollsUp {t : Tables F} {row : PlanRow F} {r : Rollup F} {payload : Payload F}
    {candidates : List (Payload F)} {states : List String} {c : CycleRow F}
    (h : RollsUp a t row r payload candidates states) (hc : t.db.cycle row.cycle.cycleId = some c) :
    r.evidenceHash = c.evidenceHash := by
  obtain ⟨g, hg⟩ := load_ok_iff.mp h.loaded
  have hrow : g.row = c := Option.some.inj (hg.row.symm.trans hc)
  have hexpected := hg.expected ("evidence_hash", .text g.row.evidenceHash) (by simp [expectedOf])
  have htext : payload.get "evidence_hash" = .text g.row.evidenceHash :=
    normal_eq_text (hexpected.trans (reshape_text _))
  obtain ⟨v, hv, htextColumn⟩ := ok_of_bind h.evidenceHash
  have hlookup : payload.lookup "evidence_hash" = some v := by
    unfold item at hv
    split at hv
    · rename_i w hw
      rw [hw, Except.ok.inj hv]
    · cases hv
  rw [get_of_lookup hlookup] at htext
  subst htext
  rw [← Except.ok.inj htextColumn, hrow]

end Counts

/-! ## 3. What a batch leaves -/

section Batch

/-- The ids of the cycles of a plan. -/
def idsOf (plan : List (PlanRow F)) : List String := plan.map fun row => row.cycle.cycleId

/-- A rollup stands for the cycle of a row, whose evidence was read and verified. -/
structure StandsFor (a : Archive F B) (t : Tables F) (row : PlanRow F) (r : Rollup F) : Prop where
  cycleId : r.cycleId = row.cycle.cycleId
  campaignId : r.campaignId = row.link.campaignId
  burninRunId : r.burninRunId = row.link.burninRunId
  decisionTimestamp : r.decisionTimestamp = row.cycle.decisionTimestamp
  evidenceHash : r.evidenceHash = row.cycle.evidenceHash
  found : t.db.cycle row.cycle.cycleId = some row.cycle
  loaded : ∃ payload, load a t.db row.cycle.cycleId = .ok payload
  counts : CountsOf t row.cycle.cycleId r

/-- The tables without the evidence of a plan, and with its rollups. -/
structure Batched (a : Archive F B) (t : Tables F) (plan : List (PlanRow F)) (t' : Tables F)
    (rs : List (Rollup F)) :
    Prop where
  cycles : t'.cycles = t.cycles.filter fun c => c.cycleId ∉ idsOf plan
  candidates : t'.candidates = t.candidates.filter fun q => q.cycleId ∉ idsOf plan
  links : t'.links = t.links.filter fun l => l.cycleId ∉ idsOf plan
  rollups : t'.rollups = t.rollups ++ rs
  others : t' = { t with
    cycles := t'.cycles
    candidates := t'.candidates
    links := t'.links
    rollups := t'.rollups
    checkpoints := t'.checkpoints
    authorizations := t'.authorizations }
  stands : List.Forall₂ (StandsFor a t) plan rs
  fresh : ∀ row ∈ plan, ∀ q ∈ t.rollups, q.cycleId ≠ row.cycle.cycleId
  distinct : (idsOf plan).Nodup

variable {t t' : Tables F} {id : String}

omit [FloatNum F] in
theorem filter_without {β : Type} (name : β → String) {x : String} (hne : id ≠ x) (rows : List β) :
    ((rows.filter fun b => name b ≠ x).filter fun b => name b = id) =
      rows.filter fun b => name b = id := by
  rw [List.filter_filter]
  refine List.filter_congr fun b _ => ?_
  by_cases hb : name b = id
  · simp [hb, hne]
  · simp [hb]

omit [FloatNum F] in
theorem find_eq_head {β : Type} (p : β → Bool) (rows : List β) :
    rows.find? p = (rows.filter p).head? := by
  rw [List.head?_filter]

omit [FloatNum F] in
/-- What one row and then the others take. -/
theorem filter_ids {β : Type} (name : β → String) (row : PlanRow F) (rest : List (PlanRow F))
    (rows : List β) :
    ((rows.filter fun b => name b ≠ row.cycle.cycleId).filter fun b => name b ∉ idsOf rest) =
      rows.filter fun b => name b ∉ idsOf (row :: rest) := by
  rw [List.filter_filter]
  refine List.filter_congr fun b _ => ?_
  have hids : idsOf (row :: rest) = row.cycle.cycleId :: idsOf rest := rfl
  by_cases hb : name b = row.cycle.cycleId
  · simp [hb, hids]
  · simp [hb, hids]

omit [FloatNum F] in
/-- The evidence of another cycle is left alone. -/
theorem without_untouched {x : String} (hne : id ≠ x) (t : Tables F) :
    Untouched id t.db (t.without x).db := by
  constructor
  · unfold Db.cycle
    rw [find_eq_head, find_eq_head]
    exact congrArg List.head? (filter_without (fun c : CycleRow F => c.cycleId) hne t.cycles)
  · unfold Db.stored
    exact congrArg (sortOn CandidateRow.candidateIndex)
      (filter_without (fun q : CandidateRow F => q.cycleId) hne t.candidates)

omit [FloatNum F] in
theorem counts_untouched {r : Rollup F} (h : Untouched id t.db t'.db) (hr : CountsOf t' id r) :
    CountsOf t id r := by
  have heq := h.2
  refine ⟨?_, ?_, ?_, ?_⟩
  · rw [hr.candidates, heq]
  · rw [hr.eligible, heq]
  · rw [hr.selected, heq]
  · rw [hr.rejected, heq]

omit [FloatNum F] in
/-- The only cycle with an id is the one that is found. -/
theorem cycle_of_unique {c : CycleRow F} (hc : c ∈ t.cycles) (hid : c.cycleId = id)
    (hone : (t.cycles.filter fun q => q.cycleId = id).length = 1) : t.db.cycle id = some c := by
  obtain ⟨q, hq⟩ := List.length_eq_one_iff.mp hone
  have hmem : c ∈ t.cycles.filter fun q => q.cycleId = id :=
    List.mem_filter.mpr ⟨hc, decide_eq_true hid⟩
  rw [hq, List.mem_singleton] at hmem
  show t.cycles.find? _ = some c
  rw [find_eq_head, hq, hmem]
  rfl

/-- **What the loop over a plan leaves.** -/
theorem compactRows_batched {k : Compaction F} {late : ℕ → Bool} {i : ℕ} {validated : List String}
    {plan : List (PlanRow F)} {deleted : ℕ}
    (h : compactRows a k late i validated plan t = .ok (t', deleted))
    (hmem : ∀ row ∈ plan, row.cycle ∈ t.cycles ∨
      ∃ q ∈ t.rollups, q.cycleId = row.cycle.cycleId) :
    ∃ rs, Batched a t plan t' rs ∧ (deleted : ℤ) = (plan.map PlanRow.rows).sum := by
  induction plan generalizing t i validated deleted with
  | nil =>
    cases Except.ok.inj h
    refine ⟨[], ⟨?_, ?_, ?_, ?_, rfl, List.Forall₂.nil, List.forall_mem_nil _, List.nodup_nil⟩, rfl⟩
    · simp [idsOf]
    · simp [idsOf]
    · simp [idsOf]
    · simp
  | cons row rest ih =>
    obtain ⟨⟨t₁, first⟩, hrow, h⟩ := ok_of_bind h
    obtain ⟨⟨t₂, others⟩, hrest, h⟩ := ok_of_bind h
    cases Except.ok.inj h
    obtain ⟨_, r, c, payload, candidates, states, hr, hw⟩ := compactRow_ok hrow
    obtain ⟨hown, hlater⟩ := List.forall_mem_cons.mp hmem
    have hcycle : row.cycle ∈ t.cycles := by
      rcases hown with hcycle | ⟨q, hq, hid⟩
      · exact hcycle
      · exact absurd hid (hw.fresh q hq)
    have hfound : t.db.cycle row.cycle.cycleId = some row.cycle :=
      cycle_of_unique hcycle rfl hw.cycle
    have hcycles₁ : t₁.cycles = t.cycles.filter fun q => q.cycleId ≠ row.cycle.cycleId := by
      rw [hw.tables]
      rfl
    have hcandidates₁ : t₁.candidates =
        t.candidates.filter fun q => q.cycleId ≠ row.cycle.cycleId := by
      rw [hw.tables]
      rfl
    have hlinks₁ : t₁.links = t.links.filter fun q => q.cycleId ≠ row.cycle.cycleId := by
      rw [hw.tables]
      rfl
    have hrollups₁ : t₁.rollups = t.rollups ++ [r] := by rw [hw.tables]
    have hr₁ : r ∈ t₁.rollups := by
      rw [hrollups₁]
      exact List.mem_append_right _ List.mem_cons_self
    have hlater₁ : ∀ row' ∈ rest, row'.cycle ∈ t₁.cycles ∨
        ∃ q ∈ t₁.rollups, q.cycleId = row'.cycle.cycleId := by
      intro row' hrow'
      by_cases hsame : row'.cycle.cycleId = row.cycle.cycleId
      · exact Or.inr ⟨r, hr₁, hr.cycleId.trans hsame.symm⟩
      · rcases hlater row' hrow' with hin | ⟨q, hq, hid⟩
        · refine Or.inl ?_
          rw [hcycles₁]
          exact List.mem_filter.mpr ⟨hin, decide_eq_true hsame⟩
        · refine Or.inr ⟨q, ?_, hid⟩
          rw [hrollups₁]
          exact List.mem_append_left _ hq
    obtain ⟨rs, hrs, hothers⟩ := ih hrest hlater₁
    have hne : ∀ row' ∈ rest, row'.cycle.cycleId ≠ row.cycle.cycleId := by
      intro row' hrow' heq
      exact hrs.fresh row' hrow' r hr₁ (hr.cycleId.trans heq.symm)
    have hmove : ∀ row' ∈ rest, Untouched row'.cycle.cycleId t.db t₁.db := by
      intro row' hrow'
      have hwithout := without_untouched (hne row' hrow') t
      rw [hw.tables]
      exact hwithout
    have hcount : r.candidateCount = row.cycle.candidateCount := by
      obtain ⟨g, hg⟩ := load_ok_iff.mp hr.loaded
      have hrow : g.row = row.cycle := Option.some.inj (hg.row.symm.trans hfound)
      rw [(counts_rollsUp hr).candidates, hg.count, hrow]
    refine ⟨r :: rs, ⟨?_, ?_, ?_, ?_, ?_, ?_, ?_, ?_⟩, ?_⟩
    · rw [hrs.cycles, hcycles₁]
      exact filter_ids _ row rest _
    · rw [hrs.candidates, hcandidates₁]
      exact filter_ids _ row rest _
    · rw [hrs.links, hlinks₁]
      exact filter_ids _ row rest _
    · rw [hrs.rollups, hrollups₁, List.append_assoc]
      rfl
    · rw [hrs.others, hw.tables]
      rfl
    · refine List.Forall₂.cons ⟨hr.cycleId, hr.campaignId, hr.burninRunId, hr.decisionTimestamp,
        evidenceHash_rollsUp hr hfound, hfound, ⟨payload, hr.loaded⟩, counts_rollsUp hr⟩ ?_
      refine List.forall₂_iff_zip.mpr ⟨hrs.stands.length_eq, fun {row' r'} hzip => ?_⟩
      have hstands := (List.forall₂_iff_zip.mp hrs.stands).2 hzip
      have huntouched := hmove row' (List.of_mem_zip hzip).1
      have hfound' : t.db.cycle row'.cycle.cycleId = some row'.cycle :=
        huntouched.1.symm.trans hstands.found
      have hsome : (t.db.cycle row'.cycle.cycleId).isSome = true := by
        rw [hfound']
        rfl
      obtain ⟨payload', hload'⟩ := hstands.loaded
      exact ⟨hstands.cycleId, hstands.campaignId, hstands.burninRunId, hstands.decisionTimestamp,
        hstands.evidenceHash, hfound', ⟨payload',
          (load_untouched huntouched hsome).symm.trans hload'⟩,
        counts_untouched huntouched hstands.counts⟩
    · refine List.forall_mem_cons.mpr ⟨hw.fresh, fun row' hrow' q hq => ?_⟩
      refine hrs.fresh row' hrow' q ?_
      rw [hrollups₁]
      exact List.mem_append_left _ hq
    · refine List.nodup_cons.mpr ⟨fun hin => ?_, hrs.distinct⟩
      obtain ⟨row', hrow', hid⟩ := List.mem_map.mp hin
      exact hne row' hrow' hid
    · have hdeleted := hw.deleted
      rw [List.map_cons, List.sum_cons]
      show ((first + others : ℕ) : ℤ) = row.cycle.candidateCount + 2 + _
      push_cast
      omega

end Batch

/-! ## 4. What a batch takes was safe to lose -/

section Safety

variable {policy : StoragePolicy F} {now : F} {t : Tables F} {row : PlanRow F}

theorem order_le {x y : F} (h : x ≤ y) : order x ≤ order y := by
  obtain ⟨u, v, hu, hv, huv⟩ := (FloatNum.le_iff x y).mp h
  unfold order
  rw [hu, hv]
  exact WithBot.coe_le_coe.mpr huv

theorem le_of_order {x y : F} (hx : IsNumber x) (h : order x ≤ order y) : x ≤ y := by
  obtain ⟨u, hu⟩ := isNumber_iff.mp hx
  unfold order at h
  rw [hu] at h
  cases hv : FloatNum.value y with
  | none =>
    rw [hv] at h
    exact absurd h (not_le.mpr (WithBot.bot_lt_coe u))
  | some v =>
    rw [hv] at h
    exact (FloatNum.le_iff x y).mpr ⟨u, v, hu, hv, WithBot.coe_le_coe.mp h⟩

theorem le_chain {x y z : F} (hxy : x ≤ y) (hyz : y ≤ z) : x ≤ z :=
  le_of_order (isNumber_of_le hxy).1 ((order_le hxy).trans (order_le hyz))

theorem foldl_pyMin {rest : List F} {x : F} (hx : IsNumber x) (hrest : ∀ y ∈ rest, IsNumber y) :
    rest.foldl pyMin x ≤ x ∧ ∀ y ∈ rest, rest.foldl pyMin x ≤ y := by
  induction rest generalizing x with
  | nil => exact ⟨FloatNum.le_refl hx, List.forall_mem_nil _⟩
  | cons y rest ih =>
    obtain ⟨hy, hlater⟩ := List.forall_mem_cons.mp hrest
    rw [List.foldl_cons]
    unfold pyMin
    split
    · rename_i hlt
      obtain ⟨hle, hall⟩ := ih hy hlater
      exact ⟨le_chain hle (FloatNum.le_of_lt hlt), List.forall_mem_cons.mpr ⟨hle, hall⟩⟩
    · rename_i hlt
      obtain ⟨hle, hall⟩ := ih hx hlater
      exact ⟨hle, List.forall_mem_cons.mpr
        ⟨le_chain hle (FloatNum.le_of_not_lt hy hx hlt), hall⟩⟩

/-- A time that is not protected lies before everything that is unresolved. -/
theorem windowProtected_false {times : List F} {decided : F} (hnum : ∀ x ∈ times, IsNumber x)
    (hdecided : IsNumber decided) :
    windowProtected times decided = false ↔ ∀ x ∈ times, decided < x := by
  unfold windowProtected minOf
  cases times with
  | nil => simp
  | cons x rest =>
    obtain ⟨hx, hrest⟩ := List.forall_mem_cons.mp hnum
    obtain ⟨hle, hall⟩ := foldl_pyMin hx hrest
    simp only [decide_eq_false_iff_not]
    constructor
    · intro h
      have hlt := FloatNum.lt_of_not_le (isNumber_of_le hle).1 hdecided h
      exact List.forall_mem_cons.mpr ⟨FloatNum.lt_of_lt_of_le hlt hle,
        fun y hy => FloatNum.lt_of_lt_of_le hlt (hall y hy)⟩
    · intro h hprotected
      have hmem : rest.foldl pyMin x ∈ x :: rest := by
        clear hle hall hprotected h hnum hrest hx
        induction rest generalizing x with
        | nil => exact List.mem_cons_self
        | cons y rest ih =>
          have hcases : pyMin x y = y ∨ pyMin x y = x := by
            unfold pyMin
            split
            · exact Or.inl rfl
            · exact Or.inr rfl
          rw [List.foldl_cons]
          rcases hcases with heq | heq
          · rw [heq]
            exact List.mem_cons_of_mem _ (ih y)
          · rw [heq]
            rcases List.mem_cons.mp (ih x) with heq | hin
            · rw [heq]
              exact List.mem_cons_self
            · exact List.mem_cons_of_mem _ (List.mem_cons_of_mem _ hin)
      exact FloatNum.not_le_of_lt (h _ hmem) hprotected

/-- The campaign is bound to the policy, and nothing qualifies it. -/
structure Bound (policy : StoragePolicy F) (t : Tables F) (c : Campaign F) : Prop where
  provenance : ∃ entries, c.sourceProvenance = some entries ∧
    (entries.get "storage_retention_mode").Same (.text "PAPER_STATS_ONLY") ∧
    (entries.get "storage_policy_hash").Same (.text policy.identityHash)
  latest : present c.latestQualificationId = false
  status : present c.qualificationStatus = false
  snapshots : ∀ run ∈ t.qualifiedRuns, ¬ t.hasRun c.campaignId run

theorem campaignBlock_none {c : Campaign F} :
    campaignBlock policy t c = none ↔ Bound policy t c := by
  unfold campaignBlock
  constructor
  · intro h
    split at h
    · cases h
    · rename_i entries hentries
      split at h
      · cases h
      · rename_i hbound
        split at h
        · cases h
        · rename_i hpresent
          split at h
          · cases h
          · rename_i hruns
            simp only [not_or, not_not] at hbound
            simp only [not_or, Bool.not_eq_true] at hpresent
            exact ⟨⟨entries, hentries, hbound⟩, hpresent.1, hpresent.2,
              fun run hrun hin => hruns ⟨run, hrun, hin⟩⟩
  · intro h
    obtain ⟨entries, hentries, hmode, hhash⟩ := h.provenance
    have hruns : ¬ ∃ run ∈ t.qualifiedRuns, t.hasRun c.campaignId run :=
      fun ⟨run, hrun, hin⟩ => h.snapshots run hrun hin
    rw [hentries]
    simp only
    rw [if_neg, if_neg, if_neg hruns]
    · simp [h.latest, h.status]
    · simp [hmode, hhash]

/-- The cycle has one link, and is what its campaign says. -/
structure Own (t : Tables F) (row : PlanRow F) : Prop where
  links : (t.linksOf row.cycle.cycleId).length = 1
  time : FloatNum.feq row.cycle.decisionTimestamp row.link.decisionTimestamp = true
  gitSha : row.cycle.gitSha = row.campaign.gitCommit
  strategy : row.cycle.strategyConfigHash = some row.campaign.strategyConfigHash

theorem cycleBlock_none : cycleBlock t row = none ↔ Own t row := by
  unfold cycleBlock
  constructor
  · intro h
    split at h
    · cases h
    · rename_i hlinks
      split at h
      · cases h
      · rename_i htime
        split at h
        · cases h
        · rename_i hsha
          split at h
          · cases h
          · rename_i hstrategy
            exact ⟨not_not.mp hlinks, Bool.not_eq_false _ ▸ htime, not_not.mp hsha,
              not_not.mp hstrategy⟩
  · intro h
    rw [if_neg (not_not.mpr h.links), if_neg (by rw [h.time]; exact Bool.noConfusion),
      if_neg (not_not.mpr h.gitSha), if_neg (not_not.mpr h.strategy)]

theorem stateBlock_none : stateBlock a t row = none ↔
    runtimeResolved t row.campaign.campaignId = true ∧
      ∃ times, unresolvedTimes a t row.campaign.campaignId row.link.burninRunId = .ok times ∧
        windowProtected times row.cycle.decisionTimestamp = false := by
  unfold stateBlock
  constructor
  · intro h
    split at h
    · cases h
    · rename_i hresolved
      refine ⟨Bool.not_eq_false _ ▸ hresolved, ?_⟩
      split at h
      · cases h
      · rename_i times htimes
        split at h
        · cases h
        · rename_i hwindow
          exact ⟨times, htimes, Bool.eq_false_iff.mpr hwindow⟩
  · intro ⟨hresolved, times, htimes, hwindow⟩
    rw [if_neg (by rw [hresolved]; exact Bool.noConfusion), htimes]
    simp [hwindow]

theorem free_iff : free a policy t row = true ↔
    Bound policy t row.campaign ∧ Own t row ∧ stateBlock a t row = none ∧
      row.rows ≤ policy.batchRows := by
  unfold free blockedReason
  rw [Option.isNone_iff_eq_none, Option.or_eq_none_iff, Option.or_eq_none_iff,
    Option.or_eq_none_iff, campaignBlock_none, cycleBlock_none]
  refine and_congr_right fun _ => and_congr_right fun _ => and_congr_right fun _ => ?_
  split
  · rename_i hlt
    exact iff_of_false (fun h => by cases h) (not_le.mpr hlt)
  · rename_i hlt
    exact iff_of_true rfl (not_lt.mp hlt)

/-- Every element has its result. -/
theorem ok_of_mapM {α β : Type} {f : α → Except PyError β} {xs : List α} {ys : List β}
    (h : xs.mapM f = .ok ys) : ∀ x ∈ xs, ∃ y ∈ ys, f x = .ok y := by
  have hall := mapM_ok_iff.mp h
  clear h
  induction hall with
  | nil => exact List.forall_mem_nil _
  | cons hx _ ih =>
    refine List.forall_mem_cons.mpr ⟨⟨_, List.mem_cons_self, hx⟩, fun z hz => ?_⟩
    obtain ⟨w, hw, heq⟩ := ih z hz
    exact ⟨w, List.mem_cons_of_mem _ hw, heq⟩

/-- What is asked of a cycle before its evidence may go. -/
structure Safe (a : Archive F B) (policy : StoragePolicy F) (now : F) (t : Tables F)
    (row : PlanRow F) : Prop where
  paper : row.cycle.executionMode = "PAPER"
  old : row.cycle.decisionTimestamp < now - policy.statsOnlyMinAgeSec
  newer : policy.statsOnlyRecentCycles ≤ (t.newerLinks row.link).length
  link : t.linksOf row.cycle.cycleId = [row.link]
  campaign : t.campaign row.link.campaignId = some row.campaign
  bound : Bound policy t row.campaign
  own : Own t row
  resolved : runtimeResolved t row.campaign.campaignId = true
  unresolved : ∀ text ∈ unresolvedTexts t row.campaign.campaignId row.link.burninRunId,
    ∃ x, timestamp a text = .ok x ∧ row.cycle.decisionTimestamp < x

theorem planned_eq {scan : Scan F} (h : planStatsOnlyUniverse a policy now t = .planned scan) :
    scan = scanRows a policy t 0 (candidateRows policy now t) := by
  unfold planStatsOnlyUniverse at h
  split at h
  · cases h
  · split at h
    · cases h
    · split at h
      · cases h
      · split at h
        · cases h
        · exact (Plan.planned.inj h).symm

/-- The rows of a plan are rows of the query. -/
theorem chosen_queried {scan : Scan F} (h : planStatsOnlyUniverse a policy now t = .planned scan)
    (hrow : row ∈ scan.chosen) : ∃ run, Queried policy now t row run := by
  rw [planned_eq h] at hrow
  exact mem_candidateRows.mp (List.mem_of_mem_filter ((chosen_front _ _ _ _ 0).subset hrow))

/-- A batch that raises changes nothing. -/
theorem batch_error {k : Compaction F} {late : ℕ → Bool} {t' : Tables F} {e : PyError}
    (h : compactStatsOnlyUniverseBatch a k now late t = (t', .error e)) : t' = t := by
  unfold compactStatsOnlyUniverseBatch at h
  split at h
  · cases h
  · exact (Prod.mk.inj h).1.symm

/-- What a batch that commits has done. -/
theorem batch_ok {k : Compaction F} {late : ℕ → Bool} {t' : Tables F} {report : BatchReport}
    (h : compactStatsOnlyUniverseBatch a k now late t = (t', .ok report)) :
    ∃ scan rs, planStatsOnlyUniverse a k.policy now t = .planned scan ∧
      Batched a t scan.chosen t' rs ∧ (report.rowsRemoved : ℤ) = scan.budget ∧
      report.cyclesCompacted = scan.chosen.length := by
  unfold compactStatsOnlyUniverseBatch at h
  cases hop : operation a k now late t with
  | error e =>
    rw [hop] at h
    cases h
  | ok result =>
    obtain ⟨t₁, report₁⟩ := result
    rw [hop] at h
    cases h
    unfold operation at hop
    split at hop
    · cases hop
    · rename_i scan hscan
      obtain ⟨⟨t₂, deleted⟩, hrows, hop⟩ := ok_of_bind hop
      cases Except.ok.inj hop
      have hmem : ∀ row ∈ scan.chosen, row.cycle ∈ t.cycles ∨
          ∃ q ∈ t.rollups, q.cycleId = row.cycle.cycleId := by
        intro row hrow
        obtain ⟨run, hq⟩ := chosen_queried hscan hrow
        exact Or.inl hq.cycle
      obtain ⟨rs, hbatched, hdeleted⟩ := compactRows_batched hrows hmem
      refine ⟨scan, rs, hscan, hbatched, ?_, rfl⟩
      have hsum := scan_sum a k.policy t (candidateRows k.policy now t) 0
      rw [← planned_eq hscan] at hsum
      show (deleted : ℤ) = scan.budget
      omega

/-- A batch leaves the tables as they are, or takes a plan. -/
theorem batch_leaves (k : Compaction F) (now : F) (late : ℕ → Bool) (t : Tables F) :
    (compactStatsOnlyUniverseBatch a k now late t).1 = t ∨
      ∃ scan rs, planStatsOnlyUniverse a k.policy now t = .planned scan ∧
        Batched a t scan.chosen (compactStatsOnlyUniverseBatch a k now late t).1 rs := by
  cases hop : compactStatsOnlyUniverseBatch a k now late t with
  | mk t₁ result =>
    cases result with
    | error e => exact Or.inl (batch_error hop)
    | ok report =>
      obtain ⟨scan, rs, hscan, hbatched, _⟩ := batch_ok hop
      exact Or.inr ⟨scan, rs, hscan, hbatched⟩

/-- A chosen cycle has one link, the one of its row. -/
theorem chosen_link {scan : Scan F} (hplan : planStatsOnlyUniverse a policy now t = .planned scan)
    (hrow : row ∈ scan.chosen) : t.linksOf row.cycle.cycleId = [row.link] := by
  obtain ⟨run, hq⟩ := chosen_queried hplan hrow
  rw [planned_eq hplan] at hrow
  have hfree := (List.mem_filter.mp ((chosen_front _ _ _ _ 0).subset hrow)).2
  obtain ⟨_, hown, _⟩ := free_iff.mp hfree
  obtain ⟨l, hl⟩ := List.length_eq_one_iff.mp hown.links
  have hin : row.link ∈ t.linksOf row.cycle.cycleId :=
    List.mem_filter.mpr ⟨hq.link, decide_eq_true hq.same⟩
  rw [hl, List.mem_singleton] at hin
  rw [hl, hin]

variable (hiso : ∀ text x, a.isoTimestamp text = some x → IsNumber x)
  (hnum : ∀ c ∈ t.cycles, IsNumber c.decisionTimestamp)

include hiso hnum

/-- **A chosen cycle is safe to lose.** -/
theorem chosen_safe {scan : Scan F} (hplan : planStatsOnlyUniverse a policy now t = .planned scan) :
    ∀ row ∈ scan.chosen, Safe a policy now t row := by
  intro row hrow
  have hlink := chosen_link hplan hrow
  have hscan := planned_eq hplan
  rw [hscan] at hrow
  obtain ⟨hmem, hfree⟩ := List.mem_filter.mp ((chosen_front _ _ _ _ 0).subset hrow)
  obtain ⟨run, hq⟩ := mem_candidateRows.mp hmem
  obtain ⟨hbound, hown, hstate, _⟩ := free_iff.mp hfree
  obtain ⟨hresolved, times, htimes, hwindow⟩ := stateBlock_none.mp hstate
  obtain ⟨hpaper, _, _, _, _, hold, hnewer, _⟩ := hq.selected
  have htimesNum : ∀ x ∈ times, IsNumber x := by
    intro x hx
    obtain ⟨text, _, htext⟩ := mem_mapM htimes hx
    unfold timestamp at htext
    split at htext
    · rename_i y hy
      rw [← Except.ok.inj htext]
      exact hiso _ y hy
    · cases htext
  refine ⟨hpaper, hold, hnewer, hlink, hq.campaign, hbound, hown, hresolved, fun text htext => ?_⟩
  obtain ⟨x, hx, heq⟩ := ok_of_mapM htimes text htext
  exact ⟨x, heq, (windowProtected_false htimesNum (hnum row.cycle hq.cycle)).mp hwindow x hx⟩

omit hiso hnum in
/-- A link that goes is the one link of a chosen cycle. -/
theorem link_kept {k : Compaction F} {scan : Scan F} {t' : Tables F} {rs : List (Rollup F)}
    (hbatched : Batched a t scan.chosen t' rs)
    (hsafe : ∀ row ∈ scan.chosen, Safe a k.policy now t row) {l : Link F} (hl : l ∈ t.links)
    (hrecent : (t.newerLinks l).length < k.policy.statsOnlyRecentCycles) : l ∈ t'.links := by
  rw [hbatched.links]
  refine List.mem_filter.mpr ⟨hl, decide_eq_true fun hin => ?_⟩
  obtain ⟨row, hrow, hid⟩ := List.mem_map.mp hin
  have hs := hsafe row hrow
  have hown : l ∈ t.linksOf row.cycle.cycleId :=
    List.mem_filter.mpr ⟨hl, decide_eq_true hid.symm⟩
  rw [hs.link, List.mem_singleton] at hown
  have hnewer := hs.newer
  rw [← hown] at hnewer
  omega

/-- **A batch takes only what is safe to lose.** One that raises changes nothing, also where the
    plan stops early: then the report cannot be made. One that commits leaves everything but the
    evidence of the chosen cycles; each of them was safe to lose, and verified; it deletes as many
    rows as it planned, within the budget; and of every campaign the newest cycles stay. -/
theorem batch_safe (k : Compaction F) (late : ℕ → Bool) :
    (∀ reason, planStatsOnlyUniverse a k.policy now t = .stopped reason →
      compactStatsOnlyUniverseBatch a k now late t = (t, .error (.keyError "scanned_cycles"))) ∧
    (∀ t' e, compactStatsOnlyUniverseBatch a k now late t = (t', .error e) → t' = t) ∧
    ∀ t' report, compactStatsOnlyUniverseBatch a k now late t = (t', .ok report) →
      ∃ scan rs, planStatsOnlyUniverse a k.policy now t = .planned scan ∧
        Batched a t scan.chosen t' rs ∧ (∀ row ∈ scan.chosen, Safe a k.policy now t row) ∧
        (report.rowsRemoved : ℤ) = (scan.chosen.map PlanRow.rows).sum ∧
        (0 ≤ k.policy.batchRows → (report.rowsRemoved : ℤ) ≤ k.policy.batchRows) ∧
        ∀ l ∈ t.links, (t.newerLinks l).length < k.policy.statsOnlyRecentCycles → l ∈ t'.links := by
  refine ⟨fun reason hstopped => ?_, fun t' e h => batch_error h, fun t' report h => ?_⟩
  · unfold compactStatsOnlyUniverseBatch operation
    rw [hstopped]
  · obtain ⟨scan, rs, hscan, hbatched, hremoved, _⟩ := batch_ok h
    have hsafe := chosen_safe hiso hnum hscan
    have hsum := scan_sum a k.policy t (candidateRows k.policy now t) 0
    rw [← planned_eq hscan] at hsum
    refine ⟨scan, rs, hscan, hbatched, hsafe, by omega, fun hroom => ?_, fun l hl hrecent =>
      link_kept hbatched hsafe hl hrecent⟩
    have hbudget := scan_budget a k.policy t
      (candidateRows k.policy now t) hroom
    rw [← planned_eq hscan] at hbudget
    omega

omit hiso hnum in
theorem samples_numbers : ∀ c ∈ (sampleTables [sampleLabel]).cycles,
    IsNumber c.decisionTimestamp := by
  have hall : ∀ x : ℚ, IsNumber (Extended.finite x) := fun x =>
    isNumber_iff.mpr ⟨_, rfl⟩
  intro c hc
  simp only [sampleTables, List.mem_cons, List.not_mem_nil, or_false] at hc
  rcases hc with rfl | rfl | rfl <;> exact hall _

omit hiso hnum in
/-- The cycle of the run without a label goes, two rows of it, and the newest cycle stays. -/
theorem batch_safe_sample : ∃ t' report,
    sampleBatch (sampleTables [sampleLabel]) = (t', .ok report) ∧ report.rowsRemoved = 2 ∧
      (∃ (scan : Scan Extended) (rs : List (Rollup Extended)),
        Batched shortArchive (sampleTables [sampleLabel]) scan.chosen t' rs ∧
        (∀ row ∈ scan.chosen, Safe shortArchive samplePolicy (.finite 100)
          (sampleTables [sampleLabel]) row)) ∧
      sampleLink 3 "B" ∈ t'.links := by
  have hdates : ∀ text x, shortArchive.isoTimestamp text = some x → IsNumber x :=
    fun _ _ h => by cases h
  have hdecided : (sampleBatch (sampleTables [sampleLabel])).2.toOption.map
    BatchReport.rowsRemoved =
        some 2 ∧
      ((sampleTables [sampleLabel]).newerLinks (sampleLink 3 "B")).length < 1 := by
    decide +kernel
  obtain ⟨hremoved, hnewest⟩ := hdecided
  cases hbatch : sampleBatch (sampleTables [sampleLabel]) with
  | mk t' result =>
    rw [hbatch] at hremoved
    cases result with
    | error e => cases hremoved
    | ok report =>
      obtain ⟨scan, rs, _, hbatched, hchosen, _, _, hrecent⟩ :=
        (batch_safe hdates samples_numbers sampleCompaction fun _ => false).2.2 t' report hbatch
      exact ⟨t', report, rfl, Option.some.inj hremoved, ⟨scan, rs, hbatched, hchosen⟩,
        hrecent _ (by simp [sampleTables]) hnewest⟩

end Safety

/-! ## 5. Nothing is lost without a trace -/

section Account

/-- What the writers of evidence do to the tables: a cycle that is stored stays as it is. -/
def Immutable (t t' : Tables F) : Prop :=
  ∀ id, (t.db.cycle id).isSome = true → Untouched id t.db t'.db

/-- `persist_universe_selection` is such a writer. -/
theorem persist_immutable (a : Archive F B) (t : Tables F) (s : Selection F) : Immutable t
    { t with
      cycles := (persist a t.db s).1.cycles
      candidates := (persist a t.db s).1.candidates } := by
  intro id hsome
  obtain ⟨hcycle, hstored⟩ := persist_untouched (a := a) hsome s
  exact ⟨hcycle, hstored⟩

/-- The cycle is stored with all its rows, or a rollup has its counts. -/
def Accounted (t : Tables F) (c : CycleRow F) (t' : Tables F) : Prop :=
  (t'.db.cycle c.cycleId = some c ∧ t'.db.stored c.cycleId = t.db.stored c.cycleId) ∨
    ∃ r ∈ t'.rollups, r.cycleId = c.cycleId ∧ r.decisionTimestamp = c.decisionTimestamp ∧
      r.evidenceHash = c.evidenceHash ∧ CountsOf t c.cycleId r

variable {t t' : Tables F} {c : CycleRow F}

/-- A chosen row has its rollup. -/
theorem Batched.rollup_of_row {plan : List (PlanRow F)} {rs : List (Rollup F)} {row : PlanRow F}
    (h : Batched a t plan t' rs) (hrow : row ∈ plan) : ∃ r ∈ rs, StandsFor a t row r := by
  have hall := h.stands
  clear h
  induction hall with
  | nil => exact absurd hrow List.not_mem_nil
  | cons hfirst _ ih =>
    rcases List.mem_cons.mp hrow with heq | hlater
    · rw [heq]
      exact ⟨_, List.mem_cons_self, hfirst⟩
    · obtain ⟨r, hr, hstands⟩ := ih hlater
      exact ⟨r, List.mem_cons_of_mem _ hr, hstands⟩

theorem batched_accounted {plan : List (PlanRow F)} {rs : List (Rollup F)}
    (h : Batched a t plan t' rs) (hc : t.db.cycle c.cycleId = some c) : Accounted t c t' := by
  by_cases hin : c.cycleId ∈ idsOf plan
  · obtain ⟨row, hrow, hid⟩ := List.mem_map.mp hin
    obtain ⟨r, hr, hstands⟩ := h.rollup_of_row hrow
    have hsame : row.cycle = c := by
      have hfound := hstands.found
      rw [hid, hc] at hfound
      exact (Option.some.inj hfound).symm
    refine Or.inr ⟨r, ?_, ?_, ?_, ?_, ?_⟩
    · rw [h.rollups]
      exact List.mem_append_right _ hr
    · rw [hstands.cycleId, hsame]
    · rw [hstands.decisionTimestamp, hsame]
    · rw [hstands.evidenceHash, hsame]
    · rw [← hsame]
      exact hstands.counts
  · refine Or.inl ⟨?_, ?_⟩
    · show t'.cycles.find? _ = some c
      rw [find_eq_head, h.cycles, List.filter_filter]
      have hfilter : (t.cycles.filter fun q => decide (q.cycleId = c.cycleId) &&
          decide (q.cycleId ∉ idsOf plan)) = t.cycles.filter fun q => q.cycleId = c.cycleId := by
        refine List.filter_congr fun q _ => ?_
        by_cases hq : q.cycleId = c.cycleId
        · simp [hq, hin]
        · simp [hq]
      rw [hfilter, ← find_eq_head]
      exact hc
    · show sortOn CandidateRow.candidateIndex (t'.candidates.filter _) = _
      rw [h.candidates, List.filter_filter]
      have hfilter : (t.candidates.filter fun q => decide (q.cycleId = c.cycleId) &&
          decide (q.cycleId ∉ idsOf plan)) =
          t.candidates.filter fun q => q.cycleId = c.cycleId := by
        refine List.filter_congr fun q _ => ?_
        by_cases hq : q.cycleId = c.cycleId
        · simp [hq, hin]
        · simp [hq]
      rw [hfilter]
      rfl

theorem rollups_grow {x : Tables F} (hstep : Step a Immutable x t') :
    ∀ r ∈ x.rollups, r ∈ t'.rollups := by
  intro r hr
  cases hstep with
  | written _ hrollups _ =>
    rw [hrollups]
    exact hr
  | batch k now late =>
    rcases batch_leaves k now late x with hsame | ⟨scan, rs, _, hbatched⟩
    · rw [hsame]
      exact hr
    · rw [hbatched.rollups]
      exact List.mem_append_left _ hr

/-- One step keeps the account. -/
theorem accounted_step {x : Tables F} (h : Accounted t c x) (hstep : Step a Immutable x t') :
    Accounted t c t' := by
  rcases h with ⟨hcycle, hstored⟩ | ⟨r, hr, hrest⟩
  · have hnext : Accounted x c t' := by
      cases hstep with
      | written himmutable _ _ =>
        have hsome : (x.db.cycle c.cycleId).isSome = true := by
          rw [hcycle]
          rfl
        obtain ⟨hc', hs'⟩ := himmutable c.cycleId hsome
        exact Or.inl ⟨hc'.trans hcycle, hs'⟩
      | batch k now late =>
        rcases batch_leaves k now late x with hsame | ⟨scan, rs, _, hbatched⟩
        · rw [hsame]
          exact Or.inl ⟨hcycle, rfl⟩
        · exact batched_accounted hbatched hcycle
    rcases hnext with ⟨hc', hs'⟩ | ⟨r, hr, hid, htime, hhash, hcounts⟩
    · exact Or.inl ⟨hc', hs'.trans hstored⟩
    · refine Or.inr ⟨r, hr, hid, htime, hhash, ?_, ?_, ?_, ?_⟩
      · rw [hcounts.candidates, hstored]
      · rw [hcounts.eligible, hstored]
      · rw [hcounts.selected, hstored]
      · rw [hcounts.rejected, hstored]
  · exact Or.inr ⟨r, rollups_grow hstep r hr, hrest⟩

end Account

end AlphaForge.Storage
