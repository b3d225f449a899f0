/-
  File:      AlphaForge/Storage/Kept.lean
  Subject:   What the retention may take, and that every row it deletes is held elsewhere.

  * `Additive` -- what the other writers do: what is stored stays, and no link is dropped.
  * `LinkKept` -- a link is stored, or named by a rollup, or held by a file on record.
  * `linkKept_step`, `ledger_world` -- one step keeps both.
  * **`retention_safe`** -- a plan takes only what is safe to lose; and after every run, whoever
    crashes, a cycle, its rows and its link are stored, or rolled up, or on record.
  * `unresolved_label_passed` -- what is unresolved in a run does not always protect its cycles.
-/
import AlphaForge.Storage.Removals

namespace AlphaForge.Storage

open AlphaForge.Lib AlphaForge.Universe

variable {F B : Type} [FloatNum F] {a : Archive F B} {d : Machine F} {w w' : World F}

/-! ## 1. The runs -/

/-- What the other writers do to the database. -/
def Additive (s s' : Source F) : Prop := Writers s s' ∧ KeepsLinks s s'

/-- Nothing was archived or compacted yet. -/
structure Fresh (w : World F) : Prop where
  manifest : ∀ name, w.manifest name = none
  working : ∀ name, w.working name = none
  returned : w.returned = []
  archives : w.source.archives = []
  rollups : w.source.rollups = []
  checkpoints : w.source.checkpoints = []

theorem step_mono {W W' : Source F → Source F → Prop} (hsub : ∀ s s', W s s' → W' s s')
    (hstep : WorldStep a d W w w') : WorldStep a d W' w w' := by
  cases hstep with
  | written allowed archives rollups checkpoints =>
    exact WorldStep.written (hsub _ _ allowed) archives rollups checkpoints
  | batch k now late => exact WorldStep.batch k now late
  | began now minAge cid => exact WorldStep.began now minAge cid
  | copied now cid phase missing => exact WorldStep.copied now cid phase missing
  | sealed cid snap phase file => exact WorldStep.sealed cid snap phase file
  | published checked now cid m phase found =>
    exact WorldStep.published checked now cid m phase found
  | removed batchRows checked now late m held =>
    exact WorldStep.removed batchRows checked now late m held
  | abandoned name => exact WorldStep.abandoned name

theorem reaches_writers (hrun : WorldReaches a d Additive w w') : WorldReaches a d Writers w w' :=
  Relation.ReflTransGen.mono (fun _ _ hstep => step_mono (fun _ _ h => h.1) hstep) w w' hrun

/-! ## 2. The rollups -/

/-- The ledger looks at its own two tables only. -/
theorem ledger_same {t t' : Tables F} (h : Ledger a t) (hrollups : t'.rollups = t.rollups)
    (hcheckpoints : t'.checkpoints = t.checkpoints) : Ledger a t' :=
  ledger_step h (Step.written (W := fun _ _ => True) trivial hrollups hcheckpoints)

/-- A removal leaves the ledger alone. -/
theorem tables_removal {batchRows : ℤ} {now : F} {late : ℕ → Bool} {m : Manifest}
    {snap s s' : Source F} {count : ℕ}
    (h : removal a d batchRows now late snap m s = .ok (s', count)) :
    s'.rollups = s.rollups ∧ s'.checkpoints = s.checkpoints := by
  obtain ⟨ids, s₁, _, hr, hstate, _⟩ := removal_ok h
  rw [hstate]
  show s₁.rollups = s.rollups ∧ s₁.checkpoints = s.checkpoints
  rw [hr.tables]
  exact ⟨rfl, rfl⟩

section Steps

variable {W : Source F → Source F → Prop}

/-- One step keeps the ledger, and loses no rollup. -/
theorem ledger_world (h : Ledger a w.source.toTables) (hstep : WorldStep a d W w w') :
    Ledger a w'.source.toTables ∧ ∀ r ∈ w.source.rollups, r ∈ w'.source.rollups := by
  have hsame : ∀ s : Source F, s.rollups = w.source.rollups →
      s.checkpoints = w.source.checkpoints → Ledger a s.toTables ∧
        ∀ r ∈ w.source.rollups, r ∈ s.rollups := by
    intro s hrollups hcheckpoints
    refine ⟨ledger_same h hrollups hcheckpoints, fun r hr => ?_⟩
    rw [hrollups]
    exact hr
  cases change_of_step hstep with
  | locked phases _ => exact hsame w.source rfl rfl
  | copied cid _ => exact hsame w.source rfl rfl
  | sealed cid _ _ _ _ => exact hsame w.source rfl rfl
  | published cid m s _ _ recorded =>
    rcases recorded with rfl | rfl
    · exact hsame w.source rfl rfl
    · exact hsame _ rfl rfl
  | written s _ _ rollups checkpoints => exact hsame s rollups checkpoints
  | batch k now late =>
    refine ⟨ledger_batch h, fun r hr => ?_⟩
    rcases batch_leaves (a := a) k now late w.source.toTables with hleft | ⟨scan, rs, _, hbatched⟩
    · show r ∈ (compactStatsOnlyUniverseBatch a k now late w.source.toTables).1.rollups
      rw [hleft]
      exact hr
    · show r ∈ (compactStatsOnlyUniverseBatch a k now late w.source.toTables).1.rollups
      rw [hbatched.rollups]
      exact List.mem_append_left _ hr
  | removed batchRows now late m snap s count _ _ _ ok =>
    obtain ⟨hrollups, hcheckpoints⟩ := tables_removal ok
    exact hsame s hrollups hcheckpoints

theorem ledger_worlds (h : Ledger a w.source.toTables) (hrun : WorldReaches a d W w w') :
    Ledger a w'.source.toTables := by
  induction hrun with
  | refl => exact h
  | tail _ hstep ih => exact (ledger_world ih hstep).1

end Steps

/-! ## 3. The links -/

/-- A rollup names the cycle, the campaign and the run of a link. -/
def NamedBy (rollups : List (Rollup F)) (l : Link F) : Prop :=
  ∃ r ∈ rollups, r.cycleId = l.cycleId ∧ r.campaignId = l.campaignId ∧ r.burninRunId = l.burninRunId

/-- The link is stored, or a rollup names what it links, or a file on record has it. -/
def LinkKept (d : Machine F) (w : World F) (l : Link F) : Prop :=
  l ∈ w.source.links ∨ NamedBy w.source.rollups l ∨
    OnRecord d w fun snap => ∃ l' ∈ snap.links, sameLink l l' = true

/-- A batch keeps a link, or has a rollup for it. -/
theorem link_batch (k : Compaction F) (now : F) (late : ℕ → Bool) {t : Tables F} {l : Link F}
    (hl : l ∈ t.links) :
    l ∈ (compactStatsOnlyUniverseBatch a k now late t).1.links ∨
      NamedBy (compactStatsOnlyUniverseBatch a k now late t).1.rollups l := by
  rcases batch_leaves (a := a) k now late t with hleft | ⟨scan, rs, hplan, hbatched⟩
  · rw [hleft]
    exact Or.inl hl
  · by_cases hin : l.cycleId ∈ idsOf scan.chosen
    · obtain ⟨row, hrow, hid⟩ := List.mem_map.mp hin
      have hown : l ∈ t.linksOf row.cycle.cycleId :=
        List.mem_filter.mpr ⟨hl, decide_eq_true hid.symm⟩
      rw [chosen_link hplan hrow, List.mem_singleton] at hown
      obtain ⟨r, hr, hstands⟩ := hbatched.rollup_of_row hrow
      refine Or.inr ⟨r, ?_, hstands.cycleId.trans hid, ?_, ?_⟩
      · rw [hbatched.rollups]
        exact List.mem_append_right _ hr
      · rw [hstands.campaignId, hown]
      · rw [hstands.burninRunId, hown]
    · rw [hbatched.links]
      exact Or.inl (List.mem_filter.mpr ⟨hl, decide_eq_true hin⟩)

/-- Of two equal lists, each element of the first is in the second. -/
theorem mem_of_sameList {α : Type} {same : α → α → Bool} {xs ys : List α}
    (h : sameList same xs ys = true) {x : α} (hx : x ∈ xs) : ∃ y ∈ ys, same x y = true := by
  have hall := sameList_iff.mp h
  clear h
  induction hall with
  | nil => exact absurd hx List.not_mem_nil
  | cons hfirst _ ih =>
    rcases List.mem_cons.mp hx with heq | hrest
    · rw [heq]
      exact ⟨_, List.mem_cons_self, hfirst⟩
    · obtain ⟨y, hy, hsame⟩ := ih hrest
      exact ⟨y, List.mem_cons_of_mem _ hy, hsame⟩

/-- A removal keeps a link, or the file has it. -/
theorem link_removal (hs : Sound d w) {batchRows : ℤ} {now : F} {late : ℕ → Bool} {m : Manifest}
    {snap s : Source F} {count : ℕ} (held : m ∈ w.returned)
    (file : w.archive m.archivePath = some snap) (hash : d.fileHash snap = m.checksum)
    (ok : removal a d batchRows now late snap m w.source = .ok (s, count)) {l : Link F}
    (hl : l ∈ w.source.links) : LinkKept d { w with source := s } l := by
  obtain ⟨ids, s₁, _, hr, hstate, _, ⟨r, hrecord, hcampaign, hchecksum⟩, _⟩ := removal_ok ok
  subst hstate
  by_cases hin : l.cycleId ∈ ids
  · have hheld := hr.held _ hin
    simp only [rowsHeld, decide_eq_true_eq] at hheld
    have hown : l ∈ w.source.linksOf l.cycleId :=
      List.mem_filter.mpr ⟨hl, decide_eq_true rfl⟩
    obtain ⟨l', hl', hsame⟩ := mem_of_sameList hheld.1 hown
    have hrecord₁ : r ∈ s₁.archives := by
      rw [hr.tables]
      exact hrecord
    obtain ⟨r', hr', hcampaign', hchecksum', hremoving⟩ := setState_removing hrecord₁ hcampaign
    have hpath := (hs.held _ _ (hs.returned m held)).1
    refine Or.inr (Or.inr ⟨r', hr', hremoving, snap, ?_, ?_, l', List.mem_of_mem_filter hl', hsame⟩)
    · rw [hcampaign', ← hpath]
      exact file
    · rw [hchecksum', hchecksum, hash]
  · refine Or.inl ?_
    show l ∈ s₁.links
    rw [hr.tables]
    exact List.mem_filter.mpr ⟨hl, decide_eq_true hin⟩

/-- One step keeps the link. -/
theorem linkKept_step (hs : Sound d w) (hledger : Ledger a w.source.toTables) {l : Link F}
    (h : LinkKept d w l) (hstep : WorldStep a d Additive w w') : LinkKept d w' l := by
  rcases h with hl | ⟨r, hr, hnames⟩ | hrecord
  · cases change_of_step hstep with
    | locked phases _ => exact Or.inl hl
    | copied cid _ => exact Or.inl hl
    | sealed cid _ _ _ _ => exact Or.inl hl
    | published cid m s _ _ recorded =>
      rcases recorded with rfl | rfl
      · exact Or.inl hl
      · exact Or.inl hl
    | written s allowed _ _ _ => exact Or.inl (allowed.2 l hl)
    | batch k now late =>
      rcases link_batch (a := a) k now late hl with hkept | hnamed
      · exact Or.inl hkept
      · exact Or.inr (Or.inl hnamed)
    | removed batchRows now late m snap s count held file hash ok =>
      exact link_removal hs held file hash ok hl
  · exact Or.inr (Or.inl ⟨r, (ledger_world hledger hstep).2 r hr, hnames⟩)
  · exact Or.inr (Or.inr (recorded_step hs hrecord hstep))

theorem linkKept_reaches (hs : Sound d w) (hledger : Ledger a w.source.toTables) {l : Link F}
    (hl : l ∈ w.source.links) (hrun : WorldReaches a d Additive w w') : LinkKept d w' l := by
  induction hrun with
  | refl => exact Or.inl hl
  | tail hbefore hstep ih =>
    exact linkKept_step (sound_reaches hs hbefore) (ledger_worlds hledger hbefore) ih hstep

/-! ## 4. The retention is safe -/

/-- **The retention is safe.** A plan takes only what is safe to lose. And wherever a batch of the
    statistics, an attempt to archive or a removal ends, what was stored at any time is stored
    still, or a rollup with a right hash stands for it, or a file whose checksum is on record holds
    it. -/
theorem retention_safe (hiso : ∀ text x, a.isoTimestamp text = some x → IsNumber x) :
    (∀ (policy : StoragePolicy F) (now : F) (t : Tables F) (scan : Scan F),
      (∀ c ∈ t.cycles, IsNumber c.decisionTimestamp) →
        planStatsOnlyUniverse a policy now t = .planned scan →
          ∀ row ∈ scan.chosen, Safe a policy now t row) ∧
    ∀ w₀ w w' : World F, Fresh w₀ → WorldReaches a d Additive w₀ w →
      WorldReaches a d Additive w w' →
        (∀ c, w.source.db.cycle c.cycleId = some c →
          Accounted w.source.toTables c w'.source.toTables ∨
            Recorded d w' c (w.source.db.stored c.cycleId)) ∧
        (∀ l ∈ w.source.links, LinkKept d w' l) ∧
        ∀ r ∈ w'.source.rollups, canonicalHash a.toHost r.toRollupCore.asDict =
          .ok r.rollupHash := by
  refine ⟨fun policy now t scan hnum hplan => chosen_safe hiso hnum hplan, ?_⟩
  intro w₀ w w' hfresh hbefore hafter
  have hs : Sound d w :=
    sound_reaches (sound_fresh hfresh.manifest hfresh.working hfresh.archives hfresh.returned)
      hbefore
  have hledger : Ledger a w.source.toTables :=
    ledger_worlds (ledger_empty hfresh.rollups hfresh.checkpoints) hbefore
  refine ⟨fun c hc => evidence_kept hs hc (reaches_writers hafter), ?_, ?_⟩
  · exact fun l hl => linkKept_reaches hs hledger hl hafter
  · exact (ledger_worlds hledger hafter).rollups

/-! ## 5. What is unresolved and does not protect -/

section Samples

variable {policy : StoragePolicy Extended} {t : Tables Extended} {scan : Scan Extended}
  {b : Archive Extended (List Char)}

/-- The answer of a plan where no table of orders or positions is there. -/
theorem planned_of (henabled : policy.statsOnlyEnabled = true) (hschema : t.schemaAvailable = true)
    (hknown : t.unknownDependency = none) (hpositions : t.positions = none)
    (horders : t.orders = none) (hincidents : t.incidents = none) (now : Extended) :
    planStatsOnlyUniverse b policy now t =
      .planned (scanRows b policy t 0 (candidateRows policy now t)) := by
  unfold planStatsOnlyUniverse
  rw [henabled, hschema, hknown, hpositions, horders, hincidents]
  rfl

/-- The plan of the samples. -/
def samplePlan (b : Archive Extended (List Char)) (t : Tables Extended) : Scan Extended :=
  scanRows b samplePolicy t 0 (candidateRows samplePolicy (.finite 100) t)

theorem samplePlan_first (h : ((samplePlan b t).chosen.head?.map fun row => row.link.cycleId) =
    some "universe:PAPER:|") :
    ∃ row ∈ (samplePlan b t).chosen, row.link.cycleId = "universe:PAPER:|" := by
  obtain ⟨row, hhead, hid⟩ := Option.map_eq_some_iff.mp h
  exact ⟨row, List.mem_of_head? hhead, hid⟩

end Samples

/-- The cycle that is earlier than the label of its run may go. And after a batch of the archive
    that cycle is not in the database, and a file on record holds it. -/
theorem retention_safe_sample :
    (∃ row, row.link.cycleId = "universe:PAPER:|" ∧
      Safe datedArchive samplePolicy (.finite 100) (sampleTables [sampleLabel]) row) ∧
    (removedWorld.source.db.cycle "universe:PAPER:|").isNone = true ∧
      Recorded sampleMachine removedWorld (sampleCycle 1) [] := by
  have hdates : ∀ text x, datedArchive.isoTimestamp text = some x → IsNumber x := by
    intro text x h
    rw [← Option.some.inj h]
    exact isNumber_iff.mpr ⟨_, rfl⟩
  have hfirst : ((samplePlan datedArchive (sampleTables [sampleLabel])).chosen.head?.map
      fun row => row.link.cycleId) = some "universe:PAPER:|" := by
    decide +kernel
  have hdecided : sampleManifest ∈ publishedWorld.returned ∧
      (removedWorld.source.db.cycle "universe:PAPER:|").isNone = true ∧
      removedWorld.source.rollups.isEmpty = true := by
    decide +kernel
  obtain ⟨hheld, hgone, hempty⟩ := hdecided
  obtain ⟨row, hrow, hid⟩ := samplePlan_first hfirst
  have hsafe := (retention_safe (d := sampleMachine) hdates).1 samplePolicy (.finite 100)
    (sampleTables [sampleLabel]) _ samples_numbers
    (planned_of rfl rfl rfl rfl rfl rfl (.finite 100))
    row hrow
  refine ⟨⟨row, hid, hsafe⟩, hgone, ?_⟩
  have hrun : WorldReaches datedArchive sampleMachine Additive sampleWorld removedWorld :=
    (published_reached Additive).tail (step_afterRemoval hheld)
  have hfresh : Fresh sampleWorld := ⟨fun _ => rfl, fun _ => rfl, rfl, rfl, rfl, rfl⟩
  have hkept := (retention_safe hdates).2 sampleWorld sampleWorld removedWorld hfresh
    Relation.ReflTransGen.refl hrun
  rcases hkept.1 (sampleCycle 1) rfl with (⟨hcycle, _⟩ | ⟨r, hr, _⟩) | hrecorded
  · rw [show (sampleCycle 1).cycleId = "universe:PAPER:|" from rfl] at hcycle
    rw [hcycle] at hgone
    cases hgone
  · rw [List.isEmpty_iff.mp hempty] at hr
    exact absurd hr List.not_mem_nil
  · exact hrecorded

/-- Every text reads as one second after the epoch. -/
def earlyArchive : Archive Extended (List Char) := stampedArchive (.finite 1)

/-- A failed run has a label that is ambiguous for good, and is released for maintenance; and
    another campaign has a pending label under the other run. -/
def releasedTables : Tables Extended :=
  { sampleTables [⟨"L", "C", "B", "", "AMBIGUOUS", 0⟩, ⟨"M", "D", "A", "", "PENDING", 0⟩] with
    campaigns := [⟨"C", "h", "s", "g", some [("storage_retention_mode", .text "PAPER_STATS_ONLY"),
      ("storage_policy_hash", .text "P")], none, none, "FAILED", none, none, []⟩]
    runs := [⟨"A", "PAPER", "g", "h", "COMPLETED", some 0⟩,
      ⟨"B", "PAPER", "g", "h", "FAILED", some 0⟩]
    authorizedAmbiguityIds := fun cid run => if cid = "C" ∧ run = "B" then ["L"] else [] }

/-- A plan takes a cycle although an earlier label of its campaign and run is unresolved, and
    another although an earlier label of its run is, under another campaign. -/
theorem unresolved_label_passed : ∃ scan,
    planStatsOnlyUniverse earlyArchive samplePolicy (.finite 100) releasedTables = .planned scan ∧
    (∃ row ∈ scan.chosen, ∃ l ∈ releasedTables.pendingLabels, l.unresolved = true ∧
      l.burninRunId = row.link.burninRunId ∧ l.campaignId = row.link.campaignId ∧
      ∃ x, timestamp earlyArchive l.decisionTimestamp = .ok x ∧ x ≤ row.cycle.decisionTimestamp) ∧
    ∃ row ∈ scan.chosen, ∃ l ∈ releasedTables.pendingLabels, l.unresolved = true ∧
      l.burninRunId = row.link.burninRunId ∧ l.campaignId ≠ row.link.campaignId ∧
      ∃ x, timestamp earlyArchive l.decisionTimestamp = .ok x ∧
        x ≤ row.cycle.decisionTimestamp := by
  have hdecided : (∃ row ∈ (samplePlan earlyArchive releasedTables).chosen,
      ∃ l ∈ releasedTables.pendingLabels, l.unresolved = true ∧
        l.burninRunId = row.link.burninRunId ∧ l.campaignId = row.link.campaignId ∧
        Extended.finite 1 ≤ row.cycle.decisionTimestamp) ∧
      ∃ row ∈ (samplePlan earlyArchive releasedTables).chosen,
      ∃ l ∈ releasedTables.pendingLabels, l.unresolved = true ∧
        l.burninRunId = row.link.burninRunId ∧ l.campaignId ≠ row.link.campaignId ∧
        Extended.finite 1 ≤ row.cycle.decisionTimestamp := by
    decide +kernel
  obtain ⟨⟨row, hrow, l, hl, hopen, hrun, hcampaign, hle⟩,
    ⟨row', hrow', l', hl', hopen', hrun', hcampaign', hle'⟩⟩ := hdecided
  have hplan : planStatsOnlyUniverse earlyArchive samplePolicy (.finite 100) releasedTables =
      .planned (samplePlan earlyArchive releasedTables) :=
    planned_of rfl rfl rfl rfl rfl rfl (.finite 100)
  exact ⟨_, hplan, ⟨row, hrow, l, hl, hopen, hrun, hcampaign, .finite 1, rfl, hle⟩,
    row', hrow', l', hl', hopen', hrun', hcampaign', .finite 1, rfl, hle'⟩

end AlphaForge.Storage
