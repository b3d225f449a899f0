/-
  File:      AlphaForge/Burnin/Verdict.lean
  Subject:   `burnin_qualification.py`: what CANARY_QUALIFIED says of the components.

  * `Clean` -- the conditions on the evidence under which no component adds a blocker
    (`allBlockers_nil_iff`).
  * **`qualified_sound_iff`** -- CANARY_QUALIFIED implies that every component is PASS, but for
    clean evidence without a positive contribution or with a bound that is no number.
-/
import AlphaForge.Burnin.Qualification
import AlphaForge.Lib.Extended

namespace AlphaForge.Burnin

open AlphaForge.Lib

section Verdict

variable {F : Type} [FloatNum F] (lang : Language F) (th : Thresholds F)

/-- No row of the regimes is refused. -/
def RegimesClean (regimes : List (RegimeRow F)) : Prop :=
  ∀ r ∈ regimes, ¬ (regimeName lang r = "UNKNOWN" ∧ rowPasses lang r = true) ∧
    if isQualifiableRegime lang (regimeName lang r) = true then
      ¬ (th.minimumRegimeSample ≤ sampleOf r.sampleCount ∧
        ∃ x ∈ r.lowerConfidenceBoundExpectancy, x < FloatNum.ofInt 0)
    else ¬ (0 < sampleOf r.sampleCount ∧ rowPasses lang r = true)

/-- **The evidence on which no component adds a blocker.** -/
structure Clean (e : Evidence F) (run : RunRow F) : Prop where
  mode : lang.upper run.executionMode ∈ ["PAPER", "LIVE_PRECHECK"]
  provenance : run.gitCommit ≠ "" ∧ run.configHash ≠ "" ∧ run.strategyConfigHash ≠ "" ∧
    run.universeHash ≠ "" ∧ run.sourceProvenanceJson ≠ ""
  runtime : e.runtimeErrorCount ≤ th.maxRuntimeErrorCount
  counters : run.sampleCount = e.samples ∧ run.acceptedCount = e.accepted ∧
    run.rejectedCount = e.rejected ∧ run.closedTradeCount = e.trades.length
  duration : ¬ orZero run.observedDurationSeconds < th.minimumDurationSeconds
  samples : th.minimumTotalDecisions ≤ e.samples ∧ th.minimumAcceptedTrades ≤ e.accepted ∧
    th.minimumClosedTrades ≤ (qualificationTrades e).length ∧
    th.minimumRejectedForwardOutcomes ≤ e.attributableRejects.length
  geometry : ¬ structuralSuppression lang th e
  complete : incompleteTrades e = 0
  bound : ∃ x, lcb lang (qualificationTrades e) = some x ∧
    ¬ x < th.minLowerConfidenceBoundExpectancy
  cost : ∃ x, costDrag (qualificationTrades e) = some x ∧ ¬ th.maxCostDragPerTrade < x
  regimes : RegimesClean lang th e.regimes
  coverage : th.minimumRegimeCoverage ≤ materialRegimes lang th e.regimes
  rejects : rejectQualityFails th e.attributableRejects = false
  calibration : th.minimumCalibrationSample ≤ calibrationSamples e.calibration ∧
    ¬ th.maxCalibrationError < worstCalibrationError e.calibration
  drawdown : e.drawdowns ≠ [] ∧ drawdownGaps lang e.drawdowns = [] ∧
    drawdownBlocked lang th e.drawdowns = false
  execution : ∃ x, e.execution = some x ∧ executionGaps lang x = [] ∧
    executionReasons lang th x = []
  concentration : totalContribution (qualificationTrades e) ≤ FloatNum.ofInt 0 ∨
    concentrationReasons th (qualificationTrades e) = []
  reconciliation : lang.upper ((e.reconciliationStatus.bind id).getD "") ∈
    ["CLEAN", "NOT_REQUIRED_BACKTEST"]
  gates : checkPhaseGates lang th e.gates run.gitCommit = []

variable {lang th} {e : Evidence F} {run : RunRow F}

/-! ## 1. The blockers of each component -/

omit [FloatNum F] in
theorem refuses_eq_false {x : Option F} {bad : F → Bool} :
    refuses x bad = false ↔ ∃ v, x = some v ∧ bad v = false := by
  unfold refuses
  cases x with
  | none => exact iff_of_false nofun nofun
  | some v => exact ⟨fun h => ⟨v, rfl, h⟩, fun ⟨_, hv, h⟩ => by cases hv; exact h⟩

theorem computeExpectancy_nil {trades : List (TradeRow F)} : computeExpectancy lang th trades = [] ↔
    (∃ x, lcb lang trades = some x ∧ ¬ x < th.minLowerConfidenceBoundExpectancy) ∧
      ∃ x, costDrag trades = some x ∧ ¬ th.maxCostDragPerTrade < x := by
  unfold computeExpectancy
  rw [List.append_eq_nil_iff, blocked_nil, blocked_nil, Bool.not_eq_true, Bool.not_eq_true,
    refuses_eq_false, refuses_eq_false]
  simp only [decide_eq_false_iff_not]

theorem checkSamples_nil : (checkSamples lang th e run).blockers = [] ↔
    ¬ orZero run.observedDurationSeconds < th.minimumDurationSeconds ∧
      th.minimumTotalDecisions ≤ e.samples ∧ th.minimumAcceptedTrades ≤ e.accepted ∧
      th.minimumClosedTrades ≤ (qualificationTrades e).length ∧
      th.minimumRejectedForwardOutcomes ≤ e.attributableRejects.length := by
  unfold checkSamples sampleChecks
  simp only [List.flatMap_cons, List.flatMap_nil, List.append_nil, List.append_eq_nil_iff,
    blocked_nil,
    decide_eq_true_eq, not_lt]

theorem checkRegimes_nil {regimes : List (RegimeRow F)} :
    (checkRegimes lang th regimes).blockers = [] ↔
      RegimesClean lang th regimes ∧ th.minimumRegimeCoverage ≤
        materialRegimes lang th regimes := by
  have hrows : regimes.flatMap (regimeRowBlockers lang th) = [] ↔ RegimesClean lang th regimes := by
    rw [List.flatMap_eq_nil_iff]
    unfold RegimesClean regimeRowBlockers
    refine forall₂_congr fun r _ => ?_
    rw [List.append_eq_nil_iff, blocked_nil]
    refine and_congr_right fun _ => ?_
    split <;> rw [blocked_nil]
  unfold checkRegimes
  simp only
  split
  · rename_i h
    refine iff_of_false (fun hnil => ?_) fun hclean => absurd hclean.2 (not_le.mpr h)
    exact absurd (List.append_eq_nil_iff.mp hnil).2 (List.cons_ne_nil _ _)
  · rename_i h
    rw [hrows, and_iff_left (not_lt.mp h)]

theorem computeRejectQuality_nil {rejects : List (RejectQualityRow F)} :
    (computeRejectQuality th rejects).blockers = [] ↔ rejectQualityFails th rejects = false := by
  unfold computeRejectQuality
  cases h : rejectQualityFails th rejects with
  | true => exact iff_of_false nofun nofun
  | false => exact iff_of_true rfl rfl

theorem computeCalibration_nil {rows : List (CalibrationRow F)} :
    (computeCalibration th rows).blockers = [] ↔
      th.minimumCalibrationSample ≤ calibrationSamples rows ∧
        ¬ th.maxCalibrationError < worstCalibrationError rows := by
  unfold computeCalibration
  split
  · rename_i h
    exact iff_of_false nofun fun hclean => absurd hclean.1 (not_le.mpr h)
  · rename_i h
    rw [and_iff_right (not_lt.mp h)]
    split
    · rename_i hworst
      exact iff_of_false nofun fun hclean => hclean hworst
    · rename_i hworst
      exact iff_of_true rfl hworst

theorem computeDrawdown_nil {rows : List (DrawdownRow F)} :
    (computeDrawdown lang th rows).blockers = [] ↔
      rows ≠ [] ∧ drawdownGaps lang rows = [] ∧ drawdownBlocked lang th rows = false := by
  unfold computeDrawdown
  split
  · rename_i h
    exact iff_of_false nofun fun hclean => hclean.1 h
  · rename_i h
    rw [and_iff_right h]
    split
    · rename_i hgaps
      exact iff_of_false nofun fun hclean => hgaps hclean.1
    · rename_i hgaps
      rw [and_iff_right (not_not.mp hgaps)]
      split
      · rename_i hblocked
        exact iff_of_false nofun fun hclean => Bool.eq_false_iff.mp hclean hblocked
      · rename_i hblocked
        exact iff_of_true rfl (Bool.eq_false_iff.mpr hblocked)

theorem computeExecution_nil {execution : Option (ExecutionRow F)} :
    (computeExecution lang th execution).blockers = [] ↔
      ∃ x, execution = some x ∧ executionGaps lang x = [] ∧ executionReasons lang th x = [] := by
  unfold computeExecution
  cases execution with
  | none => exact iff_of_false nofun nofun
  | some x =>
    simp only [Option.some.injEq, exists_eq_left']
    split
    · rename_i hgaps
      exact iff_of_false nofun fun hclean => hgaps hclean.1
    · rename_i hgaps
      rw [and_iff_right (not_not.mp hgaps)]

theorem computeConcentration_nil {trades : List (TradeRow F)} :
    (computeConcentration th trades).blockers = [] ↔
      totalContribution trades ≤ FloatNum.ofInt 0 ∨ concentrationReasons th trades = [] := by
  unfold computeConcentration
  split
  · rename_i h
    exact iff_of_true rfl (Or.inl h)
  · rename_i h
    rw [or_iff_right h]

omit [FloatNum F] in
theorem checkReconciliation_nil {snapshot : Option (Option String)} :
    (checkReconciliation lang snapshot).blockers = [] ↔
      lang.upper ((snapshot.bind id).getD "") ∈ ["CLEAN", "NOT_REQUIRED_BACKTEST"] := by
  unfold checkReconciliation
  simp only
  generalize lang.upper ((snapshot.bind id).getD "") = status
  split
  · rename_i h
    refine iff_of_false nofun fun hmem => ?_
    rcases h with rfl | rfl <;> revert hmem <;> decide
  · split
    · rename_i hmem
      exact iff_of_true rfl hmem
    · rename_i hmem
      exact iff_of_false nofun hmem

theorem runBlockers_nil : runBlockers lang th e run = [] ↔
    lang.upper run.executionMode ∈ ["PAPER", "LIVE_PRECHECK"] ∧
      (run.gitCommit ≠ "" ∧ run.configHash ≠ "" ∧ run.strategyConfigHash ≠ "" ∧
        run.universeHash ≠ "" ∧ run.sourceProvenanceJson ≠ "") ∧
      e.runtimeErrorCount ≤ th.maxRuntimeErrorCount ∧
      run.sampleCount = e.samples ∧ run.acceptedCount = e.accepted ∧
        run.rejectedCount = e.rejected ∧ run.closedTradeCount = e.trades.length := by
  unfold runBlockers
  simp only [List.flatMap_cons, List.flatMap_nil, List.append_nil, List.append_eq_nil_iff,
    blocked_nil,
    not_not, not_lt, and_assoc, ne_eq]

/-- **No blocker exactly on clean evidence.** -/
theorem allBlockers_nil_iff : allBlockers lang th e run = [] ↔ Clean lang th e run := by
  unfold allBlockers earlyBlockers checkGuidedGeometryViability incompleteBlockers
  simp only [List.append_eq_nil_iff, runBlockers_nil, checkSamples_nil, blocked_nil, not_not, ne_eq,
    computeExpectancy_nil, checkRegimes_nil, computeRejectQuality_nil, computeCalibration_nil,
    computeDrawdown_nil, computeExecution_nil, computeConcentration_nil, checkReconciliation_nil]
  constructor
  · intro ⟨⟨⟨⟨⟨⟨⟨⟨⟨⟨⟨⟨⟨hmode, hprov, hrun, hcounters⟩, hduration, hsamples⟩, hgeometry⟩, hcomplete⟩,
      hbound,
      hcost⟩, hregimes, hcoverage⟩, hrejects⟩, hcal⟩, hdd⟩, hexec⟩, hconc⟩, hrec⟩, hgates⟩
    exact ⟨hmode, hprov, hrun, hcounters, hduration, hsamples, hgeometry, hcomplete, hbound, hcost,
      hregimes, hcoverage, hrejects, hcal, hdd, hexec, hconc, hrec, hgates⟩
  · intro h
    exact ⟨⟨⟨⟨⟨⟨⟨⟨⟨⟨⟨⟨⟨h.mode, h.provenance, h.runtime, h.counters⟩, h.duration, h.samples⟩,
      h.geometry⟩,
      h.complete⟩, h.bound, h.cost⟩, h.regimes, h.coverage⟩, h.rejects⟩, h.calibration⟩,
        h.drawdown⟩,
      h.execution⟩, h.concentration⟩, h.reconciliation⟩, h.gates⟩

/-! ## 2. The verdict -/

/-- Every component is PASS. -/
structure AllPass (s : QualificationSnapshot) : Prop where
  sample : s.sampleStatus = "PASS"
  expectancy : s.expectancyStatus = "PASS"
  execution : s.executionStatus = "PASS"
  regime : s.regimeStatus = "PASS"
  rejectQuality : s.rejectQualityStatus = "PASS"
  calibration : s.calibrationStatus = "PASS"
  drawdown : s.drawdownStatus = "PASS"
  concentration : s.concentrationStatus = "PASS"
  reconciliation : s.reconciliationStatus = "PASS"
  evidenceCompleteness : s.evidenceCompletenessStatus = "PASS"

theorem qualificationStatus_iff {blockers : List String} {sampleStatus : String} :
    qualificationStatus blockers sampleStatus = "CANARY_QUALIFIED" ↔ blockers = [] := by
  unfold qualificationStatus
  by_cases h : blockers = []
  · rw [if_pos h]
    exact iff_of_true rfl h
  · rw [if_neg h]
    refine iff_of_false (fun heq => ?_) h
    split at heq <;> exact absurd heq (by decide)

/-- Clean evidence suspends nothing. -/
theorem suspensionReasons_clean (h : Clean lang th e run) :
    suspensionReasons lang th e [] = [] := by
  obtain ⟨x, hx, hbound⟩ := h.bound
  obtain ⟨hrows, hgaps, hblocked⟩ := h.drawdown
  have hdrawdown : ¬ th.maxDrawdownPct < orZero (maxDrawdown lang e.drawdowns) := by
    unfold drawdownBlocked at hblocked
    have hany := (Bool.or_eq_false_iff.mp hblocked).1
    cases hmax : maxDrawdown lang e.drawdowns with
    | some y =>
      rw [hmax] at hany
      exact of_decide_eq_false hany
    | none =>
      -- a row without a drawdown has a gap
      exfalso
      obtain ⟨d, rest, hd⟩ := List.exists_cons_of_ne_nil hrows
      have hmissing : (drawdownMissing lang d).isEmpty = true := by
        unfold drawdownGaps at hgaps
        have hnone := List.filter_eq_nil_iff.mp (List.map_eq_nil_iff.mp hgaps) (d, 0)
          (by rw [hd]; exact List.mem_cons_self ..)
        simpa using hnone
      have hnumeric : numericGap lang "drawdown_pct" d.drawdownPct = [] := by
        have hnil := List.isEmpty_iff.mp hmissing
        unfold drawdownMissing at hnil
        simp only [List.append_eq_nil_iff] at hnil
        exact hnil.1.1.1.2
      have hsome := blocked_nil.mp hnumeric
      unfold maxDrawdown at hmax
      cases hf : finiteNumber lang d.drawdownPct with
      | none =>
        rw [hf] at hsome
        exact hsome rfl
      | some y =>
        rw [hd] at hmax
        simp only [List.filterMap_cons, hf] at hmax
        cases hmax
  unfold suspensionReasons
  rw [sortedSet_eq_nil]
  simp only [List.append_eq_nil_iff, blocked_nil, List.not_mem_nil, false_and, exists_false,
    not_false_eq_true, and_true, List.flatMap_eq_nil_iff, implies_true, not_lt]
  rw [if_pos hgaps]
  refine ⟨⟨fun ⟨y, hy, hlow⟩ => hbound ?_, hdrawdown⟩, h.runtime⟩
  rw [hx] at hy
  cases hy
  exact hlow

theorem evaluateRun_qualified :
    (evaluateRun lang th e run).status = "CANARY_QUALIFIED" ↔ Clean lang th e run := by
  unfold evaluateRun
  simp only
  by_cases hq : qualificationStatus (allBlockers lang th e run)
      (checkSamples lang th e run).status = "CANARY_QUALIFIED"
  · have hnil := qualificationStatus_iff.mp hq
    have hclean := allBlockers_nil_iff.mp hnil
    have hsuspension : suspensionReasons lang th e (allBlockers lang th e run) = [] := by
      rw [hnil]
      exact suspensionReasons_clean hclean
    rw [if_neg fun h => h.2 hsuspension]
    exact iff_of_true hq hclean
  · rw [if_neg fun h => hq h.1]
    exact iff_of_false hq fun hclean => hq (qualificationStatus_iff.mpr
      (allBlockers_nil_iff.mpr hclean))

theorem insufficient_ne : "BURN_IN_INSUFFICIENT" ≠ "CANARY_QUALIFIED" := by decide

/-- **CANARY_QUALIFIED is the verdict exactly on clean evidence of a run.** -/
theorem qualified_iff : (evaluate lang th e).status = "CANARY_QUALIFIED" ↔
    e.hasSchema = true ∧ ∃ run, e.run = some run ∧ Clean lang th e run := by
  unfold evaluate
  cases e.hasSchema with
  | false =>
    exact iff_of_false (fun h => insufficient_ne h) nofun
  | true =>
    rw [if_pos rfl]
    cases hrun : e.run with
    | none =>
      exact iff_of_false (fun h => insufficient_ne h) nofun
    | some run =>
      simp only [true_and, Option.some.injEq, exists_eq_left']
      exact evaluateRun_qualified

/-- The expectancy of clean evidence. -/
theorem expectancyStatus_clean {trades : List (TradeRow F)} :
    expectancyStatus lang th trades [] = "PASS" ↔
      ∃ x, lcb lang trades = some x ∧ th.minLowerConfidenceBoundExpectancy ≤ x := by
  have hrefuses : refuses (lcb lang trades) (fun v =>
      !decide (th.minLowerConfidenceBoundExpectancy ≤ v)) = false ↔
      ∃ x, lcb lang trades = some x ∧ th.minLowerConfidenceBoundExpectancy ≤ x := by
    rw [refuses_eq_false]
    simp only [Bool.not_eq_false', decide_eq_true_eq]
  unfold expectancyStatus
  split
  · rename_i h
    simp only [List.any_nil, Bool.not_false, Bool.and_true, Bool.not_eq_true'] at h
    exact iff_of_true rfl (hrefuses.mp h)
  · rename_i h
    simp only [List.any_nil, Bool.not_false, Bool.and_true, Bool.not_eq_true'] at h
    exact iff_of_false (by decide) fun hbound => h (hrefuses.mpr hbound)

/-- The components of clean evidence: all are PASS but for the concentration without a positive
    contribution and the expectancy with a bound that is no number. -/
theorem allPass_iff (h : Clean lang th e run) : AllPass (evaluateRun lang th e run) ↔
    ¬ totalContribution (qualificationTrades e) ≤ FloatNum.ofInt 0 ∧
      ∃ x, lcb lang (qualificationTrades e) = some x ∧
        th.minLowerConfidenceBoundExpectancy ≤ x := by
  have hnil := allBlockers_nil_iff.mpr h
  have hearly : earlyBlockers lang th e run = [] := by
    unfold allBlockers at hnil
    simp only [List.append_eq_nil_iff] at hnil
    exact hnil.1.1.1.1.1.1.1.1
  have hsamples : (checkSamples lang th e run).status = "PASS" := by
    have hblockers : (checkSamples lang th e run).blockers = [] :=
      checkSamples_nil.mpr ⟨h.duration, h.samples⟩
    unfold checkSamples at hblockers ⊢
    simp only at hblockers ⊢
    rw [if_pos hblockers]
  have hexecution : (computeExecution lang th e.execution).status = "PASS" := by
    obtain ⟨x, hx, hgaps, hreasons⟩ := h.execution
    have hstatus : lang.upper x.status ≠ "INSUFFICIENT_EVIDENCE" := fun hs => by
      unfold executionReasons at hreasons
      simp only [List.append_eq_nil_iff, blocked_nil] at hreasons
      exact hreasons.1.1.1.1.1 (by rw [hs]; decide)
    unfold computeExecution
    rw [hx]
    simp only
    rw [if_neg (not_not.mpr hgaps), if_neg hstatus, if_pos hreasons]
  have hregimes : (checkRegimes lang th e.regimes).status = "PASS" := by
    have hblockers : (checkRegimes lang th e.regimes).blockers = [] :=
      checkRegimes_nil.mpr ⟨h.regimes, h.coverage⟩
    unfold checkRegimes at hblockers ⊢
    simp only at hblockers ⊢
    rw [if_neg (not_lt.mpr h.coverage)] at hblockers ⊢
    rw [if_pos hblockers]
  have hrejects : (computeRejectQuality th e.attributableRejects).status = "PASS" := by
    unfold computeRejectQuality
    rw [h.rejects]
    rfl
  have hcalibration : (computeCalibration th e.calibration).status = "PASS" := by
    unfold computeCalibration
    rw [if_neg (not_lt.mpr h.calibration.1), if_neg h.calibration.2]
  have hdrawdown : (computeDrawdown lang th e.drawdowns).status = "PASS" := by
    unfold computeDrawdown
    rw [if_neg h.drawdown.1, if_neg (not_not.mpr h.drawdown.2.1), h.drawdown.2.2]
    rfl
  have hreconciliation : (checkReconciliation lang e.reconciliationStatus).status = "PASS" := by
    have hmem := h.reconciliation
    have hblockers : (checkReconciliation lang e.reconciliationStatus).blockers = [] :=
      checkReconciliation_nil.mpr hmem
    unfold checkReconciliation at hblockers ⊢
    simp only at hblockers ⊢
    split at hblockers
    · cases hblockers
    · rename_i hknown
      rw [if_neg hknown, if_pos hmem]
  have hconcentration : (computeConcentration th (qualificationTrades e)).status = "PASS" ↔
      ¬ totalContribution (qualificationTrades e) ≤ FloatNum.ofInt 0 := by
    unfold computeConcentration
    split
    · rename_i htotal
      exact iff_of_false (by decide) (not_not.mpr htotal)
    · rename_i htotal
      rw [if_pos (h.concentration.resolve_left htotal)]
      exact iff_of_true rfl htotal
  have hexpectancy : (evaluateRun lang th e run).expectancyStatus = "PASS" ↔
      ∃ x, lcb lang (qualificationTrades e) = some x ∧
        th.minLowerConfidenceBoundExpectancy ≤ x := by
    simp only [evaluateRun, hearly]
    exact expectancyStatus_clean
  have hevidence : (evaluateRun lang th e run).evidenceCompletenessStatus = "PASS" := by
    simp only [evaluateRun, hnil]
    rfl
  constructor
  · intro hall
    exact ⟨hconcentration.mp hall.concentration, hexpectancy.mp hall.expectancy⟩
  · intro ⟨htotal, hbound⟩
    exact ⟨hsamples, hexpectancy.mpr hbound, hexecution, hregimes, hrejects, hcalibration,
      hdrawdown, hconcentration.mpr htotal, hreconciliation, hevidence⟩

/-- **CANARY_QUALIFIED implies that every component is PASS exactly where the evidence is not clean,
    or has a positive contribution and a lower bound that is at least its threshold.** -/
theorem qualified_sound_iff (lang : Language F) (th : Thresholds F) (e : Evidence F) :
    ((evaluate lang th e).status = "CANARY_QUALIFIED" → AllPass (evaluate lang th e)) ↔
      (e.hasSchema = true → ∀ run, e.run = some run → Clean lang th e run →
        ¬ totalContribution (qualificationTrades e) ≤ FloatNum.ofInt 0 ∧
          ∃ x, lcb lang (qualificationTrades e) = some x ∧
            th.minLowerConfidenceBoundExpectancy ≤ x) := by
  have heval : ∀ run, e.hasSchema = true → e.run = some run →
      evaluate lang th e = evaluateRun lang th e run := by
    intro run hschema hrun
    unfold evaluate
    rw [if_pos hschema, hrun]
  constructor
  · intro h hschema run hrun hclean
    have hall := h (qualified_iff.mpr ⟨hschema, run, hrun, hclean⟩)
    rw [heval run hschema hrun] at hall
    exact (allPass_iff hclean).mp hall
  · intro h hq
    obtain ⟨hschema, run, hrun, hclean⟩ := qualified_iff.mp hq
    rw [heval run hschema hrun]
    exact (allPass_iff hclean).mpr (h hschema run hrun hclean)

end Verdict

/-! ## 3. A qualified run without concentration evidence -/

def sampleLanguage : Language Extended where
  py := ⟨fun _ => none, fun _ => "", fun _ => ""⟩
  upper := upper
  sqrt x := x
  lower := lower
  inf := .posInf

def sampleThresholds : Thresholds Extended := { minimumRegimeCoverage := 2 }

/-- A trade of one R that shows no result in money. -/
def sampleTrade : TradeRow Extended :=
  let zero : Option Extended := some (.finite 0)
  ⟨some "BTCUSDT", some "TRENDING", some "2026-01-02T00:00:00Z", some (.finite 1), some (.finite 1),
    zero, zero, zero, zero, zero, zero, zero, zero, 1, some (.list [])⟩

def sampleExecution : ExecutionRow Extended :=
  let one : Value Extended := .int 1
  ⟨one, one, one, one, one, one, one, one, one, some 0, some 0, some "CLEAN", "PASS"⟩

def sampleDrawdown : DrawdownRow Extended where
  drawdownEventId := "d1"
  peakEquity := .int 100
  troughEquity := .int 100
  drawdownPct := .int 0
  consecutiveLosses := some 0
  resolved := some 1
  payload := some (.mapping [("evidence_status", .text "COMPLETE"),
    ("evidence_source", .text "runtime"), ("risk_state_complete", .bool true)])

def sampleTests : Payload Extended :=
  [("status", .text "PASS"), ("source", .text "GITHUB_ACTIONS_PUSH"),
    ("repository", .text "werim/AlphaForge"), ("event", .text "push"),
    ("workflow_path", .text ".github/workflows/test.yml"), ("run_id", .int 1),
    ("full_regression_suite", .text "success"), ("head_sha", .text "abc"),
    ("required_steps", .mapping [("Full regression suite", .text "success"),
      ("Protected safety mutation gate", .text "success"),
        ("Run offline backtest", .text "success"),
      ("Verify backtest outputs", .text "success")])]

/-- Evidence that meets the default thresholds, with two regimes to cover. -/
def sampleEvidence : Evidence Extended where
  hasSchema := true
  run := some ⟨"rel-1", "PAPER", "abc", "config", "strategy", "universe", "provenance",
    some (.finite 604800), 500, 50, 450, 30⟩
  samples := 500
  accepted := 50
  rejected := 450
  trades := List.replicate 30 sampleTrade
  attributableRejects := List.replicate 50 ⟨none, some (.finite 1)⟩
  regimes := [⟨"TRENDING", some 20, none, "PASS"⟩, ⟨"CHOPPY", some 20, none, "PASS"⟩]
  calibration := [⟨some 50, some (.finite 0)⟩]
  execution := some sampleExecution
  drawdowns := [sampleDrawdown]
  observationMetrics := []
  runtimeErrorCount := 0
  reconciliationStatus := some (some "CLEAN")
  gates := ⟨true, true, some 0, true, true,
    [("CANARY", some "abc"), ("ROLLBACK", some "abc"), ("RUNBOOK", some "abc")], sampleTests⟩

/-- **Trades of zero profit in money qualify the run without concentration evidence.** -/
theorem qualified_unconcentrated :
    (evaluate sampleLanguage sampleThresholds sampleEvidence).status = "CANARY_QUALIFIED" ∧
      (evaluate sampleLanguage sampleThresholds sampleEvidence).concentrationStatus =
        "INSUFFICIENT_EVIDENCE" ∧
      ¬ AllPass (evaluate sampleLanguage sampleThresholds sampleEvidence) := by
  have hstatus : (evaluate sampleLanguage sampleThresholds sampleEvidence).concentrationStatus =
      "INSUFFICIENT_EVIDENCE" := by decide +kernel
  refine ⟨by decide +kernel, hstatus, fun h => ?_⟩
  rw [h.concentration] at hstatus
  exact absurd hstatus (by decide)

end AlphaForge.Burnin
