/-
  File:      AlphaForge/Burnin/Qualification.lean
  Subject:   `burnin_qualification.py`: the qualification of a burn-in run from its evidence.

  * `Evidence` -- what the queries of `evaluate` answer, and the state of the release gates.
  * `checkRegimes`, `computeDrawdown`, `computeExecution`, `computeConcentration` and the others --
    one component each: its status and the blockers it adds.
  * `evaluate` -- the snapshot less its metrics, which nothing here reads.
-/
import AlphaForge.Lib.Occurrences
import AlphaForge.Lib.Payload
import AlphaForge.Release.Gates

namespace AlphaForge.Burnin

open AlphaForge.Lib AlphaForge.Release

/-! ## 1. Thresholds and evidence -/

section Data

variable (F : Type) [FloatNum F]

/-- `BurnInThresholds`. -/
structure Thresholds where
  minimumDurationSeconds : F := FloatNum.ofInt (7 * 24 * 3600)
  minimumTotalDecisions : ℤ := 500
  minimumAcceptedTrades : ℤ := 50
  minimumClosedTrades : ℤ := 30
  minimumRejectedForwardOutcomes : ℤ := 50
  minimumRegimeSample : ℤ := 20
  minimumRegimeCoverage : ℤ := 3
  minimumCalibrationSample : ℤ := 50
  minimumGeometryViabilitySample : ℤ := 20
  minLowerConfidenceBoundExpectancy : F := 0.01
  maxDrawdownPct : F := 0.08
  maxCostDragPerTrade : F := 0.20
  maxSlippageDegradationRatio : F := 1.5
  maxSpreadDegradationRatio : F := 1.5
  maxLatencyDegradationRatio : F := 1.5
  maxFillDegradationRatio : F := 0.25
  maxRejectFalseRate : F := 0.35
  maxCalibrationError : F := 0.12
  maxSymbolConcentration : F := 0.35
  maxTradeContribution : F := 0.30
  maxRegimeConcentration : F := 0.55
  maxStaleDataRate : F := 0.05
  maxRuntimeErrorCount : ℤ := 0
  requireOperatorAck : Bool := true
  requirePhase16Gates : Bool := true

/-- What `evaluate` reads of a row of `burnin_runs`. -/
structure RunRow where
  releaseId : String
  executionMode : String
  gitCommit : String
  configHash : String
  strategyConfigHash : String
  universeHash : String
  sourceProvenanceJson : String
  observedDurationSeconds : Option F
  sampleCount : ℤ
  acceptedCount : ℤ
  rejectedCount : ℤ
  closedTradeCount : ℤ

/-- A row of `burnin_trade_outcomes`. `missingCostFields` is the parsed column, where it parses. -/
structure TradeRow where
  symbol : Option String
  regime : Option String
  closedAt : Option String
  grossR : Option F
  netR : Option F
  netPnl : Option F
  spreadCost : Option F
  entrySlippageCost : Option F
  exitSlippageCost : Option F
  feeCost : Option F
  fundingCost : Option F
  latencyCost : Option F
  totalExecutionCost : Option F
  evidenceComplete : ℤ
  missingCostFields : Option (Value F)

/-- What the reject quality reads of a row of `burnin_reject_outcomes`. -/
structure RejectQualityRow where
  missedProfit : Option F
  avoidedLoss : Option F

/-- A row of `burnin_regime_metrics`. -/
structure RegimeRow where
  regime : String
  sampleCount : Option ℤ
  lowerConfidenceBoundExpectancy : Option F
  status : String

/-- A row of `burnin_calibration_metrics`. -/
structure CalibrationRow where
  sampleCount : Option ℤ
  calibrationError : Option F

/-- A row of `burnin_execution_metrics`; its REAL columns may hold any value. -/
structure ExecutionRow where
  spreadBaseline : Value F
  spreadCurrent : Value F
  slippageBaseline : Value F
  slippageCurrent : Value F
  latencyBaseline : Value F
  latencyCurrent : Value F
  fillProbabilityBaseline : Value F
  fillProbabilityCurrent : Value F
  timeoutRate : Value F
  staleDataCount : Option ℤ
  executionRejects : Option ℤ
  reconciliationQuality : Option String
  status : String

/-- A row of `burnin_drawdown_events`; `payload` is the parsed column, where it parses. -/
structure DrawdownRow where
  drawdownEventId : String
  peakEquity : Value F
  troughEquity : Value F
  drawdownPct : Value F
  consecutiveLosses : Option ℤ
  resolved : Option ℤ
  payload : Option (Value F)

/-- What `_check_phase_gates` reads of the release gates. -/
structure GateReading where
  operatorAck : Bool
  passed : Bool
  mutationAttemptCount : Option ℕ
  rollbackVerified : Bool
  runbookVerified : Bool
  /-- CANARY, ROLLBACK and RUNBOOK with the commit of the evidence, if there is evidence. -/
  commitBoundEvidence : List (String × Option String)
  fullTests : Payload F

/-- **The evidence of a run**: what the queries answer. -/
structure Evidence where
  hasSchema : Bool
  run : Option (RunRow F)
  samples : ℤ
  accepted : ℤ
  rejected : ℤ
  trades : List (TradeRow F)
  /-- `attributable_rejects`. -/
  attributableRejects : List (RejectQualityRow F)
  regimes : List (RegimeRow F)
  calibration : List (CalibrationRow F)
  execution : Option (ExecutionRow F)
  drawdowns : List (DrawdownRow F)
  /-- The metrics of the canonical observations that parse to a mapping. -/
  observationMetrics : List (Payload F)
  runtimeErrorCount : ℤ
  /-- `reconciliation_status` of the latest runtime snapshot, if there is a snapshot. -/
  reconciliationStatus : Option (Option String)
  gates : GateReading F

end Data

variable {F : Type} [FloatNum F]

/-- What the language makes of texts and numbers. -/
structure Language (F : Type) where
  py : Builtins F
  /-- `text.upper()`. -/
  upper : String → String
  sqrt : F → F
  /-- `text.lower()`. -/
  lower : String → String
  /-- `math.inf`. -/
  inf : F

variable (lang : Language F) (th : Thresholds F)

/-! ## 2. Numbers and texts -/

/-- `sum(values)`. -/
def sumOf (values : List F) : F := values.foldl (· + ·) (FloatNum.ofInt 0)

/-- `float(value or 0)` of a nullable column. -/
def orZero (x : Option F) : F := x.getD (FloatNum.ofInt 0)

/-- `max(values)` of the values met, from a first one on. -/
def maxFrom (x : F) (values : List F) : F := values.foldl pyMax x

/-- `float(value)`; `none` where it raises. -/
def toFloat (v : Value F) : Option F :=
  match v with
  | .bool b => some (FloatNum.ofInt (if b then 1 else 0))
  | .int n => some (FloatNum.ofInt n)
  | .float x => some x
  | .text s => lang.py.parse s
  | _ => none

/-- A number that is finite. -/
def finiteNumber (v : Value F) : Option F := (toFloat lang v).filter fun x => FloatNum.isFinite x

def isNone : Value F → Bool
  | .none => true
  | _ => false

/-- `text.startswith(p)`. -/
def startsWith (p text : String) : Bool := p.toList.isPrefixOf text.toList

/-- `blockers.append(text)` where a check fails. -/
def blocked (p : Prop) [Decidable p] (text : String) : List String := if p then [text] else []

omit [FloatNum F] in
theorem blocked_nil {p : Prop} [Decidable p] {text : String} : blocked p text = [] ↔ ¬ p := by
  unfold blocked
  by_cases h : p
  · rw [if_pos h]
    exact iff_of_false nofun fun hn => hn h
  · rw [if_neg h]
    exact iff_of_true rfl h

/-- A status and the blockers that come with it. -/
structure Component where
  status : String
  blockers : List String

/-! ## 3. Trades -/

def TradeRow.criticalCosts (t : TradeRow F) : List (Option F) :=
  [t.spreadCost, t.entrySlippageCost, t.exitSlippageCost, t.feeCost, t.fundingCost, t.latencyCost]

/-- `_qualification_trade_complete`. -/
def qualificationTradeComplete (t : TradeRow F) : Bool :=
  t.evidenceComplete = 1 && t.closedAt.isSome && t.grossR.isSome && t.netR.isSome &&
    t.totalExecutionCost.isSome && t.criticalCosts.all Option.isSome &&
    match t.missingCostFields with
    | some (.list []) => true
    | _ => false

/-- `qualification_trades`. -/
def qualificationTrades (e : Evidence F) : List (TradeRow F) :=
  e.trades.filter qualificationTradeComplete

/-- `confidence_interval(values)`: the lower bound. -/
def lowerBound (values : List F) : Option F :=
  let vals := values.filter fun v => FloatNum.isFinite v
  let n : F := FloatNum.ofInt vals.length
  let mean := sumOf vals / n
  if vals = [] then none
  else if vals.length < 2 then some mean
  else
    let var := sumOf (vals.map fun v => (v - mean) * (v - mean)) / FloatNum.ofInt (vals.length - 1)
    some (mean - 1.96 * lang.sqrt (var / n))

/-- `lower_confidence_bound_expectancy`, from the sorted net results. -/
def lcb (trades : List (TradeRow F)) : Option F :=
  lowerBound lang ((trades.map fun t => orZero t.netR).insertionSort fun a b => ¬ b < a)

/-- `cost_drag_per_trade`. -/
def costDrag (trades : List (TradeRow F)) : Option F :=
  if trades = [] then none
  else some (sumOf (trades.map fun t => orZero t.totalExecutionCost) / FloatNum.ofInt trades.length)

/-- The check of a bound that must be there. -/
def refuses (x : Option F) (bad : F → Bool) : Bool :=
  match x with
  | none => true
  | some v => bad v

/-- `_compute_expectancy`. -/
def computeExpectancy (trades : List (TradeRow F)) : List String :=
  blocked (refuses (lcb lang trades) fun v => v < th.minLowerConfidenceBoundExpectancy)
    "LOWER_CONFIDENCE_BOUND_EXPECTANCY_NOT_POSITIVE" ++
  blocked (refuses (costDrag trades) fun v => th.maxCostDragPerTrade < v)
    "COST_DRAG_EXCESSIVE_OR_MISSING"

/-- `expectancy_status`, after the blockers so far. -/
def expectancyStatus (trades : List (TradeRow F)) (blockers : List String) : String :=
  if !refuses (lcb lang trades) (fun v => !decide (th.minLowerConfidenceBoundExpectancy ≤ v)) &&
      !blockers.any fun b => startsWith "INCOMPLETE_COST" b || b = "COST_DRAG_EXCESSIVE_OR_MISSING"
  then "PASS" else "FAIL"

/-! ## 4. Samples and geometry -/

/-- The five sample checks: name, failure, rendering. -/
def sampleChecks (e : Evidence F) (run : RunRow F) : List (String × Bool × String) :=
  let duration := orZero run.observedDurationSeconds
  let count := fun (name : String) (obs limit : ℤ) =>
    (name, decide (obs < limit), toString obs ++ "<" ++ toString limit)
  [("MINIMUM_DURATION", decide (duration < th.minimumDurationSeconds),
      lang.py.str (.float duration) ++ "<" ++ lang.py.str (.float th.minimumDurationSeconds)),
    count "MINIMUM_TOTAL_DECISIONS" e.samples th.minimumTotalDecisions,
    count "MINIMUM_ACCEPTED_TRADES" e.accepted th.minimumAcceptedTrades,
    count "MINIMUM_CLOSED_TRADES" (qualificationTrades e).length th.minimumClosedTrades,
    count "MINIMUM_REJECTED_FORWARD_OUTCOMES" e.attributableRejects.length
      th.minimumRejectedForwardOutcomes]

/-- `sample_status` with its blockers. -/
def checkSamples (e : Evidence F) (run : RunRow F) : Component :=
  let blockers := (sampleChecks lang th e run).flatMap
    fun c => blocked (c.2.1) (c.1 ++ ":" ++ c.2.2)
  ⟨if blockers = [] then "PASS" else "INSUFFICIENT", blockers⟩

/-- `value if isinstance(value, dict) else {}`. -/
def dictOf (v : Value F) : Payload F := v.asMapping

def isDict : Value F → Bool
  | .mapping _ => true
  | _ => false

/-- The metrics of a guided decision with a candidate. -/
def isGuided (metrics : Payload F) : Bool :=
  let generation := dictOf ((dictOf (metrics.get "mtf")).get "generation")
  lang.upper (((generation.get "mode").or (.text "")).str lang.py) = "REGIME_GUIDED" &&
    isDict (generation.get "candidate")

/-- `stop_distance` of a guided decision. -/
def stopDistance (metrics : Payload F) : Option F :=
  match finiteNumber lang (metrics.get "stop_distance_pct") with
  | some x => some x
  | none =>
    match finiteNumber lang (metrics.get "entry"), finiteNumber lang (metrics.get "sl") with
    | some entry, some stop =>
      if FloatNum.ofInt 0 < entry then some (FloatNum.abs (entry - stop) / entry * 100.0) else none
    | _, _ => none

/-- The stop distance and the least one allowed, where the geometry can be evaluated. -/
def evaluableGeometry (metrics : Payload F) : Option (F × F) :=
  match stopDistance lang metrics, finiteNumber lang (metrics.get "min_stop_pct"),
      finiteNumber lang (metrics.get "max_stop_pct") with
  | some distance, some least, some _ => some (distance, least)
  | _, _, _ => none

/-- `evaluable` and `below_min`. -/
def geometryCounts (e : Evidence F) : ℤ × ℤ :=
  let evaluable := (e.observationMetrics.filter (isGuided lang)).filterMap (evaluableGeometry lang)
  (evaluable.length, (evaluable.filter fun g => g.1 < g.2).length)

/-- `_check_guided_geometry_viability`: every guided decision, of enough, is below its least
    stop. -/
def structuralSuppression (e : Evidence F) : Prop :=
  (e.observationMetrics.filter (isGuided lang)) ≠ [] ∧
    th.minimumGeometryViabilitySample ≤ (geometryCounts lang e).1 ∧
    (geometryCounts lang e).2 = (geometryCounts lang e).1

instance (e : Evidence F) : Decidable (structuralSuppression lang th e) :=
  @instDecidableAnd _ _
    (decidable_of_iff ((e.observationMetrics.filter (isGuided lang)).isEmpty = false)
      (by rw [Bool.eq_false_iff, ne_eq, List.isEmpty_iff]))
    inferInstance

def checkGuidedGeometryViability (e : Evidence F) : List String :=
  blocked (structuralSuppression lang th e) ("GUIDED_GEOMETRY_STRUCTURAL_SUPPRESSION:" ++
    toString (geometryCounts lang e).2 ++ "/" ++ toString (geometryCounts lang e).1)

/-! ## 5. Regimes, rejects, calibration -/

/-- `normalize_regime_name` answers one of the two qualifiable states. -/
def isQualifiableRegime (regime : String) : Bool :=
  lang.upper (if regime = "" then "UNKNOWN" else regime) ∈ ["TRENDING", "CHOPPY"]

/-- `reg`. -/
def regimeName (r : RegimeRow F) : String := lang.upper
    (if r.regime = "" then "UNKNOWN" else r.regime)

def sampleOf (n : Option ℤ) : ℤ := n.getD 0

def rowPasses (r : RegimeRow F) : Bool := lang.upper r.status = "PASS"

/-- What one row of the loop appends. -/
def regimeRowBlockers (r : RegimeRow F) : List String :=
  blocked (regimeName lang r = "UNKNOWN" ∧ rowPasses lang r = true) "UNKNOWN_REGIME_CANNOT_PASS" ++
  if isQualifiableRegime lang (regimeName lang r) then
    blocked (th.minimumRegimeSample ≤ sampleOf r.sampleCount ∧
      ∃ x ∈ r.lowerConfidenceBoundExpectancy, x < FloatNum.ofInt 0)
      ("NEGATIVE_MATERIAL_REGIME:" ++ regimeName lang r)
  else
    blocked (0 < sampleOf r.sampleCount ∧ rowPasses lang r = true)
      ("UNQUALIFIED_REGIME_AUTHORITY:" ++ regimeName lang r)

/-- `material`. -/
def materialRegimes (regimes : List (RegimeRow F)) : ℤ :=
  (regimes.filter fun r => isQualifiableRegime lang (regimeName lang r) &&
    decide (th.minimumRegimeSample ≤ sampleOf r.sampleCount)).length

/-- `_check_regimes`. -/
def checkRegimes (regimes : List (RegimeRow F)) : Component :=
  let rowBlockers := regimes.flatMap (regimeRowBlockers lang th)
  if materialRegimes lang th regimes < th.minimumRegimeCoverage then
    ⟨"INSUFFICIENT", rowBlockers ++ ["INSUFFICIENT_REGIME_COVERAGE"]⟩
  else ⟨if rowBlockers = [] then "PASS" else "FAIL", rowBlockers⟩

/-- `net` and `false_rate` of the reject quality. -/
def netRejectValue (rejects : List (RejectQualityRow F)) : F :=
  sumOf (rejects.map fun r => orZero r.avoidedLoss - orZero r.missedProfit)

def falseRejectRate (rejects : List (RejectQualityRow F)) : F :=
  FloatNum.ofInt (rejects.filter fun r => FloatNum.ofInt 0 < orZero r.missedProfit).length /
    FloatNum.ofInt rejects.length

/-- The reject quality is not sufficient. -/
def rejectQualityFails (rejects : List (RejectQualityRow F)) : Bool :=
  rejects.isEmpty || netRejectValue rejects < FloatNum.ofInt 0 ||
    th.maxRejectFalseRate < falseRejectRate rejects

/-- `_compute_reject_quality`. -/
def computeRejectQuality (rejects : List (RejectQualityRow F)) : Component :=
  if rejectQualityFails th rejects then ⟨"FAIL", ["REJECT_QUALITY_INSUFFICIENT"]⟩ else ⟨"PASS", []⟩

/-- `samples` and `worst`. -/
def calibrationSamples (rows : List (CalibrationRow F)) : ℤ :=
  (rows.map fun r => sampleOf r.sampleCount).sum

def worstCalibrationError (rows : List (CalibrationRow F)) : F :=
  match rows.map fun r => r.calibrationError.getD (FloatNum.ofInt 999) with
  | [] => FloatNum.ofInt 999
  | x :: rest => maxFrom x rest

/-- `_compute_calibration`. -/
def computeCalibration (rows : List (CalibrationRow F)) : Component :=
  if calibrationSamples rows < th.minimumCalibrationSample then
    ⟨"INSUFFICIENT", ["CALIBRATION_SAMPLE_INSUFFICIENT"]⟩
  else if th.maxCalibrationError < worstCalibrationError rows then
    ⟨"FAIL", ["CALIBRATION_QUALITY_INSUFFICIENT"]⟩
  else ⟨"PASS", []⟩

/-! ## 6. Drawdown -/

/-- `math.isclose(a, b, rel_tol=1e-6, abs_tol=1e-9)` of finite numbers. -/
def isClose (a b : F) : Bool :=
  FloatNum.feq a b || FloatNum.abs (a - b) ≤ FloatNum.abs (1e-6 * b) ||
    FloatNum.abs (a - b) ≤ FloatNum.abs (1e-6 * a) || decide (FloatNum.abs (a - b) ≤ (1e-9 : F))

/-- What is wrong with a REAL column: it is missing, or no finite number. -/
def numericGap (name : String) (v : Value F) : List String :=
  blocked ((finiteNumber lang v).isNone) name

/-- What is wrong with the two whole columns. -/
def wholeGaps (d : DrawdownRow F) : List String :=
  (match d.consecutiveLosses with
    | none => ["consecutive_losses"]
    | some n => blocked (n < 0) "consecutive_losses") ++
  match d.resolved with
  | none => ["resolved"]
  | some n => blocked (n ≠ 0 ∧ n ≠ 1) "resolved"

/-- What is wrong with the payload. -/
def payloadGaps (d : DrawdownRow F) : List String :=
  let payload := dictOf (d.payload.getD .none)
  blocked ((d.payload.map isDict).getD false = false) "payload_json" ++
  blocked ((match payload.get "evidence_status" with
    | .text s => s = "COMPLETE"
    | _ => false) = false) "payload.evidence_status" ++
  blocked ((payload.get "evidence_source").truthy = false) "payload.evidence_source" ++
  blocked ((match payload.get "risk_state_complete" with
    | .bool b => b
    | _ => false) = false) "payload.risk_state_complete"

/-- What is wrong with the relation of peak, trough and drawdown. -/
def relationGaps (peak trough drawdown : Option F) : List String :=
  let zero : F := FloatNum.ofInt 0
  (match peak with
    | some p => blocked (p ≤ zero) "peak_equity"
    | none => []) ++
  (match peak, trough with
    | some p, some t =>
      if t < zero ∨ p < t then ["trough_equity"]
      else
        match drawdown with
        | some d =>
          blocked (zero < p ∧ isClose d (pyMax zero ((p - t) / p)) = false)
            "drawdown_pct_consistency"
        | none => []
    | _, _ => []) ++
  match drawdown with
  | some d => blocked (¬ (zero ≤ d ∧ d ≤ FloatNum.ofInt 1)) "drawdown_pct"
  | none => []

/-- `missing` of a drawdown event. -/
def drawdownMissing (d : DrawdownRow F) : List String :=
  numericGap lang "peak_equity" d.peakEquity ++ numericGap lang "trough_equity" d.troughEquity ++
    numericGap lang "drawdown_pct" d.drawdownPct ++ wholeGaps d ++ payloadGaps d ++
    relationGaps (finiteNumber lang d.peakEquity) (finiteNumber lang d.troughEquity)
      (finiteNumber lang d.drawdownPct)

/-- `gaps`. -/
def drawdownGaps (rows : List (DrawdownRow F)) : List String :=
  (rows.zipIdx.filter fun d => !(drawdownMissing lang d.1).isEmpty).map fun d =>
    (if d.1.drawdownEventId = "" then "row_" ++ toString d.2 else d.1.drawdownEventId) ++ ":" ++
      String.intercalate "," (sortedSet (drawdownMissing lang d.1))

/-- `maxdd` of rows without gaps. -/
def maxDrawdown (rows : List (DrawdownRow F)) : Option F :=
  match rows.filterMap fun d => finiteNumber lang d.drawdownPct with
  | [] => none
  | x :: rest => some (maxFrom x rest)

/-- `unresolved`. -/
def unresolvedDrawdowns (rows : List (DrawdownRow F)) : ℕ :=
  (rows.filter fun d => d.resolved = some 0).length

/-- The drawdown exceeds its bound, or is not resolved. -/
def drawdownBlocked (rows : List (DrawdownRow F)) : Bool :=
  (maxDrawdown lang rows).any (fun x => th.maxDrawdownPct < x) || unresolvedDrawdowns rows ≠ 0

/-- `_compute_drawdown`. -/
def computeDrawdown (rows : List (DrawdownRow F)) : Component :=
  if rows = [] then ⟨"INSUFFICIENT_EVIDENCE", ["DRAWDOWN_INSUFFICIENT_EVIDENCE"]⟩
  else if drawdownGaps lang rows ≠ [] then
    ⟨"INSUFFICIENT_EVIDENCE", ["DRAWDOWN_INSUFFICIENT_EVIDENCE:" ++
      String.intercalate "|" (drawdownGaps lang rows)]⟩
  else if drawdownBlocked lang th rows then ⟨"FAIL", ["DRAWDOWN_OR_LOSS_CLUSTER_BLOCKER"]⟩
  else ⟨"PASS", []⟩

/-! ## 7. Execution -/

/-- `numeric_fields`. -/
def ExecutionRow.numericFields (x : ExecutionRow F) : List (String × Value F) :=
  [("spread_baseline", x.spreadBaseline), ("spread_current", x.spreadCurrent),
    ("slippage_baseline", x.slippageBaseline), ("slippage_current", x.slippageCurrent),
    ("latency_baseline", x.latencyBaseline), ("latency_current", x.latencyCurrent),
    ("fill_probability_baseline", x.fillProbabilityBaseline),
    ("fill_probability_current", x.fillProbabilityCurrent), ("timeout_rate", x.timeoutRate)]

/-- `missing` and `invalid_numeric`. -/
def executionGaps (x : ExecutionRow F) : List String :=
  x.numericFields.flatMap (fun f => numericGap lang f.1 f.2) ++
    blocked (x.staleDataCount = none) "stale_data_count" ++
    blocked (x.executionRejects = none) "execution_rejects" ++
    blocked (x.reconciliationQuality = none) "reconciliation_quality"

/-- `ratio(cur, base)` exceeds the limit. -/
def ratioExceeds (current baseline : Value F) (limit : F) : Bool :=
  match finiteNumber lang current, finiteNumber lang baseline with
  | some cur, some base =>
    if FloatNum.feq base (FloatNum.ofInt 0) then
      if FloatNum.feq cur (FloatNum.ofInt 0) then limit < FloatNum.ofInt 1
      else limit < lang.inf
    else limit < cur / base
  | _, _ => false

def fillDegraded (x : ExecutionRow F) : Bool :=
  match finiteNumber lang x.fillProbabilityBaseline, finiteNumber lang x.fillProbabilityCurrent with
  | some baseline, some current => th.maxFillDegradationRatio < baseline - current
  | _, _ => false

def staleCluster (x : ExecutionRow F) : Bool :=
  th.maxStaleDataRate < (FloatNum.ofInt (sampleOf x.staleDataCount) : F) /
    FloatNum.ofInt (max 1 (sampleOf x.executionRejects + 1))

/-- `reasons`. -/
def executionReasons (x : ExecutionRow F) : List String :=
  blocked (lang.upper x.status ∈ ["DEGRADED", "SEVERELY_DEGRADED", "INSUFFICIENT_EVIDENCE", "FAIL"])
    ("EXECUTION_" ++ lang.upper x.status) ++
  blocked (ratioExceeds lang x.spreadCurrent x.spreadBaseline th.maxSpreadDegradationRatio)
    "SPREAD_DEGRADATION" ++
  blocked (ratioExceeds lang x.slippageCurrent x.slippageBaseline th.maxSlippageDegradationRatio)
    "SLIPPAGE_SPIKE" ++
  blocked (ratioExceeds lang x.latencyCurrent x.latencyBaseline th.maxLatencyDegradationRatio)
    "LATENCY_DEGRADATION" ++
  blocked (fillDegraded lang th x) "FILL_DEGRADATION" ++
  blocked (staleCluster th x) "STALE_DATA_CLUSTER"

/-- `_compute_execution`. -/
def computeExecution (execution : Option (ExecutionRow F)) : Component :=
  match execution with
  | none => ⟨"INSUFFICIENT_EVIDENCE", ["EXECUTION_INSUFFICIENT_EVIDENCE"]⟩
  | some x =>
    if executionGaps lang x ≠ [] then
      ⟨"INSUFFICIENT_EVIDENCE", ["EXECUTION_INSUFFICIENT_EVIDENCE:" ++
        String.intercalate "," (sortedSet (executionGaps lang x))]⟩
    else
      ⟨if lang.upper x.status = "INSUFFICIENT_EVIDENCE" then "INSUFFICIENT_EVIDENCE"
        else if executionReasons lang th x = [] then "PASS" else "FAIL",
        executionReasons lang th x⟩

/-! ## 8. Concentration -/

/-- `val`: the positive part of a trade's result. -/
def contribution (t : TradeRow F) : F := pyMax (FloatNum.ofInt 0) (t.netPnl.getD (orZero t.netR))

def totalContribution (trades : List (TradeRow F)) : F := sumOf (trades.map contribution)

/-- `str(column or "UNKNOWN")`. -/
def groupName (name : Option String) : String :=
  if name.getD "" = "" then "UNKNOWN" else name.getD ""

/-- The largest sum of a group over the total. -/
def groupShare (name : TradeRow F → String) (trades : List (TradeRow F)) : F :=
  let sums := (firsts [] (trades.map name)).map fun key =>
    totalContribution (trades.filter fun t => name t = key)
  (match sums with
    | [] => FloatNum.ofInt 0
    | x :: rest => maxFrom x rest) / totalContribution trades

/-- `top / total`. -/
def topTradeShare (trades : List (TradeRow F)) : F :=
  maxFrom (FloatNum.ofInt 0) (trades.map contribution) / totalContribution trades

/-- `reasons`. -/
def concentrationReasons (trades : List (TradeRow F)) : List String :=
  blocked (th.maxSymbolConcentration < groupShare (fun t => groupName t.symbol) trades)
    "SYMBOL_CONCENTRATION_BREACH" ++
  blocked (th.maxTradeContribution < topTradeShare trades) "TRADE_CONCENTRATION_BREACH" ++
  blocked (th.maxRegimeConcentration < groupShare (fun t => groupName t.regime) trades)
    "REGIME_CONCENTRATION_BREACH"

/-- `_compute_concentration`: no blocker comes with the missing evidence. -/
def computeConcentration (trades : List (TradeRow F)) : Component :=
  if totalContribution trades ≤ FloatNum.ofInt 0 then ⟨"INSUFFICIENT_EVIDENCE", []⟩
  else
    ⟨if concentrationReasons th trades = [] then "PASS" else "FAIL", concentrationReasons th trades⟩

/-! ## 9. Reconciliation and release gates -/

/-- `_check_reconciliation`. -/
def checkReconciliation (snapshot : Option (Option String)) : Component :=
  let status := lang.upper ((snapshot.bind id).getD "")
  if status = "" ∨ status = "UNKNOWN" then ⟨"NO_EVIDENCE", ["RECONCILIATION_EVIDENCE_MISSING"]⟩
  else if status ∈ ["CLEAN", "NOT_REQUIRED_BACKTEST"] then ⟨"PASS", []⟩
  else ⟨"FAIL", ["RECONCILIATION_NOT_CLEAN"]⟩

/-- `str(value or "")`. -/
def textOfValue (v : Value F) : String := (v.or (.text "")).str lang.py

/-- `provenance_ok`. -/
def provenanceOk (tests : Payload F) : Bool :=
  let steps := dictOf (tests.get "required_steps")
  textOfValue lang (tests.get "source") = "GITHUB_ACTIONS_PUSH" &&
    textOfValue lang (tests.get "repository") = "werim/AlphaForge" &&
    lang.lower (textOfValue lang (tests.get "event")) = "push" &&
    textOfValue lang (tests.get "workflow_path") = ".github/workflows/test.yml" &&
    !isNone (tests.get "run_id") &&
    lang.lower (textOfValue lang (tests.get "full_regression_suite")) = "success" &&
    ["Full regression suite", "Protected safety mutation gate", "Run offline backtest",
      "Verify backtest outputs"].all fun name =>
        lang.lower (textOfValue lang (steps.get name)) = "success"

/-- The blockers of commits that are missing or of another commit than the run. -/
def commitBlockers (gates : GateReading F) (expected : String) : List String :=
  if expected = "" then []
  else gates.commitBoundEvidence.flatMap fun item =>
    match item.2 with
    | none => []
    | some commit =>
      if commit = "" then [item.1 ++ "_EVIDENCE_COMMIT_MISSING"]
      else blocked (commit ≠ expected) (item.1 ++ "_EVIDENCE_COMMIT_MISMATCH")

/-- The blockers of the full test evidence. -/
def fullTestBlockers (tests : Payload F) (expected : String) : List String :=
  if lang.upper (textOfValue lang (tests.get "status")) ≠ "PASS" then ["FULL_TEST_EVIDENCE_MISSING"]
  else
    blocked (provenanceOk lang tests = false) "FULL_TEST_EVIDENCE_UNVERIFIED" ++
    blocked (expected ≠ "" ∧ textOfValue lang (tests.get "head_sha") ≠ expected)
      "FULL_TEST_EVIDENCE_COMMIT_MISMATCH"

/-- `_check_phase_gates`. -/
def checkPhaseGates (gates : GateReading F) (expected : String) : List String :=
  blocked (th.requireOperatorAck = true ∧ gates.operatorAck = false)
    "OPERATOR_ACK_MISSING_OR_EXPIRED" ++
  if th.requirePhase16Gates then
    (if gates.passed then [] else ["PHASE1_6_GATES_NOT_PASSING", "RELEASE_GATE_NOT_READY"]) ++
    (match gates.mutationAttemptCount with
      | none => ["CANARY_EVIDENCE_MISSING"]
      | some n => blocked (0 < n) "MUTATION_ATTEMPT_DETECTED") ++
    blocked (gates.rollbackVerified = false) "ROLLBACK_NOT_VERIFIED" ++
    blocked (gates.runbookVerified = false) "RUNBOOK_NOT_VERIFIED" ++
    commitBlockers gates expected ++ fullTestBlockers lang gates.fullTests expected
  else []

/-! ## 10. The evaluation -/

/-- The blockers of the run itself. -/
def runBlockers (e : Evidence F) (run : RunRow F) : List String :=
  blocked (lang.upper run.executionMode ∉ ["PAPER", "LIVE_PRECHECK"])
    ("INVALID_EXECUTION_MODE:" ++ lang.upper run.executionMode) ++
  [("git_commit", run.gitCommit), ("config_hash", run.configHash),
    ("strategy_config_hash", run.strategyConfigHash), ("universe_hash", run.universeHash),
    ("source_provenance_json", run.sourceProvenanceJson)].flatMap (fun field =>
      blocked (field.2 = "") ("MISSING_PROVENANCE:" ++ field.1)) ++
  blocked (th.maxRuntimeErrorCount < e.runtimeErrorCount)
    ("RUNTIME_ERROR_CLUSTER:" ++ toString e.runtimeErrorCount ++ ">" ++
      toString th.maxRuntimeErrorCount) ++
  blocked (¬ (run.sampleCount = e.samples ∧ run.acceptedCount = e.accepted ∧
      run.rejectedCount = e.rejected ∧ run.closedTradeCount = e.trades.length))
    "BURNIN_COUNTER_RECONCILIATION_FAILED"

/-- `incomplete_trade_count`. -/
def incompleteTrades (e : Evidence F) : ℤ := e.trades.length - (qualificationTrades e).length

def incompleteBlockers (e : Evidence F) : List String :=
  blocked (incompleteTrades e ≠ 0) ("INCOMPLETE_COST_EVIDENCE:" ++ toString (incompleteTrades e))

/-- The snapshot less its ids, times, thresholds, metrics and warnings. -/
structure QualificationSnapshot where
  status : String
  sampleStatus : String := "INSUFFICIENT"
  expectancyStatus : String := "FAIL"
  executionStatus : String := "INSUFFICIENT_EVIDENCE"
  regimeStatus : String := "INSUFFICIENT"
  rejectQualityStatus : String := "FAIL"
  calibrationStatus : String := "INSUFFICIENT"
  drawdownStatus : String := "FAIL"
  concentrationStatus : String := "FAIL"
  reconciliationStatus : String := "UNKNOWN"
  evidenceCompletenessStatus : String := "FAIL"
  blockers : List String

/-- The blockers up to the expectancy. -/
def earlyBlockers (e : Evidence F) (run : RunRow F) : List String :=
  runBlockers lang th e run ++ (checkSamples lang th e run).blockers ++
    checkGuidedGeometryViability lang th e ++ incompleteBlockers e ++
    computeExpectancy lang th (qualificationTrades e)

/-- All `blockers` of a run. -/
def allBlockers (e : Evidence F) (run : RunRow F) : List String :=
  earlyBlockers lang th e run ++ (checkRegimes lang th e.regimes).blockers ++
    (computeRejectQuality th e.attributableRejects).blockers ++
    (computeCalibration th e.calibration).blockers ++
    (computeDrawdown lang th e.drawdowns).blockers ++
    (computeExecution lang th e.execution).blockers ++
    (computeConcentration th (qualificationTrades e)).blockers ++
    (checkReconciliation lang e.reconciliationStatus).blockers ++
    checkPhaseGates lang th e.gates run.gitCommit

/-- `evidence_status`. -/
def evidenceStatus (blockers : List String) : String :=
  if blockers.any fun b => b = "BURNIN_SCHEMA_OR_EVIDENCE_MISSING" ||
      startsWith "MISSING_PROVENANCE" b || startsWith "INCOMPLETE_COST" b
  then "FAIL" else "PASS"

/-- `status`. -/
def qualificationStatus (blockers : List String) (sampleStatus : String) : String :=
  if blockers = [] then "CANARY_QUALIFIED"
  else if blockers.any (fun b => ["MISSING", "INSUFFICIENT", "NO_", "BURNIN_SCHEMA"].any fun m =>
      isIn m b) || sampleStatus = "INSUFFICIENT" then "BURN_IN_INSUFFICIENT"
  else "BURN_IN_FAILED"

/-- The blockers for which a qualified run is suspended, with their reasons. -/
def suspensionMapping : List (String × String) :=
  [("SPREAD_DEGRADATION", "SPREAD_DEGRADATION"), ("SLIPPAGE_SPIKE", "SLIPPAGE_SPIKE"),
    ("LATENCY_DEGRADATION", "LATENCY_DEGRADATION"), ("FILL_DEGRADATION", "FILL_DEGRADATION"),
    ("REJECT_QUALITY_INSUFFICIENT", "REJECT_QUALITY_COLLAPSE"),
    ("CALIBRATION_QUALITY_INSUFFICIENT", "CALIBRATION_DRIFT"),
    ("RECONCILIATION_NOT_CLEAN", "RECONCILIATION_FAILURE"),
    ("STALE_DATA_CLUSTER", "STALE_DATA_CLUSTER"), ("MUTATION_ATTEMPT_DETECTED", "MUTATION_ATTEMPT"),
    ("OPERATOR_ACK_MISSING_OR_EXPIRED", "OPERATOR_ACK_EXPIRY"),
    ("ROLLBACK_NOT_VERIFIED", "ROLLBACK_INVALIDATION"),
    ("RUNBOOK_NOT_VERIFIED", "RUNBOOK_INVALIDATION"),
    ("SYMBOL_CONCENTRATION_BREACH", "SYMBOL_CONCENTRATION_BREACH"),
    ("TRADE_CONCENTRATION_BREACH", "TRADE_CONCENTRATION_BREACH"),
    ("REGIME_CONCENTRATION_BREACH", "REGIME_CONCENTRATION_BREACH")]

/-- `suspension_reasons`: of the metrics it reads the lower bound, the drawdown (missing where the
    rows have gaps) and the runtime errors. -/
def suspensionReasons (e : Evidence F) (blockers : List String) : List String :=
  sortedSet (
    blocked (∃ x ∈ lcb lang (qualificationTrades e), x < th.minLowerConfidenceBoundExpectancy)
      "ROLLING_EXPECTANCY_BREACH" ++
    blocked (th.maxDrawdownPct < if drawdownGaps lang e.drawdowns = [] then
      orZero (maxDrawdown lang e.drawdowns) else FloatNum.ofInt 0) "DRAWDOWN_BREACH" ++
    blocked (th.maxRuntimeErrorCount < e.runtimeErrorCount) "RUNTIME_ERROR_CLUSTER" ++
    blocked ("PERSISTENCE_FAILURE" ∈ blockers) "PERSISTENCE_FAILURE" ++
    blocked (∃ b ∈ blockers, startsWith "GUIDED_GEOMETRY_STRUCTURAL_SUPPRESSION:" b = true)
      "GUIDED_GEOMETRY_STRUCTURAL_SUPPRESSION" ++
    suspensionMapping.flatMap fun m => blocked (m.1 ∈ blockers) m.2)

/-- `evaluate` of a run that is there. -/
def evaluateRun (e : Evidence F) (run : RunRow F) : QualificationSnapshot :=
  let blockers := allBlockers lang th e run
  let sampleStatus := (checkSamples lang th e run).status
  let status := qualificationStatus blockers sampleStatus
  let suspension := suspensionReasons lang th e blockers
  let suspended := status = "CANARY_QUALIFIED" ∧ suspension ≠ []
  { status := if suspended then "CANARY_SUSPENDED" else status
    sampleStatus := sampleStatus
    expectancyStatus := expectancyStatus lang th (qualificationTrades e)
      (earlyBlockers lang th e run)
    executionStatus := (computeExecution lang th e.execution).status
    regimeStatus := (checkRegimes lang th e.regimes).status
    rejectQualityStatus := (computeRejectQuality th e.attributableRejects).status
    calibrationStatus := (computeCalibration th e.calibration).status
    drawdownStatus := (computeDrawdown lang th e.drawdowns).status
    concentrationStatus := (computeConcentration th (qualificationTrades e)).status
    reconciliationStatus := (checkReconciliation lang e.reconciliationStatus).status
    evidenceCompletenessStatus := evidenceStatus blockers
    blockers := if suspended then blockers ++ suspension else blockers }

/-- `BurnInQualificationEngine.evaluate`. -/
def evaluate (e : Evidence F) : QualificationSnapshot :=
  if e.hasSchema then
    match e.run with
    | none =>
      { status := "BURN_IN_INSUFFICIENT"
        blockers := ["BURNIN_SCHEMA_OR_EVIDENCE_MISSING", "NO_BURNIN_RUN"] }
    | some run => evaluateRun lang th e run
  else { status := "BURN_IN_INSUFFICIENT", blockers := ["BURNIN_SCHEMA_OR_EVIDENCE_MISSING"] }

end AlphaForge.Burnin
