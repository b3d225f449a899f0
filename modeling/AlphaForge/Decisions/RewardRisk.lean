/-
  File:      AlphaForge/Decisions/RewardRisk.lean
  Subject:   The reward-risk metrics of a decision (`execution.py`, `effective_rr.py`) and their
             re-check before a submission (`decision_invariant.py`).

  `buildDecisionRrMetrics` rounds the executable ratio, the remaining penalty and the effective
  ratio to six digits each, the last from unrounded values. `effectiveRrViolations` recomputes the
  effective ratio from the two rounded numbers and tolerates 1e-6.

  * **`effective_rr_consistent`** -- the re-check accepts whatever the builder produces: one unit
    of the sixth digit is the worst case, and it is within the tolerance.

  Numbers are exact. A field is `none` where the value is missing or not a number.
-/
import AlphaForge.Lib.Decimal
import AlphaForge.Lib.PyValues

namespace AlphaForge.Decisions

open AlphaForge.Lib

/-! ## 1. The cost model -/

/-- The part of an execution context that the cost model reads. -/
structure ExecutionContext where
  spreadPct : Option ℚ
  expectedSlippagePct : Option ℚ
  latencyMs : Option ℚ
  fundingRatePct : Option ℚ
  feePct : Option ℚ
  liquidityScore : Option ℚ
  volatilityRegime : Option String
  deriving DecidableEq, Repr

/-- `ExecutionCostModel`, less the evidence class, which nothing here reads. -/
structure ExecutionCostModel where
  spreadPenalty : ℚ
  slippagePenalty : ℚ
  latencyPenalty : ℚ
  feePenalty : ℚ
  fundingPenalty : ℚ
  liquidityPenalty : ℚ
  volatilityPenalty : ℚ
  totalPenalty : ℚ
  missingFields : List String
  deriving DecidableEq, Repr

/-- The fields of a context without a value, in alphabetical order. -/
def missingFields (ctx : ExecutionContext) : List String :=
  let regime := lower (ctx.volatilityRegime.getD "")
  [ ("expected_slippage_pct", ctx.expectedSlippagePct.isNone),
    ("fee_pct", ctx.feePct.isNone),
    ("funding_rate_pct", ctx.fundingRatePct.isNone),
    ("latency_ms", ctx.latencyMs.isNone),
    ("liquidity_score", ctx.liquidityScore.isNone),
    ("spread_pct", ctx.spreadPct.isNone),
    ("volatility_regime", regime = "" ∨ regime = "unknown" ∨ regime = "unavailable")
  ].filterMap fun (field, missing) => if missing then some field else none

/-- The penalty of a volatility regime. -/
def volatilityPenalty (regime : String) : ℚ :=
  if regime = "low" then 0.02
  else if regime = "normal" then 0
  else if regime = "high" then 0.12
  else if regime = "extreme" then 0.25
  else 0.10

/-- `build_execution_cost_model`. -/
def buildExecutionCostModel (ctx : ExecutionContext) (includeMissingPenalty : Bool) :
    ExecutionCostModel :=
  let missing := missingFields ctx
  let spread := max (ctx.spreadPct.getD 0 * 25) 0
  let slippage := max (ctx.expectedSlippagePct.getD 0 * 30) 0
  let latency := max (ctx.latencyMs.getD 0 / 1000 * 0.2) 0
  let fee := max (|ctx.feePct.getD 0| * 10) 0
  let funding := max (|ctx.fundingRatePct.getD 0| * 2.5) 0
  let liquidity := max ((1 - max (min (ctx.liquidityScore.getD 1) 1) 0) * 0.6) 0
  let volatility := volatilityPenalty (lower (ctx.volatilityRegime.getD ""))
  let known := spread + slippage + fee + latency + funding + liquidity + volatility
  let total :=
    if includeMissingPenalty ∧ missing ≠ [] then
      known + min 0.5 (0.1 * (missing.length : ℚ)) else known
  { spreadPenalty := spread
    slippagePenalty := slippage
    latencyPenalty := latency
    feePenalty := fee
    fundingPenalty := funding
    liquidityPenalty := liquidity
    volatilityPenalty := volatility
    totalPenalty := roundTo 6 total
    missingFields := missing }

/-! ## 2. The builder -/

/-- The part of a market context that the builder reads. -/
structure MarketContext where
  entry : Option ℚ
  sl : Option ℚ
  tp : Option ℚ
  side : Option String
  deriving DecidableEq, Repr

/-- `value or default` of a text. -/
def textOr (value : Option String) (default : String) : String :=
  if value.getD "" = "" then default else value.getD ""

/-- `_finite_positive_price`. -/
def finitePositivePrice (value : Option ℚ) : Option ℚ := value.filter (0 < ·)

/-- `adverse_expected_fill_price`; `none` where it raises. -/
def adverseExpectedFillPrice (entry : ℚ) (side : String) (slippagePct : ℚ) : Option ℚ := do
  let entryPrice ← finitePositivePrice (some entry)
  let normalizedSide := upper (strip side)
  if normalizedSide ≠ "LONG" ∧ normalizedSide ≠ "SHORT" then none
  if slippagePct < 0 then none
  finitePositivePrice
    (some (entryPrice * (if normalizedSide = "LONG" then 1 + slippagePct else 1 - slippagePct)))

/-- The slippage of the expected fill: the configured one in paper mode, else the estimate. -/
def fillSlippage (ctx : ExecutionContext) (mode : String) (paperSlippageBps : Option ℚ) :
    Option ℚ :=
  match paperSlippageBps with
  | some bps =>
    if upper mode = "PAPER" then some (max bps 0 / 10000)
    else ctx.expectedSlippagePct.map (max · 0)
  | none => ctx.expectedSlippagePct.map (max · 0)

/-- The expected fill and the slippage under it. -/
def expectedFill (market : MarketContext) (ctx : ExecutionContext) (mode : String)
    (paperSlippageBps : Option ℚ) : Option (ℚ × ℚ) := do
  let entry ← finitePositivePrice market.entry
  let slippagePct ← fillSlippage ctx mode paperSlippageBps
  let fill ← adverseExpectedFillPrice entry (textOr market.side "LONG") slippagePct
  return (roundTo 8 fill, slippagePct)

/-- The ratio from the expected fill; `none` without a fill, a stop, a target or a side. -/
def executableRawRr (market : MarketContext) (fill : Option ℚ) : Option ℚ := do
  let fillPrice ← fill
  let stopPrice ← market.sl
  let targetPrice ← market.tp
  let side := upper (strip (market.side.getD ""))
  let ratio (risk reward : ℚ) : ℚ := if risk ≤ 0 ∨ reward ≤ 0 then 0 else reward / risk
  if side = "LONG" then return ratio (fillPrice - stopPrice) (targetPrice - fillPrice)
  else if side = "SHORT" then return ratio (stopPrice - fillPrice) (fillPrice - targetPrice)
  else none

/-- The expected cost of an execution as a price, a fraction and basis points. -/
structure ExpectedExecutionCost where
  price : ℚ
  pct : ℚ
  bps : ℚ
  deriving DecidableEq, Repr

/-- `build_execution_cost_semantics` before a fill, less its provenance and its fixed texts. -/
def buildExecutionCostSemantics (entry fill : Option ℚ) (side : Option String) :
    Option ExpectedExecutionCost := do
  let normalizedSide := upper (strip (side.getD ""))
  if normalizedSide ≠ "LONG" ∧ normalizedSide ≠ "SHORT" then none
  let entryPrice ← finitePositivePrice entry
  let expectedPrice ← finitePositivePrice fill
  let price := (if normalizedSide = "LONG" then 1 else -1) * (expectedPrice - entryPrice)
  return { price := price, pct := price / entryPrice, bps := price / entryPrice * 10000 }

/-- What the builder returns. -/
structure RrMetrics where
  candidateRr : ℚ
  expectedFill : Option ℚ
  fillSlippagePct : Option ℚ
  expectedExecutionCost : Option ExpectedExecutionCost
  executableRawRr : ℚ
  remainingExecutionPenalty : ℚ
  effectiveRr : ℚ
  deriving DecidableEq, Repr

/-- The ratio and the penalty that the effective ratio is taken from. The expected fill already
    includes the slippage of the entry, so only the half of the exit remains. -/
def rawRrAndPenalty (candidateRr : ℚ) (model : ExecutionCostModel) (executable : Option ℚ) :
    ℚ × ℚ :=
  match executable with
  | none => (candidateRr, model.totalPenalty)
  | some rr => (rr, max (model.totalPenalty - model.slippagePenalty / 2) 0)

/-- `build_decision_rr_metrics`. -/
def buildDecisionRrMetrics (rawRr : Option ℚ) (market : MarketContext) (ctx : ExecutionContext)
    (mode : String) (paperSlippageBps : Option ℚ) : RrMetrics :=
  let candidateRr := rawRr.getD 0
  let fill := expectedFill market ctx mode paperSlippageBps
  let executable := executableRawRr market (fill.map (·.1))
  let (executableRr, remainingPenalty) :=
    rawRrAndPenalty candidateRr (buildExecutionCostModel ctx false) executable
  { candidateRr := roundTo 6 candidateRr
    expectedFill := fill.map (·.1)
    fillSlippagePct := fill.map (·.2)
    expectedExecutionCost :=
      fill.bind fun f => buildExecutionCostSemantics market.entry (some f.1) market.side
    executableRawRr := roundTo 6 executableRr
    remainingExecutionPenalty := roundTo 6 remainingPenalty
    effectiveRr := roundTo 6 (max (executableRr - remainingPenalty) 0) }

/-- The effective ratio of `calculate_effective_rr`. -/
def calculateEffectiveRr (rawRr : Option ℚ) (ctx : ExecutionContext)
    (includeMissingPenalty : Bool) : ℚ :=
  roundTo 6 (max (rawRr.getD 0 - (buildExecutionCostModel ctx
    includeMissingPenalty).totalPenalty) 0)

/-- Without an executable geometry the builder's effective ratio is the canonical one. -/
theorem effectiveRr_of_no_geometry {market : MarketContext} {ctx : ExecutionContext}
    {mode : String} {bps : Option ℚ}
    (h : executableRawRr market ((expectedFill market ctx mode bps).map (·.1)) = none)
    (rawRr : Option ℚ) :
    (buildDecisionRrMetrics rawRr market ctx mode bps).effectiveRr =
      calculateEffectiveRr rawRr ctx false := by
  simp only [buildDecisionRrMetrics, calculateEffectiveRr, h, rawRrAndPenalty]

/-! ## 3. The re-check -/

/-- The numbers of a decision payload that the arithmetic re-check reads. -/
structure RrPayload where
  executableRawRr : Option ℚ
  remainingExecutionPenalty : Option ℚ
  effectiveRr : Option ℚ
  deriving DecidableEq, Repr

/-- A violation: its code and the numbers its detail names. -/
structure SemanticInvariantViolation where
  code : String
  detail : List (String × ℚ)
  deriving DecidableEq, Repr

/-- `isclose(a, b, rel_tol=0.0, abs_tol=tol)`. -/
def isClose (a b tol : ℚ) : Prop := a = b ∨ |a - b| ≤ tol

instance (a b tol : ℚ) : Decidable (isClose a b tol) := inferInstanceAs (Decidable (_ ∨ _))

/-- The check of the effective ratio in `validate_pre_submit_semantics`. -/
def effectiveRrViolations (payload : RrPayload) (numericAbsTol : ℚ) :
    List SemanticInvariantViolation :=
  match payload.executableRawRr, payload.remainingExecutionPenalty, payload.effectiveRr with
  | some executable, some penalty, some effective =>
    let expected := max 0 (executable - penalty)
    if isClose effective expected numericAbsTol then []
    else
      [{ code := "EFFECTIVE_RR_ARITHMETIC_MISMATCH"
         detail :=
          [("effective_rr", effective), ("executable_raw_rr", executable),
            ("remaining_execution_penalty", penalty), ("expected", expected)] }]
  | _, _, _ => []

/-- The metrics as the payload of a decision carries them. -/
def RrMetrics.payload (m : RrMetrics) : RrPayload where
  executableRawRr := some m.executableRawRr
  remainingExecutionPenalty := some m.remainingExecutionPenalty
  effectiveRr := some m.effectiveRr

/-- Whatever ratio and penalty they come from, the three rounded numbers agree up to one unit of
    the sixth digit. -/
theorem metrics_close (rawRr : Option ℚ) (market : MarketContext) (ctx : ExecutionContext)
    (mode : String) (bps : Option ℚ) :
    let m := buildDecisionRrMetrics rawRr market ctx mode bps
    |m.effectiveRr - max 0 (m.executableRawRr - m.remainingExecutionPenalty)| ≤ 1 / 10 ^ 6 := by
  simp only [buildDecisionRrMetrics]
  generalize rawRrAndPenalty _ _ _ = rates
  exact roundTo_difference 6 rates.1 rates.2

/-- **The re-check accepts what the builder produces.** -/
theorem effective_rr_consistent (rawRr : Option ℚ) (market : MarketContext)
    (ctx : ExecutionContext) (mode : String) (paperSlippageBps : Option ℚ) :
    effectiveRrViolations
      (buildDecisionRrMetrics rawRr market ctx mode paperSlippageBps).payload 1e-6 = [] := by
  have h := metrics_close rawRr market ctx mode paperSlippageBps
  have htol : (1 / 10 ^ 6 : ℚ) = 1e-6 := by norm_num
  rw [htol] at h
  simp only [effectiveRrViolations, RrMetrics.payload]
  have hclose : isClose _ _ 1e-6 := Or.inr h
  exact if_pos hclose

/-- The bound is reached: half units round to even against each other. -/
example :
    let x : ℚ := 1.0000015
    let y : ℚ := 0.0000005
    |roundTo 6 (max (x - y) 0) - max 0 (roundTo 6 x - roundTo 6 y)| = 1e-6 := by
  decide +kernel

end AlphaForge.Decisions
