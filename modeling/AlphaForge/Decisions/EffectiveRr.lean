/-
  File:      AlphaForge/Decisions/EffectiveRr.lean
  Subject:   The effective reward-risk of `effective_rr.py` and that of the cost breakdown of
             `execution.py`, and what the costs do to them, in exact arithmetic.

  Both take the total penalty of one cost model off the raw reward-risk, clip at zero and round to
  six digits. A missing component counts as zero, a fee and a funding rate count by their size.

  * `effectiveRrResult`, `buildExecutionCostBreakdown` -- the two functions, less the evidence
    class, the names of the sources and the diagnostics text.
  * `Costlier` -- no component of a context is cheaper than in another one.
  * `totalPenalty_mono` -- a costlier context has at least the penalty.
  * **`effective_rr_of_costs`** -- costs never raise the effective reward-risk, it is never
    negative, it is above the raw one as reported exactly where that is negative, and both functions
    agree.
  * `negative_raw` -- a negative raw reward-risk, and a negative fee.
-/
import AlphaForge.Decisions.RewardRisk

namespace AlphaForge.Decisions

open AlphaForge.Lib

/-! ## 1. The code -/

/-- `EffectiveRRResult`, less the evidence class. -/
structure EffectiveRRResult where
  rawRr : ℚ
  effectiveRr : ℚ
  costPenaltyTotal : ℚ
  spreadPenalty : ℚ
  slippagePenalty : ℚ
  latencyPenalty : ℚ
  feePenalty : ℚ
  fundingPenalty : ℚ
  liquidityPenalty : ℚ
  volatilityPenalty : ℚ
  missingFields : List String
  deriving DecidableEq, Repr

/-- `calculate_effective_rr`. -/
def effectiveRrResult (rawRr : Option ℚ) (ctx : ExecutionContext) (includeMissingPenalty : Bool) :
    EffectiveRRResult :=
  let model := buildExecutionCostModel ctx includeMissingPenalty
  { rawRr := roundTo 6 (rawRr.getD 0)
    effectiveRr := calculateEffectiveRr rawRr ctx includeMissingPenalty
    costPenaltyTotal := model.totalPenalty
    spreadPenalty := model.spreadPenalty
    slippagePenalty := model.slippagePenalty
    latencyPenalty := model.latencyPenalty
    feePenalty := model.feePenalty
    fundingPenalty := model.fundingPenalty
    liquidityPenalty := model.liquidityPenalty
    volatilityPenalty := model.volatilityPenalty
    missingFields := model.missingFields }

/-- The thresholds of a breakdown: the numbers under their keys, and the two switches. -/
structure CostThresholds where
  numbers : List (String × Option ℚ) := []
  rejectUnknownExecutionContext : Bool := false
  requireFundingRate : Bool := false

/-- `float(t.get(key, t.get(key', default)) or default)`, over any number of keys. -/
def CostThresholds.read (t : CostThresholds) (keys : List String) (default : ℚ) : ℚ :=
  match keys.findSome? (fun key => t.numbers.lookup key) with
  | some (some x) => if x = 0 then default else x
  | _ => default

/-- `x is not None and p(x)`. -/
def known (value : Option ℚ) (p : ℚ → Bool) : Bool := value.any p

/-- `ExecutionCostBreakdown`, less the sources and the diagnostics. -/
structure ExecutionCostBreakdown where
  spreadPct : Option ℚ
  slippagePct : Option ℚ
  feePct : Option ℚ
  fundingRatePct : Option ℚ
  latencyMs : Option ℚ
  liquidityScore : Option ℚ
  volatilityPenaltyPct : ℚ
  totalExplicitCostPct : ℚ
  rawRr : ℚ
  effectiveRr : ℚ
  costPenaltyRr : ℚ
  rejectFlags : List String
  unavailableFields : List String
  deriving DecidableEq, Repr

/-- `build_execution_cost_breakdown`. The flags are pairwise different, so `dict.fromkeys` keeps
    them all. -/
def buildExecutionCostBreakdown (rawRr : Option ℚ) (ctx : ExecutionContext) (minEffectiveRr : ℚ)
    (t : CostThresholds) (includeMissingPenalty : Bool) : ExecutionCostBreakdown :=
  let raw := rawRr.getD 0
  let model := buildExecutionCostModel ctx includeMissingPenalty
  let effective := roundTo 6 (max (raw - model.totalPenalty) 0)
  let maxSpread := t.read ["MAX_SPREAD_PCT", "max_spread_pct"] 0.0025
  let maxSlip := t.read ["MAX_SLIPPAGE_PCT", "MAX_EXPECTED_SLIPPAGE_PCT"] 0.002
  let maxTotal := t.read ["MAX_TOTAL_COST_PCT"] 0.20
  let minLiq := t.read ["MIN_LIQUIDITY_SCORE"] 0.30
  let maxLatency := t.read ["MAX_LATENCY_MS"] 2500
  let maxVolPen := t.read ["MAX_VOLATILITY_PENALTY_PCT"] 0.20
  let maxFunding := t.read ["MAX_ABS_FUNDING_RATE_PCT"] 1
  let totalExplicitCostPct := roundTo 10
    (([ctx.spreadPct, ctx.expectedSlippagePct, ctx.feePct, ctx.fundingRatePct].filterMap
      fun cost => cost.map fun x => |x|).sum)
  let flags := [
    ("HIGH_SLIPPAGE", known ctx.expectedSlippagePct fun x => maxSlip < x),
    ("HIGH_SPREAD", known ctx.spreadPct fun x => maxSpread < x),
    ("HIGH_TOTAL_COST", decide (maxTotal < totalExplicitCostPct)),
    ("LOW_LIQUIDITY", known ctx.liquidityScore fun x => x < minLiq),
    ("HIGH_LATENCY", known ctx.latencyMs fun x => maxLatency < x),
    ("EXCESSIVE_VOLATILITY_PENALTY", decide (maxVolPen < model.volatilityPenalty)),
    ("FUNDING_UNAVAILABLE", ctx.fundingRatePct.isNone && t.requireFundingRate),
    ("FUNDING_TOO_HIGH", known ctx.fundingRatePct fun x => maxFunding < |x|),
    ("EXECUTION_CONTEXT_UNAVAILABLE",
      !model.missingFields.isEmpty && t.rejectUnknownExecutionContext),
    ("LOW_EFFECTIVE_RR", decide (effective < minEffectiveRr))]
  { spreadPct := ctx.spreadPct
    slippagePct := ctx.expectedSlippagePct
    feePct := ctx.feePct
    fundingRatePct := ctx.fundingRatePct
    latencyMs := ctx.latencyMs
    liquidityScore := ctx.liquidityScore
    volatilityPenaltyPct := model.volatilityPenalty
    totalExplicitCostPct := totalExplicitCostPct
    rawRr := roundTo 6 raw
    effectiveRr := effective
    costPenaltyRr := model.totalPenalty
    rejectFlags := flags.filterMap fun (flag, raised) => if raised then some flag else none
    unavailableFields := model.missingFields }

/-! ## 2. Costs -/

/-- No component of `d` is cheaper than that of `c`. A missing component is zero, a fee and a
    funding rate are as large as their size; where missing fields are penalised, `d` misses as
    many. -/
structure Costlier (includeMissingPenalty : Bool) (c d : ExecutionContext) : Prop where
  spread : c.spreadPct.getD 0 ≤ d.spreadPct.getD 0
  slippage : c.expectedSlippagePct.getD 0 ≤ d.expectedSlippagePct.getD 0
  latency : c.latencyMs.getD 0 ≤ d.latencyMs.getD 0
  fee : |c.feePct.getD 0| ≤ |d.feePct.getD 0|
  funding : |c.fundingRatePct.getD 0| ≤ |d.fundingRatePct.getD 0|
  liquidity : d.liquidityScore.getD 1 ≤ c.liquidityScore.getD 1
  volatility : volatilityPenalty (lower (c.volatilityRegime.getD "")) ≤
    volatilityPenalty (lower (d.volatilityRegime.getD ""))
  missing : includeMissingPenalty = true → (missingFields c).length ≤ (missingFields d).length

/-- The penalty of the missing fields. -/
def missingPenalty (includeMissingPenalty : Bool) (missing : List String) : ℚ :=
  if includeMissingPenalty ∧ missing ≠ [] then min 0.5 (0.1 * (missing.length : ℚ)) else 0

theorem missingPenalty_nonneg (flag : Bool) (missing : List String) :
    0 ≤ missingPenalty flag missing := by
  unfold missingPenalty
  split
  · exact le_min (by norm_num) (by positivity)
  · exact le_rfl

theorem missingPenalty_mono {flag : Bool} {missing missing' : List String}
    (h : flag = true → missing.length ≤ missing'.length) :
    missingPenalty flag missing ≤ missingPenalty flag missing' := by
  by_cases hcount : flag = true ∧ missing ≠ []
  · have hlength := h hcount.1
    have hpos : 0 < missing.length := List.length_pos_of_ne_nil hcount.2
    have hne : missing' ≠ [] := List.ne_nil_of_length_pos (by omega)
    unfold missingPenalty
    rw [if_pos hcount, if_pos ⟨hcount.1, hne⟩]
    have hcast : (missing.length : ℚ) ≤ (missing'.length : ℚ) := Nat.cast_le.mpr hlength
    exact min_le_min le_rfl (by linarith)
  · have hzero : missingPenalty flag missing = 0 := by
      unfold missingPenalty
      rw [if_neg hcount]
    rw [hzero]
    exact missingPenalty_nonneg flag missing'

/-- The total before it is rounded. -/
def exactPenalty (flag : Bool) (c : ExecutionContext) : ℚ :=
  max (c.spreadPct.getD 0 * 25) 0 + max (c.expectedSlippagePct.getD 0 * 30) 0 +
    max (|c.feePct.getD 0| * 10) 0 + max (c.latencyMs.getD 0 / 1000 * 0.2) 0 +
    max (|c.fundingRatePct.getD 0| * 2.5) 0 +
    max ((1 - max (min (c.liquidityScore.getD 1) 1) 0) * 0.6) 0 +
    volatilityPenalty (lower (c.volatilityRegime.getD "")) + missingPenalty flag (missingFields c)

theorem totalPenalty_eq (flag : Bool) (c : ExecutionContext) :
    (buildExecutionCostModel c flag).totalPenalty = roundTo 6 (exactPenalty flag c) := by
  unfold buildExecutionCostModel exactPenalty missingPenalty
  dsimp only
  split
  · rfl
  · rw [add_zero]

theorem volatilityPenalty_nonneg (regime : String) : 0 ≤ volatilityPenalty regime := by
  unfold volatilityPenalty
  split_ifs <;> norm_num

theorem exactPenalty_nonneg (flag : Bool) (c : ExecutionContext) : 0 ≤ exactPenalty flag c := by
  have hvolatility := volatilityPenalty_nonneg (lower (c.volatilityRegime.getD ""))
  have hmissing := missingPenalty_nonneg flag (missingFields c)
  unfold exactPenalty
  positivity

variable {flag : Bool} {c d : ExecutionContext}

theorem exactPenalty_mono (h : Costlier flag c d) : exactPenalty flag c ≤ exactPenalty flag d := by
  have hspread : max (c.spreadPct.getD 0 * 25) 0 ≤ max (d.spreadPct.getD 0 * 25) 0 :=
    max_le_max (by linarith [h.spread]) le_rfl
  have hslippage : max (c.expectedSlippagePct.getD 0 * 30) 0 ≤
      max (d.expectedSlippagePct.getD 0 * 30) 0 := max_le_max (by linarith [h.slippage]) le_rfl
  have hlatency : max (c.latencyMs.getD 0 / 1000 * 0.2) 0 ≤
      max (d.latencyMs.getD 0 / 1000 * 0.2) 0 := max_le_max (by linarith [h.latency]) le_rfl
  have hfee : max (|c.feePct.getD 0| * 10) 0 ≤ max (|d.feePct.getD 0| * 10) 0 :=
    max_le_max (by linarith [h.fee]) le_rfl
  have hfunding : max (|c.fundingRatePct.getD 0| * 2.5) 0 ≤
      max (|d.fundingRatePct.getD 0| * 2.5) 0 := max_le_max (by linarith [h.funding]) le_rfl
  have hliquidity : max ((1 - max (min (c.liquidityScore.getD 1) 1) 0) * 0.6) 0 ≤
      max ((1 - max (min (d.liquidityScore.getD 1) 1) 0) * 0.6) 0 := by
    have hcut : max (min (d.liquidityScore.getD 1) 1) 0 ≤ max (min (c.liquidityScore.getD 1) 1) 0 :=
      max_le_max (min_le_min h.liquidity le_rfl) le_rfl
    exact max_le_max (by linarith) le_rfl
  have hmissing := missingPenalty_mono h.missing
  unfold exactPenalty
  linarith [h.volatility]

/-- **A costlier context has at least the penalty**, also after rounding. -/
theorem totalPenalty_mono (h : Costlier flag c d) :
    (buildExecutionCostModel c flag).totalPenalty ≤
      (buildExecutionCostModel d flag).totalPenalty := by
  rw [totalPenalty_eq, totalPenalty_eq]
  exact roundTo_mono 6 (exactPenalty_mono h)

theorem totalPenalty_nonneg (flag : Bool) (c : ExecutionContext) :
    0 ≤ (buildExecutionCostModel c flag).totalPenalty := by
  rw [totalPenalty_eq]
  exact roundTo_nonneg 6 (exactPenalty_nonneg flag c)

/-! ## 3. The effective reward-risk -/

theorem effectiveRr_anti (h : Costlier flag c d) (rawRr : Option ℚ) :
    calculateEffectiveRr rawRr d flag ≤ calculateEffectiveRr rawRr c flag := by
  unfold calculateEffectiveRr
  have hpenalty := totalPenalty_mono h
  exact roundTo_mono 6 (max_le_max (by linarith) le_rfl)

theorem effectiveRr_nonneg (rawRr : Option ℚ) (c : ExecutionContext) (flag : Bool) :
    0 ≤ calculateEffectiveRr rawRr c flag := roundTo_nonneg 6 (le_max_right _ _)

/-- A negative raw reward-risk is clipped to zero, so it is below its effective one. -/
theorem effectiveRr_le_iff (rawRr : Option ℚ) (c : ExecutionContext) (flag : Bool) :
    calculateEffectiveRr rawRr c flag ≤ roundTo 6 (rawRr.getD 0) ↔
      0 ≤ roundTo 6 (rawRr.getD 0) := by
  constructor
  · exact (effectiveRr_nonneg rawRr c flag).trans
  · intro hraw
    have hpenalty := totalPenalty_nonneg flag c
    rcases le_or_gt 0 (rawRr.getD 0) with hpos | hneg
    · exact roundTo_mono 6 (max_le (by linarith) hpos)
    · unfold calculateEffectiveRr
      rw [max_eq_right (by linarith), roundTo_zero]
      exact hraw

/-- The components both functions read, with their agreement. -/
structure SameRr (result : EffectiveRRResult) (breakdown : ExecutionCostBreakdown) : Prop where
  rawRr : breakdown.rawRr = result.rawRr
  effectiveRr : breakdown.effectiveRr = result.effectiveRr
  costPenalty : breakdown.costPenaltyRr = result.costPenaltyTotal
  volatility : breakdown.volatilityPenaltyPct = result.volatilityPenalty
  missing : breakdown.unavailableFields = result.missingFields

/-- What the costs do to the effective reward-risk. -/
structure CostsCount (rawRr : Option ℚ) (flag : Bool) (c : ExecutionContext) : Prop where
  antitone : ∀ d, Costlier flag c d →
    (effectiveRrResult rawRr d flag).effectiveRr ≤ (effectiveRrResult rawRr c flag).effectiveRr
  nonneg : 0 ≤ (effectiveRrResult rawRr c flag).effectiveRr
  le_raw : (effectiveRrResult rawRr c flag).effectiveRr ≤ (effectiveRrResult rawRr c flag).rawRr ↔
    0 ≤ (effectiveRrResult rawRr c flag).rawRr
  same : ∀ minEffectiveRr t, SameRr (effectiveRrResult rawRr c flag)
    (buildExecutionCostBreakdown rawRr c minEffectiveRr t flag)

/-- **Costs count**: they never raise the effective reward-risk, it is never negative, it exceeds
    the raw one as reported only where that is negative, and the two functions agree. -/
theorem effective_rr_of_costs (rawRr : Option ℚ) (flag : Bool) (c : ExecutionContext) :
    CostsCount rawRr flag c where
  antitone _ h := effectiveRr_anti h rawRr
  nonneg := effectiveRr_nonneg rawRr c flag
  le_raw := effectiveRr_le_iff rawRr c flag
  same _ _ := ⟨rfl, rfl, rfl, rfl, rfl⟩

/-- A context without costs, in a quiet regime. -/
def freeContext : ExecutionContext where
  spreadPct := some 0
  expectedSlippagePct := some 0
  latencyMs := some 0
  fundingRatePct := some 0
  feePct := some 0
  liquidityScore := some 1
  volatilityRegime := some "normal"

/-- **A raw reward-risk of -1 becomes an effective one of 0, and a fee that rises from -0.02 to 0
    raises the effective one** from 1.8 to 2. -/
theorem negative_raw :
    (effectiveRrResult (some (-1)) freeContext false).effectiveRr = 0 ∧
      (effectiveRrResult (some (-1)) freeContext false).rawRr = -1 ∧
      (effectiveRrResult (some 2) { freeContext with feePct := some (-0.02) } false).effectiveRr =
        1.8 ∧
      (effectiveRrResult (some 2) freeContext false).effectiveRr = 2 := by
  decide +kernel

end AlphaForge.Decisions
