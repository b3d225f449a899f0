/-
  File:      AlphaForge/Decisions/TradeQuality.lean
  Subject:   `build_order_candidate`, `evaluate_trade_quality` (`order.py`), the stop contract of
             `execution.py`: the gates of a candidate.

  The gates are read twice. A list of positive checks puts down what failed; a chain of strict
  tests rejects for the first one that fires. A test can be switched off, a wide stop can be
  softened; behind a softened stop the rest of the chain is run again.

  * `Branch`, `chain` -- one test of the chain, and the way down it.
  * `chain_accepts` -- nothing rejects exactly where every test that fires is switched off.
  * `Refused` -- a test of the chain that fires and is not switched off.
  * `accepted_iff` -- a candidate is accepted exactly where it is not refused, however the stop is
    judged.
  * `Waived` -- the gates the configuration switches off or softens.
  * **`accepted_faithful_iff`** -- an accepted candidate failed waived gates only, exactly where it
    is refused or every gate with a NaN in it is waived.
  * `nan_spread` -- an accepted candidate whose spread is NaN and listed as failed.

  A comparison with NaN is false, so the positive check fails and the strict test does not fire.
  Of the diagnostics, what no gate reads and the copies of the inputs are left out.
-/
import AlphaForge.Decisions.RewardRisk
import AlphaForge.Learning.Thresholds
import AlphaForge.Lib.PyText
import AlphaForge.Lib.PyValues

namespace AlphaForge.Quality

open AlphaForge.Lib AlphaForge.Learning
open AlphaForge.Decisions (textOr)

variable {F : Type} [FloatNum F]

/-! ## 1. What is judged -/

/-- `OrderCandidate`. -/
structure OrderCandidate (F : Type) where
  symbol : String
  side : String
  setupType : String
  setupReason : String
  regime : String
  score : F
  rr : F
  expectancy : Option F
  entry : F
  sl : F
  tp : F
  orderType : String := "MARKET"

/-- `OrderRejection`. -/
structure OrderRejection where
  symbol : String
  rejectReason : String
  deriving DecidableEq, Repr

/-- What the two functions read of the market. `none` is an absent, empty or unmeasured entry. -/
structure MarketContext (F : Type) where
  entry : Option F := none
  sl : Option F := none
  tp : Option F := none
  side : Option String := none
  setupType : Option String := none
  setupReason : Option String := none
  regime : Option String := none
  score : Option F := none
  rr : Option F := none
  effectiveRr : Option F := none
  expectancy : Option F := none
  expectancyBucket : Option F := none
  orderType : Option String := none
  volatilityRegime : Option String := none
  spreadPct : Option F := none
  expectedSlippagePct : Option F := none
  expectedFill : Option F := none
  /-- The outer `none` is an absent key, which the statistics then answer for. -/
  atrPct : Option (Option F) := none
  patternFlags : List String := []
  orderbookImbalance : Option F := none
  spoofRisk : Option F := none
  orderbookStatus : Option String := none
  timestamp : Option ℤ := none

/-- `recent_stats`. -/
structure RecentStats (F : Type) where
  streaks : Streaks := {}
  atrPct : Option F := none
  expectancy : Option F := none
  lastTradeTs : String → ℤ := fun _ => 0
  tradesToday : String → ℤ := fun _ => 0
  globalTradesToday : ℤ := 0
  symbolLossBlockUntil : String → ℤ := fun _ => 0
  globalLossBlockUntil : ℤ := 0

/-- The configuration. The three optional keys are those of the caller; of the others, the value
    the caller gives or else the registered one. -/
structure QualityConfig (F : Type) where
  /-- In capitals. -/
  mode : String
  minTradeScore : Option F := none
  minRr : Option F := none
  runtimeLimitsActive : Option Bool := none
  minEffectiveRr : F
  minExpectancy : F
  minSlPct : F
  maxSlPct : F
  maxSpreadPct : F
  maxExpectedSlippagePct : F
  minAtrPct : F
  maxAtrPct : F
  scoreGateActive : Bool := true
  expectancyGateActive : Bool := true
  blockUnknownExpectancy : Bool
  blockChopMarket : Bool
  requireRegimeAlignment : Bool
  enableOrderbookFilter : Bool
  rejectUnknownExecutionContext : Bool
  stopTooWideHardReject : Bool
  stopTooWideSoftenForHighScore : Bool := true
  stopTooWideSoftScoreMin : F
  stopTooWideSoftEffectiveRrMin : F
  stopTooWideMaxRiskScale : F
  stopTooWideExtremeMult : F
  symbolCooldownMinutes : ℤ
  maxTradesPerSymbolPerDay : ℤ
  maxTradesGlobalPerDay : ℤ
  /-- In capitals. -/
  disabledBacktestFilters : List String := []

namespace QualityConfig

variable (c : QualityConfig F)

/-- `cfg["MIN_TRADE_SCORE"]`: the caller's over the adaptive one. -/
def minScore (stats : RecentStats F) : F :=
  c.minTradeScore.getD (computeAdaptiveThresholds stats.streaks ⟨c.minTradeScore, c.minRr⟩).minScore

/-- `cfg["MIN_RR"]`. -/
def minRawRr (stats : RecentStats F) : F :=
  c.minRr.getD (computeAdaptiveThresholds stats.streaks ⟨c.minTradeScore, c.minRr⟩).minRr

/-- `cfg["RUNTIME_LIMITS_ACTIVE"]`: on in paper and live mode where the caller does not say. -/
def limitsActive : Bool := c.runtimeLimitsActive.getD (c.mode = "PAPER" || c.mode = "LIVE")

/-- `backtest_disabled`. -/
def disabled : List String := if c.mode = "BACKTEST" then c.disabledBacktestFilters else []

end QualityConfig

/-- `value or 0.0`. -/
def orZero (value : Option F) : F :=
  let x := value.getD (FloatNum.ofInt 0)
  if FloatNum.feq x (FloatNum.ofInt 0) then FloatNum.ofInt 0 else x

/-- `build_order_candidate`. -/
def buildOrderCandidate (symbol : String) (market : MarketContext F) :
    Except OrderRejection (OrderCandidate F) :=
  let entry := orZero market.entry
  let sl := orZero market.sl
  let tp := orZero market.tp
  let zero : F := FloatNum.ofInt 0
  if entry ≤ zero ∨ sl ≤ zero ∨ tp ≤ zero then .error ⟨symbol, "INVALID_LEVELS"⟩
  else
    .ok
      { symbol
        side := market.side.getD "LONG"
        setupType := market.setupType.getD "GENERIC"
        setupReason := market.setupReason.getD "NONE"
        regime := market.regime.getD "UNKNOWN"
        score := orZero market.score
        rr := orZero market.rr
        expectancy := market.expectancy
        entry
        sl
        tp
        orderType := market.orderType.getD "MARKET" }

/-! ## 2. The stop -/

/-- `_finite_positive_price`; `none` where it raises. -/
def finitePositivePrice (value : Option F) : Option F :=
  value.filter fun price => !(price ≤ (FloatNum.ofInt 0 : F)) && FloatNum.isFinite price

/-- `adverse_expected_fill_price`; `none` where it raises. -/
def adverseExpectedFillPrice (entry : F) (side : String) (slippagePct : F) : Option F := do
  let entryPrice ← finitePositivePrice (some entry)
  let normalizedSide := upper (strip side)
  if normalizedSide ≠ "LONG" ∧ normalizedSide ≠ "SHORT" then none
  if FloatNum.isFinite slippagePct = false ∨ slippagePct < (FloatNum.ofInt 0 : F) then none
  finitePositivePrice
    (some (entryPrice *
      (if normalizedSide = "LONG" then (1.0 : F) + slippagePct else (1.0 : F) - slippagePct)))

inductive StopEvidence where
  | complete
  | plannedFallback
  | unavailableBlocking
  deriving DecidableEq, Repr

/-- `build_stop_risk_metrics`. -/
structure StopRisk (F : Type) where
  plannedStopDistancePct : Option F
  stopDistancePct : Option F
  stopDistanceBasis : String
  evidence : StopEvidence

/-- `abs(price - stop) / price * 100.0`. -/
def stopDistance (price stop : F) : F := FloatNum.abs (price - stop) / price * (100.0 : F)

/-- `build_stop_risk_metrics`. -/
def buildStopRiskMetrics (plannedEntry expectedFill stop : Option F) (allowPlannedFallback : Bool) :
    StopRisk F :=
  let planned := finitePositivePrice plannedEntry
  let stopPrice := finitePositivePrice stop
  let fallback := allowPlannedFallback && planned.isSome
  let executable := (finitePositivePrice expectedFill).or (if fallback then planned else none)
  { plannedStopDistancePct := do return stopDistance (← planned) (← stopPrice)
    stopDistancePct := do return stopDistance (← executable) (← stopPrice)
    stopDistanceBasis :=
      if (finitePositivePrice expectedFill).isNone && fallback then "PLANNED_ENTRY_BACKTEST"
      else "EXPECTED_FILL"
    evidence :=
      if planned.isNone || stopPrice.isNone then .unavailableBlocking
      else if (finitePositivePrice expectedFill).isSome then .complete
      else if fallback then .plannedFallback
      else .unavailableBlocking }

/-- What `evaluate_stop_risk_policy` answers. -/
structure StopVerdict (F : Type) where
  accepted : Bool
  rejectReason : String
  softened : Bool
  riskScale : F

/-- A stop that no policy can be applied to. -/
def unknownStop : StopVerdict F := ⟨false, "UNKNOWN_EXECUTION_CONTEXT", false, (1.0 : F)⟩

/-- `soft_eligible`. -/
def softEligible (score effectiveRr : F) (c : QualityConfig F) : Bool :=
  let onUnitScale :=
    (1.0 : F) < c.stopTooWideSoftScoreMin ∧ (FloatNum.ofInt 0 : F) ≤ score ∧ score < (1.0 : F)
  let scoreValue := if onUnitScale then score * (10.0 : F) else score
  c.stopTooWideSoftenForHighScore && FloatNum.isFinite scoreValue &&
    decide (c.stopTooWideSoftScoreMin ≤ scoreValue) && FloatNum.isFinite effectiveRr &&
    decide (c.stopTooWideSoftEffectiveRrMin ≤ effectiveRr)

/-- What `evaluate_stop_risk_policy` says of a stop beyond the limit. -/
def judgeWideStop (stop score effectiveRr : F) (c : QualityConfig F) (bypassWideReject : Bool) :
    StopVerdict F :=
  let extreme := decide (c.maxSlPct * c.stopTooWideExtremeMult < stop)
  if c.stopTooWideHardReject && (extreme || !softEligible score effectiveRr c) &&
      !bypassWideReject then
    ⟨false, "STOP_TOO_WIDE", false, (1.0 : F)⟩
  else ⟨true, "", true, pyMin (pyMax c.stopTooWideMaxRiskScale (FloatNum.ofInt 0)) (1.0 : F)⟩

/-- `evaluate_stop_risk_policy`. -/
def evaluateStopRiskPolicy (metrics : StopRisk F) (score effectiveRr : F) (c : QualityConfig F)
    (bypassWideReject : Bool) : StopVerdict F :=
  if metrics.evidence = .unavailableBlocking then unknownStop
  else
    match metrics.stopDistancePct with
    | none => unknownStop
    | some stop =>
      if FloatNum.isFinite stop = false then unknownStop
      else if stop < c.minSlPct then ⟨false, "STOP_TOO_TIGHT", false, (1.0 : F)⟩
      else if stop ≤ c.maxSlPct then ⟨true, "", false, (1.0 : F)⟩
      else judgeWideStop stop score effectiveRr c bypassWideReject

/-- Beyond the limit, accepting is softening. -/
theorem judgeWideStop_softened {stop score effectiveRr : F} {c : QualityConfig F} {b : Bool} :
    (judgeWideStop stop score effectiveRr c b).softened =
      (judgeWideStop stop score effectiveRr c b).accepted := by
  unfold judgeWideStop
  dsimp only
  split <;> rfl

/-! ## 3. The readings -/

/-- The values the gates compare. -/
structure Readings (F : Type) where
  symbol : String
  scoreEval : F
  rr : F
  effectiveRr : F
  expectancy : Option F
  chop : Bool
  regimeOk : Bool
  orderbookMissing : Bool
  orderbookRisky : Bool
  stopRisk : StopRisk F
  spreadPct : F
  expectedSlippagePct : F
  atrPct : Option F
  nowTs : ℤ

/-- `score_eval`: a score below 1 is put on the scale up to 10 where the gate is. -/
def scoreEval (score minScore : F) : F :=
  if minScore ≤ (1.0 : F) then score
  else if (FloatNum.ofInt 0 : F) ≤ score ∧ score < (1.0 : F) then score * (10.0 : F) else score

/-- `text in word`. -/
def mentions (text word : String) : Bool := decide (text.toList <:+: word.toList)

/-- `regime_ok`. -/
def regimeOk (setupType regime volatilityRegime : String) : Bool :=
  if mentions "TREND_CONTINUATION" setupType || mentions "PULLBACK_" setupType then
    regime ∈ ["TREND", "TRENDING"]
  else if mentions "BREAKOUT_UP" setupType || mentions "BREAKOUT_DOWN" setupType then
    regime ∈ ["TREND", "TRENDING", "BREAKOUT"] && volatilityRegime ∈ ["normal", "high", "breakout"]
  else if mentions "RANGE_MEAN_REVERSION" setupType then regime ∈ ["RANGE", "MEAN_REVERTING"]
  else true

/-- `orderbook_missing`. -/
def orderbookMissing (market : MarketContext F) : Bool :=
  let status := upper (textOr market.orderbookStatus
    (if market.orderbookImbalance.isSome then "MEASURED" else "UNAVAILABLE"))
  market.orderbookImbalance.isNone ||
    status ∈ ["", "UNKNOWN", "UNAVAILABLE", "UNAVAILABLE_BACKTEST"]

/-- `orderbook_risky`. -/
def orderbookRisky (market : MarketContext F) : Bool :=
  market.orderbookImbalance.any (fun x => decide ((0.90 : F) ≤ FloatNum.abs x)) ||
    market.spoofRisk.any (fun x => decide ((0.80 : F) ≤ x))

/-- The local values of `evaluate_trade_quality`. -/
def readings (candidate : OrderCandidate F) (market : MarketContext F) (stats : RecentStats F)
    (c : QualityConfig F) : Readings F :=
  let regime := upper (textOr (some candidate.regime) (market.regime.getD "UNKNOWN"))
  let expectedFill := market.expectedFill.or
    (market.expectedSlippagePct.bind (adverseExpectedFillPrice candidate.entry candidate.side))
  { symbol := candidate.symbol
    scoreEval := scoreEval (orZero (some candidate.score)) (c.minScore stats)
    rr := orZero (some candidate.rr)
    effectiveRr := market.effectiveRr.getD (orZero (some candidate.rr))
    expectancy := candidate.expectancy.or
      (market.expectancyBucket.or (market.expectancy.or stats.expectancy))
    chop := market.patternFlags.any fun f => mentions "CHOP" (upper f)
    regimeOk := regimeOk (upper candidate.setupType) regime
      (lower (textOr market.volatilityRegime "unknown"))
    orderbookMissing := orderbookMissing market
    orderbookRisky := orderbookRisky market
    stopRisk := buildStopRiskMetrics (some candidate.entry) expectedFill (some candidate.sl)
      (c.mode = "BACKTEST")
    spreadPct := orZero market.spreadPct
    expectedSlippagePct := orZero market.expectedSlippagePct
    atrPct := market.atrPct.getD stats.atrPct
    nowTs := market.timestamp.getD 0 }

/-! ## 4. The two readings of the gates -/

/-- The positive checks, in the order of the source. -/
inductive QualityGate where
  | score
  | rr
  | effectiveRr
  | expectancyPresent
  | expectancyNonNegative
  | patternFlags
  | regime
  | orderbookPresent
  | orderbookQuality
  | minSl
  | maxSl
  | spread
  | slippage
  | minAtr
  | maxAtr
  deriving DecidableEq, Repr

def QualityGate.name : QualityGate → String
  | .score => "score"
  | .rr => "rr"
  | .effectiveRr => "effective_rr"
  | .expectancyPresent => "expectancy_present"
  | .expectancyNonNegative => "expectancy_non_negative"
  | .patternFlags => "pattern_flags"
  | .regime => "regime"
  | .orderbookPresent => "orderbook_present"
  | .orderbookQuality => "orderbook_quality"
  | .minSl => "min_sl"
  | .maxSl => "max_sl"
  | .spread => "spread"
  | .slippage => "slippage"
  | .minAtr => "min_atr"
  | .maxAtr => "max_atr"

def qualityGates : List QualityGate :=
  [.score, .rr, .effectiveRr, .expectancyPresent, .expectancyNonNegative, .patternFlags, .regime,
    .orderbookPresent, .orderbookQuality, .minSl, .maxSl, .spread, .slippage, .minAtr, .maxAtr]

theorem mem_qualityGates (g : QualityGate) : g ∈ qualityGates := by cases g <;> decide

section Gates

variable (c : QualityConfig F) (stats : RecentStats F) (r : Readings F)

/-- The condition `_check` is called with. -/
def passes : QualityGate → Bool
  | .score => !c.scoreGateActive || decide (c.minScore stats ≤ r.scoreEval)
  | .rr => decide (c.minRawRr stats ≤ r.rr)
  | .effectiveRr => decide (c.minEffectiveRr ≤ r.effectiveRr)
  | .expectancyPresent =>
    !c.expectancyGateActive || !c.blockUnknownExpectancy || r.expectancy.isSome
  | .expectancyNonNegative =>
    !c.expectancyGateActive || r.expectancy.all fun e => decide (c.minExpectancy ≤ e)
  | .patternFlags => !c.blockChopMarket || !r.chop
  | .regime => !c.requireRegimeAlignment || r.regimeOk
  | .orderbookPresent => !c.enableOrderbookFilter || !r.orderbookMissing
  | .orderbookQuality => !c.enableOrderbookFilter || !r.orderbookRisky
  | .minSl => r.stopRisk.stopDistancePct.any fun s => decide (c.minSlPct ≤ s)
  | .maxSl => r.stopRisk.stopDistancePct.any fun s => decide (s ≤ c.maxSlPct)
  | .spread => decide (r.spreadPct ≤ c.maxSpreadPct)
  | .slippage => decide (r.expectedSlippagePct ≤ c.maxExpectedSlippagePct)
  | .minAtr => r.atrPct.all fun a => decide (c.minAtrPct ≤ a)
  | .maxAtr => r.atrPct.all fun a => decide (a ≤ c.maxAtrPct)

/-- `all_failed_gates`. -/
def allFailedGates : List QualityGate := qualityGates.filter fun g => !passes c stats r g

/-- One test of the reject chain: when it fires, the reason that switches it off, and what it
    rejects with. -/
structure Branch where
  fires : Bool
  switch : Option String := none
  reason : String
  filter : String
  deriving DecidableEq, Repr

/-- `not _gate_enabled(reason)`. -/
def Branch.off (disabled : List String) (b : Branch) : Bool := b.switch.any fun s => s ∈ disabled

/-- What a chain comes to: the rejection, with the filter that failed, and the bypassed reasons. -/
structure ChainResult where
  rejection : Option (String × String)
  bypassed : List String
  deriving DecidableEq, Repr

/-- `if … elif …`: the first test that fires and is not switched off rejects; `_bypass` puts down
    those that fire and are. -/
def chain (disabled : List String) : List Branch → List String → ChainResult
  | [], bypassed => ⟨none, bypassed⟩
  | b :: rest, bypassed =>
    if b.fires then
      if b.off disabled then chain disabled rest (bypassed ++ b.switch.toList)
      else ⟨some (b.reason, b.filter), bypassed⟩
    else chain disabled rest bypassed

/-- The tests before the one of the wide stop. -/
def firstBranches : List Branch :=
  [ { fires := r.symbol = "", reason := "INVALID_CANDIDATE", filter := "candidate" },
    { fires := c.scoreGateActive && decide (r.scoreEval < c.minScore stats)
      switch := some "LOW_SCORE", reason := "LOW_SCORE", filter := "score" },
    { fires := decide (r.rr < c.minRawRr stats)
      switch := some "RR_TOO_LOW", reason := "RR_TOO_LOW", filter := "rr" },
    -- the switch of the raw ratio, the reason of the effective one
    { fires := decide (r.effectiveRr < c.minEffectiveRr)
      switch := some "RR_TOO_LOW", reason := "LOW_EFFECTIVE_RR", filter := "effective_rr" },
    { fires := c.expectancyGateActive && c.blockUnknownExpectancy && r.expectancy.isNone
      reason := "EXPECTANCY_MISSING", filter := "expectancy" },
    { fires := c.expectancyGateActive && r.expectancy.any fun e => decide (e < c.minExpectancy)
      reason := "NEGATIVE_EXPECTANCY", filter := "expectancy" },
    { fires := c.blockChopMarket && r.chop
      reason := "CHOP_MARKET_BLOCK", filter := "pattern_flags" },
    { fires := c.requireRegimeAlignment && !r.regimeOk
      switch := some "REGIME_MISMATCH", reason := "REGIME_MISMATCH", filter := "regime" },
    { fires := c.enableOrderbookFilter && r.orderbookMissing && c.rejectUnknownExecutionContext
      reason := "ORDERBOOK_CONTEXT_MISSING", filter := "orderbook_present" },
    { fires := c.enableOrderbookFilter && r.orderbookRisky
      reason := "ORDERBOOK_RISK", filter := "orderbook_quality" },
    { fires := decide (c.maxExpectedSlippagePct < r.expectedSlippagePct)
      reason := "SLIPPAGE_TOO_HIGH", filter := "expected_slippage_pct" },
    { fires := r.stopRisk.stopDistancePct.isNone
      reason := "UNKNOWN_EXECUTION_CONTEXT", filter := "stop_execution_basis" },
    { fires := r.stopRisk.stopDistancePct.any fun s => decide (s < c.minSlPct)
      reason := "STOP_TOO_TIGHT", filter := "sl_pct" } ]

/-- `sl_pct > MAX_SL_PCT`. -/
def wideStop : Bool := r.stopRisk.stopDistancePct.any fun s => decide (c.maxSlPct < s)

/-- What the policy makes of the stop. -/
def stopVerdict : StopVerdict F :=
  evaluateStopRiskPolicy r.stopRisk r.scoreEval r.effectiveRr c ("STOP_TOO_WIDE" ∈ c.disabled)

def spreadBranch : Branch :=
  { fires := decide (c.maxSpreadPct < r.spreadPct)
    reason := "SPREAD_TOO_HIGH", filter := "spread_pct" }

def slippageBranch : Branch :=
  { fires := decide (c.maxExpectedSlippagePct < r.expectedSlippagePct)
    reason := "SLIPPAGE_TOO_HIGH", filter := "expected_slippage_pct" }

/-- The tests of the volatility, and those of the last branch of the chain. -/
def limitBranches : List Branch :=
  let last := stats.lastTradeTs r.symbol
  [ { fires := r.atrPct.any fun a => decide (a < c.minAtrPct)
      reason := "VOLATILITY_TOO_LOW", filter := "atr_pct" },
    { fires := r.atrPct.any fun a => decide (c.maxAtrPct < a)
      reason := "VOLATILITY_TOO_HIGH", filter := "atr_pct" },
    { fires := c.limitsActive && last != 0 && r.nowTs != 0 &&
        decide (r.nowTs - last < c.symbolCooldownMinutes * 60000)
      reason := "SYMBOL_COOLDOWN_ACTIVE", filter := "cooldown" },
    { fires := (c.limitsActive || c.mode = "BACKTEST") &&
        decide (c.maxTradesPerSymbolPerDay ≤ stats.tradesToday r.symbol)
      switch := some "DAILY_SYMBOL_TRADE_LIMIT"
      reason := "DAILY_SYMBOL_TRADE_LIMIT", filter := "daily_symbol" },
    { fires := c.limitsActive && decide (c.maxTradesGlobalPerDay ≤ stats.globalTradesToday)
      reason := "DAILY_GLOBAL_TRADE_LIMIT", filter := "daily_global" },
    { fires := c.limitsActive && decide (r.nowTs < stats.symbolLossBlockUntil r.symbol)
      reason := "SYMBOL_LOSS_STREAK_BLOCK", filter := "symbol_block" },
    { fires := c.limitsActive && decide (r.nowTs < stats.globalLossBlockUntil)
      reason := "GLOBAL_LOSS_STREAK_BLOCK", filter := "global_block" } ]

/-- The tests after the one of the wide stop. -/
def lastBranches : List Branch := spreadBranch c r :: limitBranches c stats r

/-- The tests that are run again where the chain did not reject. -/
def tailBranches : List Branch := spreadBranch c r :: slippageBranch c r :: limitBranches c stats r

/-- The chain, with the stop policy in its middle. -/
def rejectChain : ChainResult :=
  match chain c.disabled (firstBranches c stats r) [] with
  | ⟨some rejection, bypassed⟩ => ⟨some rejection, bypassed⟩
  | ⟨none, bypassed⟩ =>
    if wideStop c r then
      let seen := bypassed ++ if "STOP_TOO_WIDE" ∈ c.disabled then ["STOP_TOO_WIDE"] else []
      if (stopVerdict c r).accepted then ⟨none, seen⟩
      else
        let reason := (stopVerdict c r).rejectReason
        ⟨some (if reason = "" then "STOP_TOO_WIDE" else reason, "sl_pct"), seen⟩
    else chain c.disabled (lastBranches c stats r) bypassed

/-- The chain and the tests that follow it. -/
def verdict : ChainResult :=
  match rejectChain c stats r with
  | ⟨some rejection, bypassed⟩ => ⟨some rejection, bypassed⟩
  | ⟨none, bypassed⟩ => chain c.disabled (tailBranches c stats r) bypassed

end Gates

/-! ## 5. The decision -/

/-- What the diagnostics say of the gates. -/
structure QualityDiagnostics (F : Type) where
  failedFilter : String
  allFailedGates : List QualityGate
  bypassedRejectReasons : List String
  disabledFilterBypassCount : ℕ
  stopTooWideSoftened : Bool
  originalRejectReason : String
  riskScale : F

/-- `TradeQualityDecision`. -/
structure TradeQualityDecision (F : Type) where
  accepted : Bool
  rejectReason : String
  qualityScore : F
  diagnostics : QualityDiagnostics F

/-- `max(0.0, min(1.0, x))`. -/
def unitShare (x : F) : F := pyMax (FloatNum.ofInt 0) (pyMin (1.0 : F) x)

/-- `quality_score`, before it is rounded. -/
def qualityScore (c : QualityConfig F) (stats : RecentStats F) (r : Readings F) : F :=
  let scoreComp := unitShare (r.scoreEval / c.minScore stats) * (25.0 : F)
  let expComp : F := match r.expectancy with
    | none => FloatNum.ofInt 0
    | some e => unitShare ((e - c.minExpectancy) / (0.5 : F)) * (25.0 : F)
  let rrComp := unitShare (r.rr / c.minRawRr stats) * (10.0 : F)
  let regimeComp : F := if r.regimeOk then (20.0 : F) else FloatNum.ofInt 0
  let microOk := passes c stats r .spread && passes c stats r .slippage
  let volOk := passes c stats r .minAtr && passes c stats r .maxAtr
  let volComp : F := if microOk && volOk then (10.0 : F) else FloatNum.ofInt 0
  scoreComp + expComp + rrComp + regimeComp + volComp + (10.0 : F)

/-- A bound the quality score divides by is 0, which raises. -/
def Unscored (c : QualityConfig F) (stats : RecentStats F) : Prop :=
  FloatNum.feq (c.minScore stats) (FloatNum.ofInt 0) = true ∨
    FloatNum.feq (c.minRawRr stats) (FloatNum.ofInt 0) = true

instance (c : QualityConfig F) (stats : RecentStats F) : Decidable (Unscored c stats) :=
  inferInstanceAs (Decidable (_ ∨ _))

/-- `evaluate_trade_quality`, with the `round(x, 2)` of the language; `none` where it raises. -/
def evaluateTradeQuality (round2 : F → F) (candidate : OrderCandidate F) (market : MarketContext F)
    (stats : RecentStats F) (c : QualityConfig F) : Option (TradeQualityDecision F) :=
  if Unscored c stats then none
  else
    let r := readings candidate market stats c
    let result := verdict c stats r
    let softened := result.rejection.isNone && wideStop c r && (stopVerdict c r).softened
    some
      { accepted := result.rejection.isNone
        rejectReason := (result.rejection.map Prod.fst).getD ""
        qualityScore := round2 (qualityScore c stats r)
        diagnostics :=
          { failedFilter := (result.rejection.map Prod.snd).getD ""
            allFailedGates := allFailedGates c stats r
            bypassedRejectReasons := result.bypassed
            disabledFilterBypassCount := result.bypassed.length
            stopTooWideSoftened := softened
            originalRejectReason := if softened then "STOP_TOO_WIDE" else ""
            riskScale := if softened then (stopVerdict c r).riskScale else (1.0 : F) } }

/-! ## 6. The way down the chain -/

/-- The test rejects: it fires and is not switched off. -/
def Branch.Rejects (disabled : List String) (b : Branch) : Prop :=
  b.fires = true ∧ b.off disabled = false

theorem not_rejects_iff {disabled : List String} {b : Branch} :
    ¬ b.Rejects disabled ↔ (b.fires = true → b.off disabled = true) := by
  unfold Branch.Rejects
  cases b.fires <;> cases b.off disabled <;> simp

/-- A chain rejects nothing exactly where none of its tests does. -/
theorem chain_accepts {disabled : List String} {branches : List Branch} {seen : List String} :
    (chain disabled branches seen).rejection = none ↔
      ∀ b ∈ branches, ¬ b.Rejects disabled := by
  induction branches generalizing seen with
  | nil => exact ⟨fun _ _ hb => absurd hb List.not_mem_nil, fun _ => rfl⟩
  | cons b rest ih =>
    rw [List.forall_mem_cons, not_rejects_iff]
    unfold chain
    by_cases hfires : b.fires = true
    · rw [if_pos hfires]
      by_cases hoff : b.off disabled = true
      · rw [if_pos hoff, ih]
        exact ⟨fun h => ⟨fun _ => hoff, h⟩, fun h => h.2⟩
      · rw [if_neg hoff]
        exact ⟨fun h => absurd h (by simp), fun h => absurd (h.1 hfires) hoff⟩
    · rw [if_neg hfires, ih]
      exact ⟨fun h => ⟨fun hf => absurd hf hfires, h⟩, fun h => h.2⟩

section Decision

variable (c : QualityConfig F) (stats : RecentStats F) (r : Readings F)

/-- A test of the chain rejects the candidate, or the policy rejects its stop. -/
def Refused : Prop :=
  (∃ b ∈ firstBranches c stats r ++ tailBranches c stats r, b.Rejects c.disabled) ∨
    wideStop c r = true ∧ (stopVerdict c r).accepted = false

variable {c stats r}

theorem rejectChain_accepts (h : (rejectChain c stats r).rejection = none) :
    (∀ b ∈ firstBranches c stats r, ¬ b.Rejects c.disabled) ∧
      (wideStop c r = true → (stopVerdict c r).accepted = true) := by
  unfold rejectChain at h
  split at h
  · cases h
  · next hfirst =>
    refine ⟨chain_accepts.mp (congrArg ChainResult.rejection hfirst), fun hwide => ?_⟩
    rw [if_pos hwide] at h
    by_contra hstop
    rw [if_neg hstop] at h
    cases h

/-- A candidate passes the two passes over the gates exactly where it is not refused. -/
theorem accepted_iff : (verdict c stats r).rejection = none ↔ ¬ Refused c stats r := by
  constructor
  · intro h
    unfold verdict at h
    split at h
    · cases h
    · next hchain =>
      obtain ⟨hfirst, hstop⟩ := rejectChain_accepts (congrArg ChainResult.rejection hchain)
      have htail := chain_accepts.mp h
      rintro (⟨b, hb, hrejects⟩ | ⟨hwide, hrefused⟩)
      · rcases List.mem_append.mp hb with hb | hb
        · exact hfirst b hb hrejects
        · exact htail b hb hrejects
      · rw [hstop hwide] at hrefused
        cases hrefused
  · intro h
    have hfirst : ∀ b ∈ firstBranches c stats r, ¬ b.Rejects c.disabled := fun b hb hrejects =>
      h (Or.inl ⟨b, List.mem_append_left _ hb, hrejects⟩)
    have htail : ∀ b ∈ tailBranches c stats r, ¬ b.Rejects c.disabled := fun b hb hrejects =>
      h (Or.inl ⟨b, List.mem_append_right _ hb, hrejects⟩)
    have hlast : ∀ b ∈ lastBranches c stats r, ¬ b.Rejects c.disabled := by
      intro b hb
      refine htail b ?_
      rcases List.mem_cons.mp hb with rfl | hb
      · exact List.mem_cons_self
      · exact List.mem_cons_of_mem _ (List.mem_cons_of_mem _ hb)
    have hchain : (rejectChain c stats r).rejection = none := by
      unfold rejectChain
      split
      · next hrejection =>
        have hnone : (chain c.disabled (firstBranches c stats r) []).rejection = none :=
          chain_accepts.mpr hfirst
        rw [hrejection] at hnone
        cases hnone
      · by_cases hwide : wideStop c r = true
        · rw [if_pos hwide]
          by_cases hstop : (stopVerdict c r).accepted = true
          · rw [if_pos hstop]
          · exact absurd (Or.inr ⟨hwide, Bool.not_eq_true _ ▸ hstop⟩) h
        · rw [if_neg hwide]
          exact chain_accepts.mpr hlast
    unfold verdict
    split
    · next hrejection =>
      rw [hrejection] at hchain
      cases hchain
    · exact chain_accepts.mpr htail

/-! ## 7. What an accepted candidate failed -/

/-- The gate is one the configuration disables, bypasses or softens. -/
def Waived (c : QualityConfig F) (r : Readings F) : QualityGate → Prop
  | .score => "LOW_SCORE" ∈ c.disabled
  | .rr => "RR_TOO_LOW" ∈ c.disabled
  | .effectiveRr => "RR_TOO_LOW" ∈ c.disabled
  | .regime => "REGIME_MISMATCH" ∈ c.disabled
  | .orderbookPresent => c.rejectUnknownExecutionContext = false
  | .maxSl => wideStop c r = true ∧ (stopVerdict c r).softened = true
  | _ => False

/-- An operand of the gate's comparison is NaN. -/
def Blind (c : QualityConfig F) (stats : RecentStats F) (r : Readings F) : QualityGate → Prop
  | .score => c.scoreGateActive = true ∧ ¬ (IsNumber r.scoreEval ∧ IsNumber (c.minScore stats))
  | .rr => ¬ (IsNumber r.rr ∧ IsNumber (c.minRawRr stats))
  | .effectiveRr => ¬ (IsNumber r.effectiveRr ∧ IsNumber c.minEffectiveRr)
  | .expectancyNonNegative => c.expectancyGateActive = true ∧
      ∃ e, r.expectancy = some e ∧ ¬ (IsNumber e ∧ IsNumber c.minExpectancy)
  | .minSl => ∃ s, r.stopRisk.stopDistancePct = some s ∧ ¬ (IsNumber s ∧ IsNumber c.minSlPct)
  | .maxSl => ∃ s, r.stopRisk.stopDistancePct = some s ∧ ¬ (IsNumber s ∧ IsNumber c.maxSlPct)
  | .spread => ¬ (IsNumber r.spreadPct ∧ IsNumber c.maxSpreadPct)
  | .slippage => ¬ (IsNumber r.expectedSlippagePct ∧ IsNumber c.maxExpectedSlippagePct)
  | .minAtr => ∃ a, r.atrPct = some a ∧ ¬ (IsNumber a ∧ IsNumber c.minAtrPct)
  | .maxAtr => ∃ a, r.atrPct = some a ∧ ¬ (IsNumber a ∧ IsNumber c.maxAtrPct)
  | _ => False

/-- A comparison with a NaN fails. -/
theorem blind_fails {g : QualityGate} (h : Blind c stats r g) : passes c stats r g = false := by
  have hle : ∀ {a b : F}, ¬ (IsNumber b ∧ IsNumber a) → decide (a ≤ b) = false := fun hn =>
    decide_eq_false fun hab => hn (isNumber_of_le hab).symm
  have hle' : ∀ {a b : F}, ¬ (IsNumber a ∧ IsNumber b) → decide (a ≤ b) = false := fun hn =>
    decide_eq_false fun hab => hn (isNumber_of_le hab)
  cases g with
  | score => simp only [passes, h.1, hle h.2, Bool.not_true, Bool.or_self]
  | rr => exact hle h
  | effectiveRr => exact hle h
  | expectancyNonNegative =>
    obtain ⟨hactive, e, he, hn⟩ := h
    simp only [passes, hactive, he, Option.all_some, hle hn, Bool.not_true, Bool.or_self]
  | minSl =>
    obtain ⟨s, hs, hn⟩ := h
    simp only [passes, hs, Option.any_some, hle hn]
  | maxSl =>
    obtain ⟨s, hs, hn⟩ := h
    simp only [passes, hs, Option.any_some, hle' hn]
  | spread => exact hle' h
  | slippage => exact hle' h
  | minAtr =>
    obtain ⟨a, ha, hn⟩ := h
    simp only [passes, ha, Option.all_some, hle hn]
  | maxAtr =>
    obtain ⟨a, ha, hn⟩ := h
    simp only [passes, ha, Option.all_some, hle' hn]
  | _ => exact absurd h id

/-- A failed comparison of numbers is the strict one the other way round. -/
theorem strict_of_fails {a b : F} (h : decide (a ≤ b) = false) :
    ¬ (IsNumber b ∧ IsNumber a) ∨ b < a := by
  by_cases hn : IsNumber b ∧ IsNumber a
  · exact Or.inr (FloatNum.lt_of_not_le hn.2 hn.1 (of_decide_eq_false h))
  · exact Or.inl hn

/-- A softened stop is one the policy accepts beyond the limit. -/
theorem softened_of_wide (hwide : wideStop c r = true) (h : (stopVerdict c r).accepted = true) :
    (stopVerdict c r).softened = true := by
  obtain ⟨s, hs, hlt⟩ := (Option.any_eq_true _ _).mp hwide
  have hle : ¬ s ≤ c.maxSlPct := FloatNum.not_le_of_lt (of_decide_eq_true hlt)
  unfold stopVerdict evaluateStopRiskPolicy at h ⊢
  rw [hs] at h ⊢
  by_cases hevidence : r.stopRisk.evidence = .unavailableBlocking
  · rw [if_pos hevidence] at h
    cases h
  · rw [if_neg hevidence] at h ⊢
    dsimp only at h ⊢
    by_cases hfinite : FloatNum.isFinite s = false
    · rw [if_pos hfinite] at h
      cases h
    · rw [if_neg hfinite] at h ⊢
      by_cases htight : s < c.minSlPct
      · rw [if_pos htight] at h
        cases h
      · rw [if_neg htight, if_neg hle] at h ⊢
        rw [judgeWideStop_softened]
        exact h

/-- What a gate that fails is, where the candidate is not refused. -/
theorem waived_of_failed (hacc : ¬ Refused c stats r) {g : QualityGate}
    (hfails : passes c stats r g = false) (hsees : ¬ Blind c stats r g) : Waived c r g := by
  have hoff : ∀ b ∈ firstBranches c stats r ++ tailBranches c stats r,
      b.fires = true → b.off c.disabled = true := fun b hb =>
    not_rejects_iff.mp fun hrejects => hacc (Or.inl ⟨b, hb, hrejects⟩)
  have hfirst := fun b hb => hoff b (List.mem_append_left _ hb)
  have htail := fun b hb => hoff b (List.mem_append_right _ hb)
  simp only [firstBranches, List.forall_mem_cons] at hfirst
  simp only [tailBranches, limitBranches, List.forall_mem_cons] at htail
  obtain ⟨-, hscore, hrr, heffective, hmissing, hnegative, hchop, hregime, hbook, hrisky, -, hstop,
    htight, -⟩ := hfirst
  obtain ⟨hspread, hslippage, hlow, hhigh, -⟩ := htail
  cases g with
  | score =>
    have h := Bool.or_eq_false_iff.mp hfails
    have hactive : c.scoreGateActive = true := by simpa using h.1
    rcases strict_of_fails h.2 with hnan | hlt
    · exact absurd ⟨hactive, hnan⟩ hsees
    · simpa [Branch.off, Waived] using hscore (by simp [hactive, hlt])
  | rr =>
    rcases strict_of_fails hfails with hnan | hlt
    · exact absurd hnan hsees
    · simpa [Branch.off, Waived] using hrr (by simp [hlt])
  | effectiveRr =>
    rcases strict_of_fails hfails with hnan | hlt
    · exact absurd hnan hsees
    · simpa [Branch.off, Waived] using heffective (by simp [hlt])
  | expectancyPresent =>
    have h := Bool.or_eq_false_iff.mp hfails
    have hblock := Bool.or_eq_false_iff.mp h.1
    have hoff := hmissing (by simp_all)
    exact absurd hoff (by simp [Branch.off])
  | expectancyNonNegative =>
    have h := Bool.or_eq_false_iff.mp hfails
    have hactive : c.expectancyGateActive = true := by simpa using h.1
    obtain ⟨e, he, hle⟩ := (Option.all_eq_false _ _).mp h.2
    rcases strict_of_fails hle with hnan | hlt
    · exact absurd ⟨hactive, e, he, hnan⟩ hsees
    · exact absurd (hnegative (by simp [hactive, he, hlt])) (by simp [Branch.off])
  | patternFlags =>
    have h := Bool.or_eq_false_iff.mp hfails
    exact absurd (hchop (by simp_all)) (by simp [Branch.off])
  | regime =>
    have h := Bool.or_eq_false_iff.mp hfails
    simpa [Branch.off, Waived] using hregime (by simp_all)
  | orderbookPresent =>
    have h := Bool.or_eq_false_iff.mp hfails
    by_contra hreject
    have hunknown : c.rejectUnknownExecutionContext = true := by simpa [Waived] using hreject
    exact absurd (hbook (by simp_all)) (by simp [Branch.off])
  | orderbookQuality =>
    have h := Bool.or_eq_false_iff.mp hfails
    exact absurd (hrisky (by simp_all)) (by simp [Branch.off])
  | minSl =>
    cases hs : r.stopRisk.stopDistancePct with
    | none => exact absurd (hstop (by simp [hs])) (by simp [Branch.off])
    | some s =>
      rcases strict_of_fails ((Option.any_eq_false _ _).mp hfails s hs) with hnan | hlt
      · exact absurd ⟨s, hs, hnan⟩ hsees
      · exact absurd (htight (by simp [hs, hlt])) (by simp [Branch.off])
  | maxSl =>
    cases hs : r.stopRisk.stopDistancePct with
    | none => exact absurd (hstop (by simp [hs])) (by simp [Branch.off])
    | some s =>
      rcases strict_of_fails ((Option.any_eq_false _ _).mp hfails s hs) with hnan | hlt
      · exact absurd ⟨s, hs, fun h => hnan h.symm⟩ hsees
      · have hwide : wideStop c r = true := by simp [wideStop, hs, hlt]
        have hsoft : (stopVerdict c r).accepted = true := by
          by_contra hrefused
          exact hacc (Or.inr ⟨hwide, by simpa using hrefused⟩)
        exact ⟨hwide, softened_of_wide hwide hsoft⟩
  | spread =>
    rcases strict_of_fails hfails with hnan | hlt
    · exact absurd (fun h => hnan h.symm) hsees
    · exact absurd (hspread (by simp [spreadBranch, hlt])) (by simp [Branch.off, spreadBranch])
  | slippage =>
    rcases strict_of_fails hfails with hnan | hlt
    · exact absurd (fun h => hnan h.symm) hsees
    · exact absurd (hslippage (by simp [slippageBranch, hlt]))
        (by simp [Branch.off, slippageBranch])
  | minAtr =>
    obtain ⟨a, ha, hle⟩ := (Option.all_eq_false _ _).mp hfails
    rcases strict_of_fails hle with hnan | hlt
    · exact absurd ⟨a, ha, hnan⟩ hsees
    · exact absurd (hlow (by simp [ha, hlt])) (by simp [Branch.off])
  | maxAtr =>
    obtain ⟨a, ha, hle⟩ := (Option.all_eq_false _ _).mp hfails
    rcases strict_of_fails hle with hnan | hlt
    · exact absurd ⟨a, ha, fun h => hnan h.symm⟩ hsees
    · exact absurd (hhigh (by simp [ha, hlt])) (by simp [Branch.off])

end Decision

/-- The two readings of the gates agree on an accepted candidate, whose failed gates are given. -/
structure Faithful (c : QualityConfig F) (stats : RecentStats F) (r : Readings F)
    (failed : List QualityGate) : Prop where
  /-- Every gate that is listed as failed is waived. -/
  waived : ∀ g ∈ failed, Waived c r g
  /-- No test of the chain is left that would reject. -/
  evaluated : ∀ b ∈ firstBranches c stats r ++ tailBranches c stats r, ¬ b.Rejects c.disabled
  /-- A stop beyond the limit was put to the policy. -/
  stop : wideStop c r = true → (stopVerdict c r).accepted = true

/-- Where the bounds can be divided by, there is a decision, with the verdict of the chain. -/
theorem evaluateTradeQuality_some (round2 : F → F) (candidate : OrderCandidate F)
    (market : MarketContext F) {stats : RecentStats F} {c : QualityConfig F}
    (hscored : ¬ Unscored c stats) :
    ∃ d, evaluateTradeQuality round2 candidate market stats c = some d ∧
      (d.accepted = true ↔
        (verdict c stats (readings candidate market stats c)).rejection = none) ∧
      d.diagnostics.allFailedGates = allFailedGates c stats (readings candidate market stats c) :=
  ⟨_, if_neg hscored, Option.isNone_iff_eq_none, rfl⟩

/-- An accepted candidate failed waived gates only, and passed every test, exactly where no quality
    score is reached, or the candidate is refused, or every gate with a NaN in it is waived. -/
theorem accepted_faithful_iff (round2 : F → F) (candidate : OrderCandidate F)
    (market : MarketContext F) (stats : RecentStats F) (c : QualityConfig F) :
    (∀ d, evaluateTradeQuality round2 candidate market stats c = some d → d.accepted = true →
      Faithful c stats (readings candidate market stats c) d.diagnostics.allFailedGates) ↔
    Unscored c stats ∨ Refused c stats (readings candidate market stats c) ∨
      ∀ g, Blind c stats (readings candidate market stats c) g →
        Waived c (readings candidate market stats c) g := by
  constructor
  · intro h
    by_cases hscored : Unscored c stats
    · exact Or.inl hscored
    by_cases hrefused : Refused c stats (readings candidate market stats c)
    · exact Or.inr (Or.inl hrefused)
    · obtain ⟨d, hd, haccepted, hlisted⟩ :=
        evaluateTradeQuality_some round2 candidate market hscored
      have hfaithful := h d hd (haccepted.mpr (accepted_iff.mpr hrefused))
      refine Or.inr (Or.inr fun g hblind => hfaithful.waived g ?_)
      rw [hlisted]
      refine List.mem_filter.mpr ⟨mem_qualityGates g, ?_⟩
      rw [blind_fails hblind]
      rfl
  · intro h d hd haccepted
    have hscored : ¬ Unscored c stats := by
      intro hscored
      unfold evaluateTradeQuality at hd
      rw [if_pos hscored] at hd
      cases hd
    obtain ⟨d', hd', hiff, hlisted⟩ := evaluateTradeQuality_some round2 candidate market hscored
    obtain rfl : d = d' := Option.some.inj (hd.symm.trans hd')
    have hacc : ¬ Refused c stats (readings candidate market stats c) :=
      accepted_iff.mp (hiff.mp haccepted)
    have hsees : ∀ g, Blind c stats (readings candidate market stats c) g →
        Waived c (readings candidate market stats c) g := by
      rcases h with h | h | h
      · exact absurd h hscored
      · exact absurd h hacc
      · exact h
    refine ⟨fun g hg => ?_, fun b hb hrejects => hacc (Or.inl ⟨b, hb, hrejects⟩), fun hwide => ?_⟩
    · by_cases hblind : Blind c stats (readings candidate market stats c) g
      · exact hsees g hblind
      · rw [hlisted] at hg
        have hfails := (List.mem_filter.mp hg).2
        exact waived_of_failed hacc (by simpa using hfails) hblind
    · by_contra hstop
      exact hacc (Or.inr ⟨hwide, by simpa using hstop⟩)

/-- A breakout with a score of 8 and a stop at one percent. -/
def sampleCandidate : OrderCandidate Float where
  symbol := "BTCUSDT"
  side := "LONG"
  setupType := "BREAKOUT_UP"
  setupReason := "range break"
  regime := "BREAKOUT"
  score := 8.0
  rr := 2.0
  expectancy := some 0.2
  entry := 100.0
  sl := 99.0
  tp := 102.0

/-- Its market, with a spread that is NaN. -/
def unmeasuredSpread : MarketContext Float where
  effectiveRr := some 1.8
  volatilityRegime := some "normal"
  spreadPct := some (0.0 / 0.0)
  expectedSlippagePct := some 0.0005
  expectedFill := some 100.0
  atrPct := some (some 1.0)
  timestamp := some 1700000000000

/-- Paper mode, without an orderbook filter. -/
def paperConfig : QualityConfig Float where
  mode := "PAPER"
  minEffectiveRr := 1.5
  minExpectancy := 0.0
  minSlPct := 0.2
  maxSlPct := 2.5
  maxSpreadPct := 0.003
  maxExpectedSlippagePct := 0.002
  minAtrPct := 0.1
  maxAtrPct := 5.0
  blockUnknownExpectancy := true
  blockChopMarket := true
  requireRegimeAlignment := true
  enableOrderbookFilter := false
  rejectUnknownExecutionContext := true
  stopTooWideHardReject := true
  stopTooWideSoftScoreMin := 7.5
  stopTooWideSoftEffectiveRrMin := 1.5
  stopTooWideMaxRiskScale := 0.5
  stopTooWideExtremeMult := 1.5
  symbolCooldownMinutes := 15
  maxTradesPerSymbolPerDay := 3
  maxTradesGlobalPerDay := 10

/-- The spread is NaN: the candidate is accepted with `spread` among its failed gates, and the
    configuration waives nothing. -/
theorem nan_spread :
    ¬ ∀ d, evaluateTradeQuality id sampleCandidate unmeasuredSpread {} paperConfig = some d →
      d.accepted = true →
      Faithful paperConfig {} (readings sampleCandidate unmeasuredSpread {} paperConfig)
        d.diagnostics.allFailedGates := by
  have hscored : ¬ Unscored paperConfig {} := by decide +kernel
  have haccepted : (verdict paperConfig {}
      (readings sampleCandidate unmeasuredSpread {} paperConfig)).rejection = none := by
    decide +kernel
  have hfailed : allFailedGates paperConfig {}
      (readings sampleCandidate unmeasuredSpread {} paperConfig) = [.spread] := by
    decide +kernel
  intro h
  obtain ⟨d, hd, hiff, hlisted⟩ :=
    evaluateTradeQuality_some id sampleCandidate unmeasuredSpread hscored
  have hfaithful := h d hd (hiff.mpr haccepted)
  rw [hlisted, hfailed] at hfaithful
  exact hfaithful.waived .spread (List.mem_singleton_self _)

end AlphaForge.Quality
