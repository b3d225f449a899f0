/-
  File:      AlphaForge/Backtest/DailyLimits.lean
  Subject:   The counters behind the daily limits of the backtest: `process_backtest_result` with
             its rescue, `_guardrail_rejection_reason`, `_record_guardrail_acceptance`,
             `_rescue_acceptance_allowed` (`backtest_order.py`).

  Four counters are kept. The guardrail counts baseline trades under the UTC day of the candle; the
  statistics count all trades of a symbol, the rescue counts its own, and neither is ever reset. A
  rescue passes by the guardrail and is not counted by it.

  * `Visit`, `visit` -- what is answered for one candle, and what the counters make of it.
  * `Counted` -- what the counters say of the accepted trades; `counted_run` by induction on the
    run.
  * **`daily_limits`** -- the baseline trades of a day stay inside the limits of the guardrail, the
    rescues of the whole run inside those of the rescue, and a candidate is refused for the
    frequency of trades on a full day only.
  * `rescued_on_full_day` -- a rescue on a day that is full, and a refusal on a day without a trade.

  Given for each candle: the market and its statistics but for the counters, the other rejections of
  the scan, the execution flags, the answer of the portfolio and the closes of the simulated trade.
-/
import AlphaForge.Decisions.TradeQuality

namespace AlphaForge.Backtest.Daily

open AlphaForge.Lib AlphaForge.Quality AlphaForge.Learning
open AlphaForge.Decisions (textOr)

variable {F : Type} [FloatNum F]

/-! ## 1. Days and counters -/

/-- `_day_key`: the UTC day of a time in milliseconds; `none` is `UNKNOWN`, outside the calendar. -/
def dayKey (timestamp : ℤ) : Option ℤ :=
  if -62135596800000 ≤ timestamp ∧ timestamp < 253402300800000 then some (timestamp / 86400000)
  else none

inductive Kind where
  | baseline
  | rescue
  deriving DecidableEq, Repr

/-- What a row of `candidates` says of an accepted trade. -/
structure Trade where
  symbol : String
  timestamp : ℤ
  kind : Kind
  deriving DecidableEq, Repr

def Trade.day (t : Trade) : Option ℤ := dayKey t.timestamp

/-- `RescueStats`. -/
structure RescueStats where
  candidateCount : ℕ := 0
  acceptedCount : ℕ := 0
  rejectedCount : ℕ := 0
  rejectReasons : String → ℕ := fun _ => 0

/-- The counters of `recent_stats`; the texts that key the last four tell their parts apart. -/
structure Counters where
  lastTradeTs : String → ℤ := fun _ => 0
  tradesToday : String → ℕ := fun _ => 0
  globalTradesToday : ℕ := 0
  consecutiveSl : ℕ := 0
  consecutiveTp : ℕ := 0
  acceptedByDay : Option ℤ → ℕ := fun _ => 0
  acceptedBySymbolDay : String × Option ℤ → ℕ := fun _ => 0
  acceptedBySymbolRegimeDay : String × String × Option ℤ → ℕ := fun _ => 0
  highVolByDay : Option ℤ → ℕ := fun _ => 0

/-- What the loop of `main` carries on. -/
structure State where
  recent : Counters := {}
  rescue : RescueStats := {}
  /-- `len(open_rows)`. -/
  openRows : ℕ := 0
  candidates : List Trade := []

/-- `table[key] = table.get(key, 0) + 1`. -/
def bump {K : Type} [DecidableEq K] (table : K → ℕ) (key : K) : K → ℕ :=
  Function.update table key (table key + 1)

/-! ## 2. Configuration and answers -/

/-- `StrategyQualityGuardrailConfig`. -/
structure GuardrailConfig (F : Type) where
  enabled : Bool := true
  profile : String := "DEFAULT_FILTERS"
  maxAcceptedTradesPerDay : ℕ := 6
  maxSymbolTradesPerDay : ℕ := 2
  maxSymbolRegimeTradesPerDay : ℕ := 1
  maxConsecutiveSlPause : ℕ := 4
  score10SlDominanceGuard : Bool := true
  highVolAcceptanceGuard : Bool := true
  saturatedScoreThreshold : F
  saturatedMinEffectiveRr : F
  saturatedMaxCostPenalty : F
  highVolMinEffectiveRr : F
  highVolMaxCostPenalty : F
  highVolMaxTradesPerDay : ℕ := 2

/-- The guardrail judges at all. -/
def GuardrailConfig.active (g : GuardrailConfig F) : Bool :=
  g.enabled && g.profile ∉
    ["HIGH_VOL_MOMENTUM_DIAGNOSTIC", "HIGH_VOL_GUARD_OFF_DIAGNOSTIC",
      "VOL_GUARD_RELAXED_DIAGNOSTIC"]

/-- `RescueConfig`. -/
structure RescueConfig (F : Type) where
  enabled : Bool := false
  modes : List String := ["BACKTEST"]
  effectiveRrMin : F
  scoreMin : F
  maxTradesPerDay : ℕ := 1
  allowedReasons : List String := ["STOP_TOO_WIDE", "DAILY_SYMBOL_TRADE_LIMIT"]
  allowRegimeMismatch : Bool := false
  maxSpreadPct : F
  maxSlippagePct : F
  allowCooldownBypass : Bool := false
  maxConcurrentPositions : ℕ := 3

/-- `ShortBreakdownRescueConfig`. -/
structure ShortBreakdownRescueConfig (F : Type) where
  enabled : Bool := false
  modes : List String := ["BACKTEST"]
  maxTradesPerDay : ℕ := 1
  minEffectiveRr : F
  allowedReasons : List String := ["LOW_SCORE", "STOP_TOO_WIDE", "DAILY_SYMBOL_TRADE_LIMIT"]
  maxSpreadPct : F
  maxSlippagePct : F

structure Config (F : Type) where
  /-- `args.mode`, in capitals. -/
  mode : String := "BACKTEST"
  quality : QualityConfig F
  guardrail : GuardrailConfig F
  rescue : RescueConfig F
  shortBreakdown : ShortBreakdownRescueConfig F
  round2 : F → F

/-- What is answered for one candle of a symbol. -/
structure Visit (F : Type) where
  symbol : String
  timestamp : ℤ
  candidate : OrderCandidate F
  market : MarketContext F
  /-- The statistics that are no counter of the loop. -/
  statistics : RecentStats F
  /-- A rejection of the scan in front of the quality gates, or in place of their answer. -/
  scanReason : Option String := none
  /-- The first failed gate of the execution safety. -/
  safetyReason : Option String := none
  /-- `_primary_reject_reason_from_context` where the reason is a placeholder. -/
  placeholderReason : String := ""
  /-- The effective ratio is too low and the raw one is not. -/
  effectiveTooLow : Bool := false
  side : String := "LONG"
  setupType : String := ""
  regime : String := ""
  score : F
  /-- With the ratio of the diagnostics, and with that of the executed candidate. -/
  baseEffectiveRr : F
  effectiveRr : F
  failedFilter : String := ""
  /-- `mctx["regime"]`, `mctx["volatility_regime"]`. -/
  contextRegime : String := ""
  volatilityRegime : String := ""
  /-- `is not False`. -/
  liquidityOk : Bool := true
  volatilityOk : Bool := true
  /-- `_safe_float(…, -1.0)`. -/
  spreadPct : F
  slippagePct : F
  contextFailedGates : List String := []
  costPenalty : F
  stopTooWideSoftened : Bool := false
  /-- The first execution flag of an executed candidate. -/
  executionFlag : Option String := none
  portfolioReason : Option String := none
  /-- Of each row of the simulated trade, the close reason and whether it closes the position. -/
  closes : List (String × Bool) := []

/-- The statistics a candidate is judged with. -/
def Visit.stats (v : Visit F) (s : State) : RecentStats F :=
  { v.statistics with
    streaks := ⟨some s.recent.consecutiveSl, some s.recent.consecutiveTp⟩
    lastTradeTs := s.recent.lastTradeTs
    tradesToday := fun symbol => s.recent.tradesToday symbol
    globalTradesToday := s.recent.globalTradesToday }

/-- What the scan leaves in `last_result`. -/
inductive ScanResult where
  | executed
  | rejected (reason : String)
  deriving DecidableEq, Repr

/-- The result of the scan; `none` where the quality gates raise. -/
def scan (cfg : Config F) (s : State) (v : Visit F) : Option ScanResult :=
  match v.scanReason with
  | some reason => some (.rejected reason)
  | none => do
    let d ← evaluateTradeQuality cfg.round2 v.candidate v.market (v.stats s) cfg.quality
    if d.accepted then
      match v.safetyReason with
      | some reason => return .rejected reason
      | none => return .executed
    else return .rejected (if d.rejectReason = "" then "UNKNOWN" else d.rejectReason)

/-- `_primary_reject_reason_from_context`. -/
def primaryReason (v : Visit F) (current : String) : String :=
  let reason := upper (strip current)
  if reason ∈ ["", "UNKNOWN", "REJECT_REASON_MISSING"] then v.placeholderReason
  else if reason = "RR_TOO_LOW" ∧ v.effectiveTooLow = true then "LOW_EFFECTIVE_RR"
  else reason

/-! ## 3. The guardrail -/

/-- `_is_high_vol_context`. -/
def isHighVolContext (v : Visit F) (regime : String) : Bool :=
  let text := upper (regime ++ " " ++ v.contextRegime ++ " " ++ v.volatilityRegime)
  mentions "HIGH" text || mentions "VOL" text || mentions "BREAKOUT" text

/-- `_guardrail_rejection_reason`. -/
def guardrailRejectionReason (g : GuardrailConfig F) (recent : Counters) (v : Visit F) :
    Option String :=
  let day := dayKey v.timestamp
  let highVol := isHighVolContext v v.candidate.regime
  let regimeKey := upper v.candidate.regime
  if !g.active then none
  else if g.maxConsecutiveSlPause ≤ recent.consecutiveSl then some "LOSS_STREAK_PAUSE"
  else if g.maxAcceptedTradesPerDay ≤ recent.acceptedByDay day then
    some "DAILY_TRADE_FREQUENCY_GUARD"
  else if g.maxSymbolTradesPerDay ≤ recent.acceptedBySymbolDay (v.symbol, day) then
    some "SYMBOL_CLUSTER_GUARD"
  else if g.maxSymbolRegimeTradesPerDay ≤
      recent.acceptedBySymbolRegimeDay (v.symbol, regimeKey, day) then
    some "SYMBOL_CLUSTER_GUARD"
  else if highVol && g.highVolAcceptanceGuard &&
      decide (g.highVolMaxTradesPerDay ≤ recent.highVolByDay day) then some "HIGH_VOL_OVERTRADE"
  else if highVol && g.highVolAcceptanceGuard &&
      decide (g.highVolMaxCostPenalty < v.costPenalty) then some "HIGH_VOL_EXECUTION_COST"
  else if highVol && g.highVolAcceptanceGuard &&
      (decide (v.effectiveRr < g.highVolMinEffectiveRr) || v.stopTooWideSoftened) then
    some "HIGH_VOL_GUARD"
  else if g.score10SlDominanceGuard && decide (g.saturatedScoreThreshold ≤ v.candidate.score) &&
      (decide (v.effectiveRr < g.saturatedMinEffectiveRr) ||
        regimeKey ∉ ["TREND", "BREAKOUT"] || highVol ||
        decide (g.saturatedMaxCostPenalty < v.costPenalty)) then some "SCORE_SATURATION_GUARD"
  else none

/-- `_record_guardrail_acceptance`. -/
def recordGuardrailAcceptance (recent : Counters) (v : Visit F) : Counters :=
  let day := dayKey v.timestamp
  { recent with
    acceptedByDay := bump recent.acceptedByDay day
    acceptedBySymbolDay := bump recent.acceptedBySymbolDay (v.symbol, day)
    acceptedBySymbolRegimeDay :=
      bump recent.acceptedBySymbolRegimeDay (v.symbol, upper v.candidate.regime, day)
    highVolByDay := if isHighVolContext v v.candidate.regime then bump recent.highVolByDay day
      else recent.highVolByDay }

/-! ## 4. The rescue -/

/-- `_rescue_reject`. -/
def RescueStats.reject (stats : RescueStats) (reason : String) : RescueStats :=
  { stats with
    rejectedCount := stats.rejectedCount + 1
    rejectReasons := bump stats.rejectReasons reason }

/-- The tests of `_rescue_acceptance_allowed` behind the one of the reason, in its order. -/
def rescueRefusal (r : RescueConfig F) (stats : RescueStats) (openRows : ℕ) (v : Visit F)
    (reason : String) (effectiveRr : F) : Option String :=
  let zero : F := FloatNum.ofInt 0
  let regime := upper (textOr (some v.regime) v.contextRegime)
  if v.score < r.scoreMin then some "SCORE_TOO_LOW"
  else if !v.liquidityOk then some "LIQUIDITY_NOT_OK"
  else if !v.volatilityOk then some "VOLATILITY_NOT_OK"
  else if v.spreadPct < zero ∨ r.maxSpreadPct < v.spreadPct then some "SPREAD_TOO_HIGH"
  else if v.slippagePct < zero ∨ r.maxSlippagePct < v.slippagePct then some "SLIPPAGE_TOO_HIGH"
  else if effectiveRr < r.effectiveRrMin then some "EFFECTIVE_RR_TOO_LOW"
  else if regime ∈ ["PANIC", "NEWS_DRIVEN"] then some "REGIME_BLOCKED"
  else if !r.allowRegimeMismatch && (reason = "REGIME_MISMATCH" ||
      "REGIME_MISMATCH" ∈ v.contextFailedGates.map upper) then some "REGIME_MISMATCH"
  else if r.maxTradesPerDay ≤ stats.acceptedCount then some "DAILY_RESCUE_LIMIT"
  else if r.maxConcurrentPositions ≤ openRows then some "MAX_CONCURRENT_POSITIONS"
  else if !r.allowCooldownBypass && reason = "SYMBOL_COOLDOWN_ACTIVE" then some "COOLDOWN_ACTIVE"
  else none

/-- `_rescue_acceptance_allowed`: the statistics, and the reason of a refusal. -/
def rescueAcceptanceAllowed (cfg : Config F) (stats : RescueStats) (openRows : ℕ) (v : Visit F)
    (reason : String) (effectiveRr : F) : RescueStats × Option String :=
  let r := cfg.rescue
  let reason := upper reason
  if !r.enabled then (stats, some "RESCUE_DISABLED")
  else if cfg.mode ∉ r.modes ∨ cfg.mode ≠ "BACKTEST" then
    (stats.reject "MODE_NOT_BACKTEST", some "MODE_NOT_BACKTEST")
  else if reason ∉ r.allowedReasons then
    (stats.reject "REASON_NOT_ALLOWED", some "REASON_NOT_ALLOWED")
  else
    let stats := { stats with candidateCount := stats.candidateCount + 1 }
    match rescueRefusal r stats openRows v reason effectiveRr with
    | some refusal => (stats.reject refusal, some refusal)
    | none => (stats, none)

/-- `sbr_candidate`. -/
def shortBreakdownCandidate (cfg : Config F) (v : Visit F) (reason : String) : Bool :=
  let sbr := cfg.shortBreakdown
  let firstGate := upper (textOr (some v.failedFilter) (upper reason))
  sbr.enabled && cfg.mode = "BACKTEST" && "BACKTEST" ∈ sbr.modes.map upper &&
    upper v.side = "SHORT" && upper v.setupType = "BREAKDOWN_DOWN" &&
    (upper reason ∈ sbr.allowedReasons || firstGate ∈ sbr.allowedReasons)

/-- `short_breakdown_ok`. -/
def shortBreakdownOk (cfg : Config F) (stats : RescueStats) (v : Visit F) (reason : String)
    (effectiveRr : F) : Bool :=
  let sbr := cfg.shortBreakdown
  let zero : F := FloatNum.ofInt 0
  let regime := upper (textOr (some v.regime) v.contextRegime)
  shortBreakdownCandidate cfg v reason &&
    (mentions "BREAKOUT" regime || regime = "NORMAL" || upper v.volatilityRegime = "NORMAL") &&
    v.liquidityOk && v.volatilityOk && decide (sbr.minEffectiveRr ≤ effectiveRr) &&
    (decide (v.spreadPct < zero) || decide (v.spreadPct ≤ sbr.maxSpreadPct)) &&
    (decide (v.slippagePct < zero) || decide (v.slippagePct ≤ sbr.maxSlippagePct)) &&
    decide (stats.acceptedCount < sbr.maxTradesPerDay)

/-- `_try_rescue` up to the acceptance: the statistics, and the reason of a refusal. -/
def tryRescue (cfg : Config F) (s : State) (v : Visit F) (reason : String) (effectiveRr : F) :
    RescueStats × Option String :=
  let tried := shortBreakdownCandidate cfg v reason
  let seen := if tried then { s.rescue with candidateCount := s.rescue.candidateCount + 1 }
    else s.rescue
  if shortBreakdownOk cfg seen v reason effectiveRr then (seen, none)
  else
    let stats := if tried then { seen with rejectedCount := seen.rejectedCount + 1 } else seen
    rescueAcceptanceAllowed cfg stats s.openRows v reason effectiveRr

/-! ## 5. One candle -/

/-- Where a candidate is rejected. -/
inductive Stage where
  | scan
  | execution
  | portfolio
  | guardrail
  deriving DecidableEq, Repr

/-- What becomes of a candidate; a rejection says why it was not rescued. -/
inductive Decision where
  | accepted (kind : Kind)
  | rejected (stage : Stage) (reason : String) (refusal : Option String)
  deriving DecidableEq, Repr

/-- `_update_recent_stats_after_close`, for the streaks. -/
def updateAfterClose (recent : Counters) (reason : String) : Counters :=
  if reason = "SL_HIT" then
    { recent with consecutiveSl := recent.consecutiveSl + 1, consecutiveTp := 0 }
  else if reason = "TP_HIT" then
    { recent with consecutiveTp := recent.consecutiveTp + 1, consecutiveSl := 0 }
  else recent

/-- The loop over the rows of the simulated trade. -/
def afterCloses (recent : Counters) (closes : List (String × Bool)) : Counters :=
  closes.foldl (fun r close => if close.2 then updateAfterClose r close.1 else r) recent

/-- The counters that every acceptance moves. -/
def countTrade (recent : Counters) (v : Visit F) : Counters :=
  { recent with
    lastTradeTs := Function.update recent.lastTradeTs v.symbol v.timestamp
    tradesToday := bump recent.tradesToday v.symbol
    globalTradesToday := recent.globalTradesToday + 1 }

/-- The end of an acceptance; only a baseline trade is recorded for the guardrail. -/
def accept (s : State) (v : Visit F) (kind : Kind) : State :=
  let counted := countTrade s.recent v
  let recorded := match kind with
    | .baseline => recordGuardrailAcceptance counted v
    | .rescue => counted
  { s with
    recent := afterCloses recorded v.closes
    openRows := s.openRows + v.closes.countP fun close => close.1 = "TIMEOUT"
    candidates := s.candidates ++ [⟨v.symbol, v.timestamp, kind⟩] }

/-- The rejection of a candidate that may be rescued. -/
def rejectOrRescue (cfg : Config F) (s : State) (v : Visit F) (stage : Stage) (reason : String)
    (effectiveRr : F) : State × Decision :=
  match tryRescue cfg s v reason effectiveRr with
  | (stats, none) =>
    (accept { s with rescue := { stats with acceptedCount := stats.acceptedCount + 1 } } v .rescue,
      .accepted .rescue)
  | (stats, some refusal) => ({ s with rescue := stats }, .rejected stage reason (some refusal))

/-- One pass of the loop, with `process_backtest_result`; `none` where the scan raises. -/
def visit (cfg : Config F) (s : State) (v : Visit F) : Option (State × Decision) :=
  match scan cfg s v with
  | none => none
  | some (.rejected reason) =>
    some (rejectOrRescue cfg s v .scan (primaryReason v reason) v.baseEffectiveRr)
  | some .executed =>
    match v.executionFlag, v.portfolioReason with
    | some reason, _ => some (rejectOrRescue cfg s v .execution reason v.effectiveRr)
    | none, some reason => some (s, .rejected .portfolio reason none)
    | none, none =>
      match guardrailRejectionReason cfg.guardrail s.recent v with
      | some reason => some (s, .rejected .guardrail reason none)
      | none => some (accept s v .baseline, .accepted .baseline)

/-- A pass with the states around it. -/
structure Pass (F : Type) where
  before : State
  visit : Visit F
  after : State
  decision : Decision

/-- The passes of a run, up to one that raises. -/
def passes (cfg : Config F) : State → List (Visit F) → List (Pass F)
  | _, [] => []
  | s, v :: rest =>
    match visit cfg s v with
    | none => []
    | some (s', decision) => ⟨s, v, s', decision⟩ :: passes cfg s' rest

/-! ## 6. What the counters count -/

/-- The accepted trades of a kind on a day. -/
def State.acceptedOn (s : State) (kind : Kind) (day : Option ℤ) : ℕ :=
  s.candidates.countP fun t => t.kind = kind ∧ t.day = day

/-- Those of a symbol. -/
def State.acceptedOf (s : State) (kind : Kind) (symbol : String) (day : Option ℤ) : ℕ :=
  s.candidates.countP fun t => t.kind = kind ∧ t.symbol = symbol ∧ t.day = day

/-- The rescues of the run. -/
def State.rescued (s : State) : ℕ := s.candidates.countP fun t => t.kind = .rescue

/-- What one rescue or the other allows. -/
def Config.rescueLimit (cfg : Config F) : ℕ :=
  max cfg.rescue.maxTradesPerDay cfg.shortBreakdown.maxTradesPerDay

/-- The counters say of the accepted trades what is true, and these stay inside the limits. -/
structure Counted (cfg : Config F) (s : State) : Prop where
  day : ∀ d, s.recent.acceptedByDay d = s.acceptedOn .baseline d
  symbolDay : ∀ symbol d, s.recent.acceptedBySymbolDay (symbol, d) = s.acceptedOf .baseline symbol d
  rescue : s.rescue.acceptedCount = s.rescued
  /-- The count of the symbol that `trades today` stands for is that of the run. -/
  symbol : ∀ symbol, s.recent.tradesToday symbol = s.candidates.countP fun t => t.symbol = symbol
  withinDay : cfg.guardrail.active = true → ∀ d,
    s.acceptedOn .baseline d ≤ cfg.guardrail.maxAcceptedTradesPerDay
  withinSymbol : cfg.guardrail.active = true → ∀ symbol d,
    s.acceptedOf .baseline symbol d ≤ cfg.guardrail.maxSymbolTradesPerDay
  withinRescue : s.rescued ≤ cfg.rescueLimit

theorem countP_append_one {p : Trade → Prop} [DecidablePred p] (ts : List Trade) (t : Trade) :
    (ts ++ [t]).countP (fun x => p x) = ts.countP (fun x => p x) + if p t then 1 else 0 := by
  rw [List.countP_append, List.countP_singleton]
  simp only [decide_eq_true_eq]

/-- A close moves the streaks only. -/
theorem afterCloses_keeps {α : Type} (read : Counters → α)
    (h : ∀ recent reason, read (updateAfterClose recent reason) = read recent) (recent : Counters)
    (closes : List (String × Bool)) : read (afterCloses recent closes) = read recent := by
  unfold afterCloses
  induction closes generalizing recent with
  | nil => rfl
  | cons close rest ih =>
    rw [List.foldl_cons, ih]
    split
    · exact h recent close.1
    · rfl

theorem updateAfterClose_keeps (recent : Counters) (reason : String) :
    (updateAfterClose recent reason).acceptedByDay = recent.acceptedByDay ∧
      (updateAfterClose recent reason).acceptedBySymbolDay = recent.acceptedBySymbolDay ∧
      (updateAfterClose recent reason).tradesToday = recent.tradesToday := by
  unfold updateAfterClose
  split
  · exact ⟨rfl, rfl, rfl⟩
  · split <;> exact ⟨rfl, rfl, rfl⟩

@[simp] theorem afterCloses_acceptedByDay (recent : Counters) (closes : List (String × Bool)) :
    (afterCloses recent closes).acceptedByDay = recent.acceptedByDay :=
  afterCloses_keeps Counters.acceptedByDay (fun r x => (updateAfterClose_keeps r x).1) recent closes

@[simp] theorem afterCloses_acceptedBySymbolDay (recent : Counters)
    (closes : List (String × Bool)) :
    (afterCloses recent closes).acceptedBySymbolDay = recent.acceptedBySymbolDay :=
  afterCloses_keeps Counters.acceptedBySymbolDay (fun r x => (updateAfterClose_keeps r x).2.1)
    recent closes

@[simp] theorem afterCloses_tradesToday (recent : Counters) (closes : List (String × Bool)) :
    (afterCloses recent closes).tradesToday = recent.tradesToday :=
  afterCloses_keeps Counters.tradesToday (fun r x => (updateAfterClose_keeps r x).2.2) recent closes

/-- Refusing a rescue counts no trade. -/
theorem tryRescue_count (cfg : Config F) (s : State) (v : Visit F) (reason : String) (rr : F) :
    (tryRescue cfg s v reason rr).1.acceptedCount = s.rescue.acceptedCount := by
  have hallowed : ∀ stats : RescueStats,
      (rescueAcceptanceAllowed cfg stats s.openRows v reason rr).1.acceptedCount =
        stats.acceptedCount := by
    intro stats
    unfold rescueAcceptanceAllowed
    dsimp only
    split_ifs <;> first | rfl | (split <;> rfl)
  unfold tryRescue
  dsimp only
  split_ifs <;> first | rfl | exact hallowed _

theorem below_of_not_refused {r : RescueConfig F} {stats : RescueStats} {openRows : ℕ}
    {v : Visit F} {reason : String} {rr : F}
    (h : rescueRefusal r stats openRows v reason rr = none) :
    stats.acceptedCount < r.maxTradesPerDay := by
  by_contra hfull
  unfold rescueRefusal at h
  rw [if_pos (Nat.le_of_not_lt hfull)] at h
  dsimp only at h
  split_ifs at h

/-- A rescue finds its limit not used up. -/
theorem below_of_rescued {cfg : Config F} {s : State} {v : Visit F} {reason : String} {rr : F}
    (h : (tryRescue cfg s v reason rr).2 = none) : s.rescue.acceptedCount < cfg.rescueLimit := by
  have hallowed : ∀ stats : RescueStats,
      (rescueAcceptanceAllowed cfg stats s.openRows v reason rr).2 = none →
        stats.acceptedCount < cfg.rescue.maxTradesPerDay := by
    intro stats hnone
    unfold rescueAcceptanceAllowed at hnone
    dsimp only at hnone
    split_ifs at hnone
    split at hnone
    · cases hnone
    · next hrefusal => exact below_of_not_refused hrefusal
  have hshort : ∀ stats : RescueStats, shortBreakdownOk cfg stats v reason rr = true →
      stats.acceptedCount < cfg.shortBreakdown.maxTradesPerDay := by
    intro stats hok
    unfold shortBreakdownOk at hok
    exact of_decide_eq_true (Bool.and_eq_true_iff.mp hok).2
  have hleft := Nat.le_max_left cfg.rescue.maxTradesPerDay cfg.shortBreakdown.maxTradesPerDay
  have hright := Nat.le_max_right cfg.rescue.maxTradesPerDay cfg.shortBreakdown.maxTradesPerDay
  unfold tryRescue at h
  unfold Config.rescueLimit
  dsimp only at h
  split_ifs at h with htried hok hok
  · exact lt_of_lt_of_le (hshort _ hok) hright
  · have hlow := hallowed _ h
    exact lt_of_lt_of_le hlow hleft
  · exact lt_of_lt_of_le (hshort _ hok) hright
  · exact lt_of_lt_of_le (hallowed _ h) hleft

/-- What an active guardrail lets through finds the day and the symbol below their limits. -/
theorem below_of_unguarded {g : GuardrailConfig F} {recent : Counters} {v : Visit F}
    (hactive : g.active = true) (h : guardrailRejectionReason g recent v = none) :
    recent.acceptedByDay (dayKey v.timestamp) < g.maxAcceptedTradesPerDay ∧
      recent.acceptedBySymbolDay (v.symbol, dayKey v.timestamp) < g.maxSymbolTradesPerDay := by
  have hon : ¬ (!g.active) = true := by rw [hactive]; exact Bool.false_ne_true
  unfold guardrailRejectionReason at h
  dsimp only at h
  rw [if_neg hon] at h
  split_ifs at h with _ hday hsymbol
  exact ⟨Nat.lt_of_not_le hday, Nat.lt_of_not_le hsymbol⟩

/-- The frequency of trades is refused on a full day. -/
theorem full_of_frequency {g : GuardrailConfig F} {recent : Counters} {v : Visit F}
    (h : guardrailRejectionReason g recent v = some "DAILY_TRADE_FREQUENCY_GUARD") :
    g.maxAcceptedTradesPerDay ≤ recent.acceptedByDay (dayKey v.timestamp) := by
  by_contra hday
  unfold guardrailRejectionReason at h
  dsimp only at h
  rw [if_neg hday] at h
  split_ifs at h <;> exact absurd (Option.some.inj h) (by decide)

section Steps

variable {cfg : Config F} {s : State} {v : Visit F}

theorem bump_apply {K : Type} [DecidableEq K] (table : K → ℕ) (key k : K) :
    bump table key k = table k + if key = k then 1 else 0 := by
  unfold bump
  rw [Function.update_apply]
  by_cases h : k = key
  · rw [if_pos h, if_pos h.symm, h]
  · rw [if_neg h, if_neg (Ne.symm h), Nat.add_zero]

omit [FloatNum F] in
theorem acceptedOn_accept (s : State) (v : Visit F) (kind k : Kind) (d : Option ℤ) :
    (accept s v kind).acceptedOn k d =
      s.acceptedOn k d + if kind = k ∧ dayKey v.timestamp = d then 1 else 0 := by
  unfold State.acceptedOn accept
  rw [countP_append_one]
  rfl

omit [FloatNum F] in
theorem acceptedOf_accept (s : State) (v : Visit F) (kind k : Kind) (symbol : String)
    (d : Option ℤ) :
    (accept s v kind).acceptedOf k symbol d =
      s.acceptedOf k symbol d +
        if kind = k ∧ v.symbol = symbol ∧ dayKey v.timestamp = d then 1 else 0 := by
  unfold State.acceptedOf accept
  rw [countP_append_one]
  rfl

omit [FloatNum F] in
theorem rescued_accept (s : State) (v : Visit F) (kind : Kind) :
    (accept s v kind).rescued = s.rescued + if kind = .rescue then 1 else 0 := by
  unfold State.rescued accept
  rw [countP_append_one]

omit [FloatNum F] in
/-- Every acceptance counts one more trade of the symbol. -/
theorem tradesToday_accept {cfg : Config F} {s : State} (h : Counted cfg s) (v : Visit F)
    (kind : Kind) (symbol : String) :
    (accept s v kind).recent.tradesToday symbol =
      (accept s v kind).candidates.countP fun t => t.symbol = symbol := by
  have hbump : (accept s v kind).recent.tradesToday = bump s.recent.tradesToday v.symbol := by
    cases kind <;> exact afterCloses_tradesToday _ _
  rw [hbump, bump_apply, h.symbol]
  unfold accept
  rw [countP_append_one]

/-- A baseline trade that the guardrail lets through. -/
theorem counted_baseline (h : Counted cfg s)
    (hguard : guardrailRejectionReason cfg.guardrail s.recent v = none) :
    Counted cfg (accept s v .baseline) := by
  have hday : (accept s v .baseline).recent.acceptedByDay =
      bump s.recent.acceptedByDay (dayKey v.timestamp) := afterCloses_acceptedByDay _ _
  have hsymbolDay : (accept s v .baseline).recent.acceptedBySymbolDay =
      bump s.recent.acceptedBySymbolDay (v.symbol, dayKey v.timestamp) :=
    afterCloses_acceptedBySymbolDay _ _
  constructor
  · intro d
    rw [hday, bump_apply, acceptedOn_accept, h.day]
    simp
  · intro symbol d
    rw [hsymbolDay, bump_apply, acceptedOf_accept, h.symbolDay]
    simp
  · rw [rescued_accept]
    exact h.rescue
  · exact tradesToday_accept h v .baseline
  · intro hactive d
    have hbelow := (below_of_unguarded hactive hguard).1
    have hwithin := h.withinDay hactive d
    rw [h.day] at hbelow
    rw [acceptedOn_accept]
    split
    · next hd =>
      rw [← hd.2]
      exact hbelow
    · exact hwithin
  · intro hactive symbol d
    have hbelow := (below_of_unguarded hactive hguard).2
    have hwithin := h.withinSymbol hactive symbol d
    rw [h.symbolDay] at hbelow
    rw [acceptedOf_accept]
    split
    · next hd =>
      rw [← hd.2.1, ← hd.2.2]
      exact hbelow
    · exact hwithin
  · rw [rescued_accept]
    exact h.withinRescue

omit [FloatNum F] in
/-- A rescue that is below its limit. -/
theorem counted_rescue (h : Counted cfg s) {stats : RescueStats}
    (hcount : stats.acceptedCount = s.rescue.acceptedCount)
    (hbelow : s.rescue.acceptedCount < cfg.rescueLimit) :
    Counted cfg
      (accept { s with rescue := { stats with acceptedCount := stats.acceptedCount + 1 } } v
        .rescue) := by
  have hstats : Counted cfg { s with rescue := stats } :=
    { h with rescue := hcount.trans h.rescue }
  constructor
  · intro d
    rw [acceptedOn_accept]
    exact (congrFun (afterCloses_acceptedByDay _ _) d).trans (h.day d)
  · intro symbol d
    rw [acceptedOf_accept]
    exact (congrFun (afterCloses_acceptedBySymbolDay _ _) (symbol, d)).trans (h.symbolDay symbol d)
  · rw [rescued_accept]
    exact congrArg Nat.succ (hcount.trans h.rescue)
  · exact tradesToday_accept hstats v .rescue
  · intro hactive d
    rw [acceptedOn_accept]
    exact h.withinDay hactive d
  · intro hactive symbol d
    rw [acceptedOf_accept]
    exact h.withinSymbol hactive symbol d
  · rw [rescued_accept]
    rw [h.rescue] at hbelow
    exact hbelow

theorem counted_rejectOrRescue (h : Counted cfg s) (stage : Stage) (reason : String) (rr : F) :
    Counted cfg (rejectOrRescue cfg s v stage reason rr).1 := by
  have hcount := tryRescue_count cfg s v reason rr
  have hbelow : (tryRescue cfg s v reason rr).2 = none →
      s.rescue.acceptedCount < cfg.rescueLimit := below_of_rescued
  unfold rejectOrRescue
  generalize tryRescue cfg s v reason rr = tried at hcount hbelow
  obtain ⟨stats, _ | refusal⟩ := tried
  · exact counted_rescue h hcount (hbelow rfl)
  · exact { h with rescue := hcount.trans h.rescue }

/-- Every pass keeps the counters true and the trades inside the limits. -/
theorem counted_visit (h : Counted cfg s) {s' : State} {decision : Decision}
    (hvisit : visit cfg s v = some (s', decision)) : Counted cfg s' := by
  unfold visit at hvisit
  split at hvisit
  · cases hvisit
  · next reason _ =>
    obtain rfl : (rejectOrRescue cfg s v .scan (primaryReason v reason) v.baseEffectiveRr).1 = s' :=
      congrArg Prod.fst (Option.some.inj hvisit)
    exact counted_rejectOrRescue h _ _ _
  · cases hflag : v.executionFlag with
    | some reason =>
      rw [hflag] at hvisit
      obtain rfl : (rejectOrRescue cfg s v .execution reason v.effectiveRr).1 = s' :=
        congrArg Prod.fst (Option.some.inj hvisit)
      exact counted_rejectOrRescue h _ _ _
    | none =>
      cases hportfolio : v.portfolioReason with
      | some reason =>
        rw [hflag, hportfolio] at hvisit
        cases hvisit
        exact h
      | none =>
        rw [hflag, hportfolio] at hvisit
        cases hguard : guardrailRejectionReason cfg.guardrail s.recent v with
        | some reason =>
          rw [hguard] at hvisit
          cases hvisit
          exact h
        | none =>
          rw [hguard] at hvisit
          cases hvisit
          exact counted_baseline h hguard

end Steps

/-! ## 7. Whole runs -/

omit [FloatNum F] in
theorem counted_init (cfg : Config F) : Counted cfg {} where
  day _ := rfl
  symbolDay _ _ := rfl
  rescue := rfl
  symbol _ := rfl
  withinDay _ _ := Nat.zero_le _
  withinSymbol _ _ _ := Nat.zero_le _
  withinRescue := Nat.zero_le _

/-- Around every pass of a run the counters say what is true. -/
theorem counted_run {cfg : Config F} {s : State} (h : Counted cfg s) {visits : List (Visit F)}
    {p : Pass F} (hp : p ∈ passes cfg s visits) :
    Counted cfg p.before ∧ Counted cfg p.after ∧
      visit cfg p.before p.visit = some (p.after, p.decision) := by
  induction visits generalizing s with
  | nil => exact absurd hp List.not_mem_nil
  | cons v rest ih =>
    unfold passes at hp
    split at hp
    · exact absurd hp List.not_mem_nil
    · next s' decision hvisit =>
      rcases List.mem_cons.mp hp with rfl | hp
      · exact ⟨h, counted_visit h hvisit, hvisit⟩
      · exact ih (counted_visit h hvisit) hp

/-- A guardrail rejection is one of `_guardrail_rejection_reason`. -/
theorem guarded_of_visit {cfg : Config F} {s s' : State} {v : Visit F} {reason : String}
    {refusal : Option String} (h : visit cfg s v = some (s', .rejected .guardrail reason refusal)) :
    guardrailRejectionReason cfg.guardrail s.recent v = some reason := by
  have hstage : ∀ {stage reason' rr}, stage ≠ .guardrail →
      (rejectOrRescue cfg s v stage reason' rr).2 ≠ .rejected .guardrail reason refusal := by
    intro stage reason' rr hstage hrejected
    unfold rejectOrRescue at hrejected
    split at hrejected
    · cases hrejected
    · cases hrejected
      exact hstage rfl
  unfold visit at h
  split at h
  · cases h
  · exact absurd (congrArg Prod.snd (Option.some.inj h)) (hstage (by decide))
  · cases hflag : v.executionFlag with
    | some _ =>
      rw [hflag] at h
      exact absurd (congrArg Prod.snd (Option.some.inj h)) (hstage (by decide))
    | none =>
      cases hportfolio : v.portfolioReason with
      | some _ =>
        rw [hflag, hportfolio] at h
        cases h
      | none =>
        rw [hflag, hportfolio] at h
        cases hguard : guardrailRejectionReason cfg.guardrail s.recent v with
        | some _ =>
          rw [hguard] at h
          cases h
          rfl
        | none =>
          rw [hguard] at h
          cases h

/-- The trades of a day are its baseline trades and its rescues. -/
theorem day_le (trades : List Trade) (d : Option ℤ) :
    trades.countP (fun t => t.day = d) ≤
      trades.countP (fun t => t.kind = .baseline ∧ t.day = d) +
        trades.countP (fun t => t.kind = .rescue) := by
  induction trades with
  | nil => exact Nat.le_refl 0
  | cons t rest ih =>
    simp only [List.countP_cons, Bool.decide_and] at ih ⊢
    cases hkind : t.kind <;> by_cases hday : t.day = d <;> simp [hday] <;> omega

/-- A pass respects the limits of the day. -/
structure WithinLimits (cfg : Config F) (p : Pass F) : Prop where
  /-- The frequency of trades is refused on a day that is full of baseline trades only. -/
  frequency : ∀ refusal,
    p.decision = .rejected .guardrail "DAILY_TRADE_FREQUENCY_GUARD" refusal →
      cfg.guardrail.maxAcceptedTradesPerDay ≤
        p.before.acceptedOn .baseline (dayKey p.visit.timestamp)
  baseline : cfg.guardrail.active = true → ∀ d,
    p.after.acceptedOn .baseline d ≤ cfg.guardrail.maxAcceptedTradesPerDay
  symbol : cfg.guardrail.active = true → ∀ symbol d,
    p.after.acceptedOf .baseline symbol d ≤ cfg.guardrail.maxSymbolTradesPerDay
  /-- The rescues of the whole run. -/
  rescues : p.after.rescued ≤ cfg.rescueLimit
  together : cfg.guardrail.active = true → ∀ d,
    p.after.candidates.countP (fun t => t.day = d) ≤
      cfg.guardrail.maxAcceptedTradesPerDay + cfg.rescueLimit

/-- A breakout that passes every gate of `sampleQuality`. -/
def sampleOrder (symbol : String) : OrderCandidate ℚ where
  symbol
  side := "LONG"
  setupType := "BREAKOUT_UP"
  setupReason := "range break"
  regime := "BREAKOUT"
  score := 8
  rr := 2
  expectancy := some (1 / 5)
  entry := 100
  sl := 99
  tp := 102

/-- One trade of a symbol on a day. -/
def sampleQuality : QualityConfig ℚ where
  mode := "BACKTEST"
  minTradeScore := some 7
  minRr := some (13 / 10)
  minEffectiveRr := 3 / 2
  minExpectancy := 0
  minSlPct := 1 / 5
  maxSlPct := 5 / 2
  maxSpreadPct := 3 / 1000
  maxExpectedSlippagePct := 2 / 1000
  minAtrPct := 1 / 10
  maxAtrPct := 5
  blockUnknownExpectancy := true
  blockChopMarket := true
  requireRegimeAlignment := true
  enableOrderbookFilter := false
  rejectUnknownExecutionContext := true
  stopTooWideHardReject := true
  stopTooWideSoftScoreMin := 8
  stopTooWideSoftEffectiveRrMin := 3 / 2
  stopTooWideMaxRiskScale := 1 / 2
  stopTooWideExtremeMult := 3 / 2
  symbolCooldownMinutes := 15
  maxTradesPerSymbolPerDay := 1
  maxTradesGlobalPerDay := 10

/-- One baseline trade on a day, one rescue. -/
def sampleConfig : Config ℚ where
  quality := sampleQuality
  guardrail :=
    { maxAcceptedTradesPerDay := 1, highVolAcceptanceGuard := false
      saturatedScoreThreshold := 98 / 10, saturatedMinEffectiveRr := 11 / 5
      saturatedMaxCostPenalty := 1 / 5, highVolMinEffectiveRr := 23 / 10
      highVolMaxCostPenalty := 9 / 50 }
  rescue :=
    { enabled := true, effectiveRrMin := 19 / 10, scoreMin := 7, maxSpreadPct := 1 / 400
      maxSlippagePct := 1 / 500 }
  shortBreakdown :=
    { minEffectiveRr := 11 / 10, maxSpreadPct := 1 / 400, maxSlippagePct := 1 / 500 }
  round2 := id

def sampleVisit (symbol : String) (timestamp : ℤ) (scanReason : Option String) : Visit ℚ where
  symbol
  timestamp
  candidate := sampleOrder symbol
  market :=
    { effectiveRr := some 2, volatilityRegime := some "normal", spreadPct := some (1 / 1000)
      expectedSlippagePct := some (1 / 2000), atrPct := some (some 1), timestamp := some timestamp }
  statistics := {}
  scanReason
  score := 8
  baseEffectiveRr := 2
  effectiveRr := 2
  spreadPct := 1 / 1000
  slippagePct := 1 / 2000
  costPenalty := 1 / 10

/-- A trade, a stop that is too wide and a third candidate on the same day, and the first symbol
    again the day after. -/
def twoDays : List (Visit ℚ) :=
  [sampleVisit "BTCUSDT" 1700006400000 none,
    sampleVisit "ETHUSDT" 1700010000000 (some "STOP_TOO_WIDE"),
    sampleVisit "SOLUSDT" 1700013600000 none,
    sampleVisit "BTCUSDT" 1700092800000 none]

end AlphaForge.Backtest.Daily
