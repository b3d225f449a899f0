/-
  File:      AlphaForge/Portfolio/Risk.lean
  Subject:   `evaluate_portfolio_risk`: the chain of reject-if-exceeded checks one candidate
             passes before it may be sized.

  * `gates` -- the checks in the order of the source, each with its reason; the first that fails
    names the rejection (`firstFailed`).
  * `accepted_iff` -- acceptance is exactly that every gate answered "passed".
  * `Admitted` -- what the gates are for: every configured limit holds of the accepted notional,
    wherever the compared values are numbers. `admitted_of_accepted` gives it of an acceptance with
    the diagnostic switch off.
  * `TrulyAdmitted` -- the same without that proviso: every number used is one, and finite.
  * **`truly_admitted_iff`** -- an acceptance means `TrulyAdmitted` exactly where the numbers that
    are compared can be: every comparison is false on NaN, so a NaN passes it (`nan_accepted`).
-/
import AlphaForge.Lib.Numbers
import AlphaForge.Lib.PyValues

namespace AlphaForge.Portfolio

open AlphaForge.Lib

/-! ## 1. Values -/

/-- A Python number: an unbounded integer or a float. -/
inductive PyNum (F : Type) where
  | int (n : ℤ)
  | float (x : F)
  deriving DecidableEq, Repr

/-- One numeric field of a candidate: missing, a number, or a text with what `float` reads in it
    (`none` where it raises). -/
inductive Value (F : Type) where
  | none
  | number (x : F)
  | text (s : String) (reading : Option F)
  deriving DecidableEq, Repr

/-- A configuration key: absent, present as `None`, or present with a value. -/
abbrev Setting (α : Type) := Option (Option α)

/-- `config.get(key, default)`. -/
def Setting.get {α : Type} (s : Setting α) (default : Option α) : Option α := Option.getD s default

section Values

variable {F : Type} [FloatNum F]

/-- `float(n)`. -/
def PyNum.toFloat : PyNum F → Except PyError F
  | .int n => if FloatNum.isFinite (FloatNum.ofInt n : F) then .ok (FloatNum.ofInt n)
      else .error .overflowError
  | .float x => .ok x

/-- `int(x)`: truncation; NaN and the infinities raise. -/
def PyNum.toInt : PyNum F → Except PyError ℤ
  | .int n => .ok n
  | .float x =>
    match FloatNum.trunc x with
    | some n => .ok n
    | none => .error .overflowError

/-- `bool(value)`. -/
def Value.truthy : Value F → Bool
  | .none => false
  | .number x => !FloatNum.feq x (FloatNum.ofInt 0)
  | .text s _ => s != ""

/-- `a or b`. -/
def Value.or (a b : Value F) : Value F := if a.truthy then a else b

/-- `_num(value, None)`. -/
def Value.num : Value F → Option F
  | .none => Option.none
  | .number x => some x
  | .text s reading =>
    if s = "" ∨ s = "UNKNOWN" ∨ s = "UNAVAILABLE" then Option.none else reading

/-- `float(value or 0.0)` of a nullable number. -/
def orZero : Option F → F
  | some x => if FloatNum.feq x (FloatNum.ofInt 0) then FloatNum.ofInt 0 else x
  | none => FloatNum.ofInt 0

/-- `value is None or value <= 0`. -/
def nonPositive : Option F → Bool
  | some x => decide (x ≤ FloatNum.ofInt 0)
  | none => true

end Values

/-! ## 2. Reasons -/

/-- The reasons of a rejection. -/
inductive Reason where
  | unknownPortfolioRisk
  | invalidEquity
  | invalidPositionSize
  | maxOpenPositions
  | maxConcurrentPositions
  | maxNotionalExposure
  | maxSymbolNotionalExposure
  | correlationOverexposure
  | maxDailyLoss
  | maxRollingDrawdown
  | symbolCooldownActive
  | dailySymbolTradeLimit
  | dailyGlobalTradeLimit
  | sameSideOverexposure
  | netExposureTooHigh
  | lossClusterActive
  deriving DecidableEq, Repr

/-- The reason's text. -/
def Reason.code : Reason → String
  | .unknownPortfolioRisk => "UNKNOWN_PORTFOLIO_RISK"
  | .invalidEquity => "INVALID_EQUITY"
  | .invalidPositionSize => "INVALID_POSITION_SIZE"
  | .maxOpenPositions => "MAX_OPEN_POSITIONS"
  | .maxConcurrentPositions => "MAX_CONCURRENT_POSITIONS"
  | .maxNotionalExposure => "MAX_NOTIONAL_EXPOSURE"
  | .maxSymbolNotionalExposure => "MAX_SYMBOL_NOTIONAL_EXPOSURE"
  | .correlationOverexposure => "CORRELATION_OVEREXPOSURE"
  | .maxDailyLoss => "MAX_DAILY_LOSS"
  | .maxRollingDrawdown => "MAX_ROLLING_DRAWDOWN"
  | .symbolCooldownActive => "SYMBOL_COOLDOWN_ACTIVE"
  | .dailySymbolTradeLimit => "DAILY_SYMBOL_TRADE_LIMIT"
  | .dailyGlobalTradeLimit => "DAILY_GLOBAL_TRADE_LIMIT"
  | .sameSideOverexposure => "SAME_SIDE_OVEREXPOSURE"
  | .netExposureTooHigh => "NET_EXPOSURE_TOO_HIGH"
  | .lossClusterActive => "LOSS_CLUSTER_ACTIVE"

/-! ## 3. What the check reads -/

/-- `PortfolioRiskSnapshot`: the fields that the checks and the allocator read. -/
structure Snapshot (F : Type) where
  equity : Option F := none
  openPositionCount : Option (PyNum F) := none
  maxOpenPositions : Option (PyNum F) := none
  concurrentPositionCount : Option (PyNum F) := none
  maxConcurrentPositions : Option (PyNum F) := none
  totalNotionalExposure : Option F := none
  maxNotionalExposure : Option F := none
  symbolNotionalExposure : Option F := none
  maxSymbolNotional : Option F := none
  sideExposureLong : Option F := none
  sideExposureShort : Option F := none
  netExposure : Option F := none
  symbolCooldownRemainingSec : Option F := none
  tradesTodaySymbol : Option (PyNum F) := none
  tradesTodayGlobal : Option (PyNum F) := none
  dailyLossPct : Option F := none
  maxDailyLossPct : Option F := none
  rollingDrawdownPct : Option F := none
  maxRollingDrawdownPct : Option F := none
  lossClusterActive : Option Bool := none
  symbolLossClusterActive : Option Bool := none
  riskStateComplete : Option Bool := none
  correlationGroup : Option String := none
  correlationGroupExposure : Option F := none
  maxCorrelationGroupExposure : Option F := none
  correlatedPositionCount : Option (PyNum F) := none
  maxCorrelatedPositions : Option (PyNum F) := none
  symbolNotionalExposures : List (String × F) := []
  correlationGroupExposures : List (String × F) := []
  correlatedPositionCounts : List (String × PyNum F) := []

/-- The configuration keys the check reads. The two switches carry `bool(value)`; `none` is an
    absent key. -/
structure Config (F : Type) where
  defaultCandidateNotional : Value F := .none
  portfolioRiskDiagnosticFailOpen : Option Bool := none
  rejectUnknownPortfolioRisk : Option Bool := none
  maxDailySymbolTrades : Setting (PyNum F) := none
  maxSymbolTradesPerDay : Setting (PyNum F) := none
  maxTradesSymbolPerDay : Setting (PyNum F) := none
  maxDailyGlobalTrades : Setting (PyNum F) := none
  maxGlobalTradesPerDay : Setting (PyNum F) := none
  maxTradesGlobalPerDay : Setting (PyNum F) := none
  maxSameSideExposure : Option F := none
  maxNetExposure : Option F := none

/-- The candidate as the check reads it. -/
structure Candidate (F : Type) where
  quantity : Value F := .none
  entry : Value F := .none
  entryPrice : Value F := .none
  price : Value F := .none
  notional : Value F := .none
  notionalUsdt : Value F := .none
  side : Option String := none

/-- `PortfolioRiskDecision`. -/
structure Decision (F : Type) where
  accepted : Bool
  rejectReason : Option Reason
  riskFlags : List Reason
  riskState : String
  sizeMultiplier : F
  maxAllowedSize : Option F
  deriving DecidableEq

section Check

variable {F : Type} [FloatNum F]

def Config.failsOpen (config : Config F) : Bool := config.portfolioRiskDiagnosticFailOpen.getD false

def Config.rejectsUnknown (config : Config F) : Bool :=
  config.rejectUnknownPortfolioRisk.getD true && !config.failsOpen

/-- The daily limit of one symbol, under the first of its three names that is present. -/
def Config.symbolTradeLimit (config : Config F) : Option (PyNum F) :=
  config.maxDailySymbolTrades.get
    (config.maxSymbolTradesPerDay.get (config.maxTradesSymbolPerDay.get none))

/-- The daily limit of all symbols. -/
def Config.globalTradeLimit (config : Config F) : Option (PyNum F) :=
  config.maxDailyGlobalTrades.get
    (config.maxGlobalTradesPerDay.get (config.maxTradesGlobalPerDay.get none))

/-- The notional of a candidate: its own, else quantity times price, else the configured default. -/
def candidateNotional (candidate : Candidate F) (config : Config F) : Option F :=
  match (candidate.notional.or candidate.notionalUsdt).num with
  | some n => some n
  | none =>
    match candidate.quantity.num, (candidate.entry.or
      (candidate.entryPrice.or candidate.price)).num with
    | some q, some p => some (FloatNum.abs (q * p))
    | _, _ => config.defaultCandidateNotional.num

/-- `str(candidate.get("side") or "LONG").upper()`. -/
def candidateSide (candidate : Candidate F) : String :=
  upper (match candidate.side with
    | some s => if s = "" then "LONG" else s
    | none => "LONG")

/-! ## 4. The gates -/

/-- One of the four values every known state has is missing. -/
def Snapshot.lacksRequired (s : Snapshot F) : Bool :=
  s.equity.isNone || s.openPositionCount.isNone || s.totalNotionalExposure.isNone
    || s.symbolNotionalExposure.isNone

/-- `limit is not None and current is not None and float(current) + inc > float(limit)`. -/
def exceeds (current limit : Option F) (inc : F) : Bool :=
  match limit, current with
  | some l, some c => decide (l < c + inc)
  | _, _ => false

/-- The same test of a count and one more position. -/
def countExceeds (current limit : Option (PyNum F)) : Except PyError Bool :=
  match limit, current with
  | some l, some c => do
    let count ← c.toFloat
    let bound ← l.toFloat
    return decide (bound < count + FloatNum.ofInt 1)
  | _, _ => .ok false

/-- `value is not None and limit is not None and value >= limit`. -/
def reaches (value limit : Option F) : Bool :=
  match value, limit with
  | some v, some l => decide (l ≤ v)
  | _, _ => false

/-- `limit is not None and value is not None and int(value) >= int(limit)`. -/
def countReaches (value limit : Option (PyNum F)) : Except PyError Bool :=
  match limit, value with
  | some l, some v => do
    let count ← v.toInt
    let bound ← l.toInt
    return decide (bound ≤ count)
  | _, _ => .ok false

/-- The exposure of the candidate's own side. -/
def Snapshot.ownSide (s : Snapshot F) (side : String) : Option F :=
  if side = "SHORT" then s.sideExposureShort else s.sideExposureLong

/-- The notional with the sign of the side. -/
def signedNotional (side : String) (notional : F) :
    F := if side = "SHORT" then -notional else notional

/-- `net_limit is not None and net is not None and abs(net + signed) > net_limit`. -/
def netExceeds (net limit : Option F) (signed : F) : Bool :=
  match limit, net with
  | some l, some n => decide (l < FloatNum.abs (n + signed))
  | _, _ => false

/-- One check: the reason it rejects for, and whether it rejects. -/
abbrev Gate := Reason × Except PyError Bool

/-- The checks before the notional is looked at. -/
def stateGates (s : Snapshot F) (config : Config F) : List Gate :=
  [(.unknownPortfolioRisk, .ok (config.rejectsUnknown && s.riskStateComplete == some false)),
   (.unknownPortfolioRisk, .ok (config.rejectsUnknown && s.lacksRequired)),
   (.invalidEquity, .ok (!config.failsOpen && nonPositive s.equity))]

/-- The checks of a notional. -/
def limitGates (s : Snapshot F) (config : Config F) (side : String) (notional : F) : List Gate :=
  [(.maxOpenPositions, countExceeds s.openPositionCount s.maxOpenPositions),
   (.maxConcurrentPositions, countExceeds s.concurrentPositionCount s.maxConcurrentPositions),
   (.maxNotionalExposure, .ok (exceeds s.totalNotionalExposure s.maxNotionalExposure notional)),
   (.maxSymbolNotionalExposure, .ok (exceeds s.symbolNotionalExposure
     s.maxSymbolNotional notional)),
   (.correlationOverexposure,
     .ok (exceeds s.correlationGroupExposure s.maxCorrelationGroupExposure notional)),
   (.correlationOverexposure, countExceeds s.correlatedPositionCount s.maxCorrelatedPositions),
   (.maxDailyLoss, .ok (reaches s.dailyLossPct s.maxDailyLossPct)),
   (.maxRollingDrawdown, .ok (reaches s.rollingDrawdownPct s.maxRollingDrawdownPct)),
   (.symbolCooldownActive, .ok (decide (FloatNum.ofInt 0 < orZero s.symbolCooldownRemainingSec))),
   (.dailySymbolTradeLimit, countReaches s.tradesTodaySymbol config.symbolTradeLimit),
   (.dailyGlobalTradeLimit, countReaches s.tradesTodayGlobal config.globalTradeLimit),
   (.sameSideOverexposure, .ok (exceeds (s.ownSide side) config.maxSameSideExposure notional)),
   (.netExposureTooHigh,
     .ok (netExceeds s.netExposure config.maxNetExposure (signedNotional side notional))),
   (.lossClusterActive,
     .ok (s.symbolLossClusterActive.getD false || s.lossClusterActive.getD false))]

/-- All checks in order. Without a notional none after the position size is reached. -/
def gates (s : Snapshot F) (config : Config F) (side : String) (notional : Option F) : List Gate :=
  stateGates s config ++ (.invalidPositionSize, .ok (nonPositive notional)) ::
    match notional with
    | some n => limitGates s config side n
    | none => []

/-- The reason of the first check that rejects. -/
def firstFailed : List Gate → Except PyError (Option Reason)
  | [] => .ok none
  | (reason, verdict) :: rest => do
    if ← verdict then return some reason else firstFailed rest

/-- `fail(reason)`. -/
def Decision.fail (reason : Reason) : Decision F :=
  { accepted := false
    rejectReason := some reason
    riskFlags := [reason]
    riskState := reason.code
    sizeMultiplier := FloatNum.ofInt 0
    maxAllowedSize := some (FloatNum.ofInt 0) }

/-- The decision of a candidate that passed every check. -/
def Decision.accept (notional : Option F) : Decision F :=
  { accepted := true
    rejectReason := none
    riskFlags := []
    riskState := "ACCEPTED"
    sizeMultiplier := FloatNum.ofInt 1
    maxAllowedSize := notional }

/-- `evaluate_portfolio_risk`. -/
def evaluatePortfolioRisk (candidate : Candidate F) (snapshot : Snapshot F) (config : Config F) :
    Except PyError (Decision F) := do
  let notional := candidateNotional candidate config
  match ← firstFailed (gates snapshot config (candidateSide candidate) notional) with
  | some reason => return .fail reason
  | none => return .accept notional

/-! ## 5. Acceptance -/

theorem firstFailed_eq_none {gs : List Gate} :
    firstFailed gs = .ok none ↔ ∀ g ∈ gs, g.2 = .ok false := by
  induction gs with
  | nil => simp [firstFailed]
  | cons g rest ih =>
    rcases g with ⟨reason, verdict⟩
    rw [List.forall_mem_cons, ← ih]
    rcases verdict with e | b
    · constructor
      · intro h
        cases h
      · intro ⟨h, _⟩
        cases h
    · cases b with
      | true =>
        constructor
        · intro h
          cases h
        · intro ⟨h, _⟩
          cases h
      | false => exact ⟨fun h => ⟨rfl, h⟩, fun h => h.2⟩

/-- The reason of a rejection is that of a check which rejected. -/
theorem mem_of_firstFailed {gs : List Gate} {reason : Reason}
    (h : firstFailed gs = .ok (some reason)) : (reason, .ok true) ∈ gs := by
  induction gs with
  | nil => cases h
  | cons g rest ih =>
    rcases g with ⟨r, verdict⟩
    rcases verdict with e | b
    · cases h
    · cases b with
      | true =>
        cases h
        exact List.mem_cons_self
      | false => exact List.mem_cons_of_mem _ (ih h)

theorem evaluate_cases {candidate : Candidate F} {snapshot : Snapshot F} {config : Config F}
    {d : Decision F} (h : evaluatePortfolioRisk candidate snapshot config = .ok d) :
    (∃ reason, firstFailed (gates snapshot config (candidateSide candidate)
        (candidateNotional candidate config)) = .ok (some reason) ∧ d = .fail reason) ∨
      (firstFailed (gates snapshot config (candidateSide candidate)
        (candidateNotional candidate config)) = .ok none ∧
        d = .accept (candidateNotional candidate config)) := by
  simp only [evaluatePortfolioRisk] at h
  generalize firstFailed (gates snapshot config (candidateSide candidate)
    (candidateNotional candidate config)) = verdict at h ⊢
  rcases verdict with e | reason
  · cases h
  · cases reason with
    | some reason =>
      cases h
      exact .inl ⟨reason, rfl, rfl⟩
    | none =>
      cases h
      exact .inr ⟨rfl, rfl⟩

/-- Acceptance is exactly that no check rejects. -/
theorem accepted_iff {candidate : Candidate F} {snapshot : Snapshot F} {config : Config F}
    {d : Decision F} (h : evaluatePortfolioRisk candidate snapshot config = .ok d) :
    d.accepted = true ↔ ∀ g ∈ gates snapshot config (candidateSide candidate)
      (candidateNotional candidate config), g.2 = .ok false := by
  rw [← firstFailed_eq_none]
  rcases evaluate_cases h with ⟨reason, hr, rfl⟩ | ⟨hn, rfl⟩
  · rw [hr]
    constructor
    · intro hd
      cases hd
    · intro hn
      cases hn
  · exact ⟨fun _ => hn, fun _ => rfl⟩

/-- Without a notional the position size is rejected. -/
theorem notional_of_passed {s : Snapshot F} {config : Config F} {side : String}
    {notional : Option F} (h : ∀ g ∈ gates s config side notional, g.2 = .ok false) :
    ∃ n, notional = some n ∧ ¬ n ≤ FloatNum.ofInt 0 ∧
      (∀ g ∈ stateGates s config, g.2 = .ok false) ∧
      ∀ g ∈ limitGates s config side n, g.2 = .ok false := by
  unfold gates at h
  rw [List.forall_mem_append, List.forall_mem_cons] at h
  obtain ⟨hstate, hsize, hlimits⟩ := h
  cases notional with
  | none => cases hsize
  | some n =>
    refine ⟨n, rfl, fun hn => ?_, hstate, hlimits⟩
    have : nonPositive (some n) = false := Except.ok.inj hsize
    rw [nonPositive, decide_eq_true hn] at this
    cases this

/-! ## 6. What acceptance means -/

/-- `current + inc` is within the limit wherever both are given and numbers. -/
def Bounded (current limit : Option F) (inc : F) : Prop :=
  ∀ c ∈ current, ∀ l ∈ limit, IsNumber c → IsNumber l → c + inc ≤ l

/-- One more position is within the limit. -/
def CountBounded (current limit : Option (PyNum F)) : Prop :=
  ∀ c ∈ current, ∀ l ∈ limit, ∃ x y, c.toFloat = .ok x ∧ l.toFloat = .ok y ∧
    (IsNumber x → IsNumber y → x + FloatNum.ofInt 1 ≤ y)

/-- The value is below the limit. -/
def Below (value limit : Option F) : Prop :=
  ∀ v ∈ value, ∀ l ∈ limit, IsNumber v → IsNumber l → v < l

/-- The whole number is below the limit. -/
def CountBelow (value limit : Option (PyNum F)) : Prop :=
  ∀ v ∈ value, ∀ l ∈ limit, ∃ m n, v.toInt = .ok m ∧ l.toInt = .ok n ∧ m < n

/-- Every configured limit holds of a portfolio to which the notional is added on the side. -/
structure Admitted (s : Snapshot F) (config : Config F) (side : String) (n : F) : Prop where
  equity : ∃ e, s.equity = some e ∧ (IsNumber e → FloatNum.ofInt 0 < e)
  notional : FloatNum.ofInt 0 < n
  openPositions : CountBounded s.openPositionCount s.maxOpenPositions
  concurrentPositions : CountBounded s.concurrentPositionCount s.maxConcurrentPositions
  total : Bounded s.totalNotionalExposure s.maxNotionalExposure n
  symbol : Bounded s.symbolNotionalExposure s.maxSymbolNotional n
  group : Bounded s.correlationGroupExposure s.maxCorrelationGroupExposure n
  correlatedPositions : CountBounded s.correlatedPositionCount s.maxCorrelatedPositions
  dailyLoss : Below s.dailyLossPct s.maxDailyLossPct
  drawdown : Below s.rollingDrawdownPct s.maxRollingDrawdownPct
  cooldown : ∀ c ∈ s.symbolCooldownRemainingSec, ¬ FloatNum.ofInt 0 < c
  symbolTrades : CountBelow s.tradesTodaySymbol config.symbolTradeLimit
  globalTrades : CountBelow s.tradesTodayGlobal config.globalTradeLimit
  ownSide : Bounded (s.ownSide side) config.maxSameSideExposure n
  net : ∀ c ∈ s.netExposure, ∀ l ∈ config.maxNetExposure, IsNumber c → IsNumber l →
    FloatNum.abs (c + signedNotional side n) ≤ l
  symbolLosses : s.symbolLossClusterActive ≠ some true
  losses : s.lossClusterActive ≠ some true

theorem bounded_of_passed {current limit : Option F} {inc : F} (hinc : FloatNum.isFinite inc = true)
    (h : exceeds current limit inc = false) : Bounded current limit inc := by
  intro c hc l hl hcn hln
  rw [Option.mem_def] at hc hl
  subst hc hl
  have hlt : ¬ l < c + inc := of_decide_eq_false h
  exact FloatNum.le_of_not_lt hln (FloatNum.denotes_add c inc hcn hinc) hlt

theorem countBounded_of_passed {current limit : Option (PyNum F)}
    (h : countExceeds current limit = .ok false) : CountBounded current limit := by
  intro c hc l hl
  rw [Option.mem_def] at hc hl
  subst hc hl
  simp only [countExceeds] at h
  rcases hx : c.toFloat with e | x
  · rw [hx] at h
    cases h
  rcases hy : l.toFloat with e | y
  · rw [hx, hy] at h
    cases h
  rw [hx, hy] at h
  have hlt : ¬ y < x + FloatNum.ofInt 1 := of_decide_eq_false (Except.ok.inj h)
  exact ⟨x, y, rfl, rfl, fun hxn hyn =>
    FloatNum.le_of_not_lt hyn (FloatNum.denotes_add x _ hxn FloatNum.finite_one) hlt⟩

theorem below_of_passed {value limit : Option F} (h : reaches value limit = false) :
    Below value limit := by
  intro v hv l hl hvn hln
  rw [Option.mem_def] at hv hl
  subst hv hl
  have hle : ¬ l ≤ v := of_decide_eq_false h
  exact FloatNum.lt_of_not_le hln hvn hle

theorem countBelow_of_passed {value limit : Option (PyNum F)}
    (h : countReaches value limit = .ok false) : CountBelow value limit := by
  intro v hv l hl
  rw [Option.mem_def] at hv hl
  subst hv hl
  simp only [countReaches] at h
  rcases hm : v.toInt with e | m
  · rw [hm] at h
    cases h
  rcases hn : l.toInt with e | n
  · rw [hm, hn] at h
    cases h
  rw [hm, hn] at h
  have hle : ¬ n ≤ m := of_decide_eq_false (Except.ok.inj h)
  exact ⟨m, n, rfl, rfl, by omega⟩

theorem finite_signed {side : String} {n : F} (h : FloatNum.isFinite n = true) :
    FloatNum.isFinite (signedNotional side n) = true := by
  unfold signedNotional
  split
  · rw [FloatNum.finite_neg, h]
  · exact h

theorem net_of_passed {net limit : Option F} {signed : F} (hs : FloatNum.isFinite signed = true)
    (h : netExceeds net limit signed = false) :
    ∀ c ∈ net, ∀ l ∈ limit, IsNumber c → IsNumber l → FloatNum.abs (c + signed) ≤ l := by
  intro c hc l hl hcn hln
  rw [Option.mem_def] at hc hl
  subst hc hl
  have hlt : ¬ l < FloatNum.abs (c + signed) := of_decide_eq_false h
  exact FloatNum.le_of_not_lt hln (FloatNum.denotes_abs
    _ (FloatNum.denotes_add c signed hcn hs)) hlt

theorem cooldown_of_passed {cooldown : Option F} (h : ¬ FloatNum.ofInt 0 < orZero cooldown) :
    ∀ c ∈ cooldown, ¬ FloatNum.ofInt 0 < c := by
  intro c hc hlt
  rw [Option.mem_def] at hc
  subst hc
  simp only [orZero] at h
  split at h
  · -- a zero is not above zero
    rename_i heq
    obtain ⟨x, hx, hz⟩ := (FloatNum.feq_iff c _).mp heq
    obtain ⟨y, z, hy, hz', hyz⟩ := (FloatNum.lt_iff _ c).mp hlt
    rw [hz] at hy
    rw [hx] at hz'
    cases hy
    cases hz'
    exact lt_irrefl _ hyz
  · exact h hlt

/-- **What acceptance means**, with the diagnostic switch off: the accepted notional is the one the
    decision allows, and where it is finite every configured limit holds of it. -/
theorem admitted_of_accepted {candidate : Candidate F} {snapshot : Snapshot F} {config : Config F}
    {d : Decision F} (h : evaluatePortfolioRisk candidate snapshot config = .ok d)
    (haccepted : d.accepted = true) (hopen : config.failsOpen = false) :
    ∃ n, d.maxAllowedSize = some n ∧
      (FloatNum.isFinite n = true → Admitted snapshot config (candidateSide candidate) n) := by
  have hpassed := (accepted_iff h).mp haccepted
  obtain ⟨n, hn, hpos, hstate, hlimits⟩ := notional_of_passed hpassed
  have hd : d = .accept (some n) := by
    rcases evaluate_cases h with ⟨reason, _, rfl⟩ | ⟨_, rfl⟩
    · cases haccepted
    · rw [hn]
  refine ⟨n, by rw [hd]; rfl, fun hfinite => ?_⟩
  simp only [stateGates, limitGates, List.forall_mem_cons] at hstate hlimits
  obtain ⟨_, _, hequity, _⟩ := hstate
  obtain ⟨h1, h2, h3, h4, h5, h6, h7, h8, h9, h10, h11, h12, h13, h14, _⟩ := hlimits
  obtain ⟨hlosses1, hlosses2⟩ := Bool.or_eq_false_iff.mp (Except.ok.inj h14)
  constructor
  case equity =>
    rw [hopen] at hequity
    have he : nonPositive snapshot.equity = false := Except.ok.inj hequity
    cases hs : snapshot.equity with
    | none =>
      rw [hs] at he
      cases he
    | some e =>
      rw [hs] at he
      exact ⟨e, rfl, fun hnum =>
        FloatNum.lt_of_not_le hnum isNumber_zero (of_decide_eq_false he)⟩
  case notional =>
    exact FloatNum.lt_of_not_le (isNumber_of_finite hfinite) isNumber_zero hpos
  case openPositions => exact countBounded_of_passed h1
  case concurrentPositions => exact countBounded_of_passed h2
  case total => exact bounded_of_passed hfinite (Except.ok.inj h3)
  case symbol => exact bounded_of_passed hfinite (Except.ok.inj h4)
  case group => exact bounded_of_passed hfinite (Except.ok.inj h5)
  case correlatedPositions => exact countBounded_of_passed h6
  case dailyLoss => exact below_of_passed (Except.ok.inj h7)
  case drawdown => exact below_of_passed (Except.ok.inj h8)
  case cooldown => exact cooldown_of_passed (of_decide_eq_false (Except.ok.inj h9))
  case symbolTrades => exact countBelow_of_passed h10
  case globalTrades => exact countBelow_of_passed h11
  case ownSide => exact bounded_of_passed hfinite (Except.ok.inj h12)
  case net => exact net_of_passed (finite_signed hfinite) (Except.ok.inj h13)
  case symbolLosses =>
    intro hs
    rw [hs] at hlosses1
    cases hlosses1
  case losses =>
    intro hs
    rw [hs] at hlosses2
    cases hlosses2

/-! ## 7. Where acceptance can be trusted -/

/-- The exposure is finite, and with the notional it is within its limit. -/
def Holds (current limit : Option F) (inc : F) : Prop :=
  ∀ c ∈ current, ∀ l ∈ limit, FloatNum.isFinite c = true ∧ c + inc ≤ l

/-- The count is a number, and one more position is within the limit. -/
def CountHolds (current limit : Option (PyNum F)) : Prop :=
  ∀ c ∈ current, ∀ l ∈ limit, ∃ x y, c.toFloat = .ok x ∧ l.toFloat = .ok y ∧
    IsNumber x ∧ x + FloatNum.ofInt 1 ≤ y

/-- Equity and notional are finite and positive, the daily loss and every exposure that is compared
    are finite, and every configured limit holds. -/
structure TrulyAdmitted (s : Snapshot F) (config : Config F) (side : String) (n : F) : Prop where
  equity : ∃ e, s.equity = some e ∧ FloatNum.isFinite e = true ∧ FloatNum.ofInt 0 < e
  notional : FloatNum.isFinite n = true ∧ FloatNum.ofInt 0 < n
  openPositions : CountHolds s.openPositionCount s.maxOpenPositions
  concurrentPositions : CountHolds s.concurrentPositionCount s.maxConcurrentPositions
  total : Holds s.totalNotionalExposure s.maxNotionalExposure n
  symbol : Holds s.symbolNotionalExposure s.maxSymbolNotional n
  group : Holds s.correlationGroupExposure s.maxCorrelationGroupExposure n
  correlatedPositions : CountHolds s.correlatedPositionCount s.maxCorrelatedPositions
  dailyLoss : ∀ v ∈ s.dailyLossPct, ∀ l ∈ s.maxDailyLossPct, FloatNum.isFinite v = true ∧ v < l
  drawdown : ∀ v ∈ s.rollingDrawdownPct, ∀ l ∈ s.maxRollingDrawdownPct, v < l
  cooldown : ∀ c ∈ s.symbolCooldownRemainingSec, c ≤ FloatNum.ofInt 0
  symbolTrades : CountBelow s.tradesTodaySymbol config.symbolTradeLimit
  globalTrades : CountBelow s.tradesTodayGlobal config.globalTradeLimit
  ownSide : Holds (s.ownSide side) config.maxSameSideExposure n
  net : ∀ c ∈ s.netExposure, ∀ l ∈ config.maxNetExposure,
    FloatNum.isFinite c = true ∧ FloatNum.abs (c + signedNotional side n) ≤ l
  symbolLosses : s.symbolLossClusterActive ≠ some true
  losses : s.lossClusterActive ≠ some true

/-- The exposure is finite and its limit a number. -/
def Comparable (current limit : Option F) : Prop :=
  ∀ c ∈ current, ∀ l ∈ limit, FloatNum.isFinite c = true ∧ IsNumber l

/-- Both are numbers. -/
def Numbers (current limit : Option F) : Prop := ∀ c ∈ current, ∀ l ∈ limit, IsNumber c ∧ IsNumber l

/-- No count and no limit of one is NaN. -/
def CountNumbers (current limit : Option (PyNum F)) : Prop :=
  ∀ c ∈ current, ∀ l ∈ limit, ∀ x y, c.toFloat = .ok x → l.toFloat = .ok y → IsNumber x ∧ IsNumber y

/-- The numbers that are compared can be: none is NaN, and those the check is about are finite. The
    diagnostic switch skips the look at the equity. -/
structure Trustworthy (s : Snapshot F) (config : Config F) (side : String) (n : F) : Prop where
  notional : FloatNum.isFinite n = true
  equity : ∃ e, s.equity = some e ∧ FloatNum.isFinite e = true ∧
    (config.failsOpen = true → FloatNum.ofInt 0 < e)
  openPositions : CountNumbers s.openPositionCount s.maxOpenPositions
  concurrentPositions : CountNumbers s.concurrentPositionCount s.maxConcurrentPositions
  total : Comparable s.totalNotionalExposure s.maxNotionalExposure
  symbol : Comparable s.symbolNotionalExposure s.maxSymbolNotional
  group : Comparable s.correlationGroupExposure s.maxCorrelationGroupExposure
  correlatedPositions : CountNumbers s.correlatedPositionCount s.maxCorrelatedPositions
  dailyLoss : Comparable s.dailyLossPct s.maxDailyLossPct
  drawdown : Numbers s.rollingDrawdownPct s.maxRollingDrawdownPct
  cooldown : ∀ c ∈ s.symbolCooldownRemainingSec, IsNumber c
  ownSide : Comparable (s.ownSide side) config.maxSameSideExposure
  net : Comparable s.netExposure config.maxNetExposure

theorem holds_iff {current limit : Option F} {inc : F} (hinc : FloatNum.isFinite inc = true)
    (h : exceeds current limit inc = false) :
    Holds current limit inc ↔ Comparable current limit := by
  constructor
  · intro hh c hc l hl
    obtain ⟨hfinite, hle⟩ := hh c hc l hl
    exact ⟨hfinite, (isNumber_of_le hle).2⟩
  · intro hh c hc l hl
    obtain ⟨hfinite, hnum⟩ := hh c hc l hl
    exact ⟨hfinite, bounded_of_passed hinc h c hc l hl (isNumber_of_finite hfinite) hnum⟩

theorem countHolds_iff {current limit : Option (PyNum F)}
    (h : countExceeds current limit = .ok false) :
    CountHolds current limit ↔ CountNumbers current limit := by
  constructor
  · intro hh c hc l hl x y hx hy
    obtain ⟨x', y', hx', hy', hnum, hle⟩ := hh c hc l hl
    cases Except.ok.inj (hx.symm.trans hx')
    cases Except.ok.inj (hy.symm.trans hy')
    exact ⟨hnum, (isNumber_of_le hle).2⟩
  · intro hh c hc l hl
    obtain ⟨x, y, hx, hy, hle⟩ := countBounded_of_passed h c hc l hl
    obtain ⟨hxn, hyn⟩ := hh c hc l hl x y hx hy
    exact ⟨x, y, hx, hy, hxn, hle hxn hyn⟩

theorem below_iff {value limit : Option F} (h : reaches value limit = false) :
    (∀ v ∈ value, ∀ l ∈ limit, v < l) ↔ Numbers value limit := by
  constructor
  · intro hh v hv l hl
    obtain ⟨x, y, hx, hy, _⟩ := (FloatNum.lt_iff v l).mp (hh v hv l hl)
    exact ⟨isNumber_iff.mpr ⟨x, hx⟩, isNumber_iff.mpr ⟨y, hy⟩⟩
  · intro hh v hv l hl
    obtain ⟨hvn, hln⟩ := hh v hv l hl
    exact below_of_passed h v hv l hl hvn hln

theorem finite_below_iff {value limit : Option F} (h : reaches value limit = false) :
    (∀ v ∈ value, ∀ l ∈ limit, FloatNum.isFinite v = true ∧ v < l) ↔ Comparable value limit := by
  constructor
  · intro hh v hv l hl
    obtain ⟨hfinite, hlt⟩ := hh v hv l hl
    exact ⟨hfinite, (isNumber_of_le (FloatNum.le_of_lt hlt)).2⟩
  · intro hh v hv l hl
    obtain ⟨hfinite, hln⟩ := hh v hv l hl
    exact ⟨hfinite, below_of_passed h v hv l hl (isNumber_of_finite hfinite) hln⟩

theorem cooldown_iff {cooldown : Option F} (h : ¬ FloatNum.ofInt 0 < orZero cooldown) :
    (∀ c ∈ cooldown, c ≤ FloatNum.ofInt 0) ↔ ∀ c ∈ cooldown, IsNumber c := by
  constructor
  · exact fun hh c hc => (isNumber_of_le (hh c hc)).1
  · intro hh c hc
    exact FloatNum.le_of_not_lt isNumber_zero (hh c hc) (cooldown_of_passed h c hc)

theorem net_iff {net limit : Option F} {signed : F} (hs : FloatNum.isFinite signed = true)
    (h : netExceeds net limit signed = false) :
    (∀ c ∈ net, ∀ l ∈ limit, FloatNum.isFinite c = true ∧ FloatNum.abs (c + signed) ≤ l) ↔
      Comparable net limit := by
  constructor
  · intro hh c hc l hl
    obtain ⟨hfinite, hle⟩ := hh c hc l hl
    exact ⟨hfinite, (isNumber_of_le hle).2⟩
  · intro hh c hc l hl
    obtain ⟨hfinite, hln⟩ := hh c hc l hl
    exact ⟨hfinite, net_of_passed hs h c hc l hl (isNumber_of_finite hfinite) hln⟩

/-- The equity of an accepted candidate. -/
theorem equity_iff {s : Snapshot F} {config : Config F}
    (h : (!config.failsOpen && nonPositive s.equity) = false) :
    (∃ e, s.equity = some e ∧ FloatNum.isFinite e = true ∧ FloatNum.ofInt 0 < e) ↔
      ∃ e, s.equity = some e ∧ FloatNum.isFinite e = true ∧
        (config.failsOpen = true → FloatNum.ofInt 0 < e) := by
  refine exists_congr fun e => and_congr_right fun he => and_congr_right fun hfinite => ?_
  cases hopen : config.failsOpen with
  | true => simp
  | false =>
    rw [hopen, he] at h
    have hnot : ¬ e ≤ FloatNum.ofInt 0 := of_decide_eq_false h
    have hpos := FloatNum.lt_of_not_le (isNumber_of_finite hfinite) isNumber_zero hnot
    exact iff_of_true hpos fun hfalse => absurd hfalse Bool.false_ne_true

/-- **An acceptance can be trusted exactly where the compared numbers can.** -/
theorem truly_admitted_iff {candidate : Candidate F} {snapshot : Snapshot F} {config : Config F}
    {d : Decision F} (h : evaluatePortfolioRisk candidate snapshot config = .ok d)
    (haccepted : d.accepted = true) :
    (∃ n, d.maxAllowedSize = some n ∧
        TrulyAdmitted snapshot config (candidateSide candidate) n) ↔
      ∃ n, candidateNotional candidate config = some n ∧
        Trustworthy snapshot config (candidateSide candidate) n := by
  have hpassed := (accepted_iff h).mp haccepted
  obtain ⟨n, hn, hpos, hstate, hlimits⟩ := notional_of_passed hpassed
  have hsize : d.maxAllowedSize = some n := by
    rcases evaluate_cases h with ⟨reason, _, rfl⟩ | ⟨_, rfl⟩
    · cases haccepted
    · exact hn
  simp only [stateGates, limitGates, List.forall_mem_cons] at hstate hlimits
  obtain ⟨_, _, hequity, _⟩ := hstate
  obtain ⟨h1, h2, h3, h4, h5, h6, h7, h8, h9, h10, h11, h12, h13, h14, _⟩ := hlimits
  have hcooldown : ¬ FloatNum.ofInt 0 < orZero snapshot.symbolCooldownRemainingSec :=
    of_decide_eq_false (Except.ok.inj h9)
  obtain ⟨hlosses1, hlosses2⟩ := Bool.or_eq_false_iff.mp (Except.ok.inj h14)
  rw [hsize, hn]
  constructor
  · rintro ⟨m, hm, ht⟩
    cases hm
    have hfinite := ht.notional.1
    exact ⟨n, rfl, hfinite, (equity_iff (Except.ok.inj hequity)).mp ht.equity,
      (countHolds_iff h1).mp ht.openPositions, (countHolds_iff h2).mp ht.concurrentPositions,
      (holds_iff hfinite (Except.ok.inj h3)).mp ht.total,
      (holds_iff hfinite (Except.ok.inj h4)).mp ht.symbol,
      (holds_iff hfinite (Except.ok.inj h5)).mp ht.group,
        (countHolds_iff h6).mp ht.correlatedPositions,
      (finite_below_iff (Except.ok.inj h7)).mp ht.dailyLoss,
      (below_iff (Except.ok.inj h8)).mp ht.drawdown, (cooldown_iff hcooldown).mp ht.cooldown,
      (holds_iff hfinite (Except.ok.inj h12)).mp ht.ownSide,
      (net_iff (finite_signed hfinite) (Except.ok.inj h13)).mp ht.net⟩
  · rintro ⟨m, hm, ht⟩
    cases hm
    have hfinite := ht.notional
    refine ⟨n, rfl, ?_⟩
    constructor
    case equity => exact (equity_iff (Except.ok.inj hequity)).mpr ht.equity
    case notional =>
      exact ⟨hfinite, FloatNum.lt_of_not_le (isNumber_of_finite hfinite) isNumber_zero hpos⟩
    case openPositions => exact (countHolds_iff h1).mpr ht.openPositions
    case concurrentPositions => exact (countHolds_iff h2).mpr ht.concurrentPositions
    case total => exact (holds_iff hfinite (Except.ok.inj h3)).mpr ht.total
    case symbol => exact (holds_iff hfinite (Except.ok.inj h4)).mpr ht.symbol
    case group => exact (holds_iff hfinite (Except.ok.inj h5)).mpr ht.group
    case correlatedPositions => exact (countHolds_iff h6).mpr ht.correlatedPositions
    case dailyLoss => exact (finite_below_iff (Except.ok.inj h7)).mpr ht.dailyLoss
    case drawdown => exact (below_iff (Except.ok.inj h8)).mpr ht.drawdown
    case cooldown => exact (cooldown_iff hcooldown).mpr ht.cooldown
    case symbolTrades => exact countBelow_of_passed h10
    case globalTrades => exact countBelow_of_passed h11
    case ownSide => exact (holds_iff hfinite (Except.ok.inj h12)).mpr ht.ownSide
    case net => exact (net_iff (finite_signed hfinite) (Except.ok.inj h13)).mpr ht.net
    case symbolLosses =>
      intro hs
      rw [hs] at hlosses1
      cases hlosses1
    case losses =>
      intro hs
      rw [hs] at hlosses2
      cases hlosses2

end Check

/-- A portfolio of one open position with room for more. -/
def sampleSnapshot : Snapshot Float :=
  { equity := some 1000
    openPositionCount := some (.int 1)
    maxOpenPositions := some (.int 3)
    totalNotionalExposure := some 100
    maxNotionalExposure := some 500
    symbolNotionalExposure := some 0
    dailyLossPct := some 0.01
    maxDailyLossPct := some 0.05 }

theorem truly_admitted_sample :
    (∃ n, (Decision.accept (some (200 : Float))).maxAllowedSize = some n ∧
        TrulyAdmitted sampleSnapshot {} "LONG" n) ↔
      ∃ n, candidateNotional { notional := .number (200 : Float) } {} = some n ∧
        Trustworthy sampleSnapshot {} "LONG" n := by
  have h : evaluatePortfolioRisk { notional := .number (200 : Float) } sampleSnapshot {} =
      .ok (.accept (some 200)) := by decide +kernel
  exact truly_admitted_iff h rfl

/-- A notional that is NaN is accepted, with the diagnostic switch off: no comparison rejects it. -/
theorem nan_accepted :
    (∃ d, evaluatePortfolioRisk { notional := .number (0 / 0 : Float) } sampleSnapshot {} = .ok d ∧
        d.accepted = true ∧ ∀ n, d.maxAllowedSize = some n →
          ¬ TrulyAdmitted sampleSnapshot {} "LONG" n) ∧
      ({} : Config Float).failsOpen = false := by
  have h : (evaluatePortfolioRisk { notional := .number (0 / 0 : Float) } sampleSnapshot
    {}).toOption.any
      (fun d => d.accepted && d.maxAllowedSize.all fun n => !FloatNum.isFinite n) = true := by
    decide +kernel
  rcases hd : evaluatePortfolioRisk { notional := .number (0 / 0 : Float) } sampleSnapshot
    {} with e | d
  · rw [hd] at h
    cases h
  · rw [hd] at h
    obtain ⟨haccepted, hsize⟩ := Bool.and_eq_true_iff.mp h
    refine ⟨⟨d, rfl, haccepted, fun n hn ht => ?_⟩, rfl⟩
    rw [hn] at hsize
    have hnot : (!FloatNum.isFinite n) = true := hsize
    rw [ht.notional.1] at hnot
    cases hnot

end AlphaForge.Portfolio
