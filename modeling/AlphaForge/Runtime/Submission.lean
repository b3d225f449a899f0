/-
  File:      AlphaForge/Runtime/Submission.lean
  Subject:   Order submissions of a LIVE runtime (`_scan_once`, `_execute`): whether a second order
             for a symbol can follow one whose outcome is uncertain.

  The scan is one task: its candle guard and risk gate, then (other tasks run in between) the live
  authorization and the adapter call, then the outcome. Reconciliation cycles and persistence
  failures interleave with it. `uncertain` holds the symbols whose last submission ended uncertain
  and that no cycle has resolved: one that began after the result and committed, without a finding
  on the symbol and without an order or a position of it in its snapshot.

  * `submitted_again` -- a timeout, then a newer candle: the symbol is submitted again, also where
    a clean cycle has seen its position.
  * **`no_second_order`** -- where an outcome is uncertain only while reconciliation is not
    settled, and the cycle that settles it resolves every uncertain symbol: none of them is
    submitted, every accepted symbol is rejected by the gate and a rejection ends the scan.
-/
import AlphaForge.Lib.Runs
import AlphaForge.Runtime.Reconciliation

namespace AlphaForge.Runtime

open AlphaForge.Lib

/-! ## 1. Submissions -/

structure LiveConfig extends RuntimeConfig where
  symbolCooldownSec : ℕ
  live : executionMode = .live

/-- The parts of `_authoritative_live_authorization` that are not reconciliation. -/
structure LiveGates where
  liveTradingEnabled : Bool
  allowLiveOrders : Bool
  operatorAcknowledged : Bool
  qualificationPassed : Bool
  derivativesContractPassed : Bool
  executionOwnerValid : Bool
  killSwitchActive : Bool
  deriving DecidableEq, Repr

def reconciliationPassed (s : RuntimeState) : Bool :=
  s.reconciliationStatus = "CLEAN" && !s.reconciliationPersistenceUnhealthy &&
    !s.unknownExchangeState && s.unreconciledSymbols = [] && s.orphanOrders = [] &&
    s.orphanPositions = [] && !s.recoveryRequired

/-- The gates of `validate_live_order_authorization`, in its order. -/
def LiveGates.named (gates : LiveGates) (s : RuntimeState) : List (String × Bool) :=
  [("live_trading_enabled", gates.liveTradingEnabled),
    ("allow_live_orders", gates.allowLiveOrders),
    ("operator_acknowledged", gates.operatorAcknowledged),
    ("qualification_passed", gates.qualificationPassed),
    ("reconciliation_passed", reconciliationPassed s),
    ("derivatives_contract_passed", gates.derivativesContractPassed),
    ("execution_owner_valid", gates.executionOwnerValid),
    ("kill_switch_inactive", !gates.killSwitchActive)]

/-- `validate_live_order_authorization`. -/
def validateLiveOrderAuthorization (gates : LiveGates) (s : RuntimeState) : Except String Unit :=
  let failed := ((gates.named s).filter (!·.2)).map (·.1)
  if failed = [] then .ok ()
  else .error ("LIVE_ORDER_AUTHORIZATION_BLOCKED:" ++ ",".intercalate failed)

inductive Outcome where
  | noSubmit
  | rejected
  | uncertain
  | accepted
  deriving DecidableEq, Repr

/-- What `_execute` makes of the status of a result. -/
def outcomeOf (status : String) : Outcome :=
  let status := lower status
  if status = "no_submit_verified" then .noSubmit
  else if status ∈ ["rejected", "exchange_reject"] then .rejected
  else if status ∈ ["timeout", "error", "missing_ack"] then .uncertain
  else .accepted

inductive ScanPhase where
  | idle
  /-- The gate has passed a symbol; the candle that made it due. -/
  | deciding (symbol : String) (candle : Option (String × ℕ))
  /-- The adapter has the order. -/
  | submitting (symbol : String) (candle : Option (String × ℕ))
  /-- The scan task has died. -/
  | stopped
  deriving DecidableEq, Repr

inductive CyclePhase where
  | idle
  | running
  | timedOut
  | dead
  deriving DecidableEq, Repr

structure LiveRuntime where
  runtime : RuntimeState
  scan : ScanPhase
  cycle : CyclePhase
  now : ℕ
  activePositions : List String
  /-- `_pending_orders`: the last order of a symbol and its status. -/
  pendingOrders : List (String × String)
  symbolCooldownUntil : String → ℕ
  /-- `_latest_execution_candle_by_market`. -/
  latestCandle : String → Option ℕ
  /-- Outcomes of the submissions, last first. -/
  outcomes : List (String × Outcome)
  uncertain : List String
  /-- The symbols that were uncertain when the last cycle began and have not become so since. -/
  settling : List String
  /-- Symbols that were submitted while uncertain. -/
  resubmitted : List String

/-- A runtime that has submitted nothing yet. -/
def LiveRuntime.at (s : RuntimeState) (activePositions : List String) : LiveRuntime where
  runtime := s
  scan := .idle
  cycle := .idle
  now := 0
  activePositions := activePositions
  pendingOrders := []
  symbolCooldownUntil := fun _ => 0
  latestCandle := fun _ => none
  outcomes := []
  uncertain := []
  settling := []
  resubmitted := []

/-- What the gate reads of the market. -/
structure MarketReading where
  heartbeatStale : Bool
  marketTimeReject : Option String
  thinLiquidity : Bool
  deriving DecidableEq, Repr

inductive LiveEvent where
  | tick (seconds : ℕ)
  /-- A selected symbol, with the market and the open time of its execution candle. -/
  | scan (symbol : String) (candle : Option (String × ℕ)) (market : MarketReading)
  /-- A later filter rejects the symbol. -/
  | filtered
  | submit (gates : LiveGates)
  | result (status : String)
  | adapterRaised
  | beginCycle
  /-- A cycle goes on with its answer; `shown` are the symbols with an order or a position in it. -/
  | finishCycle (answer : Answer) (providerChanged : Bool) (shown : List String)
      (findings : List Finding) (persisted : Persisted)
  | timedOut
  | timeoutPersisted (persisted : Persisted)
  | rejectFailed
  | rejectPersisted
  | persistenceFailed (reason : String)
  deriving DecidableEq, Repr

/-- The candle is not newer than the last one of its market. -/
def LiveRuntime.candleSeen (l : LiveRuntime) : Option (String × ℕ) → Bool
  | none => false
  | some (market, opened) =>
    match l.latestCandle market with
    | some latest => opened ≤ latest
    | none => false

/-- The end of `_process_symbol` for a symbol. -/
def LiveRuntime.processed (candle : Option (String × ℕ)) (l : LiveRuntime) : LiveRuntime :=
  match candle with
  | none => { l with scan := .idle }
  | some (market, opened) =>
    { l with
      scan := .idle
      latestCandle := fun m => if m = market then some opened else l.latestCandle m }

def LiveRuntime.riskContext (symbol : String) (market : MarketReading) (l : LiveRuntime) :
    RiskContext where
  heartbeatStale := market.heartbeatStale
  activePositions := l.activePositions
  coolingDown := l.now < l.symbolCooldownUntil symbol
  marketTimeReject := market.marketTimeReject
  thinLiquidity := market.thinLiquidity

/-- A selected symbol up to its risk gate. -/
def LiveRuntime.scanSymbol (cfg : LiveConfig) (symbol : String) (candle : Option (String × ℕ))
    (market : MarketReading) (l : LiveRuntime) : LiveRuntime :=
  if l.candleSeen candle then l
  else
    match evaluateRuntimeRisk cfg.toRuntimeConfig symbol (l.riskContext symbol market)
      l.runtime with
    | some _ => l.processed candle
    | none => { l with scan := .deciding symbol candle }

/-- `_execute` up to the adapter. -/
def LiveRuntime.submit (symbol : String) (candle : Option (String × ℕ)) (gates : LiveGates)
    (l : LiveRuntime) : LiveRuntime :=
  match validateLiveOrderAuthorization gates l.runtime with
  | .error _ => { l with scan := .stopped }
  | .ok () =>
    { l with
      scan := .submitting symbol candle
      resubmitted := if symbol ∈ l.uncertain then symbol :: l.resubmitted else l.resubmitted }

/-- `_execute` from the result of the adapter on. -/
def LiveRuntime.finish (cfg : LiveConfig) (symbol : String) (candle : Option (String × ℕ))
    (status : String) (l : LiveRuntime) : LiveRuntime :=
  let placed : LiveRuntime := { l with
    pendingOrders := (symbol, status) :: l.pendingOrders.filter (·.1 ≠ symbol)
    outcomes := (symbol, outcomeOf status) :: l.outcomes }
  match outcomeOf status with
  | .noSubmit => placed.processed candle
  | .rejected =>
    -- the runtime's `LifecycleState` has no `ORDER_REJECTED`: an AttributeError ends the scan task
    { placed with scan := .stopped }
  | .uncertain =>
    -- the source records an incident and emits a repair event; nothing else is written
    LiveRuntime.processed candle { placed with
      uncertain := symbol :: l.uncertain
      settling := l.settling.filter (· ≠ symbol) }
  | .accepted =>
    LiveRuntime.processed candle { placed with
      activePositions := symbol :: l.activePositions.filter (· ≠ symbol)
      symbolCooldownUntil := fun s =>
        if s = symbol then l.now + cfg.symbolCooldownSec else l.symbolCooldownUntil s }

/-- A cycle with these symbols in its snapshot resolves an uncertain one: it began after the
    result, shows nothing of the symbol and finds nothing on it. The engine is given
    `_pending_orders` as the intended orders, so what it shows of the symbol is no finding. -/
def LiveRuntime.resolves (shown : List String) (findings : List Finding) (l : LiveRuntime)
    (symbol : String) : Bool :=
  symbol ∈ l.settling ∧ symbol ∉ shown ∧ symbol ∉ findings.map (·.symbol)

/-- A cycle from its answer on. -/
def LiveRuntime.reconcile (cfg : LiveConfig) (source : SnapshotSource) (shown : List String)
    (findings : List Finding) (persisted : Persisted) (l : LiveRuntime) : LiveRuntime :=
  match finishCycle cfg.toRuntimeConfig source findings persisted l.runtime with
  | .error s => { l with runtime := s, cycle := .dead }
  | .ok s =>
    { l with
      runtime := s
      cycle := .idle
      uncertain :=
        if cfg.persistence = true → persisted = .committed then
          l.uncertain.filter fun symbol => !l.resolves shown findings symbol
        else l.uncertain }

/-- One event; an event that cannot happen in the state it meets changes nothing. -/
def LiveRuntime.next (cfg : LiveConfig) (l : LiveRuntime) (e : LiveEvent) : LiveRuntime :=
  match e with
  | .tick seconds => { l with now := l.now + seconds }
  | .scan symbol candle market =>
    if l.scan = .idle then l.scanSymbol cfg symbol candle market else l
  | .filtered =>
    match l.scan with
    | .deciding _ candle => l.processed candle
    | _ => l
  | .submit gates =>
    match l.scan with
    | .deciding symbol candle => l.submit symbol candle gates
    | _ => l
  | .result status =>
    match l.scan with
    | .submitting symbol candle => l.finish cfg symbol candle status
    | _ => l
  | .adapterRaised =>
    match l.scan with
    | .submitting _ _ => { l with scan := .stopped }
    | _ => l
  | .beginCycle =>
    if l.cycle = .idle then
      { l with runtime := beginCycle l.runtime, cycle := .running, settling := l.uncertain }
    else l
  | .finishCycle answer providerChanged shown findings persisted =>
    if l.cycle = .running then
      l.reconcile cfg (answer.source providerChanged) shown findings persisted
    else l
  | .timedOut =>
    if l.cycle = .running then { l with runtime := timedOut l.runtime, cycle := .timedOut } else l
  | .timeoutPersisted persisted =>
    if l.cycle = .timedOut then
      { l with
        runtime := timeoutPersisted cfg.toRuntimeConfig persisted l.runtime
        cycle := if cfg.persistence ∧ persisted = .raised then .dead else .idle }
    else l
  | .rejectFailed => { l with runtime := rejectFailed l.runtime }
  | .rejectPersisted => { l with runtime := rejectPersisted l.runtime }
  | .persistenceFailed reason =>
    { l with runtime := markPersistenceRecoveryRequired reason l.runtime }

/-! ## 2. A second order -/

def liveConfig : LiveConfig where
  executionMode := .live
  diagnosticMode := false
  persistence := true
  globalKillSwitch := false
  maxConcurrentPositions := 5
  heartbeatFailureThreshold := 3
  symbolCooldownSec := 900
  live := rfl

/-- A LIVE runtime whose last cycle was clean. -/
def cleanRuntime : RuntimeState :=
  { RuntimeState.initial with
    reconciliationStatus := "CLEAN"
    exchangeReadOnlyStatus := "AVAILABLE" }

def openMarket : MarketReading where
  heartbeatStale := false
  marketTimeReject := none
  thinLiquidity := false

def openGates : LiveGates where
  liveTradingEnabled := true
  allowLiveOrders := true
  operatorAcknowledged := true
  qualificationPassed := true
  derivativesContractPassed := true
  executionOwnerValid := true
  killSwitchActive := false

/-- The order of one candle, and that of the next. -/
def orderOf (opened : ℕ) : List LiveEvent :=
  [.scan "BTCUSDT" (some ("BTCUSDT:BINANCE:5m", opened)) openMarket, .submit openGates]

/-- A cycle whose snapshot shows these symbols: it finds nothing and commits. -/
def cleanCycle (shown : List String) : List LiveEvent :=
  [.beginCycle, .finishCycle (.snapshot (some "COMPLETE") false) false shown [] .committed]

/-- The order of one candle times out, the next candle's is submitted: at once, and after a clean
    cycle whose snapshot holds the first. -/
theorem submitted_again :
    (runEvents (LiveRuntime.next liveConfig) (LiveRuntime.at cleanRuntime [])
      (orderOf 100 ++ [.result "timeout"] ++ orderOf 400)).resubmitted = ["BTCUSDT"] ∧
    (runEvents (LiveRuntime.next liveConfig) (LiveRuntime.at cleanRuntime [])
      (orderOf 100 ++ [.result "timeout"] ++ cleanCycle ["BTCUSDT"] ++ orderOf 400)
    ).resubmitted = ["BTCUSDT"] := by
  refine ⟨?_, ?_⟩ <;> decide +kernel

/-! ## 3. What an order needs -/

/-- Reconciliation has not settled: no order is authorized. -/
def Unsettled (s : RuntimeState) : Prop :=
  s.reconciliationStatus ≠ "CLEAN" ∨ s.reconciliationPersistenceUnhealthy = true

theorem settled_of_passed {s : RuntimeState} (h : reconciliationPassed s = true) :
    ¬ Unsettled s := by
  simp only [reconciliationPassed, Bool.and_eq_true, decide_eq_true_eq, Bool.not_eq_true'] at h
  obtain ⟨⟨⟨⟨⟨⟨hclean, hhealthy⟩, _⟩, _⟩, _⟩, _⟩, _⟩ := h
  intro hunsettled
  rcases hunsettled with hstatus | hunhealthy
  · exact hstatus hclean
  · rw [hhealthy] at hunhealthy
    cases hunhealthy

theorem passed_of_authorized {gates : LiveGates} {s : RuntimeState}
    (h : validateLiveOrderAuthorization gates s = .ok ()) : reconciliationPassed s = true := by
  unfold validateLiveOrderAuthorization at h
  dsimp only at h
  split at h
  · rename_i hnone
    have hall := List.filter_eq_nil_iff.mp (List.map_eq_nil_iff.mp hnone)
    have hgate : ("reconciliation_passed", reconciliationPassed s) ∈ gates.named s := by
      simp only [LiveGates.named, List.mem_cons, true_or, or_true]
    have hopen := hall _ hgate
    simpa only [Bool.not_eq_true', Bool.not_eq_false] using hopen
  · cases h

theorem risk_of_active {cfg : RuntimeConfig} {symbol : String} {ctx : RiskContext}
    (h : symbol ∈ ctx.activePositions) (s : RuntimeState) :
    evaluateRuntimeRisk cfg symbol ctx s ≠ none := by
  intro hnone
  unfold evaluateRuntimeRisk at hnone
  split at hnone
  · cases hnone
  split at hnone
  · cases hnone
  split at hnone
  · cases hnone
  split at hnone
  · cases hnone
  split at hnone
  · rename_i hmarket
    exact hmarket hnone
  split at hnone <;> cases hnone

/-- A LIVE cycle goes on with a complete snapshot only. -/
theorem observe_live {cfg : LiveConfig} {answer : Answer} {changed : Bool}
    {s observed : RuntimeState}
    (h : observe cfg.toRuntimeConfig (answer.source changed) s = .ok observed) :
    (answer.source changed).complete = true ∧ observed = observeComplete s := by
  rcases hsource : answer.source changed with _ | _ | _ | ⟨status, transient⟩ | transient
  · rcases answer with ⟨_, _⟩ | _ <;> rcases changed <;> cases hsource
  · rcases answer with ⟨_, _⟩ | _ <;> rcases changed <;> cases hsource
  · rcases answer with ⟨_, _⟩ | _ <;> rcases changed <;> cases hsource
  · simp only [hsource, observe, cfg.live, if_true] at h
    split at h
    · rename_i hcomplete
      cases h
      exact ⟨hcomplete, rfl⟩
    · cases h
  · simp only [hsource, observe, cfg.live, if_true] at h
    cases h

/-- A cycle that settles reconciliation: a complete snapshot without findings and without a reason
    that it does not clear, whose evidence commits. -/
def Settles (cfg : LiveConfig) (source : SnapshotSource) (findings : List Finding)
    (persisted : Persisted) (s : RuntimeState) : Prop :=
  source.complete = true ∧ s.clearedReason = none ∧ findings = [] ∧
    (cfg.persistence = true → persisted = .committed)

/-- No other LIVE cycle ends CLEAN. -/
theorem finishCycle_clean {cfg : LiveConfig} {answer : Answer} {changed : Bool}
    {findings : List Finding} {persisted : Persisted} {s s' : RuntimeState}
    (h : finishCycle cfg.toRuntimeConfig (answer.source changed) findings persisted s = .ok s')
    (hclean : s'.reconciliationStatus = "CLEAN") :
    Settles cfg (answer.source changed) findings persisted s := by
  obtain ⟨observed, hobserved, hrest⟩ := ok_of_bind h
  obtain ⟨hcomplete, rfl⟩ := observe_live hobserved
  have hconcluded (hstatus : (concludeStatus cfg.toRuntimeConfig
      (applyFindings findings (observeComplete s))).reconciliationStatus = "CLEAN") :
      findings = [] ∧ s.clearedReason = none := by
    by_cases hreason : (applyFindings findings (observeComplete s)).failClosedReason = none
    · exact applyFindings_reason hreason
    · -- the exchange is available, so that a reason makes the status DIRTY
      have hdirty : (concludeStatus cfg.toRuntimeConfig
          (applyFindings findings (observeComplete s))).reconciliationStatus = "DIRTY" := by
        unfold concludeStatus
        rw [if_pos hreason]
        rfl
      rw [hdirty] at hstatus
      exact absurd hstatus (by decide)
  simp only at hrest
  split at hrest
  · rcases persisted with _ | _ | _
    · cases hrest
      have hsettled := hconcluded hclean
      exact ⟨hcomplete, hsettled.2, hsettled.1, fun _ => rfl⟩
    · cases hrest
      have hfailed : "PERSISTENCE_FAILED" = "CLEAN" := hclean
      exact absurd hfailed (by decide)
    · cases hrest
  · rename_i hpersistence
    cases hrest
    have hsettled := hconcluded hclean
    exact ⟨hcomplete, hsettled.2, hsettled.1, fun hp => absurd hp hpersistence⟩

theorem processed_frame (candle : Option (String × ℕ)) (l : LiveRuntime) :
    ∃ latest, l.processed candle = { l with scan := .idle, latestCandle := latest } := by
  rcases candle with _ | ⟨market, opened⟩
  · exact ⟨l.latestCandle, rfl⟩
  · exact ⟨_, rfl⟩

/-- Wherever an uncertain symbol meets an open gate, the next scan submits it again. -/
theorem resubmitted_of_uncertain {cfg : LiveConfig} {l : LiveRuntime} {symbol : String}
    {market : MarketReading} {gates : LiveGates} (hscan : l.scan = .idle)
    (huncertain : symbol ∈ l.uncertain)
    (hgate : evaluateRuntimeRisk cfg.toRuntimeConfig symbol (l.riskContext symbol market)
      l.runtime = none)
    (hauthorized : validateLiveOrderAuthorization gates l.runtime = .ok ()) :
    (runEvents (LiveRuntime.next cfg) l [.scan symbol none market, .submit gates]).resubmitted =
      symbol :: l.resubmitted := by
  have hscanned : l.next cfg (.scan symbol none market) =
      { l with scan := .deciding symbol none } := by
    simp only [LiveRuntime.next, hscan, if_true, LiveRuntime.scanSymbol, LiveRuntime.candleSeen,
      Bool.false_eq_true, if_false, hgate]
  simp only [runEvents, List.foldl_cons, List.foldl_nil]
  rw [hscanned]
  simp only [LiveRuntime.next, LiveRuntime.submit, hauthorized]
  exact if_pos huncertain

/-- Wherever an uncertain result meets an open gate, the next scan submits its symbol again. -/
theorem resubmitted_of_open {cfg : LiveConfig} {l : LiveRuntime} {symbol status : String}
    {candle : Option (String × ℕ)} {market : MarketReading} {gates : LiveGates}
    (hscan : l.scan = .submitting symbol candle) (huncertain : outcomeOf status = .uncertain)
    (hgate : evaluateRuntimeRisk cfg.toRuntimeConfig symbol (l.riskContext symbol market)
      l.runtime = none)
    (hauthorized : validateLiveOrderAuthorization gates l.runtime = .ok ()) :
    (runEvents (LiveRuntime.next cfg) l
      [.result status, .scan symbol none market, .submit gates]).resubmitted =
        symbol :: l.resubmitted := by
  obtain ⟨latest, hprocessed⟩ := processed_frame candle { l with
    pendingOrders := (symbol, status) :: l.pendingOrders.filter (·.1 ≠ symbol)
    outcomes := (symbol, outcomeOf status) :: l.outcomes
    uncertain := symbol :: l.uncertain
    settling := l.settling.filter (· ≠ symbol) }
  have hresult : l.next cfg (.result status) = { l with
      scan := .idle
      latestCandle := latest
      pendingOrders := (symbol, status) :: l.pendingOrders.filter (·.1 ≠ symbol)
      outcomes := (symbol, outcomeOf status) :: l.outcomes
      uncertain := symbol :: l.uncertain
      settling := l.settling.filter (· ≠ symbol) } := by
    simp only [LiveRuntime.next, hscan, LiveRuntime.finish, huncertain]
    rw [← huncertain]
    exact hprocessed
  have hsplit : runEvents (LiveRuntime.next cfg) l
      [.result status, .scan symbol none market, .submit gates] =
      runEvents (LiveRuntime.next cfg) (l.next cfg (.result status))
        [.scan symbol none market, .submit gates] := rfl
  rw [hsplit, hresult]
  -- the gate reads nothing that the result has written
  exact resubmitted_of_uncertain rfl List.mem_cons_self hgate hauthorized

/-! ## 4. Runs -/

/-- The event condition: a result is uncertain only while reconciliation is not settled, and the
    cycle that settles it has begun after every such result and shows none of their symbols. -/
def UncertainUntilShown (cfg : LiveConfig) (l : LiveRuntime) : LiveEvent → Prop
  | .result status => outcomeOf status = .uncertain → Unsettled l.runtime
  | .finishCycle answer providerChanged shown findings persisted =>
    Settles cfg (answer.source providerChanged) findings persisted l.runtime →
      ∀ symbol ∈ l.uncertain, symbol ∈ l.settling ∧ symbol ∉ shown
  | _ => True

structure SubmissionInv (l : LiveRuntime) : Prop where
  held : l.uncertain ≠ [] → Unsettled l.runtime
  running : l.cycle = .running → l.runtime.reconciliationPersistenceUnhealthy = true
  timedOut : l.cycle = .timedOut → l.runtime.reconciliationStatus ≠ "CLEAN"
  once : l.resubmitted = []
  accepted : ∀ s, (s, Outcome.accepted) ∈ l.outcomes → s ∈ l.activePositions
  rejected : ∀ s, (s, Outcome.rejected) ∈ l.outcomes → l.scan = .stopped

section Steps

variable {cfg : LiveConfig} {l l' : LiveRuntime}

/-- A change outside the orders that moves the reconciliation fields nowhere. -/
theorem SubmissionInv.same (h : SubmissionInv l)
    (hstatus : l'.runtime.reconciliationStatus = l.runtime.reconciliationStatus)
    (hhealth : l'.runtime.reconciliationPersistenceUnhealthy =
      l.runtime.reconciliationPersistenceUnhealthy)
    (hcycle : l'.cycle = l.cycle) (huncertain : l'.uncertain = l.uncertain)
    (honce : l'.resubmitted = l.resubmitted) (houtcomes : l'.outcomes = l.outcomes)
    (hactive : l'.activePositions = l.activePositions)
    (hscan : l.scan = .stopped → l'.scan = .stopped) : SubmissionInv l' :=
  { held := fun hsome => by
      rw [Unsettled, hstatus, hhealth]
      exact h.held (huncertain ▸ hsome)
    running := fun hrunning => hhealth.trans (h.running (hcycle.symm.trans hrunning))
    timedOut := fun htimedOut => hstatus ▸ h.timedOut (hcycle.symm.trans htimedOut)
    once := honce.trans h.once
    accepted := houtcomes ▸ hactive ▸ h.accepted
    rejected := fun s hmem => hscan (h.rejected s (houtcomes ▸ hmem)) }

theorem inv_processed (h : SubmissionInv l) (hlive : l.scan ≠ .stopped)
    (candle : Option (String × ℕ)) : SubmissionInv (l.processed candle) := by
  obtain ⟨latest, heq⟩ := processed_frame candle l
  rw [heq]
  exact h.same rfl rfl rfl rfl rfl rfl rfl fun hstopped => absurd hstopped hlive

theorem inv_scanSymbol (h : SubmissionInv l) (hidle : l.scan = .idle) (symbol : String)
    (candle : Option (String × ℕ)) (market : MarketReading) :
    SubmissionInv (l.scanSymbol cfg symbol candle market) := by
  have hlive : l.scan ≠ .stopped := by
    rw [hidle]
    exact ScanPhase.noConfusion
  unfold LiveRuntime.scanSymbol
  split
  · exact h
  split
  · exact inv_processed h hlive candle
  · exact h.same rfl rfl rfl rfl rfl rfl rfl fun hstopped => absurd hstopped hlive

/-- An authorized order has no uncertain one before it. -/
theorem inv_submit (h : SubmissionInv l) (hlive : l.scan ≠ .stopped) (symbol : String)
    (candle : Option (String × ℕ)) (gates : LiveGates) :
    SubmissionInv (l.submit symbol candle gates) := by
  unfold LiveRuntime.submit
  split
  · exact h.same rfl rfl rfl rfl rfl rfl rfl fun _ => rfl
  · rename_i hauthorized
    have hsettled := settled_of_passed (passed_of_authorized hauthorized)
    have hnone : l.uncertain = [] := by
      by_contra hsome
      exact hsettled (h.held hsome)
    have honce : (if symbol ∈ l.uncertain then symbol :: l.resubmitted else l.resubmitted) =
        l.resubmitted := if_neg (by rw [hnone]; exact List.not_mem_nil)
    exact h.same rfl rfl rfl rfl honce rfl rfl fun hstopped => absurd hstopped hlive

theorem inv_finish (h : SubmissionInv l) {symbol : String} {candle : Option (String × ℕ)}
    (hscan : l.scan = .submitting symbol candle) (status : String)
    (hcertain : outcomeOf status = .uncertain → Unsettled l.runtime) :
    SubmissionInv (l.finish cfg symbol candle status) := by
  have hlive : l.scan ≠ .stopped := by
    rw [hscan]
    exact ScanPhase.noConfusion
  -- an order that opens no position adds no accepted outcome
  have hother (ho : outcomeOf status ≠ .accepted) :
      ∀ s, (s, Outcome.accepted) ∈ (symbol, outcomeOf status) :: l.outcomes →
        s ∈ l.activePositions := by
    intro s hs
    rcases List.mem_cons.mp hs with heq | hs
    · exact absurd (Prod.mk.inj heq).2.symm ho
    · exact h.accepted s hs
  -- the scan still runs, so that no outcome before was a rejection
  have hunrejected (ho : outcomeOf status ≠ .rejected) (phase : ScanPhase) :
      ∀ s, (s, Outcome.rejected) ∈ (symbol, outcomeOf status) :: l.outcomes →
        phase = .stopped := by
    intro s hs
    rcases List.mem_cons.mp hs with heq | hs
    · exact absurd (Prod.mk.inj heq).2.symm ho
    · exact absurd (h.rejected s hs) hlive
  unfold LiveRuntime.finish
  dsimp only
  split
  · rename_i houtcome
    refine inv_processed ?_ ?_ candle
    swap
    · exact hlive
    exact ⟨h.held, h.running, h.timedOut, h.once, hother (houtcome ▸ Outcome.noConfusion),
      hunrejected (houtcome ▸ Outcome.noConfusion) _⟩
  · rename_i houtcome
    exact ⟨h.held, h.running, h.timedOut, h.once, hother (houtcome ▸ Outcome.noConfusion),
      fun _ _ => rfl⟩
  · rename_i houtcome
    refine inv_processed ?_ ?_ candle
    swap
    · exact hlive
    exact ⟨fun _ => hcertain houtcome, h.running, h.timedOut, h.once,
      hother (houtcome ▸ Outcome.noConfusion), hunrejected (houtcome ▸ Outcome.noConfusion) _⟩
  · rename_i houtcome
    refine inv_processed ?_ ?_ candle
    swap
    · exact hlive
    refine ⟨h.held, h.running, h.timedOut, h.once, fun s hs => ?_,
      hunrejected (houtcome ▸ Outcome.noConfusion) _⟩
    by_cases hsame : s = symbol
    · exact hsame ▸ List.mem_cons_self
    · rcases List.mem_cons.mp hs with heq | hs
      · exact absurd (Prod.mk.inj heq).1 hsame
      · exact List.mem_cons_of_mem _
          (List.mem_filter.mpr ⟨h.accepted s hs, decide_eq_true hsame⟩)

/-- The cycle that settles reconciliation resolves whatever is uncertain. -/
theorem resolved_of_settles {source : SnapshotSource} {shown : List String}
    {findings : List Finding} {persisted : Persisted}
    (hsettles : Settles cfg source findings persisted l.runtime)
    (hshown : ∀ symbol ∈ l.uncertain, symbol ∈ l.settling ∧ symbol ∉ shown) :
    (l.uncertain.filter fun symbol => !l.resolves shown findings symbol) = [] := by
  obtain ⟨-, -, hfindings, -⟩ := hsettles
  apply List.filter_eq_nil_iff.mpr
  intro symbol hmem
  obtain ⟨hbefore, hunseen⟩ := hshown symbol hmem
  have hresolves : l.resolves shown findings symbol = true := by
    rw [LiveRuntime.resolves, hfindings]
    exact decide_eq_true ⟨hbefore, hunseen, List.not_mem_nil⟩
  rw [hresolves]
  exact Bool.false_ne_true

theorem inv_reconcile (h : SubmissionInv l) (hrunning : l.cycle = .running) (answer : Answer)
    (changed : Bool) (shown : List String) (findings : List Finding) (persisted : Persisted)
    (hshown : Settles cfg (answer.source changed) findings persisted l.runtime →
      ∀ symbol ∈ l.uncertain, symbol ∈ l.settling ∧ symbol ∉ shown) :
    SubmissionInv (l.reconcile cfg (answer.source changed) shown findings persisted) := by
  unfold LiveRuntime.reconcile
  split
  · rename_i s herror
    have hunhealthy := (finishCycle_error herror).trans (h.running hrunning)
    refine ⟨fun _ => .inr hunhealthy, fun _ => hunhealthy, ?_, h.once, h.accepted, h.rejected⟩
    intro hdead
    cases hdead
  · rename_i s hok
    refine ⟨fun hsome => ?_, ?_, ?_, h.once, h.accepted, h.rejected⟩
    · by_contra hunsettled
      have hclean : s.reconciliationStatus = "CLEAN" := by
        by_contra hstatus
        exact hunsettled (.inl hstatus)
      have hsettles := finishCycle_clean hok hclean
      apply hsome
      dsimp only
      rw [if_pos hsettles.2.2.2]
      exact resolved_of_settles hsettles (hshown hsettles)
    · intro hidle
      cases hidle
    · intro hidle
      cases hidle

theorem timedOut_unsettled (s : RuntimeState) : (timedOut s).reconciliationStatus ≠ "CLEAN" := by
  have htext : (timedOut s).reconciliationStatus = "EXCHANGE_STATE_UNKNOWN" := rfl
  rw [htext]
  decide

theorem inv_timeoutPersisted (h : SubmissionInv l) (htimedOut : l.cycle = .timedOut)
    (persisted : Persisted) :
    SubmissionInv { l with
      runtime := timeoutPersisted cfg.toRuntimeConfig persisted l.runtime
      cycle := if cfg.persistence ∧ persisted = .raised then .dead else .idle } := by
  have hstatus : (timeoutPersisted cfg.toRuntimeConfig persisted l.runtime).reconciliationStatus =
      l.runtime.reconciliationStatus := by
    unfold timeoutPersisted
    split <;> rfl
  refine ⟨fun _ => .inl (hstatus ▸ h.timedOut htimedOut), ?_, ?_, h.once, h.accepted, h.rejected⟩
  · intro hrunning
    dsimp only at hrunning
    split at hrunning <;> cases hrunning
  · intro hagain
    dsimp only at hagain
    split at hagain <;> cases hagain

theorem inv_rejectPersisted (h : SubmissionInv l) :
    SubmissionInv { l with runtime := rejectPersisted l.runtime } := by
  have hkept : (rejectPersisted l.runtime).reconciliationStatus = l.runtime.reconciliationStatus ∧
      (rejectPersisted l.runtime).reconciliationPersistenceUnhealthy =
        l.runtime.reconciliationPersistenceUnhealthy := by
    unfold rejectPersisted
    split
    · split <;> exact ⟨rfl, rfl⟩
    · exact ⟨rfl, rfl⟩
  exact h.same hkept.1 hkept.2 rfl rfl rfl rfl rfl id

/-- **One event preserves the invariant.** -/
theorem submissionInv_next (h : SubmissionInv l) (e : LiveEvent)
    (hc : UncertainUntilShown cfg l e) : SubmissionInv (l.next cfg e) := by
  rcases e with seconds | ⟨symbol, candle, market⟩ | _ | gates | status | _ | _ |
    ⟨answer, changed, shown, findings, persisted⟩ | _ | persisted | _ | _ | reason <;>
    unfold LiveRuntime.next <;> dsimp only
  case tick => exact h.same rfl rfl rfl rfl rfl rfl rfl id
  case scan =>
    split
    · rename_i hidle
      exact inv_scanSymbol h hidle symbol candle market
    · exact h
  case filtered =>
    split
    · rename_i hscan
      exact inv_processed h (by rw [hscan]; exact ScanPhase.noConfusion) _
    · exact h
  case submit =>
    split
    · rename_i hscan
      exact inv_submit h (by rw [hscan]; exact ScanPhase.noConfusion) _ _ gates
    · exact h
  case result =>
    split
    · rename_i hscan
      exact inv_finish h hscan status hc
    · exact h
  case adapterRaised =>
    split
    · exact h.same rfl rfl rfl rfl rfl rfl rfl fun _ => rfl
    · exact h
  case beginCycle =>
    split
    · refine ⟨fun _ => .inr rfl, fun _ => rfl, ?_, h.once, h.accepted, h.rejected⟩
      intro hrunning
      cases hrunning
    · exact h
  case finishCycle =>
    split
    · rename_i hrunning
      exact inv_reconcile h hrunning answer changed shown findings persisted hc
    · exact h
  case timedOut =>
    split
    · refine ⟨fun _ => .inl (timedOut_unsettled _), ?_, fun _ => timedOut_unsettled _, h.once,
        h.accepted, h.rejected⟩
      intro htimedOut
      cases htimedOut
    · exact h
  case timeoutPersisted =>
    split
    · rename_i htimedOut
      exact inv_timeoutPersisted h htimedOut persisted
    · exact h
  case rejectFailed => exact h.same rfl rfl rfl rfl rfl rfl rfl id
  case rejectPersisted => exact inv_rejectPersisted h
  case persistenceFailed => exact h.same rfl rfl rfl rfl rfl rfl rfl id

end Steps

/-- **No second order.** In every run whose uncertain results meet unsettled reconciliation, which
    only a cycle that resolves them settles: no symbol is submitted while uncertain, an uncertain
    symbol leaves no order authorized, an accepted one is rejected by the gate, and after a
    rejection the scan has ended. -/
theorem no_second_order (cfg : LiveConfig) (s : RuntimeState) (active : List String)
    (events : List LiveEvent)
    (hevents : Along (LiveRuntime.next cfg) (UncertainUntilShown cfg) (LiveRuntime.at s active)
      events) :
    let l := runEvents (LiveRuntime.next cfg) (LiveRuntime.at s active) events
    l.resubmitted = [] ∧
      (l.uncertain ≠ [] → ∀ gates, validateLiveOrderAuthorization gates l.runtime ≠ .ok ()) ∧
      (∀ symbol, (symbol, Outcome.accepted) ∈ l.outcomes →
        ∀ market, evaluateRuntimeRisk cfg.toRuntimeConfig symbol (l.riskContext symbol market)
          l.runtime ≠ none) ∧
      ∀ symbol, (symbol, Outcome.rejected) ∈ l.outcomes → l.scan = .stopped := by
  intro l
  have hstart : SubmissionInv (LiveRuntime.at s active) :=
    { held := fun hsome => absurd rfl hsome
      running := fun hrunning => absurd hrunning CyclePhase.noConfusion
      timedOut := fun htimedOut => absurd htimedOut CyclePhase.noConfusion
      once := rfl
      accepted := fun _ hmem => absurd hmem List.not_mem_nil
      rejected := fun _ hmem => absurd hmem List.not_mem_nil }
  have h : SubmissionInv l :=
    run_preserves (P := SubmissionInv) (fun _ e h hc => submissionInv_next h e hc) events _ hstart
      hevents
  refine ⟨h.once, fun hsome gates hauthorized => ?_, fun symbol hmem market => ?_, h.rejected⟩
  · exact settled_of_passed (passed_of_authorized hauthorized) (h.held hsome)
  · exact risk_of_active (h.accepted symbol hmem) l.runtime

/-- A filled order, a timeout that meets a running cycle, the cycle that resolves it, and an order
    for its symbol that the exchange rejects. -/
def resolvedRun : List LiveEvent :=
  [.scan "BTCUSDT" none openMarket, .submit openGates, .result "filled",
    .scan "ETHUSDT" none openMarket, .submit openGates, .beginCycle, .result "timeout",
    .finishCycle (.snapshot (some "COMPLETE") false) false ["BTCUSDT"] [] .busy,
    .beginCycle, .finishCycle (.snapshot (some "COMPLETE") false) false ["BTCUSDT"] [] .committed,
    .scan "ETHUSDT" none openMarket, .submit openGates, .result "rejected"]

theorem no_second_order_filled :
    let l := runEvents (LiveRuntime.next liveConfig) (LiveRuntime.at cleanRuntime []) resolvedRun
    l.outcomes = [("ETHUSDT", .rejected), ("ETHUSDT", .uncertain), ("BTCUSDT", .accepted)] ∧
      l.resubmitted = [] := by
  refine ⟨by decide +kernel, ?_⟩
  refine (no_second_order liveConfig cleanRuntime [] _ ?_).1
  refine ⟨trivial, trivial, fun huncertain => absurd huncertain (by decide +kernel), trivial,
    trivial, trivial, fun _ => .inr (by decide +kernel), ?_, trivial, ?_, trivial, trivial,
    fun huncertain => absurd huncertain (by decide +kernel), trivial⟩
  · -- the evidence of this cycle does not commit
    rintro ⟨-, -, -, hcommitted⟩
    cases hcommitted rfl
  · intro _
    decide +kernel

end AlphaForge.Runtime
