/-
  File:      AlphaForge/Backtest/Counts.lean
  Subject:   The lifecycle that the loop of the backtest leaves, and its two summaries
             (`_derive_backtest_counts`, `build_backtest_quality_summary`).

  Every pass adds the rows of one signal. The first summary tells signals apart by symbol and time;
  the second reads the rows from the database, where each has a reason: the writer stores `UNKNOWN`
  for a row without one. A row with a reason is a rejection, so the second accepts nothing.

  * `Setup.visit`, `shape_visit` -- one pass, and the kinds of rows that it can leave.
  * `persistLifecycleRows` -- the rows of the database; those of one signal, time and state are one.
  * `derived_eq`, `quality_eq` -- what either summary counts.
  * **`summaries_agree_iff`** -- the summaries count the same trades exactly in the runs without
    any.

  Given for each candle: what the symbol filter, the scan, the rescue, the execution flags and the
  guardrail answer. The columns that no count reads are left out, and so is the order in which the
  database returns the rows. The database has no rows of an earlier run.
-/
import AlphaForge.Backtest.OpenLimits
import AlphaForge.Lib.Occurrences
import AlphaForge.Lib.PyText
import AlphaForge.Lib.Upsert
import AlphaForge.Lifecycle.Contract
import AlphaForge.Lifecycle.Readiness

namespace AlphaForge.Backtest

open AlphaForge.Lib
open AlphaForge.Lifecycle (LifecycleEvent normalizeLifecycleEvent canonicalLifecycleEvents
  canonicalRejectReason)
open AlphaForge.Portfolio (evaluatePortfolioRisk)

/-! ## 1. The log -/

/-- The columns of `LifecycleRow` that the summaries read. -/
structure LogRow where
  symbol : String
  timestamp : ℤ
  statusBefore : String
  statusAfter : String
  rejectReason : String
  eventFlags : String
  signalId : String
  orderId : String
  closeReason : String
  deriving DecidableEq, Repr

/-- The columns of a row of `rejected` that the summaries read. -/
structure RejectionRow where
  signalId : String
  lifecycleState : String
  rejectReason : String
  deriving DecidableEq, Repr

/-- What one pass adds to the lists of `main`. -/
structure Visit where
  lifecycle : List LogRow
  rejected : List RejectionRow
  candidate : Option (CandidateOrder ℚ)

/-- What is answered at a candle. -/
inductive Verdict where
  /-- The symbol filter refuses, for its first reason. -/
  | filtered (reason : String)
  /-- The scan rejects; the order and the size multiplier of a rescue. -/
  | rejected (reason : String) (rescue : Option (Order × ℚ))
  /-- The scan executes and the execution flags refuse. -/
  | flagged (order : Order) (reason : String) (rescue : Option (Order × ℚ))
  /-- The scan executes and no flag is up, as `Outcome.executed`. -/
  | executed (order : Order) (riskScale : ℚ) (guardReason : String)

/-- What the loop makes of it, up to the portfolio. -/
def Verdict.outcome : Verdict → Outcome
  | .filtered _ => .none
  | .rejected _ none => .none
  | .rejected _ (some (order, multiplier)) => .rescued order multiplier
  | .flagged _ _ none => .none
  | .flagged _ _ (some (order, multiplier)) => .rescued order multiplier
  | .executed order riskScale guardReason => .executed order riskScale guardReason

/-- What `main` runs on. A symbol is letters and digits, which `validate_single_binance_symbol`
    checks when its candles are fetched. -/
structure Feed where
  series : List Series
  symbols : (series.map (·.symbol)).Nodup
  plain : ∀ s ∈ series, ∀ c ∈ s.symbol.toList, c.isAlphanum = true
  verdict : String → ℕ → Verdict
  /-- `score_status` where no score is available, else empty. -/
  scoreFlags : String → ℕ → String

def Feed.inputs (feed : Feed) : Inputs where
  series := feed.series
  symbols := feed.symbols
  outcome symbol i := (feed.verdict symbol i).outcome

/-- `f"{symbol}:{timestamp}"`. -/
def signalKey (symbol : String) (timestamp : ℤ) : String := symbol ++ ":" ++ toString timestamp

def Attempt.signalId (a : Attempt) : String := signalKey a.symbol a.candle.timestamp

/-- A row that `process_backtest_result` writes itself. -/
def Attempt.row (a : Attempt) (before after reason flags : String) : LogRow :=
  { symbol := a.symbol, timestamp := a.candle.timestamp, statusBefore := before,
    statusAfter := after, rejectReason := reason, eventFlags := flags, signalId := a.signalId,
    orderId := "", closeReason := "" }

/-- A row of `simulate_candidate`, after `_finalize_rows`; a closing row is written at the close. -/
def Attempt.simulated (a : Attempt) (orderId : String) (r : LifecycleRow ℚ) : LogRow :=
  { symbol := a.symbol, timestamp := r.timestamp, statusBefore := r.statusBefore,
    statusAfter := r.statusAfter, rejectReason := "", eventFlags := "", signalId := a.signalId,
    orderId := if r.statusAfter ∈ ["ORDER_PLACED", "POSITION_OPENED", "POSITION_CLOSED"] then
      orderId
      else ""
    closeReason := match r.close with
      | some close => close.closeReason
      | none => "" }

/-- The row of the symbol filter. -/
def Attempt.filterRow (a : Attempt) (reason : String) : LogRow :=
  { symbol := a.symbol, timestamp := a.candle.timestamp, statusBefore := "NONE",
    statusAfter := "SYMBOL_REJECTED", rejectReason := reason, eventFlags := "SYMBOL_SELECTOR",
    signalId := "", orderId := "", closeReason := "" }

/-- The first row of a signal. -/
def Attempt.created (a : Attempt) (flags : String) : LogRow :=
  a.row "NONE" "SIGNAL_CREATED" "" flags

/-- A signal that is rejected in the state. -/
def Attempt.refuse (a : Attempt) (flags state reason rowFlags : String) : Visit :=
  { lifecycle := [a.created flags, a.row "SIGNAL_CREATED" state reason rowFlags]
    rejected := [⟨a.signalId, state, reason⟩]
    candidate := none }

/-- A signal that is accepted or rescued. -/
def Attempt.accept (a : Attempt) (orderId : CandidateOrder ℚ → String) (flags : String)
    (order : Order) : Visit :=
  { lifecycle := a.created flags ::
      (simulateCandidate (a.candidate order) a.candles a.idx).map
        (a.simulated (orderId (a.candidate order)))
    rejected := []
    candidate := some (a.candidate order) }

/-- `portfolio_decision.reject_reason or "UNKNOWN_PORTFOLIO_RISK"`. -/
def Setup.portfolioReason (setup : Setup) (order : Order) (notional : Option ℚ)
    (snap : Portfolio.Snapshot ℚ) : String :=
  match evaluatePortfolioRisk (riskCandidate order notional) snap setup.config.risk with
  | .ok d =>
    match d.rejectReason with
    | some reason => reason.code
    | none => "UNKNOWN_PORTFOLIO_RISK"
  | .error _ => "UNKNOWN_PORTFOLIO_RISK"

/-- One pass of the loop, with `process_backtest_result`; `orderId` is `uuid5` of the order. -/
def Setup.visit (setup : Setup) (orderId : CandidateOrder ℚ → String) (s : State) (a : Attempt)
    (flags : String) : Verdict → Visit
  | .filtered reason =>
    { lifecycle := [a.filterRow reason]
      rejected := [⟨"SYMBOL_SELECTOR:" ++ a.signalId, "SYMBOL_REJECTED", reason⟩]
      candidate := none }
  | .rejected reason rescue =>
    match rescue with
    | some (order, _) => a.accept orderId flags order
    | none => a.refuse flags "SIGNAL_REJECTED" reason flags
  | .flagged _ reason rescue =>
    match rescue with
    | some (order, _) => a.accept orderId flags order
    | none => a.refuse flags "ORDER_REJECTED" reason ""
  | .executed order riskScale guardReason =>
    let notional := notionalFor setup.balance setup.riskPct riskScale order.notional
    let snap := s.snapshot a.symbol order.side setup.config a.candle.timestamp
    if setup.accepts order notional snap = true then
      if guardReason = "" then a.accept orderId flags order
      else a.refuse flags "SIGNAL_REJECTED" guardReason ""
    else a.refuse flags "SIGNAL_REJECTED" (setup.portfolioReason order notional snap) ""

/-- A pass with its verdict. -/
structure Pass where
  attempt : Attempt
  verdict : Verdict
  flags : String

def Feed.passes (feed : Feed) : List Pass :=
  feed.series.flatMap fun s => (s.candles.zipIdx.drop 2).map fun c =>
    { attempt :=
        { symbol := s.symbol, candles := s.candles, idx := c.2, candle := c.1,
          outcome := (feed.verdict s.symbol c.2).outcome }
      verdict := feed.verdict s.symbol c.2
      flags := feed.scoreFlags s.symbol c.2 }

/-- The passes from a state on. -/
def Setup.visits (setup : Setup) (orderId : CandidateOrder ℚ → String) :
    State → List Pass → List Visit
  | _, [] => []
  | s, p :: rest =>
    setup.visit orderId s p.attempt p.flags p.verdict ::
      setup.visits orderId (setup.process s p.attempt).1 rest

/-- The visits of a backtest. -/
def Setup.backtest (setup : Setup) (orderId : CandidateOrder ℚ → String) (feed : Feed) :
    List Visit :=
  setup.visits orderId (State.init setup.balance) feed.passes

/-- `lifecycle`, `rejected` and `candidates` at the end of the loop. -/
def lifecycleOf (visits : List Visit) : List LogRow := visits.flatMap Visit.lifecycle

def rejectedOf (visits : List Visit) : List RejectionRow := visits.flatMap Visit.rejected

def candidatesOf (visits : List Visit) : List (CandidateOrder ℚ) := visits.filterMap Visit.candidate

/-! ## 2. The first summary -/

structure BacktestCounts where
  totalCandidates : ℕ
  acceptedCount : ℤ
  rejectedCount : ℕ
  totalOrders : ℕ
  triggeredOrders : ℕ
  notTriggeredOrders : ℕ
  openAtEndOrders : ℕ
  tpHits : ℕ
  slHits : ℕ
  deriving DecidableEq, Repr

/-- `(row.order_id or f"{row.symbol}:{row.timestamp}", row.signal_id or …)`. -/
def LogRow.orderKey (r : LogRow) : String × String :=
  (if r.orderId = "" then signalKey r.symbol r.timestamp else r.orderId,
    if r.signalId = "" then signalKey r.symbol r.timestamp else r.signalId)

/-- The order keys of the rows of a status. -/
def orderKeys (status : String) (lifecycle : List LogRow) : List (String × String) :=
  ((lifecycle.filter fun r => r.statusAfter = status).map LogRow.orderKey).dedup

def closedFor (reason : String) (lifecycle : List LogRow) : ℕ :=
  lifecycle.countP fun r => r.statusAfter = "POSITION_CLOSED" ∧ r.closeReason = reason

/-- `_derive_backtest_counts`. -/
def deriveBacktestCounts (lifecycle : List LogRow) : BacktestCounts :=
  let signalIds := ((lifecycle.filter fun r =>
    r.statusAfter ∈ ["SIGNAL_CREATED", "SYMBOL_REJECTED"]).map fun r =>
      signalKey r.symbol r.timestamp).dedup
  let rejectedCount := lifecycle.countP fun r =>
    r.statusAfter ∈ ["SYMBOL_REJECTED", "SIGNAL_REJECTED", "ORDER_REJECTED"]
  let waitingKeys := orderKeys "WAITING_ENTRY_ZONE" lifecycle
  let triggeredKeys := orderKeys "ENTRY_TRIGGERED" lifecycle
  let placedKeys := orderKeys "ORDER_PLACED" lifecycle
  { totalCandidates := signalIds.length
    acceptedCount := signalIds.length - rejectedCount
    rejectedCount := rejectedCount
    totalOrders := placedKeys.length
    triggeredOrders := triggeredKeys.length
    notTriggeredOrders := (waitingKeys.filter fun key =>
      key ∉ triggeredKeys ∧ key ∉ placedKeys).length
    openAtEndOrders := closedFor "TIMEOUT" lifecycle
    tpHits := closedFor "TP_HIT" lifecycle
    slHits := closedFor "SL_HIT" lifecycle }

/-! ## 3. The second summary -/

/-- The columns of a persisted row that the counts read. -/
structure PersistedRow where
  signalId : String
  eventTs : String
  lifecycleState : String
  decision : String
  rejectReason : String
  deriving DecidableEq, Repr

/-- The names that `normalize_lifecycle_event` knows. -/
def lifecycleNames : List LifecycleEvent :=
  canonicalLifecycleEvents ++
    [.created, .signalAccepted, .orderCancelled, .canceled, .expired, .openAtEnd, .tpHit, .slHit]

/-- `normalize_lifecycle_event` on a text. -/
def lifecycleState (status : String) : Except PyError String :=
  match lifecycleNames.find? fun e => e.value = upper (PyText.strip status) with
  | some event => (normalizeLifecycleEvent event).map LifecycleEvent.value
  | none => .error (.valueError ("unknown lifecycle event: '" ++ status ++ "'"))

/-- `_is_pre_signal_symbol_reject`. -/
def isPreSignalSymbolReject (r : LogRow) (state : String) : Bool :=
  upper (PyText.strip state) = "SYMBOL_REJECTED" ∧
    upper (PyText.strip r.statusBefore) ∈ ["", "NONE"] ∧ r.eventFlags = "SYMBOL_SELECTOR"

/-- `_lifecycle_signal_id`. -/
def lifecycleSignalId (r : LogRow) (state : String) : String :=
  if r.signalId ≠ "" then r.signalId
  else if isPreSignalSymbolReject r state then
    "SYMBOL_SELECTOR:" ++ signalKey r.symbol r.timestamp
  else signalKey r.symbol r.timestamp

/-- `save_trade_lifecycle_event`: the row of an event. -/
def LogRow.stored (r : LogRow) (signalId state decision rejectReason : String) : PersistedRow where
  signalId := if PyText.strip signalId = "" then
      "UNKNOWN_SIGNAL:" ++ signalKey r.symbol r.timestamp
    else PyText.strip signalId
  eventTs := toString r.timestamp
  lifecycleState := state
  decision := decision
  rejectReason := canonicalRejectReason (some rejectReason)

/-- One round of `_persist_lifecycle_rows`. -/
def persistRow (r : LogRow) : Except PyError PersistedRow := do
  let state ← lifecycleState r.statusAfter
  let state := if state = "SYMBOL_REJECTED" ∧ isPreSignalSymbolReject r state = false then
    "SIGNAL_REJECTED" else state
  let signalId := lifecycleSignalId r state
  if state ∈ ["SIGNAL_REJECTED", "ORDER_REJECTED", "SYMBOL_REJECTED"] then
    let reason := upper (PyText.strip r.rejectReason)
    return r.stored signalId state "REJECTED"
      (if reason = "" then "REJECT_REASON_UNAVAILABLE" else reason)
  else if state = "SIGNAL_CREATED" then return r.stored signalId state "PENDING" ""
  else return r.stored signalId state "ACCEPTED" r.rejectReason

/-- The columns of `ux_lifecycle_signal_event_ts_state`. -/
def PersistedRow.key (r : PersistedRow) : String × String × String :=
  (r.signalId, r.eventTs, r.lifecycleState)

/-- `_persist_lifecycle_rows`. Every event id ends in the index of its row, so none is known before,
    and the row is written under its lifecycle key: `ON CONFLICT … DO UPDATE`. -/
def persistLifecycleRows (lifecycle : List LogRow) : Except PyError (List PersistedRow) :=
  (lifecycle.mapM persistRow).map (upsertAll PersistedRow.key)

/-- `_normalized_decision`; of the other columns the rows have only `lifecycle_state`. -/
def normalizedDecision (r : PersistedRow) : String :=
  let decision := upper (PyText.strip r.decision)
  if decision = "" then upper (PyText.strip r.lifecycleState) else decision

def rejectedTokens : List String :=
  ["REJECTED", "SIGNAL_REJECTED", "ORDER_REJECTED", "SYMBOL_REJECTED"]

def acceptedTokens : List String :=
  ["ACCEPTED", "EXECUTED", "ENTRY_TRIGGERED", "ORDER_PLACED", "PARTIAL_FILL", "FILLED", "TP_HIT",
    "SL_HIT", "OPEN_AT_END"]

/-- The row is a rejection, or names a reason. -/
def PersistedRow.isRejection (r : PersistedRow) : Bool :=
  normalizedDecision r ∈ rejectedTokens ∨ PyText.strip r.rejectReason ≠ ""

def PersistedRow.sid (r : PersistedRow) : String := PyText.strip r.signalId

/-- `out[key] = out.get(key, 0) + 1`. -/
def countIn (out : List (String × ℕ)) (key : String) : List (String × ℕ) :=
  if key ∈ out.map Prod.fst then out.map fun e => if e.1 = key then (key, e.2 + 1) else e
  else out ++ [(key, 1)]

/-- `_distribution`, before it is sorted. -/
def distribution (values : List String) : List (String × ℕ) := values.foldl countIn []

/-- The counts of `build_backtest_quality_summary`. -/
structure QualityCounts where
  totalCandidates : ℕ
  acceptedCount : ℕ
  rejectedCount : ℕ
  signalRejectedCount : ℕ
  deriving DecidableEq, Repr

/-- `str(r.get("reject_reason") or r.get("reason") or "UNKNOWN").strip() or "UNKNOWN"`. -/
def canonicalReason (r : RejectionRow) : String :=
  let reason := PyText.strip (if r.rejectReason = "" then "UNKNOWN" else r.rejectReason)
  if reason = "" then "UNKNOWN" else reason

/-- `build_backtest_quality_summary`, with `rejected` for the canonical rejections. -/
def buildBacktestQualitySummary (rows : List PersistedRow) (canonical : List RejectionRow) :
    QualityCounts :=
  let signalCreated := rows.filter fun r => upper (PyText.strip r.lifecycleState) = "SIGNAL_CREATED"
  let forCounts := if signalCreated = [] then rows else signalCreated
  let candidateIds := (forCounts.map PersistedRow.sid).filter (· ≠ "")
  let rejectedIds := ((rows.filter fun r => r.isRejection ∧ r.sid ≠ "").map PersistedRow.sid)
  let rejectedRows := if signalCreated = [] then
      rows.filter fun r => r.isRejection ∧ (candidateIds = [] ∨ r.sid ∈ candidateIds)
    else signalCreated.filter fun r => r.isRejection ∨ r.sid ∈ rejectedIds
  let acceptedRows := if signalCreated = [] then
      rows.filter fun r => normalizedDecision r ∈ acceptedTokens ∧
        (candidateIds = [] ∨ r.sid ∈ candidateIds)
    else signalCreated.filter fun r => ¬ r.isRejection ∧ r.sid ∉ rejectedIds
  let rejectedCount := ((distribution (canonical.map canonicalReason)).map Prod.snd).sum
  { totalCandidates := max forCounts.length (acceptedRows.length + rejectedCount)
    acceptedCount := acceptedRows.length
    rejectedCount := rejectedCount
    signalRejectedCount := rejectedRows.length }

/-- The two summaries count the same trades. -/
structure Agree (visits : List Visit) (persisted : List PersistedRow) : Prop where
  accepted : (deriveBacktestCounts (lifecycleOf visits)).acceptedCount =
    (buildBacktestQualitySummary persisted (rejectedOf visits)).acceptedCount
  candidates : (deriveBacktestCounts (lifecycleOf visits)).acceptedCount =
    (candidatesOf visits).length
  outcomes : (deriveBacktestCounts (lifecycleOf visits)).acceptedCount =
    (deriveBacktestCounts (lifecycleOf visits)).slHits +
      (deriveBacktestCounts (lifecycleOf visits)).tpHits +
      (deriveBacktestCounts (lifecycleOf visits)).openAtEndOrders +
      (deriveBacktestCounts (lifecycleOf visits)).notTriggeredOrders
  derivedTotal : (deriveBacktestCounts (lifecycleOf visits)).acceptedCount +
    (deriveBacktestCounts (lifecycleOf visits)).rejectedCount =
      (deriveBacktestCounts (lifecycleOf visits)).totalCandidates
  qualityTotal : (buildBacktestQualitySummary persisted (rejectedOf visits)).acceptedCount +
    (buildBacktestQualitySummary persisted (rejectedOf visits)).rejectedCount =
      (buildBacktestQualitySummary persisted (rejectedOf visits)).totalCandidates

/-- The summaries of a backtest agree; its rows are persisted. -/
def SummariesAgree (visits : List Visit) : Prop :=
  ∃ persisted, persistLifecycleRows (lifecycleOf visits) = .ok persisted ∧ Agree visits persisted

/-! ## 4. The four kinds of visits -/

/-- How a pass ends for its signal. -/
inductive Kind where
  | filtered
  | refused
  | unfilled
  | stopped
  | targeted
  | timedOut
  deriving DecidableEq, Repr

/-- The candidate is accepted. -/
def Kind.accepted : Kind → Bool
  | .filtered => false
  | .refused => false
  | _ => true

/-- The candidate is accepted and filled. -/
def Kind.filled : Kind → Bool
  | .stopped => true
  | .targeted => true
  | .timedOut => true
  | _ => false

/-- The reason of the close. -/
def Kind.closeReason : Kind → String
  | .stopped => "SL_HIT"
  | .targeted => "TP_HIT"
  | .timedOut => "TIMEOUT"
  | _ => ""

/-- The rows of an accepted candidate up to its entry. -/
def Attempt.waitingRows (a : Attempt) (flags : String) : List LogRow :=
  [a.created flags, a.row "NONE" "SIGNAL_CREATED" "" "",
    a.row "SIGNAL_CREATED" "SIGNAL_ACCEPTED" "" "",
    a.row "SIGNAL_ACCEPTED" "WAITING_ENTRY_ZONE" "" ""]

/-- The rows from the fill on. -/
def Attempt.filledRows (a : Attempt) (orderId closeReason : String) (closedTs : ℤ) : List LogRow :=
  [a.row "WAITING_ENTRY_ZONE" "ENTRY_TRIGGERED" "" "",
    { a.row "ENTRY_TRIGGERED" "ORDER_PLACED" "" "" with orderId := orderId },
    { a.row "ORDER_PLACED" "POSITION_OPENED" "" "" with orderId := orderId },
    { a.row "ORDER_PLACED" "POSITION_CLOSED" "" "" with
      timestamp := closedTs, orderId := orderId, closeReason := closeReason }]

/-- The rows of a visit of the kind. -/
inductive Shape (a : Attempt) : Kind → Visit → Prop where
  | filtered (reason : String) (row : RejectionRow) :
      Shape a .filtered ⟨[a.filterRow reason], [row], none⟩
  | refused (flags state reason rowFlags : String)
      (h : state = "SIGNAL_REJECTED" ∨ state = "ORDER_REJECTED") :
      Shape a .refused (a.refuse flags state reason rowFlags)
  | unfilled (flags : String) (candidate : CandidateOrder ℚ) :
      Shape a .unfilled ⟨a.waitingRows flags ++
        [a.row "WAITING_ENTRY_ZONE" "ENTRY_TIMEOUT" "" ""], [],
        some candidate⟩
  | filled (kind : Kind) (h : kind.filled = true) (flags orderId : String) (closedTs : ℤ)
      (candidate : CandidateOrder ℚ) :
      Shape a kind ⟨a.waitingRows flags ++ a.filledRows orderId kind.closeReason closedTs, [],
        some candidate⟩

theorem exitScan_reason {F : Type} [FloatNum F] (candidate : CandidateOrder F) (long : Bool)
    (last : Candle F) (mfe mae : F) (candles : List (Candle F)) :
    ∃ kind : Kind, kind.filled = true ∧
      (exitScan candidate long last mfe mae candles).closeReason = kind.closeReason := by
  induction candles generalizing mfe mae with
  | nil => exact ⟨.timedOut, rfl, rfl⟩
  | cons c rest ih =>
    unfold exitScan
    dsimp only
    split
    · exact ⟨.stopped, rfl, rfl⟩
    · split
      · exact ⟨.targeted, rfl, rfl⟩
      · exact ih _ _

theorem shape_accept (a : Attempt) (orderId : CandidateOrder ℚ → String) (flags : String)
    (order : Order) : ∃ kind, Shape a kind (a.accept orderId flags order) := by
  unfold Attempt.accept simulateCandidate
  cases fromFill (a.candidate order) a.candles a.idx with
  | nil => exact ⟨.unfilled, .unfilled flags _⟩
  | cons fill rest =>
    obtain ⟨kind, hfilled, hreason⟩ := exitScan_reason (a.candidate order)
      (upper (a.candidate order).side = "LONG") (a.candles.getLastD fill) (FloatNum.ofInt 0)
      (FloatNum.ofInt 0) (fill :: rest)
    refine ⟨kind, ?_⟩
    have hshape := Shape.filled (a := a) kind hfilled flags (orderId (a.candidate order))
      (exitScan (a.candidate order) (upper (a.candidate order).side = "LONG")
        (a.candles.getLastD fill) (FloatNum.ofInt 0) (FloatNum.ofInt 0) (fill :: rest)).closedTs
      (a.candidate order)
    rw [← hreason] at hshape
    exact hshape

/-- Every pass leaves rows of one of the kinds. -/
theorem shape_visit (setup : Setup) (orderId : CandidateOrder ℚ → String) (s : State) (a : Attempt)
    (flags : String) (verdict : Verdict) :
    ∃ kind, Shape a kind (setup.visit orderId s a flags verdict) := by
  cases verdict with
  | filtered reason => exact ⟨.filtered, .filtered reason _⟩
  | rejected reason rescue =>
    cases rescue with
    | none => exact ⟨.refused, .refused flags "SIGNAL_REJECTED" reason flags (.inl rfl)⟩
    | some rescue => exact shape_accept a orderId flags rescue.1
  | flagged order reason rescue =>
    cases rescue with
    | none => exact ⟨.refused, .refused flags "ORDER_REJECTED" reason "" (.inr rfl)⟩
    | some rescue => exact shape_accept a orderId flags rescue.1
  | executed order riskScale guardReason =>
    unfold Setup.visit
    dsimp only
    split
    · split
      · exact shape_accept a orderId flags order
      · exact ⟨.refused, .refused flags "SIGNAL_REJECTED" guardReason "" (.inl rfl)⟩
    · exact ⟨.refused, .refused flags "SIGNAL_REJECTED" _ "" (.inl rfl)⟩

/-- A visit with its pass and its kind. -/
structure Settled where
  attempt : Attempt
  visit : Visit
  kind : Kind
  shape : Shape attempt kind visit

def Settled.key (x : Settled) : String := x.attempt.signalId

theorem settled_visits (setup : Setup) (orderId : CandidateOrder ℚ → String) (s : State)
    (passes : List Pass) :
    ∃ xs : List Settled, xs.map Settled.visit = setup.visits orderId s passes ∧
      xs.map Settled.attempt = passes.map Pass.attempt := by
  induction passes generalizing s with
  | nil => exact ⟨[], rfl, rfl⟩
  | cons p rest ih =>
    obtain ⟨xs, hvisits, hattempts⟩ := ih (setup.process s p.attempt).1
    obtain ⟨kind, hshape⟩ := shape_visit setup orderId s p.attempt p.flags p.verdict
    refine ⟨⟨p.attempt, _, kind, hshape⟩ :: xs, ?_, ?_⟩
    · rw [List.map_cons, hvisits]
      rfl
    · rw [List.map_cons, hattempts]
      rfl

/-! ## 5. The keys -/

/-- Letters and digits. -/
def Plain (symbol : String) : Prop := ∀ c ∈ symbol.toList, c.isAlphanum = true

theorem alphanum_ne {c d : Char} (h : c.isAlphanum = true) (hd : d.isAlphanum = false) : c ≠ d := by
  rintro rfl
  exact Bool.false_ne_true (hd.symm.trans h)

/-- The symbol of a key. -/
theorem takeWhile_signalKey {symbol : String} (h : Plain symbol) (ts : ℤ) :
    (signalKey symbol ts).toList.takeWhile (· ≠ ':') = symbol.toList := by
  have hcolon : ∀ c ∈ symbol.toList, decide (c ≠ ':') = true := fun c hc =>
    decide_eq_true (alphanum_ne (h c hc) (by decide))
  unfold signalKey
  rw [String.toList_append, String.toList_append, List.append_assoc,
    List.takeWhile_append_of_pos hcolon]
  show symbol.toList ++ List.takeWhile _ (':' :: _) = _
  rw [List.takeWhile_cons, if_neg (by decide), List.append_nil]

theorem signalKey_injective {symbol symbol' : String} {ts ts' : ℤ} (h : Plain symbol)
    (h' : Plain symbol') (heq : signalKey symbol ts = signalKey symbol' ts') :
    symbol = symbol' ∧ ts = ts' := by
  have hsymbol : symbol = symbol' := by
    refine String.toList_injective ?_
    rw [← takeWhile_signalKey h ts, heq, takeWhile_signalKey h' ts']
  subst hsymbol
  refine ⟨rfl, ?_⟩
  have htail : (toString ts).toList = (toString ts').toList := by
    have hlist := congrArg String.toList heq
    unfold signalKey at hlist
    simp only [String.toList_append] at hlist
    exact List.append_cancel_left hlist
  have hread := PyText.readInt_toString ts
  rw [htail, PyText.readInt_toString] at hread
  exact (Option.some.inj hread).symm

theorem signalKey_ne_empty (symbol : String) (ts : ℤ) : signalKey symbol ts ≠ "" := by
  intro h
  have hcolon : ':' ∈ (signalKey symbol ts).toList := by
    unfold signalKey
    rw [String.toList_append, String.toList_append, List.mem_append, List.mem_append]
    exact .inl (.inr (List.mem_singleton.mpr rfl))
  rw [h] at hcolon
  exact absurd hcolon List.not_mem_nil

/-- The signals of a run have different keys. -/
theorem keys_nodup (feed : Feed) (xs : List Settled)
    (h : xs.map Settled.attempt = feed.passes.map Pass.attempt) :
    (xs.map Settled.key).Nodup := by
  have hpasses : feed.passes.map Pass.attempt = feed.inputs.attempts := by
    unfold Feed.passes Inputs.attempts Series.attempts
    rw [List.map_flatMap]
    refine List.flatMap_congr fun s _ => ?_
    rw [List.map_map]
    rfl
  rw [hpasses] at h
  have hplain : ∀ a ∈ feed.inputs.attempts, Plain a.symbol := by
    intro a ha
    obtain ⟨s, hs, ha⟩ := List.mem_flatMap.mp ha
    obtain ⟨_, _, rfl⟩ := List.mem_map.mp ha
    exact feed.plain s hs
  have hdistinct := attempts_distinct feed.inputs
  have hkeys : (feed.inputs.attempts.map Attempt.signalId).Nodup := by
    refine List.pairwise_map.mpr (hdistinct.imp_of_mem fun ha ha' hne heq => hne ?_)
    exact signalKey_injective (hplain _ ha) (hplain _ ha') heq
  rw [← h, List.map_map] at hkeys
  exact hkeys

/-! ## 6. Counting block by block -/

section Blocks

variable {α β : Type} {l : List α}

theorem countP_flatMap_mul {f : α → List β} {q : β → Bool} {p : α → Bool} {n : ℕ}
    (h : ∀ x ∈ l, (f x).countP q = if p x then n else 0) :
    (l.flatMap f).countP q = n * l.countP p := by
  induction l with
  | nil => rfl
  | cons x rest ih =>
    rw [List.forall_mem_cons] at h
    rw [List.flatMap_cons, List.countP_append, h.1, ih h.2, List.countP_cons]
    split
    · rw [Nat.mul_add, Nat.mul_one, Nat.add_comm]
    · rw [Nat.add_zero, Nat.zero_add]

/-- A list without repetitions of the keys of the elements with a property. -/
theorem length_of_keys {key : α → β} (hkeys : (l.map key).Nodup) {p : α → Bool} {ys : List β}
    (hys : ys.Nodup) (h : ∀ b, b ∈ ys ↔ ∃ x ∈ l, p x = true ∧ b = key x) :
    ys.length = l.countP p := by
  have hsub : ((l.filter p).map key).Nodup := hkeys.sublist (List.filter_sublist.map key)
  have hperm : ys.Perm ((l.filter p).map key) := by
    refine (List.perm_ext_iff_of_nodup hys hsub).mpr fun b => ?_
    rw [h b]
    simp only [List.mem_map, List.mem_filter, and_assoc, eq_comm]
  rw [hperm.length_eq, List.length_map, List.countP_eq_length_filter]

theorem mapM_flatMap {ε γ : Type} {f : β → Except ε γ} {g : α → List β} {h : α → List γ}
    (hg : ∀ x ∈ l, (g x).mapM f = .ok (h x)) : (l.flatMap g).mapM f = .ok (l.flatMap h) := by
  induction l with
  | nil => rfl
  | cons x rest ih =>
    rw [List.forall_mem_cons] at hg
    rw [List.flatMap_cons, List.mapM_append, hg.1, ih hg.2]
    rfl

end Blocks

/-! ## 7. What the first summary counts -/

/-- What the rows of a visit say to `_derive_backtest_counts`. -/
structure Logged (x : Settled) : Prop where
  ids : ∀ key, key ∈ (x.visit.lifecycle.filter fun r =>
    r.statusAfter ∈ ["SIGNAL_CREATED", "SYMBOL_REJECTED"]).map (fun r =>
      signalKey r.symbol r.timestamp) ↔ key = x.key
  rejected : (x.visit.lifecycle.countP fun r =>
    r.statusAfter ∈ ["SYMBOL_REJECTED", "SIGNAL_REJECTED", "ORDER_REJECTED"]) =
      if !x.kind.accepted then 1 else 0
  waiting : ∀ key, key ∈ (x.visit.lifecycle.filter fun r =>
    r.statusAfter = "WAITING_ENTRY_ZONE").map LogRow.orderKey ↔
      x.kind.accepted = true ∧ key = (x.key, x.key)
  triggered : ∀ key, key ∈ (x.visit.lifecycle.filter fun r =>
    r.statusAfter = "ENTRY_TRIGGERED").map LogRow.orderKey ↔
      x.kind.filled = true ∧ key = (x.key, x.key)
  placed : ∀ key, key ∈ (x.visit.lifecycle.filter fun r =>
    r.statusAfter = "ORDER_PLACED").map LogRow.orderKey → x.kind.filled = true ∧ key.2 = x.key
  closed : ∀ reason ∈ ["SL_HIT", "TP_HIT", "TIMEOUT"], closedFor reason x.visit.lifecycle =
    if x.kind.closeReason = reason then 1 else 0
  candidate : x.visit.candidate.isSome = x.kind.accepted
  rejections : x.visit.rejected.length = if !x.kind.accepted then 1 else 0

theorem logged (x : Settled) : Logged x := by
  obtain ⟨a, visit, kind, shape⟩ := x
  cases shape with
  | filtered reason row =>
    constructor <;>
      simp [Attempt.filterRow, Settled.key, Attempt.signalId, Kind.accepted, Kind.filled,
        Kind.closeReason, closedFor]
  | refused flags state reason rowFlags h =>
    rcases h with rfl | rfl
    all_goals
      constructor <;>
        simp [Attempt.refuse, Attempt.created, Attempt.row, Settled.key, Attempt.signalId,
          Kind.accepted, Kind.filled, Kind.closeReason, closedFor]
  | unfilled flags candidate =>
    have hkey := signalKey_ne_empty a.symbol a.candle.timestamp
    constructor <;>
      simp [Attempt.waitingRows, Attempt.created, Attempt.row, Settled.key, Attempt.signalId,
        Kind.accepted, Kind.filled, Kind.closeReason, closedFor, LogRow.orderKey, hkey]
  | filled kind h flags orderId closedTs candidate =>
    have hkey := signalKey_ne_empty a.symbol a.candle.timestamp
    have haccepted : kind.accepted = true := by
      cases kind <;> first | rfl | exact absurd h (by decide)
    constructor <;>
      simp [Attempt.waitingRows, Attempt.filledRows, Attempt.created, Attempt.row, Settled.key,
        Attempt.signalId, h, haccepted, closedFor, LogRow.orderKey, hkey]

/-- A signal that is accepted and never filled. -/
def Kind.waits (kind : Kind) : Bool := kind.accepted && !kind.filled

/-- An accepted signal ends in one of four ways. -/
theorem accepted_split (kind : Kind) :
    (if decide (kind.closeReason = "SL_HIT") = true then 1 else 0) +
      (if decide (kind.closeReason = "TP_HIT") = true then 1 else 0) +
      (if decide (kind.closeReason = "TIMEOUT") = true then 1 else 0) +
      (if kind.waits = true then 1 else 0) = if kind.accepted = true then 1 else 0 := by
  cases kind <;> decide

theorem accepted_eq (xs : List Settled) :
    (xs.countP fun x => x.kind.closeReason = "SL_HIT") +
      (xs.countP fun x => x.kind.closeReason = "TP_HIT") +
      (xs.countP fun x => x.kind.closeReason = "TIMEOUT") + (xs.countP fun x => x.kind.waits) =
        xs.countP fun x => x.kind.accepted := by
  induction xs with
  | nil => rfl
  | cons x rest ih =>
    have hsplit := accepted_split x.kind
    simp only [List.countP_cons]
    omega

section Derived

variable {xs : List Settled}

theorem lifecycleOf_eq (xs : List Settled) :
    lifecycleOf (xs.map Settled.visit) = xs.flatMap fun x => x.visit.lifecycle := by
  unfold lifecycleOf
  rw [List.flatMap_map]

theorem mem_rows {α : Type} {q : LogRow → Bool} {g : LogRow → α} {b : α} :
    b ∈ ((lifecycleOf (xs.map Settled.visit)).filter q).map g ↔
      ∃ x ∈ xs, b ∈ (x.visit.lifecycle.filter q).map g := by
  rw [lifecycleOf_eq, List.filter_flatMap, List.map_flatMap, List.mem_flatMap]

/-- What `_derive_backtest_counts` counts: one candidate for each signal. -/
theorem derived_eq (hkeys : (xs.map Settled.key).Nodup) :
    let counts := deriveBacktestCounts (lifecycleOf (xs.map Settled.visit))
    counts.totalCandidates = xs.length ∧
      (counts.rejectedCount = xs.countP fun x => !x.kind.accepted) ∧
      counts.slHits + counts.tpHits + counts.openAtEndOrders + counts.notTriggeredOrders =
        xs.countP fun x => x.kind.accepted := by
  have hclosed : ∀ reason ∈ ["SL_HIT", "TP_HIT", "TIMEOUT"],
      closedFor reason (lifecycleOf (xs.map Settled.visit)) =
        xs.countP fun x => x.kind.closeReason = reason := by
    intro reason hreason
    have hblocks := countP_flatMap_mul (l := xs) (n := 1)
      (p := fun x => decide (x.kind.closeReason = reason)) fun x _ => by
        simp only [decide_eq_true_iff]
        exact (logged x).closed reason hreason
    rw [Nat.one_mul, ← lifecycleOf_eq] at hblocks
    exact hblocks
  have hinj : ∀ x ∈ xs, ∀ y ∈ xs, x.key = y.key → x = y := List.inj_on_of_nodup_map hkeys
  refine ⟨?_, ?_, ?_⟩
  · have hids : (deriveBacktestCounts (lifecycleOf (xs.map Settled.visit))).totalCandidates =
        xs.countP fun _ => true := by
      refine length_of_keys hkeys (List.nodup_dedup _) fun key => ?_
      simp only [List.mem_dedup, mem_rows, (logged _).ids, true_and]
    rw [hids, List.countP_true]
  · have hblocks := countP_flatMap_mul (l := xs) (n := 1) fun x _ => (logged x).rejected
    rw [Nat.one_mul, ← lifecycleOf_eq] at hblocks
    exact hblocks
  · have hpairs : (xs.map fun x => (x.key, x.key)).Nodup := by
      refine List.pairwise_map.mpr ((List.pairwise_map.mp hkeys).imp fun hne heq => hne ?_)
      exact congrArg Prod.fst heq
    have hwaits : (deriveBacktestCounts (lifecycleOf (xs.map Settled.visit))).notTriggeredOrders =
        xs.countP fun x => x.kind.waits := by
      refine length_of_keys hpairs ((List.nodup_dedup _).filter _) fun key => ?_
      simp only [List.mem_filter, orderKeys, List.mem_dedup, mem_rows, (logged _).waiting,
        (logged _).triggered, decide_eq_true_iff]
      constructor
      · rintro ⟨⟨x, hx, haccepted, rfl⟩, hnot, -⟩
        refine ⟨x, hx, ?_, rfl⟩
        unfold Kind.waits
        rw [haccepted, Bool.true_and, Bool.not_eq_true']
        exact Bool.eq_false_iff.mpr fun hfilled => hnot ⟨x, hx, hfilled, rfl⟩
      · rintro ⟨x, hx, hwaits, rfl⟩
        unfold Kind.waits at hwaits
        rw [Bool.and_eq_true, Bool.not_eq_true'] at hwaits
        have hunfilled : ∀ y ∈ xs, x.key = y.key → y.kind.filled = true → False := by
          intro y hy hsame hfilled
          rw [← hinj x hx y hy hsame, hwaits.2] at hfilled
          cases hfilled
        refine ⟨⟨x, hx, hwaits.1, rfl⟩, ?_, ?_⟩
        · rintro ⟨y, hy, hfilled, heq⟩
          exact hunfilled y hy (congrArg Prod.fst heq) hfilled
        · rintro ⟨y, hy, hplaced⟩
          obtain ⟨hfilled, hkey⟩ := (logged y).placed _ hplaced
          exact hunfilled y hy hkey hfilled
    show closedFor "SL_HIT" _ + closedFor "TP_HIT" _ + closedFor "TIMEOUT" _ + _ = _
    rw [hwaits, hclosed _ (by decide), hclosed _ (by decide), hclosed _ (by decide), accepted_eq]

end Derived

/-! ## 8. What the second summary counts -/

/-- A row keeps its canonical state, unless that is a symbol reject of another stage. -/
theorem persistRow_of_state {r : LogRow} {state : String}
    (hstate : lifecycleState r.statusAfter = .ok state)
    (hsymbol : state = "SYMBOL_REJECTED" → isPreSignalSymbolReject r state = true) :
    persistRow r = .ok
      (if state ∈ ["SIGNAL_REJECTED", "ORDER_REJECTED", "SYMBOL_REJECTED"] then
        r.stored (lifecycleSignalId r state) state "REJECTED"
          (if upper (PyText.strip r.rejectReason) = "" then "REJECT_REASON_UNAVAILABLE"
          else upper (PyText.strip r.rejectReason))
      else if state = "SIGNAL_CREATED" then
        r.stored (lifecycleSignalId r state) state "PENDING" ""
      else r.stored (lifecycleSignalId r state) state "ACCEPTED" r.rejectReason) := by
  have hkeep : ¬ (state = "SYMBOL_REJECTED" ∧ isPreSignalSymbolReject r state = false) := by
    rintro ⟨h, hnot⟩
    rw [hsymbol h] at hnot
    cases hnot
  unfold persistRow
  rw [hstate]
  show (if (if state = "SYMBOL_REJECTED" ∧ isPreSignalSymbolReject r state = false then
    "SIGNAL_REJECTED" else state) ∈ _ then _ else _) = _
  simp only [if_neg hkeep]
  split
  · rfl
  · split
    · rfl
    · rfl

/-- `signal_created_rows`. -/
def PersistedRow.isCreation (r : PersistedRow) : Bool :=
  upper (PyText.strip r.lifecycleState) = "SIGNAL_CREATED"

theorem normalizedDecision_of {r : PersistedRow} {decision : String} (h : r.decision = decision)
    (hword : decision ∈ ["ACCEPTED", "PENDING", "REJECTED"]) : normalizedDecision r = decision := by
  have hupper : ∀ word ∈ ["ACCEPTED", "PENDING", "REJECTED"],
      upper (PyText.strip word) = word ∧ word ≠ "" := by decide +kernel
  unfold normalizedDecision
  rw [h, (hupper _ hword).1]
  exact if_neg (hupper _ hword).2

theorem rejection_of_decision {r : PersistedRow} (h : r.decision = "REJECTED") :
    r.isRejection = true := by
  unfold PersistedRow.isRejection
  rw [normalizedDecision_of h (by decide)]
  exact decide_eq_true (.inl (by decide))

/-- A row that was written without a reason has one. -/
theorem rejection_of_no_reason (r : LogRow) (signalId state decision : String) :
    (r.stored signalId state decision "").isRejection = true := by
  unfold PersistedRow.isRejection
  refine decide_eq_true (.inr ?_)
  show PyText.strip (canonicalRejectReason (some "")) ≠ ""
  decide +kernel

/-- The rows that some records leave: every one a rejection, and so many creations. -/
def Leaves (creations : ℕ) (records : List LogRow) : Prop :=
  ∃ rows, records.mapM persistRow = .ok rows ∧ (∀ r ∈ rows, r.isRejection = true) ∧
    rows.countP PersistedRow.isCreation = creations

theorem leaves_nil : Leaves 0 [] := ⟨[], rfl, fun _ hr => absurd hr List.not_mem_nil, rfl⟩

theorem leaves_cons {creations : ℕ} {record : LogRow} {records : List LogRow} {row : PersistedRow}
    (hrow : persistRow record = .ok row) (hrejection : row.isRejection = true)
    (h : Leaves creations records) :
    Leaves (creations + if row.isCreation = true then 1 else 0) (record :: records) := by
  obtain ⟨rows, hrows, hrejections, hcreations⟩ := h
  refine ⟨row :: rows, mapM_cons_ok_iff.mpr ⟨row, rows, hrow, hrows, rfl⟩, ?_, ?_⟩
  · exact List.forall_mem_cons.mpr ⟨hrejection, hrejections⟩
  · rw [List.countP_cons, hcreations]

theorem leaves_created {creations : ℕ} {record : LogRow} {records : List LogRow}
    (hstatus : record.statusAfter = "SIGNAL_CREATED") (h : Leaves creations records) :
    Leaves (creations + 1) (record :: records) := by
  have hstate : lifecycleState record.statusAfter = .ok "SIGNAL_CREATED" := by
    rw [hstatus]
    decide +kernel
  have hrow := persistRow_of_state hstate fun h => absurd h (by decide)
  rw [if_neg (by decide), if_pos rfl] at hrow
  have hcreation : (record.stored (lifecycleSignalId record "SIGNAL_CREATED") "SIGNAL_CREATED"
      "PENDING" "").isCreation = true := by
    show decide (upper (PyText.strip "SIGNAL_CREATED") = "SIGNAL_CREATED") = true
    decide +kernel
  have hleaves := leaves_cons hrow (rejection_of_no_reason _ _ _ _) h
  rwa [if_pos hcreation] at hleaves

/-- The statuses of a simulation after its first row. -/
def progress : List String :=
  ["SIGNAL_ACCEPTED", "WAITING_ENTRY_ZONE", "ENTRY_TRIGGERED", "ENTRY_TIMEOUT", "ORDER_PLACED",
    "POSITION_OPENED", "POSITION_CLOSED"]

/-- Their canonical states are neither a creation nor a rejection. -/
theorem lifecycleState_progress : ∀ status ∈ progress, ∃ state ∈
    ["WAITING_ENTRY_ZONE", "ENTRY_TRIGGERED", "ENTRY_TIMEOUT", "ORDER_PLACED", "POSITION_OPENED",
      "POSITION_CLOSED"],
    lifecycleState status = .ok state ∧ upper (PyText.strip state) ≠ "SIGNAL_CREATED" ∧
      state ∉ ["SIGNAL_REJECTED", "ORDER_REJECTED", "SYMBOL_REJECTED"] ∧
      state ≠ "SYMBOL_REJECTED" ∧ state ≠ "SIGNAL_CREATED" := by
  decide +kernel

theorem leaves_progress {records : List LogRow}
    (h : ∀ r ∈ records, r.statusAfter ∈ progress ∧ r.rejectReason = "") : Leaves 0 records := by
  induction records with
  | nil => exact leaves_nil
  | cons r rest ih =>
    rw [List.forall_mem_cons] at h
    obtain ⟨⟨hstatus, hreason⟩, hrest⟩ := h
    obtain ⟨state, _, hstate, hupper, hrejected, hsymbol, hcreated⟩ :=
      lifecycleState_progress _ hstatus
    have hrow := persistRow_of_state hstate fun h => absurd h hsymbol
    rw [if_neg hrejected, if_neg hcreated, hreason] at hrow
    have hother : ¬ (r.stored (lifecycleSignalId r state) state "ACCEPTED" "").isCreation = true :=
      fun hcreation => hupper (of_decide_eq_true hcreation)
    have hleaves := leaves_cons hrow (rejection_of_no_reason _ _ _ _) (ih hrest)
    rwa [if_neg hother] at hleaves

theorem leaves_refused {record : LogRow} (hstatus : record.statusAfter = "SIGNAL_REJECTED" ∨
    record.statusAfter = "ORDER_REJECTED") : Leaves 0 [record] := by
  have hstate : lifecycleState record.statusAfter = .ok record.statusAfter := by
    rcases hstatus with hstatus | hstatus
    all_goals
      rw [hstatus]
      decide +kernel
  have hrejected : record.statusAfter ∈ ["SIGNAL_REJECTED", "ORDER_REJECTED", "SYMBOL_REJECTED"] ∧
      record.statusAfter ≠ "SYMBOL_REJECTED" ∧
      upper (PyText.strip record.statusAfter) ≠ "SIGNAL_CREATED" := by
    rcases hstatus with hstatus | hstatus
    all_goals
      rw [hstatus]
      decide +kernel
  have hrow := persistRow_of_state hstate fun h => absurd h hrejected.2.1
  rw [if_pos hrejected.1] at hrow
  have hother : ∀ signalId reason,
      ¬ (record.stored signalId record.statusAfter "REJECTED" reason).isCreation = true :=
    fun _ _ hcreation => hrejected.2.2 (of_decide_eq_true hcreation)
  have hleaves := leaves_cons hrow (rejection_of_decision rfl) leaves_nil
  rwa [if_neg (hother _ _)] at hleaves

theorem persistRow_filtered (a : Attempt) (reason : String) :
    ∃ row, persistRow (a.filterRow reason) = .ok row ∧ row.decision = "REJECTED" ∧
      row.isCreation = false := by
  have hstate : lifecycleState (a.filterRow reason).statusAfter = .ok "SYMBOL_REJECTED" := by
    show lifecycleState "SYMBOL_REJECTED" = _
    decide +kernel
  have hselector : isPreSignalSymbolReject (a.filterRow reason) "SYMBOL_REJECTED" = true := by
    show decide (upper (PyText.strip "SYMBOL_REJECTED") = "SYMBOL_REJECTED" ∧
      upper (PyText.strip "NONE") ∈ ["", "NONE"] ∧ "SYMBOL_SELECTOR" = "SYMBOL_SELECTOR") = true
    decide +kernel
  have hrow := persistRow_of_state hstate fun _ => hselector
  rw [if_pos (by decide)] at hrow
  refine ⟨_, hrow, rfl, ?_⟩
  show decide (upper (PyText.strip "SYMBOL_REJECTED") = "SIGNAL_CREATED") = false
  decide +kernel

/-- The created records of a signal. -/
def Kind.creations : Kind → ℕ
  | .filtered => 0
  | .refused => 1
  | _ => 2

/-- What the rows of a visit say to `build_backtest_quality_summary`. -/
structure Kept (x : Settled) (rows : List PersistedRow) : Prop where
  persisted : x.visit.lifecycle.mapM persistRow = .ok rows
  rejections : ∀ r ∈ rows, r.isRejection = true
  created : rows.countP PersistedRow.isCreation = x.kind.creations
  filtered : x.kind = .filtered → rows.length = 1 ∧ ∀ r ∈ rows, normalizedDecision r = "REJECTED"

/-- The rows of a visit that is not filtered. -/
theorem kept_of_leaves {x : Settled} (h : Leaves x.kind.creations x.visit.lifecycle)
    (hkind : x.kind ≠ .filtered) : ∃ rows, Kept x rows := by
  obtain ⟨rows, hrows, hrejections, hcreations⟩ := h
  exact ⟨rows, hrows, hrejections, hcreations, fun hfiltered => absurd hfiltered hkind⟩

theorem exists_kept (x : Settled) : ∃ rows, Kept x rows := by
  obtain ⟨a, visit, kind, shape⟩ := x
  cases shape with
  | filtered reason row =>
    obtain ⟨stored, hrow, hdecision, hother⟩ := persistRow_filtered a reason
    refine ⟨[stored], mapM_cons_ok_iff.mpr ⟨_, [], hrow, rfl, rfl⟩, ?_, ?_, fun _ => ⟨rfl, ?_⟩⟩
    · intro r hr
      rw [List.mem_singleton.mp hr]
      exact rejection_of_decision hdecision
    · rw [List.countP_cons, hother]
      rfl
    · intro r hr
      rw [List.mem_singleton.mp hr]
      exact normalizedDecision_of hdecision (by decide)
  | refused flags state reason rowFlags h =>
    exact kept_of_leaves (leaves_created rfl (leaves_refused h)) nofun
  | unfilled flags candidate =>
    have hprogress : Leaves 0 [a.row "SIGNAL_CREATED" "SIGNAL_ACCEPTED" "" "",
        a.row "SIGNAL_ACCEPTED" "WAITING_ENTRY_ZONE" "" "",
        a.row "WAITING_ENTRY_ZONE" "ENTRY_TIMEOUT" "" ""] :=
      leaves_progress (by simp [Attempt.row, progress])
    exact kept_of_leaves (leaves_created rfl (leaves_created rfl hprogress)) nofun
  | filled kind h flags orderId closedTs candidate =>
    have hprogress : Leaves 0 (a.row "SIGNAL_CREATED" "SIGNAL_ACCEPTED" "" "" ::
        a.row "SIGNAL_ACCEPTED" "WAITING_ENTRY_ZONE" "" "" ::
          a.filledRows orderId kind.closeReason closedTs) :=
      leaves_progress (by simp [Attempt.row, Attempt.filledRows, progress])
    have hleaves : Leaves 2 (a.waitingRows flags ++
      a.filledRows orderId kind.closeReason closedTs) :=
      leaves_created rfl (leaves_created rfl hprogress)
    have hcreations : kind.creations = 2 ∧ kind ≠ .filtered := by
      cases kind <;> first | exact ⟨rfl, nofun⟩ | exact absurd h (by decide)
    refine kept_of_leaves ?_ hcreations.2
    rw [hcreations.1]
    exact hleaves

/-! ## 9. The second summary of a run -/

theorem map_countIn_of_not_mem {out : List (String × ℕ)} {key : String}
    (h : key ∉ out.map Prod.fst) :
    (out.map fun e => if e.1 = key then (key, e.2 + 1) else e) = out := by
  conv_rhs => rw [← List.map_id out]
  refine List.map_congr_left fun e he => if_neg fun heq => h ?_
  exact heq ▸ List.mem_map_of_mem he

theorem sum_map_countIn {out : List (String × ℕ)} {key : String} (hnodup : (out.map Prod.fst).Nodup)
    (h : key ∈ out.map Prod.fst) :
    ((out.map fun e => if e.1 = key then (key, e.2 + 1) else e).map Prod.snd).sum =
      (out.map Prod.snd).sum + 1 := by
  induction out with
  | nil => exact absurd h List.not_mem_nil
  | cons e rest ih =>
    rw [List.map_cons, List.nodup_cons] at hnodup
    by_cases he : e.1 = key
    · have hrest : key ∉ rest.map Prod.fst := he ▸ hnodup.1
      rw [List.map_cons, map_countIn_of_not_mem hrest, if_pos he, List.map_cons, List.map_cons,
        List.sum_cons, List.sum_cons]
      omega
    · have hrest : key ∈ rest.map Prod.fst :=
        (List.mem_cons.mp h).resolve_left fun heq => he heq.symm
      have hsum := ih hnodup.2 hrest
      rw [List.map_cons, if_neg he, List.map_cons, List.map_cons, List.sum_cons,
        List.sum_cons, hsum]
      omega

/-- A key counts once more. -/
theorem countIn_spec {out : List (String × ℕ)} (hnodup : (out.map Prod.fst).Nodup) (key : String) :
    ((countIn out key).map Prod.fst).Nodup ∧
      ((countIn out key).map Prod.snd).sum = (out.map Prod.snd).sum + 1 := by
  unfold countIn
  split
  · rename_i h
    refine ⟨?_, sum_map_countIn hnodup h⟩
    have hkeys : (out.map fun e => if e.1 = key then (key, e.2 + 1) else e).map Prod.fst =
        out.map Prod.fst := by
      rw [List.map_map]
      refine List.map_congr_left fun e _ => ?_
      show (if e.1 = key then (key, e.2 + 1) else e).1 = e.1
      split
      · rename_i he
        exact he.symm
      · rfl
    rw [hkeys]
    exact hnodup
  · rename_i h
    constructor
    · rw [List.map_append]
      refine List.nodup_append.mpr ⟨hnodup, List.nodup_singleton _, fun a ha b hb heq => h ?_⟩
      rw [List.map_cons, List.map_nil, List.mem_singleton] at hb
      rw [heq, hb] at ha
      exact ha
    · rw [List.map_append, List.sum_append]
      rfl

/-- `sum(rejection_distribution.values())`. -/
theorem sum_distribution (values : List String) :
    ((distribution values).map Prod.snd).sum = values.length := by
  have hrun : ∀ (values : List String) (out : List (String × ℕ)), (out.map Prod.fst).Nodup →
      ((values.foldl countIn out).map Prod.snd).sum = (out.map Prod.snd).sum + values.length := by
    intro values
    induction values with
    | nil => exact fun out _ => rfl
    | cons key rest ih =>
      intro out hnodup
      obtain ⟨hnext, hsum⟩ := countIn_spec hnodup key
      rw [List.foldl_cons, ih _ hnext, hsum, List.length_cons]
      omega
  have hempty := hrun values [] List.nodup_nil
  rw [List.map_nil, List.sum_nil, Nat.zero_add] at hempty
  exact hempty

/-- With creations that are all rejections, nothing is accepted. -/
theorem quality_of_creations {rows : List PersistedRow}
    (h : rows.filter PersistedRow.isCreation ≠ [])
    (hrejections : ∀ r ∈ rows, r.isRejection = true) (canonical : List RejectionRow) :
    let quality := buildBacktestQualitySummary rows canonical
    quality.acceptedCount = 0 ∧
      quality.totalCandidates = max (rows.countP PersistedRow.isCreation)
        (quality.acceptedCount + quality.rejectedCount) := by
  have hcreated : (rows.filter fun r => upper (PyText.strip r.lifecycleState) = "SIGNAL_CREATED") =
      rows.filter PersistedRow.isCreation := rfl
  simp only [buildBacktestQualitySummary, hcreated, if_neg h, ← List.countP_eq_length_filter]
  refine ⟨?_, trivial⟩
  rw [List.countP_eq_zero]
  intro r hr
  rw [hrejections r (List.mem_of_mem_filter hr)]
  simp

/-- Without creations, only accepted decisions count. -/
theorem quality_of_none {rows : List PersistedRow} (h : rows.filter PersistedRow.isCreation = [])
    (hrejected : ∀ r ∈ rows, normalizedDecision r = "REJECTED") (canonical : List RejectionRow) :
    let quality := buildBacktestQualitySummary rows canonical
    quality.acceptedCount = 0 ∧
      quality.totalCandidates = max rows.length
        (quality.acceptedCount + quality.rejectedCount) := by
  have hcreated : (rows.filter fun r => upper (PyText.strip r.lifecycleState) = "SIGNAL_CREATED") =
      rows.filter PersistedRow.isCreation := rfl
  simp only [buildBacktestQualitySummary, hcreated, if_pos h]
  refine ⟨?_, trivial⟩
  rw [List.length_eq_zero_iff, List.filter_eq_nil_iff]
  intro r hr
  rw [decide_eq_true_iff, hrejected r hr]
  exact fun haccepted => absurd haccepted.1 (by decide)

section Quality

variable {xs : List Settled} {rows : Settled → List PersistedRow}

/-- The created records of a run: one for each refused signal, two for each accepted one. -/
theorem sum_creations (xs : List Settled) :
    (xs.map fun x => x.kind.creations).sum =
      2 * (xs.countP fun x => x.kind.accepted) + xs.countP fun x => x.kind = .refused := by
  induction xs with
  | nil => rfl
  | cons x rest ih =>
    have hkind : x.kind.creations = 2 * (if x.kind.accepted = true then 1 else 0) +
        if decide (x.kind = .refused) = true then 1 else 0 := by
      cases x.kind <;> rfl
    rw [List.map_cons, List.sum_cons, ih, hkind, List.countP_cons, List.countP_cons]
    omega

theorem length_kinds (xs : List Settled) :
    (xs.countP fun x => !x.kind.accepted) =
      (xs.countP fun x => x.kind = .refused) + xs.countP fun x => x.kind = .filtered := by
  induction xs with
  | nil => rfl
  | cons x rest ih =>
    have hkind : (if (!x.kind.accepted) = true then 1 else 0) =
        (if decide (x.kind = .refused) = true then 1 else 0) +
          if decide (x.kind = .filtered) = true then 1 else 0 := by
      cases x.kind <;> rfl
    rw [List.countP_cons, List.countP_cons, List.countP_cons, ih, hkind]
    omega

theorem rejectedOf_length (xs : List Settled) :
    (rejectedOf (xs.map Settled.visit)).length = xs.countP fun x => !x.kind.accepted := by
  have hblocks := countP_flatMap_mul (l := xs) (f := fun x => x.visit.rejected) (q := fun _ => true)
    (n := 1) fun x _ => by
      rw [List.countP_true]
      exact (logged x).rejections
  rw [Nat.one_mul, List.countP_true] at hblocks
  unfold rejectedOf
  rw [List.flatMap_map]
  exact hblocks

theorem candidatesOf_length (xs : List Settled) :
    (candidatesOf (xs.map Settled.visit)).length = xs.countP fun x => x.kind.accepted := by
  unfold candidatesOf
  rw [List.filterMap_map, List.length_filterMap_eq_countP]
  refine List.countP_congr fun x _ => ?_
  exact iff_of_eq (congrArg (· = true) (logged x).candidate)

/-- The rows of a run before those of one key are merged. -/
theorem countP_creations (hkept : ∀ x ∈ xs, Kept x (rows x)) :
    (xs.flatMap rows).countP PersistedRow.isCreation =
      2 * (xs.countP fun x => x.kind.accepted) + xs.countP fun x => x.kind = .refused := by
  rw [List.countP_flatMap, ← sum_creations]
  exact congrArg List.sum (List.map_congr_left fun x hx => (hkept x hx).created)

/-- A run of symbol rejects alone has one row for each. -/
theorem only_filtered (hkept : ∀ x ∈ xs, Kept x (rows x)) (hall : ∀ x ∈ xs, x.kind = .filtered) :
    (xs.flatMap rows).length = (xs.countP fun x => x.kind = .filtered) ∧
      ∀ r ∈ xs.flatMap rows, normalizedDecision r = "REJECTED" := by
  constructor
  · have hblocks := countP_flatMap_mul (l := xs) (f := rows) (q := fun _ => true) (n := 1)
      (p := fun x => x.kind = .filtered) fun x hx => by
        rw [List.countP_true, ((hkept x hx).filtered (hall x hx)).1, hall x hx]
        rfl
    rw [Nat.one_mul, List.countP_true] at hblocks
    exact hblocks
  · intro r hr
    obtain ⟨x, hx, hr⟩ := List.mem_flatMap.mp hr
    exact ((hkept x hx).filtered (hall x hx)).2 r hr

theorem isCreation_of_key {r b : PersistedRow} (h : b.key = r.key) :
    b.isCreation = r.isCreation := by
  unfold PersistedRow.key at h
  have hstate : b.lifecycleState = r.lifecycleState := (Prod.mk.inj (Prod.mk.inj h).2).2
  unfold PersistedRow.isCreation
  rw [hstate]

/-- A table without creations is that of a run of symbol rejects alone. -/
theorem filtered_of_no_creation (hkept : ∀ x ∈ xs, Kept x (rows x))
    (hnone : (upsertAll PersistedRow.key (xs.flatMap rows)).filter PersistedRow.isCreation = []) :
    ∀ x ∈ xs, x.kind = .filtered := by
  have hzero : (xs.flatMap rows).countP PersistedRow.isCreation = 0 := by
    rw [List.countP_eq_zero]
    intro r hr hcreation
    obtain ⟨b, hb, hkey⟩ : ∃ b ∈ upsertAll PersistedRow.key (xs.flatMap rows), b.key = r.key :=
      exists_upsertAll hr
    exact List.filter_eq_nil_iff.mp hnone b hb ((isCreation_of_key hkey).trans hcreation)
  rw [countP_creations hkept] at hzero
  have haccepted : (xs.countP fun x => x.kind.accepted) = 0 := by omega
  have hrefused : (xs.countP fun x => x.kind = .refused) = 0 := by omega
  rw [List.countP_eq_zero] at haccepted hrefused
  intro x hx
  have hnot := haccepted x hx
  have hother := hrefused x hx
  cases hkind : x.kind <;> rw [hkind] at hnot hother <;> first | rfl | contradiction

/-- What `build_backtest_quality_summary` counts: no accepted signal, and every rejection. -/
theorem quality_eq (hkept : ∀ x ∈ xs, Kept x (rows x)) :
    let quality := buildBacktestQualitySummary (upsertAll PersistedRow.key (xs.flatMap rows))
      (rejectedOf (xs.map Settled.visit))
    quality.acceptedCount = 0 ∧ (quality.rejectedCount = xs.countP fun x => !x.kind.accepted) ∧
      ((xs.countP fun x => x.kind.accepted) = 0 →
        quality.acceptedCount + quality.rejectedCount = quality.totalCandidates) := by
  have hrejected : (buildBacktestQualitySummary (upsertAll PersistedRow.key (xs.flatMap rows))
      (rejectedOf (xs.map Settled.visit))).rejectedCount = xs.countP fun x => !x.kind.accepted := by
    show ((distribution _).map Prod.snd).sum = _
    rw [sum_distribution, List.length_map, rejectedOf_length]
  have hkinds := length_kinds xs
  by_cases hnone : (upsertAll PersistedRow.key (xs.flatMap rows)).filter
    PersistedRow.isCreation = []
  · have hfiltered := filtered_of_no_creation hkept hnone
    obtain ⟨hlength, hdecisions⟩ := only_filtered hkept hfiltered
    obtain ⟨haccepted, htotal⟩ := quality_of_none hnone
      (fun r hr => hdecisions r (mem_of_mem_upsertAll hr)) (rejectedOf (xs.map Settled.visit))
    have hmerged : (upsertAll PersistedRow.key (xs.flatMap rows)).length ≤
        (xs.flatMap rows).length := by
      simpa using countP_upsertAll_le (fun _ => true) (xs.flatMap rows)
    refine ⟨haccepted, hrejected, fun _ => ?_⟩
    rw [htotal, haccepted, hrejected]
    omega
  · have hrejections : ∀ r ∈ upsertAll PersistedRow.key (xs.flatMap rows),
      r.isRejection = true := by
      intro r hr
      obtain ⟨x, hx, hr⟩ := List.mem_flatMap.mp (mem_of_mem_upsertAll hr)
      exact (hkept x hx).rejections r hr
    obtain ⟨haccepted, htotal⟩ := quality_of_creations hnone hrejections
      (rejectedOf (xs.map Settled.visit))
    have hmerged : (upsertAll PersistedRow.key (xs.flatMap rows)).countP PersistedRow.isCreation ≤
        (xs.flatMap rows).countP PersistedRow.isCreation :=
      countP_upsertAll_le _ _
    rw [countP_creations hkept] at hmerged
    refine ⟨haccepted, hrejected, fun hzero => ?_⟩
    rw [htotal, haccepted, hrejected]
    omega

end Quality

/-! ## 10. Both summaries -/

/-- The candidate of a pass is accepted, or rescued. -/
def Setup.takes (setup : Setup) (s : State) (a : Attempt) : Verdict → Prop
  | .filtered _ => False
  | .rejected _ rescue => rescue.isSome
  | .flagged _ _ rescue => rescue.isSome
  | .executed order riskScale guardReason =>
    setup.accepts order (notionalFor setup.balance setup.riskPct riskScale order.notional)
      (s.snapshot a.symbol order.side setup.config a.candle.timestamp) = true ∧ guardReason = ""

theorem candidate_visit (setup : Setup) (orderId : CandidateOrder ℚ → String) (s : State)
    (p : Pass) :
    (setup.visit orderId s p.attempt p.flags p.verdict).candidate = none ↔
      ¬ setup.takes s p.attempt p.verdict := by
  cases p.verdict with
  | filtered reason => exact iff_of_true rfl not_false
  | rejected reason rescue =>
    cases rescue with
    | none => exact iff_of_true rfl Bool.false_ne_true
    | some rescue => exact iff_of_false (Option.some_ne_none _) fun h => h rfl
  | flagged order reason rescue =>
    cases rescue with
    | none => exact iff_of_true rfl Bool.false_ne_true
    | some rescue => exact iff_of_false (Option.some_ne_none _) fun h => h rfl
  | executed order riskScale guardReason =>
    unfold Setup.visit Setup.takes
    dsimp only
    split
    · rename_i haccepted
      split
      · rename_i hguard
        exact iff_of_false (Option.some_ne_none _) fun h => h ⟨haccepted, hguard⟩
      · rename_i hguard
        exact iff_of_true rfl fun h => hguard h.2
    · rename_i haccepted
      exact iff_of_true rfl fun h => haccepted h.1

/-- A pass without a candidate leaves the portfolio as it is. -/
theorem process_of_not_takes {setup : Setup} {s : State} {p : Pass}
    (houtcome : p.attempt.outcome = p.verdict.outcome) (h : ¬ setup.takes s p.attempt p.verdict) :
    (setup.process s p.attempt).1 = s := by
  unfold Setup.process
  rw [houtcome]
  cases hverdict : p.verdict with
  | filtered reason => rfl
  | rejected reason rescue =>
    rw [hverdict] at h
    cases rescue with
    | none => rfl
    | some rescue => exact absurd rfl h
  | flagged order reason rescue =>
    rw [hverdict] at h
    cases rescue with
    | none => rfl
    | some rescue => exact absurd rfl h
  | executed order riskScale guardReason =>
    have hnot : ¬ (setup.accepts order
        (notionalFor setup.balance setup.riskPct riskScale order.notional)
        (s.snapshot p.attempt.symbol order.side setup.config p.attempt.candle.timestamp) = true ∧
          guardReason = "") := by
      rw [hverdict] at h
      exact h
    show (if _ then _ else _ : State × Option Entry).1 = s
    rw [if_neg hnot]

/-- A run has no candidate where none is taken on the first portfolio: until then it stays. -/
theorem candidatesOf_visits {setup : Setup} (orderId : CandidateOrder ℚ → String) {s : State}
    {passes : List Pass} (houtcome : ∀ p ∈ passes, p.attempt.outcome = p.verdict.outcome) :
    candidatesOf (setup.visits orderId s passes) = [] ↔
      ∀ p ∈ passes, ¬ setup.takes s p.attempt p.verdict := by
  unfold candidatesOf
  induction passes with
  | nil => exact iff_of_true rfl fun _ hp => absurd hp List.not_mem_nil
  | cons p rest ih =>
    rw [List.forall_mem_cons] at houtcome ⊢
    unfold Setup.visits
    rw [List.filterMap_eq_nil_iff, List.forall_mem_cons, candidate_visit,
      ← List.filterMap_eq_nil_iff]
    refine and_congr_right fun hnot => ?_
    rw [process_of_not_takes houtcome.1 hnot]
    exact ih houtcome.2

theorem outcome_passes (feed : Feed) :
    ∀ p ∈ feed.passes, p.attempt.outcome = p.verdict.outcome := by
  intro p hp
  obtain ⟨s, -, hp⟩ := List.mem_flatMap.mp hp
  obtain ⟨c, -, rfl⟩ := List.mem_map.mp hp
  rfl

/-- **The summaries of a backtest count the same trades exactly where no candidate is accepted and
    none is rescued**, judged on the portfolio that the run starts with. -/
theorem summaries_agree_iff (setup : Setup) (orderId : CandidateOrder ℚ → String) (feed : Feed) :
    SummariesAgree (setup.backtest orderId feed) ↔
      ∀ p ∈ feed.passes, ¬ setup.takes (State.init setup.balance) p.attempt p.verdict := by
  rw [← candidatesOf_visits orderId (outcome_passes feed)]
  show SummariesAgree (setup.visits orderId _ _) ↔ _
  obtain ⟨xs, hvisits, hattempts⟩ :=
    settled_visits setup orderId (State.init setup.balance) feed.passes
  have hkeys := keys_nodup feed xs hattempts
  obtain ⟨htotal, hrejected, hended⟩ := derived_eq hkeys
  choose rows hkept using exists_kept
  obtain ⟨hzero, hcanonical, hsum⟩ := quality_eq fun x (_ : x ∈ xs) => hkept x
  have hpersisted : persistLifecycleRows (lifecycleOf (xs.map Settled.visit)) =
      .ok (upsertAll PersistedRow.key (xs.flatMap rows)) := by
    unfold persistLifecycleRows
    rw [lifecycleOf_eq, mapM_flatMap fun x _ => (hkept x).persisted]
    rfl
  have hlength := candidatesOf_length xs
  have hsplit := List.length_eq_countP_add_countP (fun x : Settled => x.kind.accepted) (l := xs)
  simp only [Bool.not_eq_true, Bool.decide_eq_false] at hsplit
  rw [← hvisits]
  -- an accepted signal is one candidate in the first summary and none in the second
  have haccepted : (deriveBacktestCounts (lifecycleOf (xs.map Settled.visit))).acceptedCount =
      ((xs.countP fun x => x.kind.accepted : ℕ) : ℤ) := by
    show ((deriveBacktestCounts (lifecycleOf (xs.map Settled.visit))).totalCandidates : ℤ) -
      (deriveBacktestCounts (lifecycleOf (xs.map Settled.visit))).rejectedCount = _
    rw [htotal, hrejected]
    omega
  constructor
  · rintro ⟨persisted, hok, hagree⟩
    obtain rfl := Except.ok.inj (hpersisted.symm.trans hok)
    have hsame := hagree.accepted
    rw [haccepted, hzero] at hsame
    rw [← List.length_eq_zero_iff, hlength]
    omega
  · intro hnone
    rw [hnone, List.length_nil] at hlength
    refine ⟨_, hpersisted, ?_, ?_, ?_, ?_, hsum hlength.symm⟩
    · rw [haccepted, hzero, ← hlength]
    · rw [haccepted, hnone, ← hlength]
      rfl
    · rw [haccepted]
      omega
    · rw [htotal, hrejected, haccepted]
      omega

/-- Bitcoin is bought at the third candle, and no other candle has a setup. -/
def sampleFeed : Feed where
  series := [sampleSeries "BTCUSDT"]
  symbols := by decide +kernel
  plain := by simp [sampleSeries]
  verdict _ i := if i = 2 then .executed sampleOrder 1 "" else .rejected "NO_SETUP" none
  scoreFlags _ _ := ""

/-- One accepted candidate: the first summary counts one, the second none. -/
theorem one_trade_not_counted :
    ¬ SummariesAgree (oneAtATime.backtest (fun _ => "order") sampleFeed) := by
  rintro ⟨persisted, hok, hagree⟩
  have hone : (deriveBacktestCounts (lifecycleOf
      (oneAtATime.backtest (fun _ => "order") sampleFeed))).acceptedCount = 1 := by decide +kernel
  have hnone : (persistLifecycleRows (lifecycleOf
      (oneAtATime.backtest (fun _ => "order") sampleFeed))).map (fun rows =>
        (buildBacktestQualitySummary rows (rejectedOf
          (oneAtATime.backtest (fun _ => "order") sampleFeed))).acceptedCount) = .ok 0 := by
    decide +kernel
  have hsame := hagree.accepted
  rw [hok] at hnone
  have hnone' : (buildBacktestQualitySummary persisted (rejectedOf
      (oneAtATime.backtest (fun _ => "order") sampleFeed))).acceptedCount = 0 := Except.ok.inj hnone
  rw [hone, hnone'] at hsame
  cases hsame

end AlphaForge.Backtest
