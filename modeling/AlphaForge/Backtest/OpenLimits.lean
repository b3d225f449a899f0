/-
  File:      AlphaForge/Backtest/OpenLimits.lean
  Subject:   The loop of the backtest (`main`, `process_backtest_result`) and the limits of the
             positions that it opens.

  The loop takes the symbols one after the other, and each candle of a symbol in order. An accepted
  candidate is simulated to its end at once: its position is opened and closed in the portfolio
  state before the next candle is looked at.

  * `Setup.process` -- one candle: the normal path, the rescue path, or nothing.
  * `process_spec` -- between two candles no position is open, so every snapshot is empty.
  * **`sound_iff`** -- the positions keep the limits and were accepted on what is open, exactly
    where no rescue opens one and no position is open when another one is decided.

  Given for each candle: what the symbol filter, the scan, the execution flags and the guardrail
  answer, and the pnl that `finalize` books. Numbers are exact.
-/
import AlphaForge.Backtest.FirstTouch
import AlphaForge.Backtest.PortfolioState
import AlphaForge.Lib.Timeline

namespace AlphaForge.Backtest

open AlphaForge.Lib
open AlphaForge.Portfolio (Snapshot Candidate evaluatePortfolioRisk candidateSide Admitted
  admitted_of_accepted)

/-! ## 1. The inputs -/

/-- The order of a signal, as the loop reads it. -/
structure Order where
  side : String
  entry : ℚ
  sl : ℚ
  tp : ℚ
  setupReason : String
  orderType : String
  /-- `mctx["notional"]`. -/
  notional : Option ℚ
  /-- `net_pnl_usdt` of the closing row. -/
  netPnl : Close ℚ → Scalar

/-- What the gates before the portfolio answer at a candle. -/
inductive Outcome where
  /-- Rejected without a rescue, or neither executed nor rejected. -/
  | none
  /-- Rejected and rescued, with the size multiplier of the rescue. -/
  | rescued (order : Order) (multiplier : ℚ)
  /-- Executed, with its risk scale and the reason of the guardrail, empty where it lets it pass. -/
  | executed (order : Order) (riskScale : ℚ) (guardReason : String)

/-- The candles of a symbol: a gap or a repeated candle is refused when they are loaded. -/
structure Series where
  symbol : String
  candles : List (Candle ℚ)
  increasing : candles.Pairwise fun a b => a.timestamp < b.timestamp

/-- One pass of the loop: the candle at an index of its series, and what was answered there. -/
structure Attempt where
  symbol : String
  candles : List (Candle ℚ)
  idx : ℕ
  candle : Candle ℚ
  outcome : Outcome

/-- The passes over one symbol; the first two candles are skipped. -/
def Series.attempts (s : Series) (outcome : String → ℕ → Outcome) : List Attempt :=
  (s.candles.zipIdx.drop 2).map fun c =>
    { symbol := s.symbol, candles := s.candles, idx := c.2, candle := c.1,
      outcome := outcome s.symbol c.2 }

/-- What `main` runs on: the symbols are the keys of a dictionary. -/
structure Inputs where
  series : List Series
  symbols : (series.map (·.symbol)).Nodup
  outcome : String → ℕ → Outcome

/-- The passes of the loop. -/
def Inputs.attempts (b : Inputs) : List Attempt := b.series.flatMap fun s => s.attempts b.outcome

/-- The arguments of `main`. -/
structure Setup where
  balance : ℚ
  riskPct : ℚ
  config : BacktestConfig
  /-- `uuid5` of the text of symbol, timestamp and side. -/
  positionId : String → ℤ → String → String

/-! ## 2. The loop -/

/-- `notional_for`, with the projection of `scale_candidate_exposure`. -/
def notionalFor (balance riskPct riskScale : ℚ) (notional : Option ℚ) : Option ℚ :=
  let base := notional.getD (balance * (riskPct / 100))
  if base ≤ 0 ∨ riskScale < 0 ∨ 1 < riskScale then none
  else if 0 < base * riskScale then some (base * riskScale) else none

/-- The candidate that is simulated. -/
def Attempt.candidate (a : Attempt) (order : Order) : CandidateOrder ℚ :=
  { timestamp := a.candle.timestamp, symbol := a.symbol, side := order.side, entry := order.entry,
    sl := order.sl, tp := order.tp, setupReason := order.setupReason, orderType := order.orderType }

/-- The candidate of `evaluate_portfolio_risk`. -/
def riskCandidate (order : Order) (notional : Option ℚ) : Candidate ℚ :=
  { entry := .number order.entry
    notional := match notional with
      | some n => .number n
      | none => .none
    side := some order.side }

/-- `portfolio_decision.accepted`; exact numbers raise nothing. -/
def Setup.accepts (setup : Setup) (order : Order) (notional : Option ℚ) (snap : Snapshot ℚ) :
    Bool :=
  match evaluatePortfolioRisk (riskCandidate order notional) snap setup.config.risk with
  | .ok d => d.accepted
  | .error _ => false

/-- What a row of the simulation does to the portfolio state; a rescue never cancels. -/
def Setup.applyRow (setup : Setup) (a : Attempt) (order : Order) (notional : Option ℚ)
    (rescue : Bool) (s : State) (row : LifecycleRow ℚ) : State :=
  let positionId := setup.positionId a.symbol a.candle.timestamp order.side
  let status := upper row.statusAfter
  if status = "POSITION_OPENED" then
    (s.openPosition positionId a.symbol order.side notional (some order.entry)
      row.timestamp).recordTradeCount a.symbol row.timestamp
  else if status = "POSITION_CLOSED" then
    match row.close with
    | some close => s.closePosition positionId row.timestamp (order.netPnl close) close.closeReason
    | none => s
  else if status ∈ ["ENTRY_TIMEOUT", "CANCELLED", "ORDER_CANCELLED"] ∧ rescue = false then
    s.cancelPending positionId
  else s

/-- A position of the run: the order it comes from, when it was opened and closed, and the snapshot
    of the risk check, where there was one. -/
structure Entry where
  order : Order
  symbol : String
  decided : ℤ
  position : BacktestPosition
  closed : ℤ
  checked : Option (Snapshot ℚ)

/-- The position that the rows of a simulation open and close. -/
def Setup.entry (setup : Setup) (a : Attempt) (order : Order) (notional : Option ℚ)
    (checked : Option (Snapshot ℚ)) (rows : List (LifecycleRow ℚ)) : Option Entry := do
  let openedRow ← rows.find? fun row => upper row.statusAfter = "POSITION_OPENED"
  let closedRow ← rows.find? fun row => upper row.statusAfter = "POSITION_CLOSED"
  let position ← opened (setup.positionId a.symbol a.candle.timestamp order.side)
    a.symbol order.side
    notional (some order.entry) openedRow.timestamp
  return { order := order, symbol := a.symbol, decided := a.candle.timestamp, position := position,
           closed := closedRow.timestamp, checked := checked }

/-- Simulation and bookkeeping of an accepted candidate. -/
def Setup.take (setup : Setup) (a : Attempt) (order : Order) (notional : Option ℚ)
    (checked : Option (Snapshot ℚ)) (rescue : Bool) (s : State) : State × Option Entry :=
  let rows := simulateCandidate (a.candidate order) a.candles a.idx
  let positionId := setup.positionId a.symbol a.candle.timestamp order.side
  (rows.foldl (setup.applyRow a order notional rescue) (s.markPending positionId notional),
    setup.entry a order notional checked rows)

/-- `process_backtest_result`, from the point where it reaches the portfolio. -/
def Setup.process (setup : Setup) (s : State) (a : Attempt) : State × Option Entry :=
  match a.outcome with
  | .none => (s, none)
  | .rescued order multiplier =>
    let notional := notionalFor setup.balance setup.riskPct multiplier order.notional
    setup.take a order notional none true s
  | .executed order riskScale guardReason =>
    let notional := notionalFor setup.balance setup.riskPct riskScale order.notional
    let snap := s.snapshot a.symbol order.side setup.config a.candle.timestamp
    if setup.accepts order notional snap = true ∧ guardReason = "" then
      setup.take a order notional (some snap) false s
    else (s, none)

/-- The positions that the loop opens from a state on, in its order. -/
def Setup.entries (setup : Setup) : State → List Attempt → List Entry
  | _, [] => []
  | s, a :: rest =>
    let (s', e) := setup.process s a
    e.toList ++ setup.entries s' rest

/-- The positions of a backtest. -/
def Setup.run (setup : Setup) (b : Inputs) : List Entry :=
  setup.entries (State.init setup.balance) b.attempts

/-! ## 3. What the run should keep -/

def Entry.openedTs (e : Entry) : ℤ := e.position.openedTs

/-- `candidate_side`. -/
def Entry.side (e : Entry) : String := upper (if e.order.side = "" then "LONG" else e.order.side)

/-- The positions open at a time: opened at or before it and not yet closed. -/
def openAt (entries : List Entry) (t : ℤ) : List Entry :=
  livingAt Entry.openedTs Entry.closed entries t

/-- The limits, for a position and the positions that are open with it. -/
structure Within (config : BacktestConfig) (e : Entry) (live : List BacktestPosition) : Prop where
  openPositions : (live.length : ℤ) ≤ config.maxOpenPositions
  concurrentPositions : (live.length : ℤ) ≤ config.maxConcurrentPositions
  total : amountOf (fun _ => True) live ≤ config.maxNotionalExposure
  symbol : amountOf (fun p => upper p.symbol = upper e.symbol) live ≤ config.maxSymbolNotional
  group : amountOf (inGroup e.symbol e.side) live ≤ config.maxCorrelationGroupExposure
  groupCount : countOf (inGroup e.symbol e.side) live ≤ config.maxCorrelatedPositions
  side : amountOf (fun p => upper p.side = "SHORT" ↔ e.side = "SHORT") live ≤
    config.maxSameSideExposure
  net : |amountOf (fun p => upper p.side ≠ "SHORT") live -
    amountOf (fun p => upper p.side = "SHORT") live| ≤ config.maxNetExposure

/-- Every position was accepted on a snapshot of what is open at its decision, and at every time
    the open positions are within the limits. -/
structure Sound (setup : Setup) (entries : List Entry) : Prop where
  accepted : ∀ earlier e later, entries = earlier ++ e :: later →
    ∃ snap, e.checked = some snap ∧ setup.accepts e.order (some e.position.notional) snap = true ∧
      AddsUp snap e.symbol e.side ((openAt (earlier ++ later) e.decided).map (·.position))
  within : ∀ t, ∀ e ∈ openAt entries t,
    Within setup.config e ((openAt entries t).map (·.position))

/-- A rescue opens a position: it has a size and the simulation fills it. -/
def Setup.rescueOpens (setup : Setup) (a : Attempt) : Prop :=
  match a.outcome with
  | .rescued order multiplier =>
    (notionalFor setup.balance setup.riskPct multiplier order.notional).isSome ∧
      fromFill (a.candidate order) a.candles a.idx ≠ []
  | _ => False

instance (setup : Setup) : DecidablePred setup.rescueOpens := fun a => by
  unfold Setup.rescueOpens
  split <;> infer_instance

/-- The id of the position that a pass may open. -/
def Setup.idOf (setup : Setup) (a : Attempt) : String :=
  setup.positionId a.symbol a.candle.timestamp <|
    match a.outcome with
    | .none => ""
    | .rescued order _ => order.side
    | .executed order _ _ => order.side

/-! ## 4. One pass -/

section Pass

variable {setup : Setup} {a : Attempt} {order : Order} {notional : Option ℚ} {rescue : Bool}

theorem applyRow_other {row : LifecycleRow ℚ}
    (h : upper row.statusAfter ∉
      ["POSITION_OPENED", "POSITION_CLOSED", "ENTRY_TIMEOUT", "CANCELLED", "ORDER_CANCELLED"])
    (s : State) : setup.applyRow a order notional rescue s row = s := by
  simp only [List.mem_cons, List.not_mem_nil, or_false, not_or] at h
  obtain ⟨h1, h2, h3, h4, h5⟩ := h
  simp only [Setup.applyRow]
  rw [if_neg h1, if_neg h2, if_neg]
  simp [h3, h4, h5]

theorem applyRow_opened {row : LifecycleRow ℚ} (h : upper row.statusAfter = "POSITION_OPENED")
    (s : State) :
    setup.applyRow a order notional rescue s row =
      (s.openPosition (setup.positionId a.symbol a.candle.timestamp order.side) a.symbol order.side
        notional (some order.entry) row.timestamp).recordTradeCount a.symbol row.timestamp := by
  simp only [Setup.applyRow]
  rw [if_pos h]

theorem applyRow_closed {row : LifecycleRow ℚ} {close : Close ℚ}
    (h : upper row.statusAfter = "POSITION_CLOSED") (hclose : row.close = some close) (s : State) :
    setup.applyRow a order notional rescue s row =
      s.closePosition (setup.positionId a.symbol a.candle.timestamp order.side) row.timestamp
        (order.netPnl close) close.closeReason := by
  simp only [Setup.applyRow, hclose]
  rw [h, if_neg (by decide), if_pos rfl]

/-- A first close removes the position and remembers its id. -/
theorem closePosition_of_new {s : State} {positionId : String}
    (h : positionId ∉ s.closedPositionIds)
    (timestamp : ℤ) (netPnl : Scalar) (closeReason : String) :
    (s.closePosition positionId timestamp netPnl closeReason).openPositions =
        pop s.openPositions positionId ∧
      (s.closePosition positionId timestamp netPnl closeReason).closedPositionIds =
        positionId :: s.closedPositionIds := by
  simp only [State.closePosition, if_neg h]
  cases Positions.finiteNumber netPnl <;> cases s.cashEvidenceComplete <;> exact ⟨rfl, rfl⟩

/-- Without open positions, opening and closing one leaves none. -/
theorem pop_openPosition {s : State} (hidle : s.openPositions.entries = [])
    (positionId symbol side : String) (notional entryPrice : Option ℚ) (timestamp : ℤ) :
    (pop (s.openPosition positionId symbol side notional entryPrice timestamp).openPositions
      positionId).entries = [] := by
  simp only [State.openPosition]
  cases opened positionId symbol side notional entryPrice timestamp with
  | none =>
    show s.openPositions.entries.filter _ = []
    rw [hidle]
    rfl
  | some position =>
    show (assign s.openPositions.entries positionId position).filter _ = []
    rw [hidle]
    simp [assign]

theorem closedPositionIds_openPosition (s : State) (positionId symbol side : String)
    (notional entryPrice : Option ℚ) (timestamp : ℤ) :
    (s.openPosition positionId symbol side notional entryPrice timestamp).closedPositionIds =
      s.closedPositionIds := by
  simp only [State.openPosition]
  split <;> rfl

theorem idle_markPending (s : State) (positionId : String) (notional : Option ℚ) :
    (s.markPending positionId notional).openPositions = s.openPositions ∧
      (s.markPending positionId notional).closedPositionIds = s.closedPositionIds := by
  unfold State.markPending
  split
  · split <;> exact ⟨rfl, rfl⟩
  · exact ⟨rfl, rfl⟩

/-- The rows before the fill change nothing. -/
theorem foldl_created (setup : Setup) (a : Attempt) (order : Order) (notional : Option ℚ)
    (rescue : Bool) (trigger : Option ℚ) (s : State) :
    [ statusRow (a.candidate order) "NONE" "SIGNAL_CREATED" none,
      statusRow (a.candidate order) "SIGNAL_CREATED" "SIGNAL_ACCEPTED" none,
      statusRow (a.candidate order) "SIGNAL_ACCEPTED" "WAITING_ENTRY_ZONE" none,
      statusRow (a.candidate order) "WAITING_ENTRY_ZONE" "ENTRY_TRIGGERED" trigger,
      statusRow (a.candidate order) "ENTRY_TRIGGERED" "ORDER_PLACED" trigger ].foldl
      (setup.applyRow a order notional rescue) s = s ∧
    [ statusRow (a.candidate order) "NONE" "SIGNAL_CREATED" none,
      statusRow (a.candidate order) "SIGNAL_CREATED" "SIGNAL_ACCEPTED" none,
      statusRow (a.candidate order) "SIGNAL_ACCEPTED" "WAITING_ENTRY_ZONE" none ].foldl
      (setup.applyRow a order notional rescue) s = s := by
  have hother : ∀ before after trigger s, upper after ∉
      ["POSITION_OPENED", "POSITION_CLOSED", "ENTRY_TIMEOUT", "CANCELLED", "ORDER_CANCELLED"] →
      setup.applyRow a order notional rescue s
        (statusRow (a.candidate order) before after trigger) = s := by
    intro before after trigger s h
    have hstatus : upper (statusRow (a.candidate order) before after trigger).statusAfter ∉
        ["POSITION_OPENED", "POSITION_CLOSED", "ENTRY_TIMEOUT", "CANCELLED", "ORDER_CANCELLED"] := h
    exact applyRow_other hstatus s
  simp only [List.foldl_cons, List.foldl_nil]
  rw [hother "NONE" "SIGNAL_CREATED" _ _ (by decide),
    hother "SIGNAL_CREATED" "SIGNAL_ACCEPTED" _ _ (by decide),
    hother "SIGNAL_ACCEPTED" "WAITING_ENTRY_ZONE" _ _ (by decide),
    hother "WAITING_ENTRY_ZONE" "ENTRY_TRIGGERED" _ _ (by decide),
    hother "ENTRY_TRIGGERED" "ORDER_PLACED" _ _ (by decide)]
  exact ⟨rfl, rfl⟩

/-- Without open positions, the rows that open and close a position leave none. -/
theorem idle_open_close {s : State} {openedRow closedRow : LifecycleRow ℚ} {close : Close ℚ}
    (hopened : openedRow.statusAfter = "POSITION_OPENED")
    (hclosed : closedRow.statusAfter = "POSITION_CLOSED") (hclose : closedRow.close = some close)
    (hidle : s.openPositions.entries = [])
    (hnew : setup.positionId a.symbol a.candle.timestamp order.side ∉ s.closedPositionIds) :
    (setup.applyRow a order notional rescue (setup.applyRow a order notional rescue s openedRow)
        closedRow).openPositions.entries = [] ∧
      ∀ id ∈ (setup.applyRow a order notional rescue
          (setup.applyRow a order notional rescue s openedRow) closedRow).closedPositionIds,
        id ∈ s.closedPositionIds ∨ id = setup.positionId a.symbol a.candle.timestamp
          order.side := by
  rw [applyRow_closed (by rw [hclosed]; decide) hclose, applyRow_opened (by rw [hopened]; decide)]
  generalize setup.positionId a.symbol a.candle.timestamp order.side = positionId at hnew ⊢
  have hids := closedPositionIds_openPosition s positionId a.symbol order.side notional
    (some order.entry) openedRow.timestamp
  have hpop := pop_openPosition hidle positionId a.symbol order.side notional
    (some order.entry) openedRow.timestamp
  generalize s.openPosition positionId a.symbol order.side notional (some order.entry)
    openedRow.timestamp = s' at hids hpop ⊢
  have hnew' : positionId ∉ (s'.recordTradeCount a.symbol
    openedRow.timestamp).closedPositionIds := by
    show positionId ∉ s'.closedPositionIds
    rw [hids]
    exact hnew
  obtain ⟨h1, h2⟩ := closePosition_of_new hnew' closedRow.timestamp (order.netPnl close)
    close.closeReason
  rw [h1, h2]
  refine ⟨hpop, fun id hid => ?_⟩
  rcases List.mem_cons.mp hid with heq | hold
  · exact Or.inr heq
  · exact Or.inl (hids ▸ hold)

/-- **An accepted candidate leaves no position open**: what its simulation opens it closes again. -/
theorem idle_take {s : State} (hidle : s.openPositions.entries = []) (notional : Option ℚ)
    (rescue : Bool) (checked : Option (Snapshot ℚ))
    (hnew : setup.positionId a.symbol a.candle.timestamp order.side ∉ s.closedPositionIds) :
    (setup.take a order notional checked rescue s).1.openPositions.entries = [] ∧
      ∀ id ∈ (setup.take a order notional checked rescue s).1.closedPositionIds,
        id ∈ s.closedPositionIds ∨ id = setup.positionId a.symbol a.candle.timestamp
          order.side := by
  simp only [Setup.take, simulateCandidate]
  obtain ⟨hopen, hclosed⟩ := idle_markPending s
    (setup.positionId a.symbol a.candle.timestamp order.side) notional
  rw [← hopen] at hidle
  rw [← hclosed] at hnew ⊢
  generalize s.markPending _ notional = s at hidle hnew ⊢
  cases fromFill (a.candidate order) a.candles a.idx with
  | nil =>
    have hrows := (foldl_created setup a order notional rescue none s).2
    rw [List.foldl_append, hrows]
    simp only [List.foldl_cons, List.foldl_nil, Setup.applyRow, statusRow]
    rw [if_neg (by decide), if_neg (by decide)]
    split
    · exact ⟨hidle, fun id hid => Or.inl hid⟩
    · exact ⟨hidle, fun id hid => Or.inl hid⟩
  | cons fill rest =>
    have hrows := (foldl_created setup a order notional rescue (some (a.candidate order).entry) s).1
    rw [List.foldl_append]
    simp only [List.foldl_cons, List.foldl_nil] at hrows ⊢
    rw [hrows]
    exact idle_open_close rfl rfl rfl hidle hnew

/-- What a simulation opens: the rows of a filled candidate name one position. -/
theorem entry_eq (checked : Option (Snapshot ℚ)) :
    setup.entry a order notional checked (simulateCandidate (a.candidate order) a.candles a.idx) =
      match fromFill (a.candidate order) a.candles a.idx with
      | [] => none
      | fill :: rest =>
        (opened (setup.positionId a.symbol a.candle.timestamp order.side) a.symbol
          order.side notional
          (some order.entry) a.candle.timestamp).map fun position =>
            { order := order, symbol := a.symbol, decided := a.candle.timestamp,
              position := position,
              closed := (exitScan (a.candidate order) (upper order.side = "LONG")
                (a.candles.getLastD fill) (FloatNum.ofInt 0) (FloatNum.ofInt 0)
                  (fill :: rest)).closedTs,
              checked := checked } := by
  obtain ⟨h1, h2, h3, h4, h5, h6, h7, h8⟩ : upper "SIGNAL_CREATED" = "SIGNAL_CREATED" ∧
    upper "SIGNAL_ACCEPTED" = "SIGNAL_ACCEPTED" ∧
      upper "WAITING_ENTRY_ZONE" = "WAITING_ENTRY_ZONE" ∧
    upper "ENTRY_TRIGGERED" = "ENTRY_TRIGGERED" ∧ upper "ORDER_PLACED" = "ORDER_PLACED" ∧
    upper "POSITION_OPENED" = "POSITION_OPENED" ∧ upper "POSITION_CLOSED" = "POSITION_CLOSED" ∧
    upper "ENTRY_TIMEOUT" = "ENTRY_TIMEOUT" := by decide
  unfold Setup.entry simulateCandidate
  cases fromFill (a.candidate order) a.candles a.idx with
  | nil => simp [statusRow, h1, h2, h3, h8]
  | cons fill rest =>
    simp only [statusRow, List.cons_append, List.nil_append, List.find?_cons, h1, h2,
      h3, h4, h5, h6,
      h7, String.reduceEq, decide_false, decide_true]
    simp only [Attempt.candidate, Option.bind_eq_bind, Option.bind_some]
    cases opened (setup.positionId a.symbol a.candle.timestamp order.side) a.symbol
      order.side notional
      (some order.entry) a.candle.timestamp <;> rfl

theorem opened_some {positionId symbol side : String} {entryPrice : Option ℚ} {timestamp : ℤ}
    {position : BacktestPosition}
    (h : opened positionId symbol side notional entryPrice timestamp = some position) :
    notional = some position.notional ∧ position.symbol = symbol ∧ position.side = upper side ∧
      position.openedTs = timestamp := by
  unfold opened at h
  split at h
  · split at h
    · cases h
      exact ⟨rfl, rfl, rfl, rfl⟩
    · cases h
  · cases h

/-- What is recorded of a position, and what it was checked on: a snapshot without positions. -/
structure Entry.Proper (setup : Setup) (e : Entry) : Prop where
  symbol : e.position.symbol = e.symbol
  side : e.position.side = upper e.order.side
  opened : e.openedTs = e.decided
  checked : ∀ snap ∈ e.checked,
    setup.accepts e.order (some e.position.notional) snap = true ∧
      ∃ s : State, s.openPositions.entries = [] ∧
        snap = s.snapshot e.symbol e.order.side setup.config e.decided

theorem proper_take {checked : Option (Snapshot ℚ)} {e : Entry} {s₀ : State}
    (h : (setup.take a order notional checked rescue s₀).2 = some e)
    (hchecked : ∀ snap ∈ checked, setup.accepts order notional snap = true ∧
      ∃ s : State, s.openPositions.entries = [] ∧
        snap = s.snapshot a.symbol order.side setup.config a.candle.timestamp) :
    e.Proper setup ∧ e.checked = checked := by
  simp only [Setup.take, entry_eq] at h
  split at h
  · cases h
  · obtain ⟨position, hopened, rfl⟩ := Option.map_eq_some_iff.mp h
    obtain ⟨hnotional, hsymbol, hside, hts⟩ := opened_some hopened
    rw [hnotional] at hchecked
    exact ⟨⟨hsymbol, hside, hts, hchecked⟩, rfl⟩

/-- **One pass**: no position is open after it, and what it opens was checked without positions. -/
theorem process_spec {s : State} (hidle : s.openPositions.entries = [])
    (hnew : setup.idOf a ∉ s.closedPositionIds) :
    (setup.process s a).1.openPositions.entries = [] ∧
      (∀ id ∈ (setup.process s a).1.closedPositionIds,
        id ∈ s.closedPositionIds ∨ id = setup.idOf a) ∧
      ∀ e, (setup.process s a).2 = some e → e.Proper setup := by
  unfold Setup.idOf at hnew ⊢
  simp only [Setup.process]
  cases houtcome : a.outcome with
  | none => exact ⟨hidle, fun id hid => Or.inl hid, fun e he => by cases he⟩
  | rescued order multiplier =>
    rw [houtcome] at hnew
    simp only at hnew ⊢
    obtain ⟨h1, h2⟩ := idle_take hidle
      (notionalFor setup.balance setup.riskPct multiplier order.notional) true none hnew
    exact ⟨h1, h2, fun e he => (proper_take he fun snap hsnap => nomatch hsnap).1⟩
  | executed order riskScale guardReason =>
    rw [houtcome] at hnew
    simp only at hnew ⊢
    split
    · rename_i haccepts
      obtain ⟨h1, h2⟩ := idle_take hidle
        (notionalFor setup.balance setup.riskPct riskScale order.notional) false
        (some (s.snapshot a.symbol order.side setup.config a.candle.timestamp)) hnew
      refine ⟨h1, h2, fun e he => (proper_take he fun snap hsnap => ?_).1⟩
      cases hsnap
      exact ⟨haccepts.1, s, hidle, rfl⟩
    · exact ⟨hidle, fun id hid => Or.inl hid, fun e he => by cases he⟩

theorem notionalFor_pos {balance riskPct riskScale n : ℚ} {explicit : Option ℚ}
    (h : notionalFor balance riskPct riskScale explicit = some n) : 0 < n := by
  simp only [notionalFor] at h
  split at h
  · cases h
  · split at h
    · cases h
      assumption
    · cases h

/-- A pass opens a position without a check exactly where a rescue opens one. -/
theorem unchecked_process {s : State} :
    (∃ e, (setup.process s a).2 = some e ∧ e.checked = none) ↔ setup.rescueOpens a := by
  simp only [Setup.process, Setup.rescueOpens]
  cases houtcome : a.outcome with
  | none => simp
  | rescued order multiplier =>
    simp only [Setup.take, entry_eq]
    cases hfill : fromFill (a.candidate order) a.candles a.idx with
    | nil => simp
    | cons fill rest =>
      cases hnotional : notionalFor setup.balance setup.riskPct multiplier order.notional with
      | none => simp [opened]
      | some n => simp [opened, notionalFor_pos hnotional]
  | executed order riskScale guardReason =>
    simp only
    refine iff_of_false ?_ not_false
    rintro ⟨e, he, hnone⟩
    split at he
    · simp only [Setup.take, entry_eq] at he
      split at he
      · cases he
      · obtain ⟨position, _, rfl⟩ := Option.map_eq_some_iff.mp he
        cases hnone
    · cases he

end Pass

/-! ## 5. The run -/

section Run

variable {setup : Setup}

/-- Where no position is open and no id is used twice, every position of the loop was checked
    without positions. -/
theorem proper_entries {attempts : List Attempt}
    (hids : (attempts.map setup.idOf).Nodup) {s : State}
    (hidle : s.openPositions.entries = [])
    (hnew : ∀ a ∈ attempts, setup.idOf a ∉ s.closedPositionIds) :
    ∀ e ∈ setup.entries s attempts, e.Proper setup := by
  induction attempts generalizing s with
  | nil => exact fun e he => absurd he List.not_mem_nil
  | cons a rest ih =>
    obtain ⟨hfirst, hrest⟩ := List.nodup_cons.mp hids
    obtain ⟨hidle', hclosed, hproper⟩ := process_spec hidle (hnew a (by simp))
    intro e he
    rcases List.mem_append.mp he with he | he
    · exact hproper e (Option.mem_toList.mp he)
    · refine ih hrest hidle' (fun b hb hmem => ?_) e he
      rcases hclosed _ hmem with hold | heq
      · exact hnew b (List.mem_cons_of_mem a hb) hold
      · exact hfirst (heq ▸ List.mem_map_of_mem hb)

/-- A position of the loop was not checked exactly where a rescue opened one. -/
theorem unchecked_entries (attempts : List Attempt) (s : State) :
    (∃ e ∈ setup.entries s attempts, e.checked = none) ↔ ∃ a ∈ attempts, setup.rescueOpens a := by
  induction attempts generalizing s with
  | nil => simp [Setup.entries]
  | cons a rest ih =>
    have hcons : setup.entries s (a :: rest) =
        (setup.process s a).2.toList ++ setup.entries (setup.process s a).1 rest := rfl
    simp only [List.mem_cons, exists_eq_or_imp]
    rw [← ih (setup.process s a).1, ← unchecked_process (s := s), hcons]
    constructor
    · intro ⟨e, he, hnone⟩
      rcases List.mem_append.mp he with he | he
      · exact Or.inl ⟨e, Option.mem_toList.mp he, hnone⟩
      · exact Or.inr ⟨e, he, hnone⟩
    · intro h
      rcases h with ⟨e, he, hnone⟩ | ⟨e, he, hnone⟩
      · exact ⟨e, List.mem_append_left _ (Option.mem_toList.mpr he), hnone⟩
      · exact ⟨e, List.mem_append_right _ he, hnone⟩

/-- A snapshot of a state without positions adds up none. -/
theorem addsUp_nil {s : State} (hidle : s.openPositions.entries = []) (symbol side : String)
    (config : BacktestConfig) (timestamp : ℤ) :
    AddsUp (s.snapshot symbol side config timestamp) symbol
      (upper (if side = "" then "LONG" else side)) [] := by
  refine (addsUp_iff ?_ symbol side config timestamp).mpr List.nodup_nil
  unfold State.positions
  rw [hidle]
  exact List.Perm.nil

theorem candidateNotional_risk {order : Order} {n : ℚ} (hpos : 0 < n)
    (config : Portfolio.Config ℚ) :
    Portfolio.candidateNotional (riskCandidate order (some n)) config = some n := by
  have htruthy : (Portfolio.Value.number n).truthy = true := by
    show (!(n == 0)) = true
    simp [hpos.ne']
  unfold Portfolio.candidateNotional riskCandidate
  simp only [Portfolio.Value.or, htruthy, if_true, Portfolio.Value.num]

/-- An accepted notional keeps the limits of the snapshot it was accepted on. -/
theorem admitted_of_accepts {order : Order} {n : ℚ} (hpos : 0 < n) {snap : Snapshot ℚ}
    (h : setup.accepts order (some n) snap = true) :
    Admitted snap setup.config.risk (upper (if order.side = "" then "LONG" else order.side)) n := by
  unfold Setup.accepts at h
  split at h
  · rename_i d hd
    obtain ⟨x, hx, hadmitted⟩ := admitted_of_accepted hd h rfl
    rcases Portfolio.evaluate_cases hd with ⟨reason, _, hfail⟩ | ⟨_, hd'⟩
    · rw [hfail] at h
      cases h
    · rw [hd', candidateNotional_risk hpos] at hx
      cases hx
      exact hadmitted rfl
  · cases h

theorem isNumber_rat (x : ℚ) : IsNumber x := isNumber_of_finite rfl

theorem le_of_bounded {limit inc : ℚ} (h : Portfolio.Bounded (some 0) (some limit) inc) :
    inc ≤ limit := by
  have hle := h 0 rfl limit rfl (isNumber_rat _) (isNumber_rat _)
  rwa [zero_add] at hle

theorem one_le_of_bounded {limit : ℤ}
    (h : Portfolio.CountBounded (F := ℚ) (some (.int 0)) (some (.int limit))) : 1 ≤ limit := by
  obtain ⟨x, y, hx, hy, hle⟩ := h _ rfl _ rfl
  cases hx
  cases hy
  have hle' : ((0 : ℤ) : ℚ) + ((1 : ℤ) : ℚ) ≤ (limit : ℚ) := hle (isNumber_rat _) (isNumber_rat _)
  exact_mod_cast (by simpa using hle' : (1 : ℚ) ≤ (limit : ℚ))

/-- **A position that was accepted without others is within the limits, alone.** -/
theorem within_of_accepted {e : Entry} (hproper : e.Proper setup) {snap : Snapshot ℚ}
    (hsnap : e.checked = some snap) : Within setup.config e [e.position] := by
  obtain ⟨haccepts, s, hidle, rfl⟩ := hproper.checked snap hsnap
  have hnone := addsUp_nil hidle e.symbol e.order.side setup.config e.decided
  have h := admitted_of_accepts e.position.positive haccepts
  have hside : upper e.position.side = "SHORT" ↔ e.side = "SHORT" := by
    rw [hproper.side, upper_upper]
    unfold Entry.side
    split <;> simp_all
    decide
  have hcount := h.openPositions
  rw [hnone.openCount] at hcount
  have hconcurrent := h.concurrentPositions
  rw [hnone.concurrentCount] at hconcurrent
  have htotal := h.total
  rw [hnone.total] at htotal
  have hsymbol := h.symbol
  rw [hnone.ofSymbol] at hsymbol
  have hgroup := h.group
  rw [hnone.group] at hgroup
  have hgroupCount := h.correlatedPositions
  rw [hnone.groupCount] at hgroupCount
  have hown := h.ownSide
  have hnet := h.net
  rw [hnone.net] at hnet
  have hin : inGroup e.symbol e.side e.position := by
    refine ⟨by rw [hproper.symbol], ?_⟩
    rw [hproper.side, upper_upper]
    unfold Entry.side
    by_cases hempty : e.order.side = ""
    · rw [hempty]
      exact Or.inr (by decide)
    · rw [if_neg hempty]
      exact Or.inl rfl
  exact
    { openPositions := one_le_of_bounded hcount
      concurrentPositions := one_le_of_bounded hconcurrent
      total := by simpa [amountOf] using le_of_bounded htotal
      symbol := by simpa [amountOf, hproper.symbol] using le_of_bounded hsymbol
      group := by simpa [amountOf, hin] using le_of_bounded hgroup
      groupCount := by simpa [countOf, hin] using one_le_of_bounded hgroupCount
      side := by
        have hzero : Portfolio.Bounded (some 0) (some setup.config.maxSameSideExposure)
            e.position.notional := by
          unfold Snapshot.ownSide at hown
          rw [hnone.long, hnone.short] at hown
          have hown' : Portfolio.Bounded (if e.side = "SHORT" then some 0 else some 0)
              (some setup.config.maxSameSideExposure) e.position.notional := hown
          rwa [ite_self] at hown'
        simpa [amountOf, hside] using le_of_bounded hzero
      net := by
        have hle : |(0 - 0 : ℚ) + Portfolio.signedNotional e.side e.position.notional| ≤
            setup.config.maxNetExposure := hnet _ rfl _ rfl (isNumber_rat _) (isNumber_rat _)
        have hsigned : amountOf (fun p => upper p.side ≠ "SHORT") [e.position] -
            amountOf (fun p => upper p.side = "SHORT") [e.position] =
              Portfolio.signedNotional e.side e.position.notional := by
          unfold Portfolio.signedNotional
          by_cases hshort : e.side = "SHORT"
          · simp [amountOf, hside.mpr hshort, hshort]
          · simp [amountOf, mt hside.mp hshort, hshort]
        rw [hsigned]
        rwa [sub_zero, zero_add] at hle }

/-- **Positions that were each decided without others** are sound exactly where each was checked
    and none is open when another one is opened. -/
theorem sound_iff_of_proper {entries : List Entry} (hproper : ∀ e ∈ entries, e.Proper setup) :
    Sound setup entries ↔
      (∀ e ∈ entries, e.checked ≠ none) ∧ entries.Pairwise (Apart Entry.openedTs Entry.closed) := by
  constructor
  · intro hsound
    refine ⟨fun e he hnone => ?_, pairwise_apart_iff.mpr fun earlier e later hsplit => ?_⟩
    · obtain ⟨earlier, later, hsplit⟩ := List.append_of_mem he
      obtain ⟨snap, hsnap, _⟩ := hsound.accepted earlier e later hsplit
      rw [hnone] at hsnap
      cases hsnap
    · obtain ⟨snap, hsnap, _, hadds⟩ := hsound.accepted earlier e later hsplit
      have he := hproper e (by rw [hsplit]; simp)
      obtain ⟨_, s, hidle, rfl⟩ := he.checked snap hsnap
      -- the snapshot counts no position
      have hcount := hadds.openCount
      rw [(addsUp_nil hidle e.symbol e.order.side setup.config e.decided).openCount] at hcount
      simp only [Option.some.injEq, Portfolio.PyNum.int.injEq, Nat.cast_inj, List.length_nil,
        List.length_map] at hcount
      rw [he.opened]
      exact List.eq_nil_of_length_eq_zero hcount.symm
  · intro ⟨hchecked, hapart⟩
    refine ⟨fun earlier e later hsplit => ?_, fun t e he => ?_⟩
    · have he := hproper e (by rw [hsplit]; simp)
      obtain ⟨snap, hsnap⟩ := Option.ne_none_iff_exists'.mp (hchecked e (by rw [hsplit]; simp))
      obtain ⟨haccepts, s, hidle, rfl⟩ := he.checked snap hsnap
      refine ⟨_, hsnap, haccepts, ?_⟩
      have hnil := pairwise_apart_iff.mp hapart earlier e later hsplit
      rw [he.opened] at hnil
      unfold openAt
      rw [hnil]
      exact addsUp_nil hidle _ _ _ _
    · have hmem := (mem_livingAt.mp he).1
      obtain ⟨snap, hsnap⟩ := Option.ne_none_iff_exists'.mp (hchecked e hmem)
      unfold openAt at he ⊢
      rw [livingAt_of_apart hapart he]
      exact within_of_accepted (hproper e hmem) hsnap

end Run

/-! ## 6. The backtest -/

/-- A candle is looked at once: no two passes share symbol and time. -/
theorem attempts_distinct (b : Inputs) :
    b.attempts.Pairwise fun a a' =>
      ¬ (a.symbol = a'.symbol ∧ a.candle.timestamp = a'.candle.timestamp) := by
  refine List.pairwise_flatMap.mpr ⟨fun s _ => ?_, ?_⟩
  · have htimes : (s.candles.zipIdx.map Prod.fst).Pairwise fun a b => a.timestamp <
      b.timestamp := by
      rw [List.zipIdx_map_fst]
      exact s.increasing
    refine List.pairwise_map.mpr ?_
    exact ((List.pairwise_map.mp htimes).sublist (List.drop_sublist 2 _)).imp
      fun h heq => h.ne heq.2
  · refine (List.pairwise_map.mp b.symbols).imp fun hne a ha a' ha' heq => hne ?_
    obtain ⟨_, _, rfl⟩ := List.mem_map.mp ha
    obtain ⟨_, _, rfl⟩ := List.mem_map.mp ha'
    exact heq.1

/-- **The positions of a backtest were accepted on what is open and keep the limits at every time,
    exactly where no rescue opens a position and no position is open when another one is opened.**
    Position ids of different candles differ. -/
theorem sound_iff (setup : Setup) (b : Inputs)
    (hids : ∀ a ∈ b.attempts, ∀ a' ∈ b.attempts, setup.idOf a = setup.idOf a' →
      a.symbol = a'.symbol ∧ a.candle.timestamp = a'.candle.timestamp) :
    Sound setup (setup.run b) ↔
      (∀ a ∈ b.attempts, ¬ setup.rescueOpens a) ∧
        (setup.run b).Pairwise (Apart Entry.openedTs Entry.closed) := by
  have hnodup : (b.attempts.map setup.idOf).Nodup := by
    refine List.pairwise_map.mpr ?_
    refine (attempts_distinct b).imp_of_mem fun ha ha' hne heq => hne (hids _ ha _ ha' heq)
  have hproper : ∀ e ∈ setup.run b, e.Proper setup :=
    proper_entries hnodup rfl fun a _ => List.not_mem_nil
  have hunchecked : ¬ (∃ e ∈ setup.run b, e.checked = none) ↔
    ¬ ∃ a ∈ b.attempts, setup.rescueOpens a :=
    not_congr (unchecked_entries b.attempts (State.init setup.balance))
  rw [sound_iff_of_proper hproper]
  refine and_congr ?_ Iff.rfl
  simpa only [not_exists, not_and] using hunchecked

/-- One position at a time, of at most 100. -/
def oneAtATime : Setup where
  balance := 1000
  riskPct := 5
  config := ⟨1, 1, 100, 100, 1 / 10, 1 / 10, 100, 1, 10, 10, 100, 100⟩
  positionId symbol timestamp side := symbol ++ ":" ++ toString timestamp ++ ":" ++ side

/-- Candles around 100; the fourth and the last one reach 110. -/
def sampleSeries (symbol : String) : Series where
  symbol := symbol
  candles := [(60000, 101), (120000, 101), (180000, 101), (240000, 111), (300000, 101),
    (360000, 111)].map
    fun c => { timestamp := c.1, openPrice := 100, high := c.2, low := 99, close := 100,
               volume := 1 }
  increasing := by decide +kernel

/-- A long order at 100 that is closed at 110. -/
def sampleOrder : Order where
  side := "LONG"
  entry := 100
  sl := 95
  tp := 110
  setupReason := "PULLBACK"
  orderType := "LIMIT"
  notional := none
  netPnl _ := .float 5

/-- Bitcoin is bought at the third candle; what is answered for ether is given. -/
def sampleInputs (ether : ℕ → Outcome) : Inputs where
  series := [sampleSeries "BTCUSDT", sampleSeries "ETHUSDT"]
  symbols := by decide +kernel
  outcome symbol i :=
    if symbol = "ETHUSDT" then ether i else if i = 2 then .executed sampleOrder 1 "" else .none

/-- The same order at one candle. -/
def orderAt (at' : ℕ) (i : ℕ) : Outcome := if i = at' then .executed sampleOrder 1 "" else .none

/-- Ether is bought after bitcoin was sold. -/
theorem sound_sample : Sound oneAtATime (oneAtATime.run (sampleInputs (orderAt 4))) :=
  (sound_iff oneAtATime _ (by decide +kernel)).mpr ⟨by decide +kernel, by decide +kernel⟩

/-- Ether is bought while bitcoin is held: both candidates are accepted, and two positions are open
    where one is allowed. -/
theorem sound_overlapping : ¬ Sound oneAtATime (oneAtATime.run (sampleInputs (orderAt 2))) := by
  intro h
  have hcount : ((openAt (oneAtATime.run (sampleInputs (orderAt 2))) 180000).map
      (·.position)).length = 2 := by decide +kernel
  generalize hlive : openAt (oneAtATime.run (sampleInputs (orderAt 2))) 180000 = live at hcount
  match live, hlive, hcount with
  | e :: rest, hlive, hcount =>
    have hwithin := (h.within 180000 e (by rw [hlive]; simp)).openPositions
    rw [hlive, hcount] at hwithin
    exact absurd hwithin (by decide)

end AlphaForge.Backtest
