/-
  File:      AlphaForge/Backtest/EquityCurve.lean
  Subject:   The equity that the backtest reports (`build_equity_curve_metrics`), next to the one in
             its portfolio state, which the risk check of the loop reads.

  Both add up the net pnl of the closes. The state books a close when the loop reaches it, symbol by
  symbol; the report sorts the closes by time first.

  * `buildEquityCurveMetrics` -- the report; `booked_run` -- the state after a run.
  * `curve_fold` -- either one ends with the sum and the highest partial sum of what it added.
  * **`equity_agrees_iff`** -- equity, peak and drawdown are the same exactly where a close has no
    finite pnl, or the highest partial sum is the same in both orders.

  Given: as in the model of the loop. The rows that the loop itself writes (a signal is created or
  rejected) close nothing and are left out.
-/
import AlphaForge.Backtest.OpenLimits
import AlphaForge.Lib.Extended
import AlphaForge.Lib.PartialSums
import AlphaForge.Lib.Ranking
import Mathlib

namespace AlphaForge.Backtest

open AlphaForge.Lib
open AlphaForge.Positions (finiteNumber)
open AlphaForge.Portfolio (Snapshot)

/-! ## 1. The report -/

/-- The columns of `LifecycleRow` that the report reads. -/
structure RiskRow where
  timestamp : ℤ
  closedTimestamp : Option ℤ
  symbol : String
  side : String
  statusAfter : String
  rejectReason : String
  closeReason : String
  positionId : String
  netPnlUsdt : Scalar

/-- `closed_timestamp or timestamp`. -/
def RiskRow.closedAt (r : RiskRow) : ℤ :=
  match r.closedTimestamp with
  | some t => if t = 0 then r.timestamp else t
  | none => r.timestamp

/-- The row closes an accepted trade. -/
def RiskRow.terminal (r : RiskRow) : Bool :=
  r.rejectReason = "" ∧ r.statusAfter ∈ ["POSITION_CLOSED", "OPEN_AT_END", "TP_HIT", "SL_HIT"]

/-- `(closed_timestamp or timestamp, symbol, side)`. -/
def RiskRow.key (r : RiskRow) : ℤ ×ₗ String ×ₗ String :=
  toLex (r.closedAt, toLex (r.symbol, r.side))

/-- The first row of every position; a row without an id is its own. -/
def firstOfPosition (seen : List String) : List RiskRow → List RiskRow
  | [] => []
  | r :: rest =>
    if r.positionId = "" then r :: firstOfPosition seen rest
    else if r.positionId ∈ seen then firstOfPosition seen rest
    else r :: firstOfPosition (r.positionId :: seen) rest

/-- `_accepted_terminal_rows_for_risk`. -/
def acceptedTerminalRowsForRisk (lifecycle : List RiskRow) : List RiskRow :=
  firstOfPosition [] (sortOn RiskRow.key (lifecycle.filter RiskRow.terminal))

/-- A point of the curve. -/
structure CurvePoint where
  tradeIndex : ℕ
  timestamp : ℤ
  symbol : String
  side : String
  closeReason : String
  netPnlUsdt : Option ℚ
  equity : Option ℚ
  peakEquity : Option ℚ
  drawdown : Option ℚ
  drawdownPct : Option ℚ

/-- The variables of the loop. -/
structure Curve where
  equity : Option ℚ
  peak : ℚ
  maxDrawdown : ℚ
  maxDrawdownPct : ℚ
  longestLoss : ℕ
  longestWin : ℕ
  curLoss : ℕ
  curWin : ℕ
  grossProfit : ℚ
  grossLoss : ℚ
  points : List CurvePoint

def Curve.start (initialBalance : ℚ) : Curve :=
  ⟨some initialBalance, initialBalance, 0, 0, 0, 0, 0, 0, 0, 0, []⟩

/-- One round of the loop. -/
def Curve.add (c : Curve) (row : RiskRow) : Curve :=
  let point : CurvePoint :=
    { tradeIndex := c.points.length + 1, timestamp := row.closedAt, symbol := row.symbol,
      side := row.side
      closeReason := if row.closeReason = "" then row.statusAfter else row.closeReason
      netPnlUsdt := finiteNumber row.netPnlUsdt
      equity := none, peakEquity := none, drawdown := none, drawdownPct := none }
  match finiteNumber row.netPnlUsdt, c.equity with
  | some pnl, some before =>
    let equity := before + pnl
    let peak := max c.peak equity
    let drawdown := equity - peak
    let drawdownPct := if peak = 0 then 0 else drawdown / peak * 100
    let curWin := if 0 < pnl then c.curWin + 1 else 0
    let curLoss := if pnl < 0 then c.curLoss + 1 else 0
    { equity := some equity
      peak := peak
      maxDrawdown := min c.maxDrawdown drawdown
      maxDrawdownPct := min c.maxDrawdownPct drawdownPct
      longestLoss := max c.longestLoss curLoss
      longestWin := max c.longestWin curWin
      curLoss := curLoss
      curWin := curWin
      grossProfit := if 0 < pnl then c.grossProfit + pnl else c.grossProfit
      grossLoss := if pnl < 0 then c.grossLoss + |pnl| else c.grossLoss
      points := c.points ++ [{ point with
        equity := some equity, peakEquity := some peak, drawdown := some drawdown,
        drawdownPct := some drawdownPct }] }
  | _, _ => { c with equity := none, points := c.points ++ [point] }

/-- The metrics; all but the ending equity are missing where that is unknown. -/
structure CurveMetrics where
  maxDrawdown : Option ℚ
  maxDrawdownPct : Option ℚ
  longestLossStreak : Option ℕ
  longestWinStreak : Option ℕ
  profitFactor : Option Extended
  realizedEvidenceStatus : String
  endingEquity : Option ℚ

def Curve.metrics (c : Curve) : CurveMetrics :=
  if c.equity.isSome then
    { maxDrawdown := some c.maxDrawdown
      maxDrawdownPct := some c.maxDrawdownPct
      longestLossStreak := some c.longestLoss
      longestWinStreak := some c.longestWin
      profitFactor := some (if c.grossLoss = 0 then
          if c.grossProfit = 0 then .finite 0 else .posInf
        else .finite (c.grossProfit / c.grossLoss))
      realizedEvidenceStatus := "COMPLETE"
      endingEquity := c.equity }
  else ⟨none, none, none, none, none, "INCOMPLETE", c.equity⟩

/-- `build_equity_curve_metrics`. -/
def buildEquityCurveMetrics (lifecycle : List RiskRow) (initialBalance : ℚ) :
    List CurvePoint × CurveMetrics :=
  let c := (acceptedTerminalRowsForRisk lifecycle).foldl Curve.add (Curve.start initialBalance)
  (c.points, c.metrics)

/-! ## 2. The run -/

/-- The order of a pass that is accepted or rescued. -/
def Setup.acceptedOrder (setup : Setup) (s : State) (a : Attempt) : Option Order :=
  match a.outcome with
  | .none => none
  | .rescued order _ => some order
  | .executed order riskScale guardReason =>
    let notional := notionalFor setup.balance setup.riskPct riskScale order.notional
    let snap := s.snapshot a.symbol order.side setup.config a.candle.timestamp
    if setup.accepts order notional snap = true ∧ guardReason = "" then some order else none

/-- A row of the simulation, after `_finalize_rows`. -/
def Setup.riskRow (setup : Setup) (a : Attempt) (order : Order) (r : LifecycleRow ℚ) : RiskRow where
  timestamp := r.timestamp
  closedTimestamp := r.close.map (·.closedTs)
  symbol := a.symbol
  side := order.side
  statusAfter := r.statusAfter
  rejectReason := ""
  closeReason := match r.close with
    | some close => close.closeReason
    | none => ""
  positionId := if r.statusAfter ∈ ["POSITION_OPENED", "POSITION_CLOSED"] then
      setup.positionId a.symbol a.candle.timestamp order.side
    else ""
  netPnlUsdt := match r.close with
    | some close => order.netPnl close
    | none => .none

/-- What a pass adds to `lifecycle`. -/
def Setup.rowsOf (setup : Setup) (s : State) (a : Attempt) : List RiskRow :=
  match setup.acceptedOrder s a with
  | some order =>
    (simulateCandidate (a.candidate order) a.candles a.idx).map (setup.riskRow a order)
  | none => []

/-- `lifecycle` after the passes. -/
def Setup.lifecycle (setup : Setup) : State → List Attempt → List RiskRow
  | _, [] => []
  | s, a :: rest => setup.rowsOf s a ++ setup.lifecycle (setup.process s a).1 rest

/-- The portfolio state after the passes. -/
def Setup.finalState (setup : Setup) (s : State) (attempts : List Attempt) : State :=
  attempts.foldl (fun s a => (setup.process s a).1) s

/-- `lifecycle` and the portfolio state at the end of a backtest. -/
def Setup.log (setup : Setup) (b : Inputs) : List RiskRow :=
  setup.lifecycle (State.init setup.balance) b.attempts

def Setup.end (setup : Setup) (b : Inputs) : State :=
  setup.finalState (State.init setup.balance) b.attempts

/-- The closes of a run, in the order of the loop. -/
def Setup.closes (setup : Setup) (b : Inputs) : List RiskRow :=
  (setup.log b).filter RiskRow.terminal

/-- The net pnls that are finite numbers. -/
def finitePnls (rows : List RiskRow) : List ℚ := rows.filterMap fun r => finiteNumber r.netPnlUsdt

/-- The state that gates the decisions and the report tell the same equity. The drawdown of the
    state is a fraction of the peak, the one of the report a percentage below it. -/
structure EquityAgrees (setup : Setup) (b : Inputs) : Prop where
  known : (∀ r ∈ setup.closes b, (finiteNumber r.netPnlUsdt).isSome) →
    (setup.end b).currentEquity =
        (buildEquityCurveMetrics (setup.log b) setup.balance).2.endingEquity ∧
      ∀ point ∈ (buildEquityCurveMetrics (setup.log b) setup.balance).1.getLast?,
        point.peakEquity = some (setup.end b).peakEquity ∧
          point.drawdownPct.map (fun pct => -pct / 100) = (setup.end b).rollingDrawdown
  unknown : (∃ r ∈ setup.closes b, finiteNumber r.netPnlUsdt = none) →
    (setup.end b).currentEquity = none ∧
      (buildEquityCurveMetrics (setup.log b) setup.balance).2.endingEquity = none

/-! ## 3. Equity as a sum -/

/-- The equity is known where every pnl is a finite number, and then it is their sum. -/
theorem equityOf_eq (initialEquity : ℚ) (pnls : List Scalar) :
    equityOf initialEquity pnls =
      if ∀ p ∈ pnls, (finiteNumber p).isSome then
        some (initialEquity + (pnls.filterMap finiteNumber).sum)
      else none := by
  induction pnls with
  | nil => simp [equityOf]
  | cons p rest ih =>
    rw [equityOf_cons, ih]
    cases hp : finiteNumber p with
    | none => simp [hp]
    | some x =>
      rw [List.filterMap_cons, hp]
      split
      · rename_i hrest
        rw [if_pos (List.forall_mem_cons.mpr ⟨by rw [hp]; rfl, hrest⟩), List.sum_cons]
        show some (initialEquity + _ + x) = _
        congr 1
        ring
      · rename_i hrest
        rw [if_neg fun h => hrest (List.forall_mem_cons.mp h).2]
        rfl

theorem equityOf_perm {pnls pnls' : List Scalar} (h : pnls.Perm pnls') (initialEquity : ℚ) :
    equityOf initialEquity pnls = equityOf initialEquity pnls' := by
  rw [equityOf_eq, equityOf_eq, (h.filterMap finiteNumber).sum_eq]
  simp only [h.mem_iff]

/-- The highest equity, for pnls that are all known, the latest one first. -/
theorem isGreatest_known (initialEquity : ℚ) {pnls : List Scalar}
    (hfinite : ∀ p ∈ pnls, (finiteNumber p).isSome) :
    IsGreatest (knownEquities initialEquity pnls.reverse)
      (initialEquity + highest (pnls.filterMap finiteNumber)) := by
  have hsum : ∀ earlier, earlier <+: pnls →
      equityOf initialEquity earlier.reverse =
        some (initialEquity + (earlier.filterMap finiteNumber).sum) := by
    intro earlier hearlier
    rw [equityOf_perm (List.reverse_perm earlier), equityOf_eq, if_pos]
    exact fun p hp => hfinite p (hearlier.subset hp)
  obtain ⟨⟨front, hfront, hreached⟩, hupper⟩ := isGreatest_highest (pnls.filterMap finiteNumber)
  constructor
  · obtain ⟨earlier, hearlier, rfl⟩ := List.prefix_filterMap_iff.mp hfront
    refine ⟨earlier.reverse, List.reverse_suffix.mpr hearlier, ?_⟩
    rw [hsum earlier hearlier, hreached]
  · rintro e ⟨earlier, hsuffix, he⟩
    rw [← List.reverse_prefix, List.reverse_reverse] at hsuffix
    have hknown := hsum _ hsuffix
    rw [List.reverse_reverse, he] at hknown
    rw [Option.some.inj hknown]
    have hle := hupper ⟨_, hsuffix.filterMap finiteNumber, rfl⟩
    linarith

/-! ## 4. The report of a run -/

section Report

/-- The last point shows the variables of the loop. -/
def Curve.Shown (c : Curve) : Prop :=
  ∀ point ∈ c.points.getLast?, point.equity = c.equity ∧ (c.equity.isSome →
    point.peakEquity = some c.peak ∧
      point.drawdownPct =
        some (if c.peak = 0 then 0 else (c.equity.getD 0 - c.peak) / c.peak * 100))

theorem shown_add (c : Curve) (row : RiskRow) : (c.add row).Shown := by
  unfold Curve.Shown Curve.add
  dsimp only
  split
  · intro point hpoint
    rw [List.getLast?_append, List.getLast?_singleton] at hpoint
    cases hpoint
    exact ⟨rfl, fun _ => ⟨rfl, rfl⟩⟩
  · intro point hpoint
    rw [List.getLast?_append, List.getLast?_singleton] at hpoint
    cases hpoint
    exact ⟨rfl, fun hknown => absurd hknown Bool.false_ne_true⟩

theorem shown_foldl (rows : List RiskRow) {c : Curve} (h : c.Shown) :
    (rows.foldl Curve.add c).Shown := by
  induction rows generalizing c with
  | nil => exact h
  | cons row rest ih => exact ih (shown_add c row)

/-- The equity of the loop. -/
theorem equity_foldl (rows : List RiskRow) (c : Curve) :
    (rows.foldl Curve.add c).equity =
      c.equity.bind fun e => equityOf e (rows.map RiskRow.netPnlUsdt) := by
  induction rows generalizing c with
  | nil => cases h : c.equity <;> simp [h, equityOf]
  | cons row rest ih =>
    rw [List.foldl_cons, ih]
    unfold Curve.add
    cases hpnl : finiteNumber row.netPnlUsdt with
    | none =>
      cases c.equity with
      | none => rfl
      | some e =>
        show none = equityOf e (row.netPnlUsdt :: rest.map RiskRow.netPnlUsdt)
        rw [equityOf_cons, hpnl]
        rfl
    | some pnl =>
      cases c.equity with
      | none => rfl
      | some e =>
        show equityOf (e + pnl) (rest.map RiskRow.netPnlUsdt) =
          equityOf e (row.netPnlUsdt :: rest.map RiskRow.netPnlUsdt)
        rw [equityOf_cons, hpnl, equityOf_eq, equityOf_eq]
        split
        · show some _ = some _
          congr 1
          ring
        · rfl

/-- The variables of the loop, for pnls that are all known. -/
theorem curve_fold {rows : List RiskRow} (hfinite : ∀ r ∈ rows, (finiteNumber r.netPnlUsdt).isSome)
    {c : Curve} {equity : ℚ} (hequity : c.equity = some equity) :
    (rows.foldl Curve.add c).equity.map (·, (rows.foldl Curve.add c).peak) =
      some ((finitePnls rows).foldl (fun s x => (s.1 + x, max s.2 (s.1 + x)))
        (equity, c.peak)) := by
  induction rows generalizing c equity with
  | nil =>
    rw [List.foldl_nil, hequity]
    rfl
  | cons row rest ih =>
    rw [List.forall_mem_cons] at hfinite
    obtain ⟨pnl, hpnl⟩ := Option.isSome_iff_exists.mp hfinite.1
    have hadd : (c.add row).equity = some (equity + pnl) ∧
      (c.add row).peak = max c.peak (equity + pnl) := by
      unfold Curve.add
      rw [hpnl, hequity]
      exact ⟨rfl, rfl⟩
    have hcons : finitePnls (row :: rest) = pnl :: finitePnls rest := by
      unfold finitePnls
      rw [List.filterMap_cons, hpnl]
    rw [List.foldl_cons, ih hfinite.2 hadd.1, hcons, List.foldl_cons, hadd.2]

theorem firstOfPosition_of_nodup {rows : List RiskRow} {seen : List String}
    (hnodup : (rows.map RiskRow.positionId).Nodup) (hnew : ∀ r ∈ rows, r.positionId ∉ seen) :
    firstOfPosition seen rows = rows := by
  induction rows generalizing seen with
  | nil => rfl
  | cons r rest ih =>
    rw [List.map_cons, List.nodup_cons] at hnodup
    rw [List.forall_mem_cons] at hnew
    unfold firstOfPosition
    split
    · rw [ih hnodup.2 hnew.2]
    · rw [if_neg hnew.1, ih hnodup.2]
      intro r' hr' hmem
      rcases List.mem_cons.mp hmem with heq | hmem
      · exact hnodup.1 (heq ▸ List.mem_map_of_mem hr')
      · exact hnew.2 r' hr' hmem

end Report

/-! ## 5. The state after a run -/

section Run

variable {setup : Setup}

/-- The state has booked the closes. -/
def Booked (initialEquity : ℚ) (s : State) (closes : List RiskRow) : Prop :=
  ∃ l, Refines initialEquity s l ∧ l.pnls = (closes.map RiskRow.netPnlUsdt).reverse ∧
    l.closed = (closes.map RiskRow.positionId).reverse

/-- A pass that accepts nothing changes nothing. -/
theorem process_none {s : State} {a : Attempt} (h : setup.acceptedOrder s a = none) :
    (setup.process s a).1 = s := by
  unfold Setup.acceptedOrder at h
  unfold Setup.process
  cases houtcome : a.outcome with
  | none => rfl
  | rescued order multiplier =>
    rw [houtcome] at h
    cases h
  | executed order riskScale guardReason =>
    rw [houtcome] at h
    dsimp only at h ⊢
    split at h
    · cases h
    · rename_i hrejected
      rw [if_neg hrejected]

/-- An accepted pass is simulated and booked, under its own id. -/
theorem process_some {s : State} {a : Attempt} {order : Order}
    (h : setup.acceptedOrder s a = some order) :
    setup.idOf a = setup.positionId a.symbol a.candle.timestamp order.side ∧
      ∃ notional checked rescue,
        (setup.process s a).1 = (setup.take a order notional checked rescue s).1 := by
  unfold Setup.acceptedOrder at h
  unfold Setup.process Setup.idOf
  cases houtcome : a.outcome with
  | none =>
    rw [houtcome] at h
    cases h
  | rescued order' multiplier =>
    rw [houtcome] at h
    cases h
    exact ⟨rfl, _, _, _, rfl⟩
  | executed order' riskScale guardReason =>
    rw [houtcome] at h
    dsimp only at h ⊢
    split at h
    · rename_i haccepted
      cases h
      rw [if_pos haccepted]
      exact ⟨rfl, _, _, _, rfl⟩
    · cases h

/-- The closes of a simulation. -/
def Setup.closesOf (setup : Setup) (a : Attempt) (order : Order) : List RiskRow :=
  ((simulateCandidate (a.candidate order) a.candles a.idx).map (setup.riskRow a order)).filter
    RiskRow.terminal

theorem closesOf_nil {a : Attempt} {order : Order}
    (h : fromFill (a.candidate order) a.candles a.idx = []) : setup.closesOf a order = [] := by
  unfold Setup.closesOf simulateCandidate
  rw [h]
  rfl

/-- How the simulation of a filled candidate ends. -/
def Attempt.exit (a : Attempt) (order : Order) (fill : Candle ℚ) (rest : List (Candle ℚ)) :
    Exit ℚ :=
  exitScan (a.candidate order) (upper order.side = "LONG") (a.candles.getLastD fill)
    (FloatNum.ofInt 0) (FloatNum.ofInt 0) (fill :: rest)

section Filled

variable {a : Attempt} {order : Order} {fill : Candle ℚ} {rest : List (Candle ℚ)}

theorem map_netPnl (h : fromFill (a.candidate order) a.candles a.idx = fill :: rest) :
    (setup.closesOf a order).map RiskRow.netPnlUsdt =
      [order.netPnl (closeOf (a.candidate order) fill.timestamp (a.exit order fill rest))] := by
  unfold Setup.closesOf simulateCandidate
  rw [h]
  rfl

theorem map_positionId (h : fromFill (a.candidate order) a.candles a.idx = fill :: rest) :
    (setup.closesOf a order).map RiskRow.positionId =
      [setup.positionId a.symbol a.candle.timestamp order.side] := by
  unfold Setup.closesOf simulateCandidate
  rw [h]
  rfl

end Filled

/-- Opening and closing a position under a new id books one pnl. -/
theorem refines_open_close {initialEquity : ℚ} (hpos : 0 < initialEquity) {s : State} {l : Ledger}
    (h : Refines initialEquity s l) {positionId : String} (hnew : positionId ∉ l.closed)
    (symbol side : String) (notional entryPrice : Option ℚ) (openedTs closedTs : ℤ) (pnl : Scalar)
    (closeReason : String) :
    ∃ l', Refines initialEquity
        (((s.openPosition positionId symbol side notional entryPrice openedTs).recordTradeCount
          symbol
          openedTs).closePosition positionId closedTs pnl closeReason) l' ∧
      l'.pnls = pnl :: l.pnls ∧ l'.closed = positionId :: l.closed := by
  have hopen := refines_next hpos (refines_open h positionId symbol side notional
    entryPrice openedTs)
    (.recordTradeCount symbol openedTs)
  have hkeeps : (l.next (.openPosition positionId symbol side notional entryPrice openedTs)).pnls =
        l.pnls ∧
      (l.next (.openPosition positionId symbol side notional entryPrice openedTs)).closed =
        l.closed := by
    simp only [Ledger.next]
    split <;> exact ⟨rfl, rfl⟩
  generalize l.next (.openPosition positionId symbol side notional entryPrice openedTs) = l' at *
  refine ⟨_, refines_close hpos hopen positionId closedTs pnl closeReason, ?_⟩
  have hnew' : positionId ∉ l'.closed := by
    rw [hkeeps.2]
    exact hnew
  show ((if positionId ∈ l'.closed then l' else _) : Ledger).pnls = _ ∧
    ((if positionId ∈ l'.closed then l' else _) : Ledger).closed = _
  rw [if_neg hnew', ← hkeeps.1, ← hkeeps.2]
  exact ⟨rfl, rfl⟩

/-- The rows that open and close a position book its close. -/
theorem booked_rows (hpos : 0 < setup.balance) {s : State} {l : Ledger}
    {closes closes' : List RiskRow}
    (h : Refines setup.balance s l) (hpnls : l.pnls = (closes.map RiskRow.netPnlUsdt).reverse)
    (hids : l.closed = (closes.map RiskRow.positionId).reverse) {a : Attempt} {order : Order}
    (hnew : setup.positionId a.symbol a.candle.timestamp order.side ∉
      closes.map RiskRow.positionId)
    {openedRow closedRow : LifecycleRow ℚ} {close : Close ℚ} {notional : Option ℚ} {rescue : Bool}
    (hopened : openedRow.statusAfter = "POSITION_OPENED")
    (hclosed : closedRow.statusAfter = "POSITION_CLOSED") (hclose : closedRow.close = some close)
    (hpnl : closes'.map RiskRow.netPnlUsdt = [order.netPnl close])
    (hid : closes'.map RiskRow.positionId =
      [setup.positionId a.symbol a.candle.timestamp order.side]) :
    Booked setup.balance
      (setup.applyRow a order notional rescue (setup.applyRow a order notional rescue s openedRow)
        closedRow) (closes ++ closes') := by
  have hnew' : setup.positionId a.symbol a.candle.timestamp order.side ∉ l.closed := by
    rw [hids, List.mem_reverse]
    exact hnew
  rw [applyRow_closed (by rw [hclosed]; decide) hclose, applyRow_opened (by rw [hopened]; decide)]
  obtain ⟨l', hl', hpnls', hclosed'⟩ := refines_open_close hpos h hnew' a.symbol order.side notional
    (some order.entry) openedRow.timestamp closedRow.timestamp (order.netPnl close)
      close.closeReason
  refine ⟨l', hl', ?_, ?_⟩
  · rw [hpnls', hpnls, List.map_append, List.reverse_append, hpnl]
    rfl
  · rw [hclosed', hids, List.map_append, List.reverse_append, hid]
    rfl

/-- **A pass books what its simulation closes.** -/
theorem booked_take (hpos : 0 < setup.balance) {s : State} {closes : List RiskRow}
    (h : Booked setup.balance s closes) {a : Attempt} {order : Order}
    (hnew : setup.positionId a.symbol a.candle.timestamp order.side ∉
      closes.map RiskRow.positionId)
    (notional : Option ℚ) (checked : Option (Snapshot ℚ)) (rescue : Bool) :
    Booked setup.balance (setup.take a order notional checked rescue s).1
      (closes ++ setup.closesOf a order) := by
  obtain ⟨l, hrefines, hpnls, hclosed⟩ := h
  have hpending : Refines setup.balance
      (s.markPending (setup.positionId a.symbol a.candle.timestamp order.side) notional) l :=
    refines_next hpos hrefines (.markPending _ notional)
  simp only [Setup.take, simulateCandidate]
  generalize s.markPending _ notional = s at hpending ⊢
  cases hfill : fromFill (a.candidate order) a.candles a.idx with
  | nil =>
    have hrows := (foldl_created setup a order notional rescue none s).2
    rw [List.foldl_append, hrows, closesOf_nil hfill, List.append_nil]
    simp only [List.foldl_cons, List.foldl_nil, Setup.applyRow, statusRow]
    rw [if_neg (by decide), if_neg (by decide)]
    split
    · exact ⟨l, refines_next hpos hpending (.cancelPending _), hpnls, hclosed⟩
    · exact ⟨l, hpending, hpnls, hclosed⟩
  | cons fill rest =>
    have hrows := (foldl_created setup a order notional rescue (some (a.candidate order).entry) s).1
    rw [List.foldl_append]
    simp only [List.foldl_cons, List.foldl_nil] at hrows ⊢
    rw [hrows]
    exact booked_rows hpos hpending hpnls hclosed hnew rfl rfl rfl (map_netPnl hfill)
      (map_positionId hfill)

/-- **One pass.** -/
theorem booked_process (hpos : 0 < setup.balance) {s : State} {closes : List RiskRow}
    (h : Booked setup.balance s closes) {a : Attempt}
    (hnew : setup.idOf a ∉ closes.map RiskRow.positionId) :
    Booked setup.balance (setup.process s a).1
        (closes ++ (setup.rowsOf s a).filter RiskRow.terminal) ∧
      (((setup.rowsOf s a).filter RiskRow.terminal).map RiskRow.positionId).Sublist
        [setup.idOf a] := by
  unfold Setup.rowsOf
  cases horder : setup.acceptedOrder s a with
  | none =>
    rw [process_none horder]
    show Booked setup.balance s (closes ++ []) ∧ List.Sublist [] _
    rw [List.append_nil]
    exact ⟨h, List.nil_sublist _⟩
  | some order =>
    obtain ⟨hid, notional, checked, rescue, hprocess⟩ := process_some horder
    rw [hid] at hnew ⊢
    rw [hprocess]
    refine ⟨booked_take hpos h hnew notional checked rescue, ?_⟩
    show ((setup.closesOf a order).map RiskRow.positionId).Sublist _
    cases hfill : fromFill (a.candidate order) a.candles a.idx with
    | nil =>
      rw [closesOf_nil hfill]
      exact List.nil_sublist _
    | cons fill rest => rw [map_positionId hfill]

/-- **The run**: the state has booked the closes of the lifecycle, each under its own id. -/
theorem booked_run (hpos : 0 < setup.balance) {attempts : List Attempt}
    (hids : (attempts.map setup.idOf).Nodup) {s : State} {closes : List RiskRow}
    (h : Booked setup.balance s closes)
    (hnew : ∀ a ∈ attempts, setup.idOf a ∉ closes.map RiskRow.positionId) :
    Booked setup.balance (setup.finalState s attempts)
        (closes ++ (setup.lifecycle s attempts).filter RiskRow.terminal) ∧
      (((setup.lifecycle s attempts).filter RiskRow.terminal).map RiskRow.positionId).Sublist
        (attempts.map setup.idOf) := by
  induction attempts generalizing s closes with
  | nil =>
    show Booked setup.balance s (closes ++ []) ∧ List.Sublist [] []
    rw [List.append_nil]
    exact ⟨h, List.Sublist.slnil⟩
  | cons a rest ih =>
    obtain ⟨hfirst, hrest⟩ := List.nodup_cons.mp hids
    obtain ⟨hbooked, hown⟩ := booked_process hpos h (hnew a List.mem_cons_self)
    have hlater : ∀ b ∈ rest, setup.idOf b ∉
        (closes ++ (setup.rowsOf s a).filter RiskRow.terminal).map RiskRow.positionId := by
      intro b hb hmem
      rw [List.map_append, List.mem_append] at hmem
      rcases hmem with hold | hsame
      · exact hnew b (List.mem_cons_of_mem a hb) hold
      · have heq := List.mem_singleton.mp (hown.subset hsame)
        exact hfirst (heq ▸ List.mem_map_of_mem hb)
    obtain ⟨hrun, hsub⟩ := ih hrest hbooked hlater
    have hcons : (setup.lifecycle s (a :: rest)).filter RiskRow.terminal =
        (setup.rowsOf s a).filter RiskRow.terminal ++
          (setup.lifecycle (setup.process s a).1 rest).filter RiskRow.terminal :=
      List.filter_append _ _
    rw [hcons, ← List.append_assoc, List.map_append]
    exact ⟨hrun, hown.append hsub⟩

end Run

/-! ## 6. The two equities -/

section Equity

variable {setup : Setup} {b : Inputs}

/-- Position ids of different candles differ. -/
def Setup.DistinctIds (setup : Setup) (b : Inputs) : Prop :=
  ∀ a ∈ b.attempts, ∀ a' ∈ b.attempts, setup.idOf a = setup.idOf a' →
    a.symbol = a'.symbol ∧ a.candle.timestamp = a'.candle.timestamp

/-- The state at the end has booked the closes, whose ids differ. -/
theorem booked_end (hpos : 0 < setup.balance) (hids : setup.DistinctIds b) :
    Booked setup.balance (setup.end b) (setup.closes b) ∧
      ((setup.closes b).map RiskRow.positionId).Nodup := by
  have hnodup : (b.attempts.map setup.idOf).Nodup :=
    List.pairwise_map.mpr
      ((attempts_distinct b).imp_of_mem fun ha ha' hne heq => hne (hids _ ha _ ha' heq))
  have hstart : Booked setup.balance (State.init setup.balance) [] :=
    ⟨_, refines_run hpos [], rfl, rfl⟩
  obtain ⟨hbooked, hsub⟩ := booked_run hpos hnodup hstart fun a _ => List.not_mem_nil
  exact ⟨hbooked, hnodup.sublist hsub⟩

/-- The closes in the order of the report. -/
def Setup.sortedCloses (setup : Setup) (b : Inputs) : List RiskRow :=
  sortOn RiskRow.key (setup.closes b)

theorem acceptedTerminal_eq (hpos : 0 < setup.balance) (hids : setup.DistinctIds b) :
    acceptedTerminalRowsForRisk (setup.log b) = setup.sortedCloses b := by
  have hnodup := (booked_end hpos hids).2
  refine firstOfPosition_of_nodup ?_ fun r _ => List.not_mem_nil
  exact ((perm_of_sortOn (setup.closes b)).map _).nodup_iff.mpr hnodup

theorem finitePnls_eq (rows : List RiskRow) :
    (rows.map RiskRow.netPnlUsdt).filterMap finiteNumber = finitePnls rows :=
  List.filterMap_map

/-- The curve that the report ends with. -/
def Setup.lastCurve (setup : Setup) (b : Inputs) : Curve :=
  (setup.sortedCloses b).foldl Curve.add (Curve.start setup.balance)

theorem metrics_eq (hpos : 0 < setup.balance) (hids : setup.DistinctIds b) :
    buildEquityCurveMetrics (setup.log b) setup.balance =
      ((setup.lastCurve b).points, (setup.lastCurve b).metrics) := by
  unfold buildEquityCurveMetrics Setup.lastCurve
  rw [acceptedTerminal_eq hpos hids]

theorem endingEquity_eq (c : Curve) : c.metrics.endingEquity = c.equity := by
  unfold Curve.metrics
  split <;> rfl

/-- Both ends of the run show the same sum. -/
theorem currentEquity_eq (hpos : 0 < setup.balance) (hids : setup.DistinctIds b) :
    (setup.end b).currentEquity = (setup.lastCurve b).equity := by
  obtain ⟨l, hrefines, hpnls, _⟩ := (booked_end hpos hids).1
  have hcurve := equity_foldl (setup.sortedCloses b) (Curve.start setup.balance)
  have hperm : (l.pnls).Perm ((setup.sortedCloses b).map RiskRow.netPnlUsdt) := by
    rw [hpnls]
    exact (List.reverse_perm _).trans ((perm_of_sortOn (setup.closes b)).symm.map _)
  rw [hrefines.equity, equityOf_perm hperm]
  exact hcurve.symm

/-- The peak of the state, where every pnl is known: the highest partial sum of the run. -/
theorem peak_end (hpos : 0 < setup.balance) (hids : setup.DistinctIds b)
    (hfinite : ∀ r ∈ setup.closes b, (finiteNumber r.netPnlUsdt).isSome) :
    (setup.end b).peakEquity = setup.balance + highest (finitePnls (setup.closes b)) := by
  obtain ⟨l, hrefines, hpnls, _⟩ := (booked_end hpos hids).1
  have hpeak := hrefines.peak
  rw [hpnls] at hpeak
  have hknown : ∀ p ∈ (setup.closes b).map RiskRow.netPnlUsdt, (finiteNumber p).isSome := by
    intro p hp
    obtain ⟨r, hr, rfl⟩ := List.mem_map.mp hp
    exact hfinite r hr
  have hhighest := isGreatest_known setup.balance hknown
  rw [finitePnls_eq] at hhighest
  exact hpeak.unique hhighest

/-- The loop of the report, where every pnl is known: the sum, and the highest partial sum in the
    order of time. -/
theorem lastCurve_known (hfinite : ∀ r ∈ setup.closes b, (finiteNumber r.netPnlUsdt).isSome) :
    (setup.lastCurve b).equity = some (setup.balance + (finitePnls (setup.sortedCloses b)).sum) ∧
      (setup.lastCurve b).peak = setup.balance + highest (finitePnls (setup.sortedCloses b)) := by
  have hsorted : ∀ r ∈ setup.sortedCloses b, (finiteNumber r.netPnlUsdt).isSome :=
    fun r hr => hfinite r (mem_sortOn.mp hr)
  have hfold : (setup.lastCurve b).equity.map (·, (setup.lastCurve b).peak) =
      some ((finitePnls (setup.sortedCloses b)).foldl (fun s x => (s.1 + x, max s.2 (s.1 + x)))
        (setup.balance, setup.balance)) :=
    curve_fold hsorted rfl
  have hstart : max setup.balance (setup.balance + highest (finitePnls (setup.sortedCloses b))) =
      setup.balance + highest (finitePnls (setup.sortedCloses b)) :=
    max_eq_right (le_add_of_nonneg_right (highest_nonneg _))
  rw [highest_fold _ (le_refl setup.balance), hstart] at hfold
  obtain ⟨e, he, heq⟩ := Option.map_eq_some_iff.mp hfold
  obtain ⟨hsum, hpeak⟩ := Prod.mk.inj heq
  exact ⟨by rw [he, hsum], hpeak⟩

theorem length_points (rows : List RiskRow) (c : Curve) :
    (rows.foldl Curve.add c).points.length = c.points.length + rows.length := by
  induction rows generalizing c with
  | nil => rfl
  | cons row rest ih =>
    have hadd : (c.add row).points.length = c.points.length + 1 := by
      unfold Curve.add
      dsimp only
      split <;> exact List.length_append
    rw [List.foldl_cons, ih, hadd, List.length_cons]
    omega

theorem shown_lastCurve : (setup.lastCurve b).Shown :=
  shown_foldl _ fun point hpoint => by cases hpoint

/-- The drawdown of the state is the one that the last point shows, for the same peak. -/
theorem drawdown_agrees {s : State} {equity peak : ℚ} (hpeak : 0 < peak) (hle : equity ≤ peak)
    (hequity : s.currentEquity = some equity) (hsame : s.peakEquity = peak) :
    (some (if peak = 0 then 0 else (equity - peak) / peak * 100)).map (fun pct => -pct / 100) =
      s.rollingDrawdown := by
  unfold State.rollingDrawdown
  rw [hequity, hsame]
  simp only [if_neg hpeak.ne', Option.map_some]
  have hnonneg : 0 ≤ (peak - equity) / peak := div_nonneg (sub_nonneg.mpr hle) hpeak.le
  rw [max_eq_right hnonneg]
  congr 1
  field_simp
  ring

/-- Where they agree on known pnls, the highest partial sums are the same: the last point shows the
    peak of the report. -/
theorem highest_of_agrees (hpos : 0 < setup.balance) (hids : setup.DistinctIds b)
    (hfinite : ∀ r ∈ setup.closes b, (finiteNumber r.netPnlUsdt).isSome)
    (hagrees : EquityAgrees setup b) :
    highest (finitePnls (setup.closes b)) = highest (finitePnls (setup.sortedCloses b)) := by
  obtain ⟨hcurve, hpeak⟩ := lastCurve_known hfinite
  cases hlast : (setup.lastCurve b).points.getLast? with
  | none =>
    -- without a point there is no close
    have hlength := length_points (setup.sortedCloses b) (Curve.start setup.balance)
    have hpoints : (setup.lastCurve b).points = [] := List.getLast?_eq_none_iff.mp hlast
    have hzero : (setup.lastCurve b).points.length = 0 := by rw [hpoints]; rfl
    have hnil : setup.sortedCloses b = [] := by
      refine List.eq_nil_of_length_eq_zero ?_
      unfold Setup.lastCurve at hzero
      omega
    have hcloses : setup.closes b = [] :=
      List.Perm.eq_nil (hnil ▸ (perm_of_sortOn (setup.closes b)).symm)
    rw [hnil, hcloses]
  | some point =>
    have hshown := (shown_lastCurve point hlast).2 (by rw [hcurve]; rfl)
    have hsame := ((hagrees.known hfinite).2 point (by rw [metrics_eq hpos hids]; exact hlast)).1
    rw [hshown.1, Option.some_inj, hpeak, peak_end hpos hids hfinite] at hsame
    exact (add_left_cancel hsame).symm

/-- Where the highest partial sums are the same, so are peak and drawdown. -/
theorem known_of_highest (hpos : 0 < setup.balance) (hids : setup.DistinctIds b)
    (hfinite : ∀ r ∈ setup.closes b, (finiteNumber r.netPnlUsdt).isSome)
    (hhighest : highest (finitePnls (setup.closes b)) =
      highest (finitePnls (setup.sortedCloses b))) :
    ∀ point ∈ (setup.lastCurve b).points.getLast?,
      point.peakEquity = some (setup.end b).peakEquity ∧
        point.drawdownPct.map (fun pct => -pct / 100) = (setup.end b).rollingDrawdown := by
  have hequity := currentEquity_eq hpos hids
  obtain ⟨hcurve, hpeak⟩ := lastCurve_known hfinite
  have hsame : (setup.end b).peakEquity = (setup.lastCurve b).peak := by
    rw [peak_end hpos hids hfinite, hhighest, hpeak]
  intro point hpoint
  have hshown := (shown_lastCurve point hpoint).2 (by rw [hcurve]; rfl)
  refine ⟨by rw [hshown.1, hsame], ?_⟩
  rw [hshown.2, hcurve]
  rw [hcurve] at hequity
  have hreached : (finitePnls (setup.sortedCloses b)).sum ≤
      highest (finitePnls (setup.sortedCloses b)) :=
    (isGreatest_highest _).2 ⟨_, List.prefix_refl _, rfl⟩
  refine drawdown_agrees ?_ ?_ hequity hsame
  · rw [hpeak]
    have hnonneg := highest_nonneg (finitePnls (setup.sortedCloses b))
    linarith
  · rw [hpeak, Option.getD_some]
    linarith

/-- An unknown pnl makes both unknown. -/
theorem unknown_end (hpos : 0 < setup.balance) (hids : setup.DistinctIds b)
    (hunknown : ∃ r ∈ setup.closes b, finiteNumber r.netPnlUsdt = none) :
    (setup.end b).currentEquity = none := by
  obtain ⟨l, hrefines, hpnls, _⟩ := (booked_end hpos hids).1
  obtain ⟨r, hr, hnone⟩ := hunknown
  rw [hrefines.equity, hpnls]
  exact equityOf_eq_none ⟨r.netPnlUsdt, List.mem_reverse.mpr (List.mem_map_of_mem hr), hnone⟩

/-- **The state that gates the decisions and the report tell the same equity, exactly where the pnl
    of a close is unknown, or the highest partial sum of the pnls is the same in the order of the
    loop and in that of time.** -/
theorem equity_agrees_iff (setup : Setup) (hpos : 0 < setup.balance) (b : Inputs)
    (hids : setup.DistinctIds b) :
    EquityAgrees setup b ↔
      (∃ r ∈ setup.closes b, finiteNumber r.netPnlUsdt = none) ∨
        highest (finitePnls (setup.closes b)) =
          highest (finitePnls (sortOn RiskRow.key (setup.closes b))) := by
  have hequity := currentEquity_eq hpos hids
  have hmetrics := metrics_eq hpos hids
  constructor
  · intro hagrees
    by_cases hunknown : ∃ r ∈ setup.closes b, finiteNumber r.netPnlUsdt = none
    · exact Or.inl hunknown
    · refine Or.inr (highest_of_agrees hpos hids (fun r hr => ?_) hagrees)
      rw [Option.isSome_iff_ne_none]
      exact fun hnone => hunknown ⟨r, hr, hnone⟩
  · intro h
    refine ⟨fun hfinite => ?_, fun hunknown => ?_⟩
    · have hhighest : highest (finitePnls (setup.closes b)) =
          highest (finitePnls (setup.sortedCloses b)) := by
        rcases h with ⟨r, hr, hnone⟩ | h
        · have hsome := hfinite r hr
          rw [hnone] at hsome
          cases hsome
        · exact h
      rw [hmetrics, endingEquity_eq]
      exact ⟨hequity, known_of_highest hpos hids hfinite hhighest⟩
    · have hnone := unknown_end hpos hids hunknown
      rw [hmetrics, endingEquity_eq, ← hequity]
      exact ⟨hnone, hnone⟩

/-- Ether is bought after bitcoin was sold. -/
theorem equity_sample : EquityAgrees oneAtATime (sampleInputs (orderAt 4)) :=
  (equity_agrees_iff oneAtATime (by decide +kernel)
    _ (by unfold Setup.DistinctIds; decide +kernel)).mpr
    (Or.inr (by decide +kernel))

/-- Bitcoin is sold last, with a gain; ether was closed before, with a loss. -/
def lateGain : Inputs where
  series := [sampleSeries "BTCUSDT", sampleSeries "ETHUSDT"]
  symbols := (sampleInputs (orderAt 4)).symbols
  outcome symbol i :=
    if symbol = "ETHUSDT" then
      if i = 2 then .executed { sampleOrder with sl := 99, netPnl := fun _ => .float (-5) } 1 ""
      else .none
    else orderAt 4 i

/-- The state has seen 1005, the report never more than 1000. -/
theorem equity_differs : ¬ EquityAgrees oneAtATime lateGain := by
  have hshown : (∀ r ∈ oneAtATime.closes lateGain, (finiteNumber r.netPnlUsdt).isSome) ∧
      (oneAtATime.end lateGain).peakEquity = 1005 ∧
      ((buildEquityCurveMetrics (oneAtATime.log lateGain) oneAtATime.balance).1.getLast?.bind
        fun point => point.peakEquity) = some 1000 := by
    decide +kernel
  obtain ⟨hfinite, hstate, hreport⟩ := hshown
  intro h
  obtain ⟨point, hlast, hpeak⟩ := Option.bind_eq_some_iff.mp hreport
  have hsame := ((h.known hfinite).2 point hlast).1
  rw [hpeak, hstate] at hsame
  exact absurd (Option.some.inj hsame) (by norm_num)

end Equity

end AlphaForge.Backtest
