/-
  File:      AlphaForge/Backtest/PortfolioState.lean
  Subject:   `BacktestPortfolioState` (`portfolio_risk.py`): cash and open positions of a backtest,
             and the snapshot that the risk check reads.

  * `Op`, `State.next` -- the methods that change the state; `Ledger.next` -- what they mean: which
    positions are open, which are closed, and the pnl of each close that counts.
  * `refines_run` -- after any calls the state holds the ledger's positions and its cash.
  * **`state_correct_iff`** -- cash, peak and the latch are the ledger's in every state; the
    snapshot counts every open position exactly where no two of them share a symbol, since it is
    built from a map by symbol.

  Numbers are exact. A position is its id: opening an id again replaces it. Days are numbered; the
  candidate's notional and the maps by position, which only go into the diagnostics, are left out.
-/
import AlphaForge.Lib.Dictionary
import AlphaForge.Lib.Runs
import AlphaForge.Portfolio.Risk
import AlphaForge.Positions.Management

namespace AlphaForge.Backtest

open AlphaForge.Lib
open AlphaForge.Positions (finiteNumber)
open AlphaForge.Portfolio (Snapshot Config Candidate Decision evaluatePortfolioRisk)

/-! ## 1. The state -/

/-- `correlation_group_for_symbol`, without overrides. -/
def correlationGroupForSymbol (symbol : String) : String :=
  let s := (upper symbol).replace "-" ""
  let quote := ["USDT", "USD", "USDC", "BUSD", "BTC", "ETH"].find? fun q =>
    s.endsWith q ∧ q.length < s.length
  let base := match quote with
    | some q => (s.dropEnd q.length).toString
    | none => s
  if base ∈ ["BTC", "WBTC", "ETH", "STETH", "WETH"] then "CRYPTO_MAJOR"
  else if base ∈ ["DOGE", "SHIB", "PEPE", "BONK", "FLOKI", "WIF"] then "CRYPTO_MEME_LOW_LIQUIDITY"
  else if base ∈ ["SOL", "AVAX", "BNB", "XRP", "ADA", "LINK", "DOT", "MATIC", "ARB", "OP"] then
    "CRYPTO_HIGH_BETA_ALT"
  else if base ∈ ["USDT", "USDC", "DAI", "USD", "EUR"] then "STABLE_FIAT"
  else "UNKNOWN_CONSERVATIVE"

/-- `BacktestPosition`: only a positive notional is opened. -/
structure BacktestPosition where
  positionId : String
  symbol : String
  side : String
  notional : ℚ
  entryPrice : ℚ
  openedTs : ℤ
  correlationGroup : String
  positive : 0 < notional

/-- `_day_key`: the number of the day of a timestamp in seconds or milliseconds. -/
def dayKey (ts : ℤ) : Option ℤ :=
  if 10000000000 < ts then some (ts / 86400000) else if 0 < ts then some (ts / 86400) else none

/-- `BacktestPortfolioState`, less the cooldowns, which nothing writes. -/
structure State where
  initialEquity : ℚ
  currentEquity : Option ℚ
  peakEquity : ℚ
  openPositions : Dictionary String BacktestPosition
  pendingEntries : Dictionary String ℚ
  dailyRealizedPnl : Dictionary (Option ℤ) ℚ
  symbolDailyTradeCounts : Dictionary (String × Option ℤ) ℤ
  globalDailyTradeCounts : Dictionary (Option ℤ) ℤ
  consecutiveLossCount : ℤ
  closedPositionIds : List String
  cashEvidenceComplete : Bool

/-- `__post_init__`. -/
def State.init (initialEquity : ℚ) : State where
  initialEquity := initialEquity
  currentEquity := some initialEquity
  peakEquity := initialEquity
  openPositions := Dictionary.empty
  pendingEntries := Dictionary.empty
  dailyRealizedPnl := Dictionary.empty
  symbolDailyTradeCounts := Dictionary.empty
  globalDailyTradeCounts := Dictionary.empty
  consecutiveLossCount := 0
  closedPositionIds := []
  cashEvidenceComplete := true

/-- `d.pop(key, None)`. -/
def pop {ν : Type} (d : Dictionary String ν) (key : String) : Dictionary String ν :=
  d.keep fun k => k ≠ key

/-- `mark_pending`. -/
def State.markPending (s : State) (positionId : String) (notional : Option ℚ) : State :=
  match notional with
  | some x => if 0 < x then { s with pendingEntries := s.pendingEntries.set positionId x } else s
  | none => s

/-- `cancel_pending`. -/
def State.cancelPending (s : State) (positionId : String) : State :=
  { s with pendingEntries := pop s.pendingEntries positionId }

/-- The position that a call opens: none without a positive notional. -/
def opened (positionId symbol side : String) (notional entryPrice : Option ℚ) (timestamp : ℤ) :
    Option BacktestPosition :=
  match notional with
  | some x =>
    if h : 0 < x then
      some
        { positionId := positionId, symbol := symbol, side := upper side, notional := x,
          entryPrice := entryPrice.getD 0, openedTs := timestamp,
          correlationGroup := correlationGroupForSymbol symbol, positive := h }
    else none
  | none => none

/-- `open_position`. -/
def State.openPosition (s : State) (positionId symbol side : String)
    (notional entryPrice : Option ℚ) (timestamp : ℤ) : State :=
  let s := s.cancelPending positionId
  match opened positionId symbol side notional entryPrice timestamp with
  | some position => { s with openPositions := s.openPositions.set positionId position }
  | none => s

/-- The count of losses in a row after a close. -/
def lossCount (count : ℤ) (pnl : ℚ) (closeReason : String) : ℤ :=
  if pnl < 0 ∨ upper closeReason = "SL_HIT" then count + 1
  else if 0 < pnl ∨ upper closeReason = "TP_HIT" then 0
  else count

/-- The cash of the first close of a position. -/
def State.bookPnl (s : State) (timestamp : ℤ) (pnl : ℚ) (closeReason : String) : State :=
  let equity := s.currentEquity.getD 0 + pnl
  let day := dayKey timestamp
  { s with
    currentEquity := some equity
    peakEquity := max (if s.peakEquity = 0 then equity else s.peakEquity) equity
    dailyRealizedPnl := s.dailyRealizedPnl.set day ((s.dailyRealizedPnl.get? day).getD 0 + pnl)
    consecutiveLossCount := lossCount s.consecutiveLossCount pnl closeReason }

/-- `close_position`. -/
def State.closePosition (s : State) (positionId : String) (timestamp : ℤ) (netPnlUsdt : Scalar)
    (closeReason : String) : State :=
  if positionId ∈ s.closedPositionIds then s
  else
    let s := { s with
      closedPositionIds := positionId :: s.closedPositionIds
      pendingEntries := pop s.pendingEntries positionId
      openPositions := pop s.openPositions positionId }
    match finiteNumber netPnlUsdt, s.cashEvidenceComplete with
    | some pnl, true => s.bookPnl timestamp pnl closeReason
    | _, _ => { s with cashEvidenceComplete := false, currentEquity := none }

/-- `record_trade_count`. -/
def State.recordTradeCount (s : State) (symbol : String) (timestamp : ℤ) : State :=
  let day := dayKey timestamp
  { s with
    globalDailyTradeCounts := s.globalDailyTradeCounts.set day
      ((s.globalDailyTradeCounts.get? day).getD 0 + 1)
    symbolDailyTradeCounts := s.symbolDailyTradeCounts.set (symbol, day)
      ((s.symbolDailyTradeCounts.get? (symbol, day)).getD 0 + 1) }

/-- A call of a method that changes the state. -/
inductive Op where
  | markPending (positionId : String) (notional : Option ℚ)
  | cancelPending (positionId : String)
  | openPosition (positionId symbol side : String) (notional entryPrice : Option ℚ) (timestamp : ℤ)
  | closePosition (positionId : String) (timestamp : ℤ) (netPnlUsdt : Scalar) (closeReason : String)
  | recordTradeCount (symbol : String) (timestamp : ℤ)

def State.next (s : State) : Op → State
  | .markPending positionId notional => s.markPending positionId notional
  | .cancelPending positionId => s.cancelPending positionId
  | .openPosition positionId symbol side notional entryPrice timestamp =>
    s.openPosition positionId symbol side notional entryPrice timestamp
  | .closePosition positionId timestamp netPnlUsdt closeReason =>
    s.closePosition positionId timestamp netPnlUsdt closeReason
  | .recordTradeCount symbol timestamp => s.recordTradeCount symbol timestamp

/-- The state after calls in order. -/
def State.run (initialEquity : ℚ) (ops : List Op) : State :=
  runEvents State.next (State.init initialEquity) ops

/-! ## 2. The snapshot -/

/-- `resolve_backtest_portfolio_config`. -/
structure BacktestConfig where
  maxOpenPositions : ℤ
  maxConcurrentPositions : ℤ
  maxNotionalExposure : ℚ
  maxSymbolNotional : ℚ
  maxDailyLossPct : ℚ
  maxRollingDrawdownPct : ℚ
  maxCorrelationGroupExposure : ℚ
  maxCorrelatedPositions : ℤ
  maxDailySymbolTrades : ℤ
  maxDailyGlobalTrades : ℤ
  maxSameSideExposure : ℚ
  maxNetExposure : ℚ

/-- The keys of it that the risk check reads. -/
def BacktestConfig.risk (config : BacktestConfig) : Config ℚ where
  rejectUnknownPortfolioRisk := some true
  maxDailySymbolTrades := some (some (.int config.maxDailySymbolTrades))
  maxDailyGlobalTrades := some (some (.int config.maxDailyGlobalTrades))
  maxSameSideExposure := some config.maxSameSideExposure
  maxNetExposure := some config.maxNetExposure

/-- The sums of the loop of `snapshot_from_state`. -/
structure Sums where
  symbolExposures : Dictionary String ℚ
  groupExposures : Dictionary String ℚ
  groupCounts : Dictionary String ℤ
  total : ℚ
  sym : ℚ
  long : ℚ
  short : ℚ
  groupExp : ℚ
  groupCount : ℤ

def Sums.zero : Sums := ⟨Dictionary.empty, Dictionary.empty, Dictionary.empty, 0, 0, 0, 0, 0, 0⟩

/-- `d[key] = d.get(key, 0) + amount`. -/
def addTo {M : Type} [AddCommMonoid M] (d : Dictionary String M) (key : String) (amount : M) :
    Dictionary String M :=
  d.set key ((d.get? key).getD 0 + amount)

/-- The sides that a position counts for in its group: an unknown side counts for both. -/
def correlationSides (side : String) : List String :=
  if side = "LONG" ∨ side = "SHORT" then [side] else ["LONG", "SHORT"]

/-- The keys of the maps by group. -/
def groupKeys (group side : String) : List String :=
  (correlationSides side).map fun s => group ++ ":" ++ s

/-- A position is on the candidate's side, or on an unknown one. -/
def sameDirection (side candidateSide : String) : Prop :=
  side = candidateSide ∨ (side ≠ "LONG" ∧ side ≠ "SHORT")

instance (side candidateSide : String) : Decidable (sameDirection side candidateSide) :=
  inferInstanceAs (Decidable (_ ∨ _))

/-- The entry of a symbol is in the candidate's group and on its side. -/
def entryInGroup (symbol side k : String) (p : BacktestPosition) : Prop :=
  correlationGroupForSymbol k = correlationGroupForSymbol symbol ∧ sameDirection (upper p.side) side

instance (symbol side k : String) (p : BacktestPosition) :
    Decidable (entryInGroup symbol side k p) :=
  inferInstanceAs (Decidable (_ ∧ _))

/-- One round of the loop, for the entry of a symbol. -/
def Sums.add (symbol candidateSide : String) (x : Sums) (e : String × BacktestPosition) : Sums :=
  let notional := |e.2.notional|
  let side := upper e.2.side
  let group := correlationGroupForSymbol e.1
  let keys := groupKeys group side
  let inGroup := entryInGroup symbol candidateSide e.1 e.2
  { symbolExposures := addTo x.symbolExposures (upper e.1) notional
    groupExposures := keys.foldl (fun d key => addTo d key notional) x.groupExposures
    groupCounts := keys.foldl (fun d key => addTo d key 1) x.groupCounts
    total := x.total + notional
    sym := if upper e.1 = upper symbol then x.sym + notional else x.sym
    long := if side = "SHORT" then x.long else x.long + notional
    short := if side = "SHORT" then x.short + notional else x.short
    groupExp := if inGroup then x.groupExp + notional else x.groupExp
    groupCount := if inGroup then x.groupCount + 1 else x.groupCount }

/-- `{p.symbol: … for p in self.open_positions.values()}`. -/
def State.positionsBySymbol (s : State) : Dictionary String BacktestPosition :=
  Dictionary.empty.update (s.openPositions.entries.map fun e => (e.2.symbol, e.2))

/-- `max(0.0, -daily / equity)` where both are known and there is equity. -/
def dailyLossPct (equity daily : Option ℚ) : Option ℚ :=
  match equity, daily with
  | some e, some d => if e = 0 then none else some (max 0 (-d / e))
  | _, _ => none

/-- The drawdown of `snapshot`. -/
def State.rollingDrawdown (s : State) : Option ℚ :=
  match s.currentEquity with
  | some equity =>
    if s.peakEquity = 0 then none else some (max 0 ((s.peakEquity - equity) / s.peakEquity))
  | none => none

/-- `snapshot`. Without a configured streak limit the limit is 999999. -/
def State.snapshot (s : State) (symbol side : String) (config : BacktestConfig) (timestamp : ℤ) :
    Snapshot ℚ :=
  let day := dayKey timestamp
  let candidateSide := upper (if side = "" then "LONG" else side)
  let positions := s.positionsBySymbol.entries
  let x := positions.foldl (Sums.add symbol candidateSide) Sums.zero
  let daily := if s.cashEvidenceComplete then some ((s.dailyRealizedPnl.get? day).getD 0) else none
  { equity := s.currentEquity
    openPositionCount := some (.int positions.length)
    maxOpenPositions := some (.int config.maxOpenPositions)
    concurrentPositionCount := some (.int positions.length)
    maxConcurrentPositions := some (.int config.maxConcurrentPositions)
    totalNotionalExposure := some x.total
    maxNotionalExposure := some config.maxNotionalExposure
    symbolNotionalExposure := some x.sym
    maxSymbolNotional := some config.maxSymbolNotional
    sideExposureLong := some x.long
    sideExposureShort := some x.short
    netExposure := some (x.long - x.short)
    tradesTodaySymbol := (s.symbolDailyTradeCounts.get? (symbol, day)).map .int
    tradesTodayGlobal := (s.globalDailyTradeCounts.get? day).map .int
    dailyLossPct := dailyLossPct s.currentEquity daily
    maxDailyLossPct := some config.maxDailyLossPct
    rollingDrawdownPct := s.rollingDrawdown
    maxRollingDrawdownPct := some config.maxRollingDrawdownPct
    lossClusterActive := some (decide (999999 ≤ s.consecutiveLossCount))
    riskStateComplete := if s.cashEvidenceComplete then none else some false
    correlationGroup := some (correlationGroupForSymbol symbol)
    correlationGroupExposure := some x.groupExp
    maxCorrelationGroupExposure := some config.maxCorrelationGroupExposure
    correlatedPositionCount := some (.int x.groupCount)
    maxCorrelatedPositions := some (.int config.maxCorrelatedPositions)
    symbolNotionalExposures := x.symbolExposures.entries
    correlationGroupExposures := x.groupExposures.entries
    correlatedPositionCounts := x.groupCounts.entries.map fun e => (e.1, .int e.2) }

/-! ## 3. The ledger -/

/-- What the calls of a run mean. -/
structure Ledger where
  /-- The positions opened and not yet closed. -/
  live : List BacktestPosition
  closed : List String
  /-- The pnl of each first close, the latest one first. -/
  pnls : List Scalar

/-- The positions with another id. -/
def without (positionId : String) (live : List BacktestPosition) : List BacktestPosition :=
  live.filter fun p => p.positionId ≠ positionId

/-- A position is opened under its id; its first close ends it and counts. -/
def Ledger.next (l : Ledger) : Op → Ledger
  | .openPosition positionId symbol side notional entryPrice timestamp =>
    match opened positionId symbol side notional entryPrice timestamp with
    | some position => { l with live := without positionId l.live ++ [position] }
    | none => l
  | .closePosition positionId _ netPnlUsdt _ =>
    if positionId ∈ l.closed then l
    else
      { live := without positionId l.live, closed := positionId :: l.closed,
        pnls := netPnlUsdt :: l.pnls }
  | _ => l

def Ledger.run (ops : List Op) : Ledger := runEvents Ledger.next ⟨[], [], []⟩ ops

/-- The initial equity and every pnl; unknown as soon as one of them is not a finite number. -/
def equityOf (initialEquity : ℚ) (pnls : List Scalar) : Option ℚ :=
  (pnls.mapM finiteNumber).map fun xs => initialEquity + xs.sum

/-- The equities that were known so far. -/
def knownEquities (initialEquity : ℚ) (pnls : List Scalar) : Set ℚ :=
  { e | ∃ earlier, earlier <:+ pnls ∧ equityOf initialEquity earlier = some e }

theorem equityOf_cons (initialEquity : ℚ) (pnl : Scalar) (pnls : List Scalar) :
    equityOf initialEquity (pnl :: pnls) =
      (finiteNumber pnl).bind fun x => (equityOf initialEquity pnls).map (· + x) := by
  unfold equityOf
  rw [List.mapM_cons]
  cases finiteNumber pnl with
  | none => rfl
  | some x =>
    cases pnls.mapM finiteNumber with
    | none => rfl
    | some xs =>
      show some (initialEquity + (x :: xs).sum) = some (initialEquity + xs.sum + x)
      rw [List.sum_cons]
      congr 1
      ring

theorem knownEquities_cons (initialEquity : ℚ) (pnl : Scalar) (pnls : List Scalar) :
    knownEquities initialEquity (pnl :: pnls) =
      { e | equityOf initialEquity (pnl :: pnls) = some e } ∪ knownEquities initialEquity pnls := by
  ext e
  constructor
  · intro ⟨earlier, hsuffix, he⟩
    rcases List.suffix_cons_iff.mp hsuffix with heq | hsuffix
    · rw [heq] at he
      exact Or.inl he
    · exact Or.inr ⟨earlier, hsuffix, he⟩
  · intro h
    rcases h with he | ⟨earlier, hsuffix, he⟩
    · exact ⟨_, List.suffix_refl _, he⟩
    · exact ⟨earlier, hsuffix.trans (List.suffix_cons _ _), he⟩

/-! ## 4. The state refines the ledger -/

/-- The positions of a state, in the order of its dictionary. -/
def State.positions (s : State) : List BacktestPosition := s.openPositions.entries.map Prod.snd

/-- The state holds the ledger's positions and its cash. -/
structure Refines (initialEquity : ℚ) (s : State) (l : Ledger) : Prop where
  ids : ∀ e ∈ s.openPositions.entries, e.2.positionId = e.1
  positions : s.positions.Perm l.live
  closed : s.closedPositionIds = l.closed
  equity : s.currentEquity = equityOf initialEquity l.pnls
  complete : s.cashEvidenceComplete = s.currentEquity.isSome
  peak : IsGreatest (knownEquities initialEquity l.pnls) s.peakEquity

section Dictionary

variable {s : State} {live : List BacktestPosition}

/-- Removing an id from the dictionary removes its position. -/
theorem positions_pop (hids : ∀ e ∈ s.openPositions.entries, e.2.positionId = e.1)
    (hperm : s.positions.Perm live) (positionId : String) :
    ((pop s.openPositions positionId).entries.map Prod.snd).Perm (without positionId live) := by
  have hmap : (pop s.openPositions positionId).entries.map Prod.snd =
      without positionId s.positions := by
    unfold pop Dictionary.keep without State.positions
    rw [List.filter_map]
    refine congrArg _ (List.filter_congr fun e he => ?_)
    simp only [Function.comp_apply, hids e he]
  rw [hmap]
  exact hperm.filter _

theorem perm_assign {entries : List (String × BacktestPosition)}
    (hids : ∀ e ∈ entries, e.2.positionId = e.1) (hnodup : (entries.map Prod.fst).Nodup)
    (position : BacktestPosition) :
    ((assign entries position.positionId position).map Prod.snd).Perm
      (without position.positionId (entries.map Prod.snd) ++ [position]) := by
  induction entries with
  | nil => exact List.Perm.refl _
  | cons e rest ih =>
    obtain ⟨hnew, hrest⟩ := List.nodup_cons.mp hnodup
    obtain ⟨hid, hids⟩ := List.forall_mem_cons.mp hids
    unfold assign
    by_cases h : e.1 = position.positionId
    · have hkeep : without position.positionId (rest.map Prod.snd) = rest.map Prod.snd := by
        refine List.filter_eq_self.mpr fun p hp => decide_eq_true fun hpid => hnew ?_
        obtain ⟨a, ha, hap⟩ := List.mem_map.mp hp
        rw [h, ← hpid, ← hap, hids a ha]
        exact List.mem_map_of_mem ha
      have hdrop : without position.positionId ((e :: rest).map Prod.snd) = rest.map Prod.snd := by
        rw [List.map_cons]
        unfold without at hkeep ⊢
        rw [List.filter_cons_of_neg (by simp [hid, h]), hkeep]
      rw [if_pos h, hdrop]
      exact (List.perm_append_singleton position (rest.map Prod.snd)).symm
    · have hcons : without position.positionId ((e :: rest).map Prod.snd) =
          e.2 :: without position.positionId (rest.map Prod.snd) := by
        rw [List.map_cons]
        unfold without
        rw [List.filter_cons_of_pos (by simp [hid, h])]
      rw [if_neg h, hcons]
      exact (ih hids hrest).cons e.2

end Dictionary

section Refinement

variable {initialEquity : ℚ} {s : State} {l : Ledger}

theorem ids_assign {entries : List (String × BacktestPosition)}
    (hids : ∀ e ∈ entries, e.2.positionId = e.1) (position : BacktestPosition) :
    ∀ e ∈ assign entries position.positionId position, e.2.positionId = e.1 := by
  induction entries with
  | nil => exact List.forall_mem_singleton.mpr rfl
  | cons a rest ih =>
    obtain ⟨ha, hids⟩ := List.forall_mem_cons.mp hids
    unfold assign
    by_cases h : a.1 = position.positionId
    · rw [if_pos h]
      exact List.forall_mem_cons.mpr ⟨rfl, hids⟩
    · rw [if_neg h]
      exact List.forall_mem_cons.mpr ⟨ha, ih hids⟩

theorem refines_open (h : Refines initialEquity s l) (positionId symbol side : String)
    (notional entryPrice : Option ℚ) (timestamp : ℤ) :
    Refines initialEquity (s.openPosition positionId symbol side notional entryPrice timestamp)
      (l.next (.openPosition positionId symbol side notional entryPrice timestamp)) := by
  simp only [State.openPosition, Ledger.next]
  cases hopened : opened positionId symbol side notional entryPrice timestamp with
  | none => exact ⟨h.ids, h.positions, h.closed, h.equity, h.complete, h.peak⟩
  | some position =>
    have hid : positionId = position.positionId := by
      unfold opened at hopened
      split at hopened
      · split at hopened
        · cases hopened
          rfl
        · cases hopened
      · cases hopened
    rw [hid]
    refine ⟨ids_assign h.ids position, ?_, h.closed, h.equity, h.complete, h.peak⟩
    exact (perm_assign h.ids s.openPositions.nodup position).trans
      ((h.positions.filter _).append_right [position])

theorem peak_pos (hpos : 0 < initialEquity) {pnls : List Scalar} {peak : ℚ}
    (h : IsGreatest (knownEquities initialEquity pnls) peak) : 0 < peak := by
  have hinitial : initialEquity ∈ knownEquities initialEquity pnls :=
    ⟨[], List.nil_suffix, by simp [equityOf]⟩
  exact lt_of_lt_of_le hpos (h.2 hinitial)

/-- A further known equity moves the running maximum. -/
theorem peak_cons {pnls : List Scalar} {peak equity : ℚ} {pnl : Scalar}
    (h : IsGreatest (knownEquities initialEquity pnls) peak)
    (hequity : equityOf initialEquity (pnl :: pnls) = some equity) :
    IsGreatest (knownEquities initialEquity (pnl :: pnls)) (max peak equity) := by
  rw [knownEquities_cons, hequity]
  constructor
  · rcases max_choice peak equity with hmax | hmax
    · rw [hmax]
      exact Or.inr h.1
    · rw [hmax]
      exact Or.inl rfl
  · intro e he
    rcases he with he | he
    · rw [← Option.some.inj he]
      exact le_max_right _ _
    · exact le_trans (h.2 he) (le_max_left _ _)

/-- An unknown equity leaves it. -/
theorem peak_cons_unknown {pnls : List Scalar} {peak : ℚ} {pnl : Scalar}
    (h : IsGreatest (knownEquities initialEquity pnls) peak)
    (hequity : equityOf initialEquity (pnl :: pnls) = none) :
    IsGreatest (knownEquities initialEquity (pnl :: pnls)) peak := by
  rw [knownEquities_cons, hequity]
  have hempty : { e : ℚ | none = some e } = ∅ := by
    ext e
    exact iff_of_false nofun (Set.notMem_empty e)
  rw [hempty, Set.empty_union]
  exact h

theorem refines_close (hpos : 0 < initialEquity) (h : Refines initialEquity s l)
    (positionId : String) (timestamp : ℤ) (netPnlUsdt : Scalar) (closeReason : String) :
    Refines initialEquity (s.closePosition positionId timestamp netPnlUsdt closeReason)
      (l.next (.closePosition positionId timestamp netPnlUsdt closeReason)) := by
  simp only [State.closePosition, Ledger.next]
  rw [h.closed]
  by_cases hclosed : positionId ∈ l.closed
  · rw [if_pos hclosed, if_pos hclosed]
    exact h
  · rw [if_neg hclosed, if_neg hclosed]
    have hids : ∀ e ∈ (pop s.openPositions positionId).entries, e.2.positionId = e.1 :=
      fun e he => h.ids e (List.mem_of_mem_filter he)
    have hperm := positions_pop h.ids h.positions positionId
    have hpeak := peak_pos hpos h.peak
    cases hpnl : finiteNumber netPnlUsdt with
    | none =>
      have hequity : equityOf initialEquity (netPnlUsdt :: l.pnls) = none := by
        rw [equityOf_cons, hpnl]
        rfl
      exact ⟨hids, hperm, rfl, hequity.symm, rfl, peak_cons_unknown h.peak hequity⟩
    | some pnl =>
      have hcomplete := h.complete
      cases hcurrent : s.currentEquity with
      | none =>
        rw [hcurrent] at hcomplete
        have hequity : equityOf initialEquity (netPnlUsdt :: l.pnls) = none := by
          rw [equityOf_cons, ← h.equity, hcurrent, hpnl]
          rfl
        simp only [hcomplete]
        exact ⟨hids, hperm, rfl, hequity.symm, rfl, peak_cons_unknown h.peak hequity⟩
      | some equity =>
        rw [hcurrent] at hcomplete
        have hequity : equityOf initialEquity (netPnlUsdt :: l.pnls) = some (equity + pnl) := by
          rw [equityOf_cons, ← h.equity, hcurrent, hpnl]
          rfl
        simp only [hcomplete, State.bookPnl, Option.getD_some]
        refine ⟨hids, hperm, rfl, hequity.symm, rfl, ?_⟩
        show IsGreatest _ (max (if s.peakEquity = 0 then equity + pnl else s.peakEquity)
          (equity + pnl))
        rw [if_neg hpeak.ne']
        exact peak_cons h.peak hequity

/-- **Every call keeps the state and the ledger together.** -/
theorem refines_next (hpos : 0 < initialEquity) (h : Refines initialEquity s l) (op : Op) :
    Refines initialEquity (s.next op) (l.next op) := by
  cases op with
  | markPending positionId notional =>
    simp only [State.next, State.markPending]
    split
    · split
      · exact ⟨h.ids, h.positions, h.closed, h.equity, h.complete, h.peak⟩
      · exact h
    · exact h
  | cancelPending positionId => exact ⟨h.ids, h.positions, h.closed, h.equity, h.complete, h.peak⟩
  | openPosition positionId symbol side notional entryPrice timestamp =>
    exact refines_open h positionId symbol side notional entryPrice timestamp
  | closePosition positionId timestamp netPnlUsdt closeReason =>
    exact refines_close hpos h positionId timestamp netPnlUsdt closeReason
  | recordTradeCount symbol timestamp =>
    exact ⟨h.ids, h.positions, h.closed, h.equity, h.complete, h.peak⟩

theorem refines_run (hpos : 0 < initialEquity) (ops : List Op) :
    Refines initialEquity (State.run initialEquity ops) (Ledger.run ops) := by
  have hstart : Refines initialEquity (State.init initialEquity) ⟨[], [], []⟩ := by
    refine ⟨nofun, List.Perm.nil, rfl, by simp [State.init, equityOf], rfl, ?_⟩
    have hknown : knownEquities initialEquity [] = {initialEquity} := by
      ext e
      simp only [knownEquities, Set.mem_ofPred_eq, List.suffix_nil, exists_eq_left,
        Set.mem_singleton_iff, equityOf, List.mapM_nil]
      simp [eq_comm]
    show IsGreatest (knownEquities initialEquity []) initialEquity
    rw [hknown]
    exact isGreatest_singleton
  unfold State.run Ledger.run runEvents
  generalize State.init initialEquity = s at hstart ⊢
  generalize (⟨[], [], []⟩ : Ledger) = l at hstart ⊢
  induction ops generalizing s l with
  | nil => exact hstart
  | cons op rest ih => exact ih _ _ (refines_next hpos hstart op)

end Refinement

/-! ## 5. Exposures as sums -/

/-- The notional of the positions that `counts` selects. -/
def amountOf (counts : BacktestPosition → Prop) [DecidablePred counts]
    (live : List BacktestPosition) :
    ℚ :=
  (live.map fun p => if counts p then p.notional else 0).sum

/-- Their number. -/
def countOf (counts : BacktestPosition → Prop) [DecidablePred counts]
    (live : List BacktestPosition) :
    ℤ :=
  (live.map fun p => if counts p then 1 else 0).sum

/-- The positions of the group of a symbol on a side. -/
def inGroup (symbol side : String) (p : BacktestPosition) : Prop :=
  entryInGroup symbol side p.symbol p

instance (symbol side : String) : DecidablePred (inGroup symbol side) :=
  fun _ => inferInstanceAs (Decidable (entryInGroup _ _ _ _))

/-- The keys under which a position counts in the maps by group. -/
def BacktestPosition.groupKeys (p : BacktestPosition) : List String :=
  Backtest.groupKeys (correlationGroupForSymbol p.symbol) (upper p.side)

/-- A snapshot for a symbol and a side adds up the given positions. -/
structure AddsUp (snap : Snapshot ℚ) (symbol side : String) (live : List BacktestPosition) :
    Prop where
  openCount : snap.openPositionCount = some (.int live.length)
  concurrentCount : snap.concurrentPositionCount = some (.int live.length)
  total : snap.totalNotionalExposure = some (amountOf (fun _ => True) live)
  ofSymbol : snap.symbolNotionalExposure = some
    (amountOf (fun p => upper p.symbol = upper symbol) live)
  long : snap.sideExposureLong = some (amountOf (fun p => upper p.side ≠ "SHORT") live)
  short : snap.sideExposureShort = some (amountOf (fun p => upper p.side = "SHORT") live)
  net : snap.netExposure = some (amountOf (fun p => upper p.side ≠ "SHORT") live -
    amountOf (fun p => upper p.side = "SHORT") live)
  group : snap.correlationGroupExposure = some (amountOf (inGroup symbol side) live)
  groupCount : snap.correlatedPositionCount = some (.int (countOf (inGroup symbol side) live))
  symbols : ∀ key, (snap.symbolNotionalExposures.lookup key).getD 0 =
    amountOf (fun p => key = upper p.symbol) live
  groups : ∀ key, (snap.correlationGroupExposures.lookup key).getD 0 =
    amountOf (fun p => key ∈ p.groupKeys) live

section Sums

variable {symbol side : String}

/-- A part of the sums that starts at 0 and takes a weight of every entry. -/
structure Counts {M : Type} [AddCommMonoid M] (symbol side : String) (f : Sums → M)
    (w : String → BacktestPosition → M) : Prop where
  start : f Sums.zero = 0
  step : ∀ x e, f (x.add symbol side e) = f x + w e.1 e.2

theorem abs_notional (p : BacktestPosition) : |p.notional| = p.notional := abs_of_pos p.positive

theorem counts_total : Counts symbol side Sums.total fun _ p => p.notional where
  start := rfl
  step x e := by simp only [Sums.add, abs_notional]

theorem counts_sym :
    Counts symbol side Sums.sym fun k p => if upper k = upper symbol then p.notional else 0 where
  start := rfl
  step x e := by
    simp only [Sums.add, abs_notional]
    split
    · rfl
    · exact (add_zero _).symm

theorem counts_long :
    Counts symbol side Sums.long fun _ p => if upper p.side ≠ "SHORT" then p.notional else 0 where
  start := rfl
  step x e := by
    simp only [Sums.add, abs_notional]
    by_cases h : upper e.2.side = "SHORT"
    · rw [if_pos h, if_neg (not_not.mpr h), add_zero]
    · rw [if_neg h, if_pos h]

theorem counts_short :
    Counts symbol side Sums.short fun _ p => if upper p.side = "SHORT" then p.notional else 0 where
  start := rfl
  step x e := by
    simp only [Sums.add, abs_notional]
    split
    · rfl
    · exact (add_zero _).symm

theorem counts_groupExp :
    Counts symbol side Sums.groupExp
      fun k p => if entryInGroup symbol side k p then p.notional else 0 where
  start := rfl
  step x e := by
    simp only [Sums.add, abs_notional]
    split
    · rfl
    · exact (add_zero _).symm

theorem counts_groupCount :
    Counts symbol side Sums.groupCount
      fun k p => if entryInGroup symbol side k p then (1 : ℤ) else 0 where
  start := rfl
  step x e := by
    simp only [Sums.add]
    split
    · rfl
    · exact (add_zero _).symm

theorem get_addTo {M : Type} [AddCommMonoid M] (d : Dictionary String M) (key k : String)
    (amount : M) :
    ((addTo d key amount).get? k).getD 0 =
      (d.get? k).getD 0 + if k = key then amount else 0 := by
  unfold addTo Dictionary.set Dictionary.get?
  dsimp only
  rw [lookup_assign]
  by_cases h : k = key
  · rw [if_pos h, if_pos h, h]
    rfl
  · rw [if_neg h, if_neg h, add_zero]

theorem get_addTo_keys {M : Type} [AddCommMonoid M] {keys : List String} (hnodup : keys.Nodup)
    (d : Dictionary String M) (k : String) (amount : M) :
    ((keys.foldl (fun d key => addTo d key amount) d).get? k).getD 0 =
      (d.get? k).getD 0 + if k ∈ keys then amount else 0 := by
  induction keys generalizing d with
  | nil => simp
  | cons key rest ih =>
    obtain ⟨hnew, hrest⟩ := List.nodup_cons.mp hnodup
    rw [List.foldl_cons, ih hrest, get_addTo, add_assoc]
    congr 1
    by_cases h : k = key
    · have hout : k ∉ rest := h ▸ hnew
      simp [h, hnew]
    · simp [h]

theorem nodup_groupKeys (group side : String) : (groupKeys group side).Nodup := by
  unfold groupKeys
  refine List.Nodup.map (fun a b h => ?_) ?_
  · have hchars := congrArg String.toList h
    simp only [String.toList_append] at hchars
    exact String.toList_inj.mp (List.append_cancel_left hchars)
  · unfold correlationSides
    split
    · exact List.nodup_singleton _
    · decide

theorem counts_symbols (key : String) :
    Counts symbol side (fun x => (x.symbolExposures.get? key).getD 0)
      fun k p => if key = upper k then p.notional else 0 where
  start := rfl
  step x e := by
    simp only [Sums.add, abs_notional]
    exact get_addTo _ _ _ _

theorem counts_groups (key : String) :
    Counts symbol side (fun x => (x.groupExposures.get? key).getD 0)
      fun k p => if key ∈ groupKeys (correlationGroupForSymbol k) (upper p.side) then p.notional
        else 0 where
  start := rfl
  step x e := by
    simp only [Sums.add, abs_notional]
    exact get_addTo_keys (nodup_groupKeys _ _) _ _ _

/-- The loop adds up the weights of its entries. -/
theorem sums_eq {M : Type} [AddCommMonoid M] {f : Sums → M} {w : String → BacktestPosition → M}
    (h : Counts symbol side f w) (entries : List (String × BacktestPosition)) :
    f (entries.foldl (Sums.add symbol side) Sums.zero) = rowSum w entries := by
  rw [foldl_rowSum h.step, h.start, zero_add]

end Sums

/-! ## 6. What the map by symbol loses -/

section Snapshot

variable {M : Type} [AddCommMonoid M]

/-- The rows that `snapshot` turns into a map. -/
def symbolRows (live : List BacktestPosition) : List (String × BacktestPosition) :=
  live.map fun p => (p.symbol, p)

theorem positionsBySymbol_eq (s : State) :
    s.positionsBySymbol = Dictionary.empty.update (symbolRows s.positions) := by
  unfold State.positionsBySymbol symbolRows State.positions
  rw [List.map_map]
  rfl

theorem keys_symbolRows (live : List BacktestPosition) :
    (symbolRows live).map Prod.fst = live.map (·.symbol) := by
  unfold symbolRows
  rw [List.map_map]
  rfl

/-- The entries of the map weigh what the latest position of each symbol does. -/
theorem rowSum_positionsBySymbol (w : String → BacktestPosition → M) (s : State) :
    rowSum w s.positionsBySymbol.entries = rowSum w (latest (symbolRows s.positions)) := by
  rw [positionsBySymbol_eq]
  have hsum := Dictionary.sum_update w (symbolRows s.positions) (Dictionary.empty : Dictionary _ _)
  rw [show Dictionary.sum _ (Dictionary.empty : Dictionary String BacktestPosition) =
    (0 : M) from rfl,
    zero_add] at hsum
  exact hsum

/-- Where no two positions share a symbol the entries weigh what the positions do. -/
theorem rowSum_of_nodup (w : String → BacktestPosition → M) {s : State}
    {live : List BacktestPosition}
    (hperm : s.positions.Perm live) (hnodup : (live.map (·.symbol)).Nodup) :
    rowSum w s.positionsBySymbol.entries = (live.map fun p => w p.symbol p).sum := by
  have hkeys : ((symbolRows s.positions).map Prod.fst).Nodup := by
    rw [keys_symbolRows]
    exact ((hperm.map _).nodup_iff).mpr hnodup
  rw [rowSum_positionsBySymbol, latest_eq_self hkeys]
  unfold rowSum symbolRows
  rw [List.map_map]
  exact (hperm.map _).sum_eq

theorem length_positionsBySymbol (s : State) :
    s.positionsBySymbol.entries.length = (latest (symbolRows s.positions)).length := by
  have hsum := rowSum_positionsBySymbol (fun _ _ => 1) s
  unfold rowSum at hsum
  simpa using hsum

/-- **A snapshot counts every open position exactly where no two of them share a symbol.** -/
theorem addsUp_iff {s : State} {live : List BacktestPosition} (hperm : s.positions.Perm live)
    (symbol side : String) (config : BacktestConfig) (timestamp : ℤ) :
    AddsUp (s.snapshot symbol side config timestamp) symbol
      (upper (if side = "" then "LONG" else side)) live ↔ (live.map (·.symbol)).Nodup := by
  constructor
  · intro h
    have hcount := h.openCount
    simp only [State.snapshot, Option.some.injEq, Portfolio.PyNum.int.injEq, Nat.cast_inj] at hcount
    rw [length_positionsBySymbol, ← hperm.length_eq] at hcount
    have hlen : (latest (symbolRows s.positions)).length = (symbolRows s.positions).length := by
      rw [hcount]
      exact (List.length_map _).symm
    have hnodup := nodup_of_length_latest hlen
    rw [keys_symbolRows] at hnodup
    exact ((hperm.map _).nodup_iff).mp hnodup
  · intro hnodup
    have hlen : s.positionsBySymbol.entries.length = live.length := by
      have hsum := rowSum_of_nodup (fun _ _ => 1) hperm hnodup
      unfold rowSum at hsum
      simpa using hsum
    generalize hside : upper (if side = "" then "LONG" else side) = candidateSide
    have hsums : ∀ {M : Type} [AddCommMonoid M] {f : Sums → M} {w : String → BacktestPosition → M},
        Counts symbol candidateSide f w →
        f (s.positionsBySymbol.entries.foldl (Sums.add symbol candidateSide) Sums.zero) =
          (live.map fun p => w p.symbol p).sum :=
      fun h => (sums_eq h _).trans (rowSum_of_nodup _ hperm hnodup)
    exact
      { openCount := by simp only [State.snapshot, hlen]
        concurrentCount := by simp only [State.snapshot, hlen]
        total := by
          simp only [State.snapshot, hside, hsums counts_total, amountOf, if_true]
        ofSymbol := by
          simp only [State.snapshot, hside, hsums counts_sym, amountOf]
        long := by
          simp only [State.snapshot, hside, hsums counts_long, amountOf]
        short := by
          simp only [State.snapshot, hside, hsums counts_short, amountOf]
        net := by
          simp only [State.snapshot, hside, hsums counts_long, hsums counts_short, amountOf]
        group := by
          simp only [State.snapshot, hside, hsums counts_groupExp]
          rfl
        groupCount := by
          simp only [State.snapshot, hside, hsums counts_groupCount]
          rfl
        symbols := by
          intro key
          have h := hsums (counts_symbols key)
          simp only [State.snapshot, hside]
          exact h
        groups := by
          intro key
          have h := hsums (counts_groups key)
          simp only [State.snapshot, hside]
          exact h }

end Snapshot

/-! ## 7. The state after any calls -/

/-- What the state after some calls has to be: its cash is that of the closes that count, the peak
    is the highest equity so far, an unknown pnl makes the equity unknown and the risk check reject,
    and every snapshot adds up the open positions. -/
structure StateCorrect (initialEquity : ℚ) (ops : List Op) : Prop where
  equity : (State.run initialEquity ops).currentEquity =
    equityOf initialEquity (Ledger.run ops).pnls
  peak : IsGreatest (knownEquities initialEquity (Ledger.run ops).pnls)
    (State.run initialEquity ops).peakEquity
  latch : (∃ pnl ∈ (Ledger.run ops).pnls, finiteNumber pnl = none) →
    ∀ symbol side config timestamp candidate,
      ((State.run initialEquity ops).snapshot symbol side config timestamp).equity = none ∧
      evaluatePortfolioRisk candidate
        ((State.run initialEquity ops).snapshot symbol side config timestamp) config.risk =
          .ok (Decision.fail .unknownPortfolioRisk)
  snapshots : ∀ symbol side config timestamp,
    AddsUp ((State.run initialEquity ops).snapshot symbol side config timestamp) symbol
      (upper (if side = "" then "LONG" else side)) (Ledger.run ops).live

theorem equityOf_eq_none {initialEquity : ℚ} {pnls : List Scalar}
    (h : ∃ pnl ∈ pnls, finiteNumber pnl = none) : equityOf initialEquity pnls = none := by
  obtain ⟨pnl, hmem, hnone⟩ := h
  induction pnls with
  | nil => exact absurd hmem List.not_mem_nil
  | cons x rest ih =>
    rw [equityOf_cons]
    rcases List.mem_cons.mp hmem with heq | hrest
    · rw [← heq, hnone]
      rfl
    · rw [ih hrest]
      cases finiteNumber x <;> rfl

/-- Without complete cash evidence every candidate is rejected. -/
theorem rejected_of_incomplete {s : State} (h : s.cashEvidenceComplete = false)
    (symbol side : String)
    (config : BacktestConfig) (timestamp : ℤ) (candidate : Candidate ℚ) :
    evaluatePortfolioRisk candidate (s.snapshot symbol side config timestamp) config.risk =
      .ok (Decision.fail .unknownPortfolioRisk) := by
  have hstate : (s.snapshot symbol side config timestamp).riskStateComplete = some false := by
    simp only [State.snapshot, h, Bool.false_eq_true, if_false]
  unfold evaluatePortfolioRisk Portfolio.gates Portfolio.stateGates
  rw [hstate]
  rfl

/-- **The state is correct exactly where no two open positions share a symbol**; of the four parts
    only the snapshots depend on that. -/
theorem state_correct_iff (initialEquity : ℚ) (hpos : 0 < initialEquity) (ops : List Op) :
    StateCorrect initialEquity ops ↔ ((Ledger.run ops).live.map (·.symbol)).Nodup := by
  have h := refines_run hpos ops
  constructor
  · intro hcorrect
    exact (addsUp_iff h.positions "" "" ⟨0, 0, 0, 0, 0, 0, 0, 0, 0, 0, 0, 0⟩ 0).mp
      (hcorrect.snapshots _ _ _ _)
  · intro hnodup
    exact
      { equity := h.equity
        peak := h.peak
        latch := by
          intro hunknown symbol side config timestamp candidate
          have hequity := h.equity.trans (equityOf_eq_none hunknown)
          have hcomplete := h.complete
          rw [hequity] at hcomplete
          exact ⟨hequity, rejected_of_incomplete hcomplete symbol side config timestamp candidate⟩
        snapshots := fun symbol side config timestamp =>
          (addsUp_iff h.positions symbol side config timestamp).mpr hnodup }

/-- Two positions of one symbol, opened one after the other. -/
def overlapping : List Op :=
  [ .openPosition "a" "BTCUSDT" "LONG" (some 100) (some 10) 1,
    .openPosition "b" "BTCUSDT" "LONG" (some 50) (some 10) 2 ]

theorem state_correct_closed :
    StateCorrect 1000 (overlapping ++ [.closePosition "b" 3 (.float 5) "TP_HIT"]) :=
  (state_correct_iff 1000 (by norm_num) _).mpr (by decide +kernel)

/-- The snapshot counts only the second one. -/
theorem state_correct_overlapping :
    ¬ StateCorrect 1000 overlapping ∧
    ((State.run 1000 overlapping).snapshot "BTCUSDT" "LONG" ⟨5, 5, 0, 0, 0, 0, 0, 0, 0, 0, 0, 0⟩
      3).totalNotionalExposure = some 50 ∧
    amountOf (fun _ => True) (Ledger.run overlapping).live = 150 := by
  refine ⟨fun h => ?_, by decide +kernel, by decide +kernel⟩
  have hnodup := (state_correct_iff 1000 (by norm_num) overlapping).mp h
  exact absurd hnodup (by decide +kernel)

end AlphaForge.Backtest
