/-
  File:      AlphaForge/Learning/ClosedTrades.lean
  Subject:   What one closed trade leaves in the review and expectancy tables (`order.py`,
             `ai_brain.py`, `persistence.py`), and what `update_adaptive_stats` makes of it.

  * `afterPositionClose` -- three expectancy upserts and three review rows, of which only the middle
    one has a setup, a regime and a net pnl.
  * `updateAdaptiveStats` -- counts and averages the rows of a scope.
  * **`adaptive_stats_iff`** -- the statistics of a scope are those of its trades for a regime or a
    setup, and for a symbol or the whole book only if it has no trade; a second pass of a trade
    always changes the tables.
  * `two_trades_counted_six` -- two trades, a sample of six, and a second pass counts one of them
    again.

  `REAL` columns are rational numbers. The lifecycle event of `after_position_close` has no state
  and is never written; columns that the statistics do not read are left out.
-/
import Mathlib.Algebra.Order.BigOperators.Group.List
import Mathlib.Data.Rat.Lemmas
import Mathlib.Tactic.Ring
import Mathlib.Tactic.Linarith

namespace AlphaForge.Learning

/-! ## 1. Trades and tables -/

/-- A closed trade: what `after_position_close` reads of the mapping. `netPnlPct` tells a missing
    key from a key with `None`. -/
structure ClosedTrade where
  tradeId : Option String := none
  symbol : Option String := none
  setup : Option String := none
  regime : Option String := none
  pnl : Option ℚ := none
  netPnlPct : Option (Option ℚ) := none
  effectiveRr : Option ℚ := none
  spreadPct : Option ℚ := none
  expectedSlippagePct : Option ℚ := none
  deriving DecidableEq

namespace ClosedTrade

def symbolText (t : ClosedTrade) : String := t.symbol.getD "unknown"

def setupText (t : ClosedTrade) : String := t.setup.getD "unknown"

def regimeText (t : ClosedTrade) : String := t.regime.getD "unknown"

/-- `_num(closed_trade, "pnl", 0.0)`. -/
def pnlNumber (t : ClosedTrade) : ℚ := t.pnl.getD 0

/-- `closed_trade.get("net_pnl_pct", pnl)`. -/
def netPnl (t : ClosedTrade) : Option ℚ := t.netPnlPct.getD (some t.pnlNumber)

end ClosedTrade

/-- A row of `closed_trade_reviews`. -/
structure ReviewRow where
  tradeId : String
  symbol : String
  setupType : Option String := none
  regime : Option String := none
  effectiveRr : Option ℚ := none
  netPnlPct : Option ℚ := none
  spreadPct : Option ℚ := none
  expectedSlippagePct : Option ℚ := none
  actualSlippagePct : Option ℚ := none
  deriving DecidableEq

/-- A row of `rejected_signal_reviews`. -/
structure RejectReview where
  symbol : Option String
  setupType : Option String
  regime : Option String
  rejectCorrect : Option Bool
  executionInvalidated : Bool
  outcomeAmbiguous : Bool
  evidenceComplete : Option Bool
  deriving DecidableEq

/-- A row of `setup_expectancy_stats`, `regime_expectancy_stats` or `symbol_expectancy_stats`. -/
structure ExpectancyRow where
  samples : Nat
  winCount : Nat
  totalPnl : ℚ
  expectancy : ℚ
  deriving DecidableEq

/-- An expectancy table, by its key. -/
abbrev ExpectancyTable := String → Option ExpectancyRow

structure Database where
  reviews : List ReviewRow
  rejects : List RejectReview
  setupExpectancy : ExpectancyTable
  regimeExpectancy : ExpectancyTable
  symbolExpectancy : ExpectancyTable

def Database.empty : Database where
  reviews := []
  rejects := []
  setupExpectancy := fun _ => none
  regimeExpectancy := fun _ => none
  symbolExpectancy := fun _ => none

/-! ## 2. A close -/

/-- `_upsert_expectancy`. -/
def upsertExpectancy (table : ExpectancyTable) (key : String) (pnl : ℚ) : ExpectancyTable :=
  let win := if pnl > 0 then 1 else 0
  Function.update table key <| some <|
    match table key with
    | none => { samples := 1, winCount := win, totalPnl := pnl, expectancy := pnl }
    | some row =>
      { samples := row.samples + 1
        winCount := row.winCount + win
        totalPnl := row.totalPnl + pnl
        expectancy := (row.totalPnl + pnl) / ((row.samples : ℚ) + 1) }

section Close

-- `total_realized_execution_cost_pct` of `build_execution_review_metrics`
variable (executionCost : ClosedTrade → Option ℚ)

/-- The row that names the trade and its symbol only. -/
def bareReview (t : ClosedTrade) : ReviewRow where
  tradeId := t.tradeId.getD ""
  symbol := t.symbolText

/-- `record_closed_trade_review`. -/
def closedTradeReview (t : ClosedTrade) : ReviewRow where
  tradeId := t.tradeId.getD ""
  symbol := t.symbolText
  setupType := some t.setupText
  regime := some t.regimeText
  effectiveRr := t.effectiveRr
  netPnlPct := t.netPnl
  spreadPct := t.spreadPct
  expectedSlippagePct := t.expectedSlippagePct
  actualSlippagePct := executionCost t

/-- `AIBrain.learn_from_closed_trade`. -/
def learnFromClosedTrade (t : ClosedTrade) (db : Database) : Database :=
  { db with
    setupExpectancy := upsertExpectancy db.setupExpectancy t.setupText t.pnlNumber
    regimeExpectancy := upsertExpectancy db.regimeExpectancy t.regimeText t.pnlNumber
    symbolExpectancy := upsertExpectancy db.symbolExpectancy t.symbolText t.pnlNumber
    reviews := db.reviews ++ [bareReview t] ++ [closedTradeReview executionCost t] }

/-- `save_closed_trade_review`. -/
def saveClosedTradeReview (t : ClosedTrade) (db : Database) : Database :=
  { db with reviews := db.reviews ++ [bareReview t] }

/-- `after_position_close`. -/
def afterPositionClose (db : Database) (t : ClosedTrade) : Database :=
  saveClosedTradeReview t (learnFromClosedTrade executionCost t db)

/-- The tables after the trades were passed one after the other. -/
def closeAll (trades : List ClosedTrade) : Database :=
  trades.foldl (afterPositionClose executionCost) .empty

end Close

/-! ## 3. `update_adaptive_stats` -/

inductive ScopeType where
  | global
  | symbol
  | regime
  | setup
  deriving DecidableEq, Repr

structure Scope where
  scopeType : ScopeType
  scopeKey : String
  deriving DecidableEq, Repr

/-- The `WHERE` clause: a null column equals no key. -/
def Scope.matches (scope : Scope) (symbol regime setupType : Option String) : Bool :=
  match scope.scopeType with
  | .global => true
  | .symbol => symbol = some scope.scopeKey
  | .regime => regime = some scope.scopeKey
  | .setup => setupType = some scope.scopeKey

def Scope.review (scope : Scope) (row : ReviewRow) : Bool :=
  scope.matches (some row.symbol) row.regime row.setupType

def Scope.reject (scope : Scope) (row : RejectReview) : Bool :=
  scope.matches row.symbol row.regime row.setupType

/-- `AVG` of the values that are not null. -/
def sqlAvg (values : List (Option ℚ)) : Option ℚ :=
  let known := values.filterMap id
  if known = [] then none else some (known.sum / known.length)

/-- `calculate_reject_accuracy`. -/
def calculateRejectAccuracy (rows : List RejectReview) : Option ℚ :=
  let labeled := rows.filter fun r =>
    r.rejectCorrect.isSome && !r.executionInvalidated && !r.outcomeAmbiguous &&
      r.evidenceComplete ≠ some false
  if labeled = [] then none
  else some (((labeled.countP fun r => r.rejectCorrect = some true) : ℚ) / labeled.length)

/-- A row of `adaptive_stats`. -/
structure AdaptiveStats where
  sampleSize : Nat
  winRate : Option ℚ
  avgNetPnlPct : Option ℚ
  avgEffectiveRr : Option ℚ
  avgSpreadPct : Option ℚ
  avgSlippagePct : Option ℚ
  rejectAccuracy : Option ℚ
  expectancy : ℚ
  confidence : ℚ
  deriving DecidableEq

/-- `net_pnl_pct > 0`, where null is not. -/
def winning (netPnlPct : Option ℚ) : Bool := netPnlPct.any fun pnl => 0 < pnl

/-- `update_adaptive_stats`. -/
def updateAdaptiveStats (db : Database) (scope : Scope) : AdaptiveStats :=
  let rows := db.reviews.filter scope.review
  let rejects := db.rejects.filter scope.reject
  let avgNetPnlPct := sqlAvg (rows.map ReviewRow.netPnlPct)
  { sampleSize := rows.length
    winRate := sqlAvg (rows.map fun row => some (if winning row.netPnlPct then 1 else 0))
    avgNetPnlPct := avgNetPnlPct
    avgEffectiveRr := sqlAvg (rows.map ReviewRow.effectiveRr)
    avgSpreadPct := sqlAvg (rows.map ReviewRow.spreadPct)
    avgSlippagePct := sqlAvg (rows.map fun row => row.actualSlippagePct.or row.expectedSlippagePct)
    rejectAccuracy := calculateRejectAccuracy rejects
    expectancy := avgNetPnlPct.getD 0
    confidence := min 1 ((rows.length : ℚ) / 200) }

/-! ## 4. What the statistics should say -/

/-- Closed trades with different ids. -/
structure ClosedTrades where
  trades : List ClosedTrade
  distinct : (trades.map ClosedTrade.tradeId).Nodup

/-- The trade belongs to the scope. -/
def Scope.trade (scope : Scope) (t : ClosedTrade) : Bool :=
  scope.matches (some t.symbolText) (some t.regimeText) (some t.setupText)

/-- The trades of a scope. -/
def Scope.trades (scope : Scope) (trades : List ClosedTrade) : List ClosedTrade :=
  trades.filter scope.trade

/-- The fraction of trades with a positive net pnl. -/
def winFraction (trades : List ClosedTrade) : Option ℚ :=
  if trades = [] then none
  else some (((trades.countP fun t => winning t.netPnl) : ℚ) / trades.length)

/-- The mean net pnl of the trades, of those that have one. -/
def meanNetPnl (trades : List ClosedTrade) : ℚ :=
  (trades.filterMap ClosedTrade.netPnl).sum / (trades.filterMap ClosedTrade.netPnl).length

/-- The statistics are those of the trades. -/
structure StatsOf (stats : AdaptiveStats) (trades : List ClosedTrade) : Prop where
  sampleSize : stats.sampleSize = trades.length
  winRate : stats.winRate = winFraction trades
  expectancy : stats.expectancy = meanNetPnl trades

/-- The expectancy tables and every scope's statistics are the same. -/
def Unchanged (db db' : Database) : Prop :=
  db'.setupExpectancy = db.setupExpectancy ∧ db'.regimeExpectancy = db.regimeExpectancy ∧
    db'.symbolExpectancy = db.symbolExpectancy ∧
      ∀ scope, updateAdaptiveStats db' scope = updateAdaptiveStats db scope

/-! ## 5. The rows of the trades -/

section Rows

variable (executionCost : ClosedTrade → Option ℚ)

/-- The rows of one close. -/
def closeRows (t : ClosedTrade) : List ReviewRow :=
  [bareReview t, closedTradeReview executionCost t, bareReview t]

theorem close_reviews (db : Database) (t : ClosedTrade) :
    (afterPositionClose executionCost db t).reviews = db.reviews ++ closeRows executionCost t := by
  simp [afterPositionClose, saveClosedTradeReview, learnFromClosedTrade, closeRows]

theorem closeAll_reviews (trades : List ClosedTrade) :
    (closeAll executionCost trades).reviews = trades.flatMap (closeRows executionCost) := by
  have hall : ∀ db : Database, (trades.foldl (afterPositionClose executionCost) db).reviews =
      db.reviews ++ trades.flatMap (closeRows executionCost) := by
    induction trades with
    | nil => simp
    | cons t trades ih =>
      intro db
      rw [List.foldl_cons, ih, close_reviews, List.flatMap_cons, List.append_assoc]
  exact hall .empty

/-- A regime or setup scope sees the full row of each of its trades. -/
theorem narrow_rows {scope : Scope} (h : scope.scopeType ∈ [ScopeType.regime, .setup])
    (trades : List ClosedTrade) :
    (trades.flatMap (closeRows executionCost)).filter scope.review =
      (scope.trades trades).map (closedTradeReview executionCost) := by
  have hbare : ∀ t, scope.review (bareReview t) = false := by
    intro t
    unfold Scope.review Scope.matches bareReview
    rcases List.mem_cons.mp h with hs | hs
    · rw [hs]
      rfl
    · rw [List.mem_singleton.mp hs]
      rfl
  have hfull : ∀ t, scope.review (closedTradeReview executionCost t) = scope.trade t := fun t => rfl
  induction trades with
  | nil => rfl
  | cons t trades ih =>
    rw [List.flatMap_cons, List.filter_append, ih]
    unfold Scope.trades closeRows
    rw [List.filter_cons_of_neg (by simp [hbare])]
    by_cases ht : scope.trade t = true
    · rw [List.filter_cons_of_pos (by rw [hfull, ht]), List.filter_cons_of_neg (by simp [hbare]),
        List.filter_cons_of_pos ht]
      rfl
    · rw [List.filter_cons_of_neg (by rw [hfull]; exact ht),
        List.filter_cons_of_neg (by simp [hbare]), List.filter_cons_of_neg ht]
      rfl

/-- The whole book or a symbol sees all three rows of each of its trades. -/
theorem wide_length {scope : Scope} (h : scope.scopeType ∉ [ScopeType.regime, .setup])
    (trades : List ClosedTrade) :
    ((trades.flatMap (closeRows executionCost)).filter scope.review).length =
      3 * (scope.trades trades).length := by
  have hmatch : ∀ symbol r s r' s', scope.matches symbol r s = scope.matches symbol r' s' := by
    intro symbol r s r' s'
    unfold Scope.matches
    cases hs : scope.scopeType with
    | global => rfl
    | symbol => rfl
    | regime => exact absurd hs (by rintro hs; simp [hs] at h)
    | setup => exact absurd hs (by rintro hs; simp [hs] at h)
  induction trades with
  | nil => rfl
  | cons t trades ih =>
    rw [List.flatMap_cons, List.filter_append, List.length_append, ih]
    have hbare : scope.review (bareReview t) = scope.trade t := hmatch _ _ _ _ _
    have hfull : scope.review (closedTradeReview executionCost t) = scope.trade t := rfl
    unfold Scope.trades
    by_cases ht : scope.trade t = true
    · have hrows : ((closeRows executionCost t).filter scope.review).length = 3 := by
        simp [closeRows, hbare, hfull, ht]
      rw [hrows, List.filter_cons_of_pos ht, List.length_cons]
      omega
    · have hrows : ((closeRows executionCost t).filter scope.review).length = 0 := by
        simp [closeRows, hbare, hfull, ht]
      rw [hrows, List.filter_cons_of_neg ht]
      omega

end Rows

/-! ## 6. When the statistics are right -/

/-- The average of an indicator is the share of the elements that have it. -/
theorem sqlAvg_indicator {α : Type} (p : α → Bool) (l : List α) :
    sqlAvg (l.map fun a => some (if p a then 1 else 0)) =
      if l = [] then none else some ((l.countP p : ℚ) / l.length) := by
  have hsum : (l.map fun a => if p a then (1 : ℚ) else 0).sum = l.countP p := by
    induction l with
    | nil => rfl
    | cons a l ih =>
      rw [List.map_cons, List.sum_cons, ih, List.countP_cons]
      cases p a with
      | true => push_cast; ring
      | false => simp
  have hknown : (l.map fun a => some (if p a then (1 : ℚ) else 0)).filterMap id =
      l.map fun a => if p a then (1 : ℚ) else 0 := by
    rw [List.filterMap_map]
    exact congrFun List.filterMap_eq_map l
  unfold sqlAvg
  simp only [hknown, hsum, List.map_eq_nil_iff, List.length_map]

/-- The average of the known values, where no value counts as zero. -/
theorem sqlAvg_getD (values : List (Option ℚ)) :
    (sqlAvg values).getD 0 = (values.filterMap id).sum / (values.filterMap id).length := by
  unfold sqlAvg
  by_cases h : values.filterMap id = []
  · rw [if_pos h, h]
    simp
  · rw [if_neg h, Option.getD_some]

section Stats

variable (executionCost : ClosedTrade → Option ℚ)

/-- A regime or a setup is averaged over its trades. -/
theorem narrow_stats {scope : Scope} (h : scope.scopeType ∈ [ScopeType.regime, .setup])
    (trades : List ClosedTrade) :
    StatsOf (updateAdaptiveStats (closeAll executionCost trades) scope) (scope.trades trades) := by
  have hrows : (closeAll executionCost trades).reviews.filter scope.review =
      (scope.trades trades).map (closedTradeReview executionCost) := by
    rw [closeAll_reviews, narrow_rows executionCost h]
  refine ⟨?_, ?_, ?_⟩
  · simp only [updateAdaptiveStats, hrows, List.length_map]
  · simp only [updateAdaptiveStats, hrows, List.map_map]
    exact sqlAvg_indicator (fun t => winning t.netPnl) (scope.trades trades)
  · simp only [updateAdaptiveStats, hrows, sqlAvg_getD, List.map_map, List.filterMap_map]
    rfl

/-- Without trades a scope has no rows. -/
theorem empty_stats {scope : Scope} {trades : List ClosedTrade} (h : scope.trades trades = []) :
    StatsOf (updateAdaptiveStats (closeAll executionCost trades) scope) (scope.trades trades) := by
  by_cases hscope : scope.scopeType ∈ [ScopeType.regime, .setup]
  · exact narrow_stats executionCost hscope trades
  · have hlength := wide_length executionCost hscope trades
    rw [h, List.length_nil, Nat.mul_zero, ← closeAll_reviews] at hlength
    have hrows := List.length_eq_zero_iff.mp hlength
    rw [h]
    refine ⟨?_, ?_, ?_⟩
    · simp only [updateAdaptiveStats, hrows]
      rfl
    · simp only [updateAdaptiveStats, hrows]
      rfl
    · simp only [updateAdaptiveStats, hrows, sqlAvg_getD]
      rfl

/-- A further sample is a further sample. -/
theorem upsert_ne (table : ExpectancyTable) (key : String) (pnl : ℚ) :
    upsertExpectancy table key pnl ≠ table := by
  intro h
  have hkey := congrFun h key
  rw [upsertExpectancy, Function.update_self] at hkey
  cases hrow : table key with
  | none =>
    rw [hrow] at hkey
    exact nomatch hkey
  | some row =>
    rw [hrow] at hkey
    have hsamples := congrArg ExpectancyRow.samples (Option.some.inj hkey)
    simp at hsamples

/-- **The statistics of a scope are those of its trades exactly for a regime, a setup, or a scope
    without trades; and no trade can be passed again without a change.** -/
theorem adaptive_stats_iff (closed : ClosedTrades) (scope : Scope) :
    (StatsOf (updateAdaptiveStats (closeAll executionCost closed.trades) scope)
        (scope.trades closed.trades) ↔
      scope.scopeType ∈ [ScopeType.regime, .setup] ∨ scope.trades closed.trades = []) ∧
    ∀ t ∈ closed.trades, ¬ Unchanged (closeAll executionCost closed.trades)
      (afterPositionClose executionCost (closeAll executionCost closed.trades) t) := by
  refine ⟨⟨fun h => ?_, fun h => ?_⟩, fun t _ h => ?_⟩
  · by_cases hscope : scope.scopeType ∈ [ScopeType.regime, .setup]
    · exact Or.inl hscope
    · -- three rows for each trade
      have hsize := h.sampleSize
      simp only [updateAdaptiveStats, closeAll_reviews, wide_length executionCost hscope] at hsize
      have hnone : (scope.trades closed.trades).length = 0 := by omega
      exact Or.inr (List.length_eq_zero_iff.mp hnone)
  · rcases h with hscope | hnone
    · exact narrow_stats executionCost hscope closed.trades
    · exact empty_stats executionCost hnone
  · exact upsert_ne _ _ _ h.1

end Stats

def sampleWin : ClosedTrade := { tradeId := some "t1", symbol := some "BTCUSDT", pnl := some 1 }

def sampleLoss : ClosedTrade := { tradeId := some "t2", symbol := some "BTCUSDT", pnl := some (-1) }

/-- Two trades of one symbol, one of them won: a sample of six and a win rate of one sixth; and a
    second pass of the winner counts it again. -/
theorem two_trades_counted_six :
    let db := closeAll (fun _ => none) [sampleWin, sampleLoss]
    let again := afterPositionClose (fun _ => none) db sampleWin
    let stats := updateAdaptiveStats db ⟨.symbol, "BTCUSDT"⟩
    stats.sampleSize = 6 ∧ stats.winRate = some (1 / 6) ∧
      winFraction [sampleWin, sampleLoss] = some (1 / 2) ∧
      (db.symbolExpectancy "BTCUSDT").map ExpectancyRow.samples = some 2 ∧
      (again.symbolExpectancy "BTCUSDT").map ExpectancyRow.samples = some 3 := by
  decide +kernel

end AlphaForge.Learning
