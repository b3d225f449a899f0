/-
  File:      AlphaForge/Portfolio/RiskState.lean
  Subject:   `_paper_portfolio_risk_state`: the risk history of a PAPER campaign, rebuilt from its
             accepted trades and their outcomes. Definitions.

  Two queries, in the textual order of a time column, and one fold over each; every inconsistency
  adds to `missing`, and any of them withholds every value. Times are texts of the database with
  the instant that is read in them; numbers are `F`.
-/
import AlphaForge.Lib.Numbers
import AlphaForge.Lib.PyValues
import Mathlib.Data.List.Sort

namespace AlphaForge.Portfolio

open AlphaForge.Lib

/-! ## 1. Times -/

/-- A value of a time column. A number comes with the instant of its epoch seconds, a text with
    its reading once `Z` is written `+00:00`. -/
inductive StoredTime where
  | null
  | number (value : ℚ) (instant : Option ℤ)
  | text (t : TimeText)
  deriving DecidableEq, Repr

/-- `_portfolio_risk_dt`, in microseconds; a time without offset is one of UTC. -/
def portfolioRiskDt : StoredTime → Option ℤ
  | .null => none
  | .number _ instant => instant
  | .text t => if t.text = "" then none else t.reading.map Dt.micros

/-- The order of SQLite: NULL, then numbers, then texts by their bytes. -/
def StoredTime.lt : StoredTime → StoredTime → Bool
  | .null, .null => false
  | .null, _ => true
  | _, .null => false
  | .number a _, .number b _ => a < b
  | .number _ _, .text _ => true
  | .text _, .number _ _ => false
  | .text a, .text b => a.text < b.text

/-- `ORDER BY time, id`. -/
def SqlBefore {α : Type} (time : α → StoredTime) (id : α → ℕ) (a b : α) : Prop :=
  (time a).lt (time b) = true ∨ (time b).lt (time a) = false ∧ id a ≤ id b

instance {α : Type} (time : α → StoredTime) (id : α → ℕ) : DecidableRel (SqlBefore time id) :=
  fun _ _ => inferInstanceAs (Decidable (_ ∨ _))

def orderBy {α : Type} (time : α → StoredTime) (id : α → ℕ) (rows : List α) : List α :=
  rows.insertionSort (SqlBefore time id)

/-- `datetime.date`, as the number of the day. -/
def dayOf (instant : ℤ) : ℤ := instant / 86400000000

/-! ## 2. Rows and report -/

/-- A row of `burnin_pending_position_outcomes`, joined with the campaign of its run. -/
structure AcceptedRow where
  id : ℕ
  tradeId : String
  burninRunId : String
  symbol : String
  entryTime : StoredTime
  status : String
  pendingEvidenceComplete : ℤ
  lineageCampaignId : Option String
  deriving DecidableEq, Repr

/-- A row of `burnin_trade_outcomes`. -/
structure OutcomeRow (F : Type) where
  id : ℕ
  tradeId : Option String
  burninRunId : String
  symbol : Option String
  closedAt : StoredTime
  netPnl : Option F
  exitReason : Option String
  evidenceComplete : ℤ
  deriving DecidableEq, Repr

/-- `str(row.get("trade_id") or "")`. -/
def OutcomeRow.trade {F : Type} (o : OutcomeRow F) : String := o.tradeId.getD ""

/-- `str(row.get("symbol") or "").upper()`. -/
def OutcomeRow.symbolU {F : Type} (o : OutcomeRow F) : String := upper (o.symbol.getD "")

/-- What the report withholds while anything is missing. -/
structure RiskValues (F : Type) where
  equity : Option F
  availableBalance : Option F
  dailyRealizedPnl : Option F
  rollingPeakEquity : Option F
  rollingDrawdownPct : Option F
  maxDrawdownPct : Option F
  maxDrawdownPeakEquity : Option F
  maxDrawdownTroughEquity : Option F
  consecutiveLossCount : Option ℕ
  symbolConsecutiveLossCount : Option ℕ
  tradesTodaySymbol : Option ℕ
  tradesTodayGlobal : Option ℕ
  deriving Repr

def RiskValues.missing {F : Type} : RiskValues F where
  equity := none
  availableBalance := none
  dailyRealizedPnl := none
  rollingPeakEquity := none
  rollingDrawdownPct := none
  maxDrawdownPct := none
  maxDrawdownPeakEquity := none
  maxDrawdownTroughEquity := none
  consecutiveLossCount := none
  symbolConsecutiveLossCount := none
  tradesTodaySymbol := none
  tradesTodayGlobal := none

structure RiskReport (F : Type) where
  values : RiskValues F
  persistedCooldownUntil : Option F
  riskStateComplete : Bool
  riskStateSource : String
  riskStateMissingFields : List String
  deriving Repr

/-! ## 3. Accepted trades -/

structure AcceptedState where
  /-- The rows that the dictionaries hold, first of each trade. -/
  kept : List AcceptedRow
  missing : List String
  tradesTodayGlobal : ℕ
  tradesTodaySymbol : ℕ
  latestSymbolEntry : Option ℤ
  deriving DecidableEq, Repr

def AcceptedState.start (missing : List String) : AcceptedState where
  kept := []
  missing := missing
  tradesTodayGlobal := 0
  tradesTodaySymbol := 0
  latestSymbolEntry := none

/-- The entry of an accepted trade, where it is not in the future. -/
def AcceptedRow.entered (now : ℤ) (a : AcceptedRow) : Option ℤ :=
  match portfolioRiskDt a.entryTime with
  | some entry => if now < entry then none else some entry
  | none => none

/-- What is wrong with an accepted trade, in the order of the source. -/
def AcceptedRow.faults (campaignId : String) (now : ℤ) (a : AcceptedRow) : List String :=
  let status := upper a.status
  (if a.lineageCampaignId.getD "" = campaignId then []
    else ["accepted_trade_lineage:" ++ a.tradeId]) ++
  (if upper a.symbol = "" then ["accepted_trade_symbol:" ++ a.tradeId] else []) ++
  (if a.entered now = none then ["accepted_trade_entry_time:" ++ a.tradeId] else []) ++
  (if status = "CLOSED" ∨ status = "OPEN" then []
    else ["accepted_trade_status:" ++ a.tradeId ++ ":" ++
      (if status = "" then "UNKNOWN" else status)])

/-- The later of two entries. -/
def latestEntry (latest : Option ℤ) (entry : ℤ) : Option ℤ :=
  match latest with
  | none => some entry
  | some known => if known < entry then some entry else some known

/-- One round of the first loop. -/
def acceptRow (campaignId symbol : String) (now : ℤ) (st : AcceptedState) (a : AcceptedRow) :
    AcceptedState :=
  if a.tradeId = "" then { st with missing := st.missing ++ ["accepted_trade_id"] }
  else if a.tradeId ∈ st.kept.map (·.tradeId) then
    { st with missing := st.missing ++ ["duplicate_accepted_trade:" ++ a.tradeId] }
  else
    let own := upper a.symbol = upper symbol
    let today := (a.entered now).map dayOf = some (dayOf now)
    { kept := st.kept ++ [a]
      missing := st.missing ++ a.faults campaignId now
      tradesTodayGlobal := st.tradesTodayGlobal + if today then 1 else 0
      tradesTodaySymbol := st.tradesTodaySymbol + if today ∧ own then 1 else 0
      latestSymbolEntry :=
        match a.entered now with
        | some entry => if own then latestEntry st.latestSymbolEntry entry
            else st.latestSymbolEntry
        | none => st.latestSymbolEntry }

/-! ## 4. Realized outcomes -/

section Outcomes

variable {F : Type} [FloatNum F]

structure EquityCurve (F : Type) where
  current : F
  peak : F
  maxDrawdownPct : F
  maxDrawdownPeak : F
  maxDrawdownTrough : F
  deriving DecidableEq, Repr

def EquityCurve.start (initial : F) : EquityCurve F where
  current := initial
  peak := initial
  maxDrawdownPct := FloatNum.ofInt 0
  maxDrawdownPeak := initial
  maxDrawdownTrough := initial

/-- The drawdown from the peak; none for a peak that is not positive. -/
def EquityCurve.drawdown (c : EquityCurve F) : Option F :=
  if FloatNum.ofInt 0 < c.peak then
    let drawdown := (c.peak - c.current) / c.peak
    some (if FloatNum.ofInt 0 < drawdown then drawdown else FloatNum.ofInt 0)
  else none

def EquityCurve.add (netPnl : F) (c : EquityCurve F) : EquityCurve F :=
  let current := c.current + netPnl
  let moved : EquityCurve F :=
    { c with current := current, peak := if c.peak < current then current else c.peak }
  match moved.drawdown with
  | some drawdown =>
    if c.maxDrawdownPct < drawdown then
      { moved with
        maxDrawdownPct := drawdown
        maxDrawdownPeak := moved.peak
        maxDrawdownTrough := moved.current }
    else moved
  | none => moved

structure Realized (F : Type) where
  curve : Option (EquityCurve F)
  dailyRealizedPnl : F
  consecutiveLosses : ℕ
  symbolConsecutiveLosses : ℕ
  deriving DecidableEq, Repr

def Realized.start (initial : Option F) : Realized F where
  curve := initial.map EquityCurve.start
  dailyRealizedPnl := FloatNum.ofInt 0
  consecutiveLosses := 0
  symbolConsecutiveLosses := 0

/-- A loss streak after one more outcome. -/
def streakStep (netPnl : F) (exitReason : String) (streak : ℕ) : ℕ :=
  if netPnl < FloatNum.ofInt 0 ∨ exitReason = "SL_HIT" then streak + 1
  else if FloatNum.ofInt 0 < netPnl ∨ exitReason = "TP_HIT" then 0
  else streak

/-- The end of one round of the second loop. -/
def Realized.add (symbol : String) (now closed : ℤ) (netPnl : F) (o : OutcomeRow F)
    (r : Realized F) : Realized F :=
  let exitReason := upper (o.exitReason.getD "")
  { curve := r.curve.map (EquityCurve.add netPnl)
    dailyRealizedPnl :=
      if dayOf closed = dayOf now then r.dailyRealizedPnl + netPnl else r.dailyRealizedPnl
    consecutiveLosses := streakStep netPnl exitReason r.consecutiveLosses
    symbolConsecutiveLosses :=
      if o.symbolU = upper symbol then streakStep netPnl exitReason r.symbolConsecutiveLosses
      else r.symbolConsecutiveLosses }

structure OutcomeState (F : Type) where
  outcomeIds : List String
  missing : List String
  realized : Realized F
  deriving DecidableEq, Repr

/-- The closing instant and the result of an outcome that passes every check against the accepted
    trades. -/
def checkedOutcome (kept : List AcceptedRow) (outcomeIds : List String) (now : ℤ)
    (o : OutcomeRow F) : Option (ℤ × F) :=
  match kept.find? (·.tradeId = o.trade), portfolioRiskDt o.closedAt, o.netPnl with
  | some a, some closed, some netPnl =>
    match portfolioRiskDt a.entryTime with
    | some entry =>
      if o.trade ≠ "" ∧ o.trade ∉ outcomeIds ∧ upper a.status = "CLOSED" ∧
          a.pendingEvidenceComplete = 1 ∧ upper a.symbol = o.symbolU ∧
          a.burninRunId = o.burninRunId ∧ o.evidenceComplete = 1 ∧ entry ≤ closed ∧
          closed ≤ now ∧ FloatNum.isFinite netPnl = true then
        some (closed, netPnl)
      else none
    | none => none
  | _, _, _ => none

/-- One round of the second loop. -/
def realizeRow (symbol : String) (kept : List AcceptedRow) (now : ℤ) (st : OutcomeState F)
    (o : OutcomeRow F) : OutcomeState F :=
  match checkedOutcome kept st.outcomeIds now o with
  | some (closed, netPnl) =>
    { outcomeIds := st.outcomeIds ++ [o.trade]
      missing := st.missing
      realized := st.realized.add symbol now closed netPnl o }
  | none =>
    { st with
      missing := st.missing ++
        ["realized_trade_outcome:" ++ (if o.trade = "" then "UNKNOWN" else o.trade)] }

/-! ## 5. The report -/

/-- The values of a report that lacks nothing. -/
def RiskValues.of (realized : Realized F) (tradesTodayGlobal tradesTodaySymbol : ℕ) :
    RiskValues F where
  equity := realized.curve.map (·.current)
  availableBalance := realized.curve.map (·.current)
  dailyRealizedPnl := some realized.dailyRealizedPnl
  rollingPeakEquity := realized.curve.map (·.peak)
  rollingDrawdownPct := realized.curve.bind EquityCurve.drawdown
  maxDrawdownPct := realized.curve.map (·.maxDrawdownPct)
  maxDrawdownPeakEquity := realized.curve.map (·.maxDrawdownPeak)
  maxDrawdownTroughEquity := realized.curve.map (·.maxDrawdownTrough)
  consecutiveLossCount := some realized.consecutiveLosses
  symbolConsecutiveLossCount := some realized.symbolConsecutiveLosses
  tradesTodaySymbol := some tradesTodaySymbol
  tradesTodayGlobal := some tradesTodayGlobal

/-- What the function finds behind its campaign. -/
inductive Loaded (F : Type) where
  /-- No campaign: the runtime's own session. -/
  | unscoped
  | noEngine
  | queryFailed
  /-- The rows of the campaign, in no order. -/
  | campaign (campaignId : String) (accepted : List AcceptedRow) (outcomes : List (OutcomeRow F))

/-- `missing` after the check of `paper_initial_equity`. -/
def initialMissing (initial : Option F) : List String :=
  match initial with
  | some equity =>
    if FloatNum.isFinite equity = true ∧ FloatNum.ofInt 0 < equity then []
    else ["paper_initial_equity"]
  | none => ["paper_initial_equity"]

def RiskReport.withheld (missing : List String) : RiskReport F where
  values := RiskValues.missing
  persistedCooldownUntil := none
  riskStateComplete := false
  riskStateSource := "BURNIN_CAMPAIGN_EVIDENCE"
  riskStateMissingFields := missing

/-- The report of a session without a campaign. -/
def unscopedReport (initial : Option F) : RiskReport F :=
  let missing := initialMissing initial
  let given {α : Type} (value : α) : Option α := if missing = [] then some value else none
  { values :=
      { equity := initial
        availableBalance := initial
        dailyRealizedPnl := given (FloatNum.ofInt 0)
        rollingPeakEquity := if missing = [] then initial else none
        rollingDrawdownPct := given (FloatNum.ofInt 0)
        maxDrawdownPct := given (FloatNum.ofInt 0)
        maxDrawdownPeakEquity := if missing = [] then initial else none
        maxDrawdownTroughEquity := if missing = [] then initial else none
        consecutiveLossCount := given 0
        symbolConsecutiveLossCount := given 0
        tradesTodaySymbol := given 0
        tradesTodayGlobal := given 0 }
    persistedCooldownUntil := none
    riskStateComplete := missing = []
    riskStateSource := "RUNTIME_SESSION_UNSCOPED"
    riskStateMissingFields := missing }

/-- Both loops over the rows of a campaign, in the order of the queries. -/
def acceptedState (initial : Option F) (campaignId symbol : String) (now : ℤ)
    (accepted : List AcceptedRow) : AcceptedState :=
  (orderBy (·.entryTime) (·.id) accepted).foldl (acceptRow campaignId symbol now)
    (AcceptedState.start (initialMissing initial))

def outcomeState (initial : Option F) (symbol : String) (now : ℤ) (st : AcceptedState)
    (outcomes : List (OutcomeRow F)) : OutcomeState F :=
  (orderBy (·.closedAt) (·.id) outcomes).foldl (realizeRow symbol st.kept now)
    { outcomeIds := [], missing := st.missing, realized := Realized.start initial }

/-- Closed trades without an outcome. -/
def closedWithout (kept : List AcceptedRow) (outcomeIds : List String) : List String :=
  sortedSet ((kept.filter fun a => upper a.status = "CLOSED" ∧ a.tradeId ∉ outcomeIds).map
    (·.tradeId))

/-- `_paper_portfolio_risk_state`. -/
def paperPortfolioRiskState (initial : Option F) (cooldownSec : F) (loaded : Loaded F)
    (symbol : String) (now : ℤ) : RiskReport F :=
  match loaded with
  | .unscoped => unscopedReport initial
  | .noEngine => RiskReport.withheld (initialMissing initial ++ ["persistence_engine"])
  | .queryFailed => RiskReport.withheld ["portfolio_risk_state_query_failed"]
  | .campaign campaignId accepted outcomes =>
    let trades := acceptedState initial campaignId symbol now accepted
    let results := outcomeState initial symbol now trades outcomes
    let missing := results.missing ++
      (closedWithout trades.kept results.outcomeIds).map ("closed_trade_outcome_missing:" ++ ·)
    { values :=
        if missing = [] then
          RiskValues.of results.realized trades.tradesTodayGlobal trades.tradesTodaySymbol
        else RiskValues.missing
      persistedCooldownUntil := trades.latestSymbolEntry.map fun entry =>
        FloatNum.ofInt entry / FloatNum.ofInt 1000000 + cooldownSec
      riskStateComplete := missing = []
      riskStateSource := "BURNIN_CAMPAIGN_EVIDENCE"
      riskStateMissingFields := sortedSet missing }

end Outcomes

end AlphaForge.Portfolio
