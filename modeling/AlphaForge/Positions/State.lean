/-
  File:      AlphaForge/Positions/State.lean
  Subject:   The rows and tables behind an open paper position (`burnin_campaign.py`,
             `burnin_resolver.py`), and the statements that read and write them.

  * `Position` -- a row of `burnin_pending_position_outcomes`; quantities, prices and cash are
    exact. Columns no modelled function reads back (the raw exit costs, symbol, regime, ids of
    the signal) are left out.
  * `Event` -- a row of `burnin_position_management_events`; the evidence JSON is kept as the
    caller's mapping plus the fields the code adds.
  * `Db` -- both tables, and the active run of each campaign.
  * `bootstrapCampaignSchema` -- on a migrated database its one effect is the UPDATE that fills
    empty management columns of OPEN rows; it is a write, whatever it matches.
-/
import AlphaForge.Lib.PyValues
import AlphaForge.Lib.Transactions

namespace AlphaForge.Positions

open AlphaForge.Lib

/-! ## 1. Rows -/

inductive Status where
  | OPEN
  | CLOSED
  deriving DecidableEq, Repr

/-- What is read of `source_provenance_json`: a text that is no JSON object reads as all absent. -/
structure Provenance where
  executionCostUnit : Scalar
  /-- `target_policy` where it is a mapping. -/
  targetPolicy : Option Dict
  /-- `execution_cost_model` where it is a mapping. -/
  executionCostModel : Option Dict
  executionCostModelUnit : Scalar
  deriving DecidableEq, Repr

/-- A row of `burnin_pending_position_outcomes`, less its trade id: `Db` keys the rows by it. -/
structure Position where
  campaignId : String
  burninRunId : String
  side : String
  entryTime : TimeText
  plannedEntry : Option ℚ
  simulatedFill : Option ℚ
  stop : Option ℚ
  target : Option ℚ
  quantity : Option ℚ
  notional : Option ℚ
  entrySpread : Option ℚ
  entrySlippage : Option ℚ
  entryFee : Option ℚ
  provenance : Provenance
  status : Status
  currentStop : Option ℚ
  currentTarget : Option ℚ
  remainingQuantity : Option ℚ
  remainingNotional : Option ℚ
  realizedGrossPnl : ℚ
  realizedExecutionCost : ℚ
  realizedNetPnl : ℚ
  trailingEnabled : Bool
  managementVersion : ℕ
  lastManagementAt : Option String
  exitTime : Option TimeText
  exitPrice : Option ℚ
  exitReason : Option String
  grossPnl : Option ℚ
  grossR : Option ℚ
  totalExecutionCost : Option ℚ
  netPnl : Option ℚ
  netR : Option ℚ
  holdDurationSeconds : Option ℚ
  mfe : Option ℚ
  mae : Option ℚ
  evidenceComplete : Bool
  missingFields : List String
  deriving DecidableEq, Repr

/-- The keys of `_EXIT_COST_INPUTS`. -/
inductive ExitCost where
  | exitSpread | exitSlippage | exitFee | funding
  | latencyImpactPenalty | volatilityPenalty | liquidityPenalty
  deriving DecidableEq, Repr

def ExitCost.name : ExitCost → String
  | .exitSpread => "exit_spread"
  | .exitSlippage => "exit_slippage"
  | .exitFee => "exit_fee"
  | .funding => "funding"
  | .latencyImpactPenalty => "latency_impact_penalty"
  | .volatilityPenalty => "volatility_penalty"
  | .liquidityPenalty => "liquidity_penalty"

/-- `_EXIT_COST_INPUTS`. -/
def exitCostInputs : List ExitCost :=
  [.exitSpread, .exitSlippage, .exitFee, .funding,
    .latencyImpactPenalty, .volatilityPenalty, .liquidityPenalty]

/-- One amount for each key of `_EXIT_COST_INPUTS`. -/
abbrev ExitCosts := ExitCost → ℚ

/-- `sum(costs.values())`. -/
def ExitCosts.total (costs : ExitCosts) : ℚ := (exitCostInputs.map costs).sum

/-- The three entry-side costs of `_entry_costs_usd`, each absent or an amount. -/
structure EntryCosts (V : Type) where
  spreadCost : V
  entrySlippageCost : V
  feeCost : V
  deriving DecidableEq, Repr

/-- `sum(entry_costs.values())`. -/
def EntryCosts.total (costs : EntryCosts ℚ) : ℚ :=
  costs.spreadCost + costs.entrySlippageCost + costs.feeCost

/-- The stored evidence of a management event. -/
structure EventEvidence where
  payload : Dict
  exitCostsUsd : Option ExitCosts
  entryCostAllocationUsd : Option (EntryCosts ℚ)
  initialRiskUsd : Option ℚ
  initialQuantity : Option ℚ
  positionEntryRunId : String
  managementRunId : String

/-- A row of `burnin_position_management_events`. -/
structure Event where
  managementEventId : String
  requestHash : String
  tradeId : String
  campaignId : String
  burninRunId : String
  eventTime : TimeText
  action : String
  requestedQuantity : Option ℚ
  executionPrice : Option ℚ
  previousStop : Option ℚ
  newStop : Option ℚ
  previousRemainingQuantity : Option ℚ
  newRemainingQuantity : Option ℚ
  grossPnl : Option ℚ
  executionCost : Option ℚ
  netPnl : Option ℚ
  evidence : EventEvidence

/-! ## 2. Tables -/

/-- The database. Trade ids are unique among positions; events stand in insertion order. -/
structure Db where
  position : String → Option Position
  events : List Event
  /-- `active_run_id` of a campaign that exists. -/
  activeRun : String → Option (Option String)

/-- The row of trade `t` is now `r`. -/
def Db.setPosition (db : Db) (t : String) (r : Position) : Db :=
  { db with position := Function.update db.position t (some r) }

/-- `UPDATE … SET f WHERE trade_id=t AND cond`. -/
def Db.updatePosition (db : Db) (t : String) (cond : Position → Bool) (f : Position → Position) :
    Db :=
  let row := (db.position t).map fun r => if cond r then f r else r
  { db with position := Function.update db.position t row }

/-- The rows that statement matches. -/
def Db.matchedPosition (db : Db) (t : String) (cond : Position → Bool) : ℕ :=
  match db.position t with
  | some r => if cond r then 1 else 0
  | none => 0

def Db.findEvent (db : Db) (id : String) : Option Event :=
  db.events.find? fun e => e.managementEventId == id

/-- `INSERT INTO burnin_position_management_events`; the event id is UNIQUE. -/
def Db.insertEvent (db : Db) (e : Event) : Except PyError Db :=
  match db.findEvent e.managementEventId with
  | none => .ok { db with events := db.events ++ [e] }
  | some _ => .error .integrityError

/-- `UPDATE burnin_position_management_events SET f WHERE management_event_id=id`. -/
def Db.updateEvent (db : Db) (id : String) (f : Event → Event) : Db :=
  { db with events := db.events.map fun e => if e.managementEventId == id then f e else e }

@[simp] theorem setPosition_self (db : Db) (t : String) (r : Position) :
    (db.setPosition t r).position t = some r := Function.update_self ..

theorem setPosition_ne (db : Db) {t u : String} (r : Position) (h : u ≠ t) :
    (db.setPosition t r).position u = db.position u := Function.update_of_ne h ..

@[simp] theorem setPosition_events (db : Db) (t : String) (r : Position) :
    (db.setPosition t r).events = db.events := rfl

@[simp] theorem setPosition_activeRun (db : Db) (t : String) (r : Position) :
    (db.setPosition t r).activeRun = db.activeRun := rfl

theorem updatePosition_of_match {db : Db} {t : String} {r : Position} {cond : Position → Bool}
    (f : Position → Position) (hr : db.position t = some r) (hc : cond r = true) :
    db.updatePosition t cond f = db.setPosition t (f r) := by
  unfold Db.updatePosition Db.setPosition
  rw [hr, Option.map_some, if_pos hc]

theorem matchedPosition_of_match {db : Db} {t : String} {r : Position} {cond : Position → Bool}
    (hr : db.position t = some r) (hc : cond r = true) : db.matchedPosition t cond = 1 := by
  unfold Db.matchedPosition
  rw [hr]
  exact if_pos hc

/-! ## 3. Statements every operation starts with -/

/-- `COALESCE` of the management columns with the entry columns, on an OPEN row. -/
def Position.coalesce (r : Position) : Position :=
  if r.status = .OPEN then
    { r with
      currentStop := r.currentStop.or r.stop
      currentTarget := r.currentTarget.or r.target
      remainingQuantity := r.remainingQuantity.or r.quantity
      remainingNotional := r.remainingNotional.or r.notional }
  else r

/-- The rows after that UPDATE. -/
def Db.coalesce (db : Db) : Db :=
  { db with position := fun t => (db.position t).map Position.coalesce }

/-- `bootstrap_campaign_schema`. -/
def bootstrapCampaignSchema : Prog Db PyError Unit := .update Db.coalesce

/-- No OPEN row has an empty management column that its entry column fills. -/
def Db.Bootstrapped (db : Db) : Prop := ∀ t r, db.position t = some r → r.coalesce = r

theorem coalesce_eq_self {db : Db} (h : db.Bootstrapped) : db.coalesce = db := by
  have hp : (fun t => (db.position t).map Position.coalesce) = db.position := by
    funext t
    cases hr : db.position t with
    | none => rfl
    | some r => rw [Option.map_some, h t r hr]
  unfold Db.coalesce
  rw [hp]

theorem coalesce_coalesce (r : Position) : r.coalesce.coalesce = r.coalesce := by
  unfold Position.coalesce
  split
  · simp [Option.or_assoc]
  · rfl

/-- The bootstrap leaves nothing to do for the next one. -/
theorem bootstrapped_coalesce (db : Db) : db.coalesce.Bootstrapped := by
  intro t r h
  obtain ⟨r₀, -, rfl⟩ := Option.map_eq_some_iff.mp h
  exact coalesce_coalesce r₀

theorem bootstrapped_setPosition {db : Db} (h : db.Bootstrapped) {t : String} {r : Position}
    (hr : r.coalesce = r) : (db.setPosition t r).Bootstrapped := by
  intro u r' hu
  by_cases e : u = t
  · subst e
    rw [setPosition_self] at hu
    cases hu
    exact hr
  · rw [setPosition_ne db r e] at hu
    exact h u r' hu

/-- `load_position_management_state` answers these columns. -/
structure ManagementState where
  tradeId : String
  positionStatus : Status
  side : String
  entry : Option ℚ
  initialStop : Option ℚ
  initialTarget : Option ℚ
  initialQuantity : Option ℚ
  initialNotional : Option ℚ
  currentStop : Option ℚ
  currentTarget : Option ℚ
  remainingQuantity : Option ℚ
  remainingNotional : Option ℚ
  realizedGrossPnl : ℚ
  realizedExecutionCost : ℚ
  realizedNetPnl : ℚ
  trailingEnabled : Bool
  managementVersion : ℕ
  lastManagementAt : Option String
  deriving DecidableEq, Repr

def Position.managementState (r : Position) (tradeId : String) : ManagementState where
  tradeId := tradeId
  positionStatus := r.status
  side := r.side
  entry := orElse r.simulatedFill r.plannedEntry
  initialStop := r.stop
  initialTarget := r.target
  initialQuantity := r.quantity
  initialNotional := r.notional
  currentStop := r.currentStop.or r.stop
  currentTarget := r.currentTarget.or r.target
  remainingQuantity := r.remainingQuantity.or r.quantity
  remainingNotional := r.remainingNotional.or r.notional
  realizedGrossPnl := r.realizedGrossPnl
  realizedExecutionCost := r.realizedExecutionCost
  realizedNetPnl := r.realizedNetPnl
  trailingEnabled := r.trailingEnabled
  managementVersion := r.managementVersion
  lastManagementAt := r.lastManagementAt

/-- `load_position_management_state`. -/
def loadPositionManagementState (tradeId : String) : Prog Db PyError ManagementState := do
  bootstrapCampaignSchema
  let row ← .query fun db => db.position tradeId
  match row with
  | none => .raise (.keyError "position not found")
  | some r => pure (r.managementState tradeId)

theorem run_bootstrap {db : Db} (h : db.Bootstrapped) :
    bootstrapCampaignSchema.run db = .ok ((), db) := by
  show Except.ok ((), db.coalesce) = _
  rw [coalesce_eq_self h]

/-- What follows the bootstrap runs on the same state. -/
theorem run_bootstrap_bind {db : Db} (hb : db.Bootstrapped) {α : Type}
    {f : Unit → Prog Db PyError α} {r : α × Db}
    (h : (bootstrapCampaignSchema >>= f).run db = .ok r) : (f ()).run db = .ok r := by
  rw [Prog.run_bind, run_bootstrap hb] at h
  exact h

/-- Loading the state reads one row and changes nothing. -/
theorem run_load {db : Db} (h : db.Bootstrapped) {t : String} {r : Position}
    (hr : db.position t = some r) :
    (loadPositionManagementState t).run db = .ok (r.managementState t, db) := by
  unfold loadPositionManagementState
  rw [Prog.run_bind, run_bootstrap h]
  show ((Prog.query fun db : Db => db.position t) >>= _ : Prog Db PyError ManagementState).run
    db = _
  rw [Prog.run_bind, Prog.run_query]
  show Prog.run (match db.position t with
    | none => Prog.raise (PyError.keyError "position not found")
    | some r => pure (r.managementState t)) db = _
  rw [hr]
  rfl

/-! ## 4. Opening a position -/

/-- `persist_pending_position` on a trade id without a row: the OPEN row it inserts. -/
structure OpenRequest where
  tradeId : String
  campaignId : String
  burninRunId : String
  side : String
  entryTime : TimeText
  plannedEntry : Option ℚ
  simulatedFill : Option ℚ
  stop : Option ℚ
  target : Option ℚ
  quantity : Option ℚ
  notional : Option ℚ
  entrySpread : Option ℚ
  entrySlippage : Option ℚ
  entryFee : Option ℚ
  provenance : Provenance
  deriving DecidableEq, Repr

def OpenRequest.row (kw : OpenRequest) : Position where
  campaignId := kw.campaignId
  burninRunId := kw.burninRunId
  side := kw.side
  entryTime := kw.entryTime
  plannedEntry := kw.plannedEntry
  simulatedFill := kw.simulatedFill
  stop := kw.stop
  target := kw.target
  quantity := kw.quantity
  notional := kw.notional
  entrySpread := kw.entrySpread
  entrySlippage := kw.entrySlippage
  entryFee := kw.entryFee
  provenance := kw.provenance
  status := .OPEN
  currentStop := kw.stop
  currentTarget := kw.target
  remainingQuantity := kw.quantity
  remainingNotional := kw.notional
  realizedGrossPnl := 0
  realizedExecutionCost := 0
  realizedNetPnl := 0
  trailingEnabled := false
  managementVersion := 0
  lastManagementAt := none
  exitTime := none
  exitPrice := none
  exitReason := none
  grossPnl := none
  grossR := none
  totalExecutionCost := none
  netPnl := none
  netR := none
  holdDurationSeconds := none
  mfe := none
  mae := none
  evidenceComplete := false
  missingFields := []

/-- `persist_pending_position`: INSERT OR IGNORE, the trade id is UNIQUE. -/
def persistPendingPosition (kw : OpenRequest) : Prog Db PyError Unit := do
  bootstrapCampaignSchema
  .update fun db =>
    match db.position kw.tradeId with
    | some _ => db
    | none => db.setPosition kw.tradeId kw.row

theorem coalesce_row (kw : OpenRequest) : kw.row.coalesce = kw.row := by
  simp [Position.coalesce, OpenRequest.row]

end AlphaForge.Positions
