/-
  File:      AlphaForge/Positions/Management.lean
  Subject:   `apply_position_management_action` and `resolve_position_closure`
             (`burnin_resolver.py`), statement by statement.

  The functions are `Prog`s: their reads and writes stand in the order of the source, what lies
  between two statements is computed without the database. A raised error discards the writes
  before it, as the caller's transaction does.

  * `hash` -- `canonical_hash`, on the request it is given.
  * Every cost, price and quantity is exact; a value that is no finite number is rejected where the
    source calls `_finite_number`.
  * The exit price of a closure is a number: its callers validate it before the call.
  * The rows that a closure adds to the outcome and expectancy tables are left out: no modelled
    function reads them.
-/
import AlphaForge.Candles.Window
import AlphaForge.Positions.Accounting
import AlphaForge.Positions.State

namespace AlphaForge.Positions

open AlphaForge.Lib
open AlphaForge.Candles (sideOf)

/-! ## 1. Reading arguments and rows -/

/-- `_finite_number(value)`: Booleans are no numbers. -/
def finiteNumber : Scalar → Option ℚ
  | .bool _ => none
  | v => v.number?

/-- A number with the proof that it is positive. -/
abbrev Positive := { q : ℚ // 0 < q }

/-- The second half of `_finite_number(value, positive=True)`. -/
def positive (x : Option ℚ) : Option Positive :=
  x.bind fun q => if h : 0 < q then some ⟨q, h⟩ else none

theorem positive_eq_some {x : Option ℚ} {q : Positive} : positive x = some q ↔ x = some q.1 := by
  unfold positive
  cases x with
  | none => simp
  | some y =>
    simp only [Option.bind_some, Option.some.injEq]
    constructor
    · intro h
      split at h
      · rw [← Option.some.inj h]
      · cases h
    · rintro rfl
      rw [dif_pos q.2]

/-- The `evidence` or `exit_costs` argument as the caller passes it. -/
inductive Payload where
  | mapping (d : Dict)
  | other (v : Scalar)
  deriving DecidableEq, Repr

/-- What `canonical_hash` is computed from. -/
structure Request where
  tradeId : String
  eventTime : String
  action : String
  newStop : Scalar
  exitQuantity : Scalar
  executionPrice : Scalar
  evidence : Payload
  exitCosts : Payload
  deriving DecidableEq, Repr

/-- A call of `apply_position_management_action`; `now` is the clock reading of `utc_now`. -/
structure ActionCall where
  tradeId : String
  managementEventId : String
  action : String
  eventTime : TimeText
  evidence : Payload
  newStop : Scalar
  exitQuantity : Scalar
  executionPrice : Scalar
  exitCosts : Payload
  now : String
  deriving DecidableEq, Repr

/-- `normalized_action`. -/
def ActionCall.normalizedAction (a : ActionCall) : String := upper (strip a.action)

def ActionCall.request (a : ActionCall) : Request where
  tradeId := a.tradeId
  eventTime := a.eventTime.text
  action := a.normalizedAction
  newStop := a.newStop
  exitQuantity := a.exitQuantity
  executionPrice := a.executionPrice
  evidence := a.evidence
  exitCosts := a.exitCosts

theorem request_action (a : ActionCall) : a.request.action = a.normalizedAction := by
  unfold ActionCall.request
  rfl

/-- A call of `resolve_position_closure`. -/
structure ClosureCall where
  tradeId : String
  exitTime : TimeText
  exitPrice : ℚ
  exitReason : String
  exitCosts : Dict
  mfe : Scalar
  mae : Scalar
  ambiguous : Bool
  now : String
  deriving DecidableEq, Repr

/-- `_MANAGEMENT_EVIDENCE_FIELDS`. -/
def managementEvidenceFields : List String :=
  ["execution_risk_status", "regime_status", "liquidity_status"]

/-- Evidence that passed `_validate_management_evidence`. -/
structure Evidence where
  payload : Dict
  observedPrice : Positive

/-- `_validate_management_evidence`. -/
def validateManagementEvidence (evidence : Payload) : Except PyError Evidence :=
  match evidence with
  | .other _ => .error (.valueError "POSITION_MANAGEMENT_EVIDENCE_UNAVAILABLE")
  | .mapping payload =>
    if ((payload.get "evidence_status").textOrEmpty.map upper) ≠ some "COMPLETE" then
      .error (.valueError "POSITION_MANAGEMENT_EVIDENCE_INCOMPLETE")
    else if ((payload.get "source").textOrEmpty.map strip) = some "" then
      .error (.valueError "POSITION_MANAGEMENT_EVIDENCE_SOURCE_MISSING")
    else
      let unavailable := ["", "UNKNOWN", "UNAVAILABLE", "INCOMPLETE", "STALE"]
      let missing := managementEvidenceFields.filter fun name =>
        match (payload.get name).textOrEmpty with
        | some t => unavailable.contains (upper t)
        | none => false
      if missing ≠ [] then
        .error (.valueError
          ("POSITION_MANAGEMENT_RISK_EVIDENCE_UNAVAILABLE:" ++ ",".intercalate missing))
      else
        match positive (finiteNumber (payload.get "observed_price")) with
        | none => .error (.valueError "POSITION_MANAGEMENT_OBSERVED_PRICE_UNAVAILABLE")
        | some price =>
          .ok { payload := payload.set "observed_price" (.float price.1), observedPrice := price }

/-- The validated numbers of an open row. -/
structure RowNumbers where
  fill : Positive
  originalStop : Positive
  originalQty : Positive
  remainingQty : Positive
  currentStop : Positive
  initialNotional : Positive
  riskUsd : Positive

/-- The row checks `apply_position_management_action` makes before it looks at the action. -/
def rowNumbers (r : Position) : Except PyError RowNumbers :=
  match positive (orElse r.simulatedFill r.plannedEntry), positive r.stop, positive r.quantity,
      positive (r.remainingQuantity.or r.quantity), positive (r.currentStop.or r.stop),
      positive r.notional with
  | some fill, some stop, some quantity, some remaining, some current, some notional =>
    match positive (some (|fill.1 - stop.1| * quantity.1)) with
    | none => .error (.valueError "POSITION_MANAGEMENT_INITIAL_RISK_INVALID")
    | some risk =>
      .ok { fill := fill, originalStop := stop, originalQty := quantity, remainingQty := remaining
            currentStop := current, initialNotional := notional, riskUsd := risk }
  | _, _, _, _, _, _ => .error (.valueError "POSITION_MANAGEMENT_STATE_INCOMPLETE")

/-- `_entry_costs_usd`. -/
def entryCostsUsd (r : Position) (riskUsd : ℚ) : EntryCosts (Option ℚ) :=
  let multiplier := if r.provenance.executionCostUnit = .text "R" then riskUsd else 1
  let value (raw : Option ℚ) : Option ℚ :=
    raw.bind fun x => if x < 0 then none else some (x * multiplier)
  { spreadCost := value r.entrySpread
    entrySlippageCost := value r.entrySlippage
    feeCost := value r.entryFee }

/-- All three entry costs, when none is missing. -/
def EntryCosts.complete? (costs : EntryCosts (Option ℚ)) : Option (EntryCosts ℚ) :=
  match costs.spreadCost, costs.entrySlippageCost, costs.feeCost with
  | some spread, some slippage, some fee => some ⟨spread, slippage, fee⟩
  | _, _, _ => none

/-- The fraction `fraction` of every entry cost. -/
def EntryCosts.scale (costs : EntryCosts ℚ) (fraction : ℚ) : EntryCosts ℚ where
  spreadCost := costs.spreadCost * fraction
  entrySlippageCost := costs.entrySlippageCost * fraction
  feeCost := costs.feeCost * fraction

/-- `cost_unit` of an exit-cost mapping is USD. -/
def explicitUsd (exitCosts : Dict) : Bool :=
  (exitCosts.get "cost_unit").textOrEmpty.map upper == some "USD"

/-- A cost input as `_strict_exit_costs_usd` takes it: a number that is not negative. -/
def strictExitCost (exitCosts : Dict) (key : ExitCost) : Option ℚ :=
  (finiteNumber (exitCosts.get key.name)).filter (0 ≤ ·)

/-- `_strict_exit_costs_usd`. -/
def strictExitCostsUsd (exitCosts : Payload) : Except PyError ExitCosts :=
  match exitCosts with
  | .other _ => .error (.valueError "POSITION_MANAGEMENT_EXIT_COST_UNIT_MUST_BE_USD")
  | .mapping d =>
    if !explicitUsd d then
      .error (.valueError "POSITION_MANAGEMENT_EXIT_COST_UNIT_MUST_BE_USD")
    else
      match exitCostInputs.find? fun key => (strictExitCost d key).isNone with
      | some key =>
        .error (.valueError ("POSITION_MANAGEMENT_EXIT_COST_UNAVAILABLE:" ++ key.name))
      | none => .ok fun key => (strictExitCost d key).getD 0

/-! ## 2. Events and the versioned update -/

/-- `_management_events`. -/
def managementEvents (db : Db) (tradeId : String) : List Event :=
  db.events.filter fun e => e.tradeId == tradeId

/-- `action.upper() == "PARTIAL_EXIT"`. -/
def Event.isPartialExit (e : Event) : Bool := upper e.action == "PARTIAL_EXIT"

/-- The PARTIAL_EXIT events of a trade. -/
def partialEvents (db : Db) (tradeId : String) : List Event :=
  (managementEvents db tradeId).filter Event.isPartialExit

/-- What `_insert_management_event` stores for a call on row `r`; the actions add the rest. -/
def baseEvent (hash : Request → String) (r : Position) (a : ActionCall) (ev : Evidence)
    (managementRunId : String) : Event where
  managementEventId := a.managementEventId
  requestHash := hash a.request
  tradeId := a.tradeId
  campaignId := r.campaignId
  burninRunId := managementRunId
  eventTime := a.eventTime
  action := a.normalizedAction
  requestedQuantity := none
  executionPrice := none
  previousStop := none
  newStop := none
  previousRemainingQuantity := none
  newRemainingQuantity := none
  grossPnl := none
  executionCost := none
  netPnl := none
  evidence :=
    { payload := ev.payload
      exitCostsUsd := none
      entryCostAllocationUsd := none
      initialRiskUsd := none
      initialQuantity := none
      positionEntryRunId := r.burninRunId
      managementRunId := managementRunId }

/-- The run an event is booked to: the campaign's active run, else the row's own. -/
def managementRunId (db : Db) (r : Position) : String :=
  match db.activeRun r.campaignId with
  | some (some run) => if run = "" then r.burninRunId else run
  | _ => r.burninRunId

/-- `_insert_management_event`: one read, one INSERT. -/
def insertManagementEvent (r : Position) (event : String → Event) : Prog Db PyError Unit := do
  let run ← .query fun db => managementRunId db r
  .attempt fun db => db.insertEvent (event run)

/-- The WHERE clause of every management update. -/
def unchangedSince (expectedVersion : ℕ) (r : Position) : Bool :=
  r.status == .OPEN && r.managementVersion == expectedVersion

/-- `_cas_position_update`. -/
def casPositionUpdate (tradeId : String) (expectedVersion : ℕ) (set : Position → Position) :
    Prog Db PyError Unit := do
  let rowcount ← .updateCount
    (fun db => db.updatePosition tradeId (unchangedSince expectedVersion) set)
    (fun db => db.matchedPosition tradeId (unchangedSince expectedVersion))
  if rowcount ≠ 1 then
    .raise (.runtimeError "POSITION_MANAGEMENT_CONCURRENT_STATE_CHANGE")
  else
    pure ()

/-- `management_version=management_version+1,last_management_at=:event_time`. -/
def Position.managed (r : Position) (eventTime : String) : Position :=
  { r with managementVersion := r.managementVersion + 1, lastManagementAt := some eventTime }

/-! ## 3. Closing a position -/

/-- `non_negative_excursion`. -/
def nonNegativeExcursion (value : Scalar) : Option ℚ := (finiteNumber value).map (max 0)

/-- The exit costs that the given events carry, key by key. -/
def exitComponents (partials : List Event) : ExitCosts := fun key =>
  (partials.filterMap fun e => e.evidence.exitCostsUsd.map fun c => c key).sum

/-- `_prior_partial_exit_components`. -/
def priorPartialExitComponents (db : Db) (tradeId : String) : ExitCosts :=
  exitComponents (partialEvents db tradeId)

/-- The row numbers `resolve_position_closure` takes with `float(...)`. -/
structure ClosureNumbers where
  fill : ℚ
  originalQty : ℚ
  remainingQty : ℚ
  initialStop : ℚ

def closureNumbers (r : Position) : Except PyError ClosureNumbers :=
  match orElse r.simulatedFill r.plannedEntry, r.quantity, r.stop with
  | some fill, some quantity, some stop =>
    .ok { fill := fill, originalQty := quantity
          remainingQty := r.remainingQuantity.getD quantity, initialStop := stop }
  | _, _, _ => .error .typeError

/-- `math.isclose(a, b, rel_tol=1e-9, abs_tol=1e-9)`. -/
def isclose (a b : ℚ) : Bool :=
  |a - b| ≤ max (1 / 10 ^ 9 * max |a| |b|) (1 / 10 ^ 9)

/-- What turns a given exit cost into USD for the last slice: an amount in USD is taken as it is,
    any other is converted and charged for the remaining fraction. -/
def exitScale (r : Position) (n : ClosureNumbers) (riskUsd : ℚ) (exitCosts : Dict) : ℚ :=
  let remainingFraction := if 0 < n.originalQty then n.remainingQty / n.originalQty else 0
  let multiplier := if r.provenance.executionCostUnit = .text "R" then riskUsd else 1
  if explicitUsd exitCosts then 1 else multiplier * remainingFraction

/-- `exit_value`. -/
def exitValue (r : Position) (n : ClosureNumbers) (riskUsd : ℚ) (exitCosts : Dict)
    (key : ExitCost) : Option ℚ :=
  (finiteNumber (exitCosts.get key.name)).bind fun raw =>
    if raw < 0 ∧ key ≠ .funding then none
    else some (raw * exitScale r n riskUsd exitCosts)

/-- The exit costs a closure cannot do without. -/
def requiredExitCosts : List ExitCost :=
  [.exitSpread, .exitSlippage, .exitFee, .funding, .latencyImpactPenalty]

/-- The `missing` list before the ledger is computed. -/
def closureMissing (r : Position) (riskUsd : ℚ) (exitCosts : Dict)
    (finalExit : ExitCost → Option ℚ) : List String :=
  let entry := [("entry_spread", r.entrySpread), ("entry_slippage", r.entrySlippage),
    ("entry_fee", r.entryFee)]
  (requiredExitCosts.filter fun key => exitCosts.get key.name = .none).map ExitCost.name
    ++ (entry.filter fun e => e.2.isNone).map Prod.fst
    ++ (if riskUsd ≤ 0 then ["risk_usd"] else [])
    ++ (exitCostInputs.filter fun key =>
          exitCosts.has key.name && (finalExit key).isNone).map ExitCost.name

/-- `costs_usd`. -/
def closureCosts (entry : EntryCosts (Option ℚ)) (partialExit : ExitCosts)
    (finalExit : ExitCost → Option ℚ) : List (String × Option ℚ) :=
  let withEntry (e : Option ℚ) (key : ExitCost) : Option ℚ :=
    e.bind fun x => (finalExit key).map fun y => x + partialExit key + y
  let exitOnly (key : ExitCost) : Option ℚ := (finalExit key).map fun y => partialExit key + y
  let optional (key : ExitCost) : Option ℚ := some (partialExit key + (finalExit key).getD 0)
  [("spread_cost", withEntry entry.spreadCost .exitSpread),
   ("entry_slippage_cost", entry.entrySlippageCost),
   ("exit_slippage_cost", exitOnly .exitSlippage),
   ("fee_cost", withEntry entry.feeCost .exitFee),
   ("funding_cost", exitOnly .funding),
   ("latency_cost", exitOnly .latencyImpactPenalty),
   ("volatility_penalty", optional .volatilityPenalty),
   ("liquidity_penalty", optional .liquidityPenalty)]

/-- What `resolve_position_closure` answers. -/
inductive ClosureReply where
  | idempotent
  | closed (evidenceComplete : Bool) (netR : Option ℚ) (finalSliceGrossPnl : ℚ)
      (finalSliceExecutionCost finalSliceNetPnl : Option ℚ)
  deriving DecidableEq, Repr

/-- `closure.get("final_slice_execution_cost")`. -/
def ClosureReply.finalSliceExecutionCost : ClosureReply → Option ℚ
  | .idempotent => none
  | .closed _ _ _ cost _ => cost

/-- The accounting of a closure, once row and events are read. -/
structure Closing where
  geometry : CashGeometry
  ledger : CashLedger
  evidenceMissing : List String
  hold : ℚ
  finalSliceCost : Option ℚ

/-- Everything `resolve_position_closure` computes between its reads and its UPDATE. -/
def closing (c : ClosureCall) (r : Position) (partialExit : ExitCosts) (partials : List Event) :
    Except PyError Closing := do
  let n ← closureNumbers r
  let side := sideOf r.side
  let geometry := positionCashGeometry n.fill n.initialStop n.originalQty c.exitPrice side
    (some n.remainingQty) r.realizedGrossPnl
  let riskUsd := geometry.initialRiskUsd
  let finalExit := exitValue r n riskUsd c.exitCosts
  let ledger := realizedCashLedger geometry.grossPnlUsd riskUsd
    (closureCosts (entryCostsUsd r riskUsd) partialExit finalExit)
    (closureMissing r riskUsd c.exitCosts finalExit)
  let ledgerGross := (partials.map fun e => e.grossPnl.getD 0).sum
  let ledgerCost := (partials.map fun e => e.executionCost.getD 0).sum
  let missing := ledger.missingFields
    ++ (if isclose ledgerGross r.realizedGrossPnl then [] else ["management_gross_ledger_mismatch"])
    ++ (if isclose ledgerCost r.realizedExecutionCost then []
        else ["management_cost_ledger_mismatch"])
  let exitTime ← c.exitTime.parse
  let entryTime ← r.entryTime.parse
  let hold ← exitTime.secondsSince entryTime
  return {
    geometry := geometry
    ledger := ledger
    evidenceMissing := missing ++ if c.ambiguous then ["ambiguous_intrabar_sequence"] else []
    hold := hold
    finalSliceCost := ledger.totalCostUsd.map fun t => t - r.realizedExecutionCost }

/-- The row after the closing UPDATE. -/
def Position.close (r : Position) (c : ClosureCall) (k : Closing) : Position :=
  { r with
    status := .CLOSED
    remainingQuantity := some 0
    remainingNotional := some 0
    exitTime := some c.exitTime
    exitPrice := some c.exitPrice
    exitReason := some c.exitReason
    grossPnl := some k.geometry.grossPnlUsd
    grossR := k.geometry.grossR
    totalExecutionCost := k.ledger.totalCostUsd
    netPnl := k.ledger.netPnlUsd
    netR := k.ledger.netR
    realizedGrossPnl := k.geometry.grossPnlUsd
    realizedExecutionCost := k.ledger.totalCostUsd.getD r.realizedExecutionCost
    realizedNetPnl := k.ledger.netPnlUsd.getD r.realizedNetPnl
    holdDurationSeconds := some k.hold
    mfe := nonNegativeExcursion c.mfe
    mae := nonNegativeExcursion c.mae
    evidenceComplete := k.evidenceMissing.isEmpty
    missingFields := k.evidenceMissing
    lastManagementAt := some c.now }

def Closing.reply (k : Closing) : ClosureReply :=
  .closed k.evidenceMissing.isEmpty k.ledger.netR k.geometry.finalSliceGross k.finalSliceCost
    (k.finalSliceCost.map fun cost => k.geometry.finalSliceGross - cost)

/-- `resolve_position_closure`. -/
def resolvePositionClosure (c : ClosureCall) : Prog Db PyError ClosureReply := do
  bootstrapCampaignSchema
  let row ← .query fun db => db.position c.tradeId
  match row with
  | none => .raise (.keyError "position not found")
  | some r =>
    if r.status = .CLOSED then
      pure .idempotent
    else do
      let partialExit ← .query fun db => priorPartialExitComponents db c.tradeId
      let partials ← .query fun db => partialEvents db c.tradeId
      let k ← .lift (closing c r partialExit partials)
      -- the UPDATE names the trade only, neither status nor version
      .update fun db => db.updatePosition c.tradeId (fun _ => true) fun row => row.close c k
      pure k.reply

/-! ## 4. The management actions -/

inductive ReplyStatus where
  | IDEMPOTENT
  | APPLIED
  deriving DecidableEq, Repr

/-- What `apply_position_management_action` answers. -/
structure ActionReply where
  status : ReplyStatus
  state : ManagementState
  deriving DecidableEq, Repr

/-- The common end of every applied action. -/
def applied (tradeId : String) : Prog Db PyError ActionReply := do
  let state ← loadPositionManagementState tradeId
  pure { status := .APPLIED, state := state }

section Actions

variable (hash : Request → String)

/-- `tightened`: the new stop is on the protective side of the current one. -/
def Tightens (side : String) (current stop : ℚ) : Prop :=
  if side = "LONG" then current < stop else stop < current

instance (side : String) (current stop : ℚ) : Decidable (Tightens side current stop) := by
  unfold Tightens
  infer_instance

/-- TIGHTEN_STOP: the stop that passed the checks. -/
def tightenedStop (side : String) (n : RowNumbers) (ev : Evidence) (newStop : Scalar) :
    Except PyError Positive :=
  match positive (finiteNumber newStop) with
  | none => .error (.valueError "POSITION_MANAGEMENT_NEW_STOP_INVALID")
  | some stop =>
    if ¬ Tightens side n.currentStop.1 stop.1 then
      .error (.valueError "POSITION_MANAGEMENT_STOP_WIDEN_BLOCKED")
    else if (side = "LONG" ∧ ev.observedPrice.1 ≤ stop.1) ∨
        (side = "SHORT" ∧ stop.1 ≤ ev.observedPrice.1) then
      .error (.valueError "POSITION_MANAGEMENT_STOP_CROSSES_MARKET")
    else .ok stop

/-- `SET current_stop=:stop,…`. -/
def Position.tighten (r : Position) (stop : ℚ) (eventTime : String) : Position :=
  { r.managed eventTime with currentStop := some stop }

def tightenEvent (r : Position) (a : ActionCall) (n : RowNumbers) (ev : Evidence) (stop : ℚ)
    (run : String) : Event :=
  { baseEvent hash r a ev run with
    previousStop := some n.currentStop.1
    newStop := some stop
    previousRemainingQuantity := some n.remainingQty.1
    newRemainingQuantity := some n.remainingQty.1 }

/-- `SET trailing_enabled=1,…`. -/
def Position.trail (r : Position) (eventTime : String) : Position :=
  { r.managed eventTime with trailingEnabled := true }

def trailingEvent (r : Position) (a : ActionCall) (n : RowNumbers) (ev : Evidence)
    (run : String) : Event :=
  let base := baseEvent hash r a ev run
  { base with
    previousStop := some n.currentStop.1
    newStop := some n.currentStop.1
    previousRemainingQuantity := some n.remainingQty.1
    newRemainingQuantity := some n.remainingQty.1
    evidence := { base.evidence with payload := ev.payload.set "trailing_distance" .none } }

/-- ENABLE_TRAILING: the two refusals. -/
def trailingChecks (r : Position) : Except PyError Unit :=
  let allowed := match r.provenance.targetPolicy with
    | some policy => (policy.get "trailing_allowed").truthy
    | none => false
  if !allowed then .error (.valueError "POSITION_MANAGEMENT_TRAILING_NOT_AUTHORIZED")
  else if r.trailingEnabled then
    .error (.valueError "POSITION_MANAGEMENT_TRAILING_ALREADY_ENABLED")
  else .ok ()

/-- The accounting of one PARTIAL_EXIT. -/
structure Slice where
  qty : Positive
  price : Positive
  exitCosts : ExitCosts
  entryAllocation : EntryCosts ℚ
  gross : ℚ
  executionCost : ℚ
  newRemaining : ℚ
  remainingNotional : ℚ

def Slice.net (s : Slice) : ℚ := s.gross - s.executionCost

/-- Everything PARTIAL_EXIT computes before its UPDATE. -/
def partialSlice (r : Position) (a : ActionCall) (n : RowNumbers) : Except PyError Slice :=
  match positive (finiteNumber a.exitQuantity), positive (finiteNumber a.executionPrice) with
  | some qty, some price =>
    if n.remainingQty.1 - 1 / 10 ^ 12 ≤ qty.1 then
      .error (.valueError "POSITION_MANAGEMENT_PARTIAL_EXIT_MUST_LEAVE_REMAINDER")
    else do
      let costs ← strictExitCostsUsd a.exitCosts
      match (entryCostsUsd r n.riskUsd.1).complete? with
      | none => .error (.valueError "POSITION_MANAGEMENT_ENTRY_COST_EVIDENCE_INCOMPLETE")
      | some entryCosts =>
        let entryAllocation := entryCosts.scale (qty.1 / n.originalQty.1)
        let newRemaining := n.remainingQty.1 - qty.1
        .ok {
          qty := qty
          price := price
          exitCosts := costs
          entryAllocation := entryAllocation
          gross := (price.1 - n.fill.1) * qty.1 * direction (sideOf r.side)
          executionCost := entryAllocation.total + costs.total
          newRemaining := newRemaining
          remainingNotional := n.initialNotional.1 * newRemaining / n.originalQty.1 }
  | _, _ => .error (.valueError "POSITION_MANAGEMENT_PARTIAL_EXIT_EVIDENCE_INVALID")

/-- `SET remaining_quantity=:remaining_quantity,…,realized_net_pnl=COALESCE(…,0)+:net,…`. -/
def Position.reduce (r : Position) (s : Slice) (eventTime : String) : Position :=
  { r.managed eventTime with
    remainingQuantity := some s.newRemaining
    remainingNotional := some s.remainingNotional
    realizedGrossPnl := r.realizedGrossPnl + s.gross
    realizedExecutionCost := r.realizedExecutionCost + s.executionCost
    realizedNetPnl := r.realizedNetPnl + s.net }

def partialEvent (r : Position) (a : ActionCall) (n : RowNumbers) (ev : Evidence) (s : Slice)
    (run : String) : Event :=
  let base := baseEvent hash r a ev run
  { base with
    requestedQuantity := some s.qty.1
    executionPrice := some s.price.1
    previousStop := some n.currentStop.1
    newStop := some n.currentStop.1
    previousRemainingQuantity := some n.remainingQty.1
    newRemainingQuantity := some s.newRemaining
    grossPnl := some s.gross
    executionCost := some s.executionCost
    netPnl := some s.net
    evidence := { base.evidence with
      exitCostsUsd := some s.exitCosts
      entryCostAllocationUsd := some s.entryAllocation
      initialRiskUsd := some n.riskUsd.1
      initialQuantity := some n.originalQty.1 } }

/-- PROTECTIVE_EXIT: price and costs that passed the checks. -/
def protectiveChecks (a : ActionCall) (ev : Evidence) : Except PyError (Positive × ExitCosts) :=
  match positive (finiteNumber a.executionPrice) with
  | none => .error (.valueError "POSITION_MANAGEMENT_PROTECTIVE_EXIT_PRICE_INVALID")
  | some price =>
    if (ev.payload.get "trigger_reason").textOrEmpty.map strip = some "" then
      .error (.valueError "POSITION_MANAGEMENT_PROTECTIVE_TRIGGER_MISSING")
    else do
      let costs ← strictExitCostsUsd a.exitCosts
      return (price, costs)

def protectiveEvent (r : Position) (a : ActionCall) (n : RowNumbers) (ev : Evidence)
    (price : ℚ) (costs : ExitCosts) (run : String) : Event :=
  let base := baseEvent hash r a ev run
  { base with
    requestedQuantity := some n.remainingQty.1
    executionPrice := some price
    previousStop := some n.currentStop.1
    newStop := some n.currentStop.1
    previousRemainingQuantity := some n.remainingQty.1
    newRemainingQuantity := some 0
    evidence := { base.evidence with
      exitCostsUsd := some costs
      initialRiskUsd := some n.riskUsd.1
      initialQuantity := some n.originalQty.1 } }

/-- `{**costs, "cost_unit": "USD"}`. -/
def usdMapping (costs : ExitCosts) : Dict :=
  (exitCostInputs.map fun key => (key.name, Scalar.float (costs key)))
    ++ [("cost_unit", Scalar.text "USD")]

/-- The closure that a PROTECTIVE_EXIT runs. -/
def protectiveClosure (a : ActionCall) (price : ℚ) (costs : ExitCosts) : ClosureCall where
  tradeId := a.tradeId
  exitTime := a.eventTime
  exitPrice := price
  exitReason := "RUNTIME_PROTECTIVE_EXIT"
  exitCosts := usdMapping costs
  mfe := .none
  mae := .none
  ambiguous := false
  now := a.now

/-- The UPDATE of the protective event after its closure. -/
def Event.settle (reply : ClosureReply) (e : Event) : Event :=
  match reply with
  | .idempotent => { e with grossPnl := none, executionCost := none, netPnl := none }
  | .closed _ _ gross cost net =>
    { e with grossPnl := some gross, executionCost := cost, netPnl := net }

/-- The action branches of `apply_position_management_action` on an OPEN row. -/
def performAction (a : ActionCall) (r : Position) (ev : Evidence) (n : RowNumbers) :
    Prog Db PyError ActionReply :=
  let cas := casPositionUpdate a.tradeId r.managementVersion
  let now := a.eventTime.text
  if a.normalizedAction = "TIGHTEN_STOP" then do
    let stop ← .lift (tightenedStop (sideOf r.side) n ev a.newStop)
    cas fun row => row.tighten stop.1 now
    insertManagementEvent r (tightenEvent hash r a n ev stop.1)
    applied a.tradeId
  else if a.normalizedAction = "ENABLE_TRAILING" then do
    .lift (trailingChecks r)
    cas fun row => row.trail now
    insertManagementEvent r (trailingEvent hash r a n ev)
    applied a.tradeId
  else if a.normalizedAction = "PARTIAL_EXIT" then do
    let slice ← .lift (partialSlice r a n)
    cas fun row => row.reduce slice now
    insertManagementEvent r (partialEvent hash r a n ev slice)
    applied a.tradeId
  else if a.normalizedAction = "PROTECTIVE_EXIT" then do
    let (price, costs) ← .lift (protectiveChecks a ev)
    cas fun row => row.managed now
    insertManagementEvent r (protectiveEvent hash r a n ev price.1 costs)
    let reply ← resolvePositionClosure (protectiveClosure a price.1 costs)
    .update fun db => db.updateEvent a.managementEventId (Event.settle reply)
    applied a.tradeId
  else
    .raise (.valueError ("POSITION_MANAGEMENT_ACTION_UNSUPPORTED:" ++ a.normalizedAction))

/-- `apply_position_management_action`. -/
def applyPositionManagementAction (a : ActionCall) : Prog Db PyError ActionReply := do
  bootstrapCampaignSchema
  let existing ← .query fun db => db.findEvent a.managementEventId
  match existing with
  | some e =>
    if e.tradeId ≠ a.tradeId ∨ e.action ≠ a.normalizedAction ∨ e.requestHash ≠ hash a.request then
      .raise (.valueError "POSITION_MANAGEMENT_EVENT_ID_CONFLICT")
    else do
      let state ← loadPositionManagementState a.tradeId
      pure { status := .IDEMPOTENT, state := state }
  | none => do
    let row ← .query fun db => db.position a.tradeId
    match row with
    | none => .raise (.keyError "position not found")
    | some r =>
      if r.status ≠ .OPEN then
        .raise (.valueError "POSITION_NOT_OPEN")
      else do
        let ev ← .lift (validateManagementEvidence a.evidence)
        let n ← .lift (rowNumbers r)
        performAction hash a r ev n

end Actions

end AlphaForge.Positions
