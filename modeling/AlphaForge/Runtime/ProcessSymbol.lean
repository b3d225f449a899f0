/-
  File:      AlphaForge/Runtime/ProcessSymbol.lean
  Subject:   The scan of `runtime.py`: `_scan_once` over the selected symbols, `_process_symbol`
             through its gates, the three memos of decisions already made and the rows that the
             decisions leave in the database.

  What the gates compute of a symbol (alignment, geometry, risk, score, sizing, allocation) is
  data of the visit (`Gates`); so is what the database and the execution answer (`Answers`). The
  order of lookups, memo writes, lifecycle events and commits is the source's.

  Hashed ids are the tuples that are hashed. The lifecycle events write none of the rows here and
  can only raise; an exception leaves `_scan_once`, ends `_market_scan_loop`, and only a restart
  scans again.
-/
import AlphaForge.Runtime.State

namespace AlphaForge.Runtime.Scan

open AlphaForge.Runtime

/-! ## 1. The database -/

inductive Decision where
  | accepted
  | rejected
  deriving DecidableEq, Repr

/-- `phase` of an `order_decisions` row. -/
inductive DecisionPhase where
  | final
  | livePrecheck
  deriving DecidableEq, Repr

/-- `_canonical_reject_decision_id`: the fields that it hashes. -/
structure RejectDecisionId where
  campaignId : Option String
  burninRunId : Option String
  signalId : String
  setupIdentity : Option String
  symbol : String
  deriving DecidableEq, Repr

inductive DecisionId where
  | reject (id : RejectDecisionId)
  | other (id : String)
  deriving DecidableEq, Repr

/-- The rows that a decision leaves, table by table. -/
inductive Row where
  | rejectedSignalReview (signalId : String) (setupIdentity : Option String)
  | orderDecision (decisionId : DecisionId) (signalId symbol : String) (mode : ExecutionMode)
      (phase : DecisionPhase) (decision : Decision)
  | burninObservation (burninRunId signalId : String) (decision : Decision)
      (primaryRejectReason setupIdentity activePositionEpisodeId : Option String)
  /-- Its `lifecycle_state_after` is the one that belongs to its decision and mode. -/
  | decisionEvidence (burninRunId signalId : String) (mode : ExecutionMode) (decision : Decision)
  | pendingPosition (campaignId burninRunId signalId : String) (setupIdentity : Option String)
  | geometryDiagnostic (burninRunId symbol sourceExchange timeframe reason : String)
  deriving DecidableEq, Repr

namespace Row

/-- The signal whose final decision the row records. -/
def signalId : Row → Option String
  | rejectedSignalReview s _ => some s
  | orderDecision _ s _ _ _ _ => some s
  | burninObservation _ s _ _ _ _ => some s
  | decisionEvidence _ s _ _ => some s
  | pendingPosition _ _ s _ => some s
  | geometryDiagnostic .. => none

/-- The setup opportunity whose final decision the row records. -/
def setupIdentity : Row → Option String
  | rejectedSignalReview _ i => i
  | burninObservation _ _ _ _ i _ => i
  | pendingPosition _ _ _ i => i
  | _ => none

end Row

/-! ## 2. Settings, state and what one visit meets -/

structure ScanConfig where
  executionMode : ExecutionMode
  requireMtfAlignment : Bool
  /-- `mtf_execution_confirmation_mode == "SHADOW"`. -/
  shadowConfirmation : Bool
  /-- `selected_candidate_enricher` is set. -/
  enricher : Bool
  /-- `_resolve_persistence_engine()` is not `None`. -/
  engine : Bool
  /-- `on_reject_persist_atomic` is set. -/
  rejectCallback : Bool
  campaignId : Option String
  deriving DecidableEq, Repr

/-- `(symbol, source_exchange, timeframe)`, normalized. -/
structure MarketKey where
  symbol : String
  sourceExchange : String
  timeframe : String
  deriving DecidableEq, Repr

/-- `_duplicate_position_reject_key`: the fields that it hashes. -/
structure DuplicateKey where
  scope : Option String
  setupIdentity : String
  activePositionEpisodeId : String
  deriving DecidableEq, Repr

structure ScanState where
  burninRunId : Option String
  /-- `_canonical_setup_reject_ids`. -/
  rejectedSetups : List String
  /-- `_accepted_setup_identities`. -/
  acceptedSetups : List String
  /-- `_canonical_duplicate_position_keys`. -/
  duplicateKeys : List DuplicateKey
  /-- `_latest_execution_candle_by_market`. -/
  latestCandle : MarketKey → Option ℕ
  rejectPersistenceDegraded : Bool
  recoveryRequired : Bool
  failClosedReason : Option String
  database : List Row

/-- `execution_candle_open_ts` of a selected symbol, under its market key. -/
inductive Candle where
  | absent
  | malformed
  | at (market : MarketKey) (openTs : ℕ)
  deriving DecidableEq, Repr

/-- `setup["phase"]`. -/
inductive SetupPhase where
  | continuation
  | pullback
  | reentryReady
  | noSetup
  | overextended
  | invalid
  | unknown
  deriving DecidableEq, Repr

/-- `setup_phase in {"NO_SETUP", "INVALID", "OVEREXTENDED"}`. -/
def SetupPhase.canonicalReject : SetupPhase → Bool
  | noSetup | overextended | invalid => true
  | _ => false

structure Selection where
  symbol : String
  sourceExchange : String
  timeframe : String
  candle : Candle
  /-- `_resolve_signal_id`. -/
  signalId : String
  deriving DecidableEq, Repr

/-- What the gates compute of one symbol; a gate that rejects gives its reason. -/
structure Gates where
  setupIdentity : Option String
  setupPhase : SetupPhase
  aligned : Bool
  alignmentReasons : List String
  /-- `geometry_status` of the scanner's candidate is `COMPLETE`. -/
  legacyGeometry : Bool
  /-- The same of the guided candidate that replaces it, where one does. -/
  guidedGeometry : Option Bool
  geometryReason : String
  /-- `_apply_state_direction_geometry`, where it is asked. -/
  stateDirectionGeometry : Option String
  guidedStop : Option String
  /-- `_evaluate_runtime_risk`. -/
  risk : Option String
  activePositionEpisodeId : Option String
  killSwitchBefore : Bool
  preAiExecution : Option String
  /-- `before_real_order` raises. -/
  brainRaises : Bool
  killSwitchAfter : Bool
  score : Option String
  quality : Option String
  executionSafety : Option String
  sizing : Option String
  allocation : Option String
  portfolio : Option String
  deriving DecidableEq, Repr

/-- How a write in a transaction of its own ends: its retries can be exhausted. -/
inductive Write where
  | committed
  | busyExhausted
  | raised
  deriving DecidableEq, Repr

/-- The places of a visit where an exception leaves it. -/
inductive Place where
  | campaignCheck
  | context
  | signalCreated
  | signalRejected
  | runtimeError
  | entryEvents
  | execution
  | cancelled
  | positionOpened
  deriving DecidableEq, Repr

/-- What the database and the execution answer during one visit. -/
structure Answers where
  raises : Place → Bool
  /-- The lookup of `_canonical_final_decision_recorded` answers. -/
  finalLookup : Bool
  rejectedLookup : Bool
  acceptedLookup : Bool
  duplicateLookup : Bool
  /-- `burnin_campaign_runs` of the campaign. -/
  campaignRuns : List String
  /-- The run that `_start_or_resume_burnin_run` obtains. -/
  startedRun : Option String
  rejectWrite : Write
  diagnosticWrite : Write
  precheckWrite : Write
  positionWrite : Write
  /-- `_persist_burnin_decision` in its own transaction commits; it swallows its exceptions. -/
  acceptedWrite : Bool
  /-- The lease could not be written: `acquire_execution_ownership` was busy to the end. -/
  ownershipBusy : Bool
  /-- The other conditions of `_execution_reconciliation_blocked`. -/
  otherwiseBlocked : Bool

structure Visit where
  selection : Selection
  gates : Gates
  answers : Answers

/-- How `_process_symbol` ends after the final lookup. -/
inductive Ending where
  | setupSkipped
  | duplicateSkipped
  | diagnosed
  | rejected
  | errored
  | notExecuted
  | accepted
  | raised
  deriving DecidableEq, Repr

structure Outcome where
  state : ScanState
  ending : Ending

variable (cfg : ScanConfig)

/-! ## 3. Lookups -/

/-- `_canonical_reject_decision_id`. -/
def canonicalRejectDecisionId (s : ScanState) (signalId : String) (setupIdentity : Option String)
    (symbol : String) : RejectDecisionId where
  campaignId := if s.burninRunId.isSome then cfg.campaignId else none
  burninRunId := s.burninRunId
  signalId := signalId
  setupIdentity := setupIdentity
  symbol := symbol

/-- A final PAPER row of `order_decisions` for the signal. -/
def finalRow (signalId : String) : Row → Bool
  | .orderDecision _ sid _ mode phase _ => sid = signalId ∧ mode = .paper ∧ phase = .final
  | _ => false

/-- Of these, a reject under the id that this runtime gives it. -/
def canonicalRejectRow (s : ScanState) (signalId : String) : Row → Bool
  | .orderDecision id sid symbol mode phase decision =>
    sid = signalId ∧ mode = .paper ∧ phase = .final ∧ decision = .rejected ∧
      id = .reject (canonicalRejectDecisionId cfg s signalId none symbol)
  | _ => false

def evidenceRow (run signalId : String) : Row → Bool
  | .decisionEvidence r sid mode _ => r = run ∧ sid = signalId ∧ mode = .paper
  | _ => false

def positionRow (campaign run signalId : String) : Row → Bool
  | .pendingPosition c r sid _ => c = campaign ∧ r = run ∧ sid = signalId
  | _ => false

/-- `_canonical_final_decision_recorded`; `none` where it cannot say. -/
def canonicalFinalDecisionRecorded (a : Answers) (s : ScanState) (signalId : String) :
    Option Bool :=
  if cfg.executionMode ≠ .paper then some false
  else if !cfg.engine then some false
  else if !a.finalLookup then none
  else
    match s.burninRunId with
    | none =>
      if cfg.campaignId.isSome then none else some (s.database.any (finalRow signalId))
    | some run =>
      if s.database.any (canonicalRejectRow cfg s signalId) then some true
      else if s.database.any (evidenceRow run signalId) then some true
      else
        match cfg.campaignId with
        | none => some false
        | some campaign => some (s.database.any (positionRow campaign run signalId))

def setupRow (run setupIdentity : String) (decision : Decision) : Row → Bool
  | .burninObservation r _ d _ i _ => r = run ∧ d = decision ∧ i = some setupIdentity
  | _ => false

/-- The memo that `_setup_decision_recorded` consults for a decision. -/
def ScanState.memory (s : ScanState) : Decision → List String
  | .accepted => s.acceptedSetups
  | .rejected => s.rejectedSetups

def ScanState.remember (s : ScanState) (setupIdentity : String) : Decision → ScanState
  | .accepted => { s with acceptedSetups := setupIdentity :: s.acceptedSetups }
  | .rejected => { s with rejectedSetups := setupIdentity :: s.rejectedSetups }

/-- `_setup_decision_recorded`: the memo first, then the run's observations, which a hit enters in
    the memo. A lookup that raises counts as a miss. -/
def setupDecisionRecorded (lookup : Bool) (s : ScanState) (setupIdentity : String)
    (decision : Decision) : Bool × ScanState :=
  if setupIdentity ∈ s.memory decision then (true, s)
  else if !cfg.engine || !lookup then (false, s)
  else
    match s.burninRunId with
    | none => (false, s)
    | some run =>
      if s.database.any (setupRow run setupIdentity decision) then
        (true, s.remember setupIdentity decision)
      else (false, s)

def duplicateRow (runs : List String) (setupIdentity episode : String) : Row → Bool
  | .burninObservation r _ d reason i e =>
    r ∈ runs ∧ d = .rejected ∧ reason = some "DUPLICATE_POSITION" ∧ i = some setupIdentity ∧
      e = some episode
  | _ => false

/-- `_reject_campaign_id`. -/
def rejectCampaignId (s : ScanState) : Option String :=
  s.burninRunId.map fun run => cfg.campaignId.getD ("standalone:" ++ run)

/-- `_duplicate_position_reject_recorded`. -/
def duplicatePositionRejectRecorded (a : Answers) (s : ScanState)
    (setupIdentity episode : String) : Bool × ScanState :=
  let key : DuplicateKey := ⟨rejectCampaignId cfg s, setupIdentity, episode⟩
  if key ∈ s.duplicateKeys then (true, s)
  else if !cfg.engine || (rejectCampaignId cfg s).isNone || !a.duplicateLookup then (false, s)
  else if s.database.any (duplicateRow a.campaignRuns setupIdentity episode) then
    (true, { s with duplicateKeys := key :: s.duplicateKeys })
  else (false, s)

/-! ## 4. Writes -/

/-- `_start_or_resume_burnin_run`. -/
def startOrResumeBurninRun (a : Answers) (s : ScanState) : ScanState :=
  if (cfg.executionMode = .paper ∨ cfg.executionMode = .livePrecheck) ∧ s.burninRunId = none ∧
      cfg.engine = true then
    { s with burninRunId := a.startedRun }
  else s

/-- The rows of `_persist_burnin_decision`. -/
def burninRows (s : ScanState) (signalId : String) (decision : Decision)
    (reason setupIdentity episode : Option String) : List Row :=
  if cfg.executionMode = .paper ∨ cfg.executionMode = .livePrecheck then
    match s.burninRunId with
    | none => []
    | some run =>
      [.burninObservation run signalId decision reason setupIdentity episode,
       .decisionEvidence run signalId cfg.executionMode decision]
  else []

/-- What a reject is about. -/
structure Reject where
  signalId : String
  symbol : String
  reason : String
  setupIdentity : Option String
  activePositionEpisodeId : Option String
  deriving DecidableEq, Repr

/-- The rows of `persist_atomic`, in one transaction. -/
def rejectRows (s : ScanState) (r : Reject) : List Row :=
  .rejectedSignalReview r.signalId r.setupIdentity ::
    burninRows cfg s r.signalId .rejected (some r.reason) r.setupIdentity
      r.activePositionEpisodeId ++
    (if cfg.rejectCallback then
      [.orderDecision (.reject (canonicalRejectDecisionId cfg s r.signalId
        r.setupIdentity r.symbol))
        r.signalId r.symbol cfg.executionMode .final .rejected]
    else [])

/-- A reject was persisted after a degradation: what that degradation set is cleared. -/
def ScanState.rejectRecovered (s : ScanState) : ScanState :=
  if s.rejectPersistenceDegraded then
    if s.failClosedReason = some "REJECT_PERSISTENCE_FAILED" then
      { s with rejectPersistenceDegraded := false, failClosedReason := none
               recoveryRequired := false }
    else { s with rejectPersistenceDegraded := false }
  else s

/-- `_mark_sqlite_persistence_recovery_required`. -/
def ScanState.markRecoveryRequired (s : ScanState) (reason : String) : ScanState :=
  { s with recoveryRequired := true, failClosedReason := s.failClosedReason.or (some reason) }

/-- `_persist_reject`; `none` where it raises. With the retries exhausted it returns like a
    success. -/
def persistReject (a : Answers) (s : ScanState) (r : Reject) : Option ScanState :=
  let s := startOrResumeBurninRun cfg a s
  if !cfg.engine then some s
  else
    match a.rejectWrite with
    | .committed => some { s with database := s.database ++ rejectRows cfg s r }.rejectRecovered
    | .busyExhausted =>
      some { s.markRecoveryRequired "REJECT_PERSISTENCE_FAILED" with
        rejectPersistenceDegraded := true }
    | .raised => none

/-- `_persist_geometry_diagnostic`; `none` where it raises. -/
def persistGeometryDiagnostic (a : Answers) (s : ScanState) (sel : Selection) (reason : String) :
    Option ScanState :=
  let s := startOrResumeBurninRun cfg a s
  match s.burninRunId with
  | none => some s
  | some run =>
    if !cfg.engine then some s
    else
      let row := Row.geometryDiagnostic run sel.symbol sel.sourceExchange sel.timeframe reason
      match a.diagnosticWrite with
      | .committed => some (if row ∈ s.database then s
          else { s with database := s.database ++ [row] })
      | .busyExhausted => some s
      | .raised => none

/-- `_persist_burnin_decision` of an accepted payload, in its own transaction. -/
def persistAccepted (a : Answers) (s : ScanState) (signalId : String)
    (setupIdentity : Option String) : ScanState :=
  let s := startOrResumeBurninRun cfg a s
  if !cfg.engine || s.burninRunId.isNone then s
  else if a.acceptedWrite then
    { s with database := s.database ++ burninRows cfg s signalId .accepted none setupIdentity none }
  else { s with failClosedReason := some "PHASE7_BURNIN_PERSISTENCE_FAILURE" }

/-! ## 5. `_process_symbol` -/

/-- A gate rejects: the reject is persisted, then announced. -/
def rejectWith (a : Answers) (s : ScanState) (r : Reject) : Outcome :=
  match persistReject cfg a s r with
  | none => ⟨s, .raised⟩
  | some s' => if a.raises .signalRejected then ⟨s', .raised⟩ else ⟨s', .rejected⟩

/-- As `rejectWith`, announcing the signal first. -/
def createAndReject (a : Answers) (s : ScanState) (r : Reject) : Outcome :=
  if a.raises .signalCreated then ⟨s, .raised⟩ else rejectWith cfg a s r

def diagnose (a : Answers) (s : ScanState) (sel : Selection) (reason : String) : Outcome :=
  match persistGeometryDiagnostic cfg a s sel reason with
  | none => ⟨s, .raised⟩
  | some s' => ⟨s', .diagnosed⟩

/-- `_execution_reconciliation_blocked`. -/
def reconciliationBlocked (a : Answers) (s : ScanState) : Bool :=
  s.failClosedReason.isSome || s.recoveryRequired || a.otherwiseBlocked

/-- `_authorize_execution_ownership`, where it does not raise. -/
def authorizeExecutionOwnership (a : Answers) (s : ScanState) : ScanState :=
  if a.ownershipBusy then s.markRecoveryRequired "EXECUTION_OWNERSHIP_PERSISTENCE_BUSY" else s

/-- The filled position is announced and the accepted evidence written. -/
def openPosition (a : Answers) (s : ScanState) (v : Visit) (setupIdentity : Option String) :
    Outcome :=
  if a.raises .positionOpened then ⟨s, .raised⟩
  else ⟨persistAccepted cfg a s v.selection.signalId setupIdentity, .accepted⟩

/-- `_persist_pending_paper_position`, for a runtime attached to a campaign. -/
def fillPaper (a : Answers) (s : ScanState) (v : Visit) (setupIdentity : Option String) : Outcome :=
  match cfg.campaignId, s.burninRunId with
  | none, _ => openPosition cfg a s v setupIdentity
  | some _, none => ⟨s, .raised⟩
  | some campaign, some run =>
    if !cfg.engine then ⟨s, .raised⟩
    else
      match a.positionWrite with
      | .committed =>
        openPosition cfg a
          { s with database :=
              s.database ++ [.pendingPosition campaign run v.selection.signalId setupIdentity] }
          v setupIdentity
      | .busyExhausted =>
        ⟨s.markRecoveryRequired "PAPER_POSITION_PERSISTENCE_FAILED", .notExecuted⟩
      | .raised => ⟨s, .raised⟩

/-- `_execute` in PAPER mode and the accepted evidence after it. -/
def executePaper (a : Answers) (s : ScanState) (v : Visit) (setupIdentity : Option String) :
    Outcome :=
  let s' := authorizeExecutionOwnership a s
  if a.raises .execution then ⟨s, .raised⟩
  else if reconciliationBlocked a s' then
    if a.raises .cancelled then ⟨s', .raised⟩ else ⟨s', .notExecuted⟩
  else fillPaper cfg a s' v setupIdentity

/-- `_persist_live_precheck_evidence` and the accepted evidence after it. -/
def precheck (a : Answers) (s : ScanState) (v : Visit) (setupIdentity : Option String) : Outcome :=
  if !cfg.engine then
    ⟨s.markRecoveryRequired "LIVE_PRECHECK_EVIDENCE_PERSISTENCE_FAILED", .notExecuted⟩
  else
    match a.precheckWrite with
    | .committed =>
      let s := { s with database := s.database ++
        [.orderDecision (.other ("live_precheck:" ++ v.selection.signalId)) v.selection.signalId
          v.selection.symbol .livePrecheck .livePrecheck .accepted] }
      ⟨persistAccepted cfg a s v.selection.signalId setupIdentity, .accepted⟩
    | .busyExhausted =>
      ⟨s.markRecoveryRequired "LIVE_PRECHECK_EVIDENCE_PERSISTENCE_FAILED", .notExecuted⟩
    | .raised => ⟨s, .raised⟩

/-- The setup identity of the accepted decision enters the memo before anything is written. -/
def rememberAccepted (s : ScanState) : Option String → ScanState
  | some i => s.remember i .accepted
  | none => s

/-- Every gate accepts. -/
def accept (s : ScanState) (v : Visit) (setupIdentity : Option String) : Outcome :=
  let a := v.answers
  match cfg.executionMode with
  | .paper =>
    let s := rememberAccepted s setupIdentity
    if a.raises .entryEvents then ⟨s, .raised⟩ else executePaper cfg a s v setupIdentity
  | .livePrecheck =>
    let s := rememberAccepted s setupIdentity
    if a.raises .entryEvents then ⟨s, .raised⟩ else precheck cfg a s v setupIdentity
  | .backtest | .live =>
    if a.raises .entryEvents || a.raises .execution || a.raises .positionOpened then ⟨s, .raised⟩
    else ⟨s, .accepted⟩

/-- The gates after `before_real_order`, in their order: the first that rejects. -/
def Gates.late (g : Gates) : Option String :=
  (if g.killSwitchAfter then some "KILL_SWITCH_ACTIVE" else none).or <| g.score.or <|
    g.quality.or <| g.executionSafety.or <| g.sizing.or <| g.allocation.or g.portfolio

def Visit.reject (v : Visit) (setupIdentity : Option String) (reason : String) : Reject where
  signalId := v.selection.signalId
  symbol := v.selection.symbol
  reason := reason
  setupIdentity := setupIdentity
  activePositionEpisodeId := none

/-- `_process_symbol` from the announced signal on. -/
def scoreStage (s : ScanState) (v : Visit) (setupIdentity episode : Option String) : Outcome :=
  let a := v.answers
  let g := v.gates
  let reject (reason : String) : Outcome :=
    rejectWith cfg a s { v.reject setupIdentity reason with activePositionEpisodeId := episode }
  if a.raises .signalCreated then ⟨s, .raised⟩
  else if g.killSwitchBefore then reject "KILL_SWITCH_ACTIVE"
  else
    match g.risk.or g.preAiExecution with
    | some reason => reject reason
    | none =>
      if g.brainRaises then
        if a.raises .runtimeError then ⟨s, .raised⟩ else ⟨s, .errored⟩
      else
        match g.late with
        | some reason => reject reason
        | none => accept cfg s v setupIdentity

/-- The stop-risk gate, then the duplicate-position check: the sight of a reject already durable
    ends the visit, unless the kill switch is to be recorded. -/
def riskStage (s : ScanState) (v : Visit) (setupIdentity : Option String) : Outcome :=
  let g := v.gates
  match g.guidedStop with
  | some reason => rejectWith cfg v.answers s (v.reject setupIdentity reason)
  | none =>
    match setupIdentity, g.activePositionEpisodeId with
    | some i, some e =>
      if g.risk = some "DUPLICATE_POSITION" then
        let known := duplicatePositionRejectRecorded cfg v.answers s i e
        if known.1 && !g.killSwitchBefore then ⟨known.2, .duplicateSkipped⟩
        else scoreStage cfg known.2 v setupIdentity (some e)
      else scoreStage cfg s v setupIdentity none
    | _, _ => scoreStage cfg s v setupIdentity none

/-- `geometry_required`. -/
def geometryRequired (sel : Selection) : Bool :=
  cfg.executionMode = .paper && cfg.enricher && sel.sourceExchange = "binance" &&
    sel.timeframe = "1m"

/-- `_execution_candle_decision_identity` is `None`. -/
def Candle.anonymous : Candle → Bool
  | .at _ _ => false
  | _ => true

/-- The gate of the executable geometry. -/
def geometryStage (s : ScanState) (v : Visit) (setupIdentity : Option String) (complete : Bool) :
    Outcome :=
  if geometryRequired cfg v.selection && !complete then
    if v.selection.candle.anonymous then
      diagnose cfg v.answers s v.selection v.gates.geometryReason
    else createAndReject cfg v.answers s (v.reject setupIdentity v.gates.geometryReason)
  else riskStage cfg s v setupIdentity

/-- An accepted decision of the setup, if there is a setup, is recorded. -/
def acceptedSetupRecorded (a : Answers) (s : ScanState) : Option String → Bool × ScanState
  | some i => setupDecisionRecorded cfg a.acceptedLookup s i .accepted
  | none => (false, s)

/-- The check of an accepted setup and the state-direction geometry. -/
def alignedStage (s : ScanState) (v : Visit) (complete : Bool) : Outcome :=
  let known := acceptedSetupRecorded cfg v.answers s v.gates.setupIdentity
  if known.1 then ⟨known.2, .setupSkipped⟩
  else
    match v.gates.stateDirectionGeometry with
    | some reason =>
      createAndReject cfg v.answers known.2 (v.reject v.gates.setupIdentity reason)
    | none => geometryStage cfg known.2 v v.gates.setupIdentity complete

/-- The reasons of a misalignment, the missing geometry first. -/
def misalignment (v : Visit) : List String :=
  let reasons := if v.gates.alignmentReasons = [] then ["MTF_EXECUTION_UNAVAILABLE"]
    else v.gates.alignmentReasons
  if geometryRequired cfg v.selection && !v.gates.legacyGeometry then
    (v.gates.geometryReason :: reasons).eraseDups
  else reasons

/-- `shadow_mtf_execution_reason` is set: the misalignment is recorded but not enforced. -/
def shadowed (v : Visit) : Bool :=
  cfg.shadowConfirmation && misalignment cfg v = ["MTF_EXECUTION_NOT_CONFIRMED"]

/-- The reject of a misaligned symbol; a canonical setup reject takes the setup's signal id. -/
def misalignedReject (v : Visit) (canonical : Bool) : Reject :=
  let r := v.reject v.gates.setupIdentity ((misalignment cfg v).headD "")
  match v.gates.setupIdentity with
  | some i => if canonical then { r with signalId := "runtime:" ++ i } else r
  | none => r

/-- The misalignment rejects, unless it is only shadowed. -/
def enforceMisalignment (s : ScanState) (v : Visit) (canonical : Bool) : Outcome :=
  if shadowed cfg v then alignedStage cfg s v v.gates.legacyGeometry
  else createAndReject cfg v.answers s (misalignedReject cfg v canonical)

/-- The alignment gate failed. A canonical setup reject enters the memo before it is persisted. -/
def misalignedStage (s : ScanState) (v : Visit) : Outcome :=
  if geometryRequired cfg v.selection && !v.gates.legacyGeometry &&
      v.selection.candle.anonymous then
    diagnose cfg v.answers s v.selection v.gates.geometryReason
  else
    match v.gates.setupIdentity with
    | some i =>
      if v.gates.setupPhase.canonicalReject then
        let known := setupDecisionRecorded cfg v.answers.rejectedLookup s i .rejected
        if known.1 then ⟨known.2, .setupSkipped⟩
        else enforceMisalignment cfg (known.2.remember i .rejected) v true
      else enforceMisalignment cfg s v false
    | none => enforceMisalignment cfg s v false

/-- The stages of `_process_symbol` after the final lookup. -/
def decideSymbol (s : ScanState) (v : Visit) : Outcome :=
  if cfg.executionMode = .paper ∧ cfg.requireMtfAlignment = true then
    if v.gates.aligned then
      alignedStage cfg s v (v.gates.guidedGeometry.getD v.gates.legacyGeometry)
    else misalignedStage cfg s v
  else geometryStage cfg s v none v.gates.legacyGeometry

/-- `_process_symbol`: what the final lookup leaves to do. -/
inductive Result where
  | lookupFailed
  | finalized
  | decided (out : Outcome)

/-- `_process_symbol`. -/
def processSymbol (s : ScanState) (v : Visit) : Result :=
  match canonicalFinalDecisionRecorded cfg v.answers s v.selection.signalId with
  | none => .lookupFailed
  | some true => .finalized
  | some false =>
    .decided (if v.answers.raises .context then ⟨s, .raised⟩ else decideSymbol cfg s v)

/-! ## 6. `_scan_once` and the runs -/

/-- What a run skipped as already decided and marked as processed. -/
inductive Note where
  | finalized (signalId : String)
  | skipped (setupIdentity : String)
  | marked (market : MarketKey) (openTs : ℕ) (signalId : String) (setupIdentity : Option String)
  deriving DecidableEq, Repr

/-- The runtime and the notes of its run; `halted` once an exception has ended the scan loop. -/
structure World where
  state : ScanState
  notes : List Note
  halted : Bool

/-- The setup identity under which the visit decides: the alignment block sets it. -/
def Visit.setupIdentity (v : Visit) : Option String :=
  if cfg.executionMode = .paper ∧ cfg.requireMtfAlignment = true then
    v.gates.setupIdentity else none

/-- The skip that an ending is. -/
def skipNotes (v : Visit) : Ending → List Note
  | .setupSkipped | .duplicateSkipped => (v.setupIdentity cfg).toList.map .skipped
  | _ => []

/-- `_latest_execution_candle_by_market[candle_key] = candle_ts`. -/
def ScanState.mark (s : ScanState) (market : MarketKey) (openTs : ℕ) : ScanState :=
  { s with latestCandle := fun m => if m = market then some openTs else s.latestCandle m }

/-- The visit has returned in a state and with the skips it made: the candle is marked. -/
def returned (w : World) (v : Visit) (s : ScanState) (skips : List Note) : World :=
  match v.selection.candle with
  | .at market openTs =>
    { w with
      state := s.mark market openTs
      notes := w.notes ++ skips ++
        [.marked market openTs v.selection.signalId (v.setupIdentity cfg)] }
  | _ => { w with state := s, notes := w.notes ++ skips }

/-- The body of the loop of `_scan_once` once the candle is due. -/
def visit (w : World) (v : Visit) : World :=
  match processSymbol cfg w.state v with
  | .lookupFailed => returned cfg w v w.state []
  | .finalized => returned cfg w v w.state [.finalized v.selection.signalId]
  | .decided out =>
    if out.ending = .raised then { w with state := out.state, halted := true }
    else returned cfg w v out.state (skipNotes cfg v out.ending)

/-- The candle is not newer than the last one processed in its market. -/
def replayed (s : ScanState) (market : MarketKey) (openTs : ℕ) : Bool :=
  match s.latestCandle market with
  | some latest => openTs ≤ latest
  | none => false

/-- One symbol of `_scan_once`: malformed and replayed candles are passed over. The campaign check
    stands again at the head of `_process_symbol`, with the same answer. -/
def scanSymbol (w : World) (v : Visit) : World :=
  if w.halted then w
  else if v.answers.raises .campaignCheck then { w with halted := true }
  else
    match v.selection.candle with
    | .malformed => w
    | .absent => visit cfg w v
    | .at market openTs => if replayed w.state market openTs then w else visit cfg w v

inductive Event where
  | scan (visits : List Visit)
  /-- Between the scans: other tasks of the process and other writers of the database. -/
  | others (recoveryRequired : Bool) (failClosedReason : Option String) (rows : List Row)
  /-- A new process on the same database: the memos are gone. -/
  | restart (burninRunId : Option String) (recoveryRequired : Bool)
      (failClosedReason : Option String)

/-- The state of a process that has just started. -/
def ScanState.fresh (burninRunId : Option String) (recoveryRequired : Bool)
    (failClosedReason : Option String) (database : List Row) : ScanState where
  burninRunId := burninRunId
  rejectedSetups := []
  acceptedSetups := []
  duplicateKeys := []
  latestCandle := fun _ => none
  rejectPersistenceDegraded := false
  recoveryRequired := recoveryRequired
  failClosedReason := failClosedReason
  database := database

/-- The world in which a process starts. -/
def World.start (burninRunId : Option String) (recoveryRequired : Bool)
    (failClosedReason : Option String) (database : List Row) : World :=
  ⟨.fresh burninRunId recoveryRequired failClosedReason database, [], false⟩

def next (w : World) : Event → World
  | .scan visits => visits.foldl (scanSymbol cfg) w
  | .others recovery reason rows =>
    { w with
      state := { w.state with
        recoveryRequired := recovery
        failClosedReason := reason
        database := w.state.database ++ rows } }
  | .restart run recovery reason =>
    { w with state := .fresh run recovery reason w.state.database, halted := false }

end AlphaForge.Runtime.Scan
