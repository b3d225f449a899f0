/-
  File:      AlphaForge/Lifecycle/Emission.lean
  Subject:   `_emit_lifecycle_event` of the runtime, the incidents that go through it, and a restart
             that re-attaches the open positions.

  * `emitLifecycleEvent` -- resolves the signal, judges the transition, stamps and records it.
  * `Follows` -- the records of one signal: each starts in the state that the one before it (or a
    re-attachment) left, and is a transition of the contract or an audited `ERROR`.
  * `Path` -- records that are transitions of the contract alone.
  * **`lifecycle_recorded`** -- every run records the first for every signal, and the second where
    every event is a transition when it is emitted; an open position stays open while nothing
    resolves to its signal, and its close is then recorded and persisted.
  * `close_after_repair_lost` -- a repair that resolves to the signal is recorded as `ERROR`, and
    so is the close after it.

  Of the details only what the emission reads or writes is kept by name; the rest is text.
-/
import AlphaForge.Lib.Runs
import AlphaForge.Lifecycle.Contract
import AlphaForge.Runtime.State

namespace AlphaForge.Lifecycle

open AlphaForge.Lib
open AlphaForge.Runtime (ExecutionMode)

/-! ## 1. Events and the runtime's maps -/

/-- `details["invalid_transition"]`. -/
structure InvalidTransition where
  signalId : String
  symbol : String
  previousLifecycleState : Option LifecycleEvent
  attemptedLifecycleState : LifecycleEvent
  deriving DecidableEq, Repr

/-- The `details` of an event; `decisionSignalId` is `details["decision"]["signal_id"]`, `fields`
    are the other entries. -/
structure Details where
  signalId : Option String := none
  decisionSignalId : Option String := none
  burninRunId : Option String := none
  campaignId : Option String := none
  failureReason : Option String := none
  attemptedState : Option String := none
  previousState : Option String := none
  invalidTransition : Option InvalidTransition := none
  fields : List (String × String) := []
  deriving DecidableEq, Repr

/-- What `on_lifecycle_event` is handed. -/
structure EventPayload where
  lifecycleState : LifecycleEvent
  signalId : String
  symbol : String
  timestamp : Nat
  mode : ExecutionMode
  previousLifecycleState : Option LifecycleEvent
  details : Details
  deriving DecidableEq, Repr

/-- A row of `burnin_trade_outcomes`. -/
structure BurninTradeOutcome where
  burninRunId : String
  symbol : String
  details : Details
  deriving DecidableEq, Repr

/-- What the store has to say when a closed trade is written: the run that
    `_start_or_resume_burnin_run` finds, whether there is an engine, whether the write succeeds. -/
structure StoreAnswer where
  startedRun : Option String := none
  engine : Bool := false
  writes : Bool := false
  deriving DecidableEq, Repr

/-- A call of `_emit_lifecycle_event`, and the store it meets. -/
structure Emission where
  event : LifecycleEvent
  symbol : String
  details : Details := {}
  store : StoreAnswer := {}
  deriving DecidableEq, Repr

/-- The fields of `RuntimeOrchestrator` that the emission reads and writes; `campaignId` includes
    the one of the environment. -/
structure Orchestrator where
  executionMode : ExecutionMode
  burninRunId : Option String
  campaignId : Option String
  currentSignalIdBySymbol : String → Option String
  lastLifecycleStateBySignal : String → Option LifecycleEvent
  lastLifecycleStateBySymbol : String → Option LifecycleEvent
  incidentCounters : String → Nat
  lastRepairSignature : List String
  burninEvidenceIncomplete : Bool
  failClosedReason : Option String

/-- What leaves the process: a recorded event, or a restart with the signals it re-attached. -/
inductive LogEntry where
  | recorded (payload : EventPayload)
  | restarted (signals : List String)
  deriving DecidableEq, Repr

structure World where
  runtime : Orchestrator
  now : Nat
  log : List LogEntry
  outcomes : List BurninTradeOutcome

/-- A text that Python takes for true. -/
def truthy (s : Option String) : Option String := s.filter (· ≠ "")

/-! ## 2. `_emit_lifecycle_event` -/

section Emit

-- the identity that `_resolve_signal_id` hashes out of the symbol and the details
variable (runtimeId : String → Details → String)

/-- `_resolve_signal_id`. -/
def resolveSignalId (symbol : String) (payload : Details) (currentSignalId : Option String) :
    String :=
  match truthy payload.signalId with
  | some id => id
  | none =>
    match truthy payload.decisionSignalId with
    | some id => id
    | none => (truthy currentSignalId).getD (runtimeId symbol payload)

/-- The signal that an event is recorded under. -/
def Orchestrator.signalOf (self : Orchestrator) (e : Emission) : String :=
  resolveSignalId runtimeId e.symbol e.details
    (if e.event = .signalCreated then none else self.currentSignalIdBySymbol e.symbol)

/-- `{**detail_payload, **error_scope}`. -/
def Orchestrator.scoped (self : Orchestrator) (details : Details) : Details :=
  { details with
    burninRunId := (truthy self.burninRunId).or details.burninRunId
    campaignId := (truthy self.campaignId).or details.campaignId }

/-- The name of a state in the details, `"NONE"` where there is none. -/
def stateName (state : Option LifecycleEvent) : String :=
  (state.map LifecycleEvent.value).getD "NONE"

/-- The details of an `ERROR` event. -/
def Orchestrator.errorDetails (self : Orchestrator) (signalId : String)
    (previous : Option LifecycleEvent) (e : Emission) : Details :=
  { self.scoped e.details with
    signalId := some signalId
    attemptedState := some ((truthy e.details.attemptedState).getD e.event.value)
    previousState := some ((truthy e.details.previousState).getD (stateName previous)) }

/-- The details of an event that is no transition. -/
def Orchestrator.invalidDetails (self : Orchestrator) (signalId : String)
    (previous : Option LifecycleEvent) (e : Emission) : Details :=
  { self.scoped e.details with
    failureReason := some "INVALID_LIFECYCLE_TRANSITION"
    signalId := some signalId
    attemptedState := some e.event.value
    previousState := some (stateName previous)
    invalidTransition := some
      { signalId := signalId
        symbol := e.symbol
        previousLifecycleState := previous
        attemptedLifecycleState := e.event } }

/-- `event_payload`. -/
def World.eventPayload (w : World) (e : Emission) : EventPayload :=
  let signalId := w.runtime.signalOf runtimeId e
  let previousState := w.runtime.lastLifecycleStateBySignal signalId
  let transitionValid := e.event ≠ .error ∧ validateTransition previousState e.event = true
  { lifecycleState := if transitionValid ∨ e.event = .error then e.event else .error
    signalId := signalId
    symbol := e.symbol
    timestamp := w.now
    mode := w.runtime.executionMode
    previousLifecycleState := previousState
    details :=
      if e.event = .error then w.runtime.errorDetails signalId previousState e
      else if ¬ transitionValid then w.runtime.invalidDetails signalId previousState e
      else e.details }

def requiredEvidence : List String :=
  ["gross_pnl", "gross_r", "net_pnl", "net_r", "exit_reason", "mfe", "mae",
    "hold_duration_seconds"]

/-- The modes whose closed trades are burn-in evidence. -/
def burninModes : List ExecutionMode := [.paper, .livePrecheck]

/-- `_persist_burnin_closed_trade_from_lifecycle`. -/
def persistBurninClosedTradeFromLifecycle (symbol : String) (details : Details)
    (store : StoreAnswer) (w : World) : World :=
  if w.runtime.executionMode ∉ burninModes then w
  else
    let runId := (truthy w.runtime.burninRunId).or (truthy store.startedRun)
    let self := { w.runtime with burninRunId := runId.or w.runtime.burninRunId }
    match store.engine, runId with
    | true, some runId =>
      let missing := requiredEvidence.any fun key => (details.fields.lookup key).isNone
      let self := { self with burninEvidenceIncomplete := self.burninEvidenceIncomplete || missing }
      if store.writes then
        { w with
          runtime := self
          outcomes := w.outcomes ++ [⟨runId, symbol, details⟩] }
      else
        { w with
          runtime := { self with
            burninEvidenceIncomplete := true
            failClosedReason := some "PHASE7_BURNIN_PERSISTENCE_FAILURE" } }
    | _, _ => { w with runtime := { self with burninEvidenceIncomplete := true } }

/-- The maps after a record. -/
def Orchestrator.remember (self : Orchestrator) (payload : EventPayload) : Orchestrator :=
  { self with
    currentSignalIdBySymbol :=
      Function.update self.currentSignalIdBySymbol payload.symbol (some payload.signalId)
    lastLifecycleStateBySignal :=
      Function.update self.lastLifecycleStateBySignal payload.signalId (some payload.lifecycleState)
    lastLifecycleStateBySymbol :=
      Function.update self.lastLifecycleStateBySymbol payload.symbol (some payload.lifecycleState) }

/-- A recorded close is handed to the closed-trade evidence. -/
def settle (payload : EventPayload) (store : StoreAnswer) (w : World) : World :=
  if payload.lifecycleState = .positionClosed then
    persistBurninClosedTradeFromLifecycle payload.symbol payload.details store w
  else w

/-- `_emit_lifecycle_event`. -/
def emitLifecycleEvent (e : Emission) (w : World) : World :=
  let payload := w.eventPayload runtimeId e
  let w := settle payload e.store { w with runtime := w.runtime.remember payload }
  { w with log := w.log ++ [.recorded payload] }

/-! ## 3. Incidents and restarts -/

/-- A position of `burnin_pending_position_outcomes` that is open. -/
structure OpenPosition where
  signalId : String
  symbol : String
  deriving DecidableEq, Repr

/-- What happens to the runtime. -/
inductive Occurrence where
  | pass (seconds : Nat)
  | event (e : Emission)
  | recordIncident (symbol : String) (lifecycleEvent : LifecycleEvent) (reason : String)
      (store : StoreAnswer)
  | reconcileSymbolState (symbol status : String)
  | reconcileFinding (findingType symbol lifecycleRef : String)
  | runtimeError (symbol signalId phase failureReason : String)
  | restart (positions : List OpenPosition)
  deriving DecidableEq, Repr

/-- The signature of a finding. -/
def repairSignature (findingType symbol lifecycleRef : String) : String :=
  findingType ++ ":" ++ symbol ++ ":" ++ lifecycleRef

/-- The event that an occurrence emits. -/
def Occurrence.emission (w : World) : Occurrence → Option Emission
  | .pass _ => none
  | .event e => some e
  | .recordIncident symbol lifecycleEvent reason store => some
      { event := lifecycleEvent
        symbol := symbol
        details :=
          { fields :=
              [("reason", reason),
                ("incident_count", toString (w.runtime.incidentCounters reason + 1))] }
        store := store }
  | .reconcileSymbolState symbol status => some
      { event := .reconciliationRepair
        symbol := symbol
        details := { fields := [("reason", "reconcile_" ++ status)] } }
  | .reconcileFinding findingType symbol lifecycleRef =>
    if repairSignature findingType symbol lifecycleRef ∈ w.runtime.lastRepairSignature then none
    else some
      { event := .reconciliationRepair
        symbol := symbol
        details := { fields := [("reason", findingType)] } }
  | .runtimeError symbol signalId phase failureReason => some
      { event := .error
        symbol := symbol
        details :=
          { signalId := some signalId
            failureReason := some failureReason
            attemptedState := some phase } }
  | .restart _ => none

/-- What an occurrence changes before it emits: the clock, a counter, the known signatures. -/
def Occurrence.noted (w : World) : Occurrence → World
  | .pass seconds => { w with now := w.now + seconds }
  | .recordIncident _ _ reason _ =>
    { w with runtime := { w.runtime with
        incidentCounters := Function.update w.runtime.incidentCounters reason
          (w.runtime.incidentCounters reason + 1) } }
  | .reconcileFinding findingType symbol lifecycleRef =>
    { w with runtime := { w.runtime with
        lastRepairSignature :=
          w.runtime.lastRepairSignature.insert (repairSignature findingType symbol lifecycleRef) } }
  | _ => w

/-- A new process. -/
def Orchestrator.initial (executionMode : ExecutionMode) (burninRunId campaignId : Option String) :
    Orchestrator where
  executionMode := executionMode
  burninRunId := burninRunId
  campaignId := campaignId
  currentSignalIdBySymbol := fun _ => none
  lastLifecycleStateBySignal := fun _ => none
  lastLifecycleStateBySymbol := fun _ => none
  incidentCounters := fun _ => 0
  lastRepairSignature := []
  burninEvidenceIncomplete := false
  failClosedReason := none

/-- One open position of the campaign. -/
def Orchestrator.reattach (self : Orchestrator) (position : OpenPosition) : Orchestrator :=
  let symbol := upper position.symbol
  if symbol = "" then self
  else
    let self := { self with
      lastLifecycleStateBySymbol :=
        Function.update self.lastLifecycleStateBySymbol symbol (some .positionOpened) }
    let signalId := strip position.signalId
    if signalId = "" then self
    else
      { self with
        lastLifecycleStateBySignal :=
          Function.update self.lastLifecycleStateBySignal signalId (some .positionOpened)
        currentSignalIdBySymbol :=
          Function.update self.currentSignalIdBySymbol symbol (some signalId) }

/-- The signals that a restart re-attaches. -/
def reattachedSignals (positions : List OpenPosition) : List String :=
  (positions.filter fun p => upper p.symbol ≠ "" ∧ strip p.signalId ≠ "").map fun p =>
    strip p.signalId

/-- A new process over the same database. -/
def World.restart (w : World) (positions : List OpenPosition) : World :=
  { w with
    runtime := positions.foldl Orchestrator.reattach
      (.initial w.runtime.executionMode w.runtime.burninRunId w.runtime.campaignId)
    log := w.log ++ [.restarted (reattachedSignals positions)] }

def step (w : World) (o : Occurrence) : World :=
  match o with
  | .restart positions => w.restart positions
  | o =>
    match o.emission w with
    | some e => emitLifecycleEvent runtimeId e (o.noted w)
    | none => o.noted w

/-- A first process, with nothing recorded. -/
def World.initial (executionMode : ExecutionMode) (burninRunId campaignId : Option String) :
    World where
  runtime := .initial executionMode burninRunId campaignId
  now := 0
  log := []
  outcomes := []

/-- The world after a run of the first process and its successors. -/
def history (executionMode : ExecutionMode) (burninRunId campaignId : Option String)
    (run : List Occurrence) : World :=
  runEvents (step runtimeId) (.initial executionMode burninRunId campaignId) run

end Emit

/-! ## 4. Paths of records -/

/-- The details of an audited `ERROR`. -/
def Audited (p : EventPayload) : Prop :=
  p.details.signalId = some p.signalId ∧ truthy p.details.attemptedState ≠ none ∧
    truthy p.details.previousState ≠ none

/-- A transition of the contract, or an audited `ERROR`. -/
def Recordable (p : EventPayload) : Prop :=
  validateTransition p.previousLifecycleState p.lifecycleState = true ∨
    p.lifecycleState = .error ∧ Audited p

/-- The state of a signal after the entries of a log. -/
def stateAfter (signal : String) : Option LifecycleEvent → List LogEntry → Option LifecycleEvent
  | state, [] => state
  | state, .recorded p :: log =>
    stateAfter signal (if p.signalId = signal then some p.lifecycleState else state) log
  | _, .restarted signals :: log =>
    stateAfter signal (if signal ∈ signals then some .positionOpened else none) log

/-- The records of a signal are a path that starts in `state`. -/
def Follows (signal : String) : Option LifecycleEvent → List LogEntry → Prop
  | _, [] => True
  | state, .recorded p :: log =>
    if p.signalId = signal then
      p.previousLifecycleState = state ∧ Recordable p ∧ Follows signal (some p.lifecycleState) log
    else Follows signal state log
  | _, .restarted signals :: log =>
    Follows signal (if signal ∈ signals then some .positionOpened else none) log

/-- The states recorded for a signal. -/
def recordedStates (signal : String) (log : List LogEntry) : List LifecycleEvent :=
  log.filterMap fun
    | .recorded p => if p.signalId = signal then some p.lifecycleState else none
    | .restarted _ => none

/-- The state last recorded for a signal, by this process or an earlier one. -/
def lastRecorded (signal : String) (log : List LogEntry) : Option LifecycleEvent :=
  (recordedStates signal log).getLast?

/-- A path of the transition relation that starts in `state`. -/
def Path : Option LifecycleEvent → List LifecycleEvent → Prop
  | _, [] => True
  | state, next :: rest => validateTransition state next = true ∧ Path (some next) rest

theorem path_concat (states : List LifecycleEvent) (next : LifecycleEvent)
    (state : Option LifecycleEvent) :
    Path state (states ++ [next]) ↔
      Path state states ∧ validateTransition (states.getLast?.or state) next = true := by
  induction states generalizing state with
  | nil => simp [Path]
  | cons first states ih =>
    have hlast : ((first :: states).getLast?).or state = states.getLast?.or (some first) := by
      rw [List.getLast?_cons]
      cases states.getLast? with
      | none => rfl
      | some last => rfl
    rw [List.cons_append, Path, ih, Path, hlast, and_assoc]

theorem stateAfter_append (signal : String) (log later : List LogEntry)
    (state : Option LifecycleEvent) :
    stateAfter signal state (log ++ later) =
      stateAfter signal (stateAfter signal state log) later := by
  induction log generalizing state with
  | nil => rfl
  | cons entry log ih =>
    cases entry with
    | recorded p => exact ih _
    | restarted signals => exact ih _

theorem follows_append (signal : String) (log later : List LogEntry)
    (state : Option LifecycleEvent) :
    Follows signal state (log ++ later) ↔
      Follows signal state log ∧ Follows signal (stateAfter signal state log) later := by
  induction log generalizing state with
  | nil => exact (iff_of_eq (true_and _)).symm
  | cons entry log ih =>
    cases entry with
    | recorded p =>
      by_cases hp : p.signalId = signal
      · simp only [List.cons_append, Follows, stateAfter, if_pos hp, ih, and_assoc]
      · simp only [List.cons_append, Follows, stateAfter, if_neg hp, ih]
    | restarted signals => exact ih _

/-! ## 5. One emission -/

section Emission

variable (runtimeId : String → Details → String) (w : World) (e : Emission)

theorem value_truthy (event : LifecycleEvent) : truthy (some event.value) = some event.value := by
  cases event <;> rfl

theorem stateName_truthy (state : Option LifecycleEvent) :
    truthy (some (stateName state)) = some (stateName state) := by
  cases state with
  | none => rfl
  | some state => exact value_truthy state

/-- What is left of a text that Python takes for true, or the default. -/
theorem truthy_getD {s : Option String} {default : String}
    (h : truthy (some default) = some default) :
    truthy (some ((truthy s).getD default)) ≠ none := by
  cases hs : truthy s with
  | none => simp [h]
  | some t =>
    have ht : t ≠ "" := by
      have := Option.eq_some_of_filter_eq_some hs
      simp_all [truthy]
    simp [truthy, ht]

/-- The state in which an event meets its signal. -/
def World.stateBefore (runtimeId : String → Details → String) (w : World) (e : Emission) :
    Option LifecycleEvent :=
  w.runtime.lastLifecycleStateBySignal (w.runtime.signalOf runtimeId e)

theorem payload_of_valid (herr : e.event ≠ .error)
    (hvalid : validateTransition (w.stateBefore runtimeId e) e.event = true) :
    (w.eventPayload runtimeId e).lifecycleState = e.event ∧
      (w.eventPayload runtimeId e).details = e.details := by
  unfold World.stateBefore at hvalid
  simp [World.eventPayload, herr, hvalid]

theorem payload_of_error (herr : e.event = .error) :
    (w.eventPayload runtimeId e).lifecycleState = .error ∧
      (w.eventPayload runtimeId e).details =
        w.runtime.errorDetails (w.runtime.signalOf runtimeId e) (w.stateBefore runtimeId e) e := by
  simp [World.eventPayload, World.stateBefore, herr]

theorem payload_of_invalid (herr : e.event ≠ .error)
    (hvalid : validateTransition (w.stateBefore runtimeId e) e.event ≠ true) :
    (w.eventPayload runtimeId e).lifecycleState = .error ∧
      (w.eventPayload runtimeId e).details =
        w.runtime.invalidDetails (w.runtime.signalOf runtimeId e)
          (w.stateBefore runtimeId e) e := by
  unfold World.stateBefore at hvalid ⊢
  simp [World.eventPayload, herr, hvalid]

/-- What is recorded as an `ERROR` is audited. -/
theorem payload_audited (h : (w.eventPayload runtimeId e).lifecycleState = .error) :
    Audited (w.eventPayload runtimeId e) := by
  unfold Audited
  by_cases herr : e.event = .error
  · rw [(payload_of_error runtimeId w e herr).2]
    exact ⟨rfl, truthy_getD (value_truthy _), truthy_getD (stateName_truthy _)⟩
  · by_cases hvalid : validateTransition (w.stateBefore runtimeId e) e.event = true
    · exact absurd ((payload_of_valid runtimeId w e herr hvalid).1.symm.trans h) herr
    · rw [(payload_of_invalid runtimeId w e herr hvalid).2]
      refine ⟨rfl, ?_, ?_⟩
      · exact ne_of_eq_of_ne (value_truthy _) (Option.some_ne_none _)
      · exact ne_of_eq_of_ne (stateName_truthy _) (Option.some_ne_none _)

/-- **Every event is recorded as a transition or as an audited `ERROR`.** -/
theorem payload_recordable : Recordable (w.eventPayload runtimeId e) := by
  by_cases herr : e.event = .error
  · have hstate := (payload_of_error runtimeId w e herr).1
    exact Or.inr ⟨hstate, payload_audited runtimeId w e hstate⟩
  · by_cases hvalid : validateTransition (w.stateBefore runtimeId e) e.event = true
    · left
      rw [(payload_of_valid runtimeId w e herr hvalid).1]
      exact hvalid
    · have hstate := (payload_of_invalid runtimeId w e herr hvalid).1
      exact Or.inr ⟨hstate, payload_audited runtimeId w e hstate⟩

/-- The closed-trade write touches neither maps nor clock nor log. -/
theorem settle_frame (p : EventPayload) (store : StoreAnswer) :
    (settle p store w).runtime.lastLifecycleStateBySignal = w.runtime.lastLifecycleStateBySignal ∧
      (settle p store w).now = w.now ∧ (settle p store w).log = w.log := by
  unfold settle persistBurninClosedTradeFromLifecycle
  split
  · split
    · exact ⟨rfl, rfl, rfl⟩
    · dsimp only
      split
      · split
        · exact ⟨rfl, rfl, rfl⟩
        · exact ⟨rfl, rfl, rfl⟩
      · exact ⟨rfl, rfl, rfl⟩
  · exact ⟨rfl, rfl, rfl⟩

/-- What an emission does to the map, the clock and the log. -/
theorem emit_frame :
    (emitLifecycleEvent runtimeId e w).runtime.lastLifecycleStateBySignal =
        Function.update w.runtime.lastLifecycleStateBySignal (w.eventPayload runtimeId e).signalId
          (some (w.eventPayload runtimeId e).lifecycleState) ∧
      (emitLifecycleEvent runtimeId e w).now = w.now ∧
      (emitLifecycleEvent runtimeId e w).log =
        w.log ++ [.recorded (w.eventPayload runtimeId e)] := by
  obtain ⟨hmap, hnow, hlog⟩ := settle_frame
    { w with runtime := w.runtime.remember (w.eventPayload runtimeId e) }
    (w.eventPayload runtimeId e) e.store
  exact ⟨hmap, hnow, congrArg (· ++ _) hlog⟩

end Emission

/-! ## 6. Runs -/

section Histories

variable (runtimeId : String → Details → String)

/-- An occurrence is a restart, or notes something and emits at most one event. -/
theorem step_cases (w : World) (o : Occurrence) :
    (∃ positions, o = .restart positions) ∨
      (∃ e, o.emission w = some e ∧ step runtimeId w o =
        emitLifecycleEvent runtimeId e (o.noted w)) ∨
        step runtimeId w o = o.noted w := by
  cases o with
  | restart positions => exact Or.inl ⟨positions, rfl⟩
  | pass _ => exact Or.inr (Or.inr rfl)
  | event e => exact Or.inr (Or.inl ⟨e, rfl, rfl⟩)
  | recordIncident symbol event reason store => exact Or.inr (Or.inl ⟨_, rfl, rfl⟩)
  | reconcileSymbolState symbol status => exact Or.inr (Or.inl ⟨_, rfl, rfl⟩)
  | runtimeError symbol signalId phase failure => exact Or.inr (Or.inl ⟨_, rfl, rfl⟩)
  | reconcileFinding findingType symbol ref =>
    right
    by_cases hseen : repairSignature findingType symbol ref ∈ w.runtime.lastRepairSignature
    · right
      simp [step, Occurrence.emission, hseen]
    · left
      simp [step, Occurrence.emission, hseen]

/-- What an occurrence notes touches neither maps nor log. -/
theorem noted_frame (w : World) (o : Occurrence) :
    (o.noted w).runtime.lastLifecycleStateBySignal = w.runtime.lastLifecycleStateBySignal ∧
      (o.noted w).runtime.currentSignalIdBySymbol = w.runtime.currentSignalIdBySymbol ∧
        (o.noted w).log = w.log ∧ w.now ≤ (o.noted w).now := by
  cases o with
  | pass seconds => exact ⟨rfl, rfl, rfl, Nat.le_add_right _ _⟩
  | _ => exact ⟨rfl, rfl, rfl, le_refl _⟩

/-- The state map after the open positions are re-attached. -/
theorem reattach_map (positions : List OpenPosition) (self : Orchestrator) (signal : String) :
    (positions.foldl Orchestrator.reattach self).lastLifecycleStateBySignal signal =
      if signal ∈ reattachedSignals positions then some .positionOpened
      else self.lastLifecycleStateBySignal signal := by
  induction positions generalizing self with
  | nil => rfl
  | cons position positions ih =>
    rw [List.foldl_cons, ih]
    by_cases hs : upper position.symbol = ""
    · have hself : self.reattach position = self := by simp [Orchestrator.reattach, hs]
      have hsignals : reattachedSignals (position :: positions) = reattachedSignals positions := by
        simp [reattachedSignals, hs]
      rw [hself, hsignals]
    · by_cases hid : strip position.signalId = ""
      · have hmap : (self.reattach position).lastLifecycleStateBySignal =
            self.lastLifecycleStateBySignal := by
          simp [Orchestrator.reattach, hs, hid]
        have hsignals : reattachedSignals (position :: positions) =
          reattachedSignals positions := by
          simp [reattachedSignals, hid]
        rw [hmap, hsignals]
      · have hmap : (self.reattach position).lastLifecycleStateBySignal =
            Function.update self.lastLifecycleStateBySignal (strip position.signalId)
              (some .positionOpened) := by
          simp [Orchestrator.reattach, hs, hid]
        have hsignals : reattachedSignals (position :: positions) =
            strip position.signalId :: reattachedSignals positions := by
          simp [reattachedSignals, hs, hid]
        rw [hmap, hsignals]
        by_cases heq : signal = strip position.signalId
        · simp [heq]
        · simp [heq]

/-- The log is a path for every signal, and the state map remembers where each path ended. -/
def Faithful (w : World) : Prop :=
  ∀ signal, Follows signal none w.log ∧
    w.runtime.lastLifecycleStateBySignal signal = stateAfter signal none w.log

theorem faithful_emit {w : World} (h : Faithful w) (e : Emission) :
    Faithful (emitLifecycleEvent runtimeId e w) := by
  intro signal
  obtain ⟨hmap, _, hlog⟩ := emit_frame runtimeId w e
  obtain ⟨hpath, hstate⟩ := h signal
  rw [hmap, hlog, follows_append, stateAfter_append, ← hstate]
  by_cases hs : (w.eventPayload runtimeId e).signalId = signal
  · refine ⟨⟨hpath, ?_⟩, ?_⟩
    · unfold Follows
      rw [if_pos hs]
      exact ⟨congrArg w.runtime.lastLifecycleStateBySignal hs, payload_recordable runtimeId w e,
        trivial⟩
    · simp [stateAfter, hs]
  · refine ⟨⟨hpath, ?_⟩, ?_⟩
    · unfold Follows
      rw [if_neg hs]
      trivial
    · simp [stateAfter, hs, Function.update_of_ne (Ne.symm hs)]

theorem faithful_restart {w : World} (h : Faithful w) (positions : List OpenPosition) :
    Faithful (w.restart positions) := by
  intro signal
  have hlog : (w.restart positions).log =
      w.log ++ [.restarted (reattachedSignals positions)] := rfl
  rw [hlog, follows_append, stateAfter_append]
  exact ⟨⟨(h signal).1, trivial⟩, reattach_map positions _ signal⟩

/-- **Every occurrence keeps the log faithful.** -/
theorem faithful_step (w : World) (o : Occurrence) (h : Faithful w) :
    Faithful (step runtimeId w o) := by
  have hnoted : Faithful (o.noted w) := by
    obtain ⟨hmap, _, hlog, _⟩ := noted_frame w o
    intro signal
    rw [hmap, hlog]
    exact h signal
  rcases step_cases runtimeId w o with ⟨positions, rfl⟩ | ⟨e, _, hstep⟩ | hstep
  · exact faithful_restart h positions
  · rw [hstep]
    exact faithful_emit runtimeId hnoted e
  · rw [hstep]
    exact hnoted

theorem faithful_history (mode : ExecutionMode) (burninRunId campaignId : Option String)
    (run : List Occurrence) : Faithful (history runtimeId mode burninRunId campaignId run) :=
  run_invariant (faithful_step runtimeId) run _ fun _ => ⟨trivial, rfl⟩

/-! ## 7. An open position -/

/-- An occurrence that no event of the signal comes from; a restart finds its position open. -/
def Undisturbed (signal : String) (w : World) : Occurrence → Prop
  | .restart positions => signal ∈ reattachedSignals positions
  | o => ∀ e ∈ o.emission w, w.runtime.signalOf runtimeId e ≠ signal

instance (signal : String) (w : World) (o : Occurrence) :
    Decidable (Undisturbed runtimeId signal w o) := by
  cases o <;> unfold Undisturbed <;> infer_instance

/-- The run that a closed trade is written under, where the mode and the store let it. -/
def World.tradeRun (w : World) (store : StoreAnswer) : Option String :=
  if w.runtime.executionMode ∈ burninModes ∧ store.engine = true ∧ store.writes = true then
    (truthy w.runtime.burninRunId).or (truthy store.startedRun)
  else none

/-- What the closed-trade evidence gains. -/
theorem persist_outcomes (symbol : String) (details : Details) (store : StoreAnswer) (w : World) :
    (persistBurninClosedTradeFromLifecycle symbol details store w).outcomes =
      w.outcomes ++ (w.tradeRun store).toList.map fun run => ⟨run, symbol, details⟩ := by
  unfold persistBurninClosedTradeFromLifecycle World.tradeRun
  by_cases hmode : w.runtime.executionMode ∈ burninModes
  · simp only [hmode, not_true_eq_false, if_false, true_and]
    cases hengine : store.engine with
    | false => simp
    | true =>
      cases hrun : (truthy w.runtime.burninRunId).or (truthy store.startedRun) with
      | none => simp
      | some run =>
        cases hwrites : store.writes with
        | true => simp
        | false => simp
  · simp [hmode]

/-- What is not about the signal leaves it open. -/
theorem opened_step (signal : String) (w : World) (o : Occurrence)
    (hopen : w.runtime.lastLifecycleStateBySignal signal = some .positionOpened)
    (hquiet : Undisturbed runtimeId signal w o) :
    (step runtimeId w o).runtime.lastLifecycleStateBySignal signal = some .positionOpened := by
  obtain ⟨hmap, hcurrent, _, _⟩ := noted_frame w o
  rcases step_cases runtimeId w o with ⟨positions, rfl⟩ | ⟨e, he, hstep⟩ | hstep
  · exact (reattach_map positions _ signal).trans (if_pos hquiet)
  · have hother : w.runtime.signalOf runtimeId e ≠ signal := by
      cases o with
      | restart positions => cases he
      | _ => exact hquiet e he
    have hsignal : ((o.noted w).eventPayload runtimeId e).signalId =
      w.runtime.signalOf runtimeId e := by
      unfold World.eventPayload Orchestrator.signalOf
      rw [hcurrent]
    rw [hstep, (emit_frame runtimeId (o.noted w) e).1, hsignal,
      Function.update_of_ne (Ne.symm hother), hmap]
    exact hopen
  · rw [hstep, hmap]
    exact hopen

/-- **What happens to an open position when an event resolves to its signal**: its close is
    recorded and handed to the evidence, and what is no transition is an audited `ERROR`. -/
theorem opened_event (signal : String) (w : World)
    (hopen : w.runtime.lastLifecycleStateBySignal signal = some .positionOpened) (e : Emission)
    (hsignal : w.runtime.signalOf runtimeId e = signal) :
    (e.event = .positionClosed →
      (w.eventPayload runtimeId e).lifecycleState = .positionClosed ∧
        (emitLifecycleEvent runtimeId e w).outcomes =
          w.outcomes ++ (w.tradeRun e.store).toList.map fun run => ⟨run, e.symbol, e.details⟩) ∧
    (validateTransition (some .positionOpened) e.event = false →
      (w.eventPayload runtimeId e).lifecycleState = .error ∧
        (w.eventPayload runtimeId e).previousLifecycleState = some .positionOpened ∧
        Audited (w.eventPayload runtimeId e)) := by
  have hbefore : w.stateBefore runtimeId e = some .positionOpened := by
    unfold World.stateBefore
    rw [hsignal, hopen]
  refine ⟨fun hclose => ?_, fun hinvalid => ?_⟩
  · have herr : e.event ≠ .error := by
      rw [hclose]
      decide
    have hvalid : validateTransition (w.stateBefore runtimeId e) e.event = true := by
      rw [hbefore, hclose]
      decide
    obtain ⟨hstate, hdetails⟩ := payload_of_valid runtimeId w e herr hvalid
    have hclosed := hstate.trans hclose
    refine ⟨hclosed, ?_⟩
    unfold emitLifecycleEvent settle
    simp only [if_pos hclosed]
    rw [persist_outcomes, hdetails]
    rfl
  · have hstate : (w.eventPayload runtimeId e).lifecycleState = .error := by
      by_cases herr : e.event = .error
      · exact (payload_of_error runtimeId w e herr).1
      · refine (payload_of_invalid runtimeId w e herr ?_).1
        rw [hbefore, hinvalid]
        decide
    exact ⟨hstate, hbefore, payload_audited runtimeId w e hstate⟩

/-- An event that is, when it is emitted, a transition of its signal, of which the process knows
    the state last recorded. In particular none that meets an open position but its close. -/
def Regular (w : World) (o : Occurrence) : Prop :=
  ∀ e ∈ o.emission w, w.stateBefore runtimeId e =
    lastRecorded (w.runtime.signalOf runtimeId e) w.log ∧
    validateTransition (w.stateBefore runtimeId e) e.event = true

instance (w : World) (o : Occurrence) : Decidable (Regular runtimeId w o) := by
  unfold Regular
  infer_instance

/-- What an event that is a transition is recorded as. -/
theorem payload_regular (w : World) (e : Emission)
    (hvalid : validateTransition (w.stateBefore runtimeId e) e.event = true) :
    (w.eventPayload runtimeId e).lifecycleState = e.event := by
  by_cases herr : e.event = .error
  · exact (payload_of_error runtimeId w e herr).1.trans herr.symm
  · exact (payload_of_valid runtimeId w e herr hvalid).1

/-- **A regular occurrence lengthens a path by a transition.** -/
theorem path_step (w : World) (o : Occurrence)
    (h : ∀ signal, Path none (recordedStates signal w.log)) (hregular : Regular runtimeId w o) :
    ∀ signal, Path none (recordedStates signal (step runtimeId w o).log) := by
  obtain ⟨hmap, hcurrent, hlog, _⟩ := noted_frame w o
  rcases step_cases runtimeId w o with ⟨positions, rfl⟩ | ⟨e, he, hstep⟩ | hstep
  · intro signal
    have hrestart : recordedStates signal (step runtimeId w (.restart positions)).log =
        recordedStates signal w.log := by
      show recordedStates signal (w.log ++ [.restarted (reattachedSignals positions)]) = _
      simp [recordedStates]
    rw [hrestart]
    exact h signal
  · obtain ⟨hknown, hvalid⟩ := hregular e he
    have hsignal : (o.noted w).runtime.signalOf runtimeId e = w.runtime.signalOf runtimeId e := by
      unfold Orchestrator.signalOf
      rw [hcurrent]
    have hbefore : (o.noted w).stateBefore runtimeId e = w.stateBefore runtimeId e := by
      unfold World.stateBefore
      rw [hmap, hsignal]
    have hpayload : ((o.noted w).eventPayload runtimeId e).lifecycleState = e.event :=
      payload_regular runtimeId (o.noted w) e (hbefore.symm ▸ hvalid)
    intro signal
    rw [hstep, (emit_frame runtimeId (o.noted w) e).2.2, hlog]
    by_cases hs : w.runtime.signalOf runtimeId e = signal
    · have hlogged : recordedStates signal
          (w.log ++ [.recorded ((o.noted w).eventPayload runtimeId e)]) =
            recordedStates signal w.log ++ [e.event] := by
        have hid : ((o.noted w).eventPayload runtimeId e).signalId = signal := hsignal.trans hs
        simp [recordedStates, hid, hpayload]
      rw [hlogged, path_concat, Option.or_none]
      subst hs
      unfold lastRecorded at hknown
      exact ⟨h _, hknown ▸ hvalid⟩
    · have hlogged : recordedStates signal
          (w.log ++ [.recorded ((o.noted w).eventPayload runtimeId e)]) =
            recordedStates signal w.log := by
        have hid : ((o.noted w).eventPayload runtimeId e).signalId ≠ signal :=
          ne_of_eq_of_ne hsignal hs
        simp [recordedStates, hid]
      rw [hlogged]
      exact h signal
  · rw [hstep, hlog]
    exact h

/-- **Every run records, for every signal, a path of transitions and audited errors, and of
    transitions alone where every event is one; and a signal that stands at `POSITION_OPENED` stays
    there while nothing resolves to it, so that its close is then recorded as `POSITION_CLOSED` and
    handed to the closed-trade evidence. What resolves to it and is no transition ends it.** -/
theorem lifecycle_recorded (mode : ExecutionMode) (burninRunId campaignId : Option String)
    (run quiet : List Occurrence) (signal : String) :
    Follows signal none (history runtimeId mode burninRunId campaignId run).log ∧
      (Along (step runtimeId) (Regular runtimeId) (.initial mode burninRunId campaignId) run →
        Path none (recordedStates signal (history runtimeId mode burninRunId campaignId run).log)) ∧
      let w := history runtimeId mode burninRunId campaignId run
      let w' := runEvents (step runtimeId) w quiet
      w.runtime.lastLifecycleStateBySignal signal = some .positionOpened →
      Along (step runtimeId) (Undisturbed runtimeId signal) w quiet →
        w'.runtime.lastLifecycleStateBySignal signal = some .positionOpened ∧
        ∀ e, w'.runtime.signalOf runtimeId e = signal →
          (e.event = .positionClosed →
            (w'.eventPayload runtimeId e).lifecycleState = .positionClosed ∧
              (emitLifecycleEvent runtimeId e w').outcomes =
                w'.outcomes ++
                  (w'.tradeRun e.store).toList.map fun run => ⟨run, e.symbol, e.details⟩) ∧
          (validateTransition (some .positionOpened) e.event = false →
            (w'.eventPayload runtimeId e).lifecycleState = .error ∧
              (w'.eventPayload runtimeId e).previousLifecycleState = some .positionOpened ∧
              Audited (w'.eventPayload runtimeId e)) := by
  refine ⟨(faithful_history runtimeId mode burninRunId campaignId run signal).1, ?_, ?_⟩
  · intro hregular
    exact run_preserves (path_step runtimeId) run (.initial mode burninRunId campaignId)
      (fun _ => trivial) hregular signal
  · intro w w' hopen hquiet
    have hopen' : w'.runtime.lastLifecycleStateBySignal signal = some .positionOpened :=
      run_preserves (opened_step runtimeId signal) quiet w hopen hquiet
    exact ⟨hopen', opened_event runtimeId signal w' hopen'⟩

end Histories

/-! ## 8. A position with and without a repair -/

def sampleId (symbol : String) (_ : Details) : String := "runtime:" ++ symbol

/-- The events of a fill. -/
def sampleFill : List Occurrence :=
  [.event { event := .signalCreated, symbol := "BTCUSDT", details := { signalId := some "s1" } },
    .event { event := .waitingEntryZone, symbol := "BTCUSDT" },
    .event { event := .entryTriggered, symbol := "BTCUSDT" },
    .event { event := .orderPlaced, symbol := "BTCUSDT" },
    .event { event := .positionOpened, symbol := "BTCUSDT" }]

/-- Time, another symbol, an incident under `GLOBAL` and a restart. -/
def sampleQuiet : List Occurrence :=
  [.pass 60,
    .event { event := .signalCreated, symbol := "ETHUSDT", details := { signalId := some "s2" } },
    .recordIncident "GLOBAL" .reconciliationRepair "reconciliation_timeout" {},
    .restart [{ signalId := "s1", symbol := "BTCUSDT" }]]

def sampleClose : Emission where
  event := .positionClosed
  symbol := "BTCUSDT"
  store := { engine := true, writes := true }

/-- A fill, another symbol, and the close. -/
def sampleTrade : List Occurrence := sampleFill ++ sampleQuiet.take 2 ++ [.event sampleClose]

theorem lifecycle_recorded_sample :
    Path none (recordedStates "s1"
        (history sampleId .paper (some "run-1") (some "campaign-1") sampleTrade).log) ∧
      let w := runEvents (step sampleId)
        (history sampleId .paper (some "run-1") (some "campaign-1") sampleFill) sampleQuiet
      (w.eventPayload sampleId sampleClose).lifecycleState = .positionClosed ∧
        (emitLifecycleEvent sampleId sampleClose w).outcomes = [⟨"run-1", "BTCUSDT", {}⟩] := by
  have hregular : Along (step sampleId) (Regular sampleId)
      (.initial .paper (some "run-1") (some "campaign-1")) sampleTrade := by
    decide +kernel
  have hopen : (history sampleId .paper (some "run-1") (some "campaign-1")
      sampleFill).runtime.lastLifecycleStateBySignal "s1" = some .positionOpened := by
    decide +kernel
  have hquiet : Along (step sampleId) (Undisturbed sampleId "s1")
      (history sampleId .paper (some "run-1") (some "campaign-1") sampleFill) sampleQuiet := by
    decide +kernel
  have hpath := (lifecycle_recorded sampleId .paper (some "run-1") (some "campaign-1")
    sampleTrade [] "s1").2.1 hregular
  have hrecorded := lifecycle_recorded sampleId .paper (some "run-1") (some "campaign-1")
    sampleFill sampleQuiet "s1"
  obtain ⟨hstate, hout⟩ := ((hrecorded.2.2 hopen hquiet).2 sampleClose (by decide +kernel)).1 rfl
  refine ⟨hpath, hstate, hout.trans ?_⟩
  decide +kernel

/-- A repair that resolves to the open position is recorded as `ERROR`, no transition leads there,
    and the close after it is recorded as `ERROR` with no closed trade. -/
theorem close_after_repair_lost :
    let w := history sampleId .paper (some "run-1") (some "campaign-1")
      (sampleFill ++
        [.reconcileFinding "POSITION_MISMATCH" "BTCUSDT" "s1", .event sampleClose])
    recordedStates "s1" w.log =
        [.signalCreated, .waitingEntryZone, .entryTriggered, .orderPlaced, .positionOpened, .error,
          .error] ∧
      w.outcomes = [] ∧ validateTransition (some .positionOpened) .error = false := by
  decide +kernel

end AlphaForge.Lifecycle
