/-
  File:      AlphaForge/Lifecycle/Contract.lean
  Subject:   `lifecycle_contract.py` and the transition tables of `contracts.py`.

  * `validateTransition` -- the writer's test: the canonical table after normalisation, and the
    wider table for the names that the canonical contract does not know.
  * `allowedLifecycleTransitions` -- the wider table read by name, as the readiness check reads it.
  * `validateTransition_iff_allowed` -- on canonical names the two agree.
  * `allowed_canonical` -- a path never leaves the canonical names.
-/
import Mathlib.Data.Fintype.Basic
import AlphaForge.Lib.PyValues

namespace AlphaForge.Lifecycle

open AlphaForge.Lib

/-! ## 1. The names -/

/-- The values of `CanonicalLifecycleEvent`, `LifecycleEventType` and `LifecycleState`, and the keys
    of `LEGACY_LIFECYCLE_EVENT_MAP`. -/
inductive LifecycleEvent where
  | signalCreated
  | signalRejected
  | symbolRejected
  | waitingEntryZone
  | entryTriggered
  | orderPlaced
  | orderRejected
  | positionOpened
  | positionClosed
  | entryTimeout
  | cancelled
  | error
  | tpHit
  | slHit
  | openAtEnd
  | created
  | signalAccepted
  | orderCancelled
  | canceled
  | expired
  | entryPending
  | entrySubmitted
  | entryAcknowledged
  | entryPartial
  | entryFilled
  | stopSubmitted
  | takeProfitSubmitted
  | cancelRequested
  | reconciliationRepair
  | executionError
  | exchangeReject
  | runtimeProtectiveExit
  deriving DecidableEq, Repr

instance : Fintype LifecycleEvent where
  elems := ⟨([.signalCreated, .signalRejected, .symbolRejected, .waitingEntryZone, .entryTriggered,
    .orderPlaced, .orderRejected, .positionOpened, .positionClosed, .entryTimeout, .cancelled,
    .error, .tpHit, .slHit, .openAtEnd, .created, .signalAccepted, .orderCancelled, .canceled,
    .expired, .entryPending, .entrySubmitted, .entryAcknowledged, .entryPartial, .entryFilled,
    .stopSubmitted, .takeProfitSubmitted, .cancelRequested, .reconciliationRepair,
    .executionError, .exchangeReject, .runtimeProtectiveExit] : List LifecycleEvent), by decide⟩
  complete := fun event => by cases event <;> decide

/-- `event.value`. -/
def LifecycleEvent.value : LifecycleEvent → String
  | .signalCreated => "SIGNAL_CREATED"
  | .signalRejected => "SIGNAL_REJECTED"
  | .symbolRejected => "SYMBOL_REJECTED"
  | .waitingEntryZone => "WAITING_ENTRY_ZONE"
  | .entryTriggered => "ENTRY_TRIGGERED"
  | .orderPlaced => "ORDER_PLACED"
  | .orderRejected => "ORDER_REJECTED"
  | .positionOpened => "POSITION_OPENED"
  | .positionClosed => "POSITION_CLOSED"
  | .entryTimeout => "ENTRY_TIMEOUT"
  | .cancelled => "CANCELLED"
  | .error => "ERROR"
  | .tpHit => "TP_HIT"
  | .slHit => "SL_HIT"
  | .openAtEnd => "OPEN_AT_END"
  | .created => "CREATED"
  | .signalAccepted => "SIGNAL_ACCEPTED"
  | .orderCancelled => "ORDER_CANCELLED"
  | .canceled => "CANCELED"
  | .expired => "EXPIRED"
  | .entryPending => "ENTRY_PENDING"
  | .entrySubmitted => "ENTRY_SUBMITTED"
  | .entryAcknowledged => "ENTRY_ACKNOWLEDGED"
  | .entryPartial => "ENTRY_PARTIAL"
  | .entryFilled => "ENTRY_FILLED"
  | .stopSubmitted => "STOP_SUBMITTED"
  | .takeProfitSubmitted => "TAKE_PROFIT_SUBMITTED"
  | .cancelRequested => "CANCEL_REQUESTED"
  | .reconciliationRepair => "RECONCILIATION_REPAIR"
  | .executionError => "EXECUTION_ERROR"
  | .exchangeReject => "EXCHANGE_REJECT"
  | .runtimeProtectiveExit => "RUNTIME_PROTECTIVE_EXIT"

def canonicalLifecycleEvents : List LifecycleEvent :=
  [.signalCreated, .signalRejected, .symbolRejected, .waitingEntryZone, .entryTriggered,
    .orderPlaced, .orderRejected, .positionOpened, .positionClosed, .entryTimeout, .cancelled,
    .error]

def legacyLifecycleEventMap : LifecycleEvent → Option LifecycleEvent
  | .created => some .signalCreated
  | .signalAccepted => some .waitingEntryZone
  | .orderCancelled => some .cancelled
  | .canceled => some .cancelled
  | .expired => some .entryTimeout
  | .openAtEnd => some .positionClosed
  | .tpHit => some .positionClosed
  | .slHit => some .positionClosed
  | _ => none

/-- `CANONICAL_LIFECYCLE_TRANSITIONS.get(state, set())`. -/
def canonicalLifecycleTransitions : LifecycleEvent → List LifecycleEvent
  | .signalCreated => [.signalRejected, .waitingEntryZone, .orderRejected, .cancelled]
  | .waitingEntryZone => [.entryTriggered, .entryTimeout, .cancelled]
  | .entryTriggered => [.orderPlaced, .orderRejected, .cancelled]
  | .orderPlaced => [.positionOpened, .orderRejected, .entryTimeout, .cancelled]
  | .positionOpened => [.positionClosed, .cancelled]
  | .signalRejected => [.signalCreated]
  | .symbolRejected => [.signalCreated]
  | .orderRejected => [.signalCreated]
  | .positionClosed => [.signalCreated]
  | .entryTimeout => [.signalCreated]
  | .cancelled => [.signalCreated]
  | .error => [.signalCreated]
  | _ => []

/-- `normalize_lifecycle_event` on a name of the enumerations. -/
def normalizeLifecycleEvent (raw : LifecycleEvent) : Except PyError LifecycleEvent :=
  let value := (legacyLifecycleEventMap raw).getD raw
  if value ∈ canonicalLifecycleEvents then .ok value
  else .error (.valueError ("unknown lifecycle event: '" ++ raw.value ++ "'"))

def isValidLifecycleTransition (previousState : Option LifecycleEvent)
    (nextState : LifecycleEvent) : Except PyError Bool := do
  let nextCanonical ← normalizeLifecycleEvent nextState
  match previousState with
  | none => pure (nextCanonical = .signalCreated)
  | some previousState =>
    let previousCanonical ← normalizeLifecycleEvent previousState
    pure (nextCanonical ∈ canonicalLifecycleTransitions previousCanonical)

/-! ## 2. The wider table -/

/-- `ALLOWED_LIFECYCLE_TRANSITIONS.get(state, set())`. -/
def allowedLifecycleTransitions : LifecycleEvent → List LifecycleEvent
  | .error => [.signalCreated]
  | .entryPending =>
    [.entrySubmitted, .cancelRequested, .executionError, .runtimeProtectiveExit, .error]
  | .entrySubmitted =>
    [.entryAcknowledged, .exchangeReject, .executionError, .cancelRequested, .error]
  | .entryAcknowledged =>
    [.entryPartial, .entryFilled, .cancelRequested, .executionError, .error]
  | .entryPartial => [.entryFilled, .cancelRequested, .executionError, .error]
  | .entryFilled =>
    [.stopSubmitted, .takeProfitSubmitted, .cancelRequested, .reconciliationRepair, .error]
  | .stopSubmitted => [.takeProfitSubmitted, .cancelRequested, .reconciliationRepair, .error]
  | .takeProfitSubmitted => [.cancelRequested, .reconciliationRepair, .error]
  | .cancelRequested => [.cancelled, .reconciliationRepair, .executionError, .error]
  | .reconciliationRepair =>
    [.cancelRequested, .cancelled, .entryAcknowledged, .entryPartial, .entryFilled, .error]
  | .executionError => [.cancelRequested, .reconciliationRepair, .runtimeProtectiveExit, .error]
  | .exchangeReject => [.cancelled, .reconciliationRepair, .error]
  | .runtimeProtectiveExit => [.cancelRequested, .cancelled, .error]
  | state => canonicalLifecycleTransitions state

def validateTransition (previousState : Option LifecycleEvent) (nextState : LifecycleEvent) :
    Bool :=
  match previousState with
  | none => nextState ∈ [LifecycleEvent.signalCreated, .entryPending]
  | some previous =>
    match isValidLifecycleTransition (some previous) nextState with
    | .ok valid => valid
    | .error _ => nextState ∈ allowedLifecycleTransitions previous

/-! ## 3. What the tables say -/

/-- A name that the canonical contract knows, under its own or a legacy spelling. -/
def LifecycleEvent.Known (event : LifecycleEvent) : Prop :=
  (legacyLifecycleEventMap event).getD event ∈ canonicalLifecycleEvents

instance (event : LifecycleEvent) : Decidable event.Known := inferInstanceAs (Decidable (_ ∈ _))

theorem allowed_canonical {previous next : LifecycleEvent}
    (hp : previous ∈ canonicalLifecycleEvents) (h : next ∈ allowedLifecycleTransitions previous) :
    next ∈ canonicalLifecycleEvents := by
  revert previous next
  decide

/-- **On canonical names the writer and the reader have one table.** -/
theorem validateTransition_iff_allowed {previous next : LifecycleEvent}
    (hp : previous ∈ canonicalLifecycleEvents) (hn : next ∈ canonicalLifecycleEvents) :
    validateTransition (some previous) next = true ↔
      next ∈ allowedLifecycleTransitions previous := by
  revert previous next
  decide

end AlphaForge.Lifecycle
