/-
  File:      AlphaForge/Runtime/Reconciliation.lean
  Subject:   Reconciliation cycles over the single-flight snapshot reader
             (`readonly_snapshot_reader.py`, `_run_reconciliation_once`). Definitions.

  A cycle reads the provider in a detached thread and awaits it; what follows the answer runs
  without interruption up to the repair events. The event loop may cancel a waiting cycle (its
  timeout) and the thread may answer at any time, also after its cycle is gone. A read is named by
  the cycle that starts it: a cycle starts at most one.

  PAPER or LIVE_PRECHECK mode with a provider, which may be replaced at any time.
-/
import AlphaForge.Runtime.State

namespace AlphaForge.Runtime

open AlphaForge.Lib

/-! ## 1. The reader -/

/-- What the future of a read holds once it is done. -/
inductive Answer where
  | snapshot (evidenceStatus : Option String) (transient : Bool)
  | raised (transient : Bool)
  deriving DecidableEq, Repr

/-- `ReadonlySnapshotReader`, with the futures that are done and the threads that are not. -/
structure Reader where
  pending : Option ℕ
  waiting : Bool
  closed : Bool
  answers : List (ℕ × Answer)
  inFlight : List ℕ
  deriving DecidableEq, Repr

def Reader.initial : Reader where
  pending := none
  waiting := false
  closed := false
  answers := []
  inFlight := []

def Reader.done (r : Reader) (read : ℕ) : Bool := (r.answers.lookup read).isSome

/-- The pending future is not done. -/
def Reader.busy (r : Reader) : Bool :=
  match r.pending with
  | some read => !r.done read
  | none => false

/-- `read` up to its await; an error carries its text and the reader it leaves. -/
def Reader.start (read : ℕ) (threadStarts : Bool) (r : Reader) : Except (String × Reader) Reader :=
  if r.closed then .error ("reconciliation_reader_closed", r)
  else if r.waiting ∨ r.busy then .error ("reconciliation_read_in_flight", r)
  else if threadStarts then
    .ok { r with pending := some read, waiting := true, inFlight := read :: r.inFlight }
  else .error ("can't start new thread", { r with pending := none, waiting := false })

/-- The thread of a read sets its future. -/
def Reader.answer (read : ℕ) (answer : Answer) (r : Reader) : Reader :=
  if read ∈ r.inFlight then
    { r with answers := (read, answer) :: r.answers, inFlight := r.inFlight.erase read }
  else r

/-- `read` resumes with the result of its own future. -/
def Reader.accept (r : Reader) : Reader :=
  { r with pending := none, waiting := false }

/-- `read` is cancelled: the future stays pending. -/
def Reader.abandon (r : Reader) : Reader :=
  { r with waiting := false }

/-- `close`, once it has waited. -/
def Reader.close (r : Reader) : Reader :=
  { r with closed := true, pending := if r.busy then r.pending else none }

/-! ## 2. Cycles -/

inductive Phase where
  | idle
  /-- A cycle awaits its read of a provider. -/
  | reading (read provider : ℕ)
  /-- A cycle awaits the repair event of a finding, with these findings left. -/
  | repairing (rest : List Finding)
  /-- A timed-out cycle awaits the record of its incident. -/
  | incident
  /-- The task is gone. -/
  | stopped
  deriving DecidableEq, Repr

/-- What became of a cycle. -/
structure CycleRecord where
  number : ℕ
  /-- The snapshot it took, and the read that it came from. -/
  snapshot : Option (ℕ × SnapshotSource)
  findings : List Finding
  committed : Bool
  finished : Bool
  deriving DecidableEq, Repr

structure Reconciler where
  runtime : RuntimeState
  reader : Reader
  provider : ℕ
  phase : Phase
  started : ℕ
  /-- The last of them, once it has taken its snapshot. -/
  last : Option CycleRecord
  /-- `_last_repair_signature`. -/
  repairs : List String
  stopping : Bool
  /-- The startup cycle has passed and the market scan runs. -/
  scanning : Bool
  /-- Which cycle was given the result of which read. -/
  returned : List (ℕ × ℕ)
  abandoned : List ℕ
  deriving DecidableEq, Repr

def Reconciler.initial (s : RuntimeState) (provider : ℕ) : Reconciler where
  runtime := s
  reader := Reader.initial
  provider := provider
  phase := .idle
  started := 0
  last := none
  repairs := []
  stopping := false
  scanning := false
  returned := []
  abandoned := []

inductive CycleEvent where
  | changeProvider (provider : ℕ)
  /-- A cycle starts; the rest of the event is its outcome if its read does not. -/
  | start (threadStarts : Bool) (reconciled : Option (List Finding)) (persisted : Persisted)
  | answer (read : ℕ) (answer : Answer)
  /-- A waiting cycle resumes; the engine's findings, or its exception. -/
  | resume (reconciled : Option (List Finding)) (persisted : Persisted)
  | timeOut
  | incidentRecorded (persisted : Persisted)
  | repaired
  /-- The task dies in an await that is not a read. -/
  | die
  | scan
  /-- The tasks are cancelled and the reader is closed. -/
  | shutdown
  deriving DecidableEq, Repr

def Finding.signature (f : Finding) : String :=
  f.findingType ++ ":" ++ f.symbol ++ ":" ++ f.lifecycleRef

/-- The next finding that has a repair event, and the findings after it. -/
def nextRepair (repairs : List String) : List Finding → Option (Finding × List Finding)
  | [] => none
  | f :: rest =>
    if f.failClosed ∧ f.signature ∉ repairs then some (f, rest) else nextRepair repairs rest

/-- The rest of a cycle: its repair events. -/
def Reconciler.repair (findings : List Finding) (m : Reconciler) : Reconciler :=
  match nextRepair m.repairs findings with
  | some (f, rest) => { m with repairs := f.signature :: m.repairs, phase := .repairing rest }
  | none =>
    { m with
      phase := .idle
      last := m.last.map fun record => { record with finished := true } }

/-- A cycle from its source on. -/
def Reconciler.settle (cfg : RuntimeConfig) (read : ℕ) (source : SnapshotSource)
    (reconciled : Option (List Finding)) (persisted : Persisted) (m : Reconciler) : Reconciler :=
  match reconciled with
  | none =>
    match observe cfg source m.runtime with
    | .ok s => { m with runtime := s, phase := .stopped }
    | .error s => { m with runtime := s, phase := .stopped }
  | some findings =>
    match finishCycle cfg source findings persisted m.runtime with
    | .error s => { m with runtime := s, phase := .stopped }
    | .ok s =>
      let record : CycleRecord :=
        { number := m.started
          snapshot := some (read, source)
          findings := findings
          committed := cfg.persistence ∧ persisted = .committed
          finished := false }
      Reconciler.repair findings { m with runtime := s, last := some record }

/-- The source of a cycle whose read was answered. -/
def Answer.source (providerChanged : Bool) : Answer → SnapshotSource
  | .snapshot status transient =>
    if providerChanged then .failed false else .answered status transient
  | .raised transient => .failed transient

/-- `_reconcile_runtime_state` up to its read, or to its end where the read does not start. -/
def Reconciler.startCycle (cfg : RuntimeConfig) (threadStarts : Bool)
    (reconciled : Option (List Finding)) (persisted : Persisted) (m : Reconciler) : Reconciler :=
  let number := m.started + 1
  let begun : Reconciler := { m with
    runtime := beginCycle m.runtime
    started := number
    last := none }
  match m.reader.start number threadStarts with
  | .ok reader => { begun with reader := reader, phase := .reading number m.provider }
  | .error (_, reader) =>
    -- none of the reader's own errors is classified as transient
    Reconciler.settle cfg number (.failed false) reconciled persisted
      { begun with reader := reader }

/-- A waiting cycle resumes with its answer. -/
def Reconciler.resume (cfg : RuntimeConfig) (read provider : ℕ) (answer : Answer)
    (reconciled : Option (List Finding)) (persisted : Persisted) (m : Reconciler) : Reconciler :=
  let accepted : Reconciler := { m with
    reader := m.reader.accept
    returned := (m.started, read) :: m.returned }
  if m.reader.closed then
    Reconciler.settle cfg read (.failed false) reconciled persisted
      { accepted with returned := m.returned }
  else
    Reconciler.settle cfg read (answer.source (provider ≠ m.provider)) reconciled persisted accepted

/-- A cycle is cancelled in its await. -/
def Reconciler.abandonRead (m : Reconciler) : Reconciler :=
  match m.phase with
  | .reading read _ => { m with reader := m.reader.abandon, abandoned := read :: m.abandoned }
  | _ => m

/-- `_shutdown_tasks` found a read that no cycle accepted. -/
def readUnaccepted (s : RuntimeState) : RuntimeState :=
  { s with
    recoveryRequired := true
    unknownExchangeState := true
    exchangeReadOnlyStatus := "UNAVAILABLE"
    reconciliationStatus := "EXCHANGE_STATE_UNKNOWN"
    failClosedReason := some "RECONCILIATION_READ_UNACCEPTED_AT_SHUTDOWN" }

def Reconciler.shutdown (m : Reconciler) : Reconciler :=
  let cancelled := m.abandonRead
  { cancelled with
    phase := .stopped
    stopping := true
    reader := cancelled.reader.close
    runtime :=
      if cancelled.reader.pending ≠ none then readUnaccepted m.runtime else m.runtime }

/-- One event; an event that cannot happen in the state it meets changes nothing. -/
def Reconciler.next (cfg : RuntimeConfig) (m : Reconciler) (e : CycleEvent) : Reconciler :=
  match e, m.phase with
  | .changeProvider provider, _ => { m with provider := provider }
  | .start threadStarts reconciled persisted, .idle =>
    -- the one cycle before the scan is the startup cycle
    if m.stopping ∨ (m.started ≠ 0 ∧ ¬ m.scanning) then m
    else m.startCycle cfg threadStarts reconciled persisted
  | .answer read answer, _ => { m with reader := m.reader.answer read answer }
  | .resume reconciled persisted, .reading read provider =>
    match m.reader.answers.lookup read with
    | some answer => m.resume cfg read provider answer reconciled persisted
    | none => m
  | .timeOut, .reading _ _ =>
    { m.abandonRead with runtime := timedOut m.runtime, phase := .incident }
  | .timeOut, .repairing _ => { m with runtime := timedOut m.runtime, phase := .incident }
  | .incidentRecorded persisted, .incident =>
    { m with
      runtime := timeoutPersisted cfg persisted m.runtime
      phase := if cfg.persistence ∧ persisted = .raised then .stopped else .idle }
  | .repaired, .repairing rest => { m with stopping := true }.repair rest
  | .die, .repairing _ => { m with phase := .stopped }
  | .die, .incident => { m with phase := .stopped }
  | .scan, .idle =>
    if m.started ≠ 0 ∧ (m.runtime.failClosedReason = none ∨ cfg.diagnosticMode) then
      { m with scanning := true }
    else m
  | .shutdown, _ => m.shutdown
  | _, _ => m

end AlphaForge.Runtime
