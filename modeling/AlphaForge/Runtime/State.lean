/-
  File:      AlphaForge/Runtime/State.lean
  Subject:   The fail-closed state of `runtime.py`: one reason, two flags and the reconciliation
             fields that the runtime's risk gate reads, and every transition that writes them.

  Seven kinds of failure share the reason and the recovery flag. Some writers keep the first
  reason (`markPersistenceRecoveryRequired`, `rejectFailed`), others overwrite it (`timedOut`,
  `observe`, `markHeartbeat`); a later success clears it by comparing its text.

  A reconciliation cycle is `beginCycle`, then, from its answer on without interruption,
  `finishCycle`; or `timedOut` and `timeoutPersisted`. What follows the commit of a cycle (pauses,
  lifecycle events, shutdown requests) writes none of these fields and is left out. What the
  reconciliation engine finds in a snapshot is a parameter.
-/
import AlphaForge.Lib.PyValues
import Mathlib.Data.List.Infix

namespace AlphaForge.Runtime

open AlphaForge.Lib

/-! ## 1. State -/

inductive ExecutionMode where
  | backtest
  | paper
  | livePrecheck
  | live
  deriving DecidableEq, Repr

/-- The settings that the transitions read. -/
structure RuntimeConfig where
  executionMode : ExecutionMode
  diagnosticMode : Bool
  /-- A persistence engine is configured. -/
  persistence : Bool
  globalKillSwitch : Bool
  maxConcurrentPositions : ℕ
  heartbeatFailureThreshold : ℕ
  deriving DecidableEq, Repr

/-- `ReconciliationFinding`, less its evidence and texts. -/
structure Finding where
  findingType : String
  symbol : String
  lifecycleRef : String
  failClosed : Bool
  deriving DecidableEq, Repr

structure RuntimeState where
  failClosedReason : Option String
  recoveryRequired : Bool
  unknownExchangeState : Bool
  reconciliationPersistenceUnhealthy : Bool
  heartbeatPersistenceDegraded : Bool
  heartbeatFailureStreak : ℕ
  rejectPersistenceDegraded : Bool
  exchangeReadOnlyStatus : String
  reconciliationStatus : String
  /-- `_transient_provider_outage_started_monotonic` is set. -/
  outageStarted : Bool
  resolverProviderUnavailable : Bool
  resolverProviderRecoveryPending : Bool
  orphanOrders : List Finding
  orphanPositions : List Finding
  unreconciledSymbols : List String
  deriving DecidableEq, Repr

/-- The state of a new runtime. -/
def RuntimeState.initial : RuntimeState where
  failClosedReason := none
  recoveryRequired := false
  unknownExchangeState := false
  reconciliationPersistenceUnhealthy := false
  heartbeatPersistenceDegraded := false
  heartbeatFailureStreak := 0
  rejectPersistenceDegraded := false
  exchangeReadOnlyStatus := "UNKNOWN"
  reconciliationStatus := "UNKNOWN"
  outageStarted := false
  resolverProviderUnavailable := false
  resolverProviderRecoveryPending := false
  orphanOrders := []
  orphanPositions := []
  unreconciledSymbols := []

/-! ## 2. Failures outside reconciliation -/

/-- `_fail_closed_reason = _fail_closed_reason or reason`. -/
def RuntimeState.keepReason (s : RuntimeState) (reason : String) : Option String :=
  s.failClosedReason.or (some reason)

/-- `_mark_sqlite_persistence_recovery_required`. -/
def markPersistenceRecoveryRequired (reason : String) (s : RuntimeState) : RuntimeState :=
  { s with recoveryRequired := true, failClosedReason := s.keepReason reason }

/-- `_persist_reject` after its last attempt found the database busy. -/
def rejectFailed (s : RuntimeState) : RuntimeState :=
  { s with
    rejectPersistenceDegraded := true
    recoveryRequired := true
    failClosedReason := s.keepReason "REJECT_PERSISTENCE_FAILED" }

/-- `_persist_reject` after its commit. -/
def rejectPersisted (s : RuntimeState) : RuntimeState :=
  if s.rejectPersistenceDegraded then
    if s.failClosedReason = some "REJECT_PERSISTENCE_FAILED" then
      { s with
        rejectPersistenceDegraded := false
        failClosedReason := none
        recoveryRequired := false }
    else { s with rejectPersistenceDegraded := false }
  else s

/-- `_mark_heartbeat_persistence_recovery_required`. -/
def markHeartbeat (s : RuntimeState) : RuntimeState :=
  { s with
    recoveryRequired := true
    failClosedReason := some "SUSTAINED_HEARTBEAT_PERSISTENCE_FAILURE" }

/-- The heartbeat loop only retries its own transition. -/
def RuntimeState.heartbeatHalted (s : RuntimeState) : Bool :=
  s.recoveryRequired ∧ s.failClosedReason = some "SUSTAINED_HEARTBEAT_PERSISTENCE_FAILURE"

/-- One round of `_heartbeat_loop`, whose writes succeed or find the database busy. -/
def heartbeat (cfg : RuntimeConfig) (persisted : Bool) (s : RuntimeState) : RuntimeState :=
  if s.heartbeatHalted then markHeartbeat s
  else if persisted then
    { s with heartbeatFailureStreak := 0, heartbeatPersistenceDegraded := false }
  else
    let failed := { s with
      heartbeatFailureStreak := s.heartbeatFailureStreak + 1
      heartbeatPersistenceDegraded := true }
    if cfg.heartbeatFailureThreshold ≤ failed.heartbeatFailureStreak then markHeartbeat failed
    else failed

/-! ## 3. Reconciliation -/

/-- Where a cycle takes its snapshot from. -/
inductive SnapshotSource where
  /-- BACKTEST reconciles with itself. -/
  | notRequired
  /-- No provider in diagnostic mode. -/
  | localOnly
  /-- No provider otherwise. -/
  | unavailable
  /-- A provider answered; `transient` classifies an answer that is not complete. -/
  | answered (evidenceStatus : Option String) (transient : Bool)
  /-- Reading the provider raised. -/
  | failed (transient : Bool)
  deriving DecidableEq, Repr

/-- What `persist_reconciliation_cycle` does. -/
inductive Persisted where
  | committed
  /-- `ReconciliationPersistenceFailure`: the database stayed busy. -/
  | busy
  /-- Any other error, which ends the reconciliation task. -/
  | raised
  deriving DecidableEq, Repr

/-- The source's evidence is complete. -/
def SnapshotSource.complete : SnapshotSource → Bool
  | .answered status _ =>
    upper (if status.getD "" = "" then "INCOMPLETE" else status.getD "") = "COMPLETE"
  | _ => false

def SnapshotSource.transient : SnapshotSource → Bool
  | .answered _ transient => transient
  | .failed transient => transient
  | _ => false

/-- A source that counts as an incomplete reconciliation. -/
def SnapshotSource.incomplete : SnapshotSource → Bool
  | .notRequired => false
  | .localOnly => false
  | source => !source.complete

/-- Reasons that a complete snapshot clears. -/
def clearableReasons : List String :=
  ["EXCHANGE_STATE_UNKNOWN", "EXCHANGE_RECONCILIATION_UNAVAILABLE",
    "RECONCILIATION_PERSISTENCE_FAILED", "RESOLVER_PROVIDER_UNAVAILABLE"]

/-- The first assignment of `_reconcile_runtime_state`. -/
def beginCycle (s : RuntimeState) : RuntimeState :=
  { s with reconciliationPersistenceUnhealthy := true }

def RuntimeState.previousUnknown (s : RuntimeState) : Bool :=
  s.unknownExchangeState || s.outageStarted || s.resolverProviderRecoveryPending

/-- The reason after a complete snapshot. -/
def RuntimeState.clearedReason (s : RuntimeState) : Option String :=
  if s.resolverProviderUnavailable then some "RESOLVER_PROVIDER_UNAVAILABLE"
  else
    match s.failClosedReason with
    | some reason => if reason ∈ clearableReasons then none else some reason
    | none => none

/-- A complete snapshot of a provider. -/
def observeComplete (s : RuntimeState) : RuntimeState :=
  { s with
    unknownExchangeState := s.previousUnknown
    exchangeReadOnlyStatus := "AVAILABLE"
    failClosedReason := s.clearedReason }

/-- An incomplete snapshot of a provider, up to where LIVE raises. -/
def observeIncomplete (s : RuntimeState) : RuntimeState :=
  { s with unknownExchangeState := true, exchangeReadOnlyStatus := "UNAVAILABLE" }

/-- The rest of it in the other modes. -/
def failClosedUnknown (transient : Bool) (s : RuntimeState) : RuntimeState :=
  { s with
    outageStarted := s.outageStarted || transient
    failClosedReason := some "EXCHANGE_STATE_UNKNOWN"
    reconciliationStatus := "EXCHANGE_STATE_UNKNOWN" }

/-- What a cycle makes of its source, before the findings; an error carries the state in which
    the cycle's task dies. -/
def observe (cfg : RuntimeConfig) (source : SnapshotSource) (s : RuntimeState) :
    Except RuntimeState RuntimeState :=
  match source with
  | .notRequired => .ok { s with
      unknownExchangeState := false
      exchangeReadOnlyStatus := "NOT_REQUIRED_BACKTEST"
      reconciliationStatus := "NOT_REQUIRED_BACKTEST" }
  | .localOnly =>
    if cfg.executionMode = .live then .error s
    else .ok { s with
      unknownExchangeState := false
      exchangeReadOnlyStatus := "LOCAL_ONLY"
      reconciliationStatus := "LOCAL_ONLY_DIAGNOSTIC" }
  | .unavailable =>
    if cfg.executionMode = .live then .error s
    else .ok { s with
      unknownExchangeState := true
      exchangeReadOnlyStatus := "UNAVAILABLE"
      reconciliationStatus := "EXCHANGE_RECONCILIATION_UNAVAILABLE"
      failClosedReason := some "EXCHANGE_RECONCILIATION_UNAVAILABLE" }
  | .failed transient =>
    if cfg.executionMode = .live then .error s
    else .ok (failClosedUnknown transient (observeIncomplete s))
  | .answered status transient =>
    if (SnapshotSource.answered status transient).complete then .ok (observeComplete s)
    else if cfg.executionMode = .live then .error (observeIncomplete s)
    else .ok (failClosedUnknown transient (observeIncomplete s))

/-- `needle in str(finding_type).upper()`. -/
def Finding.names (needle : String) (f : Finding) : Bool :=
  needle.toList <:+: (upper f.findingType).toList

/-- The findings of a cycle. -/
def applyFindings (findings : List Finding) (s : RuntimeState) : RuntimeState :=
  let orphanOrders := findings.filter fun f => f.names "ORDER" && f.failClosed
  let orphanPositions := findings.filter fun f => f.names "POSITION" && f.failClosed
  { s with
    orphanOrders := orphanOrders
    orphanPositions := orphanPositions
    unreconciledSymbols := (findings.filter (·.failClosed)).map (·.symbol)
    failClosedReason :=
      if findings ≠ [] ∧ s.failClosedReason = none then
        if orphanOrders ≠ [] then some "ORPHAN_ORDER_DETECTED"
        else if orphanPositions ≠ [] then some "ORPHAN_POSITION_DETECTED"
        else some "UNRECONCILED_POSITION"
      else s.failClosedReason }

/-- The status that a cycle ends with, before its evidence commits. -/
def concludeStatus (cfg : RuntimeConfig) (s : RuntimeState) : RuntimeState :=
  if s.failClosedReason ≠ none then
    { s with
      reconciliationStatus :=
        if s.exchangeReadOnlyStatus = "AVAILABLE" then "DIRTY" else s.reconciliationStatus }
  else
    { s with
      unknownExchangeState := false
      reconciliationStatus :=
        if cfg.executionMode = .backtest then s.reconciliationStatus else "CLEAN" }

/-- The evidence of a cycle did not commit. -/
def persistenceFailed (cfg : RuntimeConfig) (s : RuntimeState) : RuntimeState :=
  { s with
    reconciliationStatus := "PERSISTENCE_FAILED"
    failClosedReason := some "RECONCILIATION_PERSISTENCE_FAILED"
    unknownExchangeState := cfg.executionMode ≠ .backtest ∨ s.unknownExchangeState }

/-- The evidence of a cycle committed, or none is required. -/
def commitCycle (s : RuntimeState) : RuntimeState :=
  { s with
    reconciliationPersistenceUnhealthy := false
    outageStarted := if s.exchangeReadOnlyStatus = "AVAILABLE" then false else s.outageStarted
    resolverProviderRecoveryPending :=
      if s.reconciliationStatus = "CLEAN" ∧ s.failClosedReason = none then false
      else s.resolverProviderRecoveryPending }

/-- `_reconcile_runtime_state` from its snapshot on; an error carries the state in which the
    cycle's task dies. -/
def finishCycle (cfg : RuntimeConfig) (source : SnapshotSource) (findings : List Finding)
    (persisted : Persisted) (s : RuntimeState) : Except RuntimeState RuntimeState := do
  let observed ← observe cfg source s
  let concluded := concludeStatus cfg (applyFindings findings observed)
  if cfg.persistence then
    match persisted with
    | .committed => return commitCycle concluded
    | .busy => return persistenceFailed cfg concluded
    | .raised => .error concluded
  else return commitCycle concluded

/-- `_run_reconciliation_once` after a timeout, up to the incident it records. -/
def timedOut (s : RuntimeState) : RuntimeState :=
  { s with
    unknownExchangeState := true
    exchangeReadOnlyStatus := "UNAVAILABLE"
    reconciliationStatus := "EXCHANGE_STATE_UNKNOWN"
    failClosedReason := some "EXCHANGE_STATE_UNKNOWN"
    outageStarted := true }

/-- The rest of it: the timed-out cycle is persisted. -/
def timeoutPersisted (cfg : RuntimeConfig) (persisted : Persisted) (s : RuntimeState) :
    RuntimeState :=
  if cfg.persistence then
    { s with reconciliationPersistenceUnhealthy := persisted ≠ .committed }
  else s

/-- `_mark_resolver_provider_failure`. -/
def resolverFailed (s : RuntimeState) : RuntimeState :=
  { s with
    resolverProviderUnavailable := true
    resolverProviderRecoveryPending := false
    failClosedReason := s.keepReason "RESOLVER_PROVIDER_UNAVAILABLE" }

/-- `_mark_resolver_provider_recovered`. -/
def resolverRecovered (s : RuntimeState) : RuntimeState :=
  if s.resolverProviderUnavailable then
    { s with resolverProviderUnavailable := false, resolverProviderRecoveryPending := true }
  else s

/-! ## 4. The gate -/

/-- The reconciliation and fail-closed gates of `_evaluate_runtime_risk`, in its order. -/
def failClosedGate (cfg : RuntimeConfig) (heartbeatStale : Bool) (s : RuntimeState) :
    Option String :=
  if s.reconciliationPersistenceUnhealthy then some "RECONCILIATION_PERSISTENCE_FAILED"
  else if s.heartbeatPersistenceDegraded then some "RUNTIME_DB_UNAVAILABLE"
  else if s.failClosedReason ≠ none then s.failClosedReason
  else if s.recoveryRequired then some "RUNTIME_RECOVERY_REQUIRED"
  else if heartbeatStale then some "HEARTBEAT_STALE"
  else if cfg.executionMode ≠ .backtest ∧ s.unknownExchangeState then some "EXCHANGE_STATE_UNKNOWN"
  else if s.orphanOrders ≠ [] then some "ORPHAN_ORDER_DETECTED"
  else if s.orphanPositions ≠ [] then some "ORPHAN_POSITION_DETECTED"
  else if s.unreconciledSymbols ≠ [] then some "UNRECONCILED_POSITION"
  else none

/-- What the rest of `_evaluate_runtime_risk` reads for one symbol. -/
structure RiskContext where
  heartbeatStale : Bool
  activePositions : List String
  coolingDown : Bool
  marketTimeReject : Option String
  thinLiquidity : Bool
  deriving DecidableEq, Repr

/-- `_evaluate_runtime_risk`. -/
def evaluateRuntimeRisk (cfg : RuntimeConfig) (symbol : String) (ctx : RiskContext)
    (s : RuntimeState) : Option String :=
  match failClosedGate cfg ctx.heartbeatStale s with
  | some reason => some reason
  | none =>
    if cfg.globalKillSwitch then some "GLOBAL_KILL_SWITCH"
    else if cfg.maxConcurrentPositions ≤ ctx.activePositions.length then
      some "MAX_CONCURRENT_POSITIONS"
    else if ctx.coolingDown then some "SYMBOL_COOLDOWN"
    else if ctx.marketTimeReject ≠ none then ctx.marketTimeReject
    else if ctx.thinLiquidity then some "THIN_LIQUIDITY"
    else if symbol ∈ ctx.activePositions then some "DUPLICATE_POSITION"
    else none

/-- An open gate: every field it reads is at rest. -/
structure GateOpen (cfg : RuntimeConfig) (s : RuntimeState) : Prop where
  healthy : s.reconciliationPersistenceUnhealthy = false
  heartbeat : s.heartbeatPersistenceDegraded = false
  reason : s.failClosedReason = none
  recovery : s.recoveryRequired = false
  known : cfg.executionMode = .backtest ∨ s.unknownExchangeState = false
  orphanOrders : s.orphanOrders = []
  orphanPositions : s.orphanPositions = []
  unreconciled : s.unreconciledSymbols = []

theorem gateOpen_of_none {cfg : RuntimeConfig} {stale : Bool} {s : RuntimeState}
    (h : failClosedGate cfg stale s = none) : GateOpen cfg s := by
  unfold failClosedGate at h
  split at h
  · cases h
  split at h
  · cases h
  split at h
  · rename_i hne
    exact absurd h hne
  split at h
  · cases h
  split at h
  · cases h
  split at h
  · cases h
  split at h
  · cases h
  split at h
  · cases h
  split at h
  · cases h
  rename_i h1 h2 h3 h4 h5 h6 h7 h8 h9
  constructor
  · exact Bool.eq_false_of_not_eq_true h1
  · exact Bool.eq_false_of_not_eq_true h2
  · exact not_not.mp h3
  · exact Bool.eq_false_of_not_eq_true h4
  · by_cases hb : cfg.executionMode = .backtest
    · exact .inl hb
    · exact .inr (Bool.eq_false_of_not_eq_true fun hu => h6 ⟨hb, hu⟩)
  · exact not_not.mp h7
  · exact not_not.mp h8
  · exact not_not.mp h9

/-! ## 5. What a cycle does to reason and recovery flag -/

theorem observe_recovery {cfg : RuntimeConfig} {source : SnapshotSource} {s s' : RuntimeState}
    (h : observe cfg source s = .ok s') : s'.recoveryRequired = s.recoveryRequired := by
  rcases source with _ | _ | _ | ⟨status, transient⟩ | transient <;> simp only [observe] at h
  · cases h
    rfl
  · split at h <;> cases h
    rfl
  · split at h <;> cases h
    rfl
  · split at h
    · cases h
      rfl
    · split at h <;> cases h
      rfl
  · split at h <;> cases h
    rfl

/-- The reason after the snapshot is empty only where it was, or where a complete one cleared it. -/
theorem observe_reason {cfg : RuntimeConfig} {source : SnapshotSource} {s s' : RuntimeState}
    (h : observe cfg source s = .ok s') (hr : s'.failClosedReason = none) :
    source.incomplete = false ∧ (source.complete = true ∨ s.failClosedReason = none) := by
  rcases source with _ | _ | _ | ⟨status, transient⟩ | transient <;> simp only [observe] at h
  · cases h
    exact ⟨rfl, .inr hr⟩
  · split at h <;> cases h
    exact ⟨rfl, .inr hr⟩
  · split at h <;> cases h
    cases hr
  · split at h
    · rename_i hcomplete
      exact ⟨by simp only [SnapshotSource.incomplete, hcomplete, Bool.not_true], .inl hcomplete⟩
    · split at h <;> cases h
      cases hr
  · split at h <;> cases h
    cases hr

theorem applyFindings_reason {findings : List Finding} {s : RuntimeState}
    (h : (applyFindings findings s).failClosedReason = none) :
    findings = [] ∧ s.failClosedReason = none := by
  simp only [applyFindings] at h
  split at h
  · split at h
    · cases h
    · split at h <;> cases h
  · rename_i hn
    refine ⟨?_, h⟩
    by_contra hf
    exact hn ⟨hf, h⟩

theorem concludeStatus_shared (cfg : RuntimeConfig) (s : RuntimeState) :
    (concludeStatus cfg s).failClosedReason = s.failClosedReason ∧
      (concludeStatus cfg s).recoveryRequired = s.recoveryRequired := by
  unfold concludeStatus
  split <;> exact ⟨rfl, rfl⟩

theorem observe_unhealthy {cfg : RuntimeConfig} {source : SnapshotSource} {s s' : RuntimeState}
    (h : observe cfg source s = .ok s' ∨ observe cfg source s = .error s') :
    s'.reconciliationPersistenceUnhealthy = s.reconciliationPersistenceUnhealthy := by
  rcases source with _ | _ | _ | ⟨status, transient⟩ | transient <;> simp only [observe] at h
  · rcases h with h | h <;> cases h
    rfl
  · split at h <;> rcases h with h | h <;> cases h <;> rfl
  · split at h <;> rcases h with h | h <;> cases h <;> rfl
  · split at h
    · rcases h with h | h <;> cases h
      rfl
    · split at h <;> rcases h with h | h <;> cases h <;> rfl
  · split at h <;> rcases h with h | h <;> cases h <;> rfl

/-- A cycle whose task dies leaves its flag up. -/
theorem finishCycle_error {cfg : RuntimeConfig} {source : SnapshotSource}
    {findings : List Finding} {persisted : Persisted} {s s' : RuntimeState}
    (h : finishCycle cfg source findings persisted s = .error s') :
    s'.reconciliationPersistenceUnhealthy = s.reconciliationPersistenceUnhealthy := by
  simp only [finishCycle] at h
  rcases hobserved : observe cfg source s with died | observed
  · rw [hobserved] at h
    cases h
    exact observe_unhealthy (.inr hobserved)
  · rw [hobserved] at h
    have hconcluded : (concludeStatus cfg (applyFindings findings observed)
        ).reconciliationPersistenceUnhealthy = observed.reconciliationPersistenceUnhealthy := by
      unfold concludeStatus
      split <;> rfl
    simp only [bind, Except.bind] at h
    split at h
    · rcases persisted with _ | _ | _ <;> cases h
      exact hconcluded.trans (observe_unhealthy (.inl hobserved))
    · cases h

/-- What a finished cycle leaves of the recovery flag and the reason. -/
theorem finishCycle_shared {cfg : RuntimeConfig} {source : SnapshotSource}
    {findings : List Finding} {persisted : Persisted} {s s' : RuntimeState}
    (h : finishCycle cfg source findings persisted s = .ok s') :
    s'.recoveryRequired = s.recoveryRequired ∧
      (s'.failClosedReason = none →
        source.incomplete = false ∧ findings = [] ∧
          (cfg.persistence = true → persisted = .committed) ∧
          (source.complete = true ∨ s.failClosedReason = none)) := by
  obtain ⟨observed, hobserved, hrest⟩ := ok_of_bind h
  have hshared := concludeStatus_shared cfg (applyFindings findings observed)
  have hrecovery := observe_recovery hobserved
  -- where the evidence commits, or none is required, the concluded state stands
  have hcommit (hpersisted : cfg.persistence = true → persisted = .committed)
      (hs : s' = commitCycle (concludeStatus cfg (applyFindings findings observed))) :
      s'.recoveryRequired = s.recoveryRequired ∧
        (s'.failClosedReason = none →
          source.incomplete = false ∧ findings = [] ∧
            (cfg.persistence = true → persisted = .committed) ∧
            (source.complete = true ∨ s.failClosedReason = none)) := by
    subst hs
    refine ⟨hshared.2.trans hrecovery, fun hr => ?_⟩
    obtain ⟨hfindings, hreason⟩ := applyFindings_reason (hshared.1.symm.trans hr)
    obtain ⟨hincomplete, hcleared⟩ := observe_reason hobserved hreason
    exact ⟨hincomplete, hfindings, hpersisted, hcleared⟩
  simp only at hrest
  split at hrest
  · rename_i hpersistence
    rcases persisted with _ | _ | _
    · cases hrest
      exact hcommit (fun _ => rfl) rfl
    · cases hrest
      exact ⟨hshared.2.trans hrecovery, fun hr => nomatch hr⟩
    · cases hrest
  · rename_i hpersistence
    cases hrest
    exact hcommit (fun hc => absurd hc hpersistence) rfl

end AlphaForge.Runtime
