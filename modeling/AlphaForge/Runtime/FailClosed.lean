/-
  File:      AlphaForge/Runtime/FailClosed.lean
  Subject:   Which fail-closed causes a runtime may forget: failures and recoveries in any order
             over the one reason and the one recovery flag they share.

  A run is a list of failure and recovery events. `Ledger.outstanding` records, beside the runtime
  state, every cause that has been raised and not been followed by its own recovery.

  * `lifecycle_failure_forgotten` -- a reject persist clears a lifecycle failure it masked.
  * **`nothing_forgotten`** -- where a reject persist clears the shared state only while no other
    cause is outstanding, an open fail-closed state has none outstanding, in every run.

  A cycle whose task dies halts the runtime and is none of these failures.
-/
import AlphaForge.Lib.Runs
import AlphaForge.Runtime.State

namespace AlphaForge.Runtime

open AlphaForge.Lib

/-! ## 1. Causes and events -/

/-- The writers that end in `_mark_sqlite_persistence_recovery_required` or its like. -/
inductive PersistenceKind where
  | lifecycle
  | position
  | ownership
  | allocation
  deriving DecidableEq, Repr

def PersistenceKind.reason : PersistenceKind → String
  | .lifecycle => "LIFECYCLE_PERSISTENCE_FAILED"
  | .position => "PAPER_POSITION_PERSISTENCE_FAILED"
  | .ownership => "EXECUTION_OWNERSHIP_PERSISTENCE_BUSY"
  | .allocation => "PORTFOLIO_ALLOCATION_EVIDENCE_PERSISTENCE_FAILED"

inductive Cause where
  | reject
  | persistence (kind : PersistenceKind)
  | heartbeat
  | incomplete
  | reconciliationPersistence
  | orphans
  deriving DecidableEq, Repr

/-- A cause that raises the recovery flag. -/
def Cause.flagged : Cause → Bool
  | .reject => true
  | .persistence _ => true
  | .heartbeat => true
  | _ => false

inductive RuntimeEvent where
  | rejectFailed
  | rejectPersisted
  | persistenceFailed (kind : PersistenceKind)
  | heartbeat (persisted : Bool)
  | beginCycle
  | finishCycle (source : SnapshotSource) (findings : List Finding) (persisted : Persisted)
  | timedOut
  | timeoutPersisted (persisted : Persisted)
  deriving DecidableEq, Repr

/-- The runtime, and what it must not forget. -/
structure Ledger where
  runtime : RuntimeState
  outstanding : List Cause
  /-- A timed-out cycle is not persisted yet: no other cycle runs. -/
  timeoutPending : Bool
  /-- A cycle's task has died. -/
  halted : Bool
  deriving DecidableEq, Repr

/-- Nothing is outstanding yet. -/
def Ledger.at (s : RuntimeState) : Ledger where
  runtime := s
  outstanding := []
  timeoutPending := false
  halted := false

/-- The causes after some recover and others are raised. -/
def settle (recovered raised outstanding : List Cause) : List Cause :=
  raised ++ outstanding.filter (· ∉ recovered)

/-- What a cycle recovers: a complete snapshot is the recovery of incomplete ones and of failed
    evidence, and of orphans where it shows none. -/
def cycleRecovers (source : SnapshotSource) (findings : List Finding) : List Cause :=
  if source.complete then
    if findings = [] then [.incomplete, .reconciliationPersistence, .orphans]
    else [.incomplete, .reconciliationPersistence]
  else []

/-- What a cycle raises. -/
def cycleRaises (cfg : RuntimeConfig) (source : SnapshotSource) (findings : List Finding)
    (persisted : Persisted) : List Cause :=
  (if source.incomplete then [.incomplete] else []) ++
    (if findings ≠ [] then [.orphans] else []) ++
    (if cfg.persistence ∧ persisted = .busy then [.reconciliationPersistence] else [])

/-- One event. -/
def Ledger.next (cfg : RuntimeConfig) (l : Ledger) (e : RuntimeEvent) : Ledger :=
  if l.halted then l
  else
    match e with
    | .rejectFailed =>
      { l with
        runtime := rejectFailed l.runtime
        outstanding := settle [] [.reject] l.outstanding }
    | .rejectPersisted =>
      { l with
        runtime := rejectPersisted l.runtime
        outstanding := settle [.reject] [] l.outstanding }
    | .persistenceFailed kind =>
      { l with
        runtime := markPersistenceRecoveryRequired kind.reason l.runtime
        outstanding := settle [] [.persistence kind] l.outstanding }
    | .heartbeat persisted =>
      let after := heartbeat cfg persisted l.runtime
      { l with
        runtime := after
        outstanding :=
          if l.runtime.heartbeatHalted then l.outstanding
          else if persisted then settle [.heartbeat] [] l.outstanding
          else if after.heartbeatHalted then settle [] [.heartbeat] l.outstanding
          else l.outstanding }
    | .beginCycle =>
      if l.timeoutPending then l else { l with runtime := beginCycle l.runtime }
    | .finishCycle source findings persisted =>
      if l.timeoutPending then l
      else
        match finishCycle cfg source findings persisted l.runtime with
        | .ok after =>
          { l with
            runtime := after
            outstanding := settle (cycleRecovers source findings)
              (cycleRaises cfg source findings persisted) l.outstanding }
        | .error after => { l with runtime := after, halted := true }
    | .timedOut =>
      if l.timeoutPending then l
      else
        { l with
          runtime := timedOut l.runtime
          outstanding := settle [] [.incomplete] l.outstanding
          timeoutPending := true }
    | .timeoutPersisted persisted =>
      if l.timeoutPending then
        { l with
          runtime := timeoutPersisted cfg persisted l.runtime
          outstanding := settle []
            (if cfg.persistence ∧ persisted = .busy then [.reconciliationPersistence] else [])
            l.outstanding
          timeoutPending := false
          halted := cfg.persistence ∧ persisted = .raised }
      else l

/-- The blocking reason that comes from the reason and the two flags alone. -/
def blockingReason (cfg : RuntimeConfig) (s : RuntimeState) : Option String :=
  if s.failClosedReason ≠ none then s.failClosedReason
  else if s.recoveryRequired then some "RUNTIME_RECOVERY_REQUIRED"
  else if cfg.executionMode ≠ .backtest ∧ s.unknownExchangeState then some "EXCHANGE_STATE_UNKNOWN"
  else none

/-- Whatever the gate passes, the shared state does not block. -/
theorem blockingReason_of_gate {cfg : RuntimeConfig} {stale : Bool} {s : RuntimeState}
    (h : failClosedGate cfg stale s = none) : blockingReason cfg s = none := by
  obtain ⟨_, _, hreason, hrecovery, hknown, _⟩ := gateOpen_of_none h
  unfold blockingReason
  rw [if_neg (not_not.mpr hreason), hrecovery]
  rcases hknown with hb | hu
  · rw [if_neg Bool.false_ne_true, if_neg fun hc => hc.1 hb]
  · rw [if_neg Bool.false_ne_true, hu, if_neg fun hc => Bool.false_ne_true hc.2]

/-- The fail-closed state is open only with nothing outstanding. -/
def Forgets (cfg : RuntimeConfig) (l : Ledger) : Prop :=
  l.halted = false ∧ blockingReason cfg l.runtime = none ∧ l.outstanding ≠ []

instance (cfg : RuntimeConfig) (l : Ledger) : Decidable (Forgets cfg l) :=
  inferInstanceAs (Decidable (_ ∧ _))

/-- A PAPER runtime with a database. -/
def paperConfig : RuntimeConfig where
  executionMode := .paper
  diagnosticMode := false
  persistence := true
  globalKillSwitch := false
  maxConcurrentPositions := 5
  heartbeatFailureThreshold := 3

/-- A reject write fails, then a lifecycle write, and the next reject write succeeds. -/
theorem lifecycle_failure_forgotten :
    Forgets paperConfig (runEvents (Ledger.next paperConfig) (Ledger.at RuntimeState.initial)
      [.rejectFailed, .persistenceFailed .lifecycle, .rejectPersisted]) := by
  decide +kernel

theorem mem_settle {recovered raised outstanding : List Cause} {c : Cause} :
    c ∈ settle recovered raised outstanding ↔ c ∈ raised ∨ c ∈ outstanding ∧ c ∉ recovered := by
  unfold settle
  rw [List.mem_append, List.mem_filter, decide_eq_true_eq]

theorem settle_subset {recovered outstanding : List Cause} {c : Cause}
    (h : c ∈ settle recovered [] outstanding) : c ∈ outstanding :=
  (mem_settle.mp h).elim (fun h => nomatch h) And.left

/-! ## 2. Runs -/

/-- Every outstanding cause holds its part of the shared state. -/
structure Remembered (l : Ledger) : Prop where
  flag : ∀ c ∈ l.outstanding, c.flagged = true → l.runtime.recoveryRequired = true
  reason : ∀ c ∈ l.outstanding, c.flagged = false → l.runtime.failClosedReason ≠ none
  pending : l.timeoutPending = true → Cause.incomplete ∈ l.outstanding

/-- The event condition: a reject persist that clears the shared state finds no other cause
    outstanding. -/
def ClearsAlone (l : Ledger) : RuntimeEvent → Prop
  | .rejectPersisted =>
    l.runtime.rejectPersistenceDegraded = true →
      l.runtime.failClosedReason = some "REJECT_PERSISTENCE_FAILED" →
        ∀ c ∈ l.outstanding, c = .reject
  | _ => True

theorem keepReason_ne_none (s : RuntimeState) (reason : String) : s.keepReason reason ≠ none := by
  unfold RuntimeState.keepReason
  rcases s.failClosedReason with _ | kept <;> exact Option.some_ne_none _

section Steps

variable {cfg : RuntimeConfig} {l : Ledger}

/-- With the flag up and a reason set, whatever is outstanding is remembered. -/
theorem remembered_of_both {l : Ledger} (hf : l.runtime.recoveryRequired = true)
    (hr : l.runtime.failClosedReason ≠ none)
    (hp : l.timeoutPending = true → Cause.incomplete ∈ l.outstanding) : Remembered l :=
  { flag := fun _ _ _ => hf, reason := fun _ _ _ => hr, pending := hp }

/-- A change that keeps flag and reason forgets nothing that stays outstanding. -/
theorem Remembered.of_subset {l l' : Ledger} (h : Remembered l)
    (hf : l'.runtime.recoveryRequired = l.runtime.recoveryRequired)
    (hr : l'.runtime.failClosedReason = l.runtime.failClosedReason)
    (hsub : ∀ c ∈ l'.outstanding, c ∈ l.outstanding)
    (hp : l'.timeoutPending = true → Cause.incomplete ∈ l'.outstanding) : Remembered l' :=
  { flag := fun c hc hflag => hf.trans (h.flag c (hsub c hc) hflag)
    reason := fun c hc hflag => hr ▸ h.reason c (hsub c hc) hflag
    pending := hp }

theorem remembered_rejectPersisted (h : Remembered l) (hc : ClearsAlone l .rejectPersisted) :
    Remembered { l with
      runtime := rejectPersisted l.runtime
      outstanding := settle [.reject] [] l.outstanding } := by
  have hsub : ∀ c ∈ settle [.reject] [] l.outstanding, c ∈ l.outstanding :=
    fun _ => settle_subset
  have hpending : l.timeoutPending = true → Cause.incomplete ∈ settle [.reject] [] l.outstanding :=
    fun hp => mem_settle.mpr (.inr ⟨h.pending hp, by decide⟩)
  unfold rejectPersisted
  split
  · rename_i hdegraded
    split
    · rename_i hreason
      -- the shared state is cleared, and nothing else was outstanding
      have hempty : ∀ c, c ∉ settle [.reject] [] l.outstanding := fun c hm => by
        rcases mem_settle.mp hm with hm | ⟨hm, hne⟩
        · cases hm
        · exact hne (List.mem_singleton.mpr (hc hdegraded hreason c hm))
      exact
        { flag := fun c hm => absurd hm (hempty c)
          reason := fun c hm => absurd hm (hempty c)
          pending := hpending }
    · exact h.of_subset rfl rfl hsub hpending
  · exact h.of_subset rfl rfl hsub hpending

/-- One round of the heartbeat loop: its mark sets flag and reason, the rest keeps both. -/
theorem heartbeat_shared {persisted : Bool} {s : RuntimeState}
    (h : (heartbeat cfg persisted s).heartbeatHalted = false) :
    (heartbeat cfg persisted s).recoveryRequired = s.recoveryRequired ∧
      (heartbeat cfg persisted s).failClosedReason = s.failClosedReason := by
  have hmark (s : RuntimeState) : (markHeartbeat s).heartbeatHalted = true :=
    decide_eq_true ⟨rfl, rfl⟩
  unfold heartbeat at h ⊢
  split
  · rename_i hhalted
    rw [if_pos hhalted, hmark] at h
    cases h
  · rename_i hhalted
    rw [if_neg hhalted] at h
    split
    · exact ⟨rfl, rfl⟩
    · rename_i hpersisted
      simp only [if_neg hpersisted] at h ⊢
      split
      · rename_i hstreak
        rw [if_pos hstreak, hmark] at h
        cases h
      · exact ⟨rfl, rfl⟩

/-- The heartbeat cause may become outstanding only where the loop has halted. -/
theorem remembered_heartbeat (h : Remembered l) (persisted : Bool) (outstanding : List Cause)
    (hsub : (heartbeat cfg persisted l.runtime).heartbeatHalted = false →
      ∀ c ∈ outstanding, c ∈ l.outstanding)
    (hp : Cause.incomplete ∈ l.outstanding → Cause.incomplete ∈ outstanding) :
    Remembered { l with
      runtime := heartbeat cfg persisted l.runtime
      outstanding := outstanding } := by
  have hpending : l.timeoutPending = true → Cause.incomplete ∈ outstanding :=
    fun hpending => hp (h.pending hpending)
  by_cases hhalted : (heartbeat cfg persisted l.runtime).heartbeatHalted = true
  · have hboth := of_decide_eq_true hhalted
    refine remembered_of_both hboth.1 ?_ hpending
    intro hnone
    rw [hboth.2] at hnone
    cases hnone
  · have hrest := Bool.eq_false_of_not_eq_true hhalted
    obtain ⟨hflag, hreason⟩ := heartbeat_shared hrest
    exact h.of_subset hflag hreason (hsub hrest) hpending

theorem remembered_finishCycle (h : Remembered l) (hp : l.timeoutPending = false)
    {source : SnapshotSource} {findings : List Finding} {persisted : Persisted}
    {after : RuntimeState} (hok : finishCycle cfg source findings persisted l.runtime = .ok after) :
    Remembered { l with
      runtime := after
      outstanding := settle (cycleRecovers source findings)
        (cycleRaises cfg source findings persisted) l.outstanding } := by
  obtain ⟨hrecovery, hreason⟩ := finishCycle_shared hok
  have hflagged : ∀ c ∈ cycleRaises cfg source findings persisted, c.flagged = false := by
    intro c hc
    simp only [cycleRaises, List.mem_append, List.mem_ite_nil_right, List.mem_singleton] at hc
    rcases hc with (⟨_, rfl⟩ | ⟨_, rfl⟩) | ⟨_, rfl⟩ <;> rfl
  constructor
  · intro c hc hflag
    rcases mem_settle.mp hc with hc | hc
    · rw [hflagged c hc] at hflag
      cases hflag
    · exact hrecovery.trans (h.flag c hc.1 hflag)
  · intro c hc hflag hnone
    obtain ⟨hincomplete, hfindings, hpersisted, hcleared⟩ := hreason hnone
    have hbusy : ¬ (cfg.persistence = true ∧ persisted = .busy) := fun hb =>
      absurd (hpersisted hb.1) (hb.2 ▸ by decide)
    rcases mem_settle.mp hc with hc | ⟨hc, hkept⟩
    · simp only [cycleRaises, hincomplete, hfindings, if_neg hbusy] at hc
      cases hc
    · rcases hcleared with hcomplete | hbefore
      · -- a complete, clean cycle recovers every cause that has no flag
        simp only [cycleRecovers, hcomplete, hfindings, if_true] at hkept
        rcases c with _ | _ | _ | _ | _ | _
        · cases hflag
        · cases hflag
        · cases hflag
        · exact hkept (by decide)
        · exact hkept (by decide)
        · exact hkept (by decide)
      · exact h.reason c hc hflag hbefore
  · intro hpending
    rw [hp] at hpending
    cases hpending

/-- One event: while the runtime runs, everything outstanding stays remembered. -/
theorem remembered_next (h : l.halted = false → Remembered l) (e : RuntimeEvent)
    (hc : ClearsAlone l e) : (l.next cfg e).halted = false → Remembered (l.next cfg e) := by
  unfold Ledger.next
  split
  · exact h
  rename_i hrun
  have h := h (Bool.eq_false_of_not_eq_true hrun)
  rcases e with _ | _ | kind | persisted | _ | ⟨source, findings, persisted⟩ | _ | persisted
  case rejectFailed =>
    intro _
    exact remembered_of_both rfl (keepReason_ne_none _ _)
      fun hp => mem_settle.mpr (.inr ⟨h.pending hp, List.not_mem_nil⟩)
  case rejectPersisted => exact fun _ => remembered_rejectPersisted h hc
  case persistenceFailed =>
    intro _
    exact remembered_of_both rfl (keepReason_ne_none _ _)
      fun hp => mem_settle.mpr (.inr ⟨h.pending hp, List.not_mem_nil⟩)
  case heartbeat =>
    intro _
    refine remembered_heartbeat h persisted _ ?_ ?_
    · intro hrest c hm
      simp only [hrest, Bool.false_eq_true, if_false] at hm
      split at hm
      · exact hm
      split at hm
      · exact settle_subset hm
      · exact hm
    · intro hm
      split
      · exact hm
      split
      · exact mem_settle.mpr (.inr ⟨hm, by decide⟩)
      split
      · exact mem_settle.mpr (.inr ⟨hm, List.not_mem_nil⟩)
      · exact hm
  case beginCycle =>
    intro _
    dsimp only
    split
    · exact h
    · exact h.of_subset rfl rfl (fun _ hm => hm) h.pending
  case finishCycle =>
    dsimp only
    split
    · exact fun _ => h
    rename_i hpending
    split
    · rename_i after hok
      exact fun _ => remembered_finishCycle h (Bool.eq_false_of_not_eq_true hpending) hok
    · intro hhalted
      cases hhalted
  case timedOut =>
    dsimp only
    split
    · exact fun _ => h
    intro _
    constructor
    · intro c hm hflag
      rcases mem_settle.mp hm with hm | hm
      · rw [List.mem_singleton.mp hm] at hflag
        cases hflag
      · exact h.flag c hm.1 hflag
    · exact fun _ _ _ hnone => nomatch hnone
    · exact fun _ => mem_settle.mpr (.inl (List.mem_singleton_self _))
  case timeoutPersisted =>
    dsimp only
    split
    · rename_i hpending
      intro _
      have hshared : (timeoutPersisted cfg persisted l.runtime).recoveryRequired =
            l.runtime.recoveryRequired ∧
          (timeoutPersisted cfg persisted l.runtime).failClosedReason =
            l.runtime.failClosedReason := by
        unfold timeoutPersisted
        split <;> exact ⟨rfl, rfl⟩
      constructor
      · intro c hm hflag
        rcases mem_settle.mp hm with hm | hm
        · rw [List.mem_singleton.mp (List.mem_ite_nil_right.mp hm).2] at hflag
          cases hflag
        · exact hshared.1.trans (h.flag c hm.1 hflag)
      · intro c _ _
        rw [hshared.2]
        -- the timed-out cycle itself holds a reason
        exact h.reason .incomplete (h.pending hpending) rfl
      · intro hfalse
        cases hfalse
    · exact fun _ => h

end Steps

/-- **A blocking reason outlives its causes.** In every run from any state with nothing
    outstanding, where a reject persist clears the shared state only with no other cause
    outstanding, an open fail-closed state has nothing outstanding. -/
theorem nothing_forgotten (cfg : RuntimeConfig) (s : RuntimeState) (events : List RuntimeEvent)
    (hevents : Along (Ledger.next cfg) ClearsAlone (Ledger.at s) events) :
    ¬ Forgets cfg (runEvents (Ledger.next cfg) (Ledger.at s) events) := by
  have hstart : (Ledger.at s).halted = false → Remembered (Ledger.at s) := fun _ =>
    { flag := fun _ hm => nomatch hm
      reason := fun _ hm => nomatch hm
      pending := fun hp => nomatch hp }
  have hrun := run_preserves (P := fun l => l.halted = false → Remembered l)
    (fun l e h hc => remembered_next h e hc) events (Ledger.at s) hstart hevents
  generalize runEvents (Ledger.next cfg) (Ledger.at s) events = l at hrun
  intro ⟨hhalted, hopen, hsome⟩
  have h := hrun hhalted
  obtain ⟨c, hc⟩ := List.exists_mem_of_ne_nil _ hsome
  unfold blockingReason at hopen
  by_cases hreason : l.runtime.failClosedReason = none
  · rw [if_neg (not_not.mpr hreason)] at hopen
    by_cases hflag : c.flagged = true
    · rw [if_pos (h.flag c hc hflag)] at hopen
      cases hopen
    · exact h.reason c hc (Bool.eq_false_of_not_eq_true hflag) hreason
  · rw [if_pos hreason] at hopen
    exact hreason hopen

/-- A reject write fails and the next one succeeds. -/
theorem nothing_forgotten_reject :
    Along (Ledger.next paperConfig) ClearsAlone (Ledger.at RuntimeState.initial)
        [.rejectFailed, .rejectPersisted] ∧
      ¬ Forgets paperConfig (runEvents (Ledger.next paperConfig) (Ledger.at RuntimeState.initial)
        [.rejectFailed, .rejectPersisted]) :=
  have h : Along (Ledger.next paperConfig) ClearsAlone (Ledger.at RuntimeState.initial)
      [.rejectFailed, .rejectPersisted] :=
    ⟨trivial, fun _ _ _ hc => List.mem_singleton.mp hc, trivial⟩
  ⟨h, nothing_forgotten paperConfig RuntimeState.initial _ h⟩

end AlphaForge.Runtime
