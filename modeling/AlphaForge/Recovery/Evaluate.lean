/-
  File:      AlphaForge/Recovery/Evaluate.lean
  Subject:   `evaluate_runtime_recovery` of `runtime_state.py`: whether a starting runtime is
             blocked by what its predecessors left.

  The evidence is what the function reads: the latest snapshot, the open rows of the exposure
  tables, the history of reconciliation events, the kill switch, and a fresh probe of the exchange,
  which is asked only after an unclean predecessor or on demand. Each reading may fail. Of the rows
  the function only takes the count; an order is told by its id, a position by its symbol.

  * **`blocked_iff`** -- the causes that block, one by one.
-/
import AlphaForge.Lib.PyValues
import Mathlib.Data.List.Perm.Basic
import Mathlib.Data.List.Infix

namespace AlphaForge.Recovery

open AlphaForge.Lib

/-! ## 1. Evidence -/

/-- An exception: the name of its type and its text. -/
structure Failure where
  type : String
  text : String
  deriving DecidableEq, Repr

/-- What a query answers, or the exception it raises. -/
abbrev Query (α : Type) := Except Failure α

/-- The columns of the latest runtime snapshot that are read here. -/
structure Snapshot where
  instanceId : Option String
  startupId : Option String
  campaignId : Option String
  processId : Option ℤ
  runtimeStatus : Option String
  failClosedReason : Option String
  deriving DecidableEq, Repr

/-- A row of `exchange_reconciliation_events`. -/
structure ReconciliationEvent where
  status : Option String
  orphanOrderCount : ℕ
  orphanPositionCount : ℕ
  deriving DecidableEq, Repr

/-- What a reconciliation probe answers. -/
structure Probe where
  evidenceStatus : Option String
  authenticated : Bool
  inputSource : Option String
  /-- The ids of the open orders. -/
  orders : List String
  /-- The symbols of the open positions. -/
  positions : List String
  errors : List String
  deriving DecidableEq, Repr

structure Evidence where
  latest : Query (Option Snapshot)
  /-- The symbols of the active rows of the positions table. -/
  positions : Query (List String)
  /-- Those of the open rows of `burnin_pending_position_outcomes`; none without the table. -/
  campaignPositions : Query (List String)
  /-- The ids of the active rows of the orders table. -/
  orders : Query (List String)
  /-- The history of reconciliation events, by id. -/
  events : Query (List ReconciliationEvent)
  killSwitch : Query Bool
  /-- Status of the latest snapshot's campaign. -/
  campaignStatus : Query (Option String)
  /-- `process_is_alive` of the latest snapshot's process. -/
  processAlive : Bool
  /-- The probe, where the caller passes one, and what asking it answers. -/
  probe : Option (Query Probe)

/-- The arguments. -/
structure Request where
  mode : String
  campaignId : Option String
  instanceId : Option String
  startupId : Option String
  forceReconciliationProbe : Bool
  deriving DecidableEq, Repr

/-! ## 2. The decision -/

/-- `str(value or default).upper()`. -/
def upperOr (value : Option String) (default : String) : String :=
  upper (if value.getD "" = "" then default else value.getD "")

/-- `bool(text)` of a nullable text. -/
def given (value : Option String) : Bool := value.getD "" ≠ ""

def cleanRuntimeStatuses : List String :=
  ["STOPPED", "CLEAN_SHUTDOWN", "STOPPING", "RECONCILED", "LOCAL_DIAGNOSTIC_RECOVERY"]

def cleanReconciliationStatuses : List String :=
  ["CLEAN", "NOT_REQUIRED_BACKTEST", "LOCAL_ONLY_DIAGNOSTIC"]

def terminalCampaignStatuses : List String := ["FAILED", "COMPLETED", "QUALIFIED", "SUSPENDED"]

/-- The error that a failed reading of a table leaves. -/
def errorOf {α : Type} (name : String) : Query α → List String
  | .ok _ => []
  | .error f => [name ++ ":" ++ f.type ++ ":" ++ f.text]

/-- The answer of a reading, or what stands for it where it failed. -/
def answerOr {α : Type} (default : α) : Query α → α
  | .ok a => a
  | .error _ => default

structure Exposure where
  activePositions : ℕ
  pendingOrders : ℕ
  orphanOrders : ℕ
  orphanPositions : ℕ
  deriving DecidableEq, Repr

/-- What asking the probe contributes. -/
structure ProbeReading where
  clean : Bool
  authoritative : Bool
  queryErrors : List String
  providerUnavailableErrors : List String
  reconciliationStorageErrors : List String
  deriving DecidableEq, Repr

/-- A complete answer without errors. -/
def Probe.complete (p : Probe) : Bool := upperOr p.evidenceStatus "" = "COMPLETE" ∧ p.errors = []

/-- The text that marks a missing provider. -/
def namesMissingProvider (text : String) : Bool :=
  "read_only_reconciliation_provider_unavailable".toList <:+: text.toList

def readProbe : Query Probe → ProbeReading
  | .ok p =>
    let clean := p.complete ∧ p.orders = [] ∧ p.positions = []
    { clean := clean
      authoritative := clean ∧ p.authenticated = true ∧
        upperOr p.inputSource "" = "AUTHENTICATED_EXCHANGE_SNAPSHOT"
      queryErrors := if p.complete then [] else ["reconciliation_probe:incomplete_or_error"]
      providerUnavailableErrors := []
      reconciliationStorageErrors := [] }
  | .error f =>
    let error := "reconciliation_probe:" ++ f.type ++ ":" ++ f.text
    { clean := false
      authoritative := false
      queryErrors := [error]
      providerUnavailableErrors := if namesMissingProvider f.text then [error] else []
      reconciliationStorageErrors := if namesMissingProvider f.text then [] else [error] }

/-- Without a probe, or where it is not asked. -/
def noReading : ProbeReading where
  clean := false
  authoritative := false
  queryErrors := []
  providerUnavailableErrors := []
  reconciliationStorageErrors := []

structure RecoveryDecision where
  blocked : Bool
  reason : Option String
  scope : String
  latest : Option Snapshot
  currentExposureCheck : Exposure
  killSwitchActive : Bool
  reconciliationStatus : String
  previousProcessAlive : Bool
  campaignTerminal : Bool
  priorUnclean : Bool
  queryErrors : List String
  providerUnavailableErrors : List String
  localExposureQueryErrors : List String
  reconciliationStorageErrors : List String
  killSwitchQueryErrors : List String
  campaignStateQueryErrors : List String
  reconciliationProbeClean : Bool
  deriving DecidableEq, Repr

/-- The predecessor did not end with a clean status. -/
def priorUnclean : Option Snapshot → Bool
  | none => false
  | some s => !cleanRuntimeStatuses.contains (upperOr s.runtimeStatus "")

def sameCampaign (r : Request) (latest : Option Snapshot) : Bool :=
  given r.campaignId && given (latest.bind (·.campaignId)) &&
    r.campaignId = latest.bind (·.campaignId)

def sameLineage (r : Request) (latest : Option Snapshot) : Bool :=
  given r.instanceId && given r.startupId && r.instanceId = latest.bind (·.instanceId) &&
    r.startupId = latest.bind (·.startupId)

def strictLive (r : Request) : Bool := ["LIVE", "LIVE_PRECHECK"].contains (upper r.mode)

/-- The open campaign positions, which only PAPER counts. -/
def campaignPositionsRead (r : Request) (e : Evidence) : Query (List String) :=
  if upper r.mode = "PAPER" then e.campaignPositions else .ok []

/-- The latest reconciliation event. -/
def lastEvent (e : Evidence) : Option ReconciliationEvent := (answerOr [] e.events).getLast?

def exposureOf (r : Request) (e : Evidence) : Exposure where
  activePositions :=
    (answerOr [] e.positions).length + (answerOr [] (campaignPositionsRead r e)).length
  pendingOrders := (answerOr [] e.orders).length
  orphanOrders := (lastEvent e).elim 0 (·.orphanOrderCount)
  orphanPositions := (lastEvent e).elim 0 (·.orphanPositionCount)

/-- The status of the latest event. -/
def storedStatus (e : Evidence) : String :=
  (lastEvent e).elim "UNKNOWN" (upperOr ·.status "UNKNOWN")

def probeReading (r : Request) (latest : Option Snapshot) (e : Evidence) : ProbeReading :=
  match e.probe with
  | some answer =>
    if priorUnclean latest || r.forceReconciliationProbe then readProbe answer else noReading
  | none => noReading

/-- The campaign's status is read only where the snapshot names one. -/
def campaignRead (latest : Option Snapshot) (e : Evidence) : Query (Option String) :=
  if given (latest.bind (·.campaignId)) then e.campaignStatus else .ok none

def localExposureErrors (r : Request) (e : Evidence) : List String :=
  errorOf "positions" e.positions ++
    errorOf "burnin_pending_position_outcomes" (campaignPositionsRead r e) ++
    errorOf "orders" e.orders

/-- Every error of the evaluation, in the order of its readings. -/
def queryErrors (r : Request) (latest : Option Snapshot) (e : Evidence) : List String :=
  localExposureErrors r e ++ errorOf "reconciliation" e.events ++
    errorOf "kill_switch" e.killSwitch ++ errorOf "campaign" (campaignRead latest e) ++
    (probeReading r latest e).queryErrors

/-- The process of the latest snapshot is alive. -/
def previousProcessAlive (latest : Option Snapshot) (e : Evidence) : Bool :=
  decide ((latest.bind (·.processId)).getD 0 ≠ 0) && e.processAlive

/-- The evaluation from the latest snapshot on. -/
def evaluateFrom (r : Request) (latest : Option Snapshot) (e : Evidence) : RecoveryDecision :=
  let exposure := exposureOf r e
  let killSwitch := answerOr false e.killSwitch
  let unclean := priorUnclean latest
  let probe := probeReading r latest e
  let reconciliationStatus := if probe.authoritative then "CLEAN" else storedStatus e
  let localErrors := localExposureErrors r e
  let storageErrors := errorOf "reconciliation" e.events ++ probe.reconciliationStorageErrors
  let killErrors := errorOf "kill_switch" e.killSwitch
  let errors := queryErrors r latest e
  let unresolved := unclean && !cleanReconciliationStatuses.contains reconciliationStatus &&
    !probe.clean
  let authoritativeLocalError := localErrors ≠ [] ∨ storageErrors ≠ [] ∨ killErrors ≠ []
  let providerOnly := probe.providerUnavailableErrors ≠ [] ∧
    List.Perm probe.providerUnavailableErrors errors
  let globalRisk := exposure.activePositions ≠ 0 ∨ (unclean ∧ exposure.pendingOrders ≠ 0) ∨
    exposure.orphanOrders ≠ 0 ∨ exposure.orphanPositions ≠ 0 ∨ killSwitch = true ∨
    authoritativeLocalError ∨ (unresolved ∧ ¬ providerOnly)
  let blocked := errors ≠ [] ∨ globalRisk ∨ (strictLive r ∧ unclean) ∨
    (sameCampaign r latest ∧ unclean) ∨ previousProcessAlive latest e = true
  { blocked := blocked
    reason :=
      if errors ≠ [] then some "RECOVERY_EVIDENCE_UNAVAILABLE"
      else if blocked ∧ unclean then some "UNCLEAN_SHUTDOWN_RECOVERY_REQUIRED"
      else if blocked then some "RUNTIME_RECOVERY_REQUIRED"
      else none
    scope :=
      if sameLineage r latest then "SAME_RUNTIME_LINEAGE"
      else if sameCampaign r latest then "SAME_CAMPAIGN"
      else if globalRisk then "GLOBAL_EXECUTION_RISK"
      else "UNRELATED_HISTORICAL_RUNTIME"
    latest := latest
    currentExposureCheck := exposure
    killSwitchActive := killSwitch
    reconciliationStatus := reconciliationStatus
    previousProcessAlive := previousProcessAlive latest e
    campaignTerminal := match answerOr none (campaignRead latest e) with
      | some status => terminalCampaignStatuses.contains (upper status)
      | none => false
    priorUnclean := unclean
    queryErrors := errors
    providerUnavailableErrors := probe.providerUnavailableErrors
    localExposureQueryErrors := localErrors
    reconciliationStorageErrors := storageErrors
    killSwitchQueryErrors := killErrors
    campaignStateQueryErrors := errorOf "campaign" (campaignRead latest e)
    reconciliationProbeClean := probe.clean }

/-- The answer where not even the snapshots can be read; what it leaves out is empty here. -/
def evidenceUnavailable (f : Failure) : RecoveryDecision :=
  let error := "runtime_state:" ++ f.type ++ ":" ++ f.text
  { blocked := true
    reason := some "RECOVERY_EVIDENCE_UNAVAILABLE"
    scope := "GLOBAL_EXECUTION_RISK"
    latest := none
    currentExposureCheck :=
      { activePositions := 0, pendingOrders := 0, orphanOrders := 0, orphanPositions := 0 }
    killSwitchActive := false
    reconciliationStatus := ""
    previousProcessAlive := false
    campaignTerminal := false
    priorUnclean := false
    queryErrors := [error]
    providerUnavailableErrors := []
    localExposureQueryErrors := [error]
    reconciliationStorageErrors := []
    killSwitchQueryErrors := []
    campaignStateQueryErrors := []
    reconciliationProbeClean := false }

/-- `evaluate_runtime_recovery`. -/
def evaluateRuntimeRecovery (r : Request) (e : Evidence) : RecoveryDecision :=
  match e.latest with
  | .ok latest => evaluateFrom r latest e
  | .error f => evidenceUnavailable f

/-! ## 3. What blocks -/

/-- The reading raised. -/
def Failed {α : Type} (q : Query α) : Prop := ∃ f, q = .error f

theorem errorOf_ne_nil {α : Type} {name : String} {q : Query α} :
    errorOf name q ≠ [] ↔ Failed q := by
  rcases q with f | a
  · exact ⟨fun _ => ⟨f, rfl⟩, fun _ => List.cons_ne_nil _ _⟩
  · exact ⟨fun h => absurd rfl h, fun ⟨_, h⟩ => nomatch h⟩

/-- The probe is asked. -/
def Asked (r : Request) (latest : Option Snapshot) : Prop :=
  priorUnclean latest = true ∨ r.forceReconciliationProbe = true

/-- A reading that the decision needs is missing. -/
inductive Unreadable (r : Request) (latest : Option Snapshot) (e : Evidence) : Prop
  | positions (h : Failed e.positions)
  | campaignPositions (h : Failed (campaignPositionsRead r e))
  | orders (h : Failed e.orders)
  | events (h : Failed e.events)
  | killSwitch (h : Failed e.killSwitch)
  | campaign (h : Failed (campaignRead latest e))
  | probe (asked : Asked r latest) (answer : Query Probe) (given : e.probe = some answer)
      (h : ∀ p, answer = .ok p → p.complete = false)

theorem readProbe_queryErrors {answer : Query Probe} :
    (readProbe answer).queryErrors ≠ [] ↔ ∀ p, answer = .ok p → p.complete = false := by
  rcases answer with f | p
  · constructor
    · intro _ p h
      cases h
    · exact fun _ => List.cons_ne_nil _ _
  · constructor
    · intro h q hq
      cases hq
      by_contra hc
      exact h (if_pos (Bool.eq_true_of_not_eq_false hc))
    · intro h
      have hp := h p rfl
      simp only [readProbe, hp]
      exact List.cons_ne_nil _ _

theorem probeReading_queryErrors {r : Request} {latest : Option Snapshot} {e : Evidence} :
    (probeReading r latest e).queryErrors ≠ [] ↔
      Asked r latest ∧ ∃ answer, e.probe = some answer ∧
        ∀ p, answer = .ok p → p.complete = false := by
  unfold probeReading
  rcases hp : e.probe with _ | answer
  · exact ⟨fun h => absurd rfl h, fun ⟨_, _, h, _⟩ => nomatch h⟩
  · simp only
    split
    · rename_i hasked
      rw [Bool.or_eq_true] at hasked
      rw [readProbe_queryErrors]
      exact ⟨fun h => ⟨hasked, answer, rfl, h⟩, fun ⟨_, _, ha, h⟩ => by cases ha; exact h⟩
    · rename_i hasked
      rw [Bool.or_eq_true] at hasked
      exact ⟨fun h => absurd rfl h, fun ⟨h, _⟩ => absurd h hasked⟩

theorem append_ne_nil {l m : List String} : l ++ m ≠ [] ↔ l ≠ [] ∨ m ≠ [] := by
  rw [ne_eq, List.append_eq_nil_iff, not_and_or]

theorem queryErrors_ne_nil {r : Request} {latest : Option Snapshot} {e : Evidence} :
    queryErrors r latest e ≠ [] ↔ Unreadable r latest e := by
  simp only [queryErrors, localExposureErrors, append_ne_nil, errorOf_ne_nil,
    probeReading_queryErrors]
  constructor
  · intro h
    rcases h with (((((h | h) | h) | h) | h) | h) | ⟨asked, answer, given, h⟩
    · exact .positions h
    · exact .campaignPositions h
    · exact .orders h
    · exact .events h
    · exact .killSwitch h
    · exact .campaign h
    · exact .probe asked answer given h
  · intro h
    rcases h with h | h | h | h | h | h | ⟨asked, answer, given, h⟩
    · exact .inl (.inl (.inl (.inl (.inl (.inl h)))))
    · exact .inl (.inl (.inl (.inl (.inl (.inr h)))))
    · exact .inl (.inl (.inl (.inl (.inr h))))
    · exact .inl (.inl (.inl (.inr h)))
    · exact .inl (.inl (.inr h))
    · exact .inl (.inr h)
    · exact .inr ⟨asked, answer, given, h⟩

/-- The latest event's status is none of the clean ones. -/
def StoredUnclean (e : Evidence) : Prop :=
  cleanReconciliationStatuses.contains (storedStatus e) = false

/-- What blocks, one cause at a time. -/
inductive Cause (r : Request) (latest : Option Snapshot) (e : Evidence) : Prop
  | unreadable (h : Unreadable r latest e)
  | position (h : (exposureOf r e).activePositions ≠ 0)
  | pendingOrder (unclean : priorUnclean latest = true) (h : (exposureOf r e).pendingOrders ≠ 0)
  | orphanOrder (h : (exposureOf r e).orphanOrders ≠ 0)
  | orphanPosition (h : (exposureOf r e).orphanPositions ≠ 0)
  | killSwitch (h : answerOr false e.killSwitch = true)
  | unresolved (unclean : priorUnclean latest = true) (stored : StoredUnclean e)
      (h : (probeReading r latest e).clean = false)
  | strictLive (unclean : priorUnclean latest = true) (h : strictLive r = true)
  | sameCampaign (unclean : priorUnclean latest = true) (h : sameCampaign r latest = true)
  | process (h : previousProcessAlive latest e = true)

/-- A clean reading is a complete, empty answer of a probe that was asked. -/
theorem probeReading_clean {r : Request} {latest : Option Snapshot} {e : Evidence} :
    (probeReading r latest e).clean = true ↔
      Asked r latest ∧ ∃ p, e.probe = some (.ok p) ∧ p.complete = true ∧ p.orders = [] ∧
        p.positions = [] := by
  unfold probeReading
  rcases he : e.probe with _ | answer
  · constructor
    · intro h
      cases h
    · intro ⟨_, _, h, _⟩
      cases h
  · simp only
    split
    · rename_i hasked
      rw [Bool.or_eq_true] at hasked
      rcases answer with f | p
      · constructor
        · intro h
          cases h
        · intro ⟨_, _, h, _⟩
          cases h
      · constructor
        · intro h
          exact ⟨hasked, p, rfl, of_decide_eq_true h⟩
        · intro ⟨_, q, hq, h⟩
          cases hq
          exact decide_eq_true h
    · rename_i hasked
      rw [Bool.or_eq_true] at hasked
      constructor
      · intro h
        cases h
      · intro ⟨h, _⟩
        exact absurd h hasked

/-- Only a clean answer of the probe replaces the stored status. -/
theorem clean_of_authoritative {r : Request} {latest : Option Snapshot} {e : Evidence}
    (h : (probeReading r latest e).authoritative = true) :
    (probeReading r latest e).clean = true := by
  unfold probeReading at h ⊢
  rcases he : e.probe with _ | answer
  · rw [he] at h
    exact h
  · rw [he] at h
    simp only at h ⊢
    split at h
    · rw [if_pos ‹_›]
      rcases answer with f | p
      · exact h
      · exact decide_eq_true (of_decide_eq_true h).1
    · cases h

theorem storageErrors_subset {r : Request} {latest : Option Snapshot} {e : Evidence}
    (h : (probeReading r latest e).reconciliationStorageErrors ≠ []) :
    (probeReading r latest e).queryErrors ≠ [] := by
  unfold probeReading at h ⊢
  rcases he : e.probe with _ | answer
  · rw [he] at h
    exact h
  · rw [he] at h
    simp only at h ⊢
    split at h
    · rw [if_pos ‹_›]
      rcases answer with f | p
      · exact List.cons_ne_nil _ _
      · exact absurd rfl h
    · exact absurd rfl h

/-- The errors that count as local are among all errors. -/
theorem queryErrors_of_local {r : Request} {latest : Option Snapshot} {e : Evidence}
    (h : localExposureErrors r e ≠ [] ∨
      errorOf "reconciliation" e.events ++
        (probeReading r latest e).reconciliationStorageErrors ≠ [] ∨
      errorOf "kill_switch" e.killSwitch ≠ []) : queryErrors r latest e ≠ [] := by
  unfold queryErrors
  simp only [append_ne_nil] at h ⊢
  rcases h with h | (h | h) | h
  · exact .inl (.inl (.inl (.inl h)))
  · exact .inl (.inl (.inl (.inr h)))
  · exact .inr (storageErrors_subset h)
  · exact .inl (.inl (.inr h))

/-- An unresolved reconciliation: the stored status decides, unless the probe is clean. -/
theorem unresolved_iff {r : Request} {latest : Option Snapshot} {e : Evidence} :
    (priorUnclean latest &&
      !cleanReconciliationStatuses.contains
        (if (probeReading r latest e).authoritative then "CLEAN" else storedStatus e) &&
      !(probeReading r latest e).clean) = true ↔
    priorUnclean latest = true ∧ StoredUnclean e ∧ (probeReading r latest e).clean = false := by
  simp only [Bool.and_eq_true, Bool.not_eq_true', and_assoc, StoredUnclean]
  refine and_congr_right fun _ => and_congr_left fun hclean => ?_
  have hauthoritative : (probeReading r latest e).authoritative ≠ true := by
    intro h
    rw [clean_of_authoritative h] at hclean
    cases hclean
  rw [if_neg hauthoritative]

/-- **The evaluation blocks exactly where there is a cause.** -/
theorem blocked_iff {r : Request} {latest : Option Snapshot} {e : Evidence} :
    (evaluateFrom r latest e).blocked = true ↔ Cause r latest e := by
  simp only [evaluateFrom, decide_eq_true_eq]
  rw [unresolved_iff]
  constructor
  · intro h
    rcases h with h | (h | ⟨hu, h⟩ | h | h | h | h | ⟨⟨hu, hs, h⟩, _⟩) | ⟨hl, hu⟩ | ⟨hs, hu⟩ | h
    · exact .unreadable (queryErrors_ne_nil.mp h)
    · exact .position h
    · exact .pendingOrder hu h
    · exact .orphanOrder h
    · exact .orphanPosition h
    · exact .killSwitch h
    · exact .unreadable (queryErrors_ne_nil.mp (queryErrors_of_local h))
    · exact .unresolved hu hs h
    · exact .strictLive hu hl
    · exact .sameCampaign hu hs
    · exact .process h
  · intro h
    rcases h with h | h | ⟨hu, h⟩ | h | h | h | ⟨hu, hs, h⟩ | ⟨hu, h⟩ | ⟨hu, h⟩ | h
    · exact .inl (queryErrors_ne_nil.mpr h)
    · exact .inr (.inl (.inl h))
    · exact .inr (.inl (.inr (.inl ⟨hu, h⟩)))
    · exact .inr (.inl (.inr (.inr (.inl h))))
    · exact .inr (.inl (.inr (.inr (.inr (.inl h)))))
    · exact .inr (.inl (.inr (.inr (.inr (.inr (.inl h))))))
    · -- a missing provider alone is no global risk, but it is an error
      by_cases herrors : queryErrors r latest e = []
      · refine .inr (.inl (.inr (.inr (.inr (.inr (.inr (.inr ⟨⟨hu, hs, h⟩, ?_⟩)))))))
        rintro ⟨hsome, hperm⟩
        rw [herrors] at hperm
        exact hsome hperm.eq_nil
      · exact .inl herrors
    · exact .inr (.inr (.inl ⟨h, hu⟩))
    · exact .inr (.inr (.inr (.inl ⟨h, hu⟩)))
    · exact .inr (.inr (.inr (.inr h)))

end AlphaForge.Recovery
