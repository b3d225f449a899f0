/-
  File:      AlphaForge/Lifecycle/Readiness.lean
  Subject:   `_check_lifecycle` of the readiness evaluator, over the rows that the runtime's events
             leave in `trade_lifecycle_events`.

  * `checkLifecycle` -- the check over the rows in the order the database answers them.
  * `Healthy` -- what the contract asks of the events in the order of emission.
  * `passes_iff` -- what the check asks of the rows.
  * **`readiness_agrees_iff`** -- when the two agree, whatever the order among equal times.
  * `closed_trade_blocked` -- a filled and closed trade fails `entry_exit_completeness`.

  A row keeps the state and the time of its event. The scope of the query is left out: the rows are
  those in scope.
-/
import Mathlib.Data.List.Chain
import Mathlib.Data.String.Basic
import AlphaForge.Lib.Arrangement
import AlphaForge.Lib.Occurrences
import AlphaForge.Lifecycle.Emission

namespace AlphaForge.Lifecycle

open AlphaForge.Lib
open AlphaForge.Runtime (ExecutionMode)

/-! ## 1. The check -/

/-- A row of `trade_lifecycle_events`, as far as the check reads it. -/
structure LifecycleRow where
  signalId : String
  lifecycleState : LifecycleEvent
  eventTs : Nat
  rejectReason : Option String
  deriving DecidableEq, Repr

structure CheckResult where
  name : String
  passed : Bool
  detail : String
  deriving DecidableEq, Repr

/-- The `terminal_states` of the check. -/
def terminalStates : List LifecycleEvent :=
  [.tpHit, .slHit, .cancelled, .openAtEnd, .runtimeProtectiveExit]

/-- `by_signal.values()`. -/
def bySignal (rows : List LifecycleRow) : List (List LifecycleRow) :=
  (firsts [] (rows.map LifecycleRow.signalId)).map fun sid => group LifecycleRow.signalId sid rows

def Orphan (events : List LifecycleRow) : Prop :=
  ∃ first ∈ events.head?, first.lifecycleState ≠ .signalCreated

instance (events : List LifecycleRow) : Decidable (Orphan events) := by
  unfold Orphan
  infer_instance

/-- The loop over `range(1, len(events))`. -/
def invalidTransitions : List LifecycleRow → Nat
  | a :: b :: events =>
    (if b.lifecycleState ∉ allowedLifecycleTransitions a.lifecycleState then 1 else 0) +
      invalidTransitions (b :: events)
  | _ => 0

def lifecycleErrors (events : List LifecycleRow) : Nat :=
  events.countP fun event => event.lifecycleState ∈ [LifecycleEvent.error, .executionError]

/-- A rejection, and none with a reason. -/
def rejectMissing (events : List LifecycleRow) : Bool :=
  let rejected := events.filter fun event => event.lifecycleState = .signalRejected
  !rejected.isEmpty && !rejected.any fun event => strip (event.rejectReason.getD "") ≠ ""

/-- A triggered entry, and no terminal state. -/
def exitMissing (events : List LifecycleRow) : Bool :=
  (events.any fun event => event.lifecycleState = .entryTriggered) &&
    !events.any fun event => event.lifecycleState ∈ terminalStates

/-- `_check_lifecycle`. -/
def checkLifecycle (rows : List LifecycleRow) : List CheckResult :=
  let signals := bySignal rows
  let orphans := signals.countP fun events => Orphan events
  let invalid := (signals.map invalidTransitions).sum
  let errors := (signals.map lifecycleErrors).sum
  let reject := signals.countP rejectMissing
  let exit := signals.countP exitMissing
  [{ name := "lifecycle_no_orphans"
     passed := orphans = 0
     detail := "orphan_signals=" ++ toString orphans },
    { name := "lifecycle_transitions_valid"
      passed := invalid = 0
      detail := "invalid_transitions=" ++ toString invalid },
    { name := "lifecycle_error_free"
      passed := errors = 0
      detail := "lifecycle_errors=" ++ toString errors },
    { name := "rejected_has_reason"
      passed := reject = 0
      detail := "missing_reject_reason=" ++ toString reject },
    { name := "entry_exit_completeness"
      passed := exit = 0
      detail := "missing_exit=" ++ toString exit }]

/-- The orphan, transition, error and exit-completeness checks pass. -/
def Passes (rows : List LifecycleRow) : Prop :=
  ∀ r ∈ checkLifecycle rows, r.name ≠ "rejected_has_reason" → r.passed = true

instance (rows : List LifecycleRow) : Decidable (Passes rows) := by
  unfold Passes
  infer_instance

/-! ## 2. The rows of a history -/

/-- `canonical_reject_reason`. -/
def canonicalRejectReason (raw : Option String) : String :=
  let value := upper (strip (raw.getD ""))
  if value = "" then "UNKNOWN" else value

/-- The row of an event. -/
def EventPayload.row (p : EventPayload) : LifecycleRow where
  signalId := p.signalId
  lifecycleState := p.lifecycleState
  eventTs := p.timestamp
  rejectReason := some (canonicalRejectReason
    ((truthy (p.details.fields.lookup "reject_reason")).or (p.details.fields.lookup "reason")))

/-- The rows of a log, in the order of emission. -/
def persistedRows (log : List LogEntry) : List LifecycleRow :=
  log.filterMap fun
    | .recorded p => some p.row
    | .restarted _ => none

/-- An order in which `ORDER BY signal_id, event_ts` may answer the rows of a log. -/
abbrev Answers (log : List LogEntry) (rows : List LifecycleRow) : Prop :=
  Arranged LifecycleRow.signalId LifecycleRow.eventTs (persistedRows log) rows

/-- The rows of one signal. -/
abbrev signalRows (signal : String) (rows : List LifecycleRow) : List LifecycleRow :=
  group LifecycleRow.signalId signal rows

/-- The states of one signal in the order of the rows. -/
def rowStates (signal : String) (rows : List LifecycleRow) : List LifecycleEvent :=
  (signalRows signal rows).map LifecycleRow.lifecycleState

/-- The signals of a log. -/
def loggedSignals (log : List LogEntry) : List String :=
  (persistedRows log).map LifecycleRow.signalId

/-! ## 3. What the contract asks -/

/-- A state that ends an entry: rejected, timed out, cancelled or closed. -/
def LifecycleEvent.Ends (event : LifecycleEvent) : Prop :=
  (legacyLifecycleEventMap event).getD event ∈
    [LifecycleEvent.signalRejected, .symbolRejected, .orderRejected, .entryTimeout, .cancelled,
      .positionClosed]

instance (event : LifecycleEvent) : Decidable event.Ends := inferInstanceAs (Decidable (_ ∈ _))

/-- Every triggered entry has reached a state that ends it. -/
def Completed : List LifecycleEvent → Prop
  | [] => True
  | e :: states => (e = .entryTriggered → ∃ x ∈ states, x.Ends) ∧ Completed states

instance decidableCompleted : ∀ states, Decidable (Completed states)
  | [] => isTrue trivial
  | _ :: states => @instDecidableAnd _ _ _ (decidableCompleted states)

/-- The states begin at `SIGNAL_CREATED`. -/
def StartsCreated (states : List LifecycleEvent) : Prop := ∀ e ∈ states.head?, e = .signalCreated

instance (states : List LifecycleEvent) : Decidable (StartsCreated states) := by
  unfold StartsCreated
  infer_instance

/-- A path of the contract without an `ERROR`. -/
def ContractPath (states : List LifecycleEvent) : Prop :=
  StartsCreated states ∧ states.IsChain (fun a b => validateTransition (some a) b = true) ∧
    LifecycleEvent.error ∉ states

instance (states : List LifecycleEvent) : Decidable (ContractPath states) := by
  unfold ContractPath
  infer_instance

/-- Every signal's events are a path of the contract. -/
def Paths (log : List LogEntry) : Prop :=
  ∀ signal ∈ loggedSignals log, ContractPath (rowStates signal (persistedRows log))

/-- Every triggered entry has ended. -/
def Finished (log : List LogEntry) : Prop :=
  ∀ signal ∈ loggedSignals log, Completed (rowStates signal (persistedRows log))

/-- **What the contract asks of a history.** -/
def Healthy (log : List LogEntry) : Prop := Paths log ∧ Finished log

instance (log : List LogEntry) : Decidable (Healthy log) := by
  unfold Healthy Paths Finished
  infer_instance

/-! ## 4. What the check asks -/

/-- The states of one signal, as the check reads them: begun, allowed, without errors. -/
def Legible (states : List LifecycleEvent) : Prop :=
  StartsCreated states ∧ states.IsChain (fun a b => b ∈ allowedLifecycleTransitions a) ∧
    ∀ e ∈ states, e ∉ [LifecycleEvent.error, .executionError]

/-- A triggered entry comes with one of `terminalStates`. -/
def Exited (states : List LifecycleEvent) : Prop :=
  .entryTriggered ∈ states → ∃ e ∈ states, e ∈ terminalStates

theorem invalidTransitions_eq_zero (events : List LifecycleRow) :
    invalidTransitions events = 0 ↔
      (events.map LifecycleRow.lifecycleState).IsChain
        fun a b => b ∈ allowedLifecycleTransitions a := by
  induction events with
  | nil => exact iff_of_true rfl .nil
  | cons a events ih =>
    cases events with
    | nil => exact iff_of_true rfl (.singleton _)
    | cons b events =>
      unfold invalidTransitions
      simp only [List.map_cons, Nat.add_eq_zero_iff, ih, List.isChain_cons_cons]
      simp

theorem exitMissing_eq_false (events : List LifecycleRow) :
    exitMissing events = false ↔ Exited (events.map LifecycleRow.lifecycleState) := by
  unfold exitMissing Exited
  rw [Bool.and_eq_false_imp]
  simp only [List.any_eq_true, decide_eq_true_eq, Bool.not_eq_false', List.mem_map]
  constructor
  · intro h ⟨e, he, hstate⟩
    obtain ⟨x, hx, hterminal⟩ := h ⟨e, he, hstate⟩
    exact ⟨_, ⟨x, hx, rfl⟩, hterminal⟩
  · intro h ⟨e, he, hstate⟩
    obtain ⟨_, ⟨x, hx, rfl⟩, hterminal⟩ := h ⟨e, he, hstate⟩
    exact ⟨x, hx, hterminal⟩

theorem mem_bySignal {rows events : List LifecycleRow} :
    events ∈ bySignal rows ↔
      ∃ signal ∈ rows.map LifecycleRow.signalId, events = signalRows signal rows := by
  unfold bySignal
  rw [List.mem_map]
  constructor
  · intro ⟨signal, hs, he⟩
    exact ⟨signal, (mem_firsts.mp hs).1, he.symm⟩
  · intro ⟨signal, hs, he⟩
    exact ⟨signal, mem_firsts.mpr ⟨hs, List.not_mem_nil⟩, he.symm⟩

/-- **What the check asks of the rows of every signal.** -/
theorem passes_iff (rows : List LifecycleRow) :
    Passes rows ↔ ∀ signal ∈ rows.map LifecycleRow.signalId,
      Legible (rowStates signal rows) ∧ Exited (rowStates signal rows) := by
  have hparts : Passes rows ↔ ∀ events ∈ bySignal rows,
      ¬ Orphan events ∧ invalidTransitions events = 0 ∧ lifecycleErrors events = 0 ∧
        exitMissing events = false := by
    simp only [Passes, checkLifecycle, List.forall_mem_cons, List.not_mem_nil, false_imp_iff,
      implies_true, ne_eq, String.reduceEq, not_false_eq_true, not_true_eq_false, forall_const,
      decide_eq_true_eq, List.countP_eq_zero, List.sum_eq_zero_iff_forall_eq_nat,
        List.forall_mem_map,
      true_and, and_true, Bool.not_eq_true]
    constructor
    · intro ⟨ho, hi, he, hx⟩ events hmem
      exact ⟨ho events hmem, hi events hmem, he events hmem, hx events hmem⟩
    · intro h
      exact ⟨fun events hmem => (h events hmem).1, fun events hmem => (h events hmem).2.1,
        fun events hmem => (h events hmem).2.2.1, fun events hmem => (h events hmem).2.2.2⟩
  have hstart : ∀ events : List LifecycleRow,
      ¬ Orphan events ↔ StartsCreated (events.map LifecycleRow.lifecycleState) := by
    intro events
    cases events with
    | nil => simp [Orphan, StartsCreated]
    | cons e events => simp [Orphan, StartsCreated]
  have herrors : ∀ events : List LifecycleRow, lifecycleErrors events = 0 ↔
      ∀ e ∈ events.map LifecycleRow.lifecycleState,
        e ∉ [LifecycleEvent.error, .executionError] := by
    intro events
    unfold lifecycleErrors
    rw [List.countP_eq_zero, List.forall_mem_map]
    simp only [decide_eq_true_eq]
  rw [hparts]
  constructor
  · intro h signal hs
    obtain ⟨ho, hi, he, hx⟩ := h _ (mem_bySignal.mpr ⟨signal, hs, rfl⟩)
    exact ⟨⟨(hstart _).mp ho, (invalidTransitions_eq_zero _).mp hi, (herrors _).mp he⟩,
      (exitMissing_eq_false _).mp hx⟩
  · intro h events hmem
    obtain ⟨signal, hs, rfl⟩ := mem_bySignal.mp hmem
    obtain ⟨⟨ho, hi, he⟩, hx⟩ := h signal hs
    exact ⟨(hstart _).mpr ho, (invalidTransitions_eq_zero _).mpr hi, (herrors _).mpr he,
      (exitMissing_eq_false _).mpr hx⟩

/-! ## 5. Contract and check, state by state -/

/-- Canonical names only. -/
def Spelled (states : List LifecycleEvent) : Prop := ∀ e ∈ states, e ∈ canonicalLifecycleEvents

/-- A signal that triggered was cancelled at some time. -/
def Cancelled (states : List LifecycleEvent) : Prop :=
  .entryTriggered ∈ states → .cancelled ∈ states

/-- What holds of `SIGNAL_CREATED` and is kept by every step holds along a path that begins
    there. -/
theorem chain_from_created {R : LifecycleEvent → LifecycleEvent → Prop} {p : LifecycleEvent → Prop}
    {states : List LifecycleEvent} (hstart : StartsCreated states) (hchain : states.IsChain R)
    (hcarry : ∀ a b, R a b → p a → p b) (hcreated : p .signalCreated) : ∀ e ∈ states, p e := by
  refine hchain.induction p states (fun a b hab ha => hcarry a b hab ha) fun hne => ?_
  rw [hstart _ (List.head?_eq_some_head hne)]
  exact hcreated

theorem legible_spelled {states : List LifecycleEvent} (h : Legible states) : Spelled states :=
  chain_from_created h.1 h.2.1 (fun _ _ hab ha => allowed_canonical ha hab) (by decide)

/-- **With canonical names the check reads every path of the contract.** -/
theorem path_legible {states : List LifecycleEvent} (h : ContractPath states)
    (hs : Spelled states) : Legible states := by
  refine ⟨h.1, ?_, fun e he => ?_⟩
  · refine h.2.1.imp_of_mem_imp fun a b ha hb hab => ?_
    exact (validateTransition_iff_allowed (hs a ha) (hs b hb)).mp hab
  · have hcanonical := hs e he
    have herror : e ≠ .error := fun heq => h.2.2 (heq ▸ he)
    simp only [List.mem_cons, List.not_mem_nil, or_false, not_or]
    refine ⟨herror, fun heq => ?_⟩
    rw [heq] at hcanonical
    revert hcanonical
    decide

/-- What the check reads is a path of the contract. -/
theorem legible_path {states : List LifecycleEvent} (h : Legible states) : ContractPath states := by
  have hs := legible_spelled h
  refine ⟨h.1, ?_, fun herror => h.2.2 _ herror (by decide)⟩
  refine h.2.1.imp_of_mem_imp fun a b ha hb hab => ?_
  exact (validateTransition_iff_allowed (hs a ha) (hs b hb)).mpr hab

/-- Of the check's terminal states only `CANCELLED` is a canonical name. -/
theorem exited_iff_cancelled {states : List LifecycleEvent} (hs : Spelled states) :
    Exited states ↔ Cancelled states := by
  have honly : ∀ e ∈ canonicalLifecycleEvents, e ∈ terminalStates → e = .cancelled := by decide
  constructor
  · intro h ht
    obtain ⟨e, he, hterminal⟩ := h ht
    exact honly e (hs e he) hterminal ▸ he
  · intro h ht
    exact ⟨.cancelled, h ht, by decide⟩

/-- Two states that lead to each other, with a state that leads to both: there are none. -/
theorem no_swap : ∀ p a b : LifecycleEvent, a ∈ allowedLifecycleTransitions p →
    b ∈ allowedLifecycleTransitions p → p ∈ canonicalLifecycleEvents →
    b ∈ allowedLifecycleTransitions a → a ∉ allowedLifecycleTransitions b := by
  have hcreated : ∀ p ∈ canonicalLifecycleEvents,
      .signalCreated ∈ allowedLifecycleTransitions p →
        ∀ x ∈ allowedLifecycleTransitions p, x = .signalCreated := by decide
  have htwo : ∀ a ∈ canonicalLifecycleEvents, ∀ b ∈ allowedLifecycleTransitions a,
      a ∈ allowedLifecycleTransitions b → a = .signalCreated ∨ b = .signalCreated := by decide
  have hself : LifecycleEvent.signalCreated ∉ allowedLifecycleTransitions .signalCreated := by
    decide
  intro p a b ha hb hp hab hba
  have hac : a ∈ canonicalLifecycleEvents := allowed_canonical hp ha
  have hboth : a = .signalCreated ∧ b = .signalCreated := by
    rcases htwo a hac b hab hba with rfl | rfl
    · exact ⟨rfl, hcreated p hp ha b hb⟩
    · exact ⟨hcreated p hp hb a ha, rfl⟩
  rw [hboth.1, hboth.2] at hab
  exact hself hab

/-- **Two neighbours of a legible list that change places make it illegible.** -/
theorem swap_illegible {before after : List LifecycleEvent} {a b : LifecycleEvent}
    (h : Legible (before ++ a :: b :: after)) : ¬ Legible (before ++ b :: a :: after) := by
  intro hswap
  have hs := legible_spelled h
  have hab : b ∈ allowedLifecycleTransitions a := (List.isChain_append_cons_cons.mp h.2.1).2.1
  have hba : a ∈ allowedLifecycleTransitions b := (List.isChain_append_cons_cons.mp hswap.2.1).2.1
  rcases List.eq_nil_or_concat before with rfl | ⟨front, p, rfl⟩
  · -- both begin: no transition leads from `SIGNAL_CREATED` to itself
    have ha : a = .signalCreated := h.1 a rfl
    have hb : b = .signalCreated := hswap.1 b rfl
    rw [ha, hb] at hab
    revert hab
    decide
  · have hpa := h.2.1
    have hpb := hswap.2.1
    rw [List.concat_append] at hpa hpb
    have hp : p ∈ canonicalLifecycleEvents := hs p (by simp)
    exact no_swap p a b (List.isChain_append_cons_cons.mp hpa).2.1
      (List.isChain_append_cons_cons.mp hpb).2.1 hp hab hba

/-! ## 6. The answers of the database -/

section Answers

variable {log : List LogEntry} {rows : List LifecycleRow}

/-- The rows are in the order of time. -/
def Ascends (log : List LogEntry) : Prop :=
  (persistedRows log).Pairwise fun a b => a.eventTs ≤ b.eventTs

/-- No two events of the signal share a second. -/
def StrictlyTimed (signal : String) (log : List LogEntry) : Prop :=
  (signalRows signal (persistedRows log)).Pairwise fun a b => a.eventTs < b.eventTs

theorem rowStates_perm (h : Answers log rows) (signal : String) :
    (rowStates signal rows).Perm (rowStates signal (persistedRows log)) :=
  (group_perm h signal).map _

theorem spelled_perm {a b : List LifecycleEvent} (h : a.Perm b) (hs : Spelled a) : Spelled b :=
  fun e he => hs e (h.mem_iff.mpr he)

/-- **What the check asks of an answer, in terms of the log.** -/
theorem answer_passes_iff (h : Answers log rows) :
    Passes rows ↔ ∀ signal ∈ loggedSignals log,
      Legible (rowStates signal rows) ∧ Cancelled (rowStates signal (persistedRows log)) := by
  have hsignals : ∀ signal, signal ∈ rows.map LifecycleRow.signalId ↔ signal ∈ loggedSignals log :=
    fun signal => (h.1.map LifecycleRow.signalId).mem_iff
  have hcancelled : ∀ signal, Cancelled (rowStates signal rows) ↔
      Cancelled (rowStates signal (persistedRows log)) := by
    intro signal
    unfold Cancelled
    rw [(rowStates_perm h signal).mem_iff, (rowStates_perm h signal).mem_iff]
  rw [passes_iff]
  constructor
  · intro hpass signal hs
    obtain ⟨hlegible, hexit⟩ := hpass signal ((hsignals signal).mpr hs)
    exact ⟨hlegible,
      (hcancelled signal).mp ((exited_iff_cancelled (legible_spelled hlegible)).mp hexit)⟩
  · intro hpass signal hs
    obtain ⟨hlegible, hcancel⟩ := hpass signal ((hsignals signal).mp hs)
    exact ⟨hlegible,
      (exited_iff_cancelled (legible_spelled hlegible)).mpr ((hcancelled signal).mpr hcancel)⟩

/-- Some answer keeps the order of emission. -/
theorem answer_emission (h : Ascends log) :
    ∃ rows, Answers log rows ∧
      ∀ signal, rowStates signal rows = rowStates signal (persistedRows log) := by
  have hascends : ∀ k, (group LifecycleRow.signalId k (persistedRows log)).Pairwise
      fun a b => a.eventTs ≤ b.eventTs := fun k => List.Pairwise.filter _ h
  obtain ⟨rows, hrows, hkeep⟩ := exists_arranged hascends
  exact ⟨rows, hrows, fun signal => congrArg (List.map _) (hkeep signal)⟩

/-- A signal without shared seconds is answered in the order of emission. -/
theorem answer_strict (h : Answers log rows) {signal : String} (ht : StrictlyTimed signal log) :
    rowStates signal rows = rowStates signal (persistedRows log) :=
  congrArg (List.map _) (arranged_group_eq h ht)

/-- **Where two events of a signal share a second, some answer is illegible.** -/
theorem answer_illegible (h : Ascends log) {signal : String}
    (hlegible : Legible (rowStates signal (persistedRows log)))
    (ht : ¬ StrictlyTimed signal log) :
    ∃ rows, Answers log rows ∧ ¬ Legible (rowStates signal rows) := by
  have hsorted : ∀ k, (signalRows k (persistedRows log)).Pairwise
    fun a b => a.eventTs ≤ b.eventTs :=
    fun k => List.Pairwise.filter _ h
  have hchain : ¬ (signalRows signal (persistedRows log)).IsChain
      fun a b => a.eventTs < b.eventTs := by
    intro hchain
    have : IsTrans LifecycleRow fun a b => a.eventTs < b.eventTs := ⟨fun _ _ _ => lt_trans⟩
    exact ht (List.isChain_iff_pairwise.mp hchain)
  rw [List.isChain_iff_forall_rel_of_append_cons_cons] at hchain
  push Not at hchain
  obtain ⟨a, b, before, after, hsplit, hle⟩ := hchain
  have hperm : (before ++ b :: a :: after).Perm (signalRows signal (persistedRows log)) := by
    rw [hsplit]
    exact (List.Perm.swap a b after).append_left before
  have hswapped : (before ++ b :: a :: after).Pairwise fun a b => a.eventTs ≤ b.eventTs := by
    have hown := hsorted signal
    rw [hsplit, List.pairwise_append, List.pairwise_cons, List.pairwise_cons] at hown
    obtain ⟨hbefore, ⟨ha, hb, hafter⟩, hcross⟩ := hown
    have htie : a.eventTs = b.eventTs := le_antisymm (ha b List.mem_cons_self) hle
    rw [List.pairwise_append, List.pairwise_cons, List.pairwise_cons]
    refine ⟨hbefore, ⟨?_, fun x hx => htie ▸ hb x hx, hafter⟩, ?_⟩
    · intro x hx
      rcases List.mem_cons.mp hx with rfl | hx
      · exact htie.ge
      · exact hb x hx
    · intro x hx y hy
      exact hcross x hx y ((List.Perm.swap a b after).mem_iff.mp hy)
  obtain ⟨rows, hrows, hown⟩ := exists_arranged_group hsorted signal hperm hswapped
  refine ⟨rows, hrows, ?_⟩
  have hstates : rowStates signal rows = (before.map LifecycleRow.lifecycleState) ++
      b.lifecycleState :: a.lifecycleState :: after.map LifecycleRow.lifecycleState := by
    unfold rowStates signalRows
    rw [hown]
    simp
  rw [hstates]
  refine swap_illegible ?_
  unfold rowStates at hlegible
  rw [hsplit] at hlegible
  simpa using hlegible

end Answers

/-! ## 7. When the check agrees with the contract -/

/-- One process wrote the log. -/
def Unbroken (log : List LogEntry) : Prop := ∀ signals, LogEntry.restarted signals ∉ log

/-- The states of one process: the first is a transition from `state`, each later one from the one
    before it, or it is an `ERROR`. -/
theorem follows_states {signal : String} {log : List LogEntry} (state : Option LifecycleEvent)
    (hone : Unbroken log) (h : Follows signal state log) :
    (∀ e ∈ (rowStates signal (persistedRows log)).head?,
      validateTransition state e = true ∨ e = .error) ∧
    (rowStates signal (persistedRows log)).IsChain
      fun a b => validateTransition (some a) b = true ∨ b = .error := by
  induction log generalizing state with
  | nil => exact ⟨fun e he => (Option.not_mem_none e he).elim, List.IsChain.nil⟩
  | cons entry log ih =>
    have hone' : Unbroken log := fun signals hmem => hone signals (List.mem_cons_of_mem _ hmem)
    cases entry with
    | restarted signals => exact absurd List.mem_cons_self (hone signals)
    | recorded p =>
      unfold Follows at h
      by_cases hs : p.signalId = signal
      · rw [if_pos hs] at h
        obtain ⟨hprevious, hrecord, hrest⟩ := h
        obtain ⟨hhead, htail⟩ := ih _ hone' hrest
        have hstates : rowStates signal (persistedRows (.recorded p :: log)) =
            p.lifecycleState :: rowStates signal (persistedRows log) := by
          simp [rowStates, signalRows, group, persistedRows, EventPayload.row, hs]
        rw [hstates]
        refine ⟨fun e he => ?_, List.isChain_cons.mpr ⟨hhead, htail⟩⟩
        rw [← Option.some.inj (Option.mem_def.mp he), ← hprevious]
        exact hrecord.imp_right And.left
      · rw [if_neg hs] at h
        have hstates : rowStates signal (persistedRows (.recorded p :: log)) =
            rowStates signal (persistedRows log) := by
          simp [rowStates, signalRows, group, persistedRows, EventPayload.row, hs]
        rw [hstates]
        exact ih state hone' h

/-- **In one process a signal that is no path of the contract is never legible**: it has an `ERROR`
    or begins at `ENTRY_PENDING`. -/
theorem broken_illegible {w : World} (h : Faithful w) (hone : Unbroken w.log) {signal : String}
    (hbroken : ¬ ContractPath (rowStates signal (persistedRows w.log))) {rows : List LifecycleRow}
    (hrows : Answers w.log rows) : ¬ Legible (rowStates signal rows) := by
  intro hlegible
  have hspelled := spelled_perm (rowStates_perm hrows signal) (legible_spelled hlegible)
  have herror : LifecycleEvent.error ∉ rowStates signal (persistedRows w.log) := fun hmem =>
    hlegible.2.2 _ ((rowStates_perm hrows signal).mem_iff.mpr hmem) (by decide)
  obtain ⟨hhead, hchain⟩ := follows_states none hone (h signal).1
  refine hbroken ⟨fun e he => ?_, ?_, herror⟩
  · have hmem := List.mem_of_mem_head? he
    rcases hhead e he with hvalid | rfl
    · have hfirst : ∀ e ∈ canonicalLifecycleEvents, validateTransition none e = true →
          e = .signalCreated := by decide
      exact hfirst e (hspelled e hmem) hvalid
    · exact absurd hmem herror
  · refine hchain.imp_of_mem_imp fun a b _ hb hab => ?_
    exact hab.resolve_right fun heq => herror (heq ▸ hb)

/-- The histories on which the check agrees with the contract, whatever the answer. Across a restart
    a signal that is no path may still be answered as one. -/
def AgreesWhen (log : List LogEntry) : Prop :=
  (Healthy log ∧ ∀ signal ∈ loggedSignals log,
    StrictlyTimed signal log ∧ Spelled (rowStates signal (persistedRows log)) ∧
      Cancelled (rowStates signal (persistedRows log))) ∨
  (Paths log ∧ ¬ Finished log ∧ ∃ signal ∈ loggedSignals log,
    ¬ Spelled (rowStates signal (persistedRows log)) ∨
      ¬ Cancelled (rowStates signal (persistedRows log))) ∨
  (¬ Paths log ∧ (Unbroken log ∨ ∀ rows, Answers log rows → ∃ signal ∈ loggedSignals log,
    ¬ Legible (rowStates signal rows) ∨ ¬ Cancelled (rowStates signal (persistedRows log))))

/-- A healthy history passes under every answer only if none of its signals can be misread. -/
theorem healthy_agrees {log : List LogEntry} (hasc : Ascends log) (h : Healthy log) :
    (∀ rows, Answers log rows → Passes rows) ↔
      ∀ signal ∈ loggedSignals log,
        StrictlyTimed signal log ∧ Spelled (rowStates signal (persistedRows log)) ∧
          Cancelled (rowStates signal (persistedRows log)) := by
  constructor
  · intro hpass signal hs
    obtain ⟨rows, hrows, hkeep⟩ := answer_emission hasc
    obtain ⟨hlegible, hcancel⟩ := (answer_passes_iff hrows).mp (hpass rows hrows) signal hs
    rw [hkeep] at hlegible
    refine ⟨?_, legible_spelled hlegible, hcancel⟩
    by_contra ht
    obtain ⟨rows', hrows', hillegible⟩ := answer_illegible hasc hlegible ht
    exact hillegible ((answer_passes_iff hrows').mp (hpass rows' hrows') signal hs).1
  · intro hread rows hrows
    refine (answer_passes_iff hrows).mpr fun signal hs => ?_
    obtain ⟨ht, hspelled, hcancel⟩ := hread signal hs
    rw [answer_strict hrows ht]
    exact ⟨path_legible (h.1 signal hs) hspelled, hcancel⟩

/-- A history of paths fails under every answer only if a signal is misspelt or never cancelled. -/
theorem paths_fail {log : List LogEntry} (hasc : Ascends log) (h : Paths log) :
    (∀ rows, Answers log rows → ¬ Passes rows) ↔
      ∃ signal ∈ loggedSignals log,
        ¬ Spelled (rowStates signal (persistedRows log)) ∨
          ¬ Cancelled (rowStates signal (persistedRows log)) := by
  constructor
  · intro hfail
    by_contra hall
    push Not at hall
    obtain ⟨rows, hrows, hkeep⟩ := answer_emission hasc
    refine hfail rows hrows ((answer_passes_iff hrows).mpr fun signal hs => ?_)
    rw [hkeep]
    exact ⟨path_legible (h signal hs) (hall signal hs).1, (hall signal hs).2⟩
  · intro ⟨signal, hs, hbad⟩ rows hrows hpass
    obtain ⟨hlegible, hcancel⟩ := (answer_passes_iff hrows).mp hpass signal hs
    rcases hbad with hspelled | hnot
    · exact hspelled (spelled_perm (rowStates_perm hrows signal) (legible_spelled hlegible))
    · exact hnot hcancel

/-- A history that is no path fails under every answer where one process wrote it. -/
theorem broken_fails {w : World} (h : Faithful w) (hpaths : ¬ Paths w.log) :
    (∀ rows, Answers w.log rows → ¬ Passes rows) ↔
      Unbroken w.log ∨ ∀ rows, Answers w.log rows → ∃ signal ∈ loggedSignals w.log,
        ¬ Legible (rowStates signal rows) ∨
          ¬ Cancelled (rowStates signal (persistedRows w.log)) := by
  constructor
  · intro hfail
    refine Or.inr fun rows hrows => ?_
    by_contra hall
    push Not at hall
    exact hfail rows hrows ((answer_passes_iff hrows).mpr hall)
  · intro hcause rows hrows hpass
    have hread := (answer_passes_iff hrows).mp hpass
    rcases hcause with hone | hbad
    · apply hpaths
      intro signal hs
      by_contra hbroken
      exact broken_illegible h hone hbroken hrows (hread signal hs).1
    · obtain ⟨signal, hs, hbad⟩ := hbad rows hrows
      exact hbad.elim (fun hl => hl (hread signal hs).1) fun hc => hc (hread signal hs).2

theorem agrees_iff {w : World} (h : Faithful w) (hasc : Ascends w.log) :
    (∀ rows, Answers w.log rows → (Passes rows ↔ Healthy w.log)) ↔ AgreesWhen w.log := by
  unfold AgreesWhen
  by_cases hpaths : Paths w.log
  · by_cases hdone : Finished w.log
    · have hhealthy : Healthy w.log := ⟨hpaths, hdone⟩
      simp only [hhealthy, iff_true, healthy_agrees hasc hhealthy, true_and, hpaths, hdone,
        not_true_eq_false, false_and, and_false, or_false]
    · have hsick : ¬ Healthy w.log := fun h => hdone h.2
      simp only [hsick, iff_false, paths_fail hasc hpaths, false_and, hpaths, hdone,
        not_true_eq_false, not_false_eq_true, true_and, or_false, false_or]
  · have hsick : ¬ Healthy w.log := fun h => hpaths h.1
    simp only [hsick, iff_false, false_and, hpaths, not_false_eq_true, true_and, false_or,
      broken_fails h hpaths]

/-! ## 8. Histories of the runtime -/

/-- The rows are in the order of time, and none is later than the clock. -/
def InTime (w : World) : Prop :=
  Ascends w.log ∧ ∀ row ∈ persistedRows w.log, row.eventTs ≤ w.now

section Histories

variable (runtimeId : String → Details → String)

/-- **Every occurrence keeps the rows in the order of time.** -/
theorem inTime_step (w : World) (o : Occurrence) (h : InTime w) : InTime (step runtimeId w o) := by
  have hnoted : InTime (o.noted w) := by
    obtain ⟨_, _, hlog, hnow⟩ := noted_frame w o
    unfold InTime
    rw [hlog]
    exact ⟨h.1, fun row hrow => (h.2 row hrow).trans hnow⟩
  rcases step_cases runtimeId w o with ⟨positions, rfl⟩ | ⟨e, _, hstep⟩ | hstep
  · have hrows : persistedRows (w.restart positions).log = persistedRows w.log := by
      simp [World.restart, persistedRows]
    have hnow : (w.restart positions).now = w.now := rfl
    simp only [step, InTime, Ascends, hrows, hnow]
    exact h
  · obtain ⟨_, hnow, hlog⟩ := emit_frame runtimeId (o.noted w) e
    have hrows : persistedRows (emitLifecycleEvent runtimeId e (o.noted w)).log =
        persistedRows (o.noted w).log ++ [((o.noted w).eventPayload runtimeId e).row] := by
      rw [hlog]
      simp [persistedRows]
    rw [hstep]
    simp only [InTime, Ascends, hrows, hnow]
    refine ⟨List.pairwise_append.mpr ⟨hnoted.1, List.pairwise_singleton _ _, ?_⟩, ?_⟩
    · intro row hrow last hlast
      rw [List.mem_singleton.mp hlast]
      exact hnoted.2 row hrow
    · intro row hrow
      rcases List.mem_append.mp hrow with hold | hlast
      · exact hnoted.2 row hold
      · rw [List.mem_singleton.mp hlast]
        exact le_refl _
  · rw [hstep]
    exact hnoted

/-- **The check agrees with the contract on a history exactly when `AgreesWhen` says so.** -/
theorem readiness_agrees_iff (mode : ExecutionMode) (burninRunId campaignId : Option String)
    (run : List Occurrence) :
    let log := (history runtimeId mode burninRunId campaignId run).log
    (∀ rows, Answers log rows → (Passes rows ↔ Healthy log)) ↔ AgreesWhen log := by
  intro log
  have hstart : InTime (.initial mode burninRunId campaignId) :=
    ⟨List.Pairwise.nil, List.forall_mem_nil _⟩
  exact agrees_iff (faithful_history runtimeId mode burninRunId campaignId run)
    (run_invariant (inTime_step runtimeId) run _ hstart).1

/-- A filled and closed trade, a minute for each event: healthy, and blocked. -/
theorem closed_trade_blocked :
    let w := history sampleId .paper (some "run-1") (some "campaign-1")
      ((sampleFill ++ [Occurrence.event sampleClose]).flatMap fun o => [.pass 60, o])
    Answers w.log (persistedRows w.log) ∧ Healthy w.log ∧ ¬ Passes (persistedRows w.log) := by
  decide +kernel

end Histories

end AlphaForge.Lifecycle
