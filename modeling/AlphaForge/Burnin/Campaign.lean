/-
  File:      AlphaForge/Burnin/Campaign.lean
  Subject:   `burnin_campaign.py`: the continuation runs of a campaign. Three tables (campaign,
             runs, mapping) and the terminal causes, under the calls that start, mark, pause,
             terminalize and complete, and the runtime's own `_finalize_burnin_run`.

  * `Lawful`, `Frozen` -- what should hold in every state, and between a state and a later one.
  * `Orderly` -- the condition on a call and the state it meets.
  * **`orderly_runs_lawful`** -- every run of orderly calls is lawful, and freezes what has ended.
  * `disorderly_campaigns` -- three calls that are not orderly.

  A run is named by its continuation sequence. Every call is one transaction: an exception rolls it
  back. Events are left out: nothing here reads them.
-/
import AlphaForge.Lib.PyValues
import AlphaForge.Lib.Runs
import AlphaForge.Lib.Updates

namespace AlphaForge.Burnin.Campaign

open AlphaForge.Lib

/-! ## 1. The tables -/

/-- The statuses of campaigns and of runs. -/
inductive Status where
  | created
  | starting
  | running
  | paused
  | recoveryRequired
  | completed
  | failed
  | qualified
  | suspended
  deriving DecidableEq, Repr

/-- `STARTING` or `RUNNING`. -/
def activeStatuses : List Status := [.starting, .running]

/-- `FAILED` or `RECOVERY_REQUIRED`. -/
def terminalStatuses : List Status := [.failed, .recoveryRequired]

/-- A row of `burnin_runs`, and of `burnin_campaign_runs`: both keep the sequence, the status and
    the two times. -/
structure RunRow where
  sequence : Nat
  status : Status
  startedAt : Nat
  endedAt : Option Nat
  deriving DecidableEq, Repr

/-- The row of `burnin_campaigns`, as far as the calls read or write it. -/
structure CampaignRow where
  campaignStatus : Status
  activeRunId : Option Nat
  startedAt : Option Nat
  completedAt : Option Nat
  restartCount : Nat
  lastHeartbeatAt : Option Nat
  lastError : Option String
  workerPid : Option Nat
  workerStartedAt : Option Nat
  lastOperatorActivityAt : Option Nat
  deriving DecidableEq, Repr

/-- A row of `burnin_terminal_causes`. -/
structure TerminalCause where
  burninRunId : Option Nat
  terminalCause : String
  terminalCauseSource : String
  terminalAt : Nat
  runStatus : Status
  campaignStatus : Status
  deriving DecidableEq, Repr

structure State where
  campaign : CampaignRow
  runs : List RunRow
  mappings : List RunRow
  causes : List TerminalCause
  deriving DecidableEq, Repr

/-- A campaign as `create_campaign` leaves it. -/
def State.created : State where
  campaign :=
    { campaignStatus := .created
      activeRunId := none
      startedAt := none
      completedAt := none
      restartCount := 0
      lastHeartbeatAt := none
      lastError := none
      workerPid := none
      workerStartedAt := none
      lastOperatorActivityAt := none }
  runs := []
  mappings := []
  causes := []

/-! ## 2. The calls -/

/-- `WHERE burnin_run_id=:bid AND status IN (…)`. -/
def atStatus (bid : Nat) (from_ : List Status) (r : RunRow) : Bool :=
  r.sequence = bid ∧ r.status ∈ from_

/-- `SET status=:status, end_time=COALESCE(end_time,:ts)`; without a time the end stays. -/
def withStatus (status : Status) (ts : Option Nat) (r : RunRow) : RunRow :=
  { r with status := status, endedAt := r.endedAt.or ts }

/-- One of the updates of `burnin_runs` or `burnin_campaign_runs`. -/
def setStatus (bid : Nat) (from_ : List Status) (status : Status) (ts : Option Nat)
    (rows : List RunRow) : List RunRow :=
  updateWhere (atStatus bid from_) (withStatus status ts) rows

/-- The same update of both tables. -/
def State.setBoth (s : State) (bid : Nat) (from_ : List Status) (status : Status)
    (ts : Option Nat) : State :=
  { s with
    runs := setStatus bid from_ status ts s.runs
    mappings := setStatus bid from_ status ts s.mappings }

/-- `get_terminal_cause`. -/
def getTerminalCause (s : State) (run : Option Nat) : Option TerminalCause :=
  s.causes.find? fun cause => cause.burninRunId = run.or s.campaign.activeRunId

/-- `persist_terminal_cause`. -/
def persistTerminalCause (s : State) (cause : TerminalCause) : State :=
  match getTerminalCause s cause.burninRunId with
  | some _ => s
  | none => { s with causes := s.causes ++ [cause] }

/-- `COALESCE(MAX(continuation_sequence),-1)+1`. -/
def nextSequence (rows : List RunRow) : Nat := rows.foldl (fun m r => max m (r.sequence + 1)) 0

/-- What `start_or_resume_campaign` finds before it writes: everything in order; a reason to raise
    (no campaign, ambiguous or archived evidence, a release that is not valid, a live worker, a
    unique index); or a drifted hash, with a caller that commits the pause or rolls it back. -/
inductive StartCheck where
  | passes
  | refused (error : PyError)
  | drift (committed : Bool)
  deriving DecidableEq, Repr

/-- The cause of a continuation that a resume replaces. -/
def replacedCause (s : State) (old ts : Nat) : TerminalCause where
  burninRunId := some old
  terminalCause := "CONTINUATION_REPLACED_BY_RESUME"
  terminalCauseSource := "RECOVERY_REQUIRED"
  terminalAt := ts
  runStatus := .recoveryRequired
  campaignStatus := s.campaign.campaignStatus

/-- The old continuation on a resume. -/
def replaceOld (s : State) (old ts : Nat) : State :=
  if rowCount (atStatus old [.running]) s.runs ≠ 0 ∨
      rowCount (atStatus old [.running]) s.mappings ≠ 0 then
    persistTerminalCause (s.setBoth old [.running] .recoveryRequired (some ts))
      (replacedCause s old ts)
  else s.setBoth old [.running] .recoveryRequired (some ts)

/-- The new continuation. -/
def openRun (s : State) (resume : Bool) (ts : Nat) (seq : Nat) : State :=
  let row : RunRow := { sequence := seq, status := .running, startedAt := ts, endedAt := none }
  { s with
    runs := s.runs ++ [row]
    mappings := s.mappings ++ [row]
    campaign := { s.campaign with
      campaignStatus := .running
      startedAt := s.campaign.startedAt.or (some ts)
      activeRunId := some seq
      restartCount := s.campaign.restartCount + if resume then 1 else 0
      lastHeartbeatAt := some ts
      lastError := none } }

/-- `start_or_resume_campaign`. -/
def startOrResumeCampaign (s : State) (resume : Bool) (check : StartCheck) (ts : Nat) :
    Except PyError State :=
  match check with
  | .refused error => .error error
  | .drift committed =>
    if committed then
      .ok { s with campaign := { s.campaign with
        campaignStatus := .paused, lastError := some "CONFIG_DRIFT" } }
    else .error (.valueError "CONFIG_DRIFT")
  | .passes =>
    let seq := nextSequence s.mappings
    match s.campaign.activeRunId, resume with
    | some old, true => .ok (openRun (replaceOld s old ts) resume ts seq)
    | _, _ => .ok (openRun s resume ts seq)

/-- `_mark_starting` of the launcher. -/
def markStarting (s : State) (run : Nat) : State :=
  let s := s.setBoth run [.running] .starting none
  if s.campaign.campaignStatus = .running then
    { s with campaign := { s.campaign with campaignStatus := .starting } }
  else s

/-- `mark_attached_campaign_operational`. -/
def markAttachedCampaignOperational (s : State) (run : Nat) : Except PyError State :=
  if s.campaign.activeRunId ≠ some run then
    .error (.runtimeError "PHASE8_CAMPAIGN_OPERATIONAL_LINEAGE_MISMATCH")
  else if s.campaign.campaignStatus = .running then
    let consistent :=
      (s.runs.find? fun r => r.sequence = run).any (·.status = .running) &&
        (s.mappings.find? fun r => r.sequence = run).any (·.status = .running)
    if consistent then .ok s
    else .error (.runtimeError "PHASE8_CAMPAIGN_OPERATIONAL_TRANSITION_INCONSISTENT")
  else if s.campaign.campaignStatus ≠ .starting then
    .error (.runtimeError "PHASE8_CAMPAIGN_NOT_STARTING")
  else if rowCount (atStatus run [.starting]) s.runs ≠ 1 ∨
      rowCount (atStatus run [.starting]) s.mappings ≠ 1 then
    .error (.runtimeError "PHASE8_CAMPAIGN_OPERATIONAL_TRANSITION_DRIFT")
  else
    let s := s.setBoth run [.starting] .running none
    .ok { s with campaign := { s.campaign with campaignStatus := .running, lastError := none } }

/-- The statuses that a caller ends a run or a campaign with. -/
inductive ExitStatus where
  | paused
  | recoveryRequired
  | completed
  | failed
  deriving DecidableEq, Repr

def ExitStatus.status : ExitStatus → Status
  | .paused => .paused
  | .recoveryRequired => .recoveryRequired
  | .completed => .completed
  | .failed => .failed

/-- Arguments of `terminalize_active_campaign_run`. -/
structure TerminalArgs where
  runStatus : ExitStatus
  campaignStatus : ExitStatus
  reason : String
  eventType : String
  clearWorkerMetadata : Bool
  deriving DecidableEq, Repr

def TerminalArgs.terminalTarget (a : TerminalArgs) : Prop :=
  a.runStatus.status ∈ terminalStatuses ∨ a.campaignStatus.status ∈ terminalStatuses

instance (a : TerminalArgs) : Decidable a.terminalTarget := inferInstanceAs (Decidable (_ ∨ _))

/-- The campaign or its active run is starting or running. -/
def State.transitioning (s : State) : Prop :=
  s.campaign.campaignStatus ∈ activeStatuses ∨
    ∃ run ∈ s.campaign.activeRunId, ∃ r ∈ s.runs.find? (fun r => r.sequence = run),
      r.status ∈ activeStatuses

instance (s : State) : Decidable s.transitioning := by
  unfold State.transitioning
  infer_instance

/-- The campaign row after `terminalize_active_campaign_run`. -/
def CampaignRow.terminalized (c : CampaignRow) (a : TerminalArgs) : CampaignRow :=
  let c' : CampaignRow :=
    { c with
      campaignStatus := a.campaignStatus.status
      lastError := some a.reason
      workerPid := if a.clearWorkerMetadata then none else c.workerPid
      workerStartedAt := if a.clearWorkerMetadata then none else c.workerStartedAt }
  if a.terminalTarget ∧ c.campaignStatus ∉ activeStatuses then c else c'

/-- `terminalize_active_campaign_run`. -/
def terminalizeActiveCampaignRun (s : State) (a : TerminalArgs) (ts : Nat) : State :=
  let run := s.campaign.activeRunId
  let s' := if a.terminalTarget ∧ s.transitioning then
      persistTerminalCause s
        { burninRunId := run
          terminalCause := a.reason
          terminalCauseSource := a.eventType
          terminalAt := ts
          runStatus := a.runStatus.status
          campaignStatus := a.campaignStatus.status }
    else s
  let s' := match run with
    | some run => s'.setBoth run activeStatuses a.runStatus.status (some ts)
    | none => s'
  { s' with campaign := s.campaign.terminalized a }

/-- `pause_campaign_for_provider_failure`. -/
def pauseCampaignForProviderFailure (s : State) (reason : String) (ts : Nat) : State :=
  if s.campaign.campaignStatus ∉ activeStatuses then s
  else
    terminalizeActiveCampaignRun s
      { runStatus := .paused
        campaignStatus := .paused
        reason := reason
        eventType := "CAMPAIGN_PAUSED"
        clearWorkerMetadata := false } ts

/-- `pause_campaign`. -/
def pauseCampaign (s : State) (ts : Nat) : State :=
  let s := match s.campaign.activeRunId with
    | some run => s.setBoth run [.running] .paused (some ts)
    | none => s
  { s with campaign := { s.campaign with
    campaignStatus := .paused, lastOperatorActivityAt := some ts } }

/-- `check_campaign_completion`, with its list of blockers. -/
def checkCampaignCompletion (s : State) (blockers : List String) (ts : Nat) : State :=
  if blockers = [] ∧ s.campaign.campaignStatus ∉ [Status.failed, .suspended] then
    { s with campaign := { s.campaign with
      campaignStatus := .completed, completedAt := s.campaign.completedAt.or (some ts) } }
  else s

/-- `_finalize_burnin_run` of a runtime whose run is `run`: `update_burnin_run_counters` writes the
    run's row only. -/
def finalizeBurninRun (s : State) (run : Option Nat) (status : ExitStatus) (ts : Nat) : State :=
  match run with
  | none => s
  | some run =>
    let ended (r : RunRow) : RunRow := { r with status := status.status, endedAt := some ts }
    { s with runs := updateWhere (atStatus run [.running]) ended s.runs }

inductive Call where
  | startOrResume (resume : Bool) (check : StartCheck) (ts : Nat)
  | markStarting (run : Nat)
  | markOperational (run : Nat)
  | terminalize (a : TerminalArgs) (ts : Nat)
  | pause (ts : Nat)
  | pauseForProviderFailure (reason : String) (ts : Nat)
  | checkCompletion (blockers : List String) (ts : Nat)
  | finalize (run : Option Nat) (status : ExitStatus) (ts : Nat)
  deriving DecidableEq, Repr

/-- One call, rolled back if it raises. -/
def step (s : State) : Call → State
  | .startOrResume resume check ts => ((startOrResumeCampaign s resume check ts).toOption).getD s
  | .markStarting run => markStarting s run
  | .markOperational run => ((markAttachedCampaignOperational s run).toOption).getD s
  | .terminalize a ts => terminalizeActiveCampaignRun s a ts
  | .pause ts => pauseCampaign s ts
  | .pauseForProviderFailure reason ts => pauseCampaignForProviderFailure s reason ts
  | .checkCompletion blockers ts => checkCampaignCompletion s blockers ts
  | .finalize run status ts => finalizeBurninRun s run status ts

/-! ## 3. What should hold -/

/-- Starting or running. -/
def RunRow.Active (r : RunRow) : Prop := r.status ∈ activeStatuses

instance (r : RunRow) : Decidable r.Active := inferInstanceAs (Decidable (_ ∈ _))

/-- Failed or in need of recovery. -/
def RunRow.Terminal (r : RunRow) : Prop := r.status ∈ terminalStatuses

instance (r : RunRow) : Decidable r.Terminal := inferInstanceAs (Decidable (_ ∈ _))

/-- The run has a terminal cause. -/
def State.Caused (s : State) (run : Nat) : Prop := ∃ c ∈ s.causes, c.burninRunId = some run

/-- What should hold in every state. -/
structure Lawful (s : State) : Prop where
  sequences : (s.runs.map RunRow.sequence).Nodup
  oneActive : ∀ r ∈ s.runs, ∀ r' ∈ s.runs, r.Active → r'.Active → r = r'
  activeRun : ∀ r ∈ s.runs, r.Active → s.campaign.activeRunId = some r.sequence
  sameStatus : s.mappings.map (fun r => (r.sequence, r.status)) =
    s.runs.map fun r => (r.sequence, r.status)
  oneCause : (s.causes.map TerminalCause.burninRunId).Nodup
  caused : ∀ r ∈ s.runs, s.Caused r.sequence ↔ r.Terminal

/-- Between a state and a later one: the rows of ended runs and the causes stay as they are. -/
structure Frozen (s s' : State) : Prop where
  runs : ∀ r ∈ s.runs, ¬ r.Active → r ∈ s'.runs
  mappings : ∀ r ∈ s.mappings, ¬ r.Active → r ∈ s'.mappings
  causes : ∀ c ∈ s.causes, c ∈ s'.causes

theorem Frozen.refl (s : State) : Frozen s s :=
  ⟨fun _ h _ => h, fun _ h _ => h, fun _ h => h⟩

theorem Frozen.trans {s s' s'' : State} (h : Frozen s s') (h' : Frozen s' s'') : Frozen s s'' :=
  ⟨fun r hr hn => h'.runs r (h.runs r hr hn) hn,
    fun r hr hn => h'.mappings r (h.mappings r hr hn) hn,
    fun c hc => h'.causes c (h.causes c hc)⟩

/-- The calls that keep the tables lawful: a start finds no starting run and resumes a running one;
    who fails a campaign fails its run; the runtime finalizes no running run. -/
def Orderly (s : State) : Call → Prop
  | .startOrResume resume check _ => check = .passes →
      ∀ r ∈ s.runs, r.status ≠ .starting ∧ (r.status = .running → resume = true)
  | .terminalize a _ => s.transitioning → a.campaignStatus.status ∈ terminalStatuses →
      a.runStatus.status ∈ terminalStatuses
  | .finalize run _ _ => ∀ r ∈ s.runs, run = some r.sequence → r.status ≠ .running
  | _ => True

instance (s : State) (call : Call) : Decidable (Orderly s call) := by
  cases call <;> unfold Orderly <;> infer_instance

/-! ## 4. The invariant -/

/-- The invariant of the rows: both tables are the same. -/
structure SoundRows (s : State) : Prop where
  same : s.mappings = s.runs
  sequences : (s.runs.map RunRow.sequence).Nodup
  activeRun : ∀ r ∈ s.runs, r.Active → s.campaign.activeRunId = some r.sequence
  oneCause : (s.causes.map TerminalCause.burninRunId).Nodup
  causeRun : ∀ c ∈ s.causes, ∃ r ∈ s.runs, c.burninRunId = some r.sequence
  caused : ∀ r ∈ s.runs, s.Caused r.sequence ↔ r.Terminal

/-- The invariant: besides, a campaign that is starting or running has a run that is. -/
structure Sound (s : State) : Prop extends SoundRows s where
  campaignActive : s.campaign.campaignStatus ∈ activeStatuses → ∃ r ∈ s.runs, r.Active

theorem sequence_inj {rows : List RunRow} (h : (rows.map RunRow.sequence).Nodup) {r r' : RunRow}
    (hr : r ∈ rows) (hr' : r' ∈ rows) (heq : r.sequence = r'.sequence) : r = r' :=
  List.inj_on_of_nodup_map h hr hr' heq

theorem Sound.lawful {s : State} (h : Sound s) : Lawful s where
  sequences := h.sequences
  oneActive := fun r hr r' hr' ha ha' => by
    have heq : some r.sequence = some r'.sequence :=
      (h.activeRun r hr ha).symm.trans (h.activeRun r' hr' ha')
    exact sequence_inj h.sequences hr hr' (Option.some.inj heq)
  activeRun := h.activeRun
  sameStatus := by rw [h.same]
  oneCause := h.oneCause
  caused := h.caused

theorem not_terminal_of_active {r : RunRow} (h : r.Active) : ¬ r.Terminal := by
  unfold RunRow.Active activeStatuses at h
  unfold RunRow.Terminal terminalStatuses
  simp only [List.mem_cons, List.not_mem_nil, or_false] at h
  rcases h with h | h
  · rw [h]
    decide
  · rw [h]
    decide

theorem created_sound : Sound State.created where
  same := rfl
  sequences := List.nodup_nil
  activeRun := fun _ hr => nomatch hr
  campaignActive := fun h => absurd h (by decide)
  oneCause := List.nodup_nil
  causeRun := fun _ hc => nomatch hc
  caused := fun _ hr => nomatch hr

/-! ## 5. Updates of both tables -/

section Moves

variable {s : State} {bid : Nat} {from_ : List Status} {status : Status} {ts : Option Nat}

theorem sequence_setStatus (rows : List RunRow) :
    (setStatus bid from_ status ts rows).map RunRow.sequence = rows.map RunRow.sequence :=
  map_updateWhere RunRow.sequence fun _ => rfl

/-- A row after the update is a matched row with the new status, or a row that was not matched. -/
theorem mem_setStatus {rows : List RunRow} {r' : RunRow} :
    r' ∈ setStatus bid from_ status ts rows ↔
      ∃ r ∈ rows, (r.sequence = bid ∧ r.status ∈ from_) ∧ r' = withStatus status ts r ∨
        ¬ (r.sequence = bid ∧ r.status ∈ from_) ∧ r' = r := by
  unfold setStatus
  rw [mem_updateWhere]
  simp only [atStatus, decide_eq_true_eq, decide_eq_false_iff_not]

/-- Only starting and running rows are matched: ended rows stay. -/
theorem frozen_setStatus (hfrom : ∀ x ∈ from_, x ∈ activeStatuses) {rows : List RunRow} {r : RunRow}
    (hr : r ∈ rows) (hn : ¬ r.Active) : r ∈ setStatus bid from_ status ts rows :=
  mem_setStatus.mpr ⟨r, hr, Or.inr ⟨fun h => hn (hfrom _ h.2), rfl⟩⟩

/-- Some row is matched. -/
def State.Matches (s : State) (bid : Nat) (from_ : List Status) : Prop :=
  ∃ r ∈ s.runs, r.sequence = bid ∧ r.status ∈ from_

theorem rowCount_ne_zero (rows : List RunRow) :
    rowCount (atStatus bid from_) rows ≠ 0 ↔ ∃ r ∈ rows, r.sequence = bid ∧ r.status ∈ from_ := by
  rw [← Nat.pos_iff_ne_zero, rowCount_pos]
  simp only [atStatus, decide_eq_true_eq]

/-- **The same update of both tables, with the cause of a run that it ends in a terminal status,
    keeps the invariant and freezes what had ended.** -/
theorem sound_move (h : SoundRows s) (hfrom : ∀ x ∈ from_, x ∈ activeStatuses) {s' : State}
    (hruns : s'.runs = setStatus bid from_ status ts s.runs)
    (hmappings : s'.mappings = setStatus bid from_ status ts s.mappings)
    (hactive : s'.campaign.activeRunId = s.campaign.activeRunId)
    (hcauses : (s.Matches bid from_ ∧ status ∈ terminalStatuses →
        ∃ c, c.burninRunId = some bid ∧ s'.causes = s.causes ++ [c]) ∧
      (¬ (s.Matches bid from_ ∧ status ∈ terminalStatuses) → s'.causes = s.causes)) :
    SoundRows s' ∧ Frozen s s' := by
  have hsequence : s'.runs.map RunRow.sequence = s.runs.map RunRow.sequence := by
    rw [hruns, sequence_setStatus]
  have hrun : ∀ seq, (∃ r ∈ s.runs, some seq = some r.sequence) →
      ∃ r ∈ s'.runs, some seq = some r.sequence := by
    intro seq ⟨r, hr, heq⟩
    have hmem : r.sequence ∈ s'.runs.map RunRow.sequence := by
      rw [hsequence]
      exact List.mem_map_of_mem hr
    obtain ⟨r', hr', heq'⟩ := List.mem_map.mp hmem
    exact ⟨r', hr', heq.trans (congrArg some heq'.symm)⟩
  -- a matched row is active, so it had no cause
  have hfresh : s.Matches bid from_ → ∀ c ∈ s.causes, c.burninRunId ≠ some bid := by
    intro ⟨r, hr, hbid, hstatus⟩ c hc heq
    have hterminal := (h.caused r hr).mp ⟨c, hc, hbid ▸ heq⟩
    exact not_terminal_of_active (hfrom _ hstatus) hterminal
  have hkeep : ∀ c ∈ s.causes, c ∈ s'.causes := by
    intro c hc
    by_cases hm : s.Matches bid from_ ∧ status ∈ terminalStatuses
    · obtain ⟨c', _, hnew⟩ := hcauses.1 hm
      rw [hnew]
      exact List.mem_append_left _ hc
    · rw [hcauses.2 hm]
      exact hc
  have hother : ∀ seq, seq ≠ bid → (s'.Caused seq ↔ s.Caused seq) := by
    intro seq hne
    refine ⟨fun ⟨c, hc, heq⟩ => ?_, fun ⟨c, hc, heq⟩ => ⟨c, hkeep c hc, heq⟩⟩
    by_cases hm : s.Matches bid from_ ∧ status ∈ terminalStatuses
    · obtain ⟨c', hc', hnew⟩ := hcauses.1 hm
      rw [hnew] at hc
      rcases List.mem_append.mp hc with hold | hlast
      · exact ⟨c, hold, heq⟩
      · rw [List.mem_singleton.mp hlast, hc'] at heq
        exact absurd (Option.some.inj heq).symm hne
    · rw [hcauses.2 hm] at hc
      exact ⟨c, hc, heq⟩
  refine ⟨⟨?_, ?_, ?_, ?_, ?_, ?_⟩, ⟨?_, ?_, hkeep⟩⟩
  · rw [hmappings, hruns, h.same]
  · rw [hsequence]
    exact h.sequences
  · intro r' hr' ha
    rw [hruns] at hr'
    obtain ⟨r, hr, ⟨⟨hbid, hstatus⟩, rfl⟩ | ⟨_, rfl⟩⟩ := mem_setStatus.mp hr'
    · exact hactive.trans (h.activeRun r hr (hfrom _ hstatus))
    · exact hactive.trans (h.activeRun r' hr ha)
  · by_cases hm : s.Matches bid from_ ∧ status ∈ terminalStatuses
    · obtain ⟨c, hc, hnew⟩ := hcauses.1 hm
      rw [hnew, List.map_append, List.map_singleton]
      refine List.nodup_append.mpr ⟨h.oneCause, List.nodup_singleton _, ?_⟩
      intro x hx y hy heq
      obtain ⟨c', hc', rfl⟩ := List.mem_map.mp hx
      rw [List.mem_singleton.mp hy, hc] at heq
      exact hfresh hm.1 c' hc' heq
    · rw [hcauses.2 hm]
      exact h.oneCause
  · intro c hc
    by_cases hm : s.Matches bid from_ ∧ status ∈ terminalStatuses
    · obtain ⟨c', hc', hnew⟩ := hcauses.1 hm
      rw [hnew] at hc
      rcases List.mem_append.mp hc with hold | hlast
      · obtain ⟨r, hr, heq⟩ := h.causeRun c hold
        rw [heq]
        exact hrun _ ⟨r, hr, rfl⟩
      · obtain ⟨r, hr, hbid, _⟩ := hm.1
        rw [List.mem_singleton.mp hlast, hc']
        exact hrun _ ⟨r, hr, congrArg some hbid.symm⟩
    · rw [hcauses.2 hm] at hc
      obtain ⟨r, hr, heq⟩ := h.causeRun c hc
      rw [heq]
      exact hrun _ ⟨r, hr, rfl⟩
  · intro r' hr'
    rw [hruns] at hr'
    obtain ⟨r, hr, ⟨⟨hbid, hstatus⟩, rfl⟩ | ⟨hnot, rfl⟩⟩ := mem_setStatus.mp hr'
    · -- the matched row: it has a cause exactly if its new status is terminal
      have hm : s.Matches bid from_ := ⟨r, hr, hbid, hstatus⟩
      constructor
      · intro ⟨c, hc, heq⟩
        by_contra hnot
        have hsame := hcauses.2 fun hboth => hnot hboth.2
        rw [hsame] at hc
        exact hfresh hm c hc (heq.trans (congrArg some hbid))
      · intro hterminal
        obtain ⟨c, hc, hnew⟩ := hcauses.1 ⟨hm, hterminal⟩
        refine ⟨c, ?_, hc.trans (congrArg some hbid.symm)⟩
        rw [hnew]
        exact List.mem_append_right _ (List.mem_singleton_self c)
    · rw [← h.caused r' hr]
      by_cases hbid : r'.sequence = bid
      · -- the named row is not matched, so nothing is
        have hnone : ¬ s.Matches bid from_ := by
          intro ⟨r, hmem, hseq, hstatus⟩
          have heq := sequence_inj h.sequences hmem hr (hseq.trans hbid.symm)
          exact hnot ⟨hbid, heq ▸ hstatus⟩
        unfold State.Caused
        rw [hcauses.2 fun hboth => hnone hboth.1]
      · exact hother _ hbid
  · intro r hr hn
    rw [hruns]
    exact frozen_setStatus hfrom hr hn
  · intro r hr hn
    rw [hmappings]
    exact frozen_setStatus hfrom hr hn

end Moves

/-! ## 6. Call by call -/

section Calls

variable {s : State}

theorem persist_fresh (s : State) (cause : TerminalCause) (bid : Nat)
    (hrun : cause.burninRunId = some bid) (hfresh : ¬ s.Caused bid) :
    persistTerminalCause s cause = { s with causes := s.causes ++ [cause] } := by
  have hnone : getTerminalCause s cause.burninRunId = none := by
    unfold getTerminalCause
    rw [hrun, List.find?_eq_none]
    intro c hc heq
    exact hfresh ⟨c, hc, of_decide_eq_true heq⟩
  unfold persistTerminalCause
  rw [hnone]

theorem persist_frame (cause : TerminalCause) :
    (persistTerminalCause s cause).runs = s.runs ∧
      (persistTerminalCause s cause).mappings = s.mappings ∧
        (persistTerminalCause s cause).campaign = s.campaign := by
  unfold persistTerminalCause
  split
  · exact ⟨rfl, rfl, rfl⟩
  · exact ⟨rfl, rfl, rfl⟩

/-- An active run has no cause. -/
theorem not_caused_of_matches (h : SoundRows s) {bid : Nat} {from_ : List Status}
    (hfrom : ∀ x ∈ from_, x ∈ activeStatuses) (hm : s.Matches bid from_) : ¬ s.Caused bid := by
  obtain ⟨r, hr, hbid, hstatus⟩ := hm
  intro hcaused
  exact not_terminal_of_active (hfrom _ hstatus) ((h.caused r hr).mp (hbid ▸ hcaused))

theorem lt_nextSequence {rows : List RunRow} {r : RunRow} (hr : r ∈ rows) :
    r.sequence < nextSequence rows := by
  have hall : ∀ (rows : List RunRow) (m : Nat),
      m ≤ rows.foldl (fun m r => max m (r.sequence + 1)) m ∧
        ∀ r ∈ rows, r.sequence < rows.foldl (fun m r => max m (r.sequence + 1)) m := by
    intro rows
    induction rows with
    | nil => exact fun m => ⟨le_refl m, fun _ h => nomatch h⟩
    | cons a rows ih =>
      intro m
      obtain ⟨hm, hrows⟩ := ih (max m (a.sequence + 1))
      rw [List.foldl_cons]
      refine ⟨(le_max_left _ _).trans hm, fun r hr => ?_⟩
      rcases List.mem_cons.mp hr with rfl | hr
      · exact (Nat.lt_succ_self _).trans_le ((le_max_right _ _).trans hm)
      · exact hrows r hr
  exact (hall rows 0).2 r hr

/-- A new continuation where nothing is active. -/
theorem sound_openRun (h : SoundRows s) (hidle : ∀ r ∈ s.runs, ¬ r.Active) (resume : Bool)
    (ts seq : Nat) (hseq : ∀ r ∈ s.runs, r.sequence < seq) :
    Sound (openRun s resume ts seq) ∧ Frozen s (openRun s resume ts seq) := by
  let row : RunRow := { sequence := seq, status := .running, startedAt := ts, endedAt := none }
  have hruns : (openRun s resume ts seq).runs = s.runs ++ [row] := rfl
  have hrow : row.Active := List.mem_cons_of_mem _ List.mem_cons_self
  have hfresh : ¬ s.Caused seq := by
    intro ⟨c, hc, heq⟩
    obtain ⟨r, hr, hcr⟩ := h.causeRun c hc
    have hsame : seq = r.sequence := Option.some.inj (heq.symm.trans hcr)
    exact absurd (hseq r hr) (by omega)
  refine ⟨⟨⟨?_, ?_, ?_, h.oneCause, ?_, ?_⟩, fun _ => ⟨row, ?_, ?_⟩⟩, ⟨?_, ?_, fun _ hc => hc⟩⟩
  · exact congrArg (· ++ [row]) h.same
  · rw [hruns, List.map_append, List.map_singleton]
    refine List.nodup_append.mpr ⟨h.sequences, List.nodup_singleton _, ?_⟩
    intro x hx y hy heq
    obtain ⟨r, hr, rfl⟩ := List.mem_map.mp hx
    rw [List.mem_singleton.mp hy] at heq
    exact absurd (hseq r hr) (by rw [heq]; exact lt_irrefl _)
  · intro r hr ha
    rcases List.mem_append.mp hr with hold | hlast
    · exact absurd ha (hidle r hold)
    · rw [List.mem_singleton.mp hlast]
      rfl
  · intro c hc
    obtain ⟨r, hr, heq⟩ := h.causeRun c hc
    exact ⟨r, List.mem_append_left _ hr, heq⟩
  · intro r hr
    rcases List.mem_append.mp hr with hold | hlast
    · exact h.caused r hold
    · rw [List.mem_singleton.mp hlast]
      exact iff_of_false hfresh (not_terminal_of_active hrow)
  · exact List.mem_append_right _ (List.mem_singleton_self row)
  · exact hrow
  · exact fun r hr _ => List.mem_append_left _ hr
  · exact fun r hr _ => List.mem_append_left _ hr

/-- The old continuation is replaced: no starting run, and the running one ends with its cause. -/
theorem sound_replaceOld (h : SoundRows s) {old : Nat} (hold : s.campaign.activeRunId = some old)
    (hstarting : ∀ r ∈ s.runs, r.status ≠ .starting) (ts : Nat) :
    SoundRows (replaceOld s old ts) ∧ Frozen s (replaceOld s old ts) ∧
      (∀ r ∈ (replaceOld s old ts).runs, ¬ r.Active) ∧
      (replaceOld s old ts).runs.map RunRow.sequence = s.runs.map RunRow.sequence := by
  have hfrom : ∀ x ∈ [Status.running], x ∈ activeStatuses := by decide
  have htouched : (rowCount (atStatus old [.running]) s.runs ≠ 0 ∨
      rowCount (atStatus old [.running]) s.mappings ≠ 0) ↔ s.Matches old [.running] := by
    rw [h.same, or_self, rowCount_ne_zero]
    rfl
  have hframe : (replaceOld s old ts).runs =
        setStatus old [.running] .recoveryRequired (some ts) s.runs ∧
      (replaceOld s old ts).mappings =
        setStatus old [.running] .recoveryRequired (some ts) s.mappings ∧
      (replaceOld s old ts).campaign = s.campaign := by
    unfold replaceOld
    split
    · exact persist_frame _
    · exact ⟨rfl, rfl, rfl⟩
  obtain ⟨hruns, hmappings, hcampaign⟩ := hframe
  have hidle : ∀ r ∈ (replaceOld s old ts).runs, ¬ r.Active := by
    intro r' hr' ha
    rw [hruns] at hr'
    obtain ⟨r, hr, ⟨_, rfl⟩ | ⟨hnot, rfl⟩⟩ := mem_setStatus.mp hr'
    · have hnot : Status.recoveryRequired ∉ activeStatuses := by decide
      exact hnot ha
    · have hseq : r'.sequence = old := Option.some.inj ((h.activeRun r' hr ha).symm.trans hold)
      have hrunning : r'.status = .running := by
        have hmem : r'.status = .starting ∨ r'.status = .running := by
          simpa [RunRow.Active, activeStatuses] using ha
        exact hmem.resolve_left (hstarting r' hr)
      exact hnot ⟨hseq, by rw [hrunning]; decide⟩
  have hmove := sound_move h hfrom hruns hmappings (congrArg CampaignRow.activeRunId hcampaign)
    ⟨fun hm => ?_, fun hm => ?_⟩
  · exact ⟨hmove.1, hmove.2, hidle, by rw [hruns, sequence_setStatus]⟩
  · have hfresh : ¬ s.Caused old := not_caused_of_matches h hfrom hm.1
    have hstate : replaceOld s old ts = persistTerminalCause
        (s.setBoth old [.running] .recoveryRequired (some ts)) _ := if_pos (htouched.mpr hm.1)
    have hpersist := persist_fresh (s.setBoth old [.running] .recoveryRequired (some ts))
      (replacedCause s old ts) old rfl hfresh
    rw [hstate, hpersist]
    exact ⟨_, rfl, rfl⟩
  · have hstate : replaceOld s old ts = s.setBoth old [.running] .recoveryRequired (some ts) :=
      if_neg fun ht => hm ⟨htouched.mp ht, by decide⟩
    rw [hstate]
    rfl

/-- With the invariant, something is in transition exactly if the active run is. -/
theorem transitioning_iff (h : Sound s) :
    s.transitioning ↔ ∃ run, s.campaign.activeRunId = some run ∧ s.Matches run activeStatuses := by
  constructor
  · intro ht
    rcases ht with hcampaign | ⟨run, hrun, r, hr, hstatus⟩
    · obtain ⟨r, hr, ha⟩ := h.campaignActive hcampaign
      exact ⟨r.sequence, h.activeRun r hr ha, r, hr, rfl, ha⟩
    · have hseq := List.find?_some hr
      rw [decide_eq_true_eq] at hseq
      exact ⟨run, hrun, r, List.mem_of_find?_eq_some hr, hseq, hstatus⟩
  · intro ⟨run, hrun, r, hr, hseq, hstatus⟩
    refine Or.inr ⟨run, hrun, ?_⟩
    cases hfind : s.runs.find? fun r => r.sequence = run with
    | none => exact absurd (decide_eq_true hseq) (List.find?_eq_none.mp hfind r hr)
    | some r' =>
      have hseq' := List.find?_some hfind
      rw [decide_eq_true_eq] at hseq'
      have heq := sequence_inj h.sequences (List.mem_of_find?_eq_some hfind) hr
        (hseq'.trans hseq.symm)
      exact ⟨r', rfl, heq ▸ hstatus⟩

/-- The campaign row ends, or was not starting or running. -/
theorem terminalized_idle (c : CampaignRow) (a : TerminalArgs) :
    (c.terminalized a).campaignStatus ∉ activeStatuses ∧
      (c.terminalized a).activeRunId = c.activeRunId := by
  have hexit : ∀ e : ExitStatus, e.status ∉ activeStatuses := by
    intro e
    cases e <;> decide
  unfold CampaignRow.terminalized
  by_cases hkeep : a.terminalTarget ∧ c.campaignStatus ∉ activeStatuses
  · rw [if_pos hkeep]
    exact ⟨hkeep.2, rfl⟩
  · rw [if_neg hkeep]
    exact ⟨hexit _, rfl⟩

/-- **Terminalizing the active continuation.** -/
theorem sound_terminalize (h : Sound s) (a : TerminalArgs) (ts : Nat)
    (horderly : s.transitioning → a.campaignStatus.status ∈ terminalStatuses →
      a.runStatus.status ∈ terminalStatuses) :
    Sound (terminalizeActiveCampaignRun s a ts) ∧
      Frozen s (terminalizeActiveCampaignRun s a ts) := by
  have hidle := terminalized_idle s.campaign a
  cases hrun : s.campaign.activeRunId with
  | none =>
    -- no run was ever active, so nothing is in transition
    have hstill : ¬ s.transitioning := by
      intro ht
      obtain ⟨run, heq, _⟩ := (transitioning_iff h).mp ht
      exact nomatch hrun.symm.trans heq
    have hstate : terminalizeActiveCampaignRun s a ts =
        { s with campaign := s.campaign.terminalized a } := by
      unfold terminalizeActiveCampaignRun
      simp only [hrun, hstill, and_false, if_false]
    rw [hstate]
    refine ⟨⟨⟨h.same, h.sequences, fun r hr ha => ?_, h.oneCause, h.causeRun, h.caused⟩,
      fun hactive => absurd hactive hidle.1⟩, ⟨fun _ hr _ => hr, fun _ hr _ => hr, fun _ hc => hc⟩⟩
    exact hidle.2.trans (h.activeRun r hr ha)
  | some run =>
    have hfrom : ∀ x ∈ activeStatuses, x ∈ activeStatuses := fun _ hx => hx
    have hmatch : s.transitioning ↔ s.Matches run activeStatuses := by
      rw [transitioning_iff h, hrun]
      constructor
      · intro ⟨run', heq, hm⟩
        exact (Option.some.inj heq) ▸ hm
      · exact fun hm => ⟨run, rfl, hm⟩
    let cause : TerminalCause :=
      { burninRunId := some run
        terminalCause := a.reason
        terminalCauseSource := a.eventType
        terminalAt := ts
        runStatus := a.runStatus.status
        campaignStatus := a.campaignStatus.status }
    have hstate : terminalizeActiveCampaignRun s a ts =
        { (if a.terminalTarget ∧ s.transitioning then persistTerminalCause s cause
          else s).setBoth run
            activeStatuses a.runStatus.status (some ts) with
          campaign := s.campaign.terminalized a } := by
      unfold terminalizeActiveCampaignRun
      simp only [hrun]
      rfl
    have hbase : (if a.terminalTarget ∧ s.transitioning then persistTerminalCause s cause
          else s).runs = s.runs ∧
        (if a.terminalTarget ∧ s.transitioning then persistTerminalCause s cause
          else s).mappings = s.mappings := by
      split
      · exact ⟨(persist_frame cause).1, (persist_frame cause).2.1⟩
      · exact ⟨rfl, rfl⟩
    have hcauses : ((terminalizeActiveCampaignRun s a ts).causes =
        (if a.terminalTarget ∧ s.transitioning then persistTerminalCause s cause
          else s).causes) := by
      rw [hstate]
      rfl
    have hruns : (terminalizeActiveCampaignRun s a ts).runs =
        setStatus run activeStatuses a.runStatus.status (some ts) s.runs := by
      rw [hstate]
      exact congrArg _ hbase.1
    have hmappings : (terminalizeActiveCampaignRun s a ts).mappings =
        setStatus run activeStatuses a.runStatus.status (some ts) s.mappings := by
      rw [hstate]
      exact congrArg _ hbase.2
    have hactive : (terminalizeActiveCampaignRun s a ts).campaign.activeRunId =
        s.campaign.activeRunId := by
      rw [hstate]
      exact hidle.2
    have hmove := sound_move h.toSoundRows hfrom hruns hmappings hactive
      ⟨fun hm => ?_, fun hm => ?_⟩
    · refine ⟨⟨hmove.1, fun hactive => ?_⟩, hmove.2⟩
      rw [hstate] at hactive
      exact absurd hactive hidle.1
    · have hboth : a.terminalTarget ∧ s.transitioning := ⟨Or.inl hm.2, hmatch.mpr hm.1⟩
      refine ⟨cause, rfl, ?_⟩
      rw [hcauses, if_pos hboth,
        persist_fresh s cause run rfl (not_caused_of_matches h.toSoundRows hfrom hm.1)]
    · have hnot : ¬ (a.terminalTarget ∧ s.transitioning) := by
        intro ⟨htarget, ht⟩
        refine hm ⟨hmatch.mp ht, ?_⟩
        rcases htarget with hterminal | hterminal
        · exact hterminal
        · exact horderly ht hterminal
      rw [hcauses, if_neg hnot]

/-- A campaign row that ends, over rows that stay. -/
theorem sound_campaign (h : Sound s) (c : CampaignRow)
    (hrun : c.activeRunId = s.campaign.activeRunId)
    (hidle : c.campaignStatus ∉ activeStatuses) :
    Sound { s with campaign := c } ∧ Frozen s { s with campaign := c } :=
  ⟨⟨⟨h.same, h.sequences, fun r hr ha => hrun.trans (h.activeRun r hr ha), h.oneCause, h.causeRun,
      h.caused⟩, fun hactive => absurd hactive hidle⟩,
    ⟨fun _ hr _ => hr, fun _ hr _ => hr, fun _ hc => hc⟩⟩

/-- The same update of both tables to a status that is not terminal. -/
theorem sound_setBoth (h : Sound s) (bid : Nat) {from_ : List Status}
    (hfrom : ∀ x ∈ from_, x ∈ activeStatuses) {status : Status}
    (hstatus : status ∉ terminalStatuses)
    (ts : Option Nat) (c : CampaignRow) (hrun : c.activeRunId = s.campaign.activeRunId)
    (hactive : c.campaignStatus ∈ activeStatuses →
      s.campaign.campaignStatus ∈ activeStatuses ∧ status ∈ activeStatuses) :
    Sound { s.setBoth bid from_ status ts with campaign := c } ∧
      Frozen s { s.setBoth bid from_ status ts with campaign := c } := by
  have hruns : ({ s.setBoth bid from_ status ts with campaign := c } : State).runs =
      setStatus bid from_ status ts s.runs := rfl
  have hmappings : ({ s.setBoth bid from_ status ts with campaign := c } : State).mappings =
      setStatus bid from_ status ts s.mappings := rfl
  obtain ⟨hrows, hfrozen⟩ := sound_move h.toSoundRows hfrom hruns hmappings hrun
    ⟨fun hm => absurd hm.2 hstatus, fun _ => rfl⟩
  refine ⟨⟨hrows, fun hc => ?_⟩, hfrozen⟩
  obtain ⟨hcampaign, hnew⟩ := hactive hc
  obtain ⟨r, hr, ha⟩ := h.campaignActive hcampaign
  by_cases hm : r.sequence = bid ∧ r.status ∈ from_
  · exact ⟨withStatus status ts r, mem_setStatus.mpr ⟨r, hr, Or.inl ⟨hm, rfl⟩⟩, hnew⟩
  · exact ⟨r, mem_setStatus.mpr ⟨r, hr, Or.inr ⟨hm, rfl⟩⟩, ha⟩

theorem sound_start (h : Sound s) (resume : Bool) (check : StartCheck) (ts : Nat)
    (horderly : Orderly s (.startOrResume resume check ts)) :
    Sound (step s (.startOrResume resume check ts)) ∧
      Frozen s (step s (.startOrResume resume check ts)) := by
  cases check with
  | refused error => exact ⟨h, Frozen.refl s⟩
  | drift committed =>
    cases committed with
    | false => exact ⟨h, Frozen.refl s⟩
    | true =>
      have hpaused : Status.paused ∉ activeStatuses := by decide
      exact sound_campaign h _ rfl hpaused
  | passes =>
    have hfree := horderly rfl
    have hseq : ∀ r ∈ s.runs, r.sequence < nextSequence s.mappings := by
      rw [h.same]
      exact fun r hr => lt_nextSequence hr
    -- without a resume nothing is active
    have hplain : resume = false ∨ s.campaign.activeRunId = none → ∀ r ∈ s.runs, ¬ r.Active := by
      intro hno r hr ha
      rcases hno with hno | hno
      · have hmem : r.status = .starting ∨ r.status = .running := by
          simpa [RunRow.Active, activeStatuses] using ha
        have hresume := (hfree r hr).2 (hmem.resolve_left (hfree r hr).1)
        exact absurd (hno.symm.trans hresume) (by decide)
      · exact nomatch hno.symm.trans (h.activeRun r hr ha)
    cases hold : s.campaign.activeRunId with
    | none =>
      have hstate : step s (.startOrResume resume .passes ts) =
          openRun s resume ts (nextSequence s.mappings) := by
        simp [step, startOrResumeCampaign, hold, Except.toOption]
      rw [hstate]
      exact sound_openRun h.toSoundRows (hplain (Or.inr hold)) resume ts _ hseq
    | some old =>
      cases resume with
      | false =>
        have hstate : step s (.startOrResume false .passes ts) =
            openRun s false ts (nextSequence s.mappings) := by
          simp [step, startOrResumeCampaign, hold, Except.toOption]
        rw [hstate]
        exact sound_openRun h.toSoundRows (hplain (Or.inl rfl)) false ts _ hseq
      | true =>
        have hstate : step s (.startOrResume true .passes ts) =
            openRun (replaceOld s old ts) true ts (nextSequence s.mappings) := by
          simp [step, startOrResumeCampaign, hold, Except.toOption]
        obtain ⟨hrows, hfrozen, hidle, hsame⟩ :=
          sound_replaceOld h.toSoundRows hold (fun r hr => (hfree r hr).1) ts
        have hseq' : ∀ r ∈ (replaceOld s old ts).runs, r.sequence < nextSequence s.mappings := by
          intro r hr
          have hmem := List.mem_map_of_mem (f := RunRow.sequence) hr
          rw [hsame] at hmem
          obtain ⟨r', hr', heq⟩ := List.mem_map.mp hmem
          exact heq ▸ hseq r' hr'
        rw [hstate]
        obtain ⟨hopen, hfrozen'⟩ := sound_openRun hrows hidle true ts _ hseq'
        exact ⟨hopen, hfrozen.trans hfrozen'⟩

theorem sound_markOperational (h : Sound s) {run : Nat} {s' : State}
    (hok : markAttachedCampaignOperational s run = .ok s') : Sound s' ∧ Frozen s s' := by
  unfold markAttachedCampaignOperational at hok
  split at hok
  · exact nomatch hok
  · split at hok
    · dsimp only at hok
      split at hok
      · rw [← Except.ok.inj hok]
        exact ⟨h, Frozen.refl s⟩
      · exact nomatch hok
    · split at hok
      · exact nomatch hok
      · split at hok
        · exact nomatch hok
        · rename_i hstarting _
          rw [← Except.ok.inj hok]
          refine sound_setBoth h run (by decide) (by decide) none _ rfl fun _ => ⟨?_, by decide⟩
          rw [not_not.mp hstarting]
          decide

/-- **Every orderly call keeps the invariant and freezes what had ended.** -/
theorem sound_step (h : Sound s) (call : Call) (horderly : Orderly s call) :
    Sound (step s call) ∧ Frozen s (step s call) := by
  cases call with
  | startOrResume resume check ts => exact sound_start h resume check ts horderly
  | markStarting run =>
    unfold step markStarting
    dsimp only
    split
    · rename_i hrunning
      refine sound_setBoth h run (by decide) (by decide) none _ rfl fun _ => ⟨?_, by decide⟩
      have hstatus : s.campaign.campaignStatus = .running := hrunning
      rw [hstatus]
      decide
    · exact sound_setBoth h run (by decide) (by decide) none s.campaign rfl
        fun hactive => ⟨hactive, by decide⟩
  | markOperational run =>
    unfold step
    dsimp only
    cases hresult : markAttachedCampaignOperational s run with
    | error e => exact ⟨h, Frozen.refl s⟩
    | ok s' => exact sound_markOperational h hresult
  | terminalize a ts => exact sound_terminalize h a ts horderly
  | pause ts =>
    unfold step pauseCampaign
    have hpaused : Status.paused ∉ activeStatuses := by decide
    cases hrun : s.campaign.activeRunId with
    | none => exact sound_campaign h _ rfl hpaused
    | some run =>
      exact sound_setBoth h run (by decide) (by decide) (some ts) _ rfl
        fun hactive => absurd hactive hpaused
  | pauseForProviderFailure reason ts =>
    unfold step pauseCampaignForProviderFailure
    dsimp only
    split
    · exact ⟨h, Frozen.refl s⟩
    · have hpaused : ExitStatus.paused.status ∉ terminalStatuses := by decide
      exact sound_terminalize h _ ts fun _ hterminal => absurd hterminal hpaused
  | checkCompletion blockers ts =>
    unfold step checkCampaignCompletion
    dsimp only
    have hcompleted : Status.completed ∉ activeStatuses := by decide
    split
    · exact sound_campaign h _ rfl hcompleted
    · exact ⟨h, Frozen.refl s⟩
  | finalize run status ts =>
    cases run with
    | none => exact ⟨h, Frozen.refl s⟩
    | some run =>
      have hnone : ∀ r ∈ s.runs, atStatus run [.running] r = false := by
        intro r hr
        simp only [atStatus, List.mem_singleton, decide_eq_false_iff_not]
        exact fun hm => horderly r hr (congrArg some hm.1.symm) hm.2
      have hstate : step s (.finalize (some run) status ts) = s := by
        simp only [step, finalizeBurninRun, updateWhere_eq_self hnone]
      rw [hstate]
      exact ⟨h, Frozen.refl s⟩

end Calls

/-! ## 7. Runs -/

/-- **A run of orderly calls is lawful in every state, and from every state on it freezes the runs
    that have ended and the causes.** -/
theorem orderly_runs_lawful (earlier later : List Call)
    (h : Along step Orderly State.created (earlier ++ later)) :
    Lawful (runEvents step .created earlier) ∧
      Lawful (runEvents step .created (earlier ++ later)) ∧
      Frozen (runEvents step .created earlier) (runEvents step .created (earlier ++ later)) := by
  have hrun : ∀ (calls : List Call) (s : State), Sound s → Along step Orderly s calls →
      Sound (runEvents step s calls) ∧ Frozen s (runEvents step s calls) := by
    intro calls
    induction calls with
    | nil => exact fun s hs _ => ⟨hs, Frozen.refl s⟩
    | cons call calls ih =>
      intro s hs ⟨hcall, hcalls⟩
      obtain ⟨hstep, hfrozen⟩ := sound_step hs call hcall
      obtain ⟨hlast, hfrozen'⟩ := ih _ hstep hcalls
      exact ⟨hlast, hfrozen.trans hfrozen'⟩
  have hsplit : ∀ (calls : List Call) (s : State), Along step Orderly s (calls ++ later) →
      Along step Orderly s calls ∧ Along step Orderly (runEvents step s calls) later := by
    intro calls
    induction calls with
    | nil => exact fun s hs => ⟨trivial, hs⟩
    | cons call calls ih =>
      intro s ⟨hcall, hcalls⟩
      obtain ⟨hfirst, hrest⟩ := ih _ hcalls
      exact ⟨⟨hcall, hfirst⟩, hrest⟩
  obtain ⟨hearlier, hlater⟩ := hsplit earlier _ h
  obtain ⟨hsound, _⟩ := hrun earlier _ created_sound hearlier
  obtain ⟨hlast, hfrozen⟩ := hrun later _ hsound hlater
  have happend : runEvents step .created (earlier ++ later) =
      runEvents step (runEvents step .created earlier) later := List.foldl_append
  rw [happend]
  exact ⟨hsound.lawful, hlast.lawful, hfrozen⟩

/-- A campaign that is launched, becomes operational, is resumed and fails. -/
def sampleEarlier : List Call :=
  [.startOrResume false .passes 10, .markStarting 0, .markOperational 0,
    .startOrResume true .passes 20]

def sampleLater : List Call :=
  [.terminalize
      { runStatus := .failed
        campaignStatus := .paused
        reason := "PERSISTENCE_DB_IDENTITY_MISMATCH"
        eventType := "PHASE8_CAMPAIGN_ATTACH_FAILED"
        clearWorkerMetadata := true } 30,
    .finalize (some 1) .completed 31]

theorem orderly_runs_lawful_sample :
    Lawful (runEvents step .created (sampleEarlier ++ sampleLater)) ∧
      { sequence := 0, status := .recoveryRequired, startedAt := 10, endedAt := some 20 } ∈
        (runEvents step .created (sampleEarlier ++ sampleLater)).runs := by
  obtain ⟨_, hlawful, hfrozen⟩ := orderly_runs_lawful sampleEarlier sampleLater (by decide +kernel)
  exact ⟨hlawful, hfrozen.runs _ (by decide +kernel) (by decide)⟩

/-- Three campaigns: one the runtime finalizes (its mapping row stays `RUNNING`), one that is
    started twice (two running runs), one that is resumed while starting (a starting and a running
    run). -/
theorem disorderly_campaigns :
    let finalized := runEvents step .created
      [.startOrResume false .passes 10, .finalize (some 0) .completed 20]
    let twice := runEvents step .created
      [.startOrResume false .passes 10, .startOrResume false .passes 20]
    let resumed := runEvents step .created
      [.startOrResume false .passes 10, .markStarting 0, .startOrResume true .passes 20]
    (finalized.runs.map RunRow.status = [.completed] ∧
        finalized.mappings.map RunRow.status = [.running]) ∧
      twice.runs.map RunRow.status = [.running, .running] ∧
      resumed.runs.map RunRow.status = [.starting, .running] := by
  decide +kernel

end AlphaForge.Burnin.Campaign
