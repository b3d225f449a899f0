/-
  File:      AlphaForge/Control/KillSwitch.lean
  Subject:   `runtime_control.py`: the control row with the kill switch, and the supervisor that
             starts and stops the runtime under it.

  Every call is the sequence of its single reads and writes (`Call.body`), and any number of calls
  interleave. `start` reads the switch once and writes the running status later; `stop` reads the
  running mode and writes it back. Either may straddle an activation.

  * `killed_and_running` -- a run that ends with the switch active and a running status.
  * `Exposed` -- the positions in a call from which it may still report something running.
  * **`quiet_while_killed`** -- no such run exists if no other call stands at such a position when
    the switch is activated, and nobody writes a running status by hand under it.
  * `exposed_unsafe` -- each of these positions can break the promise, so none of them can be left
    out.

  Time stamps are left out: nothing here reads them. A database error inside a call is left out
  too.
-/
import AlphaForge.Lib.Interleaving
import AlphaForge.Lib.PyValues

namespace AlphaForge.Control

open AlphaForge.Lib

/-! ## 1. The row, the audit trail and the task -/

/-- `RuntimeControlState`, and the row it is read from. -/
structure RuntimeControlState where
  modeRequested : String
  modeRunning : Option String
  killSwitchActive : Bool
  killSwitchSource : Option String
  runtimeStatus : String
  lastError : Option String
  deriving DecidableEq, Repr

/-- A row of `runtime_control_audit_events`. -/
structure AuditEvent where
  action : String
  requestedMode : Option String
  previousMode : Option String
  success : Bool
  reason : Option String
  source : String
  killSwitchActive : Option Bool
  readinessStatus : Option String
  operatorAcknowledged : Bool
  deriving DecidableEq, Repr

/-- The supervisor's `_task`. -/
inductive TaskState where
  | absent
  | running
  | done
  deriving DecidableEq, Repr

/-- What the calls share. -/
structure World where
  row : RuntimeControlState
  audit : List AuditEvent
  task : TaskState
  deriving DecidableEq, Repr

/-- The row that `ensure_runtime_control_schema` inserts. -/
def initialRow : RuntimeControlState where
  modeRequested := "PAPER"
  modeRunning := none
  killSwitchActive := false
  killSwitchSource := none
  runtimeStatus := "STOPPED"
  lastError := none

def initialWorld : World := { row := initialRow, audit := [], task := .absent }

def validModes : List String := ["PAPER", "LIVE"]

def validStatuses : List String :=
  ["STOPPED", "STARTING", "RUNNING_PAPER", "RUNNING_LIVE", "STOPPING", "ERROR",
    "KILL_SWITCH_ACTIVE"]

/-- `value or default`, in upper case. -/
def upperOr (value default : String) : String := upper (if value = "" then default else value)

/-- What `RuntimeControlStore.read` makes of the row. -/
def report (row : RuntimeControlState) : RuntimeControlState :=
  { row with
    modeRequested := upperOr row.modeRequested "PAPER"
    modeRunning := (row.modeRunning.filter (· ≠ "")).map upper
    runtimeStatus := upperOr row.runtimeStatus "STOPPED" }

/-- A reported mode or status that says the runtime is running. -/
def RuntimeControlState.Running (state : RuntimeControlState) : Prop :=
  state.modeRunning ≠ none ∨ state.runtimeStatus = "RUNNING_PAPER" ∨
    state.runtimeStatus = "RUNNING_LIVE"

instance (state : RuntimeControlState) : Decidable state.Running :=
  inferInstanceAs (Decidable (_ ∨ _))

/-! ## 2. The store -/

/-- A call of the store or the supervisor. -/
abbrev ControlCall (α : Type) := Prog World PyError α

def read : ControlCall RuntimeControlState := Prog.query fun w => report w.row

def writeAudit (event : AuditEvent) : ControlCall Unit :=
  Prog.update fun w => { w with audit := w.audit ++ [event] }

/-- The text of an exception. -/
def errorText : PyError → String
  | .valueError msg => msg
  | .keyError msg => msg
  | .runtimeError msg => msg
  | .typeError => "TypeError"
  | .overflowError => "OverflowError"
  | .integrityError => "IntegrityError"
  | .timeoutError => ""

/-- Why `set_requested_mode` refuses a mode; `readiness` is the answer of
    `_latest_readiness_status`. -/
def modeRefusal (mode : String) (operatorAcknowledged : Bool) (readiness : String)
    (state : RuntimeControlState) : Option PyError :=
  if mode ∉ validModes then some (.valueError "mode_requested must be PAPER or LIVE")
  else if state.runtimeStatus ∉ ["STOPPED", "ERROR", "KILL_SWITCH_ACTIVE"] ∨
      state.modeRunning ≠ none then
    some (.runtimeError "mode_requested can only be changed while runtime is stopped")
  else if mode = "LIVE" ∧ operatorAcknowledged = false then
    some (.runtimeError "LIVE mode blocked: explicit operator acknowledgement is required")
  else if mode = "LIVE" ∧ readiness ≠ "PASS" then
    some (.runtimeError
      ("LIVE mode blocked: readiness evidence is " ++ readiness ++ "; expected PASS"))
  else none

/-- `set_requested_mode`. -/
@[irreducible] def setRequestedMode (mode : String) (operatorAcknowledged : Bool)
    (source readiness : String) : ControlCall RuntimeControlState := do
  let mode := upper (strip mode)
  let state ← read
  let event (success : Bool) (reason : Option String) : AuditEvent :=
    { action := "MODE_SWITCH"
      requestedMode := some mode
      previousMode := some state.modeRequested
      success := success
      reason := reason
      source := source
      killSwitchActive := none
      readinessStatus := if mode = "LIVE" then some readiness else none
      operatorAcknowledged := operatorAcknowledged }
  match modeRefusal mode operatorAcknowledged readiness state with
  | some error =>
    writeAudit (event false (some (errorText error)))
    Prog.raise error
  | none =>
    Prog.update fun w => { w with row := { w.row with modeRequested := mode, lastError := none } }
    writeAudit (event true none)
    read

/-- The UPDATE of `set_kill_switch`. -/
def switched (active : Bool) (source status : String) (row : RuntimeControlState) :
    RuntimeControlState :=
  { row with
    killSwitchActive := active
    killSwitchSource := some source
    runtimeStatus := status
    lastError := if active then some "KILL_SWITCH_ACTIVE" else row.lastError
    modeRunning := if active then none else row.modeRunning }

/-- The UPDATE of `set_kill_switch`, its audit event and the read after them. -/
def writeKillSwitch (active : Bool) (source status : String) : ControlCall RuntimeControlState := do
  Prog.update fun w => { w with row := switched active source status w.row }
  writeAudit
    { action := if active then "KILL_SWITCH_ON" else "KILL_SWITCH_OFF"
      requestedMode := none
      previousMode := none
      success := true
      reason := none
      source := source
      killSwitchActive := some active
      readinessStatus := none
      operatorAcknowledged := false }
  read

/-- `set_kill_switch`. -/
def setKillSwitch (active : Bool) (source : String) : ControlCall RuntimeControlState :=
  if active then writeKillSwitch true source "KILL_SWITCH_ACTIVE"
  else do
    let status := (← read).runtimeStatus
    writeKillSwitch false source (if status = "KILL_SWITCH_ACTIVE" then "STOPPED" else status)

/-- The UPDATE of `set_status`. -/
def withStatus (status : String) (modeRunning lastError : Option String)
    (row : RuntimeControlState) : RuntimeControlState :=
  { row with runtimeStatus := status, modeRunning := modeRunning, lastError := lastError }

/-- `set_status` from the check on. -/
def writeStatus (status : String) (modeRunning lastError : Option String) :
    ControlCall RuntimeControlState :=
  if status ∉ validStatuses then Prog.raise (.valueError "unsupported runtime_status")
  else do
    Prog.update fun w => { w with row := withStatus status modeRunning lastError w.row }
    read

/-- `set_status`. -/
@[irreducible] def setStatus (status : String) (modeRunning lastError : Option String) :
    ControlCall RuntimeControlState :=
  writeStatus (upper (strip status)) modeRunning lastError

/-! ## 3. The supervisor -/

def isRunning : ControlCall Bool := Prog.query fun w => w.task = .running

def setTask (task : TaskState) : ControlCall Unit := Prog.update fun w => { w with task := task }

/-- The part of `start` inside its `try`; `factory` answers the mode that was built. -/
def launch (factory : String → Except String String) (mode : String) :
    ControlCall RuntimeControlState :=
  match factory mode with
  | .error text => Prog.raise (.runtimeError text)
  | .ok actual =>
    if actual ≠ mode then
      Prog.raise (.runtimeError
        ("Runtime mode mismatch: requested " ++ mode ++ ", built " ++ actual))
    else do
      setTask .running
      setStatus ("RUNNING_" ++ actual) (some actual) none

/-- The `try` of `start`. -/
def guardedLaunch (factory : String → Except String String) (mode : String) :
    ControlCall RuntimeControlState :=
  (launch factory mode).tryCatch fun e => setStatus "ERROR" none (some (errorText e))

/-- `start` where nothing is running. -/
def startIdle (factory : String → Except String String) (mode : String) :
    ControlCall RuntimeControlState := do
  let _ ← setStatus "STARTING" none none
  guardedLaunch factory mode

/-- `start` from the question whether a task is running. -/
def startChecked (factory : String → Except String String) (mode : String) :
    ControlCall RuntimeControlState := do
  if ← isRunning then read
  else startIdle factory mode

/-- `RuntimeSupervisor.start`. -/
def start (factory : String → Except String String) : ControlCall RuntimeControlState := do
  let state ← read
  if state.killSwitchActive then
    setStatus "KILL_SWITCH_ACTIVE" none (some "KILL_SWITCH_ACTIVE")
  else startChecked factory state.modeRequested

/-- How the supervised runtime ends. -/
inductive RunOutcome where
  | finished
  | failed (text : String)
  | cancelled
  deriving DecidableEq, Repr

/-- A call whose answer nobody waits for. -/
def void (p : ControlCall RuntimeControlState) : ControlCall Unit := do
  let _ ← p

/-- What `RuntimeSupervisor._run` writes when the runtime has ended. -/
def reportEnd : RunOutcome → ControlCall Unit
  | .finished => void (setStatus "STOPPED" none none)
  | .failed text => void (setStatus "ERROR" none (some text))
  | .cancelled => pure ()

/-- `RuntimeSupervisor._run` after the runtime has ended, and the end of its task. -/
def runLoop (outcome : RunOutcome) : ControlCall Unit := do
  reportEnd outcome
  setTask .done

/-- `stop` from the write of STOPPING on. -/
def stopRunning (mode : Option String) (ends : Bool) : ControlCall RuntimeControlState := do
  let _ ← setStatus "STOPPING" mode none
  if ends then setStatus "STOPPED" none none else Prog.raise .timeoutError

/-- `RuntimeSupervisor.stop`; `ends` says whether the task ends within the time given. -/
def stop (ends : Bool) : ControlCall RuntimeControlState := do
  if !(← isRunning) then setStatus "STOPPED" none none
  else
    let mode := (← read).modeRunning
    stopRunning mode ends

/-- The calls, with what their environment answers. -/
inductive Call where
  | setRequestedMode (mode : String) (operatorAcknowledged : Bool) (source readiness : String)
  | setKillSwitch (active : Bool) (source : String)
  | setStatus (status : String) (modeRunning lastError : Option String)
  | start (factory : String → Except String String)
  | runLoop (outcome : RunOutcome)
  | stop (ends : Bool)

def Call.body : Call → ControlCall Unit
  | .setRequestedMode mode acknowledged source readiness =>
    void (Control.setRequestedMode mode acknowledged source readiness)
  | .setKillSwitch active source => void (Control.setKillSwitch active source)
  | .setStatus status modeRunning lastError =>
    void (Control.setStatus status modeRunning lastError)
  | .start factory => void (Control.start factory)
  | .runLoop outcome => Control.runLoop outcome
  | .stop ends => void (Control.stop ends)

/-- Calls in progress over the shared world, a thread for each natural number. -/
abbrev System := Config ℕ World PyError Unit

def System.idle (w : World) : System := { state := w, thread := fun _ => none }

/-! ## 4. What the switch promises -/

def Killed (w : World) : Prop := w.row.killSwitchActive = true

def Quiet (w : World) : Prop := ¬ (report w.row).Running

instance (w : World) : Decidable (Killed w) := inferInstanceAs (Decidable (_ = _))

instance (w : World) : Decidable (Quiet w) := inferInstanceAs (Decidable (¬ _))

/-- Between the read of `start` and its last write the switch is activated. -/
theorem killed_and_running :
    ∃ events : List (Event ℕ Call),
      let w := ((System.idle initialWorld).run Call.body events).state
      Killed w ∧ ¬ Quiet w := by
  let launched : Event ℕ Call := .call 0 (.start fun mode => .ok mode)
  let activated : Event ℕ Call := .call 1 (.setKillSwitch true "dashboard")
  refine ⟨[launched, .move 0, activated, .move 1, .move 0, .move 0, .move 0, .move 0, .move 0], ?_⟩
  decide +kernel

/-- The arguments of a `set_status` that reports nothing running. -/
def HarmlessStatus (status : String) (modeRunning : Option String) : Prop :=
  modeRunning.filter (· ≠ "") = none ∧
    upper (strip status) ≠ "RUNNING_PAPER" ∧ upper (strip status) ≠ "RUNNING_LIVE"

instance (status : String) (modeRunning : Option String) :
    Decidable (HarmlessStatus status modeRunning) := inferInstanceAs (Decidable (_ ∧ _))

/-- A call that reports nothing running while the switch is active, if it begins under it. -/
def Call.Harmless : Call → Prop
  | .setStatus status modeRunning _ => HarmlessStatus status modeRunning
  | _ => True

/-- The factory builds the mode, and the status with which `start` reports it is one. -/
def Launches (factory : String → Except String String) (mode : String) : Prop :=
  factory mode = .ok mode ∧ upper (strip ("RUNNING_" ++ mode)) ∈ validStatuses

/-- **The positions in a call from which it may still report something running.** -/
inductive Exposed : ControlCall Unit → Prop where
  /-- `start` has read an inactive switch. -/
  | startChecked (factory : String → Except String String) (mode : String)
      (h : Launches factory mode) : Exposed (void (Control.startChecked factory mode))
  /-- `start` has found no task. -/
  | startIdle (factory : String → Except String String) (mode : String)
      (h : Launches factory mode) : Exposed (void (Control.startIdle factory mode))
  /-- `start` has written STARTING, and `set_status` reads the row. -/
  | startWritten (factory : String → Except String String) (mode : String)
      (h : Launches factory mode) : Exposed (void do
        let _ ← read
        guardedLaunch factory mode)
  /-- `start` is about to build the runtime and create its task. -/
  | launch (factory : String → Except String String) (mode : String)
      (h : Launches factory mode) : Exposed (void (guardedLaunch factory mode))
  /-- `start` has created the task. -/
  | launched (mode : String) (h : upper (strip ("RUNNING_" ++ mode)) ∈ validStatuses) :
      Exposed (void ((setStatus ("RUNNING_" ++ mode) (some mode) none).tryCatch fun e =>
        setStatus "ERROR" none (some (errorText e))))
  /-- `stop` has read a running mode. -/
  | stopRunning (mode : Option String) (ends : Bool) (h : mode.filter (· ≠ "") ≠ none) :
      Exposed (void (Control.stopRunning mode ends))
  /-- `set_status` is about to write a running status or mode. -/
  | setStatus (status : String) (modeRunning lastError : Option String)
      (hvalid : upper (strip status) ∈ validStatuses) (h : ¬ HarmlessStatus status modeRunning) :
      Exposed (void (Control.setStatus status modeRunning lastError))

theorem upperOr_upper (s : String) :
    upperOr (upper s) "STOPPED" = upper s ∨ upperOr (upper s) "STOPPED" = "STOPPED" := by
  unfold upperOr
  split
  · exact Or.inr (by decide)
  · exact Or.inl (upper_upper s)

/-- A status that is not reported as running leaves nothing running, whatever was there. -/
theorem quiet_withStatus {status : String} {modeRunning : Option String}
    (hstatus : upperOr status "STOPPED" ≠ "RUNNING_PAPER" ∧
      upperOr status "STOPPED" ≠ "RUNNING_LIVE")
    (hmode : modeRunning.filter (· ≠ "") = none) (lastError : Option String)
    (row : RuntimeControlState) :
    ¬ (report (withStatus status modeRunning lastError row)).Running := by
  intro hrun
  rcases hrun with hrun | hrun | hrun
  · apply hrun
    simp only [report, withStatus, hmode, Option.map_none]
  · exact hstatus.1 hrun
  · exact hstatus.2 hrun

theorem every_writeStatus {status : String} {modeRunning : Option String}
    (hstatus : upperOr status "STOPPED" ≠ "RUNNING_PAPER" ∧
      upperOr status "STOPPED" ≠ "RUNNING_LIVE")
    (hmode : modeRunning.filter (· ≠ "") = none) (lastError : Option String) :
    (writeStatus status modeRunning lastError).Every fun _ w => Quiet w := by
  unfold writeStatus
  refine Prog.every_ite (fun _ => trivial) fun _ => ?_
  exact Prog.every_update_bind.mpr fun w =>
    ⟨quiet_withStatus hstatus hmode lastError w.row, Prog.every_query _⟩

/-- A harmless `set_status` keeps the promise. -/
theorem every_setStatus {status : String} {modeRunning : Option String}
    (h : HarmlessStatus status modeRunning) (lastError : Option String) :
    (setStatus status modeRunning lastError).Every fun _ w => Quiet w := by
  obtain ⟨hmode, hpaper, hlive⟩ := h
  have hstatus : upperOr (upper (strip status)) "STOPPED" ≠ "RUNNING_PAPER" ∧
      upperOr (upper (strip status)) "STOPPED" ≠ "RUNNING_LIVE" := by
    rcases upperOr_upper (strip status) with heq | heq
    · rw [heq]
      exact ⟨hpaper, hlive⟩
    · rw [heq]
      decide
  unfold setStatus
  generalize upper (strip status) = normalized at hstatus ⊢
  exact every_writeStatus hstatus hmode lastError

/-- A call whose writes keep the promise, whatever states they meet. -/
def Keeping {α : Type} (p : ControlCall α) : Prop := p.Every (Prog.Keeps Killed Quiet)

theorem keeping_setStatus {status : String} {modeRunning : Option String}
    (h : HarmlessStatus status modeRunning) (lastError : Option String) :
    Keeping (setStatus status modeRunning lastError) :=
  Prog.every_mono (fun _ _ hq _ _ _ => hq) (every_setStatus h lastError)

/-- Statements that do not touch the reported row keep the promise. -/
theorem keeping_writeAudit (event : AuditEvent) : Keeping (writeAudit event) :=
  Prog.every_update fun _ _ hq _ => hq

theorem keeping_setTask (task : TaskState) : Keeping (setTask task) :=
  Prog.every_update fun _ _ hq _ => hq

theorem keeping_read : Keeping read := Prog.every_query _

theorem keeping_void {p : ControlCall RuntimeControlState} (h : Keeping p) : Keeping (void p) :=
  Prog.every_bind h fun _ => trivial

theorem keeping_runLoop (outcome : RunOutcome) : Keeping (runLoop outcome) := by
  refine Prog.every_bind ?_ fun _ => keeping_setTask .done
  rcases outcome with _ | text | _
  · exact keeping_void (keeping_setStatus (by decide) _)
  · exact keeping_void (keeping_setStatus (by decide) _)
  · trivial

theorem keeping_setRequestedMode (mode : String) (acknowledged : Bool)
    (source readiness : String) :
    Keeping (setRequestedMode mode acknowledged source readiness) := by
  unfold setRequestedMode read Keeping
  rw [Prog.every_query_bind]
  intro w
  generalize modeRefusal _ _ _ _ = refusal
  generalize upper (strip mode) = normalized
  rcases refusal with _ | error
  · refine Prog.every_bind (Prog.every_update fun _ _ hq _ => hq) fun _ => ?_
    exact Prog.every_bind (keeping_writeAudit _) fun _ => keeping_read
  · exact Prog.every_bind (keeping_writeAudit _) fun _ => trivial

/-- The activation leaves nothing running. -/
theorem quiet_switched (source : String) (row : RuntimeControlState) :
    ¬ (report (switched true source "KILL_SWITCH_ACTIVE" row)).Running := by
  have hstatus : upperOr "KILL_SWITCH_ACTIVE" "STOPPED" = "KILL_SWITCH_ACTIVE" := by decide
  intro hrun
  rcases hrun with hrun | hrun | hrun
  · exact hrun rfl
  · exact absurd (hstatus.symm.trans hrun) (by decide)
  · exact absurd (hstatus.symm.trans hrun) (by decide)

theorem keeping_setKillSwitch (active : Bool) (source : String) :
    Keeping (setKillSwitch active source) := by
  have hrest (event : AuditEvent) : Keeping (writeAudit event >>= fun _ => read) :=
    Prog.every_bind (keeping_writeAudit event) fun _ => keeping_read
  rcases active with _ | _
  · refine Prog.every_query_bind.mpr fun w => ?_
    -- the write lowers the switch: nothing is promised after it
    exact Prog.every_bind (Prog.every_update fun _ _ _ hk => Bool.noConfusion hk) fun _ => hrest _
  · refine Prog.every_bind (Prog.every_update fun w _ _ _ => ?_) fun _ => hrest _
    exact quiet_switched source w.row

/-! ## 5. The positions of the calls -/

/-- What is left of a call at a position: exposed, or safe. -/
def ExposedOrSafe (p : ControlCall Unit) : Prop := Exposed p ∨ p.SafeUnder Killed Quiet

theorem positions_keeping {p : ControlCall Unit} (h : Keeping p) : p.Positions ExposedOrSafe :=
  Prog.positions_mono (fun _ => Or.inr) (Prog.positions_of_keeps h)

theorem setStatus_valid {status : String} (h : upper (strip status) ∈ validStatuses)
    (modeRunning lastError : Option String) : setStatus status modeRunning lastError =
      Prog.update (fun w =>
        { w with row := withStatus (upper (strip status)) modeRunning lastError w.row }) >>=
        fun _ => read := by
  unfold setStatus writeStatus
  rw [if_neg (not_not.mpr h)]

theorem setStatus_invalid {status : String} (h : upper (strip status) ∉ validStatuses)
    (modeRunning lastError : Option String) : setStatus status modeRunning lastError =
      Prog.raise (.valueError "unsupported runtime_status") := by
  unfold setStatus writeStatus
  rw [if_pos h]

theorem positions_setStatus (status : String) (modeRunning lastError : Option String) :
    (void (setStatus status modeRunning lastError)).Positions ExposedOrSafe := by
  by_cases hharm : HarmlessStatus status modeRunning
  · exact positions_keeping (keeping_void (keeping_setStatus hharm lastError))
  by_cases hvalid : upper (strip status) ∈ validStatuses
  · have hx := Exposed.setStatus status modeRunning lastError hvalid hharm
    rw [setStatus_valid hvalid] at hx ⊢
    exact ⟨Or.inl hx, fun _ => positions_keeping (keeping_void keeping_read)⟩
  · rw [setStatus_invalid hvalid]
    exact positions_keeping trivial

/-- The handler of `start` reports an error. -/
theorem keeping_handler (e : PyError) : Keeping (setStatus "ERROR" none (some (errorText e))) :=
  keeping_setStatus (by decide) _

/-- A launch that reports no running mode. -/
theorem keeping_guardedLaunch {factory : String → Except String String} {mode : String}
    (h : ¬ Launches factory mode) : Keeping (guardedLaunch factory mode) := by
  unfold guardedLaunch launch
  cases hf : factory mode with
  | error text => exact keeping_handler _
  | ok actual =>
    by_cases hmode : actual = mode
    · have hvalid : upper (strip ("RUNNING_" ++ actual)) ∉ validStatuses := fun hv =>
        h ⟨hmode ▸ hf, hmode ▸ hv⟩
      simp only [ne_eq, hmode, not_true, if_false]
      rw [hmode] at hvalid
      rw [setStatus_invalid hvalid]
      exact Prog.every_tryCatch (Prog.every_bind (keeping_setTask .running) fun _ => trivial)
        keeping_handler
    · simp only [ne_eq, hmode, not_false_eq_true, if_true]
      exact keeping_handler _

theorem positions_guardedLaunch (factory : String → Except String String) (mode : String) :
    (void (guardedLaunch factory mode)).Positions ExposedOrSafe := by
  by_cases h : Launches factory mode
  · have hx := Exposed.launch factory mode h
    have hnext := Exposed.launched mode h.2
    unfold guardedLaunch launch at hx ⊢
    rw [h.1] at hx ⊢
    simp only [ne_eq, not_true, if_false] at hx ⊢
    rw [setStatus_valid h.2] at hx hnext ⊢
    -- the task is created, then the running status is written
    exact ⟨Or.inl hx, fun _ => ⟨Or.inl hnext,
      fun _ => positions_keeping (keeping_void keeping_read)⟩⟩
  · exact positions_keeping (keeping_void (keeping_guardedLaunch h))

theorem starting_valid : upper (strip "STARTING") ∈ validStatuses := by decide

theorem positions_startIdle (factory : String → Except String String) (mode : String) :
    (void (startIdle factory mode)).Positions ExposedOrSafe := by
  by_cases h : Launches factory mode
  · have hx := Exposed.startIdle factory mode h
    have hnext := Exposed.startWritten factory mode h
    unfold startIdle at hx ⊢
    rw [setStatus_valid starting_valid] at hx ⊢
    exact ⟨Or.inl hx, fun _ => ⟨Or.inl hnext, fun _ => positions_guardedLaunch factory mode⟩⟩
  · refine positions_keeping (keeping_void ?_)
    exact Prog.every_bind (keeping_setStatus (by decide) _) fun _ => keeping_guardedLaunch h

/-- `start` without a launch. -/
theorem keeping_startChecked {factory : String → Except String String} {mode : String}
    (h : ¬ Launches factory mode) : Keeping (startChecked factory mode) := by
  refine Prog.every_query_bind.mpr fun w => Prog.every_ite (fun _ => keeping_read) fun _ => ?_
  exact Prog.every_bind (keeping_setStatus (by decide) _) fun _ => keeping_guardedLaunch h

theorem positions_startChecked (factory : String → Except String String) (mode : String) :
    (void (startChecked factory mode)).Positions ExposedOrSafe := by
  by_cases h : Launches factory mode
  · refine ⟨Or.inl (Exposed.startChecked factory mode h), fun w => ?_⟩
    by_cases htask : w.task = .running
    · have hread : Keeping (void (if decide (w.task = .running) = true then read
          else startIdle factory mode)) := by
        rw [if_pos (decide_eq_true htask)]
        exact keeping_void keeping_read
      exact positions_keeping hread
    · have hidle : (void (if decide (w.task = .running) = true then read
          else startIdle factory mode)).Positions ExposedOrSafe := by
        rw [if_neg (by rw [decide_eq_false htask]; decide)]
        exact positions_startIdle factory mode
      exact hidle
  · exact positions_keeping (keeping_void (keeping_startChecked h))

theorem safe_start (factory : String → Except String String) :
    (start factory).SafeUnder Killed Quiet := by
  unfold start read
  rw [Prog.safeUnder_query_bind]
  intro w hk _
  -- the first read sees the switch
  have hactive : (report w.row).killSwitchActive = true := hk
  rw [if_pos hactive]
  exact Prog.safeUnder_of_keeps (keeping_setStatus (by decide) _)

theorem safe_void {p : ControlCall RuntimeControlState} (h : p.SafeUnder Killed Quiet) :
    (void p).SafeUnder Killed Quiet := Prog.safeUnder_bind h fun _ => trivial

theorem positions_start (factory : String → Except String String) :
    (void (start factory)).Positions ExposedOrSafe := by
  refine ⟨Or.inr (safe_void (safe_start factory)), fun w => ?_⟩
  have hrest : (void (if (report w.row).killSwitchActive then
      setStatus "KILL_SWITCH_ACTIVE" none (some "KILL_SWITCH_ACTIVE")
      else startChecked factory (report w.row).modeRequested)).Positions ExposedOrSafe := by
    split
    · exact positions_keeping (keeping_void (keeping_setStatus (by decide) _))
    · exact positions_startChecked factory _
  exact hrest

theorem stopping_valid : upper (strip "STOPPING") ∈ validStatuses := by decide

theorem keeping_stopEnd (ends : Bool) :
    Keeping (if ends then setStatus "STOPPED" none none else Prog.raise .timeoutError) :=
  Prog.every_ite (fun _ => keeping_setStatus (by decide) _) fun _ => trivial

/-- `stop` that has read no mode. -/
theorem keeping_stopRunning {mode : Option String} (h : mode.filter (· ≠ "") = none) (ends : Bool) :
    Keeping (stopRunning mode ends) :=
  Prog.every_bind (keeping_setStatus ⟨h, by decide, by decide⟩ _) fun _ => keeping_stopEnd ends

theorem positions_stopRunning (mode : Option String) (ends : Bool) :
    (void (stopRunning mode ends)).Positions ExposedOrSafe := by
  by_cases h : mode.filter (· ≠ "") = none
  · exact positions_keeping (keeping_void (keeping_stopRunning h ends))
  · have hx := Exposed.stopRunning mode ends h
    unfold stopRunning at hx ⊢
    rw [setStatus_valid stopping_valid] at hx ⊢
    have hrest : Keeping (void (read >>= fun _ =>
        if ends then setStatus "STOPPED" none none else Prog.raise .timeoutError)) :=
      keeping_void (Prog.every_bind keeping_read fun _ => keeping_stopEnd ends)
    exact ⟨Or.inl hx, fun _ => positions_keeping hrest⟩

/-- What `stop` does once it has found a task. -/
theorem safe_stopRead (ends : Bool) :
    (read >>= fun state => stopRunning state.modeRunning ends).SafeUnder Killed Quiet := by
  unfold read
  rw [Prog.safeUnder_query_bind]
  intro w _ hq
  -- what is written back is what a quiet row reports: no mode
  have hmode : (report w.row).modeRunning = none := by
    by_contra h
    exact hq (Or.inl h)
  rw [hmode]
  exact Prog.safeUnder_of_keeps (keeping_stopRunning rfl ends)

theorem safe_stop (ends : Bool) : (stop ends).SafeUnder Killed Quiet := by
  unfold stop isRunning
  rw [Prog.safeUnder_query_bind]
  intro w _ _
  refine Prog.safeUnder_ite (fun _ => ?_) fun _ => safe_stopRead ends
  exact Prog.safeUnder_of_keeps (keeping_setStatus (by decide) _)

theorem positions_stop (ends : Bool) : (void (stop ends)).Positions ExposedOrSafe := by
  refine ⟨Or.inr (safe_void (safe_stop ends)), fun w => ?_⟩
  have hrest : (void (if (!decide (w.task = .running)) = true then setStatus "STOPPED" none none
      else read >>= fun state => stopRunning state.modeRunning ends)).Positions ExposedOrSafe := by
    split
    · exact positions_keeping (keeping_void (keeping_setStatus (by decide) _))
    · exact ⟨Or.inr (safe_void (safe_stopRead ends)), fun w => positions_stopRunning _ ends⟩
  exact hrest

/-- **Every position of every call is exposed or safe.** -/
theorem positions_call (a : Call) : a.body.Positions ExposedOrSafe := by
  rcases a with _ | _ | _ | _ | _ | _ <;> simp only [Call.body]
  · exact positions_keeping (keeping_void (keeping_setRequestedMode _ _ _ _))
  · exact positions_keeping (keeping_void (keeping_setKillSwitch _ _))
  · exact positions_setStatus _ _ _
  · exact positions_start _
  · exact positions_keeping (keeping_runLoop _)
  · exact positions_stop _

/-- A harmless call that begins under the switch is safe. -/
theorem safe_call {a : Call} (h : a.Harmless) : a.body.SafeUnder Killed Quiet := by
  rcases a with _ | _ | _ | _ | _ | _ <;> simp only [Call.body]
  · exact Prog.safeUnder_of_keeps (keeping_void (keeping_setRequestedMode _ _ _ _))
  · exact Prog.safeUnder_of_keeps (keeping_void (keeping_setKillSwitch _ _))
  · exact Prog.safeUnder_of_keeps (keeping_void (keeping_setStatus h _))
  · exact safe_void (safe_start _)
  · exact Prog.safeUnder_of_keeps (keeping_runLoop _)
  · exact safe_void (safe_stop _)

/-! ## 6. No exposed position can be left out -/

/-- A world that keeps the promise of the active switch. -/
def killedWorld : World :=
  { row := { initialRow with killSwitchActive := true }, audit := [], task := .absent }

theorem killed_killedWorld : Killed killedWorld := rfl

theorem quiet_killedWorld : Quiet killedWorld := by decide

theorem running_withStatus {status : String} {modeRunning : Option String}
    (h : ¬ HarmlessStatus status modeRunning) (lastError : Option String)
    (row : RuntimeControlState) :
    (report (withStatus (upper (strip status)) modeRunning lastError row)).Running := by
  by_cases hmode : modeRunning.filter (· ≠ "") = none
  · have hstatus : upper (strip status) = "RUNNING_PAPER" ∨
      upper (strip status) = "RUNNING_LIVE" := by
      by_contra hnot
      exact h ⟨hmode, fun hp => hnot (Or.inl hp), fun hl => hnot (Or.inr hl)⟩
    rcases hstatus with hs | hs
    · refine Or.inr (Or.inl ?_)
      show upperOr (upper (strip status)) "STOPPED" = "RUNNING_PAPER"
      rw [hs]
      decide
    · refine Or.inr (Or.inr ?_)
      show upperOr (upper (strip status)) "STOPPED" = "RUNNING_LIVE"
      rw [hs]
      decide
  · refine Or.inl fun hnone => hmode ?_
    exact Option.map_eq_none_iff.mp hnone

/-- A write that breaks the promise, first in what is left of a call. -/
theorem not_safe_setStatus {α : Type} {status : String} {modeRunning : Option String}
    (h : ¬ HarmlessStatus status modeRunning) (lastError : Option String)
    (next : World → ControlCall α) :
    ¬ (Prog.write (fun w =>
      { w with row := withStatus (upper (strip status)) modeRunning lastError w.row })
      next).SafeUnder Killed Quiet := fun hs =>
  (hs killedWorld killed_killedWorld quiet_killedWorld rfl).1
    (running_withStatus h lastError killedWorld.row)

/-- The status that `start` reports is a running one. -/
theorem launched_harmful {mode : String} (h : upper (strip ("RUNNING_" ++ mode)) ∈ validStatuses) :
    ¬ HarmlessStatus ("RUNNING_" ++ mode) (some mode) := by
  intro ⟨hmode, hpaper, hlive⟩
  have hempty : mode = "" := by
    by_contra hne
    rw [Option.filter_some, if_pos (decide_eq_true hne)] at hmode
    cases hmode
  rw [hempty] at h
  revert h
  decide

/-- **Each of these positions can break the promise.** -/
theorem exposed_unsafe {p : ControlCall Unit} (h : Exposed p) : ¬ p.SafeUnder Killed Quiet := by
  have hlaunched : ∀ {mode : String}, upper (strip ("RUNNING_" ++ mode)) ∈ validStatuses →
      ¬ (void ((setStatus ("RUNNING_" ++ mode) (some mode) none).tryCatch fun e =>
        setStatus "ERROR" none (some (errorText e)))).SafeUnder Killed Quiet := by
    intro mode hvalid
    rw [setStatus_valid hvalid]
    exact not_safe_setStatus (launched_harmful hvalid) none _
  have hlaunch : ∀ {factory : String → Except String String} {mode : String},
      Launches factory mode → ¬ (void (guardedLaunch factory mode)).SafeUnder Killed Quiet := by
    intro factory mode hl hs
    unfold guardedLaunch launch at hs
    rw [hl.1] at hs
    simp only [ne_eq, not_true, if_false] at hs
    exact hlaunched hl.2 (hs killedWorld killed_killedWorld quiet_killedWorld rfl).2
  have hidle : ∀ {factory : String → Except String String} {mode : String},
      Launches factory mode → ¬ (void (startIdle factory mode)).SafeUnder Killed Quiet := by
    intro factory mode hl hs
    unfold startIdle at hs
    rw [setStatus_valid starting_valid] at hs
    have hwritten := (hs killedWorld killed_killedWorld quiet_killedWorld rfl).2
    exact hlaunch hl (hwritten killedWorld killed_killedWorld quiet_killedWorld)
  cases h with
  | startChecked factory mode hl =>
    exact fun hs => hidle hl (hs killedWorld killed_killedWorld quiet_killedWorld)
  | startIdle factory mode hl => exact hidle hl
  | startWritten factory mode hl =>
    exact fun hs => hlaunch hl (hs killedWorld killed_killedWorld quiet_killedWorld)
  | launch factory mode hl => exact hlaunch hl
  | launched mode hvalid => exact hlaunched hvalid
  | stopRunning mode ends hmode =>
    intro hs
    unfold stopRunning at hs
    rw [setStatus_valid stopping_valid] at hs
    exact not_safe_setStatus (fun hharm => hmode hharm.1) none _ hs
  | setStatus status modeRunning lastError hvalid hharm =>
    rw [setStatus_valid hvalid]
    exact not_safe_setStatus hharm lastError _

/-! ## 7. Only the activation raises the switch -/

/-- A write that does not raise the switch. -/
def Lowers (w w' : World) : Prop := Killed w' → Killed w

theorem lowers_writeAudit (event : AuditEvent) : (writeAudit event).Every Lowers :=
  Prog.every_update fun _ hk => hk

theorem lowers_setTask (task : TaskState) : (setTask task).Every Lowers :=
  Prog.every_update fun _ hk => hk

theorem lowers_read : read.Every Lowers := Prog.every_query _

theorem lowers_writeStatus (status : String) (modeRunning lastError : Option String) :
    (writeStatus status modeRunning lastError).Every Lowers := by
  unfold writeStatus
  refine Prog.every_ite (fun _ => trivial) fun _ => ?_
  exact Prog.every_update_bind.mpr fun _ => ⟨fun hk => hk, lowers_read⟩

theorem lowers_setStatus (status : String) (modeRunning lastError : Option String) :
    (setStatus status modeRunning lastError).Every Lowers := by
  unfold setStatus
  generalize upper (strip status) = normalized
  exact lowers_writeStatus normalized modeRunning lastError

theorem lowers_void {p : ControlCall RuntimeControlState} (h : p.Every Lowers) :
    (void p).Every Lowers := Prog.every_bind h fun _ => trivial

theorem lowers_setRequestedMode (mode : String) (acknowledged : Bool) (source readiness : String) :
    (setRequestedMode mode acknowledged source readiness).Every Lowers := by
  unfold setRequestedMode read
  rw [Prog.every_query_bind]
  intro w
  generalize modeRefusal _ _ _ _ = refusal
  generalize upper (strip mode) = normalized
  rcases refusal with _ | error
  · refine Prog.every_bind (Prog.every_update fun _ hk => hk) fun _ => ?_
    exact Prog.every_bind (lowers_writeAudit _) fun _ => lowers_read
  · exact Prog.every_bind (lowers_writeAudit _) fun _ => trivial

theorem lowers_launch (factory : String → Except String String) (mode : String) :
    (launch factory mode).Every Lowers := by
  unfold launch
  rcases factory mode with text | actual
  · trivial
  · refine Prog.every_ite (fun _ => trivial) fun _ => ?_
    exact Prog.every_bind (lowers_setTask _) fun _ => lowers_setStatus _ _ _

theorem lowers_start (factory : String → Except String String) :
    (start factory).Every Lowers := by
  refine Prog.every_query_bind.mpr fun w => ?_
  refine Prog.every_ite (fun _ => lowers_setStatus _ _ _) fun _ => ?_
  refine Prog.every_query_bind.mpr fun w' => ?_
  refine Prog.every_ite (fun _ => Prog.every_query _) fun _ => ?_
  refine Prog.every_bind (lowers_setStatus _ _ _) fun _ => ?_
  exact Prog.every_tryCatch (lowers_launch _ _) fun _ => lowers_setStatus _ _ _

theorem lowers_runLoop (outcome : RunOutcome) : (runLoop outcome).Every Lowers := by
  refine Prog.every_bind ?_ fun _ => lowers_setTask .done
  rcases outcome with _ | text | _
  · exact lowers_void (lowers_setStatus _ _ _)
  · exact lowers_void (lowers_setStatus _ _ _)
  · trivial

theorem lowers_stop (ends : Bool) : (stop ends).Every Lowers := by
  refine Prog.every_query_bind.mpr fun w => ?_
  refine Prog.every_ite (fun _ => lowers_setStatus _ _ _) fun _ => ?_
  refine Prog.every_query_bind.mpr fun w' => ?_
  refine Prog.every_bind (lowers_setStatus _ _ _) fun _ => ?_
  rcases ends with _ | _
  · trivial
  · exact lowers_setStatus _ _ _

theorem rises_void {p : ControlCall RuntimeControlState} (h : p.RisesSafely Killed Quiet) :
    (void p).RisesSafely Killed Quiet :=
  Prog.risesSafely_bind h (fun _ => trivial) fun _ => trivial

theorem rises_setKillSwitch (active : Bool) (source : String) :
    (setKillSwitch active source).RisesSafely Killed Quiet := by
  have hrest (event : AuditEvent) : (writeAudit event >>= fun _ => read).Every Lowers :=
    Prog.every_bind (lowers_writeAudit event) fun _ => lowers_read
  rcases active with _ | _
  · refine Prog.risesSafely_of_every (Prog.every_query_bind.mpr fun w => ?_)
    exact Prog.every_bind (Prog.every_update fun _ hk => Bool.noConfusion hk) fun _ => hrest _
  · refine Prog.risesSafely_bind (Prog.risesSafely_update fun w _ => ?_) (fun _ => ?_) fun _ => ?_
    · exact quiet_switched source w.row
    · exact Prog.safeUnder_of_keeps (Prog.every_bind (keeping_writeAudit _) fun _ => keeping_read)
    · exact Prog.risesSafely_of_every (hrest _)

theorem rises_call (a : Call) : a.body.RisesSafely Killed Quiet := by
  rcases a with _ | _ | _ | _ | _ | _ <;> simp only [Call.body]
  · exact Prog.risesSafely_of_every (lowers_void (lowers_setRequestedMode _ _ _ _))
  · exact rises_void (rises_setKillSwitch _ _)
  · exact Prog.risesSafely_of_every (lowers_void (lowers_setStatus _ _ _))
  · exact Prog.risesSafely_of_every (lowers_void (lowers_start _))
  · exact Prog.risesSafely_of_every (lowers_runLoop _)
  · exact Prog.risesSafely_of_every (lowers_void (lowers_stop _))

/-! ## 8. Runs -/

/-- Under an active switch nobody writes a running status or mode by hand, and when the switch is
    activated no other call stands at an exposed position. -/
def OrderlyActivation (c : System) : Event ℕ Call → Prop
  | .call _ a => Killed c.state → a.Harmless
  | .move i => ¬ Killed c.state → Killed (c.next Call.body (.move i)).state →
      ∀ j p, j ≠ i → c.thread j = some p → ¬ Exposed p

theorem unexposed_of_orderly {c : System} {e : Event ℕ Call} (h : OrderlyActivation c e) :
    Unexposed Exposed Killed Quiet Call.body c e := by
  rcases e with ⟨i, a⟩ | i
  · exact fun hk => safe_call (h hk)
  · exact h

/-- **Nothing is reported running while the switch is active**, in whatever order the calls'
    reads and writes come. -/
theorem quiet_while_killed (w : World) (hw : Killed w → Quiet w) (events : List (Event ℕ Call))
    (horderly : Along (Config.next Call.body) OrderlyActivation (System.idle w) events) :
    let s := ((System.idle w).run Call.body events).state
    Killed s → Quiet s := by
  have hstart : Guarded Killed Quiet (System.idle w) :=
    { rises := fun i p h => nomatch h
      quiet := hw
      safe := fun _ i p h => nomatch h }
  exact (guarded_run_unexposed rises_call positions_call hstart (fun i p h => nomatch h) events
    (along_mono (fun _ _ => unexposed_of_orderly) events _ horderly)).quiet

theorem orderly_of_killed {c : System} {i : ℕ} (h : Killed c.state) :
    OrderlyActivation c (.move i) := fun hk => absurd h hk

theorem orderly_alone {c : System} {i : ℕ} (h : ∀ j, j ≠ i → c.thread j = none) :
    OrderlyActivation c (.move i) := by
  intro _ _ j p hj hp
  rw [h j hj] at hp
  cases hp

/-- An activation, and a start after it. -/
theorem quiet_while_killed_sample :
    let events : List (Event ℕ Call) :=
      [.call 1 (.setKillSwitch true "dashboard"), .move 1, .move 1, .call 0 (.start .ok),
        .move 0, .move 0]
    let s := ((System.idle initialWorld).run Call.body events).state
    Killed s ∧ Quiet s := by
  refine ⟨by decide +kernel, quiet_while_killed initialWorld (by decide +kernel) _ ?_
    (by decide +kernel)⟩
  refine ⟨fun _ => trivial, orderly_alone fun j hj => ?_, orderly_of_killed (by decide +kernel),
    fun _ => trivial, orderly_of_killed (by decide +kernel),
    orderly_of_killed (by decide +kernel), trivial⟩
  exact Function.update_of_ne hj _ _

end AlphaForge.Control
