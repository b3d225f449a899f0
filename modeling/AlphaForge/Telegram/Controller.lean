/-
  File:      AlphaForge/Telegram/Controller.lean
  Subject:   `telegram_controller.py` and the methods of the control store in
             `telegram_control.py`: what a verified request does and the response it gets.

  * `createConfirmation`, `consume`, `cancel`, `recordConfirmationResult` -- the
    methods: their checks, then one transaction.
  * `confirm` -- the claim of a confirmation, the action, the record of its result.
  * **`processTelegramRequest`** -- the dispatch over all commands.
  * `DispatchResult` -- a response, which is not empty.
-/
import AlphaForge.Lib.Decimal
import AlphaForge.Telegram.Adapter

namespace AlphaForge.Telegram

open AlphaForge.Lib hiding strip upper
open AlphaForge.Lib.PyText

/-! ## 1. The control store -/

/-- A character of `[A-Za-z0-9_.:-]`. -/
def tokenChar (c : Char) : Bool :=
  alphanumeric c || c == '_' || c == '.' || c == ':' || c == '-'

/-- `_safe_token`. -/
def safeToken (value code : String) : Except Raised String :=
  let text := strip value
  if 1 ≤ text.length && text.length ≤ 128 && text.toList.all tokenChar then .ok text
  else .error (.controlError code)

/-- `_confirmation_id`. -/
def checkedConfirmationId (value : String) : Except Raised String :=
  let text := strip value
  if isConfirmationId text then .ok text else .error (.controlError "INVALID_CONFIRMATION_ID")

/-- `CONFIRMABLE_OPERATIONS`. -/
def confirmableOperations : List String := ["PAUSE", "RESUME", "RECOVERY"]

variable {F : Type} (u : Unicode) (iso : ℤ → String)

/-- `create_confirmation`. -/
def createConfirmation (operation campaignId runId : String) (ttlSeconds : ℚ) :
    Proc F Confirmation := do
  let operation := u.upper operation
  if !confirmableOperations.contains operation then
    .raise (.controlError "UNSUPPORTED_OPERATION")
  else
    let campaignId ← .lift (safeToken campaignId "INVALID_CAMPAIGN_ID")
    let runId ← .lift (safeToken runId "INVALID_RUN_ID")
    let ttl := min (max ttlSeconds 15) 600
    let now ← call .readClock
    let expires := now + roundHalfEven (ttl * 1000000)
    let confirmationId ← .lift (checkedConfirmationId (← call .idFactory))
    let row : Confirmation :=
      { confirmationId := confirmationId
        operation := operation
        campaignId := campaignId
        runId := runId
        status := .pending
        createdAt := now
        expiresAt := expires
        consumedAt := none
        resultCode := none }
    call (.insertConfirmation row)
    return row

/-- The checks of the arguments that two methods share. -/
def confirmationArguments (confirmationId campaignId runId : String) :
    Except Raised (String × String × String) := do
  let confirmationId ← checkedConfirmationId confirmationId
  let campaignId ← safeToken campaignId "INVALID_CAMPAIGN_ID"
  let runId ← safeToken runId "INVALID_RUN_ID"
  return (confirmationId, campaignId, runId)

/-- `consume_confirmation`. -/
def consume (confirmationId campaignId runId : String) : Proc F Confirmation := do
  let (confirmationId, campaignId, runId) ←
    .lift (confirmationArguments confirmationId campaignId runId)
  call (.consumeConfirmation confirmationId campaignId runId)

/-- `cancel_confirmation`. -/
def cancel (confirmationId campaignId runId : String) : Proc F String := do
  let (confirmationId, campaignId, runId) ←
    .lift (confirmationArguments confirmationId campaignId runId)
  call (.cancelConfirmation confirmationId campaignId runId)

/-- `record_confirmation_result`. -/
def recordConfirmationResult (confirmationId resultCode : String) : Proc F Unit := do
  let confirmationId ← .lift (checkedConfirmationId confirmationId)
  let resultCode ← .lift (safeToken resultCode "INVALID_RESULT_CODE")
  call (.recordConfirmationResult confirmationId resultCode)

/-! ## 2. Responses -/

/-- `RemoteControlDispatchResult`, as `_dispatch_result` builds it: what is sent is not empty. -/
structure DispatchResult where
  command : String
  returncode : ℤ
  stdout : String
  stderr : String
  formatted : String
  formatted_ne : formatted.toList ≠ []

/-- `text.replace("\r", " ").replace("\n", " ")`. -/
def oneLine (text : String) : List Char :=
  text.toList.map fun c => if c = '\r' ∨ c = '\n' then ' ' else c

/-- `_safe_output`. -/
def safeOutput (value : String) (maxOutputChars : ℤ) : String :=
  String.ofList ((oneLine value).take (max 1 maxOutputChars).toNat)

/-- The parts of a response, joined. -/
def formatResponse (command : String) (returncode : ℤ) (stdout stderr : String) : String :=
  let status := if returncode = 0 then "OK" else "FAIL"
  command ++ ": " ++ status ++ s!" rc={returncode}" ++
    (if stdout.isEmpty then "" else " | stdout=" ++ stdout) ++
    (if stderr.isEmpty then "" else " | stderr=" ++ stderr)

theorem formatResponse_ne (command : String) (returncode : ℤ) (stdout stderr : String) :
    (formatResponse command returncode stdout stderr).toList ≠ [] := by
  unfold formatResponse
  dsimp only
  simp only [String.toList_append]
  simp

/-- `_dispatch_result`. -/
def dispatchResult (command : String) (returncode : ℤ) (stdout stderr : String)
    (maxOutputChars : ℤ) : DispatchResult :=
  let safeStdout := safeOutput stdout maxOutputChars
  let safeStderr := safeOutput stderr maxOutputChars
  { command := command
    returncode := returncode
    stdout := safeStdout
    stderr := safeStderr
    formatted := formatResponse command returncode safeStdout safeStderr
    formatted_ne := formatResponse_ne _ _ _ _ }

/-- `TELEGRAM_EXECUTOR_COMMANDS`. -/
def telegramExecutorCommands : List String := ["STATUS", "HEALTH"]

/-- `TELEGRAM_QUERY_COMMANDS`. -/
def telegramQueryCommands : List String := ["REPORT", "REJECTS", "LABELS", "ERRORS", "PREFLIGHT"]

/-- `TELEGRAM_CONTROLLER_COMMANDS`. -/
def telegramControllerCommands : List String :=
  telegramExecutorCommands ++ telegramQueryCommands ++ confirmableOperations ++
    ["CONFIRM", "CANCEL", "HELP"]

/-- `_safe_failure`. -/
def safeFailure (command message : String) (maxOutputChars : ℤ) : DispatchResult :=
  let safeCommand := if telegramControllerCommands.contains command then command else "UNSUPPORTED"
  dispatchResult safeCommand 1 "" message maxOutputChars

/-- `_validated_result`. -/
def validatedResult (expectedCommand : String) (result : Option RemoteControlResult)
    (maxOutputChars : ℤ) : DispatchResult :=
  match result with
  | none => safeFailure expectedCommand "INVALID_EXECUTOR_RESULT" maxOutputChars
  | some r =>
    if r.command ≠ expectedCommand then
      safeFailure expectedCommand "INVALID_EXECUTOR_RESULT" maxOutputChars
    else dispatchResult r.command r.returncode r.stdout r.stderr maxOutputChars

/-- `SAFE_QUERY_ERROR`. -/
def safeQueryError : String := "remote control query failed safely"

/-- `SAFE_CONTROL_ERROR`. -/
def safeControlError : String := "remote control executor failed safely"

/-- `build_telegram_help_text`. -/
def telegramHelpText : String :=
  "Supported commands: /status /health /report /rejects /labels /errors /help /preflight /pause " ++
    "/resume /recovery /confirm <id> /cancel <id>. PAPER mutations require expiring single-use " ++
    "confirmation; LIVE/order mutation is unavailable."

/-! ## 3. The controller -/

/-- The values of the remote configuration; `none` where the mapping has none. -/
structure RemoteConfig where
  dbPath : Option String
  campaignId : Option String
  runId : Option String
  deriving DecidableEq, Repr

/-- `_required_trusted_text`. -/
def requiredTrustedText : Option String → Except Raised String
  | none => .error (.valueError "trusted config value unavailable")
  | some value =>
    if (strip value).isEmpty then .error (.valueError "trusted config value unavailable")
    else .ok (strip value)

/-- `_trusted_config_values`. -/
def trustedConfigValues (config : RemoteConfig) : Except Raised TrustedConfig := do
  let dbPath ← requiredTrustedText config.dbPath
  let campaignId ← requiredTrustedText config.campaignId
  let runId ← requiredTrustedText config.runId
  return ⟨dbPath, campaignId, runId⟩

/-- `map_remote_command` of STATUS or HEALTH. -/
def mapRemoteCommand (command : String) (trusted : TrustedConfig) : RemoteControlCommand :=
  ⟨command, ["burnin_ops", "--db", trusted.dbPath, if command = "STATUS" then "status"
    else "health",
    "--campaign-id", trusted.campaignId, "--run-id", trusted.runId]⟩

/-- What `process_telegram_request` is called with besides the request. -/
structure Wiring where
  config : RemoteConfig
  /-- `executor is not None`. -/
  hasExecutor : Bool
  /-- A control store is passed, or the executor carries one. -/
  hasControlStore : Bool
  confirmationTtlSeconds : ℚ
  maxOutputChars : ℤ

variable (env : Wiring)

def fail (command message : String) : DispatchResult :=
  safeFailure command message env.maxOutputChars

/-- STATUS and HEALTH. -/
def runExecutor (command : RemoteControlCommand) (trusted : TrustedConfig) :
    Proc F DispatchResult := do
  if command.argv ≠ [command.name] then return fail env command.name "UNSUPPORTED_COMMAND"
  else if !env.hasExecutor then return fail env command.name "EXECUTOR_UNAVAILABLE"
  else
    match ← (call (.execute (mapRemoteCommand command.name trusted) trusted)).attempt with
    | .error _ => return fail env command.name safeControlError
    | .ok result => return validatedResult command.name result env.maxOutputChars

/-- The read-only queries. -/
def runQuery (command : RemoteControlCommand) (trusted : TrustedConfig) :
    Proc F DispatchResult := do
  if command.argv ≠ [command.name] then return fail env command.name "UNSUPPORTED_COMMAND"
  else
    match ← (call (.execute command trusted)).attempt with
    | .error _ => return fail env command.name safeQueryError
    | .ok result => return validatedResult command.name result env.maxOutputChars

/-- PAUSE, RESUME and RECOVERY ask for a confirmation. -/
def requestConfirmation (command : RemoteControlCommand) (trusted : TrustedConfig) :
    Proc F DispatchResult := do
  if command.argv ≠ [command.name] then return fail env command.name "UNSUPPORTED_COMMAND"
  else if !env.hasControlStore then return fail env command.name "CONTROL_STORE_UNAVAILABLE"
  else
    match ← (createConfirmation u command.name trusted.campaignId trusted.runId
        env.confirmationTtlSeconds).attempt with
    | .error _ => return fail env command.name safeControlError
    | .ok pending =>
      return dispatchResult command.name 0
        (s!"CONFIRM_REQUIRED id={pending.confirmationId} operation={pending.operation} " ++
          s!"expires={iso pending.expiresAt}") "" env.maxOutputChars

/-- What an exception of the control store is answered with. -/
def controlFailure (command : String) : Raised → DispatchResult
  | .controlError code => fail env command code
  | _ => fail env command safeControlError

/-- CANCEL. -/
def cancelRequest (confirmationId : String) (trusted : TrustedConfig) : Proc F DispatchResult := do
  match ← (cancel confirmationId trusted.campaignId trusted.runId).attempt with
  | .error e => return controlFailure env "CANCEL" e
  | .ok operation =>
    return dispatchResult "CANCEL" 0 s!"CANCELLED id={confirmationId} operation={operation}" ""
      env.maxOutputChars

/-- The response of a confirmed action whose result was recorded, or need not be. -/
def actionResponse (operation : String) (result : Option RemoteControlResult) : DispatchResult :=
  match result with
  | none => fail env "CONFIRM" "INVALID_EXECUTOR_RESULT"
  | some r =>
    if r.command ≠ operation then fail env "CONFIRM" "INVALID_EXECUTOR_RESULT"
    else
      dispatchResult "CONFIRM" r.returncode (strip s!"{operation} {r.stdout}") r.stderr
        env.maxOutputChars

/-- `"SUCCESS" if … result.returncode == 0 else "FAILED"`. -/
def resultCode : Option RemoteControlResult → String
  | some r => if r.returncode = 0 then "SUCCESS" else "FAILED"
  | none => "FAILED"

/-- What the action returned; an exception counts as a failure. -/
def actionResult (operation : String) :
    Except Raised (Option RemoteControlResult) → Option RemoteControlResult
  | .ok r => r
  | .error _ => some ⟨operation, 1, "", safeControlError⟩

/-- The action of a claimed confirmation and the record of its result. -/
def act (confirmationId : String) (pending : Confirmation) (trusted : TrustedConfig) :
    Proc F DispatchResult := do
  let called ← (call (.action pending.confirmationId pending.operation trusted)).attempt
  let result := actionResult pending.operation called
  match ← (recordConfirmationResult confirmationId (resultCode result)).attempt with
  | .error _ =>
    if resultCode result = "SUCCESS" then return fail env "CONFIRM" "CONTROL_AUDIT_PERSIST_FAILED"
    else return actionResponse env pending.operation result
  | .ok _ => return actionResponse env pending.operation result

/-- CONFIRM. -/
def confirm (confirmationId : String) (trusted : TrustedConfig) : Proc F DispatchResult := do
  match ← (consume confirmationId trusted.campaignId trusted.runId).attempt with
  | .error e => return controlFailure env "CONFIRM" e
  | .ok pending => act env confirmationId pending trusted

/-- CONFIRM and CANCEL. -/
def runConfirmation (command : RemoteControlCommand) (trusted : TrustedConfig) :
    Proc F DispatchResult := do
  match command.argv with
  | [name, confirmationId] =>
    if name ≠ command.name then return fail env command.name "UNSUPPORTED_COMMAND"
    else if !env.hasControlStore then return fail env command.name "CONTROL_STORE_UNAVAILABLE"
    else if command.name = "CANCEL" then cancelRequest env confirmationId trusted
    else confirm env confirmationId trusted
  | _ => return fail env command.name "UNSUPPORTED_COMMAND"

/-- `process_telegram_request`. -/
def processTelegramRequest (request : Request) : Proc F DispatchResult := do
  let command := request.command
  if command.name = "HELP" then
    return dispatchResult "HELP" 0 telegramHelpText "" env.maxOutputChars
  else if !telegramControllerCommands.contains command.name then
    return fail env command.name "UNSUPPORTED_COMMAND"
  else
    match trustedConfigValues env.config with
    | .error _ => return fail env command.name safeControlError
    | .ok trusted =>
      if telegramExecutorCommands.contains command.name then runExecutor env command trusted
      else if telegramQueryCommands.contains command.name then runQuery env command trusted
      else if confirmableOperations.contains command.name then
        requestConfirmation u iso env command trusted
      else runConfirmation env command trusted

end AlphaForge.Telegram
