/-
  File:      AlphaForge/Telegram/Adapter.lean
  Subject:   `telegram_adapter.py` and the replay and audit store of `audit.py`: how an update
             becomes a verified request, once.

  * `requiredId`, `authorize`, `parseTelegramRemoteCommand` -- the checks of an update, in the
    order of the source; `readUpdate` -- all of them, with what the audit row will name.
  * `processTelegramUpdate` -- the checks, the reservation of the update's id, the audit row.
  * `normalizedId_requiredId` -- an integer id that was accepted is one the transport database
    takes.
-/
import AlphaForge.Telegram.World

namespace AlphaForge.Telegram

open AlphaForge.Lib hiding strip
open AlphaForge.Lib.PyText

/-- A program of the service. -/
abbrev Proc (F α : Type) := Task Op (Reply F) Raised α

/-- One call; what it raises goes on. -/
def call {F : Type} (op : Op) : Proc F (Reply F op) := .invoke op

/-- `TelegramRemoteControlConfig`, with normalized ids. -/
structure TelegramRemoteControlConfig where
  allowedUserIds : List String
  allowedChatIds : List String

variable {F : Type} (u : Unicode)

/-! ## 1. The checks of an update -/

def malformed : Raised := .valueError "MALFORMED_UPDATE"

/-- `_required_id`. -/
def requiredId (value : Value F) : Except Raised String :=
  let normalize (text : String) : Except Raised String :=
    let normalized := strip text
    if normalized.isEmpty || 64 < normalized.length then .error malformed
    else if !digitsAfterSign u normalized then .error malformed
    else .ok normalized
  match value with
  | .int n => normalize (toString n)
  | .text s => normalize s
  | _ => .error malformed

/-- `_required_mapping`. -/
def requiredMapping : Value F → Except Raised (Payload F)
  | .mapping entries => .ok entries
  | _ => .error malformed

/-- `_required_text`. -/
def requiredText : Value F → Except Raised String
  | .text s => if (strip s).isEmpty then .error malformed else .ok s
  | _ => .error malformed

def unauthorized : Raised := .valueError "UNAUTHORIZED_IDENTITY"

/-- `_authorize`. -/
def authorize (config : TelegramRemoteControlConfig) (userId chatId : String) :
    Except Raised Unit :=
  if config.allowedUserIds.isEmpty && config.allowedChatIds.isEmpty then .error unauthorized
  else if !config.allowedUserIds.isEmpty && !config.allowedUserIds.contains userId then
    .error unauthorized
  else if !config.allowedChatIds.isEmpty && !config.allowedChatIds.contains chatId then
    .error unauthorized
  else .ok ()

/-- `ALLOWED_TELEGRAM_COMMANDS`. -/
def allowedTelegramCommands : List (String × String) :=
  [("/status", "STATUS"), ("/health", "HEALTH"), ("/report", "REPORT"), ("/rejects", "REJECTS"),
    ("/labels", "LABELS"), ("/errors", "ERRORS"), ("/preflight", "PREFLIGHT"), ("/pause", "PAUSE"),
    ("/resume", "RESUME"), ("/recovery", "RECOVERY"), ("/help", "HELP")]

/-- `_ARGUMENT_COMMANDS`. -/
def argumentCommands : List (String × String) := [("/confirm", "CONFIRM"), ("/cancel", "CANCEL")]

/-- A character of `[A-Za-z0-9]`. -/
def alphanumeric (c : Char) : Bool :=
  ('a' ≤ c && c ≤ 'z') || ('A' ≤ c && c ≤ 'Z') || ('0' ≤ c && c ≤ '9')

/-- `_CONFIRMATION_ID.fullmatch`. -/
def isConfirmationId (s : String) : Bool :=
  16 ≤ s.length && s.length ≤ 96 && s.toList.all fun c => alphanumeric c || c == '_' || c == '-'

def unsupportedCommand : Raised := .valueError "UNSUPPORTED_COMMAND"

/-- `_parse_telegram_remote_command`. -/
def parseTelegramRemoteCommand (text : String) : Except Raised RemoteControlCommand :=
  let stripped := strip text
  if stripped.isEmpty then .error malformed
  else if stripped.toList.contains '\n' || stripped.toList.contains '\r' || 128 <
    stripped.length then
    .error malformed
  else if !stripped.toList.any isSpace then
    match allowedTelegramCommands.lookup (u.lower stripped) with
    | none => .error unsupportedCommand
    | some name => .ok ⟨name, [name]⟩
  else
    match splitOn stripped.toList with
    | [command, argument] =>
      if command.isEmpty || argument.isEmpty || argument.any isSpace then .error unsupportedCommand
      else
        match argumentCommands.lookup (u.lower (String.ofList command)) with
        | none => .error unsupportedCommand
        | some name =>
          if isConfirmationId (String.ofList argument) then
            .ok ⟨name, [name, String.ofList argument]⟩
          else .error unsupportedCommand
    | _ => .error unsupportedCommand

/-! ## 2. The update -/

/-- What the handler of the exceptions knows of the update. -/
structure Seen where
  updateId : Option String
  identity : Option String
  commandName : Option String
  deriving DecidableEq, Repr

/-- The text, the user and the chat of a message. -/
def readMessage (update : Payload F) : Except Raised (String × String × String) := do
  let message ← requiredMapping (update.get "message")
  let text ← requiredText (message.get "text")
  let sender ← requiredMapping (message.get "from")
  let chat ← requiredMapping (message.get "chat")
  let userId ← requiredId u (sender.get "id")
  let chatId ← requiredId u (chat.get "id")
  return (text, userId, chatId)

/-- The update up to the reservation of its id. -/
def readUpdate (config : TelegramRemoteControlConfig) (update : Payload F) :
    Seen × Except Raised Request :=
  match requiredId u (update.get "update_id") with
  | .error e => (⟨none, none, none⟩, .error e)
  | .ok updateId =>
    match readMessage u update with
    | .error e => (⟨some updateId, none, none⟩, .error e)
    | .ok (text, userId, chatId) =>
      let identity := s!"telegram:user_id={userId};chat_id={chatId}"
      match authorize config userId chatId with
      | .error e => (⟨some updateId, some identity, none⟩, .error e)
      | .ok () =>
        match parseTelegramRemoteCommand u text with
        | .error e => (⟨some updateId, some identity, none⟩, .error e)
        | .ok command =>
          (⟨some updateId, some identity, some command.name⟩,
            .ok ⟨updateId, userId, chatId, identity, command⟩)

/-- `SQLiteReplayStore.reserve`. -/
def reserve (messageId : String) : Proc F Bool := do
  let messageId := strip messageId
  if messageId.isEmpty then .raise (.valueError "message_id must be a non-empty string")
  else if 128 < messageId.length then .raise (.valueError "message_id is too long")
  else call (.claimMessageId messageId)

/-- `_strip_optional`. -/
def stripOptional (value : Option String) : Option String :=
  match value with
  | none => none
  | some s => if (strip s).isEmpty then none else some (strip s)

/-- `record_remote_control_audit` of a Telegram update. -/
def recordRemoteControlAudit (seen : Seen) (result : String) (rejectionReason : Option String) :
    Proc F Unit :=
  call (.insertAudit
    { transport := "telegram"
      updateId := stripOptional seen.updateId
      authorizedIdentity := stripOptional seen.identity
      normalizedCommand := stripOptional seen.commandName
      result := result
      rejectionReason := stripOptional rejectionReason })

/-- `TelegramRemoteControlAdapterResult`. -/
structure AdapterResult where
  accepted : Bool
  command : Option String
  rejectionReason : Option String
  request : Option Request
  deriving DecidableEq

/-- The reservation and the audit of an accepted request. -/
def acceptRequest (seen : Seen) (request : Request) : Proc F AdapterResult := do
  let reserved ← reserve s!"telegram:{request.updateId}"
  if reserved then
    recordRemoteControlAudit seen "ACCEPTED" none
    return ⟨true, seen.commandName, none, some request⟩
  else .raise (.valueError "DUPLICATE_UPDATE_ID")

/-- The handler of the exceptions of an update. -/
def rejectUpdate (seen : Seen) (reason : String) : Proc F AdapterResult := do
  let reason := if reason.isEmpty then "MALFORMED_UPDATE" else reason
  recordRemoteControlAudit seen "REJECTED" (some reason)
  return ⟨false, seen.commandName, some reason, none⟩

/-- `process_telegram_update`. Only `CommandParseError` and `ValueError` are caught. -/
def processTelegramUpdate (config : TelegramRemoteControlConfig) (update : Payload F) :
    Proc F AdapterResult := do
  let (seen, outcome) := readUpdate u config update
  match outcome with
  | .error (.valueError reason) => rejectUpdate seen reason
  | .error e => .raise e
  | .ok request =>
    match ← (acceptRequest seen request).attempt with
    | .ok result => return result
    | .error (.valueError reason) => rejectUpdate seen reason
    | .error e => .raise e

/-! ## 3. Ids -/

/-- `_validate_normalized_id`: what the transport database takes for an id. -/
def normalizedId (value : String) : Bool :=
  !value.isEmpty && value.length ≤ 64 && digitsAfterSign u value && canonicalInt value

variable {u}

/-- An accepted integer id is in the form the transport database takes. -/
theorem normalizedId_requiredId {n : ℤ} {s : String}
    (h : requiredId u (.int n : Value F) = .ok s) : normalizedId u s = true := by
  unfold requiredId at h
  dsimp only at h
  rw [strip_toString] at h
  split at h
  · cases h
  · rename_i hsize
    split at h
    · cases h
    · rename_i hdigits
      obtain rfl := Except.ok.inj h
      unfold normalizedId
      rw [canonicalInt_toString]
      simp only [Bool.or_eq_true, decide_eq_true_eq, not_or, not_lt] at hsize
      simp only [Bool.not_eq_true, Bool.not_eq_false'] at hdigits
      rw [Bool.eq_false_iff.mpr hsize.1, decide_eq_true hsize.2, hdigits]
      rfl

end AlphaForge.Telegram
