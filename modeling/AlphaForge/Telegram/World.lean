/-
  File:      AlphaForge/Telegram/World.lean
  Subject:   What the Telegram service of `remote_control/` acts on: the replay and audit database
             (`audit.py`), the transport database (`telegram_state.py`), the confirmations
             (`telegram_control.py`), the Telegram API and the executors, each as a call that may
             fail.

  A transaction is one call: it commits or leaves its database as it was. `History` is written by
  the calls and read by none of them.

  * `Op`, `Reply` -- the calls and what they answer; `Answer` -- what the environment decides.
  * `consumeConfirmation` -- the transaction that claims a confirmation.
  * **`perform`** -- what each call does.
-/
import AlphaForge.Lib.Payload
import AlphaForge.Lib.PyText
import AlphaForge.Lib.Tasks

namespace AlphaForge.Telegram

open AlphaForge.Lib

/-! ## 1. Requests and rows -/

/-- What the code raises; a `CommandParseError` is a `ValueError`. -/
inductive Raised where
  | valueError (reason : String)
  | controlError (code : String)
  | other
  deriving DecidableEq, Repr

structure RemoteControlCommand where
  name : String
  argv : List String
  deriving DecidableEq, Repr

structure RemoteControlResult where
  command : String
  returncode : ℤ
  stdout : String
  stderr : String
  deriving DecidableEq, Repr

/-- `VerifiedTelegramRemoteControlRequest`; only the adapter mints one. -/
structure Request where
  updateId : String
  userId : String
  chatId : String
  authorizedIdentity : String
  command : RemoteControlCommand
  deriving DecidableEq, Repr

/-- The trusted values a command runs with. -/
structure TrustedConfig where
  dbPath : String
  campaignId : String
  runId : String
  deriving DecidableEq, Repr

/-- A row of `remote_control_audit`. -/
structure AuditRow where
  transport : String
  updateId : Option String
  authorizedIdentity : Option String
  normalizedCommand : Option String
  result : String
  rejectionReason : Option String
  deriving DecidableEq, Repr

/-- A row of `telegram_pending_deliveries`; every row is PENDING. -/
structure PendingRow where
  updateId : String
  chatId : String
  text : String
  failureReason : Option String
  retryCount : ℕ
  /-- In seconds. -/
  createdAt : ℤ
  deriving DecidableEq, Repr

inductive Status where
  | pending
  | consumed
  | cancelled
  | expired
  deriving DecidableEq, Repr

/-- A row of `telegram_confirmations`; times in microseconds. -/
structure Confirmation where
  confirmationId : String
  operation : String
  campaignId : String
  runId : String
  status : Status
  createdAt : ℤ
  expiresAt : ℤ
  consumedAt : Option ℤ
  resultCode : Option String
  deriving DecidableEq, Repr

/-! ## 2. History -/

/-- A point the transport passes. -/
inductive Note where
  /-- `rejected += 1`, for an update with this `_update_id`. -/
  | rejected (updateId : Option ℤ)
  /-- `process_telegram_request(…)` takes the request. -/
  | dispatched (request : Request)

/-- A confirmation was created while this request was processed. -/
structure Creation where
  confirmationId : String
  request : Option Request
  deriving DecidableEq

/-- A confirmation was claimed: its row before, the clock, and for which campaign and run. -/
structure Consumption where
  row : Confirmation
  now : ℤ
  campaignId : String
  runId : String
  deriving DecidableEq

/-- A control action was executed for a confirmation, while this request was processed. -/
structure ActionCall where
  confirmationId : String
  operation : String
  config : TrustedConfig
  request : Option Request
  deriving DecidableEq

/-- What has happened, the latest first. -/
structure History where
  /-- The ids of the updates received. -/
  seen : List ℤ
  rejected : List (Option ℤ)
  dispatched : List Request
  delivered : List String
  created : List Creation
  consumed : List Consumption
  actions : List ActionCall

/-! ## 3. Calls -/

structure World where
  -- `replay.sqlite3`
  replayIds : List String
  auditRows : List AuditRow
  -- `transport.sqlite3`
  nextOffset : Option ℤ
  pending : List PendingRow
  -- `control.sqlite3`
  confirmations : List Confirmation
  history : History

inductive Op where
  | note (n : Note)
  | claimMessageId (messageId : String)
  | insertAudit (row : AuditRow)
  | loadOffset
  | acknowledgeOffset (nextOffset : ℤ)
  | persistPendingWithOffset (updateId chatId text : String) (nextOffset : ℤ)
  | selectPending
  | recordDeliveryFailure (updateId : String)
  | markDelivered (updateId : String)
  | readClock
  | idFactory
  | insertConfirmation (row : Confirmation)
  | consumeConfirmation (confirmationId campaignId runId : String)
  | cancelConfirmation (confirmationId campaignId runId : String)
  | recordConfirmationResult (confirmationId resultCode : String)
  | getUpdates (offset : Option ℤ)
  | sendMessage (chatId text : String)
  /-- `executor` of STATUS and HEALTH, `query_executor` of the queries. -/
  | execute (command : RemoteControlCommand) (config : TrustedConfig)
  /-- `action_executor`; the confirmation is carried for the history. -/
  | action (confirmationId operation : String) (config : TrustedConfig)

/-- What a call answers when it does not raise. An executor may answer something that is no
    `RemoteControlResult`. -/
abbrev Reply (F : Type) : Op → Type
  | .claimMessageId _ => Bool
  | .loadOffset => Option ℤ
  | .acknowledgeOffset _ => ℤ
  | .persistPendingWithOffset _ _ _ _ => ℤ
  | .selectPending => List PendingRow
  | .readClock => ℤ
  | .idFactory => String
  | .consumeConfirmation _ _ _ => Confirmation
  | .cancelConfirmation _ _ _ => String
  | .getUpdates _ => Value F
  | .sendMessage _ _ => Value F
  | .execute _ _ => Option RemoteControlResult
  | .action _ _ _ => Option RemoteControlResult
  | _ => Unit

/-- What the environment decides about a call: it fails, it commits while the clock shows `now`,
    or somebody answers. -/
inductive Answer (F : Type) where
  | fault
  | done (now : ℤ)
  /-- It commits, and raises all the same. -/
  | lost (now : ℤ)
  | text (s : String)
  | payload (v : Value F)
  | result (r : Option RemoteControlResult)

/-! ## 4. Transactions -/

/-- `_validate_stored_offset` of the text of an offset. -/
def storedOffset : Option ℤ → Except Raised (Option ℤ)
  | none => .ok none
  | some n =>
    if 65 < (toString n).length then .error (.valueError "invalid persisted Telegram offset")
    else .ok (some n)

/-- `_write_monotonic_offset`: the offset written. -/
def writeMonotonicOffset (stored : Option ℤ) (nextOffset : ℤ) : Except Raised ℤ := do
  match ← storedOffset stored with
  | none => return nextOffset
  | some current => return max current nextOffset

/-- INSERT … ON CONFLICT(update_id) DO UPDATE. -/
def upsertPending (rows : List PendingRow) (updateId chatId text : String) (createdAt : ℤ) :
    List PendingRow :=
  if rows.any (·.updateId == updateId) then
    rows.map fun r => if r.updateId = updateId then { r with chatId := chatId, text := text } else r
  else rows ++ [⟨updateId, chatId, text, none, 0, createdAt⟩]

/-- ORDER BY created_at, update_id. -/
def PendingRow.before (a b : PendingRow) : Prop :=
  a.createdAt < b.createdAt ∨ (a.createdAt = b.createdAt ∧ a.updateId ≤ b.updateId)

instance (a b : PendingRow) : Decidable (a.before b) := by
  unfold PendingRow.before
  infer_instance

/-- `UPDATE telegram_confirmations … WHERE confirmation_id=?`. -/
def updateConfirmation (rows : List Confirmation) (confirmationId : String)
    (f : Confirmation → Confirmation) : List Confirmation :=
  rows.map fun r => if r.confirmationId = confirmationId then f r else r

def findConfirmation (rows : List Confirmation) (confirmationId : String) : Option Confirmation :=
  rows.find? fun r => r.confirmationId == confirmationId

/-- The transaction of `consume_confirmation`. A refusal of an expired or foreign confirmation is
    committed before it is raised. -/
def consumeConfirmation (rows : List Confirmation) (confirmationId campaignId runId : String)
    (now : ℤ) : Except Raised Confirmation × List Confirmation :=
  match findConfirmation rows confirmationId with
  | none => (.error (.controlError "CONFIRMATION_NOT_FOUND"), rows)
  | some row =>
    if row.status ≠ .pending then (.error (.controlError "CONFIRMATION_NOT_PENDING"), rows)
    else if row.expiresAt ≤ now then
      (.error (.controlError "CONFIRMATION_EXPIRED"),
        updateConfirmation rows confirmationId fun r => { r with status := .expired })
    else if row.campaignId ≠ campaignId ∨ row.runId ≠ runId then
      (.error (.controlError "CONFIRMATION_IDENTITY_MISMATCH"),
        updateConfirmation rows confirmationId fun r =>
          { r with status := .cancelled, resultCode := some "IDENTITY_MISMATCH" })
    else
      (.ok row,
        updateConfirmation rows confirmationId fun r =>
          { r with status := .consumed, consumedAt := some now })

/-- The transaction of `cancel_confirmation`. -/
def cancelConfirmation (rows : List Confirmation) (confirmationId campaignId runId : String) :
    Except Raised String × List Confirmation :=
  match findConfirmation rows confirmationId with
  | none => (.error (.controlError "CONFIRMATION_NOT_FOUND"), rows)
  | some row =>
    if row.campaignId ≠ campaignId ∨ row.runId ≠ runId then
      (.error (.controlError "CONFIRMATION_IDENTITY_MISMATCH"), rows)
    else if row.status ≠ .pending then (.error (.controlError "CONFIRMATION_NOT_PENDING"), rows)
    else
      (.ok row.operation,
        updateConfirmation rows confirmationId fun r =>
          { r with status := .cancelled, resultCode := some "OPERATOR_CANCELLED" })

/-- The UPDATE of `record_confirmation_result`. -/
def recordResult (rows : List Confirmation) (confirmationId resultCode : String) :
    Except Raised Unit × List Confirmation :=
  if rows.any fun r => r.confirmationId == confirmationId && r.status == .consumed then
    (.ok (), rows.map fun r =>
      if r.confirmationId = confirmationId ∧ r.status = .consumed then
        { r with resultCode := some resultCode }
      else r)
  else (.error (.controlError "CONFIRMATION_RESULT_NOT_RECORDABLE"), rows)

/-! ## 5. What the calls do -/

variable {F : Type}

namespace World

/-- A point passed. -/
def noted (w : World) : Note → World
  | .rejected updateId =>
    { w with history := { w.history with rejected := updateId :: w.history.rejected } }
  | .dispatched request =>
    { w with history := { w.history with dispatched := request :: w.history.dispatched } }

def claim (w : World) (messageId : String) : Except Raised Bool × World :=
  if messageId ∈ w.replayIds then (.ok false, w)
  else (.ok true, { w with replayIds := messageId :: w.replayIds })

def acknowledge (w : World) (nextOffset : ℤ) : Except Raised ℤ × World :=
  match writeMonotonicOffset w.nextOffset nextOffset with
  | .ok durable => (.ok durable, { w with nextOffset := some durable })
  | .error e => (.error e, w)

def persist (w : World) (updateId chatId text : String) (nextOffset now : ℤ) :
    Except Raised ℤ × World :=
  match writeMonotonicOffset w.nextOffset nextOffset with
  | .ok durable =>
    (.ok durable,
      { w with
        nextOffset := some durable
        pending := upsertPending w.pending updateId chatId text (now / 1000000) })
  | .error e => (.error e, w)

def recordFailure (w : World) (updateId : String) : Except Raised Unit × World :=
  if w.pending.any (·.updateId == updateId) then
    (.ok (), { w with
      pending := w.pending.map fun r =>
        if r.updateId = updateId then
          { r with failureReason := some "SEND_MESSAGE_FAILED", retryCount := r.retryCount + 1 }
        else r })
  else (.error (.valueError "pending Telegram delivery not found"), w)

def deliver (w : World) (updateId : String) : Except Raised Unit × World :=
  if w.pending.any (·.updateId == updateId) then
    (.ok (), { w with
      pending := w.pending.filter fun r => r.updateId != updateId
      history := { w.history with delivered := updateId :: w.history.delivered } })
  else (.error (.valueError "pending Telegram delivery not found"), w)

def insertConfirmation (w : World) (row : Confirmation) : Except Raised Unit × World :=
  if (findConfirmation w.confirmations row.confirmationId).isSome then
    (.error (.controlError "CONFIRMATION_ID_COLLISION"), w)
  else
    (.ok (), { w with
      confirmations := w.confirmations ++ [row]
      history := { w.history with
        created := ⟨row.confirmationId, w.history.dispatched.head?⟩ :: w.history.created } })

def consume (w : World) (confirmationId campaignId runId : String) (now : ℤ) :
    Except Raised Confirmation × World :=
  match consumeConfirmation w.confirmations confirmationId campaignId runId now with
  | (.ok row, rows) =>
    (.ok row, { w with
      confirmations := rows
      history := { w.history with
        consumed := ⟨row, now, campaignId, runId⟩ :: w.history.consumed } })
  | (.error e, rows) => (.error e, { w with confirmations := rows })

/-- The action is called, whatever comes of it. -/
def acted (w : World) (confirmationId operation : String) (config : TrustedConfig) : World :=
  { w with history := { w.history with
      actions :=
        ⟨confirmationId, operation, config, w.history.dispatched.head?⟩ :: w.history.actions } }

end World

/-- A transaction that commits, or fails and leaves the world. -/
def ifDone {β : Type} (w : World) (f : ℤ → Except Raised β × World) :
    Answer F → Except Raised β × World
  | .done now => f now
  | .lost now => (.error .other, (f now).2)
  | _ => (.error .other, w)

/-- `_update_id`. -/
def updateIdOf : Value F → Option ℤ
  | .mapping entries =>
    match Payload.get entries "update_id" with
    | .int n => some n
    | _ => none
  | _ => none

/-- `_telegram_result_list` of a payload that is a mapping. -/
def telegramResultList : Value F → Except Raised (List (Value F))
  | .mapping entries =>
    match Payload.get entries "ok" with
    | .bool true =>
      match Payload.get entries "result" with
      | .list updates => .ok updates
      | _ => .error (.valueError "TELEGRAM_RESULT_NOT_LIST")
    | _ => .error (.valueError "TELEGRAM_API_NOT_OK")
  | _ => .error .other

/-- The ids of the updates an answer brings. -/
def receivedIds : Answer F → List ℤ
  | .payload v =>
    match telegramResultList v with
    | .ok updates => updates.filterMap updateIdOf
    | .error _ => []
  | _ => []

/-- An answer from outside the databases. -/
def repliedPayload : Answer F → Except Raised (Value F)
  | .payload v => .ok v
  | _ => .error .other

def repliedResult : Answer F → Except Raised (Option RemoteControlResult)
  | .result r => .ok r
  | _ => .error .other

def repliedText : Answer F → Except Raised String
  | .text s => .ok s
  | _ => .error .other

/-- What each call does. -/
def perform : Handler Op (Reply F) Raised World (Answer F)
  | .note n, _, w => (.ok (), w.noted n)
  | .claimMessageId messageId, a, w => ifDone w (fun _ => w.claim messageId) a
  | .insertAudit row, a, w =>
    ifDone w (fun _ => (.ok (), { w with auditRows := w.auditRows ++ [row] })) a
  | .loadOffset, a, w => ifDone w (fun _ => (storedOffset w.nextOffset, w)) a
  | .acknowledgeOffset nextOffset, a, w => ifDone w (fun _ => w.acknowledge nextOffset) a
  | .persistPendingWithOffset updateId chatId text nextOffset, a, w =>
    ifDone w (w.persist updateId chatId text nextOffset) a
  | .selectPending, a, w =>
    ifDone w (fun _ => (.ok (w.pending.insertionSort PendingRow.before), w)) a
  | .recordDeliveryFailure updateId, a, w => ifDone w (fun _ => w.recordFailure updateId) a
  | .markDelivered updateId, a, w => ifDone w (fun _ => w.deliver updateId) a
  | .readClock, a, w => ifDone w (fun now => (.ok now, w)) a
  | .idFactory, a, w => (repliedText a, w)
  | .insertConfirmation row, a, w => ifDone w (fun _ => w.insertConfirmation row) a
  | .consumeConfirmation confirmationId campaignId runId, a, w =>
    ifDone w (w.consume confirmationId campaignId runId) a
  | .cancelConfirmation confirmationId campaignId runId, a, w =>
    ifDone w (fun _ =>
      let r := cancelConfirmation w.confirmations confirmationId campaignId runId
      (r.1, { w with confirmations := r.2 })) a
  | .recordConfirmationResult confirmationId resultCode, a, w =>
    ifDone w (fun _ =>
      let r := recordResult w.confirmations confirmationId resultCode
      (r.1, { w with confirmations := r.2 })) a
  | .getUpdates _, a, w =>
    (repliedPayload a,
      { w with history := { w.history with seen := receivedIds a ++ w.history.seen } })
  | .sendMessage _ _, a, w => (repliedPayload a, w)
  | .execute _ _, a, w => (repliedResult a, w)
  | .action confirmationId operation config, a, w =>
    (repliedResult a, w.acted confirmationId operation config)

end AlphaForge.Telegram
