/-
  File:      AlphaForge/Telegram/Transport.lean
  Subject:   `telegram_transport.py` and the methods of `telegram_state.py`: one poll, the delivery
             of a response, and the retry of the responses left pending.

  A poll handles the updates one after another: the adapter, the controller, the response with the
  offset in one transaction, then the message. A rejected update only moves the offset.

  * `telegramSafeText` -- the text that is persisted; `validResponseText_safeText` -- the database
    takes it.
  * `handleUpdate` -- the body of the loop; **`pollTelegramOnce`** -- a poll.
  * `retryPendingTelegramResponses` -- the start of the service.
-/
import AlphaForge.Telegram.Controller

namespace AlphaForge.Telegram

open AlphaForge.Lib hiding strip upper
open AlphaForge.Lib.PyText

variable {F : Type} (u : Unicode) (iso : ℤ → String)

/-! ## 1. The transport database -/

/-- `_validate_normalized_id`. -/
def validateNormalizedId (value name : String) : Except Raised String :=
  if normalizedId u value then .ok value
  else .error (.valueError s!"invalid persisted Telegram {name}")

/-- What `_validate_response_text` takes. -/
def validResponseText (text : String) : Bool :=
  !text.isEmpty && text.length ≤ 3900 && text.toList.all fun c => c != '\r' && c != '\n'

/-- `_validate_response_text`. -/
def validateResponseText (text : String) : Except Raised String :=
  if validResponseText text then .ok text
  else .error (.valueError "invalid persisted Telegram response text")

/-- `persist_pending_with_offset`. -/
def persistPendingWithOffset (updateId chatId text : String) (nextOffset : ℤ) : Proc F ℤ := do
  let updateId ← .lift (validateNormalizedId u updateId "update_id")
  let chatId ← .lift (validateNormalizedId u chatId "chat_id")
  let text ← .lift (validateResponseText text)
  call (.persistPendingWithOffset updateId chatId text nextOffset)

/-- `record_delivery_failure`. -/
def recordDeliveryFailure (updateId : String) : Proc F Unit := do
  let updateId ← .lift (validateNormalizedId u updateId "update_id")
  call (.recordDeliveryFailure updateId)

/-- `mark_delivered`. -/
def markDelivered (updateId : String) : Proc F Unit := do
  let updateId ← .lift (validateNormalizedId u updateId "update_id")
  call (.markDelivered updateId)

/-- `_ALLOWED_FAILURE_REASONS`. -/
def allowedFailureReasons : List (Option String) :=
  [none, some "SEND_MESSAGE_FAILED", some "DELIVERY_ACK_FAILED"]

/-- `_validate_pending_row`. -/
def validatePendingRow (row : PendingRow) : Except Raised PendingRow := do
  let _ ← validateNormalizedId u row.updateId "update_id"
  let _ ← validateNormalizedId u row.chatId "chat_id"
  let _ ← validateResponseText row.text
  if allowedFailureReasons.contains row.failureReason then return row
  else .error (.valueError "invalid persisted Telegram failure reason")

/-- `load_pending`. -/
def loadPending : Proc F (List PendingRow) := do
  let rows ← call .selectPending
  .lift (rows.mapM (validatePendingRow u))

/-! ## 2. Deliveries -/

inductive DeliveryStatus where
  | pending
  | delivered
  deriving DecidableEq, Repr

/-- `TelegramResponseDelivery`; only minted and restored ones exist. -/
structure TelegramResponseDelivery where
  updateId : String
  chatId : String
  text : String
  commandAcknowledged : Bool
  status : DeliveryStatus
  failureReason : Option String
  deriving DecidableEq, Repr

/-- `_mint_telegram_response_delivery`. -/
def mintTelegramResponseDelivery (updateId chatId text : String) : TelegramResponseDelivery :=
  ⟨updateId, chatId, text, true, .pending, none⟩

/-- `_restore_telegram_response_delivery`. -/
def restoreTelegramResponseDelivery (stored : PendingRow) : TelegramResponseDelivery :=
  ⟨stored.updateId, stored.chatId, stored.text, true, .pending, stored.failureReason⟩

/-- `_delivery_with_failure`. -/
def TelegramResponseDelivery.withFailure (d : TelegramResponseDelivery) (reason : String) :
    TelegramResponseDelivery :=
  ⟨d.updateId, d.chatId, d.text, true, .pending, some reason⟩

/-- `sent.get("ok") is True`. -/
def sentOk : Value F → Bool
  | .mapping entries =>
    match Payload.get entries "ok" with
    | .bool b => b
    | _ => false
  | _ => false

/-- `_required_token`. -/
def requiredToken (botToken : String) : Except Raised String :=
  if (strip botToken).isEmpty then .error (.valueError "telegram bot token is required")
  else .ok (strip botToken)

/-- `deliver_telegram_response`. -/
def deliverTelegramResponse (botToken : String) (d : TelegramResponseDelivery) :
    Proc F TelegramResponseDelivery := do
  let _ ← .lift (requiredToken botToken)
  if !d.commandAcknowledged then .raise (.valueError "invalid Telegram response delivery")
  else if d.status = .delivered then return d
  else
    match ← (call (.sendMessage d.chatId d.text)).attempt with
    | .ok sent =>
      if sentOk sent then return ⟨d.updateId, d.chatId, d.text, true, .delivered, none⟩
      else return d.withFailure "SEND_MESSAGE_FAILED"
    | .error _ => return d.withFailure "SEND_MESSAGE_FAILED"

/-- A pending delivery tried again; an error of the database is not raised. -/
def retryDelivery (botToken : String) (stored : PendingRow) : Proc F TelegramResponseDelivery := do
  let attempted ← deliverTelegramResponse botToken (restoreTelegramResponseDelivery stored)
  if attempted.status = .delivered then
    match ← (markDelivered u attempted.updateId).attempt with
    | .ok _ => return attempted
    | .error _ => return attempted.withFailure "DELIVERY_ACK_FAILED"
  else
    let _ ← (recordDeliveryFailure u attempted.updateId).attempt
    return attempted

/-- The loop of the retry. -/
def retryDeliveries (botToken : String) :
    List PendingRow → Proc F (List TelegramResponseDelivery)
  | [] => return []
  | stored :: rest => do
    let attempted ← retryDelivery u botToken stored
    let others ← retryDeliveries botToken rest
    return attempted :: others

/-- `retry_pending_telegram_responses`. -/
def retryPendingTelegramResponses (botToken : String) : Proc F (List TelegramResponseDelivery) := do
  let _ ← .lift (requiredToken botToken)
  match ← (loadPending u).attempt with
  | .error _ => return []
  | .ok stored => retryDeliveries u botToken stored

/-! ## 3. Texts -/

/-- `_config_secrets`. -/
def configSecrets (token : String) (config : RemoteConfig) : List String :=
  [token, config.dbPath.getD "", config.campaignId.getD "", config.runId.getD ""].filter
    fun secret => !secret.isEmpty

/-- The text `[redacted]`. -/
def redacted : List Char := ['[', 'r', 'e', 'd', 'a', 'c', 't', 'e', 'd', ']']

/-- `_telegram_safe_text`. -/
def telegramSafeText (text : String) (maxMessageChars : ℕ) (secrets : List String) : String :=
  String.ofList ((secrets.foldl (fun safe secret => replace secret.toList redacted safe)
    (oneLine text)).take maxMessageChars)

/-- A character that does not end a line. -/
def InLine (c : Char) : Prop := c ≠ '\r' ∧ c ≠ '\n'

theorem inLine_oneLine (text : String) : ∀ c ∈ oneLine text, InLine c := by
  intro c hc
  obtain ⟨d, -, rfl⟩ := List.mem_map.mp hc
  split
  · exact ⟨by decide, by decide⟩
  · rename_i h
    rw [not_or] at h
    exact h

/-- Redacting keeps a text on one line, and keeps it from being empty. -/
theorem redacted_inLine (secrets : List String) (cs : List Char) (hcs : cs ≠ [])
    (h : ∀ c ∈ cs, InLine c) :
    (secrets.foldl (fun safe secret => replace secret.toList redacted safe) cs) ≠ [] ∧
      ∀ c ∈ secrets.foldl (fun safe secret => replace secret.toList redacted safe) cs,
        InLine c := by
  induction secrets generalizing cs with
  | nil => exact ⟨hcs, h⟩
  | cons secret secrets ih =>
    have hne : redacted ≠ [] := List.cons_ne_nil _ _
    have hline : ∀ c ∈ redacted, InLine c := by
      simp [redacted, InLine]
    exact ih _ (replace_ne_nil hne hcs) (replace_all hline h)

/-- **The transport database takes the text of every response.** -/
theorem validResponseText_safeText {text : String} {n : ℕ} (secrets : List String)
    (htext : text.toList ≠ []) (hlow : 1 ≤ n) (hhigh : n ≤ 3900) :
    validResponseText (telegramSafeText text n secrets) = true := by
  have hline : oneLine text ≠ [] := by
    unfold oneLine
    rw [Ne, List.map_eq_nil_iff]
    exact htext
  obtain ⟨hne, hin⟩ := redacted_inLine secrets _ hline (inLine_oneLine text)
  unfold telegramSafeText
  generalize secrets.foldl (fun safe secret => replace secret.toList redacted safe)
    (oneLine text) = cs at hne hin
  have hlength : (cs.take n).length ≤ 3900 := by
    rw [List.length_take]
    omega
  have htake : cs.take n ≠ [] := by
    rw [Ne, List.take_eq_nil_iff, not_or]
    exact ⟨by omega, hne⟩
  have hall : ((cs.take n).all fun c => c != '\r' && c != '\n') = true := by
    rw [List.all_eq_true]
    intro c hc
    have hc' := hin c (List.mem_of_mem_take hc)
    rw [Bool.and_eq_true, bne_iff_ne, bne_iff_ne]
    exact hc'
  unfold validResponseText
  rw [String.toList_ofList, hall, String.length_ofList, decide_eq_true hlength]
  simp [htake]

/-! ## 4. A poll -/

/-- What a poll is called with. -/
structure PollArguments where
  botToken : String
  telegramConfig : TelegramRemoteControlConfig
  remoteConfig : RemoteConfig
  hasExecutor : Bool
  hasControlStore : Bool
  maxMessageChars : ℕ
  /-- `state_store is not None`. -/
  hasStateStore : Bool

/-- `TelegramPollResult`. -/
structure TelegramPollResult where
  nextOffset : Option ℤ
  updatesSeen : ℕ
  accepted : ℕ
  rejected : ℕ
  responsesSent : ℕ
  sendFailures : ℕ
  commandAcknowledged : ℕ
  pendingDeliveries : List TelegramResponseDelivery
  processingFailures : ℕ
  transportError : Option String
  deriving DecidableEq, Repr

/-- `_empty_poll_result`; without an error it is where the loop starts. -/
def emptyPollResult (nextOffset : Option ℤ) (error : Option String) : TelegramPollResult :=
  ⟨nextOffset, 0, 0, 0, 0, 0, 0, [], 0, error⟩

/-- How the loop goes on after an update. -/
inductive Flow where
  | next (p : TelegramPollResult)
  | stop (p : TelegramPollResult)

def Flow.result : Flow → TelegramPollResult
  | .next p => p
  | .stop p => p

/-- `_acknowledge_update`. -/
def acknowledgeUpdate (offset updateId : Option ℤ) : Option ℤ :=
  match updateId, offset with
  | none, _ => offset
  | some n, none => some (n + 1)
  | some n, some o => some (max o (n + 1))

variable (args : PollArguments)

/-- `_initialize_offset`. -/
def initializeOffset (offset : Option ℤ) : Proc F (Option ℤ) := do
  if !args.hasStateStore then return offset
  else
    match offset with
    | none => call .loadOffset
    | some o =>
      let _ ← call (.acknowledgeOffset o)
      call .loadOffset

/-- `_persist_terminal_offset`. -/
def persistTerminalOffset (offset updateId : Option ℤ) : Proc F (Option ℤ) := do
  match args.hasStateStore, acknowledgeUpdate offset updateId with
  | true, some nextOffset =>
    let durable ← call (.acknowledgeOffset nextOffset)
    return some durable
  | _, nextOffset => return nextOffset

/-- An update that is not executed, for good. -/
def settleRejected (p : TelegramPollResult) (updateId : Option ℤ) : Proc F Flow := do
  call (.note (.rejected updateId))
  match ← (persistTerminalOffset args p.nextOffset updateId).attempt with
  | .ok nextOffset => return .next { p with nextOffset := nextOffset }
  | .error _ => return .stop { p with transportError := some "STATE_PERSIST_FAILED" }

/-- The delivery and the new offset, in one transaction. -/
def persistResponse (d : TelegramResponseDelivery) (updateId : Option ℤ)
    (p : TelegramPollResult) : Proc F Flow := do
  if !args.hasStateStore then return .next p
  else
    let failed (error : String) : Flow :=
      .stop { p with
        processingFailures := p.processingFailures + 1
        pendingDeliveries := p.pendingDeliveries ++ [d]
        transportError := some error }
    match acknowledgeUpdate p.nextOffset updateId with
    | none => return failed "INVALID_UPDATE_ID"
    | some acknowledgedOffset =>
      match ← (persistPendingWithOffset u d.updateId d.chatId d.text
        acknowledgedOffset).attempt with
      | .ok nextOffset => return .next { p with nextOffset := some nextOffset }
      | .error _ => return failed "STATE_PERSIST_FAILED"

/-- The message, and what becomes of the pending row. -/
def sendResponse (d : TelegramResponseDelivery) (p : TelegramPollResult) :
    Proc F TelegramPollResult := do
  let d ← deliverTelegramResponse args.botToken d
  if d.status = .delivered then
    let p := { p with responsesSent := p.responsesSent + 1 }
    if !args.hasStateStore then return p
    else
      match ← (markDelivered u d.updateId).attempt with
      | .ok _ => return p
      | .error _ =>
        return { p with
          pendingDeliveries := p.pendingDeliveries ++ [d.withFailure "DELIVERY_ACK_FAILED"] }
  else
    let p := { p with
      sendFailures := p.sendFailures + 1
      pendingDeliveries := p.pendingDeliveries ++ [d] }
    if !args.hasStateStore then return p
    else
      match ← (recordDeliveryFailure u d.updateId).attempt with
      | .ok _ => return p
      | .error _ => return { p with processingFailures := p.processingFailures + 1 }

/-- The controller as a poll calls it. -/
def PollArguments.wiring : Wiring :=
  { config := args.remoteConfig
    hasExecutor := args.hasExecutor
    hasControlStore := args.hasControlStore
    confirmationTtlSeconds := 120
    maxOutputChars := args.maxMessageChars }

/-- The text of an outcome of the controller. -/
def responseText : Except Raised DispatchResult → String
  | .ok response => response.formatted
  | .error _ => "REMOTE_CONTROL: FAIL rc=1 | stderr=request failed safely"

/-- An accepted request: executed, its response persisted, sent. -/
def respond (request : Request) (updateId : Option ℤ) (p : TelegramPollResult) : Proc F Flow := do
  call (.note (.dispatched request))
  let response ← (processTelegramRequest u iso args.wiring request).attempt
  let p := { p with
    accepted := p.accepted + 1
    processingFailures := p.processingFailures + (if response.isOk then 0 else 1)
    commandAcknowledged := p.commandAcknowledged + 1 }
  let text := telegramSafeText (responseText response) args.maxMessageChars
    (configSecrets (strip args.botToken) args.remoteConfig)
  let d := mintTelegramResponseDelivery request.updateId request.chatId text
  match ← persistResponse u args d updateId p with
  | .stop p => return .stop p
  | .next persisted =>
    let sent ← sendResponse u args d persisted
    if args.hasStateStore then return .next sent
    else return .next { sent with nextOffset := acknowledgeUpdate p.nextOffset updateId }

/-- The body of the loop. -/
def handleUpdate (update : Value F) (p : TelegramPollResult) : Proc F Flow := do
  let p := { p with updatesSeen := p.updatesSeen + 1 }
  match ← (processTelegramUpdate u args.telegramConfig update.asMapping).attempt with
  | .error _ =>
    settleRejected args
      { p with rejected := p.rejected + 1, processingFailures := p.processingFailures + 1 }
      (updateIdOf update)
  | .ok result =>
    match result.accepted, result.request with
    | true, some request => respond u iso args request (updateIdOf update) p
    | _, _ => settleRejected args { p with rejected := p.rejected + 1 } (updateIdOf update)

/-- The loop. -/
def pollUpdates : List (Value F) → TelegramPollResult → Proc F TelegramPollResult
  | [], p => return p
  | update :: rest, p => do
    match ← handleUpdate u iso args update p with
    | .next p => pollUpdates rest p
    | .stop p => return p

/-- `http_client.get_updates(…)` and `_telegram_result_list`. -/
def fetchUpdates (offset : Option ℤ) : Proc F (List (Value F)) := do
  let payload ← call (.getUpdates offset)
  .lift (telegramResultList payload)

/-- `poll_telegram_once`. -/
def pollTelegramOnce (offset : Option ℤ) : Proc F TelegramPollResult := do
  let _ ← .lift (requiredToken args.botToken)
  match ← (initializeOffset args offset).attempt with
  | .error _ => return emptyPollResult offset (some "STATE_LOAD_FAILED")
  | .ok nextOffset =>
    match ← (fetchUpdates nextOffset).attempt with
    | .error _ => return emptyPollResult nextOffset (some "GET_UPDATES_FAILED")
    | .ok updates => pollUpdates u iso args updates (emptyPollResult nextOffset none)

end AlphaForge.Telegram
