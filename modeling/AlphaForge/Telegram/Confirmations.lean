/-
  File:      AlphaForge/Telegram/Confirmations.lean
  Subject:   What becomes of a confirmation, in every run: nothing is promised about the Telegram
             API, any call may fail, and the process may be stopped before any call.

  A confirmation is claimed in one transaction, and its action called afterwards: a stop in between
  loses the action and never repeats it. A confirmation carries the campaign and the run it was
  created for; it does not carry the user or the chat.

  * `controlled_perform` -- the calls that neither dispatch a request nor execute an action.
  * `adapter_reads` -- what the adapter accepts was read from the update, so it is authorized.
  * **`confirmations_kept`** -- what holds in every state of every run.
  * `foreignConfirmation` -- one user asks, another one of the chat confirms.
-/
import AlphaForge.Telegram.Service

namespace AlphaForge.Telegram

open AlphaForge.Lib hiding strip upper
open AlphaForge.Lib.PyText

variable {F : Type} {u : Unicode} {config : TelegramRemoteControlConfig} {w w' : World}

/-! ## 1. Calls that execute nothing -/

/-- The calls that neither dispatch a request nor execute an action. -/
def Op.Tame : Op → Prop
  | .note (.dispatched _) => False
  | .action _ _ _ => False
  | _ => True

theorem Controlled.same (h : Controlled config w) (hc : w'.confirmations = w.confirmations)
    (hd : w'.history.dispatched = w.history.dispatched)
    (hs : w'.history.consumed = w.history.consumed)
    (ha : w'.history.actions = w.history.actions) : Controlled config w' := by
  obtain ⟨h1, h2, h3, h4, h5⟩ := h
  unfold statusOf at h3
  rw [← hc] at h3
  rw [← hd] at h1 h5
  rw [← hs] at h4
  rw [← ha] at h2 h3 h4 h5
  exact ⟨h1, h2, h3, h4, h5⟩

theorem Op.Quietly.tame {op : Op} (h : op.quiet = true) : op.Tame := by
  cases op with
  | note n => cases h
  | action i o c => cases h
  | _ => trivial

/-- **What a tame call leaves.** -/
theorem controlled_perform {op : Op} (hop : op.Tame) (a : Answer F) (h : Controlled config w) :
    Controlled config (perform op a w).2 := by
  have hmoved : ∀ {β : Type} {f : ℤ → Except Raised β × World},
      (∀ now, (f now).2.confirmations = w.confirmations) →
      (∀ now, (f now).2.history = w.history) → Controlled config (ifDone w f a).2 := by
    intro β f hc hh
    refine ifDone_world (Controlled config) h fun now => ?_
    have hhistory := hh now
    refine h.same (hc now) ?_ ?_ ?_ <;> rw [hhistory]
  by_cases hq : op.quiet = true
  · exact (quiet_perform hq a w).controlled h
  · cases op with
    | note n =>
      cases n with
      | rejected i => exact h.same rfl rfl rfl rfl
      | dispatched r => exact hop.elim
    | action i o c => exact hop.elim
    | getUpdates o => exact h.same rfl rfl rfl rfl
    | acknowledgeOffset n =>
      refine hmoved (fun _ => acknowledge_confirmations w n) fun _ => ?_
      rcases acknowledge_cases w n with ⟨d, -, hack⟩ | ⟨e, hack⟩ <;> rw [hack]
    | persistPendingWithOffset i c t n =>
      refine hmoved (fun now => persist_confirmations w i c t n now) fun now => ?_
      rcases persist_cases w i c t n now with ⟨d, -, hp⟩ | ⟨e, -, hp⟩ <;> rw [hp]
    | _ => exact absurd rfl hq

/-! ## 2. Programs -/

/-- The conditions on a program: whatever the environment answers, the confirmations are in order
    before every call. -/
abbrev Guards {α : Type} (config : TelegramRemoteControlConfig)
    (Q : Except Raised α → World → Prop) (t : Proc F α) (w : World) : Prop :=
  Meets perform (fun _ _ _ => True) (fun _ w => Controlled config w) Q t w

theorem guards_of_only {α : Type} {t : Proc F α} (ht : Only Op.Tame t) (h : Controlled config w) :
    Guards config (fun _ w => Controlled config w) t w :=
  meets_of_only (fun _ _ _ h => h) (fun _ a _ hop h => controlled_perform hop a h) ht h

theorem controllable_controlled :
    Controllable config (fun _ w => Controlled config w) (Controlled config) where
  quiet _ _ hq h := hq.controlled h
  steady _ _ _ h := h
  controlled _ h := h
  acted _ _ _ h ht hd := h.acted ht hd

theorem tame_quietly {flight : Option String} {α : Type} {t : Proc F α}
    (h : Only (Op.Quietly flight) t) : Only Op.Tame t :=
  only_mono (fun _ hop => Op.Quietly.tame hop.1) h

/-! ## 3. The adapter -/

/-- The request of the adapter's result was read from the update. -/
def Reads (u : Unicode) (config : TelegramRemoteControlConfig) (update : Payload F) :
    Except Raised AdapterResult → Prop
  | .ok result => ∀ q, result.request = some q → (readUpdate u config update).2 = .ok q
  | .error _ => True

theorem only_audit (seen : Seen) (result : String) (reason : Option String) :
    Only Op.Tame (recordRemoteControlAudit seen result reason : Proc F Unit) := by
  unfold recordRemoteControlAudit
  exact only_invoke trivial

theorem only_reserve (m : String) : Only Op.Tame (reserve m : Proc F Bool) := by
  unfold reserve
  dsimp only
  split
  · exact only_raise _
  · split
    · exact only_raise _
    · exact only_invoke trivial

theorem rejectUpdate_reads (update : Payload F) (seen : Seen) (reason : String)
    (h : Controlled config w) :
    Guards config (fun r w' => Controlled config w' ∧ Reads u config update r)
      (rejectUpdate seen reason : Proc F AdapterResult) w := by
  unfold rejectUpdate
  dsimp only
  refine meets_seq (guards_of_only (only_audit seen _ _) h) ?_ ?_
  · exact fun _ w' hw => meets_pure ⟨hw, fun _ hq => nomatch hq⟩
  · exact fun e w' hw => ⟨hw, trivial⟩

theorem acceptRequest_reads {update : Payload F} {seen : Seen} {request : Request}
    (hread : (readUpdate u config update).2 = .ok request) (h : Controlled config w) :
    Guards config (fun r w' => Controlled config w' ∧ Reads u config update r)
      (acceptRequest seen request : Proc F AdapterResult) w := by
  unfold acceptRequest
  refine meets_seq (guards_of_only (only_reserve _) h) ?_ ?_
  · intro reserved w₁ hw₁
    cases reserved with
    | false => exact meets_raise ⟨hw₁, trivial⟩
    | true =>
      refine meets_seq (guards_of_only (only_audit seen _ _) hw₁) ?_ ?_
      · intro _ w₂ hw₂
        refine meets_pure ⟨hw₂, ?_⟩
        intro q hq
        rw [← Option.some.inj hq]
        exact hread
      · exact fun e w₂ hw₂ => ⟨hw₂, trivial⟩
  · exact fun e w₁ hw₁ => ⟨hw₁, trivial⟩

/-- **The adapter** accepts what it read. -/
theorem adapter_reads (update : Payload F) (h : Controlled config w) :
    Guards config (fun r w' => Controlled config w' ∧ Reads u config update r)
      (processTelegramUpdate u config update) w := by
  unfold processTelegramUpdate
  cases hread : readUpdate u config update with
  | mk seen outcome =>
    dsimp only
    cases outcome with
    | error e =>
      cases e with
      | valueError reason => exact rejectUpdate_reads update seen reason h
      | controlError code => exact meets_raise ⟨h, trivial⟩
      | other => exact meets_raise ⟨h, trivial⟩
    | ok request =>
      refine meets_try (meets_mono ?_ _ _ (acceptRequest_reads (by rw [hread]) h))
      rintro r w' ⟨hw', hr⟩
      cases r with
      | ok result => exact meets_pure ⟨hw', hr⟩
      | error e =>
        cases e with
        | valueError reason => exact rejectUpdate_reads update seen reason hw'
        | controlError code => exact meets_raise ⟨hw', trivial⟩
        | other => exact meets_raise ⟨hw', trivial⟩

/-! ## 4. The loop -/

variable {args : PollArguments} (iso : ℤ → String)

theorem only_settleRejected (p : TelegramPollResult) (n : Option ℤ) :
    Only Op.Tame (settleRejected args p n : Proc F Flow) := by
  unfold settleRejected persistTerminalOffset
  refine only_bind (only_invoke trivial) fun _ => only_bind (only_attempt ?_) fun r => ?_
  · split
    · exact only_bind (only_invoke trivial) fun _ => only_pure _
    · exact only_pure _
  · cases r <;> exact only_pure _

theorem only_persistResponse (d : TelegramResponseDelivery) (n : Option ℤ)
    (p : TelegramPollResult) : Only Op.Tame (persistResponse u args d n p : Proc F Flow) := by
  unfold persistResponse persistPendingWithOffset
  dsimp only
  split
  · exact only_pure _
  · split
    · exact only_pure _
    · refine only_bind (only_attempt (only_bind (only_lift _) fun _ => only_bind (only_lift _)
        fun _ => only_bind (only_lift _) fun _ => only_invoke trivial)) fun r => ?_
      cases r <;> exact only_pure _

theorem only_sendResponse (d : TelegramResponseDelivery) (p : TelegramPollResult) :
    Only Op.Tame (sendResponse u args d p : Proc F TelegramPollResult) := by
  unfold sendResponse
  refine only_bind (tame_quietly (only_deliver _ _)) fun d' => ?_
  split
  · dsimp only
    split
    · exact only_pure _
    · refine only_bind (only_attempt (tame_quietly (only_markDelivered _))) fun r => ?_
      cases r <;> exact only_pure _
  · dsimp only
    split
    · exact only_pure _
    · refine only_bind (only_attempt (tame_quietly (only_recordDeliveryFailure _))) fun r => ?_
      cases r <;> exact only_pure _

/-- The request is authorized. -/
theorem Controlled.dispatched {request : Request} (h : Controlled config w)
    (hauth : authorize config request.userId request.chatId = .ok ()) :
    Controlled config (w.noted (.dispatched request)) :=
  { h with
    authorized := List.forall_mem_cons.mpr ⟨hauth, h.authorized⟩
    requested := by
      intro a ha
      obtain ⟨r, hr, he⟩ := h.requested a ha
      exact ⟨r, List.mem_cons_of_mem _ hr, he⟩ }

theorem respond_guards {request : Request} (n : Option ℤ) (p : TelegramPollResult)
    (hauth : authorize config request.userId request.chatId = .ok ()) (h : Controlled config w) :
    Guards config (fun _ w' => Controlled config w')
      (respond u iso args request n p : Proc F Flow) w := by
  unfold respond
  refine meets_seq (meets_call (.note (.dispatched request)) h) ?_ ?_
  · rintro _ w₁ ⟨a, -, ha⟩
    obtain rfl : w₁ = w.noted (.dispatched request) := congrArg Prod.snd ha
    refine meets_try (meets_mono ?_ _ _ (controller_meets iso args.wiring controllable_controlled
      request (h.dispatched hauth) (List.cons_ne_nil _ _)))
    intro response w₂ hw₂
    dsimp only
    refine guards_of_only (only_bind (only_persistResponse _ _ _) fun flow => ?_) hw₂
    cases flow with
    | stop q => exact only_pure _
    | next q =>
      refine only_bind (only_sendResponse _ _) fun sent => ?_
      split <;> exact only_pure _
  · rintro e w₁ ⟨a, -, ha⟩
    cases ha

theorem handleUpdate_guards (hconfig : args.telegramConfig = config) (v : Value F)
    (p : TelegramPollResult) (h : Controlled config w) :
    Guards config (fun _ w' => Controlled config w') (handleUpdate u iso args v p) w := by
  unfold handleUpdate
  rw [hconfig]
  refine meets_try (meets_mono ?_ _ _ (adapter_reads v.asMapping h))
  rintro r w₁ ⟨hw₁, hr⟩
  cases r with
  | error e => exact guards_of_only (only_settleRejected _ _) hw₁
  | ok result =>
    obtain ⟨accepted, command, reason, request⟩ := result
    cases accepted with
    | false => exact guards_of_only (only_settleRejected _ _) hw₁
    | true =>
      cases request with
      | none => exact guards_of_only (only_settleRejected _ _) hw₁
      | some request =>
        have hread : (readUpdate u config v.asMapping).2 = .ok request := hr request rfl
        exact respond_guards iso _ _ (readUpdate_ok hread).2 hw₁

theorem pollUpdates_guards (hconfig : args.telegramConfig = config) (updates : List (Value F))
    (p : TelegramPollResult) (h : Controlled config w) :
    Guards config (fun _ w' => Controlled config w') (pollUpdates u iso args updates p) w := by
  induction updates generalizing p w with
  | nil => exact meets_pure h
  | cons v rest ih =>
    unfold pollUpdates
    refine meets_seq (handleUpdate_guards iso hconfig v p h) ?_ ?_
    · intro flow w₁ hw₁
      cases flow with
      | next q => exact ih q hw₁
      | stop q => exact meets_pure hw₁
    · exact fun e w₁ hw₁ => hw₁

theorem only_initializeOffset (off : Option ℤ) :
    Only Op.Tame (initializeOffset args off : Proc F (Option ℤ)) := by
  unfold initializeOffset
  split
  · exact only_pure _
  · cases off with
    | none => exact only_invoke trivial
    | some o => exact only_bind (only_invoke trivial) fun _ => only_invoke trivial

/-- **A poll** leaves the confirmations in order, whatever it is answered. -/
theorem poll_guards (hconfig : args.telegramConfig = config) (off : Option ℤ)
    (h : Controlled config w) :
    Guards config (fun _ w' => Controlled config w')
      (pollTelegramOnce u iso args off : Proc F TelegramPollResult) w := by
  unfold pollTelegramOnce
  refine meets_seq (guards_of_only (only_lift _) h) ?_ fun e w₁ hw₁ => hw₁
  intro token w₁ hw₁
  refine meets_try (meets_mono ?_ _ _ (guards_of_only (only_initializeOffset off) hw₁))
  intro r w₂ hw₂
  cases r with
  | error e => exact meets_pure hw₂
  | ok nextOffset =>
    have hfetch : Only Op.Tame (fetchUpdates nextOffset : Proc F (List (Value F))) := by
      unfold fetchUpdates
      exact only_bind (only_invoke trivial) fun _ => only_lift _
    refine meets_try (meets_mono ?_ _ _ (guards_of_only hfetch hw₂))
    intro r w₃ hw₃
    cases r with
    | error e => exact meets_pure hw₃
    | ok updates => exact pollUpdates_guards iso hconfig updates _ hw₃

/-! ## 5. Runs -/

/-- The service upholds the order of the confirmations under every environment. -/
theorem upholds_controlled (svc : Service) :
    Upholds (F := F) svc (fun _ _ _ => True) (fun _ => True)
      (fun _ w => Controlled svc.telegramConfig w)
      (fun _ w => Controlled svc.telegramConfig w) where
  forget _ _ h := h
  stopped _ _ _ h := h
  retry _ h := guards_of_only (tame_quietly (only_retryPending _)) h
  poll config off w h := by
    have hpoll : Guards svc.telegramConfig (fun _ w' => Controlled svc.telegramConfig w')
        (pollTelegramOnce svc.unicode svc.iso (svc.pollArguments config) off :
          Proc F TelegramPollResult) w :=
      poll_guards svc.iso (show (svc.pollArguments config).telegramConfig = _ from rfl) off h
    refine meets_mono ?_ _ _ hpoll
    intro r w' hw'
    cases r <;> exact hw'

theorem controlled_run (svc : Service) (events : List (Event F)) :
    Controlled svc.telegramConfig (runEvents (next svc) (System.fresh : System F)
      events).world := by
  have hall : ∀ (s : System F) (e : Event F), Permits (fun _ _ _ => True) (fun _ => True) s e := by
    intro s e
    cases e with
    | start => trivial
    | poll config => trivial
    | answer a => exact fun _ _ => trivial
    | crash => exact fun _ _ => trivial
  have hholds : Holds (fun _ _ _ => True) (fun _ w => Controlled svc.telegramConfig w)
      (fun _ w => Controlled svc.telegramConfig w) (runEvents (next svc) .fresh events) := by
    refine run_invariant (fun s e hs => ?_) events _ (controlled_fresh _)
    exact holds_next (upholds_controlled svc) hs e (hall s e)
  exact Holds.world hholds (fun _ _ h => h) fun _ _ h => h

theorem statuses_run (svc : Service) (later : List (Event F)) (s : System F) :
    StatusesKept s.world (runEvents (next svc) s later).world := by
  induction later generalizing s with
  | nil => exact terminalKept_refl _
  | cons e later ih =>
    intro i st hst hterminal
    exact ih (next svc s e) i st (statuses_next s e i st hst hterminal) hterminal

/-- What is asked of the confirmations of a state. -/
structure Confirms (svc : Service) (s : System F) : Prop where
  /-- No confirmation is used twice. -/
  once : (s.world.history.actions.map (·.confirmationId)).Nodup
  /-- It was claimed when it was pending and unexpired, for the campaign, the run and the
      operation of the action. -/
  licensed : ∀ a ∈ s.world.history.actions, ∃ c ∈ s.world.history.consumed, Licenses c a
  /-- It is consumed. -/
  spent : ∀ a ∈ s.world.history.actions, statusOf s.world a.confirmationId = some .consumed
  /-- The request that confirmed it is authorized. -/
  authorized : ∀ a ∈ s.world.history.actions, ∃ r ∈ s.world.history.dispatched,
    a.request = some r ∧ authorize svc.telegramConfig r.userId r.chatId = .ok ()
  /-- A terminal status is never left, whatever happens next. -/
  terminal : ∀ later, StatusesKept s.world (runEvents (next svc) s later).world

/-- **The confirmations of every run.** -/
theorem confirmations_kept (svc : Service) (events : List (Event F)) :
    Confirms svc (runEvents (next svc) (System.fresh : System F) events) := by
  have h := controlled_run svc events
  refine ⟨h.once, h.licensed, h.spent, ?_, fun later => statuses_run svc later _⟩
  intro a ha
  obtain ⟨r, hr, he⟩ := h.requested a ha
  exact ⟨r, hr, he, h.authorized r hr⟩

/-! ## 6. Who confirms -/

/-- Who asked for a confirmation is who confirmed it. -/
def SameIdentity (w : World) : Prop :=
  ∀ a ∈ w.history.actions, ∀ k ∈ w.history.created, k.confirmationId = a.confirmationId →
    a.request.map (·.authorizedIdentity) = k.request.map (·.authorizedIdentity)

instance (w : World) : Decidable (SameIdentity w) := by
  unfold SameIdentity
  infer_instance

/-- A message of a user to the chat 9001. -/
def chatMessage (updateId userId : ℤ) (text : String) : Value ℚ :=
  .mapping [("update_id", .int updateId), ("message", .mapping [("text", .text text),
    ("from", .mapping [("id", .int userId)]), ("chat", .mapping [("id", .int 9001)])])]

/-- A service of the chat 9001. -/
def chatService : Service :=
  { unicode := ⟨Char.isDigit, Lib.lower, Lib.upper⟩
    iso := toString
    botToken := "token"
    telegramConfig := ⟨[], ["9001"]⟩ }

/-- User 1 asks for a pause, user 2 confirms it. -/
def foreignEvents : List (Event ℚ) :=
  [.start, .answer (.done 0), .poll ⟨some "db", some "campaign", some "run"⟩, .answer (.done 0),
    .answer (.payload (.mapping [("ok", .bool true), ("result", .list
      [chatMessage 7 1 "/pause", chatMessage 8 2 "/confirm abcdefghijklmnop"])])),
    .answer (.done 0), .answer (.done 0), .answer (.done 0), .answer (.done 0),
    .answer (.text "abcdefghijklmnop"), .answer (.done 0), .answer (.done 0), .answer .fault,
    .answer (.done 0), .answer (.done 0), .answer (.done 0), .answer (.done 0),
    .answer (.done 0), .answer (.result (some ⟨"PAUSE", 0, "", ""⟩))]

set_option maxRecDepth 8000 in
/-- **Another user of the chat confirms**: the pause is executed. -/
theorem foreignConfirmation :
    (runEvents (next chatService) System.fresh foreignEvents).world.history.actions.length = 1 ∧
      ¬ SameIdentity (runEvents (next chatService) System.fresh foreignEvents).world := by
  decide +kernel

end AlphaForge.Telegram
