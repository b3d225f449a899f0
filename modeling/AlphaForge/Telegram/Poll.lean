/-
  File:      AlphaForge/Telegram/Poll.lean
  Subject:   The invariants along a poll, at every call it makes: the process may be stopped there.

  What the Telegram API promises about a batch (`Promised`) is assumed throughout. With `strict`
  the responses are kept too, if the environment is careful from the dispatch of a request to the
  commit of its response (`Careful`); without it the updates, the offset and the confirmations are
  in order all the same.

  * `Loop` -- what holds between two updates of a batch.
  * `adapter_meets`, `confirm_meets`, `controller_meets` -- one lemma for each part up to the
    response; the batch and the whole poll are in `Batch.lean`.
-/
import AlphaForge.Telegram.Invariants

namespace AlphaForge.Telegram

open AlphaForge.Lib hiding strip upper
open AlphaForge.Lib.PyText

variable {F : Type}

/-! ## 1. The environment -/

/-- No offset, or one up to `m`. -/
def UpTo (offset : Option ℤ) (m : ℤ) : Prop :=
  match offset with
  | none => True
  | some o => o ≤ m

instance (offset : Option ℤ) (m : ℤ) : Decidable (UpTo offset m) := by
  unfold UpTo
  split <;> infer_instance

/-- A batch as the service serves it: the ids increase, an id not received before is new, and what
    was received from the offset on is served again before anything later. -/
structure Served (seen : List ℤ) (offset : Option ℤ) (updates : List (Value F)) : Prop where
  identified : ∀ v ∈ updates, (updateIdOf v).isSome = true
  increasing : (updates.filterMap updateIdOf).Pairwise (· < ·)
  fresh : ∀ n ∈ updates.filterMap updateIdOf, n ∈ seen ∨ ∀ m ∈ seen, m < n
  redelivered : ∀ m ∈ seen, ∀ n ∈ updates.filterMap updateIdOf, m < n → UpTo offset m →
    m ∈ updates.filterMap updateIdOf

instance (seen : List ℤ) (offset : Option ℤ) (updates : List (Value F)) :
    Decidable (Served seen offset updates) :=
  decidable_of_iff
    ((∀ v ∈ updates, (updateIdOf v).isSome = true) ∧
      (updates.filterMap updateIdOf).Pairwise (· < ·) ∧
      (∀ n ∈ updates.filterMap updateIdOf, n ∈ seen ∨ ∀ m ∈ seen, m < n) ∧
      ∀ m ∈ seen, ∀ n ∈ updates.filterMap updateIdOf, m < n → UpTo offset m →
        m ∈ updates.filterMap updateIdOf)
    ⟨fun h => ⟨h.1, h.2.1, h.2.2.1, h.2.2.2⟩,
      fun h => ⟨h.identified, h.increasing, h.fresh, h.redelivered⟩⟩

/-- What is promised about the answer of a call. -/
def Promised (w : World) : Op → Answer F → Prop
  | .getUpdates offset, .payload v =>
    match telegramResultList v with
    | .ok updates => Served w.history.seen offset updates
    | .error _ => True
  | _, _ => True

instance (w : World) (op : Op) (a : Answer F) : Decidable (Promised w op a) := by
  unfold Promised
  split
  · split <;> infer_instance
  · infer_instance

/-- Between the dispatch of a request and the commit of its response: the id of the chat is in
    normal form, and the transaction commits. -/
def Careful (u : Unicode) (w : World) : Op → Answer F → Prop
  | .note (.dispatched request), _ => normalizedId u request.chatId = true
  | .persistPendingWithOffset _ _ _ _, a =>
    a.commits = true ∧ (storedOffset w.nextOffset).isOk = true
  | _, _ => True

instance (u : Unicode) (w : World) (op : Op) (a : Answer F) : Decidable (Careful u w op a) := by
  unfold Careful
  split <;> infer_instance

/-- The calls a process makes between the dispatch of a request and the commit of its response. -/
def Op.ofCommand : Op → Bool
  | .readClock => true
  | .idFactory => true
  | .insertConfirmation _ => true
  | .consumeConfirmation _ _ _ => true
  | .cancelConfirmation _ _ _ => true
  | .recordConfirmationResult _ _ => true
  | .execute _ _ => true
  | .action _ _ _ => true
  | .persistPendingWithOffset _ _ _ _ => true
  | _ => false

section

variable (u : Unicode) (config : TelegramRemoteControlConfig) (strict : Prop)

/-- How the environment decides. -/
def Allowed (op : Op) (w : World) (a : Answer F) : Prop :=
  Promised w op a ∧ (strict → Careful u w op a)

/-- What holds whenever the process is about to call. -/
structure Steady (op : Op) (w : World) : Prop where
  consistent : Consistent w
  controlled : Controlled config w
  kept : strict → op.ofCommand = false → KeptBut none w

/-- What holds between two updates: `rest` are the ids still to be handled, `off` the offset the
    process knows, `flight` the update whose response is on its way. -/
structure Loop (flight : Option String) (rest : List ℤ) (off : Option ℤ) (w : World) : Prop where
  consistent : Consistent w
  controlled : Controlled config w
  kept : strict → KeptBut flight w
  received : ∀ n ∈ rest, n ∈ w.history.seen
  ahead : ∀ n ∈ rest, ∀ m ∈ w.history.seen, m < n → m ∈ rest ∨ Handled w m
  offset : OffsetLe off w.nextOffset
  flown : ∀ i, flight = some i → ∃ r ∈ w.history.dispatched, r.updateId = i

end

variable {u : Unicode} {config : TelegramRemoteControlConfig} {strict : Prop}
variable {flight : Option String} {rest : List ℤ} {off : Option ℤ} {w w' : World}

/-- The conditions on a program of the service. -/
abbrev Keeps {α : Type} (u : Unicode) (config : TelegramRemoteControlConfig) (strict : Prop)
    (Q : Except Raised α → World → Prop) (t : Proc F α) (w : World) : Prop :=
  Meets perform (Allowed u strict) (Steady config strict) Q t w

theorem Loop.quiet (h : Loop config strict flight rest off w) (hq : Quiet w w') :
    Loop config strict flight rest off w' where
  consistent := hq.consistent h.consistent
  controlled := hq.controlled h.controlled
  kept hs := hq.keptBut (h.kept hs)
  received := by
    rw [hq.seen]
    exact h.received
  ahead := by
    rw [hq.seen]
    exact fun n hn m hm hlt => (h.ahead n hn m hm hlt).imp id hq.handled
  offset := by
    rw [hq.nextOffset]
    exact h.offset
  flown := by
    rw [hq.dispatched]
    exact h.flown

/-- Outside a flight every call finds the invariants, in a flight those of the command. -/
theorem Loop.steady (h : Loop config strict flight rest off w) {op : Op}
    (hf : flight = none ∨ op.ofCommand = true) : Steady config strict op w where
  consistent := h.consistent
  controlled := h.controlled
  kept := by
    intro hs hop
    rcases hf with hf | hf
    · rw [← hf]
      exact h.kept hs
    · rw [hf] at hop
      cases hop

theorem Loop.weaken {rest' : List ℤ} {off' : Option ℤ}
    (h : Loop config strict flight rest off w) (hrest : rest' = [])
    (hoff : OffsetLe off' w.nextOffset) :
    Loop config strict flight rest' off' w where
  consistent := h.consistent
  controlled := h.controlled
  kept := h.kept
  received := by
    rw [hrest]
    exact fun n hn => absurd hn List.not_mem_nil
  ahead := by
    rw [hrest]
    exact fun n hn => absurd hn List.not_mem_nil
  offset := hoff
  flown := h.flown

/-- A quiet call that may be made in this flight. -/
def Op.Quietly (flight : Option String) (op : Op) : Prop :=
  op.quiet = true ∧ (flight = none ∨ op.ofCommand = true)

/-- A program of quiet calls keeps the loop's invariant. -/
theorem keeps_of_only {α : Type} {t : Proc F α} (ht : Only (Op.Quietly flight) t)
    (h : Loop config strict flight rest off w) :
    Keeps u config strict (fun _ w => Loop config strict flight rest off w) t w :=
  meets_of_only (fun _ _ hop hw => hw.steady hop.2)
    (fun _ _ _ hop hw => hw.quiet (quiet_perform hop.1 _ _)) ht h

/-- A single call, with what the environment decided. -/
theorem meets_call {C : Op → World → Answer F → Prop} {I : Op → World → Prop} (op : Op)
    (h : I op w) :
    Meets perform C I (fun r w' => ∃ a, C op w a ∧ (r, w') = perform op a w) (call op) w :=
  meets_invoke h fun a ha => ⟨a, ha, rfl⟩

theorem keeps_perform (op : Op) (h : Steady config strict op w) :
    Keeps (F := F) u config strict
      (fun r w' => ∃ a, Allowed u strict op w a ∧ (r, w') = perform op a w) (call op) w :=
  meets_call op h

/-- A single quiet call, with what it answers. -/
theorem keeps_call (op : Op) (hq : op.Quietly flight) (h : Loop config strict flight rest off w) :
    Keeps (F := F) u config strict
      (fun r w' => Loop config strict flight rest off w' ∧ ∃ a, (r, w') = perform op a w)
      (call op) w :=
  meets_invoke (h.steady hq.2) fun a _ => ⟨h.quiet (quiet_perform hq.1 a w), a, rfl⟩

/-! ## 2. The adapter -/

/-- A request the adapter has accepted: its id is reserved and was not before. -/
structure Accepted (u : Unicode) (config : TelegramRemoteControlConfig) (update : Payload F)
    (request : Request) (w : World) : Prop where
  read : (readUpdate u config update).2 = .ok request
  reserved : replayKey request.updateId ∈ w.replayIds
  fresh : ∀ r ∈ w.history.dispatched, r.updateId ≠ request.updateId

theorem Accepted.quiet {update : Payload F} {request : Request}
    (h : Accepted u config update request w) (hq : Quiet w w') :
    Accepted u config update request w' where
  read := h.read
  reserved := hq.replayIds _ h.reserved
  fresh := by
    rw [hq.dispatched]
    exact h.fresh

/-- What the checks of an update establish. -/
theorem readUpdate_ok {update : Payload F} {request : Request}
    (h : (readUpdate u config update).2 = .ok request) :
    requiredId u (update.get "update_id") = .ok request.updateId ∧
      authorize config request.userId request.chatId = .ok () := by
  unfold readUpdate at h
  cases hid : requiredId u (update.get "update_id") with
  | error e =>
    rw [hid] at h
    cases h
  | ok updateId =>
    rw [hid] at h
    cases hm : readMessage u update with
    | error e =>
      rw [hm] at h
      cases h
    | ok m =>
      obtain ⟨text, userId, chatId⟩ := m
      rw [hm] at h
      dsimp only at h
      cases hauth : authorize config userId chatId with
      | error e =>
        rw [hauth] at h
        cases h
      | ok _ =>
        rw [hauth] at h
        dsimp only at h
        cases hp : parseTelegramRemoteCommand u text with
        | error e =>
          rw [hp] at h
          cases h
        | ok command =>
          rw [hp] at h
          obtain rfl := Except.ok.inj h
          exact ⟨rfl, hauth⟩

/-- The reservation answers `True` only for a key that was free. -/
theorem reserve_meets (m : String) (h : Loop config strict none rest off w) :
    Keeps (F := F) u config strict
      (fun r w' => Loop config strict none rest off w' ∧
        (r = .ok true → strip m ∉ w.replayIds ∧ strip m ∈ w'.replayIds ∧
          w'.history = w.history))
      (reserve m) w := by
  unfold reserve
  generalize strip m = key
  dsimp only
  split
  · exact meets_raise ⟨h, fun hr => nomatch hr⟩
  · split
    · exact meets_raise ⟨h, fun hr => nomatch hr⟩
    · refine meets_mono ?_ _ _ (keeps_call (.claimMessageId key) ⟨rfl, .inl rfl⟩ h)
      rintro r w' ⟨hL, a, hr⟩
      refine ⟨hL, ?_⟩
      rintro rfl
      obtain ⟨now, hans, hw⟩ := ifDone_ok (congrArg Prod.fst hr).symm
      have hw' : w' = (w.claim key).2 := (congrArg Prod.snd hr).trans hw
      rcases claim_cases w key with hc | ⟨hnew, hc⟩
      · rw [hc] at hans
        cases hans
      · rw [hw', hc]
        exact ⟨hnew, List.mem_cons_self, rfl⟩

theorem audit_meets (seen : Seen) (result : String) (reason : Option String)
    (h : Loop config strict none rest off w) :
    Keeps u config strict (fun _ w' => Loop config strict none rest off w' ∧ Quiet w w')
      (recordRemoteControlAudit seen result reason : Proc F Unit) w := by
  unfold recordRemoteControlAudit
  refine meets_mono ?_ _ _ (keeps_call (.insertAudit _) ⟨rfl, .inl rfl⟩ h)
  rintro r w' ⟨hL, a, ha⟩
  refine ⟨hL, ?_⟩
  rw [show w' = _ from congrArg Prod.snd ha]
  exact quiet_perform rfl a w

/-- What the adapter's result says about the request. -/
def AcceptedResult (u : Unicode) (config : TelegramRemoteControlConfig) (update : Payload F)
    (w : World) : Except Raised AdapterResult → Prop
  | .ok res =>
    res.accepted = true → ∀ q, res.request = some q → Accepted u config update q w
  | .error _ => True

/-- Rejecting accepts nothing. -/
theorem rejectUpdate_meets (update : Payload F) (seen : Seen) (reason : String)
    (h : Loop config strict none rest off w) :
    Keeps u config strict
      (fun r w' => Loop config strict none rest off w' ∧ AcceptedResult u config update w' r)
      (rejectUpdate seen reason : Proc F AdapterResult) w := by
  unfold rejectUpdate
  dsimp only
  refine meets_seq (audit_meets seen _ _ h) ?_ ?_
  · intro _ w' hL
    exact meets_pure ⟨hL.1, fun hacc => nomatch hacc⟩
  · exact fun e w' hL => ⟨hL.1, trivial⟩

/-- What an accepted request leaves. -/
theorem acceptRequest_meets {update : Payload F} {seen : Seen} {request : Request}
    (hread : (readUpdate u config update).2 = .ok request)
    (h : Loop config strict none rest off w) :
    Keeps u config strict
      (fun r w' => Loop config strict none rest off w' ∧ AcceptedResult u config update w' r)
      (acceptRequest seen request : Proc F AdapterResult) w := by
  unfold acceptRequest
  refine meets_seq (reserve_meets _ h) ?_ ?_
  · rintro reserved w₁ ⟨hL, hres⟩
    cases reserved with
    | false => exact meets_raise ⟨hL, trivial⟩
    | true =>
      obtain ⟨hfree, hkey, hhistory⟩ := hres rfl
      have hacc : Accepted u config update request w₁ := by
        refine ⟨hread, hkey, ?_⟩
        rw [hhistory]
        intro q hq he
        have hreserved := h.consistent.reserved q hq
        rw [he] at hreserved
        exact hfree hreserved
      refine meets_seq (audit_meets seen _ _ hL) ?_ ?_
      · rintro _ w₂ ⟨hL₂, hq₂⟩
        refine meets_pure ⟨hL₂, ?_⟩
        rintro - q hq
        obtain rfl := Option.some.inj hq
        exact hacc.quiet hq₂
      · exact fun e w₂ hL₂ => ⟨hL₂.1, trivial⟩
  · exact fun e w₁ hL => ⟨hL.1, trivial⟩

/-- **The adapter.** What it accepts is read from the update, authorized, and accepted for the first
    time. -/
theorem adapter_meets (update : Payload F) (h : Loop config strict none rest off w) :
    Keeps u config strict
      (fun r w' => Loop config strict none rest off w' ∧ AcceptedResult u config update w' r)
      (processTelegramUpdate u config update) w := by
  unfold processTelegramUpdate
  cases hread : readUpdate u config update with
  | mk seen outcome =>
    dsimp only
    cases outcome with
    | error e =>
      cases e with
      | valueError reason => exact rejectUpdate_meets update seen reason h
      | controlError code => exact meets_raise ⟨h, trivial⟩
      | other => exact meets_raise ⟨h, trivial⟩
    | ok request =>
      refine meets_try (meets_mono ?_ _ _ (acceptRequest_meets (by rw [hread]) h))
      rintro r w' ⟨hL, hacc⟩
      cases r with
      | ok result => exact meets_pure ⟨hL, hacc⟩
      | error e =>
        cases e with
        | valueError reason => exact rejectUpdate_meets update seen reason hL
        | controlError code => exact meets_raise ⟨hL, trivial⟩
        | other => exact meets_raise ⟨hL, trivial⟩

/-! ## 3. The controller -/

/-- A quiet call of a command. -/
def Op.Commanded (op : Op) : Prop := op.quiet = true ∧ op.ofCommand = true

section Controller

variable (iso : ℤ → String) (env : Wiring)

theorem only_createConfirmation (operation campaignId runId : String) (ttl : ℚ) :
    Only Op.Commanded (createConfirmation u operation campaignId runId ttl :
      Proc F Confirmation) := by
  unfold createConfirmation
  dsimp only
  split
  · exact only_raise _
  · refine only_bind (only_lift _) fun campaignId => only_bind (only_lift _) fun runId => ?_
    refine only_bind (only_invoke ⟨rfl, rfl⟩) fun now => ?_
    refine only_bind (only_invoke ⟨rfl, rfl⟩) fun i => only_bind (only_lift _) fun _ => ?_
    exact only_bind (only_invoke ⟨rfl, rfl⟩) fun _ => only_pure _

theorem only_runExecutor (command : RemoteControlCommand) (trusted : TrustedConfig) :
    Only Op.Commanded (runExecutor env command trusted : Proc F DispatchResult) := by
  unfold runExecutor
  split
  · exact only_pure _
  · split
    · exact only_pure _
    · refine only_bind (only_attempt (only_invoke ⟨rfl, rfl⟩)) fun r => ?_
      cases r <;> exact only_pure _

theorem only_runQuery (command : RemoteControlCommand) (trusted : TrustedConfig) :
    Only Op.Commanded (runQuery env command trusted : Proc F DispatchResult) := by
  unfold runQuery
  split
  · exact only_pure _
  · refine only_bind (only_attempt (only_invoke ⟨rfl, rfl⟩)) fun r => ?_
    cases r <;> exact only_pure _

theorem only_requestConfirmation (command : RemoteControlCommand) (trusted : TrustedConfig) :
    Only Op.Commanded
      (requestConfirmation u iso env command trusted : Proc F DispatchResult) := by
  unfold requestConfirmation
  split
  · exact only_pure _
  · split
    · exact only_pure _
    · refine only_bind (only_attempt (only_createConfirmation _ _ _ _)) fun r => ?_
      cases r <;> exact only_pure _

theorem only_cancelRequest (i : String) (trusted : TrustedConfig) :
    Only Op.Commanded (cancelRequest env i trusted : Proc F DispatchResult) := by
  unfold cancelRequest cancel
  refine only_bind (only_attempt (only_bind (only_lift _) fun x => ?_)) fun r => ?_
  · exact only_invoke ⟨rfl, rfl⟩
  · cases r <;> exact only_pure _

theorem only_recordConfirmationResult (i code : String) :
    Only Op.Commanded (recordConfirmationResult i code : Proc F Unit) := by
  unfold recordConfirmationResult
  exact only_bind (only_lift _) fun _ => only_bind (only_lift _) fun _ =>
    only_invoke ⟨rfl, rfl⟩

/-- A confirmation was claimed for an action that has not been called. -/
structure Ticket (w : World) (row : Confirmation) (trusted : TrustedConfig) : Prop where
  spent : statusOf w row.confirmationId = some .consumed
  unused : ∀ a ∈ w.history.actions, a.confirmationId ≠ row.confirmationId
  licensed : ∃ c ∈ w.history.consumed,
    ∀ request, Licenses c ⟨row.confirmationId, row.operation, trusted, request⟩

/-- **A claim that succeeds is a ticket.** -/
theorem consume_ticket {trusted : TrustedConfig} {i : String} {now : ℤ} {row : Confirmation}
    (hw : Controlled config w)
    (h : (w.consume i trusted.campaignId trusted.runId now).1 = .ok row) :
    Ticket (w.consume i trusted.campaignId trusted.runId now).2 row trusted := by
  unfold World.consume at h ⊢
  unfold consumeConfirmation at h ⊢
  cases hfind : findConfirmation w.confirmations i with
  | none =>
    rw [hfind] at h
    cases h
  | some found =>
    rw [hfind] at h
    dsimp only at h ⊢
    by_cases hp : found.status = .pending
    · rw [if_neg (not_not.mpr hp)] at h ⊢
      by_cases he : found.expiresAt ≤ now
      · rw [if_pos he] at h
        cases h
      · rw [if_neg he] at h ⊢
        by_cases hid : found.campaignId ≠ trusted.campaignId ∨ found.runId ≠ trusted.runId
        · rw [if_pos hid] at h
          cases h
        · rw [if_neg hid] at h ⊢
          obtain rfl := Except.ok.inj h
          rw [not_or, not_not, not_not] at hid
          have hi := findConfirmation_id hfind
          refine ⟨?_, ?_, ⟨_, List.mem_cons_self,
            fun _ => ⟨rfl, rfl, hp, not_le.mp he, hid.1, hid.2⟩⟩⟩
          · rw [hi]
            exact statusIn_update_self (fun _ => rfl) hfind
          · intro a ha hai
            -- an action of this confirmation would have found it consumed
            have hs := hw.spent a ha
            unfold statusOf statusIn at hs
            rw [hai, hi, hfind, Option.map_some, hp] at hs
            cases hs
    · rw [if_pos hp] at h
      cases h

/-- The action uses the ticket. -/
theorem Controlled.acted {row : Confirmation} {trusted : TrustedConfig}
    (h : Controlled config w) (ht : Ticket w row trusted) (hd : w.history.dispatched ≠ []) :
    Controlled config (w.acted row.confirmationId row.operation trusted) := by
  obtain ⟨r, rs, hrs⟩ := List.exists_cons_of_ne_nil hd
  refine ⟨h.authorized, ?_, ?_, ?_, ?_⟩
  · refine List.nodup_cons.mpr ⟨?_, h.once⟩
    intro hmem
    obtain ⟨a, ha, hai⟩ := List.mem_map.mp hmem
    exact ht.unused a ha hai
  · exact List.forall_mem_cons.mpr ⟨ht.spent, h.spent⟩
  · obtain ⟨c, hc, hl⟩ := ht.licensed
    exact List.forall_mem_cons.mpr ⟨⟨c, hc, hl _⟩, h.licensed⟩
  · refine List.forall_mem_cons.mpr ⟨⟨r, ?_, ?_⟩, h.requested⟩
    · show r ∈ w.history.dispatched
      rw [hrs]
      exact List.mem_cons_self
    · show w.history.dispatched.head? = some r
      rw [hrs]
      rfl

/-- What an invariant `J` needs for the controller to keep it. -/
structure Controllable (config : TelegramRemoteControlConfig) (I : Op → World → Prop)
    (J : World → Prop) : Prop where
  quiet : ∀ w w', Quiet w w' → J w → J w'
  steady : ∀ op w, op.ofCommand = true → J w → I op w
  controlled : ∀ w, J w → Controlled config w
  acted : ∀ w row trusted, J w → Ticket w row trusted → w.history.dispatched ≠ [] →
    J (w.acted row.confirmationId row.operation trusted)

variable {C : Op → World → Answer F → Prop} {I : Op → World → Prop} {J : World → Prop}

theorem Controllable.only (hJ : Controllable config I J) {α : Type} {t : Proc F α}
    (ht : Only Op.Commanded t) (h : J w) : Meets perform C I (fun _ w => J w) t w := by
  refine meets_of_only (K := Op.Commanded) ?_ ?_ ht h
  · exact fun op w hop hw => hJ.steady op w hop.2 hw
  · exact fun op a w hop hw => hJ.quiet w _ (quiet_perform hop.1 a w) hw

theorem act_meets (hJ : Controllable config I J) (i : String) {row : Confirmation}
    {trusted : TrustedConfig} (h : J w) (ht : Ticket w row trusted)
    (hd : w.history.dispatched ≠ []) :
    Meets perform C I (fun _ w' => J w') (act env i row trusted : Proc F DispatchResult) w := by
  unfold act
  refine meets_try (meets_invoke (hJ.steady _ w rfl h) fun a _ => ?_)
  refine meets_try (meets_mono ?_ _ _
    (hJ.only (only_recordConfirmationResult i _) (hJ.acted w row trusted h ht hd)))
  intro r w' hL
  cases r with
  | ok _ => exact meets_pure hL
  | error e =>
    dsimp only
    split
    · exact meets_pure hL
    · exact meets_pure hL

/-- The trusted values carry no space around them. -/
theorem trustedConfigValues_strip {c : RemoteConfig} {trusted : TrustedConfig}
    (h : trustedConfigValues c = .ok trusted) :
    strip trusted.campaignId = trusted.campaignId ∧ strip trusted.runId = trusted.runId := by
  have hstrip : ∀ {v : Option String} {s : String}, requiredTrustedText v = .ok s →
    strip s = s := by
    intro v s hs
    cases v with
    | none => cases hs
    | some t =>
      unfold requiredTrustedText at hs
      dsimp only at hs
      split at hs
      · cases hs
      · rw [← Except.ok.inj hs, strip_strip]
  unfold trustedConfigValues at h
  obtain ⟨_, _, h⟩ := ok_of_bind h
  obtain ⟨_, hc, h⟩ := ok_of_bind h
  obtain ⟨_, hr, h⟩ := ok_of_bind h
  obtain rfl := Except.ok.inj h
  exact ⟨hstrip hc, hstrip hr⟩

theorem safeToken_ok {value code text : String} (h : safeToken value code = .ok text) :
    text = strip value := by
  unfold safeToken at h
  dsimp only at h
  split at h
  · exact (Except.ok.inj h).symm
  · cases h

theorem confirm_meets (hJ : Controllable config I J) (i : String) {trusted : TrustedConfig}
    (hc : strip trusted.campaignId = trusted.campaignId)
    (hr : strip trusted.runId = trusted.runId) (h : J w) (hd : w.history.dispatched ≠ []) :
    Meets perform C I (fun _ w' => J w') (confirm env i trusted : Proc F DispatchResult) w := by
  unfold confirm consume
  refine meets_try ?_
  cases hargs : confirmationArguments i trusted.campaignId trusted.runId with
  | error e => exact meets_raise (meets_pure h)
  | ok x =>
    obtain ⟨i', c', r'⟩ := x
    have hcr : c' = trusted.campaignId ∧ r' = trusted.runId := by
      unfold confirmationArguments at hargs
      obtain ⟨_, _, hargs⟩ := ok_of_bind hargs
      obtain ⟨_, hc', hargs⟩ := ok_of_bind hargs
      obtain ⟨_, hr', hargs⟩ := ok_of_bind hargs
      obtain ⟨-, rfl, rfl⟩ := Except.ok.inj hargs
      rw [safeToken_ok hc', safeToken_ok hr', hc, hr]
      exact ⟨rfl, rfl⟩
    obtain ⟨rfl, rfl⟩ := hcr
    refine meets_mono ?_ _ _ (meets_call (.consumeConfirmation _ _ _) (hJ.steady _ w rfl h))
    rintro r w' ⟨a, -, ha⟩
    have hL : J w' := by
      rw [show w' = _ from congrArg Prod.snd ha]
      exact hJ.quiet w _ (quiet_perform rfl a w) h
    cases r with
    | error e => exact meets_pure hL
    | ok row =>
      obtain ⟨now, hans, hw⟩ := ifDone_ok (congrArg Prod.fst ha).symm
      have hw' : w' = (w.consume i' trusted.campaignId trusted.runId now).2 :=
        (congrArg Prod.snd ha).trans hw
      have ht := consume_ticket (hJ.controlled w h) hans
      rw [← hw'] at ht
      have hd' : w'.history.dispatched ≠ [] := by
        rw [hw', (quiet_consume w _ _ _ now).dispatched]
        exact hd
      exact act_meets env hJ i hL ht hd'

theorem runConfirmation_meets (hJ : Controllable config I J) (command : RemoteControlCommand)
    {trusted : TrustedConfig} (hc : strip trusted.campaignId = trusted.campaignId)
    (hr : strip trusted.runId = trusted.runId) (h : J w) (hd : w.history.dispatched ≠ []) :
    Meets perform C I (fun _ w' => J w')
      (runConfirmation env command trusted : Proc F DispatchResult) w := by
  unfold runConfirmation
  split
  · split
    · exact meets_pure h
    · split
      · exact meets_pure h
      · split
        · exact hJ.only (only_cancelRequest env _ _) h
        · exact confirm_meets env hJ _ hc hr h hd
  · exact meets_pure h

/-- **The controller** keeps what it can keep. -/
theorem controller_meets (hJ : Controllable config I J) (request : Request) (h : J w)
    (hd : w.history.dispatched ≠ []) :
    Meets perform C I (fun _ w' => J w')
      (processTelegramRequest u iso env request : Proc F DispatchResult) w := by
  unfold processTelegramRequest
  dsimp only
  split
  · exact meets_pure h
  · split
    · exact meets_pure h
    · cases htrusted : trustedConfigValues env.config with
      | error e => exact meets_pure h
      | ok trusted =>
        obtain ⟨hc, hr⟩ := trustedConfigValues_strip htrusted
        dsimp only
        split
        · exact hJ.only (only_runExecutor env _ _) h
        · split
          · exact hJ.only (only_runQuery env _ _) h
          · split
            · exact hJ.only (only_requestConfirmation iso env _ _) h
            · exact runConfirmation_meets env hJ _ hc hr h hd

end Controller

/-- The controller keeps the invariants of the flight it is called in. -/
theorem controllable_loop :
    Controllable config (Steady config strict) (Loop config strict flight rest off) where
  quiet _ _ hq h := h.quiet hq
  steady _ _ hop h := h.steady (.inr hop)
  controlled _ h := h.controlled
  acted _ _ _ h ht hd :=
    { h with
      consistent := { h.consistent with }
      controlled := h.controlled.acted ht hd }

end AlphaForge.Telegram
