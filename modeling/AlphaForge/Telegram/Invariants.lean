/-
  File:      AlphaForge/Telegram/Invariants.lean
  Subject:   What holds of the databases and the history of the Telegram service, and what the
             calls do to it.

  * `Responded`, `Handled` -- a response is delivered or pending; an update was rejected or its
    request dispatched.
  * `Consistent`, `Controlled` -- the invariants: of the updates and the offset, of the
    confirmations and the actions.
  * **`terminal_perform`** -- no call changes a terminal status; **`offset_perform`** -- no call
    moves the offset back.
  * `quiet_perform` -- what the calls do that pass no point, move no offset, receive no update and
    execute no action.
-/
import AlphaForge.Telegram.Transport

namespace AlphaForge.Telegram

open AlphaForge.Lib hiding strip upper
open AlphaForge.Lib.PyText

variable {F : Type}

/-! ## 1. Confirmations -/

def statusIn (rows : List Confirmation) (confirmationId : String) : Option Status :=
  (findConfirmation rows confirmationId).map (·.status)

/-- The status of a confirmation. -/
def statusOf (w : World) (confirmationId : String) : Option Status :=
  statusIn w.confirmations confirmationId

theorem findConfirmation_id {rows : List Confirmation} {id : String} {row : Confirmation}
    (h : findConfirmation rows id = some row) : row.confirmationId = id :=
  eq_of_beq (List.find?_some (p := fun r : Confirmation => r.confirmationId == id) h)

theorem findConfirmation_map {rows : List Confirmation} {f : Confirmation → Confirmation}
    (hf : ∀ r, (f r).confirmationId = r.confirmationId) (id : String) :
    findConfirmation (rows.map f) id = (findConfirmation rows id).map f := by
  unfold findConfirmation
  rw [List.find?_map]
  congr 2
  funext r
  rw [Function.comp_apply, hf]

/-- A change of one confirmation that keeps its id. -/
theorem statusIn_update {rows : List Confirmation} {id other : String}
    {f : Confirmation → Confirmation} (hf : ∀ r, (f r).confirmationId = r.confirmationId)
    (h : other ≠ id) : statusIn (updateConfirmation rows id f) other = statusIn rows other := by
  unfold statusIn updateConfirmation
  rw [findConfirmation_map fun r => by split <;> simp [hf]]
  cases hfind : findConfirmation rows other with
  | none => rfl
  | some row =>
    have hid : row.confirmationId ≠ id := by
      rw [findConfirmation_id hfind]
      exact h
    rw [Option.map_some, Option.map_some, Option.map_some, if_neg hid]

theorem statusIn_update_self {rows : List Confirmation} {id : String} {row : Confirmation}
    {f : Confirmation → Confirmation} (hf : ∀ r, (f r).confirmationId = r.confirmationId)
    (h : findConfirmation rows id = some row) :
    statusIn (updateConfirmation rows id f) id = some (f row).status := by
  unfold statusIn updateConfirmation
  rw [findConfirmation_map fun r => by split <;> simp [hf], h, Option.map_some, Option.map_some,
    if_pos (findConfirmation_id h)]

/-- A terminal status is kept from one table to the next. -/
def TerminalKept (rows rows' : List Confirmation) : Prop :=
  ∀ id st, statusIn rows id = some st → st ≠ .pending → statusIn rows' id = some st

theorem terminalKept_refl (rows : List Confirmation) : TerminalKept rows rows :=
  fun _ _ h _ => h

/-- Only a pending confirmation is updated. -/
theorem terminalKept_update {rows : List Confirmation} {id : String} {row : Confirmation}
    {f : Confirmation → Confirmation} (hf : ∀ r, (f r).confirmationId = r.confirmationId)
    (hfind : findConfirmation rows id = some row) (hp : row.status = .pending) :
    TerminalKept rows (updateConfirmation rows id f) := by
  intro other st hst hterminal
  by_cases he : other = id
  · subst he
    unfold statusIn at hst
    rw [hfind, Option.map_some, hp] at hst
    exact absurd (Option.some.inj hst).symm hterminal
  · rw [statusIn_update hf he]
    exact hst

theorem terminalKept_consume (rows : List Confirmation) (id campaignId runId : String) (now : ℤ) :
    TerminalKept rows (consumeConfirmation rows id campaignId runId now).2 := by
  unfold consumeConfirmation
  cases hfind : findConfirmation rows id with
  | none => exact terminalKept_refl rows
  | some row =>
    dsimp only
    split
    · exact terminalKept_refl rows
    · rename_i hp
      rw [not_not] at hp
      split
      · exact terminalKept_update (fun _ => rfl) hfind hp
      · split
        · exact terminalKept_update (fun _ => rfl) hfind hp
        · exact terminalKept_update (fun _ => rfl) hfind hp

theorem terminalKept_cancel (rows : List Confirmation) (id campaignId runId : String) :
    TerminalKept rows (cancelConfirmation rows id campaignId runId).2 := by
  unfold cancelConfirmation
  cases hfind : findConfirmation rows id with
  | none => exact terminalKept_refl rows
  | some row =>
    dsimp only
    split
    · exact terminalKept_refl rows
    · split
      · exact terminalKept_refl rows
      · rename_i hp
        rw [not_not] at hp
        exact terminalKept_update (fun _ => rfl) hfind hp

theorem terminalKept_recordResult (rows : List Confirmation) (id code : String) :
    TerminalKept rows (recordResult rows id code).2 := by
  unfold recordResult
  split
  · intro other st hst _
    unfold statusIn at hst ⊢
    rw [findConfirmation_map fun r => by split <;> rfl, ← hst, Option.map_map]
    congr 1
    funext r
    rw [Function.comp_apply]
    split <;> rfl
  · exact terminalKept_refl rows

theorem terminalKept_append (rows : List Confirmation) (row : Confirmation) :
    TerminalKept rows (rows ++ [row]) := by
  intro id st hst _
  unfold statusIn findConfirmation at hst ⊢
  rw [List.find?_append]
  cases hfind : rows.find? fun r => r.confirmationId == id with
  | none =>
    rw [hfind] at hst
    exact nomatch hst
  | some r =>
    rw [hfind] at hst
    exact hst

/-! ## 2. Transactions that commit or not -/

/-- The transaction commits. -/
def Answer.commits : Answer F → Bool
  | .done _ => true
  | .lost _ => true
  | _ => false

/-- What holds of the world, and of what a transaction makes of it, holds after it. -/
theorem ifDone_world {β : Type} (P : World → Prop) {w : World} {f : ℤ → Except Raised β × World}
    {a : Answer F} (hw : P w) (hf : ∀ now, P (f now).2) : P (ifDone w f a).2 := by
  cases a with
  | done now => exact hf now
  | lost now => exact hf now
  | fault => exact hw
  | text s => exact hw
  | payload v => exact hw
  | result r => exact hw

/-- What a transaction answers, it answers having committed. -/
theorem ifDone_ok {β : Type} {w : World} {f : ℤ → Except Raised β × World} {a : Answer F} {b : β}
    (h : (ifDone w f a).1 = .ok b) :
    ∃ now, (f now).1 = .ok b ∧ (ifDone w f a).2 = (f now).2 := by
  cases a with
  | done now => exact ⟨now, h, rfl⟩
  | lost now => cases h
  | fault => cases h
  | text s => cases h
  | payload v => cases h
  | result r => cases h

/-- A transaction commits and answers, commits and raises, or leaves the world. -/
theorem ifDone_cases {β : Type} (w : World) (f : ℤ → Except Raised β × World) (a : Answer F) :
    (∃ now, ifDone w f a = f now) ∨ (∃ now, ifDone w f a = (.error .other, (f now).2)) ∨
      (a.commits = false ∧ ifDone w f a = (.error .other, w)) := by
  cases a with
  | done now => exact .inl ⟨now, rfl⟩
  | lost now => exact .inr (.inl ⟨now, rfl⟩)
  | fault => exact .inr (.inr ⟨rfl, rfl⟩)
  | text s => exact .inr (.inr ⟨rfl, rfl⟩)
  | payload v => exact .inr (.inr ⟨rfl, rfl⟩)
  | result r => exact .inr (.inr ⟨rfl, rfl⟩)

section Calls

variable (w : World)

theorem claim_cases (messageId : String) :
    (w.claim messageId = (.ok false, w)) ∨
    (messageId ∉ w.replayIds ∧
      w.claim messageId = (.ok true, { w with replayIds := messageId :: w.replayIds })) := by
  unfold World.claim
  split
  · exact .inl rfl
  · rename_i h
    exact .inr ⟨h, rfl⟩

theorem acknowledge_confirmations (n : ℤ) :
    (w.acknowledge n).2.confirmations = w.confirmations := by
  unfold World.acknowledge
  split <;> rfl

theorem persist_confirmations (updateId chatId text : String) (n now : ℤ) :
    (w.persist updateId chatId text n now).2.confirmations = w.confirmations := by
  unfold World.persist
  split <;> rfl

theorem recordFailure_confirmations (updateId : String) :
    (w.recordFailure updateId).2.confirmations = w.confirmations := by
  unfold World.recordFailure
  split <;> rfl

theorem deliver_confirmations (updateId : String) :
    (w.deliver updateId).2.confirmations = w.confirmations := by
  unfold World.deliver
  split <;> rfl

theorem consume_confirmations (id campaignId runId : String) (now : ℤ) :
    (w.consume id campaignId runId now).2.confirmations =
      (consumeConfirmation w.confirmations id campaignId runId now).2 := by
  unfold World.consume
  split <;> rename_i h <;> rw [h]

theorem insertConfirmation_cases (row : Confirmation) :
    (w.insertConfirmation row).2 = w ∨
    (w.insertConfirmation row).2 = { w with
      confirmations := w.confirmations ++ [row]
      history := { w.history with
        created := ⟨row.confirmationId, w.history.dispatched.head?⟩ :: w.history.created } } := by
  unfold World.insertConfirmation
  split
  · exact .inl rfl
  · exact .inr rfl

end Calls

/-- The terminal statuses of `w` are those of `w'`. -/
def StatusesKept (w w' : World) : Prop := TerminalKept w.confirmations w'.confirmations

/-- **No call changes a terminal status.** -/
theorem terminal_perform (op : Op) (a : Answer F) (w : World) :
    StatusesKept w (perform op a w).2 := by
  have hsame : ∀ w' : World, w'.confirmations = w.confirmations → StatusesKept w w' := by
    intro w' h
    unfold StatusesKept
    rw [h]
    exact terminalKept_refl _
  have hrefl : StatusesKept w w := hsame w rfl
  cases op with
  | note n => cases n <;> exact hsame _ rfl
  | claimMessageId m =>
    refine ifDone_world (StatusesKept w) hrefl fun _ => ?_
    rcases claim_cases w m with h | ⟨-, h⟩
    · rw [h]
      exact hrefl
    · rw [h]
      exact hsame _ rfl
  | insertAudit row => exact ifDone_world (StatusesKept w) hrefl fun _ => hsame _ rfl
  | loadOffset => exact ifDone_world (StatusesKept w) hrefl fun _ => hrefl
  | acknowledgeOffset n =>
    exact ifDone_world (StatusesKept w) hrefl fun _ => hsame _ (acknowledge_confirmations w n)
  | persistPendingWithOffset i c t n =>
    exact ifDone_world (StatusesKept w) hrefl
      fun now => hsame _ (persist_confirmations w i c t n now)
  | selectPending => exact ifDone_world (StatusesKept w) hrefl fun _ => hrefl
  | recordDeliveryFailure i =>
    exact ifDone_world (StatusesKept w) hrefl fun _ => hsame _ (recordFailure_confirmations w i)
  | markDelivered i =>
    exact ifDone_world (StatusesKept w) hrefl fun _ => hsame _ (deliver_confirmations w i)
  | readClock => exact ifDone_world (StatusesKept w) hrefl fun _ => hrefl
  | idFactory => exact hrefl
  | insertConfirmation row =>
    refine ifDone_world (StatusesKept w) hrefl fun _ => ?_
    rcases insertConfirmation_cases w row with h | h
    · rw [h]
      exact hrefl
    · rw [h]
      exact terminalKept_append _ _
  | consumeConfirmation i c r =>
    refine ifDone_world (StatusesKept w) hrefl fun now => ?_
    unfold StatusesKept
    rw [consume_confirmations]
    exact terminalKept_consume _ _ _ _ _
  | cancelConfirmation i c r =>
    exact ifDone_world (StatusesKept w) hrefl fun _ => terminalKept_cancel _ _ _ _
  | recordConfirmationResult i c =>
    exact ifDone_world (StatusesKept w) hrefl fun _ => terminalKept_recordResult _ _ _
  | getUpdates o => exact hsame _ rfl
  | sendMessage c t => exact hrefl
  | execute c t => exact hrefl
  | action i o c => exact hsame _ rfl

/-! ## 3. The offset -/

/-- `a` is no later than `b`; no offset is the earliest. -/
def OffsetLe (a b : Option ℤ) : Prop := ∀ x, a = some x → ∃ y, b = some y ∧ x ≤ y

theorem offsetLe_refl (a : Option ℤ) : OffsetLe a a := fun x h => ⟨x, h, Int.le_refl x⟩

theorem OffsetLe.trans {a b c : Option ℤ} (h : OffsetLe a b) (h' : OffsetLe b c) :
    OffsetLe a c := by
  intro x hx
  obtain ⟨y, hy, hxy⟩ := h x hx
  obtain ⟨z, hz, hyz⟩ := h' y hy
  exact ⟨z, hz, Int.le_trans hxy hyz⟩

theorem storedOffset_ok {stored : Option ℤ} {o : Option ℤ} (h : storedOffset stored = .ok o) :
    o = stored := by
  unfold storedOffset at h
  cases stored with
  | none => exact (Except.ok.inj h).symm
  | some n =>
    dsimp only at h
    split at h
    · cases h
    · exact (Except.ok.inj h).symm

/-- The offset written is the later of the two. -/
theorem writeMonotonicOffset_ok {stored : Option ℤ} {n d : ℤ}
    (h : writeMonotonicOffset stored n = .ok d) :
    OffsetLe stored (some d) ∧ n ≤ d ∧ (d = n ∨ stored = some d) := by
  unfold writeMonotonicOffset at h
  obtain ⟨o, ho, h⟩ := ok_of_bind h
  rw [storedOffset_ok ho] at h
  cases stored with
  | none =>
    obtain rfl := Except.ok.inj h
    exact ⟨fun _ hx => (nomatch hx), Int.le_refl _, .inl rfl⟩
  | some c =>
    obtain rfl := Except.ok.inj h
    refine ⟨fun x hx => ⟨_, rfl, ?_⟩, Int.le_max_right _ _, ?_⟩
    · obtain rfl := Option.some.inj hx
      exact Int.le_max_left _ _
    · rcases Int.le_total c n with hc | hc
      · rw [Int.max_eq_right hc]
        exact .inl rfl
      · rw [Int.max_eq_left hc]
        exact .inr rfl

theorem acknowledge_cases (w : World) (n : ℤ) :
    (∃ d, writeMonotonicOffset w.nextOffset n = .ok d ∧
      w.acknowledge n = (.ok d, { w with nextOffset := some d })) ∨
    ∃ e, w.acknowledge n = (.error e, w) := by
  unfold World.acknowledge
  cases h : writeMonotonicOffset w.nextOffset n with
  | ok d => exact .inl ⟨d, rfl, rfl⟩
  | error e => exact .inr ⟨e, rfl⟩

theorem persist_cases (w : World) (i c t : String) (n now : ℤ) :
    (∃ d, writeMonotonicOffset w.nextOffset n = .ok d ∧
      w.persist i c t n now = (.ok d, { w with
        nextOffset := some d
        pending := upsertPending w.pending i c t (now / 1000000) })) ∨
    ∃ e, writeMonotonicOffset w.nextOffset n = .error e ∧
      w.persist i c t n now = (.error e, w) := by
  unfold World.persist
  cases h : writeMonotonicOffset w.nextOffset n with
  | ok d => exact .inl ⟨d, rfl, rfl⟩
  | error e => exact .inr ⟨e, rfl, rfl⟩

/-- **No call moves the offset back.** -/
theorem offset_perform (op : Op) (a : Answer F) (w : World) :
    OffsetLe w.nextOffset (perform op a w).2.nextOffset := by
  have hsame : ∀ w' : World, w'.nextOffset = w.nextOffset →
    OffsetLe w.nextOffset w'.nextOffset := by
    intro w' h
    rw [h]
    exact offsetLe_refl _
  have hquiet : ∀ {β : Type} {f : ℤ → Except Raised β × World},
      (∀ now, (f now).2.nextOffset = w.nextOffset) →
      OffsetLe w.nextOffset (ifDone w f a).2.nextOffset :=
    fun hf => ifDone_world (fun w' => OffsetLe w.nextOffset w'.nextOffset) (hsame w rfl)
      fun now => hsame _ (hf now)
  cases op with
  | note n => cases n <;> exact hsame _ rfl
  | claimMessageId m =>
    refine hquiet fun _ => ?_
    rcases claim_cases w m with h | ⟨-, h⟩ <;> rw [h]
  | insertAudit row => exact hquiet fun _ => rfl
  | loadOffset => exact hquiet fun _ => rfl
  | acknowledgeOffset n =>
    refine ifDone_world (fun w' => OffsetLe w.nextOffset w'.nextOffset) (hsame w rfl) fun _ => ?_
    rcases acknowledge_cases w n with ⟨d, hd, h⟩ | ⟨e, h⟩
    · rw [h]
      exact (writeMonotonicOffset_ok hd).1
    · rw [h]
      exact hsame w rfl
  | persistPendingWithOffset i c t n =>
    refine ifDone_world (fun w' => OffsetLe w.nextOffset w'.nextOffset) (hsame w rfl)
      fun now => ?_
    rcases persist_cases w i c t n now with ⟨d, hd, h⟩ | ⟨e, -, h⟩
    · rw [h]
      exact (writeMonotonicOffset_ok hd).1
    · rw [h]
      exact hsame w rfl
  | selectPending => exact hquiet fun _ => rfl
  | recordDeliveryFailure i =>
    refine hquiet fun _ => ?_
    unfold World.recordFailure
    split <;> rfl
  | markDelivered i =>
    refine hquiet fun _ => ?_
    unfold World.deliver
    split <;> rfl
  | readClock => exact hquiet fun _ => rfl
  | idFactory => exact hsame w rfl
  | insertConfirmation row =>
    refine hquiet fun _ => ?_
    rcases insertConfirmation_cases w row with h | h <;> rw [h]
  | consumeConfirmation i c r =>
    refine hquiet fun _ => ?_
    unfold World.consume
    split <;> rfl
  | cancelConfirmation i c r => exact hquiet fun _ => rfl
  | recordConfirmationResult i c => exact hquiet fun _ => rfl
  | getUpdates o => exact hsame _ rfl
  | sendMessage c t => exact hsame w rfl
  | execute c t => exact hsame w rfl
  | action i o c => exact hsame _ rfl

/-! ## 4. The invariants -/

/-- The response to the update is recorded as delivered, or pending. -/
def Responded (w : World) (updateId : String) : Prop :=
  updateId ∈ w.history.delivered ∨ ∃ row ∈ w.pending, row.updateId = updateId

/-- The update was rejected for good, or its request was dispatched. -/
def Handled (w : World) (n : ℤ) : Prop :=
  some n ∈ w.history.rejected ∨ ∃ r ∈ w.history.dispatched, r.updateId = toString n

/-- The key of an update in the replay database. -/
def replayKey (updateId : String) : String := strip s!"telegram:{updateId}"

/-- What holds of the updates and the offset. -/
structure Consistent (w : World) : Prop where
  once : (w.history.dispatched.map (·.updateId)).Nodup
  reserved : ∀ r ∈ w.history.dispatched, replayKey r.updateId ∈ w.replayIds
  /-- The offset follows an update that was received. -/
  reached : ∀ o, w.nextOffset = some o → ∃ m ∈ w.history.seen, o ≤ m + 1
  passed : ∀ n ∈ w.history.seen, ∀ o, w.nextOffset = some o → n < o → Handled w n

/-- The claim of a confirmation licenses an action. -/
structure Licenses (c : Consumption) (a : ActionCall) : Prop where
  confirmation : c.row.confirmationId = a.confirmationId
  operation : c.row.operation = a.operation
  pending : c.row.status = .pending
  unexpired : c.now < c.row.expiresAt
  campaign : c.row.campaignId = a.config.campaignId
  run : c.row.runId = a.config.runId

/-- What holds of the confirmations and the actions. -/
structure Controlled (config : TelegramRemoteControlConfig) (w : World) : Prop where
  authorized : ∀ r ∈ w.history.dispatched, authorize config r.userId r.chatId = .ok ()
  once : (w.history.actions.map (·.confirmationId)).Nodup
  spent : ∀ a ∈ w.history.actions, statusOf w a.confirmationId = some .consumed
  licensed : ∀ a ∈ w.history.actions, ∃ c ∈ w.history.consumed, Licenses c a
  requested : ∀ a ∈ w.history.actions, ∃ r ∈ w.history.dispatched, a.request = some r

/-- Every dispatched request has its response, but for the update in flight. -/
def KeptBut (flight : Option String) (w : World) : Prop :=
  ∀ r ∈ w.history.dispatched, some r.updateId ≠ flight → Responded w r.updateId

/-! ## 5. Quiet calls -/

/-- The calls that pass no point, move no offset, receive no update and execute no action. -/
def Op.quiet : Op → Bool
  | .note _ => false
  | .acknowledgeOffset _ => false
  | .persistPendingWithOffset _ _ _ _ => false
  | .getUpdates _ => false
  | .action _ _ _ => false
  | _ => true

/-- What a quiet call does, as far as the invariants can tell. -/
structure Quiet (w w' : World) : Prop where
  replayIds : ∀ k ∈ w.replayIds, k ∈ w'.replayIds
  nextOffset : w'.nextOffset = w.nextOffset
  seen : w'.history.seen = w.history.seen
  rejected : w'.history.rejected = w.history.rejected
  dispatched : w'.history.dispatched = w.history.dispatched
  actions : w'.history.actions = w.history.actions
  consumed : ∀ c ∈ w.history.consumed, c ∈ w'.history.consumed
  responded : ∀ i, Responded w i → Responded w' i
  statuses : StatusesKept w w'

theorem quiet_refl (w : World) : Quiet w w :=
  ⟨fun _ h => h, rfl, rfl, rfl, rfl, rfl, fun _ h => h, fun _ h => h, terminalKept_refl _⟩

theorem quiet_recordFailure (w : World) (i : String) : Quiet w (w.recordFailure i).2 := by
  have hs := recordFailure_confirmations w i
  unfold World.recordFailure at hs ⊢
  split
  · refine ⟨fun _ h => h, rfl, rfl, rfl, rfl, rfl, fun _ h => h, ?_, terminalKept_refl _⟩
    intro j hj
    rcases hj with hj | ⟨row, hrow, hid⟩
    · exact .inl hj
    · refine .inr ⟨_, List.mem_map_of_mem hrow, ?_⟩
      split <;> exact hid
  · exact quiet_refl w

/-- What is delivered was pending; the others stay pending. -/
theorem quiet_deliver (w : World) (i : String) : Quiet w (w.deliver i).2 := by
  unfold World.deliver
  split
  · refine ⟨fun _ h => h, rfl, rfl, rfl, rfl, rfl, fun _ h => h, ?_, terminalKept_refl _⟩
    intro j hj
    rcases hj with hj | ⟨row, hrow, hid⟩
    · exact .inl (List.mem_cons_of_mem _ hj)
    · by_cases he : j = i
      · rw [he]
        exact .inl List.mem_cons_self
      · refine .inr ⟨row, List.mem_filter.mpr ⟨hrow, ?_⟩, hid⟩
        rw [hid]
        exact bne_iff_ne.mpr he
  · exact quiet_refl w

theorem quiet_consume (w : World) (i c r : String) (now : ℤ) :
    Quiet w (w.consume i c r now).2 := by
  have hs : StatusesKept w (w.consume i c r now).2 := by
    unfold StatusesKept
    rw [consume_confirmations]
    exact terminalKept_consume _ _ _ _ _
  unfold World.consume at hs ⊢
  split
  · rename_i heq
    rw [heq] at hs
    exact ⟨fun _ h => h, rfl, rfl, rfl, rfl, rfl, fun _ h => List.mem_cons_of_mem _ h,
      fun _ h => h, hs⟩
  · rename_i heq
    rw [heq] at hs
    exact ⟨fun _ h => h, rfl, rfl, rfl, rfl, rfl, fun _ h => h, fun _ h => h, hs⟩

/-- **What the quiet calls do.** -/
theorem quiet_perform {op : Op} (hq : op.quiet = true) (a : Answer F) (w : World) :
    Quiet w (perform op a w).2 := by
  cases op with
  | note n => cases hq
  | acknowledgeOffset n => cases hq
  | persistPendingWithOffset i c t n => cases hq
  | getUpdates o => cases hq
  | action i o c => cases hq
  | claimMessageId m =>
    refine ifDone_world (Quiet w) (quiet_refl w) fun _ => ?_
    rcases claim_cases w m with h | ⟨-, h⟩
    · rw [h]
      exact quiet_refl w
    · rw [h]
      exact { quiet_refl w with replayIds := fun _ hk => List.mem_cons_of_mem _ hk }
  | insertAudit row =>
    exact ifDone_world (Quiet w) (quiet_refl w) fun _ => { quiet_refl w with }
  | loadOffset => exact ifDone_world (Quiet w) (quiet_refl w) fun _ => quiet_refl w
  | selectPending => exact ifDone_world (Quiet w) (quiet_refl w) fun _ => quiet_refl w
  | recordDeliveryFailure i =>
    exact ifDone_world (Quiet w) (quiet_refl w) fun _ => quiet_recordFailure w i
  | markDelivered i => exact ifDone_world (Quiet w) (quiet_refl w) fun _ => quiet_deliver w i
  | readClock => exact ifDone_world (Quiet w) (quiet_refl w) fun _ => quiet_refl w
  | idFactory => exact quiet_refl w
  | insertConfirmation row =>
    refine ifDone_world (Quiet w) (quiet_refl w) fun _ => ?_
    rcases insertConfirmation_cases w row with h | h
    · rw [h]
      exact quiet_refl w
    · rw [h]
      exact { quiet_refl w with statuses := terminalKept_append _ _ }
  | consumeConfirmation i c r =>
    exact ifDone_world (Quiet w) (quiet_refl w) fun now => quiet_consume w i c r now
  | cancelConfirmation i c r =>
    exact ifDone_world (Quiet w) (quiet_refl w) fun _ =>
      { quiet_refl w with statuses := terminalKept_cancel _ _ _ _ }
  | recordConfirmationResult i c =>
    exact ifDone_world (Quiet w) (quiet_refl w) fun _ =>
      { quiet_refl w with statuses := terminalKept_recordResult _ _ _ }
  | sendMessage c t => exact quiet_refl w
  | execute c t => exact quiet_refl w

section Kept

variable {w w' : World} (h : Quiet w w')

include h

theorem Quiet.handled {n : ℤ} (hn : Handled w n) : Handled w' n := by
  unfold Handled
  rw [h.rejected, h.dispatched]
  exact hn

theorem Quiet.consistent (hw : Consistent w) : Consistent w' where
  once := by
    rw [h.dispatched]
    exact hw.once
  reserved := by
    rw [h.dispatched]
    exact fun r hr => h.replayIds _ (hw.reserved r hr)
  reached := by
    rw [h.nextOffset, h.seen]
    exact hw.reached
  passed := by
    rw [h.nextOffset, h.seen]
    exact fun n hn o ho hlt => h.handled (hw.passed n hn o ho hlt)

theorem Quiet.controlled {config : TelegramRemoteControlConfig} (hw : Controlled config w) :
    Controlled config w' where
  authorized := by
    rw [h.dispatched]
    exact hw.authorized
  once := by
    rw [h.actions]
    exact hw.once
  spent := by
    rw [h.actions]
    exact fun a ha => h.statuses _ _ (hw.spent a ha) (by decide)
  licensed := by
    rw [h.actions]
    intro a ha
    obtain ⟨c, hc, hl⟩ := hw.licensed a ha
    exact ⟨c, h.consumed c hc, hl⟩
  requested := by
    rw [h.actions, h.dispatched]
    exact hw.requested

theorem Quiet.keptBut {flight : Option String} (hw : KeptBut flight w) : KeptBut flight w' := by
  unfold KeptBut
  rw [h.dispatched]
  exact fun r hr hne => h.responded _ (hw r hr hne)

end Kept

end AlphaForge.Telegram
