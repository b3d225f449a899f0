/-
  File:      AlphaForge/Telegram/Batch.lean
  Subject:   The invariants along the loop over a batch, a whole poll, and the retry at the start.

  The offset moves past an update only after it was rejected or its request dispatched: the ids of a
  batch increase, and what lies between the offset and an id of the batch is in the batch.

  * `Loop.advance` -- the offset moves past the first update left.
  * `respond_meets`, `handleUpdate_meets` -- the body of the loop; **`poll_meets`** -- a poll;
    **`retry_meets`** -- the start.
-/
import AlphaForge.Telegram.Poll

namespace AlphaForge.Telegram

open AlphaForge.Lib hiding strip upper
open AlphaForge.Lib.PyText

variable {F : Type} {u : Unicode} {config : TelegramRemoteControlConfig} {strict : Prop}
variable {flight : Option String} {rest : List ℤ} {off : Option ℤ} {w w' : World}

/-! ## 1. The calls that are not quiet -/

theorem Handled.noted {n : ℤ} (h : Handled w n) (note : Note) : Handled (w.noted note) n := by
  cases note with
  | rejected i => exact h.imp (List.mem_cons_of_mem _) id
  | dispatched r =>
    refine h.imp id ?_
    rintro ⟨q, hq, hid⟩
    exact ⟨q, List.mem_cons_of_mem _ hq, hid⟩

theorem Loop.rejected (h : Loop config strict flight rest off w) (i : Option ℤ) :
    Loop config strict flight rest off (w.noted (.rejected i)) where
  consistent :=
    { h.consistent with
      passed := fun n hn o ho hlt => (h.consistent.passed n hn o ho hlt).noted _ }
  controlled := { h.controlled with }
  kept := h.kept
  received := h.received
  ahead n hn m hm hlt := (h.ahead n hn m hm hlt).imp id fun hh => hh.noted _
  offset := h.offset
  flown := h.flown

/-- The request of an accepted update is dispatched; its response is now on its way. -/
theorem Loop.dispatched {update : Payload F} {request : Request}
    (h : Loop config strict none rest off w) (hacc : Accepted u config update request w) :
    Loop config strict (some request.updateId) rest off (w.noted (.dispatched request)) where
  consistent :=
    { once := by
        refine List.nodup_cons.mpr ⟨?_, h.consistent.once⟩
        intro hmem
        obtain ⟨q, hq, hid⟩ := List.mem_map.mp hmem
        exact hacc.fresh q hq hid
      reserved := List.forall_mem_cons.mpr ⟨hacc.reserved, h.consistent.reserved⟩
      reached := h.consistent.reached
      passed := fun n hn o ho hlt => (h.consistent.passed n hn o ho hlt).noted _ }
  controlled :=
    { h.controlled with
      authorized :=
        List.forall_mem_cons.mpr ⟨(readUpdate_ok hacc.read).2, h.controlled.authorized⟩
      requested := by
        intro a ha
        obtain ⟨r, hr, he⟩ := h.controlled.requested a ha
        exact ⟨r, List.mem_cons_of_mem _ hr, he⟩ }
  kept := by
    intro hs r hr hne
    rcases List.mem_cons.mp hr with rfl | hr
    · exact absurd rfl hne
    · exact h.kept hs r hr (Option.some_ne_none _)
  received := h.received
  ahead n hn m hm hlt := (h.ahead n hn m hm hlt).imp id fun hh => hh.noted _
  offset := h.offset
  flown i hi := ⟨request, List.mem_cons_self, Option.some.inj hi⟩

/-- The offset is written, and perhaps a response with it. -/
structure Moved (d : ℤ) (w w' : World) : Prop where
  nextOffset : w'.nextOffset = some d
  replayIds : w'.replayIds = w.replayIds
  confirmations : w'.confirmations = w.confirmations
  history : w'.history = w.history

theorem Moved.controlled {d : ℤ} (hm : Moved d w w') (h : Controlled config w) :
    Controlled config w' := by
  obtain ⟨h1, h2, h3, h4, h5⟩ := h
  unfold statusOf at h3
  rw [← hm.confirmations] at h3
  rw [← hm.history] at h1 h2 h3 h4 h5
  exact ⟨h1, h2, h3, h4, h5⟩

/-- An offset that is known to the process, or that was durable, was reached and passed only what is
    handled; the offset written is such a one or follows the update. -/
theorem advance_cases {n k d : ℤ} (hoff : OffsetLe off w.nextOffset)
    (hk : acknowledgeUpdate off (some n) = some k)
    (hd : writeMonotonicOffset w.nextOffset k = .ok d) :
    d = n + 1 ∨ ∃ y, w.nextOffset = some y ∧ d ≤ y := by
  obtain ⟨-, -, hcase⟩ := writeMonotonicOffset_ok hd
  rcases hcase with rfl | hstored
  · cases off with
    | none => exact .inl (Option.some.inj hk).symm
    | some o =>
      obtain ⟨y, hy, hle⟩ := hoff o rfl
      have hmax : max o (n + 1) = d := Option.some.inj hk
      rcases Int.le_total o (n + 1) with ho | ho
      · rw [Int.max_eq_right ho] at hmax
        exact .inl hmax.symm
      · rw [Int.max_eq_left ho] at hmax
        exact .inr ⟨y, hy, by omega⟩
  · exact .inr ⟨d, hstored, Int.le_refl d⟩

/-- **The offset moves past the first update left, which is handled.** -/
theorem Loop.advance {n k d : ℤ}
    (h : Loop config strict flight (n :: rest) off w) (hn : Handled w n)
    (hlt : ∀ m ∈ rest, n < m) (hk : acknowledgeUpdate off (some n) = some k)
    (hd : writeMonotonicOffset w.nextOffset k = .ok d) (hm : Moved d w w')
    (hkept : strict → KeptBut none w') : Loop config strict none rest (some d) w' := by
  have hhandled : ∀ m, Handled w' m ↔ Handled w m := by
    intro m
    unfold Handled
    rw [hm.history]
  have hbefore : ∀ m ∈ w.history.seen, m < n → Handled w m := by
    intro m hseen hmn
    rcases h.ahead n List.mem_cons_self m hseen hmn with hmem | hh
    · rcases List.mem_cons.mp hmem with rfl | hmem
      · omega
      · have := hlt m hmem
        omega
    · exact hh
  have hcases := advance_cases h.offset hk hd
  refine ⟨⟨?_, ?_, ?_, ?_⟩, hm.controlled h.controlled, hkept, ?_, ?_, ?_, fun _ hi => nomatch hi⟩
  · rw [hm.history]
    exact h.consistent.once
  · rw [hm.history, hm.replayIds]
    exact h.consistent.reserved
  · intro o ho
    rw [hm.nextOffset] at ho
    obtain rfl := Option.some.inj ho
    rw [hm.history]
    rcases hcases with he | ⟨y, hy, hle⟩
    · exact ⟨n, h.received n List.mem_cons_self, by omega⟩
    · obtain ⟨m, hmem, hym⟩ := h.consistent.reached y hy
      exact ⟨m, hmem, by omega⟩
  · intro m hseen o ho hmo
    rw [hm.nextOffset] at ho
    obtain rfl := Option.some.inj ho
    rw [hm.history] at hseen
    rw [hhandled]
    rcases hcases with he | ⟨y, hy, hle⟩
    · by_cases hmn : m = n
      · rw [hmn]
        exact hn
      · exact hbefore m hseen (by omega)
    · exact h.consistent.passed m hseen y hy (by omega)
  · rw [hm.history]
    exact fun m hmem => h.received m (List.mem_cons_of_mem _ hmem)
  · rw [hm.history]
    intro m hmem l hl hlm
    rw [hhandled]
    rcases h.ahead m (List.mem_cons_of_mem _ hmem) l hl hlm with hmem' | hh
    · rcases List.mem_cons.mp hmem' with rfl | hmem'
      · exact .inr hn
      · exact .inl hmem'
    · exact .inr hh
  · rw [hm.nextOffset]
    exact offsetLe_refl _

/-! ## 2. Rejected updates -/

/-- What a poll leaves, and how far its result goes. -/
def Between (config : TelegramRemoteControlConfig) (strict : Prop) (off : Option ℤ) (w : World) :
    Prop := Loop config strict none [] off w

theorem Loop.between (h : Loop config strict none rest off w) : Between config strict off w :=
  h.weaken rfl h.offset

/-- What the body of the loop leaves. -/
def Flowed (config : TelegramRemoteControlConfig) (strict : Prop) (rest : List ℤ) :
    Except Raised Flow → World → Prop
  | .ok (.next p), w => Loop config strict none rest p.nextOffset w
  | .ok (.stop p), w => Between config strict p.nextOffset w
  | .error _, w => Between config strict none w

theorem acknowledgeUpdate_some (off : Option ℤ) (n : ℤ) :
    ∃ k, acknowledgeUpdate off (some n) = some k := by
  cases off with
  | none => exact ⟨n + 1, rfl⟩
  | some o => exact ⟨max o (n + 1), rfl⟩

variable {args : PollArguments}

theorem moved_nextOffset (w : World) (d : ℤ) : Moved d w { w with nextOffset := some d } :=
  ⟨rfl, rfl, rfl, rfl⟩

/-- The offset is acknowledged past an update that is handled. -/
theorem acknowledge_meets {n k : ℤ} (h : Loop config strict none (n :: rest) off w)
    (hn : Handled w n) (hlt : ∀ m ∈ rest, n < m) (hk : acknowledgeUpdate off (some n) = some k) :
    Keeps (F := F) u config strict
      (fun r w' => Between config strict off w' ∧
        ∀ d, r = .ok d → Loop config strict none rest (some d) w')
      (call (.acknowledgeOffset k)) w := by
  refine meets_mono ?_ _ _ (keeps_perform (.acknowledgeOffset k) (h.steady (.inl rfl)))
  rintro r w' ⟨a, -, ha⟩
  change (r, w') = ifDone w (fun _ => w.acknowledge k) a at ha
  rcases acknowledge_cases w k with ⟨d, hd, hack⟩ | ⟨e, hack⟩
  · have hL : Loop config strict none rest (some d) { w with nextOffset := some d } :=
      h.advance hn hlt hk hd (moved_nextOffset w d) h.kept
    have hB : Between config strict off { w with nextOffset := some d } :=
      hL.weaken rfl (h.offset.trans (writeMonotonicOffset_ok hd).1)
    rw [hack] at ha
    rcases ifDone_cases w (fun _ => (.ok d, { w with nextOffset := some d })) a with
      ⟨_, hc⟩ | ⟨_, hc⟩ | ⟨-, hc⟩
    · obtain ⟨rfl, rfl⟩ := Prod.mk.inj (ha.trans hc)
      refine ⟨hB, ?_⟩
      rintro _ he
      obtain rfl := Except.ok.inj he
      exact hL
    · obtain ⟨rfl, rfl⟩ := Prod.mk.inj (ha.trans hc)
      exact ⟨hB, fun _ he => nomatch he⟩
    · obtain ⟨rfl, rfl⟩ := Prod.mk.inj (ha.trans hc)
      exact ⟨h.between, fun _ he => nomatch he⟩
  · rw [hack] at ha
    rcases ifDone_cases w (fun _ => (.error e, w)) a with ⟨_, hc⟩ | ⟨_, hc⟩ | ⟨-, hc⟩
    all_goals
      obtain ⟨rfl, rfl⟩ := Prod.mk.inj (ha.trans hc)
      exact ⟨h.between, fun _ he => nomatch he⟩

theorem settleRejected_meets (hstore : args.hasStateStore = true) {n : ℤ} (p : TelegramPollResult)
    (h : Loop config strict none (n :: rest) p.nextOffset w) (hlt : ∀ m ∈ rest, n < m) :
    Keeps u config strict (Flowed config strict rest)
      (settleRejected args p (some n) : Proc F Flow) w := by
  obtain ⟨k, hk⟩ := acknowledgeUpdate_some p.nextOffset n
  unfold settleRejected
  refine meets_seq (keeps_perform (.note _) (h.steady (.inl rfl))) ?_ ?_
  · rintro _ w₁ ⟨a, -, ha⟩
    obtain rfl : w₁ = w.noted (.rejected (some n)) := congrArg Prod.snd ha
    have h₁ := h.rejected (some n)
    unfold persistTerminalOffset
    rw [hstore, hk]
    refine meets_try (meets_seq (acknowledge_meets h₁ (.inl List.mem_cons_self) hlt hk) ?_ ?_)
    · rintro d w₂ ⟨-, hd⟩
      exact meets_pure (meets_pure (hd d rfl))
    · rintro e w₂ ⟨hb, -⟩
      exact meets_pure hb
  · rintro e w₁ ⟨a, -, ha⟩
    cases ha

/-! ## 3. Accepted updates -/

/-- A written response is pending, and no other row goes. -/
theorem mem_upsertPending (rows : List PendingRow) (i c t : String) (now : ℤ) :
    (∃ row ∈ upsertPending rows i c t now, row.updateId = i) ∧
      ∀ row ∈ rows, ∃ row' ∈ upsertPending rows i c t now, row'.updateId = row.updateId := by
  unfold upsertPending
  split
  · rename_i hany
    have hkeep : ∀ row ∈ rows, ∃ row' ∈ rows.map (fun r =>
        if r.updateId = i then { r with chatId := c, text := t } else r),
        row'.updateId = row.updateId := by
      intro row hrow
      refine ⟨_, List.mem_map_of_mem hrow, ?_⟩
      split <;> rfl
    obtain ⟨row, hrow, hid⟩ := List.any_eq_true.mp hany
    obtain ⟨row', hrow', hid'⟩ := hkeep row hrow
    exact ⟨⟨row', hrow', hid'.trans (eq_of_beq hid)⟩, hkeep⟩
  · refine ⟨⟨_, List.mem_append_right _ (List.mem_singleton_self _), rfl⟩, ?_⟩
    exact fun row hrow => ⟨row, List.mem_append_left _ hrow, rfl⟩

/-- The world with the offset and the response of the update. -/
def World.persisted (w : World) (d : ℤ) (i c t : String) (now : ℤ) : World :=
  { w with nextOffset := some d, pending := upsertPending w.pending i c t (now / 1000000) }

theorem keptBut_persisted {i : String} (h : KeptBut (some i) w) (d : ℤ) (c t : String) (now : ℤ) :
    KeptBut none (w.persisted d i c t now) := by
  obtain ⟨hself, hothers⟩ := mem_upsertPending w.pending i c t (now / 1000000)
  intro r hr _
  by_cases hid : r.updateId = i
  · rw [hid]
    exact .inr hself
  · rcases h r hr (fun he => hid (Option.some.inj he)) with hdel | ⟨row, hrow, hrid⟩
    · exact .inl hdel
    · obtain ⟨row', hrow', hid'⟩ := hothers row hrow
      exact .inr ⟨row', hrow', hid'.trans hrid⟩

/-- What the transport database checks of a response. -/
structure Storable (u : Unicode) (i c t : String) : Prop where
  updateId : normalizedId u i = true
  chatId : normalizedId u c = true
  text : validResponseText t = true

/-- What is known after the offset was to be moved with a response. -/
def Written (config : TelegramRemoteControlConfig) (strict : Prop) (rest : List ℤ)
    (off : Option ℤ) (r : Except Raised ℤ) (w : World) : Prop :=
  Between config strict off w ∧ ∀ d, r = .ok d → Loop config strict none rest (some d) w

/-- The transaction of the response: a careful environment commits it. -/
theorem persistCall_meets {n k : ℤ} {i : String} (c t : String)
    (h : Loop config strict (some i) (n :: rest) off w) (hn : Handled w n)
    (hlt : ∀ m ∈ rest, n < m) (hk : acknowledgeUpdate off (some n) = some k) :
    Keeps (F := F) u config strict (Written config strict rest off)
      (call (.persistPendingWithOffset i c t k)) w := by
  refine meets_mono ?_ _ _
    (keeps_perform (.persistPendingWithOffset i c t k) (h.steady (.inr rfl)))
  rintro r w' ⟨a, hallowed, ha⟩
  change (r, w') = ifDone w (w.persist i c t k) a at ha
  have hL : ∀ now d, writeMonotonicOffset w.nextOffset k = .ok d →
      Loop config strict none rest (some d) (w.persisted d i c t now) := fun now d hd =>
    h.advance hn hlt hk hd ⟨rfl, rfl, rfl, rfl⟩ fun hs => keptBut_persisted (h.kept hs) d c t now
  have hB : ∀ now d, writeMonotonicOffset w.nextOffset k = .ok d →
      Between config strict off (w.persisted d i c t now) := fun now d hd =>
    (hL now d hd).weaken rfl (h.offset.trans (writeMonotonicOffset_ok hd).1)
  -- without a commit the response is lost, which a careful environment does not let happen
  have hlost : strict → (∀ now, (w.persist i c t k now).1.isOk = true) ∧ a.commits = true := by
    intro hs
    obtain ⟨hcommits, hstored⟩ := hallowed.2 hs
    refine ⟨fun now => ?_, hcommits⟩
    obtain ⟨d, hd⟩ : ∃ d, writeMonotonicOffset w.nextOffset k = .ok d := by
      unfold writeMonotonicOffset
      cases hso : storedOffset w.nextOffset with
      | error e =>
        rw [hso] at hstored
        cases hstored
      | ok o => cases o <;> exact ⟨_, rfl⟩
    unfold World.persist
    rw [hd]
    rfl
  have hstay : ¬ strict → Between config strict off w := fun hs =>
    { consistent := h.consistent
      controlled := h.controlled
      kept := fun hs' => absurd hs' hs
      received := fun n hn => absurd hn List.not_mem_nil
      ahead := fun n hn => absurd hn List.not_mem_nil
      offset := h.offset
      flown := fun _ hi => nomatch hi }
  have hleft : ∀ now, Between config strict off (w.persist i c t k now).2 := by
    intro now
    rcases persist_cases w i c t k now with ⟨d, hd, hp⟩ | ⟨e, hd, hp⟩
    · rw [hp]
      exact hB now d hd
    · rw [hp]
      refine hstay fun hs => ?_
      have hok := (hlost hs).1 now
      rw [hp] at hok
      cases hok
  rcases ifDone_cases w (w.persist i c t k) a with ⟨now, hc⟩ | ⟨now, hc⟩ | ⟨hcommits, hc⟩
  · have hrw := ha.trans hc
    have hl := hleft now
    rcases persist_cases w i c t k now with ⟨d', hd, hp⟩ | ⟨e, hd, hp⟩
    · rw [hp] at hrw hl
      obtain ⟨rfl, rfl⟩ := Prod.mk.inj hrw
      refine ⟨hl, ?_⟩
      intro d hr
      obtain rfl := Except.ok.inj hr
      exact hL now d' hd
    · rw [hp] at hrw hl
      obtain ⟨rfl, rfl⟩ := Prod.mk.inj hrw
      exact ⟨hl, fun _ hr => nomatch hr⟩
  · have hrw := ha.trans hc
    obtain ⟨rfl, rfl⟩ := Prod.mk.inj hrw
    exact ⟨hleft now, fun _ hr => nomatch hr⟩
  · obtain ⟨rfl, rfl⟩ := Prod.mk.inj (ha.trans hc)
    refine ⟨hstay fun hs => ?_, fun _ hr => nomatch hr⟩
    rw [(hlost hs).2] at hcommits
    cases hcommits

/-- `persist_pending_with_offset`: a storable response is written. -/
theorem persistPending_meets {n k : ℤ} {i c t : String}
    (h : Loop config strict (some i) (n :: rest) off w) (hn : Handled w n)
    (hlt : ∀ m ∈ rest, n < m) (hk : acknowledgeUpdate off (some n) = some k)
    (hs : strict → Storable u i c t) :
    Keeps u config strict (Written config strict rest off)
      (persistPendingWithOffset u i c t k : Proc F ℤ) w := by
  have hrefused : ¬ Storable u i c t → ∀ e, Written config strict rest off (.error e) w := by
    intro hbad e
    refine ⟨⟨h.consistent, h.controlled, fun hs' => absurd (hs hs') hbad, ?_, ?_, h.offset,
      fun _ hi => nomatch hi⟩, fun _ hr => nomatch hr⟩
    · exact fun n hn => absurd hn List.not_mem_nil
    · exact fun n hn => absurd hn List.not_mem_nil
  unfold persistPendingWithOffset validateNormalizedId validateResponseText
  by_cases hi : normalizedId u i = true
  · by_cases hc : normalizedId u c = true
    · by_cases ht : validResponseText t = true
      · rw [if_pos hi, if_pos hc, if_pos ht]
        exact persistCall_meets c t h hn hlt hk
      · rw [if_pos hi, if_pos hc, if_neg ht]
        exact meets_raise (hrefused (fun hst => ht hst.text) _)
    · rw [if_pos hi, if_neg hc]
      exact meets_raise (hrefused (fun hst => hc hst.chatId) _)
  · rw [if_neg hi]
    exact meets_raise (hrefused (fun hst => hi hst.updateId) _)

theorem persistResponse_meets (hstore : args.hasStateStore = true) {n : ℤ}
    (d : TelegramResponseDelivery) (p : TelegramPollResult)
    (h : Loop config strict (some d.updateId) (n :: rest) p.nextOffset w) (hn : Handled w n)
    (hlt : ∀ m ∈ rest, n < m) (hs : strict → Storable u d.updateId d.chatId d.text) :
    Keeps u config strict (Flowed config strict rest)
      (persistResponse u args d (some n) p : Proc F Flow) w := by
  obtain ⟨k, hk⟩ := acknowledgeUpdate_some p.nextOffset n
  unfold persistResponse
  rw [hstore, hk]
  refine meets_try (meets_mono ?_ _ _ (persistPending_meets h hn hlt hk hs))
  rintro r w' ⟨hB, hL⟩
  cases r with
  | ok d' => exact meets_pure (hL d' rfl)
  | error e => exact meets_pure hB

/-! ## 4. The message -/

theorem only_deliver (token : String) (d : TelegramResponseDelivery) :
    Only (Op.Quietly none) (deliverTelegramResponse token d :
      Proc F TelegramResponseDelivery) := by
  unfold deliverTelegramResponse
  refine only_bind (only_lift _) fun _ => ?_
  split
  · exact only_raise _
  · split
    · exact only_pure _
    · refine only_bind (only_attempt (only_invoke ⟨rfl, .inl rfl⟩)) fun r => ?_
      cases r with
      | ok sent =>
        dsimp only
        split
        · exact only_pure _
        · exact only_pure _
      | error e => exact only_pure _

theorem only_markDelivered (i : String) :
    Only (Op.Quietly none) (markDelivered u i : Proc F Unit) := by
  unfold markDelivered
  exact only_bind (only_lift _) fun _ => only_invoke ⟨rfl, .inl rfl⟩

theorem only_recordDeliveryFailure (i : String) :
    Only (Op.Quietly none) (recordDeliveryFailure u i : Proc F Unit) := by
  unfold recordDeliveryFailure
  exact only_bind (only_lift _) fun _ => only_invoke ⟨rfl, .inl rfl⟩

/-- Sending only calls quietly, and leaves the offset of the result. -/
theorem sendResponse_meets (d : TelegramResponseDelivery) (p : TelegramPollResult)
    (h : Loop config strict none rest p.nextOffset w) :
    Keeps u config strict
      (fun r w' => Loop config strict none rest p.nextOffset w' ∧
        ∀ sent, r = .ok sent → sent.nextOffset = p.nextOffset)
      (sendResponse u args d p : Proc F TelegramPollResult) w := by
  have hsame : ∀ {sent q : TelegramPollResult},
      (.ok q : Except Raised TelegramPollResult) = .ok sent → q.nextOffset = p.nextOffset →
      sent.nextOffset = p.nextOffset := by
    intro sent q he hq
    rw [← Except.ok.inj he]
    exact hq
  unfold sendResponse
  refine meets_seq (keeps_of_only (only_deliver _ _) h) ?_ ?_
  · intro d' w₁ hL
    split
    · dsimp only
      split
      · exact meets_pure ⟨hL, fun _ he => hsame he rfl⟩
      · refine meets_try (meets_mono ?_ _ _ (keeps_of_only (only_markDelivered _) hL))
        intro r w₂ hL₂
        cases r with
        | ok _ => exact meets_pure ⟨hL₂, fun _ he => hsame he rfl⟩
        | error e => exact meets_pure ⟨hL₂, fun _ he => hsame he rfl⟩
    · dsimp only
      split
      · exact meets_pure ⟨hL, fun _ he => hsame he rfl⟩
      · refine meets_try (meets_mono ?_ _ _ (keeps_of_only (only_recordDeliveryFailure _) hL))
        intro r w₂ hL₂
        cases r with
        | ok _ => exact meets_pure ⟨hL₂, fun _ he => hsame he rfl⟩
        | error e => exact meets_pure ⟨hL₂, fun _ he => hsame he rfl⟩
  · exact fun e w₁ hL => ⟨hL, fun _ he => nomatch he⟩

/-! ## 5. The body of the loop -/

theorem updateIdOf_some {v : Value F} {n : ℤ} (h : updateIdOf v = some n) :
    v.asMapping.get "update_id" = .int n := by
  unfold updateIdOf at h
  split at h
  · split at h
    · rename_i heq
      obtain rfl := Option.some.inj h
      exact heq
    · cases h
  · cases h

theorem requiredId_int {n : ℤ} {s : String} (h : requiredId u (.int n : Value F) = .ok s) :
    s = toString n := by
  unfold requiredId at h
  dsimp only at h
  split at h
  · cases h
  · split at h
    · cases h
    · rw [← Except.ok.inj h, strip_toString]

/-- The id of a request is the one of its update, in the form the transport database takes. -/
theorem request_updateId {v : Value F} {n : ℤ} {request : Request}
    (hread : (readUpdate u config v.asMapping).2 = .ok request) (hv : updateIdOf v = some n) :
    request.updateId = toString n ∧ normalizedId u request.updateId = true := by
  have hid := (readUpdate_ok hread).1
  rw [updateIdOf_some hv] at hid
  exact ⟨requiredId_int hid, normalizedId_requiredId hid⟩

/-- The text of an outcome of the controller is not empty. -/
theorem responseText_ne (r : Except Raised DispatchResult) : (responseText r).toList ≠ [] := by
  cases r with
  | ok response => exact response.formatted_ne
  | error e =>
    unfold responseText
    simp

variable (iso : ℤ → String)

/-- **An accepted update**: dispatched, its response written and sent. -/
theorem respond_meets (hstore : args.hasStateStore = true) (hlow : 1 ≤ args.maxMessageChars)
    (hhigh : args.maxMessageChars ≤ 3900) {v : Value F} {n : ℤ} {request : Request}
    (p : TelegramPollResult) (h : Loop config strict none (n :: rest) p.nextOffset w)
    (hlt : ∀ m ∈ rest, n < m) (hv : updateIdOf v = some n)
    (hacc : Accepted u config v.asMapping request w) :
    Keeps u config strict (Flowed config strict rest)
      (respond u iso args request (some n) p : Proc F Flow) w := by
  obtain ⟨htext, hnorm⟩ := request_updateId hacc.read hv
  unfold respond
  refine meets_seq (keeps_perform (.note (.dispatched request)) (h.steady (.inl rfl))) ?_ ?_
  · rintro _ w₁ ⟨a, hallowed, ha⟩
    obtain rfl : w₁ = w.noted (.dispatched request) := congrArg Prod.snd ha
    have hchat : strict → normalizedId u request.chatId = true := hallowed.2
    refine meets_try (meets_mono ?_ _ _
      (controller_meets iso args.wiring controllable_loop request (h.dispatched hacc)
        (List.cons_ne_nil _ _)))
    intro response w₂ hL
    obtain ⟨r, hr, hid⟩ := hL.flown _ rfl
    have hn : Handled w₂ n := .inr ⟨r, hr, hid.trans htext⟩
    dsimp only
    refine meets_seq (persistResponse_meets hstore _ _ ?_ hn hlt ?_) ?_ ?_
    · exact hL
    · exact fun hs => ⟨hnorm, hchat hs,
        validResponseText_safeText _ (responseText_ne response) hlow hhigh⟩
    · intro flow w₃ hflow
      cases flow with
      | stop q => exact meets_pure hflow
      | next q =>
        refine meets_seq (sendResponse_meets _ q hflow) ?_ ?_
        · rintro sent w₄ ⟨hL₄, hsent⟩
          rw [if_pos hstore]
          refine meets_pure ?_
          show Loop config strict none rest sent.nextOffset w₄
          rw [hsent sent rfl]
          exact hL₄
        · rintro e w₄ ⟨hL₄, -⟩
          exact hL₄.weaken rfl (fun _ hx => nomatch hx)
    · exact fun e w₃ hb => hb
  · rintro e w₁ ⟨a, -, ha⟩
    cases ha

theorem handleUpdate_meets (hstore : args.hasStateStore = true) (hlow : 1 ≤ args.maxMessageChars)
    (hhigh : args.maxMessageChars ≤ 3900) (hconfig : args.telegramConfig = config) {v : Value F}
    {n : ℤ} (p : TelegramPollResult) (h : Loop config strict none (n :: rest) p.nextOffset w)
    (hlt : ∀ m ∈ rest, n < m) (hv : updateIdOf v = some n) :
    Keeps u config strict (Flowed config strict rest) (handleUpdate u iso args v p) w := by
  unfold handleUpdate
  rw [hconfig, hv]
  refine meets_try (meets_mono ?_ _ _ (adapter_meets v.asMapping h))
  rintro r w₁ ⟨hL, hacc⟩
  cases r with
  | error e => exact settleRejected_meets hstore _ hL hlt
  | ok result =>
    obtain ⟨accepted, command, reason, request⟩ := result
    cases accepted with
    | false => exact settleRejected_meets hstore _ hL hlt
    | true =>
      cases request with
      | none => exact settleRejected_meets hstore _ hL hlt
      | some request =>
        exact respond_meets iso hstore hlow hhigh _ hL hlt hv (hacc rfl request rfl)

/-! ## 6. The poll -/

/-- What a poll leaves, with its result: `B` of the offset to go on from. -/
def Polled (B : Option ℤ → World → Prop) : Except Raised TelegramPollResult → World → Prop
  | .ok result, w => B result.nextOffset w
  | .error _, w => B none w

theorem pollUpdates_meets (hstore : args.hasStateStore = true) (hlow : 1 ≤ args.maxMessageChars)
    (hhigh : args.maxMessageChars ≤ 3900) (hconfig : args.telegramConfig = config)
    (updates : List (Value F)) (p : TelegramPollResult)
    (hid : ∀ v ∈ updates, (updateIdOf v).isSome = true)
    (hinc : (updates.filterMap updateIdOf).Pairwise (· < ·))
    (h : Loop config strict none (updates.filterMap updateIdOf) p.nextOffset w) :
    Keeps u config strict (Polled (Between config strict))
      (pollUpdates u iso args updates p) w := by
  induction updates generalizing p w with
  | nil => exact meets_pure h.between
  | cons v rest ih =>
    obtain ⟨n, hn⟩ := Option.isSome_iff_exists.mp (hid v List.mem_cons_self)
    rw [List.filterMap_cons_some hn] at hinc h
    obtain ⟨hlt, hinc⟩ := List.pairwise_cons.mp hinc
    unfold pollUpdates
    refine meets_seq (handleUpdate_meets iso hstore hlow hhigh hconfig p h hlt hn) ?_ ?_
    · intro flow w₁ hflow
      cases flow with
      | next q => exact ih q (fun v' hv' => hid v' (List.mem_cons_of_mem v hv')) hinc hflow
      | stop q => exact meets_pure hflow
    · exact fun e w₁ hb => hb

/-- To acknowledge an offset that is not past the durable one changes nothing. -/
theorem acknowledge_known {o : ℤ} (h : OffsetLe (some o) w.nextOffset) :
    (w.acknowledge o).2 = w := by
  rcases acknowledge_cases w o with ⟨d, hd, hack⟩ | ⟨e, hack⟩
  · obtain ⟨y, hy, hoy⟩ := h o rfl
    obtain ⟨hle, -, hcase⟩ := writeMonotonicOffset_ok hd
    obtain ⟨x, hx, hyx⟩ := hle y hy
    obtain rfl := Option.some.inj hx
    have he : d = y := by
      rcases hcase with rfl | hstored
      · omega
      · rw [hy] at hstored
        exact (Option.some.inj hstored).symm
    rw [hack, he, ← hy]
  · rw [hack]

theorem loadOffset_meets (h : Between config strict off w) :
    Keeps (F := F) u config strict
      (fun r w' => Between config strict off w' ∧ ∀ o, r = .ok o → o = w'.nextOffset)
      (call .loadOffset) w := by
  refine meets_mono ?_ _ _ (keeps_perform .loadOffset (h.steady (.inl rfl)))
  rintro r w' ⟨a, -, ha⟩
  change (r, w') = ifDone w (fun _ => (storedOffset w.nextOffset, w)) a at ha
  rcases ifDone_cases w (fun _ => (storedOffset w.nextOffset, w)) a with
    ⟨_, hc⟩ | ⟨_, hc⟩ | ⟨-, hc⟩
  · obtain ⟨rfl, rfl⟩ := Prod.mk.inj (ha.trans hc)
    exact ⟨h, fun o ho => storedOffset_ok ho⟩
  all_goals
    obtain ⟨rfl, rfl⟩ := Prod.mk.inj (ha.trans hc)
    exact ⟨h, fun o ho => nomatch ho⟩

/-- The offset of the poll is the durable one. -/
theorem initializeOffset_meets (hstore : args.hasStateStore = true)
    (h : Between config strict off w) :
    Keeps u config strict
      (fun r w' => Between config strict off w' ∧ ∀ o, r = .ok o → o = w'.nextOffset)
      (initializeOffset args off : Proc F (Option ℤ)) w := by
  unfold initializeOffset
  rw [hstore]
  cases off with
  | none => exact loadOffset_meets h
  | some o =>
    refine meets_seq (R := fun _ w' => w' = w) ?_ ?_ ?_
    · refine meets_mono ?_ _ _ (keeps_perform (.acknowledgeOffset o) (h.steady (.inl rfl)))
      rintro r w' ⟨a, -, ha⟩
      have hknown := acknowledge_known h.offset
      rw [show w' = _ from congrArg Prod.snd ha]
      exact ifDone_world (fun w' => w' = w) rfl fun _ => hknown
    · rintro _ w₁ rfl
      exact loadOffset_meets h
    · rintro e w₁ rfl
      exact ⟨h, fun _ ho => nomatch ho⟩

theorem receivedIds_ok {v : Value F} {updates : List (Value F)}
    (h : telegramResultList v = .ok updates) :
    receivedIds (.payload v) = updates.filterMap updateIdOf := by
  unfold receivedIds
  dsimp only
  rw [h]

theorem receivedIds_error {v : Value F} {e : Raised} (h : telegramResultList v = .error e) :
    receivedIds (.payload v) = [] := by
  unfold receivedIds
  dsimp only
  rw [h]

theorem not_upTo {offset : Option ℤ} {m : ℤ} (h : ¬ UpTo offset m) :
    ∃ o, offset = some o ∧ m < o := by
  cases offset with
  | none => exact absurd trivial h
  | some o => exact ⟨o, rfl, not_le.mp h⟩

/-- The ids received are known from now on. -/
theorem Loop.received_batch {updates : List (Value F)} (h : Between config strict off w)
    (hs : Served w.history.seen w.nextOffset updates) :
    Loop config strict none (updates.filterMap updateIdOf) w.nextOffset
      { w with history :=
        { w.history with seen := updates.filterMap updateIdOf ++ w.history.seen } } where
  consistent :=
    { once := h.consistent.once
      reserved := h.consistent.reserved
      reached := by
        intro o ho
        obtain ⟨m, hm, hle⟩ := h.consistent.reached o ho
        exact ⟨m, List.mem_append_right _ hm, hle⟩
      passed := by
        intro n hn o ho hlt
        have hseen : n ∈ w.history.seen := by
          rcases List.mem_append.mp hn with hn | hn
          · rcases hs.fresh n hn with hold | hnew
            · exact hold
            · -- a new update lies after the offset
              obtain ⟨m, hm, hle⟩ := h.consistent.reached o ho
              have := hnew m hm
              omega
          · exact hn
        exact h.consistent.passed n hseen o ho hlt }
  controlled := { h.controlled with }
  kept := h.kept
  received n hn := List.mem_append_left _ hn
  ahead := by
    intro n hn m hm hlt
    rcases List.mem_append.mp hm with hm | hm
    · exact .inl hm
    · by_cases hoff : UpTo w.nextOffset m
      · exact .inl (hs.redelivered m hm n hn hlt hoff)
      · obtain ⟨o, ho, hmo⟩ := not_upTo hoff
        exact .inr (h.consistent.passed m hm o ho hmo)
  offset := offsetLe_refl _
  flown _ hi := nomatch hi

/-- What the request for updates leaves: the batch, or nothing. -/
def Fetched (config : TelegramRemoteControlConfig) (strict : Prop) (off : Option ℤ) :
    Except Raised (List (Value F)) → World → Prop
  | .ok updates, w =>
    Loop config strict none (updates.filterMap updateIdOf) off w ∧
      (∀ v ∈ updates, (updateIdOf v).isSome = true) ∧
      (updates.filterMap updateIdOf).Pairwise (· < ·)
  | .error _, w => Between config strict off w

theorem fetchUpdates_meets (h : Between config strict w.nextOffset w) :
    Keeps u config strict (Fetched config strict w.nextOffset)
      (fetchUpdates w.nextOffset : Proc F (List (Value F))) w := by
  unfold fetchUpdates
  refine meets_seq (keeps_perform (.getUpdates w.nextOffset) (h.steady (.inl rfl))) ?_ ?_
  · rintro v w₁ ⟨a, hallowed, ha⟩
    obtain ⟨hv, rfl⟩ := Prod.mk.inj ha
    cases a with
    | payload v' =>
      obtain rfl := Except.ok.inj hv
      refine meets_lift ?_
      cases hlist : telegramResultList v with
      | error e =>
        rw [receivedIds_error hlist]
        exact h
      | ok updates =>
        have hs : Served w.history.seen w.nextOffset updates := by
          have hp : Promised w (.getUpdates w.nextOffset) (.payload v) := hallowed.1
          unfold Promised at hp
          dsimp only at hp
          rw [hlist] at hp
          exact hp
        rw [receivedIds_ok hlist]
        exact ⟨Loop.received_batch h hs, hs.identified, hs.increasing⟩
    | fault => cases hv
    | done now => cases hv
    | lost now => cases hv
    | text s => cases hv
    | result r => cases hv
  · rintro e w₁ ⟨a, -, ha⟩
    obtain ⟨hv, rfl⟩ := Prod.mk.inj ha
    cases a with
    | payload v' => cases hv
    | fault => exact h
    | done now => exact h
    | lost now => exact h
    | text s => exact h
    | result r => exact h

theorem Between.earlier {off' : Option ℤ} (h : Between config strict off w)
    (hoff : OffsetLe off' w.nextOffset) : Between config strict off' w := h.weaken rfl hoff

/-- **A poll** leaves the invariants at every call and at its end. -/
theorem poll_meets (hstore : args.hasStateStore = true) (hlow : 1 ≤ args.maxMessageChars)
    (hhigh : args.maxMessageChars ≤ 3900) (hconfig : args.telegramConfig = config)
    (h : Between config strict off w) :
    Keeps u config strict (Polled (Between config strict))
      (pollTelegramOnce u iso args off : Proc F TelegramPollResult) w := by
  unfold pollTelegramOnce
  cases htoken : requiredToken args.botToken with
  | error e => exact meets_raise (h.earlier fun _ hx => nomatch hx)
  | ok token =>
    refine meets_try (meets_mono ?_ _ _ (initializeOffset_meets hstore h))
    rintro r w₁ ⟨hB, ho⟩
    cases r with
    | error e => exact meets_pure hB
    | ok nextOffset =>
      obtain rfl := ho nextOffset rfl
      have hB' : Between config strict w₁.nextOffset w₁ := hB.earlier (offsetLe_refl _)
      refine meets_try (meets_mono ?_ _ _ (fetchUpdates_meets hB'))
      intro r w₂ hf
      cases r with
      | error e => exact meets_pure hf
      | ok updates =>
        obtain ⟨hL, hid, hinc⟩ := hf
        exact pollUpdates_meets iso hstore hlow hhigh hconfig updates _ hid hinc hL

/-! ## 7. The start -/

theorem only_retryDelivery (token : String) (stored : PendingRow) :
    Only (Op.Quietly none) (retryDelivery u token stored : Proc F TelegramResponseDelivery) := by
  unfold retryDelivery
  refine only_bind (only_deliver _ _) fun d => ?_
  split
  · refine only_bind (only_attempt (only_markDelivered _)) fun r => ?_
    cases r with
    | ok _ => exact only_pure _
    | error e => exact only_pure _
  · exact only_bind (only_attempt (only_recordDeliveryFailure _)) fun _ => only_pure _

theorem only_retryDeliveries (token : String) (rows : List PendingRow) :
    Only (Op.Quietly none)
      (retryDeliveries u token rows : Proc F (List TelegramResponseDelivery)) := by
  induction rows with
  | nil => exact only_pure _
  | cons stored rest ih =>
    unfold retryDeliveries
    exact only_bind (only_retryDelivery _ _) fun _ => only_bind ih fun _ => only_pure _

theorem only_retryPending (token : String) :
    Only (Op.Quietly none)
      (retryPendingTelegramResponses u token : Proc F (List TelegramResponseDelivery)) := by
  unfold retryPendingTelegramResponses loadPending
  refine only_bind (only_lift _) fun _ => ?_
  refine only_bind (only_attempt (only_bind (only_invoke ⟨rfl, .inl rfl⟩) fun _ =>
    only_lift _)) fun r => ?_
  cases r with
  | ok stored => exact only_retryDeliveries _ _
  | error e => exact only_pure _

/-- **The start of the service** retries quietly. -/
theorem retry_meets (token : String) (h : Between config strict off w) :
    Keeps u config strict (fun _ w' => Between config strict off w')
      (retryPendingTelegramResponses u token : Proc F (List TelegramResponseDelivery)) w :=
  keeps_of_only (only_retryPending token) h

end AlphaForge.Telegram
