/-
  File:      AlphaForge/Recovery/Safety.lean
  Subject:   What an unblocked recovery decision is worth: its evidence read as an order from
             better to worse, and the probe that a past event masks.

  * `blocked_of_worse` -- the decision is monotone in every piece of evidence.
  * `masked_dirty_probe` -- a past CLEAN event, a probe with an open position, and no block.
  * **`recovery_safe_iff`** -- exactly when what the probe reports open is never left unblocked.
-/
import AlphaForge.Recovery.Evaluate

namespace AlphaForge.Recovery

open AlphaForge.Lib

/-! ## 1. Worse evidence -/

/-- A reading is replaced by a worse answer, or by none. -/
inductive QueryWorse {α : Type} (le : α → α → Prop) : Query α → Query α → Prop
  | failed (q : Query α) (f : Failure) : QueryWorse le q (.error f)
  | answered {a b : α} (h : le a b) : QueryWorse le (.ok a) (.ok b)

/-- The same predecessor, ended no cleaner. -/
structure SnapshotWorse (a b : Option Snapshot) : Prop where
  unclean : priorUnclean a = true → priorUnclean b = true
  campaignId : b.bind (·.campaignId) = a.bind (·.campaignId)
  processId : b.bind (·.processId) = a.bind (·.processId)

/-- The latest event has no cleaner status and no fewer orphans. -/
structure HistoryWorse (a b : List ReconciliationEvent) : Prop where
  status : cleanReconciliationStatuses.contains
      (b.getLast?.elim "UNKNOWN" (upperOr ·.status "UNKNOWN")) = true →
    cleanReconciliationStatuses.contains
      (a.getLast?.elim "UNKNOWN" (upperOr ·.status "UNKNOWN")) = true
  orders : a.getLast?.elim 0 (·.orphanOrderCount) ≤ b.getLast?.elim 0 (·.orphanOrderCount)
  positions :
    a.getLast?.elim 0 (·.orphanPositionCount) ≤ b.getLast?.elim 0 (·.orphanPositionCount)

/-- A probe's answer that is no more complete and shows no fewer orders and positions. -/
structure AnswerWorse (p q : Probe) : Prop where
  complete : q.complete = true → p.complete = true
  orders : p.orders.length ≤ q.orders.length
  positions : p.positions.length ≤ q.positions.length

inductive ProbeWorse : Option (Query Probe) → Option (Query Probe) → Prop
  | absent : ProbeWorse none none
  | asked {p q : Query Probe} (h : QueryWorse AnswerWorse p q) : ProbeWorse (some p) (some q)

/-- No fewer rows. -/
def NoFewer (a b : List String) : Prop := a.length ≤ b.length

/-- Every piece of evidence is the same or worse. -/
structure Worse (e e' : Evidence) : Prop where
  latest : QueryWorse SnapshotWorse e.latest e'.latest
  positions : QueryWorse NoFewer e.positions e'.positions
  campaignPositions : QueryWorse NoFewer e.campaignPositions e'.campaignPositions
  orders : QueryWorse NoFewer e.orders e'.orders
  events : QueryWorse HistoryWorse e.events e'.events
  killSwitch : QueryWorse (fun a b => a = true → b = true) e.killSwitch e'.killSwitch
  campaignStatus : QueryWorse (fun _ _ => True) e.campaignStatus e'.campaignStatus
  processAlive : e.processAlive = true → e'.processAlive = true
  probe : ProbeWorse e.probe e'.probe

theorem failed_of_worse {α : Type} {le : α → α → Prop} {q q' : Query α}
    (h : QueryWorse le q q') (hq : Failed q) : Failed q' := by
  rcases h with ⟨_, f⟩ | _
  · exact ⟨f, rfl⟩
  · obtain ⟨f, hf⟩ := hq
    cases hf

/-- A worse reading fails, or answers something worse than what stood before. -/
theorem failed_or_worse {α : Type} {le : α → α → Prop} {q q' : Query α} (default : α)
    (h : QueryWorse le q q') (hq : ¬ Failed q) :
    Failed q' ∨ le (answerOr default q) (answerOr default q') := by
  rcases h with ⟨_, f⟩ | h
  · exact .inl ⟨f, rfl⟩
  · exact .inr h

section Monotone

variable {r : Request} {e e' : Evidence} {a b : Option Snapshot}

theorem campaignPositions_worse (h : Worse e e') :
    QueryWorse NoFewer (campaignPositionsRead r e) (campaignPositionsRead r e') := by
  unfold campaignPositionsRead
  split
  · exact h.campaignPositions
  · exact .answered (Nat.le_refl 0)

theorem campaign_worse (h : Worse e e') (hab : SnapshotWorse a b) :
    QueryWorse (fun _ _ => True) (campaignRead a e) (campaignRead b e') := by
  unfold campaignRead
  rw [hab.campaignId]
  split
  · exact h.campaignStatus
  · exact .answered trivial

theorem unreadable_of_worse (h : Worse e e') (hab : SnapshotWorse a b)
    (hu : Unreadable r a e) : Unreadable r b e' := by
  rcases hu with hf | hf | hf | hf | hf | hf | ⟨asked, answer, given, hf⟩
  · exact .positions (failed_of_worse h.positions hf)
  · exact .campaignPositions (failed_of_worse (campaignPositions_worse h) hf)
  · exact .orders (failed_of_worse h.orders hf)
  · exact .events (failed_of_worse h.events hf)
  · exact .killSwitch (failed_of_worse h.killSwitch hf)
  · exact .campaign (failed_of_worse (campaign_worse h hab) hf)
  · have hasked : Asked r b := asked.imp_left hab.unclean
    have hprobe := h.probe
    rw [given] at hprobe
    generalize hp : e'.probe = probe at hprobe
    rcases hprobe with _ | ⟨_, f⟩ | hworse
    · exact .probe hasked _ hp fun p hq => nomatch hq
    · refine .probe hasked _ hp fun q hq => ?_
      cases hq
      have hincomplete := hf _ rfl
      by_contra hc
      rw [hworse.complete (Bool.eq_true_of_not_eq_false hc)] at hincomplete
      cases hincomplete

/-- Counts of a reading that stays readable do not fall. -/
theorem counts_of_worse (h : Worse e e') (hr : ¬ Unreadable r b e') (hab : SnapshotWorse a b) :
    (exposureOf r e).activePositions ≤ (exposureOf r e').activePositions ∧
      (exposureOf r e).pendingOrders ≤ (exposureOf r e').pendingOrders ∧
      (exposureOf r e).orphanOrders ≤ (exposureOf r e').orphanOrders ∧
      (exposureOf r e).orphanPositions ≤ (exposureOf r e').orphanPositions := by
  have hold : ¬ Unreadable r a e := fun hu => hr (unreadable_of_worse h hab hu)
  have hpos := (failed_or_worse [] h.positions fun hf => hold (.positions hf)).resolve_left
    fun hf => hr (.positions hf)
  have hcampaign := (failed_or_worse [] (campaignPositions_worse h)
    fun hf => hold (.campaignPositions hf)).resolve_left fun hf => hr (.campaignPositions hf)
  have hord := (failed_or_worse [] h.orders fun hf => hold (.orders hf)).resolve_left
    fun hf => hr (.orders hf)
  have hev := (failed_or_worse [] h.events fun hf => hold (.events hf)).resolve_left
    fun hf => hr (.events hf)
  exact ⟨Nat.add_le_add hpos hcampaign, hord, hev.orders, hev.positions⟩

theorem probe_clean_of_worse (h : Worse e e') (hu : priorUnclean a = true)
    (hc : (probeReading r b e').clean = true) : (probeReading r a e).clean = true := by
  rw [probeReading_clean] at hc ⊢
  obtain ⟨_, q, hq, hcomplete, horders, hpositions⟩ := hc
  have hprobe := h.probe
  rw [hq] at hprobe
  generalize hp : e.probe = probe at hprobe
  rcases hprobe with _ | hworse
  rcases hworse with _ | hworse
  rename_i p
  refine ⟨.inl hu, p, rfl, hworse.complete hcomplete, ?_, ?_⟩
  · have hle := hworse.orders
    rw [horders] at hle
    exact List.eq_nil_of_length_eq_zero (Nat.le_zero.mp hle)
  · have hle := hworse.positions
    rw [hpositions] at hle
    exact List.eq_nil_of_length_eq_zero (Nat.le_zero.mp hle)

/-- **A worse piece of evidence never unblocks.** -/
theorem cause_of_worse (h : Worse e e') (hab : SnapshotWorse a b) (hc : Cause r a e) :
    Cause r b e' := by
  by_cases hr : Unreadable r b e'
  · exact .unreadable hr
  have hold : ¬ Unreadable r a e := fun hu => hr (unreadable_of_worse h hab hu)
  obtain ⟨hactive, hpending, horphanOrders, horphanPositions⟩ := counts_of_worse h hr hab
  rcases hc with hc | hc | ⟨hu, hc⟩ | hc | hc | hc | ⟨hu, hs, hc⟩ | ⟨hu, hc⟩ | ⟨hu, hc⟩ | hc
  · exact absurd hc hold
  · exact .position (by omega)
  · exact .pendingOrder (hab.unclean hu) (by omega)
  · exact .orphanOrder (by omega)
  · exact .orphanPosition (by omega)
  · have hkill := (failed_or_worse false h.killSwitch fun hf => hold (.killSwitch hf)).resolve_left
      fun hf => hr (.killSwitch hf)
    exact .killSwitch (hkill hc)
  · have hstored := (failed_or_worse [] h.events fun hf => hold (.events hf)).resolve_left
      fun hf => hr (.events hf)
    refine .unresolved (hab.unclean hu) ?_ ?_
    · exact Bool.eq_false_of_not_eq_true fun ht => by
        have := hstored.status ht
        exact absurd (this.symm.trans hs) (by decide)
    · exact Bool.eq_false_of_not_eq_true fun ht => by
        rw [probe_clean_of_worse h hu ht] at hc
        cases hc
  · exact .strictLive (hab.unclean hu) hc
  · refine .sameCampaign (hab.unclean hu) ?_
    unfold sameCampaign at hc ⊢
    rw [hab.campaignId]
    exact hc
  · refine .process ?_
    unfold previousProcessAlive at hc ⊢
    rw [Bool.and_eq_true] at hc ⊢
    rw [hab.processId]
    exact ⟨hc.1, h.processAlive hc.2⟩

theorem blocked_of_worse (h : Worse e e') (hb : (evaluateRuntimeRecovery r e).blocked = true) :
    (evaluateRuntimeRecovery r e').blocked = true := by
  have hlatest := h.latest
  unfold evaluateRuntimeRecovery at hb ⊢
  generalize e.latest = before at hlatest hb
  generalize e'.latest = after at hlatest
  rcases hlatest with ⟨_, f⟩ | hab
  · rfl
  · exact blocked_iff.mpr (cause_of_worse h hab (blocked_iff.mp hb))

end Monotone

/-! ## 2. What the probe reports -/

/-- The local tables hold the order: an order without an id is nobody's. -/
def KnownOrder (e : Evidence) (id : String) : Prop := id ≠ "" ∧ id ∈ answerOr [] e.orders

/-- The local tables hold a position in the symbol. -/
def KnownPosition (r : Request) (e : Evidence) (symbol : String) : Prop :=
  symbol ∈ answerOr [] e.positions ++ answerOr [] (campaignPositionsRead r e)

/-- A probe that was asked shows an open order or position that the local tables do not hold. -/
structure ReportsUnreconciled (r : Request) (e : Evidence) (latest : Option Snapshot) (p : Probe) :
    Prop where
  snapshot : e.latest = .ok latest
  asked : Asked r latest
  answered : e.probe = some (.ok p)
  unreconciled : (∃ id ∈ p.orders, ¬ KnownOrder e id) ∨
    ∃ symbol ∈ p.positions, ¬ KnownPosition r e symbol

/-- The report is complete and nothing else speaks against trading: every reading succeeded, no
    local exposure, no orphans, no kill switch, no live process; and an unclean predecessor was
    another campaign's outside live modes, with a clean status of the last stored event. -/
structure Masked (r : Request) (e : Evidence) (latest : Option Snapshot) (p : Probe) : Prop
    extends ReportsUnreconciled r e latest p where
  complete : p.complete = true
  readable : ¬ Failed e.positions ∧ ¬ Failed (campaignPositionsRead r e) ∧ ¬ Failed e.orders ∧
    ¬ Failed e.events ∧ ¬ Failed e.killSwitch ∧ ¬ Failed (campaignRead latest e)
  positions : (exposureOf r e).activePositions = 0
  orphanOrders : (exposureOf r e).orphanOrders = 0
  orphanPositions : (exposureOf r e).orphanPositions = 0
  killSwitch : answerOr false e.killSwitch = false
  process : previousProcessAlive latest e = false
  unclean : priorUnclean latest = true →
    (exposureOf r e).pendingOrders = 0 ∧ ¬ StoredUnclean e ∧ strictLive r = false ∧
      sameCampaign r latest = false

/-- What the probe reports open is not left unblocked, and no worse evidence unblocks. -/
def RecoverySafe (r : Request) (e : Evidence) : Prop :=
  (∀ latest p, ReportsUnreconciled r e latest p →
    (evaluateRuntimeRecovery r e).blocked = true) ∧
  ∀ e', Worse e e' → (evaluateRuntimeRecovery r e).blocked = true →
    (evaluateRuntimeRecovery r e').blocked = true

/-- A PAPER start after another campaign's crash: the last stored event is CLEAN, the probe shows
    an open position, and the tables know of none. -/
def maskedEvidence : Evidence where
  latest := .ok (some
    { instanceId := some "old", startupId := some "old-start", campaignId := some "old-campaign"
      processId := some 99999999, runtimeStatus := some "RECOVERY_REQUIRED"
      failClosedReason := some "EXCHANGE_RECONCILIATION_UNAVAILABLE" })
  positions := .ok []
  campaignPositions := .ok []
  orders := .ok []
  events := .ok [{ status := some "CLEAN", orphanOrderCount := 0, orphanPositionCount := 0 }]
  killSwitch := .ok false
  campaignStatus := .ok (some "FAILED")
  processAlive := false
  probe := some (.ok
    { evidenceStatus := some "COMPLETE", authenticated := true
      inputSource := some "AUTHENTICATED_EXCHANGE_SNAPSHOT", orders := []
      positions := ["BTCUSDT"], errors := [] })

def paperStart : Request where
  mode := "PAPER"
  campaignId := some "new-campaign"
  instanceId := some "new"
  startupId := some "new-start"
  forceReconciliationProbe := false

/-- A probe on demand after a clean end: it shows an order that is none of the local ones. -/
def foreignOrder : Evidence where
  latest := .ok (some
    { instanceId := some "old", startupId := some "old-start", campaignId := some "old-campaign"
      processId := none, runtimeStatus := some "STOPPED", failClosedReason := none })
  positions := .ok []
  campaignPositions := .ok []
  orders := .ok ["local-1"]
  events := .ok []
  killSwitch := .ok false
  campaignStatus := .ok (some "COMPLETED")
  processAlive := false
  probe := some (.ok
    { evidenceStatus := some "COMPLETE", authenticated := true
      inputSource := some "AUTHENTICATED_EXCHANGE_SNAPSHOT", orders := ["foreign-9"]
      positions := [], errors := [] })

def forcedStart : Request := { paperStart with forceReconciliationProbe := true }

/-- **A past event masks the probe**, and so does a clean predecessor. -/
theorem masked_dirty_probe :
    ¬ RecoverySafe paperStart maskedEvidence ∧ ¬ RecoverySafe forcedStart foreignOrder := by
  refine ⟨fun ⟨hsafe, _⟩ => ?_, fun ⟨hsafe, _⟩ => ?_⟩
  · have hunknown : ¬ KnownPosition paperStart maskedEvidence "BTCUSDT" := List.not_mem_nil
    have hblocked := hsafe _ _ ⟨rfl, .inl (by decide +kernel), rfl, .inr ⟨_, by simp, hunknown⟩⟩
    have hopen : (evaluateRuntimeRecovery paperStart maskedEvidence).blocked = false := by
      decide +kernel
    exact absurd (hblocked.symm.trans hopen) (by decide)
  · have hunknown : ¬ KnownOrder foreignOrder "foreign-9" := fun h => absurd h.2 (by decide)
    have hblocked := hsafe _ _ ⟨rfl, .inr rfl, rfl, .inl ⟨_, by simp, hunknown⟩⟩
    have hopen : (evaluateRuntimeRecovery forcedStart foreignOrder).blocked = false := by
      decide +kernel
    exact absurd (hblocked.symm.trans hopen) (by decide)

theorem not_masked_of_blocked {r : Request} {e : Evidence} {latest : Option Snapshot} {p : Probe}
    (hb : (evaluateRuntimeRecovery r e).blocked = true) : ¬ Masked r e latest p := by
  intro h
  have hcause : Cause r latest e := by
    unfold evaluateRuntimeRecovery at hb
    rw [h.snapshot] at hb
    exact blocked_iff.mp hb
  rcases hcause with hc | hc | ⟨hu, hc⟩ | hc | hc | hc | ⟨hu, hs, _⟩ | ⟨hu, hc⟩ | ⟨hu, hc⟩ | hc
  · obtain ⟨h1, h2, h3, h4, h5, h6⟩ := h.readable
    rcases hc with hf | hf | hf | hf | hf | hf | ⟨_, answer, given, hf⟩
    · exact h1 hf
    · exact h2 hf
    · exact h3 hf
    · exact h4 hf
    · exact h5 hf
    · exact h6 hf
    · have hanswer := h.answered.symm.trans given
      cases hanswer
      exact absurd (h.complete.symm.trans (hf p rfl)) (by decide)
  · exact hc h.positions
  · exact hc (h.unclean hu).1
  · exact hc h.orphanOrders
  · exact hc h.orphanPositions
  · exact absurd (hc.symm.trans h.killSwitch) (by decide)
  · exact (h.unclean hu).2.1 hs
  · exact absurd (hc.symm.trans (h.unclean hu).2.2.1) (by decide)
  · exact absurd (hc.symm.trans (h.unclean hu).2.2.2) (by decide)
  · exact absurd (hc.symm.trans h.process) (by decide)

/-- Where no cause blocks, an unreconciled report is masked. -/
theorem masked_of_unblocked {r : Request} {e : Evidence} {latest : Option Snapshot} {p : Probe}
    (h : ReportsUnreconciled r e latest p)
    (hb : (evaluateRuntimeRecovery r e).blocked ≠ true) : Masked r e latest p := by
  have hcause : ¬ Cause r latest e := by
    unfold evaluateRuntimeRecovery at hb
    rw [h.snapshot] at hb
    exact fun hc => hb (blocked_iff.mpr hc)
  have hactive : (exposureOf r e).activePositions = 0 := by
    by_contra hne
    exact hcause (.position hne)
  refine { h with
    complete := ?_, readable := ?_, positions := hactive, orphanOrders := ?_
    orphanPositions := ?_, killSwitch := ?_, process := ?_, unclean := ?_ }
  · by_contra hc
    refine hcause (.unreadable (.probe h.asked _ h.answered fun q hq => ?_))
    cases hq
    exact Bool.eq_false_of_not_eq_true hc
  · exact ⟨fun hf => hcause (.unreadable (.positions hf)),
      fun hf => hcause (.unreadable (.campaignPositions hf)),
      fun hf => hcause (.unreadable (.orders hf)),
      fun hf => hcause (.unreadable (.events hf)),
      fun hf => hcause (.unreadable (.killSwitch hf)),
      fun hf => hcause (.unreadable (.campaign hf))⟩
  · by_contra hne
    exact hcause (.orphanOrder hne)
  · by_contra hne
    exact hcause (.orphanPosition hne)
  · exact Bool.eq_false_of_not_eq_true fun ht => hcause (.killSwitch ht)
  · exact Bool.eq_false_of_not_eq_true fun ht => hcause (.process ht)
  · intro hu
    have hpending : (exposureOf r e).pendingOrders = 0 := by
      by_contra hne
      exact hcause (.pendingOrder hu hne)
    refine ⟨hpending, fun hs => hcause (.unresolved hu hs ?_), ?_, ?_⟩
    · -- the report is not empty, so the reading is not clean
      refine Bool.eq_false_of_not_eq_true fun hc => ?_
      obtain ⟨_, q, hq, _, horders, hpositions⟩ := probeReading_clean.mp hc
      cases h.answered.symm.trans hq
      rcases h.unreconciled with ⟨id, hid, _⟩ | ⟨symbol, hsymbol, _⟩
      · rw [horders] at hid
        cases hid
      · rw [hpositions] at hsymbol
        cases hsymbol
    · exact Bool.eq_false_of_not_eq_true fun ht => hcause (.strictLive hu ht)
    · exact Bool.eq_false_of_not_eq_true fun ht => hcause (.sameCampaign hu ht)

/-- **The decision is safe exactly where no report is masked.** -/
theorem recovery_safe_iff (r : Request) (e : Evidence) :
    RecoverySafe r e ↔ ∀ latest p, ¬ Masked r e latest p := by
  constructor
  · intro ⟨hsafe, _⟩ latest p h
    exact not_masked_of_blocked (hsafe latest p h.toReportsUnreconciled) h
  · intro h
    refine ⟨fun latest p hp => ?_, fun e' => blocked_of_worse⟩
    by_contra hb
    exact h latest p (masked_of_unblocked hp hb)

end AlphaForge.Recovery
