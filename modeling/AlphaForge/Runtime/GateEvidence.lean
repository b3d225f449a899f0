/-
  File:      AlphaForge/Runtime/GateEvidence.lean
  Subject:   What stands behind an open gate, over every order of cycles, answers and timeouts.

  * `gate_open_without_evidence` -- a runtime without a persistence engine opens its gate on a
    snapshot that is committed nowhere.
  * **`gate_needs_evidence`** -- in every run, an open gate has the complete snapshot of the last
    cycle behind it, committed where there is an engine; no abandoned read is returned, and at
    most one read is in flight.
-/
import AlphaForge.Lib.Runs
import AlphaForge.Runtime.Reconciliation

namespace AlphaForge.Runtime

open AlphaForge.Lib

/-! ## 1. Evidence -/

/-- A finished cycle over a complete snapshot of its own read, without findings. -/
structure CycleRecord.Clean (started : ℕ) (c : CycleRecord) : Prop where
  number : c.number = started
  finished : c.finished = true
  snapshot : ∃ source, c.snapshot = some (started, source) ∧ source.complete = true
  findings : c.findings = []

/-- The most recently started cycle is clean, and committed where there is an engine. -/
def Established (cfg : RuntimeConfig) (m : Reconciler) : Prop :=
  ∃ c, m.last = some c ∧ c.Clean m.started ∧ (cfg.persistence = true → c.committed = true)

/-- A PAPER runtime without a persistence engine. -/
def memoryConfig : RuntimeConfig where
  executionMode := .paper
  diagnosticMode := false
  persistence := false
  globalKillSwitch := false
  maxConcurrentPositions := 5
  heartbeatFailureThreshold := 3

/-- The startup cycle reads a complete snapshot. -/
def cleanStartup : List CycleEvent :=
  [.start true none .committed, .answer 1 (.snapshot (some "COMPLETE") false),
    .resume (some []) .committed, .scan]

/-- No cycle has committed anything, and the gate is open. -/
theorem gate_open_without_evidence :
    let m := runEvents (Reconciler.next memoryConfig) (Reconciler.initial RuntimeState.initial 0)
      cleanStartup
    m.scanning = true ∧ failClosedGate memoryConfig false m.runtime = none ∧
      ∀ c, m.last = some c → c.committed = false := by
  refine ⟨by decide +kernel, by decide +kernel, ?_⟩
  intro c hc
  have hnone : (runEvents (Reconciler.next memoryConfig)
      (Reconciler.initial RuntimeState.initial 0) cleanStartup).last.all (!·.committed) = true := by
    decide +kernel
  rw [hc] at hnone
  exact (Bool.not_eq_true' _).mp hnone

/-! ## 2. The invariant -/

/-- The state closes the gate on its own. -/
def Blocked (s : RuntimeState) : Prop :=
  s.reconciliationPersistenceUnhealthy = true ∨ s.failClosedReason ≠ none

/-- The gate is closed or the last cycle is its evidence. -/
structure GateInv (cfg : RuntimeConfig) (m : Reconciler) : Prop where
  gate : m.started = 0 ∨ Blocked m.runtime ∨ Established cfg m
  reading : ∀ read provider, m.phase = .reading read provider →
    m.runtime.reconciliationPersistenceUnhealthy = true
  /-- What the end of an incident may not clear. -/
  incident : m.phase = .incident → m.runtime.failClosedReason ≠ none
  /-- Before the first cycle. -/
  fresh : m.started = 0 → (m.phase = .idle ∨ m.phase = .stopped) ∧ m.scanning = false

/-- Reads are fresh and one at a time, and each cycle is given its own. -/
structure ReadInv (m : Reconciler) : Prop where
  single : m.reader.inFlight = [] ∨
    ∃ read, m.reader.inFlight = [read] ∧ m.reader.pending = some read ∧ m.reader.done read = false
  answered : ∀ read, m.reader.done read = true → read ≤ m.started
  flying : ∀ read ∈ m.reader.inFlight, read ≤ m.started
  abandoned : ∀ read ∈ m.abandoned, read ≤ m.started
  returned : ∀ p ∈ m.returned, p.2 = p.1 ∧ p.2 ≤ m.started ∧ p.2 ∉ m.abandoned

/-- A waiting cycle waits for its own read, which is neither given away nor abandoned. -/
def Awaits (m : Reconciler) : Prop :=
  ∀ read provider, m.phase = .reading read provider →
    read = m.started ∧ m.reader.pending = some read ∧ read ∉ m.abandoned ∧
      ∀ p ∈ m.returned, p.2 ≠ read

section Frames

variable {cfg : RuntimeConfig} {m m' : Reconciler}

/-- What a cycle leaves alone after its read. -/
structure SameReads (m m' : Reconciler) : Prop where
  reader : m'.reader = m.reader
  started : m'.started = m.started
  returned : m'.returned = m.returned
  abandoned : m'.abandoned = m.abandoned
  scanning : m'.scanning = m.scanning

theorem ReadInv.same (h : ReadInv m) (hreader : m'.reader = m.reader)
    (hstarted : m'.started = m.started) (hreturned : m'.returned = m.returned)
    (habandoned : m'.abandoned = m.abandoned) : ReadInv m' :=
  { single := hreader ▸ h.single
    answered := hreader ▸ hstarted ▸ h.answered
    flying := hreader ▸ hstarted ▸ h.flying
    abandoned := habandoned ▸ hstarted ▸ h.abandoned
    returned := hreturned ▸ habandoned ▸ hstarted ▸ h.returned }

/-- The phases after a cycle's read. -/
def Phase.past : Phase → Prop
  | .reading _ _ => False
  | .incident => False
  | _ => True

theorem awaits_of_past (h : m.phase.past) : Awaits m := by
  intro read provider hphase
  rw [hphase] at h
  exact h.elim

theorem repair_frame (findings : List Finding) (m : Reconciler) :
    SameReads m (m.repair findings) ∧ (m.repair findings).phase.past ∧
      (m.repair findings).runtime = m.runtime := by
  unfold Reconciler.repair
  rcases nextRepair m.repairs findings with _ | ⟨f, rest⟩
  · exact ⟨⟨rfl, rfl, rfl, rfl, rfl⟩, trivial, rfl⟩
  · exact ⟨⟨rfl, rfl, rfl, rfl, rfl⟩, trivial, rfl⟩

theorem settle_frame (read : ℕ) (source : SnapshotSource) (reconciled : Option (List Finding))
    (persisted : Persisted) (m : Reconciler) :
    SameReads m (m.settle cfg read source reconciled persisted) ∧
      (m.settle cfg read source reconciled persisted).phase.past := by
  unfold Reconciler.settle
  rcases reconciled with _ | findings
  · dsimp only
    rcases observe cfg source m.runtime with s | s <;>
      exact ⟨⟨rfl, rfl, rfl, rfl, rfl⟩, trivial⟩
  · dsimp only
    rcases finishCycle cfg source findings persisted m.runtime with s | s
    · exact ⟨⟨rfl, rfl, rfl, rfl, rfl⟩, trivial⟩
    · obtain ⟨hsame, hpast, _⟩ := repair_frame findings { m with
        runtime := s
        last := some
          { number := m.started
            snapshot := some (read, source)
            findings := findings
            committed := cfg.persistence ∧ persisted = .committed
            finished := false } }
      exact ⟨⟨hsame.1, hsame.2, hsame.3, hsame.4, hsame.5⟩, hpast⟩

/-- A cycle that has read its source leaves its evidence or a closed gate. -/
theorem settle_gate {read : ℕ} {source : SnapshotSource}
    (reconciled : Option (List Finding)) (persisted : Persisted)
    (hbegun : m.runtime.reconciliationPersistenceUnhealthy = true) (hread : read = m.started)
    (hsource : source.complete = true ∨ source.incomplete = true) :
    Blocked (m.settle cfg read source reconciled persisted).runtime ∨
      Established cfg (m.settle cfg read source reconciled persisted) := by
  unfold Reconciler.settle
  rcases reconciled with _ | findings
  · dsimp only
    rcases hobserved : observe cfg source m.runtime with s | s
    · exact .inl (.inl ((observe_unhealthy (.inr hobserved)).trans hbegun))
    · exact .inl (.inl ((observe_unhealthy (.inl hobserved)).trans hbegun))
  · dsimp only
    rcases hfinished : finishCycle cfg source findings persisted m.runtime with s | s
    · exact .inl (.inl ((finishCycle_error hfinished).trans hbegun))
    · dsimp only
      by_cases hreason : s.failClosedReason = none
      · obtain ⟨hincomplete, hfindings, hpersisted, _⟩ := (finishCycle_shared hfinished).2 hreason
        have hcomplete : source.complete = true := hsource.resolve_right fun h => by
          rw [hincomplete] at h
          cases h
        subst hread hfindings
        refine .inr ⟨_, rfl, ⟨rfl, rfl, ⟨source, rfl, hcomplete⟩, rfl⟩, fun hp => ?_⟩
        exact decide_eq_true ⟨hp, hpersisted hp⟩
      · refine .inl (.inr ?_)
        rw [(repair_frame findings _).2.2]
        exact hreason

end Frames

/-! ## 3. One event -/

section Steps

variable {cfg : RuntimeConfig} {m : Reconciler}

theorem done_answer {r : Reader} {read other : ℕ} {answer : Answer}
    (h : (r.answer read answer).done other = true) : r.done other = true ∨ other ∈ r.inFlight := by
  unfold Reader.answer at h
  split at h
  · rename_i hmem
    by_cases heq : other = read
    · exact .inr (heq ▸ hmem)
    · have hne : (other == read) = false := beq_eq_false_iff_ne.mpr heq
      simp only [Reader.done, List.lookup_cons, hne] at h
      exact .inl h
  · exact .inl h

/-- With no read pending undone, no thread is left. -/
theorem inFlight_of_not_busy (h : ReadInv m) (hb : m.reader.busy = false) :
    m.reader.inFlight = [] := by
  rcases h.single with hnone | ⟨read, _, hpending, hdone⟩
  · exact hnone
  · simp only [Reader.busy, hpending, hdone] at hb
    cases hb

theorem readInv_answer (h : ReadInv m) (read : ℕ) (answer : Answer) :
    ReadInv { m with reader := m.reader.answer read answer } := by
  by_cases hmem : read ∈ m.reader.inFlight
  · have hempty : (m.reader.answer read answer).inFlight = [] := by
      rcases h.single with hnone | ⟨other, hsome, _⟩
      · rw [hnone] at hmem
        cases hmem
      · rw [hsome, List.mem_singleton] at hmem
        simp only [Reader.answer, hsome, hmem, List.mem_singleton, if_true, List.erase_cons_head]
    refine
      { single := .inl hempty
        answered := fun other hdone => ?_
        flying := fun other hother => ?_
        abandoned := h.abandoned
        returned := h.returned }
    · rcases done_answer hdone with hdone | hflying
      · exact h.answered other hdone
      · exact h.flying other hflying
    · rw [hempty] at hother
      cases hother
  · have hsame : m.reader.answer read answer = m.reader := if_neg hmem
    exact h.same hsame rfl rfl rfl

theorem pending_answer (r : Reader) (read : ℕ) (answer : Answer) :
    (r.answer read answer).pending = r.pending := by
  unfold Reader.answer
  split <;> rfl

/-- The read of a new cycle. -/
theorem readInv_start (h : ReadInv m) {threadStarts : Bool} {reader : Reader}
    (hstart : m.reader.start (m.started + 1) threadStarts = .ok reader) (s : RuntimeState) :
    let begun : Reconciler := { m with
      runtime := s
      reader := reader
      phase := .reading (m.started + 1) m.provider
      started := m.started + 1
      last := none }
    ReadInv begun ∧ Awaits begun := by
  unfold Reader.start at hstart
  split at hstart
  · cases hstart
  split at hstart
  · cases hstart
  split at hstart
  · rename_i hfree _
    have hbusy : m.reader.busy = false := Bool.eq_false_of_not_eq_true fun hb => hfree (.inr hb)
    have hempty := inFlight_of_not_busy h hbusy
    have hfresh : m.reader.done (m.started + 1) = false := by
      refine Bool.eq_false_of_not_eq_true fun hdone => ?_
      have := h.answered _ hdone
      omega
    cases hstart
    constructor
    · refine
        { single := .inr ⟨m.started + 1, ?_, rfl, hfresh⟩
          answered := fun read hdone => ?_
          flying := fun read hread => ?_
          abandoned := fun read hread => ?_
          returned := fun p hp => ?_ }
      · simp only [hempty]
      · have := h.answered read hdone
        dsimp only
        omega
      · simp only [hempty, List.mem_singleton] at hread
        dsimp only
        omega
      · have := h.abandoned read hread
        dsimp only
        omega
      · obtain ⟨hown, hle, hkept⟩ := h.returned p hp
        refine ⟨hown, ?_, hkept⟩
        dsimp only
        omega
    · intro read provider hphase
      cases hphase
      refine ⟨rfl, rfl, fun habandoned => ?_, fun p hp heq => ?_⟩
      · have := h.abandoned _ habandoned
        omega
      · have := (h.returned p hp).2.1
        omega
  · cases hstart

/-- A refused read leaves no thread behind. -/
theorem readInv_refused (h : ReadInv m) {threadStarts : Bool} {text : String} {reader : Reader}
    (hstart : m.reader.start (m.started + 1) threadStarts = .error (text, reader))
    (s : RuntimeState) :
    ReadInv { m with
      runtime := s
      reader := reader
      started := m.started + 1
      last := none } := by
  have hlater (r : Reader) (hsingle : r.inFlight = [] ∨
        ∃ read, r.inFlight = [read] ∧ r.pending = some read ∧ r.done read = false)
      (hanswers : r.answers = m.reader.answers) (hflying : r.inFlight = m.reader.inFlight) :
      ReadInv { m with runtime := s, reader := r, started := m.started + 1, last := none } := by
    refine
      { single := hsingle
        answered := fun read hdone => ?_
        flying := fun read hread => ?_
        abandoned := fun read hread => ?_
        returned := fun p hp => ?_ }
    · have := h.answered read (by simpa only [Reader.done, hanswers] using hdone)
      dsimp only
      omega
    · have := h.flying read (hflying ▸ hread)
      dsimp only
      omega
    · have := h.abandoned read hread
      dsimp only
      omega
    · obtain ⟨hown, hle, hkept⟩ := h.returned p hp
      refine ⟨hown, ?_, hkept⟩
      dsimp only
      omega
  unfold Reader.start at hstart
  split at hstart
  · cases hstart
    exact hlater _ h.single rfl rfl
  split at hstart
  · cases hstart
    exact hlater _ h.single rfl rfl
  split at hstart
  · cases hstart
  · rename_i hfree _
    have hbusy : m.reader.busy = false := Bool.eq_false_of_not_eq_true fun hb => hfree (.inr hb)
    cases hstart
    exact hlater _ (.inl (inFlight_of_not_busy h hbusy)) rfl rfl

/-- An accepted read: it is its own cycle's, and its thread is gone. -/
theorem readInv_accept (h : ReadInv m) (ha : Awaits m) {read provider : ℕ} {answer : Answer}
    (hphase : m.phase = .reading read provider)
    (hanswer : m.reader.answers.lookup read = some answer) :
    ReadInv { m with reader := m.reader.accept, returned := (m.started, read) :: m.returned } ∧
      ReadInv { m with reader := m.reader.accept } := by
  obtain ⟨hown, hpending, hkept, _⟩ := ha read provider hphase
  have hdone : m.reader.done read = true := by rw [Reader.done, hanswer]; rfl
  have hempty : m.reader.inFlight = [] :=
    inFlight_of_not_busy h (by simp only [Reader.busy, hpending, hdone, Bool.not_true])
  refine ⟨?_, ⟨.inl hempty, h.answered, h.flying, h.abandoned, h.returned⟩⟩
  refine ⟨.inl hempty, h.answered, h.flying, h.abandoned, fun p hp => ?_⟩
  rcases List.mem_cons.mp hp with rfl | hp
  · exact ⟨hown, hown.le, hkept⟩
  · exact h.returned p hp

theorem readInv_abandonRead (h : ReadInv m) (ha : Awaits m) : ReadInv m.abandonRead := by
  unfold Reconciler.abandonRead
  split
  · rename_i read provider hphase
    obtain ⟨hown, _, _, hgiven⟩ := ha read provider hphase
    refine ⟨h.single, h.answered, h.flying, fun other hother => ?_, fun p hp => ?_⟩
    · rcases List.mem_cons.mp hother with rfl | hother
      · exact hown.le
      · exact h.abandoned other hother
    · obtain ⟨hself, hle, hkept⟩ := h.returned p hp
      refine ⟨hself, hle, fun hmem => ?_⟩
      rcases List.mem_cons.mp hmem with heq | hmem
      · exact hgiven p hp heq
      · exact hkept hmem
  · exact h

theorem readInv_close (h : ReadInv m) : ReadInv { m with reader := m.reader.close } := by
  refine ⟨?_, h.answered, h.flying, h.abandoned, h.returned⟩
  rcases h.single with hnone | ⟨read, hsome, hpending, hdone⟩
  · exact .inl hnone
  · have hbusy : m.reader.busy = true := by simp only [Reader.busy, hpending, hdone, Bool.not_false]
    refine .inr ⟨read, hsome, ?_, hdone⟩
    simp only [Reader.close, hbusy, if_true, hpending]

/-- What every event preserves. -/
structure CycleInv (cfg : RuntimeConfig) (m : Reconciler) : Prop where
  gate : GateInv cfg m
  reads : ReadInv m
  awaits : Awaits m

theorem started_of_phase (h : GateInv cfg m) (hidle : m.phase ≠ .idle)
    (hstopped : m.phase ≠ .stopped) : m.started ≠ 0 :=
  fun hfresh => (h.fresh hfresh).1.elim hidle hstopped

/-- A cycle that runs from its source to its end or its repair events. -/
theorem inv_settle (hreads : ReadInv m) (hstarted : m.started ≠ 0)
    (hbegun : m.runtime.reconciliationPersistenceUnhealthy = true) {read : ℕ}
    (hread : read = m.started) {source : SnapshotSource}
    (hsource : source.complete = true ∨ source.incomplete = true)
    (reconciled : Option (List Finding)) (persisted : Persisted) :
    CycleInv cfg (m.settle cfg read source reconciled persisted) := by
  obtain ⟨hsame, hpast⟩ := @settle_frame cfg read source reconciled persisted m
  have hgate := @settle_gate cfg m read source reconciled persisted hbegun hread hsource
  generalize m.settle cfg read source reconciled persisted = after at hsame hpast hgate
  refine ⟨⟨.inr hgate, ?_, ?_, ?_⟩, hreads.same hsame.1 hsame.2 hsame.3 hsame.4,
    awaits_of_past hpast⟩
  · intro read provider hphase
    rw [hphase] at hpast
    exact hpast.elim
  · intro hphase
    rw [hphase] at hpast
    exact hpast.elim
  · intro hfresh
    exact absurd (hsame.started.symm.trans hfresh) hstarted

theorem inv_startCycle (h : CycleInv cfg m) (threadStarts : Bool)
    (reconciled : Option (List Finding)) (persisted : Persisted) :
    CycleInv cfg (m.startCycle cfg threadStarts reconciled persisted) := by
  unfold Reconciler.startCycle
  dsimp only
  split
  · rename_i reader hstart
    obtain ⟨hreads, hawaits⟩ := readInv_start h.reads hstart (beginCycle m.runtime)
    refine ⟨⟨.inr (.inl (.inl rfl)), fun _ _ _ => rfl, fun hphase => ?_, fun hfresh => ?_⟩,
      hreads, hawaits⟩
    · cases hphase
    · exact absurd hfresh (Nat.succ_ne_zero _)
  · rename_i text reader hstart
    exact inv_settle (readInv_refused h.reads hstart (beginCycle m.runtime)) (Nat.succ_ne_zero _)
      rfl rfl (.inr rfl) reconciled persisted

theorem answer_source (changed : Bool) (answer : Answer) :
    (answer.source changed).complete = true ∨ (answer.source changed).incomplete = true := by
  rcases answer with ⟨status, transient⟩ | transient
  · rcases changed
    · rcases hcomplete : (SnapshotSource.answered status transient).complete
      · exact .inr (by simp only [Answer.source, SnapshotSource.incomplete, hcomplete,
          Bool.false_eq_true, if_false, Bool.not_false])
      · exact .inl hcomplete
    · exact .inr rfl
  · exact .inr rfl

theorem inv_resume (h : CycleInv cfg m) {read provider : ℕ} {answer : Answer}
    (hphase : m.phase = .reading read provider)
    (hanswer : m.reader.answers.lookup read = some answer) (reconciled : Option (List Finding))
    (persisted : Persisted) :
    CycleInv cfg (m.resume cfg read provider answer reconciled persisted) := by
  obtain ⟨hgiven, hrefused⟩ := readInv_accept h.reads h.awaits hphase hanswer
  have hown : read = m.started := (h.awaits read provider hphase).1
  have hbegun := h.gate.reading read provider hphase
  have hstarted : m.started ≠ 0 := started_of_phase h.gate (hphase ▸ Phase.noConfusion)
    (hphase ▸ Phase.noConfusion)
  unfold Reconciler.resume
  dsimp only
  split
  · exact inv_settle hrefused hstarted hbegun hown (.inr rfl) reconciled persisted
  · exact inv_settle hgiven hstarted hbegun hown (answer_source _ answer) reconciled persisted

/-- Outside of a read and an incident, with a gate that is no more open than before. -/
theorem inv_of_gate (hreads : ReadInv m) (hpast : m.phase.past) (hstarted : m.started ≠ 0)
    (hgate : Blocked m.runtime ∨ Established cfg m) : CycleInv cfg m := by
  refine ⟨⟨.inr hgate, ?_, ?_, fun hfresh => absurd hfresh hstarted⟩, hreads,
    awaits_of_past hpast⟩
  · intro read provider hphase
    rw [hphase] at hpast
    exact hpast.elim
  · intro hphase
    rw [hphase] at hpast
    exact hpast.elim

theorem inv_timeOut (h : CycleInv cfg m) (hstarted : m.started ≠ 0) :
    CycleInv cfg { m with runtime := timedOut m.runtime, phase := .incident } := by
  have hreason : (timedOut m.runtime).failClosedReason ≠ none := Option.some_ne_none _
  refine ⟨⟨.inr (.inl (.inr hreason)), ?_, fun _ => hreason, fun hfresh => absurd hfresh hstarted⟩,
    h.reads.same rfl rfl rfl rfl, ?_⟩
  · intro read provider hphase
    cases hphase
  · intro read provider hphase
    cases hphase

theorem abandonRead_frame (m : Reconciler) :
    m.abandonRead.runtime = m.runtime ∧ m.abandonRead.started = m.started ∧
      m.abandonRead.last = m.last ∧ m.abandonRead.scanning = m.scanning := by
  unfold Reconciler.abandonRead
  split <;> exact ⟨rfl, rfl, rfl, rfl⟩

theorem timeoutPersisted_reason (cfg : RuntimeConfig) (persisted : Persisted) (s : RuntimeState) :
    (timeoutPersisted cfg persisted s).failClosedReason = s.failClosedReason := by
  unfold timeoutPersisted
  split <;> rfl

/-- The repair events finish a cycle or go on. -/
theorem inv_repair (h : CycleInv cfg m) (hstarted : m.started ≠ 0) (rest : List Finding)
    (stopping : Bool) : CycleInv cfg ({ m with stopping := stopping }.repair rest) := by
  obtain ⟨hsame, hpast, hruntime⟩ := repair_frame rest { m with stopping := stopping }
  refine inv_of_gate (h.reads.same hsame.1 hsame.2 hsame.3 hsame.4) hpast
    (hsame.started.trans_ne hstarted) ?_
  rcases h.gate.gate with hfresh | hblocked | ⟨c, hlast, hclean, hcommitted⟩
  · exact absurd hfresh hstarted
  · exact .inl (hruntime.symm ▸ hblocked)
  · refine .inr ?_
    unfold Reconciler.repair
    split
    · exact ⟨c, hlast, hclean, hcommitted⟩
    · refine ⟨{ c with finished := true }, ?_, ⟨hclean.1, rfl, hclean.3, hclean.4⟩, hcommitted⟩
      dsimp only
      rw [hlast]
      rfl

theorem inv_shutdown (h : CycleInv cfg m) : CycleInv cfg m.shutdown := by
  obtain ⟨hruntime, hstarted, hlast, hscanning⟩ := abandonRead_frame m
  have hreads : ReadInv m.shutdown :=
    (readInv_close (readInv_abandonRead h.reads h.awaits)).same rfl rfl rfl rfl
  have hphase : m.shutdown.phase = .stopped := rfl
  refine ⟨⟨?_, ?_, ?_, ?_⟩, hreads, awaits_of_past trivial⟩
  · rcases h.gate.gate with hfresh | hblocked | hestablished
    · exact .inl (hstarted.trans hfresh)
    · refine .inr (.inl ?_)
      unfold Reconciler.shutdown
      dsimp only
      split
      · exact .inr (Option.some_ne_none _)
      · exact hblocked
    · refine .inr (.inr ?_)
      obtain ⟨c, hc, hclean, hcommitted⟩ := hestablished
      refine ⟨c, hlast.trans hc, ?_, hcommitted⟩
      exact (show m.shutdown.started = m.started from hstarted) ▸ hclean
  · intro read provider hreading
    rw [hphase] at hreading
    cases hreading
  · intro hincident
    rw [hphase] at hincident
    cases hincident
  · intro hfresh
    refine ⟨.inr hphase, ?_⟩
    exact hscanning.trans (h.gate.fresh (hstarted.symm.trans hfresh)).2

theorem inv_incidentRecorded (h : CycleInv cfg m) (hphase : m.phase = .incident)
    (persisted : Persisted) :
    CycleInv cfg { m with
      runtime := timeoutPersisted cfg persisted m.runtime
      phase := if cfg.persistence ∧ persisted = .raised then .stopped else .idle } := by
  have hstarted := started_of_phase h.gate (hphase ▸ Phase.noConfusion)
    (hphase ▸ Phase.noConfusion)
  refine inv_of_gate (h.reads.same rfl rfl rfl rfl) ?_ hstarted (.inl (.inr ?_))
  · dsimp only
    split <;> trivial
  · -- the reason of the timeout outlives the persistence of its cycle
    dsimp only
    rw [timeoutPersisted_reason]
    exact h.gate.incident hphase

/-- A change that touches neither the gate nor the reads. -/
theorem inv_same (h : CycleInv cfg m) {m' : Reconciler} (hs : SameReads m m')
    (hruntime : m'.runtime = m.runtime) (hphase : m'.phase = m.phase) (hlast : m'.last = m.last) :
    CycleInv cfg m' := by
  refine ⟨⟨?_, hphase ▸ hruntime ▸ h.gate.reading, hphase ▸ hruntime ▸ h.gate.incident, ?_⟩,
    h.reads.same hs.1 hs.2 hs.3 hs.4, ?_⟩
  · rcases h.gate.gate with hfresh | hblocked | ⟨c, hc, hclean, hcommitted⟩
    · exact .inl (hs.started.trans hfresh)
    · exact .inr (.inl (hruntime.symm ▸ hblocked))
    · exact .inr (.inr ⟨c, hlast.trans hc, hs.started.symm ▸ hclean, hcommitted⟩)
  · intro hfresh
    obtain ⟨hp, hscan⟩ := h.gate.fresh (hs.started.symm.trans hfresh)
    exact ⟨hphase.symm ▸ hp, hs.scanning.trans hscan⟩
  · intro read provider hreading
    rw [hs.started, hs.reader, hs.abandoned, hs.returned]
    exact h.awaits read provider (hphase.symm.trans hreading)

theorem inv_answer (h : CycleInv cfg m) (read : ℕ) (answer : Answer) :
    CycleInv cfg { m with reader := m.reader.answer read answer } := by
  refine ⟨⟨h.gate.gate, h.gate.reading, h.gate.incident, h.gate.fresh⟩,
    readInv_answer h.reads read answer, fun other provider hphase => ?_⟩
  dsimp only
  rw [pending_answer]
  exact h.awaits other provider hphase

theorem inv_die (h : CycleInv cfg m) (hstarted : m.started ≠ 0) :
    CycleInv cfg { m with phase := .stopped } :=
  inv_of_gate (h.reads.same rfl rfl rfl rfl) trivial hstarted
    (h.gate.gate.resolve_left hstarted)

theorem inv_abandon (h : CycleInv cfg m) (hstarted : m.started ≠ 0) :
    CycleInv cfg { m.abandonRead with runtime := timedOut m.runtime, phase := .incident } := by
  have hreason : (timedOut m.runtime).failClosedReason ≠ none := Option.some_ne_none _
  refine ⟨⟨.inr (.inl (.inr hreason)), ?_, fun _ => hreason, fun hfresh => ?_⟩,
    (readInv_abandonRead h.reads h.awaits).same rfl rfl rfl rfl, ?_⟩
  · intro read provider hphase
    cases hphase
  · exact absurd ((abandonRead_frame m).2.1.symm.trans hfresh) hstarted
  · intro read provider hphase
    cases hphase

theorem inv_scan (h : CycleInv cfg m) (hphase : m.phase = .idle) (hstarted : m.started ≠ 0) :
    CycleInv cfg { m with scanning := true } :=
  inv_of_gate (h.reads.same rfl rfl rfl rfl) (hphase ▸ trivial) hstarted
    (h.gate.gate.resolve_left hstarted)

/-- **One event preserves the invariant.** -/
theorem inv_next (h : CycleInv cfg m) (e : CycleEvent) : CycleInv cfg (m.next cfg e) := by
  rcases e with provider | ⟨threadStarts, reconciled, persisted⟩ | ⟨read, answer⟩ |
    ⟨reconciled, persisted⟩ | _ | persisted | _ | _ | _ | _
  case changeProvider => exact inv_same h ⟨rfl, rfl, rfl, rfl, rfl⟩ rfl rfl rfl
  case answer => exact inv_answer h read answer
  case shutdown => exact inv_shutdown h
  all_goals
    rcases hphase : m.phase with _ | ⟨read, provider⟩ | rest | _ | _ <;>
      simp only [Reconciler.next, hphase] <;> try exact h
  all_goals
    have hstarted := started_of_phase h.gate
    rw [hphase] at hstarted
  case start.idle =>
    split
    · exact h
    · exact inv_startCycle h threadStarts reconciled persisted
  case resume.reading =>
    split
    · rename_i answer hanswer
      exact inv_resume h hphase hanswer reconciled persisted
    · exact h
  case timeOut.reading => exact inv_abandon h (hstarted Phase.noConfusion Phase.noConfusion)
  case timeOut.repairing => exact inv_timeOut h (hstarted Phase.noConfusion Phase.noConfusion)
  case incidentRecorded.incident => exact inv_incidentRecorded h hphase persisted
  case repaired.repairing =>
    exact inv_repair h (hstarted Phase.noConfusion Phase.noConfusion) rest true
  case die.repairing => exact inv_die h (hstarted Phase.noConfusion Phase.noConfusion)
  case die.incident => exact inv_die h (hstarted Phase.noConfusion Phase.noConfusion)
  case scan.idle =>
    split
    · rename_i hready
      simpa only [hphase] using inv_scan h hphase hready.1
    · exact h

end Steps

/-! ## 4. Runs -/

theorem inv_initial (cfg : RuntimeConfig) (s : RuntimeState) (provider : ℕ) :
    CycleInv cfg (Reconciler.initial s provider) := by
  refine ⟨⟨.inl rfl, ?_, ?_, fun _ => ⟨.inl rfl, rfl⟩⟩, ⟨.inl rfl, ?_, ?_, ?_, ?_⟩, ?_⟩
  · intro _ _ hphase
    cases hphase
  · intro hphase
    cases hphase
  · intro _ hdone
    cases hdone
  · intro _ hread
    cases hread
  · intro _ hread
    cases hread
  · intro _ hp
    cases hp
  · intro _ _ hphase
    cases hphase

/-- **An open gate has its evidence.** From any runtime state, in every order of events. -/
theorem gate_needs_evidence (cfg : RuntimeConfig) (s : RuntimeState) (provider : ℕ)
    (events : List CycleEvent) :
    let m := runEvents (Reconciler.next cfg) (Reconciler.initial s provider) events
    (∀ stale, m.scanning = true → failClosedGate cfg stale m.runtime = none → Established cfg m) ∧
      (∀ p ∈ m.returned, p.2 = p.1 ∧ p.2 ∉ m.abandoned) ∧ m.reader.inFlight.length ≤ 1 := by
  intro m
  have h : CycleInv cfg m :=
    run_invariant (P := CycleInv cfg) (fun _ e h => inv_next h e) events _
      (inv_initial cfg s provider)
  refine ⟨fun stale hscanning hopen => ?_, fun p hp => ?_, ?_⟩
  · obtain ⟨hhealthy, _, hreason, _⟩ := gateOpen_of_none hopen
    rcases h.gate.gate with hfresh | hblocked | hestablished
    · have hbefore := (h.gate.fresh hfresh).2
      rw [hscanning] at hbefore
      cases hbefore
    · rcases hblocked with hunhealthy | hsome
      · rw [hhealthy] at hunhealthy
        cases hunhealthy
      · exact absurd hreason hsome
    · exact hestablished
  · obtain ⟨hown, _, hkept⟩ := h.reads.returned p hp
    exact ⟨hown, hkept⟩
  · rcases h.reads.single with hnone | ⟨read, hsome, _⟩
    · rw [hnone]
      exact Nat.zero_le 1
    · rw [hsome]
      exact le_refl 1

/-- The runtime after a clean startup with a database. -/
theorem gate_needs_evidence_startup :
    let cfg : RuntimeConfig := { memoryConfig with persistence := true }
    let m := runEvents (Reconciler.next cfg) (Reconciler.initial RuntimeState.initial 0)
      cleanStartup
    failClosedGate cfg false m.runtime = none ∧ Established cfg m :=
  ⟨by decide +kernel,
    (gate_needs_evidence { memoryConfig with persistence := true } RuntimeState.initial 0
      cleanStartup).1 false (by decide +kernel) (by decide +kernel)⟩

end AlphaForge.Runtime
