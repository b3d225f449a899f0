/-
  File:      AlphaForge/Runtime/Deduplication.lean
  Subject:   What a run of scans skips and marks as processed, and what the database holds of it.

  The memo of rejected setups is written before the reject is persisted, the memo of accepted ones
  before the execution, and the candle is marked after every visit that does not raise; the writes
  behind them can give up without an exception. So the evidence can be lost, and the condition says
  when it is not.

  * `filed_decideSymbol` -- under the condition a visit leaves a row of its setup or of its signal.
  * `skips_and_marks_durable` -- over every run whose visits meet the condition.
-/
import AlphaForge.Lib.Runs
import AlphaForge.Runtime.VisitMemos

namespace AlphaForge.Runtime.Scan

open AlphaForge.Lib

/-! ## 1. The property and the condition -/

/-- The database holds a final decision of the signal, or of the setup if there is one. -/
def Recorded (database : List Row) (signalId : String) (setupIdentity : Option String) : Prop :=
  ∃ r ∈ database, r.signalId = some signalId ∨
    (setupIdentity.isSome ∧ r.setupIdentity = setupIdentity)

/-- The evidence that a note promises is in the database. -/
def Note.Durable (database : List Row) : Note → Prop
  | .finalized signalId => ∃ r ∈ database, r.signalId = some signalId
  | .skipped setupIdentity => Decided database setupIdentity
  | .marked _ _ signalId setupIdentity => Recorded database signalId setupIdentity

variable (cfg : ScanConfig)

/-- The alignment gate of PAPER is on. -/
def ScanConfig.aligning : Bool := cfg.executionMode = .paper && cfg.requireMtfAlignment

/-- The geometry status that the geometry gate reads. -/
def Visit.geometryComplete (v : Visit) : Bool :=
  if cfg.aligning && v.gates.aligned then v.gates.guidedGeometry.getD v.gates.legacyGeometry
  else v.gates.legacyGeometry

/-- The alignment gate and the state-direction geometry let the symbol pass. -/
def passesAlignment (v : Visit) : Bool :=
  !cfg.aligning ||
    ((v.gates.aligned || shadowed cfg v) && v.gates.stateDirectionGeometry.isNone)

/-- So does the geometry gate. -/
def reachesRisk (v : Visit) : Bool :=
  passesAlignment cfg v && (!geometryRequired cfg v.selection || v.geometryComplete cfg)

/-- So does the stop-risk gate. -/
def reachesScore (v : Visit) : Bool := reachesRisk cfg v && v.gates.guidedStop.isNone

/-- The brain is asked. -/
def asksBrain (v : Visit) : Bool :=
  reachesScore cfg v && !v.gates.killSwitchBefore && (v.gates.risk.or v.gates.preAiExecution).isNone

/-- Every gate accepts. -/
def admits (v : Visit) : Bool :=
  asksBrain cfg v && !v.gates.brainRaises && v.gates.late.isNone

/-- The visit can mark a candle or enter a setup in a memo. -/
def atStake (v : Visit) : Bool := !v.selection.candle.anonymous || (v.setupIdentity cfg).isSome

/-- The execution of an accepted decision leaves its row. -/
def ExecutionRecorded (s : ScanState) (v : Visit) : Prop :=
  match cfg.executionMode with
  | .paper =>
    reconciliationBlocked v.answers s = false ∧ v.answers.ownershipBusy = false ∧
      match cfg.campaignId with
      | some _ => v.answers.positionWrite ≠ .busyExhausted
      | none => v.answers.acceptedWrite = true ∧
          (s.burninRunId.isSome ∨ v.answers.startedRun.isSome)
  | .livePrecheck => v.answers.precheckWrite ≠ .busyExhausted
  | .backtest | .live => False

instance (s : ScanState) (v : Visit) : Decidable (ExecutionRecorded cfg s v) := by
  unfold ExecutionRecorded
  cases cfg.executionMode <;> cases cfg.campaignId <;> simp only <;> infer_instance

/-- The condition on a visit and the state it meets: the final lookup answers, no write that the
    visit needs gives up, the brain does not raise, an accepted decision is executed and its row
    written. -/
structure Covered (s : ScanState) (v : Visit) : Prop where
  engine : cfg.engine = true
  lookup : v.selection.candle.anonymous = false → cfg.executionMode = .paper →
    v.answers.finalLookup = true ∧ (s.burninRunId.isSome ∨ cfg.campaignId = none)
  reject : atStake cfg v = true → admits cfg v = false → v.answers.rejectWrite ≠ .busyExhausted
  brain : atStake cfg v = true → asksBrain cfg v = true → v.gates.brainRaises = false
  execution : atStake cfg v = true → admits cfg v = true → ExecutionRecorded cfg s v

/-- Every visit of an event meets the condition. -/
def CoveredEvent (w : World) : Event → Prop
  | .scan visits => Along (scanSymbol cfg) (fun w v => Covered cfg w.state v) w visits
  | _ => True

/-! ## 2. What a visit leaves -/

/-- The database holds a decision of the setup; of the signal, where there is no setup. -/
def Owned (database : List Row) (signalId : String) : Option String → Prop
  | some i => Decided database i
  | none => ∃ r ∈ database, r.signalId = some signalId

theorem owned_of_row {database : List Row} {signalId : String} {setupIdentity : Option String}
    {r : Row} (hr : r ∈ database) (hsetup : r.setupIdentity = setupIdentity)
    (hsignal : setupIdentity = none → r.signalId = some signalId) :
    Owned database signalId setupIdentity := by
  cases setupIdentity with
  | some i => exact ⟨r, hr, hsetup⟩
  | none => exact ⟨r, hr, hsignal rfl⟩

theorem Owned.mono {database database' : List Row} {signalId : String}
    {setupIdentity : Option String} (h : Owned database signalId setupIdentity)
    (hsub : database ⊆ database') : Owned database' signalId setupIdentity := by
  cases setupIdentity with
  | some i => exact Decided.mono h hsub
  | none =>
    obtain ⟨r, hr, hi⟩ := h
    exact ⟨r, hsub hr, hi⟩

theorem Owned.recorded {database : List Row} {signalId : String} {setupIdentity : Option String}
    (h : Owned database signalId setupIdentity) : Recorded database signalId setupIdentity := by
  cases setupIdentity with
  | some i =>
    obtain ⟨r, hr, hi⟩ := h
    exact ⟨r, hr, .inr ⟨rfl, hi⟩⟩
  | none =>
    obtain ⟨r, hr, hi⟩ := h
    exact ⟨r, hr, .inl hi⟩

/-- Unless it raises, the outcome owns its row. -/
def Leaves (signalId : String) (setupIdentity : Option String) (out : Outcome) : Prop :=
  out.ending ≠ .raised → Owned out.state.database signalId setupIdentity

/-- Only the memos differ. -/
structure SameBase (s s' : ScanState) : Prop where
  burninRunId : s'.burninRunId = s.burninRunId
  recoveryRequired : s'.recoveryRequired = s.recoveryRequired
  failClosedReason : s'.failClosedReason = s.failClosedReason
  database : s'.database = s.database

theorem SameBase.refl (s : ScanState) : SameBase s s := ⟨rfl, rfl, rfl, rfl⟩

theorem SameBase.trans {s s' s'' : ScanState} (h : SameBase s s') (h' : SameBase s' s'') :
    SameBase s s'' :=
  ⟨h'.burninRunId.trans h.burninRunId, h'.recoveryRequired.trans h.recoveryRequired,
    h'.failClosedReason.trans h.failClosedReason, h'.database.trans h.database⟩

theorem sameBase_remember (s : ScanState) (i : String) (d : Decision) :
    SameBase s (s.remember i d) := by
  cases d <;> exact ⟨rfl, rfl, rfl, rfl⟩

theorem sameBase_rememberAccepted (s : ScanState) (setupIdentity : Option String) :
    SameBase s (rememberAccepted s setupIdentity) := by
  cases setupIdentity with
  | none => exact .refl s
  | some i => exact sameBase_remember s i .accepted

theorem sameBase_duplicatePositionRejectRecorded (a : Answers) (s : ScanState) (i e : String) :
    SameBase s (duplicatePositionRejectRecorded cfg a s i e).2 := by
  unfold duplicatePositionRejectRecorded
  simp only
  split
  · exact .refl s
  · split
    · exact .refl s
    · split <;> exact ⟨rfl, rfl, rfl, rfl⟩

theorem executionRecorded_congr {s s' : ScanState} (h : SameBase s s') (v : Visit)
    (hs : ExecutionRecorded cfg s v) : ExecutionRecorded cfg s' v := by
  have hblocked : reconciliationBlocked v.answers s' = reconciliationBlocked v.answers s := by
    rw [reconciliationBlocked, reconciliationBlocked, h.failClosedReason, h.recoveryRequired]
  unfold ExecutionRecorded at hs ⊢
  rw [hblocked, h.burninRunId]
  exact hs

/-- The lookup misses without a trace. -/
theorem setupDecisionRecorded_miss {lookup : Bool} {s : ScanState} {i : String} {d : Decision}
    (h : (setupDecisionRecorded cfg lookup s i d).1 = false) :
    (setupDecisionRecorded cfg lookup s i d).2 = s := by
  unfold setupDecisionRecorded at h ⊢
  split
  · rfl
  · rw [if_neg ‹_›] at h
    split
    · rfl
    · rw [if_neg ‹_›] at h
      split
      · rfl
      · rename_i run hrun
        rw [hrun] at h
        simp only at h
        split
        · rw [if_pos ‹_›] at h
          exact nomatch h
        · rfl

/-- A hit of the lookup is in the database, if the memo is backed by it. -/
theorem setupDecisionRecorded_hit {lookup : Bool} {s : ScanState} {i : String} {d : Decision}
    (hmemo : ∀ j ∈ s.memory d, Decided s.database j)
    (h : (setupDecisionRecorded cfg lookup s i d).1 = true) :
    Decided (setupDecisionRecorded cfg lookup s i d).2.database i := by
  unfold setupDecisionRecorded at h ⊢
  split
  · exact hmemo i ‹_›
  · rw [if_neg ‹_›] at h
    split
    · rw [if_pos ‹_›] at h
      exact nomatch h
    · rw [if_neg ‹_›] at h
      split
      · rename_i hrun
        rw [hrun] at h
        exact nomatch h
      · rename_i run hrun
        rw [hrun] at h
        simp only at h
        split
        · rw [(sameBase_remember s i d).database]
          exact decided_of_setupRow ‹_›
        · rw [if_neg ‹_›] at h
          exact nomatch h

theorem duplicatePositionRejectRecorded_hit {a : Answers} {s : ScanState} {i e : String}
    (hkeys : ∀ k ∈ s.duplicateKeys, Decided s.database k.setupIdentity)
    (h : (duplicatePositionRejectRecorded cfg a s i e).1 = true) :
    Decided (duplicatePositionRejectRecorded cfg a s i e).2.database i := by
  unfold duplicatePositionRejectRecorded at h ⊢
  simp only at h ⊢
  split
  · exact hkeys _ ‹_›
  · rw [if_neg ‹_›] at h
    split
    · rw [if_pos ‹_›] at h
      exact nomatch h
    · rw [if_neg ‹_›] at h
      split
      · exact decided_of_duplicateRow ‹_›
      · rw [if_neg ‹_›] at h
        exact nomatch h

theorem leaves_rejectWith {a : Answers} {s : ScanState} {r : Reject} {signalId : String}
    {setupIdentity : Option String} (hengine : cfg.engine = true)
    (hwrite : a.rejectWrite ≠ .busyExhausted) (hsetup : r.setupIdentity = setupIdentity)
    (hsignal : setupIdentity = none → r.signalId = signalId) :
    Leaves signalId setupIdentity (rejectWith cfg a s r) := by
  intro hraised
  unfold rejectWith at hraised ⊢
  split
  · rename_i h
    rw [h] at hraised
    exact absurd rfl hraised
  · rename_i s' h
    have hrow : Row.rejectedSignalReview r.signalId r.setupIdentity ∈ s'.database := by
      unfold persistReject at h
      simp only [hengine, Bool.not_true, Bool.false_eq_true, if_false] at h
      cases hw : a.rejectWrite with
      | committed =>
        rw [hw] at h
        rw [← Option.some.inj h, rejectRecovered_database]
        exact List.mem_append_right _ (List.mem_cons_self ..)
      | busyExhausted => exact absurd hw hwrite
      | raised =>
        rw [hw] at h
        exact nomatch h
    have howned : Owned s'.database signalId setupIdentity :=
      owned_of_row hrow hsetup fun hnone => by rw [Row.signalId, hsignal hnone]
    split <;> exact howned

theorem leaves_createAndReject {a : Answers} {s : ScanState} {r : Reject} {signalId : String}
    {setupIdentity : Option String} (h : Leaves signalId setupIdentity (rejectWith cfg a s r)) :
    Leaves signalId setupIdentity (createAndReject cfg a s r) := by
  intro hraised
  unfold createAndReject at hraised ⊢
  split
  · rw [if_pos ‹_›] at hraised
    exact absurd rfl hraised
  · rw [if_neg ‹_›] at hraised
    exact h hraised

theorem leaves_openPosition {a : Answers} {s : ScanState} {v : Visit}
    {setupIdentity : Option String}
    (h : Owned (persistAccepted cfg a s v.selection.signalId setupIdentity).database
      v.selection.signalId setupIdentity) :
    Leaves v.selection.signalId setupIdentity (openPosition cfg a s v setupIdentity) := by
  intro hraised
  unfold openPosition at hraised ⊢
  split
  · rw [if_pos ‹_›] at hraised
    exact absurd rfl hraised
  · exact h

/-- Outside a campaign the accepted evidence itself is the row. -/
theorem owned_persistAccepted {a : Answers} {s : ScanState} {signalId : String}
    {setupIdentity : Option String} (hmode : cfg.executionMode = .paper)
    (hengine : cfg.engine = true) (hwrite : a.acceptedWrite = true)
    (hrun : s.burninRunId.isSome ∨ a.startedRun.isSome) :
    Owned (persistAccepted cfg a s signalId setupIdentity).database signalId setupIdentity := by
  obtain ⟨run, hstarted⟩ : ∃ run, (startOrResumeBurninRun cfg a s).burninRunId = some run := by
    rw [← Option.isSome_iff_exists]
    unfold startOrResumeBurninRun
    split
    · rename_i h
      exact hrun.resolve_left (by rw [h.2.1]; exact Bool.false_ne_true)
    · rename_i h
      cases hs : s.burninRunId with
      | none => exact absurd ⟨.inl hmode, hs, hengine⟩ h
      | some run => rfl
  have hrow : Row.burninObservation run signalId .accepted none setupIdentity none ∈
      (persistAccepted cfg a s signalId setupIdentity).database := by
    simp only [persistAccepted, hengine, hstarted, hwrite, burninRows, hmode, Bool.not_true,
      Option.isNone_some, Bool.or_self, Bool.false_eq_true, if_false, true_or, if_true]
    exact List.mem_append_right _ (List.mem_cons_self ..)
  exact owned_of_row hrow rfl fun _ => rfl

theorem leaves_fillPaper {a : Answers} {s : ScanState} {v : Visit} {setupIdentity : Option String}
    (hmode : cfg.executionMode = .paper) (hengine : cfg.engine = true)
    (h : match cfg.campaignId with
      | some _ => a.positionWrite ≠ .busyExhausted
      | none => a.acceptedWrite = true ∧ (s.burninRunId.isSome ∨ a.startedRun.isSome)) :
    Leaves v.selection.signalId setupIdentity (fillPaper cfg a s v setupIdentity) := by
  unfold fillPaper
  split
  · rename_i hcampaign
    rw [hcampaign] at h
    exact leaves_openPosition cfg (owned_persistAccepted cfg hmode hengine h.1 h.2)
  · exact fun hraised => absurd rfl hraised
  · rename_i campaign run hcampaign hrun
    rw [hcampaign] at h
    simp only [hengine, Bool.not_true, Bool.false_eq_true, if_false]
    cases hw : a.positionWrite with
    | committed =>
      refine leaves_openPosition cfg ?_
      refine Owned.mono ?_ (extends_persistAccepted cfg a _ _ _).database
      exact owned_of_row (List.mem_append_right _ (List.mem_singleton_self _)) rfl fun _ => rfl
    | busyExhausted => exact absurd hw h
    | raised => exact fun hraised => absurd rfl hraised

theorem leaves_accept {s : ScanState} {v : Visit} {setupIdentity : Option String}
    (hengine : cfg.engine = true) (hexec : ExecutionRecorded cfg s v)
    (hsetup : cfg.executionMode = .livePrecheck → setupIdentity = none) :
    Leaves v.selection.signalId setupIdentity (accept cfg s v setupIdentity) := by
  have hexec' := executionRecorded_congr cfg (sameBase_rememberAccepted s setupIdentity) v hexec
  unfold ExecutionRecorded at hexec'
  intro hraised
  unfold accept at hraised ⊢
  cases hmode : cfg.executionMode with
  | paper =>
    simp only [hmode] at hraised hexec' ⊢
    obtain ⟨hblocked, hbusy, hcampaign⟩ := hexec'
    split
    · rw [if_pos ‹_›] at hraised
      exact absurd rfl hraised
    · rw [if_neg ‹_›] at hraised
      unfold executePaper at hraised ⊢
      simp only [authorizeExecutionOwnership, hbusy, hblocked, Bool.false_eq_true,
        if_false] at hraised ⊢
      split
      · rw [if_pos ‹_›] at hraised
        exact absurd rfl hraised
      · rw [if_neg ‹_›] at hraised
        exact leaves_fillPaper cfg hmode hengine hcampaign hraised
  | livePrecheck =>
    simp only [hmode] at hraised hexec' ⊢
    split
    · rw [if_pos ‹_›] at hraised
      exact absurd rfl hraised
    · rw [if_neg ‹_›] at hraised
      unfold precheck at hraised ⊢
      simp only [hengine, Bool.not_true, Bool.false_eq_true, if_false] at hraised ⊢
      cases hw : v.answers.precheckWrite with
      | committed =>
        refine Owned.mono ?_ (extends_persistAccepted cfg v.answers _ _ _).database
        rw [hsetup hmode]
        exact ⟨_, List.mem_append_right _ (List.mem_singleton_self _), rfl⟩
      | busyExhausted => exact absurd hw hexec'
      | raised =>
        rw [hw] at hraised
        exact absurd rfl hraised
  | backtest => exact absurd hexec (by unfold ExecutionRecorded; rw [hmode]; exact id)
  | live => exact absurd hexec (by unfold ExecutionRecorded; rw [hmode]; exact id)

/-! ## 3. The stages under the condition -/

section Stages

variable {cfg : ScanConfig} {s₀ s : ScanState} {v : Visit} {setupIdentity : Option String}

/-- What a stage may use: the condition on the visit and the state it met, of which only the memos
    have changed since, and of these the accepted setups and the duplicate keys are backed. -/
structure Midway (cfg : ScanConfig) (s₀ : ScanState) (v : Visit) (s : ScanState) : Prop where
  covered : Covered cfg s₀ v
  stake : atStake cfg v = true
  base : SameBase s₀ s
  accepted : ∀ i ∈ s.acceptedSetups, Decided s.database i
  keys : ∀ k ∈ s.duplicateKeys, Decided s.database k.setupIdentity

theorem asksBrain_of_admits (h : admits cfg v = true) : asksBrain cfg v = true := by
  rw [admits, Bool.and_eq_true, Bool.and_eq_true] at h
  exact h.1.1

theorem reachesScore_of_admits (h : admits cfg v = true) : reachesScore cfg v = true := by
  have := asksBrain_of_admits h
  rw [asksBrain, Bool.and_eq_true, Bool.and_eq_true] at this
  exact this.1.1

theorem reachesRisk_of_admits (h : admits cfg v = true) : reachesRisk cfg v = true := by
  have := reachesScore_of_admits h
  rw [reachesScore, Bool.and_eq_true] at this
  exact this.1

theorem passesAlignment_of_admits (h : admits cfg v = true) : passesAlignment cfg v = true := by
  have := reachesRisk_of_admits h
  rw [reachesRisk, Bool.and_eq_true] at this
  exact this.1

/-- A reject of the visit's own setup and signal, where the gates do not admit. -/
theorem Midway.leaves_reject (h : Midway cfg s₀ v s) (hadmits : admits cfg v ≠ true) {r : Reject}
    (hsetup : r.setupIdentity = setupIdentity)
    (hsignal : setupIdentity = none → r.signalId = v.selection.signalId) :
    Leaves v.selection.signalId setupIdentity (rejectWith cfg v.answers s r) :=
  leaves_rejectWith cfg h.covered.engine
    (h.covered.reject h.stake (Bool.eq_false_iff.mpr hadmits)) hsetup hsignal

theorem Midway.leaves_scoreStage (h : Midway cfg s₀ v s) (hreach : reachesScore cfg v = true)
    (hsetup : cfg.executionMode = .livePrecheck → setupIdentity = none)
    (episode : Option String) :
    Leaves v.selection.signalId setupIdentity (scoreStage cfg s v setupIdentity episode) := by
  intro hraised
  unfold scoreStage at hraised ⊢
  simp only at hraised ⊢
  split
  · rw [if_pos ‹_›] at hraised
    exact absurd rfl hraised
  rw [if_neg ‹_›] at hraised
  split
  · rename_i hkill
    rw [if_pos hkill] at hraised
    refine h.leaves_reject (fun hadmits => ?_) rfl (fun _ => rfl) hraised
    have := asksBrain_of_admits hadmits
    simp [asksBrain, hkill] at this
  rename_i hkill
  rw [if_neg hkill] at hraised
  cases hgate : v.gates.risk.or v.gates.preAiExecution with
  | some reason =>
    rw [hgate] at hraised
    refine h.leaves_reject (fun hadmits => ?_) rfl (fun _ => rfl) hraised
    have := asksBrain_of_admits hadmits
    simp [asksBrain, hgate] at this
  | none =>
    have hasks : asksBrain cfg v = true := by simp [asksBrain, hreach, hkill, hgate]
    have hbrain := h.covered.brain h.stake hasks
    rw [hgate] at hraised
    simp only [hbrain, Bool.false_eq_true, if_false] at hraised ⊢
    cases hlate : v.gates.late with
    | some reason =>
      rw [hlate] at hraised
      refine h.leaves_reject (fun hadmits => ?_) rfl (fun _ => rfl) hraised
      simp [admits, hlate] at hadmits
    | none =>
      rw [hlate] at hraised
      have hadmits : admits cfg v = true := by simp [admits, hasks, hbrain, hlate]
      have hexec := executionRecorded_congr cfg h.base v (h.covered.execution h.stake hadmits)
      exact leaves_accept cfg h.covered.engine hexec hsetup hraised

theorem Midway.duplicate (h : Midway cfg s₀ v s) (i e : String) :
    Midway cfg s₀ v (duplicatePositionRejectRecorded cfg v.answers s i e).2 := by
  have hkept := kept_duplicatePositionRejectRecorded cfg v.answers s i e none
  have hbase := sameBase_duplicatePositionRejectRecorded cfg v.answers s i e
  refine ⟨h.covered, h.stake, h.base.trans hbase, fun j hj => ?_, fun k hk => ?_⟩
  · rcases hkept.memory .accepted j hj with hj | hj
    · exact (h.accepted j hj).mono hkept.database
    · exact nomatch hj
  · rcases hkept.keys k hk with hk | hk
    · exact (h.keys k hk).mono hkept.database
    · exact hk

theorem Midway.leaves_riskStage (h : Midway cfg s₀ v s) (hreach : reachesRisk cfg v = true)
    (hsetup : cfg.executionMode = .livePrecheck → setupIdentity = none) :
    Leaves v.selection.signalId setupIdentity (riskStage cfg s v setupIdentity) := by
  unfold riskStage
  simp only
  cases hstop : v.gates.guidedStop with
  | some reason =>
    refine h.leaves_reject (fun hadmits => ?_) rfl fun _ => rfl
    have := reachesScore_of_admits hadmits
    simp [reachesScore, hstop] at this
  | none =>
    have hscore : reachesScore cfg v = true := by simp [reachesScore, hreach, hstop]
    simp only
    split
    · rename_i i e _
      split
      · intro hraised
        split
        · rename_i hknown
          rw [Bool.and_eq_true] at hknown
          exact duplicatePositionRejectRecorded_hit cfg h.keys hknown.1
        · rw [if_neg ‹_›] at hraised
          exact (h.duplicate i e).leaves_scoreStage hscore hsetup _ hraised
      · exact h.leaves_scoreStage hscore hsetup none
    · exact h.leaves_scoreStage hscore hsetup none

/-- The geometry gate, where it does not end in a diagnostic. -/
theorem Midway.leaves_geometryStage (h : Midway cfg s₀ v s) (hpass : passesAlignment cfg v = true)
    (hsetup : cfg.executionMode = .livePrecheck → setupIdentity = none) {complete : Bool}
    (hcomplete : v.geometryComplete cfg = complete)
    (hnamed : ¬ (geometryRequired cfg v.selection && !complete && v.selection.candle.anonymous)) :
    Leaves v.selection.signalId setupIdentity (geometryStage cfg s v setupIdentity complete) := by
  unfold geometryStage
  split
  · rename_i hgeometry
    rw [if_neg fun hanonymous => hnamed (by rw [hgeometry, hanonymous]; rfl)]
    refine leaves_createAndReject cfg (h.leaves_reject (fun hadmits => ?_) rfl fun _ => rfl)
    have := reachesRisk_of_admits hadmits
    simp [reachesRisk, hcomplete] at this hgeometry
    simp_all
  · rename_i hgeometry
    refine h.leaves_riskStage ?_ hsetup
    simp only [reachesRisk, hpass, hcomplete, Bool.true_and]
    cases hg : geometryRequired cfg v.selection <;> cases complete <;> simp_all

/-- The outcome owns its row, or the visit ended in the diagnostic of an anonymous candle and no
    memo changed. -/
def Filed (cfg : ScanConfig) (s : ScanState) (v : Visit) (setupIdentity : Option String)
    (complete : Bool) (out : Outcome) : Prop :=
  out.ending ≠ .raised → Owned out.state.database v.selection.signalId setupIdentity ∨
    (out.ending = .diagnosed ∧
      (geometryRequired cfg v.selection && !complete && v.selection.candle.anonymous) = true ∧
      ∀ d, out.state.memory d = s.memory d)

theorem Leaves.filed {out : Outcome} {complete : Bool}
    (h : Leaves v.selection.signalId setupIdentity out) :
    Filed cfg s v setupIdentity complete out :=
  fun hraised => .inl (h hraised)

theorem filed_diagnose {complete : Bool} {reason : String}
    (h : (geometryRequired cfg v.selection && !complete && v.selection.candle.anonymous) = true) :
    Filed cfg s v setupIdentity complete
      (diagnose cfg v.answers s v.selection reason) := by
  have hext := extends_diagnose cfg v.answers s v.selection reason
  refine fun hraised => .inr ⟨?_, h, hext.memory⟩
  unfold diagnose at hraised ⊢
  split
  · rename_i hnone
    rw [hnone] at hraised
    exact absurd rfl hraised
  · rfl

theorem Midway.filed_geometryStage (h : Midway cfg s₀ v s) (hpass : passesAlignment cfg v = true)
    (hsetup : cfg.executionMode = .livePrecheck → setupIdentity = none) {complete : Bool}
    (hcomplete : v.geometryComplete cfg = complete) :
    Filed cfg s v setupIdentity complete (geometryStage cfg s v setupIdentity complete) := by
  by_cases hdiag :
      (geometryRequired cfg v.selection && !complete && v.selection.candle.anonymous) = true
  · have hparts := hdiag
    rw [Bool.and_eq_true] at hparts
    rw [geometryStage, if_pos hparts.1, if_pos hparts.2]
    exact filed_diagnose hdiag
  · exact (h.leaves_geometryStage hpass hsetup hcomplete hdiag).filed

theorem mode_of_aligning (h : cfg.aligning = true) : cfg.executionMode = .paper := by
  rw [ScanConfig.aligning, Bool.and_eq_true] at h
  exact of_decide_eq_true h.1

theorem acceptedSetupRecorded_miss {a : Answers}
    (h : (acceptedSetupRecorded cfg a s setupIdentity).1 = false) :
    (acceptedSetupRecorded cfg a s setupIdentity).2 = s := by
  cases setupIdentity with
  | none => rfl
  | some i => exact setupDecisionRecorded_miss cfg h

theorem Midway.filed_alignedStage (h : Midway cfg s₀ v s) (haligning : cfg.aligning = true)
    (hgate : (v.gates.aligned || shadowed cfg v) = true) {complete : Bool}
    (hcomplete : v.geometryComplete cfg = complete) :
    Filed cfg s v v.gates.setupIdentity complete (alignedStage cfg s v complete) := by
  have hsetup : cfg.executionMode = .livePrecheck → v.gates.setupIdentity = none := fun hmode =>
    nomatch (mode_of_aligning haligning).symm.trans hmode
  unfold alignedStage
  simp only
  split
  · rename_i hknown
    refine fun _ => .inl ?_
    cases hid : v.gates.setupIdentity with
    | none =>
      rw [hid] at hknown
      exact nomatch hknown
    | some i =>
      rw [hid] at hknown
      exact setupDecisionRecorded_hit cfg h.accepted hknown
  · rename_i hknown
    rw [acceptedSetupRecorded_miss (Bool.eq_false_iff.mpr hknown)]
    cases hdirection : v.gates.stateDirectionGeometry with
    | some reason =>
      refine (leaves_createAndReject cfg (h.leaves_reject (fun hadmits => ?_) rfl
        fun _ => rfl)).filed
      have := passesAlignment_of_admits hadmits
      simp [passesAlignment, haligning, hdirection] at this
    | none =>
      refine h.filed_geometryStage ?_ hsetup hcomplete
      rw [passesAlignment, hgate, hdirection, Option.isNone_none, Bool.and_true, Bool.or_true]

theorem Midway.filed_enforceMisalignment (h : Midway cfg s₀ v s) (haligning : cfg.aligning = true)
    (haligned : v.gates.aligned = false) (canonical : Bool) :
    Filed cfg s v v.gates.setupIdentity v.gates.legacyGeometry
      (enforceMisalignment cfg s v canonical) := by
  unfold enforceMisalignment
  split
  · rename_i hshadow
    refine h.filed_alignedStage haligning (by rw [hshadow, Bool.or_true]) ?_
    rw [Visit.geometryComplete, haligned, Bool.and_false]
    rfl
  · rename_i hshadow
    have hadmits : admits cfg v ≠ true := fun hadmits => by
      have := passesAlignment_of_admits hadmits
      simp [passesAlignment, haligning, haligned, hshadow] at this
    refine (leaves_createAndReject cfg (h.leaves_reject hadmits ?_ ?_)).filed
    · unfold misalignedReject
      simp only
      split
      · split <;> rfl
      · rfl
    · intro hnone
      unfold misalignedReject
      rw [hnone]
      rfl

/-- The memo of a canonical setup reject, written before its row. -/
theorem Midway.rememberRejected (h : Midway cfg s₀ v s) (i : String) :
    Midway cfg s₀ v (s.remember i .rejected) :=
  ⟨h.covered, h.stake, h.base.trans (sameBase_remember s i .rejected), h.accepted, h.keys⟩

theorem Midway.filed_misalignedStage (h : Midway cfg s₀ v s) (haligning : cfg.aligning = true)
    (haligned : v.gates.aligned = false)
    (hrejected : ∀ i ∈ s.rejectedSetups, Decided s.database i) :
    Filed cfg s v v.gates.setupIdentity v.gates.legacyGeometry (misalignedStage cfg s v) := by
  unfold misalignedStage
  split
  · exact filed_diagnose ‹_›
  · rename_i hnamed
    split
    · rename_i i hid
      split
      · simp only
        split
        · rename_i hknown
          have hmemo : ∀ j ∈ s.memory .rejected, Decided s.database j := hrejected
          refine fun _ => .inl ?_
          rw [hid]
          exact setupDecisionRecorded_hit cfg hmemo hknown
        · rename_i hknown
          rw [setupDecisionRecorded_miss cfg (Bool.eq_false_iff.mpr hknown)]
          intro hraised
          have hfiled := (h.rememberRejected i).filed_enforceMisalignment haligning haligned true
          -- an anonymous candle without geometry has left above, before the memo was written
          exact .inl ((hfiled hraised).resolve_right fun hdiag => hnamed hdiag.2.1)
      · exact h.filed_enforceMisalignment haligning haligned false
    · exact h.filed_enforceMisalignment haligning haligned false

theorem filed_decideSymbol (h : Midway cfg s₀ v s)
    (hrejected : ∀ i ∈ s.rejectedSetups, Decided s.database i) :
    ∃ complete, Filed cfg s v (v.setupIdentity cfg) complete (decideSymbol cfg s v) := by
  unfold decideSymbol Visit.setupIdentity
  split
  · rename_i hmode
    have haligning : cfg.aligning = true := by simp [ScanConfig.aligning, hmode]
    split
    · rename_i haligned
      exact ⟨_, h.filed_alignedStage haligning (by rw [haligned, Bool.true_or])
        (by rw [Visit.geometryComplete, haligning, haligned]; rfl)⟩
    · rename_i haligned
      exact ⟨_, h.filed_misalignedStage haligning (Bool.eq_false_iff.mpr haligned) hrejected⟩
  · rename_i hmode
    have haligning : cfg.aligning = false := by
      rw [Bool.eq_false_iff, ScanConfig.aligning, Ne, Bool.and_eq_true, decide_eq_true_eq]
      exact hmode
    refine ⟨_, h.filed_geometryStage ?_ (fun _ => rfl) ?_⟩
    · rw [passesAlignment, haligning]
      rfl
    · rw [Visit.geometryComplete, haligning]
      rfl

end Stages

/-! ## 4. Runs -/

section Runs

variable {cfg : ScanConfig} {w : World} {v : Visit}

/-- Every note is kept, and while the process lives its memos are backed. -/
structure Sound (w : World) : Prop where
  notes : ∀ n ∈ w.notes, n.Durable w.state.database
  memory : w.halted = false → ∀ d, ∀ i ∈ w.state.memory d, Decided w.state.database i
  keys : ∀ k ∈ w.state.duplicateKeys, Decided w.state.database k.setupIdentity

theorem Note.Durable.mono {database database' : List Row} {n : Note} (h : n.Durable database)
    (hsub : database ⊆ database') : n.Durable database' := by
  cases n with
  | finalized signalId =>
    obtain ⟨r, hr, hi⟩ := h
    exact ⟨r, hsub hr, hi⟩
  | skipped i => exact Decided.mono h hsub
  | marked market openTs signalId setupIdentity =>
    obtain ⟨r, hr, hi⟩ := h
    exact ⟨r, hsub hr, hi⟩

/-- A final decision that the lookup reports is in the database. -/
theorem canonicalFinalDecisionRecorded_row {a : Answers} {s : ScanState} {signalId : String}
    (h : canonicalFinalDecisionRecorded cfg a s signalId = some true) :
    ∃ r ∈ s.database, r.signalId = some signalId := by
  have hfound : ∀ p : Row → Bool, (∀ r, p r = true → r.signalId = some signalId) →
      s.database.any p = true → ∃ r ∈ s.database, r.signalId = some signalId := by
    intro p hp hany
    obtain ⟨r, hr, hrow⟩ := List.any_eq_true.mp hany
    exact ⟨r, hr, hp r hrow⟩
  unfold canonicalFinalDecisionRecorded at h
  split at h
  · exact nomatch h
  split at h
  · exact nomatch h
  split at h
  · exact nomatch h
  split at h
  · split at h
    · exact nomatch h
    · refine hfound _ (fun r hrow => ?_) (Option.some.inj h)
      cases r <;> simp only [finalRow, decide_eq_true_eq, Bool.false_eq_true] at hrow
      rw [Row.signalId, hrow.1]
  split at h
  · refine hfound _ (fun r hrow => ?_) ‹_›
    cases r <;> simp only [canonicalRejectRow, decide_eq_true_eq, Bool.false_eq_true] at hrow
    rw [Row.signalId, hrow.1]
  split at h
  · refine hfound _ (fun r hrow => ?_) ‹_›
    cases r <;> simp only [evidenceRow, decide_eq_true_eq, Bool.false_eq_true] at hrow
    rw [Row.signalId, hrow.2.1]
  split at h
  · exact nomatch h
  · refine hfound _ (fun r hrow => ?_) (Option.some.inj h)
    cases r <;> simp only [positionRow, decide_eq_true_eq, Bool.false_eq_true] at hrow
    rw [Row.signalId, hrow.2.2]

/-- Only a decided setup is skipped. -/
theorem skips_durable {out : Outcome}
    (h : Owned out.state.database v.selection.signalId (v.setupIdentity cfg)) :
    ∀ n ∈ skipNotes cfg v out.ending, n.Durable out.state.database := by
  have hsetup : ∀ n ∈ (v.setupIdentity cfg).toList.map Note.skipped,
      n.Durable out.state.database := by
    cases hid : v.setupIdentity cfg with
    | none => exact fun n hn => nomatch hn
    | some i =>
      intro n hn
      rw [hid] at h
      rw [Option.toList_some, List.map_singleton, List.mem_singleton] at hn
      rw [hn]
      exact h
  intro n hn
  cases hending : out.ending with
  | setupSkipped | duplicateSkipped =>
    rw [hending] at hn
    exact hsetup n hn
  | diagnosed | rejected | errored | notExecuted | accepted | raised =>
    rw [hending] at hn
    exact nomatch hn

/-- A visit returns: its skips and its mark are durable, and its state is backed. -/
theorem returned_sound (h : Sound w) {s : ScanState} {skips : List Note}
    (hkept : w.state.database ⊆ s.database)
    (hmemory : ∀ d, ∀ i ∈ s.memory d, Decided s.database i)
    (hkeys : ∀ k ∈ s.duplicateKeys, Decided s.database k.setupIdentity)
    (hskips : ∀ n ∈ skips, n.Durable s.database)
    (hmark : v.selection.candle.anonymous = false →
      Recorded s.database v.selection.signalId (v.setupIdentity cfg)) :
    Sound (returned cfg w v s skips) := by
  have hnotes : ∀ n ∈ w.notes ++ skips, n.Durable s.database := by
    intro n hn
    rcases List.mem_append.mp hn with hn | hn
    · exact (h.notes n hn).mono hkept
    · exact hskips n hn
  unfold returned
  split
  · rename_i market openTs hcandle
    refine ⟨fun n hn => ?_, fun _ => hmemory, hkeys⟩
    rcases List.mem_append.mp hn with hn | hn
    · exact hnotes n hn
    · rw [List.mem_singleton.mp hn]
      exact hmark (by rw [hcandle]; rfl)
  · exact ⟨hnotes, fun _ => hmemory, hkeys⟩

/-- Where nothing is at stake there is no setup, and the candle is not marked. -/
theorem not_atStake (h : atStake cfg v = false) :
    v.selection.candle.anonymous = true ∧ v.setupIdentity cfg = none := by
  rw [atStake, Bool.or_eq_false_iff, Bool.not_eq_false', Option.isSome_eq_false_iff,
    Option.isNone_iff_eq_none] at h
  exact h

theorem decided_sound (h : Sound w) (hlive : w.halted = false) (hc : Covered cfg w.state v)
    {out : Outcome} (hout : processSymbol cfg w.state v = .decided out)
    (hraised : out.ending ≠ .raised) :
    Sound (returned cfg w v out.state (skipNotes cfg v out.ending)) := by
  have hkept := processSymbol_kept cfg hout
  have hkeys : ∀ k ∈ out.state.duplicateKeys, Decided out.state.database k.setupIdentity := by
    intro k hk
    rcases hkept.keys k hk with hk | hk
    · exact (h.keys k hk).mono hkept.database
    · exact hk
  have hold : ∀ d, ∀ i ∈ w.state.memory d, Decided out.state.database i := fun d i hi =>
    (h.memory hlive d i hi).mono hkept.database
  cases hstake : atStake cfg v with
  | false =>
    obtain ⟨hanonymous, hid⟩ := not_atStake hstake
    refine returned_sound h hkept.database (fun d i hi => ?_) hkeys ?_ fun hnamed => ?_
    · rcases hkept.memory d i hi with hi | hi
      · exact hold d i hi
      · rw [hid] at hi
        exact nomatch hi
    · intro n hn
      unfold skipNotes at hn
      rw [hid] at hn
      split at hn <;> exact nomatch hn
    · rw [hanonymous] at hnamed
      exact nomatch hnamed
  | true =>
    have hmid : Midway cfg w.state v w.state :=
      ⟨hc, hstake, .refl _, h.memory hlive .accepted, h.keys⟩
    obtain ⟨complete, hfiled⟩ := filed_decideSymbol hmid (h.memory hlive .rejected)
    have hstage : out = decideSymbol cfg w.state v := by
      unfold processSymbol at hout
      split at hout
      · exact nomatch hout
      · exact nomatch hout
      · rw [← Result.decided.inj hout] at hraised ⊢
        split
        · rw [if_pos ‹_›] at hraised
          exact absurd rfl hraised
        · rfl
    rw [← hstage] at hfiled
    rcases hfiled hraised with howned | ⟨hending, hdiag, hmemory⟩
    · refine returned_sound h hkept.database (fun d i hi => ?_) hkeys (skips_durable howned)
        fun _ => howned.recorded
      rcases hkept.memory d i hi with hi | hi
      · exact hold d i hi
      · rw [hi] at howned
        exact howned
    · rw [Bool.and_eq_true] at hdiag
      refine returned_sound h hkept.database (fun d i hi => ?_) hkeys ?_ fun hnamed => ?_
      · rw [hmemory d] at hi
        exact hold d i hi
      · rw [hending]
        exact fun n hn => nomatch hn
      · rw [hdiag.2] at hnamed
        exact nomatch hnamed

theorem visit_sound (h : Sound w) (hlive : w.halted = false) (hc : Covered cfg w.state v) :
    Sound (visit cfg w v) := by
  have hsub := List.Subset.refl w.state.database
  unfold visit
  cases hout : processSymbol cfg w.state v with
  | lookupFailed =>
    refine returned_sound h hsub (h.memory hlive) h.keys (fun n hn => nomatch hn) fun hnamed => ?_
    unfold processSymbol at hout
    split at hout
    · rename_i hlookup
      unfold canonicalFinalDecisionRecorded at hlookup
      split at hlookup
      · exact nomatch hlookup
      rename_i hmode
      have hmode : cfg.executionMode = .paper := not_not.mp hmode
      obtain ⟨hanswers, hrun⟩ := hc.lookup hnamed hmode
      simp only [hc.engine, hanswers, Bool.not_true, Bool.false_eq_true, if_false] at hlookup
      cases hid : w.state.burninRunId with
      | none =>
        rw [hid] at hrun
        rw [hid, hrun.resolve_left Bool.false_ne_true] at hlookup
        exact nomatch hlookup
      | some run =>
        rw [hid] at hlookup
        simp only at hlookup
        split at hlookup
        · exact nomatch hlookup
        split at hlookup
        · exact nomatch hlookup
        split at hlookup <;> exact nomatch hlookup
    · exact nomatch hout
    · exact nomatch hout
  | finalized =>
    have hrow : ∃ r ∈ w.state.database, r.signalId = some v.selection.signalId := by
      unfold processSymbol at hout
      split at hout
      · exact nomatch hout
      · exact canonicalFinalDecisionRecorded_row ‹_›
      · exact nomatch hout
    refine returned_sound h hsub (h.memory hlive) h.keys (fun n hn => ?_) fun _ => ?_
    · rw [List.mem_singleton.mp hn]
      exact hrow
    · obtain ⟨r, hr, hi⟩ := hrow
      exact ⟨r, hr, .inl hi⟩
  | decided out =>
    simp only
    split
    · have hkept := processSymbol_kept cfg hout
      refine ⟨fun n hn => (h.notes n hn).mono hkept.database, (fun hhalted => nomatch hhalted),
        fun k hk => ?_⟩
      rcases hkept.keys k hk with hk | hk
      · exact (h.keys k hk).mono hkept.database
      · exact hk
    · exact decided_sound h hlive hc hout ‹_›

theorem scanSymbol_sound (h : Sound w) (hc : Covered cfg w.state v) :
    Sound (scanSymbol cfg w v) := by
  unfold scanSymbol
  split
  · exact h
  · rename_i hlive
    have hlive : w.halted = false := Bool.eq_false_iff.mpr hlive
    split
    · exact ⟨h.notes, (fun hhalted => nomatch hhalted), h.keys⟩
    · split
      · exact h
      · exact visit_sound h hlive hc
      · split
        · exact h
        · exact visit_sound h hlive hc

theorem next_sound (h : Sound w) (e : Event) (hc : CoveredEvent cfg w e) :
    Sound (next cfg w e) := by
  cases e with
  | scan visits => exact run_preserves (fun _ _ hw hv => scanSymbol_sound hw hv) visits w h hc
  | others recovery reason rows =>
    have hsub := List.subset_append_left w.state.database rows
    exact ⟨fun n hn => (h.notes n hn).mono hsub,
      fun hlive d i hi => (h.memory hlive d i (by cases d <;> exact hi)).mono hsub,
      fun k hk => (h.keys k hk).mono hsub⟩
  | restart run recovery reason =>
    exact ⟨h.notes, fun _ d i hi => (by cases d <;> exact nomatch hi), fun k hk => nomatch hk⟩

/-- **Over every run of scans, restarts and other writers whose visits meet the condition, the
    database holds a final decision behind every skip and every mark of the run.** -/
theorem skips_and_marks_durable (cfg : ScanConfig) (run : Option String) (recovery : Bool)
    (reason : Option String) (database : List Row) (events : List Event)
    (hc : Along (next cfg) (CoveredEvent cfg) (.start run recovery reason database) events) :
    ∀ n ∈ (runEvents (next cfg) (.start run recovery reason database) events).notes,
      n.Durable (runEvents (next cfg) (.start run recovery reason database)
        events).state.database := by
  have hstart : Sound (.start run recovery reason database) :=
    ⟨fun n hn => (nomatch hn), fun _ d i hi => (by cases d <;> exact nomatch hi),
      fun k hk => nomatch hk⟩
  have hstep : ∀ w e, Sound w → CoveredEvent cfg w e → Sound (next cfg w e) := fun _ e hw he =>
    next_sound hw e he
  exact (run_preserves hstep events _ hstart hc).notes

end Runs

/-! ## 5. One run that keeps its evidence and one that loses it -/

/-- A campaign-less PAPER runtime with its database. -/
def paperConfig : ScanConfig where
  executionMode := .paper
  requireMtfAlignment := true
  shadowConfirmation := false
  enricher := false
  engine := true
  rejectCallback := true
  campaignId := none

/-- A setup opportunity whose phase is `NO_SETUP`. -/
def noSetupGates : Gates where
  setupIdentity := some "setup:BTCUSDT:15m:900000"
  setupPhase := .noSetup
  aligned := false
  alignmentReasons := ["MTF_NO_VALID_SETUP"]
  legacyGeometry := true
  guidedGeometry := none
  geometryReason := "GEOMETRY_INCOMPLETE"
  stateDirectionGeometry := none
  guidedStop := none
  risk := none
  activePositionEpisodeId := none
  killSwitchBefore := false
  preAiExecution := none
  brainRaises := false
  killSwitchAfter := false
  score := none
  quality := none
  executionSafety := none
  sizing := none
  allocation := none
  portfolio := none

/-- Every lookup answers; the reject's transaction ends as given. -/
def answering (rejectWrite : Write) : Answers where
  raises := fun _ => false
  finalLookup := true
  rejectedLookup := true
  acceptedLookup := true
  duplicateLookup := true
  campaignRuns := []
  startedRun := none
  rejectWrite := rejectWrite
  diagnosticWrite := .committed
  precheckWrite := .committed
  positionWrite := .committed
  acceptedWrite := true
  ownershipBusy := false
  otherwiseBlocked := false

/-- A visit of the setup at an execution candle. -/
def noSetupVisit (openTs : ℕ) (signalId : String) (rejectWrite : Write) : Visit where
  selection := ⟨"BTCUSDT", "binance", "1m", .at ⟨"BTCUSDT", "binance", "1m"⟩ openTs, signalId⟩
  gates := noSetupGates
  answers := answering rejectWrite

/-- Two scans of one setup; the reject of the first ends as given. -/
def twoScans (rejectWrite : Write) : List Event :=
  [.scan [noSetupVisit 900000 "runtime:a" rejectWrite],
   .scan [noSetupVisit 960000 "runtime:b" .committed]]

/-- With the reject committed, both candles and the skip of the second scan have their row. -/
theorem skips_and_marks_durable_two_scans :
    (runEvents (next paperConfig) (.start (some "run") false none [])
        (twoScans .committed)).notes.length = 3 ∧
      ∀ n ∈ (runEvents (next paperConfig) (.start (some "run") false none [])
          (twoScans .committed)).notes,
        n.Durable (runEvents (next paperConfig) (.start (some "run") false none [])
          (twoScans .committed)).state.database := by
  refine ⟨by decide +kernel, skips_and_marks_durable paperConfig (some "run") false none []
    (twoScans .committed) ?_⟩
  refine ⟨⟨?_, trivial⟩, ⟨?_, trivial⟩, trivial⟩
  · exact ⟨rfl, fun _ _ => ⟨rfl, .inl rfl⟩, fun _ _ => by decide, fun _ _ => rfl,
      fun _ hadmits => absurd hadmits (by decide +kernel)⟩
  · exact ⟨rfl, fun _ _ => ⟨rfl, .inl (by decide +kernel)⟩, fun _ _ => by decide, fun _ _ => rfl,
      fun _ hadmits => absurd hadmits (by decide +kernel)⟩

/-- With its retries exhausted, the same run marks both candles, skips the setup as decided and
    leaves the database empty. -/
theorem two_scans_lost :
    (runEvents (next paperConfig) (.start (some "run") false none [])
    (twoScans .busyExhausted)).notes =
        [.marked ⟨"BTCUSDT", "binance", "1m"⟩ 900000 "runtime:a" (some "setup:BTCUSDT:15m:900000"),
         .skipped "setup:BTCUSDT:15m:900000",
         .marked ⟨"BTCUSDT", "binance", "1m"⟩ 960000 "runtime:b"
           (some "setup:BTCUSDT:15m:900000")] ∧
      ¬ ∀ n ∈ (runEvents (next paperConfig) (.start (some "run") false none [])
          (twoScans .busyExhausted)).notes,
        n.Durable (runEvents (next paperConfig) (.start (some "run") false none [])
          (twoScans .busyExhausted)).state.database := by
  have hnotes : (runEvents (next paperConfig) (.start (some "run") false none [])
      (twoScans .busyExhausted)).notes =
        [.marked ⟨"BTCUSDT", "binance", "1m"⟩ 900000 "runtime:a" (some "setup:BTCUSDT:15m:900000"),
         .skipped "setup:BTCUSDT:15m:900000",
         .marked ⟨"BTCUSDT", "binance", "1m"⟩ 960000 "runtime:b"
          (some "setup:BTCUSDT:15m:900000")] := by decide +kernel
  have hempty : (runEvents (next paperConfig) (.start (some "run") false none [])
      (twoScans .busyExhausted)).state.database = [] := by decide +kernel
  refine ⟨hnotes, fun hall => ?_⟩
  have hskip := hall (.skipped "setup:BTCUSDT:15m:900000") (by rw [hnotes]; decide)
  rw [hempty] at hskip
  obtain ⟨r, hr, -⟩ := hskip
  exact nomatch hr

end AlphaForge.Runtime.Scan
