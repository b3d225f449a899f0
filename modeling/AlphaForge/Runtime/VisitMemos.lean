/-
  File:      AlphaForge/Runtime/VisitMemos.lean
  Subject:   What one visit of `_process_symbol` does to the memos and to the rows already there.

  * `Extends` -- a write: the database grows, the memos stay.
  * `processSymbol_kept` -- a visit loses no row and enters nothing in the memos but its own setup
    and what the database holds.
-/
import AlphaForge.Runtime.ProcessSymbol

namespace AlphaForge.Runtime.Scan

/-- The database holds a final decision of the setup. -/
def Decided (database : List Row) (setupIdentity : String) : Prop :=
  ∃ r ∈ database, r.setupIdentity = some setupIdentity

variable (cfg : ScanConfig)

/-! ## 1. What a write leaves alone -/

/-- The database grows and the memos stay. -/
structure Extends (s s' : ScanState) : Prop where
  database : s.database ⊆ s'.database
  rejected : s'.rejectedSetups = s.rejectedSetups
  accepted : s'.acceptedSetups = s.acceptedSetups
  keys : s'.duplicateKeys = s.duplicateKeys

namespace Extends

theorem refl (s : ScanState) : Extends s s := ⟨List.Subset.refl _, rfl, rfl, rfl⟩

theorem trans {s s' s'' : ScanState} (h : Extends s s') (h' : Extends s' s'') : Extends s s'' :=
  ⟨List.Subset.trans h.database h'.database, h'.rejected.trans h.rejected,
    h'.accepted.trans h.accepted,
    h'.keys.trans h.keys⟩

theorem memory {s s' : ScanState} (h : Extends s s') (d : Decision) : s'.memory d = s.memory d := by
  cases d with
  | accepted => exact h.accepted
  | rejected => exact h.rejected

end Extends

theorem extends_append (s : ScanState) (rows : List Row) :
    Extends s { s with database := s.database ++ rows } :=
  ⟨List.subset_append_left _ _, rfl, rfl, rfl⟩

theorem extends_markRecoveryRequired (s : ScanState) (reason : String) :
    Extends s (s.markRecoveryRequired reason) := ⟨List.Subset.refl _, rfl, rfl, rfl⟩

theorem extends_startOrResumeBurninRun (a : Answers) (s : ScanState) :
    Extends s (startOrResumeBurninRun cfg a s) := by
  unfold startOrResumeBurninRun
  split
  · exact ⟨List.Subset.refl _, rfl, rfl, rfl⟩
  · exact .refl s

theorem extends_rejectRecovered (s : ScanState) : Extends s s.rejectRecovered := by
  unfold ScanState.rejectRecovered
  split
  · split <;> exact ⟨List.Subset.refl _, rfl, rfl, rfl⟩
  · exact .refl s

theorem rejectRecovered_database (s : ScanState) : s.rejectRecovered.database = s.database := by
  unfold ScanState.rejectRecovered
  split
  · split <;> rfl
  · rfl

theorem extends_persistReject {a : Answers} {s s' : ScanState} {r : Reject}
    (h : persistReject cfg a s r = some s') : Extends s s' := by
  have hrun := extends_startOrResumeBurninRun cfg a s
  unfold persistReject at h
  simp only at h
  split at h
  · rw [← Option.some.inj h]
    exact hrun
  · split at h
    · rw [← Option.some.inj h]
      exact hrun.trans ((extends_append _ _).trans (extends_rejectRecovered _))
    · rw [← Option.some.inj h]
      exact hrun.trans ⟨List.Subset.refl _, rfl, rfl, rfl⟩
    · exact nomatch h

theorem extends_persistGeometryDiagnostic {a : Answers} {s s' : ScanState} {sel : Selection}
    {reason : String} (h : persistGeometryDiagnostic cfg a s sel reason = some s') :
    Extends s s' := by
  have hrun := extends_startOrResumeBurninRun cfg a s
  unfold persistGeometryDiagnostic at h
  simp only at h
  split at h
  · rw [← Option.some.inj h]
    exact hrun
  · split at h
    · rw [← Option.some.inj h]
      exact hrun
    · split at h
      · rw [← Option.some.inj h]
        split
        · exact hrun
        · exact hrun.trans (extends_append _ _)
      · rw [← Option.some.inj h]
        exact hrun
      · exact nomatch h

theorem extends_persistAccepted (a : Answers) (s : ScanState) (signalId : String)
    (setupIdentity : Option String) :
    Extends s (persistAccepted cfg a s signalId setupIdentity) := by
  have hrun := extends_startOrResumeBurninRun cfg a s
  unfold persistAccepted
  simp only
  split
  · exact hrun
  · split
    · exact hrun.trans (extends_append _ _)
    · exact hrun.trans ⟨List.Subset.refl _, rfl, rfl, rfl⟩

theorem extends_rejectWith (a : Answers) (s : ScanState) (r : Reject) :
    Extends s (rejectWith cfg a s r).state := by
  unfold rejectWith
  split
  · exact .refl s
  · rename_i s' h
    split <;> exact extends_persistReject cfg h

theorem extends_createAndReject (a : Answers) (s : ScanState) (r : Reject) :
    Extends s (createAndReject cfg a s r).state := by
  unfold createAndReject
  split
  · exact .refl s
  · exact extends_rejectWith cfg a s r

theorem extends_diagnose (a : Answers) (s : ScanState) (sel : Selection) (reason : String) :
    Extends s (diagnose cfg a s sel reason).state := by
  unfold diagnose
  split
  · exact .refl s
  · rename_i s' h
    exact extends_persistGeometryDiagnostic cfg h

theorem extends_authorizeExecutionOwnership (a : Answers) (s : ScanState) :
    Extends s (authorizeExecutionOwnership a s) := by
  unfold authorizeExecutionOwnership
  split
  · exact extends_markRecoveryRequired s _
  · exact .refl s

theorem extends_openPosition (a : Answers) (s : ScanState) (v : Visit)
    (setupIdentity : Option String) : Extends s (openPosition cfg a s v setupIdentity).state := by
  unfold openPosition
  split
  · exact .refl s
  · exact extends_persistAccepted cfg a s _ _

theorem extends_fillPaper (a : Answers) (s : ScanState) (v : Visit)
    (setupIdentity : Option String) : Extends s (fillPaper cfg a s v setupIdentity).state := by
  unfold fillPaper
  split
  · exact extends_openPosition cfg a s v _
  · exact .refl s
  · split
    · exact .refl s
    · split
      · exact (extends_append s _).trans (extends_openPosition cfg a _ v _)
      · exact extends_markRecoveryRequired s _
      · exact .refl s

theorem extends_executePaper (a : Answers) (s : ScanState) (v : Visit)
    (setupIdentity : Option String) : Extends s (executePaper cfg a s v setupIdentity).state := by
  have hauth := extends_authorizeExecutionOwnership a s
  unfold executePaper
  simp only
  split
  · exact .refl s
  · split
    · split <;> exact hauth
    · exact hauth.trans (extends_fillPaper cfg a _ v _)

theorem extends_precheck (a : Answers) (s : ScanState) (v : Visit)
    (setupIdentity : Option String) : Extends s (precheck cfg a s v setupIdentity).state := by
  unfold precheck
  split
  · exact extends_markRecoveryRequired s _
  · split
    · exact (extends_append s _).trans (extends_persistAccepted cfg a _ _ _)
    · exact extends_markRecoveryRequired s _
    · exact .refl s

/-! ## 2. What a visit keeps -/

/-- No row is lost, and the memos gain only the setup of the visit and what the database holds. -/
structure Kept (setupIdentity : Option String) (s s' : ScanState) : Prop where
  database : s.database ⊆ s'.database
  memory : ∀ d, ∀ i ∈ s'.memory d, i ∈ s.memory d ∨ setupIdentity = some i
  keys : ∀ k ∈ s'.duplicateKeys, k ∈ s.duplicateKeys ∨ Decided s'.database k.setupIdentity

theorem Decided.mono {database database' : List Row} {i : String} (h : Decided database i)
    (hsub : database ⊆ database') : Decided database' i := by
  obtain ⟨r, hr, hi⟩ := h
  exact ⟨r, hsub hr, hi⟩

namespace Kept

variable {setupIdentity : Option String} {s s' s'' : ScanState}

theorem trans (h : Kept setupIdentity s s') (h' : Kept setupIdentity s' s'') :
    Kept setupIdentity s s'' where
  database := List.Subset.trans h.database h'.database
  memory := fun d i hi => by
    rcases h'.memory d i hi with hi | hi
    · exact h.memory d i hi
    · exact .inr hi
  keys := fun k hk => by
    rcases h'.keys k hk with hk | hk
    · exact (h.keys k hk).imp_right fun hd => hd.mono h'.database
    · exact .inr hk

theorem of_extends (h : Extends s s') : Kept setupIdentity s s' where
  database := h.database
  memory := fun d i hi => .inl (by rwa [h.memory d] at hi)
  keys := fun k hk => .inl (by rwa [h.keys] at hk)

theorem refl (s : ScanState) : Kept setupIdentity s s := .of_extends (.refl s)

end Kept

theorem kept_remember (s : ScanState) (i : String) (d : Decision) :
    Kept (some i) s (s.remember i d) where
  database := by cases d <;> exact List.Subset.refl _
  memory := fun d' j hj => by
    cases d <;> cases d' <;> simp only [ScanState.remember, ScanState.memory, List.mem_cons] at hj
    · exact hj.elim (fun e => .inr (by rw [e])) .inl
    · exact .inl hj
    · exact .inl hj
    · exact hj.elim (fun e => .inr (by rw [e])) .inl
  keys := fun k hk => .inl (by cases d <;> exact hk)

theorem kept_rememberAccepted (s : ScanState) (setupIdentity : Option String) :
    Kept setupIdentity s (rememberAccepted s setupIdentity) := by
  cases setupIdentity with
  | none => exact .refl s
  | some i => exact kept_remember s i .accepted

theorem kept_setupDecisionRecorded (lookup : Bool) (s : ScanState) (i : String) (d : Decision) :
    Kept (some i) s (setupDecisionRecorded cfg lookup s i d).2 := by
  unfold setupDecisionRecorded
  split
  · exact .refl s
  · split
    · exact .refl s
    · split
      · exact .refl s
      · split
        · exact kept_remember s i d
        · exact .refl s

/-- A row that a lookup of the setup finds decides the setup. -/
theorem decided_of_setupRow {database : List Row} {run i : String} {d : Decision}
    (h : database.any (setupRow run i d) = true) : Decided database i := by
  obtain ⟨r, hr, hrow⟩ := List.any_eq_true.mp h
  refine ⟨r, hr, ?_⟩
  cases r <;> simp only [setupRow, decide_eq_true_eq, Bool.false_eq_true] at hrow
  exact hrow.2.2

theorem decided_of_duplicateRow {database : List Row} {runs : List String} {i e : String}
    (h : database.any (duplicateRow runs i e) = true) : Decided database i := by
  obtain ⟨r, hr, hrow⟩ := List.any_eq_true.mp h
  refine ⟨r, hr, ?_⟩
  cases r <;> simp only [duplicateRow, decide_eq_true_eq, Bool.false_eq_true] at hrow
  exact hrow.2.2.2.1

theorem kept_duplicatePositionRejectRecorded (a : Answers) (s : ScanState) (i e : String)
    (setupIdentity : Option String) :
    Kept setupIdentity s (duplicatePositionRejectRecorded cfg a s i e).2 := by
  unfold duplicatePositionRejectRecorded
  simp only
  split
  · exact .refl s
  · split
    · exact .refl s
    · split
      · rename_i hrow
        refine ⟨List.Subset.refl _, fun d j hj => .inl (by cases d <;> exact hj), fun k hk => ?_⟩
        rcases List.mem_cons.mp hk with rfl | hk
        · exact .inr (decided_of_duplicateRow hrow)
        · exact .inl hk
      · exact .refl s

theorem kept_accept (s : ScanState) (v : Visit) (setupIdentity : Option String) :
    Kept setupIdentity s (accept cfg s v setupIdentity).state := by
  have hmemo := kept_rememberAccepted s setupIdentity
  unfold accept
  simp only
  split
  · split
    · exact hmemo
    · exact hmemo.trans (.of_extends (extends_executePaper cfg _ _ v _))
  · split
    · exact hmemo
    · exact hmemo.trans (.of_extends (extends_precheck cfg _ _ v _))
  · split <;> exact .refl s
  · split <;> exact .refl s

theorem kept_scoreStage (s : ScanState) (v : Visit) (setupIdentity episode : Option String) :
    Kept setupIdentity s (scoreStage cfg s v setupIdentity episode).state := by
  unfold scoreStage
  simp only
  split
  · exact .refl s
  · split
    · exact .of_extends (extends_rejectWith cfg _ s _)
    · split
      · exact .of_extends (extends_rejectWith cfg _ s _)
      · split
        · split <;> exact .refl s
        · split
          · exact .of_extends (extends_rejectWith cfg _ s _)
          · exact kept_accept cfg s v setupIdentity

theorem kept_riskStage (s : ScanState) (v : Visit) (setupIdentity : Option String) :
    Kept setupIdentity s (riskStage cfg s v setupIdentity).state := by
  unfold riskStage
  simp only
  split
  · exact .of_extends (extends_rejectWith cfg _ s _)
  · split
    · rename_i i e _
      have hknown := kept_duplicatePositionRejectRecorded cfg v.answers s i e (some i)
      split
      · split
        · exact hknown
        · exact hknown.trans (kept_scoreStage cfg _ v _ _)
      · exact kept_scoreStage cfg s v _ _
    · exact kept_scoreStage cfg s v _ _

theorem kept_geometryStage (s : ScanState) (v : Visit) (setupIdentity : Option String)
    (complete : Bool) : Kept setupIdentity s (geometryStage cfg s v setupIdentity
      complete).state := by
  unfold geometryStage
  split
  · split
    · exact .of_extends (extends_diagnose cfg _ s _ _)
    · exact .of_extends (extends_createAndReject cfg _ s _)
  · exact kept_riskStage cfg s v setupIdentity

theorem kept_acceptedSetupRecorded (a : Answers) (s : ScanState) (setupIdentity : Option String) :
    Kept setupIdentity s (acceptedSetupRecorded cfg a s setupIdentity).2 := by
  cases setupIdentity with
  | none => exact .refl s
  | some i => exact kept_setupDecisionRecorded cfg a.acceptedLookup s i .accepted

theorem kept_alignedStage (s : ScanState) (v : Visit) (complete : Bool) :
    Kept v.gates.setupIdentity s (alignedStage cfg s v complete).state := by
  have hknown := kept_acceptedSetupRecorded cfg v.answers s v.gates.setupIdentity
  unfold alignedStage
  simp only
  split
  · exact hknown
  · split
    · exact hknown.trans (.of_extends (extends_createAndReject cfg _ _ _))
    · exact hknown.trans (kept_geometryStage cfg _ v _ complete)

theorem kept_enforceMisalignment (s : ScanState) (v : Visit) (canonical : Bool) :
    Kept v.gates.setupIdentity s (enforceMisalignment cfg s v canonical).state := by
  unfold enforceMisalignment
  split
  · exact kept_alignedStage cfg s v _
  · exact .of_extends (extends_createAndReject cfg _ s _)

theorem kept_misalignedStage (s : ScanState) (v : Visit) :
    Kept v.gates.setupIdentity s (misalignedStage cfg s v).state := by
  unfold misalignedStage
  split
  · exact .of_extends (extends_diagnose cfg _ s _ _)
  · split
    · rename_i i hi
      split
      · have hknown := kept_setupDecisionRecorded cfg v.answers.rejectedLookup s i .rejected
        have hmemo := hknown.trans (kept_remember _ i .rejected)
        rw [← hi] at hknown hmemo
        simp only
        split
        · exact hknown
        · exact hmemo.trans (kept_enforceMisalignment cfg _ v true)
      · exact kept_enforceMisalignment cfg s v false
    · exact kept_enforceMisalignment cfg s v false

theorem kept_decideSymbol (s : ScanState) (v : Visit) :
    Kept (v.setupIdentity cfg) s (decideSymbol cfg s v).state := by
  unfold decideSymbol Visit.setupIdentity
  split
  · split
    · exact kept_alignedStage cfg s v _
    · exact kept_misalignedStage cfg s v
  · exact kept_geometryStage cfg s v none _

/-- A visit loses no row and enters nothing in the memos but its own setup and what the database
    holds. -/
theorem processSymbol_kept {s : ScanState} {v : Visit} {out : Outcome}
    (h : processSymbol cfg s v = .decided out) : Kept (v.setupIdentity cfg) s out.state := by
  unfold processSymbol at h
  split at h
  · exact nomatch h
  · exact nomatch h
  · rw [← Result.decided.inj h]
    split
    · exact .refl s
    · exact kept_decideSymbol cfg s v

end AlphaForge.Runtime.Scan
