/-
  File:      AlphaForge/Release/Readiness.lean
  Subject:   `release_gates.py`: the writers of release evidence, and what CANARY_READY says of the
             history of writes.

  * `Write`, `step` -- one call of a writer, passing or failing.
  * `Justified` -- the most recent canary validation, rollback verification and runbook
    verification passed with one commit, no mutation attempt is recorded, and the most recent
    acknowledgement names the release and is unexpired.
  * **`ready_justified`** -- CANARY_READY is justified in every state of a run whose writes are
    `Careful`.
  * `failed_validation_stays_ready` -- what the other writes do.
-/
import AlphaForge.Lib.Runs
import AlphaForge.Release.Gates

namespace AlphaForge.Release

open AlphaForge.Lib

/-! ## 1. The writers -/

/-- `checkout_identity()`. -/
structure CheckoutIdentity where
  status : String
  clean : Bool
  gitCommit : String

/-- A text, or None where it is empty. -/
def orNone (s : String) : Option String := if s = "" then none else some s

/-- `_release_evidence_git_commit`. -/
def releaseEvidenceGitCommit (gitCommit : Option String) (identity : CheckoutIdentity) :
    Option String :=
  match orNone (strip (gitCommit.getD "")) with
  | some explicit => some explicit
  | none =>
    if identity.status ≠ "PASS" ∨ identity.clean = false then none
    else orNone (strip identity.gitCommit)

/-- A text or None as a value. -/
def optionalText : Option String → Value Extended
  | some s => .text s
  | none => .none

def texts (l : List String) : Value Extended := .list (l.map .text)

/-- What the isolated mutation trap measured. -/
structure TrapMeasurement where
  actionResults : List (String × String)
  blockedActions : List String
  isolatedAttempts : Option ℕ
  isolatedBlocked : ℕ

/-- `passed` of `run_canary_mutation_trap_validation`. -/
def trapPassed (m : TrapMeasurement) (commit : Option String) : Bool :=
  commit.isSome && m.blockedActions = canaryValidationActions &&
    m.isolatedAttempts = some canaryValidationActions.length &&
    m.isolatedBlocked = canaryValidationActions.length

def trapEvidence (m : TrapMeasurement) (commit : Option String) : Payload Extended :=
  [("source", .text "DETERMINISTIC_MUTATION_TRAP_VALIDATION"),
    ("verification_contract", .text "PHASE6_CANARY_MUTATION_TRAP_V1"),
    ("git_commit", optionalText commit),
    ("validation_status", .text (if trapPassed m commit then "PASS" else "FAIL")),
    ("required_actions", texts canaryValidationActions),
    ("blocked_actions", texts m.blockedActions),
    ("action_results", .mapping (m.actionResults.map fun e => (e.1, .text e.2))),
    ("isolated_mutation_attempt_count",
      match m.isolatedAttempts with
      | some n => .int n
      | none => .none),
    ("isolated_mutation_blocked_count", .int m.isolatedBlocked),
    ("campaign_release_db_mutation_attempted", .bool false)]

def canaryValidationFailType : String := "CANARY_VALIDATION_FAIL"

/-- The event of `run_canary_mutation_trap_validation`. -/
def trapEvent (eventId eventTs : String) (scope : Scope) (m : TrapMeasurement)
    (commit : Option String) : CanaryEvent where
  eventId := eventId
  scope := scope
  eventType := if trapPassed m commit then canaryValidationEventType else canaryValidationFailType
  eventTs := eventTs
  shadowMode := true
  canaryMode := true
  mutationAttempted := false
  mutationBlocked := true
  evidence := trapEvidence m commit

/-- A file that may not be readable or decodable. -/
structure RunbookFile where
  fileName : String
  /-- The size and SHA-256 digest of the bytes. -/
  raw : Option (ℕ × String)
  content : Option String
  readError : Option String

/-- The row of `persist_runbook_evidence`. -/
def runbookRow (evidenceId recordedAt : String) (scope : Scope) (file : RunbookFile)
    (commit : Option String) : RunbookEvidence :=
  let missing := runbookRequiredMarkers.filter fun marker =>
    match file.content with
    | none => true
    | some content => !isIn marker content
  let verified := file.raw.isSome && file.content.isSome && missing.isEmpty && commit.isSome
  { evidenceId := evidenceId
    scope := scope
    recordedAt := recordedAt
    status := if verified then "PASS" else "FAIL"
    evidence := [("verification_contract", .text "PHASE6_RUNBOOK_V1"),
      ("git_commit", optionalText commit),
      ("file_name", .text file.fileName),
      ("sha256", optionalText (file.raw.map Prod.snd)),
      ("size_bytes",
        match file.raw with
        | some raw => .int raw.1
        | none => .none),
      ("required_markers", texts runbookRequiredMarkers),
      ("missing_markers", texts missing),
      ("read_error", optionalText file.readError)] }

variable (host : Host)

/-- The row of `persist_rollback_verification`; `measured` is the latest rollback evidence. -/
def rollbackRow (verificationId verifiedAt : String) (scope : Scope) (measured : Payload Extended)
    (commit : Option String) : Except PyError RollbackVerification := do
  let sourceCommit := orNone (strip (textOf host (measured.get "git_commit")))
  let reasons ← listOf (measured.get "rollback_blocking_reasons")
  let sourceBlockers := reasons ++
    if commit.isSome ∧ sourceCommit ≠ commit then [.text "ROLLBACK_SOURCE_COMMIT_MISMATCH"] else []
  let verified ← allOf [.ok commit.isSome, .ok (sourceCommit = commit),
    .ok (measured.get "rollback_evidence_verified").truthy,
    .ok (upper (textOf host (measured.get "rollback_evidence_status")) = "COMPLETE"),
    (intOf host (measured.get "execution_mutation_attempt_count")).map (decide <| · = 0),
    .ok sourceBlockers.isEmpty]
  return {
    verificationId := verificationId
    scope := scope
    verifiedAt := verifiedAt
    status := if verified then "PASS" else "FAIL"
    evidence := [("verification_contract", .text "PHASE6_ROLLBACK_V1"),
      ("git_commit", optionalText commit),
      ("source_git_commit", optionalText sourceCommit),
      ("source", measured.get "rollback_evidence_source"),
      ("validation_id", measured.get "validation_id"),
      ("recorded_at", measured.get "recorded_at"),
      ("age_sec", measured.get "rollback_evidence_age_sec"),
      ("kill_switch_block_verified", .bool (measured.get "kill_switch_block_verified").truthy),
      ("no_submit_on_kill_switch_verified",
        .bool (measured.get "no_submit_on_kill_switch_verified").truthy),
      ("fail_closed_reconciliation_verified",
        .bool (measured.get "fail_closed_reconciliation_verified").truthy),
      ("repair_actions_non_mutating_verified",
        .bool (measured.get "repair_actions_non_mutating_verified").truthy),
      ("execution_mutation_attempt_count", measured.get "execution_mutation_attempt_count"),
      ("blocking_reasons", .list sourceBlockers)] }

/-- The row of `persist_operator_ack`. -/
def ackRow (ackId operatorId text : String) (scope : Scope) (ttl : ℤ) (evidence : Payload Extended)
    (now : ℤ) : OperatorAck :=
  let acknowledgedAt := host.isoformat now
  let validUntil := host.isoformat (now + ttl * 60000000)
  let blocker := operatorAckSemantics host scope.releaseId text acknowledgedAt validUntil now
  { ackId := ackId
    scope := scope
    acknowledgedAt := acknowledgedAt
    validUntil := validUntil
    operatorId := operatorId
    acknowledgementText := text
    evidence := assign (assign (assign evidence
      "validation_status" (.text (if blocker.isNone then "PASS" else "FAIL")))
      "blocker_reason" (optionalText blocker))
      "max_ttl_minutes" (.int maxOperatorAckTtlMinutes) }

/-- An INSERT under a unique id: an id that is there raises. -/
def insertUnique {R : Type} (id : R → String) (rows : List R) (row : R) : List R :=
  if rows.any fun r => id r = id row then rows else rows ++ [row]

/-- A call of a writer, with the ids, times and measurements it meets. -/
inductive Write where
  /-- `persist_canary_event` without the token of the measured writer. -/
  | canaryEvent (e : CanaryEvent)
  | canaryValidation (eventId eventTs : String) (scope : Scope) (m : TrapMeasurement)
      (gitCommit : Option String) (identity : CheckoutIdentity)
  | rollback (verificationId verifiedAt : String) (scope : Scope) (measured : Payload Extended)
      (gitCommit : Option String) (identity : CheckoutIdentity)
  | runbook (evidenceId recordedAt : String) (scope : Scope) (file : RunbookFile)
      (gitCommit : Option String) (identity : CheckoutIdentity)
  | ack (ackId operatorId text : String) (scope : Scope) (ttl : ℤ) (evidence : Payload Extended)
      (now : ℤ)
  | snapshot (s : ReleaseGateSnapshot)

def insertCanaryEvent (db : ReleaseDb) (e : CanaryEvent) : ReleaseDb :=
  { db with schema := true
            canaryEvents := insertUnique CanaryEvent.eventId db.canaryEvents e }

/-- The tables after a call; a call that raises leaves the rows alone. -/
def step (db : ReleaseDb) : Write → ReleaseDb
  | .canaryEvent e =>
    -- CANARY_VALIDATION_EVENT_REQUIRES_MEASURED_WRITER
    if e.eventType = canaryValidationEventType then db else insertCanaryEvent db e
  | .canaryValidation eventId eventTs scope m gitCommit identity =>
    insertCanaryEvent db
      (trapEvent eventId eventTs scope m (releaseEvidenceGitCommit gitCommit identity))
  | .rollback verificationId verifiedAt scope measured gitCommit identity =>
    match rollbackRow host verificationId verifiedAt scope measured
        (releaseEvidenceGitCommit gitCommit identity) with
    | .ok row =>
      { db with schema := true
                rollbacks := insertUnique RollbackVerification.verificationId db.rollbacks row }
    | .error _ => db
  | .runbook evidenceId recordedAt scope file gitCommit identity =>
    { db with
      schema := true
      runbooks := insertUnique RunbookEvidence.evidenceId db.runbooks
        (runbookRow evidenceId recordedAt scope file
          (releaseEvidenceGitCommit gitCommit identity)) }
  | .ack ackId operatorId text scope ttl evidence now =>
    -- OPERATOR_ACK_TTL_OUT_OF_RANGE
    if ttl ≤ 0 ∨ maxOperatorAckTtlMinutes < ttl then { db with schema := true }
    else
      { db with
        schema := true
        acks := insertUnique OperatorAck.ackId db.acks
          (ackRow host ackId operatorId text scope ttl evidence now) }
  | .snapshot s => { db with schema := true, snapshots := db.snapshots ++ [s] }

/-! ## 2. What CANARY_READY should rest on -/

/-- A canary validation, passing or failing. -/
def isCanaryValidation (e : CanaryEvent) : Bool :=
  e.eventType = canaryValidationEventType || e.eventType = canaryValidationFailType

/-- The text of an acknowledgement is the one required of the release. -/
def NamesRelease (releaseId text : String) : Prop := text = requiredOperatorAckText releaseId

/-- **What CANARY_READY should rest on.** -/
structure Justified (db : ReleaseDb) (query : Scope) (now : ℤ) : Prop where
  evidence : ∃ e r b,
    (latest (fun e => e.scope.of query && isCanaryValidation e) db.canaryEvents = some e ∧
      e.eventType = canaryValidationEventType ∧ canaryValidationValid host e = .ok true) ∧
    (latest (fun r => r.scope.of query) db.rollbacks = some r ∧
      rollbackVerificationEvidenceValid host r.status r.evidence = .ok true) ∧
    (latest (fun b => b.scope.of query) db.runbooks = some b ∧
      runbookVerificationEvidenceValid host b.status b.evidence = .ok true) ∧
    commitOf host e.evidence = commitOf host r.evidence ∧
    commitOf host r.evidence = commitOf host b.evidence
  noMutation : ∀ e ∈ db.canaryEvents, e.scope.of query = true → e.mutationAttempted = false
  acknowledged : ∃ a, latest (fun a => a.scope.of query) db.acks = some a ∧
    NamesRelease query.releaseId a.acknowledgementText ∧
    ∃ expires, parseTs host a.validUntil = some expires ∧ now < expires

/-- A failing canary validation is recorded only where no passing one is, and an acknowledgement
    that holds the phrase and the release id is the required text. -/
def Careful (db : ReleaseDb) : Write → Prop
  | .canaryEvent e => e.eventType = canaryValidationFailType →
    ∀ p ∈ db.canaryEvents, p.scope.of e.scope = true → p.eventType ≠ canaryValidationEventType
  | .canaryValidation _ _ scope m gitCommit identity =>
    trapPassed m (releaseEvidenceGitCommit gitCommit identity) = false →
      ∀ p ∈ db.canaryEvents, p.scope.of scope = true → p.eventType ≠ canaryValidationEventType
  | .ack _ _ text scope _ _ _ =>
    ackTextAccepted scope.releaseId text = true → NamesRelease scope.releaseId text
  | _ => True

/-! ## 3. Runs -/

/-- What careful writes keep: the latest validation of a release that has a passing one passed, and
    every acknowledgement that is accepted names its release. -/
structure Inv (db : ReleaseDb) : Prop where
  canary : ∀ query e, latest (fun e => e.scope.of query && e.eventType = canaryValidationEventType)
      db.canaryEvents = some e →
    latest (fun e => e.scope.of query && isCanaryValidation e) db.canaryEvents = some e
  acks : ∀ a ∈ db.acks, ackTextAccepted a.scope.releaseId a.acknowledgementText = true →
    NamesRelease a.scope.releaseId a.acknowledgementText

variable {host} {db : ReleaseDb} {w : Write}

theorem latest_concat {R : Type} (p : R → Bool) (rows : List R) (x : R) :
    latest p (rows ++ [x]) = if p x = true then some x else latest p rows := by
  unfold latest
  rw [List.filter_append]
  by_cases h : p x = true
  · rw [if_pos h, List.filter_cons_of_pos h, List.filter_nil, List.getLast?_concat]
  · rw [if_neg h, List.filter_cons_of_neg h, List.filter_nil, List.append_nil]

theorem latest_mem {R : Type} {p : R → Bool} {rows : List R} {x : R} (h : latest p rows = some x) :
    x ∈ rows ∧ p x = true := List.mem_filter.mp (List.mem_of_getLast? h)

theorem Scope.of_trans {a b c : Scope} (ha : a.of c = true) (hb : b.of c = true) :
    a.of b = true := by
  unfold Scope.of at *
  simp only [Bool.and_eq_true, decide_eq_true_eq] at *
  exact ⟨ha.1.trans hb.1.symm, ha.2.trans hb.2.symm⟩

/-- A canary event that is no failing validation after a passing one keeps the invariant. -/
theorem inv_insertCanaryEvent (h : Inv db) {x : CanaryEvent}
    (hx : x.eventType = canaryValidationFailType →
      ∀ p ∈ db.canaryEvents, p.scope.of x.scope = true → p.eventType ≠ canaryValidationEventType) :
    Inv (insertCanaryEvent db x) := by
  refine ⟨fun query e he => ?_, h.acks⟩
  unfold insertCanaryEvent insertUnique at he ⊢
  simp only at he ⊢
  split at he
  · rename_i hany
    rw [if_pos hany]
    exact h.canary query e he
  · rename_i hany
    rw [if_neg hany]
    rw [latest_concat] at he ⊢
    by_cases hpass : (x.scope.of query && decide (x.eventType = canaryValidationEventType)) = true
    · rw [if_pos hpass] at he
      obtain ⟨hscope, htype⟩ := Bool.and_eq_true_iff.mp hpass
      have hvalidation : (x.scope.of query && isCanaryValidation x) = true := by
        unfold isCanaryValidation
        rw [hscope, htype]
        rfl
      rw [if_pos hvalidation]
      exact he
    · rw [if_neg hpass] at he
      have hvalidation : ¬ (x.scope.of query && isCanaryValidation x) = true := by
        intro hval
        obtain ⟨hscope, hkind⟩ := Bool.and_eq_true_iff.mp hval
        obtain ⟨hmem, hp⟩ := latest_mem he
        obtain ⟨hescope, hetype⟩ := Bool.and_eq_true_iff.mp hp
        rcases Bool.or_eq_true_iff.mp hkind with htype | htype
        · exact hpass (Bool.and_eq_true_iff.mpr ⟨hscope, htype⟩)
        · exact hx (of_decide_eq_true htype) e hmem (Scope.of_trans hescope hscope)
            (of_decide_eq_true hetype)
      rw [if_neg hvalidation]
      exact h.canary query e he

/-- **One careful write keeps the invariant.** -/
theorem inv_step (h : Inv db) (hw : Careful db w) : Inv (step host db w) := by
  cases w with
  | canaryEvent e =>
    simp only [step]
    split
    · exact h
    · exact inv_insertCanaryEvent h hw
  | canaryValidation eventId eventTs scope m gitCommit identity =>
    refine inv_insertCanaryEvent h fun htype => hw ?_
    unfold trapEvent at htype
    simp only at htype
    split at htype
    · exact absurd htype (by decide)
    · rename_i hpassed
      exact Bool.eq_false_iff.mpr hpassed
  | rollback verificationId verifiedAt scope measured gitCommit identity =>
    simp only [step]
    split
    · exact ⟨h.canary, h.acks⟩
    · exact h
  | runbook evidenceId recordedAt scope file gitCommit identity => exact ⟨h.canary, h.acks⟩
  | ack ackId operatorId text scope ttl evidence now =>
    simp only [step]
    split
    · exact ⟨h.canary, h.acks⟩
    · refine ⟨h.canary, ?_⟩
      show ∀ a ∈ insertUnique _ _ _, _
      unfold insertUnique
      split
      · exact h.acks
      · intro a ha
        rcases List.mem_append.mp ha with hold | hnew
        · exact h.acks a hold
        · rw [List.mem_singleton.mp hnew]
          exact hw
  | snapshot s => exact ⟨h.canary, h.acks⟩

theorem inv_empty : Inv .empty := ⟨fun _ _ he => (nomatch he), List.forall_mem_nil _⟩

theorem ack_accepted {query : Scope} {now : ℤ} {a : OperatorAck}
    (h : latestValidOperatorAck host db query now = some a) :
    latest (fun a => a.scope.of query) db.acks = some a ∧
      ackTextAccepted query.releaseId a.acknowledgementText = true ∧
      ∃ expires, parseTs host a.validUntil = some expires ∧ now < expires := by
  unfold latestValidOperatorAck at h
  obtain ⟨hlatest, hvalid⟩ := Option.filter_eq_some_iff.mp h
  have hnone := Option.isNone_iff_eq_none.mp hvalid
  unfold operatorAckSemantics at hnone
  split at hnone
  · cases hnone
  · rename_i htext
    refine ⟨hlatest, by simpa using htext, ?_⟩
    split at hnone
    · rename_i acknowledged expires _ hexpires
      refine ⟨expires, hexpires, ?_⟩
      split at hnone
      · cases hnone
      split at hnone
      · cases hnone
      split at hnone
      · cases hnone
      · omega
    · cases hnone

theorem no_mutation {query : Scope} (h : canaryMutationAttemptCount db query = some 0) :
    ∀ e ∈ db.canaryEvents, e.scope.of query = true → e.mutationAttempted = false := by
  unfold canaryMutationAttemptCount at h
  split at h
  · have hnil := List.length_eq_zero_iff.mp (Option.some.inj h)
    intro e he hscope
    by_contra hattempted
    have hmem : e ∈ db.canaryEvents.filter fun e => e.scope.of query && e.mutationAttempted := by
      refine List.mem_filter.mpr ⟨he, ?_⟩
      rw [hscope, Bool.true_and]
      exact eq_true_of_ne_false hattempted
    rw [hnil] at hmem
    cases hmem
  · cases h

/-- **CANARY_READY is justified in every state of a run of careful writes**, for every release,
    phase and time. -/
theorem ready_justified (host : Host) (writes : List Write)
    (hcareful : Along (step host) Careful .empty writes) (query : Scope) (now : ℤ)
    (generatedAt : String) (s : ReleaseGateSnapshot)
    (hbuild : buildReleaseSnapshot host (runEvents (step host) .empty writes) query now
      generatedAt =
      .ok s) (hready : s.status = "CANARY_READY") :
    Justified host (runEvents (step host) .empty writes) query now := by
  have hinv : Inv (runEvents (step host) .empty writes) :=
    run_preserves (fun _ _ hi hc => inv_step hi hc) writes _ inv_empty hcareful
  obtain ⟨a, e, r, b, ha, hcount, ⟨he, hvalid⟩, hr, hb, hcommits⟩ := build_ready hbuild hready
  have htype := (Bool.and_eq_true_iff.mp (latest_mem he).2).2
  obtain ⟨hlatest, htext, hexpires⟩ := ack_accepted ha
  obtain ⟨hmem, hscope⟩ := latest_mem hlatest
  have hrelease : a.scope.releaseId = query.releaseId :=
    of_decide_eq_true (Bool.and_eq_true_iff.mp hscope).1
  refine ⟨⟨e, r, b, ⟨hinv.canary query e he, of_decide_eq_true htype, hvalid⟩, hr, hb, hcommits⟩,
    no_mutation hcount, a, hlatest, ?_, hexpires⟩
  have hnames := hinv.acks a hmem
  rw [hrelease] at hnames
  exact hnames htext

/-! ## 4. What other writes do -/

/-- A host whose clock has two texts. -/
def sampleHost : Host where
  py := ⟨fun _ => none, fun _ => "", fun _ => ""⟩
  parseInt _ := none
  parseTs s := if s = "start" then some 0 else if s = "end" then some 60000000 else none
  isoformat t := if t = 0 then "start" else "end"

def sampleScope : Scope := ⟨"rel-1", "PHASE6"⟩

def sampleIdentity : CheckoutIdentity := ⟨"PASS", true, "abc"⟩

/-- A canary validation in which the trap blocked these actions. -/
def sampleValidation (eventId : String) (blocked : List String) : Write :=
  .canaryValidation eventId "start" sampleScope ⟨[], blocked, some 5, 5⟩ none sampleIdentity

def sampleMeasured : Payload Extended :=
  [("git_commit", .text "abc"), ("rollback_evidence_verified", .bool true),
    ("rollback_evidence_status", .text "COMPLETE"), ("validation_id", .text "v1"),
    ("rollback_evidence_source", .text "DETERMINISTIC_VALIDATION"),
    ("kill_switch_block_verified", .bool true), ("no_submit_on_kill_switch_verified", .bool true),
    ("fail_closed_reconciliation_verified", .bool true),
    ("repair_actions_non_mutating_verified", .bool true)]

def sampleRunbook : RunbookFile where
  fileName := "RUNBOOK.md"
  raw := some (100, String.ofList (List.replicate 64 'a'))
  content := some (String.intercalate " " runbookRequiredMarkers)
  readError := none

/-- Everything a release needs, with an acknowledgement for the given release. -/
def sampleWrites (acknowledged : String) : List Write :=
  [sampleValidation "c1" canaryValidationActions,
    .rollback "r1" "start" sampleScope sampleMeasured none sampleIdentity,
    .runbook "b1" "start" sampleScope sampleRunbook none sampleIdentity,
    .ack "a1" "operator" (requiredOperatorAckText acknowledged) sampleScope 1 [] 0]

/-- The status of the release after a run. -/
def statusAfter (writes : List Write) : Option String :=
  (buildReleaseSnapshot sampleHost (runEvents (step sampleHost) .empty writes) sampleScope 1
    "start").toOption.map ReleaseGateSnapshot.status

theorem ready_of_status {writes : List Write} (h : statusAfter writes = some "CANARY_READY") :
    ∃ s, buildReleaseSnapshot sampleHost (runEvents (step sampleHost) .empty writes) sampleScope 1
      "start" = .ok s ∧ s.status = "CANARY_READY" := by
  unfold statusAfter at h
  cases hb : buildReleaseSnapshot sampleHost (runEvents (step sampleHost) .empty writes)
    sampleScope 1
      "start" with
  | error e =>
    rw [hb] at h
    cases h
  | ok s =>
    rw [hb] at h
    exact ⟨s, rfl, Option.some.inj h⟩

theorem ready_justified_sample :
    Justified sampleHost (runEvents (step sampleHost) .empty (sampleWrites "rel-1"))
      sampleScope 1 := by
  have hready : statusAfter (sampleWrites "rel-1") = some "CANARY_READY" := by decide +kernel
  obtain ⟨s, hs, hstatus⟩ := ready_of_status hready
  refine ready_justified sampleHost _ ?_ sampleScope 1 "start" s hs hstatus
  exact ⟨fun h => absurd h (by decide), trivial, trivial, fun _ => rfl, trivial⟩

/-- **A failed canary validation leaves the release ready, and so does an acknowledgement of another
    release.** -/
theorem failed_validation_stays_ready :
    statusAfter (sampleWrites "rel-1" ++ [sampleValidation "c2" []]) = some "CANARY_READY" ∧
      ¬ Justified sampleHost (runEvents (step sampleHost) .empty
        (sampleWrites "rel-1" ++ [sampleValidation "c2" []])) sampleScope 1 ∧
      statusAfter (sampleWrites "rel-10") = some "CANARY_READY" ∧
      ¬ Justified sampleHost (runEvents (step sampleHost) .empty (sampleWrites "rel-10"))
        sampleScope 1 := by
  refine ⟨by decide +kernel, fun h => ?_, by decide +kernel, fun h => ?_⟩
  · obtain ⟨e, r, b, ⟨he, htype, _⟩, _⟩ := h.evidence
    have hfail : (latest (fun e => e.scope.of sampleScope && isCanaryValidation e)
        (runEvents (step sampleHost) .empty (sampleWrites "rel-1" ++
          [sampleValidation "c2" []])).canaryEvents).map CanaryEvent.eventType =
        some canaryValidationFailType := by decide +kernel
    rw [he, Option.map_some, htype] at hfail
    exact absurd hfail (by decide)
  · obtain ⟨a, ha, hnames, _⟩ := h.acknowledged
    have htext : (latest (fun a => a.scope.of sampleScope)
        (runEvents (step sampleHost) .empty (sampleWrites "rel-10")).acks).map
          OperatorAck.acknowledgementText = some (requiredOperatorAckText "rel-10") := by
      decide +kernel
    rw [ha, Option.map_some, hnames] at htext
    exact absurd htext (by decide +kernel)

end AlphaForge.Release
