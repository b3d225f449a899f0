/-
  File:      AlphaForge/Release/Gates.lean
  Subject:   `release_gates.py`: the evidence tables of a release, their readers and the snapshot
             that calls a release CANARY_READY.

  * `ReleaseDb` -- the canary events, rollback verifications, runbook evidence, acknowledgements and
    snapshots that were recorded, each in the order of its ids.
  * `latestVerifiedCanaryValidation`, `latestVerifiedRollback`, `latestVerifiedRunbook`,
    `latestValidOperatorAck`, `canaryMutationAttemptCount` -- what the snapshot reads.
  * `buildReleaseSnapshot` -- the snapshot; `build_ready` says what CANARY_READY needs.
-/
import AlphaForge.Lib.Dictionary
import AlphaForge.Lib.Extended
import AlphaForge.Lib.Payload

namespace AlphaForge.Release

open AlphaForge.Lib

/-! ## 1. What the readers make of JSON values -/

/-- What the language makes of texts and times. -/
structure Host where
  py : Builtins Extended
  /-- `int(text)`; `none` where it raises. -/
  parseInt : String → Option ℤ
  /-- `_parse_ts` of a text that is not empty: the microseconds of UTC. -/
  parseTs : String → Option ℤ
  /-- `current.isoformat().replace("+00:00", "Z")`. -/
  isoformat : ℤ → String

variable (host : Host)

/-- `str(value or "")`. -/
def textOf (v : Value Extended) : String := (v.or (.text "")).str host.py

/-- `int(value or 0)`. -/
def intOf (v : Value Extended) : Except PyError ℤ :=
  if v.truthy then
    match v with
    | .bool b => .ok (if b then 1 else 0)
    | .int n => .ok n
    | .float (.finite q) => .ok (q.num.tdiv q.den)
    | .float .nan => .error (.valueError "cannot convert float NaN to integer")
    | .float _ => .error .overflowError
    | .text s =>
      match host.parseInt s with
      | some n => .ok n
      | none => .error (.valueError "invalid literal for int()")
    | _ => .error .typeError
  else .ok 0

/-- `list(value or [])`. -/
def listOf (v : Value Extended) : Except PyError (List (Value Extended)) :=
  if v.truthy then
    match v with
    | .list items => .ok items
    | .text s => .ok (s.toList.map fun c => .text (String.singleton c))
    | .mapping entries => .ok (entries.map fun e => .text e.1)
    | _ => .error .typeError
  else .ok []

/-- The values are these texts. -/
def isTexts : List (Value Extended) → List String → Bool
  | [], [] => true
  | .text s :: values, t :: texts => s = t && isTexts values texts
  | _, _ => false

/-- `list(value or []) == texts`. -/
def listIs (v : Value Extended) (texts : List String) : Except PyError Bool :=
  (listOf v).map fun items => isTexts items texts

/-- `a and b and …`: the first part that is not true decides. -/
def allOf : List (Except PyError Bool) → Except PyError Bool
  | [] => .ok true
  | .ok true :: rest => allOf rest
  | .ok false :: _ => .ok false
  | .error e :: _ => .error e

theorem allOf_true {parts : List (Except PyError Bool)} (h : allOf parts = .ok true) :
    ∀ p ∈ parts, p = .ok true := by
  induction parts with
  | nil => exact List.forall_mem_nil _
  | cons p rest ih =>
    match p, h with
    | .ok true, h => exact List.forall_mem_cons.mpr ⟨rfl, ih h⟩

/-- The commit that an evidence names. -/
def commitOf (evidence : Payload Extended) : String :=
  strip (textOf host (evidence.get "git_commit"))

/-! ## 2. The tables -/

/-- The columns `release_id` and `phase`. -/
structure Scope where
  releaseId : String
  phase : String
  deriving DecidableEq, Repr

/-- `release_id = :release_id AND UPPER(phase) = UPPER(:phase)`. -/
def Scope.of (s query : Scope) : Bool := s.releaseId = query.releaseId && upper s.phase =
    upper query.phase

structure CanaryEvent where
  eventId : String
  scope : Scope
  eventType : String
  eventTs : String
  shadowMode : Bool
  canaryMode : Bool
  mutationAttempted : Bool
  mutationBlocked : Bool
  evidence : Payload Extended

structure RollbackVerification where
  verificationId : String
  scope : Scope
  verifiedAt : String
  status : String
  evidence : Payload Extended

structure RunbookEvidence where
  evidenceId : String
  scope : Scope
  recordedAt : String
  status : String
  evidence : Payload Extended

structure OperatorAck where
  ackId : String
  scope : Scope
  acknowledgedAt : String
  validUntil : String
  operatorId : String
  acknowledgementText : String
  evidence : Payload Extended

/-- The evidence of a snapshot. The readers of a row's evidence add its id and time; here the row is
    kept. -/
structure SnapshotEvidence where
  operatorAck : Option OperatorAck
  canaryValidation : Option CanaryEvent
  rollbackStatus : String
  rollbackEvidence : Option RollbackVerification
  runbookStatus : String
  runbookEvidence : Option RunbookEvidence
  gitCommits : List (String × Option String)
  fullTests : Option (Payload Extended)

structure ReleaseGateSnapshot where
  scope : Scope
  status : String
  generatedAt : String
  canaryReady : Bool
  rollbackVerified : Bool
  runbookVerified : Bool
  operatorAcknowledged : Bool
  mutationAttemptCount : Option ℕ
  blockingReasons : List String
  evidence : SnapshotEvidence

/-- The release-control tables, once the schema is there. -/
structure ReleaseDb where
  schema : Bool
  canaryEvents : List CanaryEvent
  rollbacks : List RollbackVerification
  runbooks : List RunbookEvidence
  acks : List OperatorAck
  snapshots : List ReleaseGateSnapshot

def ReleaseDb.empty : ReleaseDb := ⟨false, [], [], [], [], []⟩

/-- `ORDER BY id DESC LIMIT 1`. -/
def latest {R : Type} (p : R → Bool) (rows : List R) : Option R := (rows.filter p).getLast?

/-! ## 3. The readers -/

def ackRiskPhrase : String :=
  "I acknowledge AlphaForge Phase 6 canary risk and LIVE real orders remain disabled"

/-- `required_operator_ack_text`. -/
def requiredOperatorAckText (releaseId : String) : String :=
  ackRiskPhrase ++ "; release_id=" ++ releaseId

def maxOperatorAckTtlMinutes : ℤ := 240

/-- `a in text`. -/
def isIn (a text : String) : Bool := text.toList.tails.any fun rest => a.toList.isPrefixOf rest

/-- The text of an acknowledgement holds the phrase and the release id. -/
def ackTextAccepted (releaseId text : String) :
    Bool := isIn ackRiskPhrase text && isIn releaseId text

/-- `_parse_ts`. -/
def parseTs (s : String) : Option ℤ := if s = "" then none else host.parseTs s

/-- `_operator_ack_semantics`: the blocker, if there is one. -/
def operatorAckSemantics (releaseId text acknowledgedAt validUntil : String) (now : ℤ) :
    Option String :=
  if ackTextAccepted releaseId text = false then some "ACK_TEXT_MISSING_RELEASE_OR_RISK_PHRASE"
  else
    match parseTs host acknowledgedAt, parseTs host validUntil with
    | some acknowledged, some expires =>
      if expires ≤ acknowledged then some "ACK_EXPIRY_NOT_AFTER_ACK"
      else if maxOperatorAckTtlMinutes * 60000000 + 1000000 < expires - acknowledged then
        some "ACK_TTL_EXCEEDS_MAX"
      else if expires ≤ now then some "ACK_EXPIRED"
      else none
    | _, _ => some "ACK_TIMESTAMP_INVALID"

/-- `latest_valid_operator_ack`. -/
def latestValidOperatorAck (db : ReleaseDb) (query : Scope) (now : ℤ) : Option OperatorAck :=
  (latest (fun a => a.scope.of query) db.acks).filter fun a =>
    (operatorAckSemantics host query.releaseId a.acknowledgementText a.acknowledgedAt a.validUntil
      now).isNone

/-- `canary_mutation_attempt_count`. -/
def canaryMutationAttemptCount (db : ReleaseDb) (query : Scope) : Option ℕ :=
  if db.schema then
    some (db.canaryEvents.filter fun e => e.scope.of query && e.mutationAttempted).length
  else none

def canaryValidationEventType : String := "CANARY_VALIDATION_PASS"

def canaryValidationActions : List String := ["submit", "place", "cancel", "modify", "create"]

/-- `valid` of `_latest_verified_canary_validation`. -/
def canaryValidationValid (e : CanaryEvent) : Except PyError Bool :=
  allOf [.ok e.shadowMode, .ok e.canaryMode, .ok !e.mutationAttempted, .ok e.mutationBlocked,
    .ok (textOf host (e.evidence.get "source") = "DETERMINISTIC_MUTATION_TRAP_VALIDATION"),
    .ok (textOf host (e.evidence.get "verification_contract") = "PHASE6_CANARY_MUTATION_TRAP_V1"),
    .ok (upper (textOf host (e.evidence.get "validation_status")) = "PASS"),
    .ok (commitOf host e.evidence ≠ ""),
    listIs (e.evidence.get "required_actions") canaryValidationActions,
    listIs (e.evidence.get "blocked_actions") canaryValidationActions,
    (intOf host (e.evidence.get "isolated_mutation_attempt_count")).map
      (decide <| · = (canaryValidationActions.length : ℤ)),
    (intOf host (e.evidence.get "isolated_mutation_blocked_count")).map
      (decide <| · = (canaryValidationActions.length : ℤ))]

/-- `_latest_verified_canary_validation`. -/
def latestVerifiedCanaryValidation (db : ReleaseDb) (query : Scope) :
    Except PyError (Option CanaryEvent) :=
  match latest (fun e => e.scope.of query && e.eventType = canaryValidationEventType)
      db.canaryEvents with
  | none => .ok none
  | some e => (canaryValidationValid host e).map fun valid => if valid then some e else none

/-- `rollback_verification_evidence_valid`. -/
def rollbackVerificationEvidenceValid (status : String) (evidence : Payload Extended) :
    Except PyError Bool :=
  allOf [.ok (upper status = "PASS"),
    .ok (textOf host (evidence.get "verification_contract") = "PHASE6_ROLLBACK_V1"),
    .ok (textOf host (evidence.get "source") = "DETERMINISTIC_VALIDATION"),
    .ok (evidence.get "validation_id").truthy,
    .ok (commitOf host evidence ≠ ""),
    .ok (textOf host (evidence.get "source_git_commit") = textOf host (evidence.get "git_commit")),
    .ok (evidence.get "kill_switch_block_verified").truthy,
    .ok (evidence.get "no_submit_on_kill_switch_verified").truthy,
    .ok (evidence.get "fail_closed_reconciliation_verified").truthy,
    .ok (evidence.get "repair_actions_non_mutating_verified").truthy,
    (intOf host (evidence.get "execution_mutation_attempt_count")).map (decide <| · = 0),
    listIs (evidence.get "blocking_reasons") []]

def runbookRequiredMarkers : List String :=
  ["## Explicit LIVE boundary", "## Suspension conditions", "## Operator workflow",
    "## Phase 9 PAPER Burn-in Operations", "recovery-drill", "finalize"]

/-- `runbook_verification_evidence_valid`. -/
def runbookVerificationEvidenceValid (status : String) (evidence : Payload Extended) :
    Except PyError Bool :=
  let digest := textOf host (evidence.get "sha256")
  allOf [.ok (upper status = "PASS"),
    .ok (textOf host (evidence.get "verification_contract") = "PHASE6_RUNBOOK_V1"),
    .ok (commitOf host evidence ≠ ""),
    .ok (digest.length = 64),
    .ok ((lower digest).toList.all fun ch => ch ∈ "0123456789abcdef".toList),
    (intOf host (evidence.get "size_bytes")).map (decide <| 0 < ·),
    listIs (evidence.get "required_markers") runbookRequiredMarkers,
    listIs (evidence.get "missing_markers") [],
    .ok (match evidence.get "read_error" with
      | .none => true
      | .text s => s = ""
      | _ => false)]

/-- `PASS`, `UNVERIFIED` or `MISSING`, with the row. -/
def verifiedStatus {R : Type} (row : Option R) (valid : R → Except PyError Bool) :
    Except PyError (String × Option R) :=
  match row with
  | none => .ok ("MISSING", none)
  | some r => (valid r).map fun v => (if v then "PASS" else "UNVERIFIED", some r)

/-- `_latest_verified_rollback`. -/
def latestVerifiedRollback (db : ReleaseDb) (query : Scope) :
    Except PyError (String × Option RollbackVerification) :=
  verifiedStatus (latest (fun r => r.scope.of query) db.rollbacks) fun r =>
    rollbackVerificationEvidenceValid host r.status r.evidence

/-- `_latest_verified_runbook`. -/
def latestVerifiedRunbook (db : ReleaseDb) (query : Scope) :
    Except PyError (String × Option RunbookEvidence) :=
  verifiedStatus (latest (fun r => r.scope.of query) db.runbooks) fun r =>
    runbookVerificationEvidenceValid host r.status r.evidence

/-- `latest_release_snapshot`: an empty release id or phase selects any. -/
def latestReleaseSnapshot (db : ReleaseDb) (query : Scope) : Option ReleaseGateSnapshot :=
  latest (fun s => (query.releaseId = "" || s.scope.releaseId = query.releaseId) &&
    (query.phase = "" || upper s.scope.phase = upper query.phase)) db.snapshots

/-! ## 4. The snapshot -/

/-- `str(….get("git_commit") or "").strip() or None`. -/
def namedCommit (evidence : Option (Payload Extended)) : Option String :=
  match evidence with
  | none => none
  | some e => if commitOf host e = "" then none else some (commitOf host e)

/-- `reasons`. -/
def blockingReasons (commits : List String) (ack : Option OperatorAck) (mutations : Option ℕ)
    (canary : Option CanaryEvent) (rollbackStatus runbookStatus : String) : List String :=
  (if 1 < commits.dedup.length then ["RELEASE_EVIDENCE_COMMIT_MISMATCH"] else []) ++
    (if ack.isNone then ["OPERATOR_ACK_MISSING_OR_EXPIRED"] else []) ++
    (match mutations with
      | none => ["CANARY_EVIDENCE_MISSING"]
      | some n =>
        if canary.isNone then ["CANARY_EVIDENCE_MISSING"]
        else if 0 < n then ["CANARY_MUTATION_ATTEMPTED"] else []) ++
    (if rollbackStatus = "MISSING" then ["ROLLBACK_EVIDENCE_MISSING"]
      else if rollbackStatus = "PASS" then [] else ["ROLLBACK_EVIDENCE_UNVERIFIED"]) ++
    (if runbookStatus = "MISSING" then ["RUNBOOK_EVIDENCE_MISSING"]
      else if runbookStatus = "PASS" then [] else ["RUNBOOK_EVIDENCE_UNVERIFIED"])

/-- `status` of the snapshot. -/
def snapshotStatus (reasons : List String) : String :=
  if reasons = [] then "CANARY_READY"
  else if reasons.any fun r => "MISSING".toList <:+ r.toList || isIn "MISSING_OR_EXPIRED" r then
    "NO_EVIDENCE"
  else "FAIL"

/-- `build_release_snapshot`. -/
def buildReleaseSnapshot (db : ReleaseDb) (query : Scope) (now : ℤ) (generatedAt : String) :
    Except PyError ReleaseGateSnapshot := do
  let fullTests := (latestReleaseSnapshot db query).bind fun s => s.evidence.fullTests
  let ack := latestValidOperatorAck host db query now
  let mutations := canaryMutationAttemptCount db query
  let canary ← latestVerifiedCanaryValidation host db query
  let (rollbackStatus, rollback) ← latestVerifiedRollback host db query
  let (runbookStatus, runbook) ← latestVerifiedRunbook host db query
  let gitCommits := [("canary", namedCommit host (canary.map CanaryEvent.evidence)),
    ("rollback", namedCommit host (rollback.map RollbackVerification.evidence)),
    ("runbook", namedCommit host (runbook.map RunbookEvidence.evidence))]
  let reasons := blockingReasons (gitCommits.filterMap Prod.snd) ack mutations canary
    rollbackStatus runbookStatus
  return {
    scope := query
    status := snapshotStatus reasons
    generatedAt := generatedAt
    canaryReady := mutations = some 0 && canary.isSome
    rollbackVerified := rollbackStatus = "PASS"
    runbookVerified := runbookStatus = "PASS"
    operatorAcknowledged := ack.isSome
    mutationAttemptCount := mutations
    blockingReasons := reasons
    evidence := ⟨ack, canary, rollbackStatus, rollback, runbookStatus, runbook, gitCommits,
      fullTests⟩ }

/-! ## 5. When the snapshot is CANARY_READY -/

variable {host} {db : ReleaseDb} {query : Scope} {now : ℤ} {generatedAt : String}

theorem snapshotStatus_ready {reasons : List String} :
    snapshotStatus reasons = "CANARY_READY" ↔ reasons = [] := by
  unfold snapshotStatus
  by_cases h : reasons = []
  · rw [if_pos h]
    exact iff_of_true rfl h
  · rw [if_neg h]
    refine iff_of_false (fun heq => ?_) h
    split at heq <;> exact absurd heq (by decide)

theorem eq_of_dedup_length {α : Type} [DecidableEq α] {l : List α} (h : ¬ 1 < l.dedup.length)
    {a b : α} (ha : a ∈ l) (hb : b ∈ l) : a = b := by
  have ha' := List.mem_dedup.mpr ha
  have hb' := List.mem_dedup.mpr hb
  match hl : l.dedup, h with
  | [], _ => rw [hl] at ha'; cases ha'
  | [x], _ =>
    rw [hl, List.mem_singleton] at ha' hb'
    rw [ha', hb']
  | x :: y :: rest, h => exact absurd (by simp) h

/-- No reason blocks exactly where every part passed. -/
theorem blockingReasons_nil {commits : List String} {ack : Option OperatorAck}
    {mutations : Option ℕ} {canary : Option CanaryEvent} {rollbackStatus runbookStatus : String} :
    blockingReasons commits ack mutations canary rollbackStatus runbookStatus = [] ↔
      ¬ 1 < commits.dedup.length ∧ ack.isSome = true ∧ mutations = some 0 ∧
        canary.isSome = true ∧ rollbackStatus = "PASS" ∧ runbookStatus = "PASS" := by
  have hverified : ∀ {status missing unverified : String},
      (if status = "MISSING" then [missing] else if status = "PASS" then [] else [unverified]) =
        [] ↔
        status = "PASS" := by
    intro status missing unverified
    split
    · rename_i h
      exact iff_of_false nofun (by rw [h]; decide)
    · split
      · rename_i h
        exact iff_of_true rfl h
      · rename_i h
        exact iff_of_false nofun h
  have hmutations : (match mutations with
      | none => ["CANARY_EVIDENCE_MISSING"]
      | some n =>
        if canary.isNone then ["CANARY_EVIDENCE_MISSING"]
        else if 0 < n then ["CANARY_MUTATION_ATTEMPTED"] else []) = [] ↔
      mutations = some 0 ∧ canary.isSome = true := by
    cases mutations with
    | none => exact iff_of_false nofun nofun
    | some n =>
      cases canary with
      | none => exact iff_of_false nofun nofun
      | some e =>
        by_cases hn : 0 < n
        · simp [hn]
          omega
        · simp [hn]
          omega
  unfold blockingReasons
  simp only [List.append_eq_nil_iff, hverified, hmutations]
  cases ack <;> by_cases hc : 1 < commits.dedup.length <;> simp [hc, and_assoc]

theorem verifiedStatus_pass {R : Type} {row : Option R} {valid : R → Except PyError Bool}
    {status : String} {r : Option R} (h : verifiedStatus row valid = .ok (status, r))
    (hstatus : status = "PASS") : ∃ x, row = some x ∧ r = some x ∧ valid x = .ok true := by
  unfold verifiedStatus at h
  cases row with
  | none =>
    cases h
    exact absurd hstatus (by decide)
  | some x =>
    simp only at h
    cases hv : valid x with
    | error e =>
      rw [hv] at h
      cases h
    | ok v =>
      rw [hv] at h
      cases h
      cases v
      · exact absurd hstatus (by decide)
      · exact ⟨x, rfl, rfl, hv⟩

theorem latestVerifiedCanaryValidation_some {e : CanaryEvent}
    (h : latestVerifiedCanaryValidation host db query = .ok (some e)) :
    latest (fun e => e.scope.of query && e.eventType = canaryValidationEventType)
        db.canaryEvents = some e ∧ canaryValidationValid host e = .ok true := by
  unfold latestVerifiedCanaryValidation at h
  cases hl : latest (fun e => e.scope.of query && e.eventType = canaryValidationEventType)
      db.canaryEvents with
  | none =>
    rw [hl] at h
    cases h
  | some x =>
    rw [hl] at h
    simp only at h
    cases hv : canaryValidationValid host x with
    | error err =>
      rw [hv] at h
      cases h
    | ok v =>
      rw [hv] at h
      cases v
      · cases h
      · cases h
        exact ⟨rfl, hv⟩

theorem canaryValidationValid_commit {e : CanaryEvent}
    (h : canaryValidationValid host e = .ok true) :
    commitOf host e.evidence ≠ "" := by
  have hpart := allOf_true h (.ok (decide (commitOf host e.evidence ≠ ""))) (by simp)
  exact of_decide_eq_true (Except.ok.inj hpart)

theorem rollbackValid_commit {status : String} {evidence : Payload Extended}
    (h : rollbackVerificationEvidenceValid host status evidence = .ok true) :
    commitOf host evidence ≠ "" := by
  have hpart := allOf_true h (.ok (decide (commitOf host evidence ≠ ""))) (by simp)
  exact of_decide_eq_true (Except.ok.inj hpart)

theorem runbookValid_commit {status : String} {evidence : Payload Extended}
    (h : runbookVerificationEvidenceValid host status evidence = .ok true) :
    commitOf host evidence ≠ "" := by
  have hpart := allOf_true h (.ok (decide (commitOf host evidence ≠ ""))) (by simp)
  exact of_decide_eq_true (Except.ok.inj hpart)

theorem commits_agree {canary rollback runbook : Payload Extended}
    (hcanary : commitOf host canary ≠ "") (hrollback : commitOf host rollback ≠ "")
    (hrunbook : commitOf host runbook ≠ "")
    (h : ¬ 1 < ([("canary", namedCommit host (some canary)),
      ("rollback", namedCommit host (some rollback)),
      ("runbook", namedCommit host (some runbook))].filterMap Prod.snd).dedup.length) :
    commitOf host canary = commitOf host rollback ∧
      commitOf host rollback = commitOf host runbook := by
  have hnamed : ∀ {evidence : Payload Extended}, commitOf host evidence ≠ "" →
      namedCommit host (some evidence) = some (commitOf host evidence) := fun hne => if_neg hne
  rw [hnamed hcanary, hnamed hrollback, hnamed hrunbook] at h
  exact ⟨eq_of_dedup_length h (by simp) (by simp), eq_of_dedup_length h (by simp) (by simp)⟩

/-- **What a snapshot that is CANARY_READY rests on.** -/
theorem build_ready {s : ReleaseGateSnapshot}
    (h : buildReleaseSnapshot host db query now generatedAt = .ok s)
    (hready : s.status = "CANARY_READY") :
    ∃ a e r b, latestValidOperatorAck host db query now = some a ∧
      canaryMutationAttemptCount db query = some 0 ∧
      (latest (fun e => e.scope.of query && e.eventType = canaryValidationEventType)
        db.canaryEvents = some e ∧ canaryValidationValid host e = .ok true) ∧
      (latest (fun r => r.scope.of query) db.rollbacks = some r ∧
        rollbackVerificationEvidenceValid host r.status r.evidence = .ok true) ∧
      (latest (fun r => r.scope.of query) db.runbooks = some b ∧
        runbookVerificationEvidenceValid host b.status b.evidence = .ok true) ∧
      commitOf host e.evidence = commitOf host r.evidence ∧
      commitOf host r.evidence = commitOf host b.evidence := by
  unfold buildReleaseSnapshot at h
  obtain ⟨canary, hcanary, h⟩ := ok_of_bind h
  obtain ⟨⟨rollbackStatus, rollback⟩, hrollback, h⟩ := ok_of_bind h
  obtain ⟨⟨runbookStatus, runbook⟩, hrunbook, h⟩ := ok_of_bind h
  rw [← Except.ok.inj h] at hready
  have hnil := snapshotStatus_ready.mp hready
  obtain ⟨hcommits, hack, hmutations, hsome, hroll, hrun⟩ := blockingReasons_nil.mp hnil
  obtain ⟨a, ha⟩ := Option.isSome_iff_exists.mp hack
  obtain ⟨e, he⟩ := Option.isSome_iff_exists.mp hsome
  obtain ⟨r, hlatest, hr, hvalid⟩ := verifiedStatus_pass hrollback hroll
  obtain ⟨b, hlatest', hb, hvalid'⟩ := verifiedStatus_pass hrunbook hrun
  rw [he] at hcanary
  rw [he, hr, hb] at hcommits
  have hevent := latestVerifiedCanaryValidation_some hcanary
  exact ⟨a, e, r, b, ha, hmutations, hevent, ⟨hlatest, hvalid⟩, ⟨hlatest', hvalid'⟩,
    commits_agree (canaryValidationValid_commit hevent.2) (rollbackValid_commit hvalid)
      (runbookValid_commit hvalid') hcommits⟩

end AlphaForge.Release
