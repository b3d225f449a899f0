/-
  File:      AlphaForge/Storage/Archive.lean
  Subject:   `storage_policy.py`: the archive of a completed campaign, and the removal of what it
             holds.

  `verified_archive` copies the whole database into a file, checks the copy, writes a manifest
  beside it and records the archive in the database. `remove_archived_batch` checks the file again,
  compares the rows of one cycle after the other with those in the file, and deletes what is equal.

  * `campaignEligibility` -- why a campaign may not be archived.
  * `beginArchive`, `copyArchive`, `sealArchive`, `publishArchive` -- `verified_archive` between the
    points where a crash leaves something behind; `removeArchivedBatch` -- one transaction.
  * `World`, `WorldStep` -- the database, the files and whoever works on them.

  There is one database, and an archive directory. A file is what can be read from it; the tables
  that only this module's caller writes are read as in `Compaction.lean`. What SQLite and the file
  system answer is given (`Machine`), and so is what a look at the schema answers. A full disk, a
  deadline or a signal ends an attempt (`abandon`); the unpublished `.partial` file is never read.
-/
import AlphaForge.Storage.Retention

namespace AlphaForge.Storage

open AlphaForge.Lib AlphaForge.Universe

/-! ## 1. The database -/

/-- What is hashed, compared and stored of an archive. -/
structure Manifest where
  campaignId : String
  /-- The name of the file. -/
  archivePath : String
  checksum : String
  schemaHash : String
  rowCounts : List (String × ℕ)
  identity : List (Option String)
  state : String
  deriving DecidableEq, Repr

/-- `state` of a row of `storage_archives`. -/
inductive ArchiveState where
  | verified
  | removing
  | archived
  deriving DecidableEq, Repr

/-- A row of `storage_archives`. -/
structure ArchiveRow where
  campaignId : String
  checksum : String
  manifest : Manifest
  state : ArchiveState
  deriving DecidableEq, Repr

/-- A row of `storage_archive_authorizations`, less its token. -/
structure ArchiveAuthorization where
  campaignId : String
  cycleId : String
  evidenceHash : String
  deriving DecidableEq, Repr

/-- The database, with what only the archive reads and writes. -/
structure Source (F : Type) extends Tables F where
  /-- `status` of a row of `burnin_campaign_runs`. -/
  mappingStatus : String → String → String
  /-- The required tables and columns exist. -/
  archiveSchemaAvailable : Bool
  /-- A table of qualifications or of audits has a row. -/
  authorityRows : Bool
  /-- The first table that may depend on a cycle. -/
  archiveDependency : Option String
  archives : List ArchiveRow
  archiveAuthorizations : List ArchiveAuthorization

/-- What SQLite and the file system answer. -/
structure Machine (F : Type) where
  /-- `_file_hash`. -/
  fileHash : Source F → String
  /-- `_schema_hash`. -/
  schemaHash : Source F → String
  /-- `PRAGMA integrity_check` is ok, and `PRAGMA foreign_key_check` finds nothing. -/
  intact : Source F → Bool
  /-- `json_valid`. -/
  jsonValid : String → Bool
  /-- The name of the archive of a campaign, from a hash of its id. -/
  archiveName : String → String

variable {F B : Type} [FloatNum F] (a : Archive F B) (d : Machine F)

/-! ## 2. Which campaigns may be archived -/

/-- `raise ValueError(reason)`, where there is a reason. -/
def refuse (reason : Except PyError (Option String)) : Except PyError Unit :=
  match reason with
  | .ok none => .ok ()
  | .ok (some text) => .error (.valueError text)
  | .error e => .error e

/-- The campaign itself is over, for long enough. -/
def campaignEnded (now minAge : F) (c : Campaign F) : Option String :=
  if c.campaignStatus ≠ "COMPLETED" ∨ present c.completedAt = false then
    some "UNFINISHED_FAILED_OR_ACCEPTANCE_CAMPAIGN_PROTECTED"
  else
    match timestamp a (c.completedAt.getD "") with
    | .error _ => some "TERMINAL_CAMPAIGN_TIME_UNKNOWN"
    | .ok completed =>
      if now - completed < minAge then some "TERMINAL_CAMPAIGN_TOO_RECENT"
      else if c.workerPid.getD 0 ≠ 0 ∨ present c.latestQualificationId then
        some "WORKER_OR_QUALIFICATION_DEPENDENCY"
      else none

/-- What is wrong with a run of the campaign. -/
def runEnded (s : Source F) (cid runId : String) : Option String :=
  if ∃ pair ∈ s.campaignRuns, pair.2 = runId ∧
      (pair.1 ≠ cid ∨ s.mappingStatus pair.1 pair.2 ≠ "COMPLETED") then
    some "AMBIGUOUS_OR_NONTERMINAL_RUN_OWNERSHIP"
  else
    match s.run runId with
    | none => some "NONTERMINAL_OR_OPEN_RUN"
    | some run =>
      if run.status ≠ "COMPLETED" ∨ run.openTradeCount ≠ some 0 then some "NONTERMINAL_OR_OPEN_RUN"
      else if (∃ l ∈ s.pendingLabels, l.burninRunId = runId ∧ l.status ≠ "RESOLVED") ∨
          ∃ o ∈ s.pendingOutcomes, o.burninRunId = runId ∧ o.status ≠ "CLOSED" then
        some "UNRESOLVED_STATE"
      else if runId ∈ s.qualifiedRuns then some "QUALIFICATION_DEPENDENCY"
      else none

/-- The cycle of a link is stored, with as many candidates as it counts, and its run is one of the
    campaign. -/
def linkWhole (s : Source F) (cid : String) (l : Link F) : Bool :=
  match s.db.cycle l.cycleId with
  | none => false
  | some c => d.jsonValid c.payloadJson = true ∧
      c.candidateCount = (s.candidates.filter fun r => r.cycleId = c.cycleId).length ∧
      s.hasRun cid l.burninRunId

/-- The cycles of the campaign are whole, and those of no other. -/
def evidenceWhole (s : Source F) (cid : String) : Option String :=
  if ∃ l ∈ s.links, l.campaignId = cid ∧ ∃ o ∈ s.links, o.cycleId = l.cycleId ∧
    o.campaignId ≠ cid then
    some "SHARED_CYCLE_PROTECTED"
  else if ∃ l ∈ s.links, l.campaignId = cid ∧ linkWhole d s cid l = false then
    some "UNIVERSE_DOMAIN_OR_REPLAY_INCOMPLETE"
  else none

/-- One round of the replay: a cycle without a codec is of an earlier version. -/
def replayCycle (s : Source F) (c : CycleRow F) : Except PyError Unit := do
  match ← a.loads c.payloadJson with
  | .mapping payload =>
    if isNone (Payload.get payload "_storage_codec") then .ok ()
    else (load a s.db c.cycleId).map fun _ => ()
  | _ => .ok ()

/-- The cycles that are linked to a campaign, in the order of their ids. -/
def linkedCycles (s : Source F) (cid : String) : List (CycleRow F) :=
  (sortOn CycleRow.cycleId s.cycles).filter fun c =>
    s.links.any fun l => l.campaignId = cid ∧ l.cycleId = c.cycleId

/-- What the replay of the cycles raises: what is caught is a reason. -/
def replayCycles (s : Source F) (cid : String) : Except PyError (Option String) :=
  match (linkedCycles s cid).forM (replayCycle a s) with
  | .ok _ => .ok none
  | .error (.valueError _) => .ok (some "UNIVERSE_DOMAIN_OR_REPLAY_INCOMPLETE")
  | .error (.keyError _) => .ok (some "UNIVERSE_DOMAIN_OR_REPLAY_INCOMPLETE")
  | .error .typeError => .ok (some "UNIVERSE_DOMAIN_OR_REPLAY_INCOMPLETE")
  | .error e => .error e

/-- The latest snapshot of the campaign says that the runtime has stopped and holds nothing. -/
def runtimeQuiescent (s : Source F) (cid : String) : Option String :=
  match (s.snapshots.filter fun r => r.campaignId = some cid).getLast? with
  | none => some "RUNTIME_QUIESCENCE_EVIDENCE_MISSING"
  | some r =>
    if r.runtimeStatus ∉ [some "STOPPED", some "COMPLETED", some "CLEAN_SHUTDOWN"] ∨
        r.activePositionCount ≠ some 0 ∨ r.pendingOrderCount ≠ some 0 ∨
        r.recoveryActionRequired ≠ some 0 ∨ r.unknownExchangeState ≠ some 0 then
      some "RUNTIME_NOT_PROVEN_QUIESCENT"
    else none

/-- The checks that do not look at the evidence. -/
def campaignOpen (now minAge : F) (s : Source F) (cid : String) : Option String :=
  if s.archiveSchemaAvailable = false then some "ARCHIVE_SCHEMA_OR_OWNERSHIP_UNAVAILABLE"
  else
    match s.campaign cid with
    | none => some "CAMPAIGN_MISSING"
    | some c =>
      if s.rollupsOf cid ≠ [] then some "STATS_ONLY_CAMPAIGN_NOT_FULL_ARCHIVE_ELIGIBLE"
      else (campaignEnded a now minAge c).or <|
        let runs := (s.campaignRuns.filter fun pair => pair.1 = cid).map Prod.snd
        if runs = [] then some "CAMPAIGN_RUN_OWNERSHIP_UNAVAILABLE"
        else if s.authorityRows then some "QUALIFICATION_OR_AUDIT_DEPENDENCY"
        else (runs.findSome? (runEnded s cid)).or <|
          if outstanding ["CLOSED"] s.positions ∨
              outstanding ["FILLED", "CANCELED", "CANCELLED", "REJECTED", "EXPIRED"] s.orders ∨
              outstanding ["RESOLVED"] s.incidents then
            some "OUTSTANDING_OR_UNKNOWN_SAFETY_STATE"
          else s.archiveDependency

/-- `campaign_eligibility`. -/
def campaignEligibility (now minAge : F) (s : Source F) (cid : String) :
    Except PyError (Option String) :=
  match (campaignOpen a now minAge s cid).or (evidenceWhole d s cid) with
  | some reason => .ok (some reason)
  | none => do
    match ← replayCycles a s cid with
    | some reason => return some reason
    | none => return runtimeQuiescent s cid

/-! ## 3. The files -/

/-- The counts of the tables that are modelled. -/
def rowCounts (s : Source F) : List (String × ℕ) :=
  [("burnin_campaign_runs", s.campaignRuns.length), ("burnin_campaigns", s.campaigns.length),
    ("burnin_pending_position_outcomes", s.pendingOutcomes.length),
    ("burnin_pending_reject_labels", s.pendingLabels.length), ("burnin_runs", s.runs.length),
    ("burnin_universe_selection_links", s.links.length), ("storage_archives", s.archives.length),
    ("storage_universe_compaction_checkpoints", s.checkpoints.length),
    ("storage_universe_compaction_rollups", s.rollups.length),
    ("universe_selection_candidates", s.candidates.length),
    ("universe_selection_cycles", s.cycles.length)]

/-- The row of a campaign, as `dict(row)` compares it. -/
def identityOf (s : Source F) (cid : String) : Except PyError (List (Option String)) :=
  match s.campaign cid with
  | some c => .ok c.row
  | none => .error .typeError

/-- `verify_manifest`, of the file that has the name in the manifest. -/
def verifyManifest (now : F) (file : Option (Source F)) (m : Manifest) : Except PyError Unit :=
  match file with
  | none => .error (.runtimeError "No such file or directory")
  | some snap => do
    require (m.state = "VERIFIED" ∧ d.fileHash snap = m.checksum)
      "ARCHIVE_CHECKSUM_OR_STATE_INVALID"
    require (d.intact snap = true) "ARCHIVE_INTEGRITY_FAILED"
    require (d.schemaHash snap = m.schemaHash) "ARCHIVE_SCHEMA_MISMATCH"
    require (rowCounts snap = m.rowCounts) "ARCHIVE_COUNTS_MISMATCH"
    let identity ← identityOf snap m.campaignId
    require (identity = m.identity) "ARCHIVE_DOMAIN_OR_IDENTITY_MISMATCH"
    let reason ← campaignEligibility a d now (FloatNum.ofInt 0) snap m.campaignId
    require (reason = none) "ARCHIVE_DOMAIN_OR_IDENTITY_MISMATCH"

/-- Where an attempt to archive a campaign is. -/
inductive Phase where
  /-- The lock is held, and the campaign was found eligible. -/
  | began (cid : String)
  /-- The checked copy is in its place, without a manifest. -/
  | copied (cid : String)
  deriving DecidableEq, Repr

/-- The database, the files, who holds the locks, and the manifests that were returned. -/
structure World (F : Type) where
  source : Source F
  archive : String → Option (Source F)
  manifest : String → Option Manifest
  working : String → Option Phase
  returned : List Manifest

namespace World

variable (w : World F)

/-- The lock of a file is released. -/
def released (name : String) : World F := { w with working := Function.update w.working name none }

def inPhase (name : String) (phase : Phase) : World F :=
  { w with working := Function.update w.working name (some phase) }

/-- What an attempt leaves: where it raises, its lock is released. -/
def attempt (name : String) (result : Except PyError (World F)) : World F × Except PyError Unit :=
  match result with
  | .ok w' => (w', .ok ())
  | .error e => (w.released name, .error e)

end World

/-- `verified_archive`, until the source was found eligible. -/
def beginArchive (now minAge : F) (cid : String) (w : World F) : World F × Except PyError Unit :=
  if (w.working (d.archiveName cid)).isSome then
    (w, .error (.valueError "ARCHIVE_WORK_ALREADY_IN_PROGRESS"))
  else w.attempt (d.archiveName cid) do
    refuse (campaignEligibility a d now minAge w.source cid)
    return w.inPhase (d.archiveName cid) (.began cid)

/-- The copy, where there is no manifest, until it is in its place. -/
def copyArchive (now : F) (cid : String) (w : World F) : World F × Except PyError Unit :=
  w.attempt (d.archiveName cid) do
    require (d.intact w.source = true) "ARCHIVE_INTEGRITY_FAILED"
    let reason ← campaignEligibility a d now (FloatNum.ofInt 0) w.source cid
    require (reason = none) "ARCHIVE_DOMAIN_INCOMPLETE"
    return { w.inPhase (d.archiveName cid) (.copied cid) with
      archive := Function.update w.archive (d.archiveName cid) (some w.source) }

/-- The manifest of a file. -/
def manifestOf (cid : String) (snap : Source F) (identity : List (Option String)) : Manifest where
  campaignId := cid
  archivePath := d.archiveName cid
  checksum := d.fileHash snap
  schemaHash := d.schemaHash snap
  rowCounts := rowCounts snap
  identity := identity
  state := "VERIFIED"

/-- The manifest is written beside the file. -/
def sealArchive (cid : String) (snap : Source F) (w : World F) : World F × Except PyError Unit :=
  w.attempt (d.archiveName cid) do
    let identity ← identityOf snap cid
    return { w.inPhase (d.archiveName cid) (.began cid) with
      manifest := Function.update w.manifest (d.archiveName cid)
        (some (manifestOf d cid snap identity)) }

/-- `publish`. -/
def publish (now : F) (cid : String) (m : Manifest) (s : Source F) : Except PyError (Source F) := do
  refuse (campaignEligibility a d now (FloatNum.ofInt 0) s cid)
  match s.archives.find? fun r => r.campaignId = cid with
  | some old =>
    require (old.checksum = m.checksum) "ARCHIVE_MANIFEST_CONFLICT"
    return s
  | none => return { s with archives := s.archives ++ [⟨cid, m.checksum, m, .verified⟩] }

/-- The end of `verified_archive`: the manifest is verified at `checked` and recorded at `now`. -/
def publishArchive (checked now : F) (cid : String) (m : Manifest) (w : World F) :
    World F × Except PyError Unit :=
  w.attempt (d.archiveName cid) do
    verifyManifest a d checked (w.archive m.archivePath) m
    require (m.campaignId = cid) "ARCHIVE_IDENTITY_MISMATCH"
    let s ← publish a d now cid m w.source
    return { w.released (d.archiveName cid) with source := s, returned := m :: w.returned }

/-! ## 4. The removal -/

/-- The TEXT columns that are not NULL. -/
def cycleTexts (c : CycleRow F) : List String :=
  [c.cycleId, c.executionMode, c.selectedSymbolsJson, c.configHash, c.universeHash, c.evidenceHash,
    c.gitSha, c.sourceProvenanceJson, c.rankingVersion, c.schemaVersion, c.payloadJson]

def candidateTexts (c : CandidateRow F) : List String :=
  [c.cycleId, c.symbol, c.eligibilityState, c.exclusionReasonsJson, c.observedInputsJson,
    c.rankingComponentsJson, c.evidenceAvailabilityJson]

def linkTexts (l : Link F) : List String :=
  [l.linkId, l.campaignId, l.burninRunId, l.cycleId, l.schemaVersion]

/-- `==` of two scores. -/
def sameScore : Option F → Option F → Bool
  | none, none => true
  | some x, some y => FloatNum.feq x y
  | _, _ => false

/-- `==` of two rows, as tuples. -/
def sameCycle (x y : CycleRow F) : Bool :=
  cycleTexts x = cycleTexts y ∧ FloatNum.feq x.decisionTimestamp y.decisionTimestamp = true ∧
    x.candidateCount = y.candidateCount ∧ x.strategyConfigHash = y.strategyConfigHash

def sameCandidate (x y : CandidateRow F) : Bool :=
  candidateTexts x = candidateTexts y ∧ sameScore x.rankingScore y.rankingScore = true ∧
    x.candidateIndex = y.candidateIndex ∧ x.rankingOrder = y.rankingOrder ∧ x.selected = y.selected

def sameLink (x y : Link F) : Bool :=
  linkTexts x = linkTexts y ∧ FloatNum.feq x.decisionTimestamp y.decisionTimestamp = true

/-- `==` of two lists. -/
def sameList {α : Type} (same : α → α → Bool) : List α → List α → Bool
  | [], [] => true
  | x :: xs, y :: ys => same x y && sameList same xs ys
  | _, _ => false

/-- `source_rows == archived_rows`, and there is a cycle. -/
def rowsHeld (s snap : Source F) (id : String) : Bool :=
  sameList sameLink (s.linksOf id) (snap.linksOf id) ∧
    sameList sameCandidate (s.candidates.filter fun r => r.cycleId = id)
      (snap.candidates.filter fun r => r.cycleId = id) ∧
    sameList sameCycle (s.cycles.filter fun c => c.cycleId = id)
      (snap.cycles.filter fun c => c.cycleId = id) ∧
    s.cycles.any fun c => c.cycleId = id

/-- The number of rows of a cycle. -/
def rowsOf (s : Source F) (id : String) : ℕ :=
  (deletedCounts s.toTables id).1 + (deletedCounts s.toTables id).2.1 +
    (deletedCounts s.toTables id).2.2

/-- An authorization of the archive allows a deletion, or one of the statistics does. -/
def archiveAuthorized (s : Source F) (id : String) (same : ArchiveAuthorization → Bool)
    (sameStats : Authorization → Bool) : Bool :=
  (s.archiveAuthorizations.any fun auth => auth.cycleId = id ∧ same auth = true ∧
    ∃ r ∈ s.archives, r.campaignId = auth.campaignId ∧ r.state ≠ .archived) ||
  authorized s.toTables id sameStats

/-- The triggers let every row of a cycle go. -/
def archiveDeletable (s : Source F) (id : String) : Bool :=
  (s.linksOf id).all (fun l => archiveAuthorized s id (fun auth => auth.campaignId = l.campaignId)
      fun auth => auth.campaignId = l.campaignId) ∧
    (s.candidates.filter fun r => r.cycleId = id).all
      (fun _ => archiveAuthorized s id (fun _ => true) fun _ => true) ∧
    (s.cycles.filter fun c => c.cycleId = id).all fun c =>
      archiveAuthorized s id (fun auth => auth.evidenceHash = c.evidenceHash)
        fun auth => auth.evidenceHash = c.evidenceHash

/-- The body of the loop: the rows are compared, and deleted under an authorization. -/
def removeCycle (snap : Source F) (cid id : String) (s : Source F) :
    Except PyError (Source F × ℕ) := do
  require (rowsHeld s snap id = true) "ARCHIVE_REPLAY_ROWS_MISMATCH"
  let evidenceHash := ((s.db.cycle id).map fun c => c.evidenceHash).getD ""
  if ∃ auth ∈ s.archiveAuthorizations, auth.cycleId = id then .error .integrityError
  else do
    let s₁ :=
      { s with archiveAuthorizations := s.archiveAuthorizations ++ [⟨cid, id, evidenceHash⟩] }
    if archiveDeletable s₁ id = false then .error .integrityError
    else return ({ s₁ with
      toTables := s.toTables.without id
      archiveAuthorizations := s₁.archiveAuthorizations.filter fun auth => auth.cycleId ≠ id },
      rowsOf s id)

/-- The loop over the cycles: it ends when it is late, or at the first cycle without room. -/
def removeCycles (batchRows : ℤ) (late : ℕ → Bool) (snap : Source F) (cid : String) :
    ℕ → ℕ → List String → Source F → Except PyError (Source F × ℕ)
  | _, removed, [], s => .ok (s, removed)
  | i, removed, id :: rest, s =>
    if late i ∨ batchRows < rowsOf s id + removed then .ok (s, removed)
    else do
      let (s', count) ← removeCycle snap cid id s
      removeCycles batchRows late snap cid (i + 1) (removed + count) rest s'

/-- `SELECT DISTINCT cycle_id .. ORDER BY cycle_id LIMIT ..`. -/
def cyclesOf (s : Source F) (cid : String) (limit : ℤ) : List String :=
  (sortedSet ((s.links.filter fun l => l.campaignId = cid).map fun l => l.cycleId)).take limit.toNat

/-- `UPDATE storage_archives SET state`. -/
def setState (s : Source F) (cid : String) : Source F :=
  { s with archives := s.archives.map fun r =>
      if r.campaignId = cid then
        { r with state := if s.links.any fun l => l.campaignId = cid then .removing else .archived }
      else r }

/-- `operation`. -/
def removal (batchRows : ℤ) (now : F) (late : ℕ → Bool) (snap : Source F) (m : Manifest)
    (s : Source F) : Except PyError (Source F × ℕ) := do
  refuse (campaignEligibility a d now (FloatNum.ofInt 0) s m.campaignId)
  require (((s.archives.find? fun r => r.campaignId = m.campaignId).map fun r => r.checksum) =
    some m.checksum) "DURABLE_ARCHIVE_VERIFICATION_MISSING"
  let identity ← identityOf s m.campaignId
  require (identity = m.identity) "SOURCE_CAMPAIGN_IDENTITY_CHANGED_AFTER_ARCHIVE"
  let (s', removed) ← removeCycles batchRows late snap m.campaignId 0 0
    (cyclesOf s m.campaignId batchRows) s
  return (setState s' m.campaignId, removed)

/-- `remove_archived_batch`: the manifest is verified at `checked`, and the rows go at `now`. -/
def removeArchivedBatch (batchRows : ℤ) (checked now : F) (late : ℕ → Bool) (m : Manifest)
    (w : World F) : World F × Except PyError ℕ :=
  match w.archive m.archivePath with
  | none => (w, .error (.runtimeError "No such file or directory"))
  | some snap =>
    match verifyManifest a d checked (some snap) m with
    | .error e => (w, .error e)
    | .ok _ =>
      match removal a d batchRows now late snap m w.source with
      | .ok (s, removed) => ({ w with source := s }, .ok removed)
      | .error e => (w, .error e)

/-! ## 5. Runs -/

/-- One step: another writer, a batch of the statistics, or a part of the archive path. A worker
    that crashes, or whose copy is too slow, abandons its attempt. -/
inductive WorldStep (W : Source F → Source F → Prop) : World F → World F → Prop where
  | written {w : World F} {s : Source F} (allowed : W w.source s)
      (archives : s.archives = w.source.archives)
      (rollups : s.rollups = w.source.rollups)
        (checkpoints : s.checkpoints = w.source.checkpoints) :
      WorldStep W w { w with source := s }
  | batch {w : World F} (k : Compaction F) (now : F) (late : ℕ → Bool) : WorldStep W w
      { w with source := { w.source with
        toTables := (compactStatsOnlyUniverseBatch a k now late w.source.toTables).1 } }
  | began {w : World F} (now minAge : F) (cid : String) :
      WorldStep W w (beginArchive a d now minAge cid w).1
  | copied {w : World F} (now : F) (cid : String)
      (phase : w.working (d.archiveName cid) = some (.began cid))
      (missing : w.manifest (d.archiveName cid) = none) :
        WorldStep W w (copyArchive a d now cid w).1
  | sealed {w : World F} (cid : String) (snap : Source F)
      (phase : w.working (d.archiveName cid) = some (.copied cid))
      (file : w.archive (d.archiveName cid) = some snap) :
        WorldStep W w (sealArchive d cid snap w).1
  | published {w : World F} (checked now : F) (cid : String) (m : Manifest)
      (phase : w.working (d.archiveName cid) = some (.began cid))
      (found : w.manifest (d.archiveName cid) = some m) :
      WorldStep W w (publishArchive a d checked now cid m w).1
  | removed {w : World F} (batchRows : ℤ) (checked now : F) (late : ℕ → Bool) (m : Manifest)
      (held : m ∈ w.returned) : WorldStep W w
        (removeArchivedBatch a d batchRows checked now late m w).1
  | abandoned {w : World F} (name : String) : WorldStep W w (w.released name)

/-- A run. -/
def WorldReaches (W : Source F → Source F → Prop) : World F → World F → Prop :=
  Relation.ReflTransGen (WorldStep a d W)

end AlphaForge.Storage
