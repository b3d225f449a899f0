/-
  File:      AlphaForge/Storage/Compaction.lean
  Subject:   `storage_policy.py`: the stats-only retention of universe cycles.

  A batch takes the oldest cycles that are safe to lose, replaces each by one row of statistics (its
  rollup) and one entry of a hash chain (its checkpoint), and deletes the evidence. It is one
  transaction: whatever is raised in it rolls everything back.

  * `planStatsOnlyUniverse`, `rollupPayload`, `statsOnlyCampaignSummary`,
    `compactStatsOnlyUniverseBatch` -- the functions of the source, over the tables they touch.
  * `compactRow_ok` -- what a cycle that is compacted has done to the tables.

  The columns hold values of their declared types, and no REAL column is NaN (SQLite stores NULL for
  it). The tables of the burn-in, the positions and the orders are read only; what
  `_stats_only_unknown_dependency`, `authorized_ambiguity_ids` and `identity_hash` answer is part of
  what is given, and so is the JSON object of a campaign's provenance. An archive authorization,
  which would allow a deletion too, never outlives the removal that writes it (`Archive.lean`). The
  interrupt of a statement that runs too long ends a batch like the deadline between two statements.
-/
import AlphaForge.Lib.Chained
import AlphaForge.Lib.Dictionary
import AlphaForge.Universe.Evidence
import Mathlib

namespace AlphaForge.Storage

open AlphaForge.Lib AlphaForge.Universe

/-! ## 1. The tables -/

/-- The settings that the retention reads. -/
structure StoragePolicy (F : Type) where
  statsOnlyEnabled : Bool
  batchRows : ℤ
  statsOnlyMinAgeSec : F
  statsOnlyRecentCycles : ℕ
  /-- `policy.identity_hash()`. -/
  identityHash : String
  recent_pos : 0 < statsOnlyRecentCycles

/-- A row of `burnin_universe_selection_links`. -/
structure Link (F : Type) where
  linkId : String
  campaignId : String
  burninRunId : String
  cycleId : String
  decisionTimestamp : F
  schemaVersion : String

/-- A row of `burnin_campaigns`. -/
structure Campaign (F : Type) where
  campaignId : String
  configHash : String
  strategyConfigHash : String
  gitCommit : String
  /-- `json.loads(source_provenance_json or "{}")`; `none` where it raises. -/
  sourceProvenance : Option (Payload F)
  latestQualificationId : Option String
  qualificationStatus : Option String
  campaignStatus : String
  completedAt : Option String
  workerPid : Option ℤ
  /-- The row, as `SELECT *` gives it. -/
  row : List (Option String)

/-- A row of `burnin_runs`. -/
structure BurninRun where
  burninRunId : String
  executionMode : String
  gitCommit : String
  configHash : String
  status : String
  openTradeCount : Option ℤ

/-- A row of `burnin_pending_reject_labels`. -/
structure PendingLabel where
  pendingLabelId : String
  campaignId : String
  burninRunId : String
  decisionTimestamp : String
  status : String
  evidenceComplete : ℤ

/-- A row of `burnin_pending_position_outcomes`. -/
structure PendingOutcome where
  campaignId : String
  burninRunId : String
  decisionTime : Option String
  entryTime : String
  status : String

/-- A row of `runtime_state_snapshots`, in the order of the ids. -/
structure RuntimeSnapshot where
  campaignId : Option String
  activePositionCount : Option ℤ
  pendingOrderCount : Option ℤ
  recoveryActionRequired : Option ℤ
  unknownExchangeState : Option ℤ
  runtimeStatus : Option String

/-- A row of `storage_universe_compaction_rollups`, less its hash. -/
structure RollupCore (F : Type) where
  cycleId : String
  campaignId : String
  burninRunId : String
  decisionTimestamp : F
  executionMode : String
  campaignConfigHash : String
  configHash : String
  strategyConfigHash : Option String
  universeHash : String
  evidenceHash : String
  gitSha : String
  candidateCount : ℤ
  eligibleCount : ℤ
  selectedCount : ℤ
  rejectedCount : ℤ
  stateCountsJson : String
  exclusionReasonCountsJson : String
  scoreSummaryJson : String
  selectedSymbolsJson : String
  sourceRowsHash : String
  policyHash : String
  compactedAt : String
  schemaVersion : String

/-- A row of `storage_universe_compaction_rollups`. -/
structure Rollup (F : Type) extends RollupCore F where
  rollupHash : String

/-- A row of `storage_universe_compaction_checkpoints`, less its hash. -/
structure CheckpointCore where
  checkpointId : String
  campaignId : String
  sequence : ℤ
  cycleId : String
  previousCheckpointHash : Option String
  cumulativeCycles : ℤ
  cumulativeCandidates : ℤ
  cumulativeEligible : ℤ
  cumulativeSelected : ℤ
  cumulativeRejected : ℤ
  createdAt : String
  schemaVersion : String

/-- A row of `storage_universe_compaction_checkpoints`. -/
structure Checkpoint extends CheckpointCore where
  checkpointHash : String

/-- A row of `storage_stats_only_authorizations`, less its token. -/
structure Authorization where
  campaignId : String
  cycleId : String
  evidenceHash : String
  rollupHash : String

/-- The tables. -/
structure Tables (F : Type) where
  cycles : List (CycleRow F)
  candidates : List (CandidateRow F)
  links : List (Link F)
  campaigns : List (Campaign F)
  /-- Campaign and run of the rows of `burnin_campaign_runs`. -/
  campaignRuns : List (String × String)
  runs : List BurninRun
  pendingLabels : List PendingLabel
  pendingOutcomes : List PendingOutcome
  snapshots : List RuntimeSnapshot
  /-- The runs in `burnin_qualification_snapshots`; nothing where there is no such table. -/
  qualifiedRuns : List String
  /-- The required tables and columns exist. -/
  schemaAvailable : Bool
  /-- `_stats_only_unknown_dependency(conn)`. -/
  unknownDependency : Option String
  /-- `status` of the positions, where there is such a table; without the column, one unknown. -/
  positions : Option (List (Option String))
  orders : Option (List (Option String))
  /-- `remediation_status` of the reconciliation incidents. -/
  incidents : Option (List (Option String))
  /-- `authorized_ambiguity_ids(conn, campaign_id, run_id)`. -/
  authorizedAmbiguityIds : String → String → List String
  rollups : List (Rollup F)
  checkpoints : List Checkpoint
  authorizations : List Authorization

variable {F B : Type} [FloatNum F] (a : Archive F B)

/-- Time, and the cycle where times are equal: the order of every query. -/
abbrev Moment := WithBot ExtRat ×ₗ String

def cycleMoment (c : CycleRow F) : Moment := toLex (order c.decisionTimestamp, c.cycleId)

def Link.moment (l : Link F) : Moment := toLex (order l.decisionTimestamp, l.cycleId)

def Rollup.moment (r : Rollup F) : Moment := toLex (order r.decisionTimestamp, r.cycleId)

namespace Tables

variable (t : Tables F)

omit [FloatNum F] in
/-- The run is one of the campaign's. -/
def hasRun (campaignId run : String) : Prop :=
  ∃ pair ∈ t.campaignRuns, pair.1 = campaignId ∧ pair.2 = run

omit [FloatNum F] in
instance (campaignId run : String) : Decidable (t.hasRun campaignId run) :=
  inferInstanceAs (Decidable (∃ pair ∈ t.campaignRuns, _))

/-- The tables of the evidence. -/
def db : Db F := ⟨t.cycles, t.candidates, some (t.rollups.map fun r => r.cycleId)⟩

def campaign (id : String) : Option (Campaign F) := t.campaigns.find? fun c => c.campaignId = id

def run (id : String) : Option BurninRun := t.runs.find? fun r => r.burninRunId = id

/-- The links of a cycle. -/
def linksOf (cycleId : String) : List (Link F) := t.links.filter fun l => l.cycleId = cycleId

/-- The rollups of a campaign, in the order in which they were written. -/
def rollupsOf (campaignId : String) : List (Rollup F) :=
  t.rollups.filter fun r => r.campaignId = campaignId

def checkpointsOf (campaignId : String) : List Checkpoint :=
  t.checkpoints.filter fun c => c.campaignId = campaignId

/-- The links of a campaign that come after a link. -/
def newerLinks (l : Link F) : List (Link F) :=
  t.links.filter fun newer => newer.campaignId = l.campaignId ∧ l.moment < newer.moment

end Tables

/-! ## 2. What is safe to lose -/

/-- A row of the query: a cycle, a link of it and the campaign of the link. -/
structure PlanRow (F : Type) where
  cycle : CycleRow F
  link : Link F
  campaign : Campaign F

/-- The conditions of the query on a joined row. -/
def Selected (policy : StoragePolicy F) (now : F) (t : Tables F) (row : PlanRow F)
    (run : BurninRun) : Prop :=
  row.cycle.executionMode = "PAPER" ∧ run.executionMode = "PAPER" ∧
    run.gitCommit = row.campaign.gitCommit ∧ run.configHash = row.campaign.configHash ∧
    t.hasRun row.link.campaignId row.link.burninRunId ∧
    row.cycle.decisionTimestamp < now - policy.statsOnlyMinAgeSec ∧
    policy.statsOnlyRecentCycles ≤ (t.newerLinks row.link).length ∧
    ∀ r ∈ t.rollups, r.cycleId ≠ row.cycle.cycleId

instance (policy : StoragePolicy F) (now : F) (t : Tables F) (row : PlanRow F) (run : BurninRun) :
    Decidable (Selected policy now t row run) := inferInstanceAs (Decidable (_ ∧ _))

/-- The row of the query for a cycle and a link. -/
def joinRow (policy : StoragePolicy F) (now : F) (t : Tables F) (c : CycleRow F) (l : Link F) :
    Option (PlanRow F) :=
  (t.campaign l.campaignId).bind fun campaign =>
    (t.run l.burninRunId).bind fun run =>
      if Selected policy now t ⟨c, l, campaign⟩ run then some ⟨c, l, campaign⟩ else none

/-- The rows of the query, oldest first. -/
def candidateRows (policy : StoragePolicy F) (now : F) (t : Tables F) : List (PlanRow F) :=
  (sortOn cycleMoment t.cycles).flatMap fun c =>
    (t.linksOf c.cycleId).filterMap (joinRow policy now t c)

/-- `_timestamp` of a text. -/
def timestamp (text : String) : Except PyError F :=
  match a.isoTimestamp (text.replace "Z" "+00:00") with
  | some x => .ok x
  | none => .error (.valueError "Invalid isoformat string")

/-- `text or ""`, as a condition. -/
def present (text : Option String) : Bool := text.getD "" ≠ ""

/-- `UNRESOLVED_REJECT_SQL`. -/
def PendingLabel.unresolved (l : PendingLabel) : Bool :=
  upper l.status ≠ "RESOLVED" ∨ l.evidenceComplete ≠ 1

/-- `decision_time or entry_time`. -/
def PendingOutcome.since (o : PendingOutcome) : String :=
  if present o.decisionTime then o.decisionTime.getD "" else o.entryTime

/-- The texts of the times of what is unresolved in a run. -/
def unresolvedTexts (t : Tables F) (campaignId runId : String) : List String :=
  ((t.pendingLabels.filter fun l => l.campaignId = campaignId ∧ l.burninRunId = runId ∧
      l.unresolved = true ∧ l.pendingLabelId ∉ t.authorizedAmbiguityIds campaignId runId).map
    PendingLabel.decisionTimestamp) ++
  ((t.pendingOutcomes.filter fun o => o.campaignId = campaignId ∧ o.burninRunId = runId ∧
      upper o.status ≠ "CLOSED").map PendingOutcome.since)

/-- `unresolved_times`. -/
def unresolvedTimes (t : Tables F) (campaignId runId : String) : Except PyError (List F) :=
  (unresolvedTexts t campaignId runId).mapM (timestamp a)

/-- `min(times)`. -/
def minOf : List F → Option F
  | [] => none
  | x :: rest => some (rest.foldl pyMin x)

/-- `unresolved_times and float(row["decision_timestamp"]) >= min(unresolved_times)`. -/
def windowProtected (times : List F) (decided : F) : Bool :=
  match minOf times with
  | none => false
  | some first => first ≤ decided

/-- The latest snapshot of a campaign has all four counters, and they are zero. -/
def runtimeResolved (t : Tables F) (campaignId : String) : Bool :=
  match (t.snapshots.filter fun s => s.campaignId = some campaignId).getLast? with
  | none => false
  | some s => s.activePositionCount = some 0 ∧ s.pendingOrderCount = some 0 ∧
      s.recoveryActionRequired = some 0 ∧ s.unknownExchangeState = some 0

/-- What blocks every cycle of a campaign. -/
def campaignBlock (policy : StoragePolicy F) (t : Tables F) (c : Campaign F) : Option String :=
  match c.sourceProvenance with
  | none => some "STATS_ONLY_CAMPAIGN_PROVENANCE_INVALID"
  | some provenance =>
    if ¬ (provenance.get "storage_retention_mode").Same (.text "PAPER_STATS_ONLY") ∨
        ¬ (provenance.get "storage_policy_hash").Same (.text policy.identityHash) then
      some "CAMPAIGN_NOT_BOUND_TO_STATS_ONLY_POLICY"
    else if present c.latestQualificationId ∨ present c.qualificationStatus then
      some "QUALIFICATION_AUTHORITY_PROTECTED"
    else if ∃ run ∈ t.qualifiedRuns, t.hasRun c.campaignId run then
      some "QUALIFICATION_AUTHORITY_PROTECTED"
    else none

/-- What blocks one cycle for good. -/
def cycleBlock (t : Tables F) (row : PlanRow F) : Option String :=
  if (t.linksOf row.cycle.cycleId).length ≠ 1 then some "SHARED_CYCLE_PROTECTED"
  else if FloatNum.feq row.cycle.decisionTimestamp row.link.decisionTimestamp = false then
    some "CYCLE_LINK_TIMESTAMP_MISMATCH"
  else if row.cycle.gitSha ≠ row.campaign.gitCommit then some "CYCLE_CAMPAIGN_IDENTITY_MISMATCH"
  else if row.cycle.strategyConfigHash ≠ some row.campaign.strategyConfigHash then
    some "CYCLE_CAMPAIGN_IDENTITY_MISMATCH"
  else none

/-- What blocks a cycle for the state of its campaign and its run. -/
def stateBlock (t : Tables F) (row : PlanRow F) : Option String :=
  if runtimeResolved t row.campaign.campaignId = false then some "RUNTIME_SAFETY_STATE_UNRESOLVED"
  else
    match unresolvedTimes a t row.campaign.campaignId row.link.burninRunId with
    | .error _ => some "UNRESOLVED_STATE_TIME_UNKNOWN"
    | .ok times =>
      if windowProtected times row.cycle.decisionTimestamp then
        some "UNRESOLVED_OUTCOME_WINDOW_PROTECTED"
      else none

/-- `cycle_rows`. -/
def PlanRow.rows (row : PlanRow F) : ℤ := row.cycle.candidateCount + 2

/-- The first reason against a row; `none` where the row could be chosen. -/
def blockedReason (policy : StoragePolicy F) (t : Tables F) (row : PlanRow F) : Option String :=
  (campaignBlock policy t row.campaign).or <| (cycleBlock t row).or <| (stateBlock a t row).or <|
    if policy.batchRows < row.rows then some "CYCLE_EXCEEDS_MAINTENANCE_ROW_BUDGET" else none

/-- What the loop over the rows leaves. -/
structure Scan (F : Type) where
  chosen : List (PlanRow F)
  budget : ℤ
  scanned : ℕ
  blocked : List String

/-- The loop over the rows: it ends at the first row for which there is no room left. -/
def scanRows (policy : StoragePolicy F) (t : Tables F) : ℤ → List (PlanRow F) → Scan F
  | budget, [] => ⟨[], budget, 0, []⟩
  | budget, row :: rest =>
    match blockedReason a policy t row with
    | some reason =>
      let s := scanRows policy t budget rest
      { s with scanned := s.scanned + 1, blocked := reason :: s.blocked }
    | none =>
      if policy.batchRows < budget + row.rows then ⟨[], budget, 1, []⟩
      else
        let s := scanRows policy t (budget + row.rows) rest
        { s with chosen := row :: s.chosen, scanned := s.scanned + 1 }

/-- The answer of the plan: an early one has a reason only. -/
inductive Plan (F : Type) where
  | stopped (reason : String)
  | planned (scan : Scan F)

/-- The rows of a table are not all in a terminal state. -/
def outstanding (terminal : List String) : Option (List (Option String)) → Bool
  | none => false
  | some statuses => statuses.any fun s =>
    match s with
    | none => true
    | some status => upper status ∉ terminal

/-- `plan_stats_only_universe`. -/
def planStatsOnlyUniverse (policy : StoragePolicy F) (now : F) (t : Tables F) : Plan F :=
  if policy.statsOnlyEnabled = false then .stopped "STATS_ONLY_DISABLED"
  else if t.schemaAvailable = false then .stopped "STATS_ONLY_SCHEMA_OR_OWNERSHIP_UNAVAILABLE"
  else
    match t.unknownDependency with
    | some table => .stopped table
    | none =>
      if outstanding ["CLOSED"] t.positions ∨
          outstanding ["FILLED", "CANCELED", "CANCELLED", "REJECTED", "EXPIRED"] t.orders ∨
          outstanding ["RESOLVED"] t.incidents then
        .stopped "OUTSTANDING_OR_UNKNOWN_SAFETY_STATE"
      else .planned (scanRows a policy t 0 (candidateRows policy now t))

/-- `reason` of a plan. -/
def Scan.reason (s : Scan F) : String :=
  if s.chosen ≠ [] then "OLDEST_ELIGIBLE_PAPER_CYCLES"
  else s.blocked.head?.getD "PROTECTED_OR_TOO_RECENT"

/-! ## 3. The statistics of a cycle -/

/-- `payload[key]`. -/
def item (payload : Payload F) (key : String) : Except PyError (Value F) :=
  match payload.lookup key with
  | some v => .ok v
  | none => .error (.keyError key)

/-- A value for a TEXT column that must not be NULL. -/
def textColumn : Value F → Except PyError String
  | .text s => .ok s
  | _ => .error .integrityError

/-- A value for a TEXT column. -/
def optionalColumn : Value F → Except PyError (Option String)
  | .none => .ok none
  | v => (textColumn v).map some

def dictionary : Value F → Except PyError (Payload F)
  | .mapping entries => .ok entries
  | _ => .error .typeError

/-- The dictionaries of a list. -/
def dictionaries : Value F → Except PyError (List (Payload F))
  | .list items => items.mapM dictionary
  | _ => .error .typeError

/-- `counts[key] = counts.get(key, 0) + 1`. -/
def bump (counts : List (String × ℤ)) (key : String) : List (String × ℤ) :=
  assign counts key ((counts.lookup key).getD 0 + 1)

/-- The counts of the texts. -/
def countAll (texts : List String) : List (String × ℤ) := texts.foldl bump []

/-- `state_counts.get("ELIGIBLE", 0)`. -/
def eligibleOf (states : List String) : ℤ := ((countAll states).lookup "ELIGIBLE").getD 0

/-- `map(str, candidate.get("reasons") or [])`. -/
def reasonTexts (v : Value F) : Except PyError (List String) :=
  if v.truthy = false then .ok []
  else
    match v with
    | .list items => .ok (items.map fun x => x.str a.toBuiltins)
    | .mapping entries => .ok (entries.map Prod.fst)
    | .text s => .ok (s.toList.map fun c => String.singleton c)
    | _ => .error .typeError

/-- `str(candidate["state"])`. -/
def stateText (candidate : Payload F) : Except PyError String :=
  (item candidate "state").map fun v => v.str a.toBuiltins

/-- The counts as a dictionary. -/
def countValue (counts : List (String × ℤ)) :
    Value F := .mapping (counts.map fun e => (e.1, .int e.2))

/-- `float(row["score"])`, where there is one. -/
def scoresOf (candidates : List (Payload F)) : Except PyError (List F) :=
  (candidates.filter fun c => isNone (c.get "score") = false).mapM fun c =>
    match toFloat a.toHost (c.get "score") with
    | some x => .ok x
    | none => .error (.valueError "could not convert string to float")

/-- `_score_summary`; `sum` is `sum(scores)`. -/
def scoreSummary (sum : List F → F) (scores : List F) : Value F :=
  .mapping
    [("count", .int scores.length),
      ("min", ((minOf scores).map .float).getD .none),
      ("max", (match scores with | [] => .none | x :: rest => .float (rest.foldl pyMax x))),
      ("sum", .float (if scores = [] then FloatNum.ofInt 0 else sum scores))]

/-- A link as it is hashed. -/
def Link.asDict (l : Link F) : Value F :=
  .mapping
    [("link_id", .text l.linkId), ("campaign_id", .text l.campaignId),
      ("burnin_run_id", .text l.burninRunId), ("cycle_id", .text l.cycleId),
      ("decision_timestamp", .float l.decisionTimestamp), ("schema_version", .text l.schemaVersion)]

/-- `core`. -/
def RollupCore.asDict (r : RollupCore F) : Value F :=
  .mapping
    [("cycle_id", .text r.cycleId), ("campaign_id", .text r.campaignId),
      ("burnin_run_id", .text r.burninRunId), ("decision_timestamp", .float r.decisionTimestamp),
      ("execution_mode", .text r.executionMode),
      ("campaign_config_hash", .text r.campaignConfigHash), ("config_hash", .text r.configHash),
      ("strategy_config_hash", optionalText r.strategyConfigHash),
      ("universe_hash", .text r.universeHash), ("evidence_hash", .text r.evidenceHash),
      ("git_sha", .text r.gitSha), ("candidate_count", .int r.candidateCount),
      ("eligible_count", .int r.eligibleCount), ("selected_count", .int r.selectedCount),
      ("rejected_count", .int r.rejectedCount), ("state_counts_json", .text r.stateCountsJson),
      ("exclusion_reason_counts_json", .text r.exclusionReasonCountsJson),
      ("score_summary_json", .text r.scoreSummaryJson),
      ("selected_symbols_json", .text r.selectedSymbolsJson),
      ("source_rows_hash", .text r.sourceRowsHash), ("policy_hash", .text r.policyHash),
      ("compacted_at", .text r.compactedAt), ("schema_version", .text r.schemaVersion)]

/-- `STATS_ONLY_SCHEMA_VERSION`. -/
def statsOnlySchemaVersion : String := "paper-universe-stats-only-v1"

/-- What `_rollup_payload` is given besides the tables and the row. -/
structure Compaction (F : Type) where
  policy : StoragePolicy F
  compactedAt : String
  /-- `sum(scores)`. -/
  sum : List F → F

/-- `core`, from the payload and its candidates. -/
def rollupCore (k : Compaction F) (t : Tables F) (row : PlanRow F) (payload : Payload F)
    (candidates : List (Payload F)) : Except PyError (RollupCore F) := do
  let states ← candidates.mapM (stateText a)
  let reasons ← candidates.mapM fun c => reasonTexts a (c.get "reasons")
  require ((t.linksOf row.cycle.cycleId).length = 1) "SHARED_OR_MISSING_CYCLE_LINK"
  let configHash ← (item payload "config_hash") >>= textColumn
  let strategyConfigHash ← optionalColumn (payload.get "strategy_config_hash")
  let universeHash ← (item payload "universe_hash") >>= textColumn
  let evidenceHash ← (item payload "evidence_hash") >>= textColumn
  let gitSha ← (item payload "git_sha") >>= textColumn
  let scores ← scoresOf a candidates
  let scoreJson ← a.dumpsStrict (scoreSummary k.sum scores)
  let symbols ← item payload "selected_symbols"
  let sourceRows ← canonicalHash a.toHost (.mapping
    [("selection", .mapping payload),
      ("links", .list ((t.linksOf row.cycle.cycleId).map Link.asDict))])
  return {
    cycleId := row.cycle.cycleId
    campaignId := row.link.campaignId
    burninRunId := row.link.burninRunId
    decisionTimestamp := row.cycle.decisionTimestamp
    executionMode := "PAPER"
    campaignConfigHash := row.campaign.configHash
    configHash := configHash
    strategyConfigHash := strategyConfigHash
    universeHash := universeHash
    evidenceHash := evidenceHash
    gitSha := gitSha
    candidateCount := candidates.length
    eligibleCount := eligibleOf states
    selectedCount := candidates.countP fun c => (c.get "selected").truthy
    rejectedCount := candidates.length - eligibleOf states
    stateCountsJson := a.compact (countValue (countAll states))
    exclusionReasonCountsJson := a.compact (countValue (countAll (reasons.map sortedSet).flatten))
    scoreSummaryJson := scoreJson
    selectedSymbolsJson := a.compact symbols
    sourceRowsHash := sourceRows
    policyHash := k.policy.identityHash
    compactedAt := k.compactedAt
    schemaVersion := statsOnlySchemaVersion }

/-- `_rollup_payload`. -/
def rollupPayload (k : Compaction F) (t : Tables F) (row : PlanRow F) :
    Except PyError (Rollup F) := do
  let payload ← load a t.db row.cycle.cycleId
  let candidates ← (item payload "candidates") >>= dictionaries
  let core ← rollupCore a k t row payload candidates
  let hash ← canonicalHash a.toHost core.asDict
  return { core with rollupHash := hash }

/-! ## 4. The ledger -/

/-- The running totals. -/
structure Totals where
  cycles : ℤ
  candidates : ℤ
  eligible : ℤ
  selected : ℤ
  rejected : ℤ
  deriving DecidableEq, Repr

namespace Totals

def zero : Totals := ⟨0, 0, 0, 0, 0⟩

/-- The totals with one more cycle. -/
def add (s : Totals) (r : Rollup F) : Totals :=
  ⟨s.cycles + 1, s.candidates + r.candidateCount, s.eligible + r.eligibleCount,
    s.selected + r.selectedCount, s.rejected + r.rejectedCount⟩

end Totals

namespace CheckpointCore

variable (c : CheckpointCore)

def totals : Totals :=
  ⟨c.cumulativeCycles, c.cumulativeCandidates, c.cumulativeEligible, c.cumulativeSelected,
    c.cumulativeRejected⟩

def asDict : Value F :=
  .mapping
    [("checkpoint_id", .text c.checkpointId), ("campaign_id", .text c.campaignId),
      ("sequence", .int c.sequence), ("cycle_id", .text c.cycleId),
      ("previous_checkpoint_hash", optionalText c.previousCheckpointHash),
      ("cumulative_cycles", .int c.cumulativeCycles),
      ("cumulative_candidates", .int c.cumulativeCandidates),
      ("cumulative_eligible", .int c.cumulativeEligible),
      ("cumulative_selected", .int c.cumulativeSelected),
      ("cumulative_rejected", .int c.cumulativeRejected),
      ("created_at", .text c.createdAt), ("schema_version", .text c.schemaVersion)]

end CheckpointCore

/-- The answer of `stats_only_campaign_summary`. -/
inductive CampaignSummary where
  | noStatsOnlyCompaction
  | verified (totals : Totals) (latestCheckpointHash : Option String)
  deriving DecidableEq, Repr

/-- The check of one rollup. -/
def verifyRollup (r : Rollup F) : Except PyError Unit := do
  let hash ← canonicalHash a.toHost r.toRollupCore.asDict
  require (hash = r.rollupHash) ("STATS_ONLY_ROLLUP_HASH_INVALID:" ++ r.cycleId)

/-- The loop over the checkpoints; the third list holds the rollups from `rollups[sequence - 1]` on,
    and `sequence` is one less than in the source. -/
def verifyCheckpoints (rollups : List (Rollup F)) :
    ℕ → Option String → Totals → List (Rollup F) → List Checkpoint →
      Except PyError (Totals × Option String)
  | _, prior, cumulative, _, [] => .ok (cumulative, prior)
  | sequence, prior, cumulative, ahead, c :: rest => do
    require (c.sequence = sequence + 1 ∧ c.previousCheckpointHash = prior)
      "STATS_ONLY_CHECKPOINT_CHAIN_INVALID"
    match rollups.find? fun r => r.cycleId = c.cycleId with
    | none => .error (.valueError "STATS_ONLY_CHECKPOINT_ROLLUP_MISSING")
    | some rollup => do
      require ((ahead.head?.map fun r => r.cycleId) = some c.cycleId)
        "STATS_ONLY_CHECKPOINT_ORDER_INVALID"
      require (c.totals = cumulative.add rollup) "STATS_ONLY_CHECKPOINT_TOTAL_INVALID"
      let hash ← canonicalHash a.toHost c.toCheckpointCore.asDict
      require (hash = c.checkpointHash) "STATS_ONLY_CHECKPOINT_HASH_INVALID"
      verifyCheckpoints rollups (sequence + 1) (some hash) (cumulative.add rollup) ahead.tail rest

/-- `stats_only_campaign_summary`. -/
def statsOnlyCampaignSummary (t : Tables F) (campaignId : String) :
    Except PyError CampaignSummary :=
  let rollups := sortOn Rollup.moment (t.rollupsOf campaignId)
  let checkpoints := sortOn (fun c : Checkpoint => c.sequence) (t.checkpointsOf campaignId)
  if rollups.isEmpty ∧ checkpoints.isEmpty then .ok .noStatsOnlyCompaction
  else if rollups.length ≠ checkpoints.length then
    .error (.valueError "STATS_ONLY_LEDGER_INCOMPLETE")
  else do
    rollups.forM (verifyRollup a)
    let (totals, latest) ← verifyCheckpoints a rollups 0 none Totals.zero rollups checkpoints
    return .verified totals latest

/-! ## 5. A batch -/

/-- INSERT into the rollups: their ids and their hashes are unique. -/
def insertRollup (t : Tables F) (r : Rollup F) : Except PyError (Tables F) :=
  if ∃ q ∈ t.rollups, q.cycleId = r.cycleId ∨ q.rollupHash = r.rollupHash then
    .error .integrityError
  else .ok { t with rollups := t.rollups ++ [r] }

/-- INSERT into the checkpoints, whose cycle must have a rollup. -/
def insertCheckpoint (t : Tables F) (c : Checkpoint) : Except PyError (Tables F) :=
  if (∃ q ∈ t.checkpoints, q.checkpointId = c.checkpointId ∨ q.cycleId = c.cycleId ∨
        q.checkpointHash = c.checkpointHash ∨
        (q.campaignId = c.campaignId ∧ q.sequence = c.sequence)) ∨
      ¬ ∃ r ∈ t.rollups, r.cycleId = c.cycleId then
    .error .integrityError
  else .ok { t with checkpoints := t.checkpoints ++ [c] }

/-- INSERT of an authorization, with the token of the batch. -/
def insertAuthorization (t : Tables F) (auth : Authorization) : Except PyError (Tables F) :=
  if ∃ q ∈ t.authorizations, q.cycleId = auth.cycleId then .error .integrityError
  else .ok { t with authorizations := t.authorizations ++ [auth] }

/-- The latest checkpoint of a campaign: `ORDER BY sequence DESC LIMIT 1`. -/
def latestCheckpoint (t : Tables F) (campaignId : String) : Option Checkpoint :=
  (sortOn (fun c : Checkpoint => c.sequence) (t.checkpointsOf campaignId)).getLast?

/-- The next checkpoint of a campaign, less its hash. -/
def checkpointCore (k : Compaction F) (row : PlanRow F) (prior : Option Checkpoint) (r : Rollup F) :
    CheckpointCore :=
  let sequence := (prior.map fun c => c.sequence).getD 0 + 1
  let totals := ((prior.map fun c => c.totals).getD Totals.zero).add r
  { checkpointId := "stats-only:" ++ row.link.campaignId ++ ":" ++ toString sequence
    campaignId := row.link.campaignId
    sequence := sequence
    cycleId := row.cycle.cycleId
    previousCheckpointHash := prior.map fun c => c.checkpointHash
    cumulativeCycles := totals.cycles
    cumulativeCandidates := totals.candidates
    cumulativeEligible := totals.eligible
    cumulativeSelected := totals.selected
    cumulativeRejected := totals.rejected
    createdAt := k.compactedAt
    schemaVersion := statsOnlySchemaVersion }

/-- An authorization allows the deletion of a row of its cycle that also has what `same` asks. -/
def authorized (t : Tables F) (cycleId : String) (same : Authorization → Bool) : Bool :=
  t.authorizations.any fun auth => auth.cycleId = cycleId ∧ same auth = true ∧
    ∃ r ∈ t.rollups, r.cycleId = auth.cycleId ∧ auth.rollupHash = r.rollupHash

/-- The triggers of the three tables let every row of a cycle go. -/
def deletable (t : Tables F) (cycleId : String) : Bool :=
  (t.linksOf cycleId).all (fun l => authorized t cycleId fun auth => auth.campaignId =
    l.campaignId) ∧
    (t.candidates.filter fun r => r.cycleId = cycleId).all
    (fun _ => authorized t cycleId fun _ => true) ∧
    (t.cycles.filter fun c => c.cycleId = cycleId).all fun c =>
      authorized t cycleId fun auth => auth.evidenceHash = c.evidenceHash

/-- The tables without the evidence of a cycle. -/
def Tables.without (t : Tables F) (cycleId : String) : Tables F :=
  { t with
    links := t.links.filter fun l => l.cycleId ≠ cycleId
    candidates := t.candidates.filter fun r => r.cycleId ≠ cycleId
    cycles := t.cycles.filter fun c => c.cycleId ≠ cycleId }

/-- `(deleted_links, deleted_candidates, deleted_cycle)`. -/
def deletedCounts (t : Tables F) (cycleId : String) : ℕ × ℕ × ℕ :=
  ((t.linksOf cycleId).length, (t.candidates.filter fun r => r.cycleId = cycleId).length,
    (t.cycles.filter fun c => c.cycleId = cycleId).length)

/-- The three DELETEs, and their check. -/
def deleteEvidence (t : Tables F) (cycleId : String) (r : Rollup F) : Except PyError (Tables F) :=
  if deletable t cycleId = false then .error .integrityError
  else if (deletedCounts t cycleId).1 ≠ 1 ∨ ((deletedCounts t cycleId).2.1 : ℤ) ≠ r.candidateCount ∨
      (deletedCounts t cycleId).2.2 ≠ 1 then
    .error (.valueError "STATS_ONLY_DELETE_COUNT_MISMATCH")
  else .ok (t.without cycleId)

/-- The statements for one row, once its rollup is there: the tables, and the number of rows that
    were deleted. -/
def writeRow (k : Compaction F) (row : PlanRow F) (t : Tables F) (r : Rollup F) :
    Except PyError (Tables F × ℕ) :=
  if ∃ q ∈ t.rollups, q.cycleId = row.cycle.cycleId then
    .error (.valueError "STATS_ONLY_SOURCE_AND_TOMBSTONE_BOTH_PRESENT")
  else do
    let t₁ ← insertRollup t r
    let core := checkpointCore k row (latestCheckpoint t₁ row.link.campaignId) r
    let hash ← canonicalHash a.toHost (core.asDict : Value F)
    let t₂ ← insertCheckpoint t₁ { core with checkpointHash := hash }
    let t₃ ← insertAuthorization t₂
      ⟨row.link.campaignId, row.cycle.cycleId, r.evidenceHash, r.rollupHash⟩
    let deleted := deletedCounts t₃ row.cycle.cycleId
    let t₄ ← deleteEvidence t₃ row.cycle.cycleId r
    return ({ t₄ with
      authorizations := t₄.authorizations.filter fun auth => auth.cycleId ≠ row.cycle.cycleId },
      deleted.1 + deleted.2.1 + deleted.2.2)

/-- `MAINTENANCE_TIME_BUDGET_EXHAUSTED`. -/
def budgetExhausted : PyError := .valueError "MAINTENANCE_TIME_BUDGET_EXHAUSTED"

/-- The check of the campaign of a row, once in a batch. -/
def validateCampaign (t : Tables F) (validated : List String) (campaignId : String) :
    Except PyError Unit :=
  if campaignId ∈ validated then .ok ()
  else (statsOnlyCampaignSummary a t campaignId).map fun _ => ()

/-- One round of the loop: the look at the clock, the check of a campaign that is new in the batch,
    the rollup, the second look and the statements. -/
def compactRow (k : Compaction F) (late : ℕ → Bool) (i : ℕ) (validated : List String)
    (row : PlanRow F) (t : Tables F) : Except PyError (Tables F × ℕ) := do
  if late (2 * i) then .error budgetExhausted
  else do
    validateCampaign a t validated row.link.campaignId
    let r ← rollupPayload a k t row
    if late (2 * i + 1) then .error budgetExhausted
    else writeRow a k row t r

/-- The loop over the plan: the tables, and the number of rows that were deleted. -/
def compactRows (k : Compaction F) (late : ℕ → Bool) :
    ℕ → List String → List (PlanRow F) → Tables F → Except PyError (Tables F × ℕ)
  | _, _, [], t => .ok (t, 0)
  | i, validated, row :: rest, t => do
    let (t', deleted) ← compactRow a k late i validated row t
    let (t'', others) ← compactRows k late (i + 1) (row.link.campaignId :: validated) rest t'
    return (t'', deleted + others)

/-- The report of a batch. -/
structure BatchReport where
  rowsRemoved : ℕ
  cyclesCompacted : ℕ
  reason : String
  blockers : List String
  scannedCycles : ℕ
  eligibleCycles : ℕ
  plannedRows : ℤ
  deriving DecidableEq, Repr

/-- `operation`: the clock is read at `now` and looked at twice a row. A plan that stops early has
    no `scanned_cycles`. -/
def operation (k : Compaction F) (now : F) (late : ℕ → Bool) (t : Tables F) :
    Except PyError (Tables F × BatchReport) :=
  match planStatsOnlyUniverse a k.policy now t with
  | .stopped _ => .error (.keyError "scanned_cycles")
  | .planned scan => do
    let (t', removed) ← compactRows a k late 0 [] scan.chosen t
    return (t', {
      rowsRemoved := removed
      cyclesCompacted := scan.chosen.length
      reason := scan.reason
      blockers := sortedSet scan.blocked
      scannedCycles := scan.scanned
      eligibleCycles := scan.chosen.length
      plannedRows := scan.budget })

/-- `compact_stats_only_universe_batch`: the tables it leaves, and its report or what it raises. -/
def compactStatsOnlyUniverseBatch (k : Compaction F) (now : F) (late : ℕ → Bool) (t : Tables F) :
    Tables F × Except PyError BatchReport :=
  match operation a k now late t with
  | .ok (t', report) => (t', .ok report)
  | .error e => (t, .error e)

/-! ## 6. What a batch that commits has done -/

section Spec

variable {a} {k : Compaction F} {t t' : Tables F} {row : PlanRow F} {r : Rollup F}

/-- What a rollup takes from the row and from the evidence. -/
structure RollsUp (a : Archive F B) (t : Tables F) (row : PlanRow F) (r : Rollup F)
    (payload : Payload F) (candidates : List (Payload F)) (states : List String) : Prop where
  loaded : load a t.db row.cycle.cycleId = .ok payload
  read : (item payload "candidates") >>= dictionaries = .ok candidates
  texts : candidates.mapM (stateText a) = .ok states
  link : (t.linksOf row.cycle.cycleId).length = 1
  evidenceHash : (item payload "evidence_hash") >>= textColumn = .ok r.evidenceHash
  cycleId : r.cycleId = row.cycle.cycleId
  campaignId : r.campaignId = row.link.campaignId
  burninRunId : r.burninRunId = row.link.burninRunId
  decisionTimestamp : r.decisionTimestamp = row.cycle.decisionTimestamp
  candidateCount : r.candidateCount = candidates.length
  eligibleCount : r.eligibleCount = eligibleOf states
  selectedCount : r.selectedCount = candidates.countP fun c => (c.get "selected").truthy
  rejectedCount : r.rejectedCount = r.candidateCount - r.eligibleCount
  hashed : canonicalHash a.toHost r.toRollupCore.asDict = .ok r.rollupHash

theorem rollupPayload_ok (h : rollupPayload a k t row = .ok r) :
    ∃ payload candidates states, RollsUp a t row r payload candidates states := by
  obtain ⟨payload, hload, h⟩ := ok_of_bind h
  obtain ⟨candidates, hcandidates, h⟩ := ok_of_bind h
  obtain ⟨core, hcore, h⟩ := ok_of_bind h
  obtain ⟨hash, hhash, h⟩ := ok_of_bind h
  cases Except.ok.inj h
  obtain ⟨states, hstates, hcore⟩ := ok_of_bind hcore
  obtain ⟨_, _, hcore⟩ := ok_of_bind hcore
  obtain ⟨_, hlinks, hcore⟩ := ok_of_bind hcore
  obtain ⟨_, _, hcore⟩ := ok_of_bind hcore
  obtain ⟨_, _, hcore⟩ := ok_of_bind hcore
  obtain ⟨_, _, hcore⟩ := ok_of_bind hcore
  obtain ⟨evidenceHash, hevidence, hcore⟩ := ok_of_bind hcore
  obtain ⟨_, _, hcore⟩ := ok_of_bind hcore
  obtain ⟨_, _, hcore⟩ := ok_of_bind hcore
  obtain ⟨_, _, hcore⟩ := ok_of_bind hcore
  obtain ⟨_, _, hcore⟩ := ok_of_bind hcore
  obtain ⟨_, _, hcore⟩ := ok_of_bind hcore
  cases Except.ok.inj hcore
  exact ⟨payload, candidates, states, hload, hcandidates, hstates, require_ok.mp hlinks, hevidence,
    rfl, rfl, rfl, rfl, rfl, rfl, rfl, rfl, hhash⟩

/-- The tables after the statements for a row. -/
structure Wrote (a : Archive F B) (k : Compaction F) (row : PlanRow F) (r : Rollup F)
    (t t' : Tables F) (deleted : ℕ) (c : Checkpoint) : Prop where
  tables : t' = { t.without row.cycle.cycleId with
    rollups := t.rollups ++ [r]
    checkpoints := t.checkpoints ++ [c]
    authorizations := t.authorizations.filter fun auth => auth.cycleId ≠ row.cycle.cycleId }
  core : c.toCheckpointCore =
    checkpointCore k row (latestCheckpoint t row.link.campaignId) r
  hashed : canonicalHash a.toHost (c.asDict : Value F) = .ok c.checkpointHash
  fresh : ∀ q ∈ t.rollups, q.cycleId ≠ row.cycle.cycleId
  deleted : (deleted : ℤ) = r.candidateCount + 2
  link : (t.linksOf row.cycle.cycleId).length = 1
  candidates : ((t.candidates.filter fun q => q.cycleId = row.cycle.cycleId).length : ℤ) =
    r.candidateCount
  cycle : (t.cycles.filter fun q => q.cycleId = row.cycle.cycleId).length = 1

omit [FloatNum F] in
theorem insertRollup_ok (h : insertRollup t r = .ok t') :
    t' = { t with rollups := t.rollups ++ [r] } := by
  unfold insertRollup at h
  split at h
  · cases h
  · exact (Except.ok.inj h).symm

omit [FloatNum F] in
theorem insertCheckpoint_ok {c : Checkpoint} (h : insertCheckpoint t c = .ok t') :
    t' = { t with checkpoints := t.checkpoints ++ [c] } := by
  unfold insertCheckpoint at h
  split at h
  · cases h
  · exact (Except.ok.inj h).symm

omit [FloatNum F] in
theorem insertAuthorization_ok {auth : Authorization} (h : insertAuthorization t auth = .ok t') :
    t' = { t with authorizations := t.authorizations ++ [auth] } := by
  unfold insertAuthorization at h
  split at h
  · cases h
  · exact (Except.ok.inj h).symm

omit [FloatNum F] in
theorem deleteEvidence_ok {id : String} (h : deleteEvidence t id r = .ok t') :
    t' = t.without id ∧ (deletedCounts t id).1 = 1 ∧
      ((deletedCounts t id).2.1 : ℤ) = r.candidateCount ∧ (deletedCounts t id).2.2 = 1 := by
  unfold deleteEvidence at h
  split at h
  · cases h
  · split at h
    · cases h
    · rename_i hcounts
      simp only [not_or, ne_eq, not_not] at hcounts
      exact ⟨(Except.ok.inj h).symm, hcounts⟩

omit [FloatNum F] in
/-- The authorization of a cycle goes with the others of the cycle. -/
theorem filter_own (t : Tables F) (auth : Authorization) :
    ((t.authorizations ++ [auth]).filter fun q => q.cycleId ≠ auth.cycleId) =
      t.authorizations.filter fun q => q.cycleId ≠ auth.cycleId := by
  rw [List.filter_append]
  simp

theorem writeRow_ok {deleted : ℕ} (h : writeRow a k row t r = .ok (t', deleted)) :
    ∃ c, Wrote a k row r t t' deleted c := by
  unfold writeRow at h
  split at h
  · cases h
  · rename_i hfresh
    obtain ⟨t₁, h₁, h⟩ := ok_of_bind h
    obtain ⟨hash, hhash, h⟩ := ok_of_bind h
    obtain ⟨t₂, h₂, h⟩ := ok_of_bind h
    obtain ⟨t₃, h₃, h⟩ := ok_of_bind h
    obtain ⟨t₄, h₄, h⟩ := ok_of_bind h
    have e₁ := insertRollup_ok h₁
    have e₂ := insertCheckpoint_ok h₂
    have e₃ := insertAuthorization_ok h₃
    obtain ⟨e₄, hlink, hcandidates, hcycle⟩ := deleteEvidence_ok h₄
    subst e₁ e₂ e₃ e₄
    cases Except.ok.inj h
    have hnone : ∀ q ∈ t.rollups, q.cycleId ≠ row.cycle.cycleId := by
      intro q hq heq
      exact hfresh ⟨q, hq, heq⟩
    refine ⟨⟨checkpointCore k row (latestCheckpoint t row.link.campaignId) r, hash⟩,
      ⟨?_, rfl, hhash, hnone, ?_, hlink, hcandidates, hcycle⟩⟩
    · unfold Tables.without
      congr 1
      exact filter_own t ⟨row.link.campaignId, row.cycle.cycleId, r.evidenceHash, r.rollupHash⟩
    · have hlinks : (deletedCounts t row.cycle.cycleId).1 = 1 := hlink
      have hrows : ((deletedCounts t row.cycle.cycleId).2.1 : ℤ) = r.candidateCount := hcandidates
      have hcycles : (deletedCounts t row.cycle.cycleId).2.2 = 1 := hcycle
      show (((deletedCounts t row.cycle.cycleId).1 + (deletedCounts t row.cycle.cycleId).2.1 +
        (deletedCounts t row.cycle.cycleId).2.2 : ℕ) : ℤ) = _
      push_cast
      omega

/-- What one round of the loop has done. -/
theorem compactRow_ok {late : ℕ → Bool} {i : ℕ} {validated : List String} {deleted : ℕ}
    (h : compactRow a k late i validated row t = .ok (t', deleted)) :
    (row.link.campaignId ∈ validated ∨
        ∃ s, statsOnlyCampaignSummary a t row.link.campaignId = .ok s) ∧
      ∃ r c payload candidates states, RollsUp a t row r payload candidates states ∧
        Wrote a k row r t t' deleted c := by
  unfold compactRow at h
  split at h
  · cases h
  · obtain ⟨_, hvalid, h⟩ := ok_of_bind h
    obtain ⟨r, hr, h⟩ := ok_of_bind h
    split at h
    · cases h
    · obtain ⟨payload, candidates, states, hrolls⟩ := rollupPayload_ok hr
      obtain ⟨c, hc⟩ := writeRow_ok h
      refine ⟨?_, r, c, payload, candidates, states, hrolls, hc⟩
      unfold validateCampaign at hvalid
      split at hvalid
      · rename_i hmem
        exact Or.inl hmem
      · cases hs : statsOnlyCampaignSummary a t row.link.campaignId with
        | ok s => exact Or.inr ⟨s, rfl⟩
        | error e =>
          rw [hs] at hvalid
          cases hvalid

end Spec

end AlphaForge.Storage
