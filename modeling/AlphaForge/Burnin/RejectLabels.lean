/-
  File:      AlphaForge/Burnin/RejectLabels.lean
  Subject:   The forward labels of rejected decisions (`burnin_resolver.py`): any number of workers
             resolve them with leases that expire.

  * `resolveCampaignBatch` -- a worker as the sequence of its statements: it claims a label with a
    token of its own, looks for an outcome or records one, and settles the label.
  * `Lease`, `LeaseStep` -- what a label means: it waits, is held under a token, or is settled.
  * `Sound` -- what holds at every time: what is resolved or ambiguous has its outcome.
  * `Takes`, `Respects` -- a worker takes a label, and leaves alone one that it has lost.
  * **`labels_resolved`** -- under any interleaving of workers and writers an outcome is what was
    recorded first and every label moves along its lease; a settled one keeps its status as long as
    nobody writes what identities are read from; and a worker whose claim was taken over leaves the
    label alone.

  The statement that fails a label for its identity asks for no claim and no status. Among workers
  that breaks nothing: they all find the same identity, and a label whose identity is invalid is
  never claimed.

  Given: what the language makes of texts. A statement is atomic; a worker may stop after any of
  them. The columns that only go into reports are left out.
-/
import AlphaForge.Burnin.Observations
import AlphaForge.Candles.Outcome
import AlphaForge.Lib.Decimal
import AlphaForge.Lib.Guarantee
import AlphaForge.Lib.Ranking
import Mathlib.Data.String.Basic

namespace AlphaForge.Burnin.Rejects

open AlphaForge.Lib
open AlphaForge.Candles (RawCandle Timeframe evaluateForwardOutcome normalizeCandleWindow)

/-! ## 1. The tables -/

/-- What the language makes of a text. -/
structure Language extends Host where
  py : Builtins Extended
  /-- What `timeframe_seconds` reads in a text. -/
  frame : String → Timeframe
  /-- The text of the time some seconds before that of a text. -/
  before : String → ℚ → String

/-- `STATUSES`. -/
inductive LabelStatus where
  | PENDING
  | READY
  | RESOLVING
  | RESOLVED
  | AMBIGUOUS
  | FAILED
  deriving DecidableEq, Repr

/-- The texts of `last_error`. -/
inductive LastError where
  | canonicalRejectIdentityInvalid (error : String)
  | canonicalOutcomeIdentityConflict
  | canonicalIncomplete
  | noCandlesInMarketWindow
  | incompleteMarketWindow (gaps : List (Dt × Dt)) (observedBars : ℕ) (requiredBars : Option ℤ)
  | ambiguous
  | missingCosts
  | incompleteWindow
  deriving DecidableEq

/-- What was rejected: the columns of a label that no statement changes. -/
structure Subject where
  campaignId : String
  burninRunId : String
  rejectDecisionId : String
  symbol : String
  side : String
  decisionTimestamp : TimeText
  timeframe : Option String
  horizonBars : Option ℤ
  horizonSeconds : Option ℚ
  entry : Scalar
  stop : Scalar
  target : Scalar
  executionCostAssumptions : Payload Extended
  rejectReason : Option String
  sourceProvenance : Payload Extended
  dueAt : TimeText

/-- A row of `burnin_pending_reject_labels`, less its id. -/
structure RejectLabel where
  subject : Subject
  status : LabelStatus
  evidenceComplete : Bool
  lastError : Option LastError
  claimToken : Option String
  claimedAt : Option String
  resolvedAt : Option String

/-- What the payload of an outcome is read for. -/
structure OutcomePayload where
  campaignId : String
  burninRunId : String
  rejectDecisionId : String
  pendingLabelId : String
  forwardWindowBars : Option ℤ
  mfePct : Option ℚ
  maePct : Option ℚ
  rejectCorrect : Option Bool

/-- A row of `burnin_reject_outcomes`, less its id. -/
structure RejectOutcome where
  burninRunId : String
  forwardLabel : Option Candles.Label
  wouldTp : Bool
  wouldSl : Bool
  ambiguous : Bool
  grossR : Option ℚ
  netR : Option Extended
  executionInvalidated : Bool
  evidenceComplete : Bool
  payload : OutcomePayload

/-- The columns of `rejected_signal_reviews` that a resolution writes. -/
structure Review where
  forwardWindowBars : Option ℤ
  wouldHaveHitTp : Option Bool
  wouldHaveHitSl : Option Bool
  maxFavorableExcursionPct : Option ℚ
  maxAdverseExcursionPct : Option ℚ
  rejectCorrect : Option Bool
  executionInvalidated : Option Bool
  outcomeAmbiguous : Option Bool
  evidenceComplete : Option Bool

/-- A row of `expectancy_evidence` for a reject. -/
structure RejectEvidence where
  sourceDecisionId : String
  resolvedAt : String
  netR : ℚ

/-- The tables: labels by `pending_label_id`, outcomes by `reject_outcome_id`, reviews by
    `reject_decision_id`, evidence by `evidence_id`. -/
structure Db where
  campaignRuns : List (String × String)
  observations : Observations
  labels : Dictionary String RejectLabel
  outcomes : Dictionary String RejectOutcome
  reviews : Dictionary String Review
  evidence : Dictionary String RejectEvidence

/-- `INSERT … ON CONFLICT DO NOTHING`. -/
def insertNew {ν : Type} (d : Dictionary String ν) (key : String) (value : ν) :
    Dictionary String ν :=
  if (d.get? key).isSome then d else d.set key value

/-- `UPDATE … WHERE pending_label_id = pid AND p`. -/
def Db.updateLabel (db : Db) (pid : String) (p : RejectLabel → Bool)
    (f : RejectLabel → RejectLabel) :
    Db :=
  match db.labels.get? pid with
  | some row => if p row then { db with labels := db.labels.set pid (f row) } else db
  | none => db

/-- Its `rowcount`. -/
def Db.matched (db : Db) (pid : String) (p : RejectLabel → Bool) : ℕ :=
  if (db.labels.get? pid).any p then 1 else 0

/-! ## 2. The writers -/

/-- The insert of `persist_pending_reject_label`, for what its checks let through. The id is made of
    the reject id, which is unique too. -/
def Db.queue (db : Db) (subject : Subject) : Db :=
  let label : RejectLabel :=
    { subject := subject, status := .PENDING, evidenceComplete := false, lastError := none,
      claimToken := none, claimedAt := none, resolvedAt := none }
  { db with labels := insertNew db.labels ("prej_" ++ subject.rejectDecisionId) label }

/-- `record_rejected_signal_review`: an upsert that leaves the columns of a resolution alone. -/
def Db.recordReview (db : Db) (rejectDecisionId : String) : Db :=
  let review : Review := ⟨none, none, none, none, none, none, none, none, none⟩
  { db with reviews := insertNew db.reviews rejectDecisionId review }

/-! ## 3. The worker -/

section Worker

variable (lang : Language)

/-- `_canonical_reject_identity_error`. -/
def canonicalRejectIdentityError (db : Db) (campaignId burninRunId rejectDecisionId : String) :
    Option String :=
  let rejectId := strip rejectDecisionId
  if rejectId = "" then some "MISSING_REJECT_DECISION_ID"
  else if campaignId ≠ "standalone:" ++ burninRunId ∧
      db.campaignRuns.count (campaignId, burninRunId) ≠ 1 then
    some "RUN_NOT_IN_CAMPAIGN"
  else
    let canonical := db.observations.rows.filter fun r =>
      decide (r.2.burninRunId = burninRunId) &&
        decide (upper (r.2.decision.getD "") = "REJECTED") &&
        decide (jsonExtract lang.toHost r.2.metrics "reject_decision_id" = some (.text rejectId)) &&
        decide ((jsonExtract lang.toHost r.2.metrics "campaign_id").getD (.text campaignId) =
          .text campaignId) &&
        canonicalDecision lang.toHost db.observations r
    if canonical.length ≠ 1 then some "CANONICAL_REJECT_NOT_FOUND" else none

/-- `candles_by_symbol`: one list, or lists by symbol and timeframe and by symbol. -/
inductive CandleSource where
  | candles (all : List RawCandle)
  | mapping (byFrame : Dictionary (String × Option String) (List RawCandle))
      (bySymbol : Dictionary String (List RawCandle))

/-- `_candles_for`. -/
def CandleSource.candlesFor (source : CandleSource) (r : Subject) : List RawCandle :=
  match source with
  | .candles all => all
  | .mapping byFrame bySymbol =>
    let framed := (byFrame.get? (r.symbol, r.timeframe)).getD []
    if framed.isEmpty then (bySymbol.get? r.symbol).getD [] else framed

/-- The arguments of `resolve_campaign_batch`, and what `uuid4` and `utc_now` answer at each row. -/
structure Batch where
  campaignId : String
  source : CandleSource
  now : String
  claimTimeoutSeconds : ℚ
  token : ℕ → String
  clock : ℕ → String

/-- `RECLAIMABLE_REJECT_SQL`. -/
def RejectLabel.reclaimable (r : RejectLabel) (stale : String) : Bool :=
  decide (r.status ∈ [.PENDING, .READY]) ||
    (decide (r.status = .RESOLVING) && r.claimedAt.any fun t => decide (t < stale))

/-- `due_reject_labels`, for one campaign. -/
def dueRejectLabels (db : Db) (batch : Batch) : List (String × RejectLabel) :=
  let stale := lang.before batch.now batch.claimTimeoutSeconds
  sortOn (fun e => e.2.subject.decisionTimestamp.text) (db.labels.entries.filter fun e =>
    decide (e.2.subject.campaignId = batch.campaignId) &&
      decide (e.2.subject.dueAt.text ≤ batch.now) &&
      e.2.reclaimable stale)

/-- `CRITICAL_COST_FIELDS`. -/
def criticalCostFields : List String :=
  ["spread_cost", "entry_slippage_cost", "exit_slippage_cost", "fee_cost", "funding_cost",
    "latency_cost"]

def isNone : Value Extended → Bool
  | .none => true
  | _ => false

/-- `float(value)`. -/
def toFloat (v : Value Extended) : Except PyError Extended :=
  match v.number lang.py with
  | some x => .ok x
  | none => .error .typeError

/-- `total`, where no cost is missing. -/
def totalCost (costs : Payload Extended) : Except PyError Extended := do
  let critical ← criticalCostFields.mapM fun f => toFloat lang (costs.get f)
  let volatility ← toFloat lang ((costs.get "volatility_penalty").or (.float (.finite 0)))
  let liquidity ← toFloat lang ((costs.get "liquidity_penalty").or (.float (.finite 0)))
  return critical.foldl (· + ·) (.finite 0) + volatility + liquidity

/-- A float column: NaN is stored as NULL. -/
def storedReal : Extended → Option Extended
  | .nan => none
  | x => some x

/-- The evaluation of a label. -/
inductive Assessment where
  | noCandles
  | incomplete (gaps : List (Dt × Dt)) (observedBars : ℕ)
  /-- The outcome, the net result, and whether it says something about the execution. -/
  | complete (outcome : RejectOutcome) (net : Option Extended) (executionAuthoritative : Bool)

/-- `outcome_attributable`. -/
def outcomeAttributable (r : Subject) : Bool :=
  let infrastructure := upper (r.rejectReason.getD "") ∈
    ["EXCHANGE_STATE_UNKNOWN", "EXCHANGE_RECONCILIATION_UNAVAILABLE", "RUNTIME_RECOVERY_REQUIRED"]
  let refused := match r.sourceProvenance.get "reject_quality_attributable" with
    | .bool b => !b
    | _ => false
  let legacy := match r.sourceProvenance.get "forward_label_subject" with
    | .text s => decide (s = "LEGACY_SCANNER_SHADOW_CANDIDATE")
    | _ => false
  !refused && !legacy && !decide infrastructure

/-- `execution_aligned`. -/
def executionAligned (r : Subject) : Bool :=
  ((r.sourceProvenance.get "reject_execution_basis").or (.text "PLANNED_ENTRY_LEGACY")).str
    lang.py =
    "EXPECTED_FILL_RUNTIME_PARITY"

/-- What the worker makes of a label and its candles. -/
def assess (pid : String) (r : Subject) (rawCandles : List RawCandle) : Except PyError Assessment :=
  if (normalizeCandleWindow rawCandles r.decisionTimestamp r.dueAt).candles.isEmpty then
    .ok .noCandles
  else
    let evaluated := evaluateForwardOutcome r.side r.entry r.stop r.target
      r.decisionTimestamp r.dueAt
      (r.timeframe.map lang.frame) r.horizonBars rawCandles
    if evaluated.windowComplete = false then
      .ok (.incomplete evaluated.marketGaps evaluated.observedBars)
    else do
      let invalid := criticalCostFields.any fun f => isNone (r.executionCostAssumptions.get f)
      let net ← match invalid, evaluated.grossR with
        | false, some gross => do
          let total ← totalCost lang r.executionCostAssumptions
          pure (some (Extended.finite gross - total))
        | _, _ => pure none
      let attributable := outcomeAttributable r
      let rejectCorrect := match invalid || evaluated.ambiguous || !attributable, net with
        | false, some net => some (decide (net ≤ .finite 0))
        | _, _ => none
      return .complete
        { burninRunId := r.burninRunId
          forwardLabel := evaluated.forwardLabel
          wouldTp := evaluated.forwardLabel = some .TP_BEFORE_SL
          wouldSl := evaluated.forwardLabel = some .SL_BEFORE_TP
          ambiguous := evaluated.ambiguous
          grossR := evaluated.grossR
          netR := net.bind storedReal
          executionInvalidated := invalid
          evidenceComplete := !invalid && !evaluated.ambiguous && net.isSome
          payload :=
            { campaignId := r.campaignId, burninRunId := r.burninRunId,
              rejectDecisionId := r.rejectDecisionId, pendingLabelId := pid,
              forwardWindowBars := r.horizonBars, mfePct := evaluated.mfe, maePct := evaluated.mae,
              rejectCorrect := rejectCorrect } }
        net (attributable && executionAligned lang r)

/-- `canonical_reject_outcome_link_matches`. -/
def linkMatches (o : RejectOutcome) (campaignId burninRunId rejectDecisionId pid : String) : Bool :=
  decide (o.burninRunId = burninRunId) && decide (o.payload.campaignId = campaignId) &&
    decide (o.payload.burninRunId = burninRunId) &&
    decide (o.payload.rejectDecisionId = rejectDecisionId) &&
      decide (o.payload.pendingLabelId = pid)

/-- The status of a label with this outcome. -/
def RejectOutcome.status (o : RejectOutcome) : LabelStatus :=
  if o.ambiguous then .AMBIGUOUS else if o.evidenceComplete then .RESOLVED else .FAILED

/-- `"rout_" + reject_decision_id`. -/
def outcomeId (rejectDecisionId : String) : String := "rout_" ++ rejectDecisionId

/-- A value of a column that is neither NULL nor 0. -/
def truthyBars (bars : Option ℤ) : Option ℤ := bars.filter fun n => n ≠ 0

/-- What `_sync_review` writes. -/
def reviewOf (r : Subject) (o : RejectOutcome) : Review where
  forwardWindowBars := (truthyBars r.horizonBars).or
    ((truthyBars o.payload.forwardWindowBars).or
      (truthyBars (some (roundHalfEven (r.horizonSeconds.getD 0 / 60)))))
  wouldHaveHitTp := some o.wouldTp
  wouldHaveHitSl := some o.wouldSl
  maxFavorableExcursionPct := o.payload.mfePct
  maxAdverseExcursionPct := o.payload.maePct
  rejectCorrect :=
    if o.evidenceComplete && !o.executionInvalidated && !o.ambiguous then o.payload.rejectCorrect
    else none
  executionInvalidated := some o.executionInvalidated
  outcomeAmbiguous := some o.ambiguous
  evidenceComplete := some o.evidenceComplete

/-- `_sync_review`: a review whose evidence is complete is left alone. -/
def Db.syncReview (db : Db) (r : Subject) (o : RejectOutcome) : Db :=
  match db.reviews.get? r.rejectDecisionId with
  | some review =>
    if review.evidenceComplete = some true then db
    else { db with reviews := db.reviews.set r.rejectDecisionId (reviewOf r o) }
  | none => db

/-- `record_expectancy_evidence` of a resolved reject. -/
def Db.recordEvidence (db : Db) (r : Subject) (resolvedAt : String) (net : Option Extended)
    (evidenceComplete : Bool) : Db :=
  match net with
  | some (.finite x) =>
    let evidence : RejectEvidence := ⟨r.rejectDecisionId, resolvedAt, x⟩
    if evidenceComplete = true ∧ r.rejectDecisionId ≠ "" ∧ r.symbol ≠ "" then
      { db with evidence := insertNew db.evidence ("reject:" ++ r.rejectDecisionId) evidence }
    else db
  | _ => db

/-- `counts`. -/
structure Counts where
  resolved : ℕ := 0
  pending : ℕ := 0
  ambiguous : ℕ := 0
  failed : ℕ := 0
  claimedElsewhere : ℕ := 0
  canonical : ℕ := 0

/-- `WHERE claim_token = :token`. -/
def holds (token : String) (row : RejectLabel) : Bool := decide (row.claimToken = some token)

/-- The claim goes through where status and claim are still those that were read. -/
def unclaimed (read row : RejectLabel) : Bool :=
  decide (row.status = read.status) && decide (row.claimedAt.getD "" = read.claimedAt.getD "")

abbrev Statements (α : Type) := Prog Db PyError α

/-- The label of another outcome is failed, under the token. -/
def conflict (pid token at' : String) (counts : Counts) : Statements Counts := do
  Prog.update fun db => db.updateLabel pid (holds token) fun row =>
    { row with status := .FAILED, evidenceComplete := false, resolvedAt := some at',
               lastError := some .canonicalOutcomeIdentityConflict }
  pure { counts with failed := counts.failed + 1 }

/-- The label goes back to the queue, under the token. -/
def giveBack (pid token : String) (evidence : Bool → Bool) (error : LastError) (counts : Counts) :
    Statements Counts := do
  Prog.update fun db => db.updateLabel pid (holds token) fun row =>
    { row with status := .PENDING, claimToken := none, claimedAt := none,
               evidenceComplete := evidence row.evidenceComplete, lastError := some error }
  pure { counts with pending := counts.pending + 1 }

/-- An outcome is there already. -/
def adopt (batch : Batch) (pid token at' : String) (r : Subject) (o : RejectOutcome)
    (counts : Counts) :
    Statements Counts :=
  if linkMatches o batch.campaignId r.burninRunId r.rejectDecisionId pid = false then
    conflict pid token at' counts
  else do
    Prog.update fun db => db.syncReview r o
    Prog.update fun db => db.updateLabel pid (holds token) fun row =>
      { row with status := o.status, evidenceComplete := o.evidenceComplete,
                 resolvedAt := row.resolvedAt.or (some at')
                 lastError := if o.evidenceComplete then none
                   else row.lastError.or (some .canonicalIncomplete) }
    pure { counts with canonical := counts.canonical + 1 }

/-- The own outcome is recorded, unless there is one by now; what is there settles the label. -/
def record (batch : Batch) (pid token at' : String) (r : Subject) (own : RejectOutcome)
    (net : Option Extended) (executionAuthoritative : Bool) (counts : Counts) :
    Statements Counts := do
  Prog.update fun db =>
    { db with outcomes := insertNew db.outcomes (outcomeId r.rejectDecisionId) own }
  let found ← Prog.query fun db => db.outcomes.get? (outcomeId r.rejectDecisionId)
  match found with
  | none => .raise .typeError
  | some o =>
    if linkMatches o batch.campaignId r.burninRunId r.rejectDecisionId pid = false then
      conflict pid token at' counts
    else do
      Prog.update fun db => db.syncReview r o
      Prog.update fun db => db.updateLabel pid (holds token) fun row =>
        { row with status := o.status, evidenceComplete := o.evidenceComplete,
                   resolvedAt := some at'
                   lastError := if o.status = .RESOLVED then none
                     else some (if own.ambiguous then .ambiguous
                       else if own.executionInvalidated then .missingCosts else .incompleteWindow) }
      Prog.update fun db => db.recordEvidence r at' net
        (decide (o.status = .RESOLVED) && executionAuthoritative)
      pure (match o.status with
        | .AMBIGUOUS => { counts with ambiguous := counts.ambiguous + 1 }
        | .RESOLVED => { counts with resolved := counts.resolved + 1 }
        | _ => { counts with failed := counts.failed + 1 })

/-- One pass of the loop, over a label as it was read. -/
def resolveRow (batch : Batch) (i : ℕ) (pid : String) (read : RejectLabel) (counts : Counts) :
    Statements Counts := do
  let r := read.subject
  let identityError ← Prog.query fun db =>
    canonicalRejectIdentityError lang db batch.campaignId r.burninRunId r.rejectDecisionId
  match identityError with
  | some error => do
    Prog.update fun db => db.updateLabel pid (fun _ => true) fun row =>
      { row with status := .FAILED, evidenceComplete := false, resolvedAt := some (batch.clock i)
                 lastError := some (.canonicalRejectIdentityInvalid error), claimToken := none
                 claimedAt := none }
    pure { counts with failed := counts.failed + 1 }
  | none => do
    let claimed ← Prog.updateCount
      (fun db => db.updateLabel pid (unclaimed read) fun row =>
        { row with status := .RESOLVING, claimToken := some (batch.token i),
                   claimedAt := some batch.now })
      (fun db => db.matched pid (unclaimed read))
    if claimed = 0 then pure { counts with claimedElsewhere := counts.claimedElsewhere + 1 }
    else do
      let existing ← Prog.query fun db => db.outcomes.get? (outcomeId r.rejectDecisionId)
      match existing with
      | some o => adopt batch pid (batch.token i) (batch.clock i) r o counts
      | none =>
        match assess lang pid r (batch.source.candlesFor r) with
        | .error e => .raise e
        | .ok .noCandles => giveBack pid (batch.token i) id .noCandlesInMarketWindow counts
        | .ok (.incomplete gaps bars) =>
          giveBack pid (batch.token i) (fun _ => false)
            (.incompleteMarketWindow gaps bars r.horizonBars) counts
        | .ok (.complete own net authoritative) =>
          record batch pid (batch.token i) (batch.clock i) r own net authoritative counts

/-- The loop over the labels that were due. -/
def resolveRows (batch : Batch) : ℕ → List (String × RejectLabel) → Counts → Statements Counts
  | _, [], counts => pure counts
  | i, (pid, read) :: rest, counts => do
    let counts ← resolveRow lang batch i pid read counts
    resolveRows batch (i + 1) rest counts

/-- `resolve_campaign_batch`. -/
def resolveCampaignBatch (batch : Batch) : Statements Counts := do
  let rows ← Prog.query fun db => dueRejectLabels lang db batch
  resolveRows lang batch 0 rows {}

end Worker

/-! ## 4. What a label means -/

/-- A label waits, is held under a token, or is settled. -/
inductive Lease where
  | waiting
  | held (token : Option String)
  | settled (status : LabelStatus)

def RejectLabel.lease (r : RejectLabel) : Lease :=
  match r.status with
  | .PENDING => .waiting
  | .READY => .waiting
  | .RESOLVING => .held r.claimToken
  | status => .settled status

/-- How a lease moves. -/
inductive LeaseStep : Lease → Lease → Prop where
  | claim (token : Option String) : LeaseStep .waiting (.held token)
  | takeOver (token token' : Option String) : LeaseStep (.held token) (.held token')
  | giveBack (token : Option String) : LeaseStep (.held token) .waiting
  | settle (token : Option String) (status : LabelStatus) :
      LeaseStep (.held token) (.settled status)
  /-- The identity of the reject is invalid. -/
  | invalidate (lease : Lease) : LeaseStep lease (.settled .FAILED)

/-- A label that failed because its reject has no valid identity. -/
def RejectLabel.Invalidated (r : RejectLabel) : Prop :=
  r.status = .FAILED ∧ ∃ error, r.lastError = some (.canonicalRejectIdentityInvalid error)

/-- What a statement may do to a label. -/
structure Moves (row row' : RejectLabel) : Prop where
  subject : row'.subject = row.subject
  lease : LeaseStep row.lease row'.lease
  settled : ∀ status, row.lease = .settled status → row'.Invalidated

/-- What a statement may do: outcomes stay, and labels stay or move. -/
structure Kept (db db' : Db) : Prop where
  outcomes : ∀ k o, db.outcomes.get? k = some o → db'.outcomes.get? k = some o
  labels : ∀ pid row, db.labels.get? pid = some row →
    ∃ row', db'.labels.get? pid = some row' ∧ (row' = row ∨ Moves row row')

/-- The outcome of a label is recorded, and has its status and flag. -/
def Backed (db : Db) (pid : String) (row : RejectLabel) : Prop :=
  ∃ o, db.outcomes.get? (outcomeId row.subject.rejectDecisionId) = some o ∧ o.status = row.status ∧
    o.evidenceComplete = row.evidenceComplete ∧
    linkMatches o row.subject.campaignId row.subject.burninRunId row.subject.rejectDecisionId pid =
      true

/-- What holds at every time: a resolved or ambiguous label is backed by its outcome, evidence is of
    a resolved outcome, and a complete review shows the flags of a complete outcome. -/
structure Sound (db : Db) : Prop where
  labels : ∀ pid row, db.labels.get? pid = some row → row.status ∈ [.RESOLVED, .AMBIGUOUS] →
    Backed db pid row
  evidence : ∀ key e, db.evidence.get? key = some e →
    ∃ o, db.outcomes.get? (outcomeId e.sourceDecisionId) = some o ∧ o.status = .RESOLVED
  reviews : ∀ rid review, db.reviews.get? rid = some review → review.evidenceComplete = some true →
    ∃ o, db.outcomes.get? (outcomeId rid) = some o ∧ o.evidenceComplete = true ∧
      review.executionInvalidated = some o.executionInvalidated ∧
      review.outcomeAmbiguous = some o.ambiguous

/-- What the owner of some tokens sees the others do: they change no label that then carries one of
    the tokens, and keep what every label is about. -/
structure Foreign (tokens : Set String) (db db' : Db) : Prop where
  outcomes : ∀ k o, db.outcomes.get? k = some o → db'.outcomes.get? k = some o
  mine : ∀ pid row token, db'.labels.get? pid = some row → row.claimToken = some token →
    token ∈ tokens → db.labels.get? pid = some row
  subjects : ∀ pid row, db.labels.get? pid = some row →
    ∃ row', db'.labels.get? pid = some row' ∧ row'.subject = row.subject

theorem Foreign.refl (tokens : Set String) (db : Db) : Foreign tokens db db :=
  ⟨fun _ _ h => h, fun _ _ _ h _ _ => h, fun _ row h => ⟨row, h, rfl⟩⟩

theorem Foreign.trans {tokens : Set String} {db db' db'' : Db} (h : Foreign tokens db db')
    (h' : Foreign tokens db' db'') : Foreign tokens db db'' := by
  refine ⟨fun k o hk => h'.outcomes k o (h.outcomes k o hk), ?_, ?_⟩
  · exact fun pid row token hrow htoken hT =>
      h.mine pid row token (h'.mine pid row token hrow htoken hT) htoken hT
  · intro pid row hrow
    obtain ⟨row', hrow', hsubject⟩ := h.subjects pid row hrow
    obtain ⟨row'', hrow'', hsubject'⟩ := h'.subjects pid row' hrow'
    exact ⟨row'', hrow'', hsubject'.trans hsubject⟩

/-- The reject of a label has no valid identity. -/
def Invalid (lang : Language) (db : Db) (r : Subject) : Prop :=
  canonicalRejectIdentityError lang db r.campaignId r.burninRunId r.rejectDecisionId ≠ none

/-- What is kept while nobody writes what an identity is read from: the status of a settled label;
    and where the identity is invalid, a label changes only to fail. -/
structure Settled (lang : Language) (db db' : Db) : Prop where
  runs : db'.campaignRuns = db.campaignRuns
  observations : db'.observations = db.observations
  labels : ∀ pid row, db.labels.get? pid = some row → ∃ row', db'.labels.get? pid = some row' ∧
    row'.subject = row.subject ∧
      (∀ status, row.lease = .settled status → row'.lease = .settled status) ∧
      (Invalid lang db row.subject → row' = row ∨ row'.status = .FAILED)

theorem identity_congr {lang : Language} {db db' : Db} (hruns : db'.campaignRuns = db.campaignRuns)
    (hobservations : db'.observations = db.observations) (campaignId burninRunId rid : String) :
    canonicalRejectIdentityError lang db' campaignId burninRunId rid =
      canonicalRejectIdentityError lang db campaignId burninRunId rid := by
  unfold canonicalRejectIdentityError
  rw [hruns, hobservations]

/-- The same identities are invalid. -/
theorem Settled.invalid {lang : Language} {db db' : Db} (h : Settled lang db db') {r : Subject} :
    Invalid lang db' r ↔ Invalid lang db r := by
  unfold Invalid
  rw [identity_congr h.runs h.observations]

theorem Settled.refl (lang : Language) (db : Db) : Settled lang db db :=
  ⟨rfl, rfl, fun _ row h => ⟨row, h, rfl, fun _ hs => hs, fun _ => Or.inl rfl⟩⟩

theorem Settled.trans {lang : Language} {db db' db'' : Db} (h : Settled lang db db')
    (h' : Settled lang db' db'') : Settled lang db db'' := by
  refine ⟨h'.runs.trans h.runs, h'.observations.trans h.observations, fun pid row hrow => ?_⟩
  obtain ⟨row', hrow', hsubject, hsettled, hinvalid⟩ := h.labels pid row hrow
  obtain ⟨row'', hrow'', hsubject', hsettled', hinvalid'⟩ := h'.labels pid row' hrow'
  refine ⟨row'', hrow'', hsubject'.trans hsubject, fun status hs => hsettled' _ (hsettled _ hs),
    fun hbad => ?_⟩
  have hbad' : Invalid lang db' row'.subject := by
    rw [hsubject]
    exact h.invalid.mpr hbad
  rcases hinvalid' hbad' with hsame | hfailed
  · rw [hsame]
    exact hinvalid hbad
  · exact Or.inr hfailed

/-- The discipline of the workers, and what it comes to while the identities are left `alone`. -/
def discipline (lang : Language) (alone : Prop) : Discipline String Db where
  foreign T db db' := Foreign T db db' ∧ (alone → Settled lang db db')
  refl T db := ⟨Foreign.refl T db, fun _ => Settled.refl lang db⟩
  trans _ _ _ _ h h' := ⟨h.1.trans h'.1, fun halone => (h.2 halone).trans (h'.2 halone)⟩
  invariant := Sound
  step db db' := Kept db db' ∧ (alone → Settled lang db db')

/-! ## 5. Single statements -/

section Statements

theorem get?_set {ν : Type} (d : Dictionary String ν) (key k : String) (value : ν) :
    (d.set key value).get? k = if k = key then some value else d.get? k :=
  lookup_assign d.entries key k value

theorem get?_insertNew {ν : Type} (d : Dictionary String ν) (key k : String) (value : ν) :
    (insertNew d key value).get? k =
      if k = key then some ((d.get? key).getD value) else d.get? k := by
  unfold insertNew
  cases h : d.get? key with
  | none =>
    exact get?_set d key k value
  | some old =>
    show d.get? k = _
    by_cases hk : k = key
    · rw [if_pos hk, hk, h]
      rfl
    · rw [if_neg hk]

theorem insertNew_keeps {ν : Type} {d : Dictionary String ν} {k : String} {v : ν}
    (h : d.get? k = some v) (key : String) (value : ν) :
    (insertNew d key value).get? k = some v := by
  rw [get?_insertNew]
  by_cases hk : k = key
  · rw [if_pos hk, ← hk, h]
    rfl
  · rw [if_neg hk, h]

/-- The label of an update, and the others. -/
theorem get?_updateLabel (db : Db) (pid k : String) (p : RejectLabel → Bool)
    (f : RejectLabel → RejectLabel) :
    (db.updateLabel pid p f).labels.get? k =
      (db.labels.get? k).map fun row => if k = pid ∧ p row = true then f row else row := by
  unfold Db.updateLabel
  by_cases hk : k = pid
  · subst hk
    cases hrow : db.labels.get? k with
    | none => simp [hrow]
    | some row =>
      dsimp only
      by_cases hp : p row = true
      · rw [if_pos hp]
        show (db.labels.set k (f row)).get? k = _
        rw [get?_set, if_pos rfl]
        simp [hp]
      · rw [if_neg hp, hrow]
        simp [hp]
  · simp only [hk, false_and, if_false, Option.map_id']
    split
    · split
      · show (db.labels.set pid (f _)).get? k = _
        rw [get?_set, if_neg hk]
      · rfl
    · rfl

theorem updateLabel_tables (db : Db) (pid : String) (p : RejectLabel → Bool)
    (f : RejectLabel → RejectLabel) :
    (db.updateLabel pid p f).outcomes = db.outcomes ∧
    (db.updateLabel pid p f).evidence = db.evidence ∧
      (db.updateLabel pid p f).reviews = db.reviews := by
  unfold Db.updateLabel
  split
  · split <;> exact ⟨rfl, rfl, rfl⟩
  · exact ⟨rfl, rfl, rfl⟩

theorem updateLabel_identity (db : Db) (pid : String) (p : RejectLabel → Bool)
    (f : RejectLabel → RejectLabel) :
    (db.updateLabel pid p f).campaignRuns = db.campaignRuns ∧
      (db.updateLabel pid p f).observations = db.observations := by
  unfold Db.updateLabel
  split
  · split <;> exact ⟨rfl, rfl⟩
  · exact ⟨rfl, rfl⟩

variable {lang : Language} {alone : Prop} {tokens : Set String} {db : Db} {pid : String}
  {p : RejectLabel → Bool} {f : RejectLabel → RejectLabel}

/-- An update that settles no label otherwise, and under an invalid identity fails it. -/
theorem settled_updateLabel (hsubject : ∀ row, (f row).subject = row.subject)
    (hsettled : ∀ row, db.labels.get? pid = some row → p row = true →
      (∀ status, row.lease = .settled status → (f row).lease = .settled status) ∧
        (Invalid lang db row.subject → (f row).status = .FAILED)) :
    Settled lang db (db.updateLabel pid p f) := by
  obtain ⟨hruns, hobservations⟩ := updateLabel_identity db pid p f
  refine ⟨hruns, hobservations, fun k row hrow => ⟨_, by rw [get?_updateLabel, hrow]; rfl, ?_⟩⟩
  dsimp only
  by_cases hk : k = pid ∧ p row = true
  · rw [if_pos hk]
    obtain ⟨hstays, hfails⟩ := hsettled row (hk.1 ▸ hrow) hk.2
    exact ⟨hsubject row, hstays, fun hbad => Or.inr (hfails hbad)⟩
  · rw [if_neg hk]
    exact ⟨rfl, fun _ hs => hs, fun _ => Or.inl rfl⟩

/-- An update of a label that moves it and leaves no token but an own one. -/
theorem own_updateLabel (hsubject : ∀ row, (f row).subject = row.subject)
    (htoken : ∀ row token, p row = true → (f row).claimToken = some token → token ∈ tokens)
    (hmoves : ∀ row, db.labels.get? pid = some row → p row = true → Moves row (f row))
    (hsettled : alone → ∀ row, db.labels.get? pid = some row → p row = true →
      (∀ status, row.lease = .settled status → (f row).lease = .settled status) ∧
        (Invalid lang db row.subject → (f row).status = .FAILED)) :
    (discipline lang alone).own tokens db (db.updateLabel pid p f) := by
  have halone : alone → Settled lang db (db.updateLabel pid p f) :=
    fun h => settled_updateLabel hsubject (hsettled h)
  have houtcomes : ∀ k o, db.outcomes.get? k = some o →
      (db.updateLabel pid p f).outcomes.get? k = some o := by
    intro k o hk
    rw [(updateLabel_tables db pid p f).1]
    exact hk
  refine ⟨⟨⟨houtcomes, ?_⟩, halone⟩, fun others hothers => ⟨⟨houtcomes, ?_, ?_⟩, halone⟩⟩
  · intro k row hrow
    refine ⟨_, by rw [get?_updateLabel, hrow]; rfl, ?_⟩
    dsimp only
    by_cases hk : k = pid ∧ p row = true
    · rw [if_pos hk]
      exact Or.inr (hmoves row (hk.1 ▸ hrow) hk.2)
    · rw [if_neg hk]
      exact Or.inl rfl
  · intro k row token hrow hclaim hmem
    rw [get?_updateLabel] at hrow
    obtain ⟨old, hold, heq⟩ := Option.map_eq_some_iff.mp hrow
    by_cases hk : k = pid ∧ p old = true
    · rw [if_pos hk] at heq
      rw [← heq] at hclaim
      exact absurd hmem (Set.disjoint_left.mp hothers (htoken old token hk.2 hclaim))
    · rw [if_neg hk] at heq
      rw [hold, heq]
  · intro k row hrow
    refine ⟨_, by rw [get?_updateLabel, hrow]; rfl, ?_⟩
    dsimp only
    split
    · exact hsubject row
    · rfl

/-- It keeps the invariant where what it settles is backed. -/
theorem sound_updateLabel (h : Sound db)
    (hbacked : ∀ row, db.labels.get? pid = some row → p row = true →
      (f row).status ∈ [.RESOLVED, .AMBIGUOUS] → Backed db pid (f row)) :
    Sound (db.updateLabel pid p f) := by
  obtain ⟨houtcomes, hevidence, hreviews⟩ := updateLabel_tables db pid p f
  constructor
  · intro k row hrow hstatus
    rw [get?_updateLabel] at hrow
    unfold Backed
    rw [houtcomes]
    obtain ⟨old, hold, heq⟩ := Option.map_eq_some_iff.mp hrow
    by_cases hk : k = pid ∧ p old = true
    · rw [if_pos hk] at heq
      subst heq
      rw [hk.1] at hold ⊢
      exact hbacked old hold hk.2 hstatus
    · rw [if_neg hk] at heq
      subst heq
      exact h.labels k old hold hstatus
  · rw [houtcomes, hevidence]
    exact h.evidence
  · rw [houtcomes, hreviews]
    exact h.reviews

/-- A statement that leaves the labels and every outcome. -/
theorem own_of_labels {db' : Db} (hlabels : db'.labels = db.labels)
    (houtcomes : ∀ k o, db.outcomes.get? k = some o → db'.outcomes.get? k = some o)
    (hidentity : alone → db'.campaignRuns = db.campaignRuns ∧ db'.observations = db.observations) :
    (discipline lang alone).own tokens db db' := by
  have halone : alone → Settled lang db db' := fun h => ⟨(hidentity h).1, (hidentity h).2,
    fun k row hrow => ⟨row, hlabels ▸ hrow, rfl, fun _ hs => hs, fun _ => Or.inl rfl⟩⟩
  refine ⟨⟨⟨houtcomes, fun k row hrow => ⟨row, hlabels ▸ hrow, Or.inl rfl⟩⟩, halone⟩,
    fun others _ => ⟨⟨houtcomes, fun k row token hrow _ _ => ?_,
      fun k row hrow => ⟨row, hlabels ▸ hrow, rfl⟩⟩, halone⟩⟩
  rw [← hlabels]
  exact hrow

end Statements

/-! ## 6. The worker -/

section Worker

variable {lang : Language} {alone : Prop} {batch : Batch} {pid token at' : String} {r : Subject}
  {db db' : Db} {tokens : Set String}

/-- The label is there, and is about this; with an invalid identity it has not been settled
    otherwise than failed. -/
def Known (lang : Language) (alone : Prop) (pid : String) (r : Subject) (db : Db) : Prop :=
  ∃ row, db.labels.get? pid = some row ∧ row.subject = r ∧
    (alone → Invalid lang db r → row.status ∉ [.RESOLVED, .AMBIGUOUS])

/-- A label that carries the token is held, and has a valid identity. -/
def Mine (lang : Language) (alone : Prop) (pid token : String) (db : Db) : Prop :=
  ∀ row, db.labels.get? pid = some row → row.claimToken = some token →
    row.status = .RESOLVING ∧ (alone → ¬ Invalid lang db row.subject)

theorem known_of_settled (h : Known lang alone pid r db)
    (hsubjects : ∀ pid row, db.labels.get? pid = some row →
      ∃ row', db'.labels.get? pid = some row' ∧ row'.subject = row.subject)
    (hsettled : alone → Settled lang db db') : Known lang alone pid r db' := by
  obtain ⟨row, hrow, hsubject, hopen⟩ := h
  obtain ⟨row', hrow', hsubject'⟩ := hsubjects pid row hrow
  refine ⟨row', hrow', hsubject'.trans hsubject, fun halone hbad => ?_⟩
  have hkept := hsettled halone
  rw [hkept.invalid] at hbad
  obtain ⟨row'', hrow'', _, _, hinvalid⟩ := hkept.labels pid row hrow
  rw [hrow'] at hrow''
  cases hrow''
  rcases hinvalid (hsubject ▸ hbad) with hsame | hfailed
  · rw [hsame]
    exact hopen halone hbad
  · rw [hfailed]
    decide

theorem known_of_foreign (h : Known lang alone pid r db)
    (hs : (discipline lang alone).foreign tokens db db') : Known lang alone pid r db' :=
  known_of_settled h hs.1.subjects hs.2

theorem known_of_own (h : Known lang alone pid r db)
    (hs : (discipline lang alone).own tokens db db') : Known lang alone pid r db' := by
  refine known_of_settled h (fun pid row hrow => ?_) hs.1.2
  obtain ⟨row', hrow', heq | hmoves⟩ := hs.1.1.labels pid row hrow
  · exact ⟨row', hrow', by rw [heq]⟩
  · exact ⟨row', hrow', hmoves.subject⟩

theorem mine_of_foreign (h : Mine lang alone pid token db) (htoken : token ∈ tokens)
    (hs : (discipline lang alone).foreign tokens db db') : Mine lang alone pid token db' := by
  intro row hrow hclaim
  obtain ⟨hheld, hvalid⟩ := h row (hs.1.mine pid row token hrow hclaim htoken) hclaim
  exact ⟨hheld, fun halone hbad => hvalid halone ((hs.2 halone).invalid.mp hbad)⟩

theorem lease_of_held {row : RejectLabel} (h : row.status = .RESOLVING) :
    row.lease = .held row.claimToken := by
  unfold RejectLabel.lease
  rw [h]

/-- A held label may be given back or settled. -/
theorem moves_of_held {row row' : RejectLabel} (hheld : row.status = .RESOLVING)
    (hsubject : row'.subject = row.subject) (hnext : row'.status ≠ .RESOLVING) :
    Moves row row' := by
  have hlease := lease_of_held hheld
  refine ⟨hsubject, ?_, fun status h => ?_⟩
  · rw [hlease]
    unfold RejectLabel.lease
    cases hstatus : row'.status with
    | PENDING => exact .giveBack _
    | READY => exact .giveBack _
    | RESOLVING => exact absurd hstatus hnext
    | RESOLVED => exact .settle _ _
    | AMBIGUOUS => exact .settle _ _
    | FAILED => exact .settle _ _
  · rw [hlease] at h
    cases h

/-- The update of an own label. -/
theorem own_update (hmine : Mine lang alone pid token db) {f : RejectLabel → RejectLabel}
    (hsubject : ∀ row, (f row).subject = row.subject)
    (htoken : ∀ row t, holds token row = true → (f row).claimToken = some t → t ∈ tokens)
    (hnext : ∀ row, (f row).status ≠ .RESOLVING) :
    (discipline lang alone).own tokens db (db.updateLabel pid (holds token) f) := by
  refine own_updateLabel hsubject htoken (fun row hrow hp => ?_) fun halone row hrow hp => ?_
  · exact moves_of_held (hmine row hrow (of_decide_eq_true hp)).1 (hsubject row) (hnext row)
  · obtain ⟨hheld, hvalid⟩ := hmine row hrow (of_decide_eq_true hp)
    refine ⟨fun status h => ?_, fun hbad => absurd hbad (hvalid halone)⟩
    rw [lease_of_held hheld] at h
    cases h

/-- The own token stays on the label. -/
theorem keeps_token (htoken : token ∈ tokens) {row : RejectLabel} {t : String}
    (h : holds token row = true) (ht : row.claimToken = some t) : t ∈ tokens := by
  have heq := of_decide_eq_true h
  rw [ht] at heq
  rw [Option.some.inj heq]
  exact htoken

/-- What a call of the worker has to satisfy. -/
abbrev Meets (lang : Language) (alone : Prop) (tokens : Set String) {α : Type} (p : Statements α)
    (db : Db) : Prop :=
  (discipline lang alone).Meets tokens p db

theorem meets_pure {α : Type} (a : α) : Meets lang alone tokens (pure a : Statements α) db :=
  fun _ _ _ => trivial

theorem meets_conflict (htoken : token ∈ tokens) (hmine : Mine lang alone pid token db)
    (counts : Counts) :
    Meets lang alone tokens (conflict pid token at' counts) db := by
  unfold conflict
  refine Prog.under_update_bind.mpr fun s hs hsound => ⟨?_, ?_, meets_pure _⟩
  · refine own_update (mine_of_foreign hmine htoken hs) (fun _ => rfl)
      (fun row t h ht => keeps_token htoken h ht) fun _ h => by cases h
  · refine sound_updateLabel hsound fun row _ _ h => ?_
    simp at h

theorem meets_giveBack (htoken : token ∈ tokens) (hmine : Mine lang alone pid token db)
    (evidence : Bool → Bool) (error : LastError) (counts : Counts) :
    Meets lang alone tokens (giveBack pid token evidence error counts) db := by
  unfold giveBack
  refine Prog.under_update_bind.mpr fun s hs hsound => ⟨?_, ?_, meets_pure _⟩
  · exact own_update (mine_of_foreign hmine htoken hs) (fun _ => rfl)
      (fun row t _ ht => by cases ht) fun _ h => by cases h
  · refine sound_updateLabel hsound fun row _ _ h => ?_
    simp at h

theorem syncReview_tables (db : Db) (r : Subject) (o : RejectOutcome) :
    (db.syncReview r o).labels = db.labels ∧ (db.syncReview r o).outcomes = db.outcomes ∧
      (db.syncReview r o).evidence = db.evidence := by
  unfold Db.syncReview
  split
  · split <;> exact ⟨rfl, rfl, rfl⟩
  · exact ⟨rfl, rfl, rfl⟩

theorem syncReview_identity (db : Db) (r : Subject) (o : RejectOutcome) :
    (db.syncReview r o).campaignRuns = db.campaignRuns ∧
      (db.syncReview r o).observations = db.observations := by
  unfold Db.syncReview
  split
  · split <;> exact ⟨rfl, rfl⟩
  · exact ⟨rfl, rfl⟩

theorem own_syncReview (tokens : Set String) (db : Db) (r : Subject) (o : RejectOutcome) :
    (discipline lang alone).own tokens db (db.syncReview r o) := by
  refine own_of_labels (syncReview_tables db r o).1 (fun k o' h => ?_)
    fun _ => syncReview_identity db r o
  rw [(syncReview_tables db r o).2.1]
  exact h

/-- A review shows the outcome that is recorded. -/
theorem sound_syncReview (h : Sound db) {o : RejectOutcome}
    (ho : db.outcomes.get? (outcomeId r.rejectDecisionId) = some o) :
    Sound (db.syncReview r o) := by
  obtain ⟨hlabels, houtcomes, hevidence⟩ := syncReview_tables db r o
  constructor
  · intro k row hrow hstatus
    rw [hlabels] at hrow
    unfold Backed
    rw [houtcomes]
    exact h.labels k row hrow hstatus
  · rw [hevidence, houtcomes]
    exact h.evidence
  · rw [houtcomes]
    intro rid review hreview hcomplete
    unfold Db.syncReview at hreview
    split at hreview
    · split at hreview
      · exact h.reviews rid review hreview hcomplete
      · have hget : (if rid = r.rejectDecisionId then some (reviewOf r o)
          else db.reviews.get? rid) =
            some review := by
          rw [← get?_set]
          exact hreview
        by_cases hrid : rid = r.rejectDecisionId
        · rw [if_pos hrid] at hget
          cases hget
          rw [hrid]
          exact ⟨o, ho, Option.some.inj hcomplete, rfl, rfl⟩
        · rw [if_neg hrid] at hget
          exact h.reviews rid review hget hcomplete
    · exact h.reviews rid review hreview hcomplete

/-- Settling an own label with its outcome. -/
theorem settles (hsound : Sound db) (htoken : token ∈ tokens) (hmine : Mine lang alone pid token db)
    (hknown : Known lang alone pid r db) (hcampaign : r.campaignId = batch.campaignId)
    {o : RejectOutcome}
    (ho : db.outcomes.get? (outcomeId r.rejectDecisionId) = some o)
    (hlink : linkMatches o batch.campaignId r.burninRunId r.rejectDecisionId pid = true)
    {f : RejectLabel → RejectLabel} (hsubject : ∀ row, (f row).subject = row.subject)
    (hclaim : ∀ row, (f row).claimToken = row.claimToken)
    (hstatus : ∀ row, (f row).status = o.status)
    (hevidence : ∀ row, (f row).evidenceComplete = o.evidenceComplete) :
    (discipline lang alone).own tokens db (db.updateLabel pid (holds token) f) ∧
      Sound (db.updateLabel pid (holds token) f) := by
  constructor
  · refine own_update hmine hsubject (fun row t h ht => ?_) fun row h => ?_
    · rw [hclaim] at ht
      exact keeps_token htoken h ht
    · rw [hstatus] at h
      unfold RejectOutcome.status at h
      split at h
      · cases h
      · split at h <;> cases h
  · refine sound_updateLabel hsound fun row hrow _ _ => ?_
    obtain ⟨row', hrow', hr⟩ := hknown
    rw [hrow] at hrow'
    cases hrow'
    unfold Backed
    rw [hsubject, hr.1]
    exact ⟨o, ho, (hstatus row).symm, (hevidence row).symm, by rw [hcampaign]; exact hlink⟩

/-- More outcomes break nothing. -/
theorem sound_of_outcomes (h : Sound db) (hlabels : db'.labels = db.labels)
    (hevidence : db'.evidence = db.evidence) (hreviews : db'.reviews = db.reviews)
    (houtcomes : ∀ k o, db.outcomes.get? k = some o → db'.outcomes.get? k = some o) :
    Sound db' := by
  constructor
  · intro k row hrow hstatus
    rw [hlabels] at hrow
    obtain ⟨o, ho, hrest⟩ := h.labels k row hrow hstatus
    exact ⟨o, houtcomes _ o ho, hrest⟩
  · intro key e he
    rw [hevidence] at he
    obtain ⟨o, ho, hstatus⟩ := h.evidence key e he
    exact ⟨o, houtcomes _ o ho, hstatus⟩
  · intro rid review hreview hcomplete
    rw [hreviews] at hreview
    obtain ⟨o, ho, hrest⟩ := h.reviews rid review hreview hcomplete
    exact ⟨o, houtcomes _ o ho, hrest⟩

theorem recordEvidence_tables (db : Db) (r : Subject) (at' : String) (net : Option Extended)
    (complete : Bool) :
    (db.recordEvidence r at' net complete).labels = db.labels ∧
      (db.recordEvidence r at' net complete).outcomes = db.outcomes ∧
      (db.recordEvidence r at' net complete).reviews = db.reviews := by
  unfold Db.recordEvidence
  split
  · dsimp only
    split <;> exact ⟨rfl, rfl, rfl⟩
  · exact ⟨rfl, rfl, rfl⟩

theorem recordEvidence_identity (db : Db) (r : Subject) (at' : String) (net : Option Extended)
    (complete : Bool) :
    (db.recordEvidence r at' net complete).campaignRuns = db.campaignRuns ∧
      (db.recordEvidence r at' net complete).observations = db.observations := by
  unfold Db.recordEvidence
  split
  · dsimp only
    split <;> exact ⟨rfl, rfl⟩
  · exact ⟨rfl, rfl⟩

/-- Evidence is recorded of a resolved outcome only. -/
theorem sound_recordEvidence (h : Sound db) {net : Option Extended} {complete : Bool}
    {o : RejectOutcome} (ho : db.outcomes.get? (outcomeId r.rejectDecisionId) = some o)
    (hresolved : complete = true → o.status = .RESOLVED) :
    Sound (db.recordEvidence r at' net complete) := by
  obtain ⟨hlabels, houtcomes, hreviews⟩ := recordEvidence_tables db r at' net complete
  constructor
  · intro k row hrow hstatus
    rw [hlabels] at hrow
    unfold Backed
    rw [houtcomes]
    exact h.labels k row hrow hstatus
  · rw [houtcomes]
    intro key e he
    unfold Db.recordEvidence at he
    split at he
    · dsimp only at he
      split at he
      · rename_i hcomplete
        rw [get?_insertNew] at he
        by_cases hkey : key = "reject:" ++ r.rejectDecisionId
        · rw [if_pos hkey] at he
          cases hold : db.evidence.get? ("reject:" ++ r.rejectDecisionId) with
          | some old =>
            rw [hold] at he
            cases he
            exact h.evidence _ _ hold
          | none =>
            rw [hold] at he
            cases he
            exact ⟨o, ho, hresolved hcomplete.1⟩
        · rw [if_neg hkey] at he
          exact h.evidence key e he
      · exact h.evidence key e he
    · exact h.evidence key e he
  · rw [houtcomes, hreviews]
    exact h.reviews

/-- An outcome that is there is shown in the review, and settles the label; then a statement that
    leaves labels and outcomes may follow. -/
theorem meets_settle (htoken : token ∈ tokens) (hmine : Mine lang alone pid token db)
    (hknown : Known lang alone pid r db)
    (hcampaign : r.campaignId = batch.campaignId) {o : RejectOutcome}
    (ho : db.outcomes.get? (outcomeId r.rejectDecisionId) = some o)
    (hlink : linkMatches o batch.campaignId r.burninRunId r.rejectDecisionId pid = true)
    {f : RejectLabel → RejectLabel} (hsubject : ∀ row, (f row).subject = row.subject)
    (hclaim : ∀ row, (f row).claimToken = row.claimToken)
    (hstatus : ∀ row, (f row).status = o.status)
    (hevidence : ∀ row, (f row).evidenceComplete = o.evidenceComplete) {next : Statements Counts}
    (hnext : ∀ s, s.outcomes.get? (outcomeId r.rejectDecisionId) = some o →
      Meets lang alone tokens next s) :
    Meets lang alone tokens (do
      Prog.update fun db => db.syncReview r o
      Prog.update fun db => db.updateLabel pid (holds token) f
      next) db := by
  refine Prog.under_update_bind.mpr fun s₁ hs₁ hsound₁ => ?_
  have ho₁ := hs₁.1.outcomes _ o ho
  have hreviewed : (s₁.syncReview r o).outcomes.get? (outcomeId r.rejectDecisionId) = some o := by
    rw [(syncReview_tables s₁ r o).2.1]
    exact ho₁
  have hmine₁ : Mine lang alone pid token (s₁.syncReview r o) := by
    intro row hrow hclaim
    rw [(syncReview_tables s₁ r o).1] at hrow
    obtain ⟨hheld, hvalid⟩ := mine_of_foreign hmine htoken hs₁ row hrow hclaim
    refine ⟨hheld, fun halone => ?_⟩
    unfold Invalid
    rw [identity_congr (syncReview_identity s₁ r o).1 (syncReview_identity s₁ r o).2]
    exact hvalid halone
  have hknown₁ : Known lang alone pid r (s₁.syncReview r o) :=
    known_of_own (known_of_foreign hknown hs₁) (own_syncReview tokens s₁ r o)
  refine ⟨own_syncReview tokens s₁ r o, sound_syncReview hsound₁ ho₁, ?_⟩
  refine Prog.under_update_bind.mpr fun s₂ hs₂ hsound₂ => ?_
  have ho₂ := hs₂.1.outcomes _ o hreviewed
  obtain ⟨hown, hsound⟩ := settles hsound₂ htoken (mine_of_foreign hmine₁ htoken hs₂)
    (known_of_foreign hknown₁ hs₂) hcampaign ho₂ hlink hsubject hclaim hstatus hevidence
  refine ⟨hown, hsound, hnext _ ?_⟩
  rw [(updateLabel_tables s₂ pid (holds token) f).1]
  exact ho₂

theorem meets_adopt (htoken : token ∈ tokens) (hmine : Mine lang alone pid token db)
    (hknown : Known lang alone pid r db)
    (hcampaign : r.campaignId = batch.campaignId) {o : RejectOutcome}
    (ho : db.outcomes.get? (outcomeId r.rejectDecisionId) = some o) (counts : Counts) :
    Meets lang alone tokens (adopt batch pid token at' r o counts) db := by
  unfold adopt
  split
  · exact meets_conflict htoken hmine counts
  · rename_i hlink
    refine meets_settle htoken hmine hknown hcampaign ho (Bool.of_not_eq_false hlink) ?_ ?_ ?_ ?_
      fun s _ => meets_pure _
    all_goals exact fun _ => rfl

theorem meets_record (htoken : token ∈ tokens) (hmine : Mine lang alone pid token db)
    (hknown : Known lang alone pid r db)
    (hcampaign : r.campaignId = batch.campaignId) (own : RejectOutcome) (net : Option Extended)
    (authoritative : Bool) (counts : Counts) :
    Meets lang alone tokens (record batch pid token at' r own net authoritative counts) db := by
  unfold record
  refine Prog.under_update_bind.mpr fun s₁ hs₁ hsound₁ => ?_
  have hgrows : ∀ k o, s₁.outcomes.get? k = some o →
      (insertNew s₁.outcomes (outcomeId r.rejectDecisionId) own).get? k = some o :=
    fun k o h => insertNew_keeps h _ _
  refine ⟨own_of_labels rfl hgrows fun _ => ⟨rfl, rfl⟩,
    sound_of_outcomes hsound₁ rfl rfl rfl hgrows, ?_⟩
  refine Prog.under_query_bind.mpr fun s₂ hs₂ _ => ?_
  -- the insert touches no label
  have hmine₁ := mine_of_foreign hmine htoken hs₁
  have hmine₂ : Mine lang alone pid token s₂ := by
    refine mine_of_foreign ?_ htoken hs₂
    exact hmine₁
  have hknown₁ := known_of_foreign hknown hs₁
  have hknown₂ : Known lang alone pid r s₂ := by
    refine known_of_foreign ?_ hs₂
    exact hknown₁
  cases ho : s₂.outcomes.get? (outcomeId r.rejectDecisionId) with
  | none => trivial
  | some o =>
    dsimp only
    split
    · exact meets_conflict htoken hmine₂ counts
    · rename_i hlink
      refine meets_settle htoken hmine₂ hknown₂ hcampaign ho
        (Bool.of_not_eq_false hlink) ?_ ?_ ?_ ?_
        fun s ho' => ?_
      iterate 4 exact fun _ => rfl
      refine Prog.under_update_bind.mpr fun s₃ hs₃ hsound₃ => ⟨?_, ?_, meets_pure _⟩
      · refine own_of_labels (recordEvidence_tables _ _ _ _ _).1 (fun k o' h => ?_)
          fun _ => recordEvidence_identity _ _ _ _ _
        rw [(recordEvidence_tables _ _ _ _ _).2.1]
        exact h
      · refine sound_recordEvidence hsound₃ (hs₃.1.outcomes _ o ho') fun h => ?_
        rw [Bool.and_eq_true] at h
        exact of_decide_eq_true h.1

/-- A read label that may be claimed. -/
def Claimable (batch : Batch) (e : String × RejectLabel) : Prop :=
  e.2.subject.campaignId = batch.campaignId ∧ e.2.status ∈ [.PENDING, .READY, .RESOLVING]

/-- A claim moves what it matches. -/
theorem moves_of_claim {read row row' : RejectLabel}
    (hread : read.status ∈ [.PENDING, .READY, .RESOLVING])
    (hmatch : unclaimed read row = true) (hsubject : row'.subject = row.subject)
    (hstatus : row'.status = .RESOLVING) : Moves row row' := by
  unfold unclaimed at hmatch
  rw [Bool.and_eq_true, decide_eq_true_eq] at hmatch
  rw [← hmatch.1] at hread
  have hlease : row'.lease = .held row'.claimToken := by
    unfold RejectLabel.lease
    rw [hstatus]
  refine ⟨hsubject, ?_, fun status h => ?_⟩
  · rw [hlease]
    unfold RejectLabel.lease
    cases hrow : row.status with
    | PENDING => exact .claim _
    | READY => exact .claim _
    | RESOLVING => exact .takeOver _ _
    | RESOLVED => simp [hrow] at hread
    | AMBIGUOUS => simp [hrow] at hread
    | FAILED => simp [hrow] at hread
  · unfold RejectLabel.lease at h
    cases hrow : row.status with
    | PENDING => simp [hrow] at h
    | READY => simp [hrow] at h
    | RESOLVING => simp [hrow] at h
    | RESOLVED => simp [hrow] at hread
    | AMBIGUOUS => simp [hrow] at hread
    | FAILED => simp [hrow] at hread

/-- Failing a label for its identity is a move from anywhere. -/
theorem moves_of_invalid {row row' : RejectLabel} (hsubject : row'.subject = row.subject)
    (hinvalid : row'.Invalidated) : Moves row row' := by
  refine ⟨hsubject, ?_, fun _ _ => hinvalid⟩
  have hlease : row'.lease = .settled .FAILED := by
    unfold RejectLabel.lease
    rw [hinvalid.1]
  rw [hlease]
  exact .invalidate _

/-- What has not been settled otherwise may fail. -/
theorem settled_of_failed {row row' : RejectLabel} (hopen : row.status ∉ [.RESOLVED, .AMBIGUOUS])
    (hfailed : row'.status = .FAILED) {status : LabelStatus} (h : row.lease = .settled status) :
    row'.lease = .settled status := by
  unfold RejectLabel.lease at h ⊢
  rw [hfailed]
  cases hstatus : row.status with
  | PENDING => simp [hstatus] at h
  | READY => simp [hstatus] at h
  | RESOLVING => simp [hstatus] at h
  | RESOLVED => simp [hstatus] at hopen
  | AMBIGUOUS => simp [hstatus] at hopen
  | FAILED =>
    rw [hstatus] at h
    exact h

/-- The identity of a label that may be claimed, as its worker checks it. -/
theorem invalid_iff {read : RejectLabel} (hread : Claimable batch (pid, read)) :
    Invalid lang db read.subject ↔ canonicalRejectIdentityError lang db batch.campaignId
      read.subject.burninRunId read.subject.rejectDecisionId ≠ none := by
  unfold Invalid
  rw [hread.1]

/-- Where the identity of a read label is invalid, its worker fails it. -/
theorem own_invalidate {read : RejectLabel} (hknown : Known lang alone pid read.subject db)
    (hbad : alone → Invalid lang db read.subject) (error : String) :
    (discipline lang alone).own tokens db (db.updateLabel pid (fun _ => true) fun row =>
      { row with status := .FAILED, evidenceComplete := false, resolvedAt := some at'
                 lastError := some (.canonicalRejectIdentityInvalid error), claimToken := none
                 claimedAt := none }) := by
  refine own_updateLabel (fun _ => rfl) (fun row t _ ht => by cases ht)
    (fun row _ _ => moves_of_invalid rfl ⟨rfl, error, rfl⟩) fun halone row hrow _ => ?_
  obtain ⟨row', hrow', _, hopen⟩ := hknown
  rw [hrow] at hrow'
  cases hrow'
  exact ⟨fun status h => settled_of_failed (hopen halone (hbad halone)) rfl h, fun _ => rfl⟩

/-- Where it is valid, its worker may claim it, and then holds it. -/
theorem own_claim {read : RejectLabel} (hread : Claimable batch (pid, read))
    (hknown : Known lang alone pid read.subject db)
    (hvalid : alone → ¬ Invalid lang db read.subject)
    (htoken : token ∈ tokens) :
    (discipline lang alone).own tokens db (db.updateLabel pid (unclaimed read) fun row =>
      { row with status := .RESOLVING, claimToken := some token,
                 claimedAt := some batch.now }) := by
  refine own_updateLabel (fun _ => rfl) (fun row t _ ht => ?_)
    (fun row _ hmatch => moves_of_claim hread.2 hmatch rfl rfl)
      fun halone row hrow hmatch => ⟨?_, ?_⟩
  · rw [← Option.some.inj ht]
    exact htoken
  · intro status h
    have hmoves : Moves row { row with status := .RESOLVING } :=
      moves_of_claim hread.2 hmatch rfl rfl
    cases (hmoves.settled status h).1
  · obtain ⟨row', hrow', hsubject, _⟩ := hknown
    rw [hrow] at hrow'
    cases hrow'
    rw [hsubject]
    exact fun hbad => absurd hbad (hvalid halone)

theorem mine_of_claim {read : RejectLabel} (hknown : Known lang alone pid read.subject db)
    (hvalid : alone → ¬ Invalid lang db read.subject)
    (hclaimed : db.matched pid (unclaimed read) ≠ 0) :
    Mine lang alone pid token (db.updateLabel pid (unclaimed read) fun row =>
      { row with status := .RESOLVING, claimToken := some token,
                 claimedAt := some batch.now }) := by
  obtain ⟨hruns, hobservations⟩ := updateLabel_identity db pid (unclaimed read) fun row =>
    { row with status := .RESOLVING, claimToken := some token, claimedAt := some batch.now }
  intro row hrow _
  rw [get?_updateLabel] at hrow
  obtain ⟨old, hold, heq⟩ := Option.map_eq_some_iff.mp hrow
  have hmatch : unclaimed read old = true := by
    unfold Db.matched at hclaimed
    rw [hold] at hclaimed
    by_contra hno
    simp [hno] at hclaimed
  rw [if_pos ⟨rfl, hmatch⟩] at heq
  obtain ⟨row', hrow', hsubject, _⟩ := hknown
  rw [hold] at hrow'
  cases hrow'
  rw [← heq]
  refine ⟨rfl, fun halone => ?_⟩
  unfold Invalid
  rw [identity_congr hruns hobservations, hsubject]
  exact hvalid halone

variable (lang alone) in
/-- **One pass of the loop meets the discipline**, whatever the others do in between. -/
theorem meets_resolveRow (i : ℕ) {read : RejectLabel} (hread : Claimable batch (pid, read))
    (hknown : Known lang alone pid read.subject db) (counts : Counts) :
    Meets lang alone (Set.range batch.token) (resolveRow lang batch i pid read counts) db := by
  have htoken : batch.token i ∈ Set.range batch.token := ⟨i, rfl⟩
  unfold resolveRow
  refine Prog.under_query_bind.mpr fun s₁ hs₁ _ => ?_
  have hknown₁ := known_of_foreign hknown hs₁
  have hcheck : Invalid lang s₁ read.subject ↔ _ := invalid_iff hread
  cases herror : canonicalRejectIdentityError lang s₁ batch.campaignId read.subject.burninRunId
    read.subject.rejectDecisionId with
  | some error =>
    have hbad : Invalid lang s₁ read.subject := by
      rw [hcheck, herror]
      exact Option.some_ne_none error
    refine Prog.under_update_bind.mpr fun s₂ hs₂ hsound₂ => ⟨?_, ?_, meets_pure _⟩
    · exact own_invalidate (known_of_foreign hknown₁ hs₂)
        (fun halone => (hs₂.2 halone).invalid.mpr hbad) error
    · refine sound_updateLabel hsound₂ fun row _ _ h => ?_
      simp at h
  | none =>
    have hgood : ¬ Invalid lang s₁ read.subject := by
      rw [hcheck, herror]
      exact fun h => h rfl
    refine Prog.under_updateCount_bind.mpr fun s₂ hs₂ hsound₂ => ?_
    have hknown₂ := known_of_foreign hknown₁ hs₂
    have hvalid₂ : alone → ¬ Invalid lang s₂ read.subject :=
      fun halone hbad => hgood ((hs₂.2 halone).invalid.mp hbad)
    have hclaim := own_claim hread hknown₂ hvalid₂ htoken
    refine ⟨hclaim, ?_, ?_⟩
    · refine sound_updateLabel hsound₂ fun row _ _ h => ?_
      simp at h
    · split
      · exact meets_pure _
      · rename_i hclaimed
        -- the claim went through: the label is held under the own token
        refine Prog.under_query_bind.mpr fun s₃ hs₃ _ => ?_
        have hmine₃ := mine_of_foreign (mine_of_claim hknown₂ hvalid₂ hclaimed) htoken hs₃
        have hknown₃ := known_of_foreign (known_of_own hknown₂ hclaim) hs₃
        cases ho : s₃.outcomes.get? (outcomeId read.subject.rejectDecisionId) with
        | some o => exact meets_adopt htoken hmine₃ hknown₃ hread.1 ho counts
        | none =>
          dsimp only
          cases assess lang pid read.subject (batch.source.candlesFor read.subject) with
          | error e => trivial
          | ok assessment =>
            cases assessment with
            | noCandles => exact meets_giveBack htoken hmine₃ _ _ counts
            | incomplete gaps bars => exact meets_giveBack htoken hmine₃ _ _ counts
            | complete own net authoritative =>
              exact meets_record htoken hmine₃ hknown₃ hread.1 own net authoritative counts

theorem meets_resolveRows (i : ℕ) {rows : List (String × RejectLabel)}
    (hrows : ∀ e ∈ rows, Claimable batch e ∧ Known lang alone e.1 e.2.subject db)
    (counts : Counts) :
    Meets lang alone (Set.range batch.token) (resolveRows lang batch i rows counts) db := by
  induction rows generalizing i db counts with
  | nil => exact meets_pure _
  | cons e rest ih =>
    obtain ⟨hfirst, hrest⟩ := List.forall_mem_cons.mp hrows
    unfold resolveRows
    -- the labels that are still to come stay known
    have hframe := Prog.under_frame (K := fun s => ∀ e ∈ rest, Known lang alone e.1 e.2.subject s)
      (fun s s' hk hs e he => known_of_foreign (hk e he) hs)
      (fun s s' hk hs e he => known_of_own (hk e he) hs)
      (meets_resolveRow lang alone i hfirst.1 hfirst.2 counts) fun e he => (hrest e he).2
    refine Prog.under_bind ((discipline lang alone).refl _)
      (Prog.under_mono (fun counts s h => ?_) hframe)
    exact ih (i + 1) (fun e he => ⟨(hrest e he).1, h.2 e he⟩) counts

theorem mem_of_get? {ν : Type} {d : Dictionary String ν} {e : String × ν} (h : e ∈ d.entries) :
    d.get? e.1 = some e.2 := by
  have hnodup := d.nodup
  unfold Dictionary.get?
  generalize d.entries = entries at h hnodup
  induction entries with
  | nil => cases h
  | cons x rest ih =>
    obtain ⟨hnew, hrest⟩ := List.nodup_cons.mp hnodup
    rw [List.lookup_cons]
    rcases List.mem_cons.mp h with heq | hmem
    · rw [heq, beq_self_eq_true]
    · have hne : (e.1 == x.1) = false := by
        rw [beq_eq_false_iff_ne]
        exact fun heq => hnew (heq ▸ List.mem_map_of_mem hmem)
      rw [hne]
      exact ih hmem hrest

theorem claimable_of_due {e : String × RejectLabel} (h : e ∈ dueRejectLabels lang db batch) :
    Claimable batch e ∧ Known lang alone e.1 e.2.subject db := by
  unfold dueRejectLabels at h
  rw [mem_sortOn, List.mem_filter] at h
  obtain ⟨hmem, hdue⟩ := h
  simp only [Bool.and_eq_true, decide_eq_true_eq] at hdue
  obtain ⟨⟨hcampaign, _⟩, hreclaimable⟩ := hdue
  have hopen : e.2.status ∈ [.PENDING, .READY, .RESOLVING] := by
    unfold RejectLabel.reclaimable at hreclaimable
    rw [Bool.or_eq_true, decide_eq_true_eq, Bool.and_eq_true, decide_eq_true_eq] at hreclaimable
    rcases hreclaimable with hqueued | ⟨hresolving, _⟩
    · rcases List.mem_cons.mp hqueued with h | h
      · rw [h]
        decide
      · rw [List.mem_singleton.mp h]
        decide
    · rw [hresolving]
      decide
  refine ⟨⟨hcampaign, hopen⟩, ⟨e.2, mem_of_get? hmem, rfl, fun _ _ hsettled => ?_⟩⟩
  cases hstatus : e.2.status <;> simp [hstatus] at hopen hsettled

/-- **A worker meets the discipline with its tokens.** -/
theorem meets_resolveCampaignBatch (batch : Batch) (db : Db) :
    Meets lang alone (Set.range batch.token) (resolveCampaignBatch lang batch) db := by
  unfold resolveCampaignBatch
  refine Prog.under_query_bind.mpr fun s hs _ => ?_
  exact meets_resolveRows 0 (fun e he => claimable_of_due he) {}

end Worker

/-! ## 7. A claim that is lost -/

section Fences

variable {lang : Language} {batch : Batch} {pid token at' : String} {r : Subject}

/-- The label carries the token. -/
def Carries (pid token : String) (db : Db) : Prop :=
  (db.labels.get? pid).bind RejectLabel.claimToken = some token

instance (pid token : String) (db : Db) : Decidable (Carries pid token db) :=
  inferInstanceAs (Decidable (_ = _))

theorem carries_iff {pid token : String} {db : Db} :
    Carries pid token db ↔ ∃ row, db.labels.get? pid = some row ∧ row.claimToken = some token :=
  Option.bind_eq_some_iff

/-- The statement writes the label, and leaves it under the token. -/
def Takes (k : String × String) (db db' : Db) : Prop :=
  Carries k.1 k.2 db' ∧ db'.labels.get? k.1 ≠ db.labels.get? k.1

/-- The statement leaves the label alone, unless it carries the token. -/
def Respects (k : String × String) (db db' : Db) : Prop :=
  ¬ Carries k.1 k.2 db → db'.labels.get? k.1 = db.labels.get? k.1

/-- What a worker does to the labels once it has claimed one: it writes no other, and this one only
    under its token, which it keeps or takes away. -/
structure Guarded (pid token : String) (db db' : Db) : Prop where
  others : ∀ k, k ≠ pid → db'.labels.get? k = db.labels.get? k
  own : db'.labels.get? pid = db.labels.get? pid ∨
    (Carries pid token db ∧ ∀ t, Carries pid t db' → t = token)

theorem guarded_of_labels {db db' : Db} (h : db'.labels = db.labels) : Guarded pid token db db' :=
  ⟨fun _ _ => by rw [h], Or.inl (by rw [h])⟩

theorem get?_others (db : Db) {k : String} (hk : k ≠ pid) (p : RejectLabel → Bool)
    (f : RejectLabel → RejectLabel) : (db.updateLabel pid p f).labels.get? k =
      db.labels.get? k := by
  rw [get?_updateLabel]
  simp [hk]

theorem guarded_update (db : Db) {f : RejectLabel → RejectLabel}
    (hclaim : ∀ row, (f row).claimToken = none ∨ (f row).claimToken = row.claimToken) :
    Guarded pid token db (db.updateLabel pid (holds token) f) := by
  refine ⟨fun k hk => get?_others db hk _ f, ?_⟩
  rw [get?_updateLabel]
  cases hrow : db.labels.get? pid with
  | none => exact Or.inl rfl
  | some row =>
    by_cases hholds : holds token row = true
    · have hcarried := of_decide_eq_true hholds
      refine Or.inr ⟨carries_iff.mpr ⟨row, hrow, hcarried⟩, fun t hcarries => ?_⟩
      obtain ⟨row', hrow', ht⟩ := carries_iff.mp hcarries
      rw [get?_updateLabel, hrow] at hrow'
      simp only [Option.map_some, Option.some.injEq, true_and, hholds, if_true] at hrow'
      subst hrow'
      rcases hclaim row with hnone | hsame
      · rw [hnone] at ht
        cases ht
      · rw [hsame, hcarried] at ht
        exact (Option.some.inj ht).symm
    · simp [hholds]

theorem every_conflict (counts : Counts) :
    (conflict pid token at' counts).Every (Guarded pid token) :=
  Prog.every_update_bind.mpr fun s => ⟨guarded_update s fun _ => Or.inr rfl, trivial⟩

theorem every_giveBack (evidence : Bool → Bool) (error : LastError) (counts : Counts) :
    (giveBack pid token evidence error counts).Every (Guarded pid token) :=
  Prog.every_update_bind.mpr fun s => ⟨guarded_update s fun _ => Or.inl rfl, trivial⟩

theorem every_adopt (o : RejectOutcome) (counts : Counts) :
    (adopt batch pid token at' r o counts).Every (Guarded pid token) := by
  unfold adopt
  split
  · exact every_conflict counts
  · refine Prog.every_update_bind.mpr fun s => ⟨guarded_of_labels (syncReview_tables s r o).1, ?_⟩
    exact Prog.every_update_bind.mpr fun s => ⟨guarded_update s fun _ => Or.inr rfl, trivial⟩

theorem every_record (own : RejectOutcome) (net : Option Extended) (authoritative : Bool)
    (counts : Counts) :
    (record batch pid token at' r own net authoritative counts).Every (Guarded pid token) := by
  unfold record
  refine Prog.every_update_bind.mpr fun s => ⟨guarded_of_labels rfl, ?_⟩
  refine Prog.every_query_bind.mpr fun s => ?_
  cases s.outcomes.get? (outcomeId r.rejectDecisionId) with
  | none => trivial
  | some o =>
    dsimp only
    split
    · exact every_conflict counts
    · refine Prog.every_update_bind.mpr fun s => ⟨guarded_of_labels (syncReview_tables s r o).1, ?_⟩
      refine Prog.every_update_bind.mpr fun s => ⟨guarded_update s fun _ => Or.inr rfl, ?_⟩
      exact Prog.every_update_bind.mpr fun s =>
        ⟨guarded_of_labels (recordEvidence_tables _ _ _ _ _).1, trivial⟩

/-- What is written under the token alone begins nothing under another one. -/
theorem fenced_of_guarded {α : Type} {p : Statements α} (h : p.Every (Guarded pid token)) :
    p.Fenced Takes Respects := by
  refine Prog.fenced_of_every (fun k s s' hs htakes t t' ht => ?_) h
  obtain ⟨hcarries, hchanged⟩ := htakes
  have hpid : k.1 = pid := by
    by_contra hne
    exact hchanged (hs.others k.1 hne)
  rw [hpid] at hcarries hchanged
  rcases hs.own with hsame | ⟨_, honly⟩
  · exact absurd hsame hchanged
  · intro hlost
    rw [hpid, honly _ hcarries] at hlost
    rcases ht.own with hsame | ⟨hcarried, _⟩
    · rw [hpid]
      exact hsame
    · exact absurd hcarried hlost

theorem respects_of_guarded {s s' : Db} (h : Guarded pid token s s') :
    Respects (pid, token) s s' := by
  intro hlost
  rcases h.own with hsame | ⟨hcarried, _⟩
  · exact hsame
  · exact absurd hcarried hlost

/-- A claim, and what follows it under its token. -/
theorem fenced_claim {read : RejectLabel} {next : ℕ → Statements Counts}
    (hnext : ∀ claimed, (next claimed).Every (Guarded pid token)) :
    (Prog.updateCount (fun db => db.updateLabel pid (unclaimed read) fun row =>
        { row with status := .RESOLVING, claimToken := some token, claimedAt := some batch.now })
      (fun db => db.matched pid (unclaimed read)) >>= next).Fenced Takes Respects ∧
    (Prog.updateCount (fun db => db.updateLabel pid (unclaimed read) fun row =>
        { row with status := .RESOLVING, claimToken := some token, claimedAt := some batch.now })
      (fun db => db.matched pid (unclaimed read)) >>= next).Every
        fun db db' => ∀ k, k ≠ pid → db'.labels.get? k = db.labels.get? k := by
  constructor
  · refine Prog.fenced_updateCount_bind.mpr fun s =>
      ⟨fenced_of_guarded (hnext _), fun k htakes => ?_⟩
    obtain ⟨hcarries, hchanged⟩ := htakes
    have hpid : k.1 = pid := by
      by_contra hne
      exact hchanged (get?_others s hne _ _)
    obtain ⟨row, hrow, hcarried⟩ := carries_iff.mp hcarries
    rw [hpid] at hrow hchanged
    have htoken : k.2 = token := by
      rw [get?_updateLabel] at hrow hchanged
      obtain ⟨old, hold, heq⟩ := Option.map_eq_some_iff.mp hrow
      by_cases hmatch : unclaimed read old = true
      · rw [if_pos ⟨rfl, hmatch⟩] at heq
        rw [← heq] at hcarried
        exact (Option.some.inj hcarried).symm
      · rw [hold] at hchanged
        simp [hmatch] at hchanged
    have hkey : k = (pid, token) := Prod.ext hpid htoken
    rw [hkey]
    exact Prog.every_mono (fun _ _ h => respects_of_guarded h) (hnext _)
  · refine Prog.every_updateCount_bind.mpr fun s => ⟨fun k hk => get?_others s hk _ _, ?_⟩
    exact Prog.every_mono (fun _ _ h => h.others) (hnext _)

variable (lang batch) in
/-- One pass of the loop writes no other label, and once it has claimed its own, only under the
    token. -/
theorem fenced_resolveRow (i : ℕ) (pid : String) (read : RejectLabel) (counts : Counts) :
    (resolveRow lang batch i pid read counts).Fenced Takes Respects ∧
      (resolveRow lang batch i pid read counts).Every
        fun db db' => ∀ k, k ≠ pid → db'.labels.get? k = db.labels.get? k := by
  unfold resolveRow
  refine Prog.fenced_query_bind fun s => ?_
  cases canonicalRejectIdentityError lang s batch.campaignId read.subject.burninRunId
    read.subject.rejectDecisionId with
  | some error =>
    constructor
    · exact Prog.fenced_update_bind.mpr fun _ => ⟨trivial, fun _ _ => trivial⟩
    · exact Prog.every_update_bind.mpr fun s => ⟨fun k hk => get?_others s hk _ _, trivial⟩
  | none =>
    refine fenced_claim fun claimed => ?_
    refine Prog.every_ite (fun _ => trivial) fun _ => Prog.every_query_bind.mpr fun s => ?_
    cases s.outcomes.get? (outcomeId read.subject.rejectDecisionId) with
    | some o => exact every_adopt o counts
    | none =>
      dsimp only
      cases assess lang pid read.subject (batch.source.candlesFor read.subject) with
      | error e => trivial
      | ok assessment =>
        cases assessment with
        | noCandles => exact every_giveBack _ _ counts
        | incomplete gaps bars => exact every_giveBack _ _ counts
        | complete own net authoritative => exact every_record own net authoritative counts

/-- The labels that the loop does not come to are left alone. -/
theorem others_resolveRows (i : ℕ) {rows : List (String × RejectLabel)} {k : String}
    (hk : k ∉ rows.map Prod.fst) (counts : Counts) :
    (resolveRows lang batch i rows counts).Every fun db db' => db'.labels.get? k =
      db.labels.get? k := by
  induction rows generalizing i counts with
  | nil => trivial
  | cons e rest ih =>
    rw [List.map_cons, List.mem_cons, not_or] at hk
    unfold resolveRows
    refine Prog.every_bind ?_ fun counts => ih (i + 1) hk.2 counts
    exact Prog.every_mono (fun _ _ h => h k hk.1) (fenced_resolveRow lang batch i e.1 e.2 counts).2

/-- Every label is come to once. -/
theorem fenced_resolveRows (i : ℕ) {rows : List (String × RejectLabel)}
    (hrows : (rows.map Prod.fst).Nodup) (counts : Counts) :
    (resolveRows lang batch i rows counts).Fenced Takes Respects := by
  induction rows generalizing i counts with
  | nil => trivial
  | cons e rest ih =>
    obtain ⟨hnew, hrest⟩ := List.nodup_cons.mp hrows
    obtain ⟨hfenced, hothers⟩ := fenced_resolveRow lang batch i e.1 e.2 counts
    unfold resolveRows
    refine Prog.fenced_bind (K := fun k => k.1 = e.1) hfenced ?_
      (fun counts => ih (i + 1) hrest counts) ?_
    · refine Prog.every_mono (fun s s' h k htakes => ?_) hothers
      by_contra hne
      exact htakes.2 (h k.1 hne)
    · intro k hk counts
      have hleft : (resolveRows lang batch (i + 1) rest counts).Every _ :=
        others_resolveRows (i + 1) hnew counts
      exact Prog.every_mono (fun s s' h _ => by rw [hk]; exact h) hleft

theorem fenced_resolveCampaignBatch (lang : Language) (batch : Batch) :
    (resolveCampaignBatch lang batch).Fenced Takes Respects := by
  refine fun s => fenced_resolveRows 0 ?_ {}
  -- the labels that are due are some of those that are there
  refine ((perm_of_sortOn _).map Prod.fst).nodup_iff.mpr ?_
  exact (List.filter_sublist.map Prod.fst).nodup s.labels.nodup

end Fences

/-! ## 8. Workers and writers together -/

/-- What runs next to the workers: labels are queued, runs are attached, observations and reviews
    are written. -/
inductive Call where
  | resolve (batch : Batch)
  | queue (subject : Subject)
  | observe (call : Burnin.Call)
  | attachRun (campaignId burninRunId : String)
  | review (rejectDecisionId : String)

def Call.body (lang : Language) : Call → Statements Counts
  | .resolve batch => resolveCampaignBatch lang batch
  | .queue subject => do
    Prog.update fun db => db.queue subject
    pure {}
  | .observe call => do
    Prog.update fun db =>
      { db with observations := persistBurninObservation lang.toHost db.observations call }
    pure {}
  | .attachRun campaignId burninRunId => do
    Prog.update fun db => { db with campaignRuns := db.campaignRuns ++ [(campaignId, burninRunId)] }
    pure {}
  | .review rejectDecisionId => do
    Prog.update fun db => db.recordReview rejectDecisionId
    pure {}

/-- The tokens of a call. -/
def Call.tokens : Call → Set String
  | .resolve batch => Set.range batch.token
  | _ => ∅

/-- The calls that write nothing an identity is read from. -/
def Call.leavesIdentities : Call → Prop
  | .observe _ => False
  | .attachRun _ _ => False
  | _ => True

/-- Queueing a label under a new id. -/
theorem own_queue (lang : Language) (alone : Prop) (db : Db) (subject : Subject) :
    (discipline lang alone).own ∅ db (db.queue subject) := by
  have hlabels : ∀ pid row, db.labels.get? pid = some row →
      (db.queue subject).labels.get? pid = some row := fun pid row h => insertNew_keeps h _ _
  have hsettled : alone → Settled lang db (db.queue subject) := fun _ =>
    ⟨rfl, rfl, fun pid row h => ⟨row, hlabels pid row h, rfl, fun _ hs => hs, fun _ => Or.inl rfl⟩⟩
  refine ⟨⟨⟨fun _ _ h => h, fun pid row h => ⟨row, hlabels pid row h, Or.inl rfl⟩⟩, hsettled⟩,
    fun others _ => ⟨⟨fun _ _ h => h, fun pid row token hrow hclaim _ => ?_,
      fun pid row h => ⟨row, hlabels pid row h, rfl⟩⟩, hsettled⟩⟩
  unfold Db.queue at hrow
  rw [get?_insertNew] at hrow
  by_cases hpid : pid = "prej_" ++ subject.rejectDecisionId
  · rw [if_pos hpid] at hrow
    rw [hpid]
    cases hold : db.labels.get? ("prej_" ++ subject.rejectDecisionId) with
    | some old =>
      rw [hold] at hrow
      exact hrow
    | none =>
      rw [hold] at hrow
      cases hrow
      cases hclaim
  · rw [if_neg hpid] at hrow
    exact hrow

theorem sound_queue {db : Db} (h : Sound db) (subject : Subject) : Sound (db.queue subject) := by
  refine ⟨fun pid row hrow hstatus => ?_, h.evidence, h.reviews⟩
  unfold Db.queue at hrow
  rw [get?_insertNew] at hrow
  by_cases hpid : pid = "prej_" ++ subject.rejectDecisionId
  · rw [if_pos hpid] at hrow
    cases hold : db.labels.get? ("prej_" ++ subject.rejectDecisionId) with
    | some old =>
      rw [hold] at hrow
      cases hrow
      exact h.labels pid _ (hpid ▸ hold) hstatus
    | none =>
      rw [hold] at hrow
      cases hrow
      simp at hstatus
  · rw [if_neg hpid] at hrow
    exact h.labels pid row hrow hstatus

/-- A review that is recorded shows no evidence. -/
theorem sound_recordReview {db : Db} (h : Sound db) (rid : String) :
    Sound (db.recordReview rid) := by
  refine ⟨h.labels, h.evidence, fun key review hreview hcomplete => ?_⟩
  unfold Db.recordReview at hreview
  rw [get?_insertNew] at hreview
  by_cases hkey : key = rid
  · rw [if_pos hkey] at hreview
    cases hold : db.reviews.get? rid with
    | some old =>
      rw [hold] at hreview
      cases hreview
      exact h.reviews key _ (hkey ▸ hold) hcomplete
    | none =>
      rw [hold] at hreview
      cases hreview
      cases hcomplete
  · rw [if_neg hkey] at hreview
    exact h.reviews key review hreview hcomplete

/-- **Every call meets the discipline.** -/
theorem meets_body (lang : Language) {alone : Prop} (call : Call)
    (hcall : alone → call.leavesIdentities) (db : Db) :
    Meets lang alone call.tokens (call.body lang) db := by
  have hsame : ∀ db db' : Db, db'.labels = db.labels → db'.outcomes = db.outcomes →
      (alone → db'.campaignRuns = db.campaignRuns ∧ db'.observations = db.observations) →
      (discipline lang alone).own ∅ db db' := fun db db' hlabels houtcomes =>
    own_of_labels hlabels fun k o h => by rw [houtcomes]; exact h
  cases call with
  | resolve batch => exact meets_resolveCampaignBatch batch db
  | queue subject =>
    exact Prog.under_update_bind.mpr fun s _ hs => ⟨own_queue lang alone s subject,
      sound_queue hs subject, meets_pure _⟩
  | observe call =>
    exact Prog.under_update_bind.mpr fun s _ hs => ⟨hsame _ _ rfl rfl fun h => (hcall h).elim,
      ⟨hs.labels, hs.evidence, hs.reviews⟩, meets_pure _⟩
  | attachRun campaignId burninRunId =>
    exact Prog.under_update_bind.mpr fun s _ hs => ⟨hsame _ _ rfl rfl fun h => (hcall h).elim,
      ⟨hs.labels, hs.evidence, hs.reviews⟩, meets_pure _⟩
  | review rid =>
    exact Prog.under_update_bind.mpr fun s _ hs => ⟨hsame _ _ rfl rfl fun _ => ⟨rfl, rfl⟩,
      sound_recordReview hs rid, meets_pure _⟩

/-- A writer takes no label. -/
theorem fenced_body (lang : Language) (call : Call) : (call.body lang).Fenced Takes Respects := by
  cases call with
  | resolve batch => exact fenced_resolveCampaignBatch lang batch
  | queue subject => exact Prog.fenced_update_bind.mpr fun _ => ⟨trivial, fun _ _ => trivial⟩
  | observe call => exact Prog.fenced_update_bind.mpr fun _ => ⟨trivial, fun _ _ => trivial⟩
  | attachRun campaignId burninRunId =>
    exact Prog.fenced_update_bind.mpr fun _ => ⟨trivial, fun _ _ => trivial⟩
  | review rid => exact Prog.fenced_update_bind.mpr fun _ => ⟨trivial, fun _ _ => trivial⟩

/-- What a run has to keep of a label: what it is about, its way along the lease, and, once it is
    settled, the label itself, unless its reject turned out to have no valid identity. -/
structure LabelKept (row row' : RejectLabel) : Prop where
  subject : row'.subject = row.subject
  lease : Relation.ReflTransGen LeaseStep row.lease row'.lease
  settled : ∀ status, row.lease = .settled status → row' = row ∨ row'.Invalidated

/-- What a run has to keep. -/
structure RunKept (db db' : Db) : Prop where
  outcomes : ∀ k o, db.outcomes.get? k = some o → db'.outcomes.get? k = some o
  labels : ∀ pid row, db.labels.get? pid = some row →
    ∃ row', db'.labels.get? pid = some row' ∧ LabelKept row row'

theorem settled_of_invalidated {row : RejectLabel} (h : row.Invalidated) :
    row.lease = .settled .FAILED := by
  unfold RejectLabel.lease
  rw [h.1]

/-- One more statement. -/
theorem runKept_step {db db' db'' : Db} (h : RunKept db db') (hstep : Kept db' db'') :
    RunKept db db'' := by
  refine ⟨fun k o hk => hstep.outcomes k o (h.outcomes k o hk), fun pid row hrow => ?_⟩
  obtain ⟨row', hrow', hkept⟩ := h.labels pid row hrow
  obtain ⟨row'', hrow'', heq | hmoves⟩ := hstep.labels pid row' hrow'
  · exact ⟨row'', hrow'', heq ▸ hkept⟩
  · refine ⟨row'', hrow'', hmoves.subject.trans hkept.subject, hkept.lease.tail hmoves.lease,
      fun status hsettled => Or.inr ?_⟩
    rcases hkept.settled status hsettled with hsame | hinvalid
    · exact hmoves.settled status (hsame ▸ hsettled)
    · exact hmoves.settled .FAILED (settled_of_invalidated hinvalid)

theorem runKept_path {lang : Language} {alone : Prop} {db db' : Db}
    (h : Relation.ReflTransGen (discipline lang alone).step db db') : RunKept db db' := by
  induction h with
  | refl => exact ⟨fun _ _ h => h, fun pid row hrow =>
      ⟨row, hrow, rfl, .refl, fun _ _ => Or.inl rfl⟩⟩
  | tail _ hstep ih => exact runKept_step ih hstep.1

theorem settled_path {lang : Language} {alone : Prop} (halone : alone) {db db' : Db}
    (h : Relation.ReflTransGen (discipline lang alone).step db db') : Settled lang db db' := by
  induction h with
  | refl => exact Settled.refl lang _
  | tail _ hstep ih => exact ih.trans (hstep.2 halone)

/-- A settled label keeps its status. -/
def StatusKept (db db' : Db) : Prop :=
  ∀ pid row status, db.labels.get? pid = some row → row.lease = .settled status →
    ∃ row', db'.labels.get? pid = some row' ∧ row'.lease = .settled status

section Runs

variable {ι : Type} [DecidableEq ι]

/-- No call is open. -/
def idle (db : Db) : Config ι Db PyError Counts := ⟨db, fun _ => none⟩

/-- A worker that now takes a label leaves it alone as soon as the label is under its token no more,
    until it begins another call. -/
def LostIsLeft (lang : Language) (c : Config ι Db PyError Counts) : Prop :=
  ∀ i pid token, Takes (pid, token) c.state (c.next (Call.body lang) (.move i)).state →
    ∀ events : List (Event ι Call), (∀ call, .call i call ∉ events) →
      Respects (pid, token) ((c.next (Call.body lang) (.move i)).run (Call.body lang) events).state
        (((c.next (Call.body lang) (.move i)).run (Call.body lang) events).next (Call.body lang)
          (.move i)).state

/-- **Any number of workers resolve the labels of any number of campaigns**, next to their writers
    and under any interleaving of their statements. From any time to any later one an outcome is
    what was recorded first, and a label moves along its lease; once it is settled it keeps its
    status while nobody writes what identities are read from, and else may only be failed for its
    identity. A worker whose claim was taken over leaves the label alone. -/
theorem labels_resolved (lang : Language) {db : Db} (hsound : Sound db)
    (before after : List (Event ι Call))
    (htokens : (before ++ after).Pairwise fun e e' =>
      Disjoint (e.keys Call.tokens) (e'.keys Call.tokens)) :
    Sound (((idle db).run (Call.body lang) before).run (Call.body lang) after).state ∧
      RunKept ((idle db).run (Call.body lang) before).state
        (((idle db).run (Call.body lang) before).run (Call.body lang) after).state ∧
      ((∀ i call, .call i call ∈ before ++ after → call.leavesIdentities) →
        StatusKept ((idle db).run (Call.body lang) before).state
          (((idle db).run (Call.body lang) before).run (Call.body lang) after).state) ∧
      LostIsLeft lang ((idle db).run (Call.body lang) before) := by
  -- the runs are those of calls that leave the identities alone, where all of them do
  generalize halone : (∀ i call, Event.call i call ∈ before ++ after → call.leavesIdentities) =
    alone
  have hbody : ∀ call : Call, (alone → call.leavesIdentities) → ∀ s,
      (discipline lang alone).invariant s →
        (discipline lang alone).Meets call.tokens (call.body lang) s :=
    fun call hcall s _ => meets_body lang call hcall s
  have hallowed : ∀ i call, .call i call ∈ before ++ after → alone → call.leavesIdentities :=
    fun i call hmem h => (halone ▸ h) i call hmem
  have hstart : Guaranteed (discipline lang alone) Call.tokens
    (idle db : Config ι Db PyError Counts)
      (before ++ after) fun _ => ∅ := guaranteed_start hsound
  obtain ⟨⟨owned, hmid⟩, _⟩ := guaranteed_run hbody
    (fun i call hmem => hallowed i call (List.mem_append_left after hmem)) htokens hstart
  have hrest : (after ++ []).Pairwise fun e e' =>
      Disjoint (Event.keys Call.tokens e) (Event.keys Call.tokens e') := by
    rw [List.append_nil]
    exact (List.pairwise_append.mp htokens).2.1
  rw [← List.append_nil after] at hmid
  obtain ⟨⟨owned', hend⟩, hpath⟩ := guaranteed_run hbody
    (fun i call hmem => hallowed i call (List.mem_append_right before hmem)) hrest hmid
  refine ⟨hend.holds, runKept_path hpath, fun h pid row status hrow hlease => ?_, ?_⟩
  · obtain ⟨row', hrow', _, hsettled, _⟩ := (settled_path h hpath).labels pid row hrow
    exact ⟨row', hrow', hsettled status hlease⟩
  · intro i pid token htakes events hcalls
    have hthreads : ∀ i p, (idle db : Config ι Db PyError Counts).thread i = some p →
        p.Fenced Takes Respects := fun i p hp => by cases hp
    exact fenced_run (fun k s h => h.2 rfl) (fun k s _ => rfl)
      (fenced_threads (fenced_body lang) before hthreads) htakes hcalls

end Runs

/-! ## 9. Two workers -/

/-- What the language makes of the texts below. -/
def sampleLanguage : Language where
  upper := upper
  number n := .finite n
  jsonText _ := ""
  py := ⟨fun _ => none, fun _ => "", fun _ => ""⟩
  frame _ := ⟨2, .int 1, 'm'⟩
  before now _ := if now = "1970-01-01T00:20:00Z" then "1970-01-01T00:15:00+00:00"
    else "1970-01-01T00:05:00+00:00"

/-- A long setup at 100 that was rejected, over ten bars. -/
def sampleSubject : Subject where
  campaignId := "standalone:R1"
  burninRunId := "R1"
  rejectDecisionId := "D1"
  symbol := "BTCUSDT"
  side := "LONG"
  decisionTimestamp := Candles.sampleDecision
  timeframe := some "1m"
  horizonBars := some 10
  horizonSeconds := some 600
  entry := .float 100
  stop := .float 90
  target := .float 110
  executionCostAssumptions := criticalCostFields.map fun f => (f, .float (.finite (1 / 100)))
  rejectReason := some "LOW_SCORE"
  sourceProvenance := [("reject_execution_basis", .text "EXPECTED_FILL_RUNTIME_PARITY")]
  dueAt := Candles.sampleDue

/-- The observation of the reject. -/
def sampleObservation : Burnin.Call where
  args :=
    { observationId := "O1", burninRunId := "R1", releaseId := "L1", executionMode := "PAPER",
      decision := some "REJECTED", metrics := [("reject_decision_id", .text "D1")] }
  now := "1970-01-01T00:00:00Z"

/-- A worker with its tokens; the first bar reaches the target. -/
def sampleBatch (name now : String) : Batch where
  campaignId := "standalone:R1"
  source := .candles [Candles.sampleCandle 60 111 99]
  now := now
  claimTimeoutSeconds := 300
  token i := name ++ toString i
  clock _ := now

def emptyDb : Db := ⟨[], .empty, .empty, .empty, .empty, .empty⟩

/-- The reject is observed, and its label queued. -/
def sampleQueued : List (Event Bool Call) :=
  [.call false (.observe sampleObservation), .move false, .move false,
    .call false (.queue sampleSubject), .move false, .move false]

def sampleStart : Db :=
  ((idle emptyDb : Config Bool Db PyError Counts).run (Call.body sampleLanguage) sampleQueued).state

def sampleRun (events : List (Event Bool Call)) : Config Bool Db PyError Counts :=
  (idle sampleStart).run (Call.body sampleLanguage) events

/-- The first worker has read the label and is about to claim it. -/
def sampleRead : List (Event Bool Call) :=
  [.call false (.resolve (sampleBatch "a" "1970-01-01T00:10:00Z")), .move false, .move false]

/-- It finds no outcome and stops for ten minutes; the second worker takes the label over. -/
def sampleTakeover : List (Event Bool Call) :=
  [.move false, .call true (.resolve (sampleBatch "b" "1970-01-01T00:20:00Z"))] ++
    List.replicate 10 (.move true)

/-- The first worker goes on. -/
def sampleRest (n : ℕ) : List (Event Bool Call) := List.replicate n (.move false)

theorem tokens_differ (now now' : String) :
    Disjoint (Call.resolve (sampleBatch "a" now)).tokens
      (Call.resolve (sampleBatch "b" now')).tokens := by
  rw [Set.disjoint_left]
  rintro _ ⟨i, rfl⟩ ⟨j, h⟩
  have hchars := congrArg String.toList h
  simp only [sampleBatch, String.toList_append] at hchars
  exact absurd (List.cons.inj hchars).1 (by decide)

theorem sound_empty : Sound emptyDb :=
  ⟨fun _ _ h => (by cases h), fun _ _ h => (by cases h), fun _ _ h => (by cases h)⟩

/-- The second worker resolves the label, and so it stays. The first one's update of it, the fourth
    thing it does when it goes on, finds another token. -/
theorem labels_sample :
    ((sampleRun (sampleRead ++ .move false :: sampleTakeover)).state.labels.get? "prej_D1").map
        (fun row => (row.status, row.claimToken)) = some (.RESOLVED, some "b0") ∧
      RunKept (sampleRun (sampleRead ++ .move false :: sampleTakeover)).state
        ((sampleRun (sampleRead ++ .move false :: sampleTakeover)).run (Call.body sampleLanguage)
          (sampleRest 6)).state ∧
      StatusKept (sampleRun (sampleRead ++ .move false :: sampleTakeover)).state
        ((sampleRun (sampleRead ++ .move false :: sampleTakeover)).run (Call.body sampleLanguage)
          (sampleRest 6)).state ∧
      ((((sampleRun sampleRead).next (Call.body sampleLanguage) (.move false)).run
          (Call.body sampleLanguage) (sampleTakeover ++ sampleRest 3)).next
            (Call.body sampleLanguage)
            (.move false)).state.labels.get? "prej_D1" =
        (((sampleRun sampleRead).next (Call.body sampleLanguage) (.move false)).run
          (Call.body sampleLanguage) (sampleTakeover ++ sampleRest 3)).state.labels.get?
            "prej_D1" := by
  have hab := tokens_differ "1970-01-01T00:10:00Z" "1970-01-01T00:20:00Z"
  have hstart : Sound sampleStart := by
    refine (labels_resolved sampleLanguage sound_empty sampleQueued [] ?_).1
    simp [sampleQueued, Event.keys, Call.tokens]
  obtain ⟨_, hkept, hstatus, _⟩ := labels_resolved sampleLanguage hstart
    (sampleRead ++ .move false :: sampleTakeover) (sampleRest 6) (by
      simp [sampleRead, sampleTakeover, sampleRest, Event.keys]
      exact hab)
  obtain ⟨_, _, _, hlost⟩ := labels_resolved sampleLanguage hstart sampleRead [] (by
    simp [sampleRead, Event.keys])
  have hresolves : ∀ i call, Event.call i call ∈
      (sampleRead ++ .move false :: sampleTakeover) ++ sampleRest 6 → call.leavesIdentities := by
    intro i call hmem
    simp [sampleRead, sampleTakeover, sampleRest] at hmem
    rcases hmem with ⟨_, rfl⟩ | ⟨_, rfl⟩
    · trivial
    · trivial
  refine ⟨by decide +kernel, hkept, hstatus hresolves, ?_⟩
  refine hlost false "prej_D1" "a0" ⟨by decide +kernel, fun h => ?_⟩
    (sampleTakeover ++ sampleRest 3) ?_ (by decide +kernel)
  · have hclaim := congrArg (fun label => label.bind RejectLabel.claimToken) h
    exact absurd hclaim (by decide +kernel)
  · intro call hmem
    simp [sampleTakeover, sampleRest] at hmem

end AlphaForge.Burnin.Rejects
