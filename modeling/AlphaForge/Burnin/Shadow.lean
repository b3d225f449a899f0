/-
  File:      AlphaForge/Burnin/Shadow.lean
  Subject:   `position_management_shadow.py`: what the shadow provider proposes for a position, how
             a proposal is named, and how proposals are persisted.

  The name of a proposal hashes its identity, and the identity holds a hash of the evidence. The
  payload says more than both: the geometry and the size of the position, the last candle, the
  regime and the costs are in no hash.

  * `snapshot` -- the part of an evaluation that no proposal id covers.
  * **`payload_same_iff`** -- two evaluations of one proposal id agree on all that is hashed, and
    their payloads are equal exactly when their snapshots are.
  * **`proposal_id_covers`** -- batches whose evaluations of one id saw one snapshot are persisted
    without a conflict; another snapshot of a stored id is refused.

  Integers are within the float range, and times keep clear of the ends of the calendar.
-/
import AlphaForge.Lib.Checks
import AlphaForge.Lib.Json
import AlphaForge.Lib.PrefixText
import AlphaForge.Lib.Ranking

namespace AlphaForge.Burnin.Shadow

open AlphaForge.Lib

/-! ## 1. Readings -/

/-- What the provider takes from the language and its library. -/
structure Host (F : Type) extends Builtins F where
  /-- `datetime.fromisoformat(text.replace("Z", "+00:00"))` in microseconds of UTC, a text without
      an offset read as UTC; `none` where it raises. -/
  fromIso : String → Option ℤ
  /-- `_iso`, whole seconds of UTC. -/
  iso : ℤ → String
  /-- `timedelta.total_seconds()`. -/
  totalSeconds : ℤ → F
  /-- `json.loads(text)`; `none` where it raises. -/
  loads : String → Option (Value F)
  /-- `canonical_hash`: the SHA-256 digest of the JSON text with sorted keys. -/
  digest : Value F → String
  digest_length : ∀ v, (digest v).length = 64
  digest_congr : ∀ v w, v.canonical = w.canonical → digest v = digest w

variable {F : Type} [FloatNum F] (host : Host F)

/-- `_finite`. -/
def finite (v : Value F) (positive : Bool) : Option F :=
  let parsed : Option F :=
    match v with
    | .int n => some (FloatNum.ofInt n)
    | .float x => some x
    | .text s => host.parse s
    | _ => none
  parsed.filter fun x => FloatNum.isFinite x ∧ ¬ (positive = true ∧ x ≤ FloatNum.ofInt 0)

/-- `_dt`. -/
def dt (v : Value F) : Option ℤ := host.fromIso (v.str host.toBuiltins)

/-- `str(value or default)`. -/
def textOr (v : Value F) (default : String) : String :=
  if v.truthy then v.str host.toBuiltins else default

/-- `_interval_seconds`. -/
def intervalSeconds (v : Value F) : Option ℤ :=
  [("1m", 60), ("5m", 300), ("15m", 900), ("30m", 1800), ("1h", 3600), ("2h", 7200), ("4h", 14400),
    ("1d", 86400)].lookup (lower (strip (textOr host v "")))

/-- `_position_provenance`. -/
def positionProvenance (position : Payload F) : Payload F :=
  match position.get "source_provenance" with
  | .mapping entries => entries
  | _ =>
    let raw := position.get "source_provenance_json"
    if raw.truthy then ((host.loads (raw.str host.toBuiltins)).map Value.asMapping).getD []
    else []

/-- `value is False`. -/
def isFalse : Value F → Bool
  | .bool b => !b
  | _ => false

/-- `value is True`. -/
def isTrue : Value F → Bool
  | .bool b => b
  | _ => false

/-- `value is None`. -/
def isNone : Value F → Bool
  | .none => true
  | _ => false

/-- `value in (None, "")`. -/
def isBlank : Value F → Bool
  | .none => true
  | .text s => s == ""
  | _ => false

/-- `first if first is not None else second`. -/
def orIfNone (first second : Value F) : Value F := if isNone first then second else first

/-- A number, or None. -/
def optional : Option F → Value F
  | none => .none
  | some x => .float x

/-- A text, or None. -/
def optionalText : Option String → Value F
  | none => .none
  | some s => .text s

/-! ## 2. Candles -/

/-- A normalised candle. -/
structure Candle (F : Type) where
  openTime : ℤ
  closedCandleTime : ℤ
  interval : String
  high : F
  low : F
  close : F
  sourceProvenance : Payload F

/-- `candle["closed_candle_time"]`. -/
def Candle.closedText (c : Candle F) : String := host.iso c.closedCandleTime

/-- `candle["timestamp"]`. -/
def Candle.timestamp (c : Candle F) : String := host.iso c.openTime

/-- The dictionary of a candle. -/
def Candle.toValue (c : Candle F) : Value F :=
  .mapping [("timestamp", .text (c.timestamp host)), ("open_time", .text (c.timestamp host)),
    ("closed_candle_time", .text (c.closedText host)), ("interval", .text c.interval),
    ("high", .float c.high), ("low", .float c.low), ("close", .float c.close),
    ("source_provenance", .mapping c.sourceProvenance)]

/-- `raw.get("timestamp") or raw.get("open_time") or raw.get("time")`. -/
def timestampOf (raw : Payload F) : Value F :=
  ((raw.get "timestamp").or (raw.get "open_time")).or (raw.get "time")

/-- The candles kept, by their open time, and the errors found. -/
structure Normalizing (F : Type) where
  unique : List (ℤ × Candle F)
  errors : List String

/-- `errors.append(error)`. -/
def Normalizing.fail (n : Normalizing F) (error : String) : Normalizing F :=
  { n with errors := n.errors ++ [error] }

/-- A candle with its three prices in order. -/
def prices (raw : Payload F) : Option (F × F × F) := do
  let high ← finite host (raw.get "high") true
  let low ← finite host (raw.get "low") true
  let close ← finite host (raw.get "close") true
  if high < low ∨ ¬ (low ≤ close ∧ close ≤ high) then none else some (high, low, close)

/-- The status words of evidence that is not to be used. -/
def unusable : List String := ["STALE", "UNAVAILABLE", "MALFORMED", "INCOMPLETE"]

/-- `existing[key] != candle[key]` for one of the compared keys. -/
def differs (existing candle : Candle F) : Bool :=
  !FloatNum.feq existing.high candle.high || !FloatNum.feq existing.low candle.low ||
    !FloatNum.feq existing.close candle.close ||
    decide (existing.closedText host ≠ candle.closedText host)

/-- One round of the loop of `_normalize_candles` on a mapping. -/
def normalizeCandle (entryTime proposalTime : ℤ) (n : Normalizing F) (index : ℕ) (raw : Payload F) :
    Normalizing F :=
  if isFalse (raw.get "is_closed") || isFalse (raw.get "closed") then n
  else
    match dt host (timestampOf raw) with
    | none => n.fail s!"CANDLE_{index}_TIMESTAMP_MALFORMED"
    | some openTime =>
      let source := (raw.get "source_provenance").asMapping
      let interval := (Payload.get source "interval").or (raw.get "interval")
      match intervalSeconds host interval with
      | none => n.fail "CANDLE_INTERVAL_UNAVAILABLE_OR_UNSUPPORTED"
      | some seconds =>
        let closedCandleTime := openTime + seconds * 1000000
        if proposalTime < closedCandleTime then n.fail "OPEN_OR_FUTURE_CANDLE_PRESENT"
        else if openTime ≤ entryTime then n
        else
          match prices host raw with
          | none => n.fail s!"CANDLE_{index}_OHLC_MALFORMED"
          | some (high, low, close) =>
            let status := upper (textOr host
              ((Payload.get source "evidence_status").or (raw.get "evidence_status")) "")
            let n := if status ∈ unusable ∨ isTrue (raw.get "stale") = true
              then n.fail "STALE_OR_UNAVAILABLE_MARKET_EVIDENCE" else n
            let candle : Candle F :=
              ⟨openTime, closedCandleTime, interval.str host.toBuiltins, high, low, close, source⟩
            if (n.unique.lookup openTime).any fun existing => differs host existing candle
            then n.fail "DUPLICATE_CANDLE_CONFLICT"
            else { n with unique := assign n.unique openTime candle }

/-- The loop of `_normalize_candles`. -/
def normalizeLoop (entryTime proposalTime : ℤ) :
    Normalizing F → ℕ → List (Value F) → Normalizing F
  | n, _, [] => n
  | n, index, .mapping raw :: rest =>
    normalizeLoop entryTime proposalTime (normalizeCandle host entryTime proposalTime n index raw)
      (index + 1) rest
  | n, index, _ :: rest =>
    normalizeLoop entryTime proposalTime (n.fail s!"CANDLE_{index}_NOT_MAPPING") (index + 1) rest

/-- `_normalize_candles`. -/
def normalizeCandles (candles : List (Value F)) (entryTime proposalTime : ℤ) :
    List (Candle F) × List String :=
  let n := normalizeLoop host entryTime proposalTime ⟨[], []⟩ 0 candles
  ((sortOn Prod.fst n.unique).map Prod.snd, sortedSet n.errors)

/-- `_first_terminal_candle_time`. -/
def firstTerminalCandleTime (side : String) (currentStop target : Option F)
    (candles : List (Candle F)) : Option String :=
  match currentStop, target with
  | some stop, some goal =>
    if side = "LONG" then
      (candles.find? fun c => c.low ≤ stop ∨ goal ≤ c.high).map fun c => c.timestamp host
    else if side = "SHORT" then
      (candles.find? fun c => stop ≤ c.high ∨ c.low ≤ goal).map fun c => c.timestamp host
    else none
  | _, _ => none

/-- `_raw_before_boundary`. -/
def rawBeforeBoundary (candles : List (Value F)) (terminalTime : String) : List (Value F) :=
  match dt host (.text terminalTime) with
  | none => candles
  | some boundary => candles.filter fun raw =>
    match raw with
    | .mapping entries => (dt host (timestampOf entries)).all fun t => t < boundary
    | _ => true

/-- The gaps between neighbours, in microseconds: at most 60 s before the first candle and 90 s
    between two. -/
def gapErrors (previous maxGap : ℤ) : List (Candle F) → List String
  | [] => []
  | c :: rest =>
    match dt host (.text (c.timestamp host)) with
    | none => ["MARKET_CANDLE_GAP_OR_TIME_INVALID"]
    | some current =>
      if current - previous ≤ 0 ∨ maxGap < current - previous
      then ["MARKET_CANDLE_GAP_OR_TIME_INVALID"]
      else gapErrors current 90000000 rest

/-- `_candle_gap_errors`. -/
def candleGapErrors (candles : List (Candle F)) (entryTime : Option ℤ) : List String :=
  match entryTime with
  | none => []
  | some t => gapErrors host t 60000000 candles

/-! ## 3. Evidence -/

/-- The keys of `_scope_error` of which a candle disagrees with the campaign. -/
def crossScoped (campaign : Payload F) (c : Candle F) : Option String :=
  (["campaign_id", "release_id", "git_commit", "config_hash"].find? fun key =>
    let observed := Payload.get c.sourceProvenance key
    !isBlank observed && observed.str host.toBuiltins != textOr host (campaign.get key) "").map
    fun key => "CROSS_SCOPED_MARKET_EVIDENCE:" ++ key

/-- `_scope_error`. -/
def scopeError (position campaign : Payload F) (candles : List (Candle F)) : Option String :=
  if textOr host (position.get "campaign_id") "" ≠ textOr host (campaign.get "campaign_id") ""
  then some "CROSS_SCOPED_POSITION_CAMPAIGN"
  else candles.findSome? (crossScoped host campaign)

/-- The costs of `_execution_evidence`. -/
def requiredCosts : List String :=
  ["spread_penalty", "slippage_penalty", "fee_penalty", "funding_penalty", "latency_penalty",
    "volatility_penalty", "liquidity_penalty"]

/-- A finite number that is not negative. -/
def usable (x : Option F) : Bool := x.any fun v => ¬ v < FloatNum.ofInt 0

/-- `_execution_evidence`: the costs are complete, and the evidence. -/
def executionEvidence (position provenance : Payload F) : Bool × Payload F :=
  let model := (provenance.get "execution_cost_model").asMapping
  let penalty := fun key => finite host (Payload.get model key) false
  let entryCost := fun key => finite host (position.get key) false
  let entryKeys := ["entry_spread", "entry_slippage", "entry_fee"]
  let complete := requiredCosts.all (fun key => usable (penalty key)) &&
    entryKeys.all fun key => usable (entryCost key)
  (complete,
    [("status", .text (if complete then "COMPLETE" else "INCOMPLETE")),
      ("cost_model_unit", provenance.get "execution_cost_model_unit"),
      ("execution_cost_unit", provenance.get "execution_cost_unit"),
      ("model", .mapping ((requiredCosts.filter fun key => usable (penalty key)).map fun key =>
        (key, optional (penalty key)))),
      ("entry_costs", .mapping (entryKeys.map fun key => (key, optional (entryCost key))))])

/-- `max(0.0, max(values, default=0.0))`. -/
def atLeastZero : List F → F
  | [] => FloatNum.ofInt 0
  | x :: rest => pyMax (FloatNum.ofInt 0) (rest.foldl pyMax x)

/-- `_excursions`. -/
def excursions (position : Payload F) (candles : List (Candle F)) : Option (F × F) := do
  let entry ← finite host ((position.get "simulated_fill").or (position.get "planned_entry")) true
  let stop ← finite host (position.get "stop") true
  let side := upper (textOr host (position.get "side") "")
  if side ≠ "LONG" ∧ side ≠ "SHORT" then none
  else
    let risk := FloatNum.abs (entry - stop)
    if risk ≤ FloatNum.ofInt 0 then none
    else
      let up := candles.map fun c => (c.high - entry) / risk
      let down := candles.map fun c => (entry - c.low) / risk
      if side = "LONG" then some (atLeastZero up, atLeastZero down)
      else some (atLeastZero down, atLeastZero up)

/-! ## 4. An evaluation -/

/-- `SHADOW_ACTIONS`. -/
inductive Action where
  | tightenStop
  | partialExit
  | enableTrailing
  | protectiveExit
  deriving DecidableEq, Repr

def Action.text : Action → String
  | .tightenStop => "WOULD_TIGHTEN_STOP"
  | .partialExit => "WOULD_PARTIAL_EXIT"
  | .enableTrailing => "WOULD_ENABLE_TRAILING"
  | .protectiveExit => "WOULD_PROTECTIVE_EXIT"

def shadowActions : List Action := [.tightenStop, .partialExit, .enableTrailing, .protectiveExit]

/-- What `__call__` has found out about a position when it starts to build its proposals. -/
structure Evaluation (F : Type) where
  campaignId : Value F
  activeRunId : String
  releaseId : Value F
  gitCommit : Value F
  configHash : Value F
  strategyConfigHash : Value F
  tradeId : Value F
  positionEntryRunId : String
  /-- `position.get("decision_time") or position.get("entry_time")`. -/
  sourceTime : Value F
  symbol : Value F
  side : String
  entry : Option F
  initialStop : Option F
  currentStop : Option F
  target : Option F
  remainingQuantity : Option F
  closedBoundary : Option String
  observedPrice : Option F
  mfe : Option F
  mae : Option F
  errors : List String
  candleCount : ℕ
  latestCandle : Value F
  regime : Value F
  setupType : Value F
  targetPolicy : Payload F
  costsComplete : Bool
  execution : Payload F

/-- The errors about the candles that are left. -/
def boundaryErrors (maxAge : F) (now : Option ℤ) (terminal : Option String)
    (normalized : List (Candle F)) (errors : List String) : List String :=
  match normalized.getLast? with
  | none =>
    if terminal.isSome = true then ["NO_PRE_TERMINAL_CLOSED_CANDLE"]
    else if errors = [] then ["CLOSED_CANDLE_EVIDENCE_UNAVAILABLE"] else []
  | some last =>
    match now with
    | none => []
    | some t =>
      match dt host (.text (last.closedText host)) with
      | none => ["STALE_MARKET_EVIDENCE"]
      | some boundary =>
        if maxAge < host.totalSeconds (t - boundary) then ["STALE_MARKET_EVIDENCE"] else []

/-- The candles a decision may look at, the errors of normalising them and the time of the first
    candle that ends the position. -/
def causalCandles (candles : List (Value F)) (now entryTime : Option ℤ) (side : String)
    (currentStop target : Option F) : List (Candle F) × List String × Option String :=
  match now, entryTime with
  | some t, some entered =>
    if t ≤ entered then ([], ["PROPOSAL_TIME_INVALID"], none)
    else
      let (all, errors) := normalizeCandles host candles entered t
      match firstTerminalCandleTime host side currentStop target all with
      | none => (all, errors, none)
      | some terminal =>
        let (normalized, causal) :=
          normalizeCandles host (rawBeforeBoundary host candles terminal) entered t
        (normalized, causal, some terminal)
  | _, _ => ([], ["PROPOSAL_TIME_INVALID"], none)

/-- `__call__` up to its proposals. -/
def evaluate (maxEvidenceAge : F) (position : Payload F) (candles : List (Value F))
    (proposalTime : String) (campaign : Payload F) : Except PyError (Evaluation F) := do
  refuseIf (upper (textOr host (campaign.get "execution_mode") "PAPER") ≠ "PAPER")
    "POSITION_MANAGEMENT_SHADOW_IS_PAPER_ONLY"
  let now := dt host (.text proposalTime)
  let entryTime := dt host (position.get "entry_time")
  let entry := finite host ((position.get "simulated_fill").or (position.get "planned_entry")) true
  let initialStop := finite host (position.get "stop") true
  let currentStop := finite host (orIfNone (position.get "current_stop") (position.get "stop")) true
  let target := finite host (orIfNone (position.get "current_target") (position.get "target")) true
  let remainingQuantity :=
    finite host (orIfNone (position.get "remaining_quantity") (position.get "quantity")) true
  let side := upper (textOr host (position.get "side") "")
  let (normalized, found, terminal) :=
    causalCandles host candles now entryTime side currentStop target
  let early := found ++ candleGapErrors host normalized entryTime ++
    (scopeError host position campaign normalized).toList
  let late := early ++ boundaryErrors host maxEvidenceAge now terminal normalized early
  let geometry := [entry, initialStop, currentStop, target, remainingQuantity]
  let provenance := positionProvenance host position
  let execution := executionEvidence host position provenance
  let excursion := excursions host position normalized
  let errors := sortedSet (late ++
    (if none ∈ geometry.map (Option.map fun _ => ()) ∨ (side ≠ "LONG" ∧ side ≠ "SHORT")
      then ["POSITION_GEOMETRY_OR_SIZE_INCOMPLETE"] else []) ++
    (if execution.1 then [] else ["EXECUTION_COST_EVIDENCE_INCOMPLETE"]) ++
    (if excursion.isNone then ["MFE_MAE_UNAVAILABLE"] else []))
  let activeRunId := textOr host (campaign.get "active_run_id") ""
  refuseIf (activeRunId = "") "POSITION_MANAGEMENT_SHADOW_ACTIVE_RUN_ID_MISSING"
  return {
    campaignId := campaign.get "campaign_id"
    activeRunId := activeRunId
    releaseId := campaign.get "release_id"
    gitCommit := campaign.get "git_commit"
    configHash := campaign.get "config_hash"
    strategyConfigHash := campaign.get "strategy_config_hash"
    tradeId := position.get "trade_id"
    positionEntryRunId := textOr host (position.get "burnin_run_id") ""
    sourceTime := (position.get "decision_time").or (position.get "entry_time")
    symbol := position.get "symbol"
    side := side
    entry := entry
    initialStop := initialStop
    currentStop := currentStop
    target := target
    remainingQuantity := remainingQuantity
    closedBoundary := normalized.getLast?.map fun c => c.closedText host
    observedPrice := normalized.getLast?.map Candle.close
    mfe := excursion.map Prod.fst
    mae := excursion.map Prod.snd
    errors := errors
    candleCount := normalized.length
    latestCandle := (normalized.getLast?.map fun c => c.toValue host).getD .none
    regime := position.get "regime"
    setupType := position.get "setup_type"
    targetPolicy := (provenance.get "target_policy").asMapping
    costsComplete := execution.1
    execution := execution.2 }

/-! ## 5. The proposals of an evaluation -/

namespace Evaluation

variable (e : Evaluation F) (action : Action)

/-- The status, the reason and the parameters of a proposal. -/
def verdict : String × String × Payload F :=
  match e.errors.head? with
  | some block => ("DENIED", block, [])
  | none =>
    match action with
    | .enableTrailing =>
      if (e.targetPolicy.get "trailing_allowed").truthy = false then
        ("DENIED", "AUTHORITATIVE_POLICY_DENIES_TRAILING", [])
      else
        match finite host (e.targetPolicy.get "trailing_distance") true with
        | none => ("DENIED", "TRAILING_DISTANCE_UNSET_REQUIRES_CALIBRATION", [])
        | some distance => ("ELIGIBLE", "EXPLICIT_CALIBRATED_TRAILING_POLICY_AVAILABLE",
            [("trailing_distance", .float distance)])
    | .tightenStop => ("DENIED", "TIGHTEN_STOP_POLICY_UNCALIBRATED", [])
    | .partialExit => ("DENIED", "PARTIAL_EXIT_POLICY_UNCALIBRATED", [])
    | .protectiveExit => ("DENIED", "PROTECTIVE_EXIT_POLICY_UNCALIBRATED", [])

def status : String := (e.verdict host action).1

def reason : String := (e.verdict host action).2.1

def parameters : Payload F := (e.verdict host action).2.2

/-- `errors` as a list of texts. -/
def errorTexts : Value F := .list (e.errors.map Value.text)

/-- `execution_evidence["status"]`. -/
def executionStatus : Value F := .text (if e.costsComplete then "COMPLETE" else "INCOMPLETE")

/-- `boundary_key`. -/
def boundaryKey : String :=
  if e.closedBoundary.getD "" = "" then "NO_CLOSED_CANDLE" else e.closedBoundary.getD ""

/-- What the evidence signature hashes. -/
def evidence : Payload F :=
  [("closed_candle_time", .text e.boundaryKey),
    ("errors", e.errorTexts), ("observed_price", optional e.observedPrice),
    ("mfe_r", optional e.mfe), ("mae_r", optional e.mae),
    ("target_policy", .mapping e.targetPolicy), ("execution_status", e.executionStatus),
    ("eligibility_status", .text (e.status host action)), ("reason", .text (e.reason host action)),
    ("parameters", .mapping (e.parameters host action))]

/-- `identity`. -/
def identity : Payload F :=
  [("campaign_id", e.campaignId), ("burnin_run_id", .text e.activeRunId),
    ("release_id", e.releaseId), ("git_commit", e.gitCommit), ("config_hash", e.configHash),
    ("trade_id", e.tradeId), ("closed_candle_time", optionalText e.closedBoundary),
    ("proposed_action", .text action.text),
    ("evidence_signature", .text (host.digest (.mapping (e.evidence host action))))]

/-- `canonical_hash(value)[:24]`. -/
def short (v : Value F) : String := String.ofList ((host.digest v).toList.take 24)

/-- `proposal_id`. -/
def proposalId : String := "pmshadow_" ++ short host (.mapping (e.identity host action))

/-- `market_evidence`. -/
def marketEvidence : Payload F :=
  [("status", .text (if e.errors = [] then "COMPLETE" else "INCOMPLETE")),
    ("closed_candle_time", optionalText e.closedBoundary),
    ("observed_price", optional e.observedPrice), ("candle_count", .int e.candleCount),
    ("mfe_r_as_of_proposal", optional e.mfe), ("mae_r_as_of_proposal", optional e.mae),
    ("first_terminal_candle_open_time", .none), ("first_terminal_candle_close_time", .none),
    ("terminal_and_post_terminal_candles_excluded", .bool false), ("errors", e.errorTexts),
    ("latest_candle", e.latestCandle)]

/-- `regime_evidence`. -/
def regimeEvidence : Payload F :=
  [("regime", e.regime), ("setup_type", e.setupType),
    ("target_policy", .mapping e.targetPolicy)]

/-- `cost_semantics`. -/
def costSemantics : Value F :=
  if e.status host action = "ELIGIBLE" ∧ action = .enableTrailing then
    .mapping [("status", .text "NOT_APPLICABLE_AT_ENABLE_TIME"),
      ("immediate_execution_cost_usd", .float (FloatNum.ofInt 0)),
      ("future_exit_costs", .text "UNRESOLVED")]
  else .mapping [("status", .text "NOT_COMPUTED"), ("reason", .text "PROPOSAL_NOT_ELIGIBLE")]

/-- `counterfactual`. -/
def counterfactual : Value F :=
  .mapping [("status", .text (if e.status host action = "ELIGIBLE" then "PATH_DEPENDENT"
      else "NOT_COMPUTED")), ("net_r", .none), ("realized_evidence", .bool false),
    ("reason", .text (if e.status host action = "ELIGIBLE" then "NO_REALIZED_EXIT_AT_ENABLE_TIME"
      else "PROPOSAL_NOT_ELIGIBLE"))]

/-- `payload`. -/
def payload : Payload F :=
  e.identity host action ++
    [("proposal_id", .text (e.proposalId host action)),
      ("strategy_config_hash", e.strategyConfigHash),
      ("position_entry_run_id", .text e.positionEntryRunId),
      ("proposal_time", (optionalText e.closedBoundary).or e.sourceTime),
      ("decision_time", optionalText e.closedBoundary),
      ("source_trade_decision_time", e.sourceTime), ("symbol", e.symbol), ("side", .text e.side),
      ("entry", optional e.entry), ("initial_stop", optional e.initialStop),
      ("current_stop", optional e.currentStop), ("target", optional e.target),
      ("remaining_quantity", optional e.remainingQuantity),
      ("observed_price", optional e.observedPrice), ("mfe_r", optional e.mfe),
      ("mae_r", optional e.mae), ("parameters", .mapping (e.parameters host action)),
      ("eligibility_status", .text (e.status host action)),
      ("reason", .text (e.reason host action)), ("market_evidence", .mapping e.marketEvidence),
      ("regime_evidence", .mapping e.regimeEvidence), ("execution_evidence", .mapping e.execution),
      ("estimated_execution_costs", e.costSemantics host action),
      ("counterfactual_net_r", e.counterfactual host action),
      ("authoritative_state_mutation", .bool false), ("authoritative_realized_pnl", .bool false)]

/-- A proposal, with the hash of its payload. -/
def proposal : Payload F :=
  e.payload host action ++
    [("proposal_hash", .text (host.digest (.mapping (e.payload host action))))]

/-- The proposals of an evaluation. -/
def proposals : List (Payload F) := shadowActions.map (e.proposal host)

end Evaluation

/-! ## 6. Persisting proposals -/

/-- A row of `burnin_position_management_shadow_proposals`: the key columns, the columns that are
    copied from the proposal, and the rest. -/
structure Row (F : Type) where
  proposalId : String
  proposalHash : String
  columns : List (Value F)
  payloadJson : String
  createdAt : String

/-- The copied columns that must not be NULL. -/
def requiredColumns : List String :=
  ["campaign_id", "burnin_run_id", "position_entry_run_id", "release_id", "git_commit",
    "config_hash", "strategy_config_hash", "trade_id", "symbol", "proposal_time",
    "eligibility_status", "reason"]

/-- The copied columns that may be NULL. -/
def optionalColumns : List String := ["closed_candle_time", "observed_price", "mfe_r", "mae_r"]

/-- A parameter of a statement: the driver takes no list and no mapping. -/
def bindable : Value F → Bool
  | .list _ => false
  | .mapping _ => false
  | _ => true

/-- The INSERT statement. -/
def insertRow (table : List (Row F)) (proposal : Payload F) (id hash action now : String) :
    Except PyError (List (Row F)) :=
  let columns := (requiredColumns ++ optionalColumns).map fun key => proposal.get key
  if columns.any (fun v => !bindable v) then
    .error (.runtimeError "Error binding parameter: type is not supported")
  else if requiredColumns.any (fun key => isNone (proposal.get key)) then .error .integrityError
  else .ok (table ++ [⟨id, hash, .text action :: columns, host.dumps (.mapping proposal), now⟩])

/-- `ValueError("POSITION_MANAGEMENT_SHADOW_PROPOSAL_ID_CONFLICT")`. -/
def conflict : PyError := .valueError "POSITION_MANAGEMENT_SHADOW_PROPOSAL_ID_CONFLICT"

/-- The table, and `counts`. -/
structure Persisted (F : Type) where
  table : List (Row F)
  inserted : ℕ
  idempotent : ℕ

/-- One round of the loop of `persist_position_management_shadow_proposals`. -/
def persistOne (now : String) (state : Persisted F) (proposal : Payload F) :
    Except PyError (Persisted F) := do
  let action := textOr host (proposal.get "proposed_action") ""
  refuseIf (action ∉ shadowActions.map Action.text) "POSITION_MANAGEMENT_SHADOW_ACTION_INVALID"
  let status := textOr host (proposal.get "eligibility_status") ""
  refuseIf (status ≠ "ELIGIBLE" ∧ status ≠ "DENIED") "POSITION_MANAGEMENT_SHADOW_STATUS_INVALID"
  let id := textOr host (proposal.get "proposal_id") ""
  let hash := textOr host (proposal.get "proposal_hash") ""
  refuseIf (id = "" ∨ hash = "") "POSITION_MANAGEMENT_SHADOW_IDENTITY_MISSING"
  match state.table.find? fun row => row.proposalId = id with
  | some existing =>
    if existing.proposalHash ≠ hash then .error conflict
    else .ok { state with idempotent := state.idempotent + 1 }
  | none => do
    let table ← insertRow host state.table proposal id hash action now
    return { state with table := table, inserted := state.inserted + 1 }

/-- `persist_position_management_shadow_proposals`. -/
def persist (now : String) (table : List (Row F)) (proposals : List (Payload F)) :
    Except PyError (Persisted F) := proposals.foldlM (persistOne host now) ⟨table, 0, 0⟩

/-- One tick of the resolver: a batch that raises is rolled back. -/
def tick (table : List (Row F)) (batch : String × List (Payload F)) : List (Row F) :=
  match persist host batch.1 table batch.2 with
  | .ok state => state.table
  | .error _ => table

/-- The table after some ticks. -/
def run (batches : List (String × List (Payload F))) : List (Row F) := batches.foldl (tick host) []

/-! ## 7. What a proposal id covers -/

section Covers

variable {host}

omit [FloatNum F] in
@[simp] theorem canonical_text (s : String) : (Value.text s : Value F).canonical = .text s := rfl

omit [FloatNum F] in
@[simp] theorem canonical_int (n : ℤ) : (Value.int n : Value F).canonical = .int n := rfl

omit [FloatNum F] in
@[simp] theorem canonical_optional (x : Option F) : (optional x).canonical = optional x := by
  cases x <;> rfl

omit [FloatNum F] in
@[simp] theorem canonical_optionalText (s : Option String) :
    (optionalText s : Value F).canonical = optionalText s := by
  cases s <;> rfl

omit [FloatNum F] in
theorem optional_inj {x y : Option F} : optional x = optional y ↔ x = y := by
  cases x <;> cases y <;> simp [optional]

omit [FloatNum F] in
theorem optionalText_inj {s t : Option String} :
    (optionalText s : Value F) = optionalText t ↔ s = t := by
  cases s <;> cases t <;> simp [optionalText]

omit [FloatNum F] in
theorem errorTexts_inj {e e' : Evaluation F} :
    e.errorTexts.canonical = e'.errorTexts.canonical ↔ e.errors = e'.errors := by
  unfold Evaluation.errorTexts
  constructor
  · intro h
    have htexts := canonical_list h
    rw [List.map_map, List.map_map] at htexts
    exact List.map_injective_iff.mpr (fun _ _ h => Value.text.inj h) htexts
  · intro h
    rw [h]

theorem Action.text_injective {a b : Action} (h : a.text = b.text) : a = b := by
  revert h
  cases a <;> cases b <;> decide

/-- What the id of a proposal says about an evaluation: two evaluations agree on it. -/
structure Covered (host : Host F) (e e' : Evaluation F) (action : Action) : Prop where
  campaignId : e.campaignId.canonical = e'.campaignId.canonical
  activeRunId : e.activeRunId = e'.activeRunId
  releaseId : e.releaseId.canonical = e'.releaseId.canonical
  gitCommit : e.gitCommit.canonical = e'.gitCommit.canonical
  configHash : e.configHash.canonical = e'.configHash.canonical
  tradeId : e.tradeId.canonical = e'.tradeId.canonical
  closedBoundary : e.closedBoundary = e'.closedBoundary
  errors : e.errors = e'.errors
  observedPrice : e.observedPrice = e'.observedPrice
  mfe : e.mfe = e'.mfe
  mae : e.mae = e'.mae
  targetPolicy : (Value.mapping e.targetPolicy).canonical =
    (Value.mapping e'.targetPolicy).canonical
  executionStatus : e.executionStatus = e'.executionStatus
  status : e.status host action = e'.status host action
  reason : e.reason host action = e'.reason host action
  parameters : (Value.mapping (e.parameters host action)).canonical =
    (Value.mapping (e'.parameters host action)).canonical

variable (host) in
/-- No two of the values share the first 24 digits of their hashes. -/
def CollisionFree (vs : List (Value F)) : Prop :=
  ∀ v ∈ vs, ∀ w ∈ vs, Evaluation.short host v = Evaluation.short host w → v.canonical = w.canonical

variable (host) in
/-- What is hashed for some evaluations. -/
def hashed (es : List (Evaluation F)) : List (Value F) :=
  es.flatMap fun e => shadowActions.flatMap fun action =>
    [.mapping (e.evidence host action), .mapping (e.identity host action),
      .mapping (e.payload host action)]

theorem mem_hashed {es : List (Evaluation F)} {e : Evaluation F} (he : e ∈ es) (action : Action) :
    .mapping (e.evidence host action) ∈ hashed host es ∧
      .mapping (e.identity host action) ∈ hashed host es ∧
      .mapping (e.payload host action) ∈ hashed host es := by
  have haction : action ∈ shadowActions := by cases action <;> decide
  have hmem : ∀ v ∈ [Value.mapping (e.evidence host action), .mapping (e.identity host action),
      .mapping (e.payload host action)], v ∈ hashed host es := fun v hv =>
    List.mem_flatMap.mpr ⟨e, he, List.mem_flatMap.mpr ⟨action, haction, hv⟩⟩
  simp only [List.forall_mem_cons] at hmem
  exact ⟨hmem.1, hmem.2.1, hmem.2.2.1⟩

theorem hashed_of_take {es : List (Evaluation F)} {n : ℕ} {v : Value F}
    (h : v ∈ hashed host (es.take n)) : v ∈ hashed host es := by
  obtain ⟨e, he, hv⟩ := List.mem_flatMap.mp h
  exact List.mem_flatMap.mpr ⟨e, List.mem_of_mem_take he, hv⟩

omit [FloatNum F] in
theorem canonical_of_digest {vs : List (Value F)} (h : CollisionFree host vs) {v w : Value F}
    (hv : v ∈ vs) (hw : w ∈ vs) (hd : host.digest v = host.digest w) :
    v.canonical = w.canonical := by
  refine h v hv w hw ?_
  unfold Evaluation.short
  rw [hd]

omit [FloatNum F] in
theorem executionStatus_inj {e e' : Evaluation F} :
    e.executionStatus.canonical = e'.executionStatus.canonical ↔
      e.executionStatus = e'.executionStatus := Iff.rfl

/-- The evidence of two proposals agrees exactly when all that is hashed does. -/
theorem evidence_same_iff {e e' : Evaluation F} {action : Action} :
    (Value.mapping (e.evidence host action)).canonical =
        (Value.mapping (e'.evidence host action)).canonical ↔
      e.boundaryKey = e'.boundaryKey ∧ e.errors = e'.errors ∧ e.observedPrice = e'.observedPrice ∧
        e.mfe = e'.mfe ∧ e.mae = e'.mae ∧
        (Value.mapping e.targetPolicy).canonical = (Value.mapping e'.targetPolicy).canonical ∧
        e.executionStatus = e'.executionStatus ∧ e.status host action = e'.status host action ∧
        e.reason host action = e'.reason host action ∧
        (Value.mapping (e.parameters host action)).canonical =
          (Value.mapping (e'.parameters host action)).canonical := by
  rw [canonical_mapping_iff (p := e.evidence host action) (q := e'.evidence host action) rfl
    (by decide : (["closed_candle_time", "errors", "observed_price", "mfe_r", "mae_r",
      "target_policy", "execution_status", "eligibility_status", "reason", "parameters"]).Nodup)]
  simp only [Evaluation.evidence, List.forall₂_cons, canonical_text, canonical_optional,
    Value.text.injEq, optional_inj, errorTexts_inj, executionStatus_inj, List.forall₂_nil_left_iff,
    and_true]

theorem evidence_same_of_covered {e e' : Evaluation F} {action : Action}
    (c : Covered host e e' action) : (Value.mapping (e.evidence host action)).canonical =
      (Value.mapping (e'.evidence host action)).canonical := by
  have hboundary : e.boundaryKey = e'.boundaryKey := by
    unfold Evaluation.boundaryKey
    rw [c.closedBoundary]
  exact evidence_same_iff.mpr ⟨hboundary, c.errors, c.observedPrice, c.mfe, c.mae, c.targetPolicy,
    c.executionStatus, c.status, c.reason, c.parameters⟩

/-- The identities of two proposals agree exactly when their action and what it covers do. -/
theorem identity_same_iff {es : List (Evaluation F)} (h : CollisionFree host (hashed host es))
    {e e' : Evaluation F} (he : e ∈ es) (he' : e' ∈ es) {action action' : Action} :
    (Value.mapping (e.identity host action)).canonical =
        (Value.mapping (e'.identity host action')).canonical ↔
      action = action' ∧ Covered host e e' action := by
  rw [canonical_mapping_iff (p := e.identity host action) (q := e'.identity host action') rfl
    (by decide : (["campaign_id", "burnin_run_id", "release_id", "git_commit", "config_hash",
      "trade_id", "closed_candle_time", "proposed_action", "evidence_signature"]).Nodup)]
  simp only [Evaluation.identity, List.forall₂_cons, canonical_text, canonical_optionalText,
    Value.text.injEq, optionalText_inj, List.forall₂_nil_left_iff, and_true]
  constructor
  · intro ⟨hcampaign, hrun, hrelease, hcommit, hconfig, htrade, hboundary, haction, hsignature⟩
    cases Action.text_injective haction
    have hevidence := canonical_of_digest h (mem_hashed he action).1 (mem_hashed he' action).1
      hsignature
    obtain ⟨_, herrors, hprice, hmfe, hmae, hpolicy, hexecution, hstatus, hreason, hparameters⟩ :=
      evidence_same_iff.mp hevidence
    exact ⟨rfl, ⟨hcampaign, hrun, hrelease, hcommit, hconfig, htrade, hboundary, herrors, hprice,
      hmfe, hmae, hpolicy, hexecution, hstatus, hreason, hparameters⟩⟩
  · intro ⟨haction, c⟩
    subst haction
    refine ⟨c.campaignId, c.activeRunId, c.releaseId, c.gitCommit, c.configHash, c.tradeId,
      c.closedBoundary, rfl, host.digest_congr _ _ ?_⟩
    exact evidence_same_of_covered c

/-- The part of an evaluation that no proposal id covers. -/
def Evaluation.snapshot (e : Evaluation F) : Payload F :=
  [("strategy_config_hash", e.strategyConfigHash),
    ("position_entry_run_id", .text e.positionEntryRunId),
    ("source_trade_decision_time", e.sourceTime), ("symbol", e.symbol), ("side", .text e.side),
    ("entry", optional e.entry), ("initial_stop", optional e.initialStop),
    ("current_stop", optional e.currentStop), ("target", optional e.target),
    ("remaining_quantity", optional e.remainingQuantity), ("candle_count", .int e.candleCount),
    ("latest_candle", e.latestCandle), ("regime", e.regime), ("setup_type", e.setupType),
    ("execution_evidence", .mapping e.execution)]

/-- The evaluations have one snapshot. -/
def SameSnapshot (e e' : Evaluation F) : Prop :=
  (Value.mapping e.snapshot).canonical = (Value.mapping e'.snapshot).canonical

omit [FloatNum F] in
theorem snapshot_same_iff {e e' : Evaluation F} : SameSnapshot e e' ↔
    e.strategyConfigHash.canonical = e'.strategyConfigHash.canonical ∧
      e.positionEntryRunId = e'.positionEntryRunId ∧
      e.sourceTime.canonical = e'.sourceTime.canonical ∧ e.symbol.canonical = e'.symbol.canonical ∧
      e.side = e'.side ∧ e.entry = e'.entry ∧ e.initialStop = e'.initialStop ∧
      e.currentStop = e'.currentStop ∧ e.target = e'.target ∧
      e.remainingQuantity = e'.remainingQuantity ∧ e.candleCount = e'.candleCount ∧
      e.latestCandle.canonical = e'.latestCandle.canonical ∧
      e.regime.canonical = e'.regime.canonical ∧ e.setupType.canonical = e'.setupType.canonical ∧
      (Value.mapping e.execution).canonical = (Value.mapping e'.execution).canonical := by
  unfold SameSnapshot
  rw [canonical_mapping_iff (p := e.snapshot) (q := e'.snapshot) rfl
    (by decide : (["strategy_config_hash", "position_entry_run_id", "source_trade_decision_time",
      "symbol", "side", "entry", "initial_stop", "current_stop", "target", "remaining_quantity",
      "candle_count", "latest_candle", "regime", "setup_type", "execution_evidence"]).Nodup)]
  simp only [Evaluation.snapshot, List.forall₂_cons, canonical_text, canonical_optional,
    canonical_int, Value.text.injEq, Value.int.injEq, Nat.cast_inj, optional_inj,
    List.forall₂_nil_left_iff, and_true]

/-- Of the market evidence only the candles are not covered. -/
theorem market_same_iff {e e' : Evaluation F} {action : Action} (c : Covered host e e' action) :
    (Value.mapping e.marketEvidence).canonical = (Value.mapping e'.marketEvidence).canonical ↔
      e.candleCount = e'.candleCount ∧ e.latestCandle.canonical = e'.latestCandle.canonical := by
  rw [canonical_mapping_iff (p := e.marketEvidence) (q := e'.marketEvidence) rfl
    (by decide : (["status", "closed_candle_time", "observed_price", "candle_count",
      "mfe_r_as_of_proposal", "mae_r_as_of_proposal", "first_terminal_candle_open_time",
      "first_terminal_candle_close_time", "terminal_and_post_terminal_candles_excluded", "errors",
      "latest_candle"]).Nodup)]
  simp only [Evaluation.marketEvidence, List.forall₂_cons, canonical_text, canonical_optional,
    canonical_optionalText, canonical_int, Value.int.injEq, Nat.cast_inj, errorTexts_inj,
    List.forall₂_nil_left_iff, and_true, true_and, c.errors, c.closedBoundary, c.observedPrice,
    c.mfe, c.mae]

/-- Of the regime evidence the target policy is covered. -/
theorem regime_same_iff {e e' : Evaluation F} {action : Action} (c : Covered host e e' action) :
    (Value.mapping e.regimeEvidence).canonical = (Value.mapping e'.regimeEvidence).canonical ↔
      e.regime.canonical = e'.regime.canonical ∧
        e.setupType.canonical = e'.setupType.canonical := by
  rw [canonical_mapping_iff (p := e.regimeEvidence) (q := e'.regimeEvidence) rfl
    (by decide : (["regime", "setup_type", "target_policy"]).Nodup)]
  simp only [Evaluation.regimeEvidence, List.forall₂_cons, List.forall₂_nil_left_iff,
    c.targetPolicy, and_true]

/-- The proposal time is covered up to the time of the trade. -/
theorem proposalTime_congr {e e' : Evaluation F} (hboundary : e.closedBoundary = e'.closedBoundary)
    (hsource : e.sourceTime.canonical = e'.sourceTime.canonical) :
    ((optionalText e.closedBoundary).or e.sourceTime).canonical =
      ((optionalText e'.closedBoundary).or e'.sourceTime).canonical := by
  unfold Value.or
  rw [hboundary]
  split
  · rfl
  · exact hsource

/-- **Two proposals of one id have equal payloads exactly when their snapshots are equal.** -/
theorem payload_same_iff {e e' : Evaluation F} {action : Action} (c : Covered host e e' action)
    (hidentity : (Value.mapping (e.identity host action)).canonical =
      (Value.mapping (e'.identity host action)).canonical) :
    (Value.mapping (e.payload host action)).canonical =
        (Value.mapping (e'.payload host action)).canonical ↔ SameSnapshot e e' := by
  have hdigest : host.digest (.mapping (e.identity host action)) =
      host.digest (.mapping (e'.identity host action)) := host.digest_congr _ _ hidentity
  have hid : e.proposalId host action = e'.proposalId host action := by
    unfold Evaluation.proposalId Evaluation.short
    rw [hdigest]
  rw [snapshot_same_iff, canonical_mapping_iff (p := e.payload host action)
    (q := e'.payload host action) rfl
    (by decide : (["campaign_id", "burnin_run_id", "release_id", "git_commit", "config_hash",
      "trade_id", "closed_candle_time", "proposed_action", "evidence_signature", "proposal_id",
      "strategy_config_hash", "position_entry_run_id", "proposal_time", "decision_time",
      "source_trade_decision_time", "symbol", "side", "entry", "initial_stop", "current_stop",
      "target", "remaining_quantity", "observed_price", "mfe_r", "mae_r", "parameters",
      "eligibility_status", "reason", "market_evidence", "regime_evidence", "execution_evidence",
      "estimated_execution_costs", "counterfactual_net_r", "authoritative_state_mutation",
      "authoritative_realized_pnl"]).Nodup)]
  have hevidence : host.digest (.mapping (e.evidence host action)) =
      host.digest (.mapping (e'.evidence host action)) :=
    host.digest_congr _ _ (evidence_same_of_covered c)
  have hcost : e.costSemantics host action = e'.costSemantics host action := by
    unfold Evaluation.costSemantics
    rw [c.status]
  have hcounterfactual : e.counterfactual host action = e'.counterfactual host action := by
    unfold Evaluation.counterfactual
    rw [c.status]
  simp only [Evaluation.payload, Evaluation.identity, List.cons_append, List.nil_append,
    List.forall₂_cons, canonical_text, canonical_optional, canonical_optionalText,
    Value.text.injEq, optional_inj, List.forall₂_nil_left_iff, and_true, true_and,
      market_same_iff c, regime_same_iff c, hevidence, hid, hcost, hcounterfactual, c.campaignId,
    c.activeRunId, c.releaseId, c.gitCommit, c.configHash, c.tradeId, c.closedBoundary,
    c.observedPrice, c.mfe, c.mae, c.status, c.reason, c.parameters]
  constructor
  · intro ⟨hstrategy, hrun, _, hsource, hsymbol, hside, hentry, hinitial, hstop,
      htarget, hremaining,
      ⟨hcount, hlatest⟩, ⟨hregime, hsetup⟩, hexecution⟩
    exact ⟨hstrategy, hrun, hsource, hsymbol, hside, hentry, hinitial, hstop, htarget, hremaining,
      hcount, hlatest, hregime, hsetup, hexecution⟩
  · intro ⟨hstrategy, hrun, hsource, hsymbol, hside, hentry, hinitial, hstop, htarget, hremaining,
      hcount, hlatest, hregime, hsetup, hexecution⟩
    have htime := proposalTime_congr c.closedBoundary hsource
    rw [c.closedBoundary] at htime
    exact ⟨hstrategy, hrun, htime, hsource, hsymbol, hside, hentry, hinitial, hstop, htarget,
      hremaining, ⟨hcount, hlatest⟩, ⟨hregime, hsetup⟩, hexecution⟩

end Covers

/-! ## 8. Conflicts -/

section Conflicts

variable {host}

theorem textOr_text (s : String) : textOr host (.text s : Value F) "" = s := by
  unfold textOr Value.truthy Value.str
  by_cases h : s = ""
  · rw [h]
    rfl
  · rw [if_pos (bne_iff_ne.mpr h)]

theorem proposalId_ne_empty (e : Evaluation F) (action : Action) :
    e.proposalId host action ≠ "" := by
  intro h
  have hlength := congrArg String.length h
  unfold Evaluation.proposalId at hlength
  have hprefix : "pmshadow_".length = 9 := by decide
  have hempty : "".length = 0 := rfl
  rw [String.length_append, hprefix, hempty] at hlength
  omega

theorem status_cases (e : Evaluation F) (action : Action) :
    e.status host action = "ELIGIBLE" ∨ e.status host action = "DENIED" := by
  unfold Evaluation.status Evaluation.verdict
  cases e.errors.head? with
  | some block => exact Or.inr rfl
  | none =>
    cases action with
    | enableTrailing =>
      simp only
      split
      · exact Or.inr rfl
      · split
        · exact Or.inr rfl
        · exact Or.inl rfl
    | _ => exact Or.inr rfl

omit [FloatNum F] in
theorem digest_ne_empty (v : Value F) : host.digest v ≠ "" := by
  intro h
  have hlength := host.digest_length v
  rw [h] at hlength
  exact absurd hlength (by decide)

variable (host) in
/-- The hash of a payload. -/
def Evaluation.payloadHash (e : Evaluation F) (action : Action) : String :=
  host.digest (.mapping (e.payload host action))

/-- What persisting a proposal of the provider comes to. -/
theorem persistOne_proposal (now : String) (state : Persisted F) (e : Evaluation F)
    (action : Action) : persistOne host now state (e.proposal host action) =
      match state.table.find? fun row => row.proposalId = e.proposalId host action with
      | some existing =>
        if existing.proposalHash ≠ e.payloadHash host action then .error conflict
        else .ok { state with idempotent := state.idempotent + 1 }
      | none => do
        let table ← insertRow host state.table (e.proposal host action) (e.proposalId host action)
          (e.payloadHash host action) action.text now
        return { state with table := table, inserted := state.inserted + 1 } := by
  have haction : (e.proposal host action).get "proposed_action" = .text action.text := rfl
  have hstatus : (e.proposal host action).get "eligibility_status" = .text (e.status host action) :=
    rfl
  have hid : (e.proposal host action).get "proposal_id" = .text (e.proposalId host action) := rfl
  have hhash : (e.proposal host action).get "proposal_hash" =
    .text (e.payloadHash host action) := rfl
  have hmem : action.text ∈ shadowActions.map Action.text := by cases action <;> decide
  have hknown : ¬ (e.status host action ≠ "ELIGIBLE" ∧ e.status host action ≠ "DENIED") := by
    have hcases : e.status host action = "ELIGIBLE" ∨ e.status host action = "DENIED" :=
      status_cases e action
    rcases hcases with h | h
    · exact fun hboth => hboth.1 h
    · exact fun hboth => hboth.2 h
  have hnamed : ¬ (e.proposalId host action = "" ∨ e.payloadHash host action = "") := by
    rintro (h | h)
    · exact proposalId_ne_empty e action h
    · exact digest_ne_empty _ h
  unfold persistOne
  rw [haction, hstatus, hid, hhash]
  simp only [textOr_text]
  rw [refuseIf_ok.mpr (not_not.mpr hmem), ok_bind, refuseIf_ok.mpr hknown, ok_bind,
    refuseIf_ok.mpr hnamed, ok_bind]

variable (host) in
/-- What the table holds: rows of proposals of the evaluations, each id once. -/
structure Holds (es : List (Evaluation F)) (table : List (Row F)) : Prop where
  ids : (table.map Row.proposalId).Nodup
  rows : ∀ row ∈ table, ∃ e ∈ es, ∃ action, row.proposalId = e.proposalId host action ∧
    row.proposalHash = e.payloadHash host action

variable (host) in
/-- The proposals are the provider's, for the evaluations. -/
def From (es : List (Evaluation F)) (batch : List (Payload F)) : Prop :=
  ∀ raw ∈ batch, ∃ e ∈ es, ∃ action, raw = e.proposal host action

omit [FloatNum F] in
theorem insertRow_ok {table table' : List (Row F)} {proposal : Payload F}
    {id hash action now : String}
    (h : insertRow host table proposal id hash action now = .ok table') :
    ∃ row, row.proposalId = id ∧ row.proposalHash = hash ∧ table' = table ++ [row] := by
  unfold insertRow at h
  simp only at h
  split at h
  · cases h
  · split at h
    · cases h
    · exact ⟨_, rfl, rfl, (Except.ok.inj h).symm⟩

omit [FloatNum F] in
theorem insertRow_not_conflict {table : List (Row F)} {proposal : Payload F}
    {id hash action now : String} :
    insertRow host table proposal id hash action now ≠ .error conflict := by
  unfold insertRow conflict
  simp only
  split
  · nofun
  · split <;> nofun

/-- **Persisting keeps what the table holds.** -/
theorem holds_persistOne {es : List (Evaluation F)} {now : String} {state state' : Persisted F}
    (hholds : Holds host es state.table) {e : Evaluation F} (he : e ∈ es) {action : Action}
    (h : persistOne host now state (e.proposal host action) = .ok state') :
    Holds host es state'.table := by
  rw [persistOne_proposal] at h
  split at h
  · split at h
    · cases h
    · rw [← Except.ok.inj h]
      exact hholds
  · rename_i hnone
    obtain ⟨table, hinsert, h⟩ := ok_of_bind h
    obtain ⟨row, hid, hhash, rfl⟩ := insertRow_ok hinsert
    rw [← Except.ok.inj h]
    constructor
    · rw [List.map_append, List.map_singleton]
      refine List.nodup_append.mpr ⟨hholds.ids, List.nodup_singleton _, ?_⟩
      intro id hmem other hother heq
      obtain ⟨stored, hstored, rfl⟩ := List.mem_map.mp hmem
      rw [List.mem_singleton.mp hother, hid] at heq
      exact of_decide_eq_false (Bool.eq_false_iff.mpr
        (List.find?_eq_none.mp hnone stored hstored)) heq
    · intro stored hstored
      rcases List.mem_append.mp hstored with hold | hnew
      · exact hholds.rows stored hold
      · rw [List.mem_singleton.mp hnew]
        exact ⟨e, he, action, hid, hhash⟩

theorem holds_persist {es : List (Evaluation F)} {now : String} {state state' : Persisted F}
    {batch : List (Payload F)} (hfrom : From host es batch) (hholds : Holds host es state.table)
    (h : batch.foldlM (persistOne host now) state = .ok state') : Holds host es state'.table := by
  induction batch generalizing state with
  | nil =>
    cases Except.ok.inj h
    exact hholds
  | cons raw rest ih =>
    obtain ⟨⟨e, he, action, rfl⟩, hrest⟩ := List.forall_mem_cons.mp hfrom
    rw [List.foldlM_cons] at h
    obtain ⟨middle, hone, h⟩ := ok_of_bind h
    exact ih hrest (holds_persistOne hholds he hone) h

/-- **After every run the table holds rows of proposals, each id once.** -/
theorem holds_run {es : List (Evaluation F)} {batches : List (String × List (Payload F))}
    (hfrom : ∀ b ∈ batches, From host es b.2) : Holds host es (run host batches) := by
  unfold run
  induction batches using List.reverseRecOn with
  | nil => exact ⟨List.nodup_nil, List.forall_mem_nil _⟩
  | append_singleton pre b ih =>
    obtain ⟨hpre, hb⟩ := List.forall_mem_append.mp hfrom
    rw [List.foldl_append, List.foldl_cons, List.foldl_nil]
    unfold tick
    split
    · rename_i state hpersist
      exact holds_persist (hb b (List.mem_singleton_self b)) (ih hpre) hpersist
    · exact ih hpre

omit [FloatNum F] in
/-- A stored row is the one that its id finds. -/
theorem find_stored {table : List (Row F)} (h : (table.map Row.proposalId).Nodup) {row : Row F}
    (hrow : row ∈ table) {id : String} (hid : row.proposalId = id) :
    (table.find? fun r => r.proposalId = id) = some row := by
  cases hfind : table.find? fun r => r.proposalId = id with
  | none => exact absurd (decide_eq_true hid) (List.find?_eq_none.mp hfind row hrow)
  | some found =>
    have hfound := List.find?_some hfind
    rw [List.inj_on_of_nodup_map h (List.mem_of_find?_eq_some hfind) hrow
      ((of_decide_eq_true hfound).trans hid.symm)]

/-- A proposal conflicts only with a row of its id and of another payload. -/
theorem persistOne_conflict {es : List (Evaluation F)} {now : String} {state : Persisted F}
    (hholds : Holds host es state.table) {e : Evaluation F} {action : Action}
    (h : persistOne host now state (e.proposal host action) = .error conflict) :
    ∃ e' ∈ es, ∃ action', e'.proposalId host action' = e.proposalId host action ∧
      e'.payloadHash host action' ≠ e.payloadHash host action := by
  rw [persistOne_proposal] at h
  split at h
  · rename_i existing hfind
    split at h
    · rename_i hne
      obtain ⟨e', he', action', hid, hhash⟩ :=
        hholds.rows existing (List.mem_of_find?_eq_some hfind)
      have hfound := List.find?_some hfind
      exact ⟨e', he', action', hid ▸ of_decide_eq_true hfound, hhash ▸ hne⟩
    · cases h
  · exfalso
    cases hinsert : insertRow host state.table (e.proposal host action) (e.proposalId host action)
        (e.payloadHash host action) action.text now with
    | ok table =>
      rw [hinsert] at h
      cases h
    | error error =>
      rw [hinsert, error_bind] at h
      rw [Except.error.inj h] at hinsert
      exact insertRow_not_conflict hinsert

theorem persist_conflict {es : List (Evaluation F)} {now : String} {state : Persisted F}
    {batch : List (Payload F)} (hfrom : From host es batch) (hholds : Holds host es state.table)
    (h : batch.foldlM (persistOne host now) state = .error conflict) :
    ∃ e ∈ es, ∃ e' ∈ es, ∃ action action', e'.proposalId host action' = e.proposalId host action ∧
      e'.payloadHash host action' ≠ e.payloadHash host action := by
  induction batch generalizing state with
  | nil => cases h
  | cons raw rest ih =>
    obtain ⟨⟨e, he, action, rfl⟩, hrest⟩ := List.forall_mem_cons.mp hfrom
    rw [List.foldlM_cons] at h
    cases hone : persistOne host now state (e.proposal host action) with
    | ok middle =>
      rw [hone, ok_bind] at h
      exact ih hrest (holds_persistOne hholds he hone) h
    | error error =>
      rw [hone, error_bind] at h
      obtain ⟨e', he', action', hid, hhash⟩ := persistOne_conflict hholds (hone.trans h)
      exact ⟨e, he, e', he', action, action', hid, hhash⟩

/-- One id is one action, on which all that is covered agrees, and one snapshot is one payload. -/
theorem same_id {es : List (Evaluation F)} (h : CollisionFree host (hashed host es))
    {e e' : Evaluation F} (he : e ∈ es) (he' : e' ∈ es) {action action' : Action}
    (hid : e.proposalId host action = e'.proposalId host action') :
    action = action' ∧ Covered host e e' action ∧
      ((Value.mapping (e.payload host action)).canonical =
        (Value.mapping (e'.payload host action)).canonical ↔ SameSnapshot e e') := by
  unfold Evaluation.proposalId at hid
  have hshort := (String.append_right_inj "pmshadow_").mp hid
  have hidentity := h _ (mem_hashed he action).2.1 _ (mem_hashed he' action').2.1 hshort
  obtain ⟨rfl, c⟩ := (identity_same_iff h he he').mp hidentity
  exact ⟨rfl, c, payload_same_iff c hidentity⟩

/-- Two payloads of one id have one hash exactly when the snapshots are equal. -/
theorem payloadHash_iff {es : List (Evaluation F)} (h : CollisionFree host (hashed host es))
    {e e' : Evaluation F} (he : e ∈ es) (he' : e' ∈ es) {action action' : Action}
    (hid : e.proposalId host action = e'.proposalId host action') :
    e.payloadHash host action = e'.payloadHash host action' ↔ SameSnapshot e e' := by
  obtain ⟨rfl, _, hiff⟩ := same_id h he he' hid
  rw [← hiff]
  exact ⟨fun hd => canonical_of_digest h (mem_hashed he action).2.2 (mem_hashed he' action).2.2 hd,
    fun hsame => host.digest_congr _ _ hsame⟩

/-- **A proposal id covers an evaluation up to its snapshot.** Where no two hashes collide, two
    evaluations of one id agree on the action and on all that is hashed, and their payloads are
    equal exactly when their snapshots are. In a run no batch conflicts if evaluations of one id
    have one snapshot, and a proposal whose id is stored with another snapshot is refused, which
    leaves the table as it is. -/
theorem proposal_id_covers (es : List (Evaluation F)) (h : CollisionFree host (hashed host es)) :
    (∀ e ∈ es, ∀ e' ∈ es, ∀ action action',
      e.proposalId host action = e'.proposalId host action' →
        action = action' ∧ Covered host e e' action ∧
          ((Value.mapping (e.payload host action)).canonical =
            (Value.mapping (e'.payload host action)).canonical ↔ SameSnapshot e e')) ∧
    ∀ batches, (∀ b ∈ batches, From host es b.2) →
      ((∀ e ∈ es, ∀ e' ∈ es, ∀ action action',
          e.proposalId host action = e'.proposalId host action' → SameSnapshot e e') →
        ∀ now batch, From host es batch →
          persist host now (run host batches) batch ≠ .error conflict) ∧
      ∀ row ∈ run host batches, ∀ e ∈ es, ∀ e' ∈ es, ∀ action action',
        row.proposalId = e.proposalId host action → row.proposalHash = e.payloadHash host action →
        e.proposalId host action = e'.proposalId host action' → ¬ SameSnapshot e e' →
        ∀ now rest, persist host now (run host batches) (e'.proposal host action' :: rest) =
            .error conflict ∧
          tick host (run host batches) (now, e'.proposal host action' :: rest) =
            run host batches := by
  refine ⟨fun e he e' he' action action' hid => same_id h he he' hid, fun batches hfrom => ?_⟩
  have hholds := holds_run hfrom
  constructor
  · intro hsnapshot now batch hbatch hconflict
    obtain ⟨e, he, e', he', action, action', hid, hhash⟩ :=
      persist_conflict hbatch hholds hconflict
    exact hhash ((payloadHash_iff h he' he hid).mpr (hsnapshot e' he' e he action' action hid))
  · intro row hrow e he e' he' action action' hrowId hrowHash hid hdiffer now rest
    have hone : persistOne host now ⟨run host batches, 0, 0⟩ (e'.proposal host action') =
        .error conflict := by
      rw [persistOne_proposal]
      simp only
      rw [find_stored hholds.ids hrow (hrowId.trans hid)]
      simp only
      rw [if_pos]
      rw [hrowHash]
      exact fun heq => hdiffer ((payloadHash_iff h he he' hid).mp heq)
    have hpersist : persist host now (run host batches) (e'.proposal host action' :: rest) =
        .error conflict := by
      unfold persist
      rw [List.foldlM_cons, hone, error_bind]
    refine ⟨hpersist, ?_⟩
    unfold tick
    rw [hpersist]

/-! A position on a minute of its own. The hash is a checksum over the two keys in which the hashed
    values of this sample differ. -/

/-- The numbers of a text or a float. -/
def leafCode : Value ℚ → List ℕ
  | .float x => [x.num.natAbs, x.den]
  | .text s => s.toList.map Char.toNat
  | _ => []

def leafAt (v : Value ℚ) (key : String) : List ℕ := ((v.asMapping.lookup key).map leafCode).getD []

theorem leafCode_canonical (v : Value ℚ) : leafCode v.canonical = leafCode v := by
  cases v <;> rfl

theorem leafAt_canonical (v : Value ℚ) (key : String) : leafAt v.canonical key = leafAt v key := by
  cases v with
  | mapping entries =>
    have hcode : (leafCode ∘ Value.reshape id) = leafCode := funext leafCode_canonical
    unfold leafAt
    rw [canonical_mapping]
    simp only [Value.asMapping, lookup_reshape, Option.map_map, hcode]
  | _ => rfl

def checksum (v : Value ℚ) : ℕ :=
  (leafAt v "proposed_action" ++ leafAt v "current_stop").foldl
    (fun n k => (n * 1000003 + k + 1) % 2 ^ 256) 1

def sampleHost : Host ℚ where
  parse _ := none
  str _ := ""
  dumps _ := ""
  fromIso text := [("0", 0), ("60", 60000000), ("120", 120000000), ("150", 150000000)].lookup text
  iso n := if n = 60000000 then "60" else "120"
  totalSeconds n := n / 1000000
  loads _ := none
  digest v := String.ofList ((List.range 64).map fun i => Nat.digitChar (checksum v / 16 ^ i % 16))
  digest_length v := by rw [String.length_ofList, List.length_map, List.length_range]
  digest_congr v w h := by
    have hsum : checksum v = checksum w := by
      unfold checksum
      rw [← leafAt_canonical v, ← leafAt_canonical v, h, leafAt_canonical, leafAt_canonical]
    rw [hsum]

theorem mod_of_digits {a b : ℕ} : ∀ n : ℕ, (∀ i < n, a / 16 ^ i % 16 = b / 16 ^ i % 16) →
    a % 16 ^ n = b % 16 ^ n
  | 0, _ => by rw [Nat.pow_zero, Nat.mod_one, Nat.mod_one]
  | n + 1, h => by
    rw [Nat.mod_pow_succ, Nat.mod_pow_succ, h n (Nat.lt_succ_self n),
      mod_of_digits n fun i hi => h i (Nat.lt_succ_of_lt hi)]

theorem digitChar_inj : ∀ i < 16, ∀ j < 16, Nat.digitChar i = Nat.digitChar j → i = j := by decide

theorem checksum_of_short {v w : Value ℚ}
    (h : Evaluation.short sampleHost v = Evaluation.short sampleHost w) :
    checksum v % 16 ^ 24 = checksum w % 16 ^ 24 := by
  have hshort : ∀ x : Value ℚ, (Evaluation.short sampleHost x).toList =
      (List.range 24).map fun i => Nat.digitChar (checksum x / 16 ^ i % 16) := by
    intro x
    unfold Evaluation.short
    show (String.ofList ((String.ofList _).toList.take 24)).toList = _
    rw [String.toList_ofList, String.toList_ofList, ← List.map_take, List.take_range]
    rfl
  have hdigits := congrArg String.toList h
  rw [hshort, hshort] at hdigits
  refine mod_of_digits 24 fun i hi => ?_
  have hat := List.map_inj_left.mp hdigits i (List.mem_range.mpr hi)
  exact digitChar_inj _ (Nat.mod_lt _ (by decide)) _ (Nat.mod_lt _ (by decide)) hat

def samplePosition (currentStop : ℚ) : Payload ℚ :=
  [("campaign_id", .text "c"), ("burnin_run_id", .text "r0"), ("trade_id", .text "t"),
    ("symbol", .text "BTCUSDT"), ("side", .text "LONG"), ("entry_time", .text "0"),
    ("planned_entry", .int 100), ("stop", .int 90), ("current_stop", .float currentStop),
    ("target", .int 120), ("quantity", .int 1)]

def sampleCandle : Value ℚ :=
  .mapping [("timestamp", .text "60"), ("interval", .text "1m"), ("high", .int 105),
    ("low", .int 98), ("close", .int 104)]

def sampleCampaign : Payload ℚ :=
  [("campaign_id", .text "c"), ("active_run_id", .text "r1"), ("release_id", .text "rel"),
    ("git_commit", .text "g"), ("config_hash", .text "h"), ("strategy_config_hash", .text "s")]

/-- The evaluations of the position at two stops. -/
def sampleEvaluations : List (Evaluation ℚ) :=
  ([90, 91].map fun currentStop => evaluate sampleHost 300 (samplePosition currentStop)
    [sampleCandle] "150" sampleCampaign).filterMap Except.toOption

/-- What persisting raises. -/
def raised (x : Except PyError (Persisted ℚ)) : Option PyError :=
  match x with
  | .ok _ => none
  | .error e => some e

/-- **A stop that moves within a minute makes the next tick conflict.** -/
theorem moved_stop_conflicts :
    sampleEvaluations.map (fun e => (e.currentStop, e.proposalId sampleHost .partialExit)) =
        [(some 90, "pmshadow_f0a30f8784b3d71d0fad9029"),
          (some 91, "pmshadow_f0a30f8784b3d71d0fad9029")] ∧
      sampleEvaluations.map (fun e => e.payloadHash sampleHost .partialExit) =
        ["ad2d69c8ad9a4bfca57c65a6d39fc3866c1bb8c0b88c1f1108fe67d6ca20a98e",
          "d1516ac8ad9a4bfca57c65a6d39fc3866c1bb8c0b88c1f1108fe67d6ca20a98e"] ∧
      sampleEvaluations.map (fun e => raised (persist sampleHost "later"
        (run sampleHost ((sampleEvaluations.take 1).map fun e =>
          ("now", [e.proposal sampleHost .partialExit])))
        [e.proposal sampleHost .partialExit])) = [none, some conflict] := by
  decide +kernel

theorem sampleEvaluations_free :
    CollisionFree sampleHost (hashed sampleHost sampleEvaluations) := by
  -- a value is not compared with itself, so that few are compared at all
  have hpairs : (hashed sampleHost sampleEvaluations).Pairwise fun v w =>
      checksum v % 16 ^ 24 = checksum w % 16 ^ 24 → v = w := by
    decide +kernel
  have hsymm : Std.Symm fun v w : Value ℚ =>
      checksum v % 16 ^ 24 = checksum w % 16 ^ 24 → v = w :=
    ⟨fun _ _ h heq => (h heq.symm).symm⟩
  have hfree := hpairs.forall_of_forall fun _ _ _ => rfl
  exact fun v hv w hw h => congrArg Value.canonical (hfree hv hw (checksum_of_short h))

/-- The batches of two ticks with the stop at 90. -/
def sampleBatches : List (String × List (Payload ℚ)) :=
  ["now", "later"].map fun now =>
    (now, (sampleEvaluations.take 1).map fun e => e.proposal sampleHost .partialExit)

/-- At two stops the table after two ticks refuses the other snapshot; at one stop no tick
    conflicts. -/
theorem proposal_id_covers_sample :
    (sampleEvaluations.map fun e => e.currentStop) = [some 90, some 91] ∧
    (∀ e ∈ sampleEvaluations, ∀ e' ∈ sampleEvaluations, ∀ action action',
      e.proposalId sampleHost action = e'.proposalId sampleHost action' →
        action = action' ∧ Covered sampleHost e e' action ∧
          ((Value.mapping (e.payload sampleHost action)).canonical =
            (Value.mapping (e'.payload sampleHost action)).canonical ↔ SameSnapshot e e')) ∧
    ((run sampleHost sampleBatches).map fun row => row.proposalId) =
      ["pmshadow_f0a30f8784b3d71d0fad9029"] ∧
    (∀ row ∈ run sampleHost sampleBatches, ∀ e ∈ sampleEvaluations, ∀ e' ∈ sampleEvaluations,
      ∀ action action',
        row.proposalId = e.proposalId sampleHost action →
        row.proposalHash = e.payloadHash sampleHost action →
        e.proposalId sampleHost action = e'.proposalId sampleHost action' →
        ¬ SameSnapshot e e' →
        ∀ now rest,
          persist sampleHost now (run sampleHost sampleBatches)
              (e'.proposal sampleHost action' :: rest) = .error conflict ∧
          tick sampleHost (run sampleHost sampleBatches)
              (now, e'.proposal sampleHost action' :: rest) =
            run sampleHost sampleBatches) ∧
    ∀ now batch, From sampleHost (sampleEvaluations.take 1) batch →
      persist sampleHost now (run sampleHost sampleBatches) batch ≠ .error conflict := by
  have hfrom : ∀ b ∈ sampleBatches, From sampleHost (sampleEvaluations.take 1) b.2 := by
    intro b hb p hp
    obtain ⟨now, -, rfl⟩ := List.mem_map.mp hb
    obtain ⟨e, he, rfl⟩ := List.mem_map.mp hp
    exact ⟨e, he, .partialExit, rfl⟩
  have hfrom' : ∀ b ∈ sampleBatches, From sampleHost sampleEvaluations b.2 := by
    intro b hb p hp
    obtain ⟨e, he, hraw⟩ := hfrom b hb p hp
    exact ⟨e, List.mem_of_mem_take he, hraw⟩
  have hsnapshot : ∀ e ∈ sampleEvaluations.take 1, ∀ e' ∈ sampleEvaluations.take 1,
      SameSnapshot e e' := by
    intro e he e' he'
    rw [List.take_one, Option.mem_toList] at he he'
    obtain rfl : e = e' := Option.some_inj.mp (he.symm.trans he')
    exact (rfl : SameSnapshot e e)
  have htwo := proposal_id_covers sampleEvaluations sampleEvaluations_free
  have hone := proposal_id_covers (sampleEvaluations.take 1)
    fun v hv w hw => sampleEvaluations_free v (hashed_of_take hv) w (hashed_of_take hw)
  exact ⟨by decide +kernel, htwo.1, by decide +kernel, (htwo.2 sampleBatches hfrom').2,
    (hone.2 sampleBatches hfrom).1 fun e he e' he' _ _ _ => hsnapshot e he e' he'⟩

end Conflicts

end AlphaForge.Burnin.Shadow
