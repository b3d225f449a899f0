/-
  File:      AlphaForge/Adaptive/Calibration.lean
  Subject:   The shadow calibration of `adaptive_decision_calibration.py`: the statistics of a
             scope, its state, the shadow value of its threshold, and the tables that a run of
             `calibrate_campaign` writes.

  A run updates the rows of its scopes one after another. Each update reads the row that is there,
  so a history of runs is a run of updates. Numbers are exact; the hashes of the keys, the evidence
  and the events are parameters.

  * `statistics`, `stateOf` -- what a scope's evidence says, and the state it calls for.
  * `shadowValue` -- the one step away from the base.
  * `guarded` -- what hysteresis and cooldown make of a state.
  * `calibrateCampaign` -- a run.
-/
import AlphaForge.Lib.Decimal
import AlphaForge.Lib.Dictionary
import AlphaForge.Lib.PyValues
import AlphaForge.Lib.Runs

namespace AlphaForge.Adaptive

open AlphaForge.Lib

/-! ## 1. Evidence and scopes -/

def minSample : ℕ := 30

def recentWindow : ℕ := 20

def longWindow : ℕ := 100

def cooldownSeconds : ℚ := 24 * 3600

structure Evidence where
  burninRunId : String
  decisionId : String
  actualDecision : String
  reasonOrGate : String
  symbol : Option String
  regime : Option String
  side : Option String
  outcomeLabel : Option String
  netR : Option ℚ
  attributable : Bool
  evidenceComplete : Bool
  executionInvalidated : Bool
  observedAt : String
  deriving DecidableEq

/-- `str(e["outcome_label"] or "").upper()`. -/
def Evidence.label (e : Evidence) : String := upper (e.outcomeLabel.getD "")

/-- `_eligible`. -/
def eligible (e : Evidence) : Bool :=
  e.attributable && e.evidenceComplete && !e.executionInvalidated && e.netR.isSome &&
    !(["AMBIGUOUS", "CANCELLED", "NO_FILL", "OPEN", "OPEN_AT_END"].contains e.label)

structure Scope where
  reason : String
  symbol : Option String
  regime : Option String
  side : Option String
  deriving DecidableEq

/-- The text is there and not empty. -/
def given (s : Option String) : Bool := s.any (· != "")

/-- `_scopes`, the most specific first. -/
def scopes (e : Evidence) : List Scope :=
  (if given e.symbol && given e.regime && given e.side then
    [⟨e.reasonOrGate, e.symbol, e.regime, e.side⟩] else []) ++
  (if given e.symbol && given e.regime then [⟨e.reasonOrGate, e.symbol, e.regime, none⟩] else []) ++
  (if given e.regime then [⟨e.reasonOrGate, none, e.regime, none⟩] else []) ++
  [⟨e.reasonOrGate, none, none, none⟩]

/-! ## 2. Statistics -/

structure Statistics where
  sampleCount : ℕ
  observationCount : ℕ
  tpCount : ℕ
  slCount : ℕ
  ambiguousCount : ℕ
  timeoutCount : ℕ
  executionInvalidatedCount : ℕ
  evidenceAttributableCount : ℕ
  avgNetR : Option ℚ
  totalNetR : ℚ
  ewmaNetR : Option ℚ
  recentExpectancy : Option ℚ
  longExpectancy : Option ℚ
  lowerConfidenceBound : Option ℚ
  upperConfidenceBound : Option ℚ
  recentSampleCount : ℕ
  deriving DecidableEq

/-- `xs[-n:]`. -/
def lastOf {α : Type} (n : ℕ) (xs : List α) : List α := xs.drop (xs.length - n)

def mean (xs : List ℚ) : Option ℚ := if xs = [] then none else some (xs.sum / xs.length)

-- `sqrt` is the square root of the language.
variable (sqrt : ℚ → ℚ)

/-- `confidence_interval` with `z = 2.58`; lower and upper bound. -/
def confidenceInterval (xs : List ℚ) : Option (ℚ × ℚ) :=
  match mean xs with
  | none => none
  | some m =>
    if xs.length < 2 then some (m, m)
    else
      let var := (xs.map fun v => (v - m) ^ 2).sum / (xs.length - 1 : ℚ)
      let se := sqrt (var / xs.length)
      some (m - 2.58 * se, m + 2.58 * se)

/-- The exponentially weighted mean. -/
def ewma (xs : List ℚ) : Option ℚ :=
  let alpha : ℚ := 2 / (recentWindow + 1)
  xs.foldl (fun acc v => some (match acc with
    | none => v
    | some a => alpha * v + (1 - alpha) * a)) none

/-- `(str(e["observed_at"]), e["decision_id"])`, in its order. -/
def earlier (a b : Evidence) : Prop :=
  a.observedAt < b.observedAt ∨ a.observedAt = b.observedAt ∧ a.decisionId ≤ b.decisionId

instance : DecidableRel earlier := fun a b => by unfold earlier; infer_instance

/-- The outcomes of the eligible rows, in the order of their observation. -/
def qualified (rows : List Evidence) : List ℚ :=
  ((rows.insertionSort earlier).filter eligible).filterMap Evidence.netR

/-- `_statistics`. -/
def statistics (rows : List Evidence) : Statistics :=
  let values := qualified rows
  let recent := lastOf recentWindow values
  let long := lastOf longWindow values
  let bounds := confidenceInterval sqrt long
  { sampleCount := values.length
    observationCount := rows.length
    tpCount := rows.countP fun e => ["TP_BEFORE_SL", "TP_HIT", "TP"].contains e.label
    slCount := rows.countP fun e => ["SL_BEFORE_TP", "SL_HIT", "SL"].contains e.label
    ambiguousCount := rows.countP fun e => e.label == "AMBIGUOUS"
    timeoutCount := rows.countP fun e => e.label == "TIMEOUT"
    executionInvalidatedCount := rows.countP Evidence.executionInvalidated
    evidenceAttributableCount := rows.countP Evidence.attributable
    avgNetR := mean values
    totalNetR := values.sum
    ewmaNetR := ewma values
    recentExpectancy := mean recent
    longExpectancy := mean long
    lowerConfidenceBound := bounds.map Prod.fst
    upperConfidenceBound := bounds.map Prod.snd
    recentSampleCount := recent.length }

/-! ## 3. State and shadow value -/

inductive CalibrationState where
  | insufficientSample
  | frozen
  | normal
  | tight
  | relaxed
  deriving DecidableEq, Repr

/-- `state in {"TIGHT", "RELAXED"}`. -/
def CalibrationState.adjusted : CalibrationState → Bool
  | tight | relaxed => true
  | _ => false

/-- `HealthEvidence`. -/
structure Health where
  executionQualityOk : Option Bool
  volatilityStable : Option Bool
  drawdownClear : Option Bool
  evidenceComplete : Option Bool
  deriving DecidableEq

/-- `allows_relaxation`. -/
def Health.allowsRelaxation (h : Health) : Bool :=
  [h.executionQualityOk, h.volatilityStable, h.drawdownClear, h.evidenceComplete].all
    (· == some true)

/-- `_state`. -/
def stateOf (stats : Statistics) (health : Health) (rows : List Evidence) :
    CalibrationState × List String :=
  if stats.sampleCount < minSample ∨ stats.recentSampleCount < 10 then
    (.insufficientSample, ["MINIMUM_SAMPLE"])
  else
    match stats.lowerConfidenceBound, stats.upperConfidenceBound, stats.recentExpectancy,
      stats.longExpectancy with
    | some lower, some upper, some recent, some long =>
      if upper < 0 ∧ recent < 0 ∧ long < 0 then (.tight, ["CONFIDENTLY_NEGATIVE_NET_R"])
      else if 0 < lower ∧ 0 < recent ∧ 0 < long then
        if rows.any fun e => !eligible e then
          (.frozen, ["INCOMPLETE_OR_NON_ATTRIBUTABLE_EVIDENCE"])
        else if !health.allowsRelaxation then (.frozen, ["SYSTEM_HEALTH_UNPROVEN_OR_DEGRADED"])
        else (.relaxed, ["CONFIDENTLY_POSITIVE_NET_R"])
      else (.normal, ["CONFIDENCE_OVERLAPS_ZERO_OR_WINDOWS_DISAGREE"])
    | _, _, _, _ => (.insufficientSample, ["INCOMPLETE_EXPECTANCY"])

inductive Gate where
  | minTradeScore
  | minEffectiveRr
  deriving DecidableEq, Repr

structure Thresholds where
  minTradeScore : Option ℚ
  minEffectiveRr : Option ℚ
  deriving DecidableEq

/-- `_threshold`. -/
def threshold (path reason : String) (base : Thresholds) : Option Gate × Option ℚ :=
  if path = "ACCEPTED" ∨ reason ∈ ["LOW_SCORE", "LOW_CONFIDENCE", "MIN_TRADE_SCORE"] then
    (some .minTradeScore, base.minTradeScore.filter fun v => 0 ≤ v ∧ v ≤ 1)
  else if reason ∈ ["LOW_EFFECTIVE_RR", "RR_TOO_LOW"] then
    (some .minEffectiveRr, base.minEffectiveRr)
  else (none, none)

def Gate.step : Gate → ℚ
  | minTradeScore => 0.02
  | minEffectiveRr => 0.05

def Gate.bound : Gate → ℚ
  | minTradeScore => 0.05
  | minEffectiveRr => 0.15

/-- The direction of an adjusted state. -/
def CalibrationState.direction (s : CalibrationState) : ℚ := if s = .tight then 1 else -1

/-- `_shadow_value`. -/
def shadowValue (name : Option Gate) (base : Option ℚ) (state : CalibrationState) : Option ℚ :=
  match name, base with
  | some gate, some base =>
    if state.adjusted then
      some (roundTo 8 (max (base - gate.bound)
        (min (base + gate.bound) (base + state.direction * gate.step))))
    else some base
  | _, base => base

/-! ## 4. The tables -/

/-- The hashes: of a scope, of the sorted evidence, and of an event. -/
structure Hashing (κ η ι : Type) where
  key : String → String → Scope → κ
  evidence : List Evidence → η
  event : κ → η → Option CalibrationState → CalibrationState → Option ℚ → Option ℚ →
    List String → ι

structure Row (η : Type) where
  campaignId : String
  decisionDimension : String
  scope : Scope
  stats : Statistics
  baseValue : Option ℚ
  shadowValue : Option ℚ
  calibrationState : CalibrationState
  reasons : List String
  health : Health
  evidenceHash : η
  lastAdjustedAt : Option String
  updatedAt : String
  deriving DecidableEq

structure Event (κ η ι : Type) where
  eventId : ι
  calibrationKey : κ
  evidenceHash : η
  previousState : Option CalibrationState
  proposedState : CalibrationState
  previousValue : Option ℚ
  proposedValue : Option ℚ
  stats : Statistics
  reasons : List String
  blockedByGuardrail : Bool
  createdAt : String
  deriving DecidableEq

/-- The calibration rows and their events; the tables that no run reads are left out. -/
structure Db (κ η ι : Type) where
  rows : List (κ × Row η)
  events : List (Event κ η ι)

/-- A new database. -/
def Db.empty {κ η ι : Type} : Db κ η ι := ⟨[], []⟩

/-- The arguments of `calibrate_campaign` and the evidence that it loads. -/
structure Run where
  campaignId : String
  evidence : List Evidence
  base : Thresholds
  health : Health
  now : String

/-- The rows of one scope in a run. -/
structure Group (κ : Type) where
  run : Run
  path : String
  key : κ
  rows : List Evidence

variable {κ η ι : Type} [DecidableEq κ] [DecidableEq η] [DecidableEq ι] (hashing : Hashing κ η ι)
  -- `timestamp` is `_timestamp`, in seconds
  (timestamp : String → Option ℚ)

/-- `groups`, in the order of their first rows. -/
def groups (run : Run) : List (Group κ) :=
  let members := run.evidence.flatMap fun e =>
    if e.actualDecision = "DIAGNOSTIC" then []
    else (scopes e).map fun s =>
      ((e.actualDecision, hashing.key run.campaignId e.actualDecision s), e)
  let table := members.foldl (fun (table : List ((String × κ) × List Evidence)) m =>
    assign table m.1 (((table.lookup m.1).getD []) ++ [m.2])) []
  table.map fun entry => ⟨run, entry.1.1, entry.1.2, entry.2⟩

/-- The scope of a group: that of its first row which has the key. -/
def Group.scope (g : Group κ) : Option Scope :=
  g.rows.head?.bind fun e =>
    (scopes e).find? fun s => hashing.key g.run.campaignId g.path s = g.key

/-- A state with the reasons for it, and whether a guard changed it. -/
structure Guarded where
  state : CalibrationState
  reasons : List String
  blocked : Bool
  deriving DecidableEq

/-- The cooldown since the last adjustment is not over. -/
def inCooldown (previous : Row η) (now : String) : Bool :=
  match previous.lastAdjustedAt.bind timestamp, timestamp now with
  | some last, some current => 0 ≤ current - last && current - last < cooldownSeconds
  | _, _ => false

/-- Hysteresis and cooldown. -/
def guarded (previous : Option (Row η)) (now : String) (s : CalibrationState × List String) :
    Guarded :=
  match previous with
  | none => ⟨s.1, s.2, false⟩
  | some previous =>
    if !s.1.adjusted then ⟨s.1, s.2, false⟩
    else if previous.calibrationState.adjusted && previous.calibrationState != s.1 then
      ⟨.normal, s.2 ++ ["HYSTERESIS_OPPOSITE_STATE"], true⟩
    else if inCooldown timestamp previous now && previous.calibrationState != s.1 then
      ⟨previous.calibrationState, s.2 ++ ["ADJUSTMENT_COOLDOWN"], true⟩
    else ⟨s.1, s.2, false⟩

/-- The state of a group, guarded. -/
def Group.guarded (g : Group κ) (previous : Option (Row η)) : Guarded :=
  Adaptive.guarded timestamp previous g.run.now
    (stateOf (statistics sqrt g.rows) g.run.health g.rows)

/-- The row that a group writes. -/
def Group.row (g : Group κ) (scope : Scope) (previous : Option (Row η)) : Row η :=
  let verdict := g.guarded sqrt timestamp previous
  let (name, base) := threshold g.path scope.reason g.run.base
  { campaignId := (previous.map Row.campaignId).getD g.run.campaignId
    decisionDimension := (previous.map Row.decisionDimension).getD g.path
    scope := (previous.map Row.scope).getD scope
    stats := statistics sqrt g.rows
    baseValue := base
    shadowValue := shadowValue name base verdict.state
    calibrationState := verdict.state
    reasons := if verdict.state = .relaxed ∧ (name = none ∨ base = none) then
        verdict.reasons ++ ["NO_SAFE_NUMERIC_GATE"]
      else verdict.reasons
    health := g.run.health
    evidenceHash := hashing.evidence g.rows
    lastAdjustedAt :=
      if verdict.state.adjusted ∧ previous.map Row.calibrationState ≠ some verdict.state then
        some g.run.now
      else previous.bind Row.lastAdjustedAt
    updatedAt := g.run.now }

/-- The event of a change from one row to the next. -/
def eventOf (key : κ) (previous : Option (Row η)) (next : Row η) (blocked : Bool) :
    Event κ η ι where
  eventId := hashing.event key next.evidenceHash (previous.map Row.calibrationState)
    next.calibrationState (previous.bind Row.shadowValue) next.shadowValue next.reasons
  calibrationKey := key
  evidenceHash := next.evidenceHash
  previousState := previous.map Row.calibrationState
  proposedState := next.calibrationState
  previousValue := previous.bind Row.shadowValue
  proposedValue := next.shadowValue
  stats := next.stats
  reasons := next.reasons
  blockedByGuardrail := blocked || next.calibrationState == .frozen
  createdAt := next.updatedAt

/-- The row differs from the one before in what an event records. -/
def changed (previous : Option (Row η)) (next : Row η) : Bool :=
  match previous with
  | none => true
  | some p => p.evidenceHash != next.evidenceHash || p.calibrationState != next.calibrationState ||
      p.shadowValue != next.shadowValue || p.baseValue != next.baseValue ||
        p.reasons != next.reasons

/-- `INSERT OR IGNORE`. -/
def insertEvent (events : List (Event κ η ι)) (e : Event κ η ι) : List (Event κ η ι) :=
  if events.any fun e' => e'.eventId == e.eventId then events else events ++ [e]

/-- One round of the loop over the groups. -/
def calibrateGroup (db : Db κ η ι) (g : Group κ) : Db κ η ι :=
  match g.scope hashing with
  | none => db
  | some scope =>
    let previous := db.rows.lookup g.key
    let next := g.row sqrt hashing timestamp scope previous
    { rows := assign db.rows g.key next
      events := if changed previous next then
          insertEvent db.events
            (eventOf hashing g.key previous next (g.guarded sqrt timestamp previous).blocked)
        else db.events }

/-- `calibrate_campaign`. -/
def calibrateCampaign (db : Db κ η ι) (run : Run) : Db κ η ι :=
  (groups hashing run).foldl (calibrateGroup sqrt hashing timestamp) db

end AlphaForge.Adaptive
