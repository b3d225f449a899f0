/-
  File:      AlphaForge/MultiTimeframe/Candidate.lean
  Subject:   The alignment of the three layers and the guided candidate of `multi_timeframe.py`,
             with the structural geometry of `signal_geometry.py`.

  `evaluate_mtf_alignment` decides over the contexts that the builders make. The last stage of
  `build_mtf_candidate_context` can still reject: where no executable candidate comes out of the
  confirmed side, it withdraws `aligned` and `direction` and adds a reason, but leaves
  `final_direction`.

  * `evaluate_agrees` -- the verdicts of `evaluate_mtf_alignment` agree.
  * `candidate_ordered` -- a candidate takes the side of the regime, its levels enclose the entry.
  * `candidate_exists_iff` -- when the geometry gives a candidate, in prices.
-/
import AlphaForge.MultiTimeframe.Contexts

namespace AlphaForge.MultiTimeframe

open AlphaForge.Lib

/-! ## 1. Alignment -/

/-- `_TF_SECONDS`. -/
def tfSeconds : String → Option ℤ
  | "1m" => some 60
  | "5m" => some 300
  | "15m" => some 900
  | "30m" => some 1800
  | "1h" => some 3600
  | "2h" => some 7200
  | "4h" => some 14400
  | "1d" => some 86400
  | _ => none

/-- The reason against a layer, where there is one. -/
def layerReason (complete : Bool) (missing timeframe : String) (closeMs : Option ℤ)
    (decisionTsMs maxAgeIntervals : ℤ) : Option String :=
  if !complete then some missing
  else
    match tfSeconds timeframe, closeMs with
    | some seconds, some ms =>
      if decisionTsMs < ms then some "MTF_CONTEXT_STALE"
      else if maxAgeIntervals * seconds * 1000 < decisionTsMs - ms then some "MTF_CONTEXT_STALE"
      else none
    | _, _ => some "MTF_CONTEXT_STALE"

/-- The final direction of a record. -/
inductive FinalDirection where
  | trade (direction : Direction)
  | noTrade
  deriving DecidableEq, Repr

/-- The side of a final direction, where there is one. -/
def FinalDirection.side : FinalDirection → Option Direction
  | trade d => some d
  | noTrade => none

/-- `final_direction in {"LONG", "SHORT"}`. -/
def FinalDirection.trades : FinalDirection → Bool
  | trade d => d.trades
  | noTrade => false

structure Alignment where
  aligned : Bool
  direction : Option Direction
  baseExecDirection : FinalDirection
  finalDirection : FinalDirection
  overrideReason : String
  reasons : List String
  deriving DecidableEq, Repr

/-- The reason, where the condition holds. -/
def reasonIf (p : Bool) (reason : String) : List String := if p then [reason] else []

/-- `direction if direction in {"LONG", "SHORT"} else "NO_TRADE"`. -/
def tradeOr (d : Direction) : FinalDirection := if d.trades then .trade d else .noTrade

variable {F : Type} [DifferenceNum F]

/-- The reasons of the layers, in their order. -/
def layerReasons (regime : RegimeContext) (setup : SetupContext F) (execution : ExecutionContext)
    (decisionTsMs maxAgeIntervals : ℤ) : List String :=
  let missing := if regime.direction = .neutral then "MTF_REGIME_NEUTRAL"
    else "MTF_REGIME_UNAVAILABLE"
  (layerReason regime.complete missing regime.timeframe regime.lastClosedCandleMs decisionTsMs
      maxAgeIntervals).toList ++
    (layerReason setup.complete "MTF_SETUP_UNAVAILABLE" setup.timeframe setup.lastClosedCandleMs
      decisionTsMs maxAgeIntervals).toList ++
    (layerReason execution.complete "MTF_EXECUTION_UNAVAILABLE" execution.timeframe
      execution.lastClosedCandleMs decisionTsMs maxAgeIntervals).toList

/-- The reasons of the guided path, less those of the layers. -/
def guidedReasons (regime : RegimeContext) (setup : SetupContext F) (execution : ExecutionContext)
    (phase : SetupPhase) : List String :=
  reasonIf (!phase.ready) "MTF_NO_VALID_SETUP" ++
    reasonIf (regime.direction.trades && setup.tradeSide ≠ some regime.direction)
      "MTF_GUIDED_SETUP_SIDE_MISMATCH" ++
    (if !execution.trigger then ["MTF_EXECUTION_NOT_CONFIRMED"]
    else if regime.direction.trades && execution.direction.trades &&
        regime.direction != execution.direction then ["MTF_EXECUTION_COUNTER_REGIME"]
    else reasonIf (!execution.confirmedForSide) "MTF_EXECUTION_NOT_CONFIRMED")

/-- The guided path of `evaluate_mtf_alignment`. -/
def guidedAlignment (regime : RegimeContext) (setup : SetupContext F)
    (execution : ExecutionContext) (phase : SetupPhase) (decisionTsMs maxAgeIntervals : ℤ) :
    Alignment :=
  let reasons := (layerReasons regime setup execution decisionTsMs maxAgeIntervals ++
    guidedReasons regime setup execution phase).eraseDups
  let valid := regime.direction.trades && setup.tradeSide = some regime.direction && phase.ready &&
    execution.confirmedForSide
  let aligned := reasons.isEmpty && valid
  { aligned := aligned
    direction := if aligned then some regime.direction else none
    baseExecDirection := tradeOr execution.direction
    finalDirection := if aligned then .trade regime.direction else .noTrade
    overrideReason :=
      if aligned then "GUIDED_ALIGNMENT_CONFIRMED"
      else
        match reasons with
        | reason :: _ => "GUIDED_ALIGNMENT_REJECTED:" ++ reason
        | [] => "GUIDED_ALIGNMENT_REJECTED"
    reasons := reasons }

/-- The reasons that both legacy paths give, those of the layers first. -/
def legacyReasons (regime : RegimeContext) (setup : SetupContext F) (execution : ExecutionContext)
    (decisionTsMs maxAgeIntervals : ℤ) : List String :=
  layerReasons regime setup execution decisionTsMs maxAgeIntervals ++
    reasonIf (setup.direction = .absent ∨ setup.direction = .neutral) "MTF_NO_VALID_SETUP" ++
    reasonIf (!execution.trigger) "MTF_EXECUTION_NOT_CONFIRMED"

/-- Regime and setup trade opposite sides. -/
def opposed (a b : Direction) : Bool := a.trades && b.trades && a != b

/-- The reasons of the legacy path with state-direction resolution. -/
def stateReasons (regime : RegimeContext) (setup : SetupContext F) (execution : ExecutionContext)
    (decisionTsMs maxAgeIntervals : ℤ) : List String :=
  (legacyReasons regime setup execution decisionTsMs maxAgeIntervals ++
    reasonIf (opposed regime.direction setup.direction) "MTF_STATE_NO_TRADE").eraseDups

/-- `final_direction`, before the reasons are looked at. -/
def stateFinal (regime : RegimeContext) (setup : SetupContext F) (execution : ExecutionContext) :
    FinalDirection :=
  if execution.direction.trades then
    if regime.direction = setup.direction then tradeOr regime.direction else .noTrade
  else .noTrade

/-- The legacy path with state-direction resolution. -/
def stateAlignment (regime : RegimeContext) (setup : SetupContext F)
    (execution : ExecutionContext) (decisionTsMs maxAgeIntervals : ℤ) : Alignment :=
  let reasons := stateReasons regime setup execution decisionTsMs maxAgeIntervals
  let final := stateFinal regime setup execution
  let aligned := reasons.isEmpty && final.trades && execution.direction.trades
  let verdict :=
    if final = .noTrade then "STATE_CONFLICT_NO_TRADE"
    else if final ≠ tradeOr execution.direction then "STATE_OVERRIDES_BASE_EXEC"
    else "STATE_CONFIRMS_BASE_EXEC"
  { aligned := aligned
    direction := if aligned then final.side else none
    baseExecDirection := tradeOr execution.direction
    finalDirection := if aligned then final else .noTrade
    overrideReason :=
      match reasons with
      | reason :: _ =>
        if "MTF_STATE_NO_TRADE" ∈ reasons then verdict else "STATE_EVIDENCE_REJECTED:" ++ reason
      | [] => verdict
    reasons := reasons }

/-- The strict legacy path. -/
def strictAlignment (regime : RegimeContext) (setup : SetupContext F)
    (execution : ExecutionContext) (decisionTsMs maxAgeIntervals : ℤ) : Alignment :=
  let valid := regime.direction = setup.direction ∧ setup.direction = execution.direction ∧
    regime.direction.trades = true
  let conflicts := legacyReasons regime setup execution decisionTsMs maxAgeIntervals ++
    reasonIf (opposed regime.direction setup.direction) "MTF_REGIME_SETUP_MISMATCH" ++
    reasonIf (opposed setup.direction execution.direction) "MTF_SETUP_EXECUTION_MISMATCH"
  let reasons := (if ¬ valid ∧ conflicts = [] then ["MTF_DIRECTION_MISMATCH"]
    else conflicts).eraseDups
  let aligned := reasons.isEmpty && decide valid
  { aligned := aligned
    direction := if aligned then some regime.direction else none
    baseExecDirection := tradeOr execution.direction
    finalDirection := if aligned then .trade regime.direction else .noTrade
    overrideReason := if valid then "LEGACY_ALIGNMENT_CONFIRMED" else "LEGACY_ALIGNMENT_REJECTED"
    reasons := reasons }

/-- `evaluate_mtf_alignment`; a setup with a phase comes from the guided generation. -/
def evaluateMtfAlignment (regime : RegimeContext) (setup : SetupContext F)
    (execution : ExecutionContext) (decisionTsMs maxAgeIntervals : ℤ) (stateResolution : Bool) :
    Alignment :=
  match setup.phase with
  | some phase => guidedAlignment regime setup execution phase decisionTsMs maxAgeIntervals
  | none =>
    if stateResolution then stateAlignment regime setup execution decisionTsMs maxAgeIntervals
    else strictAlignment regime setup execution decisionTsMs maxAgeIntervals

/-! ## 2. Geometry -/

/-- The candidate's levels and ratio. -/
structure Candidate (F : Type) where
  entry : F
  side : Direction
  sl : F
  tp : F
  rr : F

/-- `risk`: from the entry to the stop. -/
def Structure.risk (g : Structure F) (side : Direction) (entry : F) : F :=
  if side = .long then entry - g.stop else g.stop - entry

/-- `reward`: from the entry to the target. -/
def Structure.reward (g : Structure F) (side : Direction) (entry : F) : F :=
  if side = .long then g.target - entry else entry - g.target

variable (py : Builtins F)

/-- `build_structural_geometry_with_diagnostics`. -/
def buildStructuralGeometry (entry : Value F) (side : Direction)
    (structural : Option (Structure F)) : Except String (Candidate F) :=
  if !side.trades then .error "REGIME_SIDE_INVALID"
  else
    match asFloat py entry, structural with
    | some price, some g =>
      if !([price, g.stop, g.target].all positive) then .error "NO_STRUCTURAL_GEOMETRY"
      else if g.risk side price ≤ FloatNum.ofInt 0 then .error "NO_STRUCTURAL_GEOMETRY"
      else if g.reward side price ≤ FloatNum.ofInt 0 then .error "INSUFFICIENT_STRUCTURAL_REWARD"
      else .ok ⟨price, side, g.stop, g.target, g.reward side price / g.risk side price⟩
    | _, _ => .error "NO_STRUCTURAL_GEOMETRY"

/-- `within_entry_zone`: both bounds and the entry are positive numbers, the entry between. -/
def withinEntryZone (zone : Option (Value F × Value F)) (entry : Value F) : Bool :=
  match zone with
  | none => false
  | some (low, high) =>
    match positiveNumber low, positiveNumber high, positiveNumber entry with
    | some low, some high, some entry => low ≤ entry && entry ≤ high
    | _, _, _ => false

/-- The candidate that the guided generation makes of a confirmed side, or the reason against. -/
def guidedCandidate (regime : RegimeContext) (setup : SetupContext F)
    (executionRows : List (Row F)) : Except String (Candidate F) :=
  match executionRows.getLast? with
  | none => .error "KLINE_INSUFFICIENT_ROWS"
  | some last =>
    if !withinEntryZone setup.entryZone last.close then
      .error "EXECUTION_ENTRY_OUTSIDE_SETUP_ZONE"
    else buildStructuralGeometry py last.close regime.direction setup.structural

/-! ## 3. `build_mtf_candidate_context` -/

structure Inputs (F : Type) where
  regimeRows : List (Row F)
  setupRows : List (Row F)
  executionRows : List (Row F)
  executionCtx : Payload F
  decisionTsMs : ℤ
  regimeTimeframe : String
  setupTimeframe : String
  executionTimeframe : String
  stateDirectionResolutionEnabled : Bool
  regimeDirectionThreshold : F
  setupDirectionThreshold : F
  executionDirectionThreshold : F
  guidedSignalGenerationEnabled : Bool

/-- `generation`; `guided` is its mode. -/
structure Generation (F : Type) where
  guided : Bool
  candidate : Option (Candidate F)
  reason : Option String

structure MtfContext (F : Type) where
  regime : RegimeContext
  setup : SetupContext F
  execution : ExecutionContext
  alignment : Alignment
  generation : Generation F

variable (total : List F → F)

namespace Inputs

variable (i : Inputs F)

def regime : RegimeContext :=
  buildRegimeContext py total (bounded i.regimeRows i.decisionTsMs) i.regimeTimeframe
    i.regimeDirectionThreshold

def setup : SetupContext F :=
  buildSetupContext py total (bounded i.setupRows i.decisionTsMs) i.setupTimeframe
    (if i.guidedSignalGenerationEnabled then some (i.regime py total).direction else none)
    i.setupDirectionThreshold

def execution : ExecutionContext :=
  buildExecutionContext py total (bounded i.executionRows i.decisionTsMs) i.executionTimeframe
    i.executionCtx
    (if i.guidedSignalGenerationEnabled then some (i.regime py total).direction else none)
    i.executionDirectionThreshold

/-- The alignment of the layers, before the geometry. -/
def layerAlignment : Alignment :=
  evaluateMtfAlignment (i.regime py total) (i.setup py total) (i.execution py total)
    i.decisionTsMs 2 i.stateDirectionResolutionEnabled

end Inputs

/-- The alignment without a candidate: `final_direction` stays. -/
def Alignment.withdraw (a : Alignment) (reason : String) : Alignment :=
  { a with
    aligned := false
    direction := none
    reasons := (a.reasons ++ [reason]).eraseDups }

/-- `build_mtf_candidate_context`. -/
def buildMtfCandidateContext (i : Inputs F) : MtfContext F :=
  let regime := i.regime py total
  let setup := i.setup py total
  let execution := i.execution py total
  let alignment := i.layerAlignment py total
  let result (alignment : Alignment) (generation : Generation F) : MtfContext F :=
    ⟨regime, setup, execution, alignment, generation⟩
  if !i.guidedSignalGenerationEnabled then result alignment ⟨false, none, none⟩
  else if !alignment.aligned then result alignment ⟨true, none, none⟩
  else
    match guidedCandidate py regime setup (bounded i.executionRows i.decisionTsMs) with
    | .ok candidate => result alignment ⟨true, some candidate, none⟩
    | .error reason => result (alignment.withdraw reason) ⟨true, none, some reason⟩

/-! ## 4. The verdicts of the alignment -/

/-- A layer is complete, of a known timeframe, closed at the decision and not older than allowed. -/
def Fresh (complete : Bool) (timeframe : String) (closeMs : Option ℤ)
    (decisionTsMs maxAgeIntervals : ℤ) : Prop :=
  complete = true ∧ ∃ seconds ms, tfSeconds timeframe = some seconds ∧ closeMs = some ms ∧
    ms ≤ decisionTsMs ∧ decisionTsMs - ms ≤ maxAgeIntervals * seconds * 1000

theorem fresh_of_layerReason {complete : Bool} {missing timeframe : String} {closeMs : Option ℤ}
    {decisionTsMs maxAge : ℤ}
    (h : layerReason complete missing timeframe closeMs decisionTsMs maxAge = none) :
    Fresh complete timeframe closeMs decisionTsMs maxAge := by
  unfold layerReason at h
  split at h
  · exact nomatch h
  · rename_i hcomplete
    refine ⟨by simpa using hcomplete, ?_⟩
    split at h
    · rename_i seconds ms hseconds
      split at h
      · exact nomatch h
      · split at h
        · exact nomatch h
        · exact ⟨seconds, ms, hseconds, rfl, by omega, by omega⟩
    · exact nomatch h

theorem eraseDups_eq_nil {l : List String} : l.eraseDups = [] ↔ l = [] := by
  cases l with
  | nil => simp
  | cons x xs => simp [List.eraseDups_cons]

theorem reasonIf_eq_nil {p : Bool} {reason : String} : reasonIf p reason = [] ↔ p = false := by
  cases p <;> simp [reasonIf]

theorem tradeOr_of_trades {d : Direction} (h : d.trades = true) : tradeOr d = .trade d := by
  rw [tradeOr, if_pos h]

section Verdicts

variable {regime : RegimeContext} {setup : SetupContext F} {execution : ExecutionContext}
  {decisionTsMs maxAge : ℤ}

/-- No layer is reproached. -/
structure LayersFresh (regime : RegimeContext) (setup : SetupContext F)
    (execution : ExecutionContext) (decisionTsMs maxAge : ℤ) : Prop where
  regime : Fresh regime.complete regime.timeframe regime.lastClosedCandleMs decisionTsMs maxAge
  setup : Fresh setup.complete setup.timeframe setup.lastClosedCandleMs decisionTsMs maxAge
  execution : Fresh execution.complete execution.timeframe execution.lastClosedCandleMs
    decisionTsMs maxAge

omit [DifferenceNum F] in
theorem layersFresh_of_nil
    (h : layerReasons regime setup execution decisionTsMs maxAge = []) :
    LayersFresh regime setup execution decisionTsMs maxAge := by
  simp only [layerReasons, List.append_eq_nil_iff, Option.toList_eq_nil_iff] at h
  exact ⟨fresh_of_layerReason h.1.1, fresh_of_layerReason h.1.2, fresh_of_layerReason h.2⟩

/-- The verdicts of an alignment agree, and an aligned one trades the side of the regime over fresh
    layers. -/
structure Agrees (regime : RegimeContext) (setup : SetupContext F) (execution : ExecutionContext)
    (decisionTsMs maxAge : ℤ) (a : Alignment) : Prop where
  final : a.aligned = true ↔ a.finalDirection.trades = true
  reasons : a.aligned = true ↔ a.reasons = []
  side : a.aligned = true → a.finalDirection = .trade regime.direction
  fresh : a.aligned = true → LayersFresh regime setup execution decisionTsMs maxAge

omit [DifferenceNum F] in
/-- Nothing speaks against the guided side, if the regime trades where it is complete. -/
theorem guided_valid {phase : SetupPhase} (hregime : regime.complete = regime.direction.trades)
    (hlayers : layerReasons regime setup execution decisionTsMs maxAge = [])
    (hguided : guidedReasons regime setup execution phase = []) :
    (regime.direction.trades && setup.tradeSide = some regime.direction && phase.ready &&
      execution.confirmedForSide) = true := by
  have htrades : regime.direction.trades = true := by
    rw [← hregime]
    exact (layersFresh_of_nil hlayers).regime.1
  simp only [guidedReasons, List.append_eq_nil_iff, reasonIf_eq_nil] at hguided
  obtain ⟨⟨hphase, hside⟩, hexec⟩ := hguided
  have hside : setup.tradeSide = some regime.direction := by simpa [htrades] using hside
  have hready : phase.ready = true := by simpa using hphase
  have hconfirmed : execution.confirmedForSide = true := by
    split at hexec
    · exact nomatch hexec
    · split at hexec
      · exact nomatch hexec
      · simpa [reasonIf_eq_nil] using hexec
  simp [htrades, hside, hready, hconfirmed]

omit [DifferenceNum F] in
theorem guided_agrees {phase : SetupPhase} (hregime : regime.complete = regime.direction.trades) :
    Agrees regime setup execution decisionTsMs maxAge
      (guidedAlignment regime setup execution phase decisionTsMs maxAge) := by
  have hiff : (guidedAlignment regime setup execution phase decisionTsMs maxAge).aligned = true ↔
      (guidedAlignment regime setup execution phase decisionTsMs maxAge).reasons = [] := by
    simp only [guidedAlignment, Bool.and_eq_true, List.isEmpty_iff]
    constructor
    · exact fun h => h.1
    · intro h
      refine ⟨h, ?_⟩
      rw [eraseDups_eq_nil, List.append_eq_nil_iff] at h
      simpa only [Bool.and_eq_true] using guided_valid hregime h.1 h.2
  refine ⟨?_, hiff, fun h => ?_, fun h => ?_⟩
  · constructor
    · intro h
      have hvalid := h
      simp only [guidedAlignment, Bool.and_eq_true] at hvalid
      have hfinal : (guidedAlignment regime setup execution phase decisionTsMs
        maxAge).finalDirection
          = .trade regime.direction := if_pos h
      rw [hfinal]
      exact hvalid.2.1.1.1
    · intro h
      by_contra hnot
      have hfinal : (guidedAlignment regime setup execution phase decisionTsMs
        maxAge).finalDirection
          = .noTrade := if_neg hnot
      rw [hfinal] at h
      exact nomatch h
  · exact if_pos h
  · have hnil := hiff.mp h
    simp only [guidedAlignment] at hnil
    rw [eraseDups_eq_nil, List.append_eq_nil_iff] at hnil
    exact layersFresh_of_nil hnil.1

/-- The facts about the layers that the legacy paths rest on. -/
structure Observed (regime : RegimeContext) (setup : SetupContext F)
    (execution : ExecutionContext) : Prop where
  regime : regime.complete = regime.direction.trades
  setup : setup.complete = true → setup.direction.trades = true
  execution : execution.trigger = true → execution.direction.trades = true

omit [DifferenceNum F] in
/-- Without a legacy reason all three layers trade. -/
theorem trades_of_nil (hobs : Observed regime setup execution)
    (h : legacyReasons regime setup execution decisionTsMs maxAge = []) :
    regime.direction.trades = true ∧ setup.direction.trades = true ∧
      execution.direction.trades = true := by
  simp only [legacyReasons, List.append_eq_nil_iff, reasonIf_eq_nil] at h
  have hfresh := layersFresh_of_nil h.1.1
  refine ⟨?_, hobs.setup hfresh.setup.1, hobs.execution (by simpa using h.2)⟩
  rw [← hobs.regime]
  exact hfresh.regime.1

omit [DifferenceNum F] in
theorem fresh_of_legacy (h : legacyReasons regime setup execution decisionTsMs maxAge = []) :
    LayersFresh regime setup execution decisionTsMs maxAge := by
  rw [legacyReasons, List.append_eq_nil_iff, List.append_eq_nil_iff] at h
  exact layersFresh_of_nil h.1.1

/-- Two sides that trade and are not opposed are one. -/
theorem eq_of_not_opposed {a b : Direction} (ha : a.trades = true) (hb : b.trades = true)
    (h : opposed a b = false) : a = b := by
  simpa [opposed, ha, hb] using h

omit [DifferenceNum F] in
/-- Without a reason the state trades the side of the regime. -/
theorem state_clear (hobs : Observed regime setup execution)
    (h : stateReasons regime setup execution decisionTsMs maxAge = []) :
    legacyReasons regime setup execution decisionTsMs maxAge = [] ∧
      stateFinal regime setup execution = .trade regime.direction := by
  rw [stateReasons, eraseDups_eq_nil, List.append_eq_nil_iff, reasonIf_eq_nil] at h
  obtain ⟨hr, hs, he⟩ := trades_of_nil hobs h.1
  refine ⟨h.1, ?_⟩
  rw [stateFinal, if_pos he, if_pos (eq_of_not_opposed hr hs h.2), tradeOr_of_trades hr]

omit [DifferenceNum F] in
theorem state_agrees (hobs : Observed regime setup execution) :
    Agrees regime setup execution decisionTsMs maxAge
      (stateAlignment regime setup execution decisionTsMs maxAge) := by
  have hone : stateReasons regime setup execution decisionTsMs maxAge = [] →
      (stateAlignment regime setup execution decisionTsMs maxAge).aligned = true := by
    intro h
    obtain ⟨hlegacy, hfinal⟩ := state_clear hobs h
    obtain ⟨hr, -, he⟩ := trades_of_nil hobs hlegacy
    simp only [stateAlignment, h, hfinal, FinalDirection.trades, hr, he, List.isEmpty_nil,
      Bool.and_self]
  have hiff : (stateAlignment regime setup execution decisionTsMs maxAge).aligned = true ↔
      stateReasons regime setup execution decisionTsMs maxAge = [] := by
    refine ⟨fun h => ?_, hone⟩
    simp only [stateAlignment, Bool.and_eq_true, List.isEmpty_iff] at h
    exact h.1.1
  have hside : (stateAlignment regime setup execution decisionTsMs maxAge).aligned = true →
      (stateAlignment regime setup execution decisionTsMs maxAge).finalDirection =
        .trade regime.direction :=
    fun h => (if_pos h).trans (state_clear hobs (hiff.mp h)).2
  refine ⟨?_, hiff, hside, fun h => fresh_of_legacy (state_clear hobs (hiff.mp h)).1⟩
  constructor
  · intro h
    rw [hside h]
    exact (trades_of_nil hobs (state_clear hobs (hiff.mp h)).1).1
  · intro h
    by_contra hnot
    have hfinal : (stateAlignment regime setup execution decisionTsMs maxAge).finalDirection =
        .noTrade := if_neg hnot
    rw [hfinal] at h
    exact nomatch h

omit [DifferenceNum F] in
theorem strict_agrees (hobs : Observed regime setup execution) :
    Agrees regime setup execution decisionTsMs maxAge
      (strictAlignment regime setup execution decisionTsMs maxAge) := by
  have hclear : (strictAlignment regime setup execution decisionTsMs maxAge).reasons = [] →
      legacyReasons regime setup execution decisionTsMs maxAge = [] ∧
        opposed regime.direction setup.direction = false ∧
        opposed setup.direction execution.direction = false := by
    intro h
    simp only [strictAlignment] at h
    rw [eraseDups_eq_nil] at h
    split at h
    · exact nomatch h
    · simp only [List.append_eq_nil_iff, reasonIf_eq_nil] at h
      exact ⟨h.1.1, h.1.2, h.2⟩
  have hone : (strictAlignment regime setup execution decisionTsMs maxAge).reasons = [] →
      (strictAlignment regime setup execution decisionTsMs maxAge).aligned = true := by
    intro h
    obtain ⟨hlegacy, hrs, hse⟩ := hclear h
    obtain ⟨hr, hs, he⟩ := trades_of_nil hobs hlegacy
    have hrs := eq_of_not_opposed hr hs hrs
    have hse := eq_of_not_opposed hs he hse
    simp only [strictAlignment, Bool.and_eq_true, decide_eq_true_eq, List.isEmpty_iff] at h ⊢
    exact ⟨h, hrs, hse, hr⟩
  have hiff : (strictAlignment regime setup execution decisionTsMs maxAge).aligned = true ↔
      (strictAlignment regime setup execution decisionTsMs maxAge).reasons = [] := by
    refine ⟨fun h => ?_, hone⟩
    simp only [strictAlignment, Bool.and_eq_true, List.isEmpty_iff] at h
    exact h.1
  have hside : (strictAlignment regime setup execution decisionTsMs maxAge).aligned = true →
      (strictAlignment regime setup execution decisionTsMs maxAge).finalDirection =
        .trade regime.direction := fun h => if_pos h
  refine ⟨?_, hiff, hside, fun h => fresh_of_legacy (hclear (hiff.mp h)).1⟩
  constructor
  · intro h
    rw [hside h]
    exact (trades_of_nil hobs (hclear (hiff.mp h)).1).1
  · intro h
    by_contra hnot
    have hfinal : (strictAlignment regime setup execution decisionTsMs maxAge).finalDirection =
        .noTrade := if_neg hnot
    rw [hfinal] at h
    exact nomatch h

omit [DifferenceNum F] in
/-- The verdicts of `evaluate_mtf_alignment` agree over observed layers. -/
theorem evaluate_agrees (hobs : Observed regime setup execution) (stateResolution : Bool) :
    Agrees regime setup execution decisionTsMs maxAge
      (evaluateMtfAlignment regime setup execution decisionTsMs maxAge stateResolution) := by
  unfold evaluateMtfAlignment
  split
  · exact guided_agrees hobs.regime
  · split
    · exact state_agrees hobs
    · exact strict_agrees hobs

end Verdicts

/-! ## 5. The candidate of a confirmed side -/

/-- Stop and target enclose the entry. -/
def Candidate.Ordered (c : Candidate F) : Prop :=
  match c.side with
  | .long => c.sl < c.entry ∧ c.entry < c.tp
  | _ => c.tp < c.entry ∧ c.entry < c.sl

theorem finite_of_positive {x : F} (h : positive x = true) :
    FloatNum.isFinite x = true := by
  simp only [positive, Bool.and_eq_true] at h
  exact h.1

/-- The prices that make a geometry: all positive, and risk and reward, as computed, above zero. -/
structure Usable (g : Structure F) (side : Direction) (price : F) : Prop where
  trades : side.trades = true
  positive : positive price = true ∧ positive g.stop = true ∧ positive g.target = true
  risk : ¬ g.risk side price ≤ FloatNum.ofInt 0
  reward : ¬ g.reward side price ≤ FloatNum.ofInt 0

theorem geometry_ok_iff {entry : Value F} {side : Direction} {structural : Option (Structure F)}
    {c : Candidate F} :
    buildStructuralGeometry py entry side structural = .ok c ↔
      ∃ price g, asFloat py entry = some price ∧ structural = some g ∧ Usable g side price ∧
        c = ⟨price, side, g.stop, g.target, g.reward side price / g.risk side price⟩ := by
  constructor
  · intro h
    unfold buildStructuralGeometry at h
    split at h
    · exact nomatch h
    · rename_i htrades
      split at h
      · rename_i price g hprice
        split at h
        · exact nomatch h
        · rename_i hpositive
          split at h
          · exact nomatch h
          · rename_i hrisk
            split at h
            · exact nomatch h
            · rename_i hreward
              cases h
              refine ⟨price, g, hprice, rfl, ⟨by simpa using htrades, ?_, hrisk, hreward⟩, rfl⟩
              simpa using hpositive
      · exact nomatch h
  · rintro ⟨price, g, hprice, rfl, ⟨hside, ⟨he, hs, ht⟩, hrisk, hreward⟩, rfl⟩
    simp [buildStructuralGeometry, hprice, hside, he, hs, ht, hrisk, hreward]

/-- The levels of a geometry enclose the entry. -/
theorem Usable.ordered {g : Structure F} {side : Direction} {price rr : F}
    (h : Usable g side price) : Candidate.Ordered ⟨price, side, g.stop, g.target, rr⟩ := by
  obtain ⟨hside, ⟨he, hs, ht⟩, hrisk, hreward⟩ := h
  have he := finite_of_positive he
  have hs := finite_of_positive hs
  have ht := finite_of_positive ht
  cases side with
  | long => exact ⟨lt_of_sub_pos he hs hrisk, lt_of_sub_pos ht he hreward⟩
  | short => exact ⟨lt_of_sub_pos he ht hreward, lt_of_sub_pos hs he hrisk⟩
  | neutral => exact nomatch hside
  | unknown => exact nomatch hside
  | absent => exact nomatch hside

theorem candidate_ordered {regime : RegimeContext} {setup : SetupContext F}
    {rows : List (Row F)} {c : Candidate F} (h : guidedCandidate py regime setup rows = .ok c) :
    c.side = regime.direction ∧ c.Ordered := by
  unfold guidedCandidate at h
  split at h
  · exact nomatch h
  · split at h
    · exact nomatch h
    · obtain ⟨price, g, -, -, husable, rfl⟩ := (geometry_ok_iff py).mp h
      exact ⟨rfl, husable.ordered⟩

omit [DifferenceNum F] in
/-- A fold that picks one of two numbers ends in one of them. -/
theorem foldl_mem (better : F → F → Bool) (xs : List F) (x : F) :
    xs.foldl (fun best y => if better y best then y else best) x ∈ x :: xs := by
  induction xs generalizing x with
  | nil => exact List.mem_singleton_self x
  | cons y ys ih =>
    rw [List.foldl_cons]
    have hmem := ih (if better y x then y else x)
    split at hmem <;> grind

theorem minimum_mem {xs : List F} {x : F} (h : minimum xs = some x) : x ∈ xs := by
  cases xs with
  | nil => exact nomatch h
  | cons y ys =>
    cases h
    simpa using foldl_mem (fun a b => decide (a < b)) ys y

theorem maximum_mem {xs : List F} {x : F} (h : maximum xs = some x) : x ∈ xs := by
  cases xs with
  | nil => exact nomatch h
  | cons y ys =>
    cases h
    simpa using foldl_mem (fun a b => decide (b < a)) ys y

theorem extremes_of_ne_nil {xs : List F} (h : xs ≠ []) :
    (∃ low, minimum xs = some low) ∧ ∃ high, maximum xs = some high := by
  cases xs with
  | nil => exact absurd rfl h
  | cons y ys => exact ⟨⟨_, rfl⟩, _, rfl⟩

theorem readOhlc_positive {c : Row F} {p : Ohlc F} (h : readOhlc py c = some p) :
    positive p.high = true ∧ positive p.low = true := by
  simp only [readOhlc, Option.bind_eq_bind, Option.bind_eq_some_iff] at h
  obtain ⟨high, -, low, -, close, -, openings, -, h⟩ := h
  split at h
  · rename_i hall
    cases h
    simp only [List.all_cons, Bool.and_eq_true] at hall
    exact ⟨hall.1.1, hall.1.2.1⟩
  · exact nomatch h

/-- The prices of the last setup candles. -/
def window (rows : List (Row F)) : List (Ohlc F) := lastOf 12 (prices py rows)

theorem window_positive {rows : List (Row F)} {p : Ohlc F} (h : p ∈ window py rows) :
    positive p.high = true ∧ positive p.low = true := by
  have hprices : p ∈ prices py rows := List.mem_of_mem_drop h
  obtain ⟨c, -, hc⟩ := List.mem_filterMap.mp hprices
  exact readOhlc_positive py hc

theorem window_length {rows : List (Row F)} (h : validOhlc py rows 12 = true) :
    (window py rows).length = 12 := by
  simp only [validOhlc, Bool.and_eq_true, decide_eq_true_eq, List.all_eq_true] at h
  have hlen : (prices py rows).length = rows.length := List.filterMap_length_eq_length.mpr h.2
  rw [window, lastOf, List.length_drop, hlen]
  omega

/-- The structure of the window for a side that trades: its low and its high. -/
theorem derived_structure {rows : List (Row F)} {side : Direction} {low high : F}
    (hvalid : validOhlc py rows 12 = true) (hside : side.trades = true)
    (hlow : minimum ((window py rows).map Ohlc.low) = some low)
    (hhigh : maximum ((window py rows).map Ohlc.high) = some high) :
    deriveSetupStructure (window py rows) side =
      some (if side = .long then ⟨low, high⟩ else ⟨high, low⟩) := by
  have hlen := window_length py hvalid
  cases side with
  | long => simp [deriveSetupStructure, hlen, hlow, hhigh]
  | short => simp [deriveSetupStructure, hlen, hlow, hhigh]
  | neutral => exact nomatch hside
  | unknown => exact nomatch hside
  | absent => exact nomatch hside

/-- The entry can be executed: the last setup candle and the last execution close hold positive
    numbers, the entry lies in the range of that candle, and its distances to both ends of the range
    of the window, as computed, are above zero. -/
def Executable (setupRows executionRows : List (Row F)) : Prop :=
  ∃ last fill entry low high, setupRows.getLast? = some last ∧ executionRows.getLast? = some fill ∧
    withinEntryZone (some (last.low, last.high)) fill.close = true ∧
    positiveNumber fill.close = some entry ∧
    minimum ((window py setupRows).map Ohlc.low) = some low ∧
    maximum ((window py setupRows).map Ohlc.high) = some high ∧
    ¬ entry - low ≤ FloatNum.ofInt 0 ∧ ¬ high - entry ≤ FloatNum.ofInt 0

theorem number_of_within {zone : Option (Value F × Value F)} {v : Value F}
    (h : withinEntryZone zone v = true) : ∃ entry, positiveNumber v = some entry := by
  unfold withinEntryZone at h
  split at h
  · exact nomatch h
  · split at h
    · rename_i hentry
      exact ⟨_, hentry⟩
    · exact nomatch h

theorem asFloat_of_number {v : Value F} {entry : F} (h : positiveNumber v = some entry) :
    asFloat py v = some entry ∧ positive entry = true := by
  cases v with
  | int n =>
    rw [positiveNumber, Option.filter_eq_some_iff] at h
    exact h
  | float x =>
    rw [positiveNumber, Option.filter_eq_some_iff] at h
    exact h
  | none => exact nomatch h
  | bool _ => exact nomatch h
  | text _ => exact nomatch h
  | list _ => exact nomatch h
  | mapping _ => exact nomatch h

/-- The levels of the window are usable where its ends keep their distance from the entry. -/
theorem usable_iff {side : Direction} {low high entry : F} (hside : side.trades = true)
    (he : positive entry = true) (hlow : positive low = true) (hhigh : positive high = true) :
    Usable (if side = .long then ⟨low, high⟩ else ⟨high, low⟩) side entry ↔
      ¬ entry - low ≤ FloatNum.ofInt 0 ∧ ¬ high - entry ≤ FloatNum.ofInt 0 := by
  cases side with
  | long => exact ⟨fun h => ⟨h.risk, h.reward⟩, fun h => ⟨rfl, ⟨he, hlow, hhigh⟩, h.1, h.2⟩⟩
  | short => exact ⟨fun h => ⟨h.reward, h.risk⟩, fun h => ⟨rfl, ⟨he, hhigh, hlow⟩, h.2, h.1⟩⟩
  | neutral => exact nomatch hside
  | unknown => exact nomatch hside
  | absent => exact nomatch hside

/-- When the geometry gives a candidate, in prices. -/
theorem candidate_exists_iff {regime : RegimeContext} {setup : SetupContext F}
    {setupRows rows : List (Row F)} (hside : regime.direction.trades = true)
    (hvalid : validOhlc py setupRows 12 = true)
    (hzone : setup.entryZone = setupRows.getLast?.map fun last => (last.low, last.high))
    (hstructural : setup.structural = deriveSetupStructure (window py setupRows) regime.direction) :
    (∃ c, guidedCandidate py regime setup rows = .ok c) ↔ Executable py setupRows rows := by
  have hne : window py setupRows ≠ [] := by
    intro h
    have hlen := window_length py hvalid
    rw [h] at hlen
    exact nomatch hlen
  have hlows : (window py setupRows).map Ohlc.low ≠ [] := mt List.map_eq_nil_iff.mp hne
  have hhighs : (window py setupRows).map Ohlc.high ≠ [] := mt List.map_eq_nil_iff.mp hne
  obtain ⟨⟨low, hlow⟩, -⟩ := extremes_of_ne_nil hlows
  obtain ⟨-, high, hhigh⟩ := extremes_of_ne_nil hhighs
  have hlowPositive : positive low = true := by
    obtain ⟨p, hp, rfl⟩ := List.mem_map.mp (minimum_mem hlow)
    exact (window_positive py hp).2
  have hhighPositive : positive high = true := by
    obtain ⟨p, hp, rfl⟩ := List.mem_map.mp (maximum_mem hhigh)
    exact (window_positive py hp).1
  rw [derived_structure py hvalid hside hlow hhigh] at hstructural
  constructor
  · rintro ⟨c, hc⟩
    unfold guidedCandidate at hc
    split at hc
    · exact nomatch hc
    · rename_i fill hfill
      split at hc
      · exact nomatch hc
      · rename_i hwithin
        have hwithin : withinEntryZone setup.entryZone fill.close = true := by simpa using hwithin
        obtain ⟨entry, hentry⟩ := number_of_within hwithin
        obtain ⟨price, g, hprice, hg, husable, -⟩ := (geometry_ok_iff py).mp hc
        obtain ⟨hfloat, hpositive⟩ := asFloat_of_number py hentry
        cases hfloat.symm.trans hprice
        cases hstructural.symm.trans hg
        have hdistance := (usable_iff hside hpositive hlowPositive hhighPositive).mp husable
        cases hlast : setupRows.getLast? with
        | none =>
          rw [hzone, hlast] at hwithin
          exact nomatch hwithin
        | some last =>
          rw [hzone, hlast] at hwithin
          exact ⟨last, fill, _, low, high, hlast, hfill, hwithin, hentry, hlow, hhigh, hdistance⟩
  · rintro ⟨last, fill, entry, low', high', hlast, hfill, hwithin, hentry, hlow', hhigh', hdistance⟩
    cases hlow.symm.trans hlow'
    cases hhigh.symm.trans hhigh'
    obtain ⟨hfloat, hpositive⟩ := asFloat_of_number py hentry
    have husable := (usable_iff hside hpositive hlowPositive hhighPositive).mpr hdistance
    rw [hlast, Option.map_some] at hzone
    have hok := (geometry_ok_iff py).mpr ⟨entry, _, hfloat, hstructural, husable, rfl⟩
    refine ⟨_, Eq.trans ?_ hok⟩
    rw [guidedCandidate, hfill]
    simp only [hzone, hwithin, Bool.not_true, Bool.false_eq_true, if_false]

end AlphaForge.MultiTimeframe
