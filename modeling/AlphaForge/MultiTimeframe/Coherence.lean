/-
  File:      AlphaForge/MultiTimeframe/Coherence.lean
  Subject:   When the record of `build_mtf_candidate_context` is coherent.

  Coherent: `aligned`, a final direction that trades and an empty list of reasons say the same, and
  an aligned record rests on fresh layers and, in the guided generation, on a candidate of the side
  of the regime whose levels enclose the entry.

  The builders give every layer the facts that the verdicts of `evaluate_mtf_alignment` rest on, so
  the record is coherent up to the geometry. The geometry rejects last and leaves `final_direction`:
  the record of a confirmed side is coherent only where the entry can be executed.

  * `observed` -- what the builders guarantee.
  * `guided_aligned_iff` -- when the guided side is confirmed.
  * `coherent_iff_executable` -- when the record is coherent.
-/
import AlphaForge.MultiTimeframe.Candidate

namespace AlphaForge.MultiTimeframe

open AlphaForge.Lib

variable {F : Type} [DifferenceNum F] (py : Builtins F) (total : List F → F)

/-! ## 1. The layers as built -/

theorem observed_trades {d : Direction} : d.observed.trades = d.trades := by
  cases d <;> rfl

/-- A complete setup of the legacy generation observes a direction that trades. -/
theorem setup_trades {rows : List (Row F)} {timeframe : String} {threshold : F}
    (h : (buildSetupContext py total rows timeframe none threshold).complete = true) :
    (buildSetupContext py total rows timeframe none threshold).direction.trades = true := by
  simp only [buildSetupContext, Bool.and_eq_true] at h
  rw [buildSetupContext, observed_trades]
  exact h.1.1

theorem execution_trades {rows : List (Row F)} {timeframe : String} {market : Payload F}
    {side : Option Direction} {threshold : F}
    (h : (buildExecutionContext py total rows timeframe market side threshold).trigger = true) :
    (buildExecutionContext py total rows timeframe market side threshold).direction.trades =
      true := by
  simp only [buildExecutionContext, Bool.and_eq_true] at h
  exact h.1

/-- A complete setup of the guided generation has valid candles and takes the side of the regime. -/
theorem guided_setup {rows : List (Row F)} {timeframe : String} {side : Direction} {threshold : F}
    (h : (buildSetupContext py total rows timeframe (some side) threshold).complete = true) :
    validOhlc py rows 12 = true ∧ side.trades = true := by
  simp only [buildSetupContext, Bool.and_eq_true] at h
  exact ⟨h.1.1, h.2⟩

variable (i : Inputs F)

theorem observed (hlegacy : i.guidedSignalGenerationEnabled = false) :
    Observed (i.regime py total) (i.setup py total) (i.execution py total) where
  regime := rfl
  setup := by
    rw [Inputs.setup, if_neg (by simp [hlegacy])]
    exact setup_trades py total
  execution := execution_trades py total

/-- The verdicts of the layers agree. -/
theorem layerAlignment_agrees :
    Agrees (i.regime py total) (i.setup py total) (i.execution py total) i.decisionTsMs 2
      (i.layerAlignment py total) := by
  cases hguided : i.guidedSignalGenerationEnabled with
  | false => exact evaluate_agrees (observed py total i hguided) _
  | true =>
    have hphase : ∃ phase, (i.setup py total).phase = some phase := by
      rw [Inputs.setup, if_pos hguided]
      exact ⟨_, rfl⟩
    obtain ⟨phase, hphase⟩ := hphase
    rw [Inputs.layerAlignment, evaluateMtfAlignment, hphase]
    exact guided_agrees rfl

/-! ## 2. The confirmed side -/

/-- The side is confirmed: every layer is fresh, the setup is in a phase for entries, and the
    execution triggers on the side of the regime. -/
structure Confirmed (regime : RegimeContext) (setup : SetupContext F) (execution : ExecutionContext)
    (decisionTsMs maxAge : ℤ) : Prop where
  layers : LayersFresh regime setup execution decisionTsMs maxAge
  ready : setup.phase.any SetupPhase.ready = true
  execution : execution.confirmedForSide = true

omit [DifferenceNum F] in
/-- A fresh layer is not reproached. -/
theorem layerReason_of_fresh {complete : Bool} {missing timeframe : String} {closeMs : Option ℤ}
    {decisionTsMs maxAge : ℤ} (h : Fresh complete timeframe closeMs decisionTsMs maxAge) :
    layerReason complete missing timeframe closeMs decisionTsMs maxAge = none := by
  obtain ⟨rfl, seconds, ms, hseconds, rfl, hclosed, hage⟩ := h
  have hnot : ¬ decisionTsMs < ms := by omega
  have hfresh : ¬ maxAge * seconds * 1000 < decisionTsMs - ms := by omega
  simp [layerReason, hseconds, hnot, hfresh]

omit [DifferenceNum F] in
theorem layerReasons_of_fresh {regime : RegimeContext} {setup : SetupContext F}
    {execution : ExecutionContext} {decisionTsMs maxAge : ℤ}
    (h : LayersFresh regime setup execution decisionTsMs maxAge) :
    layerReasons regime setup execution decisionTsMs maxAge = [] := by
  simp only [layerReasons, layerReason_of_fresh h.regime, layerReason_of_fresh h.setup,
    layerReason_of_fresh h.execution, Option.toList_none, List.append_nil]

/-- A confirmation is a trigger on the side. -/
theorem confirmed_trigger {rows : List (Row F)} {timeframe : String} {market : Payload F}
    {side : Direction} {threshold : F}
    (h : (buildExecutionContext py total rows timeframe market (some side)
      threshold).confirmedForSide = true) :
    (buildExecutionContext py total rows timeframe market (some side) threshold).trigger = true ∧
      side = (buildExecutionContext py total rows timeframe market (some side)
        threshold).direction := by
  simp only [buildExecutionContext, Bool.and_eq_true, Option.all_some, decide_eq_true_eq] at h ⊢
  exact h

/-- When the guided side is confirmed. -/
theorem guided_aligned_iff (hguided : i.guidedSignalGenerationEnabled = true) :
    (i.layerAlignment py total).aligned = true ↔
      Confirmed (i.regime py total) (i.setup py total) (i.execution py total) i.decisionTsMs 2 := by
  have hagrees := layerAlignment_agrees py total i
  have hphase : ∃ phase, (i.setup py total).phase = some phase := by
    rw [Inputs.setup, if_pos hguided]
    exact ⟨_, rfl⟩
  obtain ⟨phase, hphase⟩ := hphase
  have halign : i.layerAlignment py total = guidedAlignment (i.regime py total) (i.setup py total)
      (i.execution py total) phase i.decisionTsMs 2 := by
    rw [Inputs.layerAlignment, evaluateMtfAlignment, hphase]
  constructor
  · intro h
    have hvalid := h
    rw [halign] at hvalid
    simp only [guidedAlignment, Bool.and_eq_true] at hvalid
    exact ⟨hagrees.fresh h, by rw [hphase]; exact hvalid.2.1.2, hvalid.2.2⟩
  · rintro ⟨hlayers, hready, hconfirmed⟩
    rw [hphase, Option.any_some] at hready
    have hregime : (i.regime py total).direction.trades = true := hlayers.regime.1
    have hside : (i.setup py total).tradeSide = some (i.regime py total).direction := by
      rw [Inputs.setup, if_pos hguided]
      exact if_pos hregime
    have htrigger : (i.execution py total).trigger = true ∧
        (i.regime py total).direction = (i.execution py total).direction := by
      rw [Inputs.execution, if_pos hguided] at hconfirmed ⊢
      exact confirmed_trigger py total hconfirmed
    refine hagrees.reasons.mpr ?_
    rw [halign]
    simp only [guidedAlignment]
    rw [eraseDups_eq_nil, layerReasons_of_fresh hlayers, List.nil_append]
    simp [guidedReasons, reasonIf, hready, hside, htrigger.1, htrigger.2, hconfirmed]

/-! ## 3. The record -/

/-- A record is coherent. -/
structure Coherent (m : MtfContext F) : Prop where
  final : m.alignment.aligned = true ↔ m.alignment.finalDirection.trades = true
  reasons : m.alignment.aligned = true ↔ m.alignment.reasons = []
  fresh : m.alignment.aligned = true →
    LayersFresh m.regime m.setup m.execution i.decisionTsMs 2
  candidate : m.alignment.aligned = true → m.generation.guided = true →
    ∃ c, m.generation.candidate = some c ∧ c.side = m.regime.direction ∧ c.Ordered

/-- The entry of a confirmed side can be executed. -/
def ExecutableEntry : Prop :=
  Executable py (bounded i.setupRows i.decisionTsMs) (bounded i.executionRows i.decisionTsMs)

/-- The candidate of a confirmed side exists where the entry can be executed. -/
theorem guidedCandidate_iff (hguided : i.guidedSignalGenerationEnabled = true)
    (hconfirmed : Confirmed (i.regime py total) (i.setup py total) (i.execution py total)
      i.decisionTsMs 2) :
    (∃ c, guidedCandidate py (i.regime py total) (i.setup py total)
      (bounded i.executionRows i.decisionTsMs) = .ok c) ↔ ExecutableEntry py i := by
  have hcomplete := hconfirmed.layers.setup.1
  rw [Inputs.setup, if_pos hguided] at hcomplete
  obtain ⟨hvalid, hside⟩ := guided_setup py total hcomplete
  refine candidate_exists_iff py hside hvalid ?_ ?_
  · rw [Inputs.setup, if_pos hguided]
    exact if_pos hvalid
  · rw [Inputs.setup, if_pos hguided]
    simp only [buildSetupContext, hvalid, if_true]
    rfl

/-- A record that keeps the alignment of the layers is coherent, if an aligned guided one has its
    candidate. -/
theorem coherent_of_layers {generation : Generation F}
    (hcandidate : (i.layerAlignment py total).aligned = true → generation.guided = true →
      ∃ c, generation.candidate = some c ∧ c.side = (i.regime py total).direction ∧ c.Ordered) :
    Coherent i ⟨i.regime py total, i.setup py total, i.execution py total,
      i.layerAlignment py total, generation⟩ := by
  have hagrees := layerAlignment_agrees py total i
  exact ⟨hagrees.final, hagrees.reasons, hagrees.fresh, hcandidate⟩

theorem withdraw_incoherent {a : Alignment} {reason : String}
    (h : a.finalDirection.trades = true) :
    ¬ ((a.withdraw reason).aligned = true ↔ (a.withdraw reason).finalDirection.trades = true) :=
  fun hiff => Bool.false_ne_true (hiff.mpr h)

/-- The record of a confirmed guided side. -/
theorem coherent_of_confirmed (hguided : i.guidedSignalGenerationEnabled = true)
    (hconfirmed : Confirmed (i.regime py total) (i.setup py total) (i.execution py total)
      i.decisionTsMs 2) :
    Coherent i (buildMtfCandidateContext py total i) ↔ ExecutableEntry py i := by
  have ha := (guided_aligned_iff py total i hguided).mpr hconfirmed
  rw [← guidedCandidate_iff py total i hguided hconfirmed]
  cases hc : guidedCandidate py (i.regime py total) (i.setup py total)
      (bounded i.executionRows i.decisionTsMs) with
  | error reason =>
    have hrecord : (buildMtfCandidateContext py total i).alignment =
        (i.layerAlignment py total).withdraw reason := by
      simp [buildMtfCandidateContext, hguided, ha, hc]
    constructor
    · intro h
      have hfinal := h.final
      rw [hrecord] at hfinal
      exact absurd hfinal (withdraw_incoherent ((layerAlignment_agrees py total i).final.mp ha))
    · rintro ⟨c, hok⟩
      exact nomatch hok
  | ok c =>
    have hrecord : buildMtfCandidateContext py total i =
        ⟨i.regime py total, i.setup py total, i.execution py total, i.layerAlignment py total,
          ⟨true, some c, none⟩⟩ := by
      simp [buildMtfCandidateContext, hguided, ha, hc]
    refine ⟨fun _ => ⟨c, rfl⟩, fun _ => ?_⟩
    rw [hrecord]
    exact coherent_of_layers py total i fun _ _ => ⟨c, rfl, candidate_ordered py hc⟩

/-- The record is coherent if and only if the entry of a confirmed guided side can be executed. -/
theorem coherent_iff_executable :
    Coherent i (buildMtfCandidateContext py total i) ↔
      (i.guidedSignalGenerationEnabled = true →
        Confirmed (i.regime py total) (i.setup py total) (i.execution py total) i.decisionTsMs 2 →
        ExecutableEntry py i) := by
  by_cases hguided : i.guidedSignalGenerationEnabled = true
  · by_cases hconfirmed : Confirmed (i.regime py total) (i.setup py total) (i.execution py total)
        i.decisionTsMs 2
    · rw [coherent_of_confirmed py total i hguided hconfirmed]
      exact ⟨fun h _ _ => h, fun h => h hguided hconfirmed⟩
    · have ha : ¬ (i.layerAlignment py total).aligned = true :=
        mt (guided_aligned_iff py total i hguided).mp hconfirmed
      have hrecord : buildMtfCandidateContext py total i =
          ⟨i.regime py total, i.setup py total, i.execution py total, i.layerAlignment py total,
            ⟨true, none, none⟩⟩ := by
        simp [buildMtfCandidateContext, hguided, ha]
      refine ⟨fun _ _ h => absurd h hconfirmed, fun _ => ?_⟩
      rw [hrecord]
      exact coherent_of_layers py total i fun h => absurd h ha
  · have hrecord : buildMtfCandidateContext py total i =
        ⟨i.regime py total, i.setup py total, i.execution py total, i.layerAlignment py total,
          ⟨false, none, none⟩⟩ := by
      simp [buildMtfCandidateContext, hguided]
    refine ⟨fun _ h => absurd h hguided, fun _ => ?_⟩
    rw [hrecord]
    exact coherent_of_layers py total i fun _ h => nomatch h

/-- Exact numbers; no text spells one. -/
def exactBuiltins : Builtins ℚ where
  parse _ := none
  str _ := ""
  dumps _ := ""

/-- The last candles before a time, whose closes rise by a step; the ranges reach half a unit below
    and above the closes. -/
def rising (count : ℕ) (intervalMs endMs : ℤ) (start step : ℚ) : List (Row ℚ) :=
  (List.range count).map fun (k : ℕ) =>
    let close := start + (k : ℚ) * step
    { openTs := endMs - ((count : ℤ) - (k : ℤ)) * intervalMs
      closeTs := some (endMs - ((count : ℤ) - (k : ℤ) - 1) * intervalMs)
      opening := some (.float close)
      high := .float (close + 1 / 2)
      low := .float (close - 1 / 2)
      close := .float close }

/-- All three layers rise, and the execution closes at 108, above the range of the last setup
    candle. -/
def breakout : Inputs ℚ where
  regimeRows := rising 20 14400000 288000000 100 1
  setupRows := rising 12 3600000 288000000 100 (1 / 2)
  executionRows := rising 5 300000 288000000 104 1
  executionCtx := ["spread_pct", "expected_slippage_pct", "market_data_latency_ms",
    "liquidity_score"].map fun key => (key, .int 1)
  decisionTsMs := 288000000
  regimeTimeframe := "4h"
  setupTimeframe := "1h"
  executionTimeframe := "5m"
  stateDirectionResolutionEnabled := true
  regimeDirectionThreshold := 0.0005
  setupDirectionThreshold := 0.0003
  executionDirectionThreshold := 0.0005
  guidedSignalGenerationEnabled := true

/-- The record of the breakout is not aligned and trades long. -/
theorem breakout_incoherent :
    ¬ Coherent breakout (buildMtfCandidateContext exactBuiltins List.sum breakout) := by
  intro h
  have hfinal : (buildMtfCandidateContext exactBuiltins List.sum breakout).alignment.finalDirection
      = .trade .long := by decide +kernel
  have haligned : (buildMtfCandidateContext exactBuiltins List.sum breakout).alignment.aligned
      = false := by decide +kernel
  have hiff := h.final
  rw [hfinal, haligned] at hiff
  exact Bool.false_ne_true (hiff.mpr rfl)

end AlphaForge.MultiTimeframe
