/-
  File:      AlphaForge/Portfolio/Sizing.lean
  Subject:   The paper notional of a risk budget and a stop distance:
             `risk_based_candidate_exposure` of `portfolio_risk.py`.

  Two multipliers cut the risk budget, the budget over the stop distance is the notional, and the
  smallest of it and the caps is selected. A drawdown limit that is zero or negative switches its
  multiplier off, where the same limit of the volatility refuses.

  * `riskBasedCandidateExposure` -- the function; `exposure_ok` says when it completes.
  * `MoreAdverse` -- no piece of evidence is better and no limit is wider.
  * `le_selected_iff` -- what the selected notional is the greatest of.
  * **`budget_kept_iff`** -- where the selected notional keeps the caps and the risk budget and
    never grows with more adverse inputs.
  * `switched_off` -- a drawdown limit of zero selects more than one of ten per cent.
-/
import AlphaForge.Lib.Dictionary
import AlphaForge.Lib.Numbers
import AlphaForge.Lib.PyValues

namespace AlphaForge.Portfolio

open AlphaForge.Lib

section Code

variable {F : Type} [FloatNum F]

/-! ## 1. The code -/

/-- The arguments; `none` is an argument that is missing or that `float` refuses. -/
structure SizingArgs (F : Type) [FloatNum F] where
  equity : Option F
  entry : Option F
  stop : Option F
  riskPctPerTrade : Option F
  rollingDrawdownPct : Option F := some (FloatNum.ofInt 0)
  maxRollingDrawdownPct : Option F := none
  expectedSlippagePct : Option F := none
  maxExpectedSlippagePct : Option F := none
  volatilityPenaltyPct : Option F := none
  maxVolatilityPenaltyPct : Option F := none
  liquidityDepthUsdt : Option F := none
  maxLiquidityParticipationPct : Option F := some (0.01 : F)
  maxLeverage : Option F := some (FloatNum.ofInt 1)
  minNotional : Option F := some (FloatNum.ofInt 0)
  hardNotionalCaps : Dictionary String (Option F) := .empty
  requireExecutionLimits : Bool := true

inductive SizingStatus where
  | unavailable
  | invalid
  | rejected
  deriving DecidableEq

/-- A result that selects no notional. -/
structure Refusal (F : Type) where
  status : SizingStatus
  reason : String
  selectedNotional : Option F := none
  minNotional : Option F := none
  caps : Option (List (String × F)) := none

/-- A COMPLETE result. -/
structure Sized (F : Type) where
  entryBasis : F
  stop : F
  stopDistancePct : F
  riskPctPerTrade : F
  riskBudgetUsdt : F
  drawdownMultiplier : F
  volatilityMultiplier : F
  rawRiskNotional : F
  selectedNotional : F
  quantity : F
  riskAtStopUsdt : F
  riskAtStopPctEquity : F
  caps : List (String × F)

/-- `num`. -/
def num (value : Option F) : Option F := value.filter FloatNum.isFinite

/-- A number that has to be known and must not be `bad`. -/
def required (value : Option F) (bad : F → Bool) (refusal : Refusal F) : Except (Refusal F) F :=
  match num value with
  | some x => if bad x then .error refusal else .ok x
  | none => .error refusal

def refuse (p : Prop) [Decidable p] (refusal : Refusal F) : Except (Refusal F) Unit :=
  if p then .error refusal else .ok ()

/-- `max(0.0, min(1.0, x))`. -/
def cutToUnit (x : F) : F := pyMax (FloatNum.ofInt 0) (pyMin (FloatNum.ofInt 1) x)

/-- `drawdown_multiplier`. -/
def drawdownMultiplier (dd : F) (maxDd : Option F) : F :=
  match maxDd with
  | some limit =>
    if FloatNum.ofInt 0 < limit then cutToUnit (FloatNum.ofInt 1 - dd / limit) else FloatNum.ofInt 1
  | none => FloatNum.ofInt 1

/-- `volatility_multiplier`. -/
def volatilityMultiplier (penalty maxPenalty : Option F) : Except (Refusal F) F :=
  match penalty, maxPenalty with
  | some p, some limit =>
    if limit ≤ FloatNum.ofInt 0 then
      if FloatNum.ofInt 0 < p then .error { status := .rejected, reason := "EXCESSIVE_VOLATILITY" }
      else .ok (FloatNum.ofInt 1)
    else if limit < p then .error { status := .rejected, reason := "EXCESSIVE_VOLATILITY" }
    else .ok (cutToUnit (FloatNum.ofInt 1 - p / limit))
  | _, _ => .ok (FloatNum.ofInt 1)

/-- `slip is not None and max_slip is not None and slip > max_slip`. -/
def aboveLimit (value limit : Option F) : Bool :=
  match value, limit with
  | some x, some y => decide (y < x)
  | _, _ => false

/-- The caps of the leverage and the liquidity. -/
def builtinCaps (equity leverage participation : F) (depth : Option F) : List (String × F) :=
  ("leverage_cap", equity * leverage) ::
    match depth with
    | some d => [("liquidity_cap", pyMax (FloatNum.ofInt 0) (d * participation))]
    | none => []

/-- The loop over `hard_notional_caps`; `upper` is `str.upper`. -/
def addHardCaps (upper : String → String) (limited : Bool) (caps : List (String × F)) :
    List (String × Option F) → Except (Refusal F) (List (String × F))
  | [] => .ok caps
  | (name, value) :: rest =>
    match num value with
    | some parsed =>
      addHardCaps upper limited (assign caps name (pyMax (FloatNum.ofInt 0) parsed)) rest
    | none =>
      if limited then
        .error { status := .unavailable, reason := upper name ++ "_CAP_UNAVAILABLE" }
      else addHardCaps upper limited caps rest

/-- `min([raw_notional, *caps.values()])`. -/
def smallest (raw : F) (caps : List (String × F)) : F := caps.foldl (fun m cap => pyMin m cap.2) raw

/-- `risk_based_candidate_exposure`. -/
def riskBasedCandidateExposure (upper : String → String) (a : SizingArgs F) :
    Except (Refusal F) (Sized F) := do
  let eq ← required a.equity (fun x => decide (x ≤ FloatNum.ofInt 0))
    { status := .unavailable, reason := "RISK_SIZING_CORE_EVIDENCE_UNAVAILABLE" }
  let px ← required a.entry (fun x => decide (x ≤ FloatNum.ofInt 0))
    { status := .unavailable, reason := "RISK_SIZING_CORE_EVIDENCE_UNAVAILABLE" }
  let sl ← required a.stop (fun _ => false)
    { status := .unavailable, reason := "RISK_SIZING_CORE_EVIDENCE_UNAVAILABLE" }
  let riskPct ← required a.riskPctPerTrade
    (fun x => decide (x ≤ FloatNum.ofInt 0) || decide (FloatNum.ofInt 1 < x))
    { status := .invalid, reason := "INVALID_RISK_PCT_PER_TRADE" }
  let stopDistancePct := FloatNum.abs (px - sl) / px
  refuse (FloatNum.isFinite stopDistancePct = false ∨ stopDistancePct ≤ FloatNum.ofInt 0)
    { status := .invalid, reason := "INVALID_STOP_DISTANCE" }
  let dd ← required a.rollingDrawdownPct (fun x => decide (x < FloatNum.ofInt 0))
    { status := .unavailable, reason := "DRAWDOWN_EVIDENCE_UNAVAILABLE" }
  let ddMultiplier := drawdownMultiplier dd (num a.maxRollingDrawdownPct)
  refuse (ddMultiplier ≤ FloatNum.ofInt 0) { status := .rejected, reason := "MAX_ROLLING_DRAWDOWN" }
  let slip := num a.expectedSlippagePct
  let maxSlip := num a.maxExpectedSlippagePct
  let volPenalty := num a.volatilityPenaltyPct
  let maxVolPenalty := num a.maxVolatilityPenaltyPct
  let depth := num a.liquidityDepthUsdt
  let minSize := (num a.minNotional).getD (FloatNum.ofInt 0)
  refuse (a.requireExecutionLimits = true ∧ (slip.isNone || maxSlip.isNone || volPenalty.isNone ||
      maxVolPenalty.isNone || depth.isNone) = true)
    { status := .unavailable, reason := "RISK_SIZING_EXECUTION_EVIDENCE_UNAVAILABLE" }
  refuse (aboveLimit slip maxSlip = true)
    { status := .rejected, reason := "EXCESSIVE_EXPECTED_SLIPPAGE" }
  let participation ← required a.maxLiquidityParticipationPct
    (fun x => decide (x < FloatNum.ofInt 0) || decide (FloatNum.ofInt 1 < x))
    { status := .invalid, reason := "INVALID_LIQUIDITY_PARTICIPATION" }
  let leverage ← required a.maxLeverage
    (fun x => decide (x ≤ FloatNum.ofInt 0) || decide (FloatNum.ofInt 1 < x))
    { status := .invalid, reason := "INVALID_PAPER_MAX_LEVERAGE" }
  refuse (minSize < FloatNum.ofInt 0) { status := .invalid, reason := "INVALID_MIN_NOTIONAL" }
  let volMultiplier ← volatilityMultiplier volPenalty maxVolPenalty
  let riskBudgetUsdt := eq * riskPct * ddMultiplier * volMultiplier
  let rawNotional := riskBudgetUsdt / stopDistancePct
  let caps ← addHardCaps upper a.requireExecutionLimits
    (builtinCaps eq leverage participation depth) a.hardNotionalCaps.entries
  let selectedNotional := smallest rawNotional caps
  refuse (selectedNotional ≤ FloatNum.ofInt 0)
    { status := .rejected, reason := "NO_RISK_CAPACITY", caps := some caps }
  refuse (FloatNum.ofInt 0 < minSize ∧ selectedNotional < minSize)
    { status := .rejected, reason := "BELOW_MIN_NOTIONAL",
      selectedNotional := some selectedNotional,
      minNotional := some minSize, caps := some caps }
  return {
    entryBasis := px
    stop := sl
    stopDistancePct := stopDistancePct
    riskPctPerTrade := riskPct
    riskBudgetUsdt := riskBudgetUsdt
    drawdownMultiplier := ddMultiplier
    volatilityMultiplier := volMultiplier
    rawRiskNotional := rawNotional
    selectedNotional := selectedNotional
    quantity := selectedNotional / px
    riskAtStopUsdt := selectedNotional * stopDistancePct
    riskAtStopPctEquity := selectedNotional * stopDistancePct / eq
    caps := caps }

end Code

/-! ## 2. When it completes -/

theorem num_rat (value : Option ℚ) : num value = value := by
  unfold num
  cases value <;> rfl

theorem sizing_zero : (FloatNum.ofInt 0 : ℚ) = 0 := Int.cast_zero

theorem sizing_one : (FloatNum.ofInt 1 : ℚ) = 1 := Int.cast_one

theorem smaller_eq (x y : ℚ) : pyMin x y = min x y := by
  unfold pyMin
  split
  · rename_i h
    exact (min_eq_right h.le).symm
  · rename_i h
    exact (min_eq_left (not_lt.mp h)).symm

theorem larger_eq (x y : ℚ) : pyMax x y = max x y := by
  unfold pyMax
  split
  · rename_i h
    exact (max_eq_right h.le).symm
  · rename_i h
    exact (max_eq_left (not_lt.mp h)).symm

theorem cutToUnit_rat (x : ℚ) : cutToUnit x = max 0 (min 1 x) := by
  unfold cutToUnit
  rw [larger_eq, smaller_eq, sizing_zero, sizing_one]

theorem required_ok_iff {value : Option ℚ} {bad : ℚ → Bool} {refusal : Refusal ℚ} {x : ℚ} :
    required value bad refusal = .ok x ↔ value = some x ∧ bad x = false := by
  unfold required
  rw [num_rat]
  cases value with
  | none => exact iff_of_false (fun h => by cases h) (fun h => by cases h.1)
  | some y =>
    dsimp only
    constructor
    · intro h
      split at h
      · cases h
      · rename_i hbad
        cases Except.ok.inj h
        exact ⟨rfl, Bool.not_eq_true _ ▸ hbad⟩
    · rintro ⟨hy, hbad⟩
      cases Option.some.inj hy
      rw [hbad, if_neg Bool.false_ne_true]

theorem refuse_ok_iff {p : Prop} [Decidable p] {refusal : Refusal ℚ} :
    refuse p refusal = .ok () ↔ ¬ p := by
  unfold refuse
  split
  · rename_i h
    exact iff_of_false (fun he => by cases he) (not_not.mpr h)
  · rename_i h
    exact iff_of_true rfl h

/-- The entries of a mapping of caps whose value is known. -/
def knownCaps (entries : List (String × Option ℚ)) : List (String × ℚ) :=
  entries.filterMap fun e => e.2.map fun cap => (e.1, max 0 cap)

theorem assign_new {caps : List (String × ℚ)} {name : String} (h : name ∉ caps.map Prod.fst)
    (cap : ℚ) : assign caps name cap = caps ++ [(name, cap)] := by
  induction caps with
  | nil => rfl
  | cons e rest ih =>
    rw [List.map_cons, List.mem_cons, not_or] at h
    unfold assign
    rw [if_neg (Ne.symm h.1), ih h.2]
    rfl

/-- Caps of new names are appended, and where limits are required each of them has to be known. -/
theorem addHardCaps_ok_iff {upper : String → String} {limited : Bool}
    {entries : List (String × Option ℚ)} {caps all : List (String × ℚ)}
    (hnodup : (entries.map Prod.fst).Nodup)
    (hnew : ∀ e ∈ entries, e.1 ∉ caps.map Prod.fst) :
    addHardCaps upper limited caps entries = .ok all ↔
      (limited = true → ∀ e ∈ entries, e.2 ≠ none) ∧ all = caps ++ knownCaps entries := by
  induction entries generalizing caps with
  | nil =>
    unfold addHardCaps knownCaps
    rw [List.filterMap_nil, List.append_nil, Except.ok.injEq]
    exact ⟨fun h => ⟨fun _ => List.forall_mem_nil _, h.symm⟩, fun h => h.2.symm⟩
  | cons e rest ih =>
    obtain ⟨name, value⟩ := e
    rw [List.map_cons, List.nodup_cons] at hnodup
    have hrest : ∀ e ∈ rest, e.1 ∉ caps.map Prod.fst :=
      fun e he => hnew e (List.mem_cons_of_mem _ he)
    unfold addHardCaps
    rw [num_rat]
    cases value with
    | none =>
      dsimp only
      cases limited with
      | true =>
        rw [if_pos rfl]
        refine iff_of_false (fun h => by cases h) (fun h => ?_)
        exact h.1 rfl (name, none) (List.mem_cons_self ..) rfl
      | false =>
        rw [if_neg Bool.false_ne_true, ih hnodup.2 hrest]
        exact and_congr_left fun _ =>
          iff_of_true (fun h => absurd h Bool.false_ne_true) (fun h => absurd h Bool.false_ne_true)
    | some parsed =>
      dsimp only
      have hname : name ∉ caps.map Prod.fst := hnew (name, some parsed) (List.mem_cons_self ..)
      have hnew' : ∀ e ∈ rest,
          e.1 ∉ (caps ++ [(name, pyMax (FloatNum.ofInt 0) parsed)]).map Prod.fst := by
        intro e he hmem
        rw [List.map_append, List.mem_append, List.map_singleton, List.mem_singleton] at hmem
        rcases hmem with hmem | hmem
        · exact hrest e he hmem
        · exact hnodup.1 (hmem ▸ List.mem_map_of_mem he)
      rw [assign_new hname, ih hnodup.2 hnew', larger_eq, sizing_zero]
      refine and_congr ?_ ?_
      · refine forall_congr' fun _ => ?_
        rw [List.forall_mem_cons]
        exact (and_iff_right (Option.some_ne_none parsed)).symm
      · unfold knownCaps
        rw [List.filterMap_cons, List.append_assoc]
        exact Iff.rfl

/-- The numbers read from the arguments. -/
structure Reading where
  equity : ℚ
  entry : ℚ
  stop : ℚ
  riskPct : ℚ
  drawdown : ℚ
  participation : ℚ
  leverage : ℚ
  volatility : ℚ

namespace Reading

variable (a : SizingArgs ℚ) (r : Reading)

def distance : ℚ := |r.entry - r.stop| / r.entry

def budget : ℚ :=
  r.equity * r.riskPct * drawdownMultiplier r.drawdown a.maxRollingDrawdownPct * r.volatility

def raw : ℚ := r.budget a / r.distance

def caps : List (String × ℚ) :=
  builtinCaps r.equity r.leverage r.participation a.liquidityDepthUsdt ++
    knownCaps a.hardNotionalCaps.entries

def selected : ℚ := smallest (r.raw a) (r.caps a)

def sized : Sized ℚ where
  entryBasis := r.entry
  stop := r.stop
  stopDistancePct := r.distance
  riskPctPerTrade := r.riskPct
  riskBudgetUsdt := r.budget a
  drawdownMultiplier := drawdownMultiplier r.drawdown a.maxRollingDrawdownPct
  volatilityMultiplier := r.volatility
  rawRiskNotional := r.raw a
  selectedNotional := r.selected a
  quantity := r.selected a / r.entry
  riskAtStopUsdt := r.selected a * r.distance
  riskAtStopPctEquity := r.selected a * r.distance / r.equity
  caps := r.caps a

end Reading

/-- What the arguments of a COMPLETE result satisfy. -/
structure Reads (a : SizingArgs ℚ) (r : Reading) : Prop where
  equity : a.equity = some r.equity
  equity_pos : 0 < r.equity
  entry : a.entry = some r.entry
  entry_pos : 0 < r.entry
  stop : a.stop = some r.stop
  riskPct : a.riskPctPerTrade = some r.riskPct
  riskPct_pos : 0 < r.riskPct
  riskPct_le : r.riskPct ≤ 1
  distance_pos : 0 < r.distance
  drawdown : a.rollingDrawdownPct = some r.drawdown
  drawdown_nonneg : 0 ≤ r.drawdown
  drawdown_left : 0 < drawdownMultiplier r.drawdown a.maxRollingDrawdownPct
  measured : a.requireExecutionLimits = true → (a.expectedSlippagePct.isNone ||
    a.maxExpectedSlippagePct.isNone || a.volatilityPenaltyPct.isNone ||
    a.maxVolatilityPenaltyPct.isNone || a.liquidityDepthUsdt.isNone) = false
  slippage : aboveLimit a.expectedSlippagePct a.maxExpectedSlippagePct = false
  participation : a.maxLiquidityParticipationPct = some r.participation
  participation_nonneg : 0 ≤ r.participation
  participation_le : r.participation ≤ 1
  leverage : a.maxLeverage = some r.leverage
  leverage_pos : 0 < r.leverage
  leverage_le : r.leverage ≤ 1
  minimum_nonneg : 0 ≤ a.minNotional.getD 0
  volatility :
    volatilityMultiplier a.volatilityPenaltyPct a.maxVolatilityPenaltyPct = .ok r.volatility
  capped : a.requireExecutionLimits = true → ∀ e ∈ a.hardNotionalCaps.entries, e.2 ≠ none
  selected_pos : 0 < r.selected a
  minimum_le : a.minNotional.getD 0 ≤ r.selected a

/-- No hard cap has the name of a cap of the code's own. -/
def OwnNames (a : SizingArgs ℚ) : Prop :=
  ∀ name ∈ a.hardNotionalCaps.keys, name ≠ "leverage_cap" ∧ name ≠ "liquidity_cap"

theorem ownNames_new {a : SizingArgs ℚ} (h : OwnNames a) (equity leverage participation : ℚ)
    (depth : Option ℚ) : ∀ e ∈ a.hardNotionalCaps.entries,
      e.1 ∉ (builtinCaps equity leverage participation depth).map Prod.fst := by
  intro e he hmem
  obtain ⟨hleverage, hliquidity⟩ := h e.1 (List.mem_map_of_mem he)
  unfold builtinCaps at hmem
  cases depth with
  | none => exact hleverage (List.mem_singleton.mp hmem)
  | some d =>
    rcases List.mem_cons.mp hmem with heq | hmem
    · exact hleverage heq
    · exact hliquidity (List.mem_singleton.mp hmem)

theorem exposure_ok {upper : String → String} {a : SizingArgs ℚ} (hnames : OwnNames a)
    {e : Sized ℚ} (h : riskBasedCandidateExposure upper a = .ok e) :
    ∃ r, Reads a r ∧ e = r.sized a := by
  unfold riskBasedCandidateExposure at h
  simp only [num_rat, sizing_zero, sizing_one] at h
  obtain ⟨eq, heq, h⟩ := ok_of_bind h
  obtain ⟨px, hpx, h⟩ := ok_of_bind h
  obtain ⟨sl, hsl, h⟩ := ok_of_bind h
  obtain ⟨riskPct, hrisk, h⟩ := ok_of_bind h
  obtain ⟨_, hdistance, h⟩ := ok_of_bind h
  obtain ⟨dd, hdd, h⟩ := ok_of_bind h
  obtain ⟨_, hleft, h⟩ := ok_of_bind h
  obtain ⟨_, hmeasured, h⟩ := ok_of_bind h
  obtain ⟨_, hslip, h⟩ := ok_of_bind h
  obtain ⟨participation, hpart, h⟩ := ok_of_bind h
  obtain ⟨leverage, hlev, h⟩ := ok_of_bind h
  obtain ⟨_, hmin, h⟩ := ok_of_bind h
  obtain ⟨volatility, hvol, h⟩ := ok_of_bind h
  obtain ⟨caps, hcaps, h⟩ := ok_of_bind h
  obtain ⟨_, hpos, h⟩ := ok_of_bind h
  obtain ⟨_, hsmall, h⟩ := ok_of_bind h
  obtain ⟨heq, heq_pos⟩ := required_ok_iff.mp heq
  obtain ⟨hpx, hpx_pos⟩ := required_ok_iff.mp hpx
  obtain ⟨hsl, -⟩ := required_ok_iff.mp hsl
  obtain ⟨hrisk, hrisk_unit⟩ := required_ok_iff.mp hrisk
  obtain ⟨hdd, hdd_nonneg⟩ := required_ok_iff.mp hdd
  obtain ⟨hpart, hpart_unit⟩ := required_ok_iff.mp hpart
  obtain ⟨hlev, hlev_unit⟩ := required_ok_iff.mp hlev
  rw [refuse_ok_iff] at hdistance hleft hmeasured hslip hmin hpos hsmall
  rw [Bool.or_eq_false_iff] at hrisk_unit hpart_unit hlev_unit
  obtain ⟨hknown, rfl⟩ := (addHardCaps_ok_iff a.hardNotionalCaps.nodup
    (ownNames_new hnames eq leverage participation a.liquidityDepthUsdt)).mp hcaps
  have hnonneg : (0 : ℚ) ≤ a.minNotional.getD 0 := not_lt.mp hmin
  refine ⟨⟨eq, px, sl, riskPct, dd, participation, leverage, volatility⟩, ?_,
    (Except.ok.inj h).symm⟩
  exact {
    equity := heq
    equity_pos := not_le.mp (of_decide_eq_false heq_pos)
    entry := hpx
    entry_pos := not_le.mp (of_decide_eq_false hpx_pos)
    stop := hsl
    riskPct := hrisk
    riskPct_pos := not_le.mp (of_decide_eq_false hrisk_unit.1)
    riskPct_le := not_lt.mp (of_decide_eq_false hrisk_unit.2)
    distance_pos := not_le.mp fun hle => hdistance (.inr hle)
    drawdown := hdd
    drawdown_nonneg := not_lt.mp (of_decide_eq_false hdd_nonneg)
    drawdown_left := not_le.mp hleft
    measured := fun hlimited => Bool.eq_false_iff.mpr fun hmissing => hmeasured ⟨hlimited, hmissing⟩
    slippage := Bool.eq_false_iff.mpr hslip
    participation := hpart
    participation_nonneg := not_lt.mp (of_decide_eq_false hpart_unit.1)
    participation_le := not_lt.mp (of_decide_eq_false hpart_unit.2)
    leverage := hlev
    leverage_pos := not_le.mp (of_decide_eq_false hlev_unit.1)
    leverage_le := not_lt.mp (of_decide_eq_false hlev_unit.2)
    minimum_nonneg := hnonneg
    volatility := hvol
    capped := hknown
    selected_pos := not_le.mp hpos
    minimum_le := by
      by_contra hlt
      rcases hnonneg.eq_or_lt with hzero | hposmin
      · exact hlt (hzero ▸ (not_le.mp hpos).le)
      · exact hsmall ⟨hposmin, not_le.mp hlt⟩ }

theorem exposure_of_reads (upper : String → String) {a : SizingArgs ℚ} (hnames : OwnNames a)
    {r : Reading} (h : Reads a r) : riskBasedCandidateExposure upper a = .ok (r.sized a) := by
  unfold riskBasedCandidateExposure
  simp only [num_rat, sizing_zero, sizing_one]
  have hunit : ∀ {x : ℚ}, 0 < x → x ≤ 1 → (decide (x ≤ 0) || decide (1 < x)) = false := by
    intro x hpos hle
    rw [decide_eq_false (not_le.mpr hpos), decide_eq_false (not_lt.mpr hle), Bool.false_or]
  have hpart : (decide (r.participation < 0) || decide (1 < r.participation)) = false := by
    rw [decide_eq_false (not_lt.mpr h.participation_nonneg),
      decide_eq_false (not_lt.mpr h.participation_le), Bool.false_or]
  have hdistance : ¬ (FloatNum.isFinite (FloatNum.abs (r.entry - r.stop) / r.entry) = false ∨
      FloatNum.abs (r.entry - r.stop) / r.entry ≤ 0) :=
    not_or.mpr ⟨fun hinfinite => Bool.noConfusion hinfinite, not_le.mpr h.distance_pos⟩
  have hmeasured : ¬ (a.requireExecutionLimits = true ∧ (a.expectedSlippagePct.isNone ||
      a.maxExpectedSlippagePct.isNone || a.volatilityPenaltyPct.isNone ||
      a.maxVolatilityPenaltyPct.isNone || a.liquidityDepthUsdt.isNone) = true) :=
    fun hmissing => Bool.false_ne_true ((h.measured hmissing.1).symm.trans hmissing.2)
  have hslip : ¬ aboveLimit a.expectedSlippagePct a.maxExpectedSlippagePct = true :=
    Bool.eq_false_iff.mp h.slippage
  have hcaps : addHardCaps upper a.requireExecutionLimits
      (builtinCaps r.equity r.leverage r.participation a.liquidityDepthUsdt)
      a.hardNotionalCaps.entries = .ok (r.caps a) :=
    (addHardCaps_ok_iff a.hardNotionalCaps.nodup
      (ownNames_new hnames r.equity r.leverage r.participation _)).mpr ⟨h.capped, rfl⟩
  rw [required_ok_iff.mpr ⟨h.equity, decide_eq_false (not_le.mpr h.equity_pos)⟩, ok_bind,
    required_ok_iff.mpr ⟨h.entry, decide_eq_false (not_le.mpr h.entry_pos)⟩, ok_bind,
    required_ok_iff.mpr ⟨h.stop, rfl⟩, ok_bind,
    required_ok_iff.mpr ⟨h.riskPct, hunit h.riskPct_pos h.riskPct_le⟩, ok_bind,
    refuse_ok_iff.mpr hdistance, ok_bind,
    required_ok_iff.mpr ⟨h.drawdown, decide_eq_false (not_lt.mpr h.drawdown_nonneg)⟩, ok_bind,
    refuse_ok_iff.mpr (not_le.mpr h.drawdown_left), ok_bind, refuse_ok_iff.mpr hmeasured, ok_bind,
    refuse_ok_iff.mpr hslip, ok_bind, required_ok_iff.mpr ⟨h.participation, hpart⟩, ok_bind,
    required_ok_iff.mpr ⟨h.leverage, hunit h.leverage_pos h.leverage_le⟩, ok_bind,
    refuse_ok_iff.mpr (not_lt.mpr h.minimum_nonneg), ok_bind, h.volatility, ok_bind, hcaps, ok_bind]
  show (refuse (r.selected a ≤ 0) _ >>= fun _ =>
    refuse (0 < a.minNotional.getD 0 ∧ r.selected a < a.minNotional.getD 0) _ >>= fun _ =>
      Except.ok (r.sized a)) = Except.ok (r.sized a)
  rw [refuse_ok_iff.mpr (not_le.mpr h.selected_pos), ok_bind,
    refuse_ok_iff.mpr (fun hsmall => absurd h.minimum_le (not_le.mpr hsmall.2)), ok_bind]

/-! ## 3. The smallest of the caps -/

theorem le_smallest_iff {n raw : ℚ} {caps : List (String × ℚ)} :
    n ≤ smallest raw caps ↔ n ≤ raw ∧ ∀ cap ∈ caps, n ≤ cap.2 := by
  unfold smallest
  induction caps generalizing raw with
  | nil => exact ⟨fun h => ⟨h, List.forall_mem_nil _⟩, fun h => h.1⟩
  | cons cap rest ih =>
    rw [List.foldl_cons, ih, smaller_eq, le_min_iff, List.forall_mem_cons, and_assoc]

/-- A notional that no cap of the arguments refuses. -/
structure Fits (a : SizingArgs ℚ) (r : Reading) (n : ℚ) : Prop where
  leverage : n ≤ r.equity * r.leverage
  liquidity : ∀ depth ∈ a.liquidityDepthUsdt, n ≤ max 0 (depth * r.participation)
  hard : ∀ name cap, (name, some cap) ∈ a.hardNotionalCaps.entries → n ≤ max 0 cap

theorem fits_iff {a : SizingArgs ℚ} {r : Reading} {n : ℚ} :
    Fits a r n ↔ ∀ cap ∈ r.caps a, n ≤ cap.2 := by
  unfold Reading.caps
  have hbuiltin : (∀ cap ∈ builtinCaps r.equity r.leverage r.participation a.liquidityDepthUsdt,
      n ≤ cap.2) ↔ n ≤ r.equity * r.leverage ∧
        ∀ depth ∈ a.liquidityDepthUsdt, n ≤ max 0 (depth * r.participation) := by
    unfold builtinCaps
    rw [List.forall_mem_cons]
    refine and_congr_right fun _ => ?_
    cases a.liquidityDepthUsdt with
    | none => exact iff_of_true (List.forall_mem_nil _) (fun _ h => by cases h)
    | some d =>
      rw [List.forall_mem_singleton, larger_eq, sizing_zero]
      exact ⟨fun h depth hd => Option.some.inj hd ▸ h, fun h => h d rfl⟩
  have hknown : (∀ cap ∈ knownCaps a.hardNotionalCaps.entries, n ≤ cap.2) ↔
      ∀ name cap, (name, some cap) ∈ a.hardNotionalCaps.entries → n ≤ max 0 cap := by
    unfold knownCaps
    constructor
    · intro h name cap hmem
      exact h (name, max 0 cap) (List.mem_filterMap.mpr ⟨_, hmem, rfl⟩)
    · intro h cap hmem
      obtain ⟨⟨name, value⟩, hentry, hvalue⟩ := List.mem_filterMap.mp hmem
      obtain ⟨c, rfl, rfl⟩ := Option.map_eq_some_iff.mp hvalue
      exact h name c hentry
  rw [List.forall_mem_append, hbuiltin, hknown]
  exact ⟨fun h => ⟨⟨h.leverage, h.liquidity⟩, h.hard⟩, fun h => ⟨h.1.1, h.1.2, h.2⟩⟩

/-- **The selected notional is the greatest that the risk budget and the caps admit.** -/
theorem le_selected_iff {a : SizingArgs ℚ} {r : Reading} {n : ℚ} :
    n ≤ r.selected a ↔ n ≤ r.raw a ∧ Fits a r n := by
  unfold Reading.selected
  rw [le_smallest_iff, fits_iff]

/-! ## 4. More adverse inputs -/

/-- What is known of `old` is known of `new`, and not greater there. -/
def NoGreater (new old : Option ℚ) : Prop := ∀ x ∈ old, ∃ y ∈ new, y ≤ x

/-- What is known of `old` is known of `new`, and not smaller there. -/
def NoSmaller (new old : Option ℚ) : Prop := ∀ x ∈ old, ∃ y ∈ new, x ≤ y

/-- No evidence of `b` is better than that of `a`, and no limit of `b` is wider. What is unknown in
    `a` may be known in `b`, with any value. -/
structure MoreAdverse (a b : SizingArgs ℚ) : Prop where
  equity : NoGreater b.equity a.equity
  riskPct : NoGreater b.riskPctPerTrade a.riskPctPerTrade
  distance : ∀ px ∈ a.entry, ∀ sl ∈ a.stop, ∃ px' ∈ b.entry, ∃ sl' ∈ b.stop,
    |px - sl| / px ≤ |px' - sl'| / px'
  drawdown : NoSmaller b.rollingDrawdownPct a.rollingDrawdownPct
  maxDrawdown : NoGreater b.maxRollingDrawdownPct a.maxRollingDrawdownPct
  slippage : NoSmaller b.expectedSlippagePct a.expectedSlippagePct
  maxSlippage : NoGreater b.maxExpectedSlippagePct a.maxExpectedSlippagePct
  volatility : NoSmaller b.volatilityPenaltyPct a.volatilityPenaltyPct
  maxVolatility : NoGreater b.maxVolatilityPenaltyPct a.maxVolatilityPenaltyPct
  depth : NoGreater b.liquidityDepthUsdt a.liquidityDepthUsdt
  participation : NoGreater b.maxLiquidityParticipationPct a.maxLiquidityParticipationPct
  leverage : NoGreater b.maxLeverage a.maxLeverage
  minimum : NoSmaller b.minNotional a.minNotional
  hard : ∀ name cap, (name, some cap) ∈ a.hardNotionalCaps.entries →
    ∃ cap', (name, some cap') ∈ b.hardNotionalCaps.entries ∧ cap' ≤ cap

theorem noGreater_some {new old : Option ℚ} {x y : ℚ} (h : NoGreater new old) (hold : old = some x)
    (hnew : new = some y) : y ≤ x := by
  obtain ⟨z, hz, hle⟩ := h x hold
  rw [hnew] at hz
  exact Option.some.inj hz ▸ hle

theorem noSmaller_some {new old : Option ℚ} {x y : ℚ} (h : NoSmaller new old) (hold : old = some x)
    (hnew : new = some y) : x ≤ y := by
  obtain ⟨z, hz, hle⟩ := h x hold
  rw [hnew] at hz
  exact Option.some.inj hz ▸ hle

theorem cut_le_one (x : ℚ) : max 0 (min 1 x) ≤ 1 := max_le zero_le_one (min_le_left _ _)

theorem cut_mono {x y : ℚ} (h : x ≤ y) : max 0 (min 1 x) ≤ max 0 (min 1 y) :=
  max_le_max le_rfl (min_le_min le_rfl h)

theorem drawdownMultiplier_le_one (dd : ℚ) (limit : Option ℚ) :
    drawdownMultiplier dd limit ≤ 1 := by
  unfold drawdownMultiplier
  cases limit with
  | none => exact le_of_eq sizing_one
  | some m =>
    dsimp only
    split
    · rw [cutToUnit_rat]
      exact cut_le_one _
    · exact le_of_eq sizing_one

/-- A limit that does not reach zero cuts more when it is tightened. -/
theorem drawdownMultiplier_anti {dd dd' : ℚ} {limit limit' : Option ℚ} (hdd : dd ≤ dd')
    (hnonneg : 0 ≤ dd) (hlimit : NoGreater limit' limit)
    (hkept : ∀ m ∈ limit, 0 < m → ∀ m' ∈ limit', 0 < m') :
    drawdownMultiplier dd' limit' ≤ drawdownMultiplier dd limit := by
  cases limit with
  | none => exact (drawdownMultiplier_le_one dd' limit').trans (le_of_eq sizing_one.symm)
  | some m =>
    obtain ⟨m', hm', hle⟩ := hlimit m rfl
    rw [Option.mem_def] at hm'
    subst hm'
    rcases le_or_gt m 0 with hoff | hpos
    · have hone : drawdownMultiplier dd (some m) = 1 := by
        unfold drawdownMultiplier
        dsimp only
        rw [sizing_zero, if_neg (not_lt.mpr hoff), sizing_one]
      rw [hone]
      exact drawdownMultiplier_le_one dd' (some m')
    · have hpos' : 0 < m' := hkept m rfl hpos m' rfl
      unfold drawdownMultiplier
      dsimp only
      rw [sizing_zero, sizing_one, if_pos hpos', if_pos hpos, cutToUnit_rat, cutToUnit_rat]
      have hquot : dd / m ≤ dd' / m' := div_le_div₀ (hnonneg.trans hdd) hdd hpos' hle
      exact cut_mono (by linarith)

theorem volatilityMultiplier_ok {penalty limit : Option ℚ} {v : ℚ}
    (h : volatilityMultiplier penalty limit = .ok v) :
    0 ≤ v ∧ v ≤ 1 ∧ ∀ p ∈ penalty, ∀ m ∈ limit,
      (m ≤ 0 → p ≤ 0 ∧ v = 1) ∧ (0 < m → p ≤ m ∧ v = max 0 (min 1 (1 - p / m))) := by
  unfold volatilityMultiplier at h
  rw [sizing_zero, sizing_one] at h
  rcases penalty with _ | p
  · cases Except.ok.inj h
    exact ⟨zero_le_one, le_rfl, fun _ hp => by cases hp⟩
  rcases limit with _ | m
  · cases Except.ok.inj h
    exact ⟨zero_le_one, le_rfl, fun _ _ _ hm => by cases hm⟩
  dsimp only at h
  rcases le_or_gt m 0 with hoff | hpos
  · rw [if_pos hoff] at h
    split at h
    · cases h
    · rename_i hp
      cases Except.ok.inj h
      refine ⟨zero_le_one, le_rfl, ?_⟩
      rintro _ ⟨⟩ _ ⟨⟩
      exact ⟨fun _ => ⟨not_lt.mp hp, rfl⟩, fun h => absurd h (not_lt.mpr hoff)⟩
  · rw [if_neg (not_le.mpr hpos)] at h
    split at h
    · cases h
    · rename_i hp
      rw [cutToUnit_rat] at h
      cases Except.ok.inj h
      refine ⟨le_max_left _ _, cut_le_one _, ?_⟩
      rintro _ ⟨⟩ _ ⟨⟩
      exact ⟨fun h => absurd h (not_le.mpr hpos), fun _ => ⟨not_lt.mp hp, rfl⟩⟩

/-- The volatility limit that reaches zero refuses every penalty, so its multiplier stays
    monotone. -/
theorem volatilityMultiplier_anti {penalty penalty' limit limit' : Option ℚ} {v v' : ℚ}
    (hpenalty : NoSmaller penalty' penalty) (hlimit : NoGreater limit' limit)
    (h : volatilityMultiplier penalty limit = .ok v)
    (h' : volatilityMultiplier penalty' limit' = .ok v') : v' ≤ v := by
  obtain ⟨-, hle', hknown'⟩ := volatilityMultiplier_ok h'
  cases penalty with
  | none => exact hle'.trans (le_of_eq (sizing_one.symm.trans (Except.ok.inj h)))
  | some p =>
    cases limit with
    | none => exact hle'.trans (le_of_eq (sizing_one.symm.trans (Except.ok.inj h)))
    | some m =>
      obtain ⟨p', hp', hple⟩ := hpenalty p rfl
      obtain ⟨m', hm', hmle⟩ := hlimit m rfl
      obtain ⟨-, -, hknown⟩ := volatilityMultiplier_ok h
      obtain ⟨hoff, hpos⟩ := hknown p rfl m rfl
      rcases le_or_gt m 0 with hm | hm
      · exact hle'.trans (le_of_eq (hoff hm).2.symm)
      · rw [(hpos hm).2]
        obtain ⟨hoff', hpos'⟩ := hknown' p' hp' m' hm'
        rcases le_or_gt p 0 with hp | hp
        · -- without a penalty nothing is cut
          have hquot : p / m ≤ 0 := div_nonpos_of_nonpos_of_nonneg hp hm.le
          rw [min_eq_left (by linarith), max_eq_right zero_le_one]
          exact hle'
        · have hm' : 0 < m' := not_le.mp fun hoffm =>
            absurd (hp.trans_le hple) (not_lt.mpr (hoff' hoffm).1)
          rw [(hpos' hm').2]
          have hquot : p / m ≤ p' / m' := div_le_div₀ (hp.le.trans hple) hple hm' hmle
          exact cut_mono (by linarith)

section Selected

variable {a b : SizingArgs ℚ} {r r' : Reading}

theorem fits_mono (h : MoreAdverse a b) (ha : Reads a r) (hb : Reads b r') {n : ℚ}
    (hfits : Fits b r' n) : Fits a r n := by
  have hequity := noGreater_some h.equity ha.equity hb.equity
  have hleverage := noGreater_some h.leverage ha.leverage hb.leverage
  have hparticipation := noGreater_some h.participation ha.participation hb.participation
  refine ⟨?_, fun depth hdepth => ?_, fun name cap hcap => ?_⟩
  · exact hfits.leverage.trans (mul_le_mul hequity hleverage hb.leverage_pos.le ha.equity_pos.le)
  · obtain ⟨depth', hdepth', hle⟩ := h.depth depth hdepth
    refine (hfits.liquidity depth' hdepth').trans (max_le (le_max_left _ _) ?_)
    rcases le_or_gt depth' 0 with hneg | hpos
    · exact (mul_nonpos_of_nonpos_of_nonneg hneg hb.participation_nonneg).trans (le_max_left _ _)
    · exact (mul_le_mul hle hparticipation hb.participation_nonneg (hpos.le.trans hle)).trans
        (le_max_right _ _)
  · obtain ⟨cap', hcap', hle⟩ := h.hard name cap hcap
    exact (hfits.hard name cap' hcap').trans (max_le_max le_rfl hle)

theorem budget_nonneg (ha : Reads a r) : 0 ≤ r.budget a := by
  obtain ⟨hvol, -⟩ := volatilityMultiplier_ok ha.volatility
  exact mul_nonneg (mul_nonneg (mul_nonneg ha.equity_pos.le ha.riskPct_pos.le)
    ha.drawdown_left.le) hvol

/-- Neither multiplier is above one. -/
theorem budget_le (ha : Reads a r) : r.budget a ≤ r.equity * r.riskPct := by
  obtain ⟨-, hvol, -⟩ := volatilityMultiplier_ok ha.volatility
  have hdd := drawdownMultiplier_le_one r.drawdown a.maxRollingDrawdownPct
  have hrisk : 0 ≤ r.equity * r.riskPct := mul_nonneg ha.equity_pos.le ha.riskPct_pos.le
  calc r.budget a
      ≤ r.equity * r.riskPct * drawdownMultiplier r.drawdown a.maxRollingDrawdownPct :=
        mul_le_of_le_one_right (mul_nonneg hrisk ha.drawdown_left.le) hvol
    _ ≤ r.equity * r.riskPct := mul_le_of_le_one_right hrisk hdd

theorem raw_mono (h : MoreAdverse a b) (ha : Reads a r) (hb : Reads b r')
    (hdd : drawdownMultiplier r'.drawdown b.maxRollingDrawdownPct ≤
      drawdownMultiplier r.drawdown a.maxRollingDrawdownPct) : r'.raw b ≤ r.raw a := by
  have hequity := noGreater_some h.equity ha.equity hb.equity
  have hrisk := noGreater_some h.riskPct ha.riskPct hb.riskPct
  have hvol := volatilityMultiplier_anti h.volatility h.maxVolatility ha.volatility hb.volatility
  have hvol' := (volatilityMultiplier_ok hb.volatility).1
  have hdistance : r.distance ≤ r'.distance := by
    obtain ⟨px, hpx, sl, hsl, hle⟩ := h.distance _ ha.entry _ ha.stop
    rw [hb.entry, Option.mem_some_iff] at hpx
    rw [hb.stop, Option.mem_some_iff] at hsl
    subst hpx hsl
    exact hle
  have hbudget : r'.budget b ≤ r.budget a := by
    have hproduct : r'.equity * r'.riskPct ≤ r.equity * r.riskPct :=
      mul_le_mul hequity hrisk hb.riskPct_pos.le ha.equity_pos.le
    have hnonneg : 0 ≤ r.equity * r.riskPct := mul_nonneg ha.equity_pos.le ha.riskPct_pos.le
    have hcut := mul_le_mul hproduct hdd hb.drawdown_left.le hnonneg
    exact mul_le_mul hcut hvol hvol' (mul_nonneg hnonneg ha.drawdown_left.le)
  exact div_le_div₀ (budget_nonneg ha) hbudget ha.distance_pos hdistance

/-- A cap the arguments state. -/
inductive Limit (a : SizingArgs ℚ) : ℚ → Prop where
  | leverage {equity leverage : ℚ} (he : a.equity = some equity)
      (hl : a.maxLeverage = some leverage) :
      Limit a (equity * leverage)
  | liquidity {depth participation : ℚ} (hd : a.liquidityDepthUsdt = some depth)
      (hp : a.maxLiquidityParticipationPct = some participation) : Limit a (depth * participation)
  | hard {name : String} {cap : ℚ} (h : (name, some cap) ∈ a.hardNotionalCaps.entries) : Limit a cap

theorem le_of_le_max {n cap : ℚ} (hpos : 0 < n) (h : n ≤ max 0 cap) : n ≤ cap :=
  (le_max_iff.mp h).resolve_left (not_le.mpr hpos)

/-- A positive notional that fits is below every cap. -/
theorem le_limit (ha : Reads a r) {n cap : ℚ} (hpos : 0 < n) (hfits : Fits a r n)
    (hcap : Limit a cap) : n ≤ cap := by
  cases hcap with
  | leverage he hl =>
    rw [ha.equity, Option.some.injEq] at he
    rw [ha.leverage, Option.some.injEq] at hl
    exact he ▸ hl ▸ hfits.leverage
  | liquidity hd hp =>
    rw [ha.participation, Option.some.injEq] at hp
    exact hp ▸ le_of_le_max hpos (hfits.liquidity _ hd)
  | hard h => exact le_of_le_max hpos (hfits.hard _ _ h)

/-- Every cap of the code is at least one the arguments state. -/
theorem limit_of_mem (ha : Reads a r) {cap : String × ℚ} (hcap : cap ∈ r.caps a) :
    ∃ c, Limit a c ∧ c ≤ cap.2 := by
  unfold Reading.caps at hcap
  rcases List.mem_append.mp hcap with hown | hknown
  · unfold builtinCaps at hown
    rcases List.mem_cons.mp hown with rfl | hliquidity
    · exact ⟨_, .leverage ha.equity ha.leverage, le_rfl⟩
    · cases hdepth : a.liquidityDepthUsdt with
      | none =>
        rw [hdepth] at hliquidity
        exact absurd hliquidity List.not_mem_nil
      | some d =>
        rw [hdepth] at hliquidity
        obtain rfl := List.mem_singleton.mp hliquidity
        refine ⟨_, .liquidity hdepth ha.participation, ?_⟩
        rw [larger_eq]
        exact le_max_right _ _
  · obtain ⟨⟨name, value⟩, hentry, hvalue⟩ := List.mem_filterMap.mp hknown
    obtain ⟨c, rfl, rfl⟩ := Option.map_eq_some_iff.mp hvalue
    exact ⟨c, .hard hentry, le_max_right _ _⟩

theorem lt_smallest {n raw : ℚ} {caps : List (String × ℚ)} (hraw : n < raw)
    (hcaps : ∀ cap ∈ caps, n < cap.2) : n < smallest raw caps := by
  unfold smallest
  induction caps generalizing raw with
  | nil => exact hraw
  | cons cap rest ih =>
    rw [List.forall_mem_cons] at hcaps
    refine ih ?_ hcaps.2
    show n < pyMin raw cap.2
    rw [smaller_eq]
    exact lt_min hraw hcaps.1

end Selected

/-! ## 5. The risk budget -/

/-- What is asked of a COMPLETE result `e`: the notional is positive, below every cap, loses no more
    than the risk budget at the stop, and does not grow with more adverse inputs. -/
structure BudgetKept (upper : String → String) (a : SizingArgs ℚ) (e : Sized ℚ) : Prop where
  positive : 0 < e.selectedNotional
  capped : ∀ cap, Limit a cap → e.selectedNotional ≤ cap
  loss : ∀ equity ∈ a.equity, ∀ pct ∈ a.riskPctPerTrade, ∀ px ∈ a.entry, ∀ sl ∈ a.stop,
    e.selectedNotional * (|px - sl| / px) ≤ equity * pct
  antitone : ∀ b e', MoreAdverse a b → OwnNames b → riskBasedCandidateExposure upper b = .ok e' →
    e'.selectedNotional ≤ e.selectedNotional

/-- No drawdown, or no positive limit to measure it by. -/
def Uncut (a : SizingArgs ℚ) : Prop :=
  ∀ dd ∈ a.rollingDrawdownPct, ∀ limit ∈ a.maxRollingDrawdownPct, 0 < limit → dd ≤ 0

/-- A cap loses no more at the stop than the risk budget that both multipliers have cut. -/
def CapBinds (a : SizingArgs ℚ) : Prop :=
  ∃ cap, Limit a cap ∧ ∀ equity ∈ a.equity, ∀ pct ∈ a.riskPctPerTrade, ∀ px ∈ a.entry,
    ∀ sl ∈ a.stop, ∀ dd ∈ a.rollingDrawdownPct, ∀ limit ∈ a.maxRollingDrawdownPct, ∀ v,
      volatilityMultiplier a.volatilityPenaltyPct a.maxVolatilityPenaltyPct = .ok v →
        cap * (|px - sl| / px) ≤ equity * pct * (1 - dd / limit) * v

/-- The multiplier of a drawdown within its limit. -/
theorem drawdownMultiplier_cut {dd limit : ℚ} (hdd : 0 ≤ dd) (hlimit : 0 < limit)
    (hleft : 0 < drawdownMultiplier dd (some limit)) :
    drawdownMultiplier dd (some limit) = 1 - dd / limit := by
  unfold drawdownMultiplier at hleft ⊢
  dsimp only at hleft ⊢
  rw [sizing_zero, sizing_one, if_pos hlimit, cutToUnit_rat] at hleft ⊢
  have hquot : 0 ≤ dd / limit := div_nonneg hdd hlimit.le
  rw [min_eq_right (by linarith)] at hleft ⊢
  have hpos : 0 < 1 - dd / limit := (lt_max_iff.mp hleft).resolve_left (lt_irrefl 0)
  exact max_eq_right hpos.le

/-- The same arguments with a drawdown limit of zero. -/
def withoutLimit (a : SizingArgs ℚ) : SizingArgs ℚ := { a with maxRollingDrawdownPct := some 0 }

theorem moreAdverse_withoutLimit {a : SizingArgs ℚ} (h : ∀ m ∈ a.maxRollingDrawdownPct, 0 < m) :
    MoreAdverse a (withoutLimit a) where
  equity x hx := ⟨x, hx, le_rfl⟩
  riskPct x hx := ⟨x, hx, le_rfl⟩
  distance px hpx sl hsl := ⟨px, hpx, sl, hsl, le_rfl⟩
  drawdown x hx := ⟨x, hx, le_rfl⟩
  maxDrawdown m hm := ⟨0, rfl, (h m hm).le⟩
  slippage x hx := ⟨x, hx, le_rfl⟩
  maxSlippage x hx := ⟨x, hx, le_rfl⟩
  volatility x hx := ⟨x, hx, le_rfl⟩
  maxVolatility x hx := ⟨x, hx, le_rfl⟩
  depth x hx := ⟨x, hx, le_rfl⟩
  participation x hx := ⟨x, hx, le_rfl⟩
  leverage x hx := ⟨x, hx, le_rfl⟩
  minimum x hx := ⟨x, hx, le_rfl⟩
  hard _ cap hcap := ⟨cap, hcap, le_rfl⟩

theorem drawdownMultiplier_zero (dd : ℚ) : drawdownMultiplier dd (some 0) = 1 := by
  unfold drawdownMultiplier
  dsimp only
  rw [sizing_zero, if_neg (lt_irrefl 0), sizing_one]

/-- Without its limit the drawdown cuts nothing: where it did cut and no cap binds, more is
    selected. -/
theorem selected_withoutLimit {a : SizingArgs ℚ} {r : Reading} (ha : Reads a r)
    (hcut : drawdownMultiplier r.drawdown a.maxRollingDrawdownPct < 1)
    (hfree : ∀ cap, Limit a cap → r.raw a < cap) :
    Reads (withoutLimit a) r ∧ r.selected a < r.selected (withoutLimit a) := by
  have hraw : r.selected a ≤ r.raw a := (le_selected_iff.mp le_rfl).1
  have hraw_pos : 0 < r.raw a := ha.selected_pos.trans_le hraw
  have hbudget : 0 < r.budget a := (div_pos_iff_of_pos_right ha.distance_pos).mp hraw_pos
  have hmore : r.raw a < r.raw (withoutLimit a) := by
    refine div_lt_div_of_pos_right ?_ ha.distance_pos
    show r.budget a <
      r.equity * r.riskPct * drawdownMultiplier r.drawdown (some 0) * r.volatility
    rw [drawdownMultiplier_zero]
    have hrisk : 0 < r.equity * r.riskPct := mul_pos ha.equity_pos ha.riskPct_pos
    have hvol : 0 < r.volatility :=
      (pos_iff_pos_of_mul_pos hbudget).mp (mul_pos hrisk ha.drawdown_left)
    exact mul_lt_mul_of_pos_right (mul_lt_mul_of_pos_left hcut hrisk) hvol
  have hcaps : ∀ cap ∈ r.caps a, r.raw a < cap.2 := by
    intro cap hcap
    obtain ⟨c, hc, hle⟩ := limit_of_mem ha hcap
    exact (hfree c hc).trans_le hle
  have hselected : r.selected a < r.selected (withoutLimit a) :=
    hraw.trans_lt (lt_smallest hmore hcaps)
  refine ⟨?_, hselected⟩
  exact { ha with
    drawdown_left := (drawdownMultiplier_zero r.drawdown).symm ▸ one_pos
    selected_pos := ha.selected_pos.trans hselected
    minimum_le := ha.minimum_le.trans hselected.le }

/-- A cap within the cut budget bounds the raw notional from below. -/
theorem le_raw_of_binds {a : SizingArgs ℚ} {r : Reading} (ha : Reads a r) {limit cap : ℚ}
    (hlimit : a.maxRollingDrawdownPct = some limit) (hpos : 0 < limit) :
    cap ≤ r.raw a ↔ cap * (|r.entry - r.stop| / r.entry) ≤
      r.equity * r.riskPct * (1 - r.drawdown / limit) * r.volatility := by
  have hcut : drawdownMultiplier r.drawdown a.maxRollingDrawdownPct = 1 - r.drawdown / limit := by
    have hleft := ha.drawdown_left
    rw [hlimit] at hleft ⊢
    exact drawdownMultiplier_cut ha.drawdown_nonneg hpos hleft
  unfold Reading.raw Reading.budget
  rw [le_div_iff₀ ha.distance_pos, hcut]
  rfl

/-- **Where the selected notional keeps the caps, the risk budget and the order of the inputs**:
    where the drawdown cuts nothing, or a cap binds anyway. -/
theorem budget_kept_iff (upper : String → String) {a : SizingArgs ℚ} (hnames : OwnNames a)
    {e : Sized ℚ} (h : riskBasedCandidateExposure upper a = .ok e) :
    BudgetKept upper a e ↔ Uncut a ∨ CapBinds a := by
  obtain ⟨r, ha, rfl⟩ := exposure_ok hnames h
  obtain ⟨hraw, hfits⟩ := le_selected_iff.mp (le_refl (r.selected a))
  constructor
  · intro hkept
    by_contra hnot
    rw [not_or] at hnot
    obtain ⟨hcut, hbinds⟩ := hnot
    unfold Uncut at hcut
    push Not at hcut
    obtain ⟨dd, hdd, limit, hlimit, hpos, hddpos⟩ := hcut
    rw [ha.drawdown, Option.mem_some_iff] at hdd
    subst hdd
    rw [Option.mem_def] at hlimit
    have hless : drawdownMultiplier r.drawdown a.maxRollingDrawdownPct < 1 := by
      have hleft := ha.drawdown_left
      rw [hlimit] at hleft ⊢
      rw [drawdownMultiplier_cut ha.drawdown_nonneg hpos hleft]
      have hquot : 0 < r.drawdown / limit := div_pos hddpos hpos
      linarith
    have hfree : ∀ cap, Limit a cap → r.raw a < cap := by
      intro cap hcap
      by_contra hle
      refine hbinds ⟨cap, hcap, fun _ heq _ hpct _ hpx _ hsl _ hdd _ hlim _ hv => ?_⟩
      rw [ha.equity, Option.mem_some_iff] at heq
      rw [ha.riskPct, Option.mem_some_iff] at hpct
      rw [ha.entry, Option.mem_some_iff] at hpx
      rw [ha.stop, Option.mem_some_iff] at hsl
      rw [ha.drawdown, Option.mem_some_iff] at hdd
      rw [hlimit, Option.mem_some_iff] at hlim
      rw [ha.volatility, Except.ok.injEq] at hv
      subst heq hpct hpx hsl hdd hlim hv
      exact (le_raw_of_binds ha hlimit hpos).mp (not_lt.mp hle)
    obtain ⟨hb, hmore⟩ := selected_withoutLimit ha hless hfree
    have hpositive : ∀ m ∈ a.maxRollingDrawdownPct, 0 < m := by
      intro m hm
      rw [hlimit, Option.mem_some_iff] at hm
      exact hm ▸ hpos
    have hle := hkept.antitone (withoutLimit a) _ (moreAdverse_withoutLimit hpositive) hnames
      (exposure_of_reads (a := withoutLimit a) upper hnames hb)
    exact absurd hmore (not_lt.mpr hle)
  · intro hcases
    refine ⟨ha.selected_pos, fun cap hcap => le_limit ha ha.selected_pos hfits hcap, ?_, ?_⟩
    · intro equity hequity pct hpct px hpx sl hsl
      rw [ha.equity, Option.mem_some_iff] at hequity
      rw [ha.riskPct, Option.mem_some_iff] at hpct
      rw [ha.entry, Option.mem_some_iff] at hpx
      rw [ha.stop, Option.mem_some_iff] at hsl
      subst hequity hpct hpx hsl
      calc r.selected a * r.distance ≤ r.budget a := (le_div_iff₀ ha.distance_pos).mp hraw
        _ ≤ r.equity * r.riskPct := budget_le ha
    · intro b e' hadverse hnames' h'
      obtain ⟨r', hb, rfl⟩ := exposure_ok hnames' h'
      obtain ⟨hraw', hfits'⟩ := le_selected_iff.mp (le_refl (r'.selected b))
      have hfit := fits_mono hadverse ha hb hfits'
      refine le_selected_iff.mpr ⟨?_, hfit⟩
      by_cases hkept : ∀ m ∈ a.maxRollingDrawdownPct, 0 < m →
          ∀ m' ∈ b.maxRollingDrawdownPct, 0 < m'
      · -- the limit is still positive, and both multipliers have shrunk
        have hdd := noSmaller_some hadverse.drawdown ha.drawdown hb.drawdown
        exact hraw'.trans (raw_mono hadverse ha hb
          (drawdownMultiplier_anti hdd ha.drawdown_nonneg hadverse.maxDrawdown hkept))
      · push Not at hkept
        obtain ⟨limit, hlimit, hpos, -⟩ := hkept
        rw [Option.mem_def] at hlimit
        rcases hcases with huncut | ⟨cap, hcap, hbinds⟩
        · have hdd : r.drawdown = 0 :=
            le_antisymm (huncut _ ha.drawdown limit hlimit hpos) ha.drawdown_nonneg
          have hone : drawdownMultiplier r.drawdown a.maxRollingDrawdownPct = 1 := by
            have hleft := ha.drawdown_left
            rw [hlimit] at hleft ⊢
            rw [drawdownMultiplier_cut ha.drawdown_nonneg hpos hleft, hdd, zero_div, sub_zero]
          refine hraw'.trans (raw_mono hadverse ha hb ?_)
          rw [hone]
          exact drawdownMultiplier_le_one _ _
        · have hle : cap ≤ r.raw a := (le_raw_of_binds ha hlimit hpos).mpr
            (hbinds _ ha.equity _ ha.riskPct _ ha.entry _ ha.stop _ ha.drawdown _ hlimit _
              ha.volatility)
          exact (le_limit ha hb.selected_pos hfit hcap).trans hle

/-! ## 6. A limit of zero -/

/-- Half of the drawdown limit is used up, and no cap binds. -/
def halfDrawn : SizingArgs ℚ where
  equity := some 10000
  entry := some 100
  stop := some 95
  riskPctPerTrade := some 0.01
  rollingDrawdownPct := some 0.05
  maxRollingDrawdownPct := some 0.1
  expectedSlippagePct := some 0.001
  maxExpectedSlippagePct := some 0.01
  volatilityPenaltyPct := some 0
  maxVolatilityPenaltyPct := some 0.01
  liquidityDepthUsdt := some 1000000

/-- The notional of a result. -/
def notional? (result : Except (Refusal ℚ) (Sized ℚ)) : Option ℚ :=
  match result with
  | .ok e => some e.selectedNotional
  | .error _ => none

theorem ownNames_empty {a : SizingArgs ℚ} (h : a.hardNotionalCaps.entries = []) : OwnNames a := by
  intro name hname
  unfold Dictionary.keys at hname
  rw [h] at hname
  exact absurd hname List.not_mem_nil

theorem notional_eq_some {result : Except (Refusal ℚ) (Sized ℚ)} {n : ℚ}
    (h : notional? result = some n) : ∃ e, result = .ok e ∧ e.selectedNotional = n := by
  cases result with
  | error _ => cases h
  | ok e => exact ⟨e, rfl, Option.some.inj h⟩

/-- Without a drawdown the budget is kept. -/
theorem budget_kept_undrawn :
    ∃ e, riskBasedCandidateExposure id { halfDrawn with rollingDrawdownPct := some 0 } = .ok e ∧
      e.selectedNotional = 2000 ∧
      BudgetKept id { halfDrawn with rollingDrawdownPct := some 0 } e := by
  have hrun : notional? (riskBasedCandidateExposure id
      { halfDrawn with rollingDrawdownPct := some 0 }) = some 2000 := by
    decide +kernel
  obtain ⟨e, he, hn⟩ := notional_eq_some hrun
  refine ⟨e, he, hn, (budget_kept_iff id (ownNames_empty rfl) he).mpr (.inl ?_)⟩
  intro dd hdd _ _ _
  exact (Option.some.inj hdd).symm.le

/-- **Half of a drawdown limit of ten per cent selects 1000; the tighter limit of zero selects
    2000.** -/
theorem switched_off :
    MoreAdverse halfDrawn (withoutLimit halfDrawn) ∧
      notional? (riskBasedCandidateExposure id halfDrawn) = some 1000 ∧
      notional? (riskBasedCandidateExposure id (withoutLimit halfDrawn)) = some 2000 ∧
      ∃ e, riskBasedCandidateExposure id halfDrawn = .ok e ∧ ¬ BudgetKept id halfDrawn e := by
  have hadverse : MoreAdverse halfDrawn (withoutLimit halfDrawn) := by
    refine moreAdverse_withoutLimit fun m hm => ?_
    rw [← Option.some.inj hm]
    decide +kernel
  have hdrawn : notional? (riskBasedCandidateExposure id halfDrawn) = some 1000 := by
    decide +kernel
  have hzero : notional? (riskBasedCandidateExposure id (withoutLimit halfDrawn)) = some 2000 := by
    decide +kernel
  obtain ⟨e, he, hn⟩ := notional_eq_some hdrawn
  obtain ⟨e', he', hn'⟩ := notional_eq_some hzero
  refine ⟨hadverse, hdrawn, hzero, e, he, fun hkept => ?_⟩
  have hle := hkept.antitone (withoutLimit halfDrawn) e' hadverse (ownNames_empty rfl) he'
  rw [hn, hn'] at hle
  exact absurd hle (by decide +kernel)

end AlphaForge.Portfolio
