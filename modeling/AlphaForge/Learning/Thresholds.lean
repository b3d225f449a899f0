/-
  File:      AlphaForge/Learning/Thresholds.lean
  Subject:   The two adaptive gates: `compute_shadow_thresholds` of `adaptive_learning.py` and
             `compute_adaptive_thresholds` of `order.py`, and what bad performance does to them.

  A score, an effective reward-risk or a liquidity is strict when it is large, a spread or a
  slippage when it is small. The shadow gate takes a negative expectancy as a reason to lower the
  score, where it raises the reward-risk, and it cuts every score at 1, whatever scale the base is
  on.

  * `computeShadowThresholds`, `computeAdaptiveThresholds` -- the two functions.
  * `Stricter` -- a gate at least as strict as another one.
  * `adaptive_mono` -- a longer loss streak or a shorter win streak never lowers a threshold, on
    either scale.
  * **`never_rewards_iff`** -- where the shadow gate never rewards bad performance.
  * `lowered_score` -- a negative expectancy lowers the score although loosening is not allowed.
-/
import AlphaForge.Lib.Numbers

namespace AlphaForge.Learning

open AlphaForge.Lib

section Code

variable {F : Type} [FloatNum F]

/-! ## 1. The shadow gate -/

/-- The thresholds of a gate. -/
structure Gate (F : Type) where
  minScore : F
  minEffectiveRr : F
  maxSpreadPct : F
  maxExpectedSlippagePct : F
  minLiquidityScore : F
  deriving DecidableEq

/-- The statistics of a scope, as a row of `adaptive_stats` has them. -/
structure ScopeStats (F : Type) where
  sampleSize : Option ℤ
  expectancy : Option F
  avgSpreadPct : Option F
  confidence : Option F

/-- The settings of the shadow gate; `none` is an absent key. -/
structure ShadowConfig (F : Type) where
  adaptiveMinSampleSize : Option ℤ := none
  adaptiveMaxScoreAdjustment : Option F := none
  adaptiveMaxEffectiveRrAdjustment : Option F := none
  adaptiveAllowLooseningGates : Option Bool := none

def ShadowConfig.minSamples (config : ShadowConfig F) : ℤ := config.adaptiveMinSampleSize.getD 50

def ShadowConfig.maxScoreAdj (config : ShadowConfig F) : F :=
  config.adaptiveMaxScoreAdjustment.getD 0.05

def ShadowConfig.maxRrAdj (config : ShadowConfig F) : F :=
  config.adaptiveMaxEffectiveRrAdjustment.getD 0.15

def ShadowConfig.allowLoosen (config : ShadowConfig F) : Bool :=
  config.adaptiveAllowLooseningGates.getD false

/-- `float(value or default)`. -/
def numberOr (value : Option F) (default : F) : F :=
  match value with
  | some x => if FloatNum.feq x (FloatNum.ofInt 0) then default else x
  | none => default

/-- A gate with where it comes from. -/
structure Thresholds (F : Type) extends Gate F where
  source : String
  reason : String

/-- `not stats or int(stats.get("sample_size") or 0) < min_samples`. -/
def insufficient (stats : Option (ScopeStats F)) (config : ShadowConfig F) : Bool :=
  match stats with
  | none => true
  | some s => decide (s.sampleSize.getD 0 < config.minSamples)

/-- `score_adj`. -/
def scoreAdj (config : ShadowConfig F) (expectancy : F) : F :=
  if expectancy < FloatNum.ofInt 0 then -config.maxScoreAdj
  else if config.allowLoosen then config.maxScoreAdj else FloatNum.ofInt 0

/-- `rr_adj`. -/
def rrAdj (config : ShadowConfig F) (expectancy : F) : F :=
  if expectancy < FloatNum.ofInt 0 then config.maxRrAdj
  else if config.allowLoosen then -config.maxRrAdj else FloatNum.ofInt 0

/-- `compute_shadow_thresholds`. -/
def computeShadowThresholds (base : Gate F) (stats : Option (ScopeStats F))
    (config : ShadowConfig F) : Thresholds F :=
  match stats, insufficient stats config with
  | some s, false =>
    let expectancy := numberOr s.expectancy (FloatNum.ofInt 0)
    { minScore := pyMax (FloatNum.ofInt 0)
        (pyMin (FloatNum.ofInt 1) (base.minScore + scoreAdj config expectancy))
      minEffectiveRr := pyMax (FloatNum.ofInt 0) (base.minEffectiveRr + rrAdj config expectancy)
      maxSpreadPct := pyMin base.maxSpreadPct (numberOr s.avgSpreadPct base.maxSpreadPct)
      maxExpectedSlippagePct := base.maxExpectedSlippagePct
      minLiquidityScore :=
        pyMax base.minLiquidityScore (numberOr s.confidence base.minLiquidityScore)
      source := "SHADOW_ADAPTIVE"
      reason := "EXPECTANCY_" ++ (if expectancy < FloatNum.ofInt 0 then "NEGATIVE"
        else "POSITIVE") ++
        "_SAMPLES_" ++ toString (s.sampleSize.getD 0) }
  | _, _ => { base with source := "STATIC", reason := "INSUFFICIENT_SAMPLE_SIZE" }

/-! ## 2. The gate of the streaks -/

/-- The two settings `compute_adaptive_thresholds` reads; `none` is an absent key. -/
structure StreakConfig (F : Type) where
  minTradeScore : Option F := none
  minRr : Option F := none

/-- The streaks; a missing one counts as none. -/
structure Streaks where
  consecutiveSlCount : Option ℤ := none
  consecutiveTpCount : Option ℤ := none

def Streaks.losses (s : Streaks) : ℤ := s.consecutiveSlCount.getD 0

def Streaks.wins (s : Streaks) : ℤ := s.consecutiveTpCount.getD 0

/-- What a loss streak does to a threshold. -/
def afterLosses (losses : ℤ) (five three x : F) : F :=
  if 5 ≤ losses then x + five else if 3 ≤ losses then x + three else x

/-- What a win streak does to a threshold. -/
def afterWins (wins : ℤ) (five three x : F) : F :=
  if 5 ≤ wins then x - five else if 3 ≤ wins then x - three else x

/-- The bounds of the score, on the scale up to 1 and on the one up to 10. -/
def boundScore (x : F) : F :=
  if x ≤ (1.0 : F) then pyMax (FloatNum.ofInt 0) (pyMin (1.0 : F) x)
  else pyMax (6.0 : F) (pyMin (9.5 : F) x)

/-- The score and the reward-risk of `compute_adaptive_thresholds`. -/
structure StreakThresholds (F : Type) where
  minScore : F
  minRr : F
  deriving DecidableEq

/-- `compute_adaptive_thresholds`. The defaults it fills in from the registry are not read. -/
def computeAdaptiveThresholds (stats : Streaks) (config : StreakConfig F) : StreakThresholds F :=
  let minScore := afterLosses stats.losses (1.5 : F) (1.0 : F) (config.minTradeScore.getD (7.5 : F))
  let minRr := afterLosses stats.losses (0.5 : F) (0.3 : F) (config.minRr.getD (1.3 : F))
  { minScore := boundScore (afterWins stats.wins (1.0 : F) (0.5 : F) minScore)
    minRr := pyMax (1.2 : F)
      (pyMin (3.0 : F) (afterWins stats.wins (0.3 : F) (0.2 : F) minRr)) }

end Code

/-! ## 3. Strictness -/

/-- The gate `g` is at least as strict as `h` in every component. -/
structure Stricter (g h : Gate ℚ) : Prop where
  score : h.minScore ≤ g.minScore
  effectiveRr : h.minEffectiveRr ≤ g.minEffectiveRr
  spread : g.maxSpreadPct ≤ h.maxSpreadPct
  slippage : g.maxExpectedSlippagePct ≤ h.maxExpectedSlippagePct
  liquidity : h.minLiquidityScore ≤ g.minLiquidityScore

theorem stricter_refl (g : Gate ℚ) : Stricter g g := ⟨le_rfl, le_rfl, le_rfl, le_rfl, le_rfl⟩

theorem zero_eq : (FloatNum.ofInt 0 : ℚ) = 0 := Int.cast_zero

theorem one_eq : (FloatNum.ofInt 1 : ℚ) = 1 := Int.cast_one

theorem pyMax_eq (x y : ℚ) : pyMax x y = max x y := by
  unfold pyMax
  split
  · rename_i h
    exact (max_eq_right h.le).symm
  · rename_i h
    exact (max_eq_left (not_lt.mp h)).symm

theorem pyMin_eq (x y : ℚ) : pyMin x y = min x y := by
  unfold pyMin
  split
  · rename_i h
    exact (min_eq_right h.le).symm
  · rename_i h
    exact (min_eq_left (not_lt.mp h)).symm

/-! ## 4. Streaks -/

theorem afterLosses_mono {m n : ℤ} {five three x : ℚ} (h : m ≤ n) (hthree : 0 ≤ three)
    (hfive : three ≤ five) : afterLosses m five three x ≤ afterLosses n five three x := by
  unfold afterLosses
  split_ifs <;> first | omega | linarith

theorem afterWins_anti {m n : ℤ} {five three x y : ℚ} (h : m ≤ n) (hthree : 0 ≤ three)
    (hfive : three ≤ five) (hxy : x ≤ y) : afterWins n five three x ≤ afterWins m five three y := by
  unfold afterWins
  split_ifs <;> first | omega | linarith

/-- The bounds keep the order: below 1 the score stays below 1, above it is at least 6. -/
theorem boundScore_mono {x y : ℚ} (h : x ≤ y) : boundScore x ≤ boundScore y := by
  unfold boundScore
  simp only [pyMax_eq, pyMin_eq, zero_eq]
  split_ifs with hx hy hy
  · exact max_le_max le_rfl (min_le_min le_rfl h)
  · have hlow : max 0 (min (1.0 : ℚ) x) ≤ 1.0 := max_le (by norm_num) (min_le_left _ _)
    have hhigh : (6.0 : ℚ) ≤ max 6.0 (min 9.5 y) := le_max_left _ _
    exact hlow.trans (le_trans (by norm_num) hhigh)
  · exact absurd (h.trans hy) hx
  · exact max_le_max le_rfl (min_le_min le_rfl h)

/-- The streaks of `s` are no better than those of `t`. -/
structure NoBetter (s t : Streaks) : Prop where
  losses : t.losses ≤ s.losses
  wins : s.wins ≤ t.wins

/-- **A longer loss streak and a shorter win streak lower no threshold**, whatever score and
    reward-risk are configured. -/
theorem adaptive_mono {s t : Streaks} (h : NoBetter s t) (config : StreakConfig ℚ) :
    (computeAdaptiveThresholds t config).minScore ≤ (computeAdaptiveThresholds s config).minScore ∧
      (computeAdaptiveThresholds t config).minRr ≤ (computeAdaptiveThresholds s config).minRr := by
  unfold computeAdaptiveThresholds
  dsimp only
  constructor
  · refine boundScore_mono (afterWins_anti h.wins (by norm_num) (by norm_num) ?_)
    exact afterLosses_mono h.losses (by norm_num) (by norm_num)
  · rw [pyMax_eq, pyMax_eq, pyMin_eq, pyMin_eq]
    refine max_le_max le_rfl (min_le_min le_rfl ?_)
    refine afterWins_anti h.wins (by norm_num) (by norm_num) ?_
    exact afterLosses_mono h.losses (by norm_num) (by norm_num)

/-! ## 5. Expectancy -/

/-- Cutting to `[0, 1]` keeps a larger number strictly apart, unless both are cut to the same
    end. -/
theorem cut_le_cut_iff {x y : ℚ} :
    max 0 (min 1 x) ≤ max 0 (min 1 y) ↔ x ≤ y ∨ x ≤ 0 ∨ 1 ≤ y := by
  constructor
  · intro h
    by_contra hnot
    rw [not_or, not_or, not_le, not_le, not_le] at hnot
    obtain ⟨hyx, hx, hy⟩ := hnot
    have hleft : 0 < max 0 (min 1 x) ∧ y < max 0 (min 1 x) := by
      have hmin : 0 < min 1 x := lt_min one_pos hx
      have hmin' : y < min 1 x := lt_min hy hyx
      exact ⟨lt_max_of_lt_right hmin, lt_max_of_lt_right hmin'⟩
    have hright : max 0 (min 1 y) < max 0 (min 1 x) :=
      max_lt hleft.1 (lt_of_le_of_lt (min_le_right _ _) hleft.2)
    exact absurd h (not_le.mpr hright)
  · rintro (h | h | h)
    · exact max_le_max le_rfl (min_le_min le_rfl h)
    · rw [max_eq_left ((min_le_right 1 x).trans h)]
      exact le_max_left _ _
    · rw [min_eq_left h]
      exact max_le (le_max_left _ _) ((min_le_left _ _).trans (le_max_right _ _))

/-- A number is not above its cut exactly if it is not above 1, and what is cut is not below it. -/
theorem le_cut_iff {x y : ℚ} : x ≤ max 0 (min 1 y) ↔ x ≤ 0 ∨ (x ≤ 1 ∧ x ≤ y) := by
  rw [le_max_iff, le_min_iff]

theorem pos_le_pos_iff {x y : ℚ} : max 0 x ≤ max 0 y ↔ x ≤ y ∨ x ≤ 0 := by
  constructor
  · intro h
    rcases le_or_gt x 0 with hx | hx
    · exact .inr hx
    · rw [max_eq_right hx.le, le_max_iff] at h
      exact .inl (h.resolve_left (not_le.mpr hx))
  · rintro (h | h)
    · exact max_le_max le_rfl h
    · rw [max_eq_left h]
      exact le_max_left _ _

variable (base : Gate ℚ) (config : ShadowConfig ℚ) (stats : ScopeStats ℚ)

/-- The expectancy the gate reads. -/
def ScopeStats.expected : ℚ := numberOr stats.expectancy 0

/-- The same statistics with another expectancy. -/
def ScopeStats.withExpectancy (e : ℚ) : ScopeStats ℚ := { stats with expectancy := some e }

/-- What the code is asked for: the gate of the statistics is no looser than the base where
    loosening is not allowed, and no looser than the gate of a higher expectancy `e`; and the
    thresholds of the streaks follow the streaks. -/
structure NeverRewards (e : ℚ) : Prop where
  loosening : config.allowLoosen = false →
    Stricter (computeShadowThresholds base (some stats) config).toGate base
  expectancy : stats.expected < e →
    Stricter (computeShadowThresholds base (some stats) config).toGate
      (computeShadowThresholds base (some (stats.withExpectancy e)) config).toGate
  streaks : ∀ (streakConfig : StreakConfig ℚ) (s t : Streaks), NoBetter s t →
    (computeAdaptiveThresholds t streakConfig).minScore ≤
        (computeAdaptiveThresholds s streakConfig).minScore ∧
      (computeAdaptiveThresholds t streakConfig).minRr ≤
        (computeAdaptiveThresholds s streakConfig).minRr

/-- What a positive expectancy may take off a threshold. -/
def ShadowConfig.loosened (config : ShadowConfig ℚ) (adjustment : ℚ) : ℚ :=
  if config.allowLoosen then adjustment else 0

/-- The conditions on the base and the settings under which it does: the sample is too small; or
    loosening is allowed or the base score is on the scale up to 1, with an expectancy that is not
    negative or adjustments that do not loosen; and where the two expectancies have different signs,
    the adjustments do not loosen or are cut off on both sides. -/
structure Tightens (e : ℚ) : Prop where
  score : config.allowLoosen = false → base.minScore ≤ 0 ∨
    (base.minScore ≤ 1 ∧ (0 ≤ stats.expected ∨ config.maxScoreAdj ≤ 0))
  effectiveRr : config.allowLoosen = false →
    base.minEffectiveRr ≤ 0 ∨ 0 ≤ stats.expected ∨ 0 ≤ config.maxRrAdj
  scores : stats.expected < 0 → 0 ≤ e → config.maxScoreAdj ≤ 0 ∨
    base.minScore + config.loosened config.maxScoreAdj ≤ 0 ∨ 1 ≤ base.minScore - config.maxScoreAdj
  effectiveRrs : stats.expected < 0 → 0 ≤ e → 0 ≤ config.maxRrAdj ∨
    base.minEffectiveRr - config.loosened config.maxRrAdj ≤ 0

variable {base config stats}

theorem insufficient_withExpectancy (e : ℚ) :
    insufficient (some (stats.withExpectancy e)) config = insufficient (some stats) config := rfl

theorem expected_withExpectancy (e : ℚ) : (stats.withExpectancy e).expected = e := by
  unfold ScopeStats.withExpectancy ScopeStats.expected numberOr
  dsimp only
  split
  · rename_i h
    have he : e = (FloatNum.ofInt 0 : ℚ) := eq_of_beq h
    exact (he.trans zero_eq).symm
  · rfl

/-- The gate of a sample that suffices. -/
theorem shadow_sufficient (h : insufficient (some stats) config = false) :
    (computeShadowThresholds base (some stats) config).toGate =
      { minScore := max 0 (min 1 (base.minScore + scoreAdj config stats.expected))
        minEffectiveRr := max 0 (base.minEffectiveRr + rrAdj config stats.expected)
        maxSpreadPct := min base.maxSpreadPct (numberOr stats.avgSpreadPct base.maxSpreadPct)
        maxExpectedSlippagePct := base.maxExpectedSlippagePct
        minLiquidityScore :=
          max base.minLiquidityScore (numberOr stats.confidence base.minLiquidityScore) } := by
  unfold computeShadowThresholds
  rw [h]
  simp only [pyMax_eq, pyMin_eq, zero_eq, one_eq]
  rfl

/-- The gate of a sample that is too small is the base. -/
theorem shadow_insufficient (h : insufficient (some stats) config = true) :
    (computeShadowThresholds base (some stats) config).toGate = base := by
  unfold computeShadowThresholds
  rw [h]

theorem scoreAdj_negative {e : ℚ} (h : e < 0) : scoreAdj config e = -config.maxScoreAdj := by
  unfold scoreAdj
  rw [zero_eq, if_pos h]

theorem scoreAdj_positive {e : ℚ} (h : 0 ≤ e) :
    scoreAdj config e = config.loosened config.maxScoreAdj := by
  unfold scoreAdj ShadowConfig.loosened
  rw [zero_eq, if_neg (not_lt.mpr h)]

theorem rrAdj_negative {e : ℚ} (h : e < 0) : rrAdj config e = config.maxRrAdj := by
  unfold rrAdj
  rw [zero_eq, if_pos h]

theorem rrAdj_positive {e : ℚ} (h : 0 ≤ e) :
    rrAdj config e = -config.loosened config.maxRrAdj := by
  unfold rrAdj ShadowConfig.loosened
  rw [zero_eq, if_neg (not_lt.mpr h)]
  split
  · rfl
  · rw [neg_zero]

/-- The gate against the base, where loosening is not allowed. -/
theorem stricter_base_iff (h : insufficient (some stats) config = false)
    (hloosen : config.allowLoosen = false) :
    Stricter (computeShadowThresholds base (some stats) config).toGate base ↔
      (base.minScore ≤ 0 ∨
          (base.minScore ≤ 1 ∧ (0 ≤ stats.expected ∨ config.maxScoreAdj ≤ 0))) ∧
        (base.minEffectiveRr ≤ 0 ∨ 0 ≤ stats.expected ∨ 0 ≤ config.maxRrAdj) := by
  have hloosened : ∀ x, config.loosened x = 0 := by
    intro x
    unfold ShadowConfig.loosened
    rw [hloosen, if_neg Bool.false_ne_true]
  have hscore : base.minScore ≤ base.minScore + scoreAdj config stats.expected ↔
      0 ≤ stats.expected ∨ config.maxScoreAdj ≤ 0 := by
    rcases lt_or_ge stats.expected 0 with he | he
    · rw [scoreAdj_negative he]
      constructor
      · intro hle
        exact .inr (by linarith)
      · rintro (hle | hle)
        · exact absurd hle (not_le.mpr he)
        · linarith
    · rw [scoreAdj_positive he, hloosened, add_zero]
      exact iff_of_true le_rfl (.inl he)
  have hrr : base.minEffectiveRr ≤ base.minEffectiveRr + rrAdj config stats.expected ↔
      0 ≤ stats.expected ∨ 0 ≤ config.maxRrAdj := by
    rcases lt_or_ge stats.expected 0 with he | he
    · rw [rrAdj_negative he]
      constructor
      · intro hle
        exact .inr (by linarith)
      · rintro (hle | hle)
        · exact absurd hle (not_le.mpr he)
        · linarith
    · rw [rrAdj_positive he, hloosened, neg_zero, add_zero]
      exact iff_of_true le_rfl (.inl he)
  rw [shadow_sufficient h, ← hscore, ← hrr, ← le_cut_iff, ← le_max_iff]
  exact ⟨fun hs => ⟨hs.score, hs.effectiveRr⟩,
    fun hs => ⟨hs.1, hs.2, min_le_left _ _, le_rfl, le_max_left _ _⟩⟩

/-- The gates of two expectancies. -/
theorem stricter_expectancy_iff (h : insufficient (some stats) config = false) {e : ℚ}
    (hlower : stats.expected < e) :
    Stricter (computeShadowThresholds base (some stats) config).toGate
        (computeShadowThresholds base (some (stats.withExpectancy e)) config).toGate ↔
      (stats.expected < 0 → 0 ≤ e → config.maxScoreAdj ≤ 0 ∨
          base.minScore + config.loosened config.maxScoreAdj ≤ 0 ∨
          1 ≤ base.minScore - config.maxScoreAdj) ∧
        (stats.expected < 0 → 0 ≤ e → 0 ≤ config.maxRrAdj ∨
          base.minEffectiveRr - config.loosened config.maxRrAdj ≤ 0) := by
  rw [shadow_sufficient h, shadow_sufficient ((insufficient_withExpectancy e).trans h),
    expected_withExpectancy]
  have hcomponents : ∀ x x' y y' : ℚ,
      Stricter ⟨x, y, min base.maxSpreadPct (numberOr stats.avgSpreadPct base.maxSpreadPct),
          base.maxExpectedSlippagePct,
          max base.minLiquidityScore (numberOr stats.confidence base.minLiquidityScore)⟩
        ⟨x', y', min base.maxSpreadPct
            (numberOr (stats.withExpectancy e).avgSpreadPct base.maxSpreadPct),
          base.maxExpectedSlippagePct,
          max base.minLiquidityScore
            (numberOr (stats.withExpectancy e).confidence base.minLiquidityScore)⟩ ↔
        x' ≤ x ∧ y' ≤ y := fun x x' y y' =>
    ⟨fun hs => ⟨hs.score, hs.effectiveRr⟩, fun hs => ⟨hs.1, hs.2, le_rfl, le_rfl, le_rfl⟩⟩
  rw [hcomponents]
  by_cases hsign : stats.expected < 0 ∧ 0 ≤ e
  · obtain ⟨hneg, hpos⟩ := hsign
    rw [scoreAdj_negative hneg, scoreAdj_positive hpos, rrAdj_negative hneg, rrAdj_positive hpos,
      cut_le_cut_iff, pos_le_pos_iff]
    have hscore : base.minScore + config.loosened config.maxScoreAdj ≤
        base.minScore + -config.maxScoreAdj ↔ config.maxScoreAdj ≤ 0 := by
      unfold ShadowConfig.loosened
      split
      · exact ⟨fun hle => by linarith, fun hle => by linarith⟩
      · exact ⟨fun hle => by linarith, fun hle => by linarith⟩
    have hrr : base.minEffectiveRr + -config.loosened config.maxRrAdj ≤
        base.minEffectiveRr + config.maxRrAdj ↔ 0 ≤ config.maxRrAdj := by
      unfold ShadowConfig.loosened
      split
      · exact ⟨fun hle => by linarith, fun hle => by linarith⟩
      · exact ⟨fun hle => by linarith, fun hle => by linarith⟩
    rw [hscore, hrr, ← sub_eq_add_neg, ← sub_eq_add_neg]
    exact ⟨fun hs => ⟨fun _ _ => hs.1, fun _ _ => hs.2⟩,
      fun hs => ⟨hs.1 hneg hpos, hs.2 hneg hpos⟩⟩
  · -- of one sign, the adjustments are the same
    have hsame : scoreAdj config stats.expected = scoreAdj config e ∧
        rrAdj config stats.expected = rrAdj config e := by
      rcases lt_or_ge stats.expected 0 with he | he
      · have hneg : e < 0 := not_le.mp fun hpos => hsign ⟨he, hpos⟩
        rw [scoreAdj_negative he, scoreAdj_negative hneg, rrAdj_negative he, rrAdj_negative hneg]
        exact ⟨rfl, rfl⟩
      · have hpos : 0 ≤ e := he.trans hlower.le
        rw [scoreAdj_positive he, scoreAdj_positive hpos, rrAdj_positive he, rrAdj_positive hpos]
        exact ⟨rfl, rfl⟩
    rw [hsame.1, hsame.2]
    refine iff_of_true ⟨le_rfl, le_rfl⟩ ⟨?_, ?_⟩
    · exact fun hneg hpos => absurd ⟨hneg, hpos⟩ hsign
    · exact fun hneg hpos => absurd ⟨hneg, hpos⟩ hsign

variable (base config stats)

/-- **Where the adaptive gates never reward bad performance**: where the sample is too small to
    adapt to, or the base and the settings let the adjustments tighten only. -/
theorem never_rewards_iff (e : ℚ) (hlower : stats.expected < e) :
    NeverRewards base config stats e ↔
      insufficient (some stats) config = true ∨ Tightens base config stats e := by
  cases h : insufficient (some stats) config with
  | true =>
    refine iff_of_true ⟨fun _ => ?_, fun _ => ?_, fun c s t hst => adaptive_mono hst c⟩ (.inl rfl)
    · rw [shadow_insufficient h]
      exact stricter_refl base
    · rw [shadow_insufficient h, shadow_insufficient ((insufficient_withExpectancy e).trans h)]
      exact stricter_refl base
  | false =>
    rw [or_iff_right Bool.false_ne_true]
    constructor
    · intro hn
      have hexpectancy := (stricter_expectancy_iff h hlower).mp (hn.expectancy hlower)
      exact ⟨fun hl => ((stricter_base_iff h hl).mp (hn.loosening hl)).1,
        fun hl => ((stricter_base_iff h hl).mp (hn.loosening hl)).2, hexpectancy.1, hexpectancy.2⟩
    · intro ht
      exact ⟨fun hl => (stricter_base_iff h hl).mpr ⟨ht.score hl, ht.effectiveRr hl⟩,
        fun _ => (stricter_expectancy_iff h hlower).mpr ⟨ht.scores, ht.effectiveRrs⟩,
        fun c s t hst => adaptive_mono hst c⟩

/-! ## 6. A negative expectancy -/

/-- A base on the scale up to 1. -/
def unitBase : Gate ℚ := ⟨0.62, 1.1, 0.0025, 0.003, 0.2⟩

/-- Sixty trades with a negative expectancy. -/
def losing : ScopeStats ℚ := ⟨some 60, some (-0.01), some 0.0015, some 0.4⟩

/-- Settings that leave the score alone. -/
def fixedScore : ShadowConfig ℚ := { adaptiveMaxScoreAdjustment := some 0 }

/-- Enough trades to adapt to: with the score left alone, an expectancy that turns negative tightens
    the other gates. -/
theorem never_rewards_losing :
    insufficient (some losing) fixedScore = false ∧ NeverRewards unitBase fixedScore losing 0 := by
  refine ⟨by decide +kernel, ?_⟩
  have hscore : fixedScore.maxScoreAdj ≤ 0 := le_rfl
  have hrr : 0 ≤ fixedScore.maxRrAdj := by decide +kernel
  refine (never_rewards_iff unitBase fixedScore losing 0 (by decide +kernel)).mpr (.inr ?_)
  exact
    { score := fun _ => .inr ⟨by decide +kernel, .inr hscore⟩
      effectiveRr := fun _ => .inr (.inr hrr)
      scores := fun _ _ => .inl hscore
      effectiveRrs := fun _ _ => .inl hrr }

/-- **Loosening is not allowed, the expectancy is negative, and the score is lowered** from 0.62 to
    0.57. A base on the scale up to 10 is cut to 1. -/
theorem lowered_score :
    (computeShadowThresholds unitBase (some losing) {}).minScore = 0.57 ∧
      (computeShadowThresholds { unitBase with minScore := 7.5 } (some losing) {}).minScore = 1 ∧
      ¬ NeverRewards unitBase {} losing 0 := by
  have hscore : (computeShadowThresholds unitBase (some losing) {}).minScore = 0.57 := by
    decide +kernel
  refine ⟨hscore, by decide +kernel, fun h => ?_⟩
  have hle := (h.loosening rfl).score
  rw [show (computeShadowThresholds unitBase (some losing) {}).toGate.minScore = 0.57 from hscore]
    at hle
  exact absurd hle (by decide +kernel)

end AlphaForge.Learning
