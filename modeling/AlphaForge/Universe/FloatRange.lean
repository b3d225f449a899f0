/-
  File:      AlphaForge/Universe/FloatRange.lean
  Subject:   `symbol_selector.py`: the scores of the ranked rows on numbers of the float range.

  What is read from a candidate is finite and from 0 on, but it may be as large as a float can be.
  The constraints bound the spread and the liquidity, and a quotient by the largest volume or
  volatility is at most one; only ten times the volatility is computed before it is divided.

  * `Scorable` -- what the constraints leave of an eligible row's numbers.
  * `RangeHost` -- what the scoring needs of `math.log1p` and `round`.
  * **`finite_components_iff`** -- the components of a ranked row are finite exactly where ten times
    its volatility is in the float range; its score always is.
-/
import AlphaForge.Lib.Bounded
import AlphaForge.Universe.Canonical

namespace AlphaForge.Universe

open AlphaForge.Lib

/-! ## 1. The numbers of an eligible row -/

section Numbers

variable {F : Type} [FloatNum F] {host : Host F} {c : UniverseConstraints F} {ts : F}
variable {item : Payload F} {row : Row F}

/-- What the constraints leave of the numbers that the scoring reads. -/
structure Scorable (c : UniverseConstraints F) (r : Row F) : Prop where
  volume : FiniteNonneg r.volume
  spread : FiniteNonneg r.spread
  spreadLimit : ¬ c.maxSpreadPct < r.spread
  volatility : FiniteNonneg r.volatility
  slippage : ∀ x ∈ numberAt r.inputs "expected_slippage_pct", FiniteNonneg x
  liquidity : ∀ x ∈ numberAt r.inputs "liquidity_score",
    FiniteNonneg x ∧ ¬ FloatNum.ofInt 1 < x

omit [FloatNum F] in
theorem numberAt_optional {inputs : Payload F} {key : String} {x : Option F}
    (h : inputs.get key = optionalNumber x) : numberAt inputs key = x := by
  unfold numberAt
  rw [h]
  cases x <;> rfl

/-- The inputs of a judged candidate hold what was read from it. -/
theorem read_input (h : baseDecision host c ts item = .ok row)
    (hsymbol : isSymbol (symbolOf host item) = true) :
    ∃ funding, ∀ e ∈ readings host item funding, row.inputs.get e.1 = e.2 := by
  unfold baseDecision at h
  rw [if_pos hsymbol] at h
  obtain ⟨funding, _, hrow⟩ := ok_of_bind h
  cases hrow
  have hnodup : ((readings host item funding).map Prod.fst).Nodup :=
    show ["symbol", "volume_24h_usd", "spread_pct", "volatility_pct", "expected_slippage_pct",
      "liquidity_score", "funding_rate_pct", "market_cap_usd", "market_observed_at"].Nodup by decide
  exact ⟨funding, fun e he => get_overwrite hnodup he⟩

theorem slippage_nonneg {x : F} (h : slippageOf host item = some x) : FiniteNonneg x := by
  unfold slippageOf at h
  split at h
  · cases h
  · exact finiteNonnegative_spec host h

/-- **An eligible row can be scored.** -/
theorem scorable (h : baseDecision host c ts item = .ok row) (he : row.state = .eligible) :
    Scorable c row := by
  have hreasons := baseDecision_reasons host c ts item h
  have hsat : Satisfies host c ts item := hreasons.2.mp (hreasons.1.mp he)
  obtain ⟨funding, hread⟩ := read_input h hsat.symbol
  have hmetric : ∀ m ∈ requiredMetrics, m.parsed host item = some (row.number m.name) ∧
      FiniteNonneg (row.number m.name) := by
    intro m hm
    obtain ⟨v, hv⟩ := Option.isSome_iff_exists.mp (hsat.metrics m hm).number
    have hmem : (m.name, optionalNumber (m.parsed host item)) ∈ readings host item funding := by
      simp only [requiredMetrics, List.mem_cons, List.not_mem_nil, or_false] at hm
      rcases hm with rfl | rfl | rfl
      all_goals simp [readings, volumeMetric, spreadMetric, volatilityMetric]
    have hnumber : row.number m.name = v := by
      unfold Row.number
      rw [numberAt_optional (hread _ hmem), hv]
      rfl
    rw [hnumber]
    exact ⟨hv, finiteNonnegative_spec host hv⟩
  obtain ⟨_, hvolume⟩ := hmetric volumeMetric (by simp [requiredMetrics])
  obtain ⟨hspread, hspreadOk⟩ := hmetric spreadMetric (by simp [requiredMetrics])
  obtain ⟨_, hvolatility⟩ := hmetric volatilityMetric (by simp [requiredMetrics])
  have hslippage : numberAt row.inputs "expected_slippage_pct" = slippageOf host item :=
    numberAt_optional (hread ("expected_slippage_pct", optionalNumber (slippageOf host item))
      (by simp [readings]))
  have hliquidity : numberAt row.inputs "liquidity_score" = liquidityOf host item :=
    numberAt_optional (hread ("liquidity_score", optionalNumber (liquidityOf host item))
      (by simp [readings]))
  refine ⟨hvolume, hspreadOk, hsat.spread _ hspread, hvolatility, fun x hx => ?_, fun x hx => ?_⟩
  · rw [hslippage] at hx
    exact slippage_nonneg hx
  · rw [hliquidity] at hx
    refine ⟨finiteNonnegative_spec host hx, ?_⟩
    rcases hsat.liquidity with hnone | ⟨y, hy, hone, _⟩
    · have hread : liquidityOf host item = none := by
        unfold liquidityOf
        rw [isNone_iff.mp hnone]
        rfl
      rw [hread] at hx
      cases hx
    · rw [hy] at hx
      cases hx
      exact hone

/-- No number is beyond the largest. -/
theorem le_maxOf {xs : List F} (h : ∀ y ∈ xs, IsNumber y) {x : F} (hx : x ∈ xs) :
    ¬ maxOf xs < x := by
  have hstep : ∀ (xs : List F) (m : F), IsNumber m → (∀ y ∈ xs, IsNumber y) →
      ∀ x ∈ m :: xs, ¬ xs.foldl pyMax m < x := by
    intro xs
    induction xs with
    | nil =>
      intro m _ _ x hx
      rw [List.mem_singleton.mp hx]
      exact FloatNum.lt_irrefl
    | cons y rest ih =>
      intro m hm hall x hx
      have hy : IsNumber y := hall y (List.mem_cons_self ..)
      have hrest : ∀ z ∈ rest, IsNumber z := fun z hz => hall z (List.mem_cons_of_mem y hz)
      have hmax : IsNumber (pyMax m y) := number_pyMax hm hy
      have hle : ¬ rest.foldl pyMax (pyMax m y) < pyMax m y :=
        ih _ hmax hrest _ (List.mem_cons_self ..)
      rw [List.foldl_cons]
      rcases List.mem_cons.mp hx with rfl | hx
      · intro hlt
        unfold pyMax at hle hlt
        by_cases hxy : x < y
        · rw [if_pos hxy] at hle hlt
          exact hle (FloatNum.lt_trans hlt hxy)
        · rw [if_neg hxy] at hle hlt
          exact hle hlt
      · rcases List.mem_cons.mp hx with rfl | hx
        · intro hlt
          unfold pyMax at hle hlt
          by_cases hmx : m < x
          · rw [if_pos hmx] at hle hlt
            exact hle hlt
          · rw [if_neg hmx] at hle hlt
            exact hle (FloatNum.lt_of_lt_of_le hlt (FloatNum.le_of_not_lt hm hy hmx))
        · exact ih _ hmax hrest x (List.mem_cons_of_mem _ hx)
  cases xs with
  | nil => exact absurd hx List.not_mem_nil
  | cons y rest =>
    exact hstep rest y (h y (List.mem_cons_self ..))
      (fun z hz => h z (List.mem_cons_of_mem y hz)) x hx

end Numbers

/-! ## 2. What the scoring needs of the language -/

/-- What the selector takes from the language, on numbers of the float range: `math.log1p` is a
    small number that grows with its argument, and `round` keeps the finite numbers. -/
structure RangeHost extends Host Bounded where
  round_finite : ∀ x, FloatNum.isFinite (round8 x) = FloatNum.isFinite x
  log1p_nonneg : ∀ x, FiniteNonneg x → FiniteNonneg (log1p x)
  log1p_small : ∀ x, FiniteNonneg x → ¬ FloatNum.ofInt 710 < log1p x
  log1p_pos : ∀ x, FloatNum.isFinite x = true → FloatNum.ofInt 0 < x → FloatNum.ofInt 0 < log1p x
  log1p_mono : ∀ x y, FiniteNonneg x → FiniteNonneg y → ¬ y < x → ¬ log1p y < log1p x

section Range

variable {host : RangeHost} {c : UniverseConstraints Bounded} {r : Row Bounded}
variable {x y : Bounded}

open Bounded

/-- The value of a number from 0 on. -/
theorem value_nonneg (h : FiniteNonneg x) : ∃ q, x.number = .finite q ∧ 0 ≤ q :=
  nonneg_number h.1 h.2

theorem ten_number : (FloatNum.ofInt 10 : Bounded).number = .finite 10 := by
  have h := ofInt_number (k := 10) (by norm_num)
  simpa using h

theorem one_number : (FloatNum.ofInt 1 : Bounded).number = .finite 1 := by
  have h := ofInt_number (k := 1) (by norm_num)
  simpa using h

theorem two_number : (FloatNum.ofInt 2 : Bounded).number = .finite 2 := by
  have h := ofInt_number (k := 2) (by norm_num)
  simpa using h

theorem tiny_number : (1e-12 : Bounded).number = .finite (1 / 10 ^ 12) := by
  have hvalue : ((OfScientific.ofScientific 1 true 12 : ℚ)) = 1 / 10 ^ 12 := by norm_num
  have h : (ofRat (OfScientific.ofScientific 1 true 12)).number = .finite (1 / 10 ^ 12) := by
    rw [hvalue]
    exact number_ofRat (abs_small (by norm_num))
  exact h

theorem within_ofInt {k : ℤ} {m : ℚ} (h : |(k : ℚ)| ≤ m) (hm : m ≤ 10 ^ 30) :
    Within (FloatNum.ofInt k) m :=
  within_ofRat h hm

/-- A limit raised to a tiny positive number. -/
theorem raised_limit {limit : Bounded} (h : FiniteNonneg limit) :
    ∃ q, (pyMax limit 1e-12).number = .finite q ∧ 0 < q ∧
      ∀ p, limit.number = .finite p → p ≤ q := by
  obtain ⟨p, hp, hp0⟩ := value_nonneg h
  unfold pyMax
  by_cases hlt : limit < 1e-12
  · rw [if_pos hlt]
    refine ⟨_, tiny_number, by norm_num, fun p' hp' => ?_⟩
    exact ((lt_iff hp' tiny_number).mp hlt).le
  · rw [if_neg hlt]
    have hle : 1 / 10 ^ 12 ≤ p := not_lt.mp fun h => hlt ((lt_iff hp tiny_number).mpr h)
    refine ⟨p, hp, lt_of_lt_of_le (by norm_num) hle, fun p' hp' => ?_⟩
    rw [hp] at hp'
    cases hp'
    exact le_rfl

theorem within_volumeQuality {maxVolume volume : Bounded} (hmax : FiniteNonneg maxVolume)
    (hvolume : FiniteNonneg volume) (hle : ¬ maxVolume < volume) :
    Within (volumeQuality host.toHost maxVolume volume) 10 := by
  unfold volumeQuality
  by_cases h : maxVolume ≤ FloatNum.ofInt 0
  · rw [if_pos h]
    exact within_ofInt (by norm_num) (by norm_num)
  rw [if_neg h]
  have hpos : FloatNum.ofInt 0 < host.log1p maxVolume := host.log1p_pos _ hmax.1
    (FloatNum.lt_of_not_le (isNumber_of_finite hmax.1) isNumber_zero h)
  obtain ⟨p, hp, hp0⟩ := value_nonneg (host.log1p_nonneg volume hvolume)
  obtain ⟨q, hq, _⟩ := value_nonneg (host.log1p_nonneg maxVolume hmax)
  have hq0 : 0 < q := (lt_iff zero_number hq).mp hpos
  have hpq : p ≤ q := not_lt.mp fun hlt =>
    host.log1p_mono volume maxVolume hvolume hmax hle ((lt_iff hq hp).mpr hlt)
  have hsmall : p ≤ 710 := not_lt.mp fun hlt => by
    have hlimit := ofInt_number (k := 710) (by norm_num)
    exact host.log1p_small volume hvolume ((lt_iff hlimit hp).mpr (by exact_mod_cast hlt))
  have hmul : (FloatNum.ofInt 10 * host.log1p volume).number = .finite (10 * p) := by
    show (ofExtended ((FloatNum.ofInt 10 : Bounded).number * (host.log1p volume).number)).number = _
    rw [ten_number, hp]
    refine number_ofRat (abs_small ?_)
    rw [abs_of_nonneg (by positivity)]
    linarith
  refine within_div hmul hq hq0 ?_ (by norm_num)
  rw [abs_of_nonneg (by positivity)]
  linarith

theorem within_spreadQuality {spread : Bounded} (h : FiniteNonneg spread)
    (hle : ¬ c.maxSpreadPct < spread) : Within (spreadQuality c spread) 20 := by
  have hlimit : FiniteNonneg c.maxSpreadPct := c.numbers _ (by simp)
  obtain ⟨p, hp, hp0⟩ := value_nonneg h
  obtain ⟨l, hl, _⟩ := value_nonneg hlimit
  obtain ⟨q, hq, hq0, hlq⟩ := raised_limit hlimit
  have hpl : p ≤ l := not_lt.mp fun hlt => hle ((lt_iff hl hp).mpr hlt)
  have hratio : Within (spread / pyMax c.maxSpreadPct 1e-12) 1 := by
    refine within_div hp hq hq0 ?_ (by norm_num)
    rw [abs_of_nonneg hp0]
    linarith [hlq l hl]
  unfold spreadQuality
  split
  · exact within_ofInt (by norm_num) (by norm_num)
  · refine Within.pyMax (within_ofInt (by norm_num) (by norm_num)) ?_
    have hone : Within (FloatNum.ofInt 1) 1 := within_ofInt (by norm_num) (by norm_num)
    have hten : Within (FloatNum.ofInt 10) 10 := within_ofInt (by norm_num) (by norm_num)
    exact (hten.mul (hone.sub hratio (by norm_num) (by norm_num)) (by norm_num)).mono (by norm_num)

/-- **Only the tenfold volatility can overflow**: divided by the largest one it is at most ten, and
    an infinity stays one. -/
theorem volatilityQuality_cases {maxVolatility volatility : Bounded}
    (hmax : FiniteNonneg maxVolatility) (h : FiniteNonneg volatility)
    (hle : ¬ maxVolatility < volatility) :
    (FloatNum.isFinite (FloatNum.ofInt 10 * volatility) = true ∧
      Within (volatilityQuality maxVolatility volatility) 10) ∨
    (FloatNum.isFinite (FloatNum.ofInt 10 * volatility) = false ∧
      FloatNum.isFinite (volatilityQuality maxVolatility volatility) = false) := by
  obtain ⟨p, hp, hp0⟩ := value_nonneg h
  obtain ⟨q, hq, hq0⟩ := value_nonneg hmax
  have hpq : p ≤ q := not_lt.mp fun hlt => hle ((lt_iff hq hp).mpr hlt)
  have hten : FloatNum.ofInt 10 * volatility = ofRat (10 * p) := by
    show ofExtended ((FloatNum.ofInt 10 : Bounded).number * volatility.number) = _
    rw [ten_number, hp]
    rfl
  unfold volatilityQuality
  by_cases hzero : maxVolatility ≤ FloatNum.ofInt 0
  · rw [if_pos hzero]
    have hq' : q ≤ 0 := (le_iff hq zero_number).mp hzero
    have hp' : p = 0 := le_antisymm (hpq.trans hq') hp0
    refine Or.inl ⟨?_, within_ofInt (by norm_num) (by norm_num)⟩
    rw [hten, hp']
    exact (within_ofRat (by norm_num) (by norm_num : (0 : ℚ) ≤ 10 ^ 30)).finite
  rw [if_neg hzero]
  have hpos : 0 < q := not_le.mp fun hle => hzero ((le_iff hq zero_number).mpr hle)
  by_cases hover : overflowLimit ≤ 10 * p
  · have hinf : (FloatNum.ofInt 10 * volatility).number = .posInf := by
      rw [hten]
      exact if_pos hover
    have hquot := posInf_div hinf hq hpos
    refine Or.inr ⟨?_, ?_⟩
    · show (FloatNum.ofInt 10 * volatility).number.isFinite = false
      rw [hinf]
      rfl
    · show (FloatNum.ofInt 10 * volatility / maxVolatility).number.isFinite = false
      rw [hquot]
      rfl
  · have hfit : (FloatNum.ofInt 10 * volatility).number = .finite (10 * p) := by
      rw [hten]
      refine number_ofRat ?_
      rw [abs_of_nonneg (by positivity)]
      exact not_le.mp hover
    refine Or.inl ⟨isFinite_iff.mpr ⟨_, hfit⟩, within_div hfit hq hpos ?_ (by norm_num)⟩
    rw [abs_of_nonneg (by positivity)]
    linarith

/-- What overflows here is cut to 2. -/
theorem within_slippagePenalty {slippage : Option Bounded}
    (h : ∀ x ∈ slippage, FiniteNonneg x) : Within (slippagePenalty c slippage) 2 := by
  have hlimit : FiniteNonneg c.maxExpectedSlippagePct := c.numbers _ (by simp)
  cases slippage with
  | none => exact within_ofInt (by norm_num) (by norm_num)
  | some x =>
    obtain ⟨p, hp, hp0⟩ := value_nonneg (h x rfl)
    obtain ⟨q, hq, hq0, _⟩ := raised_limit hlimit
    exact Nonneg.pyMin two_number ((nonneg_mul two_number hp (by norm_num) hp0).div hq hq0)
      (by norm_num)

theorem within_literal {n : ℕ} {negative : Bool} {e : ℕ} {m : ℚ}
    (h : |(OfScientific.ofScientific n negative e : ℚ)| ≤ m) (hm : m ≤ 10 ^ 30) :
    Within (OfScientific.ofScientific n negative e) m :=
  within_ofRat h hm

theorem within_regimeHalf {v : Option Bounded} (h : ∀ x ∈ v, FiniteNonneg x) :
    Within (regimeHalf v) 1 := by
  cases v with
  | none => exact within_ofInt (by norm_num) (by norm_num)
  | some x =>
    have hcut : Within (pyMin (FloatNum.ofInt 1) x) 1 :=
      Nonneg.pyMin one_number (Or.inr (value_nonneg (h x rfl))) (by norm_num)
    have hhalf : Within 0.5 1 := within_literal (by norm_num) (by norm_num)
    exact (hhalf.mul hcut (by norm_num)).mono (by norm_num)

theorem within_uncertaintyPenalty (slippage liquidity funding : Option Bounded) (missing : Bool) :
    Within (uncertaintyPenalty slippage liquidity funding missing) 4 := by
  have hstep : ∀ (b : Bool) (p q : Bounded) (m : ℚ), Within p m → Within q 1 → m + 1 ≤ 4 →
      Within (if b then p + q else p) (m + 1) := by
    intro b p q m hp hq hm
    cases b with
    | true => exact hp.add hq (hm.trans (by norm_num))
    | false => exact hp.mono (by linarith)
  have hfirst : Within (if slippage.isNone then (0.5 : Bounded) else FloatNum.ofInt 0) 1 := by
    cases slippage with
    | none => exact within_literal (by norm_num) (by norm_num)
    | some x => exact within_ofInt (by norm_num) (by norm_num)
  have hhalf : Within 0.5 1 := within_literal (by norm_num) (by norm_num)
  have hquarter : Within 0.25 1 := within_literal (by norm_num) (by norm_num)
  have h₁ := hstep liquidity.isNone _ _ _ hfirst hhalf (by norm_num)
  have h₂ := hstep funding.isNone _ _ _ h₁ hquarter (by norm_num)
  exact (hstep missing _ _ _ h₂ hquarter (by norm_num)).mono (by norm_num)

theorem within_liquidityQuality {liquidity : Option Bounded}
    (h : ∀ x ∈ liquidity, FiniteNonneg x ∧ ¬ FloatNum.ofInt 1 < x) :
    Within (liquidityQuality liquidity) 10 := by
  cases liquidity with
  | none => exact within_ofInt (by norm_num) (by norm_num)
  | some x =>
    obtain ⟨hx, hone⟩ := h x rfl
    obtain ⟨p, hp, hp0⟩ := value_nonneg hx
    have hp1 : p ≤ 1 := not_lt.mp fun hlt => hone ((lt_iff one_number hp).mpr hlt)
    have hten : Within (FloatNum.ofInt 10) 10 := within_ofInt (by norm_num) (by norm_num)
    have hwithin : Within x 1 := ⟨p, hp, by rwa [abs_of_nonneg hp0]⟩
    exact (hten.mul hwithin (by norm_num)).mono (by norm_num)

theorem within_regimeFit (trend chop : Value Bounded) :
    Within (regimeHalf (finiteNonnegative host.toHost trend) -
      regimeHalf (finiteNonnegative host.toHost chop)) 2 := by
  have h : ∀ v : Value Bounded, Within (regimeHalf (finiteNonnegative host.toHost v)) 1 :=
    fun v => within_regimeHalf fun x hx => finiteNonnegative_spec host.toHost hx
  exact ((h trend).sub (h chop) (by norm_num) (by norm_num)).mono (by norm_num)

/-- The weighted sum stays small. -/
theorem within_score {volumeQ spreadQ liquidityQ volatilityQ regimeFit slippageP
    uncertaintyP : Bounded}
    (h₁ : Within volumeQ 10) (h₂ : Within spreadQ 20) (h₃ : Within liquidityQ 10)
    (h₄ : Within volatilityQ 10) (h₅ : Within regimeFit 2) (h₆ : Within slippageP 2)
    (h₇ : Within uncertaintyP 4) :
    Within (volumeQ * 0.40 + spreadQ * 0.30 + liquidityQ * 0.15 + volatilityQ * 0.15 + regimeFit -
      slippageP - uncertaintyP) 58 := by
  have hweight : ∀ {x y : Bounded} {m : ℚ}, Within x m → m ≤ 20 → Within y 1 →
      Within (x * y) m := by
    intro x y m hx hm hy
    have hmul := hx.mul hy (by linarith)
    rwa [mul_one] at hmul
  have hvolume : Within (volumeQ * 0.40) 10 :=
    hweight h₁ (by norm_num) (within_literal (by norm_num) (by norm_num))
  have hspread : Within (spreadQ * 0.30) 20 :=
    hweight h₂ (by norm_num) (within_literal (by norm_num) (by norm_num))
  have hliquidity : Within (liquidityQ * 0.15) 10 :=
    hweight h₃ (by norm_num) (within_literal (by norm_num) (by norm_num))
  have hvolatility : Within (volatilityQ * 0.15) 10 :=
    hweight h₄ (by norm_num) (within_literal (by norm_num) (by norm_num))
  have hsum := (((hvolume.add hspread (by norm_num)).add hliquidity (by norm_num)).add hvolatility
    (by norm_num)).add h₅ (by norm_num)
  exact ((hsum.sub h₆ (by norm_num) (by norm_num)).sub h₇ (by norm_num) (by norm_num)).mono
    (by norm_num)

variable {maxVolume maxVolatility : Bounded}

/-- **A ranked row is scored with finite numbers exactly where ten times its volatility is in the
    float range.** -/
theorem finite_components_iff (hr : Scorable c r) (hvolume : FiniteNonneg maxVolume)
    (hle : ¬ maxVolume < r.volume) (hvolatility : FiniteNonneg maxVolatility)
    (hle' : ¬ maxVolatility < r.volatility) :
    (FloatNum.isFinite (scoreRow host.toHost c maxVolume maxVolatility r).score = true ∧
      finiteEntries (scoreRow host.toHost c maxVolume maxVolatility r).components = true) ↔
      FloatNum.isFinite (FloatNum.ofInt 10 * r.volatility) = true := by
  have hround : ∀ {x : Bounded} {m : ℚ}, Within x m → FloatNum.isFinite (host.round8 x) = true :=
    fun hx => (host.round_finite _).trans hx.finite
  rcases volatilityQuality_cases hvolatility hr.volatility hle' with ⟨hfit, h₄⟩ | ⟨hover, hinf⟩
  · have h₁ : Within (volumeQuality host.toHost maxVolume r.volume) 10 :=
      within_volumeQuality hvolume hr.volume hle
    have h₂ : Within (spreadQuality c r.spread) 20 := within_spreadQuality hr.spread hr.spreadLimit
    have h₃ := within_liquidityQuality hr.liquidity
    have h₅ := @within_regimeFit host (r.inputs.get "trend_strength") (r.inputs.get "chop_score")
    have h₆ : Within (slippagePenalty c (numberAt r.inputs "expected_slippage_pct")) 2 :=
      within_slippagePenalty hr.slippage
    refine iff_of_true ⟨?_, ?_⟩ hfit
    · refine hround (m := 58) (Within.pyMax (within_ofInt (by norm_num) (by norm_num))
        (Within.pyMin (within_ofInt (by norm_num) (by norm_num)) ?_))
      exact within_score h₁ h₂ h₃ h₄ h₅ h₆ (within_uncertaintyPenalty _ _ _ _)
    · refine finiteEntries_iff.mpr ?_
      unfold scoreRow
      simp only [List.forall_mem_cons, finite_float, finite_text]
      exact ⟨hround h₁, hround h₂, hround h₃, hround h₄, hround h₅, hround h₆,
        hround (within_uncertaintyPenalty _ _ _ _), trivial, List.forall_mem_nil _⟩
  · refine iff_of_false (fun ⟨_, hall⟩ => ?_) (by rw [hover]; decide)
    have hmem : ("volatility_opportunity",
        Value.float (host.round8 (volatilityQuality maxVolatility r.volatility))) ∈
        (scoreRow host.toHost c maxVolume maxVolatility r).components := by simp [scoreRow]
    have hfinite : FloatNum.isFinite
        (host.round8 (volatilityQuality maxVolatility r.volatility)) = true :=
      finiteEntries_iff.mp hall _ hmem
    rw [host.round_finite, hinf] at hfinite
    cases hfinite

/-! ## 3. The ranking -/

variable {ts : Bounded} {items : List (Payload Bounded)} {rows : List (Row Bounded)}

/-- Milliseconds are divided by 1000. -/
theorem range_time {v : Value Bounded} (h : timestampSeconds host.toHost v = some ts) :
    FloatNum.isFinite ts = true := by
  have hthousand : (FloatNum.ofInt 1000 : Bounded).number = .finite 1000 := by
    have h := ofInt_number (k := 1000) (by norm_num)
    simpa using h
  exact timestamp_finite (fun _ hx => isFinite_div hx hthousand (by norm_num)) h

/-- **The ranking is finite exactly where ten times every ranked volatility is in the float
    range.** -/
theorem finite_ranking_iff (h : items.mapM (baseDecision host.toHost c ts) = .ok rows) :
    (∀ s ∈ scored host.toHost c (cutVolume c (dedupe host.toHost rows)),
      FloatNum.isFinite s.score = true ∧ finiteEntries s.components = true) ↔
      ∀ r ∈ eligibleRows (cutVolume c (dedupe host.toHost rows)),
        FloatNum.isFinite (FloatNum.ofInt 10 * r.volatility) = true := by
  generalize hN : cutVolume c (dedupe host.toHost rows) = N
  have hscorable : ∀ r ∈ eligibleRows N, Scorable c r := by
    intro r hr
    obtain ⟨hmem, he⟩ := mem_eligibleRows.mp hr
    obtain ⟨_, item, _, hrow, _⟩ := eligible_base host.toHost h (hN ▸ hmem) he
    exact scorable hrow he
  have hlargest : ∀ {f : Row Bounded → Bounded}, (∀ r ∈ eligibleRows N, FiniteNonneg (f r)) →
      FiniteNonneg (maxOf ((eligibleRows N).map f)) ∧
        ∀ r ∈ eligibleRows N, ¬ maxOf ((eligibleRows N).map f) < f r := by
    intro f hf
    refine ⟨maxOf_property ⟨FloatNum.finite_one, ?_⟩ (List.forall_mem_map.mpr hf), fun r hr => ?_⟩
    · exact (le_iff zero_number one_number).mpr (by norm_num)
    · exact le_maxOf (List.forall_mem_map.mpr fun q hq => isNumber_of_finite (hf q hq).1)
        (List.mem_map_of_mem hr)
  obtain ⟨hvolume, hbelow⟩ := hlargest fun r hr => (hscorable r hr).volume
  obtain ⟨hvolatility, hbelow'⟩ := hlargest fun r hr => (hscorable r hr).volatility
  have hone := fun (r : Row Bounded) (hr : r ∈ eligibleRows N) =>
    @finite_components_iff host _ _ _ _ (hscorable r hr) hvolume (hbelow r hr) hvolatility
      (hbelow' r hr)
  unfold scored
  simp only [mem_sortOn, List.forall_mem_map]
  exact forall₂_congr hone

end Range

end AlphaForge.Universe
