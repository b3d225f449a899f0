/-
  File:      AlphaForge/Execution/Safety.lean
  Subject:   `evaluate_execution_safety` (`execution.py`): the contract every candidate passes
             before it is submitted, with `classify_execution_evidence` and what both read.

  All gates are judged, whatever the others say. The first failed one in the order of priority is
  the reason of the rejection; every failed one is put down with what was observed.

  * `Policy` -- the limits and switches; a limit that is stated must be a number.
  * `checks` -- the gates in the order of the source.
  * `Safe` -- what an accepted candidate is: the meaning of the gates on the context itself.
  * `Within` -- an accepted candidate is inside every limit that is a number.
  * **`safety_decision`** -- the contract accepts exactly the safe ones, and rejects for the first
    gate that fails; `Decided` says what is true of its answer.
  * `accepted_unmeasured` -- an estimated fee, a tolerated gap and a limit that is NaN.
  * `Laxer` -- one policy asks no more than another one.
  * **`safety_monotone`** -- what a policy accepts, every laxer one accepts.

  Every comparison is false on NaN, so a limit that is NaN switches its gate off. Of the cost model
  the contract uses the penalty of the regime; the numbers of the other penalties are read, and may
  raise.
-/
import AlphaForge.Execution.Microstructure
import AlphaForge.Lib.Checks
import AlphaForge.Lib.Extended
import AlphaForge.Lib.Gates

namespace AlphaForge.Execution

open AlphaForge.Lib

variable {F : Type} [FloatNum F] (host : Host F)

/-! ## 1. The context -/

/-- The fields of a context that the contract looks at. -/
inductive Field where
  | spreadPct
  | expectedSlippagePct
  | latencyMs
  | liquidityScore
  | fundingRatePct
  | feePct
  | volatilityRegime
  | orderbookImbalance
  deriving DecidableEq, Repr

def Field.key : Field → String
  | .spreadPct => "spread_pct"
  | .expectedSlippagePct => "expected_slippage_pct"
  | .latencyMs => "latency_ms"
  | .liquidityScore => "liquidity_score"
  | .fundingRatePct => "funding_rate_pct"
  | .feePct => "fee_pct"
  | .volatilityRegime => "volatility_regime"
  | .orderbookImbalance => "orderbook_imbalance"

/-- `status_keys`. -/
def Field.statusKey : Field → String
  | .spreadPct => "spread_status"
  | .expectedSlippagePct => "slippage_status"
  | .latencyMs => "latency_status"
  | .liquidityScore => "liquidity_status"
  | .fundingRatePct => "funding_status"
  | .feePct => "fee_status"
  | .volatilityRegime => "volatility_status"
  | .orderbookImbalance => "orderbook_status"

/-- `REQUIRED_EXECUTION_FIELDS`. -/
def requiredFields : List Field :=
  [.spreadPct, .expectedSlippagePct, .feePct, .latencyMs, .liquidityScore, .fundingRatePct,
    .orderbookImbalance, .volatilityRegime]

/-- The fields with a status in `classify_execution_evidence`. -/
def classifiedFields : List Field :=
  [.spreadPct, .expectedSlippagePct, .latencyMs, .liquidityScore, .fundingRatePct,
    .orderbookImbalance, .volatilityRegime]

/-- The fields whose zero has to be verified. -/
def zeroFields : List Field :=
  [.spreadPct, .expectedSlippagePct, .latencyMs, .fundingRatePct, .orderbookImbalance]

/-- The fields that a supplied value makes a number. -/
def numericFields : List Field :=
  [.spreadPct, .expectedSlippagePct, .latencyMs, .liquidityScore, .fundingRatePct, .feePct,
    .orderbookImbalance]

/-- The fields that the cost model reads. -/
def costFields : List Field :=
  [.spreadPct, .expectedSlippagePct, .latencyMs, .fundingRatePct, .feePct, .liquidityScore]

/-- The evidence classes. -/
inductive Evidence where
  | completeMeasured
  | partialEstimated
  | unavailableBlocking
  | invalidFakeZero
  deriving DecidableEq, Repr

section Context

variable (ctx : Payload F)

/-- The value of a field is missing. -/
def unavailable (f : Field) : Bool := missingIn unavailableNames (ctx.get f.key)

/-- The status of a field. -/
def status (f : Field) : String := word host (ctx.get f.statusKey)

/-- The zero of a field is verified. -/
def zeroVerified (f : Field) : Bool := (ctx.get (f.key ++ "_zero_verified")).truthy

/-- `float(value) == 0.0`, false where it is no number. -/
def isZero (v : Value F) : Except PyError Bool := do
  let parsed ← tryFloat host v
  return parsed.any fun x => FloatNum.feq x (FloatNum.ofInt 0)

/-- `str(status).upper()`: a missing status is the empty text, a null one is not. -/
def statedStatus (f : Field) : String :=
  upper ((ctx.getD f.statusKey (.text "")).str host.toBuiltins)

/-- The class of the evidence. -/
def evidenceClass (statuses : List String) (missing fakeZeros : List Field)
    (requireMeasured : Bool) :
    Evidence :=
  if fakeZeros ≠ [] then .invalidFakeZero
  else if missing ≠ [] ∨ statuses.any (· ∈ unavailableStatuses) then .unavailableBlocking
  else if requireMeasured ∧ statuses.any (· ∉ measuredStatuses) then .unavailableBlocking
  else if statuses.all (· ∈ measuredStatuses) then .completeMeasured
  else if statuses.any (· ∈ estimatedStatuses) then .partialEstimated
  else .unavailableBlocking

/-- `classify_execution_evidence`. -/
def classifyExecutionEvidence (requireMeasured : Bool) : Except PyError Evidence := do
  let statuses := classifiedFields.map (statedStatus host ctx)
  let missing := requiredFields.filter (unavailable ctx)
  let fakeZeros ← selectM (fun f => do
    let zero ← isZero host (ctx.get f.key)
    return zero && (requireMeasured || statedStatus host ctx f ∈ measuredStatuses) &&
      !zeroVerified ctx f) zeroFields
  return evidenceClass statuses missing fakeZeros requireMeasured

/-- The penalty of a volatility regime. -/
def volatilityPenalty (regime : String) : F :=
  if regime = "low" then 0.02
  else if regime = "normal" then FloatNum.ofInt 0
  else if regime = "high" then 0.12
  else if regime = "extreme" then 0.25
  else 0.10

/-- `build_execution_cost_model(...).volatility_penalty`, and what is read on the way. -/
def costVolatilityPenalty : Except PyError F := do
  costFields.forM fun f =>
    if unavailable ctx f then .ok () else (fun _ => ()) <$> tryFloat host (ctx.get f.key)
  let _ ← classifyExecutionEvidence host ctx false
  let regime := ctx.getD "volatility_regime" (.text "")
  return volatilityPenalty (lower (if regime.truthy then regime.str host.toBuiltins else ""))

end Context

/-! ## 2. The policy -/

/-- The limits and the switches. -/
structure Policy (F : Type) where
  maxSpread : F
  maxSlippage : F
  maxTotalCost : F
  minLiquidity : F
  maxLatency : F
  maxVolatilityPenalty : F
  maxFunding : F
  rejectUnknown : Bool
  orderbookRequired : Bool
  microstructureRequired : Bool

/-- `threshold`: the first key that is stated. -/
def threshold (t : Payload F) (default : F) : List String → Except PyError F
  | [] => .ok default
  | key :: rest =>
    if missingIn [""] (t.get key) then threshold t default rest else toFloat host (t.get key)

/-- The limits and the switches of the thresholds. -/
def readPolicy (t : Payload F) : Except PyError (Policy F) := do
  let maxSpread ← threshold host t 0.0025 ["MAX_SPREAD_PCT", "max_spread_pct"]
  let maxSlippage ← threshold host t 0.002
    ["MAX_EXPECTED_SLIPPAGE_PCT", "MAX_SLIPPAGE_PCT", "max_expected_slippage_pct"]
  let maxTotalCost ← threshold host t 0.20 ["MAX_TOTAL_COST_PCT", "max_total_cost_pct"]
  let minLiquidity ← threshold host t 0.30 ["MIN_LIQUIDITY_SCORE", "min_liquidity_score"]
  let maxLatency ← threshold host t (FloatNum.ofInt 2500) ["MAX_LATENCY_MS", "max_latency_ms"]
  let maxVolatilityPenalty ← threshold host t 0.20
    ["MAX_VOLATILITY_PENALTY_PCT", "max_volatility_penalty_pct"]
  let maxFunding ← threshold host t 0.001 ["MAX_ABS_FUNDING_RATE_PCT", "max_abs_funding_rate_pct"]
  return { maxSpread, maxSlippage, maxTotalCost, minLiquidity, maxLatency, maxVolatilityPenalty,
           maxFunding
           rejectUnknown :=
             (t.getD "REJECT_UNKNOWN_EXECUTION_CONTEXT"
               (t.getD "reject_unknown_execution_context" (.bool true))).truthy
           orderbookRequired :=
             (t.getD "ENABLE_ORDERBOOK_FILTER"
               (t.getD "enable_orderbook_filter" (.bool false))).truthy
           microstructureRequired := (t.getD "REQUIRE_LIVE_MICROSTRUCTURE" (.bool false)).truthy }

/-- The age that microstructure evidence may have. -/
def maxAgeValue (t : Payload F) : Value F :=
  t.getD "MICROSTRUCTURE_MAX_AGE_SEC" (t.get "STALE_MARKET_DATA_SEC")

/-! ## 3. The contract -/

/-- What is put down of a failed gate. -/
structure Finding (F : Type) where
  observed : Value F
  threshold : Value F
  comparison : String

/-- What the contract answers. -/
structure SafetyDecision (F : Type) where
  accepted : Bool
  primaryRejectReason : Option Gate
  allFailedGates : List Gate
  failedGateEvidence : List (Gate × Finding F)
  executionEvidenceStatus : Evidence
  rawExecutionEvidenceStatus : Evidence
  missingFields : List String
  fakeZeroFields : List String
  totalExplicitCostPct : F
  volatilityPenalty : F
  effectiveRr : Option F
  minEffectiveRr : F
  requireMeasured : Bool
  microstructureRequired : Bool
  microstructure : MicrostructureAuthority F

/-- `priority`. -/
def priority : List Gate :=
  [.microstructureEvidenceInvalid, .microstructureContextUnavailable,
    .microstructureTimestampInvalid,
    .staleMicrostructure, .spoofRisk, .adverseOrderbookImbalance, .adverseAbsorption,
    .executionContextUnavailable, .invalidFakeZero, .spreadTooHigh, .slippageTooHigh,
      .highTotalCost,
    .thinLiquidity, .highLatency, .excessiveVolatility, .fundingTooHigh, .lowEffectiveRr]

/-- `critical_fields`. -/
def criticalFields (requireMeasured orderbookRequired : Bool) : List Field :=
  [.spreadPct, .expectedSlippagePct, .latencyMs, .liquidityScore, .fundingRatePct, .feePct] ++
    (if requireMeasured then [.volatilityRegime] else []) ++
    (if orderbookRequired then [.orderbookImbalance] else [])

/-- `zero_sensitive_fields`. -/
def zeroSensitiveFields (requireMeasured orderbookRequired : Bool) : List Field :=
  [.spreadPct, .expectedSlippagePct, .latencyMs] ++
    (if requireMeasured then [.fundingRatePct] else []) ++
    (if orderbookRequired then [.orderbookImbalance] else [])

section Judgement

variable (ctx : Payload F)

/-- `number`. -/
def number (f : Field) : Except PyError (Option F) := finiteIn host unavailableNames (ctx.get f.key)

/-- The numbers of the context. The regime has none. -/
def readNumbers : Except PyError (Field → Option F) := do
  let spread ← number host ctx .spreadPct
  let slippage ← number host ctx .expectedSlippagePct
  let latency ← number host ctx .latencyMs
  let liquidity ← number host ctx .liquidityScore
  let funding ← number host ctx .fundingRatePct
  let fee ← number host ctx .feePct
  let imbalance ← number host ctx .orderbookImbalance
  return fun
    | .spreadPct => spread
    | .expectedSlippagePct => slippage
    | .latencyMs => latency
    | .liquidityScore => liquidity
    | .fundingRatePct => funding
    | .feePct => fee
    | .volatilityRegime => none
    | .orderbookImbalance => imbalance

/-- What is judged: the numbers, the penalty of the regime, the effective reward-risk and its limit,
    the microstructure. -/
structure Observed (F : Type) where
  value : Field → Option F
  volatility : F
  effective : Option F
  minimum : F
  raw : Evidence
  microstructure : MicrostructureAuthority F

variable (p : Policy F) (requireMeasured : Bool) (o : Observed F)

/-- A critical field cannot be relied on. -/
def unreliable (f : Field) : Bool :=
  unavailable ctx f || status host ctx f ∈ unavailableStatuses ||
    (requireMeasured && f != .feePct && status host ctx f ∉ measuredStatuses)

/-- `invalid_numeric_fields`. -/
def invalidNumericFields : List String :=
  (numericFields.filter fun f => !unavailable ctx f && (o.value f).isNone).map Field.key

/-- `missing_fields`, in the order they are found. -/
def missingExecutionFields : List String :=
  ((criticalFields requireMeasured p.orderbookRequired).filter
      (unreliable host ctx requireMeasured)).map Field.key ++
    invalidNumericFields ctx o ++
    (if p.microstructureRequired then
      (o.microstructure.missingFields ++ o.microstructure.invalidFields).map
        ("microstructure." ++ ·)
    else [])

/-- A measured zero that nobody verified. -/
def isFakeZero (f : Field) : Bool :=
  requireMeasured && (o.value f).any (fun x => FloatNum.feq x (FloatNum.ofInt 0)) &&
    status host ctx f ∈ measuredStatuses && !zeroVerified ctx f

/-- `fake_zero_fields`. -/
def fakeZeroFields : List String :=
  ((zeroSensitiveFields requireMeasured p.orderbookRequired).filter
    (isFakeZero host ctx requireMeasured o)).map Field.key

/-- `evidence_status`. -/
def evidenceStatus : Evidence :=
  let active := (criticalFields requireMeasured p.orderbookRequired).map (status host ctx)
  if fakeZeroFields host ctx p requireMeasured o ≠ [] then .invalidFakeZero
  else if missingExecutionFields host ctx p requireMeasured o ≠ [] ∨
      (p.microstructureRequired ∧ o.microstructure.evidenceStatus ≠ .completeMeasured) then
    .unavailableBlocking
  else if requireMeasured then .completeMeasured
  else if active.any (· ∈ estimatedStatuses) then .partialEstimated
  else if active ≠ [] ∧ active.all (· ∈ measuredStatuses) then .completeMeasured
  else o.raw

/-- `total_explicit_cost`. -/
def totalExplicitCost (value : Field → Option F) : F :=
  host.round10 (host.sum
    ([Field.spreadPct, .expectedSlippagePct, .feePct, .fundingRatePct].filterMap fun f =>
      (value f).map FloatNum.abs))

/-- A list of texts, as a value. -/
def texts (names : List String) : Value F := .list (names.map .text)

/-- A nullable number, as a value. -/
def nullable : Option F → Value F
  | some x => .float x
  | none => .none

/-- A number above its limit. -/
def above (g : Gate) (x : Option F) (limit : F) : Check Gate (Finding F) :=
  ⟨g, x.any fun x => limit < x, ⟨nullable x, .float limit, ">"⟩⟩

/-- What the microstructure contract holds against the candidate. -/
def microChecks : List (Check Gate (Finding F)) :=
  if p.microstructureRequired then
    o.microstructure.blockingReasons.map fun g =>
      ⟨g, true, ⟨.mapping [("missing_fields", texts o.microstructure.missingFields),
          ("invalid_fields", texts o.microstructure.invalidFields),
          ("age_sec", nullable o.microstructure.ageSec)],
        .text "AUTHORITATIVE_FRESH_MEASURED_MICROSTRUCTURE", "required"⟩⟩
  else []

/-- The gates of the context. -/
def contextChecks : List (Check Gate (Finding F)) :=
  let missing := missingExecutionFields host ctx p requireMeasured o
  let fakeZeros := fakeZeroFields host ctx p requireMeasured o
  [⟨.executionContextUnavailable,
      (p.rejectUnknown && !missing.isEmpty) || !(invalidNumericFields ctx o).isEmpty,
      ⟨texts (sortedSet missing), .text "AVAILABLE", "required"⟩⟩,
    ⟨.invalidFakeZero, !fakeZeros.isEmpty,
      ⟨texts (sortedSet fakeZeros), .text "VERIFIED_ZERO_OR_NONZERO", "required"⟩⟩,
    above .spreadTooHigh (o.value .spreadPct) p.maxSpread,
    above .slippageTooHigh (o.value .expectedSlippagePct) p.maxSlippage,
    above .highTotalCost (some (totalExplicitCost host o.value)) p.maxTotalCost,
    ⟨.thinLiquidity, (o.value .liquidityScore).any fun x => x < p.minLiquidity,
      ⟨nullable (o.value .liquidityScore), .float p.minLiquidity, "<"⟩⟩,
    above .highLatency (o.value .latencyMs) p.maxLatency,
    above .excessiveVolatility (some o.volatility) p.maxVolatilityPenalty,
    above .fundingTooHigh ((o.value .fundingRatePct).map FloatNum.abs) p.maxFunding,
    ⟨.lowEffectiveRr, o.effective.all fun x => x < o.minimum,
      ⟨nullable o.effective, .float o.minimum,
        if o.effective.isNone then "FINITE_RR_REQUIRED" else "<"⟩⟩]

/-- All gates, in the order of the source. -/
def checks : List (Check Gate (Finding F)) :=
  microChecks p o ++ contextChecks host ctx p requireMeasured o

/-- The judgement of what was observed. -/
def judgeSafety : SafetyDecision F :=
  let found := Findings.run (checks host ctx p requireMeasured o)
  { accepted := found.failed.isEmpty
    primaryRejectReason := primary priority found.failed
    allFailedGates := found.failed
    failedGateEvidence := found.evidence
    executionEvidenceStatus := evidenceStatus host ctx p requireMeasured o
    rawExecutionEvidenceStatus := o.raw
    missingFields := sortedSet (missingExecutionFields host ctx p requireMeasured o)
    fakeZeroFields := sortedSet (fakeZeroFields host ctx p requireMeasured o)
    totalExplicitCostPct := totalExplicitCost host o.value
    volatilityPenalty := o.volatility
    effectiveRr := o.effective.map host.round6
    minEffectiveRr := o.minimum
    requireMeasured := requireMeasured
    microstructureRequired := p.microstructureRequired
    microstructure := o.microstructure }

end Judgement

/-- `str(execution_ctx.get("trade_side") or "") or None`. -/
def tradeSide (ctx : Payload F) : Option String :=
  let side := ctx.get "trade_side"
  let text := if side.truthy then side.str host.toBuiltins else ""
  if text = "" then none else some text

/-- `evaluate_execution_safety`. -/
def evaluateExecutionSafety (ctx : Payload F) (effectiveRr : Value F) (minEffectiveRr : F)
    (thresholds : Payload F) (requireMeasured : Bool) : Except PyError (SafetyDecision F) := do
  let volatility ← costVolatilityPenalty host ctx
  let raw ← classifyExecutionEvidence host ctx requireMeasured
  let p ← readPolicy host thresholds
  let microstructure ← evaluateMicrostructureAuthority host ctx (tradeSide host ctx)
    p.microstructureRequired (ctx.get "microstructure_reference_ts") (maxAgeValue thresholds)
  let value ← readNumbers host ctx
  let effective ← finiteFloat host effectiveRr
  return judgeSafety host ctx p requireMeasured
    ⟨value, volatility, effective, minEffectiveRr, raw, microstructure⟩

/-! ## 4. What is read -/

section Reads

variable {ε α : Type}

/-- What follows a check that refuses answers where the check passes. -/
theorem refuse_ok_iff {b : Bool} {e : ε} {x : Except ε α} {a : α} :
    (if b then Except.error e else x) = Except.ok a ↔ b = false ∧ x = .ok a := by
  cases b <;> simp

theorem forM_refuse {c : α → Bool} {e : ε} (xs : List α) :
    (xs.forM fun x => if c x then Except.error e else Except.ok ()) =
      if xs.any c then .error e else .ok () := by
  induction xs with
  | nil => rfl
  | cons x rest ih =>
    show ((if c x then Except.error e else Except.ok ()) >>= fun _ =>
      rest.forM fun x => if c x then Except.error e else Except.ok ()) = _
    rw [ih, List.any_cons]
    cases c x <;> rfl

theorem selectM_refuse {c p : α → Bool} {e : ε} (xs : List α) :
    selectM (fun x => if c x then Except.error e else Except.ok (p x)) xs =
      if xs.any c then .error e else .ok (xs.filter p) := by
  induction xs with
  | nil => rfl
  | cons x rest ih =>
    rw [selectM, ih, List.any_cons, List.filter_cons]
    cases c x with
    | true => rfl
    | false => cases rest.any c <;> rfl

end Reads

variable (ctx : Payload F)

/-- The value of a field. -/
def fieldValue (f : Field) : Value F := ctx.get f.key

/-- A measured zero of the raw evidence class that nobody verified. -/
def rawFakeZero (requireMeasured : Bool) (f : Field) : Bool :=
  (toFloat host (fieldValue ctx f)).toOption.any (fun x => FloatNum.feq x (FloatNum.ofInt 0)) &&
    (requireMeasured || statedStatus host ctx f ∈ measuredStatuses) && !zeroVerified ctx f

/-- The raw evidence class. -/
def rawEvidence (requireMeasured : Bool) : Evidence :=
  evidenceClass (classifiedFields.map (statedStatus host ctx))
    (requiredFields.filter (unavailable ctx))
    (zeroFields.filter (rawFakeZero host ctx requireMeasured)) requireMeasured

/-- The penalty of the regime of the context. -/
def regimePenalty : F :=
  let regime := ctx.getD "volatility_regime" (.text "")
  volatilityPenalty (lower (if regime.truthy then regime.str host.toBuiltins else ""))

/-- The numbers of the context. -/
def numbers (f : Field) : Option F :=
  if f = .volatilityRegime then none else reading host unavailableNames (fieldValue ctx f)

theorem classify_eq (requireMeasured : Bool) :
    classifyExecutionEvidence host ctx requireMeasured =
      if zeroFields.any (fun f => overflows (fieldValue ctx f)) then .error .overflowError
      else .ok (rawEvidence host ctx requireMeasured) := by
  unfold classifyExecutionEvidence isZero
  have hstep : ∀ f : Field, (do
      let zero ← (do
        let parsed ← tryFloat host (ctx.get f.key)
        return parsed.any fun x => FloatNum.feq x (FloatNum.ofInt 0) : Except PyError Bool)
      return zero && (requireMeasured || statedStatus host ctx f ∈ measuredStatuses) &&
        !zeroVerified ctx f : Except PyError Bool) =
      if overflows (fieldValue ctx f) then .error .overflowError
      else .ok (rawFakeZero host ctx requireMeasured f) := by
    intro f
    rw [tryFloat_eq, refuse_bind]
    unfold fieldValue
    cases overflows (ctx.get f.key) <;> rfl
  simp only [hstep, selectM_refuse, refuse_bind]
  rfl

/-- What is missing is within the float range. -/
theorem overflows_of_unavailable {f : Field} (h : unavailable ctx f = true) :
    overflows (fieldValue ctx f) = false := by
  unfold unavailable at h
  unfold fieldValue
  cases hv : ctx.get f.key with
  | int n =>
    rw [hv] at h
    cases h
  | _ => rfl

theorem costVolatilityPenalty_eq :
    costVolatilityPenalty host ctx =
      if (costFields ++ zeroFields).any (fun f => overflows (fieldValue ctx f)) then
        .error .overflowError
      else .ok (regimePenalty host ctx) := by
  unfold costVolatilityPenalty
  have hstep : ∀ f : Field,
      (if unavailable ctx f then Except.ok ()
        else (fun _ => ()) <$> tryFloat host (ctx.get f.key) : Except PyError Unit) =
      if overflows (fieldValue ctx f) then .error .overflowError else .ok () := by
    intro f
    cases h : unavailable ctx f with
    | true => rw [overflows_of_unavailable ctx h]; rfl
    | false =>
      rw [tryFloat_eq]
      unfold fieldValue
      cases overflows (ctx.get f.key) <;> rfl
  simp only [hstep, forM_refuse, classify_eq, refuse_bind, refuse_or, List.any_append]
  rfl

theorem readNumbers_eq :
    readNumbers host ctx =
      if numericFields.any (fun f => overflows (fieldValue ctx f)) then .error .overflowError
      else .ok (numbers host ctx) := by
  unfold readNumbers number
  simp only [finiteIn_eq, refuse_bind, refuse_or, numericFields, List.any_cons, List.any_nil,
    Bool.or_false]
  congr 1
  refine congrArg Except.ok (funext fun f => ?_)
  cases f <;> rfl

/-- The values that are read as numbers. -/
def readValues (thresholds : Payload F) (effectiveRr : Value F) : List (Value F) :=
  (costFields ++ zeroFields).map (fieldValue ctx) ++
    microValues ctx (ctx.get "microstructure_reference_ts") (maxAgeValue thresholds) ++
      [effectiveRr]

/-- The microstructure of the context. -/
def microReadingsOf (thresholds : Payload F) : MicroReadings F :=
  microReadings host ctx (ctx.get "microstructure_reference_ts") (maxAgeValue thresholds)

/-- The side of the context. -/
def sideOf : String := normalizedSide host ctx (tradeSide host ctx)

/-- What the contract judges. -/
def observed (thresholds : Payload F) (p : Policy F) (effectiveRr : Value F) (minimum : F)
    (requireMeasured : Bool) : Observed F :=
  { value := numbers host ctx
    volatility := regimePenalty host ctx
    effective := reading host [] effectiveRr
    minimum := minimum
    raw := rawEvidence host ctx requireMeasured
    microstructure := judgeMicrostructure host ctx (microReadingsOf host ctx thresholds)
      (sideOf host ctx) p.microstructureRequired }

variable {host ctx} {effectiveRr : Value F} {minimum : F} {thresholds : Payload F}
  {requireMeasured : Bool} {d : SafetyDecision F}

/-- **The contract answers where the limits are numbers and no value is beyond the float range.** -/
theorem evaluate_ok_iff :
    evaluateExecutionSafety host ctx effectiveRr minimum thresholds requireMeasured = .ok d ↔
      (∀ v ∈ readValues ctx thresholds effectiveRr, overflows v = false) ∧
        ∃ p, readPolicy host thresholds = .ok p ∧ d = judgeSafety host ctx p requireMeasured
          (observed host ctx thresholds p effectiveRr minimum requireMeasured) := by
  have hcost : ((costFields ++ zeroFields).any fun f => overflows (fieldValue ctx f)) = false ↔
      ∀ v ∈ (costFields ++ zeroFields).map (fieldValue ctx), overflows v = false := by
    rw [List.any_eq_false, List.forall_mem_map]
    simp
  have hmicro : (microValues ctx (ctx.get "microstructure_reference_ts")
      (maxAgeValue thresholds)).any overflows = false ↔ ∀ v ∈ microValues ctx
        (ctx.get "microstructure_reference_ts") (maxAgeValue thresholds), overflows v = false := by
    rw [List.any_eq_false]
    simp
  have hsub : (∀ v ∈ (costFields ++ zeroFields).map (fieldValue ctx), overflows v = false) →
      (zeroFields.any fun f => overflows (fieldValue ctx f)) = false ∧
        (numericFields.any fun f => overflows (fieldValue ctx f)) = false := by
    intro h
    have hfield : ∀ f ∈ costFields ++ zeroFields, ¬ overflows (fieldValue ctx f) = true := by
      intro f hf
      rw [h _ (List.mem_map_of_mem hf)]
      exact Bool.false_ne_true
    exact ⟨List.any_eq_false.mpr fun f hf => hfield f (List.mem_append_right _ hf),
      List.any_eq_false.mpr fun f hf => hfield f (by revert hf; cases f <;> decide)⟩
  unfold evaluateExecutionSafety evaluateMicrostructureAuthority
  simp only [costVolatilityPenalty_eq, classify_eq, readMicrostructure_eq, readNumbers_eq,
    finiteFloat_eq, refuse_bind]
  rw [readValues, List.forall_mem_append, List.forall_mem_append,
    List.forall_mem_singleton, ← hcost,
    ← hmicro]
  constructor
  · intro h
    obtain ⟨hc, h⟩ := refuse_ok_iff.mp h
    obtain ⟨_, h⟩ := refuse_ok_iff.mp h
    obtain ⟨p, hp, h⟩ := ok_of_bind h
    obtain ⟨microstructure, hjudged, h⟩ := ok_of_bind h
    obtain ⟨hm, hjudged⟩ := refuse_ok_iff.mp hjudged
    obtain ⟨_, h⟩ := refuse_ok_iff.mp h
    obtain ⟨hr, h⟩ := refuse_ok_iff.mp h
    cases hjudged
    exact ⟨⟨⟨hc, hm⟩, hr⟩, p, hp, (Except.ok.inj h).symm⟩
  · rintro ⟨⟨⟨hc, hm⟩, hr⟩, p, hp, rfl⟩
    obtain ⟨hz, hn⟩ := hsub (hcost.mp hc)
    simp only [hc, hz, hp, hm, hn, hr, ok_bind]
    rfl

/-! ## 5. What the contract accepts -/

/-- What an accepted candidate is. Where unknown evidence is tolerated, a field without a number is
    within every limit. -/
structure Safe (host : Host F) (ctx : Payload F) (p : Policy F) (requireMeasured : Bool)
    (effective : Option F) (minimum : F) (r : MicroReadings F) (side : String) : Prop where
  microstructure : p.microstructureRequired = true → Tradable host ctx r side
  known : p.rejectUnknown = true → ∀ f ∈ criticalFields requireMeasured p.orderbookRequired,
    unavailable ctx f = false ∧ status host ctx f ∉ unavailableStatuses ∧
      (requireMeasured = true → f ≠ .feePct → status host ctx f ∈ measuredStatuses)
  numeric : ∀ f ∈ numericFields, unavailable ctx f = true ∨ ∃ x, numbers host ctx f = some x
  zeros : requireMeasured = true → ∀ f ∈ zeroSensitiveFields requireMeasured p.orderbookRequired,
    status host ctx f ∈ measuredStatuses → ∀ x, numbers host ctx f = some x →
      FloatNum.feq x (FloatNum.ofInt 0) = true → zeroVerified ctx f = true
  spread : ∀ x, numbers host ctx .spreadPct = some x → ¬ p.maxSpread < x
  slippage : ∀ x, numbers host ctx .expectedSlippagePct = some x → ¬ p.maxSlippage < x
  cost : ¬ p.maxTotalCost < totalExplicitCost host (numbers host ctx)
  liquidity : ∀ x, numbers host ctx .liquidityScore = some x → ¬ x < p.minLiquidity
  latency : ∀ x, numbers host ctx .latencyMs = some x → ¬ p.maxLatency < x
  volatility : ¬ p.maxVolatilityPenalty < regimePenalty host ctx
  funding : ∀ x, numbers host ctx .fundingRatePct = some x → ¬ p.maxFunding < FloatNum.abs x
  reward : ∃ x, effective = some x ∧ ¬ x < minimum

section Accepts

variable {p : Policy F} {o : Observed F} {r : MicroReadings F} {side : String}

theorem ageReason_sublist (required : Bool) :
    (ageReason r required).Sublist [.microstructureTimestampInvalid, .staleMicrostructure] := by
  unfold ageReason
  split
  · split
    · exact List.cons_sublist_cons.mpr (List.nil_sublist _)
    · split
      · exact List.Sublist.cons _ (List.Sublist.refl _)
      · exact List.nil_sublist _
  · exact List.nil_sublist _

omit [FloatNum F] in
theorem if_sublist {c : Prop} [Decidable c] (g : Gate) :
    (if c then [g] else []).Sublist [g] := by
  split
  · exact List.Sublist.refl _
  · exact List.nil_sublist _

/-- The gates in the order of the source: pressure comes before spoofing. -/
theorem blockers_sublist (required : Bool) :
    (blockers host ctx r side required).Sublist
      [.microstructureEvidenceInvalid, .microstructureContextUnavailable,
        .microstructureTimestampInvalid, .staleMicrostructure,
          .adverseOrderbookImbalance, .spoofRisk,
        .adverseAbsorption] :=
  ((((if_sublist Gate.microstructureEvidenceInvalid).append
    (if_sublist Gate.microstructureContextUnavailable)).append (ageReason_sublist required)).append
    (if_sublist Gate.adverseOrderbookImbalance)).append (if_sublist Gate.spoofRisk) |>.append
    (if_sublist Gate.adverseAbsorption)

/-- No two gates of the contract are the same. -/
theorem checks_nodup (hreasons : o.microstructure.blockingReasons.Sublist
      [.microstructureEvidenceInvalid, .microstructureContextUnavailable,
        .microstructureTimestampInvalid, .staleMicrostructure,
          .adverseOrderbookImbalance, .spoofRisk,
        .adverseAbsorption]) :
    ((checks host ctx p requireMeasured o).map Check.gate).Nodup := by
  have hmicro : ((microChecks p o).map Check.gate).Sublist
      [.microstructureEvidenceInvalid, .microstructureContextUnavailable,
        .microstructureTimestampInvalid, .staleMicrostructure,
          .adverseOrderbookImbalance, .spoofRisk,
        .adverseAbsorption] := by
    unfold microChecks
    split
    · rw [List.map_map]
      simpa [Function.comp_def] using hreasons
    · exact List.nil_sublist _
  unfold checks
  rw [List.map_append]
  refine (hmicro.append (List.Sublist.refl ((contextChecks host ctx p requireMeasured o).map
    Check.gate))).nodup ?_
  show ([Gate.microstructureEvidenceInvalid, .microstructureContextUnavailable,
    .microstructureTimestampInvalid, .staleMicrostructure, .adverseOrderbookImbalance, .spoofRisk,
    .adverseAbsorption, .executionContextUnavailable, .invalidFakeZero, .spreadTooHigh,
    .slippageTooHigh, .highTotalCost, .thinLiquidity, .highLatency, .excessiveVolatility,
    .fundingTooHigh, .lowEffectiveRr] : List Gate).Nodup
  decide

omit [FloatNum F] in
theorem microChecks_pass :
    (∀ c ∈ microChecks p o, c.fails = false) ↔
      (p.microstructureRequired = true → o.microstructure.blockingReasons = []) := by
  unfold microChecks
  cases p.microstructureRequired with
  | false => simp
  | true => simp [List.eq_nil_iff_forall_not_mem]

theorem above_pass {g : Gate} {x : Option F} {limit : F} :
    (above g x limit).fails = false ↔ ∀ y, x = some y → ¬ limit < y := by
  cases x <;> simp [above]

theorem missing_eq_nil :
    missingExecutionFields host ctx p requireMeasured o = [] ↔
      (∀ f ∈ criticalFields requireMeasured p.orderbookRequired,
        unreliable host ctx requireMeasured f = false) ∧ invalidNumericFields ctx o = [] ∧
      (p.microstructureRequired = true →
        o.microstructure.missingFields = [] ∧ o.microstructure.invalidFields = []) := by
  unfold missingExecutionFields
  simp only [List.append_eq_nil_iff, List.map_eq_nil_iff, List.filter_eq_nil_iff, Bool.not_eq_true,
    ite_eq_right_iff, and_assoc]

theorem unreliable_eq_false {f : Field} :
    unreliable host ctx requireMeasured f = false ↔
      unavailable ctx f = false ∧ status host ctx f ∉ unavailableStatuses ∧
        (requireMeasured = true → f ≠ .feePct → status host ctx f ∈ measuredStatuses) := by
  unfold unreliable
  simp only [Bool.or_eq_false_iff, Bool.and_eq_false_iff, decide_eq_false_iff_not, not_not,
    and_assoc, bne_eq_false_iff_eq]
  cases requireMeasured with
  | false => simp
  | true =>
    by_cases hfee : f = .feePct
    · simp [hfee]
    · simp [hfee]

omit [FloatNum F] in
theorem invalidNumericFields_eq_nil :
    invalidNumericFields ctx o = [] ↔
      ∀ f ∈ numericFields, unavailable ctx f = true ∨ ∃ x, o.value f = some x := by
  unfold invalidNumericFields
  rw [List.map_eq_nil_iff, List.filter_eq_nil_iff]
  refine forall₂_congr fun f _ => ?_
  cases o.value f <;> simp

theorem fakeZeroFields_eq_nil :
    fakeZeroFields host ctx p requireMeasured o = [] ↔
      (requireMeasured = true → ∀ f ∈ zeroSensitiveFields requireMeasured p.orderbookRequired,
        status host ctx f ∈ measuredStatuses → ∀ x, o.value f = some x →
          FloatNum.feq x (FloatNum.ofInt 0) = true → zeroVerified ctx f = true) := by
  unfold fakeZeroFields isFakeZero
  rw [List.map_eq_nil_iff, List.filter_eq_nil_iff]
  cases requireMeasured with
  | false => simp
  | true =>
    simp only [eq_self, true_imp_iff]
    refine forall₂_congr fun f _ => ?_
    cases o.value f with
    | none => simp
    | some x =>
      simp only [Option.any_some, Bool.true_and, Bool.and_eq_true, decide_eq_true_eq,
        Bool.not_eq_true', not_and, Bool.not_eq_false, Option.some.injEq, forall_eq']
      exact ⟨fun h hm hz => h ⟨hz, hm⟩, fun h hz => h hz.2 hz.1⟩

/-- The gates of the context pass. -/
theorem contextChecks_pass :
    (∀ c ∈ contextChecks host ctx p requireMeasured o, c.fails = false) ↔
      ((p.rejectUnknown = true → missingExecutionFields host ctx p requireMeasured o = []) ∧
        invalidNumericFields ctx o = []) ∧ fakeZeroFields host ctx p requireMeasured o = [] ∧
      (∀ x, o.value .spreadPct = some x → ¬ p.maxSpread < x) ∧
      (∀ x, o.value .expectedSlippagePct = some x → ¬ p.maxSlippage < x) ∧
      ¬ p.maxTotalCost < totalExplicitCost host o.value ∧
      (∀ x, o.value .liquidityScore = some x → ¬ x < p.minLiquidity) ∧
      (∀ x, o.value .latencyMs = some x → ¬ p.maxLatency < x) ∧
      ¬ p.maxVolatilityPenalty < o.volatility ∧
      (∀ x, o.value .fundingRatePct = some x → ¬ p.maxFunding < FloatNum.abs x) ∧
      ∃ x, o.effective = some x ∧ ¬ x < o.minimum := by
  have hcontext : ((p.rejectUnknown && !(missingExecutionFields host ctx p requireMeasured
    o).isEmpty) ||
      !(invalidNumericFields ctx o).isEmpty) = false ↔
      (p.rejectUnknown = true → missingExecutionFields host ctx p requireMeasured o = []) ∧
        invalidNumericFields ctx o = [] := by
    rw [Bool.or_eq_false_iff, Bool.and_eq_false_iff, Bool.not_eq_false', Bool.not_eq_false',
      List.isEmpty_iff, List.isEmpty_iff]
    cases p.rejectUnknown <;> simp
  have hliquidity : (o.value .liquidityScore).any (fun x => decide (x < p.minLiquidity)) = false ↔
      ∀ x, o.value .liquidityScore = some x → ¬ x < p.minLiquidity := by
    cases o.value .liquidityScore <;> simp
  have hfunding : (∀ x, (o.value .fundingRatePct).map FloatNum.abs = some x → ¬ p.maxFunding < x) ↔
      ∀ x, o.value .fundingRatePct = some x → ¬ p.maxFunding < FloatNum.abs x := by
    cases o.value .fundingRatePct <;> simp
  have hreward : o.effective.all (fun x => decide (x < o.minimum)) = false ↔
      ∃ x, o.effective = some x ∧ ¬ x < o.minimum := by
    cases o.effective <;> simp
  unfold contextChecks
  simp only [List.forall_mem_cons, List.not_mem_nil, false_imp_iff, implies_true,
    and_true, above_pass,
    hcontext, hliquidity, hfunding, hreward, Bool.not_eq_false', List.isEmpty_iff,
      Option.some.injEq,
    forall_eq']

/-- Without reasons the microstructure is tradable, and lacks nothing. -/
theorem tradable_iff :
    blockers host ctx r side true = [] ↔ Tradable host ctx r side := by
  rw [← authority_accepts_iff]
  exact List.isEmpty_iff.symm

theorem complete_of_tradable (h : Tradable host ctx r side) :
    (judgeMicrostructure host ctx r side true).missingFields = [] ∧
      (judgeMicrostructure host ctx r side true).invalidFields = [] := by
  obtain ⟨hinvalid, hmissing, _⟩ := blockers_eq_nil.mp (tradable_iff.mpr h)
  exact ⟨sortedSet_eq_nil.mpr hmissing, sortedSet_eq_nil.mpr hinvalid⟩

/-- All gates pass exactly where the candidate is safe. -/
theorem checks_pass {effective : Option F} {raw : Evidence} :
    (∀ c ∈ checks host ctx p requireMeasured
      ⟨numbers host ctx, regimePenalty host ctx, effective, minimum, raw,
        judgeMicrostructure host ctx r side p.microstructureRequired⟩, c.fails = false) ↔
      Safe host ctx p requireMeasured effective minimum r side := by
  unfold checks
  rw [List.forall_mem_append, microChecks_pass, contextChecks_pass, missing_eq_nil,
    invalidNumericFields_eq_nil, fakeZeroFields_eq_nil]
  constructor
  · rintro ⟨hmicro, ⟨hknown, hnumeric⟩, hzeros, hspread, hslippage, hcost, hliquidity, hlatency,
      hvolatility, hfunding, hreward⟩
    constructor
    · intro hrequired
      rw [hrequired] at hmicro
      exact tradable_iff.mp (hmicro rfl)
    · exact fun hreject f hf => unreliable_eq_false.mp ((hknown hreject).1 f hf)
    all_goals assumption
  · intro h
    refine ⟨fun hrequired => ?_, ⟨fun hreject => ⟨fun f hf => ?_, h.numeric, fun hrequired => ?_⟩,
      h.numeric⟩, h.zeros, h.spread, h.slippage, h.cost, h.liquidity, h.latency, h.volatility,
      h.funding, h.reward⟩
    · rw [hrequired]
      exact tradable_iff.mpr (h.microstructure hrequired)
    · exact unreliable_eq_false.mpr (h.known hreject f hf)
    · rw [hrequired]
      exact complete_of_tradable (h.microstructure hrequired)

end Accepts

section Decision

theorem mem_priority (g : Gate) : g ∈ priority := by cases g <;> decide

/-- The gates of what the contract observes are pairwise different. -/
theorem observed_nodup {p : Policy F} :
    ((checks host ctx p requireMeasured (observed host ctx thresholds p effectiveRr minimum
      requireMeasured)).map Check.gate).Nodup :=
  checks_nodup (blockers_sublist p.microstructureRequired)

theorem accepted_iff {p : Policy F} :
    (judgeSafety host ctx p requireMeasured (observed host ctx thresholds p effectiveRr minimum
      requireMeasured)).accepted = true ↔
      Safe host ctx p requireMeasured (reading host [] effectiveRr) minimum
        (microReadingsOf host ctx thresholds) (sideOf host ctx) :=
  List.isEmpty_iff.trans ((findings_nil_iff observed_nodup).trans checks_pass)

/-- Under strict rules what is accepted is measured throughout. -/
theorem evidence_complete {p : Policy F} (hreject : p.rejectUnknown = true)
    (h : Safe host ctx p true (reading host [] effectiveRr) minimum
      (microReadingsOf host ctx thresholds) (sideOf host ctx)) :
    evidenceStatus host ctx p true (observed host ctx thresholds p effectiveRr minimum true) =
      .completeMeasured := by
  have hall : ∀ c ∈ checks host ctx p true
      (observed host ctx thresholds p effectiveRr minimum true), c.fails = false :=
    checks_pass.mpr h
  have hpass := contextChecks_pass.mp (List.forall_mem_append.mp hall).2
  have hmissing : missingExecutionFields host ctx p true
      (observed host ctx thresholds p effectiveRr minimum true) = [] := hpass.1.1 hreject
  have hzeros : fakeZeroFields host ctx p true
      (observed host ctx thresholds p effectiveRr minimum true) = [] := hpass.2.1
  have hmicro : ¬ (p.microstructureRequired = true ∧ (observed host ctx thresholds p effectiveRr
      minimum true).microstructure.evidenceStatus ≠ .completeMeasured) := by
    rintro ⟨hrequired, hstatus⟩
    obtain ⟨hinvalid, hlacking, _⟩ := blockers_eq_nil.mp
      (tradable_iff.mpr (h.microstructure hrequired))
    apply hstatus
    show microEvidence host ctx (microReadingsOf host ctx thresholds) (invalidFields ctx _)
      (missingFields host ctx _ _ p.microstructureRequired) p.microstructureRequired = _
    rw [hrequired, hinvalid, hlacking]
    rfl
  unfold evidenceStatus
  rw [if_neg (not_not.mpr hzeros), if_neg (not_or.mpr ⟨not_not.mpr hmissing, hmicro⟩), if_pos rfl]

/-- What is supplied is a Boolean, or is read as no finite number. -/
def Malformed (host : Host F) (v : Value F) : Prop :=
  isBool v = true ∨
    (missingIn unavailableNames v = false ∧ ∀ x, toFloat host v = .ok x →
      FloatNum.isFinite x = false)

theorem reading_malformed {names : List String} {v : Value F} (h : Malformed host v) :
    reading host names v = none := by
  unfold reading
  rcases h with hbool | ⟨_, hnot⟩
  · rw [hbool]
    rfl
  · split
    · rfl
    · cases hv : toFloat host v with
      | error e => rfl
      | ok x => simp [Except.toOption, hnot x hv]

theorem supplied_malformed {v : Value F} (h : Malformed host v) :
    missingIn unavailableNames v = false := by
  rcases h with hbool | ⟨hsupplied, _⟩
  · cases v <;> first | rfl | cases hbool
  · exact hsupplied

/-- What is malformed fails its gate, whatever is tolerated. -/
theorem malformed_fails {p : Policy F} {f : Field} (hf : f ∈ numericFields)
    (h : Malformed host (ctx.get f.key)) :
    .executionContextUnavailable ∈ (judgeSafety host ctx p requireMeasured
      (observed host ctx thresholds p effectiveRr minimum requireMeasured)).allFailedGates := by
  refine (mem_failed_iff observed_nodup).mpr ⟨_,
    List.mem_append_right _ List.mem_cons_self, ?_, rfl⟩
  have hinvalid : invalidNumericFields ctx
      (observed host ctx thresholds p effectiveRr minimum requireMeasured) ≠ [] := by
    intro hnil
    rcases invalidNumericFields_eq_nil.mp hnil f hf with hmissing | ⟨x, hx⟩
    · have hsupplied := supplied_malformed h
      unfold unavailable at hmissing
      rw [hsupplied] at hmissing
      cases hmissing
    · have hnone : numbers host ctx f = none := by
        unfold numbers fieldValue
        split
        · rfl
        · exact reading_malformed h
      exact absurd (hnone.symm.trans hx) (Option.some_ne_none x).symm
  simp [hinvalid]

/-- So does what is malformed in the microstructure, where that is required. -/
theorem malformedMicro_fails {p : Policy F} (hrequired : p.microstructureRequired = true)
    {f : MicroField} (h : Malformed host (ctx.get f.key)) :
    .microstructureEvidenceInvalid ∈ (judgeSafety host ctx p requireMeasured
      (observed host ctx thresholds p effectiveRr minimum requireMeasured)).allFailedGates := by
  have hinvalid : invalidFields ctx (microReadingsOf host ctx thresholds) ≠ [] := by
    intro hnil
    rcases (invalidFields_eq_nil.mp hnil).1 f with hmissing | hsome
    · rw [supplied_malformed h] at hmissing
      cases hmissing
    · have hnone : (microReadingsOf host ctx thresholds).value f = none := reading_malformed h
      rw [hnone] at hsome
      cases hsome
  have hblocked : .microstructureEvidenceInvalid ∈
    blockers host ctx (microReadingsOf host ctx thresholds)
      (sideOf host ctx) p.microstructureRequired := by
    unfold blockers
    rw [if_pos hinvalid]
    simp
  have hcheck : ∃ c ∈ microChecks p
      (observed host ctx thresholds p effectiveRr minimum requireMeasured), c.fails = true ∧
        c.gate = .microstructureEvidenceInvalid := by
    unfold microChecks
    rw [if_pos hrequired]
    exact ⟨_, List.mem_map_of_mem hblocked, rfl, rfl⟩
  obtain ⟨c, hc, hfails, hgate⟩ := hcheck
  exact (mem_failed_iff observed_nodup).mpr ⟨c, List.mem_append_left _ hc, hfails, hgate⟩

/-- An effective reward-risk that is no finite number fails its gate. -/
theorem unknownReward_fails {p : Policy F} (h : reading host [] effectiveRr = none) :
    .lowEffectiveRr ∈ (judgeSafety host ctx p requireMeasured
      (observed host ctx thresholds p effectiveRr minimum requireMeasured)).allFailedGates := by
  refine (mem_failed_iff observed_nodup).mpr
    ⟨⟨.lowEffectiveRr, _, _⟩, List.mem_append_right _ (List.mem_of_getLast? rfl), ?_, rfl⟩
  show (reading host [] effectiveRr).all (fun x => x < minimum) = true
  rw [h]
  rfl

/-- Where the limits are numbers, an accepted candidate is inside them. -/
structure Within (host : Host F) (ctx : Payload F) (p : Policy F) (effective : Option F)
    (minimum : F) :
    Prop where
  finite : ∀ f x, numbers host ctx f = some x → FloatNum.isFinite x = true
  spread : IsNumber p.maxSpread → ∀ x, numbers host ctx .spreadPct = some x → x ≤ p.maxSpread
  slippage : IsNumber p.maxSlippage → ∀ x, numbers host ctx .expectedSlippagePct = some x →
    x ≤ p.maxSlippage
  liquidity : IsNumber p.minLiquidity → ∀ x, numbers host ctx .liquidityScore = some x →
    p.minLiquidity ≤ x
  latency : IsNumber p.maxLatency → ∀ x, numbers host ctx .latencyMs = some x → x ≤ p.maxLatency
  funding : IsNumber p.maxFunding → ∀ x, numbers host ctx .fundingRatePct = some x →
    FloatNum.abs x ≤ p.maxFunding
  cost : IsNumber p.maxTotalCost → IsNumber (totalExplicitCost host (numbers host ctx)) →
    totalExplicitCost host (numbers host ctx) ≤ p.maxTotalCost
  volatility : IsNumber p.maxVolatilityPenalty → IsNumber (regimePenalty host ctx) →
    regimePenalty host ctx ≤ p.maxVolatilityPenalty
  reward : ∃ x, effective = some x ∧ FloatNum.isFinite x = true ∧ (IsNumber minimum → minimum ≤ x)

theorem numbers_finite {f : Field} {x : F} (h : numbers host ctx f = some x) :
    FloatNum.isFinite x = true := by
  unfold numbers at h
  split at h
  · cases h
  · exact reading_finite host h

theorem within_of_safe {p : Policy F} {r : MicroReadings F} {side : String}
    (h : Safe host ctx p requireMeasured (reading host [] effectiveRr) minimum r side) :
    Within host ctx p (reading host [] effectiveRr) minimum := by
  have hnumber : ∀ f x, numbers host ctx f = some x → IsNumber x :=
    fun f x hx => isNumber_of_finite (numbers_finite hx)
  refine ⟨fun f x hx => numbers_finite hx, ?_, ?_, ?_, ?_, ?_, ?_, ?_, ?_⟩
  · exact fun hlimit x hx => FloatNum.le_of_not_lt hlimit (hnumber _ x hx) (h.spread x hx)
  · exact fun hlimit x hx => FloatNum.le_of_not_lt hlimit (hnumber _ x hx) (h.slippage x hx)
  · exact fun hlimit x hx => FloatNum.le_of_not_lt (hnumber _ x hx) hlimit (h.liquidity x hx)
  · exact fun hlimit x hx => FloatNum.le_of_not_lt hlimit (hnumber _ x hx) (h.latency x hx)
  · intro hlimit x hx
    have habs : IsNumber (FloatNum.abs x) := FloatNum.denotes_abs x (hnumber _ x hx)
    exact FloatNum.le_of_not_lt hlimit habs (h.funding x hx)
  · exact fun hlimit htotal => FloatNum.le_of_not_lt hlimit htotal h.cost
  · exact fun hlimit hpenalty => FloatNum.le_of_not_lt hlimit hpenalty h.volatility
  · obtain ⟨x, hx, hnot⟩ := h.reward
    have hfinite := reading_finite host hx
    exact ⟨x, hx, hfinite, fun hlimit =>
      FloatNum.le_of_not_lt (isNumber_of_finite hfinite) hlimit hnot⟩

/-- What is true of an answer under a policy. -/
structure Decided (host : Host F) (ctx thresholds : Payload F) (effectiveRr : Value F) (minimum : F)
    (requireMeasured : Bool) (p : Policy F) (d : SafetyDecision F) : Prop where
  accepts : d.accepted = true ↔ d.allFailedGates = []
  safe : d.accepted = true ↔ Safe host ctx p requireMeasured (reading host [] effectiveRr) minimum
    (microReadingsOf host ctx thresholds) (sideOf host ctx)
  within : d.accepted = true → Within host ctx p (reading host [] effectiveRr) minimum
  primary : ∀ g, d.primaryRejectReason = some g ↔ g ∈ d.allFailedGates ∧ ∃ before after,
    priority = before ++ g :: after ∧ ∀ other ∈ before, other ∉ d.allFailedGates
  reason : d.accepted = false → ∃ g ∈ d.allFailedGates, d.primaryRejectReason = some g
  evidence : d.failedGateEvidence.map Prod.fst = d.allFailedGates
  malformed : ∀ f ∈ numericFields, Malformed host (ctx.get f.key) →
    .executionContextUnavailable ∈ d.allFailedGates
  malformedMicro : p.microstructureRequired = true → ∀ f : MicroField,
    Malformed host (ctx.get f.key) → .microstructureEvidenceInvalid ∈ d.allFailedGates
  unknownReward : reading host [] effectiveRr = none → .lowEffectiveRr ∈ d.allFailedGates
  measured : d.accepted = true → requireMeasured = true → p.rejectUnknown = true →
    (∀ f ∈ criticalFields true p.orderbookRequired, unavailable ctx f = false ∧
      status host ctx f ∉ unavailableStatuses ∧
        (f ≠ .feePct → status host ctx f ∈ measuredStatuses)) ∧
    d.executionEvidenceStatus = .completeMeasured

/-- **The contract accepts exactly the safe candidates and rejects for the first gate that fails.**
    It answers where the limits are numbers and no value is beyond the float range; every failed
    gate is put down; what is malformed fails its gate, whatever is tolerated; and under strict
    rules what is accepted is measured, but for the fee. -/
theorem safety_decision (host : Host F) (ctx thresholds : Payload F) (effectiveRr : Value F)
    (minimum : F) (requireMeasured : Bool) :
    ((∃ d, evaluateExecutionSafety host ctx effectiveRr minimum thresholds requireMeasured =
      .ok d) ↔
      (∀ v ∈ readValues ctx thresholds effectiveRr, overflows v = false) ∧
        ∃ p, readPolicy host thresholds = .ok p) ∧
      ∀ d p, evaluateExecutionSafety host ctx effectiveRr minimum thresholds requireMeasured =
        .ok d →
        readPolicy host thresholds = .ok p →
          Decided host ctx thresholds effectiveRr minimum requireMeasured p d := by
  constructor
  · constructor
    · rintro ⟨d, h⟩
      obtain ⟨hread, p, hp, _⟩ := evaluate_ok_iff.mp h
      exact ⟨hread, p, hp⟩
    · rintro ⟨hread, p, hp⟩
      exact ⟨_, evaluate_ok_iff.mpr ⟨hread, p, hp, rfl⟩⟩
  · intro d p h hp
    obtain ⟨_, p', hp', rfl⟩ := evaluate_ok_iff.mp h
    have hsame : p' = p := Except.ok.inj (hp'.symm.trans hp)
    subst hsame
    constructor
    · exact List.isEmpty_iff
    · exact accepted_iff
    · exact fun haccepted => within_of_safe (accepted_iff.mp haccepted)
    · exact fun g => primary_eq_some_iff
    · intro hrejected
      have hfailed := fun hnil => Bool.eq_false_iff.mp hrejected (List.isEmpty_iff.mpr hnil)
      obtain ⟨g, hg⟩ := Option.ne_none_iff_exists'.mp fun hnone =>
        hfailed ((primary_eq_none_iff fun g _ => mem_priority g).mp hnone)
      exact ⟨g, (primary_eq_some_iff.mp hg).1, hg⟩
    · exact findings_evidence observed_nodup
    · exact fun f hf hbad => malformed_fails hf hbad
    · exact fun hrequired f hbad => malformedMicro_fails hrequired hbad
    · exact unknownReward_fails
    · intro haccepted hmeasured hreject
      subst hmeasured
      have hsafe := accepted_iff.mp haccepted
      refine ⟨fun f hf => ?_, evidence_complete hreject hsafe⟩
      obtain ⟨hthere, hstatus, hmeasured⟩ := hsafe.known hreject f hf
      exact ⟨hthere, hstatus, hmeasured rfl⟩

/-! ### A measured candidate, and three that the limits let through -/

/-- Exact numbers; no text is one, and nothing is rounded. -/
def plainHost : Host Extended where
  parse _ := none
  str _ := ""
  dumps _ := ""
  repr s := s
  sum xs := xs.foldl (· + ·) (.finite 0)
  round6 x := x
  round10 x := x

/-- Everything is measured; the spread and the status of the fee are given. -/
def sampleContext (spread : Value Extended) (feeStatus : String) : Payload Extended :=
  [("spread_pct", spread), ("spread_status", .text "MEASURED"),
    ("expected_slippage_pct", .float (.finite (1 / 1000))), ("slippage_status", .text "MEASURED"),
    ("latency_ms", .int 20), ("latency_status", .text "MEASURED"),
    ("liquidity_score", .float (.finite (9 / 10))), ("liquidity_status", .text "MEASURED"),
    ("funding_rate_pct", .float (.finite (1 / 10000))), ("funding_status", .text "MEASURED"),
    ("fee_pct", .float (.finite (1 / 1000))), ("fee_status", .text feeStatus),
    ("volatility_regime", .text "normal"), ("volatility_status", .text "MEASURED")]

/-- The contract for a reward-risk of two, where one and a half is asked. -/
def sampleDecision (spread : Value Extended) (feeStatus : String) (thresholds : Payload Extended) :
    Except PyError (SafetyDecision Extended) :=
  evaluateExecutionSafety plainHost (sampleContext spread feeStatus) (.int 2) (.finite (3 / 2))
    thresholds true

/-- A spread of one per mille, measured like all the rest, is accepted within the default limits. -/
theorem safety_decision_sample : ∃ d p,
    sampleDecision (.float (.finite (1 / 1000))) "MEASURED" [] = .ok d ∧
      readPolicy plainHost [] = .ok p ∧ d.accepted = true ∧
      Within plainHost (sampleContext (.float (.finite (1 / 1000))) "MEASURED") p
        (reading plainHost [] (.int 2)) (.finite (3 / 2)) := by
  have hdecided : (sampleDecision (.float (.finite (1 / 1000))) "MEASURED" []).toOption.map
      SafetyDecision.accepted = some true := by
    decide +kernel
  have hall := safety_decision plainHost (sampleContext (.float (.finite (1 / 1000))) "MEASURED") []
    (.int 2) (.finite (3 / 2)) true
  cases hd : sampleDecision (.float (.finite (1 / 1000))) "MEASURED" [] with
  | error e =>
    rw [hd] at hdecided
    cases hdecided
  | ok d =>
    rw [hd] at hdecided
    have haccepted : d.accepted = true := Option.some.inj hdecided
    obtain ⟨_, p, hp⟩ := hall.1.mp ⟨d, hd⟩
    exact ⟨d, p, rfl, hp, haccepted, (hall.2 d p hd hp).within haccepted⟩

/-- The answer accepts. -/
def accepts (result : Except PyError (SafetyDecision Extended)) : Bool :=
  (result.toOption.map SafetyDecision.accepted).getD false

/-- Measured evidence is required, and yet an estimated fee is accepted; and so is a missing spread
    where unknown evidence is tolerated; and a spread of five where its limit is NaN. -/
theorem accepted_unmeasured :
    accepts (sampleDecision (.float (.finite (1 / 1000))) "MODEL_ESTIMATE" []) = true ∧
      accepts (sampleDecision .none "MEASURED"
        [("REJECT_UNKNOWN_EXECUTION_CONTEXT", .bool false)]) = true ∧
      accepts (sampleDecision (.float (.finite 5)) "MEASURED"
        [("MAX_SPREAD_PCT", .float .nan), ("MAX_TOTAL_COST_PCT", .int 10)]) = true := by
  decide +kernel

/-! ## 6. Laxer policies -/

/-- The same number or a larger one. -/
def AtLeast (a b : F) : Prop := a = b ∨ b ≤ a

theorem AtLeast.refl (a : F) : AtLeast a a := Or.inl rfl

/-- What is not above a limit is not above a higher one. -/
theorem AtLeast.not_above {a b x : F} (h : AtLeast a b) (hx : ¬ b < x) : ¬ a < x := by
  rcases h with rfl | hle
  · exact hx
  · intro hlt
    obtain ⟨v, w, hb, ha, hvw⟩ := (FloatNum.le_iff b a).mp hle
    obtain ⟨w', y, ha', hy, hwy⟩ := (FloatNum.lt_iff a x).mp hlt
    have heq : w = w' := Option.some.inj (ha.symm.trans ha')
    exact hx ((FloatNum.lt_iff b x).mpr ⟨v, y, hb, hy, lt_of_le_of_lt hvw (heq ▸ hwy)⟩)

/-- What is not below a limit is not below a lower one. -/
theorem AtLeast.not_below {a b x : F} (h : AtLeast a b) (hx : ¬ x < a) : ¬ x < b := by
  rcases h with rfl | hle
  · exact hx
  · exact fun hlt => hx (FloatNum.lt_of_lt_of_le hlt hle)

/-- One policy asks no more than another one. -/
structure Laxer (p q : Policy F) : Prop where
  spread : AtLeast p.maxSpread q.maxSpread
  slippage : AtLeast p.maxSlippage q.maxSlippage
  cost : AtLeast p.maxTotalCost q.maxTotalCost
  liquidity : AtLeast q.minLiquidity p.minLiquidity
  latency : AtLeast p.maxLatency q.maxLatency
  volatility : AtLeast p.maxVolatilityPenalty q.maxVolatilityPenalty
  funding : AtLeast p.maxFunding q.maxFunding
  unknown : p.rejectUnknown = true → q.rejectUnknown = true
  orderbook : p.orderbookRequired = true → q.orderbookRequired = true
  microstructure : p.microstructureRequired = true → q.microstructureRequired = true

theorem mem_optional {α : Type} {x y : α} {b c : Bool} (hbc : b = true → c = true)
    (h : x ∈ if b then [y] else []) : x ∈ if c then [y] else [] := by
  cases b with
  | false => cases h
  | true => rwa [hbc rfl]

variable {p q : Policy F} {lax : Bool}

theorem critical_mono (hpolicy : Laxer p q) (hmeasured : lax = true → requireMeasured = true)
    {f : Field} (hf : f ∈ criticalFields lax p.orderbookRequired) :
    f ∈ criticalFields requireMeasured q.orderbookRequired := by
  unfold criticalFields at hf ⊢
  rcases List.mem_append.mp hf with hf | hf
  · rcases List.mem_append.mp hf with hf | hf
    · exact List.mem_append_left _ (List.mem_append_left _ hf)
    · exact List.mem_append_left _ (List.mem_append_right _ (mem_optional hmeasured hf))
  · exact List.mem_append_right _ (mem_optional hpolicy.orderbook hf)

theorem zeroSensitive_mono (hpolicy : Laxer p q) (hmeasured : lax = true → requireMeasured = true)
    {f : Field} (hf : f ∈ zeroSensitiveFields lax p.orderbookRequired) :
    f ∈ zeroSensitiveFields requireMeasured q.orderbookRequired := by
  unfold zeroSensitiveFields at hf ⊢
  rcases List.mem_append.mp hf with hf | hf
  · rcases List.mem_append.mp hf with hf | hf
    · exact List.mem_append_left _ (List.mem_append_left _ hf)
    · exact List.mem_append_left _ (List.mem_append_right _ (mem_optional hmeasured hf))
  · exact List.mem_append_right _ (mem_optional hpolicy.orderbook hf)

/-- An older observation is still recent under a longer age. -/
theorem tradable_mono {strict longer : MicroReadings F} {side : String}
    (h : Tradable host ctx strict side)
    (hvalue : longer.value = strict.value) (hobserved : longer.observedAt = strict.observedAt)
    (hreference : longer.reference = strict.reference)
    (hage : ∀ a, strict.maxAge = some a → ∃ b, longer.maxAge = some b ∧ AtLeast b a) :
    Tradable host ctx longer side := by
  obtain ⟨observed, reference, maxAge, ho, hr, hm, hpos, hearly, hlate⟩ := h.fresh
  obtain ⟨b, hb, hab⟩ := hage maxAge hm
  constructor
  · rw [hvalue]
    exact h.measured
  · exact h.sourced
  · exact h.sided
  · exact ⟨observed, reference, b, hobserved.trans ho, hreference.trans hr, hb, hpos, hearly,
      hab.not_above hlate⟩
  · unfold adverseImbalance
    rw [hvalue]
    exact h.pressure
  · refine ⟨h.spoofing.1, ?_⟩
    unfold spoofed
    rw [hvalue]
    exact h.spoofing.2
  · exact h.absorption

theorem safe_mono {effective : Option F} {lower : F} {strict longer : MicroReadings F}
    {side : String}
    (h : Safe host ctx q requireMeasured effective minimum strict side) (hpolicy : Laxer p q)
    (hmeasured : lax = true → requireMeasured = true) (hminimum : AtLeast minimum lower)
    (hmicro : Tradable host ctx strict side → Tradable host ctx longer side) :
    Safe host ctx p lax effective lower longer side := by
  constructor
  · exact fun hrequired => hmicro (h.microstructure (hpolicy.microstructure hrequired))
  · intro hreject f hf
    obtain ⟨hthere, hstatus, hm⟩ := h.known (hpolicy.unknown hreject) f
      (critical_mono hpolicy hmeasured hf)
    exact ⟨hthere, hstatus, fun hlax => hm (hmeasured hlax)⟩
  · exact h.numeric
  · exact fun hlax f hf => h.zeros (hmeasured hlax) f (zeroSensitive_mono hpolicy hmeasured hf)
  · exact fun x hx => hpolicy.spread.not_above (h.spread x hx)
  · exact fun x hx => hpolicy.slippage.not_above (h.slippage x hx)
  · exact hpolicy.cost.not_above h.cost
  · exact fun x hx => hpolicy.liquidity.not_below (h.liquidity x hx)
  · exact fun x hx => hpolicy.latency.not_above (h.latency x hx)
  · exact hpolicy.volatility.not_above h.volatility
  · exact fun x hx => hpolicy.funding.not_above (h.funding x hx)
  · obtain ⟨x, hx, hnot⟩ := h.reward
    exact ⟨x, hx, hminimum.not_below hnot⟩

/-- **What a policy accepts, every laxer one accepts**: with higher limits, fewer switches, a longer
    age, a lower minimum, or without the demand for measurements. -/
theorem safety_monotone {strict lenient : Payload F} {lower : F} {d' : SafetyDecision F}
    (hstrict : evaluateExecutionSafety host ctx effectiveRr minimum strict requireMeasured = .ok d)
    (hlenient : evaluateExecutionSafety host ctx effectiveRr lower lenient lax = .ok d')
    (hq : readPolicy host strict = .ok q) (hp : readPolicy host lenient = .ok p)
    (hpolicy : Laxer p q)
    (hmeasured : lax = true → requireMeasured = true) (hminimum : AtLeast minimum lower)
    (hage : ∀ a, (microReadingsOf host ctx strict).maxAge = some a →
      ∃ b, (microReadingsOf host ctx lenient).maxAge = some b ∧ AtLeast b a)
    (haccepted : d.accepted = true) : d'.accepted = true := by
  obtain ⟨_, q', hq', rfl⟩ := evaluate_ok_iff.mp hstrict
  obtain ⟨_, p', hp', rfl⟩ := evaluate_ok_iff.mp hlenient
  have hqq : q' = q := Except.ok.inj (hq'.symm.trans hq)
  have hpp : p' = p := Except.ok.inj (hp'.symm.trans hp)
  subst hqq hpp
  exact accepted_iff.mpr (safe_mono (accepted_iff.mp haccepted) hpolicy hmeasured hminimum
    fun h => tradable_mono h rfl rfl rfl hage)

/-- A wider spread is allowed, and what is unknown is tolerated. -/
def lenientThresholds : Payload Extended :=
  [("MAX_SPREAD_PCT", .float (.finite (1 / 100))),
    ("REJECT_UNKNOWN_EXECUTION_CONTEXT", .bool false)]

/-- The sample is accepted under them too, without measurements and for a reward-risk of one. -/
theorem safety_monotone_sample : ∃ d',
    evaluateExecutionSafety plainHost (sampleContext (.float (.finite (1 / 1000))) "MEASURED")
      (.int 2)
      (.finite 1) lenientThresholds false = .ok d' ∧ d'.accepted = true := by
  have hstrict : (sampleDecision (.float (.finite (1 / 1000))) "MEASURED" []).toOption.map
      SafetyDecision.accepted = some true := by
    decide +kernel
  have hanswers : (evaluateExecutionSafety plainHost
      (sampleContext (.float (.finite (1 / 1000))) "MEASURED") (.int 2) (.finite 1)
        lenientThresholds
        false).toOption.isSome = true := by
    decide +kernel
  have hpolicy : @Laxer Extended _
      ⟨.finite (1 / 100), 0.002, 0.20, 0.30, .finite 2500, 0.20, 0.001, false, false, false⟩
      ⟨0.0025, 0.002, 0.20, 0.30, .finite 2500, 0.20, 0.001, true, false, false⟩ :=
    ⟨Or.inr (by decide +kernel), .refl _, .refl _, .refl _, .refl _, .refl _, .refl _,
      fun h => (by cases h), id, id⟩
  cases hd : sampleDecision (.float (.finite (1 / 1000))) "MEASURED" [] with
  | error e =>
    rw [hd] at hstrict
    cases hstrict
  | ok d =>
    cases hd' : evaluateExecutionSafety plainHost
        (sampleContext (.float (.finite (1 / 1000))) "MEASURED") (.int 2) (.finite 1)
          lenientThresholds false with
    | error e =>
      rw [hd'] at hanswers
      cases hanswers
    | ok d' =>
      rw [hd] at hstrict
      refine ⟨d', rfl, safety_monotone hd hd' rfl rfl hpolicy (fun h => by cases h)
        (Or.inr (by decide +kernel)) (fun a ha => ⟨a, ha, .refl a⟩) (Option.some.inj hstrict)⟩

end Decision

end AlphaForge.Execution
