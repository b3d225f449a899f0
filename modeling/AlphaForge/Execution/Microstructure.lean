/-
  File:      AlphaForge/Execution/Microstructure.lean
  Subject:   `evaluate_microstructure_authority` (`execution.py`): may the depth, the imbalance, the
             spoofing and the absorption of a market be traded on?

  A value is read as a finite number, or it has none; an integer beyond the float range raises.
  Where measured evidence is required, everything that is missing, invalid, stale or adverse is a
  blocking reason; where it is not, the contract accepts.

  * `toFloat`, `finiteIn` -- how a value is read; `finiteIn_eq` says so without the exceptions.
  * `Gate` -- the reasons, here and in `Execution/Safety.lean`.
  * `Tradable` -- what measured evidence has to be.
  * **`authority_accepts_iff`** -- required evidence is accepted exactly where it is tradable.

  `text.upper()` is that of ASCII. Of the answer, the four texts that never change are left out.
-/
import AlphaForge.Lib.Payload

namespace AlphaForge.Execution

open AlphaForge.Lib

/-! ## 1. Values -/

/-- What the contract takes from the language and its library. -/
structure Host (F : Type) [FloatNum F] extends Builtins F where
  /-- `repr(text)`. -/
  repr : String → String
  /-- `sum(values)`. -/
  sum : List F → F
  /-- `round(x, 6)`. -/
  round6 : F → F
  /-- `round(x, 10)`. -/
  round10 : F → F

variable {F : Type} [FloatNum F] (host : Host F)

/-- `float(value)`. -/
def toFloat : Value F → Except PyError F
  | .none => .error .typeError
  | .bool b => .ok (FloatNum.ofInt (if b then 1 else 0))
  | .int n =>
    if FloatNum.isFinite (FloatNum.ofInt n : F) then .ok (FloatNum.ofInt n)
    else .error .overflowError
  | .float x => .ok x
  | .text s =>
    match host.parse s with
    | some x => .ok x
    | none => .error (.valueError ("could not convert string to float: " ++ host.repr s))
  | .list _ => .error .typeError
  | .mapping _ => .error .typeError

/-- `float(value)` under `except (TypeError, ValueError)`. -/
def tryFloat (v : Value F) : Except PyError (Option F) :=
  match toFloat host v with
  | .ok x => .ok (some x)
  | .error .overflowError => .error .overflowError
  | .error _ => .ok none

/-- `isinstance(value, bool)`. -/
def isBool : Value F → Bool
  | .bool _ => true
  | _ => false

/-- `value in (None, *names)`. -/
def missingIn (names : List String) : Value F → Bool
  | .none => true
  | .text s => s ∈ names
  | _ => false

/-- A finite number that is no Boolean. -/
def finiteFloat (v : Value F) : Except PyError (Option F) :=
  if isBool v then .ok none
  else do
    let parsed ← tryFloat host v
    return parsed.filter fun x => FloatNum.isFinite x

/-- A finite number that is no Boolean and none of the names of a missing one. -/
def finiteIn (names : List String) (v : Value F) : Except PyError (Option F) :=
  if missingIn names v then .ok none else finiteFloat host v

/-- `str(value or "").upper()`. -/
def word (v : Value F) : String := upper (if v.truthy then v.str host.toBuiltins else "")

/-- `float(value)` raises OverflowError. -/
def overflows : Value F → Bool
  | .int n => !FloatNum.isFinite (FloatNum.ofInt n : F)
  | _ => false

/-- The finite number of a value. -/
def reading (names : List String) (v : Value F) : Option F :=
  if isBool v || missingIn names v then none
  else (toFloat host v).toOption.filter fun x => FloatNum.isFinite x

theorem tryFloat_eq (v : Value F) :
    tryFloat host v = if overflows v then .error .overflowError
      else .ok (toFloat host v).toOption := by
  cases v with
  | int n =>
    unfold tryFloat toFloat overflows
    by_cases h : FloatNum.isFinite (FloatNum.ofInt n : F) = true
    · simp [h, Except.toOption]
    · simp [h]
  | text s =>
    unfold tryFloat toFloat overflows
    cases hparse : host.parse s <;> simp [hparse, Except.toOption]
  | _ => rfl

/-- **A value that is no integer beyond the float range is read without an exception.** -/
theorem finiteIn_eq (names : List String) (v : Value F) :
    finiteIn host names v = if overflows v then .error .overflowError
      else .ok (reading host names v) := by
  unfold finiteIn finiteFloat reading
  rw [tryFloat_eq]
  cases v with
  | int n =>
    by_cases h : overflows (.int n : Value F) = true
    · simp only [isBool, missingIn, h, if_true]
      rfl
    · simp only [isBool, missingIn, h]
      rfl
  | text s =>
    by_cases h : s ∈ names
    · simp [isBool, missingIn, overflows, h]
    · simp only [isBool, missingIn, overflows, h]
      rfl
  | _ => simp [isBool, missingIn, overflows]

theorem finiteFloat_eq (v : Value F) :
    finiteFloat host v = if overflows v then .error .overflowError
      else .ok (reading host [] v) := by
  rw [← finiteIn_eq]
  cases v with
  | none => rfl
  | text s => simp [finiteIn, missingIn]
  | _ => rfl

omit [FloatNum F] in
/-- A check that refuses comes before what follows. -/
theorem refuse_bind {α β : Type} {b : Bool} {e : PyError} {a : α} {f : α → Except PyError β} :
    ((if b then Except.error e else Except.ok a) >>= f) = if b then Except.error e else f a := by
  cases b <;> rfl

omit [FloatNum F] in
/-- Two checks that refuse alike. -/
theorem refuse_or {α : Type} {b c : Bool} {x y : α} :
    (if b then x else if c then x else y) = if b || c then x else y := by
  cases b <;> rfl

theorem reading_finite {names : List String} {v : Value F} {x : F}
    (h : reading host names v = some x) : FloatNum.isFinite x = true := by
  unfold reading at h
  split at h
  · cases h
  · exact (Option.filter_eq_some_iff.mp h).2

/-! ## 2. Reasons and evidence -/

/-- The gates of the contract, in the order of their priority. -/
inductive Gate where
  | microstructureEvidenceInvalid
  | microstructureContextUnavailable
  | microstructureTimestampInvalid
  | staleMicrostructure
  | spoofRisk
  | adverseOrderbookImbalance
  | adverseAbsorption
  | executionContextUnavailable
  | invalidFakeZero
  | spreadTooHigh
  | slippageTooHigh
  | highTotalCost
  | thinLiquidity
  | highLatency
  | excessiveVolatility
  | fundingTooHigh
  | lowEffectiveRr
  deriving DecidableEq, Repr

/-- The text of a gate. -/
def Gate.name : Gate → String
  | .microstructureEvidenceInvalid => "MICROSTRUCTURE_EVIDENCE_INVALID"
  | .microstructureContextUnavailable => "MICROSTRUCTURE_CONTEXT_UNAVAILABLE"
  | .microstructureTimestampInvalid => "MICROSTRUCTURE_TIMESTAMP_INVALID"
  | .staleMicrostructure => "STALE_MICROSTRUCTURE"
  | .spoofRisk => "SPOOF_RISK"
  | .adverseOrderbookImbalance => "ADVERSE_ORDERBOOK_IMBALANCE"
  | .adverseAbsorption => "ADVERSE_ABSORPTION"
  | .executionContextUnavailable => "EXECUTION_CONTEXT_UNAVAILABLE"
  | .invalidFakeZero => "INVALID_FAKE_ZERO"
  | .spreadTooHigh => "SPREAD_TOO_HIGH"
  | .slippageTooHigh => "SLIPPAGE_TOO_HIGH"
  | .highTotalCost => "HIGH_TOTAL_COST"
  | .thinLiquidity => "THIN_LIQUIDITY"
  | .highLatency => "HIGH_LATENCY"
  | .excessiveVolatility => "EXCESSIVE_VOLATILITY"
  | .fundingTooHigh => "FUNDING_TOO_HIGH"
  | .lowEffectiveRr => "LOW_EFFECTIVE_RR"

/-- `MEASURED_STATUSES`. -/
def measuredStatuses : List String := ["MEASURED", "MEASURED_PUBLIC", "MEASURED_EXCHANGE"]

/-- `ESTIMATED_STATUSES`. -/
def estimatedStatuses : List String := ["MODEL_ESTIMATE", "ESTIMATED", "ESTIMATED_BACKTEST"]

/-- `UNAVAILABLE_STATUSES`. -/
def unavailableStatuses : List String :=
  ["", "UNKNOWN", "UNAVAILABLE", "UNAVAILABLE_BACKTEST", "NULL"]

/-- The names of a missing number. -/
def unknownNames : List String := ["", "UNKNOWN", "UNAVAILABLE"]

/-- The names of a missing number, and that of a backtest. -/
def unavailableNames : List String := ["", "UNKNOWN", "UNAVAILABLE", "UNAVAILABLE_BACKTEST"]

/-! ## 3. The contract -/

/-- The measured fields. -/
inductive MicroField where
  | orderbookImbalance
  | spoofRisk
  | absorptionScore
  | liquidityDepthUsdt
  deriving DecidableEq, Repr

def MicroField.key : MicroField → String
  | .orderbookImbalance => "orderbook_imbalance"
  | .spoofRisk => "spoof_risk"
  | .absorptionScore => "absorption_score"
  | .liquidityDepthUsdt => "liquidity_depth_usdt"

/-- `status_keys`. -/
def MicroField.statusKey : MicroField → String
  | .orderbookImbalance => "orderbook_status"
  | .spoofRisk => "spoof_status"
  | .absorptionScore => "absorption_status"
  | .liquidityDepthUsdt => "liquidity_depth_status"

/-- `source_keys`. -/
def MicroField.sourceKey : MicroField → String
  | .orderbookImbalance => "orderbook_source"
  | .spoofRisk => "spoof_source"
  | .absorptionScore => "absorption_source"
  | .liquidityDepthUsdt => "liquidity_depth_source"

/-- The fields in the order they are looked at. -/
def microFields : List MicroField :=
  [.orderbookImbalance, .spoofRisk, .absorptionScore, .liquidityDepthUsdt]

theorem mem_microFields (f : MicroField) : f ∈ microFields := by cases f <;> decide

/-- The range of a field. -/
def outOfRange : MicroField → F → Bool
  | .orderbookImbalance, x => !(FloatNum.ofInt (-1) ≤ x && x ≤ FloatNum.ofInt 1)
  | .spoofRisk, x => !(FloatNum.ofInt 0 ≤ x && x ≤ FloatNum.ofInt 1)
  | .absorptionScore, x => !(FloatNum.ofInt 0 ≤ x && x ≤ FloatNum.ofInt 1)
  | .liquidityDepthUsdt, x => x ≤ FloatNum.ofInt 0

/-- The evidence classes of the contract. -/
inductive MicroEvidence where
  | completeMeasured
  | partialEstimated
  | unavailableBlocking
  deriving DecidableEq, Repr

/-- What the contract answers. -/
structure MicrostructureAuthority (F : Type) where
  accepted : Bool
  liveEquivalent : Bool
  evidenceStatus : MicroEvidence
  blockingReasons : List Gate
  missingFields : List String
  invalidFields : List String
  observedAt : Option F
  ageSec : Option F
  maxAgeSec : Option F
  side : Option String

/-- What is read before anything is judged. -/
structure MicroReadings (F : Type) where
  value : MicroField → Option F
  observedAt : Option F
  reference : Option F
  maxAge : Option F

/-- A value of its own for every field. -/
def fieldwise (imbalance spoof absorption depth : Option F) : MicroField → Option F
  | .orderbookImbalance => imbalance
  | .spoofRisk => spoof
  | .absorptionScore => absorption
  | .liquidityDepthUsdt => depth

omit [FloatNum F] in
/-- `now_ts`, or the moment that the context refers to. -/
def referenceValue (ctx : Payload F) (nowTs : Value F) : Value F :=
  match nowTs with
  | .none => ctx.get "microstructure_reference_ts"
  | stated => stated

/-- The numbers. -/
def readMicrostructure (ctx : Payload F) (nowTs maxAgeSec : Value F) :
    Except PyError (MicroReadings F) := do
  let imbalance ← finiteIn host unknownNames (ctx.get "orderbook_imbalance")
  let spoof ← finiteIn host unknownNames (ctx.get "spoof_risk")
  let absorption ← finiteIn host unknownNames (ctx.get "absorption_score")
  let depth ← finiteIn host unknownNames (ctx.get "liquidity_depth_usdt")
  let observedAt ← finiteIn host unknownNames (ctx.get "microstructure_observed_at")
  let reference ← finiteFloat host (referenceValue ctx nowTs)
  let maxAge ← finiteFloat host maxAgeSec
  return ⟨fieldwise imbalance spoof absorption depth, observedAt, reference,
    maxAge.filter fun x => !decide (x ≤ FloatNum.ofInt 0)⟩

omit [FloatNum F] in
/-- The values that are read. -/
def microValues (ctx : Payload F) (nowTs maxAgeSec : Value F) : List (Value F) :=
  [ctx.get "orderbook_imbalance", ctx.get "spoof_risk", ctx.get "absorption_score",
    ctx.get "liquidity_depth_usdt", ctx.get "microstructure_observed_at", referenceValue ctx nowTs,
    maxAgeSec]

/-- The finite numbers of the values. -/
def microReadings (ctx : Payload F) (nowTs maxAgeSec : Value F) : MicroReadings F :=
  { value := fun f => reading host unknownNames (ctx.get f.key)
    observedAt := reading host unknownNames (ctx.get "microstructure_observed_at")
    reference := reading host [] (referenceValue ctx nowTs)
    maxAge := (reading host [] maxAgeSec).filter fun x => !decide (x ≤ FloatNum.ofInt 0) }

theorem fieldwise_reading (ctx : Payload F) :
    fieldwise (reading host unknownNames (ctx.get "orderbook_imbalance"))
        (reading host unknownNames (ctx.get "spoof_risk"))
        (reading host unknownNames (ctx.get "absorption_score"))
        (reading host unknownNames (ctx.get "liquidity_depth_usdt")) =
      fun f => reading host unknownNames (ctx.get f.key) := by
  funext f
  cases f <;> rfl

/-- Everything is read, or a value is beyond the float range. -/
theorem readMicrostructure_eq (ctx : Payload F) (nowTs maxAgeSec : Value F) :
    readMicrostructure host ctx nowTs maxAgeSec =
      if (microValues ctx nowTs maxAgeSec).any overflows then .error .overflowError
      else .ok (microReadings host ctx nowTs maxAgeSec) := by
  unfold readMicrostructure
  simp only [finiteIn_eq, finiteFloat_eq, refuse_bind, refuse_or, fieldwise_reading, microValues,
    List.any_cons, List.any_nil, Bool.or_false]
  rfl

section Judgement

variable (ctx : Payload F) (r : MicroReadings F)

/-- `invalid_fields`, in the order they are found. -/
def invalidFields : List String :=
  (microFields.filter fun f =>
      !missingIn unavailableNames (ctx.get f.key) && (r.value f).isNone).map MicroField.key ++
    (microFields.filter fun f => (r.value f).any (outOfRange f)).map MicroField.key

/-- `normalized_side`. -/
def normalizedSide (side : Option String) : String :=
  if side.getD "" ≠ "" then upper (side.getD "") else word host (ctx.get "trade_side")

/-- What one field lacks. -/
def lacking (f : MicroField) : List String :=
  let source := (ctx.get f.sourceKey).label host.toBuiltins
  (if (r.value f).isNone ∨ word host (ctx.get f.statusKey) ∉ measuredStatuses then
    [f.key] else []) ++
    (if source = "" ∨ source ∈ unavailableStatuses ∨ source = "UNKNOWN" then [f.key ++ "_source"]
      else [])

/-- `missing_fields`, in the order they are found. -/
def missingFields (side : String) (requireMeasured : Bool) : List String :=
  if requireMeasured then
    microFields.flatMap (lacking host ctx r) ++
      (if side ∉ ["LONG", "SHORT"] then ["trade_side"] else []) ++
      (if isBool (ctx.get "spoof_confirmed") then [] else ["spoof_confirmed"]) ++
      (if isBool (ctx.get "absorption_execution_ok") then [] else ["absorption_execution_ok"]) ++
      (if r.observedAt.all fun x => x ≤ FloatNum.ofInt 0 then
        ["microstructure_observed_at"] else []) ++
      (if r.reference.isNone ∨ r.maxAge.isNone then ["microstructure_freshness_policy"] else [])
  else []

/-- `age_sec`. -/
def ageSec (requireMeasured : Bool) : Option F :=
  if requireMeasured then do
    let observed ← r.observedAt
    let reference ← r.reference
    let _ ← r.maxAge
    return reference - observed
  else none

/-- The reason against the age. -/
def ageReason (requireMeasured : Bool) : List Gate :=
  match ageSec r requireMeasured, r.maxAge with
  | some age, some maxAge =>
    if age < FloatNum.ofInt 0 then [.microstructureTimestampInvalid]
    else if maxAge < age then [.staleMicrostructure] else []
  | _, _ => []

/-- `LEGACY_EXTREME_ORDERBOOK_IMBALANCE`. -/
def extremeOrderbookImbalance : F := 0.90

/-- `LEGACY_EXTREME_SPOOF_RISK`. -/
def extremeSpoofRisk : F := 0.80

/-- Pressure against the side is extreme. -/
def adverseImbalance (side : String) : Bool :=
  (r.value .orderbookImbalance).any fun x =>
    (side == "LONG" && decide (x ≤ -extremeOrderbookImbalance)) ||
      (side == "SHORT" && decide (extremeOrderbookImbalance ≤ x))

/-- A confirmed, extreme spoofing risk. -/
def spoofed : Bool :=
  match ctx.get "spoof_confirmed" with
  | .bool true => (r.value .spoofRisk).any fun x => decide (extremeSpoofRisk ≤ x)
  | _ => false

/-- The provider refuses the execution. -/
def refused : Bool :=
  match ctx.get "absorption_execution_ok" with
  | .bool false => true
  | _ => false

/-- `blockers`. No reason can come twice, so the `dict.fromkeys` of the source keeps them all. -/
def blockers (side : String) (requireMeasured : Bool) : List Gate :=
  (if invalidFields ctx r ≠ [] then [Gate.microstructureEvidenceInvalid] else []) ++
    (if missingFields host ctx r side requireMeasured ≠ [] then
      [Gate.microstructureContextUnavailable] else []) ++
    ageReason r requireMeasured ++
    (if adverseImbalance r side then [Gate.adverseOrderbookImbalance] else []) ++
    (if spoofed ctx r then [Gate.spoofRisk] else []) ++
    (if refused ctx then [Gate.adverseAbsorption] else [])

/-- `evidence_status`. -/
def microEvidence (invalid missing : List String) (requireMeasured : Bool) : MicroEvidence :=
  if invalid ≠ [] ∨ missing ≠ [] then .unavailableBlocking
  else if requireMeasured then .completeMeasured
  else if microFields.any fun f => word host (ctx.get f.statusKey) ∈ estimatedStatuses then
    .partialEstimated
  else if microFields.all fun f =>
      (r.value f).isSome && word host (ctx.get f.statusKey) ∈ measuredStatuses then
    .completeMeasured
  else .unavailableBlocking

/-- The judgement of what was read. -/
def judgeMicrostructure (side : String) (requireMeasured : Bool) : MicrostructureAuthority F :=
  let invalid := invalidFields ctx r
  let missing := missingFields host ctx r side requireMeasured
  let reasons := blockers host ctx r side requireMeasured
  let status := microEvidence host ctx r invalid missing requireMeasured
  { accepted := if requireMeasured then reasons.isEmpty else true
    liveEquivalent :=
      status = .completeMeasured ∧ invalid = [] ∧ missing = [] ∧ .staleMicrostructure ∉ reasons ∧
        .microstructureTimestampInvalid ∉ reasons
    evidenceStatus := status
    blockingReasons := reasons
    missingFields := sortedSet missing
    invalidFields := sortedSet invalid
    observedAt := r.observedAt
    ageSec := ageSec r requireMeasured
    maxAgeSec := r.maxAge
    side := if side = "" then none else some side }

end Judgement

/-- `evaluate_microstructure_authority`. -/
def evaluateMicrostructureAuthority (ctx : Payload F) (side : Option String)
    (requireMeasured : Bool)
    (nowTs maxAgeSec : Value F) : Except PyError (MicrostructureAuthority F) := do
  let r ← readMicrostructure host ctx nowTs maxAgeSec
  return judgeMicrostructure host ctx r (normalizedSide host ctx side) requireMeasured

/-! ## 4. Required evidence -/

/-- What measured evidence has to be: every field measured by a named source and in its range, the
    moment known and recent, the market not against the side. -/
structure Tradable (ctx : Payload F) (r : MicroReadings F) (side : String) : Prop where
  measured : ∀ f, ∃ x, r.value f = some x ∧ outOfRange f x = false ∧
    word host (ctx.get f.statusKey) ∈ measuredStatuses
  sourced : ∀ f, (ctx.get (MicroField.sourceKey f)).label host.toBuiltins ∉ unavailableStatuses
  sided : side = "LONG" ∨ side = "SHORT"
  fresh : ∃ observed reference maxAge, r.observedAt = some observed ∧ r.reference = some reference ∧
    r.maxAge = some maxAge ∧ ¬ observed ≤ FloatNum.ofInt 0 ∧
    ¬ reference - observed < FloatNum.ofInt 0 ∧ ¬ maxAge < reference - observed
  pressure : adverseImbalance r side = false
  spoofing : isBool (ctx.get "spoof_confirmed") = true ∧ spoofed ctx r = false
  absorption : isBool (ctx.get "absorption_execution_ok") = true ∧ refused ctx = false

section Required

variable {host} {ctx : Payload F} {r : MicroReadings F} {side : String}

/-- A field lacks nothing where it is measured and sourced. -/
theorem lacking_eq_nil {f : MicroField} :
    lacking host ctx r f = [] ↔
      (r.value f).isSome = true ∧ word host (ctx.get f.statusKey) ∈ measuredStatuses ∧
        (ctx.get f.sourceKey).label host.toBuiltins ∉ unavailableStatuses := by
  unfold lacking
  simp only [List.append_eq_nil_iff, ite_eq_right_iff, List.cons_ne_nil, imp_false, not_or,
    Option.isNone_iff_eq_none, not_not, ← Option.isSome_iff_ne_none, and_assoc]
  refine and_congr_right fun _ => and_congr_right fun _ => ⟨fun h => h.2.1, fun h => ⟨?_, h, ?_⟩⟩
  · intro hempty
    exact h (hempty ▸ by decide)
  · intro hunknown
    exact h (hunknown ▸ by decide)

/-- The moment of the observation is known. -/
theorem observed_iff {observed : Option F} :
    (observed.all fun x => x ≤ FloatNum.ofInt 0) = false ↔
      ∃ x, observed = some x ∧ ¬ x ≤ FloatNum.ofInt 0 := by
  cases observed with
  | none => simp
  | some x => simp

theorem missingFields_eq_nil :
    missingFields host ctx r side true = [] ↔
      (∀ f, (r.value f).isSome = true ∧ word host (ctx.get (MicroField.statusKey f)) ∈
        measuredStatuses ∧
        (ctx.get f.sourceKey).label host.toBuiltins ∉ unavailableStatuses) ∧
      (side = "LONG" ∨ side = "SHORT") ∧ isBool (ctx.get "spoof_confirmed") = true ∧
      isBool (ctx.get "absorption_execution_ok") = true ∧
      (∃ observed, r.observedAt = some observed ∧ ¬ observed ≤ FloatNum.ofInt 0) ∧
      r.reference.isSome = true ∧ r.maxAge.isSome = true := by
  unfold missingFields
  rw [if_pos rfl]
  simp only [List.append_eq_nil_iff, List.flatMap_eq_nil_iff, mem_microFields, forall_const,
    lacking_eq_nil, ite_eq_right_iff, ite_eq_left_iff, List.cons_ne_nil, imp_false, not_not,
    Bool.not_eq_true, Bool.not_eq_false, not_or, observed_iff, List.mem_cons, List.not_mem_nil,
    or_false, not_and_or, Option.isNone_iff_eq_none, ← Option.isSome_iff_ne_none, and_assoc]

/-- Nothing is invalid where every number that is stated is one, and in its range. -/
theorem invalidFields_eq_nil :
    invalidFields ctx r = [] ↔
      (∀ f, missingIn unavailableNames (ctx.get (MicroField.key f)) = true ∨
        (r.value f).isSome = true) ∧
        ∀ f, (r.value f).any (outOfRange f) = false := by
  unfold invalidFields
  simp only [List.append_eq_nil_iff, List.map_eq_nil_iff, List.filter_eq_nil_iff, mem_microFields,
    forall_const, Bool.and_eq_true, Bool.not_eq_true', not_and_or, Bool.not_eq_false,
    Option.isNone_iff_eq_none, ← Option.isSome_iff_ne_none, ← ne_eq, Bool.not_eq_true]

/-- The age is acceptable. -/
theorem ageReason_eq_nil {observed reference maxAge : F} (ho : r.observedAt = some observed)
    (hr : r.reference = some reference) (hm : r.maxAge = some maxAge) :
    ageReason r true = [] ↔
      ¬ reference - observed < FloatNum.ofInt 0 ∧ ¬ maxAge < reference - observed := by
  have hage : ageSec r true = some (reference - observed) := by
    unfold ageSec
    rw [if_pos rfl, ho, hr, hm]
    rfl
  unfold ageReason
  rw [hage, hm]
  by_cases hearly : reference - observed < FloatNum.ofInt 0
  · simp [hearly]
  · by_cases hlate : maxAge < reference - observed
    · simp [hearly, hlate]
    · simp [hearly, hlate]

theorem blockers_eq_nil :
    blockers host ctx r side true = [] ↔
      invalidFields ctx r = [] ∧ missingFields host ctx r side true = [] ∧ ageReason r true = [] ∧
        adverseImbalance r side = false ∧ spoofed ctx r = false ∧ refused ctx = false := by
  unfold blockers
  simp only [List.append_eq_nil_iff, ite_eq_right_iff, List.cons_ne_nil, imp_false, not_not,
    Bool.not_eq_true, ne_eq, and_assoc]

/-- **Required evidence is accepted exactly where it is tradable.** -/
theorem authority_accepts_iff :
    (judgeMicrostructure host ctx r side true).accepted = true ↔ Tradable host ctx r side := by
  have haccepted : (judgeMicrostructure host ctx r side true).accepted = true ↔
      blockers host ctx r side true = [] := List.isEmpty_iff
  rw [haccepted, blockers_eq_nil, missingFields_eq_nil, invalidFields_eq_nil]
  constructor
  · rintro ⟨⟨_, hrange⟩, ⟨hfields, hside, hspoof, hok, ⟨observed, ho, hpos⟩, href, hmax⟩, hage,
      hpressure, hspoofed, hrefused⟩
    obtain ⟨reference, hr⟩ := Option.isSome_iff_exists.mp href
    obtain ⟨maxAge, hm⟩ := Option.isSome_iff_exists.mp hmax
    constructor
    · intro f
      obtain ⟨x, hx⟩ := Option.isSome_iff_exists.mp (hfields f).1
      have hin := hrange f
      rw [hx] at hin
      exact ⟨x, hx, hin, (hfields f).2.1⟩
    · exact fun f => (hfields f).2.2
    · exact hside
    · exact ⟨observed, reference, maxAge, ho, hr, hm, hpos, (ageReason_eq_nil ho hr hm).mp hage⟩
    · exact hpressure
    · exact ⟨hspoof, hspoofed⟩
    · exact ⟨hok, hrefused⟩
  · intro h
    obtain ⟨observed, reference, maxAge, ho, hr, hm, hpos, hage⟩ := h.fresh
    have hvalue : ∀ f, (r.value f).isSome = true := by
      intro f
      obtain ⟨x, hx, _⟩ := h.measured f
      rw [hx]
      rfl
    have hrange : ∀ f, (r.value f).any (outOfRange f) = false := by
      intro f
      obtain ⟨x, hx, hin, _⟩ := h.measured f
      rw [hx]
      exact hin
    have hstatus : ∀ f, word host (ctx.get (MicroField.statusKey f)) ∈ measuredStatuses := by
      intro f
      obtain ⟨_, _, _, hstatus⟩ := h.measured f
      exact hstatus
    refine ⟨⟨fun f => Or.inr (hvalue f), hrange⟩,
      ⟨fun f => ⟨hvalue f, hstatus f, h.sourced f⟩, h.sided,
      h.spoofing.1, h.absorption.1, ⟨observed, ho, hpos⟩, ?_, ?_⟩,
      (ageReason_eq_nil ho hr hm).mpr hage, h.pressure, h.spoofing.2, h.absorption.2⟩
    · rw [hr]
      rfl
    · rw [hm]
      rfl

end Required

end AlphaForge.Execution
