/-
  File:      AlphaForge/Universe/Candidate.lean
  Subject:   `symbol_selector.py`: `UniverseConstraints` and `_candidate_base_decision`, the
             judgement of one candidate.

  A check finds reasons against a candidate, and every reason takes it out of the eligible ones:
  some set the state, some only move it away from ELIGIBLE. What is found never depends on the
  state, so the checks are independent of each other and only their order matters to the state.

  * `Satisfies` -- what the constraints ask of a candidate.
  * **`baseDecision_reasons`** -- a candidate is ELIGIBLE exactly when no reason is found, and no
    reason is found exactly when it satisfies the constraints.

  `_timestamp_seconds` takes an integer beyond the float range for unreadable; in a number it would
  raise, which is left to `Universe/Robust.lean`. The dictionaries that are
  built hold their entries in the order of the keys, since no order of a dictionary is ever seen.
-/
import AlphaForge.Lib.Dictionary
import AlphaForge.Lib.Payload
import AlphaForge.Lib.Ranking

namespace AlphaForge.Universe

open AlphaForge.Lib

/-! ## 1. Evidence -/

/-- `EvidenceState`. -/
inductive EvidenceState where
  | eligible
  | ineligible
  | unavailable
  | stale
  | invalid
  deriving DecidableEq, Repr

/-- `state.value`. -/
def EvidenceState.value : EvidenceState → String
  | .eligible => "ELIGIBLE"
  | .ineligible => "INELIGIBLE"
  | .unavailable => "UNAVAILABLE"
  | .stale => "STALE"
  | .invalid => "INVALID"

theorem EvidenceState.value_injective {s t : EvidenceState} (h : s.value = t.value) : s = t := by
  revert h
  cases s <;> cases t <;> decide

/-- What the selector takes from the language and its library. -/
structure Host (F : Type) [FloatNum F] extends Builtins F where
  /-- `math.nan`. -/
  nan : F
  nan_not_finite : FloatNum.isFinite nan = false
  /-- `datetime.fromisoformat(text).timestamp()`, UTC where the text names no offset; `none` where
      it raises. -/
  isoTimestamp : String → Option F
  /-- `math.log1p(x)`. -/
  log1p : F → F
  /-- `round(x, 8)`. -/
  round8 : F → F
  round_number : ∀ x, IsNumber x → IsNumber (round8 x)
  /-- The SHA-256 digest of the canonical JSON text. -/
  digest : Value F → String

variable {F : Type} [FloatNum F] (host : Host F)

/-- `_canonical_hash`: a NaN or an infinity has no JSON text. -/
def canonicalHash (payload : Value F) : Except PyError String :=
  if payload.finite then .ok (host.digest payload)
  else .error (.valueError "Out of range float values are not JSON compliant")

theorem canonicalHash_ok {payload : Value F} (h : payload.finite = true) :
    canonicalHash host payload = .ok (host.digest payload) := if_pos h

/-- `value is None`. -/
def isNone : Value F → Bool
  | .none => true
  | _ => false

/-- `float(value)`; `none` where it raises. -/
def toFloat : Value F → Option F
  | .none => none
  | .bool b => some (FloatNum.ofInt (if b then 1 else 0))
  | .int n => some (FloatNum.ofInt n)
  | .float x => some x
  | .text s => host.parse s
  | .list _ => none
  | .mapping _ => none

/-- An integer on which `float` raises OverflowError: it rounds beyond the largest float. -/
def tooLarge : Value F → Bool
  | .int n => 2 ^ 1024 - 2 ^ 970 ≤ n.natAbs
  | _ => false

/-- `value.strip().replace(".", "", 1).isdigit()`. -/
def isDecimal (s : String) : Bool :=
  let digits := (strip s).toList.erase '.'
  !digits.isEmpty && digits.all Char.isDigit

/-- The number `_timestamp_seconds` reads in a value. -/
def timestampReading : Value F → Option F
  | .none => none
  | .bool _ => none
  | .text s =>
    if isDecimal s then host.parse s else host.isoTimestamp ((strip s).replace "Z" "+00:00")
  | v => if tooLarge v then none else toFloat host v

/-- `_timestamp_seconds`: large numbers are milliseconds. -/
def timestampSeconds (v : Value F) : Option F :=
  (timestampReading host v).bind fun result =>
    if FloatNum.isFinite result = false ∨ result < FloatNum.ofInt 0 then none
    else if FloatNum.ofInt 10000000000 < result then some (result / FloatNum.ofInt 1000)
    else some result

/-- `math.isfinite(x) and x >= 0`. -/
def FiniteNonneg (x : F) : Prop := FloatNum.isFinite x = true ∧ FloatNum.ofInt 0 ≤ x

instance (x : F) : Decidable (FiniteNonneg x) := inferInstanceAs (Decidable (_ ∧ _))

/-- `_finite_nonnegative`. -/
def finiteNonnegative (v : Value F) : Option F :=
  match v with
  | .bool _ => none
  | v => (toFloat host v).filter fun x => FiniteNonneg x

theorem finiteNonnegative_spec {v : Value F} {x : F} (h : finiteNonnegative host v = some x) :
    FiniteNonneg x := by
  unfold finiteNonnegative at h
  split at h
  · cases h
  · rw [Option.filter_eq_some_iff] at h
    exact of_decide_eq_true h.2

mutual

/-- `_json_safe`. -/
def jsonSafe : Value F → Value F
  | .none => .none
  | .bool b => .bool b
  | .int n => .int n
  | .float x => if FloatNum.isFinite x then .float x else .text "INVALID_NON_FINITE"
  | .text s => .text s
  | .list items => .list (jsonSafeItems items)
  | .mapping entries => .mapping (sortOn Prod.fst (jsonSafeEntries entries))

def jsonSafeItems : List (Value F) → List (Value F)
  | [] => []
  | v :: rest => jsonSafe v :: jsonSafeItems rest

def jsonSafeEntries : List (String × Value F) → List (String × Value F)
  | [] => []
  | (key, v) :: rest => (key, jsonSafe v) :: jsonSafeEntries rest

end

theorem finite_sortOn {entries : Payload F} :
    finiteEntries (sortOn Prod.fst entries) = finiteEntries entries := by
  rw [Bool.eq_iff_iff, finiteEntries_iff, finiteEntries_iff]
  simp only [mem_sortOn]

mutual

theorem finite_jsonSafe : ∀ v : Value F, (jsonSafe v).finite = true
  | .none => by rw [jsonSafe, Value.finite] <;> nofun
  | .bool _ => by rw [jsonSafe, Value.finite] <;> nofun
  | .int _ => by rw [jsonSafe, Value.finite] <;> nofun
  | .float x => by
    unfold jsonSafe
    by_cases h : FloatNum.isFinite x = true
    · rw [if_pos h, Value.finite, h]
    · rw [if_neg h, Value.finite] <;> nofun
  | .text _ => by rw [jsonSafe, Value.finite] <;> nofun
  | .list items => by
    rw [jsonSafe, Value.finite]
    exact finite_jsonSafeItems items
  | .mapping entries => by
    rw [jsonSafe, Value.finite, finite_sortOn]
    exact finite_jsonSafeEntries entries

theorem finite_jsonSafeItems : ∀ items : List (Value F), finiteItems (jsonSafeItems items) = true
  | [] => by rw [jsonSafeItems, finiteItems]
  | v :: rest => by
    rw [jsonSafeItems, finiteItems, finite_jsonSafe v, finite_jsonSafeItems rest]
    rfl

theorem finite_jsonSafeEntries :
    ∀ entries : List (String × Value F), finiteEntries (jsonSafeEntries entries) = true
  | [] => by rw [jsonSafeEntries, finiteEntries]
  | (_, v) :: rest => by
    rw [jsonSafeEntries, finiteEntries, finite_jsonSafe v, finite_jsonSafeEntries rest]
    rfl

end

/-! ## 2. Constraints -/

/-- `_SYMBOL_PATTERN.fullmatch(symbol)`: 3 to 32 capitals and digits. -/
def isSymbol (s : String) : Bool :=
  3 ≤ s.length && s.length ≤ 32 && s.toList.all fun c => c.isUpper || c.isDigit

/-- `UniverseConstraints`, with what `__post_init__` checks of it. -/
structure UniverseConstraints (F : Type) [FloatNum F] where
  minMarketCapUsd : Option F
  maxMarketCapUsd : Option F
  minVolume24hUsd : F
  candidatePoolTopNVolume : ℕ
  maxActiveSymbols : ℕ
  excludedSymbols : List String
  maxEvidenceAgeSec : F
  maxSpreadPct : F
  maxExpectedSlippagePct : F
  maxAbsFundingRatePct : F
  minLiquidityScore : F
  quoteAsset : String
  caps : ∀ x ∈ minMarketCapUsd.toList ++ maxMarketCapUsd.toList, FiniteNonneg x
  numbers : ∀ x ∈ [minVolume24hUsd, maxEvidenceAgeSec, maxSpreadPct, maxExpectedSlippagePct,
    maxAbsFundingRatePct, minLiquidityScore], FiniteNonneg x
  capsOrdered : ∀ lo ∈ minMarketCapUsd, ∀ hi ∈ maxMarketCapUsd, ¬ hi < lo
  topN_pos : 0 < candidatePoolTopNVolume
  maxActive_pos : 0 < maxActiveSymbols
  maxActive_le : maxActiveSymbols ≤ candidatePoolTopNVolume
  minLiquidity_le : ¬ FloatNum.ofInt 1 < minLiquidityScore
  excluded_symbols : ∀ s ∈ excludedSymbols, isSymbol s = true
  quote_asset : (2 ≤ quoteAsset.length && quoteAsset.length ≤ 12 &&
    quoteAsset.toList.all fun c => c.isUpper || c.isDigit) = true

/-- A number or `None`. -/
def optionalNumber : Option F → Value F
  | none => .none
  | some x => .float x

namespace UniverseConstraints

variable (c : UniverseConstraints F)

def asDict : Payload F :=
  [("min_market_cap_usd", optionalNumber c.minMarketCapUsd),
    ("max_market_cap_usd", optionalNumber c.maxMarketCapUsd),
    ("min_volume_24h_usd", .float c.minVolume24hUsd),
    ("candidate_pool_top_n_volume", .int c.candidatePoolTopNVolume),
    ("max_active_symbols", .int c.maxActiveSymbols),
    ("excluded_symbols", .list (c.excludedSymbols.map .text)),
    ("max_evidence_age_sec", .float c.maxEvidenceAgeSec),
    ("max_spread_pct", .float c.maxSpreadPct),
    ("max_expected_slippage_pct", .float c.maxExpectedSlippagePct),
    ("max_abs_funding_rate_pct", .float c.maxAbsFundingRatePct),
    ("min_liquidity_score", .float c.minLiquidityScore),
    ("quote_asset", .text c.quoteAsset)]

/-- `config_hash`. -/
def configHash : Except PyError String := canonicalHash host (.mapping c.asDict)

/-- `market_cap_required`. -/
def capRequired : Bool := c.minMarketCapUsd.isSome || c.maxMarketCapUsd.isSome

end UniverseConstraints

/-! ## 3. Checks -/

/-- What a check that fails makes of the state. -/
inductive Effect where
  | ineligible
  | unavailable
  | stale
  | invalid
  /-- `if state is ELIGIBLE: state = INELIGIBLE`. -/
  | demote
  /-- `if state not in {INVALID, STALE}: state = UNAVAILABLE`. -/
  | missing
  deriving DecidableEq, Repr

def Effect.apply : Effect → EvidenceState → EvidenceState
  | .ineligible, _ => .ineligible
  | .unavailable, _ => .unavailable
  | .stale, _ => .stale
  | .invalid, _ => .invalid
  | .demote, state => if state = .eligible then .ineligible else state
  | .missing, state => if state = .invalid ∨ state = .stale then state else .unavailable

/-- A reason with what it makes of the state. -/
structure Finding where
  reason : String
  effect : Effect
  deriving DecidableEq, Repr

/-- The state after all findings. -/
def stateAfter (findings : List Finding) : EvidenceState :=
  findings.foldl (fun state f => f.effect.apply state) .eligible

/-- What one check finds, and the entry it leaves in the availability of the evidence. -/
structure Check where
  evidence : String
  status : String
  findings : List Finding

/-- How old evidence is at the time of the decision. -/
inductive Age where
  | future
  | stale
  | fresh
  deriving DecidableEq, Repr

variable (c : UniverseConstraints F) (ts : F) (item : Payload F)

def age (observedAt : F) : Age :=
  if ts + FloatNum.ofInt 1 < observedAt then .future
  else if c.maxEvidenceAgeSec < ts - observedAt then .stale
  else .fresh

/-- A finding where the condition holds. -/
def findIf (p : Prop) [Decidable p] (reason : String) (effect : Effect) : List Finding :=
  if p then [⟨reason, effect⟩] else []

/-- `str(value or default).upper()`. -/
def upperOr (v : Value F) (default : String) :
    String := upper ((v.or (.text default)).str host.toBuiltins)

/-- `symbol`. -/
def symbolOf : String := (item.get "symbol").label host.toBuiltins

/-- `candidate_quote`. -/
def quoteOf : String := ((item.get "quote_asset").or (item.get "quoteAsset")).label host.toBuiltins

def instrumentStatus : String :=
  upperOr host ((item.get "instrument_status").or (item.get "status")) "TRADING"

def contractType : String :=
  upperOr host ((item.get "contract_type").or (item.get "contractType")) "PERPETUAL"

/-- `item.get("snapshot_complete") is False`. -/
def isIncomplete : Bool :=
  match item.get "snapshot_complete" with
  | .bool false => true
  | _ => false

/-- The quote asset of the symbol, and of the candidate where it names one. -/
def quoteMatches : Prop :=
  (quoteOf host item = "" ∨ quoteOf host item = c.quoteAsset) ∧
    c.quoteAsset.toList <:+ (symbolOf host item).toList

instance : Decidable (quoteMatches host c item) := inferInstanceAs (Decidable (_ ∧ _))

/-- The checks of what the candidate is. -/
def instrumentFindings : List Finding :=
  findIf (symbolOf host item ∈ c.excludedSymbols) "EXPLICITLY_EXCLUDED" .ineligible ++
  findIf (¬ quoteMatches host c item) "QUOTE_ASSET_MISMATCH" .ineligible ++
  findIf (instrumentStatus host item ∉ ["TRADING", "ACTIVE"]) "INSTRUMENT_NOT_TRADING"
    .ineligible ++
  findIf (contractType host item ∉ ["PERPETUAL", "SWAP"]) "INELIGIBLE_INSTRUMENT_TYPE"
    .ineligible ++
  findIf (isIncomplete item = true) "INCOMPLETE_CANDIDATE_SNAPSHOT" .unavailable

/-- `observed_at`. -/
def observedAt : Option F :=
  timestampSeconds host (item.getD "market_observed_at" (item.get "market_ts"))

def marketTimeCheck : Check :=
  match observedAt host item with
  | none => ⟨"market_observed_at", "UNAVAILABLE", [⟨"MARKET_EVIDENCE_UNAVAILABLE", .unavailable⟩]⟩
  | some t =>
    match age c ts t with
    | .future =>
      ⟨"market_observed_at", "INVALID", [⟨"MARKET_EVIDENCE_INVALID_FUTURE_TIMESTAMP", .invalid⟩]⟩
    | .stale => ⟨"market_observed_at", "STALE", [⟨"MARKET_EVIDENCE_STALE", .stale⟩]⟩
    | .fresh => ⟨"market_observed_at", "AVAILABLE", []⟩

/-- A required metric: its keys, and the key it falls back to. -/
structure Metric where
  name : String
  fallback : Option String
  statusKey : String
  observedKey : String

def volumeMetric : Metric :=
  ⟨"volume_24h_usd", some "volume_24h_usdt", "volume_24h_status", "volume_24h_observed_at"⟩

def spreadMetric : Metric := ⟨"spread_pct", none, "spread_status", "spread_observed_at"⟩

def volatilityMetric : Metric :=
  ⟨"volatility_pct", none, "volatility_status", "volatility_observed_at"⟩

variable (m : Metric)

def Metric.raw : Value F := item.getD m.name ((m.fallback.map item.get).getD .none)

/-- `parsed[name]`. -/
def Metric.parsed : Option F := finiteNonnegative host (m.raw item)

/-- `explicit_status`. -/
def Metric.status : String := (item.get m.statusKey).label host.toBuiltins

/-- The value of a metric and its explicit status. -/
def metricValueCheck : Check :=
  let reason (suffix : String) : String := upper m.name ++ suffix
  if isNone (m.raw item) then ⟨m.name, "UNAVAILABLE", [⟨reason "_UNAVAILABLE", .missing⟩]⟩
  else if m.parsed host item = none then ⟨m.name, "INVALID", [⟨reason "_INVALID", .invalid⟩]⟩
  else if m.status host item ∈ ["UNAVAILABLE", "UNKNOWN"] then
    ⟨m.name, "UNAVAILABLE", [⟨reason "_UNAVAILABLE_STATUS", .missing⟩]⟩
  else if m.status host item = "STALE" then ⟨m.name, "STALE", [⟨reason "_STALE", .stale⟩]⟩
  else if m.status host item = "INVALID" then
    ⟨m.name, "INVALID", [⟨reason "_INVALID_STATUS", .invalid⟩]⟩
  else ⟨m.name, "AVAILABLE", []⟩

/-- A metric with the time it was observed at, where it names one. -/
def metricCheck : Check :=
  let value := metricValueCheck host item m
  if isNone (item.get m.observedKey) then value
  else
    match (timestampSeconds host (item.get m.observedKey)).map (age c ts) with
    | some .fresh => value
    | some .stale =>
      ⟨m.name, "STALE", value.findings ++ [⟨upper m.name ++ "_STALE", .stale⟩]⟩
    | _ =>
      ⟨m.name, "INVALID", value.findings ++ [⟨upper m.name ++ "_INVALID_TIMESTAMP", .invalid⟩]⟩

/-- The limits of volume and spread. -/
def limitFindings : List Finding :=
  findIf (∃ v ∈ volumeMetric.parsed host item, v < c.minVolume24hUsd)
    "BELOW_MIN_VOLUME_24H" .demote ++
  findIf (∃ s ∈ spreadMetric.parsed host item, c.maxSpreadPct < s) "UNSAFE_SPREAD" .demote

/-- The words with which optional evidence says that it is missing. -/
def missingWords : List String := ["UNAVAILABLE", "UNKNOWN", "STALE"]

/-- `slippage_status`. -/
def slippageStatus : String := (item.get "slippage_status").label host.toBuiltins

/-- `slippage`. -/
def slippageOf : Option F :=
  if slippageStatus host item ∈ missingWords then none
  else finiteNonnegative host (item.get "expected_slippage_pct")

def slippageCheck : Check :=
  if slippageStatus host item ∈ missingWords then
    ⟨"expected_slippage_pct", slippageStatus host item ++ "_OPTIONAL", []⟩
  else if isNone (item.get "expected_slippage_pct") then
    ⟨"expected_slippage_pct", "UNAVAILABLE_OPTIONAL", []⟩
  else
    match slippageOf host item with
    | none => ⟨"expected_slippage_pct", "INVALID", [⟨"EXPECTED_SLIPPAGE_PCT_INVALID", .invalid⟩]⟩
    | some x =>
      ⟨"expected_slippage_pct", "AVAILABLE",
        findIf (c.maxExpectedSlippagePct < x) "UNSAFE_EXPECTED_SLIPPAGE" .demote⟩

/-- `liquidity`. -/
def liquidityOf : Option F := finiteNonnegative host (item.get "liquidity_score")

def liquidityCheck : Check :=
  if isNone (item.get "liquidity_score") then ⟨"liquidity_score", "UNAVAILABLE_OPTIONAL", []⟩
  else
    match liquidityOf host item with
    | none => ⟨"liquidity_score", "INVALID", [⟨"LIQUIDITY_SCORE_INVALID", .invalid⟩]⟩
    | some x =>
      if FloatNum.ofInt 1 < x then
        ⟨"liquidity_score", "INVALID", [⟨"LIQUIDITY_SCORE_INVALID", .invalid⟩]⟩
      else
        ⟨"liquidity_score", "AVAILABLE", findIf (x < c.minLiquidityScore) "LOW_LIQUIDITY" .demote⟩

/-- `funding_status`. -/
def fundingStatus : String := (item.get "funding_status").label host.toBuiltins

/-- The funding rate counts as missing. -/
def fundingMissing : Bool :=
  fundingStatus host item ∈ missingWords || isNone (item.get "funding_rate_pct")

/-- `funding`: what is no number is NaN; `math.isfinite(None)` raises on a Boolean. -/
def fundingOf : Except PyError (Option F) :=
  if fundingMissing host item then .ok none
  else
    match item.get "funding_rate_pct" with
    | .bool _ => .error .typeError
    | v => .ok (some ((toFloat host v).getD host.nan))

def fundingCheck (funding : Option F) : Check :=
  match funding with
  | none =>
    ⟨"funding_rate_pct",
      (if fundingStatus host item = "" then "UNAVAILABLE" else fundingStatus host item) ++
        "_OPTIONAL", []⟩
  | some x =>
    if FloatNum.isFinite x = true then
      ⟨"funding_rate_pct", "AVAILABLE",
        findIf (c.maxAbsFundingRatePct < FloatNum.abs x) "FUNDING_ANOMALY" .demote⟩
    else ⟨"funding_rate_pct", "INVALID", [⟨"FUNDING_RATE_PCT_INVALID", .invalid⟩]⟩

/-- `market_cap`. -/
def capOf : Option F := finiteNonnegative host (item.get "market_cap_usd")

/-- `cap_observed_at`. -/
def capObservedAt : Option F := timestampSeconds host (item.get "market_cap_observed_at")

/-- `cap_source`. -/
def capSource : String :=
  let v := item.get "market_cap_source"
  if v.truthy then strip (v.str host.toBuiltins) else ""

/-- `cap_status`. -/
def capStatus : String :=
  upperOr host (item.get "market_cap_status")
    (if isNone (item.get "market_cap_usd") then "UNAVAILABLE" else "MEASURED")

/-- The bounds of the market capitalisation. -/
def capFindings (cap : F) : List Finding :=
  findIf (∃ lo ∈ c.minMarketCapUsd, cap < lo) "BELOW_MIN_MARKET_CAP" .demote ++
  findIf (∃ hi ∈ c.maxMarketCapUsd, hi < cap) "ABOVE_MAX_MARKET_CAP" .demote

def requiredCapCheck : Check :=
  match capObservedAt host item with
  | none => ⟨"market_cap_usd", "UNAVAILABLE", [⟨"MARKET_CAP_UNAVAILABLE", .missing⟩]⟩
  | some t =>
    if isNone (item.get "market_cap_usd") ∨ capSource host item = "" ∨
        capStatus host item ∈ ["UNAVAILABLE", "UNKNOWN"] then
      ⟨"market_cap_usd", "UNAVAILABLE", [⟨"MARKET_CAP_UNAVAILABLE", .missing⟩]⟩
    else
      match capOf host item, age c ts t with
      | none, _ => ⟨"market_cap_usd", "INVALID", [⟨"MARKET_CAP_INVALID", .invalid⟩]⟩
      | some _, .future =>
        ⟨"market_cap_usd", "INVALID", [⟨"MARKET_CAP_INVALID_FUTURE_TIMESTAMP", .invalid⟩]⟩
      | some _, .stale => ⟨"market_cap_usd", "STALE", [⟨"MARKET_CAP_STALE", .stale⟩]⟩
      | some cap, .fresh => ⟨"market_cap_usd", "AVAILABLE", capFindings c cap⟩

/-- Without a bound nothing is found; the value only shows in the availability. -/
def optionalCapCheck : Check :=
  ⟨"market_cap_usd",
    if isNone (item.get "market_cap_usd") then "NOT_REQUIRED"
    else if (capOf host item).isSome then "AVAILABLE" else "INVALID_OPTIONAL", []⟩

def capCheck : Check :=
  if c.capRequired then requiredCapCheck host c ts item else optionalCapCheck host item

/-! ## 4. The decision about one candidate -/

/-- The judgement of one candidate, as the passes over the universe rewrite it. -/
structure Row (F : Type) where
  symbol : String
  state : EvidenceState
  reasons : List String
  inputs : Payload F
  availability : List (String × String)

/-- The required metrics. -/
def requiredMetrics : List Metric := [volumeMetric, spreadMetric, volatilityMetric]

/-- The findings of all checks, in their order. -/
def findings (funding : Option F) : List Finding :=
  instrumentFindings host c item ++ (marketTimeCheck host c ts item).findings ++
    (requiredMetrics.flatMap fun m => (metricCheck host c ts item m).findings) ++
    limitFindings host c item ++ (slippageCheck host c item).findings ++
    (liquidityCheck host c item).findings ++ (fundingCheck host c item funding).findings ++
    (capCheck host c ts item).findings

/-- The availability of the evidence. -/
def availabilityOf (funding : Option F) : List (String × String) :=
  sortOn Prod.fst <| ([marketTimeCheck host c ts item] ++
    requiredMetrics.map (metricCheck host c ts item) ++
    [slippageCheck host c item, liquidityCheck host c item, fundingCheck host c item funding,
      capCheck host c ts item]).map fun check => (check.evidence, check.status)

/-- The numbers read from the candidate. -/
def readings (funding : Option F) : Payload F :=
  [("symbol", .text (symbolOf host item)),
    ("volume_24h_usd", optionalNumber (volumeMetric.parsed host item)),
    ("spread_pct", optionalNumber (spreadMetric.parsed host item)),
    ("volatility_pct", optionalNumber (volatilityMetric.parsed host item)),
    ("expected_slippage_pct", optionalNumber (slippageOf host item)),
    ("liquidity_score", optionalNumber (liquidityOf host item)),
    ("funding_rate_pct", optionalNumber funding),
    ("market_cap_usd", optionalNumber (capOf host item)),
    ("market_observed_at", optionalNumber (observedAt host item))]

/-- `{**entries, **updates}`. -/
def overwrite (entries updates : Payload F) : Payload F :=
  updates.foldl (fun d e => assign d e.1 e.2) entries

/-- `inputs`. -/
def inputsOf (funding : Option F) : Payload F :=
  sortOn Prod.fst (overwrite (jsonSafeEntries item) (readings host item funding))

/-- The row of a candidate without a symbol. -/
def malformedRow : Row F where
  symbol := if symbolOf host item = "" then "UNKNOWN" else symbolOf host item
  state := .invalid
  reasons := ["MALFORMED_SYMBOL"]
  inputs := sortOn Prod.fst (jsonSafeEntries item)
  availability := [("symbol", "INVALID")]

/-- The row of a candidate with a symbol and a reading of its funding rate. -/
def checkedRow (funding : Option F) : Row F where
  symbol := symbolOf host item
  state := stateAfter (findings host c ts item funding)
  reasons := (findings host c ts item funding).map Finding.reason
  inputs := inputsOf host item funding
  availability := availabilityOf host c ts item funding

/-- `_candidate_base_decision`. -/
def baseDecision : Except PyError (Row F) :=
  if isSymbol (symbolOf host item) = true then do
    let funding ← fundingOf host item
    return checkedRow host c ts item funding
  else .ok (malformedRow host item)

/-! ## 5. What the constraints ask of a candidate -/

/-- A metric that can be used: a number, not marked otherwise, and fresh where it is dated. -/
structure Metric.Usable : Prop where
  number : (m.parsed host item).isSome = true
  status : m.status host item ∉ ["UNAVAILABLE", "UNKNOWN", "STALE", "INVALID"]
  fresh : isNone (item.get m.observedKey) = true ∨
    ∃ t, timestampSeconds host (item.get m.observedKey) = some t ∧ age c ts t = .fresh

/-- What the constraints ask of a candidate. -/
structure Satisfies : Prop where
  symbol : isSymbol (symbolOf host item) = true
  notExcluded : symbolOf host item ∉ c.excludedSymbols
  quote : quoteMatches host c item
  trading : instrumentStatus host item ∈ ["TRADING", "ACTIVE"]
  perpetual : contractType host item ∈ ["PERPETUAL", "SWAP"]
  complete : isIncomplete item = false
  observed : ∃ t, observedAt host item = some t ∧ age c ts t = .fresh
  metrics : ∀ m ∈ requiredMetrics, m.Usable host c ts item
  volume : ∀ v ∈ volumeMetric.parsed host item, ¬ v < c.minVolume24hUsd
  spread : ∀ s ∈ spreadMetric.parsed host item, ¬ c.maxSpreadPct < s
  slippage : slippageStatus host item ∈ missingWords ∨
    isNone (item.get "expected_slippage_pct") = true ∨
    ∃ x, slippageOf host item = some x ∧ ¬ c.maxExpectedSlippagePct < x
  liquidity : isNone (item.get "liquidity_score") = true ∨
    ∃ x, liquidityOf host item = some x ∧ ¬ FloatNum.ofInt 1 < x ∧ ¬ x < c.minLiquidityScore
  funding : fundingMissing host item = true ∨
    ∃ x, toFloat host (item.get "funding_rate_pct") = some x ∧ FloatNum.isFinite x = true ∧
      ¬ c.maxAbsFundingRatePct < FloatNum.abs x
  cap : c.capRequired = true →
    (∃ t, capObservedAt host item = some t ∧ age c ts t = .fresh) ∧ capSource host item ≠ "" ∧
    capStatus host item ∉ ["UNAVAILABLE", "UNKNOWN"] ∧
    ∃ cap, capOf host item = some cap ∧ (∀ lo ∈ c.minMarketCapUsd, ¬ cap < lo) ∧
      ∀ hi ∈ c.maxMarketCapUsd, ¬ hi < cap

omit [FloatNum F] in
theorem isNone_iff {v : Value F} : isNone v = true ↔ v = .none := by
  cases v <;> simp [isNone]

theorem findIf_eq_nil {p : Prop} [Decidable p] {reason : String} {effect : Effect} :
    findIf p reason effect = [] ↔ ¬ p := by
  unfold findIf
  by_cases h : p
  · simp [h]
  · simp [h]

/-- Every finding takes the candidate out of the eligible ones. -/
theorem Effect.apply_ne_eligible (e : Effect) (s : EvidenceState) : e.apply s ≠ .eligible := by
  cases e <;> cases s <;> decide

theorem stateAfter_eligible_iff {fs : List Finding} : stateAfter fs = .eligible ↔ fs = [] := by
  rcases List.eq_nil_or_concat fs with h | ⟨rest, last, h⟩
  · rw [h]
    exact iff_of_true rfl rfl
  · have hne : stateAfter (rest ++ [last]) ≠ .eligible := by
      unfold stateAfter
      rw [List.foldl_append]
      exact last.effect.apply_ne_eligible _
    rw [h, List.concat_eq_append]
    exact iff_of_false hne (by simp)

theorem instrumentFindings_eq_nil :
    instrumentFindings host c item = [] ↔ symbolOf host item ∉ c.excludedSymbols ∧
      quoteMatches host c item ∧ instrumentStatus host item ∈ ["TRADING", "ACTIVE"] ∧
      contractType host item ∈ ["PERPETUAL", "SWAP"] ∧ isIncomplete item = false := by
  unfold instrumentFindings
  simp only [List.append_eq_nil_iff, findIf_eq_nil, not_not, Bool.not_eq_true, and_assoc]

theorem marketTimeCheck_eq_nil :
    (marketTimeCheck host c ts item).findings = [] ↔
      ∃ t, observedAt host item = some t ∧ age c ts t = .fresh := by
  unfold marketTimeCheck
  cases h : observedAt host item with
  | none => simp
  | some t =>
    cases ha : age c ts t with
    | future => simp [ha]
    | stale => simp [ha]
    | fresh => simp [ha]

theorem metricValueCheck_eq_nil :
    (metricValueCheck host item m).findings = [] ↔ (m.parsed host item).isSome = true ∧
      m.status host item ∉ ["UNAVAILABLE", "UNKNOWN", "STALE", "INVALID"] := by
  unfold metricValueCheck
  by_cases hraw : isNone (m.raw item) = true
  · have hnone : m.parsed host item = none := by
      unfold Metric.parsed
      rw [isNone_iff.mp hraw]
      rfl
    simp [hraw, hnone]
  by_cases hparsed : m.parsed host item = none
  · simp [hraw, hparsed]
  have hsome : (m.parsed host item).isSome = true := Option.isSome_iff_ne_none.mpr hparsed
  rw [if_neg hraw, if_neg hparsed]
  by_cases hmissing : m.status host item ∈ ["UNAVAILABLE", "UNKNOWN"]
  · rw [if_pos hmissing]
    exact iff_of_false (by simp) fun h => h.2 (List.mem_append_left ["STALE", "INVALID"] hmissing)
  by_cases hstale : m.status host item = "STALE"
  · simp [hstale]
  by_cases hinvalid : m.status host item = "INVALID"
  · simp [hinvalid]
  rw [if_neg hmissing, if_neg hstale, if_neg hinvalid]
  refine iff_of_true rfl ⟨hsome, fun hmem => ?_⟩
  rcases List.mem_append.mp (show _ ∈ ["UNAVAILABLE", "UNKNOWN"] ++ ["STALE", "INVALID"] from hmem)
    with hmem | hmem
  · exact hmissing hmem
  · simp [hstale, hinvalid] at hmem

theorem metricCheck_eq_nil :
    (metricCheck host c ts item m).findings = [] ↔ m.Usable host c ts item := by
  have hiff : m.Usable host c ts item ↔ (metricValueCheck host item m).findings = [] ∧
      (isNone (item.get m.observedKey) = true ∨
        ∃ t, timestampSeconds host (item.get m.observedKey) = some t ∧ age c ts t = .fresh) := by
    rw [metricValueCheck_eq_nil]
    exact ⟨fun h => ⟨⟨h.number, h.status⟩, h.fresh⟩, fun h => ⟨h.1.1, h.1.2, h.2⟩⟩
  rw [hiff]
  unfold metricCheck
  by_cases hnone : isNone (item.get m.observedKey) = true
  · simp [hnone]
  cases ht : timestampSeconds host (item.get m.observedKey) with
  | none => simp [hnone]
  | some t =>
    cases ha : age c ts t with
    | future => simp [hnone, ha]
    | stale => simp [hnone, ha]
    | fresh => simp [hnone, ha]

theorem limitFindings_eq_nil :
    limitFindings host c item = [] ↔
      (∀ v ∈ volumeMetric.parsed host item, ¬ v < c.minVolume24hUsd) ∧
      ∀ s ∈ spreadMetric.parsed host item, ¬ c.maxSpreadPct < s := by
  unfold limitFindings
  simp only [List.append_eq_nil_iff, findIf_eq_nil, not_exists, not_and]

theorem slippageCheck_eq_nil :
    (slippageCheck host c item).findings = [] ↔ slippageStatus host item ∈ missingWords ∨
      isNone (item.get "expected_slippage_pct") = true ∨
      ∃ x, slippageOf host item = some x ∧ ¬ c.maxExpectedSlippagePct < x := by
  unfold slippageCheck
  by_cases hword : slippageStatus host item ∈ missingWords
  · simp [hword]
  by_cases hraw : isNone (item.get "expected_slippage_pct") = true
  · simp [hword, hraw]
  cases hs : slippageOf host item with
  | none => simp [hword, hraw]
  | some x => simp [hword, hraw, findIf_eq_nil]

theorem liquidityCheck_eq_nil :
    (liquidityCheck host c item).findings = [] ↔ isNone (item.get "liquidity_score") = true ∨
      ∃ x, liquidityOf host item = some x ∧ ¬ FloatNum.ofInt 1 < x ∧ ¬ x < c.minLiquidityScore := by
  unfold liquidityCheck
  by_cases hraw : isNone (item.get "liquidity_score") = true
  · simp [hraw]
  cases hl : liquidityOf host item with
  | none => simp [hraw]
  | some x =>
    by_cases hx : FloatNum.ofInt 1 < x
    · simp [hraw, hx]
    · simp [hraw, hx, findIf_eq_nil]

theorem fundingCheck_eq_nil {funding : Option F} (h : fundingOf host item = .ok funding) :
    (fundingCheck host c item funding).findings = [] ↔ fundingMissing host item = true ∨
      ∃ x, toFloat host (item.get "funding_rate_pct") = some x ∧ FloatNum.isFinite x = true ∧
        ¬ c.maxAbsFundingRatePct < FloatNum.abs x := by
  unfold fundingOf at h
  by_cases hmiss : fundingMissing host item = true
  · rw [if_pos hmiss] at h
    cases h
    simp [hmiss, fundingCheck]
  rw [if_neg hmiss] at h
  -- what is read is the number, or NaN
  have hread : funding = some ((toFloat host (item.get "funding_rate_pct")).getD host.nan) := by
    cases hv : item.get "funding_rate_pct" <;> simp only [hv] at h <;> cases h <;> rfl
  rw [hread]
  cases hf : toFloat host (item.get "funding_rate_pct") with
  | none => simp [hmiss, fundingCheck, host.nan_not_finite]
  | some x =>
    by_cases hx : FloatNum.isFinite x = true
    · simp [hmiss, fundingCheck, hx, findIf_eq_nil]
    · simp [hmiss, fundingCheck, hx]

theorem requiredCapCheck_eq_nil :
    (requiredCapCheck host c ts item).findings = [] ↔
      (∃ t, capObservedAt host item = some t ∧ age c ts t = .fresh) ∧ capSource host item ≠ "" ∧
      capStatus host item ∉ ["UNAVAILABLE", "UNKNOWN"] ∧
      ∃ cap, capOf host item = some cap ∧ (∀ lo ∈ c.minMarketCapUsd, ¬ cap < lo) ∧
        ∀ hi ∈ c.maxMarketCapUsd, ¬ hi < cap := by
  unfold requiredCapCheck
  cases ht : capObservedAt host item with
  | none => simp
  | some t =>
    by_cases hraw : isNone (item.get "market_cap_usd") = true
    · have hnone : capOf host item = none := by
        unfold capOf
        rw [isNone_iff.mp hraw]
        rfl
      simp [hraw, hnone]
    by_cases hsource : capSource host item = ""
    · simp [hsource]
    by_cases hstatus : capStatus host item ∈ ["UNAVAILABLE", "UNKNOWN"]
    · simp [hstatus]
    have hgiven : ¬ (isNone (item.get "market_cap_usd") = true ∨ capSource host item = "" ∨
        capStatus host item ∈ ["UNAVAILABLE", "UNKNOWN"]) := by
      intro h
      rcases h with h | h | h
      · exact hraw h
      · exact hsource h
      · exact hstatus h
    simp only [if_neg hgiven]
    cases hc : capOf host item with
    | none => simp
    | some cap =>
      cases ha : age c ts t with
      | future => simp [ha]
      | stale => simp [ha]
      | fresh =>
        simp [ha, hsource, hstatus, capFindings, List.append_eq_nil_iff, findIf_eq_nil]

theorem capCheck_eq_nil :
    (capCheck host c ts item).findings = [] ↔ (c.capRequired = true →
      (∃ t, capObservedAt host item = some t ∧ age c ts t = .fresh) ∧ capSource host item ≠ "" ∧
      capStatus host item ∉ ["UNAVAILABLE", "UNKNOWN"] ∧
      ∃ cap, capOf host item = some cap ∧ (∀ lo ∈ c.minMarketCapUsd, ¬ cap < lo) ∧
        ∀ hi ∈ c.maxMarketCapUsd, ¬ hi < cap) := by
  unfold capCheck
  by_cases h : c.capRequired = true
  · rw [if_pos h, requiredCapCheck_eq_nil]
    exact ⟨fun hcap _ => hcap, fun hcap => hcap h⟩
  · rw [if_neg h]
    exact iff_of_true rfl fun h' => absurd h' h

/-- Nothing is found exactly where the constraints are satisfied. -/
theorem findings_eq_nil {funding : Option F} (hsymbol : isSymbol (symbolOf host item) = true)
    (h : fundingOf host item = .ok funding) :
    findings host c ts item funding = [] ↔ Satisfies host c ts item := by
  unfold findings
  simp only [List.append_eq_nil_iff, List.flatMap_eq_nil_iff, instrumentFindings_eq_nil,
    marketTimeCheck_eq_nil, metricCheck_eq_nil, limitFindings_eq_nil, slippageCheck_eq_nil,
    liquidityCheck_eq_nil, fundingCheck_eq_nil host c item h, capCheck_eq_nil]
  constructor
  · intro ⟨⟨⟨⟨⟨⟨⟨hinst, hobs⟩, hmetrics⟩, hlimits⟩, hslip⟩, hliq⟩, hfund⟩, hcap⟩
    exact ⟨hsymbol, hinst.1, hinst.2.1, hinst.2.2.1, hinst.2.2.2.1, hinst.2.2.2.2, hobs, hmetrics,
      hlimits.1, hlimits.2, hslip, hliq, hfund, hcap⟩
  · intro hs
    exact ⟨⟨⟨⟨⟨⟨⟨⟨hs.notExcluded, hs.quote, hs.trading, hs.perpetual, hs.complete⟩, hs.observed⟩,
      hs.metrics⟩, hs.volume, hs.spread⟩, hs.slippage⟩, hs.liquidity⟩, hs.funding⟩, hs.cap⟩

omit [FloatNum F] in
/-- What was written last is read. -/
theorem get_overwrite {entries updates : Payload F} {key : String} {v : Value F}
    (hnodup : (updates.map Prod.fst).Nodup) (h : (key, v) ∈ updates) :
    Payload.get (sortOn Prod.fst (overwrite entries updates)) key = v := by
  have hlast : ∀ (updates : Payload F) (entries : Payload F), key ∉ updates.map Prod.fst →
      (overwrite entries updates).lookup key = entries.lookup key := by
    intro updates
    induction updates with
    | nil => exact fun _ _ => rfl
    | cons e rest ih =>
      intro entries hkey
      rw [List.map_cons, List.mem_cons, not_or] at hkey
      have hrest : (overwrite (assign entries e.1 e.2) rest).lookup key = entries.lookup key := by
        rw [ih _ hkey.2, lookup_assign, if_neg hkey.1]
      exact hrest
  have hlookup : (overwrite entries updates).lookup key = some v := by
    induction updates generalizing entries with
    | nil => exact absurd h List.not_mem_nil
    | cons e rest ih =>
      obtain ⟨hnew, hrest⟩ := List.nodup_cons.mp hnodup
      rcases List.mem_cons.mp h with he | hmem
      · have hread : (overwrite (assign entries e.1 e.2) rest).lookup key = some v := by
          rw [← he] at hnew ⊢
          rw [hlast rest _ hnew, lookup_assign, if_pos rfl]
        exact hread
      · exact ih hrest hmem
  unfold Payload.get Payload.getD
  rw [lookup_sortOn, hlookup]
  rfl

/-- An eligible row has the numbers of the required metrics. -/
theorem eligible_metric {row : Row F} (h : baseDecision host c ts item = .ok row)
    (he : row.state = .eligible) (hm : m ∈ requiredMetrics) :
    ∃ x, row.inputs.get m.name = .float x ∧ FiniteNonneg x := by
  unfold baseDecision at h
  by_cases hsymbol : isSymbol (symbolOf host item) = true
  · rw [if_pos hsymbol] at h
    obtain ⟨funding, hfunding, hrow⟩ := ok_of_bind h
    cases hrow
    have hsat : Satisfies host c ts item :=
      (findings_eq_nil host c ts item hsymbol hfunding).mp (stateAfter_eligible_iff.mp he)
    obtain ⟨x, hx⟩ := Option.isSome_iff_exists.mp (hsat.metrics m hm).number
    refine ⟨x, ?_, finiteNonnegative_spec host hx⟩
    have hnodup : ((readings host item funding).map Prod.fst).Nodup :=
      show ["symbol", "volume_24h_usd", "spread_pct", "volatility_pct", "expected_slippage_pct",
        "liquidity_score", "funding_rate_pct", "market_cap_usd",
          "market_observed_at"].Nodup by decide
    refine get_overwrite hnodup ?_
    have hread : (m.name, optionalNumber (m.parsed host item)) ∈ readings host item funding := by
      simp only [requiredMetrics, List.mem_cons, List.not_mem_nil, or_false] at hm
      rcases hm with hm | hm | hm
      · simp [hm, readings, volumeMetric]
      · simp [hm, readings, spreadMetric]
      · simp [hm, readings, volatilityMetric]
    rw [hx] at hread
    exact hread
  · rw [if_neg hsymbol] at h
    cases h
    cases he

/-- The availability of the evidence stands in the order of its keys. -/
theorem baseDecision_availability {row : Row F} (h : baseDecision host c ts item = .ok row) :
    sortOn Prod.fst row.availability = row.availability := by
  unfold baseDecision at h
  by_cases hsymbol : isSymbol (symbolOf host item) = true
  · rw [if_pos hsymbol] at h
    obtain ⟨funding, _, hrow⟩ := ok_of_bind h
    cases hrow
    exact sortOn_sorted (pairwise_sortOn _)
  · rw [if_neg hsymbol] at h
    cases h
    rfl

/-- The reasons the checks can find. -/
def checkReasons : List String :=
  ["MALFORMED_SYMBOL", "EXPLICITLY_EXCLUDED", "QUOTE_ASSET_MISMATCH", "INSTRUMENT_NOT_TRADING",
    "INELIGIBLE_INSTRUMENT_TYPE", "INCOMPLETE_CANDIDATE_SNAPSHOT", "MARKET_EVIDENCE_UNAVAILABLE",
    "MARKET_EVIDENCE_INVALID_FUTURE_TIMESTAMP", "MARKET_EVIDENCE_STALE", "BELOW_MIN_VOLUME_24H",
    "UNSAFE_SPREAD", "EXPECTED_SLIPPAGE_PCT_INVALID", "UNSAFE_EXPECTED_SLIPPAGE",
    "LIQUIDITY_SCORE_INVALID", "LOW_LIQUIDITY", "FUNDING_RATE_PCT_INVALID", "FUNDING_ANOMALY",
    "MARKET_CAP_UNAVAILABLE", "MARKET_CAP_INVALID", "MARKET_CAP_INVALID_FUTURE_TIMESTAMP",
    "MARKET_CAP_STALE", "BELOW_MIN_MARKET_CAP", "ABOVE_MAX_MARKET_CAP"] ++
  requiredMetrics.flatMap fun m =>
    ["_UNAVAILABLE", "_INVALID", "_UNAVAILABLE_STATUS", "_STALE", "_INVALID_STATUS",
      "_INVALID_TIMESTAMP"].map (upper m.name ++ ·)

/-- Every reason of the list is one the checks can find. -/
def Known (fs : List Finding) : Prop := ∀ f ∈ fs, f.reason ∈ checkReasons

theorem known_nil : Known [] := List.forall_mem_nil _

theorem known_append {fs gs : List Finding} (hf : Known fs) (hg : Known gs) : Known (fs ++ gs) :=
  List.forall_mem_append.mpr ⟨hf, hg⟩

theorem known_singleton {f : Finding} (h : f.reason ∈ checkReasons) : Known [f] :=
  List.forall_mem_singleton.mpr h

theorem known_findIf {p : Prop} [Decidable p] {reason : String} {effect : Effect}
    (h : reason ∈ checkReasons) : Known (findIf p reason effect) := by
  unfold findIf
  split
  · exact known_singleton h
  · exact known_nil

theorem known_instrumentFindings : Known (instrumentFindings host c item) := by
  unfold instrumentFindings
  refine known_append (known_append (known_append (known_append ?_ ?_) ?_) ?_) ?_
  all_goals exact known_findIf (by decide)

theorem known_marketTimeCheck : Known (marketTimeCheck host c ts item).findings := by
  unfold marketTimeCheck
  split
  · exact known_singleton (by decide)
  split
  · exact known_singleton (by decide)
  · exact known_singleton (by decide)
  · exact known_nil

theorem known_metricCheck (hm : m ∈ requiredMetrics) :
    Known (metricCheck host c ts item m).findings := by
  have hreason : ∀ suffix ∈ ["_UNAVAILABLE", "_INVALID", "_UNAVAILABLE_STATUS", "_STALE",
      "_INVALID_STATUS", "_INVALID_TIMESTAMP"], upper m.name ++ suffix ∈ checkReasons := by
    intro suffix hs
    refine List.mem_append_right _ (List.mem_flatMap.mpr ⟨m, hm, ?_⟩)
    exact List.mem_map_of_mem hs
  have hvalue : Known (metricValueCheck host item m).findings := by
    unfold metricValueCheck
    split
    · exact known_singleton (hreason _ (by decide))
    split
    · exact known_singleton (hreason _ (by decide))
    split
    · exact known_singleton (hreason _ (by decide))
    split
    · exact known_singleton (hreason _ (by decide))
    split
    · exact known_singleton (hreason _ (by decide))
    · exact known_nil
  unfold metricCheck
  simp only
  split
  · exact hvalue
  split
  · exact hvalue
  · exact known_append hvalue (known_singleton (hreason _ (by decide)))
  · exact known_append hvalue (known_singleton (hreason _ (by decide)))

theorem known_slippageCheck : Known (slippageCheck host c item).findings := by
  unfold slippageCheck
  split
  · exact known_nil
  split
  · exact known_nil
  split
  · exact known_singleton (by decide)
  · exact known_findIf (by decide)

theorem known_liquidityCheck : Known (liquidityCheck host c item).findings := by
  unfold liquidityCheck
  split
  · exact known_nil
  split
  · exact known_singleton (by decide)
  split
  · exact known_singleton (by decide)
  · exact known_findIf (by decide)

theorem known_fundingCheck (funding : Option F) :
    Known (fundingCheck host c item funding).findings := by
  unfold fundingCheck
  split
  · exact known_nil
  split
  · exact known_findIf (by decide)
  · exact known_singleton (by decide)

theorem known_capCheck : Known (capCheck host c ts item).findings := by
  unfold capCheck
  split
  · unfold requiredCapCheck
    split
    · exact known_singleton (by decide)
    split
    · exact known_singleton (by decide)
    split
    · exact known_singleton (by decide)
    · exact known_singleton (by decide)
    · exact known_singleton (by decide)
    · exact known_append (known_findIf (by decide)) (known_findIf (by decide))
  · exact known_nil

theorem known_findings (funding : Option F) : Known (findings host c ts item funding) := by
  have hmetrics : Known (requiredMetrics.flatMap
    fun m => (metricCheck host c ts item m).findings) := by
    intro f hf
    obtain ⟨m, hm, hmem⟩ := List.mem_flatMap.mp hf
    exact known_metricCheck host c ts item m hm f hmem
  have hlimits : Known (limitFindings host c item) :=
    known_append (known_findIf (by decide)) (known_findIf (by decide))
  unfold findings
  refine known_append (known_append (known_append (known_append (known_append (known_append
    (known_append ?_ ?_) hmetrics) hlimits) ?_) ?_) ?_) ?_
  · exact known_instrumentFindings host c item
  · exact known_marketTimeCheck host c ts item
  · exact known_slippageCheck host c item
  · exact known_liquidityCheck host c item
  · exact known_fundingCheck host c item funding
  · exact known_capCheck host c ts item

/-- The reasons of a judgement are reasons of the checks. -/
theorem baseDecision_known {row : Row F} (h : baseDecision host c ts item = .ok row) :
    ∀ reason ∈ row.reasons, reason ∈ checkReasons := by
  unfold baseDecision at h
  by_cases hsymbol : isSymbol (symbolOf host item) = true
  · rw [if_pos hsymbol] at h
    obtain ⟨funding, _, hrow⟩ := ok_of_bind h
    cases hrow
    intro reason hreason
    obtain ⟨f, hf, hfr⟩ := List.mem_map.mp hreason
    exact hfr ▸ known_findings host c ts item funding f hf
  · rw [if_neg hsymbol] at h
    cases h
    exact List.forall_mem_singleton.mpr (by decide)

/-- **The judgement of one candidate**: ELIGIBLE exactly without reasons, and without reasons
    exactly where the constraints are satisfied. -/
theorem baseDecision_reasons {row : Row F} (h : baseDecision host c ts item = .ok row) :
    (row.state = .eligible ↔ row.reasons = []) ∧
      (row.reasons = [] ↔ Satisfies host c ts item) := by
  unfold baseDecision at h
  by_cases hsymbol : isSymbol (symbolOf host item) = true
  · rw [if_pos hsymbol] at h
    obtain ⟨funding, hfunding, hrow⟩ := ok_of_bind h
    cases hrow
    refine ⟨?_, ?_⟩
    · exact stateAfter_eligible_iff.trans List.map_eq_nil_iff.symm
    · exact List.map_eq_nil_iff.trans (findings_eq_nil host c ts item hsymbol hfunding)
  · rw [if_neg hsymbol] at h
    cases h
    refine ⟨iff_of_false nofun nofun, iff_of_false nofun fun hs => hsymbol hs.symbol⟩

end AlphaForge.Universe
