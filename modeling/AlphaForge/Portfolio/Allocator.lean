/-
  File:      AlphaForge/Portfolio/Allocator.lean
  Subject:   `allocate_portfolio_candidates`: one greedy pass over a candidate set, against a
             ledger of the exposures already allocated.

  * `Item` -- a normalized candidate; `preferenceSort` -- the processing order.
  * `Ledger` -- the running accumulators; `candidateSnapshot` -- the snapshot one candidate is
    checked against.
  * `allocateCandidate` -- one step: the gate on the requested notional, the remaining capacity,
    the gate on what is left of it; `allocateAll` -- the pass.
  * `Granted` -- what a candidate with a positive allocation has passed; `allocate_cases` -- a step
    allocates nothing, or grants and adds to the ledger.

  Left out: the hashes and identifiers of the decision, and the copy of the candidate's inputs.
-/
import AlphaForge.Portfolio.Risk
import Mathlib.Data.List.Sort
import Mathlib.Data.List.Nodup

namespace AlphaForge.Portfolio

open AlphaForge.Lib

/-! ## 1. Candidates -/

/-- A candidate as the allocator receives it: `none` stands for a missing key and for `None`.
    `numbers` answers the numeric keys, each by the name the mapping has for it. -/
structure RawCandidate (F : Type) where
  symbol : Option String := none
  side : Option String := none
  candidateId : Option String := none
  signalId : Option String := none
  correlationGroup : Option String := none
  hardGateAccepted : Option Bool := none
  hardGateReason : Option String := none
  symbolCooldownRemainingSec : Option F := none
  tradesTodaySymbol : Option (PyNum F) := none
  symbolLossClusterActive : Option Bool := none
  riskStateComplete : Option Bool := none
  numbers : String → Value F := fun _ => .none

/-- The four components of the preference. -/
structure PreferenceComponents (F : Type) where
  expectedNetR : Option F
  effectiveRr : Option F
  score : Option F
  executionQuality : Option F
  deriving DecidableEq

/-- A normalized candidate. Its side is upper-cased already. -/
structure Item (F : Type) where
  raw : RawCandidate F
  candidateId : String
  symbol : String
  side : String
  entry : Option F
  requestedQuantity : Option F
  requestedNotional : Option F
  requestedRisk : Option F
  correlationGroup : String
  preference : PreferenceComponents F
  upper_side : upper side = side

/-- `text or default`. -/
def textOr (s : Option String) (default : String) : String :=
  match s with
  | some t => if t = "" then default else t
  | none => default

/-- `base` without the ending `q`, where something is left. -/
def withoutSuffix (base q : String) : Option String :=
  if q.toList <:+ base.toList ∧ q.length < base.length then
    some (String.ofList (base.toList.take (base.length - q.length)))
  else none

/-- `correlation_group_for_symbol` without overrides. -/
def correlationGroupForSymbol (symbol : String) : String :=
  let s := String.ofList ((upper symbol).toList.filter (· != '-'))
  let base := (["USDT", "USD", "USDC", "BUSD", "BTC", "ETH"].findSome? (withoutSuffix s)).getD s
  if base ∈ ["BTC", "WBTC", "ETH", "STETH", "WETH"] then "CRYPTO_MAJOR"
  else if base ∈ ["DOGE", "SHIB", "PEPE", "BONK", "FLOKI", "WIF"] then "CRYPTO_MEME_LOW_LIQUIDITY"
  else if base ∈ ["SOL", "AVAX", "BNB", "XRP", "ADA", "LINK", "DOT", "MATIC", "ARB", "OP"] then
    "CRYPTO_HIGH_BETA_ALT"
  else if base ∈ ["USDT", "USDC", "DAI", "USD", "EUR"] then "STABLE_FIAT"
  else "UNKNOWN_CONSERVATIVE"

section Allocate

variable {F : Type} [FloatNum F]

/-- `_first_number`. -/
def firstNumber (raw : RawCandidate F) : List String → Option F
  | [] => none
  | key :: keys =>
    match raw.numbers key with
    | .none => firstNumber raw keys
    | v => v.num

/-- `_normalized_allocation_candidate`. -/
def normalizedAllocationCandidate (raw : RawCandidate F) : Item F :=
  let symbol := upper (strip (textOr raw.symbol ""))
  let side := upper (strip (textOr raw.side "LONG"))
  let requestedQuantity := firstNumber raw ["requested_quantity", "quantity", "qty"]
  let entry := firstNumber raw ["entry", "entry_price", "price"]
  let requestedNotional := firstNumber raw
    ["requested_notional", "notional", "notional_usdt", "order_notional", "effective_notional"]
  { raw := raw
    candidateId := textOr raw.candidateId (textOr raw.signalId (symbol ++ ":" ++ side))
    symbol := symbol
    side := side
    entry := entry
    requestedQuantity := requestedQuantity
    requestedNotional :=
      match requestedNotional, requestedQuantity, entry with
      | none, some q, some e => some (FloatNum.abs (q * e))
      | n, _, _ => n
    requestedRisk := firstNumber raw ["requested_risk", "risk_at_stop_usdt", "risk_at_stop"]
    correlationGroup := textOr raw.correlationGroup (correlationGroupForSymbol symbol)
    preference :=
      { expectedNetR :=
          firstNumber raw ["expected_net_r", "expected_net_R", "expectancy_after_costs"]
        effectiveRr := firstNumber raw ["effective_rr", "expected_effective_r"]
        score := firstNumber raw ["score", "decision_score", "symbol_score"]
        executionQuality := firstNumber raw ["execution_quality", "liquidity_score"] }
    upper_side := upper_upper _ }

/-! ## 2. The processing order -/

/-- One component of the sort key, by the number it denotes: `-value`, and `math.inf` for a missing
    value. `none` is NaN; comparisons of floats look at nothing else. -/
def preferenceKey : Option F → Option ExtRat
  | some x => FloatNum.value (-x)
  | none => some ((⊤ : WithTop ℚ) : ExtRat)

/-- The numbers of the key, in order. -/
def Item.preferenceKeys (item : Item F) : List (Option ExtRat) :=
  [item.preference.expectedNetR, item.preference.effectiveRr, item.preference.score,
    item.preference.executionQuality].map preferenceKey

/-- `a == b` of two key components. -/
def keyEq : Option ExtRat → Option ExtRat → Bool
  | some a, some b => a == b
  | _, _ => false

/-- `a < b` of two key components. -/
def keyLt : Option ExtRat → Option ExtRat → Bool
  | some a, some b => decide (a < b)
  | _, _ => false

/-- Tuple comparison of the numbers: the first components that are not equal decide; `none` where
    all are equal. -/
def numbersLt : List (Option ExtRat) → List (Option ExtRat) → Option Bool
  | a :: as, b :: bs => if keyEq a b then numbersLt as bs else some (keyLt a b)
  | _, _ => none

/-- Tuple comparison of the texts. -/
def textsLt : List String → List String → Bool
  | a :: as, b :: bs => if a = b then textsLt as bs else decide (a < b)
  | _, _ => false

/-- `_preference_sort_key(a) < _preference_sort_key(b)`. -/
def Item.before (a b : Item F) : Bool :=
  (numbersLt a.preferenceKeys b.preferenceKeys).getD
    (textsLt [a.candidateId, a.symbol, a.side] [b.candidateId, b.symbol, b.side])

/-- `sorted(normalized, key=_preference_sort_key)`: a stable sort. -/
def preferenceSort (items : List (Item F)) : List (Item F) :=
  items.insertionSort fun a b => b.before a = false

/-! ## 3. The ledger -/

/-- The accumulators of the pass. An absent key reads as zero. -/
structure Ledger (F : Type) where
  totalExposure : F
  sideLong : F
  sideShort : F
  netExposure : F
  symbolExposures : String → Option F
  groupExposures : String → Option F
  groupCounts : String → Option ℤ
  allocatedPositions : ℤ

def Ledger.symbolExposure (l : Ledger F) (symbol : String) : F :=
  (l.symbolExposures symbol).getD (FloatNum.ofInt 0)

def Ledger.groupExposure (l : Ledger F) (key : String) : F :=
  (l.groupExposures key).getD (FloatNum.ofInt 0)

def Ledger.groupCount (l : Ledger F) (key : String) : ℤ := (l.groupCounts key).getD 0

/-- `f"{group}:{side}"`. -/
def groupKey (group side : String) : String := group ++ ":" ++ side

def Item.groupKey (item : Item F) : String := Portfolio.groupKey item.correlationGroup item.side

/-- A mapping built from its entries in order: the last entry of a key stays. -/
def lastEntry {α : Type} (entries : List (String × α)) (key : String) : Option α :=
  entries.reverse.lookup key

/-- `int(count or 0)`. -/
def countOrZero : Option (PyNum F) → Except PyError ℤ
  | none => .ok 0
  | some (.int n) => .ok n
  | some (.float x) => if FloatNum.feq x (FloatNum.ofInt 0) then .ok 0 else (PyNum.float x).toInt

/-- `int(value)` of every entry. -/
def intEntries : List (String × PyNum F) → Except PyError (List (String × ℤ))
  | [] => .ok []
  | (key, value) :: rest => do
    let n ← value.toInt
    let entries ← intEntries rest
    return (key, n) :: entries

/-- The group a snapshot names without a map of groups. -/
def Snapshot.legacyGroup (s : Snapshot F) : Option String :=
  match s.correlationGroup with
  | some g => if s.correlationGroupExposures = [] ∧ g ≠ "" then some g else none
  | none => none

/-- The symbol exposures of the snapshot. A scalar without a map counts for every candidate. -/
def startSymbols (s : Snapshot F) (items : List (Item F)) (key : String) : Option F :=
  match s.symbolNotionalExposures with
  | [] =>
    match s.symbolNotionalExposure with
    | some x =>
      if !FloatNum.feq x (FloatNum.ofInt 0) && items.any fun item => item.symbol = key then some x
      else none
    | none => none
  | entries => lastEntry (entries.map fun e => (upper e.1, e.2)) key

/-- The scalar group of the snapshot counts for every candidate's side. -/
def Snapshot.legacyKey (s : Snapshot F) (items : List (Item F)) (key : String) : Bool :=
  match s.legacyGroup with
  | some g => items.any fun item => groupKey g item.side = key
  | none => false

def startGroups (s : Snapshot F) (items : List (Item F)) (key : String) : Option F :=
  if s.legacyKey items key then some (orZero s.correlationGroupExposure)
  else lastEntry s.correlationGroupExposures key

/-- The count of the scalar group, read where it counts for a candidate. -/
def Snapshot.legacyCount (s : Snapshot F) (items : List (Item F)) : Except PyError ℤ :=
  if s.legacyGroup.isSome && !items.isEmpty then countOrZero s.correlatedPositionCount else .ok 0

/-- The accumulators before the first candidate. -/
def initialLedger (s : Snapshot F) (items : List (Item F)) : Except PyError (Ledger F) := do
  let counts ← intEntries s.correlatedPositionCounts
  let legacyCount ← s.legacyCount items
  return {
    totalExposure := orZero s.totalNotionalExposure
    sideLong := orZero s.sideExposureLong
    sideShort := orZero s.sideExposureShort
    netExposure := orZero s.netExposure
    symbolExposures := startSymbols s items
    groupExposures := startGroups s items
    groupCounts := fun key => if s.legacyKey items key then some legacyCount
      else lastEntry counts key
    allocatedPositions := 0 }

/-- `None` stays missing, a count is taken as an integer and raised by the allocated positions. -/
def raisedCount (count : Option (PyNum F)) (allocated : ℤ) : Except PyError (Option (PyNum F)) :=
  match count with
  | none => .ok none
  | some c => do
    let n ← c.toInt
    return some (.int (n + allocated))

/-- The snapshot of the ledger for one candidate, which may carry its own risk state. -/
def Snapshot.simulated (base : Snapshot F) (item : Item F) (l : Ledger F)
    (openCount concurrentCount : Option (PyNum F)) : Snapshot F :=
  { base with
    openPositionCount := openCount
    concurrentPositionCount := concurrentCount
    totalNotionalExposure := some l.totalExposure
    symbolNotionalExposure := some (l.symbolExposure item.symbol)
    sideExposureLong := some l.sideLong
    sideExposureShort := some l.sideShort
    netExposure := some l.netExposure
    correlationGroup := some item.correlationGroup
    correlationGroupExposure := some (l.groupExposure item.groupKey)
    correlatedPositionCount := some (.int (l.groupCount item.groupKey))
    symbolCooldownRemainingSec := item.raw.symbolCooldownRemainingSec <|>
      base.symbolCooldownRemainingSec
    tradesTodaySymbol := item.raw.tradesTodaySymbol <|> base.tradesTodaySymbol
    symbolLossClusterActive := item.raw.symbolLossClusterActive <|> base.symbolLossClusterActive
    riskStateComplete := item.raw.riskStateComplete <|> base.riskStateComplete }

/-- `_candidate_snapshot`. -/
def candidateSnapshot (base : Snapshot F) (item : Item F) (l : Ledger F) :
    Except PyError (Snapshot F) := do
  let openCount ← raisedCount base.openPositionCount l.allocatedPositions
  let concurrentCount ← raisedCount base.concurrentPositionCount l.allocatedPositions
  return base.simulated item l openCount concurrentCount

/-! ## 4. One candidate -/

/-- A nullable number as a field of a mapping. -/
def Value.ofOption (x : Option F) : Value F :=
  match x with
  | .some x => .number x
  | .none => .none

/-- The candidate of the first gate. -/
def Item.requestedCandidate (item : Item F) : Candidate F :=
  { side := some item.side
    entry := .ofOption item.entry
    quantity := .ofOption item.requestedQuantity
    notional := .ofOption item.requestedNotional }

/-- The candidate of the second gate. -/
def Item.allocatedCandidate (item : Item F) (allocated : F) : Candidate F :=
  { side := some item.side
    entry := .ofOption item.entry
    notional := .number allocated }

/-- `_REDUCIBLE_CAPACITY_REASONS`. -/
def Reason.reducible : Reason → Bool
  | .maxNotionalExposure | .maxSymbolNotionalExposure | .correlationOverexposure
  | .sameSideOverexposure | .netExposureTooHigh => true
  | _ => false

/-- The capacity left, with the reasons it was lowered for. -/
abbrev Capacity (F : Type) := F × List Reason

/-- A count that has reached its limit leaves nothing. -/
def blockAt (count limit : Option (PyNum F)) (reason : Reason) (st : Capacity F) :
    Except PyError (Capacity F) := do
  if ← countReaches count limit then return (FloatNum.ofInt 0, st.2 ++ [reason]) else return st

/-- A limit lowers the capacity to what remains of it. -/
def lowerTo (limit : Option F) (remaining : F → F) (reason : Reason) (st : Capacity F) :
    Capacity F :=
  match limit with
  | some x =>
    let r := pyMax (FloatNum.ofInt 0) (remaining x)
    if r < st.1 then (r, st.2 ++ [reason]) else st
  | none => st

/-- The part of the requested notional that the limits leave. -/
def remainingCapacity (simulated : Snapshot F) (config : Config F) (l : Ledger F) (item : Item F)
    (requested : F) : Except PyError (Capacity F) := do
  let st ← blockAt simulated.openPositionCount simulated.maxOpenPositions .maxOpenPositions
    (requested, [])
  let st ← blockAt simulated.concurrentPositionCount simulated.maxConcurrentPositions
    .maxConcurrentPositions st
  let st ← blockAt (some (.int (l.groupCount item.groupKey))) simulated.maxCorrelatedPositions
    .correlationOverexposure st
  let st := lowerTo simulated.maxNotionalExposure (· - l.totalExposure) .maxNotionalExposure st
  let st := lowerTo simulated.maxSymbolNotional (· - l.symbolExposure item.symbol)
    .maxSymbolNotionalExposure st
  let st := lowerTo simulated.maxCorrelationGroupExposure (· - l.groupExposure item.groupKey)
    .correlationOverexposure st
  let st := lowerTo config.maxSameSideExposure
    (· - if item.side = "SHORT" then l.sideShort else l.sideLong) .sameSideOverexposure st
  return lowerTo config.maxNetExposure
    (fun limit => if item.side = "SHORT" then limit + l.netExposure else limit - l.netExposure)
    .netExposureTooHigh st

/-- What a candidate is given. -/
inductive Action where
  | approve
  | reduceSize
  | reject
  | holdCash
  deriving DecidableEq, Repr

/-- `CandidateAllocationDecision`. -/
structure Allocation (F : Type) where
  candidateId : String
  symbol : String
  side : String
  action : Action
  reasonCodes : List String
  requestedNotional : Option F
  allocatedNotional : F
  requestedRisk : Option F
  allocatedRisk : Option F
  requestedQuantity : Option F
  allocatedQuantity : Option F
  correlationGroup : String
  correlationContribution : F
  concentrationContribution : F
  preference : PreferenceComponents F
  hardGateAccepted : Bool
  hardGateReason : String
  deriving DecidableEq

/-- `str(raw.get("hard_gate_reason") or "")`. -/
def Item.explicitReason (item : Item F) : String := item.raw.hardGateReason.getD ""

/-- The candidate carries a failure of its own. -/
def Item.explicitFailure (item : Item F) : Bool :=
  item.raw.hardGateAccepted == some false || item.explicitReason != ""

/-- `explicit_hard_reason or reject_reason or default`. -/
def hardReason (item : Item F) (hard : Decision F) (default : String) : String :=
  if item.explicitReason = "" then (hard.rejectReason.map Reason.code).getD default
  else item.explicitReason

/-- The first gate rejects for a reason no smaller size removes. -/
def nonCapacityFailure (item : Item F) (hard : Decision F) : Bool :=
  item.explicitFailure ||
    (!hard.accepted && !(hard.rejectReason.map Reason.reducible).getD false)

/-- The notional a candidate gets of the capacity, and the reasons of what it does not get. -/
def sizeCandidate (simulated : Snapshot F) (config : Config F) (l : Ledger F) (item : Item F)
    (requested : F) : Except PyError (F × List String) := do
  let (capacity, reasons) ← remainingCapacity simulated config l item requested
  let codes := reasons.map Reason.code
  let allocated := pyMax (FloatNum.ofInt 0) (pyMin requested capacity)
  if FloatNum.ofInt 0 < allocated then
    let final ← evaluatePortfolioRisk (item.allocatedCandidate allocated) simulated config
    if final.accepted then return (allocated, codes)
    else return (FloatNum.ofInt 0, codes ++ [(final.rejectReason.map Reason.code).getD
      "HARD_GATE_REJECTED"])
  else return (allocated, codes)

/-- The notional a candidate gets, with the reasons. -/
def chooseSize (simulated : Snapshot F) (config : Config F) (l : Ledger F) (item : Item F)
    (hard : Decision F) : Except PyError (F × List String) :=
  if nonCapacityFailure item hard then
    .ok (FloatNum.ofInt 0, [hardReason item hard "HARD_GATE_REJECTED"])
  else
    match item.requestedNotional with
    | none => .ok (FloatNum.ofInt 0, [Reason.invalidPositionSize.code])
    | some requested =>
      if requested ≤ FloatNum.ofInt 0 ∨ FloatNum.isFinite requested = false then
        .ok (FloatNum.ofInt 0, [Reason.invalidPositionSize.code])
      else sizeCandidate simulated config l item requested

/-- The part of the request that is granted. -/
def allocationScale (requested : Option F) (allocated : F) : F :=
  match requested with
  | some r =>
    if FloatNum.feq r (FloatNum.ofInt 0) = true ∨ r ≤ FloatNum.ofInt 0 then FloatNum.ofInt 0
    else allocated / r
  | none => FloatNum.ofInt 0

/-- The action a size comes to, with the final size and reasons. -/
def settleSize (item : Item F) (sized : F × List String) : Action × F × List String :=
  if sized.1 ≤ FloatNum.ofInt 0 then
    (.reject, FloatNum.ofInt 0, if sized.2 = [] then ["NO_PORTFOLIO_CAPACITY"] else sized.2)
  else if sized.1 + (1e-12 : F) < item.requestedNotional.getD (FloatNum.ofInt 0) then
    (.reduceSize, sized.1, sized.2)
  else (.approve, sized.1, [])

/-- What the sized candidate is told. -/
def decideAllocation (snapshot : Snapshot F) (item : Item F) (hard : Decision F)
    (sized : F × List String) : Allocation F :=
  let action := (settleSize item sized).1
  let allocated := (settleSize item sized).2.1
  let reasons := (settleSize item sized).2.2
  let scale := allocationScale item.requestedNotional allocated
  { candidateId := item.candidateId
    symbol := item.symbol
    side := item.side
    action := action
    reasonCodes := reasons.eraseDups
    requestedNotional := item.requestedNotional
    allocatedNotional := allocated
    requestedRisk := item.requestedRisk
    allocatedRisk := item.requestedRisk.map (· * scale)
    requestedQuantity := item.requestedQuantity
    allocatedQuantity := item.requestedQuantity.map (· * scale)
    correlationGroup := item.correlationGroup
    correlationContribution := allocated
    concentrationContribution :=
      match snapshot.equity with
      | some e => if FloatNum.feq e (FloatNum.ofInt 0) then FloatNum.ofInt 0 else allocated / e
      | none => FloatNum.ofInt 0
    preference := item.preference
    hardGateAccepted := hard.accepted
    hardGateReason := hardReason item hard "" }

/-- The ledger after a candidate was given a notional. -/
def Ledger.add (l : Ledger F) (item : Item F) (allocated : F) : Ledger F :=
  { totalExposure := l.totalExposure + allocated
    sideLong := if item.side = "SHORT" then l.sideLong else l.sideLong + allocated
    sideShort := if item.side = "SHORT" then l.sideShort + allocated else l.sideShort
    netExposure := if item.side = "SHORT" then l.netExposure - allocated
      else l.netExposure + allocated
    symbolExposures := Function.update l.symbolExposures item.symbol
      (some (l.symbolExposure item.symbol + allocated))
    groupExposures := Function.update l.groupExposures item.groupKey
      (some (l.groupExposure item.groupKey + allocated))
    groupCounts := Function.update l.groupCounts item.groupKey
      (some (l.groupCount item.groupKey + 1))
    allocatedPositions := l.allocatedPositions + 1 }

/-- One turn of the loop. -/
def allocateCandidate (snapshot : Snapshot F) (config : Config F) (l : Ledger F) (item : Item F) :
    Except PyError (Allocation F × Ledger F) := do
  let simulated ← candidateSnapshot snapshot item l
  let hard ← evaluatePortfolioRisk item.requestedCandidate simulated config
  let sized ← chooseSize simulated config l item hard
  let decision := decideAllocation snapshot item hard sized
  return (decision,
    if FloatNum.ofInt 0 < decision.allocatedNotional then
      l.add item decision.allocatedNotional else l)

/-- The pass: the decisions in processing order, and the ledger they leave. -/
def allocateAll (snapshot : Snapshot F) (config : Config F) :
    List (Item F) → Ledger F → Except PyError (List (Allocation F) × Ledger F)
  | [], l => .ok ([], l)
  | item :: rest, l => do
    let (decision, l') ← allocateCandidate snapshot config l item
    let (decisions, final) ← allocateAll snapshot config rest l'
    return (decision :: decisions, final)

/-- `PortfolioAllocationDecision`. -/
structure PortfolioAllocation (F : Type) where
  action : Action
  candidates : List (Allocation F)
  deriving DecidableEq

/-- The action over all candidates. -/
def overallAction (decisions : List (Allocation F)) : Action :=
  if decisions.any (fun d => FloatNum.ofInt 0 < d.allocatedNotional) = false then .holdCash
  else if decisions.all fun d => d.action = .approve then .approve
  else .reduceSize

/-- `allocate_portfolio_candidates`. -/
def allocatePortfolioCandidates (candidates : List (RawCandidate F)) (snapshot : Snapshot F)
    (config : Config F) : Except PyError (PortfolioAllocation F) := do
  let normalized := candidates.map normalizedAllocationCandidate
  if ¬ (normalized.map Item.candidateId).Nodup then
    .error (.valueError "DUPLICATE_ALLOCATION_CANDIDATE_ID")
  let l ← initialLedger snapshot normalized
  let (decisions, _) ← allocateAll snapshot config (preferenceSort normalized) l
  return { action := overallAction decisions, candidates := decisions }

/-! ## 5. What a positive allocation has passed -/

theorem blockAt_positive {count limit : Option (PyNum F)} {reason : Reason} {st st' : Capacity F}
    (h : blockAt count limit reason st = .ok st') (hpos : FloatNum.ofInt 0 < st'.1) :
    countReaches count limit = .ok false ∧ FloatNum.ofInt 0 < st.1 := by
  obtain ⟨b, hc, hb⟩ := ok_of_bind h
  cases b with
  | true =>
    cases hb
    exact absurd hpos FloatNum.lt_irrefl
  | false =>
    cases hb
    exact ⟨hc, hpos⟩

theorem lowerTo_positive {limit : Option F} {remaining : F → F} {reason : Reason} {st : Capacity F}
    (hpos : FloatNum.ofInt 0 < (lowerTo limit remaining reason st).1) :
    FloatNum.ofInt 0 < st.1 := by
  cases limit with
  | none => exact hpos
  | some x =>
    simp only [lowerTo] at hpos
    split at hpos
    · rename_i hlt
      exact FloatNum.lt_trans hpos hlt
    · exact hpos

theorem blockAt_number {count limit : Option (PyNum F)} {reason : Reason} {st st' : Capacity F}
    (h : blockAt count limit reason st = .ok st') (hn : IsNumber st.1) : IsNumber st'.1 := by
  obtain ⟨b, _, hb⟩ := ok_of_bind h
  cases b with
  | true =>
    cases hb
    exact isNumber_zero
  | false =>
    cases hb
    exact hn

theorem lowerTo_number {limit : Option F} {remaining : F → F} {reason : Reason} {st : Capacity F}
    (hn : IsNumber st.1) : IsNumber (lowerTo limit remaining reason st).1 := by
  cases limit with
  | none => exact hn
  | some x =>
    simp only [lowerTo]
    split
    · exact pyMax_number
    · exact hn

/-- Capacity is left only where no count has reached its limit. -/
theorem counts_of_capacity {simulated : Snapshot F} {config : Config F} {l : Ledger F}
    {item : Item F} {requested : F} {st : Capacity F}
    (h : remainingCapacity simulated config l item requested = .ok st)
    (hpos : FloatNum.ofInt 0 < st.1) :
    countReaches simulated.openPositionCount simulated.maxOpenPositions = .ok false ∧
      countReaches simulated.concurrentPositionCount simulated.maxConcurrentPositions = .ok false ∧
      countReaches (some (.int (l.groupCount item.groupKey))) simulated.maxCorrelatedPositions =
        .ok false := by
  obtain ⟨st1, h1, h⟩ := ok_of_bind h
  obtain ⟨st2, h2, h⟩ := ok_of_bind h
  obtain ⟨st3, h3, h⟩ := ok_of_bind h
  cases h
  have hp3 := lowerTo_positive (lowerTo_positive (lowerTo_positive (lowerTo_positive
    (lowerTo_positive hpos))))
  obtain ⟨hc3, hp2⟩ := blockAt_positive h3 hp3
  obtain ⟨hc2, hp1⟩ := blockAt_positive h2 hp2
  obtain ⟨hc1, _⟩ := blockAt_positive h1 hp1
  exact ⟨hc1, hc2, hc3⟩

theorem capacity_number {simulated : Snapshot F} {config : Config F} {l : Ledger F}
    {item : Item F} {requested : F} {st : Capacity F}
    (h : remainingCapacity simulated config l item requested = .ok st) (hr : IsNumber requested) :
    IsNumber st.1 := by
  obtain ⟨st1, h1, h⟩ := ok_of_bind h
  obtain ⟨st2, h2, h⟩ := ok_of_bind h
  obtain ⟨st3, h3, h⟩ := ok_of_bind h
  cases h
  have hn := blockAt_number h3 (blockAt_number h2 (blockAt_number h1 hr))
  exact lowerTo_number (lowerTo_number (lowerTo_number (lowerTo_number (lowerTo_number hn))))

theorem feq_of_positive {x : F} (h : FloatNum.ofInt 0 < x) :
    FloatNum.feq x (FloatNum.ofInt 0) = false := by
  rw [Bool.eq_false_iff]
  intro heq
  obtain ⟨z, hx, hz⟩ := (FloatNum.feq_iff x _).mp heq
  obtain ⟨u, v, hu, hv, huv⟩ := (FloatNum.lt_iff _ x).mp h
  rw [hz] at hu
  rw [hx] at hv
  cases hu
  cases hv
  exact lt_irrefl _ huv

theorem capacity_positive {a b : F} (hf : FloatNum.isFinite a = true)
    (hpos : FloatNum.ofInt 0 < pyMin a b) (hb : IsNumber b) : FloatNum.ofInt 0 < b := by
  unfold pyMin at hpos
  split at hpos
  · exact hpos
  · rename_i hlt
    have hle : a ≤ b := FloatNum.le_of_not_lt hb (isNumber_of_finite hf) hlt
    exact FloatNum.lt_of_lt_of_le hpos hle

/-- What a candidate that gets the positive notional `a` has passed. -/
structure Granted (simulated : Snapshot F) (config : Config F) (l : Ledger F) (item : Item F)
    (a : F) : Prop where
  positive : FloatNum.ofInt 0 < a
  finite : FloatNum.isFinite a = true
  requested : ∃ r, item.requestedNotional = some r ∧ FloatNum.ofInt 0 < r
  noFailure : item.explicitFailure = false
  passed : ∀ g ∈ gates simulated config (candidateSide item.requestedCandidate) (some a),
    g.2 = .ok false
  openCount : countReaches simulated.openPositionCount simulated.maxOpenPositions = .ok false
  concurrentCount :
    countReaches simulated.concurrentPositionCount simulated.maxConcurrentPositions = .ok false
  groupCount : countReaches (some (.int (l.groupCount item.groupKey)))
    simulated.maxCorrelatedPositions = .ok false

theorem requested_notional {item : Item F} {config : Config F} {r : F}
    (hr : item.requestedNotional = some r) (hpos : FloatNum.ofInt 0 < r) :
    candidateNotional item.requestedCandidate config = some r := by
  unfold candidateNotional Item.requestedCandidate
  rw [hr]
  simp only [Value.ofOption, Value.or, Value.truthy, feq_of_positive hpos, Bool.not_false, if_true,
    Value.num]

theorem allocated_notional {item : Item F} {config : Config F} {a : F}
    (hpos : FloatNum.ofInt 0 < a) :
    candidateNotional (item.allocatedCandidate a) config = some a := by
  unfold candidateNotional Item.allocatedCandidate
  simp only [Value.or, Value.truthy, feq_of_positive hpos, Bool.not_false, if_true, Value.num]

theorem granted_of_sized {simulated : Snapshot F} {config : Config F} {l : Ledger F} {item : Item F}
    {hard : Decision F} {sized : F × List String}
    (h : chooseSize simulated config l item hard = .ok sized) (hpos : FloatNum.ofInt 0 < sized.1) :
    Granted simulated config l item sized.1 := by
  unfold chooseSize at h
  split at h
  · cases h
    exact absurd hpos FloatNum.lt_irrefl
  rename_i hfailure
  have hfailure' : item.explicitFailure = false := by
    unfold nonCapacityFailure at hfailure
    rw [Bool.not_eq_true, Bool.or_eq_false_iff] at hfailure
    exact hfailure.1
  rcases hreq : item.requestedNotional with _ | requested
  · rw [hreq] at h
    cases h
    exact absurd hpos FloatNum.lt_irrefl
  rw [hreq] at h
  simp only at h
  split at h
  · cases h
    exact absurd hpos FloatNum.lt_irrefl
  rename_i hvalid
  rw [not_or, Bool.not_eq_false] at hvalid
  obtain ⟨hvalid, hfinite⟩ := hvalid
  unfold sizeCandidate at h
  obtain ⟨⟨capacity, reasons⟩, hcapacity, h⟩ := ok_of_bind h
  simp only at h
  generalize hz : pyMax (FloatNum.ofInt 0) (pyMin requested capacity) = allocated at h
  split at h
  · rename_i hlt
    obtain ⟨final, hfinal, h⟩ := ok_of_bind h
    split at h
    · rename_i haccepted
      cases h
      rw [← hz] at hlt
      have hmin : pyMin requested capacity = allocated := by rw [← hz, pyMax_positive hlt]
      rw [pyMax_positive hlt] at hlt
      have hcpos := capacity_positive hfinite hlt
        (capacity_number hcapacity (isNumber_of_finite hfinite))
      obtain ⟨hc1, hc2, hc3⟩ := counts_of_capacity hcapacity hcpos
      have hfin := pyMin_finite hfinite hlt
      rw [hmin] at hlt hfin
      have hpassed := (accepted_iff hfinal).mp haccepted
      rw [allocated_notional hlt] at hpassed
      have hrpos := FloatNum.lt_of_not_le (isNumber_of_finite hfinite) isNumber_zero hvalid
      exact ⟨hlt, hfin, ⟨requested, hreq, hrpos⟩, hfailure', hpassed, hc1, hc2, hc3⟩
    · cases h
      exact absurd hpos FloatNum.lt_irrefl
  · rename_i hnot
    cases h
    exact absurd hpos hnot

theorem decided_notional (snapshot : Snapshot F) (item : Item F) (hard : Decision F)
    (sized : F × List String) :
    (decideAllocation snapshot item hard sized).allocatedNotional =
      if sized.1 ≤ FloatNum.ofInt 0 then FloatNum.ofInt 0 else sized.1 := by
  simp only [decideAllocation, settleSize]
  split
  · rfl
  · split <;> rfl

/-- What is given to a candidate is nothing or positive. -/
theorem sized_positive {simulated : Snapshot F} {config : Config F} {l : Ledger F} {item : Item F}
    {hard : Decision F} {sized : F × List String}
    (h : chooseSize simulated config l item hard = .ok sized)
    (hpos : ¬ sized.1 ≤ FloatNum.ofInt 0) : FloatNum.ofInt 0 < sized.1 := by
  have hzero : (FloatNum.ofInt 0 : F) ≤ FloatNum.ofInt 0 := FloatNum.le_refl isNumber_zero
  unfold chooseSize at h
  split at h
  · cases h
    exact absurd hzero hpos
  split at h
  · cases h
    exact absurd hzero hpos
  split at h
  · cases h
    exact absurd hzero hpos
  unfold sizeCandidate at h
  obtain ⟨⟨capacity, reasons⟩, _, h⟩ := ok_of_bind h
  simp only at h
  split at h
  · rename_i hlt
    obtain ⟨final, _, h⟩ := ok_of_bind h
    split at h
    · cases h
      exact hlt
    · cases h
      exact absurd hzero hpos
  · rename_i hnot
    cases h
    exact FloatNum.lt_of_not_le pyMax_number isNumber_zero hpos

/-- One turn of the loop gives nothing and keeps the ledger, or grants a notional and adds it. -/
theorem allocate_cases {snapshot : Snapshot F} {config : Config F} {l l' : Ledger F} {item : Item F}
    {d : Allocation F} (h : allocateCandidate snapshot config l item = .ok (d, l')) :
    ∃ simulated, candidateSnapshot snapshot item l = .ok simulated ∧
      ((d.allocatedNotional = FloatNum.ofInt 0 ∧ l' = l) ∨
        (Granted simulated config l item d.allocatedNotional ∧
          l' = l.add item d.allocatedNotional)) := by
  obtain ⟨simulated, hsim, h⟩ := ok_of_bind h
  obtain ⟨hard, _, h⟩ := ok_of_bind h
  obtain ⟨sized, hsized, h⟩ := ok_of_bind h
  refine ⟨simulated, hsim, ?_⟩
  cases h
  rw [decided_notional]
  split
  · exact .inl ⟨rfl, if_neg FloatNum.lt_irrefl⟩
  · rename_i hpos
    have hlt := sized_positive hsized hpos
    exact .inr ⟨granted_of_sized hsized hlt, if_pos hlt⟩

/-- The pass over the candidates before one, and the turn of that one. -/
theorem allocateAll_split {snapshot : Snapshot F} {config : Config F} {pre post : List (Item F)}
    {item : Item F} {l final : Ledger F} {decisions : List (Allocation F)}
    (h : allocateAll snapshot config (pre ++ item :: post) l = .ok (decisions, final)) :
    ∃ ds mid d l', allocateAll snapshot config pre l = .ok (ds, mid) ∧
      allocateCandidate snapshot config mid item = .ok (d, l') ∧
      decisions[pre.length]? = some d := by
  induction pre generalizing l decisions with
  | nil =>
    obtain ⟨⟨d, l'⟩, hd, h⟩ := ok_of_bind h
    obtain ⟨⟨ds, f⟩, _, h⟩ := ok_of_bind h
    cases h
    exact ⟨[], l, d, l', rfl, hd, rfl⟩
  | cons first rest ih =>
    obtain ⟨⟨d0, l0⟩, hd0, h⟩ := ok_of_bind h
    obtain ⟨⟨ds0, f⟩, hrest, h⟩ := ok_of_bind h
    cases h
    obtain ⟨ds, mid, d, l', hpre, hd, hget⟩ := ih hrest
    refine ⟨d0 :: ds, mid, d, l', ?_, hd, ?_⟩
    · rw [allocateAll, hd0]
      simp only [bind, Except.bind, hpre]
      rfl
    · rw [List.length_cons, List.getElem?_cons_succ]
      exact hget

/-- The parts of an allocation that answers. -/
theorem allocation_parts {candidates : List (RawCandidate F)} {snapshot : Snapshot F}
    {config : Config F} {result : PortfolioAllocation F}
    (h : allocatePortfolioCandidates candidates snapshot config = .ok result) :
    ((candidates.map normalizedAllocationCandidate).map Item.candidateId).Nodup ∧
      ∃ start final,
        initialLedger snapshot (candidates.map normalizedAllocationCandidate) = .ok start ∧
        allocateAll snapshot config (preferenceSort (candidates.map normalizedAllocationCandidate))
          start = .ok (result.candidates, final) := by
  unfold allocatePortfolioCandidates at h
  simp only at h
  split at h
  · cases h
  · rename_i hnodup
    obtain ⟨start, hstart, h⟩ := ok_of_bind h
    obtain ⟨⟨ds, final⟩, hall, h⟩ := ok_of_bind h
    cases h
    exact ⟨not_not.mp hnodup, start, final, hstart, hall⟩

end Allocate

end AlphaForge.Portfolio
