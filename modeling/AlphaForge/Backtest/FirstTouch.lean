/-
  File:      AlphaForge/Backtest/FirstTouch.lean
  Subject:   The two scans that label a backtest candidate: `simulate_candidate` for an accepted
             one, `simulate_rejected_counterfactual` for a rejected one.

  Both wait for a candle that contains the entry, and from that candle on for one that reaches the
  stop or the target; the stop counts first. The accepted scan starts at the decision candle, the
  rejected one at the first candle after it and ends after 240 candles.

  * `reason_exitScan`, `outcome_counterfactual` -- either scan reports `firstTouch` of what is left
    from the fill on.
  * **`label_alike_iff`** -- the scans label a candidate alike and leave the decision candle alone
    exactly where the decision candle does not contain the entry.
-/
import AlphaForge.Lib.Numbers
import AlphaForge.Lib.PyValues

namespace AlphaForge.Backtest

open AlphaForge.Lib

variable {F : Type} [FloatNum F]

/-! ## 1. Candles and candidates -/

/-- `Candle`. -/
structure Candle (F : Type) where
  timestamp : ℤ
  openPrice : F
  high : F
  low : F
  close : F
  volume : F

/-- The part of `CandidateOrder` that the scans read. -/
structure CandidateOrder (F : Type) where
  timestamp : ℤ
  symbol : String
  side : String
  entry : F
  sl : F
  tp : F
  setupReason : String
  orderType : String

/-- `c.low <= entry <= c.high`. -/
def Candle.contains (c : Candle F) (entry : F) : Bool := c.low ≤ entry ∧ entry ≤ c.high

/-- The stop is on the losing side of the entry and the target on the winning one. -/
def CandidateOrder.ordered (candidate : CandidateOrder F) : Prop :=
  (upper candidate.side = "LONG" ∧ candidate.sl < candidate.entry ∧
    candidate.entry < candidate.tp) ∨
  (upper candidate.side = "SHORT" ∧ candidate.tp < candidate.entry ∧ candidate.entry < candidate.sl)

instance (candidate : CandidateOrder F) : Decidable candidate.ordered :=
  inferInstanceAs (Decidable (_ ∨ _))

/-- The target and the stop of a candidate on a candle; a long candidate where `long`. -/
def hits (candidate : CandidateOrder F) (long : Bool) (c : Candle F) : Bool × Bool :=
  if long then (candidate.tp ≤ c.high, c.low ≤ candidate.sl)
  else (c.low ≤ candidate.tp, candidate.sl ≤ c.high)

/-- The excursions after one more candle. -/
def excursions (candidate : CandidateOrder F) (long : Bool) (mfe mae : F) (c : Candle F) : F × F :=
  if long then (pyMax mfe (c.high - candidate.entry), pyMax mae (candidate.entry - c.low))
  else (pyMax mfe (candidate.entry - c.low), pyMax mae (c.high - candidate.entry))

/-! ## 2. The accepted candidate -/

/-- What `finalize` is told of a closed position. -/
structure Close (F : Type) where
  triggerPrice : F
  closePrice : F
  closeReason : String
  pnlPct : F
  triggeredTs : ℤ
  closedTs : ℤ
  ambiguousIntrabar : Bool
  mfe : F
  mae : F

/-- `LifecycleRow`, less the columns that are copied from the candidate and its context. -/
structure LifecycleRow (F : Type) where
  timestamp : ℤ
  statusBefore : String
  statusAfter : String
  triggerPrice : Option F
  cancelReason : String
  close : Option (Close F)

/-- A row of a change of status. -/
def statusRow (candidate : CandidateOrder F) (before after : String) (triggerPrice : Option F) :
    LifecycleRow F :=
  { timestamp := candidate.timestamp, statusBefore := before, statusAfter := after,
    triggerPrice := triggerPrice, cancelReason := "", close := none }

/-- How the scan for an exit ended. -/
structure Exit (F : Type) where
  closeReason : String
  closePrice : F
  closedTs : ℤ
  ambiguousIntrabar : Bool
  mfe : F
  mae : F

/-- The loop from the fill on; `last` is the last candle of the series. -/
def exitScan (candidate : CandidateOrder F) (long : Bool) (last : Candle F) (mfe mae : F) :
    List (Candle F) → Exit F
  | [] =>
    { closeReason := "TIMEOUT", closePrice := last.close, closedTs := last.timestamp,
      ambiguousIntrabar := false, mfe := mfe, mae := mae }
  | c :: rest =>
    let (mfe, mae) := excursions candidate long mfe mae c
    let (hitTp, hitSl) := hits candidate long c
    if hitSl then
      { closeReason := "SL_HIT", closePrice := candidate.sl, closedTs := c.timestamp,
        ambiguousIntrabar := hitTp, mfe := mfe, mae := mae }
    else if hitTp then
      { closeReason := "TP_HIT", closePrice := candidate.tp, closedTs := c.timestamp,
        ambiguousIntrabar := false, mfe := mfe, mae := mae }
    else exitScan candidate long last mfe mae rest

/-- The types of an order that is filled at the decision candle. -/
def immediateTypes : List String := ["MARKET", "BREAKOUT", "IMMEDIATE"]

/-- The candles from the fill on: at once, or from the first candle that contains the entry. -/
def fromFill (candidate : CandidateOrder F) (candles : List (Candle F)) (idx : ℕ) :
    List (Candle F) :=
  if candidate.orderType ∈ immediateTypes then candles.drop idx
  else (candles.drop idx).dropWhile fun c => !c.contains candidate.entry

/-- The close of a filled candidate. The excursions are in units of the distance to the target and
    to the stop. -/
def closeOf (candidate : CandidateOrder F) (triggeredTs : ℤ) (exit : Exit F) : Close F :=
  let long : Bool := upper candidate.side = "LONG"
  let tpDistance := pyMax (FloatNum.abs (candidate.tp - candidate.entry)) 1e-9
  let slDistance := pyMax (FloatNum.abs (candidate.entry - candidate.sl)) 1e-9
  let move := if long then exit.closePrice - candidate.entry else candidate.entry - exit.closePrice
  { triggerPrice := candidate.entry
    closePrice := exit.closePrice
    closeReason := exit.closeReason
    pnlPct := move / candidate.entry * FloatNum.ofInt 100
    triggeredTs := triggeredTs
    closedTs := exit.closedTs
    ambiguousIntrabar := exit.ambiguousIntrabar
    mfe := exit.mfe / tpDistance
    mae := exit.mae / slDistance }

/-- `simulate_candidate`. -/
def simulateCandidate (candidate : CandidateOrder F) (candles : List (Candle F)) (idx : ℕ) :
    List (LifecycleRow F) :=
  let created :=
    [ statusRow candidate "NONE" "SIGNAL_CREATED" none,
      statusRow candidate "SIGNAL_CREATED" "SIGNAL_ACCEPTED" none,
      statusRow candidate "SIGNAL_ACCEPTED" "WAITING_ENTRY_ZONE" none ]
  match fromFill candidate candles idx with
  | [] =>
    created ++ [{ statusRow candidate "WAITING_ENTRY_ZONE" "ENTRY_TIMEOUT" none with
      cancelReason := "TIMEOUT" }]
  | fill :: rest =>
    let exit := exitScan candidate (upper candidate.side = "LONG") (candles.getLastD fill)
      (FloatNum.ofInt 0) (FloatNum.ofInt 0) (fill :: rest)
    let trigger := some candidate.entry
    created ++
      [ statusRow candidate "WAITING_ENTRY_ZONE" "ENTRY_TRIGGERED" trigger,
        statusRow candidate "ENTRY_TRIGGERED" "ORDER_PLACED" trigger,
        statusRow candidate "ORDER_PLACED" "POSITION_OPENED" trigger,
        { timestamp := exit.closedTs, statusBefore := "ORDER_PLACED",
          statusAfter := "POSITION_CLOSED", triggerPrice := trigger, cancelReason := "",
          close := some (closeOf candidate fill.timestamp exit) } ]

/-! ## 3. The rejected candidate -/

/-- What `simulate_rejected_counterfactual` answers. -/
structure Counterfactual (F : Type) where
  outcome : String
  wouldTrigger : Bool
  wouldTpHit : Bool
  wouldSlHit : Bool
  maxFavorableExcursion : F
  maxAdverseExcursion : F

/-- The loop over the window: has it triggered, the excursions so far. The answer names no outcome
    yet. -/
def counterfactualScan (candidate : CandidateOrder F) (long : Bool) (triggered : Bool)
    (mfe mae : F) :
    List (Candle F) → Counterfactual F
  | [] =>
    { outcome := "", wouldTrigger := triggered, wouldTpHit := false, wouldSlHit := false,
      maxFavorableExcursion := mfe, maxAdverseExcursion := mae }
  | c :: rest =>
    if triggered || c.contains candidate.entry then
      let (mfe, mae) := excursions candidate long mfe mae c
      let (hitTp, hitSl) := hits candidate long c
      if hitSl then
        { outcome := "", wouldTrigger := true, wouldTpHit := false, wouldSlHit := true,
          maxFavorableExcursion := mfe, maxAdverseExcursion := mae }
      else if hitTp then
        { outcome := "", wouldTrigger := true, wouldTpHit := true, wouldSlHit := false,
          maxFavorableExcursion := mfe, maxAdverseExcursion := mae }
      else counterfactualScan candidate long true mfe mae rest
    else counterfactualScan candidate long false mfe mae rest

/-- `timeout_bars`. -/
def timeoutBars : ℕ := 240

/-- The candles that the counterfactual looks at. -/
def window (candles : List (Candle F)) (idx : ℕ) : List (Candle F) :=
  (candles.drop idx).take timeoutBars

/-- `simulate_rejected_counterfactual`. Every side but a short one counts as long here. -/
def simulateRejectedCounterfactual (candidate : CandidateOrder F) (candles : List (Candle F))
    (idx : ℕ) : Counterfactual F :=
  if candles.length ≤ idx then
    { outcome := "UNKNOWN", wouldTrigger := false, wouldTpHit := false, wouldSlHit := false,
      maxFavorableExcursion := FloatNum.ofInt 0, maxAdverseExcursion := FloatNum.ofInt 0 }
  else
    let scan := window candles idx
    let r := counterfactualScan candidate (upper candidate.side ≠ "SHORT") false (FloatNum.ofInt 0)
      (FloatNum.ofInt 0) scan
    let outcome :=
      if !r.wouldTrigger then "WOULD_NOT_TRIGGER"
      else if r.wouldTpHit then "WOULD_TP"
      else if r.wouldSlHit then "WOULD_SL"
      else if scan.length < timeoutBars ∧ candles.length < idx + timeoutBars then "UNKNOWN"
      else "WOULD_TIMEOUT"
    { r with outcome := outcome }

/-- The part of a row of a rejected candidate that the loop of `main` reads. -/
structure RejectedRow (F : Type) where
  timestamp : ℤ
  symbol : String
  side : String
  setupReason : String
  eventFlags : String
  orderType : String
  entry : F
  sl : F
  tp : F

/-- `_is_actionable_rejected_order`. -/
def isActionableRejectedOrder (row : RejectedRow F) : Bool :=
  row.setupReason ≠ "SYMBOL_SELECTOR" ∧ row.eventFlags ≠ "SYMBOL_SELECTOR" ∧
  row.side ≠ "N/A" ∧ row.side ≠ "" ∧
  ¬ row.entry ≤ FloatNum.ofInt 0 ∧ ¬ row.sl ≤ FloatNum.ofInt 0 ∧ ¬ row.tp ≤ FloatNum.ofInt 0

/-- The row of a rejected candidate. -/
def rejectedRow (candidate : CandidateOrder F) : RejectedRow F :=
  { timestamp := candidate.timestamp, symbol := candidate.symbol, side := candidate.side,
    setupReason := candidate.setupReason, eventFlags := "", orderType := candidate.orderType,
    entry := candidate.entry, sl := candidate.sl, tp := candidate.tp }

/-- The index of the first candle after a time, as `main` looks it up. -/
def shadowIndex (candles : List (Candle F)) (ts : ℤ) : ℕ :=
  candles.findIdx fun c => ts < c.timestamp

/-- The shadow outcome of `evaluate_rejected_shadow`, on the candidate it makes of the row. -/
def evaluateRejectedShadow (row : RejectedRow F) (candles : List (Candle F)) (idx : ℕ) : String :=
  (simulateRejectedCounterfactual
    { timestamp := row.timestamp, symbol := row.symbol, side := row.side, entry := row.entry,
      sl := row.sl, tp := row.tp, setupReason := row.setupReason, orderType := row.orderType }
    candles idx).outcome

/-- One pass of the loop of `main` over the rejected rows. -/
def rejectedShadow (row : RejectedRow F) (candles : List (Candle F)) : Option String :=
  if isActionableRejectedOrder row then
    some (evaluateRejectedShadow row candles (shadowIndex candles row.timestamp))
  else none

/-! ## 4. The first touch -/

/-- A touch of the stop or of the target. -/
inductive Touch where
  | stop
  | target
  deriving DecidableEq, Repr

/-- The touch of one candle: the stop counts first. -/
def touchOf (candidate : CandidateOrder F) (long : Bool) (c : Candle F) : Option Touch :=
  let (hitTp, hitSl) := hits candidate long c
  if hitSl then some .stop else if hitTp then some .target else none

/-- The first touch of a series. -/
def firstTouch (candidate : CandidateOrder F) (long : Bool) (candles : List (Candle F)) :
    Option Touch :=
  candles.findSome? (touchOf candidate long)

/-- The reason a position is closed for. -/
def reasonOf : Option Touch → String
  | some .stop => "SL_HIT"
  | some .target => "TP_HIT"
  | none => "TIMEOUT"

theorem reasonOf_eq_stop {t : Option Touch} : reasonOf t = "SL_HIT" ↔ t = some .stop := by
  rcases t with _ | _ | _ <;> decide

theorem reasonOf_eq_target {t : Option Touch} : reasonOf t = "TP_HIT" ↔ t = some .target := by
  rcases t with _ | _ | _ <;> decide

/-- The accepted scan closes for the first touch. -/
theorem reason_exitScan (candidate : CandidateOrder F) (long : Bool) (last : Candle F) (mfe mae : F)
    (candles : List (Candle F)) :
    (exitScan candidate long last mfe mae candles).closeReason =
      reasonOf (firstTouch candidate long candles) := by
  induction candles generalizing mfe mae with
  | nil => rfl
  | cons c rest ih =>
    simp only [exitScan, firstTouch, List.findSome?_cons, touchOf]
    by_cases hsl : (hits candidate long c).2 = true
    · simp only [if_pos hsl, reasonOf]
    · by_cases htp : (hits candidate long c).1 = true
      · simp only [if_neg hsl, if_pos htp, reasonOf]
      · simp only [if_neg hsl, if_neg htp]
        exact ih _ _

/-- Once triggered, the rejected scan reports the first touch. -/
theorem touch_counterfactualScan (candidate : CandidateOrder F) (long : Bool) (mfe mae : F)
    (candles : List (Candle F)) :
    let r := counterfactualScan candidate long true mfe mae candles
    r.wouldTrigger = true ∧
      r.wouldSlHit = (firstTouch candidate long candles == some .stop) ∧
      r.wouldTpHit = (firstTouch candidate long candles == some .target) := by
  induction candles generalizing mfe mae with
  | nil => exact ⟨rfl, rfl, rfl⟩
  | cons c rest ih =>
    simp only [counterfactualScan, firstTouch, List.findSome?_cons, touchOf, Bool.true_or, if_true]
    by_cases hsl : (hits candidate long c).2 = true
    · simp only [if_pos hsl]
      exact ⟨trivial, rfl, rfl⟩
    · by_cases htp : (hits candidate long c).1 = true
      · simp only [if_neg hsl, if_pos htp]
        exact ⟨trivial, rfl, rfl⟩
      · simp only [if_neg hsl, if_neg htp]
        exact ih _ _

/-- Before it triggers, the rejected scan drops the candles that do not contain the entry. -/
theorem counterfactualScan_waiting (candidate : CandidateOrder F) (long : Bool) (mfe mae : F)
    (candles : List (Candle F)) :
    counterfactualScan candidate long false mfe mae candles =
      match candles.dropWhile fun c => !c.contains candidate.entry with
      | [] => counterfactualScan candidate long false mfe mae []
      | c :: rest => counterfactualScan candidate long true mfe mae (c :: rest) := by
  induction candles with
  | nil => rfl
  | cons c rest ih =>
    by_cases hc : c.contains candidate.entry = true
    · simp only [List.dropWhile_cons, hc, Bool.not_true, Bool.false_eq_true, if_false,
        counterfactualScan, Bool.or_true]
    · rw [Bool.not_eq_true] at hc
      simp only [List.dropWhile_cons, hc, Bool.not_false, if_true]
      rw [← ih]
      simp only [counterfactualScan, hc, Bool.or_self, Bool.false_eq_true, if_false]

/-- What the counterfactual reports, by the first touch of its window from the fill on. -/
theorem outcome_counterfactual (candidate : CandidateOrder F)
    (candles : List (Candle F)) (idx : ℕ) :
    let touch := firstTouch candidate (upper candidate.side ≠ "SHORT")
      ((window candles idx).dropWhile fun c => !c.contains candidate.entry)
    ((simulateRejectedCounterfactual candidate candles idx).outcome = "WOULD_SL" ↔
      touch = some .stop) ∧
    ((simulateRejectedCounterfactual candidate candles idx).outcome = "WOULD_TP" ↔
      touch = some .target) := by
  simp only [simulateRejectedCounterfactual]
  by_cases hidx : candles.length ≤ idx
  · have hwindow : window candles idx = [] := by
      rw [window, List.drop_eq_nil_of_le hidx, List.take_nil]
    simp only [if_pos hidx, hwindow, List.dropWhile_nil, firstTouch, List.findSome?_nil]
    decide
  · simp only [if_neg hidx]
    rw [counterfactualScan_waiting]
    cases hdrop : (window candles idx).dropWhile fun c => !c.contains candidate.entry with
    | nil =>
      simp only [counterfactualScan, firstTouch, List.findSome?_nil, Bool.not_false, if_true]
      decide
    | cons c rest =>
      obtain ⟨htrigger, hsl, htp⟩ := touch_counterfactualScan candidate
        (upper candidate.side ≠ "SHORT") (FloatNum.ofInt 0) (FloatNum.ofInt 0) (c :: rest)
      simp only [htrigger, hsl, htp, Bool.not_true, Bool.false_eq_true, if_false]
      rcases firstTouch candidate _ (c :: rest) with _ | _ | _
      · -- no touch: the outcome is one of the two others
        by_cases hshort : (window candles idx).length < timeoutBars ∧
            candles.length < idx + timeoutBars
        · rw [if_pos hshort]
          decide
        · rw [if_neg hshort]
          decide
      · rw [if_neg (by decide), if_pos (by decide)]
        decide
      · rw [if_pos (by decide)]
        decide

/-! ## 5. Same label, and no look at the decision candle -/

/-- The candidate is filled in the window and then touches its stop or its target in it. -/
def TouchesWithin (candidate : CandidateOrder F) (long : Bool) (candles : List (Candle F)) : Prop :=
  ∃ before fill after, candles = before ++ fill :: after ∧ fill.contains candidate.entry = true ∧
    ∃ c ∈ fill :: after, touchOf candidate long c ≠ none

/-- A row closes the position for a reason. -/
def closesWith (rows : List (LifecycleRow F)) (reason : String) : Prop :=
  ∃ row ∈ rows, ∃ close, row.close = some close ∧ close.closeReason = reason

/-- The two paths label a candidate of the decision candle `i` alike, and neither of them fills or
    exits on that candle. -/
structure LabelledAlike (candidate : CandidateOrder F) (candles : List (Candle F)) (i : ℕ) :
    Prop where
  stop : TouchesWithin candidate (upper candidate.side = "LONG") (window candles (i + 1)) →
    (closesWith (simulateCandidate candidate candles i) "SL_HIT" ↔
      rejectedShadow (rejectedRow candidate) candles = some "WOULD_SL")
  target : TouchesWithin candidate (upper candidate.side = "LONG") (window candles (i + 1)) →
    (closesWith (simulateCandidate candidate candles i) "TP_HIT" ↔
      rejectedShadow (rejectedRow candidate) candles = some "WOULD_TP")
  accepted : ∀ row ∈ simulateCandidate candidate candles i, ∀ close, row.close = some close →
    close.triggeredTs ≠ candidate.timestamp ∧ close.closedTs ≠ candidate.timestamp
  rejected : ∀ c ∈ window candles (shadowIndex candles candidate.timestamp),
    c.timestamp ≠ candidate.timestamp

theorem firstTouch_of_prefix {candidate : CandidateOrder F} {long : Bool}
    {short full : List (Candle F)} (hshort : short <+: full)
    (h : firstTouch candidate long short ≠ none) :
    firstTouch candidate long full = firstTouch candidate long short := by
  obtain ⟨rest, hfull⟩ := hshort
  obtain ⟨t, ht⟩ := Option.ne_none_iff_exists'.mp h
  unfold firstTouch at ht ⊢
  rw [← hfull, List.findSome?_append, ht]
  rfl

omit [FloatNum F] in
theorem dropWhile_short {p : Candle F → Bool} {short full : List (Candle F)}
    (hshort : short <+: full) : short.dropWhile p <+: full.dropWhile p := by
  obtain ⟨rest, hfull⟩ := hshort
  rw [← hfull, List.dropWhile_append]
  by_cases hempty : (short.dropWhile p).isEmpty = true
  · rw [List.isEmpty_iff.mp hempty]
    exact List.nil_prefix
  · rw [if_neg hempty]
    exact List.prefix_append _ _

/-- A fill and a touch after it are seen from the first fill on. -/
theorem firstTouch_of_touchesWithin {candidate : CandidateOrder F} {long : Bool}
    {candles : List (Candle F)} (h : TouchesWithin candidate long candles) :
    firstTouch candidate long (candles.dropWhile fun c => !c.contains candidate.entry) ≠ none := by
  obtain ⟨before, fill, after, hcandles, hfill, c, hc, htouch⟩ := h
  have hsuffix : ∀ x ∈ fill :: after,
      x ∈ candles.dropWhile fun c => !c.contains candidate.entry := by
    intro x hx
    rw [hcandles, List.dropWhile_append]
    by_cases hempty : (before.dropWhile fun c => !c.contains candidate.entry).isEmpty = true
    · rw [if_pos hempty, List.dropWhile_cons, hfill]
      exact hx
    · rw [if_neg hempty]
      exact List.mem_append_right _ hx
  intro hnone
  exact htouch (List.findSome?_eq_none_iff.mp hnone c (hsuffix c hc))

omit [FloatNum F] in
theorem later_of_mem_drop {candles : List (Candle F)} {i : ℕ} {d : Candle F}
    (hsorted : candles.Pairwise fun a b => a.timestamp < b.timestamp)
    (hd : candles[i]? = some d) :
    candles.drop i = d :: candles.drop (i + 1) ∧
      ∀ c ∈ candles.drop (i + 1), d.timestamp < c.timestamp := by
  obtain ⟨hi, hget⟩ := List.getElem?_eq_some_iff.mp hd
  have hdrop : candles.drop i = d :: candles.drop (i + 1) := by
    rw [List.drop_eq_getElem_cons hi, hget]
  refine ⟨hdrop, ?_⟩
  have hpair := hsorted.sublist (List.drop_sublist i candles)
  rw [hdrop] at hpair
  exact (List.pairwise_cons.mp hpair).1

omit [FloatNum F] in
/-- The shadow of a rejected candidate starts at the candle after its decision. -/
theorem shadowIndex_eq {candles : List (Candle F)} {i : ℕ} {d : Candle F}
    (hsorted : candles.Pairwise fun a b => a.timestamp < b.timestamp)
    (hd : candles[i]? = some d) : shadowIndex candles d.timestamp = i + 1 := by
  obtain ⟨hdrop, hlater⟩ := later_of_mem_drop hsorted hd
  have hi : i < candles.length := (List.getElem?_eq_some_iff.mp hd).1
  have hsplit : candles = (candles.take i ++ [d]) ++ candles.drop (i + 1) := by
    rw [List.append_assoc, List.singleton_append, ← hdrop, List.take_append_drop]
  have hbefore : ∀ c ∈ candles.take i ++ [d], decide (d.timestamp < c.timestamp) = false := by
    intro c hc
    rw [hsplit, List.pairwise_append, List.pairwise_append] at hsorted
    rw [decide_eq_false_iff_not]
    rcases List.mem_append.mp hc with hc | hc
    · have hlt := hsorted.1.2.2 c hc d (List.mem_singleton_self d)
      omega
    · rw [List.mem_singleton.mp hc]
      omega
  have hlen : (candles.take i ++ [d]).length = i + 1 := by
    rw [List.length_append, List.length_take, List.length_singleton]
    omega
  have hafter : (candles.drop (i + 1)).findIdx
    (fun c => decide (d.timestamp < c.timestamp)) = 0 := by
    rcases hrest : candles.drop (i + 1) with _ | ⟨c, rest⟩
    · rfl
    · have hc := hlater c (hrest ▸ List.mem_cons_self ..)
      rw [List.findIdx_cons, decide_eq_true hc]
      rfl
  have hfirst := List.findIdx_eq_length_of_false hbefore
  unfold shadowIndex
  rw [hsplit, List.findIdx_append, hfirst, if_neg (lt_irrefl _), hafter, hlen, Nat.zero_add]

theorem closedTs_exitScan_mem (candidate : CandidateOrder F) (long : Bool)
    (last : Candle F) (mfe mae : F) (candles : List (Candle F)) :
    (exitScan candidate long last mfe mae candles).closedTs ∈
      last.timestamp :: candles.map (·.timestamp) := by
  induction candles generalizing mfe mae with
  | nil => exact List.mem_singleton_self _
  | cons c rest ih =>
    simp only [exitScan]
    by_cases hsl : (hits candidate long c).2 = true
    · simp only [if_pos hsl, List.map_cons]
      exact List.mem_cons_of_mem _ (List.mem_cons_self ..)
    · by_cases htp : (hits candidate long c).1 = true
      · simp only [if_neg hsl, if_pos htp, List.map_cons]
        exact List.mem_cons_of_mem _ (List.mem_cons_self ..)
      · simp only [if_neg hsl, if_neg htp, List.map_cons]
        rcases List.mem_cons.mp (ih (excursions candidate long mfe mae c).1
          (excursions candidate long mfe mae c).2) with h | h
        · rw [h]
          exact List.mem_cons_self ..
        · exact List.mem_cons_of_mem _ (List.mem_cons_of_mem _ h)

/-- The one close of an accepted candidate, where it is filled. -/
theorem close_simulateCandidate {candidate : CandidateOrder F} {candles : List (Candle F)} {idx : ℕ}
    {close : Close F} :
    (∃ row ∈ simulateCandidate candidate candles idx, row.close = some close) ↔
      ∃ fill rest, fromFill candidate candles idx = fill :: rest ∧
        close = closeOf candidate fill.timestamp
          (exitScan candidate (upper candidate.side = "LONG") (candles.getLastD fill)
            (FloatNum.ofInt 0) (FloatNum.ofInt 0) (fill :: rest)) := by
  simp only [simulateCandidate]
  cases hfill : fromFill candidate candles idx with
  | nil =>
    constructor
    · intro ⟨row, hrow, hclose⟩
      simp only [List.cons_append, List.nil_append, List.mem_cons, List.not_mem_nil,
        or_false] at hrow
      rcases hrow with h | h | h | h <;> rw [h] at hclose <;> cases hclose
    · intro ⟨_, _, h, _⟩
      cases h
  | cons fill rest =>
    constructor
    · intro ⟨row, hrow, hclose⟩
      refine ⟨fill, rest, rfl, ?_⟩
      simp only [List.cons_append, List.nil_append, List.mem_cons, List.not_mem_nil,
        or_false] at hrow
      rcases hrow with h | h | h | h | h | h | h <;> rw [h] at hclose <;> cases hclose
      rfl
    · intro ⟨_, _, h, hclose⟩
      cases h
      rw [hclose]
      refine ⟨_, List.mem_append_right _ (List.mem_cons_of_mem _ (List.mem_cons_of_mem _
        (List.mem_cons_of_mem _ (List.mem_cons_self ..)))), rfl⟩


theorem reason_closeOf (candidate : CandidateOrder F) (triggeredTs : ℤ) (exit : Exit F) :
    (closeOf candidate triggeredTs exit).closeReason = exit.closeReason := rfl

/-- An accepted candidate is closed for the first touch from its fill on. -/
theorem closesWith_iff {candidate : CandidateOrder F} {candles : List (Candle F)} {idx : ℕ}
    {reason : String} :
    closesWith (simulateCandidate candidate candles idx) reason ↔
      fromFill candidate candles idx ≠ [] ∧
        reasonOf (firstTouch candidate (upper candidate.side = "LONG")
          (fromFill candidate candles idx)) = reason := by
  constructor
  · intro ⟨row, hrow, close, hclose, hreason⟩
    obtain ⟨fill, rest, hfill, heq⟩ := close_simulateCandidate.mp ⟨row, hrow, hclose⟩
    rw [heq, reason_closeOf, reason_exitScan] at hreason
    rw [hfill]
    exact ⟨List.cons_ne_nil _ _, hreason⟩
  · intro ⟨hne, hreason⟩
    obtain ⟨fill, rest, hfill⟩ := List.exists_cons_of_ne_nil hne
    obtain ⟨row, hrow, hclose⟩ := close_simulateCandidate.mpr ⟨fill, rest, hfill, rfl⟩
    refine ⟨row, hrow, _, hclose, ?_⟩
    rw [reason_closeOf, reason_exitScan, ← hfill]
    exact hreason

/-- A filled candidate is closed at one of the candles from its fill on. -/
theorem closedTs_mem {candidate : CandidateOrder F} {candles : List (Candle F)} {idx : ℕ}
    {fill : Candle F} {rest : List (Candle F)} (h : fromFill candidate candles idx = fill :: rest)
    (long : Bool) (mfe mae : F) :
    (exitScan candidate long (candles.getLastD fill) mfe mae (fill :: rest)).closedTs ∈
      (fill :: rest).map (·.timestamp) := by
  have hsuffix : fill :: rest <:+ candles := by
    rw [← h]
    unfold fromFill
    split
    · exact List.drop_suffix _ _
    · exact (List.dropWhile_suffix _).trans (List.drop_suffix _ _)
  have hlast : candles.getLastD fill ∈ fill :: rest := by
    obtain ⟨before, hcandles⟩ := hsuffix
    rw [← hcandles, List.getLastD_eq_getLast?, List.getLast?_append,
      List.getLast?_eq_some_getLast (List.cons_ne_nil fill rest)]
    exact List.getLast_mem _
  rcases List.mem_cons.mp (closedTs_exitScan_mem candidate long (candles.getLastD fill) mfe mae
    (fill :: rest)) with hclosed | hclosed
  · rw [hclosed]
    exact List.mem_map_of_mem hlast
  · exact hclosed

/-- The side of an ordered candidate is the same for both scans. -/
theorem side_of_ordered {candidate : CandidateOrder F} (h : candidate.ordered) :
    decide (upper candidate.side ≠ "SHORT") = decide (upper candidate.side = "LONG") := by
  rcases h with ⟨hside, _⟩ | ⟨hside, _⟩
  · rw [hside]
    decide
  · rw [hside]
    decide

/-- **The two paths label a candidate alike, and leave its decision candle alone, exactly where the
    decision candle does not contain the entry.** -/
theorem label_alike_iff {candidate : CandidateOrder F} {candles : List (Candle F)} {i : ℕ}
    {decision : Candle F} (hsorted : candles.Pairwise fun a b => a.timestamp < b.timestamp)
    (hdecision : candles[i]? = some decision) (hts : candidate.timestamp = decision.timestamp)
    (hlimit : candidate.orderType = "LIMIT") (hordered : candidate.ordered)
    (hactionable : isActionableRejectedOrder (rejectedRow candidate) = true) :
    LabelledAlike candidate candles i ↔ decision.contains candidate.entry = false := by
  obtain ⟨hdrop, hlater⟩ := later_of_mem_drop hsorted hdecision
  have hindex : shadowIndex candles candidate.timestamp = i + 1 := by
    rw [hts, shadowIndex_eq hsorted hdecision]
  have hfrom : fromFill candidate candles i =
      (decision :: candles.drop (i + 1)).dropWhile fun c => !c.contains candidate.entry := by
    rw [fromFill, hlimit, if_neg (by decide), hdrop]
  constructor
  · intro h
    by_contra hcontains
    rw [Bool.not_eq_false] at hcontains
    rw [List.dropWhile_cons, hcontains] at hfrom
    obtain ⟨row, hrow, hclose⟩ := close_simulateCandidate.mpr ⟨decision, _, hfrom, rfl⟩
    exact (h.accepted row hrow _ hclose).1 hts.symm
  · intro hcontains
    rw [List.dropWhile_cons, hcontains] at hfrom
    have hfrom' : fromFill candidate candles i =
        (candles.drop (i + 1)).dropWhile fun c => !c.contains candidate.entry := hfrom
    have hshadow : rejectedShadow (rejectedRow candidate) candles =
        some (simulateRejectedCounterfactual candidate candles (i + 1)).outcome := by
      rw [rejectedShadow, if_pos hactionable]
      show some (simulateRejectedCounterfactual candidate candles
        (shadowIndex candles candidate.timestamp)).outcome = _
      rw [hindex]
    have houtcome := outcome_counterfactual candidate candles (i + 1)
    rw [side_of_ordered hordered] at houtcome
    -- within the window the accepted scan sees the same first touch
    have hsame : TouchesWithin candidate (upper candidate.side = "LONG") (window candles (i + 1)) →
        fromFill candidate candles i ≠ [] ∧
        firstTouch candidate (upper candidate.side = "LONG") (fromFill candidate candles i) =
          firstTouch candidate (upper candidate.side = "LONG")
            ((window candles (i + 1)).dropWhile fun c => !c.contains candidate.entry) := by
      intro htouches
      have htouch := firstTouch_of_touchesWithin htouches
      have heq := firstTouch_of_prefix
        (dropWhile_short (List.take_prefix timeoutBars (candles.drop (i + 1)))) htouch
      rw [hfrom']
      refine ⟨fun hnil => ?_, heq⟩
      rw [hnil] at heq
      exact htouch heq.symm
    have hafter : ∀ c ∈ fromFill candidate candles i, candidate.timestamp < c.timestamp := by
      intro c hc
      rw [hfrom'] at hc
      rw [hts]
      exact hlater c ((List.dropWhile_sublist _).mem hc)
    exact
      { stop := by
          intro htouches
          obtain ⟨hne, heq⟩ := hsame htouches
          rw [closesWith_iff, hshadow, heq, reasonOf_eq_stop, Option.some.injEq, houtcome.1]
          exact and_iff_right hne
        target := by
          intro htouches
          obtain ⟨hne, heq⟩ := hsame htouches
          rw [closesWith_iff, hshadow, heq, reasonOf_eq_target, Option.some.injEq, houtcome.2]
          exact and_iff_right hne
        accepted := by
          intro row hrow close hclose
          obtain ⟨fill, rest, hfill, heq⟩ := close_simulateCandidate.mp ⟨row, hrow, hclose⟩
          have hclosed := closedTs_mem hfill (upper candidate.side = "LONG") (FloatNum.ofInt 0)
            (FloatNum.ofInt 0)
          obtain ⟨c, hc, hclosedTs⟩ := List.mem_map.mp hclosed
          rw [hfill] at hafter
          have hfillTs := hafter fill (List.mem_cons_self ..)
          have hcTs := hafter c hc
          rw [heq]
          simp only [closeOf]
          omega
        rejected := by
          intro c hc
          rw [hindex] at hc
          have hlt := hlater c (List.mem_of_mem_take hc)
          omega }

/-- A long candidate of the first of three candles; the second one fills it, the third one reaches
    the target. -/
def sampleCandles (low : ℚ) : List (Candle ℚ) :=
  [ { timestamp := 60000, openPrice := 101, high := 102, low := low, close := 101, volume := 1 },
    { timestamp := 120000, openPrice := 101, high := 101, low := 99, close := 100, volume := 1 },
    { timestamp := 180000, openPrice := 100, high := 111, low := 100, close := 110, volume := 1 } ]

def sampleCandidate : CandidateOrder ℚ :=
  { timestamp := 60000, symbol := "BTCUSDT", side := "LONG", entry := 100, sl := 95, tp := 110,
    setupReason := "PULLBACK", orderType := "LIMIT" }

theorem label_alike_sample :
    LabelledAlike sampleCandidate (sampleCandles 101) 0 ↔
      ((⟨60000, 101, 102, 101, 101, 1⟩ : Candle ℚ).contains 100 = false) :=
  label_alike_iff (by decide +kernel) rfl rfl rfl (by decide +kernel) (by decide +kernel)

/-- The decision candle falls through entry and stop before it closes: the accepted path stops the
    candidate out on it, the rejected path reports the target. -/
theorem label_alike_false :
    closesWith (simulateCandidate sampleCandidate (sampleCandles 94) 0) "SL_HIT" ∧
    rejectedShadow (rejectedRow sampleCandidate) (sampleCandles 94) = some "WOULD_TP" ∧
    ¬ LabelledAlike sampleCandidate (sampleCandles 94) 0 := by
  have htouches : TouchesWithin sampleCandidate (upper sampleCandidate.side = "LONG")
      (window (sampleCandles 94) 1) :=
    ⟨[], _, _, rfl, by decide +kernel, _, List.mem_cons_of_mem _ (List.mem_cons_self ..),
      by decide +kernel⟩
  have hcloses : closesWith (simulateCandidate sampleCandidate (sampleCandles 94) 0) "SL_HIT" := by
    rw [closesWith_iff]
    decide +kernel
  have hshadow : rejectedShadow (rejectedRow sampleCandidate) (sampleCandles 94) =
    some "WOULD_TP" := by
    decide +kernel
  refine ⟨hcloses, hshadow, fun h => ?_⟩
  have hstop := (h.stop htouches).mp hcloses
  rw [hshadow] at hstop
  exact absurd hstop (by decide)

end AlphaForge.Backtest
