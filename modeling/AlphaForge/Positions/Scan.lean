/-
  File:      AlphaForge/Positions/Scan.lean
  Subject:   `resolve_campaign_positions` (`burnin_resolver.py`): every OPEN position of a campaign
             against its candles.

  * `positionVerdict` -- one pass of the loop body: what is computed of a row and its candles.
  * `resolveCampaignPositions` -- the function; the trade ids of the table stand in the order of
    its SELECT.
  * `positionExit` -- when, where and why a row is closed; `run_resolveRow`, `run_resolveRows`
    connect it with the statements.
  * `isoformat` -- the text of a datetime.
-/
import AlphaForge.Candles.Outcome
import AlphaForge.Positions.Effects
import Mathlib.Data.Finset.Sort
import Mathlib.Data.String.Basic

namespace AlphaForge.Positions

open AlphaForge.Lib
open AlphaForge.Candles

/-! ## 1. Reading a row -/

/-- The row numbers the loop takes with `float(...)`. -/
structure ScanNumbers where
  fill : ℚ
  initialStop : ℚ
  stop : ℚ
  target : ℚ

def scanNumbers (r : Position) : Except PyError ScanNumbers :=
  match orElse r.simulatedFill r.plannedEntry, r.stop, r.currentStop.or r.stop,
      r.currentTarget.or r.target with
  | some fill, some initialStop, some stop, some target =>
    .ok { fill := fill, initialStop := initialStop, stop := stop, target := target }
  | _, _, _, _ => .error .typeError

/-- `float(value)`. -/
def floatOf (value : Scalar) : Except PyError Scalar :=
  match value with
  | .nonFinite => .ok .nonFinite
  | .text s => .error (.valueError s)
  | v =>
    match v.number? with
    | some x => .ok (.float x)
    | none => .error .typeError

/-- A float times `factor`; NaN and the infinities stay what they are. -/
def scaled (factor : ℚ) : Scalar → Scalar
  | .float x => .float (x * factor)
  | v => v

/-- `None if value is None else float(value) * factor`. -/
def scaledFloat (factor : ℚ) (value : Scalar) : Except PyError Scalar :=
  if value = .none then .ok .none else (floatOf value).map (scaled factor)

/-- `raw_exit`. -/
def rawExit (model : Dict) : Except PyError Dict := do
  let spread ← scaledFloat (1 / 2) (model.get "spread_penalty")
  let slippage ← scaledFloat (1 / 2) (model.get "slippage_penalty")
  let fee ← scaledFloat (1 / 2) (model.get "fee_penalty")
  return [("exit_spread", spread), ("exit_slippage", slippage), ("exit_fee", fee),
    ("funding", model.get "funding_penalty"),
    ("latency_impact_penalty", model.get "latency_penalty"),
    ("volatility_penalty", model.get "volatility_penalty"),
    ("liquidity_penalty", model.get "liquidity_penalty")]

/-- `{key: None if value is None else float(value) * factor for ...}`. -/
def scaledCosts (factor : ℚ) : Dict → Except PyError Dict
  | [] => .ok []
  | (key, value) :: rest => do
    let amount ← scaledFloat factor value
    let costs ← scaledCosts factor rest
    return (key, amount) :: costs

/-- `exit_costs`: a cost model in R is converted where the position books in USD. -/
def exitCosts (r : Position) (x : ScanNumbers) : Except PyError Dict :=
  match r.quantity with
  | none => .error .typeError
  | some originalQty => do
    let remainingQty := r.remainingQuantity.getD originalQty
    let riskUsd := |x.fill - x.initialStop| * originalQty
    let remainingFraction := if 0 < originalQty then remainingQty / originalQty else 0
    let raw ← rawExit (r.provenance.executionCostModel.getD [])
    if r.provenance.executionCostModelUnit = .text "R" ∧
        r.provenance.executionCostUnit = .text "USD" then do
      let costs ← scaledCosts (riskUsd * remainingFraction) raw
      return costs ++ [("cost_unit", .text "USD")]
    else return raw

/-! ## 2. One row -/

section Loop

variable (isoformat : Dt → String)

def defectText : CandleDefect → String
  | .notMapping => "not_mapping"
  | .malformedTimestamp => "malformed_timestamp"
  | .malformedOhlc => "malformed_ohlc"

/-- A missing field as it is stored. -/
def missingText : MissingField → String
  | .entry => "entry"
  | .stop => "stop"
  | .target => "target"
  | .entryNonPositive => "entry_non_positive"
  | .zeroRisk => "zero_risk"
  | .directionallyInvalidGeometry => "directionally_invalid_geometry"
  | .side => "side"
  | .windowBoundsNonPositive => "window_bounds:non_positive"
  | .windowBoundsMalformed => "window_bounds:malformed"
  | .candle i defect => "candle[" ++ toString i ++ "]:" ++ defectText defect
  | .duplicateConflict ts => "duplicate_conflict:" ++ isoformat ts

/-- `sorted(set(input_errors))`. -/
def inputErrorTexts (errors : Finset MissingField) : List String :=
  (errors.image (missingText isoformat)).sort

/-- `sorted(set(diagnostics))`. -/
def windowDiagnostics (errors : Finset MissingField) (gaps : List (Dt × Dt)) : List String :=
  sortedSet ("incomplete_market_window" :: inputErrorTexts isoformat errors
    ++ gaps.map fun gap => "market_gap:" ++ isoformat gap.1 ++ "->" ++ isoformat gap.2)

/-- What one pass of the loop decides: the row stays open, with the evidence columns it writes,
    or it is closed. -/
inductive Verdict where
  | pending (missing : Option (List String))
  | close (c : ClosureCall)
  deriving DecidableEq, Repr

/-- The timeframe of the position window. -/
def oneMinute : Timeframe := ⟨2, .numeral "1" 1, 'm'⟩

/-- `_window_complete` of the position window, the terminal candle at index `i`. -/
def scanComplete (n : Normalized) (i : ℕ) : Bool × List (Dt × Dt) :=
  windowComplete n (some oneMinute) (some (i + 1)) (some i)

/-- `reason`. -/
def exitReason (hits : Bool × Bool) : String :=
  if hits.1 && hits.2 then "AMBIGUOUS_INTRABAR" else if hits.1 then "SL_HIT" else "TP_HIT"

/-- Rise and fall of a bar against the fill, in units of risk. -/
def riskRise (x : ScanNumbers) (b : Bar) : ℚ :=
  let risk := |x.fill - x.initialStop|
  (b.high - x.fill) / if risk = 0 then 1 else risk

def riskFall (x : ScanNumbers) (b : Bar) : ℚ :=
  let risk := |x.fill - x.initialStop|
  (x.fill - b.low) / if risk = 0 then 1 else risk

/-- The closure of a row at its terminal bar. -/
def scanClosure (tradeId clock : String) (r : Position) (x : ScanNumbers) (costs : Dict)
    (seen : List Bar) (bar : Bar) : ClosureCall :=
  let hits := bar.hits r.side x.stop x.target
  let short := sideOf r.side = "SHORT"
  { tradeId := tradeId
    exitTime := ⟨(isoformat bar.ts).replace "+00:00" "Z", some bar.ts⟩
    exitPrice := if hits.1 then x.stop else x.target
    exitReason := exitReason hits
    exitCosts := costs
    mfe := .float (maxExcursion (seen.map (if short then riskFall x else riskRise x)))
    mae := .float (maxExcursion (seen.map (if short then riskRise x else riskFall x)))
    ambiguous := hits.1 && hits.2
    now := clock }

/-- The loop body before its statements: every candle since the entry is tested against the stop
    the row carries now. -/
def positionVerdict (tradeId clock : String) (r : Position) (candles : List RawCandle)
    (now : TimeText) : Except PyError Verdict := do
  let n := normalizeCandleWindow candles r.entryTime now
  let x ← scanNumbers r
  match firstHit (touches r.side x.stop x.target) n.candles with
  | none =>
    return .pending (if n.errors = ∅ then none else some (inputErrorTexts isoformat n.errors))
  | some (i, bar) =>
    let complete := scanComplete n i
    if complete.1 = false then
      return .pending (some (windowDiagnostics isoformat n.errors complete.2))
    else do
      let costs ← exitCosts r x
      return .close (scanClosure isoformat tradeId clock r x costs (n.candles.take (i + 1)) bar)

/-- `counts`. -/
structure PositionCounts where
  closed : ℕ
  tp : ℕ
  sl : ℕ
  ambiguous : ℕ
  pending : ℕ
  deriving DecidableEq, Repr

def PositionCounts.addPending (n : PositionCounts) : PositionCounts :=
  { n with pending := n.pending + 1 }

/-- `counts['closed'] += 1; counts['ambiguous' if ambiguous else 'sl' if sl else 'tp'] += 1`. -/
def PositionCounts.addClosed (n : PositionCounts) (reason : String) : PositionCounts :=
  let n := { n with closed := n.closed + 1 }
  if reason = "AMBIGUOUS_INTRABAR" then { n with ambiguous := n.ambiguous + 1 }
  else if reason = "SL_HIT" then { n with sl := n.sl + 1 }
  else { n with tp := n.tp + 1 }

/-- `SET evidence_complete=0,missing_fields_json=:mf`. -/
def Position.unevidenced (r : Position) (missing : List String) : Position :=
  { r with evidenceComplete := false, missingFields := missing }

/-- One pass of the loop. -/
def resolveRow (clock : String) (now : TimeText) (candlesOf : String → List RawCandle)
    (tradeId : String) (r : Position) (counts : PositionCounts) :
    Prog Db PyError PositionCounts := do
  let verdict ← .lift (positionVerdict isoformat tradeId clock r (candlesOf tradeId) now)
  match verdict with
  | .pending none => pure counts.addPending
  | .pending (some missing) => do
    .update fun db => db.updatePosition tradeId (fun row => row.status == .OPEN)
      fun row => row.unevidenced missing
    pure counts.addPending
  | .close c => do
    let _ ← resolvePositionClosure c
    pure (counts.addClosed c.exitReason)

/-- The loop over the rows the SELECT answered. -/
def resolveRows (clock : String) (now : TimeText) (candlesOf : String → List RawCandle) :
    List (String × Position) → PositionCounts → Prog Db PyError PositionCounts
  | [], counts => pure counts
  | (tradeId, r) :: rest, counts => do
    let counts ← resolveRow isoformat clock now candlesOf tradeId r counts
    resolveRows clock now candlesOf rest counts

/-- `SELECT * ... WHERE campaign_id=:cid AND status='OPEN' ORDER BY entry_time,id`, the table's
    trade ids standing in that order. -/
def openRows (campaignId : String) (rowOrder : List String) (db : Db) :
    List (String × Position) :=
  rowOrder.filterMap fun t =>
    ((db.position t).filter fun r => r.campaignId == campaignId && r.status == .OPEN).map (t, ·)

/-- The calls of `management_actions_by_trade`. -/
def runActions (hash : Request → String) : List ActionCall → Prog Db PyError Unit
  | [] => pure ()
  | a :: rest => do
    let _ ← applyPositionManagementAction hash a
    runActions hash rest

/-- `resolve_campaign_positions`. -/
def resolveCampaignPositions (hash : Request → String) (clock campaignId : String)
    (now : TimeText) (candlesOf : String → List RawCandle) (actions : List ActionCall)
    (rowOrder : List String) : Prog Db PyError PositionCounts := do
  bootstrapCampaignSchema
  runActions hash actions
  let rows ← .query (openRows campaignId rowOrder)
  resolveRows isoformat clock now candlesOf rows ⟨0, 0, 0, 0, 0⟩

end Loop

/-! ## 3. When a row closes -/

/-- The close of a position: when, where and why. -/
structure Exit where
  time : Dt
  price : ℚ
  reason : String
  deriving DecidableEq, Repr

/-- The exit a row shows; none while it is open. -/
def Position.exit (r : Position) : Option Exit :=
  if r.status = .CLOSED then
    match r.exitTime.bind TimeText.reading, r.exitPrice, r.exitReason with
    | some time, some price, some reason => some ⟨time, price, reason⟩
    | _, _, _ => none
  else none

/-- An exit at bar `b`, tested against `stop` and `target`. -/
def exitAt (side : String) (stop target : ℚ) (b : Bar) : Exit :=
  let hits := b.hits side stop target
  ⟨b.ts, if hits.1 then stop else target, exitReason hits⟩

/-- The exit the loop decides on. -/
def positionExit (r : Position) (candles : List RawCandle) (now : TimeText) : Option Exit :=
  let n := normalizeCandleWindow candles r.entryTime now
  match scanNumbers r with
  | .error _ => none
  | .ok x =>
    match firstHit (touches r.side x.stop x.target) n.candles with
    | none => none
    | some (i, bar) =>
      if (scanComplete n i).1 = true then some (exitAt r.side x.stop x.target bar) else none

/-- The columns the loop computes with hold numbers. -/
structure Resolvable (r : Position) (x : ScanNumbers) (costs : Dict) : Prop where
  numbers : scanNumbers r = .ok x
  costs : exitCosts r x = .ok costs

theorem exit_open {r : Position} (ho : r.status = .OPEN) : r.exit = none := by
  unfold Position.exit
  rw [if_neg (by rw [ho]; decide)]

theorem exit_close (r : Position) {c : ClosureCall} (k : Closing) {d : Dt}
    (hd : c.exitTime.reading = some d) :
    (r.close c k).exit = some ⟨d, c.exitPrice, c.exitReason⟩ := by
  unfold Position.exit
  rw [if_pos (show (r.close c k).status = .CLOSED from rfl)]
  show (match c.exitTime.reading, some c.exitPrice, some c.exitReason with
    | some time, some price, some reason => some (⟨time, price, reason⟩ : Exit)
    | _, _, _ => none) = _
  rw [hd]

/-- A closure whose numbers and times are readable is computed. -/
theorem closing_exists {c : ClosureCall} {r : Position} {n : ClosureNumbers} {d e : Dt}
    (hn : closureNumbers r = .ok n) (hd : c.exitTime.reading = some d)
    (he : r.entryTime.reading = some e) (haware : d.aware = e.aware) (partialExit : ExitCosts)
    (partials : List Event) : ∃ k, closing c r partialExit partials = .ok k := by
  have hd' : c.exitTime.parse = .ok d := by unfold TimeText.parse; rw [hd]
  have he' : r.entryTime.parse = .ok e := by unfold TimeText.parse; rw [he]
  have hs : d.secondsSince e = .ok ((d.micros - e.micros : ℤ) / 1000000) := by
    unfold Dt.secondsSince
    rw [if_pos haware]
  unfold closing
  rw [hn, hd', he']
  simp only [bind, Except.bind, hs]
  exact ⟨_, rfl⟩

theorem run_closure {db : Db} {c : ClosureCall} {r : Position} {k : Closing} (hb : db.Bootstrapped)
    (hr : db.position c.tradeId = some r) (ho : r.status = .OPEN)
    (hk : closing c r (priorPartialExitComponents db c.tradeId) (partialEvents db c.tradeId)
      = .ok k) :
    (resolvePositionClosure c).run db = .ok (k.reply, db.setPosition c.tradeId (r.close c k)) := by
  unfold resolvePositionClosure
  simp only [Prog.run_bind, run_bootstrap hb, Except.bind, Prog.run_query, hr]
  rw [if_neg (by rw [ho]; decide)]
  simp only [Prog.run_bind, Prog.run_query, Prog.run_lift, Except.bind, hk, Except.map,
    Prog.run_update, Prog.run_pure]
  rw [updatePosition_of_match (fun row => row.close c k) hr rfl]

section Rows

variable {isoformat : Dt → String} {clock t : String} {r : Position} {x : ScanNumbers}
  {costs : Dict} {candles : List RawCandle} {now : TimeText}

/-- What the numbers of a resolvable row are to its closure. -/
theorem closureNumbers_of_resolvable (h : Resolvable r x costs) :
    ∃ n, closureNumbers r = .ok n := by
  have hn := h.numbers
  have hc := h.costs
  unfold scanNumbers at hn
  unfold exitCosts at hc
  unfold closureNumbers
  cases hf : orElse r.simulatedFill r.plannedEntry with
  | none => rw [hf] at hn; cases hn
  | some fill =>
    cases hs : r.stop with
    | none => rw [hf, hs] at hn; cases hn
    | some stop =>
      cases hq : r.quantity with
      | none => rw [hq] at hc; cases hc
      | some quantity => exact ⟨_, rfl⟩

/-- The bar a position closes at can be compared with its entry. -/
theorem entry_of_bar {i : ℕ} {b : Bar} {p : Bar → Bool}
    (h : firstHit p (normalizeCandleWindow candles r.entryTime now).candles = some (i, b)) :
    ∃ e, r.entryTime.reading = some e ∧ b.ts.aware = e.aware := by
  cases hw : readWindow r.entryTime now with
  | error f =>
    rw [(normalize_of_error hw candles).1] at h
    cases h
  | ok w =>
    obtain ⟨pre, post, hl, -, -, -⟩ := firstHit_eq_some.mp h
    obtain ⟨c, -, hc⟩ := mem_bars.mp (mem_bars_of_normalized hw
      (b := b) (by rw [hl]; simp))
    exact ⟨w.start, start_of_window hw, (time_of_bar hc).1⟩

/-- What one pass of the loop leaves behind: the row it was about shows the exit decided for it,
    everything else is as it was. -/
structure RowResolved (db : Db) (t : String) (exit : Option Exit) (db' : Db) : Prop where
  bootstrapped : db'.Bootstrapped
  row : ∃ r', db'.position t = some r' ∧ r'.exit = exit
  others : ∀ u, u ≠ t → db'.position u = db.position u
  events : db'.events = db.events

theorem rowResolved_set {db : Db} (hb : db.Bootstrapped) {exit : Option Exit} {r' : Position}
    (hr' : r'.coalesce = r') (he : r'.exit = exit) :
    RowResolved db t exit (db.setPosition t r') :=
  ⟨bootstrapped_setPosition hb hr', ⟨r', setPosition_self .., he⟩,
    fun _ hu => setPosition_ne db r' hu, rfl⟩

/-- The two ends of the loop body on a resolvable row. -/
theorem verdict_of_resolvable (isoformat : Dt → String) (t clock : String)
    (candles : List RawCandle) (now : TimeText) (h : Resolvable r x costs) :
    (∃ missing, positionVerdict isoformat t clock r candles now = .ok (.pending missing) ∧
      positionExit r candles now = none) ∨
    ∃ i b, firstHit (touches r.side x.stop x.target)
        (normalizeCandleWindow candles r.entryTime now).candles = some (i, b) ∧
      positionVerdict isoformat t clock r candles now =
        .ok (.close (scanClosure isoformat t clock r x costs
          ((normalizeCandleWindow candles r.entryTime now).candles.take (i + 1)) b)) ∧
      positionExit r candles now = some (exitAt r.side x.stop x.target b) := by
  unfold positionVerdict positionExit
  simp only [h.numbers, bind, Except.bind]
  cases hhit : firstHit (touches r.side x.stop x.target)
      (normalizeCandleWindow candles r.entryTime now).candles with
  | none => exact .inl ⟨_, rfl, rfl⟩
  | some hit =>
    obtain ⟨i, b⟩ := hit
    simp only
    cases hcomplete : (scanComplete (normalizeCandleWindow candles r.entryTime now) i).1 with
    | false => exact .inl ⟨_, rfl, rfl⟩
    | true =>
      simp only [h.costs]
      exact .inr ⟨i, b, rfl, rfl, rfl⟩

/-- **One pass of the loop closes its row exactly as decided.** -/
theorem run_resolveRow (isoformat : Dt → String) (clock : String) (now : TimeText) {db : Db}
    (hb : db.Bootstrapped) (hr : db.position t = some r)
    (ho : r.status = .OPEN) (h : Resolvable r x costs) (candlesOf : String → List RawCandle)
    (counts : PositionCounts) :
    ∃ counts' db', (resolveRow isoformat clock now candlesOf t r counts).run db =
        .ok (counts', db') ∧ RowResolved db t (positionExit r (candlesOf t) now) db' := by
  unfold resolveRow
  rw [Prog.run_bind, Prog.run_lift]
  rcases verdict_of_resolvable isoformat t clock (candlesOf t) now
    h with ⟨missing, hv, he⟩ | ⟨i, b, hhit, hv, he⟩
  · rw [hv, he]
    cases missing with
    | none => exact ⟨_, _, rfl, hb, ⟨r, hr, exit_open ho⟩, fun _ _ => rfl, rfl⟩
    | some missing =>
      refine ⟨_, _, rfl, ?_⟩
      show RowResolved db t none (db.updatePosition t _ fun row => row.unevidenced missing)
      rw [updatePosition_of_match (fun row => row.unevidenced missing) hr (by simp [ho])]
      refine rowResolved_set hb ?_ (exit_open ho)
      exact (coalesce_eq_self_iff (r := r.unevidenced missing) ho).mpr
        ((coalesce_eq_self_iff ho).mp (hb t r hr))
  · rw [hv, he]
    obtain ⟨n, hn⟩ := closureNumbers_of_resolvable h
    obtain ⟨e, hentry, haware⟩ := entry_of_bar hhit
    generalize hseen : (normalizeCandleWindow (candlesOf t) r.entryTime now).candles.take (i + 1)
      = seen
    obtain ⟨k, hk⟩ := closing_exists (c := scanClosure isoformat t clock r x costs seen b) hn rfl
      hentry haware (priorPartialExitComponents db t) (partialEvents db t)
    refine ⟨counts.addClosed (exitReason (b.hits r.side x.stop x.target)),
      db.setPosition t (r.close (scanClosure isoformat t clock r x costs seen b) k), ?_,
      rowResolved_set hb (coalesce_closed rfl) (exit_close r k rfl)⟩
    show (resolvePositionClosure (scanClosure isoformat t clock r x costs seen b) >>= fun _ =>
      pure _).run db = _
    rw [Prog.run_bind, run_closure hb hr ho hk]
    rfl

/-- The rows a loop is over are OPEN rows of the database, each once, and resolvable. -/
structure Pending (db : Db) (rows : List (String × Position)) : Prop where
  nodup : (rows.map Prod.fst).Nodup
  row : ∀ t r, (t, r) ∈ rows → db.position t = some r ∧ r.status = .OPEN ∧
    ∃ x costs, Resolvable r x costs

/-- **The whole loop closes every row exactly as decided.** -/
theorem run_resolveRows (isoformat : Dt → String) (clock : String) (now : TimeText)
    (candlesOf : String → List RawCandle)
    (rows : List (String × Position)) {db : Db} (hb : db.Bootstrapped) (h : Pending db rows)
    (counts : PositionCounts) :
    ∃ counts' db', (resolveRows isoformat clock now candlesOf rows counts).run db =
        .ok (counts', db') ∧
      (∀ u, u ∉ rows.map Prod.fst → db'.position u = db.position u) ∧
      ∀ t r, (t, r) ∈ rows → ∃ r', db'.position t = some r' ∧
        r'.exit = positionExit r (candlesOf t) now := by
  induction rows generalizing db counts with
  | nil => exact ⟨counts, db, rfl, fun _ _ => rfl, fun _ _ h => absurd h List.not_mem_nil⟩
  | cons entry rows ih =>
    obtain ⟨t, r⟩ := entry
    obtain ⟨htail, hnodup⟩ := List.nodup_cons.mp h.nodup
    obtain ⟨hr, ho, x, costs, hres⟩ := h.row t r List.mem_cons_self
    obtain ⟨counts₁, db₁, hrun₁, heffect⟩ :=
      run_resolveRow isoformat clock now hb hr ho hres candlesOf counts
    have hpending : Pending db₁ rows := by
      refine ⟨hnodup, fun u s hu => ?_⟩
      obtain ⟨hs, hrest⟩ := h.row u s (List.mem_cons_of_mem _ hu)
      have hne : u ≠ t := by
        rintro rfl
        exact htail (List.mem_map.mpr ⟨(u, s), hu, rfl⟩)
      exact ⟨by rw [heffect.others u hne, hs], hrest⟩
    obtain ⟨counts', db', hrun, hothers, hexits⟩ := ih heffect.bootstrapped hpending counts₁
    refine ⟨counts', db', ?_, fun u hu => ?_, fun u s hu => ?_⟩
    · show (resolveRow isoformat clock now candlesOf t r counts >>= fun c =>
        resolveRows isoformat clock now candlesOf rows c).run db = _
      rw [Prog.run_bind, hrun₁]
      exact hrun
    · rw [List.map_cons, List.mem_cons, not_or] at hu
      rw [hothers u hu.2, heffect.others u hu.1]
    · rcases List.mem_cons.mp hu with he | hu
      · cases he
        obtain ⟨r', hr', hexit⟩ := heffect.row
        exact ⟨r', by rw [hothers t htail, hr'], hexit⟩
      · exact hexits u s hu

end Rows

/-- The rows the loop is over. -/
theorem mem_openRows {campaignId : String} {rowOrder : List String} {db : Db} {t : String}
    {r : Position} : (t, r) ∈ openRows campaignId rowOrder db ↔
      t ∈ rowOrder ∧ db.position t = some r ∧ r.campaignId = campaignId ∧ r.status = .OPEN := by
  unfold openRows
  rw [List.mem_filterMap]
  constructor
  · intro ⟨u, hu, h⟩
    obtain ⟨s, hs, he⟩ := Option.map_eq_some_iff.mp h
    obtain ⟨rfl, rfl⟩ := Prod.mk.inj he
    obtain ⟨hpos, hcond⟩ := Option.filter_eq_some_iff.mp hs
    rw [Bool.and_eq_true, beq_iff_eq, beq_iff_eq] at hcond
    exact ⟨hu, hpos, hcond⟩
  · intro ⟨hu, hpos, hc, ho⟩
    refine ⟨t, hu, ?_⟩
    rw [hpos, Option.filter_some_pos (by simp [hc, ho])]
    rfl

theorem nodup_openRows (campaignId : String) {rowOrder : List String} (h : rowOrder.Nodup)
    (db : Db) : ((openRows campaignId rowOrder db).map Prod.fst).Nodup := by
  unfold openRows
  rw [List.map_filterMap]
  refine h.filterMap fun t u b ht hu => ?_
  simp only [Option.map_map, Option.mem_def, Option.map_eq_some_iff, Function.comp_apply] at ht hu
  obtain ⟨-, -, ht⟩ := ht
  obtain ⟨-, -, hu⟩ := hu
  exact ht.trans hu.symm

/-- The stops a scan works with. -/
theorem stops_of_numbers {r : Position} {x : ScanNumbers} (h : scanNumbers r = .ok x) :
    r.stop = some x.initialStop ∧ r.currentStop.or r.stop = some x.stop := by
  unfold scanNumbers at h
  split at h
  · rename_i fill initialStop stop target hf hi hs ht
    cases h
    exact ⟨hi, hs⟩
  · cases h

end AlphaForge.Positions
