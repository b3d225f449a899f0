/-
  File:      AlphaForge/History/Cache.lean
  Subject:   Historical candles with their funding rates, from the exchange or from the cache:
             `load_or_fetch_candles` of `historical_market_data.py`.

  Funding events are asked for from the start of the range on, so nothing is known of the event in
  force there, and the endpoint returns at most a thousand of them. A cached candle was joined in
  another range and keeps the rate it got there.

  * `Market`, `Honest` -- candles that are final when closed, funding events, and an exchange that
    shows what has happened.
  * `join_eq` -- the pointer gives every candle the latest of the rows it is given.
  * `latest_of_funded` -- the rows of a request hold the latest event of the market where the range
    holds one, and not too many.
  * `fetchSound`, `cacheSound_next` -- what a fetch returns, and what stays in the cache.
  * **`cache_transparent`** -- where the ranges are supplied with funding events and the pages start
    in the range, a call served from the cache returns what a fetch returns, and every candle
    carries the latest rate.
  * `cached_rate` -- an event before the range, which only the cache knows.
-/
import AlphaForge.History.Klines
import AlphaForge.Lib.Runs
import AlphaForge.Lib.Timeline

namespace AlphaForge.History

open AlphaForge.Lib (PyError ok_of_bind sortOn perm_of_sortOn pairwise_sortOn sortOn_sorted
  sortOn_perm_of_injective runEvents Along takeWhile_eq_filter)
open AlphaForge.Lib.PyText (Unicode)

variable {F : Type}

/-! ## 1. The funding rates -/

structure FundingRequest where
  symbol : String
  startTime : ℤ
  endTime : ℤ
  limit : ℕ

/-- The funding endpoint; a row is read as its time and its rate. -/
abbrev FundingEndpoint (F : Type) := FundingRequest → Except PyError (List (ℤ × F))

/-- `fetch_historical_funding_rates`. -/
def fetchHistoricalFundingRates (u : Unicode) (endpoint : FundingEndpoint F) (symbol : String)
    (startMs endMs : ℤ) : Except HistoryError (List (ℤ × F)) := do
  let symbol ← validateSingleBinanceSymbol u symbol
  match endpoint ⟨symbol, startMs, endMs, 1000⟩ with
  | .ok rows => return sortOn Prod.fst rows
  | .error e => throw (.raised e)

/-- The loop of `join_funding_to_candles` from some candle on: the rows that are left, and the last
    rate that was passed. -/
def joinFrom (rows : List (ℤ × F)) (lastRate : Option F) :
    List (HistoricalCandle F) → List (HistoricalCandle F)
  | [] => []
  | c :: rest =>
    let passed := rows.takeWhile fun row => row.1 ≤ c.timestamp
    let rate := (passed.getLast?.map Prod.snd).or lastRate
    { c with fundingRatePct := rate } ::
      joinFrom (rows.dropWhile fun row => row.1 ≤ c.timestamp) rate rest

/-- `join_funding_to_candles`. -/
def joinFundingToCandles (candles : List (HistoricalCandle F)) (fundingRows : List (ℤ × F)) :
    List (HistoricalCandle F) := joinFrom fundingRows none candles

/-! ## 2. The cache -/

/-- The metadata of a cache file, less the exchange, the market type and the time of the
    download. -/
structure CacheMetadata where
  symbol : String
  interval : String
  requestedStartMs : ℤ
  requestedEndMs : ℤ
  actualFirstTs : ℤ
  actualLastTs : ℤ
  rowCount : ℕ

/-- The file of one symbol and interval. -/
structure CacheFile (F : Type) where
  metadata : CacheMetadata
  candles : List (HistoricalCandle F)

/-- `cache_covers`. -/
def cacheCovers (metadata : CacheMetadata) (startMs endMs : ℤ) : Bool :=
  metadata.actualFirstTs ≤ startMs && endMs ≤ metadata.actualLastTs

/-- `build_cache_metadata`. -/
def buildCacheMetadata (symbol interval : String) (startMs endMs : ℤ)
    (candles : List (HistoricalCandle F)) : Except HistoryError CacheMetadata :=
  match candles.head?, candles.getLast? with
  | some first, some last =>
    .ok
      { symbol := symbol
        interval := interval
        requestedStartMs := startMs
        requestedEndMs := endMs
        actualFirstTs := first.timestamp
        actualLastTs := last.timestamp
        rowCount := candles.length }
  | _, _ => .error .noCandles

/-- The exchange as one call finds it: the time, and the two endpoints. All the requests of a call
    are answered as of that one time. -/
structure Moment (F : Type) where
  now : ℤ
  klines : Fetcher F
  funding : FundingEndpoint F

structure Call where
  startMs : ℤ
  endMs : ℤ
  forceRefresh : Bool := false

/-- A symbol and an interval. -/
structure Series where
  symbol : String
  interval : String

/-- The arguments of the candle request of a call. -/
def Series.klineArgs (s : Series) (call : Call) : KlineArgs where
  symbol := s.symbol
  interval := s.interval
  startMs := call.startMs
  endMs := call.endMs

/-- The candles a fetch returns, with their rates. -/
def fetchCandles (u : Unicode) (s : Series) (m : Moment F) (call : Call) :
    Except HistoryError (List (HistoricalCandle F)) := do
  let rows ← (fetchBinanceKlinesPaginated u m.now m.klines (s.klineArgs call)).2
  let funding ← fetchHistoricalFundingRates u m.funding s.symbol call.startMs call.endMs
  return joinFundingToCandles rows funding

/-- The file a call is served from. -/
def servedFrom (cache : Option (CacheFile F)) (call : Call) : Option (CacheFile F) :=
  if call.forceRefresh then none
  else cache.filter fun file => cacheCovers file.metadata call.startMs call.endMs

/-- The candles of a file in the requested range, if they cover it. -/
def selectCached (now : ℤ) (q : Query) (file : CacheFile F) :
    Except HistoryError (List (HistoricalCandle F)) := do
  let selected := file.candles.filter fun c => q.startMs ≤ c.timestamp ∧ c.timestamp ≤ q.endMs
  validateCoverage now q selected
  return selected

/-- `load_or_fetch_candles`: the cache afterwards, and the candles. -/
def loadOrFetchCandles (u : Unicode) (s : Series) (cache : Option (CacheFile F)) (m : Moment F)
    (call : Call) : Option (CacheFile F) × Except HistoryError (List (HistoricalCandle F)) :=
  match servedFrom cache call with
  | some file =>
    (cache, do
      let q ← (s.klineArgs call).queryFrom u "load_or_fetch_candles"
      selectCached m.now q file)
  | none =>
    let stored := do
      let rows ← fetchCandles u s m call
      let metadata ← buildCacheMetadata s.symbol s.interval call.startMs call.endMs rows
      return (⟨metadata, rows⟩ : CacheFile F)
    match stored with
    | .ok file => (some file, .ok file.candles)
    | .error e => (cache, .error e)

/-! ## 3. The latest rate -/

/-- The rate of the last row at or before a time. -/
def latest (rows : List (ℤ × F)) (ts : ℤ) : Option F :=
  ((rows.filter fun row => row.1 ≤ ts).getLast?).map Prod.snd

/-- Rows at or before one time, and the others. -/
theorem latest_dropWhile {rows : List (ℤ × F)} (hrows : rows.Pairwise fun a b => a.1 ≤ b.1)
    {t ts : ℤ} (hts : t ≤ ts) (before : Option F) :
    (latest (rows.dropWhile fun row => row.1 ≤ t) ts).or ((latest rows t).or before) =
      (latest rows ts).or before := by
  have hsplit : (rows.filter fun row => row.1 ≤ ts) =
      (rows.filter fun row => row.1 ≤ t) ++
        (rows.dropWhile fun row => row.1 ≤ t).filter fun row => row.1 ≤ ts := by
    have hall : ((rows.takeWhile fun row => row.1 ≤ t).filter fun row => row.1 ≤ ts) =
        rows.takeWhile fun row => row.1 ≤ t := by
      refine List.filter_eq_self.mpr fun row hrow => ?_
      have hle : row.1 ≤ t := by simpa using List.mem_takeWhile_imp hrow
      exact decide_eq_true (hle.trans hts)
    conv_lhs => rw [← List.takeWhile_append_dropWhile (p := fun row => decide (row.1 ≤ t))
      (l := rows),
      List.filter_append, hall]
    rw [← takeWhile_eq_filter hrows t]
  unfold latest
  rw [hsplit, List.getLast?_append]
  cases ((rows.dropWhile fun row => row.1 ≤ t).filter fun row => row.1 ≤ ts).getLast? with
  | none => rfl
  | some row => rfl

/-- **The pointer gives every candle the latest row at or before it.** -/
theorem joinFrom_eq {rows : List (ℤ × F)} (hrows : rows.Pairwise fun a b => a.1 ≤ b.1)
    {candles : List (HistoricalCandle F)}
    (hcandles : candles.Pairwise fun a b => a.timestamp ≤ b.timestamp) (before : Option F) :
    joinFrom rows before candles = candles.map fun c =>
      { c with fundingRatePct := (latest rows c.timestamp).or before } := by
  induction candles generalizing rows before with
  | nil => rfl
  | cons c rest ih =>
    obtain ⟨hc, hrest⟩ := List.pairwise_cons.mp hcandles
    have hrate : (((rows.takeWhile fun row => row.1 ≤ c.timestamp).getLast?.map Prod.snd).or before)
        = (latest rows c.timestamp).or before := by
      unfold latest
      rw [takeWhile_eq_filter hrows]
    unfold joinFrom
    dsimp only
    rw [List.map_cons, hrate, ih (hrows.sublist (List.dropWhile_sublist _)) hrest]
    refine congrArg (_ :: ·) (List.map_congr_left fun d hd => ?_)
    rw [latest_dropWhile hrows (hc d hd)]

theorem join_eq {rows : List (ℤ × F)} (hrows : rows.Pairwise fun a b => a.1 ≤ b.1)
    {candles : List (HistoricalCandle F)}
    (hcandles : candles.Pairwise fun a b => a.timestamp ≤ b.timestamp) :
    joinFundingToCandles candles rows =
      candles.map fun c => { c with fundingRatePct := latest rows c.timestamp } := by
  unfold joinFundingToCandles
  rw [joinFrom_eq hrows hcandles]
  refine List.map_congr_left fun c _ => ?_
  rw [Option.or_none]

/-! ## 4. The market -/

/-- What the exchange reports on in the end: the final candles, and the funding events in their
    order. -/
structure Market (F : Type) where
  bar : ℤ → Bar F
  events : List (ℤ × F)
  ascending : events.Pairwise fun a b => a.1 < b.1

/-- The rate in force at a time. -/
def Market.rateAt (market : Market F) (ts : ℤ) : Option F := latest market.events ts

/-- The events of a request that have happened by `now`, the earliest up to the limit. -/
def Market.reported (market : Market F) (now : ℤ) (request : FundingRequest) : List (ℤ × F) :=
  (market.events.filter fun e =>
    request.startTime ≤ e.1 ∧ e.1 ≤ request.endTime ∧ e.1 ≤ now).take request.limit

/-- The exchange shows candles that have opened, the closed ones as they stay, and the earliest
    events of the requested range. -/
structure Honest (market : Market F) (step : ℤ) (m : Moment F) : Prop where
  opened : ∀ n request rows, m.klines n request = .ok rows → ∀ r ∈ rows, ∀ ts bar,
    r.timestamp = .ok ts → r.bar = .ok bar → ts ≤ m.now
  closed : ∀ n request rows, m.klines n request = .ok rows → ∀ r ∈ rows, ∀ ts bar,
    r.timestamp = .ok ts → r.bar = .ok bar → ts + step ≤ m.now → bar = market.bar ts
  funding : ∀ request rows, m.funding request = .ok rows →
    rows.Perm (market.reported m.now request)

/-- The events from `startMs` to `ts`. -/
def Market.between (market : Market F) (startMs ts : ℤ) : List (ℤ × F) :=
  market.events.filter fun e => startMs ≤ e.1 ∧ e.1 ≤ ts

/-- The events from the start on suffice at `ts`: there are at most a thousand, and one of them if
    there is any event at all by then. -/
structure Funded (market : Market F) (startMs ts : ℤ) : Prop where
  few : (market.between startMs ts).length ≤ 1000
  some_event : (∃ e ∈ market.events, e.1 ≤ ts) → market.between startMs ts ≠ []

/-- The first rows of a request are enough to know those up to `ts`. -/
theorem reported_filter {market : Market F} {symbol : String} {startMs endMs ts now : ℤ}
    (hfew : (market.between startMs ts).length ≤ 1000) (hend : ts ≤ endMs) (hnow : ts ≤ now) :
    ((market.reported now ⟨symbol, startMs, endMs, 1000⟩).filter fun e => e.1 ≤ ts) =
      market.between startMs ts := by
  unfold Market.reported
  generalize hknown : (market.events.filter fun e => startMs ≤ e.1 ∧ e.1 ≤ endMs ∧ e.1 ≤ now) =
    known
  have hascending : known.Pairwise fun a b => a.1 ≤ b.1 := by
    rw [← hknown]
    exact (market.ascending.imp fun h => le_of_lt h).sublist List.filter_sublist
  have hbetween : (known.filter fun e => e.1 ≤ ts) = market.between startMs ts := by
    rw [← hknown, List.filter_filter]
    refine List.filter_congr fun e _ => ?_
    rw [← Bool.decide_and, decide_eq_decide]
    constructor
    · intro h
      exact ⟨h.2.1, h.1⟩
    · intro h
      exact ⟨h.2, h.1, h.2.trans hend, h.2.trans hnow⟩
  have hsplit := List.takeWhile_append_dropWhile (p := fun e => decide (e.1 ≤ ts)) (l := known)
  rw [takeWhile_eq_filter hascending, hbetween] at hsplit
  -- what comes later is later than `ts`
  have hlater : ((known.dropWhile fun e => e.1 ≤ ts).filter fun e => e.1 ≤ ts) = [] := by
    have hfilter := congrArg (List.filter fun e => decide (e.1 ≤ ts)) hsplit
    have hself : ((market.between startMs ts).filter fun e => decide (e.1 ≤ ts)) =
        market.between startMs ts := by
      rw [← hbetween, List.filter_filter]
      simp
    rw [List.filter_append, hself, hbetween] at hfilter
    exact List.append_right_eq_self.mp hfilter
  rw [← hsplit, List.take_append, List.take_of_length_le hfew, List.filter_append]
  have hself : ((market.between startMs ts).filter fun e => decide (e.1 ≤ ts)) =
      market.between startMs ts := by
    rw [← hbetween, List.filter_filter]
    simp
  have hnone := List.Sublist.filter (fun e => decide (e.1 ≤ ts))
    (List.take_sublist (1000 - (market.between startMs ts).length)
      (known.dropWhile fun e => e.1 ≤ ts))
  rw [hlater] at hnone
  rw [hself, List.sublist_nil.mp hnone, List.append_nil]

/-- **The latest event that a request reports is the latest of the market**, where the range is
    funded. -/
theorem latest_of_funded {market : Market F} {symbol : String} {startMs endMs ts now : ℤ}
    (hfunded : Funded market startMs ts) (hend : ts ≤ endMs) (hnow : ts ≤ now) :
    latest (market.reported now ⟨symbol, startMs, endMs, 1000⟩) ts = market.rateAt ts := by
  unfold Market.rateAt latest
  rw [reported_filter hfunded.few hend hnow]
  refine congrArg (Option.map Prod.snd) ?_
  generalize hpast : (market.events.filter fun e => e.1 ≤ ts) = past
  have hascending : past.Pairwise fun a b => a.1 < b.1 := by
    rw [← hpast]
    exact market.ascending.sublist List.filter_sublist
  have hbetween : market.between startMs ts = past.filter fun e => startMs ≤ e.1 := by
    unfold Market.between
    rw [← hpast, List.filter_filter]
    refine List.filter_congr fun e _ => ?_
    rw [← Bool.decide_and]
  rw [hbetween]
  rcases List.eq_nil_or_concat past with hnil | ⟨init, x, hx⟩
  · rw [hnil]
    rfl
  · rw [List.concat_eq_append] at hx
    have hmem : x ∈ past := hx ▸ List.mem_append_right _ (List.mem_singleton_self x)
    have hle : startMs ≤ x.1 := by
      have hevent : x ∈ market.events ∧ x.1 ≤ ts := by
        rw [← hpast] at hmem
        simpa using hmem
      obtain ⟨y, hy⟩ := List.exists_mem_of_ne_nil _ (hfunded.some_event ⟨x, hevent⟩)
      rw [hbetween, List.mem_filter] at hy
      have hstart : startMs ≤ y.1 := of_decide_eq_true hy.2
      have hyx : y.1 ≤ x.1 := by
        have hmem' := hy.1
        rw [hx] at hascending hmem'
        rcases List.mem_append.mp hmem' with hin | hlast
        · exact ((List.pairwise_append.mp hascending).2.2 y hin x (List.mem_singleton_self x)).le
        · rw [List.mem_singleton.mp hlast]
      exact hstart.trans hyx
    rw [hx, List.filter_append, List.filter_singleton, decide_eq_true hle, cond_true,
      List.getLast?_concat, List.getLast?_concat]

/-! ## 5. What is fetched and what is kept -/

/-- The candles of the market with their rates, on the grid. -/
structure Carried (market : Market F) (step : ℤ) (candles : List (HistoricalCandle F)) : Prop where
  aligned : ∀ c ∈ candles, step ∣ c.timestamp
  rates : ∀ c ∈ candles, c.fundingRatePct = market.rateAt c.timestamp

/-- What is known of a cached file: it carries the market, without a gap between the ends of its
    metadata; its candles that had closed when its last one opened are final, and that has
    happened. -/
structure FileSound (market : Market F) (step now : ℤ) (file : CacheFile F) : Prop where
  carried : Carried market step file.candles
  spaced : Spaced step (file.candles.map (·.timestamp))
  starts : (file.candles.map (·.timestamp)).head? = some file.metadata.actualFirstTs
  ends : (file.candles.map (·.timestamp)).getLast? = some file.metadata.actualLastTs
  final : ∀ c ∈ file.candles, c.timestamp + step ≤ file.metadata.actualLastTs →
    c.bar = market.bar c.timestamp
  past : file.metadata.actualLastTs ≤ now

/-- What is known of the candles that a fetch returns. -/
structure FetchSound (market : Market F) (q : Query) (now : ℤ)
    (candles : List (HistoricalCandle F)) :
    Prop where
  grid : candles.map (·.timestamp) = q.grid
  covered : Covered q q.grid
  range : ∀ t ∈ q.grid, t ≤ q.fetchEndMs
  rates : ∀ c ∈ candles, c.fundingRatePct = market.rateAt c.timestamp
  final : ∀ c ∈ candles, c.timestamp + q.step ≤ now → c.bar = market.bar c.timestamp
  opened : ∀ c ∈ candles, c.timestamp ≤ now

/-- The condition on a call: no page holds a row before the range, and every grid timestamp of the
    range is funded from its start on. -/
structure Supplied (u : Unicode) (s : Series) (market : Market F) (m : Moment F) (call : Call) :
    Prop where
  noEarlyRow : NoEarlyRow u m.now m.klines (s.klineArgs call)
  funded : ∀ q, (s.klineArgs call).query u = .ok q → ∀ ts ∈ q.grid, Funded market call.startMs ts

variable {u : Unicode} {s : Series} {market : Market F} {m : Moment F} {call : Call}

theorem query_eq {source : String} {q : Query}
    (h : (s.klineArgs call).queryFrom u source = .ok q) :
    (s.klineArgs call).query u = .ok q ∧ q.startMs = call.startMs ∧ q.endMs = call.endMs ∧
      q.closedOnly = false := by
  unfold KlineArgs.query KlineArgs.queryFrom at *
  obtain ⟨symbol, hsymbol, h⟩ := ok_of_bind h
  obtain ⟨step, hstep, h⟩ := ok_of_bind h
  cases Except.ok.inj h
  have hinterval : intervalMs (s.klineArgs call).interval "fetch_binance_klines_paginated" =
      .ok step := by
    unfold intervalMs at hstep ⊢
    cases hlookup : supportedIntervalMs.lookup (s.klineArgs call).interval with
    | none =>
      rw [hlookup] at hstep
      cases hstep
    | some x =>
      rw [hlookup] at hstep
      exact congrArg Except.ok (Except.ok.inj hstep)
  rw [hsymbol, hinterval]
  exact ⟨rfl, rfl, rfl, rfl⟩

/-- The name of the caller only matters to an error. -/
theorem queryFrom_of_query {q : Query} (h : (s.klineArgs call).query u = .ok q) (source : String) :
    (s.klineArgs call).queryFrom u source = .ok q := by
  unfold KlineArgs.query KlineArgs.queryFrom at *
  obtain ⟨symbol, hsymbol, h⟩ := ok_of_bind h
  obtain ⟨step, hstep, h⟩ := ok_of_bind h
  have hinterval : intervalMs (s.klineArgs call).interval source = .ok step := by
    unfold intervalMs at hstep ⊢
    cases hlookup : supportedIntervalMs.lookup (s.klineArgs call).interval with
    | none =>
      rw [hlookup] at hstep
      cases hstep
    | some x =>
      rw [hlookup] at hstep
      exact congrArg Except.ok (Except.ok.inj hstep)
  rw [hsymbol, hinterval]
  exact h

theorem dvd_ceilToStep (value step : ℤ) : step ∣ ceilToStep value step := Dvd.intro_left _ rfl

theorem ceilToStep_le {step value t : ℤ} (hstep : 0 < step) (hdvd : step ∣ t) (h : value ≤ t) :
    ceilToStep value step ≤ t := by
  obtain ⟨k, rfl⟩ := hdvd
  unfold ceilToStep
  have hlt : (value + step - 1) / step < k + 1 := by
    refine Int.ediv_lt_of_lt_mul hstep ?_
    have hmul : (k + 1) * step = step * k + step := by ring
    omega
  have hle : (value + step - 1) / step ≤ k := by omega
  calc (value + step - 1) / step * step ≤ k * step := Int.mul_le_mul_of_nonneg_right hle hstep.le
    _ = step * k := Int.mul_comm k step

theorem dvd_grid {q : Query} {t : ℤ} (h : t ∈ q.grid) : q.step ∣ t := by
  obtain ⟨k, -, rfl⟩ := List.mem_map.mp h
  exact Int.dvd_add (dvd_ceilToStep q.startMs q.step) (Dvd.intro_left _ rfl)

theorem ascending_of_spaced {step : ℤ} (hstep : 0 < step) {candles : List (HistoricalCandle F)}
    (h : Spaced step (candles.map (·.timestamp))) :
    candles.Pairwise fun a b => a.timestamp ≤ b.timestamp := by
  have hchain : (candles.map (·.timestamp)).IsChain (· ≤ ·) := by
    refine List.IsChain.imp (fun a b hab => ?_) h
    omega
  exact List.pairwise_map.mp (List.isChain_iff_pairwise.mp hchain)

/-- **Of timestamps without a gap, those in a range that lies within them are its grid.** -/
theorem filter_eq_grid {q : Query} {ts : List ℤ} {first last : ℤ} (hstep : 0 < q.step)
    (hopen : q.closedOnly = false) (hcovered : Covered q q.grid)
    (hrange : ∀ t ∈ q.grid, t ≤ q.fetchEndMs) (hspaced : Spaced q.step ts)
    (haligned : ∀ t ∈ ts, q.step ∣ t) (hfirst : ts.head? = some first)
    (hlast : ts.getLast? = some last) (hstart : first ≤ q.startMs) (hend : q.endMs ≤ last) :
    ts.filter (fun t => q.startMs ≤ t ∧ t ≤ q.endMs) = q.grid := by
  have hfetchEnd : q.fetchEndMs = q.endMs := by
    unfold Query.fetchEndMs
    rw [hopen, if_neg Bool.false_ne_true]
  obtain ⟨low, hlow, hlowExpected⟩ := hcovered.starts
  obtain ⟨high, hhigh, hhighExpected⟩ := hcovered.ends
  obtain ⟨-, -, hafter⟩ := lastExpected_eq hstep hcovered.expected
  have hascending : (ts.filter fun t => q.startMs ≤ t ∧ t ≤ q.endMs).Pairwise (· < ·) :=
    List.Pairwise.filter _ (spaced_ascending hstep hspaced)
  refine hascending.eq_of_mem_iff (spaced_ascending hstep (spaced_grid q)) fun t => ?_
  rw [List.mem_filter, decide_eq_true_eq]
  constructor
  · rintro ⟨hmem, hafterStart, hbeforeEnd⟩
    have hdvd := haligned t hmem
    have hfloor : q.firstExpected ≤ t := ceilToStep_le hstep hdvd hafterStart
    refine mem_spaced hstep (spaced_grid q) hlow hhigh
      (Int.dvd_sub hdvd (dvd_grid (List.mem_of_mem_head? hlow))) (hlowExpected.trans hfloor) ?_
    -- both are on the grid, and less than a step lies between the end and the last one
    obtain ⟨k, rfl⟩ := hdvd
    obtain ⟨n, rfl⟩ := dvd_grid (List.mem_of_mem_getLast? hhigh)
    have hlt : q.step * k < q.step * (n + 1) := by
      rw [mul_add, mul_one]
      omega
    have hle : k ≤ n := Int.lt_add_one_iff.mp (lt_of_mul_lt_mul_left hlt hstep.le)
    exact mul_le_mul_of_nonneg_left hle hstep.le
  · intro hmem
    have hafterStart : q.startMs ≤ t := (le_ceilToStep hstep q.startMs).trans (mem_grid hstep hmem)
    have hbeforeEnd : t ≤ q.endMs := hfetchEnd ▸ hrange t hmem
    refine ⟨mem_spaced hstep hspaced hfirst hlast ?_ (hstart.trans hafterStart)
      (hbeforeEnd.trans hend), hafterStart, hbeforeEnd⟩
    exact Int.dvd_sub (dvd_grid hmem) (haligned first (List.mem_of_mem_head? hfirst))

/-- The endpoint's rows in their order. -/
theorem funding_sorted {step : ℤ} (hm : Honest market step m) {request : FundingRequest}
    {rows : List (ℤ × F)} (h : m.funding request = .ok rows) :
    sortOn Prod.fst rows = market.reported m.now request := by
  have hascending : (market.reported m.now request).Pairwise fun a b => a.1 < b.1 :=
    (market.ascending.sublist List.filter_sublist).sublist (List.take_sublist _ _)
  have hnodup : ((market.reported m.now request).map Prod.fst).Nodup :=
    List.pairwise_map.mpr (hascending.imp fun h => h.ne)
  rw [sortOn_perm_of_injective (hm.funding request rows h)
    fun a ha b hb heq => List.inj_on_of_nodup_map hnodup
      ((hm.funding request rows h).mem_iff.mp ha) ((hm.funding request rows h).mem_iff.mp hb) heq]
  exact sortOn_sorted (hascending.imp fun h => le_of_lt h)

/-- **What a supplied fetch returns**: the grid of the range, with the rates of the market, and with
    its candles where they have closed. -/
theorem fetchSound {q : Query} {candles : List (HistoricalCandle F)}
    (hq : (s.klineArgs call).query u = .ok q) (hm : Honest market q.step m)
    (hsupplied : Supplied u s market m call) (h : fetchCandles u s m call = .ok candles) :
    FetchSound market q m.now candles ∧ candles ≠ [] := by
  obtain ⟨-, -, hend, hopen⟩ := query_eq hq
  unfold fetchCandles at h
  obtain ⟨rows, hrows, h⟩ := ok_of_bind h
  obtain ⟨funding, hfunding, h⟩ := ok_of_bind h
  obtain ⟨symbol, hsorted⟩ : ∃ symbol,
      funding = market.reported m.now ⟨symbol, call.startMs, call.endMs, 1000⟩ := by
    unfold fetchHistoricalFundingRates at hfunding
    obtain ⟨symbol, -, hfunding⟩ := ok_of_bind hfunding
    split at hfunding
    · rename_i reported hreported
      cases Except.ok.inj hfunding
      exact ⟨symbol, funding_sorted hm hreported⟩
    · cases hfunding
  have hexact := ((klines_exact_iff u m.now m.klines (s.klineArgs call)).mpr
    hsupplied.noEarlyRow).exact q rows hq hrows
  rw [fetchBinanceKlinesPaginated_eq u m.now m.klines _ hq] at hrows
  obtain ⟨hcovered, -, hrange, -⟩ := fetchKlines_ok m.now m.klines hrows
  have hopened : ∀ c ∈ rows, c.timestamp ≤ m.now :=
    fetchKlines_all (P := fun c => c.timestamp ≤ m.now) m.now m.klines hm.opened hrows
  have hclosed : ∀ c ∈ rows, c.timestamp + q.step ≤ m.now → c.bar = market.bar c.timestamp :=
    fetchKlines_all (P := fun c => c.timestamp + q.step ≤ m.now → c.bar = market.bar c.timestamp)
      m.now m.klines hm.closed hrows
  have hfundingAscending : funding.Pairwise fun a b => a.1 ≤ b.1 := by
    rw [hsorted]
    exact ((market.ascending.sublist List.filter_sublist).sublist (List.take_sublist _ _)).imp
      fun h => le_of_lt h
  cases Except.ok.inj h
  rw [join_eq hfundingAscending (ascending_of_spaced (step_pos hq) hexact.spaced)]
  refine ⟨⟨?_, hexact.grid ▸ hcovered, hexact.grid ▸ hrange, ?_, ?_, ?_⟩, ?_⟩
  · rw [List.map_map, ← hexact.grid]
    rfl
  · intro c hc
    obtain ⟨d, hd, rfl⟩ := List.mem_map.mp hc
    have hgrid : d.timestamp ∈ q.grid := hexact.grid ▸ List.mem_map_of_mem hd
    have hle : d.timestamp ≤ call.endMs := by
      have hle := hrange _ (List.mem_map_of_mem hd)
      unfold Query.fetchEndMs at hle
      rwa [hopen, if_neg Bool.false_ne_true, hend] at hle
    show latest funding d.timestamp = market.rateAt d.timestamp
    rw [hsorted]
    exact latest_of_funded (hsupplied.funded q hq _ hgrid) hle (hopened d hd)
  · intro c hc
    obtain ⟨d, hd, rfl⟩ := List.mem_map.mp hc
    exact hclosed d hd
  · intro c hc
    obtain ⟨d, hd, rfl⟩ := List.mem_map.mp hc
    exact hopened d hd
  · intro hnil
    obtain ⟨first, hfirst, -⟩ := hcovered.starts
    rw [List.map_eq_nil_iff.mp hnil] at hfirst
    cases hfirst

/-- What is known of the cache at a time. -/
def CacheSound (market : Market F) (step now : ℤ) (cache : Option (CacheFile F)) : Prop :=
  ∀ file ∈ cache, FileSound market step now file

/-- The step of a series. -/
def Series.step (s : Series) : ℤ := (supportedIntervalMs.lookup s.interval).getD 0

theorem query_step {q : Query} (h : (s.klineArgs call).query u = .ok q) : q.step = s.step := by
  unfold KlineArgs.query KlineArgs.queryFrom at h
  obtain ⟨symbol, -, h⟩ := ok_of_bind h
  obtain ⟨step, hstep, h⟩ := ok_of_bind h
  cases Except.ok.inj h
  unfold intervalMs at hstep
  unfold Series.step
  show step = (supportedIntervalMs.lookup (s.klineArgs call).interval).getD 0
  cases hlookup : supportedIntervalMs.lookup (s.klineArgs call).interval with
  | none =>
    rw [hlookup] at hstep
    cases hstep
  | some x =>
    rw [hlookup] at hstep
    exact (Except.ok.inj hstep).symm

theorem query_of_fetched {candles : List (HistoricalCandle F)}
    (h : fetchCandles u s m call = .ok candles) : ∃ q, (s.klineArgs call).query u = .ok q := by
  unfold fetchCandles at h
  obtain ⟨rows, hrows, -⟩ := ok_of_bind h
  unfold fetchBinanceKlinesPaginated at hrows
  cases hq : (s.klineArgs call).query u with
  | error e =>
    rw [hq] at hrows
    cases hrows
  | ok q => exact ⟨q, rfl⟩

variable {cache : Option (CacheFile F)} {now : ℤ}

/-- A file made of what a fetch returned. -/
theorem fileSound_of_fetch {q : Query} {candles : List (HistoricalCandle F)}
    {metadata : CacheMetadata} (hsound : FetchSound market q m.now candles)
    (hmetadata : buildCacheMetadata s.symbol s.interval call.startMs call.endMs candles =
      .ok metadata) : FileSound market q.step m.now ⟨metadata, candles⟩ := by
  have hends : (candles.map (·.timestamp)).head? = some metadata.actualFirstTs ∧
      (candles.map (·.timestamp)).getLast? = some metadata.actualLastTs := by
    unfold buildCacheMetadata at hmetadata
    split at hmetadata
    · rename_i first last hfirst hlast
      cases Except.ok.inj hmetadata
      rw [List.head?_map, hfirst, List.getLast?_map, hlast]
      exact ⟨rfl, rfl⟩
    · cases hmetadata
  obtain ⟨last, hmem, heq⟩ := List.mem_map.mp (List.mem_of_mem_getLast? hends.2)
  have hpast : metadata.actualLastTs ≤ m.now := heq ▸ hsound.opened last hmem
  refine ⟨⟨fun c hc => ?_, hsound.rates⟩, hsound.grid ▸ spaced_grid q, hends.1, hends.2,
    fun c hc hle => ?_, hpast⟩
  · exact dvd_grid (hsound.grid ▸ List.mem_map_of_mem hc)
  · exact hsound.final c hc (hle.trans hpast)

/-- **A call keeps the cache sound.** -/
theorem cacheSound_next (hm : Honest market s.step m) (hsupplied : Supplied u s market m call)
    (hnow : now ≤ m.now) (h : CacheSound market s.step now cache) :
    CacheSound market s.step m.now (loadOrFetchCandles u s cache m call).1 := by
  have hlater : CacheSound market s.step m.now cache := by
    intro file hfile
    have hsound := h file hfile
    exact { hsound with past := hsound.past.trans hnow }
  unfold loadOrFetchCandles
  split
  · exact hlater
  · dsimp only
    split
    · rename_i file hstored
      obtain ⟨rows, hrows, hstored⟩ := ok_of_bind hstored
      obtain ⟨metadata, hmetadata, hstored⟩ := ok_of_bind hstored
      cases Except.ok.inj hstored
      obtain ⟨q, hq⟩ := query_of_fetched hrows
      rw [← query_step hq] at hm ⊢
      intro file hfile
      obtain rfl := Option.some.inj hfile
      exact fileSound_of_fetch (fetchSound hq hm hsupplied hrows).1 hmetadata
    · exact hlater

/-! ## 6. Transparency -/

/-- The candle has closed by the end of the requested range. -/
def closedBy (step endMs : ℤ) (c : HistoricalCandle F) : Bool := c.timestamp + step ≤ endMs

/-- The candle of the market with its rate. -/
def Market.candle (market : Market F) (ts : ℤ) : HistoricalCandle F where
  timestamp := ts
  bar := market.bar ts
  fundingRatePct := market.rateAt ts

/-- Candles that are the market's where they have closed are determined by their timestamps. -/
theorem closed_eq {step endMs : ℤ} {candles : List (HistoricalCandle F)}
    (h : ∀ c ∈ candles, c.timestamp + step ≤ endMs → c = market.candle c.timestamp) :
    candles.filter (closedBy step endMs) =
      ((candles.map (·.timestamp)).filter fun ts => ts + step ≤ endMs).map market.candle := by
  induction candles with
  | nil => rfl
  | cons c rest ih =>
    obtain ⟨hc, hrest⟩ := List.forall_mem_cons.mp h
    rw [List.map_cons]
    by_cases hclosed : c.timestamp + step ≤ endMs
    · have hyes : closedBy step endMs c = true := decide_eq_true hclosed
      rw [List.filter_cons_of_pos hyes, List.filter_cons_of_pos (by simpa using hclosed),
        List.map_cons, ih hrest, ← hc hclosed]
    · have hopen : ¬ closedBy step endMs c = true := fun h => hclosed (of_decide_eq_true h)
      rw [List.filter_cons_of_neg hopen, List.filter_cons_of_neg (by simpa using hclosed), ih hrest]

/-- What is asked of a call: every candle it returns carries the rate in force, and where it is
    served from the cache it returns whenever a fetch does, and agrees with it on every candle that
    has closed by the end of the range. -/
structure Transparent (u : Unicode) (s : Series) (market : Market F) (cache : Option (CacheFile F))
    (m : Moment F) (call : Call) : Prop where
  rates : ∀ candles, (loadOrFetchCandles u s cache m call).2 = .ok candles →
    ∀ c ∈ candles, c.fundingRatePct = market.rateAt c.timestamp
  served : servedFrom cache call ≠ none → ∀ fresh, fetchCandles u s m call = .ok fresh →
    ∃ candles, (loadOrFetchCandles u s cache m call).2 = .ok candles ∧
      candles.filter (closedBy s.step call.endMs) = fresh.filter (closedBy s.step call.endMs)

theorem servedFrom_some {file : CacheFile F} (h : servedFrom cache call = some file) :
    file ∈ cache ∧ file.metadata.actualFirstTs ≤ call.startMs ∧
      call.endMs ≤ file.metadata.actualLastTs := by
  unfold servedFrom at h
  split at h
  · cases h
  · obtain ⟨hfile, hcovers⟩ := Option.filter_eq_some_iff.mp h
    unfold cacheCovers at hcovers
    rw [Bool.and_eq_true, decide_eq_true_eq, decide_eq_true_eq] at hcovers
    exact ⟨hfile, hcovers⟩

/-- What is selected from a sound file: the grid of the range, from the market. -/
theorem selected_sound {file : CacheFile F} (hfile : FileSound market s.step now file)
    (hend : call.endMs ≤ file.metadata.actualLastTs) {source : String} {q : Query}
    (hq : (s.klineArgs call).queryFrom u source = .ok q) {candles : List (HistoricalCandle F)}
    (h : selectCached m.now q file = .ok candles) :
    candles.map (·.timestamp) = q.grid ∧
      (∀ c ∈ candles, c.fundingRatePct = market.rateAt c.timestamp) ∧
      ∀ c ∈ candles, c.timestamp + s.step ≤ call.endMs → c = market.candle c.timestamp := by
  obtain ⟨hquery, hstart, hqend, hopen⟩ := query_eq hq
  have hstep := query_step hquery
  unfold selectCached at h
  obtain ⟨_, hcovered, h⟩ := ok_of_bind h
  cases Except.ok.inj h
  have hmem : ∀ c ∈ file.candles.filter fun c => q.startMs ≤ c.timestamp ∧ c.timestamp ≤ q.endMs,
      c ∈ file.candles ∧ q.startMs ≤ c.timestamp ∧ c.timestamp ≤ q.endMs := by
    intro c hc
    obtain ⟨hin, hrange⟩ := List.mem_filter.mp hc
    exact ⟨hin, of_decide_eq_true hrange⟩
  refine ⟨?_, fun c hc => hfile.carried.rates c (hmem c hc).1, fun c hc hclosed => ?_⟩
  · refine covered_eq_grid (step_pos hquery) (validateCoverage_ok hcovered) ?_ ?_
    · intro t ht
      obtain ⟨c, hc, rfl⟩ := List.mem_map.mp ht
      obtain ⟨hin, hlow, -⟩ := hmem c hc
      exact ceilToStep_le (step_pos hquery) (hstep ▸ hfile.carried.aligned c hin) hlow
    · intro t ht
      obtain ⟨c, hc, rfl⟩ := List.mem_map.mp ht
      unfold Query.fetchEndMs
      rw [hopen, if_neg Bool.false_ne_true]
      exact (hmem c hc).2.2
  · have hin := (hmem c hc).1
    have hbar := hfile.final c hin (hclosed.trans hend)
    have hrate := hfile.carried.rates c hin
    cases c with
    | mk ts bar rate =>
      show (⟨ts, bar, rate⟩ : HistoricalCandle F) = ⟨ts, market.bar ts, market.rateAt ts⟩
      rw [show bar = market.bar ts from hbar, show rate = market.rateAt ts from hrate]

/-- **A sound file has the candles of every range that it covers and that a fetch returns.** -/
theorem selected_of_fetched {file : CacheFile F} {q : Query} {fresh : List (HistoricalCandle F)}
    (hq : (s.klineArgs call).query u = .ok q) (hfile : FileSound market q.step now file)
    (hstart : file.metadata.actualFirstTs ≤ call.startMs)
    (hend : call.endMs ≤ file.metadata.actualLastTs) (hfetch : FetchSound market q m.now fresh) :
    ∃ candles, selectCached m.now q file = .ok candles := by
  obtain ⟨-, hqstart, hqend, hopen⟩ := query_eq hq
  have haligned : ∀ t ∈ file.candles.map (·.timestamp), q.step ∣ t := by
    intro t ht
    obtain ⟨c, hc, rfl⟩ := List.mem_map.mp ht
    exact hfile.carried.aligned c hc
  have hgrid := filter_eq_grid (step_pos hq) hopen hfetch.covered hfetch.range hfile.spaced haligned
    hfile.starts hfile.ends (hqstart ▸ hstart) (hqend ▸ hend)
  rw [List.filter_map] at hgrid
  have hcovered : validateCoverage m.now q (file.candles.filter fun c =>
      q.startMs ≤ c.timestamp ∧ c.timestamp ≤ q.endMs) = .ok () :=
    validateCoverage_of_covered (hgrid ▸ hfetch.covered)
  unfold selectCached
  dsimp only
  rw [hcovered]
  exact ⟨_, rfl⟩

theorem transparent_of_sound (hm : Honest market s.step m) (hsupplied : Supplied u s market m call)
    (hnow : now ≤ m.now) (h : CacheSound market s.step now cache) :
    Transparent u s market cache m call := by
  cases hserved : servedFrom cache call with
  | none =>
    refine ⟨fun candles hok => ?_, fun hne => absurd hserved hne⟩
    unfold loadOrFetchCandles at hok
    rw [hserved] at hok
    dsimp only at hok
    split at hok
    · rename_i file hstored
      obtain ⟨rows, hrows, hstored⟩ := ok_of_bind hstored
      obtain ⟨metadata, -, hstored⟩ := ok_of_bind hstored
      cases Except.ok.inj hstored
      cases Except.ok.inj hok
      obtain ⟨q, hq⟩ := query_of_fetched hrows
      rw [← query_step hq] at hm
      exact (fetchSound hq hm hsupplied hrows).1.rates
    · cases hok
  | some file =>
    obtain ⟨hfile, hstart, hend⟩ := servedFrom_some hserved
    have hsound := h file hfile
    have hselected : ∀ candles, (loadOrFetchCandles u s cache m call).2 = .ok candles → ∃ q,
        (s.klineArgs call).queryFrom u "load_or_fetch_candles" = .ok q ∧
          selectCached m.now q file = .ok candles := by
      intro candles hok
      unfold loadOrFetchCandles at hok
      rw [hserved] at hok
      exact ok_of_bind hok
    refine ⟨fun candles hok => ?_, fun _ fresh hfresh => ?_⟩
    · obtain ⟨q, hq, hcached⟩ := hselected candles hok
      exact (selected_sound hsound hend hq hcached).2.1
    · obtain ⟨q, hquery⟩ := query_of_fetched hfresh
      have hq := queryFrom_of_query hquery "load_or_fetch_candles"
      rw [← query_step hquery] at hm
      obtain ⟨hfetch, -⟩ := fetchSound hquery hm hsupplied hfresh
      obtain ⟨candles, hcached⟩ := selected_of_fetched hquery ((query_step hquery).symm ▸ hsound)
        hstart hend hfetch
      obtain ⟨hgrid, -, hmarket⟩ := selected_sound hsound hend hq hcached
      have hreturned : (loadOrFetchCandles u s cache m call).2 = .ok candles := by
        unfold loadOrFetchCandles
        rw [hserved]
        dsimp only
        rw [hq]
        exact hcached
      have hfreshMarket : ∀ c ∈ fresh, c.timestamp + s.step ≤ call.endMs →
          c = market.candle c.timestamp := by
        intro c hc hclosed
        have hpast : call.endMs ≤ m.now := hend.trans (hsound.past.trans hnow)
        have hbar := hfetch.final c hc ((query_step hquery).symm ▸ hclosed.trans hpast)
        have hrate := hfetch.rates c hc
        cases c with
        | mk ts bar rate =>
          show (⟨ts, bar, rate⟩ : HistoricalCandle F) = ⟨ts, market.bar ts, market.rateAt ts⟩
          rw [show bar = market.bar ts from hbar, show rate = market.rateAt ts from hrate]
      refine ⟨candles, hreturned, ?_⟩
      rw [closed_eq hmarket, closed_eq hfreshMarket, hgrid, hfetch.grid]

/-- One call of a run. -/
def next (u : Unicode) (s : Series) (cache : Option (CacheFile F)) (event : Moment F × Call) :
    Option (CacheFile F) := (loadOrFetchCandles u s cache event.1 event.2).1

/-- A run of calls at later and later times keeps the cache sound. -/
theorem cacheSound_run (events : List (Moment F × Call))
    (htimes : events.Pairwise fun e e' => e.1.now ≤ e'.1.now)
    (hm : ∀ e ∈ events, Honest market s.step e.1)
    (hsupplied : ∀ e ∈ events, Supplied u s market e.1 e.2)
    (hafter : ∀ e ∈ events, now ≤ e.1.now) (h : CacheSound market s.step now cache)
    {later : ℤ} (hlater : ∀ e ∈ events, e.1.now ≤ later) (hnow : now ≤ later) :
    CacheSound market s.step later (runEvents (next u s) cache events) := by
  induction events generalizing cache now with
  | nil =>
    intro file hfile
    have hsound := h file hfile
    exact { hsound with past := hsound.past.trans hnow }
  | cons e rest ih =>
    obtain ⟨hfirst, hrest⟩ := List.pairwise_cons.mp htimes
    obtain ⟨hme, hmrest⟩ := List.forall_mem_cons.mp hm
    obtain ⟨hse, hsrest⟩ := List.forall_mem_cons.mp hsupplied
    obtain ⟨hae, -⟩ := List.forall_mem_cons.mp hafter
    obtain ⟨hle, hlrest⟩ := List.forall_mem_cons.mp hlater
    exact ih hrest hmrest hsrest hfirst (cacheSound_next hme hse hae h) hlrest hle

/-- **The cache is transparent in every run whose calls are supplied**: every candle carries the
    rate in force, and what is served from the cache is what a fetch would return. -/
theorem cache_transparent (u : Unicode) (s : Series) (market : Market F)
    (events : List (Moment F × Call)) (htimes : events.Pairwise fun e e' => e.1.now ≤ e'.1.now)
    (hm : ∀ e ∈ events, Honest market s.step e.1)
    (hsupplied : ∀ e ∈ events, Supplied u s market e.1 e.2) (before after : List (Moment F × Call))
    (e : Moment F × Call) (hevents : events = before ++ e :: after) :
    Transparent u s market (runEvents (next u s) none before) e.1 e.2 := by
  subst hevents
  obtain ⟨hbefore, -, hcross⟩ := List.pairwise_append.mp htimes
  have hlast : ∀ b ∈ before, b.1.now ≤ e.1.now := fun b hb => hcross b hb e (List.mem_cons_self ..)
  have hin : e ∈ before ++ e :: after := List.mem_append_right _ (List.mem_cons_self ..)
  cases hb : before with
  | nil =>
    refine transparent_of_sound (hm e hin) (hsupplied e hin) le_rfl ?_
    intro file hfile
    cases hfile
  | cons b rest =>
    have hfirst : ∀ c ∈ before, b.1.now ≤ c.1.now := by
      rw [hb] at hbefore ⊢
      exact List.forall_mem_cons.mpr ⟨le_rfl, (List.pairwise_cons.mp hbefore).1⟩
    have hempty : CacheSound market s.step b.1.now (none : Option (CacheFile F)) := by
      intro file hfile
      cases hfile
    rw [← hb]
    exact transparent_of_sound (hm e hin) (hsupplied e hin) le_rfl
      (cacheSound_run before hbefore (fun c hc => hm c (List.mem_append_left _ hc))
        (fun c hc => hsupplied c (List.mem_append_left _ hc)) hfirst hempty hlast
        (hlast b (hb ▸ List.mem_cons_self ..)))

/-! ## 7. An event before the range -/

/-- An exchange with these opening times, which answers what it is asked. -/
def exchangeAt (market : Market F) (opens : List ℤ) (now : ℤ) : Moment F where
  now := now
  klines _ request :=
    .ok ((opens.filter fun ts =>
      request.startTime ≤ ts ∧ ts ≤ request.endTime ∧ ts ≤ now).map fun ts =>
        ⟨.ok ts, .ok (market.bar ts)⟩)
  funding request := .ok (market.reported now request)

theorem honest_exchangeAt (market : Market F) (opens : List ℤ) (now step : ℤ) :
    Honest market step (exchangeAt market opens now) := by
  have hrow : ∀ n request rows, (exchangeAt market opens now).klines n request = .ok rows →
      ∀ r ∈ rows, ∀ ts bar, r.timestamp = .ok ts → r.bar = .ok bar →
        ts ≤ now ∧ bar = market.bar ts := by
    intro n request rows h r hr ts bar hts hbar
    cases Except.ok.inj h
    obtain ⟨t, ht, rfl⟩ := List.mem_map.mp hr
    cases Except.ok.inj hts
    cases Except.ok.inj hbar
    have hrange := of_decide_eq_true (List.mem_filter.mp ht).2
    exact ⟨hrange.2.2, rfl⟩
  refine ⟨fun n request rows h r hr ts bar hts hbar => ?_,
    fun n request rows h r hr ts bar hts hbar _ => ?_, fun request rows h => ?_⟩
  · exact (hrow n request rows h r hr ts bar hts hbar).1
  · exact (hrow n request rows h r hr ts bar hts hbar).2
  · cases Except.ok.inj h
    exact List.Perm.refl _

/-- A market with one funding event, at the start. -/
def quietMarket : Market ℕ where
  bar _ := ⟨1, 1, 1, 1, 1⟩
  events := [(0, 7)]
  ascending := List.pairwise_singleton _ _

def minutes : Series := ⟨"BTCUSDT", "1m"⟩

def fourMinutes : Moment ℕ := exchangeAt quietMarket [0, 60000, 120000, 180000] 200000

theorem supplied_fourMinutes {call : Call}
    (hpages : (fetchBinanceKlinesPaginated asciiTables fourMinutes.now fourMinutes.klines
      (minutes.klineArgs call)).1.all (fun rows => rows.all fun r =>
        match r.timestamp with
        | .ok ts => decide (0 ≤ ts)
        | .error _ => true) = true)
    (hquery : ((minutes.klineArgs call).query asciiTables).toOption.map
      (fun q => decide (q.firstExpected = 0) && q.grid.all fun ts =>
        decide (quietMarket.between call.startMs ts = [(0, 7)])) = some true) :
    Supplied asciiTables minutes quietMarket fourMinutes call := by
  have hread : ∀ q, (minutes.klineArgs call).query asciiTables = .ok q →
      q.firstExpected = 0 ∧ ∀ ts ∈ q.grid, quietMarket.between call.startMs ts = [(0, 7)] := by
    intro q hq
    rw [hq] at hquery
    have h := Option.some.inj hquery
    rw [Bool.and_eq_true, decide_eq_true_eq, List.all_eq_true] at h
    exact ⟨h.1, fun ts hts => of_decide_eq_true (h.2 ts hts)⟩
  refine ⟨fun q candles hq _ rows hrows r hr ts hts => ?_, fun q hq ts hts => ?_⟩
  · have h := List.all_eq_true.mp (List.all_eq_true.mp hpages rows hrows) r hr
    rw [hts] at h
    rw [(hread q hq).1]
    exact of_decide_eq_true h
  · have h := (hread q hq).2 ts hts
    exact ⟨by rw [h]; decide, fun _ => by rw [h]; exact List.cons_ne_nil _ _⟩

/-- The second of two calls, served from the cache. -/
theorem cache_transparent_two :
    Transparent asciiTables minutes quietMarket
      (runEvents (next asciiTables minutes) none [(fourMinutes, ⟨0, 180000, false⟩)])
      fourMinutes ⟨0, 120000, false⟩ := by
  have hfirst : Supplied asciiTables minutes quietMarket fourMinutes ⟨0, 180000, false⟩ :=
    supplied_fourMinutes (by decide +kernel) (by decide +kernel)
  have hsecond : Supplied asciiTables minutes quietMarket fourMinutes ⟨0, 120000, false⟩ :=
    supplied_fourMinutes (by decide +kernel) (by decide +kernel)
  have hhonest : Honest quietMarket minutes.step fourMinutes := honest_exchangeAt _ _ _ _
  refine cache_transparent asciiTables minutes quietMarket
    [(fourMinutes, ⟨0, 180000, false⟩), (fourMinutes, ⟨0, 120000, false⟩)] ?_ ?_ ?_
    [(fourMinutes, ⟨0, 180000, false⟩)] [] (fourMinutes, ⟨0, 120000, false⟩) rfl
  · exact List.pairwise_pair.mpr le_rfl
  · exact List.forall_mem_cons.mpr ⟨hhonest, List.forall_mem_singleton.mpr hhonest⟩
  · exact List.forall_mem_cons.mpr ⟨hfirst, List.forall_mem_singleton.mpr hsecond⟩

/-- The rates of a result. -/
def ratesOf (result : Except HistoryError (List (HistoricalCandle ℕ))) : Option (List (Option ℕ)) :=
  result.toOption.map fun candles => candles.map (·.fundingRatePct)

/-- **The event in force at the start of a range is known to the cache and not to a fetch**, which
    leaves the rate out although the event is older than the candles. -/
theorem cached_rate :
    let cache := runEvents (next asciiTables minutes) none [(fourMinutes, ⟨0, 180000, false⟩)]
    let call : Call := ⟨60000, 120000, false⟩
    ratesOf (loadOrFetchCandles asciiTables minutes cache fourMinutes call).2 =
        some [some 7, some 7] ∧
      ratesOf (fetchCandles asciiTables minutes fourMinutes call) = some [none, none] ∧
      ¬ Transparent asciiTables minutes quietMarket cache fourMinutes call ∧
      ¬ Transparent asciiTables minutes quietMarket none fourMinutes call := by
  intro cache call
  have hcached : (loadOrFetchCandles asciiTables minutes cache fourMinutes call).2.toOption.map
      (fun candles => (candles.filter (closedBy minutes.step call.endMs)).map (·.fundingRatePct)) =
        some [some 7] := by decide +kernel
  have hfetched : (fetchCandles asciiTables minutes fourMinutes call).toOption.map
      (fun candles => (candles.filter (closedBy minutes.step call.endMs)).map (·.fundingRatePct)) =
        some [none] := by decide +kernel
  have hmissing : (loadOrFetchCandles asciiTables minutes none fourMinutes call).2.toOption.map
      (fun candles => candles.all fun c =>
        decide (c.fundingRatePct = quietMarket.rateAt c.timestamp)) = some false := by
    decide +kernel
  have hserved : (servedFrom cache call).isSome = true := by decide +kernel
  refine ⟨by decide +kernel, by decide +kernel, fun h => ?_, fun h => ?_⟩
  · obtain ⟨candles, hcandles, hrates⟩ := Option.map_eq_some_iff.mp hcached
    obtain ⟨fresh, hfresh, hfreshRates⟩ := Option.map_eq_some_iff.mp hfetched
    obtain ⟨answered, hanswered, heq⟩ := h.served (Option.isSome_iff_ne_none.mp hserved) fresh
      (ok_of_toOption hfresh)
    obtain rfl : candles = answered :=
      Except.ok.inj ((ok_of_toOption hcandles).symm.trans hanswered)
    rw [heq, hfreshRates] at hrates
    exact absurd hrates (by decide)
  · obtain ⟨candles, hcandles, hrates⟩ := Option.map_eq_some_iff.mp hmissing
    have hall := h.rates candles (ok_of_toOption hcandles)
    have htrue : (candles.all fun c =>
        decide (c.fundingRatePct = quietMarket.rateAt c.timestamp)) = true :=
      List.all_eq_true.mpr fun c hc => decide_eq_true (hall c hc)
    exact Bool.false_ne_true (hrates.symm.trans htrue)

end AlphaForge.History
