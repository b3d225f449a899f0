/-
  File:      AlphaForge/History/Klines.lean
  Subject:   Historical candles fetched page by page: `fetch_binance_klines_paginated` and
             `_validate_coverage` of `historical_market_data.py`, against any fetcher.

  The cursor only moves forward, a timestamp is collected once, and the coverage check leaves one
  gap length. Rows after the end of the range are dropped, rows before its start are not, and then
  nothing ties the result to the grid.

  * `fetchBinanceKlinesPaginated` -- the function, with the pages it received.
  * `pages_bounded` -- it asks for at most 10 000 pages, whatever it gets.
  * `paginate_collects` -- what is collected: every timestamp received up to the end, once.
  * `spaced_eq` -- a list with one gap length is an arithmetic progression.
  * **`klines_exact_iff`** -- the result is the grid of the range exactly where no page holds a row
    before its first grid timestamp.
  * `early_row` -- one row before the start.
-/
import AlphaForge.Lib.PyText
import AlphaForge.Lib.PyValues
import AlphaForge.Lib.Ranking
import Mathlib.Algebra.Order.Ring.Int
import Mathlib.Data.List.Chain
import Mathlib.Data.List.Range
import Mathlib.Tactic.Ring

namespace AlphaForge.History

open AlphaForge.Lib (PyError ok_of_bind ok_bind sortOn mem_sortOn perm_of_sortOn pairwise_sortOn)
open AlphaForge.Lib.PyText (Unicode)

variable {F : Type}

/-! ## 1. Candles and requests -/

/-- `SUPPORTED_INTERVAL_MS`. -/
def supportedIntervalMs : List (String × ℤ) :=
  [("1m", 60000), ("5m", 300000), ("15m", 900000), ("30m", 1800000), ("1h", 3600000),
    ("2h", 2 * 60 * 60 * 1000), ("4h", 4 * 60 * 60 * 1000), ("1d", 24 * 60 * 60 * 1000)]

/-- The five numbers of a candle. -/
structure Bar (F : Type) where
  openPrice : F
  high : F
  low : F
  close : F
  volume : F
  deriving DecidableEq

structure HistoricalCandle (F : Type) where
  timestamp : ℤ
  bar : Bar F
  fundingRatePct : Option F := none
  deriving DecidableEq

/-- A row of a page, as `int(r[0])` and the five calls of `float` read it. -/
structure RawRow (F : Type) where
  timestamp : Except PyError ℤ
  bar : Except PyError (Bar F)

/-- The parameters of the URL. -/
structure KlineRequest where
  baseUrl : String
  symbol : String
  interval : String
  startTime : ℤ
  endTime : ℤ
  limit : ℕ

/-- The fetcher: what it answers the `n`-th request. -/
abbrev Fetcher (F : Type) := ℕ → KlineRequest → Except PyError (List (RawRow F))

/-- What `_coverage_error` reports. -/
structure CoverageError where
  reason : String
  symbol : String
  timeframe : String
  requestedStart : ℤ
  requestedEnd : ℤ
  expectedCandles : ℤ
  actualCandles : ℕ
  actualFirst : Option ℤ
  actualLast : Option ℤ
  immature : Bool

inductive HistoryError where
  /-- `SymbolListError`. -/
  | invalidSymbol (got : String)
  | unsupportedTimeframe (interval sourceFunction : String)
  | stalled (symbol interval : String) (cursor : ℤ)
  | pageLimit
  | coverage (error : CoverageError)
  /-- `candles[0]` of no candles. -/
  | noCandles
  /-- An exception of the fetcher or of the conversions. -/
  | raised (error : PyError)

/-- `_SYMBOL_RE.fullmatch`. -/
def isSymbol (text : String) : Bool :=
  text.toList.all (fun c => ('A' ≤ c && c ≤ 'Z') || ('0' ≤ c && c ≤ '9')) &&
    2 ≤ text.length && text.length ≤ 30

/-- `validate_single_binance_symbol`. -/
def validateSingleBinanceSymbol (u : Unicode) (symbol : String) : Except HistoryError String :=
  let normalized := u.upper (Lib.PyText.strip symbol)
  if isSymbol normalized then .ok normalized else .error (.invalidSymbol symbol)

/-- `_interval_ms`. -/
def intervalMs (interval sourceFunction : String) : Except HistoryError ℤ :=
  match supportedIntervalMs.lookup interval with
  | some step => .ok step
  | none => .error (.unsupportedTimeframe interval sourceFunction)

/-- `_ceil_to_step`. -/
def ceilToStep (value step : ℤ) : ℤ := (value + step - 1) / step * step

/-- `_floor_to_step`. -/
def floorToStep (value step : ℤ) : ℤ := value / step * step

/-! ## 2. The pages -/

/-- A call, with the symbol and the step that its first lines read. -/
structure Query where
  symbol : String
  interval : String
  step : ℤ
  startMs : ℤ
  endMs : ℤ
  baseUrl : String
  closedOnly : Bool

namespace Query

variable (q : Query)

/-- `fetch_end_ms`. -/
def fetchEndMs : ℤ := if q.closedOnly then floorToStep q.endMs q.step - q.step else q.endMs

/-- `first_expected`. -/
def firstExpected : ℤ := ceilToStep q.startMs q.step

/-- `last_expected`. -/
def lastExpected : ℤ := floorToStep q.endMs q.step - (if q.closedOnly then q.step else 0)

/-- `expected_candle_count`. -/
def expectedCandleCount : ℤ :=
  if q.lastExpected < q.firstExpected then 0
  else (q.lastExpected - q.firstExpected) / q.step + 1

/-- The parameters of a page. -/
def request (cursor : ℤ) : KlineRequest where
  baseUrl := q.baseUrl
  symbol := q.symbol
  interval := q.interval
  startTime := cursor
  endTime := q.fetchEndMs
  limit := 1500

end Query

/-- The variables of the loop. -/
structure Collected (F : Type) where
  out : List (HistoricalCandle F)
  seen : List ℤ
  pageNew : ℕ
  lastTs : Option ℤ

/-- One row of a page. -/
def readRow (fetchEndMs : ℤ) (c : Collected F) (r : RawRow F) : Except PyError (Collected F) := do
  let ts ← r.timestamp
  if ts ∈ c.seen ∨ fetchEndMs < ts then return { c with lastTs := some ts }
  let bar ← r.bar
  return {
    out := c.out ++ [{ timestamp := ts, bar := bar }]
    seen := ts :: c.seen
    pageNew := c.pageNew + 1
    lastTs := some ts }

/-- The rows of a page. -/
def readPage (fetchEndMs : ℤ) (c : Collected F) (rows : List (RawRow F)) :
    Except PyError (Collected F) :=
  rows.foldlM (readRow fetchEndMs) { c with pageNew := 0, lastTs := none }

/-- The loop over the pages, `left` of them at most, with the pages it received. -/
def paginate (fetch : Fetcher F) (q : Query) (left n : ℕ) (cursor : ℤ) (c : Collected F) :
    List (List (RawRow F)) × Except HistoryError (List (HistoricalCandle F)) :=
  match left with
  | 0 => ([], .error .pageLimit)
  | left + 1 =>
    if q.fetchEndMs < cursor then ([], .ok c.out)
    else
      match fetch n (q.request cursor) with
      | .error e => ([], .error (.raised e))
      | .ok rows =>
        if rows.isEmpty then ([rows], .ok c.out)
        else
          match readPage q.fetchEndMs c rows with
          | .error e => ([rows], .error (.raised e))
          | .ok page =>
            match page.lastTs with
            | none => ([rows], .ok page.out)
            | some lastTs =>
              if q.closedOnly ∧ page.pageNew = 0 ∧ q.fetchEndMs < lastTs then
                ([rows], .ok page.out)
              else if lastTs + q.step ≤ cursor ∨ page.pageNew = 0 then
                ([rows], .error (.stalled q.symbol q.interval cursor))
              else
                let rest := paginate fetch q left (n + 1) (lastTs + q.step) page
                (rows :: rest.1, rest.2)

/-- `_coverage_error`. -/
def coverageError (q : Query) (reason : String) (candles : List (HistoricalCandle F))
    (immature : Bool) : HistoryError :=
  .coverage
    { reason := reason
      symbol := q.symbol
      timeframe := q.interval
      requestedStart := q.startMs
      requestedEnd := q.endMs
      expectedCandles := q.expectedCandleCount
      actualCandles := candles.length
      actualFirst := candles.head?.map (·.timestamp)
      actualLast := candles.getLast?.map (·.timestamp)
      immature := immature }

/-- The first two neighbours whose gap is not the step. -/
def firstGap (step : ℤ) : List (HistoricalCandle F) → Option (ℤ × ℤ)
  | a :: b :: rest =>
    if b.timestamp - a.timestamp ≠ step then some (a.timestamp, b.timestamp)
    else firstGap step (b :: rest)
  | _ => none

/-- `_validate_coverage`; `now` is the current time in milliseconds. -/
def validateCoverage (now : ℤ) (q : Query) (candles : List (HistoricalCandle F)) :
    Except HistoryError Unit :=
  let recent := q.closedOnly && decide (now - 2 * q.step ≤ q.endMs)
  if q.expectedCandleCount ≤ 0 then
    .error (coverageError q "Requested range is shorter than one complete candle boundary" candles
      recent)
  else
    match candles.head?, candles.getLast? with
    | some first, some last =>
      if q.firstExpected < first.timestamp then
        .error (coverageError q "Historical coverage starts after requested start boundary" candles
          false)
      else if last.timestamp < q.lastExpected then
        .error (coverageError q "Historical coverage ends before requested end boundary" candles
          recent)
      else
        match firstGap q.step candles with
        | some (a, b) =>
          .error (coverageError q
            ("Historical gap detected at " ++ toString a ++ "->" ++ toString b) candles false)
        | none =>
          if (candles.length : ℤ) < q.expectedCandleCount then
            .error (coverageError q "Insufficient candles returned by Binance" candles false)
          else .ok ()
    | _, _ => .error (coverageError q "No candles returned by Binance" candles recent)

/-- The part of the function behind the validation of its arguments. -/
def fetchKlines (now : ℤ) (fetch : Fetcher F) (q : Query) :
    List (List (RawRow F)) × Except HistoryError (List (HistoricalCandle F)) :=
  let pages := paginate fetch q 10000 0 q.startMs ⟨[], [], 0, none⟩
  (pages.1, do
    let out ← pages.2
    let sorted := sortOn (·.timestamp) out
    validateCoverage now q sorted
    return sorted)

/-- The arguments of a call. -/
structure KlineArgs where
  symbol : String
  interval : String
  startMs : ℤ
  endMs : ℤ
  baseUrl : String := "https://fapi.binance.com"
  closedOnly : Bool := false

/-- The symbol and the step of a call. -/
def KlineArgs.queryFrom (u : Unicode) (sourceFunction : String) (args : KlineArgs) :
    Except HistoryError Query := do
  let symbol ← validateSingleBinanceSymbol u args.symbol
  let step ← intervalMs args.interval sourceFunction
  return {
    symbol := symbol
    interval := args.interval
    step := step
    startMs := args.startMs
    endMs := args.endMs
    baseUrl := args.baseUrl
    closedOnly := args.closedOnly }

/-- The first lines of `fetch_binance_klines_paginated`. -/
def KlineArgs.query (u : Unicode) (args : KlineArgs) : Except HistoryError Query :=
  args.queryFrom u "fetch_binance_klines_paginated"

/-- `fetch_binance_klines_paginated`, with the pages it received. -/
def fetchBinanceKlinesPaginated (u : Unicode) (now : ℤ) (fetch : Fetcher F) (args : KlineArgs) :
    List (List (RawRow F)) × Except HistoryError (List (HistoricalCandle F)) :=
  match args.query u with
  | .error e => ([], .error e)
  | .ok q => fetchKlines now fetch q

/-! ## 3. Termination -/

/-- **The loop ends after as many pages as it may ask for**, whatever the fetcher does. -/
theorem paginate_length (fetch : Fetcher F) (q : Query) (left n : ℕ) (cursor : ℤ)
    (c : Collected F) : (paginate fetch q left n cursor c).1.length ≤ left := by
  induction left generalizing n cursor c with
  | zero => exact le_rfl
  | succ left ih =>
    unfold paginate
    split
    · exact Nat.zero_le _
    split
    · exact Nat.zero_le _
    split
    · exact Nat.le_add_left 1 left
    split
    · exact Nat.le_add_left 1 left
    split
    · exact Nat.le_add_left 1 left
    split
    · exact Nat.le_add_left 1 left
    split
    · exact Nat.le_add_left 1 left
    · exact Nat.succ_le_succ (ih _ _ _)

/-! ## 4. What is collected -/

/-- A timestamp that a list of rows holds, up to `fetchEndMs`. -/
def Received (fetchEndMs : ℤ) (rows : List (RawRow F)) (ts : ℤ) : Prop :=
  ts ≤ fetchEndMs ∧ ∃ r ∈ rows, r.timestamp = .ok ts

/-- The loop's invariant: `seen` holds the timestamps of `out`, each of which was collected once and
    is in the range. -/
structure Collected.Sound (fetchEndMs : ℤ) (c : Collected F) : Prop where
  seen : ∀ ts, ts ∈ c.seen ↔ ts ∈ c.out.map (·.timestamp)
  nodup : (c.out.map (·.timestamp)).Nodup
  inRange : ∀ ts ∈ c.out.map (·.timestamp), ts ≤ fetchEndMs

variable {fetchEndMs : ℤ} {c c' : Collected F}

theorem readRow_collects (hc : c.Sound fetchEndMs) {r : RawRow F}
    (h : readRow fetchEndMs c r = .ok c') :
    c'.Sound fetchEndMs ∧ ∀ ts, ts ∈ c'.out.map (·.timestamp) ↔
      ts ∈ c.out.map (·.timestamp) ∨ (ts ≤ fetchEndMs ∧ r.timestamp = .ok ts) := by
  unfold readRow at h
  obtain ⟨ts, hts, h⟩ := ok_of_bind h
  by_cases hskip : ts ∈ c.seen ∨ fetchEndMs < ts
  · rw [if_pos hskip] at h
    cases Except.ok.inj h
    refine ⟨⟨hc.seen, hc.nodup, hc.inRange⟩, fun t => ⟨.inl, fun ht => ?_⟩⟩
    rcases ht with ht | ⟨hle, ht⟩
    · exact ht
    · rw [hts, Except.ok.injEq] at ht
      subst ht
      exact (hc.seen ts).mp (hskip.resolve_right (not_lt.mpr hle))
  · rw [if_neg hskip] at h
    obtain ⟨bar, -, h⟩ := ok_of_bind h
    cases Except.ok.inj h
    rw [not_or, not_lt] at hskip
    have hmem : ∀ t, t ∈ (c.out ++ [({ timestamp := ts, bar := bar } : HistoricalCandle F)]).map
        (·.timestamp) ↔ t ∈ c.out.map (·.timestamp) ∨ t = ts := by
      intro t
      rw [List.map_append, List.mem_append, List.map_singleton, List.mem_singleton]
    have hnew : ts ∉ c.out.map (·.timestamp) := fun hold => hskip.1 ((hc.seen ts).mpr hold)
    refine ⟨⟨fun t => ?_, ?_, fun t ht => ?_⟩, fun t => ?_⟩
    · rw [hmem, List.mem_cons, hc.seen, or_comm]
    · rw [List.map_append]
      refine List.nodup_append.mpr ⟨hc.nodup, List.nodup_singleton _, fun a ha b hb hab => ?_⟩
      have hb' : b = ts := List.mem_singleton.mp hb
      exact hnew (hb' ▸ hab ▸ ha)
    · rcases (hmem t).mp ht with hold | rfl
      · exact hc.inRange t hold
      · exact hskip.2
    · rw [hmem, hts, Except.ok.injEq]
      refine or_congr_right ⟨?_, fun ht => ht.2.symm⟩
      rintro rfl
      exact ⟨hskip.2, rfl⟩

theorem rows_collect {rows : List (RawRow F)} (hc : c.Sound fetchEndMs)
    (h : rows.foldlM (readRow fetchEndMs) c = .ok c') :
    c'.Sound fetchEndMs ∧ ∀ ts, ts ∈ c'.out.map (·.timestamp) ↔
      ts ∈ c.out.map (·.timestamp) ∨ Received fetchEndMs rows ts := by
  induction rows generalizing c with
  | nil =>
    cases Except.ok.inj h
    refine ⟨hc, fun ts => ⟨.inl, fun ht => ht.resolve_right ?_⟩⟩
    rintro ⟨-, r, hr, -⟩
    exact List.not_mem_nil hr
  | cons r rest ih =>
    rw [List.foldlM_cons] at h
    obtain ⟨d, hd, h⟩ := ok_of_bind h
    obtain ⟨hsound, hrow⟩ := readRow_collects hc hd
    obtain ⟨hsound', hrest⟩ := ih hsound h
    refine ⟨hsound', fun ts => ?_⟩
    rw [hrest, hrow, or_assoc]
    refine or_congr_right ⟨?_, ?_⟩
    · rintro (⟨hle, hr⟩ | ⟨hle, r', hr', hts⟩)
      · exact ⟨hle, r, List.mem_cons_self .., hr⟩
      · exact ⟨hle, r', List.mem_cons_of_mem _ hr', hts⟩
    · rintro ⟨hle, r', hr', hts⟩
      rcases List.mem_cons.mp hr' with rfl | hr'
      · exact .inl ⟨hle, hts⟩
      · exact .inr ⟨hle, r', hr', hts⟩

theorem readPage_collects {rows : List (RawRow F)} (hc : c.Sound fetchEndMs)
    (h : readPage fetchEndMs c rows = .ok c') :
    c'.Sound fetchEndMs ∧ ∀ ts, ts ∈ c'.out.map (·.timestamp) ↔
      ts ∈ c.out.map (·.timestamp) ∨ Received fetchEndMs rows ts :=
  rows_collect (c := { c with pageNew := 0, lastTs := none }) ⟨hc.seen, hc.nodup, hc.inRange⟩ h

/-- A timestamp some page holds, up to the end of the range. -/
def ReceivedIn (fetchEndMs : ℤ) (pages : List (List (RawRow F))) (ts : ℤ) : Prop :=
  ∃ rows ∈ pages, Received fetchEndMs rows ts

/-- What one more page adds. -/
theorem receivedIn_cons {rows : List (RawRow F)} {pages : List (List (RawRow F))} {ts : ℤ} :
    ReceivedIn fetchEndMs (rows :: pages) ts ↔
      Received fetchEndMs rows ts ∨ ReceivedIn fetchEndMs pages ts := by
  unfold ReceivedIn
  simp only [List.mem_cons, exists_eq_or_imp]

theorem receivedIn_nil {ts : ℤ} : ¬ ReceivedIn (F := F) fetchEndMs [] ts := by
  rintro ⟨rows, hrows, -⟩
  exact List.not_mem_nil hrows

/-- What is collected where the loop ends with a page. -/
theorem lastPage_collects {rows : List (RawRow F)} (hc : c.Sound fetchEndMs)
    (h : readPage fetchEndMs c rows = .ok c') (ts : ℤ) :
    ts ∈ c'.out.map (·.timestamp) ↔
      ts ∈ c.out.map (·.timestamp) ∨ ReceivedIn fetchEndMs [rows] ts := by
  rw [(readPage_collects hc h).2 ts, receivedIn_cons, or_iff_left receivedIn_nil]

/-- **The loop collects every timestamp it receives up to the end of the range, each once.** -/
theorem paginate_collects {fetch : Fetcher F} {q : Query} {left n : ℕ} {cursor : ℤ}
    {out : List (HistoricalCandle F)} (hc : c.Sound q.fetchEndMs)
    (h : (paginate fetch q left n cursor c).2 = .ok out) :
    (out.map (·.timestamp)).Nodup ∧ (∀ ts ∈ out.map (·.timestamp), ts ≤ q.fetchEndMs) ∧
      ∀ ts, ts ∈ out.map (·.timestamp) ↔ ts ∈ c.out.map (·.timestamp) ∨
        ReceivedIn q.fetchEndMs (paginate fetch q left n cursor c).1 ts := by
  induction left generalizing n cursor c with
  | zero => cases h
  | succ left ih =>
    generalize hrun : paginate fetch q (left + 1) n cursor c = run at h ⊢
    unfold paginate at hrun
    split at hrun
    · subst hrun
      cases Except.ok.inj h
      exact ⟨hc.nodup, hc.inRange, fun ts => (or_iff_left receivedIn_nil).symm⟩
    split at hrun
    · subst hrun
      cases h
    split at hrun
    · rename_i hempty
      subst hrun
      cases Except.ok.inj h
      refine ⟨hc.nodup, hc.inRange, fun ts => (or_iff_left ?_).symm⟩
      rw [receivedIn_cons, or_iff_left receivedIn_nil, List.isEmpty_iff.mp hempty]
      rintro ⟨-, r, hr, -⟩
      exact List.not_mem_nil hr
    split at hrun
    · subst hrun
      cases h
    rename_i rows _ _ _ page hpage
    obtain ⟨hsound, hpageTs⟩ := readPage_collects hc hpage
    split at hrun
    · subst hrun
      cases Except.ok.inj h
      exact ⟨hsound.nodup, hsound.inRange, lastPage_collects hc hpage⟩
    split at hrun
    · subst hrun
      cases Except.ok.inj h
      exact ⟨hsound.nodup, hsound.inRange, lastPage_collects hc hpage⟩
    split at hrun
    · subst hrun
      cases h
    · subst hrun
      obtain ⟨hnodup, hrange, hmem⟩ := ih hsound h
      refine ⟨hnodup, hrange, fun ts => ?_⟩
      rw [hmem, hpageTs, receivedIn_cons, or_assoc]

/-- What holds of the candle of every row that the fetcher returns holds of every candle that is
    collected. -/
theorem paginate_all {P : HistoricalCandle F → Prop} {fetch : Fetcher F} {q : Query}
    {left n : ℕ} {cursor : ℤ} {out : List (HistoricalCandle F)}
    (hrows : ∀ k request rows, fetch k request = .ok rows → ∀ r ∈ rows, ∀ ts bar,
      r.timestamp = .ok ts → r.bar = .ok bar → P { timestamp := ts, bar := bar })
    (hc : ∀ x ∈ c.out, P x) (h : (paginate fetch q left n cursor c).2 = .ok out) :
    ∀ x ∈ out, P x := by
  have hrow : ∀ {d d' : Collected F} {r : RawRow F}, (∀ ts bar, r.timestamp = .ok ts →
      r.bar = .ok bar → P { timestamp := ts, bar := bar }) → (∀ x ∈ d.out, P x) →
      readRow q.fetchEndMs d r = .ok d' → ∀ x ∈ d'.out, P x := by
    intro d d' r hr hd h
    unfold readRow at h
    obtain ⟨ts, hts, h⟩ := ok_of_bind h
    split at h
    · cases Except.ok.inj h
      exact hd
    · obtain ⟨bar, hbar, h⟩ := ok_of_bind h
      cases Except.ok.inj h
      exact List.forall_mem_append.mpr ⟨hd, List.forall_mem_singleton.mpr (hr ts bar hts hbar)⟩
  have hpage : ∀ {d d' : Collected F} {rows : List (RawRow F)}, (∀ r ∈ rows, ∀ ts bar,
      r.timestamp = .ok ts → r.bar = .ok bar → P { timestamp := ts, bar := bar }) →
      (∀ x ∈ d.out, P x) → rows.foldlM (readRow q.fetchEndMs) d = .ok d' → ∀ x ∈ d'.out, P x := by
    intro d d' rows hr hd h
    induction rows generalizing d with
    | nil =>
      cases Except.ok.inj h
      exact hd
    | cons r rest ih =>
      rw [List.foldlM_cons] at h
      obtain ⟨e, he, h⟩ := ok_of_bind h
      obtain ⟨hhead, htail⟩ := List.forall_mem_cons.mp hr
      exact ih htail (hrow hhead hd he) h
  induction left generalizing n cursor c with
  | zero => cases h
  | succ left ih =>
    unfold paginate at h
    split at h
    · cases Except.ok.inj h
      exact hc
    split at h
    · cases h
    rename_i rows hfetched
    split at h
    · cases Except.ok.inj h
      exact hc
    split at h
    · cases h
    rename_i page hread
    have hout := hpage (d := { c with pageNew := 0, lastTs := none })
      (hrows n _ rows hfetched) hc hread
    split at h
    · cases Except.ok.inj h
      exact hout
    split at h
    · cases Except.ok.inj h
      exact hout
    split at h
    · cases h
    · exact ih hout h

/-! ## 5. Coverage -/

theorem le_ceilToStep {step : ℤ} (hstep : 0 < step) (value : ℤ) :
    value ≤ ceilToStep value step := by
  unfold ceilToStep
  have hmod := Int.emod_add_mul_ediv (value + step - 1) step
  have hlt := Int.emod_lt_of_pos (value + step - 1) hstep
  rw [Int.mul_comm]
  omega

theorem floorToStep_le {step : ℤ} (hstep : 0 < step) (value : ℤ) :
    floorToStep value step ≤ value ∧ value < floorToStep value step + step := by
  unfold floorToStep
  have hmod := Int.emod_add_mul_ediv value step
  have hnonneg := Int.emod_nonneg value hstep.ne'
  have hlt := Int.emod_lt_of_pos value hstep
  rw [Int.mul_comm (value / step)]
  omega

/-- The grid timestamps of the requested range. -/
def Query.grid (q : Query) : List ℤ :=
  (List.range q.expectedCandleCount.toNat).map fun k : ℕ => q.firstExpected + (k : ℤ) * q.step

/-- Neighbours are one step apart. -/
def Spaced (step : ℤ) (ts : List ℤ) : Prop := ts.IsChain fun a b => b - a = step

theorem firstGap_eq_none {step : ℤ} {candles : List (HistoricalCandle F)} :
    firstGap step candles = none ↔ Spaced step (candles.map (·.timestamp)) := by
  unfold Spaced
  induction candles with
  | nil => exact iff_of_true rfl .nil
  | cons a rest ih =>
    cases rest with
    | nil => exact iff_of_true rfl (.singleton _)
    | cons b rest =>
      unfold firstGap
      rw [List.map_cons, List.map_cons, List.isChain_cons_cons, ← List.map_cons, ← ih]
      by_cases hgap : b.timestamp - a.timestamp = step
      · rw [if_neg (not_not.mpr hgap)]
        exact (and_iff_right hgap).symm
      · rw [if_pos hgap]
        exact iff_of_false (Option.some_ne_none _) fun h => hgap h.1

/-- **A list with one gap length is an arithmetic progression.** -/
theorem spaced_eq {step first : ℤ} {ts : List ℤ} (h : Spaced step ts)
    (hfirst : ts.head? = some first) :
    ts = (List.range ts.length).map fun k : ℕ => first + (k : ℤ) * step := by
  unfold Spaced at h
  induction ts generalizing first with
  | nil => rfl
  | cons a rest ih =>
    obtain rfl : a = first := Option.some.inj hfirst
    rw [List.length_cons, List.range_succ_eq_map, List.map_cons, List.map_map]
    cases rest with
    | nil => simp
    | cons b rest =>
      rw [List.isChain_cons_cons] at h
      have htail := ih h.2 rfl
      have hb : b = a + step := by
        have := h.1
        omega
      have hshift : ((fun k : ℕ => a + (k : ℤ) * step) ∘ Nat.succ) =
        fun k : ℕ => b + (k : ℤ) * step := by
        funext k
        rw [hb, Function.comp_apply, Nat.succ_eq_add_one, Nat.cast_add, Nat.cast_one]
        ring
      rw [hshift, ← htail, Nat.cast_zero, zero_mul, add_zero]

/-- What the coverage check has seen of the candles. -/
structure Covered (q : Query) (ts : List ℤ) : Prop where
  expected : 0 < q.expectedCandleCount
  starts : ∃ first, ts.head? = some first ∧ first ≤ q.firstExpected
  ends : ∃ last, ts.getLast? = some last ∧ q.lastExpected ≤ last
  spaced : Spaced q.step ts
  enough : q.expectedCandleCount ≤ ts.length

theorem validateCoverage_ok {now : ℤ} {q : Query} {candles : List (HistoricalCandle F)}
    (h : validateCoverage now q candles = .ok ()) : Covered q (candles.map (·.timestamp)) := by
  unfold validateCoverage at h
  dsimp only at h
  split at h
  · cases h
  rename_i hexpected
  split at h
  · rename_i first last hfirst hlast
    split at h
    · cases h
    rename_i hstarts
    split at h
    · cases h
    rename_i hends
    split at h
    · cases h
    rename_i hgap
    split at h
    · cases h
    rename_i henough
    refine ⟨not_le.mp hexpected, ⟨first.timestamp, ?_, not_lt.mp hstarts⟩,
      ⟨last.timestamp, ?_, not_lt.mp hends⟩, firstGap_eq_none.mp hgap, ?_⟩
    · rw [List.head?_map, hfirst]
      rfl
    · rw [List.getLast?_map, hlast]
      rfl
    · rw [List.length_map]
      exact not_lt.mp henough
  · cases h

/-- Covered candles pass the check. -/
theorem validateCoverage_of_covered {now : ℤ} {q : Query} {candles : List (HistoricalCandle F)}
    (h : Covered q (candles.map (·.timestamp))) : validateCoverage now q candles = .ok () := by
  obtain ⟨first, hfirst, hstarts⟩ := h.starts
  obtain ⟨last, hlast, hends⟩ := h.ends
  rw [List.head?_map, Option.map_eq_some_iff] at hfirst
  rw [List.getLast?_map, Option.map_eq_some_iff] at hlast
  obtain ⟨firstCandle, hfirst, rfl⟩ := hfirst
  obtain ⟨lastCandle, hlast, rfl⟩ := hlast
  have henough := h.enough
  rw [List.length_map] at henough
  unfold validateCoverage
  dsimp only
  rw [if_neg (not_le.mpr h.expected), hfirst, hlast]
  dsimp only
  rw [if_neg (not_lt.mpr hstarts), if_neg (not_lt.mpr hends), firstGap_eq_none.mpr h.spaced]
  exact if_neg (not_lt.mpr henough)

/-- The last expected timestamp, counted from the first one, and the end of the range. -/
theorem lastExpected_eq {q : Query} (hstep : 0 < q.step) (h : 0 < q.expectedCandleCount) :
    q.lastExpected = q.firstExpected + (q.expectedCandleCount - 1) * q.step ∧
      q.lastExpected ≤ q.fetchEndMs ∧ q.fetchEndMs < q.lastExpected + q.step := by
  constructor
  · unfold Query.expectedCandleCount at h ⊢
    split at h
    · omega
    rename_i hrange
    rw [if_neg hrange, Int.add_sub_cancel]
    have hdvd : q.step ∣ q.lastExpected - q.firstExpected := by
      refine Int.dvd_sub ?_ (Dvd.intro_left _ rfl)
      unfold Query.lastExpected
      refine Int.dvd_sub (Dvd.intro_left _ rfl) ?_
      split
      · exact Int.dvd_refl _
      · exact Int.dvd_zero _
    rw [Int.ediv_mul_cancel hdvd]
    omega
  · have hfloor := floorToStep_le hstep q.endMs
    unfold Query.lastExpected Query.fetchEndMs
    cases q.closedOnly with
    | true =>
      rw [if_pos rfl, if_pos rfl]
      omega
    | false =>
      rw [if_neg Bool.false_ne_true, if_neg Bool.false_ne_true]
      omega

theorem mem_grid {q : Query} (hstep : 0 < q.step) {t : ℤ} (h : t ∈ q.grid) :
    q.firstExpected ≤ t := by
  obtain ⟨k, -, rfl⟩ := List.mem_map.mp h
  have hnonneg : 0 ≤ (k : ℤ) * q.step := Int.mul_nonneg (Int.natCast_nonneg k) hstep.le
  omega

theorem spaced_grid (q : Query) : Spaced q.step q.grid := by
  unfold Spaced Query.grid
  refine (List.isChain_map _).mpr ((List.isChain_range _ _).mpr fun k _ => ?_)
  show q.firstExpected + ((k + 1 : ℕ) : ℤ) * q.step - (q.firstExpected + (k : ℤ) * q.step) = q.step
  push_cast
  ring

/-- Timestamps one step apart ascend. -/
theorem spaced_ascending {step : ℤ} (hstep : 0 < step) {ts : List ℤ} (h : Spaced step ts) :
    ts.Pairwise (· < ·) := by
  have hchain : ts.IsChain (· < ·) := List.IsChain.imp (fun a b hab => by omega) h
  exact List.isChain_iff_pairwise.mp hchain

/-- Timestamps one step apart are all those of their range. -/
theorem mem_spaced {step first last : ℤ} (hstep : 0 < step) {ts : List ℤ} (h : Spaced step ts)
    (hfirst : ts.head? = some first) (hlast : ts.getLast? = some last) {t : ℤ}
    (hdvd : step ∣ t - first) (hlow : first ≤ t) (hhigh : t ≤ last) : t ∈ ts := by
  have hts := spaced_eq h hfirst
  obtain ⟨k, hk⟩ := hdvd
  have hlastValue : last = first + ((ts.length - 1 : ℕ) : ℤ) * step := by
    rw [hts, List.getLast?_map, List.getLast?_range] at hlast
    split at hlast
    · cases hlast
    · exact (Option.some.inj hlast).symm
  have hnonneg : 0 ≤ k := by
    by_contra hneg
    have hlt : step * k < 0 := Int.mul_neg_of_pos_of_neg hstep (not_le.mp hneg)
    omega
  have hbound : k ≤ ((ts.length - 1 : ℕ) : ℤ) := by
    refine le_of_mul_le_mul_left ?_ hstep
    rw [mul_comm step ((ts.length - 1 : ℕ) : ℤ)]
    omega
  have hne : 0 < ts.length := List.length_pos_of_mem (List.mem_of_mem_head? hfirst)
  rw [hts]
  refine List.mem_map.mpr ⟨k.toNat, List.mem_range.mpr (by omega), ?_⟩
  rw [Int.toNat_of_nonneg hnonneg, mul_comm]
  omega

/-- **Covered timestamps that start on the grid are the grid.** -/
theorem covered_eq_grid {q : Query} {ts : List ℤ} (hstep : 0 < q.step) (h : Covered q ts)
    (hlow : ∀ t ∈ ts, q.firstExpected ≤ t) (hhigh : ∀ t ∈ ts, t ≤ q.fetchEndMs) : ts = q.grid := by
  obtain ⟨first, hfirst, hle⟩ := h.starts
  obtain ⟨last, hlast, -⟩ := h.ends
  obtain ⟨hlastExpected, -, hend⟩ := lastExpected_eq hstep h.expected
  have heq : first = q.firstExpected :=
    le_antisymm hle (hlow first (List.mem_of_mem_head? hfirst))
  have hts := spaced_eq h.spaced hfirst
  have henough := h.enough
  have hexpected := h.expected
  generalize ts.length = n at hts henough
  rw [heq] at hts
  have hvalue : q.firstExpected + ((n - 1 : ℕ) : ℤ) * q.step ∈ ts := by
    rw [hts]
    exact List.mem_map.mpr ⟨n - 1, List.mem_range.mpr (by omega), rfl⟩
  -- one more candle would lie beyond the end of the range
  have hlt : ((n - 1 : ℕ) : ℤ) * q.step < q.expectedCandleCount * q.step := by
    have hle := hhigh _ hvalue
    have hsplit : (q.expectedCandleCount - 1) * q.step + q.step =
        q.expectedCandleCount * q.step := by ring
    omega
  have hcount : ((n - 1 : ℕ) : ℤ) < q.expectedCandleCount :=
    Int.lt_of_mul_lt_mul_right hlt hstep.le
  have hlength : n = q.expectedCandleCount.toNat := by omega
  unfold Query.grid
  rw [← hlength]
  exact hts

/-! ## 6. The result -/

theorem step_pos {u : Unicode} {args : KlineArgs} {q : Query} (h : args.query u = .ok q) :
    0 < q.step := by
  unfold KlineArgs.query KlineArgs.queryFrom at h
  obtain ⟨symbol, -, h⟩ := ok_of_bind h
  obtain ⟨step, hstep, h⟩ := ok_of_bind h
  cases Except.ok.inj h
  unfold intervalMs at hstep
  have hall : ∀ e ∈ supportedIntervalMs, 0 < e.2 := by decide
  cases hlookup : supportedIntervalMs.lookup args.interval with
  | none =>
    rw [hlookup] at hstep
    cases hstep
  | some s =>
    rw [hlookup] at hstep
    cases Except.ok.inj hstep
    obtain ⟨l, r, heq, -⟩ := List.lookup_eq_some_iff.mp hlookup
    exact hall (args.interval, step) (heq ▸ List.mem_append_right _ (List.mem_cons_self ..))

/-- What the result of a call is to be: the grid timestamps of the range, one step apart, each
    once. -/
structure Exact (q : Query) (candles : List (HistoricalCandle F)) : Prop where
  spaced : Spaced q.step (candles.map (·.timestamp))
  nodup : (candles.map (·.timestamp)).Nodup
  grid : candles.map (·.timestamp) = q.grid

variable (u : Unicode) (now : ℤ) (fetch : Fetcher F) (args : KlineArgs)

/-- What is asked of a call: it ends after 10 000 pages at most, and where it returns, the result is
    exact. -/
structure Faithful : Prop where
  ends : (fetchBinanceKlinesPaginated u now fetch args).1.length ≤ 10000
  exact : ∀ q candles, args.query u = .ok q →
    (fetchBinanceKlinesPaginated u now fetch args).2 = .ok candles → Exact q candles

/-- No page of a call that returns holds a row before the first grid timestamp of the range. -/
def NoEarlyRow : Prop :=
  ∀ q candles, args.query u = .ok q →
    (fetchBinanceKlinesPaginated u now fetch args).2 = .ok candles →
    ∀ rows ∈ (fetchBinanceKlinesPaginated u now fetch args).1, ∀ r ∈ rows, ∀ ts,
      r.timestamp = .ok ts → q.firstExpected ≤ ts

theorem pages_bounded : (fetchBinanceKlinesPaginated u now fetch args).1.length ≤ 10000 := by
  unfold fetchBinanceKlinesPaginated
  cases args.query u with
  | error e => exact Nat.zero_le _
  | ok q => exact paginate_length fetch q 10000 0 q.startMs _

/-- What a call returns has passed the coverage check, and holds what the pages hold up to the end
    of the range. -/
theorem fetchKlines_ok {q : Query} {candles : List (HistoricalCandle F)}
    (h : (fetchKlines now fetch q).2 = .ok candles) :
    Covered q (candles.map (·.timestamp)) ∧ (candles.map (·.timestamp)).Nodup ∧
      (∀ ts ∈ candles.map (·.timestamp), ts ≤ q.fetchEndMs) ∧
      ∀ ts, ts ∈ candles.map (·.timestamp) ↔
        ReceivedIn q.fetchEndMs (fetchKlines now fetch q).1 ts := by
  unfold fetchKlines at h ⊢
  obtain ⟨out, hout, h⟩ := ok_of_bind h
  obtain ⟨_, hcovered, h⟩ := ok_of_bind h
  cases Except.ok.inj h
  have hstart : (⟨[], [], 0, none⟩ : Collected F).Sound q.fetchEndMs :=
    ⟨fun _ => Iff.rfl, List.nodup_nil, fun _ ht => absurd ht List.not_mem_nil⟩
  obtain ⟨hnodup, hrange, hmem⟩ := paginate_collects hstart hout
  have hperm : ((sortOn (·.timestamp) out).map (·.timestamp)).Perm (out.map (·.timestamp)) :=
    (perm_of_sortOn out).map _
  refine ⟨validateCoverage_ok hcovered, hperm.nodup_iff.mpr hnodup, fun ts hts => ?_, fun ts => ?_⟩
  · exact hrange ts (hperm.mem_iff.mp hts)
  · rw [hperm.mem_iff, hmem]
    exact or_iff_right List.not_mem_nil

theorem fetchBinanceKlinesPaginated_eq {q : Query} (h : args.query u = .ok q) :
    fetchBinanceKlinesPaginated u now fetch args = fetchKlines now fetch q := by
  unfold fetchBinanceKlinesPaginated
  rw [h]

/-- What holds of the candle of every row that the fetcher returns holds of every candle of the
    result. -/
theorem fetchKlines_all {P : HistoricalCandle F → Prop} {q : Query}
    {candles : List (HistoricalCandle F)}
    (hrows : ∀ k request rows, fetch k request = .ok rows → ∀ r ∈ rows, ∀ ts bar,
      r.timestamp = .ok ts → r.bar = .ok bar → P { timestamp := ts, bar := bar })
    (h : (fetchKlines now fetch q).2 = .ok candles) : ∀ x ∈ candles, P x := by
  unfold fetchKlines at h
  obtain ⟨out, hout, h⟩ := ok_of_bind h
  obtain ⟨_, -, h⟩ := ok_of_bind h
  cases Except.ok.inj h
  intro x hx
  exact paginate_all hrows (List.forall_mem_nil P) hout x (mem_sortOn.mp hx)

/-- **Where the result is exact**: where no page holds a row before the first grid timestamp. -/
theorem klines_exact_iff : Faithful u now fetch args ↔ NoEarlyRow u now fetch args := by
  have hquery := fun q hq => fetchBinanceKlinesPaginated_eq u now fetch args (q := q) hq
  constructor
  · intro hfaithful q candles hq hok rows hrows r hr ts hts
    have hexact := hfaithful.exact q candles hq hok
    rw [hquery q hq] at hok hrows
    obtain ⟨hcovered, -, -, hmem⟩ := fetchKlines_ok now fetch hok
    have hstep := step_pos hq
    obtain ⟨hlast, hend, -⟩ := lastExpected_eq hstep hcovered.expected
    by_contra hearly
    have hnonneg : 0 ≤ (q.expectedCandleCount - 1) * q.step :=
      Int.mul_nonneg (by have := hcovered.expected; omega) hstep.le
    have hin : ts ∈ candles.map (·.timestamp) :=
      (hmem ts).mpr ⟨rows, hrows, by omega, r, hr, hts⟩
    rw [hexact.grid] at hin
    exact hearly (mem_grid hstep hin)
  · intro hearly
    refine ⟨pages_bounded u now fetch args, fun q candles hq hok => ?_⟩
    have hrows := hearly q candles hq hok
    rw [hquery q hq] at hok hrows
    obtain ⟨hcovered, hnodup, hrange, hmem⟩ := fetchKlines_ok now fetch hok
    refine ⟨hcovered.spaced, hnodup, covered_eq_grid (step_pos hq) hcovered ?_ hrange⟩
    intro t ht
    obtain ⟨rows, hin, -, r, hr, hts⟩ := (hmem t).mp ht
    exact hrows rows hin r hr t hts

theorem ok_of_toOption {ε α : Type} {x : Except ε α} {a : α} (h : x.toOption = some a) :
    x = .ok a := by
  cases x with
  | error _ => cases h
  | ok _ => exact congrArg Except.ok (Option.some.inj h)

/-- A row with the same five numbers. -/
def flatRow (ts : ℤ) : RawRow ℕ := ⟨.ok ts, .ok ⟨1, 1, 1, 1, 1⟩⟩

/-- The tables of ASCII. -/
def asciiTables : Unicode where
  isDigit c := '0' ≤ c && c ≤ '9'
  lower s := s.toLower
  upper s := s.toUpper

/-- **One row before the start is returned with the others**: of the range from one minute to two
    minutes, three candles. -/
theorem early_row :
    let fetch : Fetcher ℕ := fun _ _ => .ok [flatRow 0, flatRow 60000, flatRow 120000]
    let args : KlineArgs :=
      { symbol := "BTCUSDT", interval := "1m", startMs := 60000, endMs := 120000 }
    ((fetchBinanceKlinesPaginated asciiTables 0 fetch args).2.toOption.map
        fun candles => candles.map (·.timestamp)) = some [0, 60000, 120000] ∧
      ((args.query asciiTables).toOption.map Query.grid) = some [60000, 120000] ∧
      ¬ Faithful asciiTables 0 fetch args := by
  intro fetch args
  have hresult : ((fetchBinanceKlinesPaginated asciiTables 0 fetch args).2.toOption.map
      fun candles => candles.map (·.timestamp)) = some [0, 60000, 120000] := by decide +kernel
  have hgrid : ((args.query asciiTables).toOption.map Query.grid) = some [60000, 120000] := by
    decide +kernel
  refine ⟨hresult, hgrid, fun hfaithful => ?_⟩
  obtain ⟨candles, hcandles, htimes⟩ := Option.map_eq_some_iff.mp hresult
  obtain ⟨q, hq, hgrid⟩ := Option.map_eq_some_iff.mp hgrid
  have hexact := (hfaithful.exact q candles (ok_of_toOption hq) (ok_of_toOption hcandles)).grid
  rw [htimes, hgrid] at hexact
  exact absurd hexact (by decide)

end AlphaForge.History
