/-
  File:      AlphaForge/Candles/Window.lean
  Subject:   The candle window both resolvers read (`burnin_resolver.py`): what counts as a candle
             of the window, its canonical order, the hit test and the completeness check.

  * `readCandle` -- one raw candle against the window: skipped, malformed, or a `Bar`.
  * `normalizeCandleWindow` -- the bars of the window in time order, one for each instant, and the
    fields that make the evidence incomplete. A `sorted(set(...))` of texts is the finite set.
  * `mem_points`, `candle_mem_errors` -- what bars and which defects it answers with.
  * Prices are exact; a market gap is the pair of datetimes that `isoformat` writes.
-/
import AlphaForge.Lib.PyValues
import AlphaForge.Lib.Timeline
import Mathlib.Data.Finset.Image

namespace AlphaForge.Candles

open AlphaForge.Lib

/-! ## 1. Raw candles -/

/-- `_side(side)` of a column that is never NULL. -/
def sideOf (side : String) : String := upper (if side = "" then "LONG" else side)

/-- `_hit`: whether the stop and whether the target was touched. -/
def hit (side : String) (high low stop target : ℚ) : Bool × Bool :=
  if sideOf side = "SHORT" then (decide (stop ≤ high), decide (low ≤ target))
  else (decide (low ≤ stop), decide (target ≤ high))

/-- What is read of a candle that is a mapping; a time value is `none` where it is falsy. -/
structure CandleFields where
  isClosed : Scalar
  closed : Scalar
  timestamp : Option TimeText
  openTime : Option TimeText
  time : Option TimeText
  high : Scalar
  low : Scalar
  deriving DecidableEq, Repr

inductive RawCandle where
  | notMapping
  | mapping (fields : CandleFields)
  deriving DecidableEq, Repr

/-- `candle.get("timestamp") or candle.get("open_time") or candle.get("time")`. -/
def CandleFields.rawTs (c : CandleFields) : Option TimeText :=
  c.timestamp.or (c.openTime.or c.time)

/-- Why a candle cannot be read. -/
inductive CandleDefect where
  | notMapping
  | malformedTimestamp
  | malformedOhlc
  deriving DecidableEq, Repr

/-- The entries of `missing_fields`. -/
inductive MissingField where
  | entry | stop | target
  | entryNonPositive | zeroRisk | directionallyInvalidGeometry | side
  | windowBoundsNonPositive | windowBoundsMalformed
  | candle (index : ℕ) (defect : CandleDefect)
  | duplicateConflict (ts : Dt)
  deriving DecidableEq, Repr

/-- The window `(decision_timestamp, due_at]`. -/
structure Window where
  start : Dt
  stop : Dt
  sameAwareness : start.aware = stop.aware
  positive : start.micros < stop.micros

/-- The bounds, as `_normalize_candle_window` reads them. -/
def readWindow (decisionTimestamp dueAt : TimeText) : Except MissingField Window :=
  match decisionTimestamp.reading, dueAt.reading with
  | some start, some stop =>
    if hsame : start.aware = stop.aware then
      if hpos : start.micros < stop.micros then .ok ⟨start, stop, hsame, hpos⟩
      else .error .windowBoundsNonPositive
    else .error .windowBoundsMalformed
  | _, _ => .error .windowBoundsMalformed

/-- A closed candle of the window with finite prices. -/
structure Bar where
  ts : Dt
  high : ℚ
  low : ℚ
  lowLeHigh : low ≤ high
  deriving DecidableEq

/-- The instant of a bar. -/
def Bar.time (b : Bar) : ℤ := b.ts.micros

/-- A bar less the offset its time is written with. -/
def Bar.point (b : Bar) : ℤ × ℚ × ℚ := (b.time, b.high, b.low)

/-- What the window makes of one candle. -/
inductive Reading where
  | skipped
  | malformed (defect : CandleDefect)
  | bar (b : Bar)
  deriving DecidableEq

/-- The prices of a candle whose time lies in the window. -/
def readOhlc (ts : Dt) (high low : Scalar) : Reading :=
  match high.number?, low.number? with
  | some high, some low =>
    if h : low ≤ high then .bar ⟨ts, high, low, h⟩ else .malformed .malformedOhlc
  | _, _ => .malformed .malformedOhlc

/-- One pass of the loop of `_normalize_candle_window`, before it looks at the other candles. -/
def readCandle (w : Window) : RawCandle → Reading
  | .notMapping => .malformed .notMapping
  | .mapping c =>
    if c.isClosed = .bool false ∨ c.closed = .bool false then .skipped
    else
      match c.rawTs.bind TimeText.reading with
      | none => .malformed .malformedTimestamp
      | some ts =>
        -- naive and aware times do not compare
        if ts.aware ≠ w.start.aware then .malformed .malformedTimestamp
        else if w.start.micros < ts.micros ∧ ts.micros ≤ w.stop.micros then
          readOhlc ts c.high c.low
        else .skipped

/-- A candle that the window passes over: not closed, or at a time outside `(t0, due]`. -/
def Outside (w : Window) : RawCandle → Prop
  | .notMapping => False
  | .mapping c =>
    (c.isClosed = .bool false ∨ c.closed = .bool false) ∨
      ∃ ts, c.rawTs.bind TimeText.reading = some ts ∧ ts.aware = w.start.aware ∧
        ¬(w.start.micros < ts.micros ∧ ts.micros ≤ w.stop.micros)

theorem readCandle_of_outside {w : Window} {c : RawCandle} (h : Outside w c) :
    readCandle w c = .skipped := by
  cases c with
  | notMapping => exact h.elim
  | mapping c =>
    unfold readCandle
    simp only
    rcases h with h | ⟨ts, hts, haware, hout⟩
    · rw [if_pos h]
    · by_cases hopen : c.isClosed = .bool false ∨ c.closed = .bool false
      · rw [if_pos hopen]
      · rw [if_neg hopen, hts]
        simp only
        rw [if_neg (not_not.mpr haware), if_neg hout]

/-- What a bar was read from. -/
theorem readOhlc_bar {ts : Dt} {high low : Scalar} {b : Bar} (h : readOhlc ts high low = .bar b) :
    b.ts = ts := by
  unfold readOhlc at h
  split at h
  · split at h
    · cases h
      rfl
    · cases h
  · cases h

/-- A bar compares with the window and lies in `(t0, due]`. -/
theorem time_of_bar {w : Window} {c : RawCandle} {b : Bar} (h : readCandle w c = .bar b) :
    b.ts.aware = w.start.aware ∧ w.start.micros < b.time ∧ b.time ≤ w.stop.micros := by
  unfold readCandle at h
  cases c with
  | notMapping => cases h
  | mapping c =>
    simp only at h
    split at h
    · cases h
    · split at h
      · cases h
      · split at h
        · cases h
        · rename_i haware
          split at h
          · rename_i hin
            unfold Bar.time
            rw [readOhlc_bar h]
            exact ⟨not_not.mp haware, hin⟩
          · cases h

/-- The bounds of a window are the texts' readings. -/
theorem start_of_window {decisionTimestamp dueAt : TimeText} {w : Window}
    (h : readWindow decisionTimestamp dueAt = .ok w) :
    decisionTimestamp.reading = some w.start := by
  unfold readWindow at h
  split at h
  · rename_i hs _
    split at h
    · split at h
      · cases h
        exact hs
      · cases h
    · cases h
  · cases h

/-- The bar of a candle, where it has one. -/
def barOf (w : Window) (c : RawCandle) : Option Bar :=
  match readCandle w c with
  | .bar b => some b
  | _ => none

theorem barOf_eq_some {w : Window} {c : RawCandle} {b : Bar} :
    barOf w c = some b ↔ readCandle w c = .bar b := by
  unfold barOf
  cases readCandle w c <;> simp

/-- The bars of a candle list, in its order. -/
def bars (w : Window) (candles : List RawCandle) : List Bar := candles.filterMap (barOf w)

theorem mem_bars {w : Window} {candles : List RawCandle} {b : Bar} :
    b ∈ bars w candles ↔ ∃ c ∈ candles, readCandle w c = .bar b := by
  unfold bars
  rw [List.mem_filterMap]
  simp only [barOf_eq_some]

/-! ## 2. The canonical window -/

/-- `unique` in insertion order and `input_errors`. -/
structure Scan where
  unique : List Bar
  errors : List MissingField

/-- One pass of the loop: the first candle of an instant is kept, a later one must agree. -/
def scanCandle (w : Window) (s : Scan) (entry : RawCandle × ℕ) : Scan :=
  match readCandle w entry.1 with
  | .skipped => s
  | .malformed defect => { s with errors := s.errors ++ [.candle entry.2 defect] }
  | .bar b =>
    match s.unique.find? fun e => e.time == b.time with
    | some existing =>
      if existing.high ≠ b.high ∨ existing.low ≠ b.low then
        { s with errors := s.errors ++ [.duplicateConflict b.ts] }
      else s
    | none => { s with unique := s.unique ++ [b] }

/-- The loop of `_normalize_candle_window`. -/
def scanCandles (w : Window) (candles : List RawCandle) : Scan :=
  candles.zipIdx.foldl (scanCandle w) ⟨[], []⟩

/-- What one pass of the loop can do. -/
inductive ScanStep (w : Window) (s : Scan) (entry : RawCandle × ℕ) : Scan → Prop
  | skip (h : readCandle w entry.1 = .skipped) : ScanStep w s entry s
  | defect (d : CandleDefect) (h : readCandle w entry.1 = .malformed d) :
      ScanStep w s entry ⟨s.unique, s.errors ++ [.candle entry.2 d]⟩
  | known (b e : Bar) (h : readCandle w entry.1 = .bar b) (he : e ∈ s.unique)
      (hp : e.point = b.point) : ScanStep w s entry s
  | conflict (b e : Bar) (h : readCandle w entry.1 = .bar b) (he : e ∈ s.unique)
      (ht : e.time = b.time) (hp : e.point ≠ b.point) :
      ScanStep w s entry ⟨s.unique, s.errors ++ [.duplicateConflict b.ts]⟩
  | fresh (b : Bar) (h : readCandle w entry.1 = .bar b) (hf : ∀ e ∈ s.unique, e.time ≠ b.time) :
      ScanStep w s entry ⟨s.unique ++ [b], s.errors⟩

theorem scanStep (w : Window) (s : Scan) (entry : RawCandle × ℕ) :
    ScanStep w s entry (scanCandle w s entry) := by
  unfold scanCandle
  cases h : readCandle w entry.1 with
  | skipped => exact .skip h
  | malformed d => exact .defect d h
  | bar b =>
    simp only
    cases hf : s.unique.find? fun e => e.time == b.time with
    | none => exact .fresh b h (by simpa using List.find?_eq_none.mp hf)
    | some e =>
      have he := List.mem_of_find?_eq_some hf
      have ht : e.time = b.time := by simpa using List.find?_some hf
      simp only
      by_cases hne : e.high ≠ b.high ∨ e.low ≠ b.low
      · rw [if_pos hne]
        refine .conflict b e h he ht fun hp => ?_
        simp only [Bar.point, Prod.mk.injEq] at hp
        exact hne.elim (fun hh => hh hp.2.1) fun hl => hl hp.2.2
      · rw [if_neg hne]
        rw [not_or, not_not, not_not] at hne
        exact .known b e h he (by simp only [Bar.point, ht, hne.1, hne.2])

/-- Nothing kept shares an instant. -/
theorem unique_step {w : Window} {s s' : Scan} {entry : RawCandle × ℕ}
    (hs : ScanStep w s entry s') (h : s.unique.Pairwise fun a b => a.time ≠ b.time) :
    s'.unique.Pairwise fun a b => a.time ≠ b.time := by
  cases hs with
  | skip => exact h
  | defect => exact h
  | known => exact h
  | conflict => exact h
  | fresh b hb hf =>
    refine List.pairwise_append.mpr ⟨h, List.pairwise_singleton _ _, ?_⟩
    intro a ha b' hb'
    rw [List.mem_singleton.mp hb']
    exact hf a ha

theorem unique_fold {w : Window} (entries : List (RawCandle × ℕ)) {s : Scan}
    (h : s.unique.Pairwise fun a b => a.time ≠ b.time) :
    (entries.foldl (scanCandle w) s).unique.Pairwise fun a b => a.time ≠ b.time := by
  induction entries generalizing s with
  | nil => exact h
  | cons entry entries ih => exact ih (unique_step (scanStep w s entry) h)

/-- `[unique[key] for key in sorted(unique)]`. -/
def Scan.sorted (s : Scan) : List Bar := s.unique.insertionSort fun a b => a.time ≤ b.time

theorem mem_sorted {s : Scan} {b : Bar} : b ∈ s.sorted ↔ b ∈ s.unique :=
  List.mem_insertionSort _

theorem timed_sorted {s : Scan} (h : s.unique.Pairwise fun a b => a.time ≠ b.time) :
    Timed Bar.time s.sorted := by
  have hle : s.sorted.Pairwise fun a b => a.time ≤ b.time := by
    have : Std.Total fun a b : Bar => a.time ≤ b.time := ⟨fun a b => le_total a.time b.time⟩
    have : IsTrans Bar fun a b => a.time ≤ b.time := ⟨fun _ _ _ => le_trans⟩
    exact List.pairwise_insertionSort _ s.unique
  have hne : s.sorted.Pairwise fun a b => a.time ≠ b.time :=
    (List.perm_insertionSort _ s.unique).symm.pairwise h fun hab => hab.symm
  exact (hle.and hne).imp fun hab => lt_of_le_of_ne hab.1 hab.2

/-- What `_normalize_candle_window` answers. -/
structure Normalized where
  window : Option Window
  candles : List Bar
  errors : Finset MissingField
  timed : Timed Bar.time candles
  unreadable : window = none → errors ≠ ∅

/-- `_normalize_candle_window`. -/
def normalizeCandleWindow (candles : List RawCandle) (decisionTimestamp dueAt : TimeText) :
    Normalized :=
  match readWindow decisionTimestamp dueAt with
  | .error bounds =>
    { window := none, candles := [], errors := {bounds}, timed := List.Pairwise.nil
      unreadable := fun _ => Finset.singleton_ne_empty bounds }
  | .ok w =>
    let s := scanCandles w candles
    { window := some w, candles := s.sorted, errors := s.errors.toFinset
      timed := timed_sorted (unique_fold _ List.Pairwise.nil)
      unreadable := fun h => nomatch h }

/-! ## 3. What the window holds -/

/-- The candles a window reads as bars of one instant agree on their prices. -/
def Consistent (w : Window) (candles : List RawCandle) : Prop :=
  ∀ b ∈ bars w candles, ∀ b' ∈ bars w candles, b.time = b'.time → b.point = b'.point

/-- What the loop knows after the entries `seen`: its bars are theirs, and every instant of theirs
    is among its bars. -/
structure Scanned (w : Window) (seen : List (RawCandle × ℕ)) (s : Scan) : Prop where
  sound : ∀ e ∈ s.unique, e ∈ bars w (seen.map Prod.fst)
  covers : ∀ b ∈ bars w (seen.map Prod.fst), ∃ e ∈ s.unique, e.time = b.time
  defects : ∀ i d, .candle i d ∈ s.errors ↔ ∃ c, (c, i) ∈ seen ∧ readCandle w c = .malformed d
  conflicts : ∀ f ∈ s.errors, (∃ i d, f = .candle i d) ∨ ∃ ts, f = .duplicateConflict ts
  agree : Consistent w (seen.map Prod.fst) → ∀ ts, .duplicateConflict ts ∉ s.errors

theorem bars_concat (w : Window) (seen : List (RawCandle × ℕ)) (entry : RawCandle × ℕ) :
    bars w ((seen ++ [entry]).map Prod.fst) =
      bars w (seen.map Prod.fst) ++ (barOf w entry.1).toList := by
  unfold bars
  rw [List.map_append, List.filterMap_append]
  cases h : barOf w entry.1 <;> simp [h]

theorem consistent_subset {w : Window} {candles candles' : List RawCandle}
    (h : Consistent w candles') (hsub : ∀ b ∈ bars w candles, b ∈ bars w candles') :
    Consistent w candles :=
  fun b hb b' hb' => h b (hsub b hb) b' (hsub b' hb')

/-- An entry that is readable adds no defect. -/
theorem defect_concat {w : Window} {seen : List (RawCandle × ℕ)} {entry : RawCandle × ℕ}
    (h : ∀ d, readCandle w entry.1 ≠ .malformed d) (i : ℕ) (d : CandleDefect) :
    (∃ c, (c, i) ∈ seen ++ [entry] ∧ readCandle w c = .malformed d) ↔
      ∃ c, (c, i) ∈ seen ∧ readCandle w c = .malformed d := by
  constructor
  · intro ⟨c, hc, hd⟩
    rcases List.mem_append.mp hc with hc | hc
    · exact ⟨c, hc, hd⟩
    · rw [← List.mem_singleton.mp hc] at h
      exact absurd hd (h d)
  · intro ⟨c, hc, hd⟩
    exact ⟨c, List.mem_append_left _ hc, hd⟩

theorem scanned_step {w : Window} {seen : List (RawCandle × ℕ)} {s s' : Scan}
    {entry : RawCandle × ℕ} (hs : ScanStep w s entry s') (h : Scanned w seen s) :
    Scanned w (seen ++ [entry]) s' := by
  have hbars := bars_concat w seen entry
  have hcons : Consistent w ((seen ++ [entry]).map Prod.fst) → Consistent w (seen.map Prod.fst) :=
    fun hc => consistent_subset hc fun b hb => by rw [hbars]; exact List.mem_append_left _ hb
  cases hs with
  | skip hr =>
    have hb : barOf w entry.1 = none := by unfold barOf; rw [hr]
    rw [hb, Option.toList_none, List.append_nil] at hbars
    refine ⟨by rw [hbars]; exact h.sound, by rw [hbars]; exact h.covers, fun i d => ?_, h.conflicts,
      fun hc => h.agree (hcons hc)⟩
    rw [h.defects, defect_concat fun d => by rw [hr]; exact fun he => nomatch he]
  | defect d hr =>
    have hb : barOf w entry.1 = none := by unfold barOf; rw [hr]
    rw [hb, Option.toList_none, List.append_nil] at hbars
    refine ⟨by rw [hbars]; exact h.sound, by rw [hbars]; exact h.covers, fun i d' => ?_, ?_, ?_⟩
    · simp only [List.mem_append, List.mem_singleton, MissingField.candle.injEq, h.defects]
      constructor
      · intro hm
        rcases hm with ⟨c, hc, hd⟩ | ⟨rfl, rfl⟩
        · exact ⟨c, .inl hc, hd⟩
        · exact ⟨entry.1, .inr rfl, hr⟩
      · intro ⟨c, hc, hd⟩
        rcases hc with hc | rfl
        · exact .inl ⟨c, hc, hd⟩
        · rw [hr] at hd
          exact .inr ⟨rfl, (Reading.malformed.inj hd).symm⟩
    · intro f hf
      rcases List.mem_append.mp hf with hf | hf
      · exact h.conflicts f hf
      · exact .inl ⟨_, _, List.mem_singleton.mp hf⟩
    · intro hc ts hts
      rcases List.mem_append.mp hts with hts | hts
      · exact h.agree (hcons hc) ts hts
      · cases List.mem_singleton.mp hts
  | known b e hr he hp =>
    have hb : barOf w entry.1 = some b := barOf_eq_some.mpr hr
    rw [hb, Option.toList_some] at hbars
    refine ⟨fun x hx => ?_, fun x hx => ?_, fun i d => ?_, h.conflicts,
      fun hc => h.agree (hcons hc)⟩
    · rw [hbars]
      exact List.mem_append_left _ (h.sound x hx)
    · rw [hbars] at hx
      rcases List.mem_append.mp hx with hx | hx
      · exact h.covers x hx
      · rw [List.mem_singleton.mp hx]
        exact ⟨e, he, (Prod.mk.inj hp).1⟩
    · rw [h.defects, defect_concat fun d => by rw [hr]; exact fun he => nomatch he]
  | conflict b e hr he ht hp =>
    have hb : barOf w entry.1 = some b := barOf_eq_some.mpr hr
    rw [hb, Option.toList_some] at hbars
    refine ⟨fun x hx => ?_, fun x hx => ?_, fun i d => ?_, fun f hf => ?_, fun hc => ?_⟩
    · rw [hbars]
      exact List.mem_append_left _ (h.sound x hx)
    · rw [hbars] at hx
      rcases List.mem_append.mp hx with hx | hx
      · exact h.covers x hx
      · rw [List.mem_singleton.mp hx]
        exact ⟨e, he, ht⟩
    · rw [List.mem_append, List.mem_singleton, h.defects,
        defect_concat fun d => by rw [hr]; exact fun he => nomatch he]
      simp
    · rcases List.mem_append.mp hf with hf | hf
      · exact h.conflicts f hf
      · exact .inr ⟨_, List.mem_singleton.mp hf⟩
    · have hin : e ∈ bars w ((seen ++ [entry]).map Prod.fst) := by
        rw [hbars]
        exact List.mem_append_left _ (h.sound e he)
      exact absurd (hc e hin b (by rw [hbars]; simp) ht) hp
  | fresh b hr hf =>
    have hb : barOf w entry.1 = some b := barOf_eq_some.mpr hr
    rw [hb, Option.toList_some] at hbars
    refine ⟨fun x hx => ?_, fun x hx => ?_, fun i d => ?_, h.conflicts,
      fun hc => h.agree (hcons hc)⟩
    · rw [hbars]
      rcases List.mem_append.mp hx with hx | hx
      · exact List.mem_append_left _ (h.sound x hx)
      · exact List.mem_append_right _ hx
    · rw [hbars] at hx
      rcases List.mem_append.mp hx with hx | hx
      · obtain ⟨e, he, ht⟩ := h.covers x hx
        exact ⟨e, List.mem_append_left _ he, ht⟩
      · exact ⟨x, List.mem_append_right _ hx, rfl⟩
    · rw [h.defects, defect_concat fun d => by rw [hr]; exact fun he => nomatch he]

theorem scanned_fold {w : Window} (entries seen : List (RawCandle × ℕ)) {s : Scan}
    (h : Scanned w seen s) : Scanned w (seen ++ entries) (entries.foldl (scanCandle w) s) := by
  induction entries generalizing seen s with
  | nil => rwa [List.append_nil]
  | cons entry entries ih =>
    have hnext := ih (seen ++ [entry]) (scanned_step (scanStep w s entry) h)
    rwa [List.append_assoc] at hnext

/-- **What the whole loop knows.** -/
theorem scanned_candles (w : Window) (candles : List RawCandle) :
    Scanned w candles.zipIdx (scanCandles w candles) := by
  have hempty : Scanned w [] ⟨[], []⟩ :=
    ⟨by simp, by simp [bars], by simp, by simp, by simp⟩
  exact scanned_fold candles.zipIdx [] hempty

theorem map_fst_zipIdx (candles : List RawCandle) : candles.zipIdx.map Prod.fst = candles :=
  List.zipIdx_map_fst 0 candles

section Normalize

variable {decisionTimestamp dueAt : TimeText} {w : Window}

theorem normalize_of_ok (hw : readWindow decisionTimestamp dueAt = .ok w)
    (candles : List RawCandle) :
    (normalizeCandleWindow candles decisionTimestamp dueAt).window = some w ∧
    (normalizeCandleWindow candles decisionTimestamp dueAt).candles =
      (scanCandles w candles).sorted ∧
    (normalizeCandleWindow candles decisionTimestamp dueAt).errors =
      (scanCandles w candles).errors.toFinset := by
  unfold normalizeCandleWindow
  rw [hw]
  exact ⟨rfl, rfl, rfl⟩

theorem normalize_of_error {f : MissingField}
    (hw : readWindow decisionTimestamp dueAt = .error f) (candles : List RawCandle) :
    (normalizeCandleWindow candles decisionTimestamp dueAt).candles = [] ∧
    (normalizeCandleWindow candles decisionTimestamp dueAt).errors = {f} := by
  unfold normalizeCandleWindow
  rw [hw]
  exact ⟨rfl, rfl⟩

/-- Every bar of the canonical window is the bar of a candle. -/
theorem mem_bars_of_normalized (hw : readWindow decisionTimestamp dueAt = .ok w)
    {candles : List RawCandle} {b : Bar}
    (hb : b ∈ (normalizeCandleWindow candles decisionTimestamp dueAt).candles) :
    b ∈ bars w candles := by
  rw [(normalize_of_ok hw candles).2.1, mem_sorted] at hb
  have hsound := (scanned_candles w candles).sound b hb
  rwa [map_fst_zipIdx] at hsound

/-- **A consistent candle list keeps every price it has**, whatever its order. -/
theorem mem_points (hw : readWindow decisionTimestamp dueAt = .ok w) {candles : List RawCandle}
    (hc : Consistent w candles) (p : ℤ × ℚ × ℚ) :
    p ∈ (normalizeCandleWindow candles decisionTimestamp dueAt).candles.map Bar.point ↔
      p ∈ (bars w candles).map Bar.point := by
  constructor
  · intro hp
    obtain ⟨b, hb, rfl⟩ := List.mem_map.mp hp
    exact List.mem_map_of_mem (mem_bars_of_normalized hw hb)
  · intro hp
    obtain ⟨b, hb, rfl⟩ := List.mem_map.mp hp
    have hscan := scanned_candles w candles
    obtain ⟨e, he, ht⟩ := hscan.covers b (by rwa [map_fst_zipIdx])
    have hpoint : e.point = b.point := by
      have hin := hscan.sound e he
      rw [map_fst_zipIdx] at hin
      exact hc e hin b hb ht
    rw [← hpoint, (normalize_of_ok hw candles).2.1]
    exact List.mem_map_of_mem (mem_sorted.mpr he)

/-- **A candle is reported exactly when it cannot be read.** -/
theorem candle_mem_errors (hw : readWindow decisionTimestamp dueAt = .ok w)
    (candles : List RawCandle) (i : ℕ) (d : CandleDefect) :
    .candle i d ∈ (normalizeCandleWindow candles decisionTimestamp dueAt).errors ↔
      ∃ c, candles[i]? = some c ∧ readCandle w c = .malformed d := by
  rw [(normalize_of_ok hw candles).2.2, List.mem_toFinset, (scanned_candles w candles).defects]
  simp only [List.mem_zipIdx_iff_getElem?]

/-- A consistent candle list reports nothing but candles it cannot read. -/
theorem errors_of_consistent (hw : readWindow decisionTimestamp dueAt = .ok w)
    {candles : List RawCandle} (hc : Consistent w candles) {f : MissingField}
    (hf : f ∈ (normalizeCandleWindow candles decisionTimestamp dueAt).errors) :
    ∃ i d, f = .candle i d := by
  have hscan := scanned_candles w candles
  rw [(normalize_of_ok hw candles).2.2, List.mem_toFinset] at hf
  rcases hscan.conflicts f hf with hf' | ⟨ts, rfl⟩
  · exact hf'
  · exact absurd hf (hscan.agree (by rwa [map_fst_zipIdx]) ts)

end Normalize

/-! ## 4. Completeness -/

/-- A timeframe text: what `float` reads in it without its last character, and that character,
    both after `strip` and `lower`. -/
structure Timeframe where
  length : ℕ
  amount : Scalar
  unit : Char
  deriving DecidableEq, Repr

/-- `units`. -/
def unitSeconds : Char → Option ℚ
  | 's' => some 1
  | 'm' => some 60
  | 'h' => some 3600
  | 'd' => some 86400
  | 'w' => some 604800
  | _ => none

/-- `timeframe_seconds`. -/
def timeframeSeconds (value : Option Timeframe) : Option ℚ :=
  match value with
  | none => none
  | some raw =>
    if raw.length < 2 then none
    else
      match raw.amount.number?, unitSeconds raw.unit with
      | some amount, some unit => if 0 < amount * unit then some (amount * unit) else none
      | _, _ => none

/-- `(later - earlier).total_seconds()`. -/
def secondsBetween (earlier later : Dt) : ℚ := (later.micros - earlier.micros : ℤ) / 1000000

/-- The gaps of a candle list behind `previous`; `maxGap` is what its first candle may leave, a
    later one may leave one and a half intervals. -/
def marketGaps (interval : ℚ) : Dt → ℚ → List Bar → List (Dt × Dt)
  | _, _, [] => []
  | previous, maxGap, candle :: rest =>
    let delta := secondsBetween previous candle.ts
    let gap := if delta ≤ 0 ∨ maxGap < delta then [(previous, candle.ts)] else []
    gap ++ marketGaps interval candle.ts (interval * (3 / 2)) rest

/-- `candles` without a terminal index, else `candles[:terminal_index + 1]`. -/
def observed (candles : List Bar) : Option ℕ → List Bar
  | none => candles
  | some i => candles.take (i + 1)

/-- Without a terminal candle, the last candle seen lies within half an interval of the end. -/
def reachesEnd (w : Window) (interval : ℚ) (terminalIndex : Option ℕ) (seen : List Bar) : Bool :=
  match terminalIndex, seen.getLast? with
  | none, some last => decide (secondsBetween last.ts w.stop ≤ interval / 2)
  | _, _ => true

/-- `_window_complete`. -/
def windowComplete (n : Normalized) (timeframe : Option Timeframe) (horizonBars : Option ℤ)
    (terminalIndex : Option ℕ) : Bool × List (Dt × Dt) :=
  if n.errors ≠ ∅ then (false, [])
  else
    match n.window, timeframeSeconds timeframe, horizonBars with
    | some w, some interval, some bars =>
      let expected : ℤ := match terminalIndex with
        | none => bars
        | some i => i + 1
      let seen := observed n.candles terminalIndex
      let gaps := marketGaps interval w.start interval seen
      let complete := decide (expected ≤ seen.length) && gaps.isEmpty
      (complete && reachesEnd w interval terminalIndex seen, gaps)
    | _, _, _ => (true, [])

/-- A gap less the offsets its ends are written with. -/
def instants (gap : Dt × Dt) : ℤ × ℤ := (gap.1.micros, gap.2.micros)

/-- Gaps depend on the points of the bars. -/
theorem marketGaps_congr (interval : ℚ) {previous previous' : Dt}
    (hp : previous.micros = previous'.micros) (maxGap : ℚ) {l l' : List Bar}
    (h : l.map Bar.point = l'.map Bar.point) :
    (marketGaps interval previous maxGap l).map instants =
      (marketGaps interval previous' maxGap l').map instants := by
  induction l generalizing l' previous previous' maxGap with
  | nil =>
    obtain rfl : l' = [] := by simpa using h.symm
    rfl
  | cons b l ih =>
    cases l' with
    | nil => cases h
    | cons b' l' =>
      obtain ⟨hb, hl⟩ := List.cons.inj h
      have ht : b.ts.micros = b'.ts.micros := (Prod.mk.inj hb).1
      have hdelta : secondsBetween previous b.ts = secondsBetween previous' b'.ts := by
        unfold secondsBetween
        rw [ht, hp]
      unfold marketGaps
      simp only [List.map_append, ih ht _ hl, hdelta]
      congr 1
      split
      · simp only [List.map_cons, List.map_nil, instants, hp, ht]
      · rfl

theorem reachesEnd_congr (w : Window) (interval : ℚ) (terminalIndex : Option ℕ) {l l' : List Bar}
    (h : l.map Bar.point = l'.map Bar.point) :
    reachesEnd w interval terminalIndex l = reachesEnd w interval terminalIndex l' := by
  have hlast : l.getLast?.map Bar.time = l'.getLast?.map Bar.time := by
    have := congrArg (fun l => (l.getLast?).map Prod.fst) h
    simpa [Function.comp_def, Bar.point] using this
  unfold reachesEnd
  cases terminalIndex with
  | some i => rfl
  | none =>
    cases h₁ : l.getLast? with
    | none =>
      rw [h₁] at hlast
      cases h₂ : l'.getLast? with
      | none => rfl
      | some last' => rw [h₂] at hlast; cases hlast
    | some last =>
      rw [h₁] at hlast
      cases h₂ : l'.getLast? with
      | none => rw [h₂] at hlast; cases hlast
      | some last' =>
        rw [h₂] at hlast
        have ht : secondsBetween last.ts w.stop = secondsBetween last'.ts w.stop := by
          unfold secondsBetween
          rw [(Option.some.inj hlast : last.ts.micros = last'.ts.micros)]
        simp only [ht]

/-- What completeness looks at: whether anything is missing, and the points seen. -/
theorem windowComplete_congr {n n' : Normalized} (hw : n.window = n'.window)
    (he : n.errors = ∅ ↔ n'.errors = ∅) (timeframe : Option Timeframe)
    (horizonBars : Option ℤ) (terminalIndex : Option ℕ)
    (h : (observed n.candles terminalIndex).map Bar.point =
      (observed n'.candles terminalIndex).map Bar.point) :
    (windowComplete n timeframe horizonBars terminalIndex).1 =
      (windowComplete n' timeframe horizonBars terminalIndex).1 ∧
    (windowComplete n timeframe horizonBars terminalIndex).2.map instants =
      (windowComplete n' timeframe horizonBars terminalIndex).2.map instants := by
  unfold windowComplete
  by_cases hn : n.errors = ∅
  · rw [if_neg (not_not.mpr hn), if_neg (not_not.mpr (he.mp hn)), hw]
    cases n'.window with
    | none => exact ⟨rfl, rfl⟩
    | some w =>
      cases timeframeSeconds timeframe with
      | none => exact ⟨rfl, rfl⟩
      | some interval =>
        cases horizonBars with
        | none => exact ⟨rfl, rfl⟩
        | some bars =>
          have hgaps := marketGaps_congr interval (rfl : w.start.micros = w.start.micros) interval h
          have hlen : (observed n.candles terminalIndex).length =
              (observed n'.candles terminalIndex).length := by
            simpa using congrArg List.length h
          have hempty : (marketGaps interval w.start interval
              (observed n.candles terminalIndex)).isEmpty =
              (marketGaps interval w.start interval
                (observed n'.candles terminalIndex)).isEmpty := by
            rw [← List.isEmpty_map, hgaps, List.isEmpty_map]
          refine ⟨?_, hgaps⟩
          simp only [hlen, hempty, reachesEnd_congr w interval terminalIndex h]
  · rw [if_pos hn, if_pos fun hn' => hn (he.mpr hn')]
    exact ⟨rfl, rfl⟩

end AlphaForge.Candles
