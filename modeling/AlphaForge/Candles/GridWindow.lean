/-
  File:      AlphaForge/Candles/GridWindow.lean
  Subject:   When `_window_complete` (`burnin_resolver.py`) takes a forward window for complete, on
             candles whose times lie on the grid of their interval.

  A label is due a whole number of intervals after its decision, and the decision may lie anywhere
  between two grid points. The window then holds that many grid points; the last of them lies as far
  before the end as the decision behind its grid point.

  * `marketGaps_nil`, `missing_short` -- no gap where every grid candle is there, too few candles
    where one is missing.
  * **`judged_iff`** -- the window is judged as its candles say, unless they are all there and the
    decision is more than half an interval behind the grid.

  Given: the candles of the window have grid times.
-/
import AlphaForge.Candles.Outcome
import AlphaForge.Lib.Grid
import Mathlib.Data.List.Pairwise

namespace AlphaForge.Candles

open AlphaForge.Lib

/-! ## 1. The setting -/

/-- A pending label: its window spans `horizon` intervals. Times are in microseconds. -/
structure GridLabel where
  grid : Grid
  side : String
  entry : Scalar
  stop : Scalar
  target : Scalar
  decisionTimestamp : TimeText
  dueAt : TimeText
  timeframe : Timeframe
  horizon : ℕ
  window : Window
  reads : readWindow decisionTimestamp dueAt = .ok window
  spans : window.stop.micros = window.start.micros + horizon * grid.step
  interval : timeframeSeconds (some timeframe) = some ((grid.step : ℚ) / 1000000)

/-- The candles that the exchange answers with. -/
structure GridFeed (l : GridLabel) where
  candles : List RawCandle
  aligned : ∀ b ∈ bars l.window candles, l.grid.On b.time

/-- What is judged. -/
def GridFeed.outcome {l : GridLabel} (feed : GridFeed l) : Outcome :=
  evaluateForwardOutcome l.side l.entry l.stop l.target l.decisionTimestamp l.dueAt
    (some l.timeframe) (some l.horizon) feed.candles

/-- Every grid candle of the window is there. -/
def GridFeed.Present {l : GridLabel} (feed : GridFeed l) : Prop :=
  ∀ t, l.grid.On t → l.window.start.micros < t → t ≤ l.window.stop.micros →
    ∃ b ∈ bars l.window feed.candles, b.time = t

/-- Every candle can be read, and no two of one time differ. -/
structure GridFeed.WellFormed {l : GridLabel} (feed : GridFeed l) : Prop where
  readable : ∀ c ∈ feed.candles, ∀ d, readCandle l.window c ≠ .malformed d
  consistent : Consistent l.window feed.candles

/-- The geometry is valid, and no candle of the window touches the stop or the target. -/
def GridFeed.Untouched {l : GridLabel} (feed : GridFeed l) : Prop :=
  geometryErrors l.side l.entry l.stop l.target = ∅ ∧
    ∀ stop target, l.stop.number? = some stop → l.target.number? = some target →
      ∀ b ∈ bars l.window feed.candles, touches l.side stop target b = false

/-- The window of an untouched label is judged by its candles. -/
structure GridFeed.Judged {l : GridLabel} (feed : GridFeed l) : Prop where
  complete : feed.Untouched → feed.Present → feed.WellFormed →
    feed.outcome.windowComplete = true ∧ feed.outcome.forwardLabel = some .TIMEOUT
  missing : feed.Untouched → ¬ feed.Present → feed.outcome.windowComplete = false

/-! ## 2. Gaps -/

section Gaps

variable {g : Grid} {interval : ℚ}

theorem secondsBetween_le {earlier later : Dt} {step : ℤ}
    (h : later.micros ≤ earlier.micros + step) :
    secondsBetween earlier later ≤ (step : ℚ) / 1000000 := by
  unfold secondsBetween
  have hcast : ((later.micros - earlier.micros : ℤ) : ℚ) ≤ step := by exact_mod_cast (by omega)
  exact div_le_div_of_nonneg_right hcast (by norm_num)

theorem secondsBetween_pos {earlier later : Dt} (h : earlier.micros < later.micros) :
    0 < secondsBetween earlier later := by
  unfold secondsBetween
  have hcast : (0 : ℚ) < ((later.micros - earlier.micros : ℤ) : ℚ) := by exact_mod_cast (by omega)
  exact div_pos hcast (by norm_num)

/-- Candles on the grid that leave out no point have no gap. -/
theorem marketGaps_nil (stop : ℤ) {l : List Bar} {previous : Dt} {maxGap : ℚ}
    (hinterval : interval = (g.step : ℚ) / 1000000) (hmax : interval ≤ maxGap)
    (htimed : Timed Bar.time l)
    (hon : ∀ b ∈ l, g.On b.time ∧ previous.micros < b.time ∧ b.time ≤ stop)
    (hall : ∀ t, g.On t → previous.micros < t → t ≤ stop → ∃ b ∈ l, b.time = t) :
    marketGaps interval previous maxGap l = [] := by
  induction l generalizing previous maxGap with
  | nil => rfl
  | cons c rest ih =>
    obtain ⟨hfirst, hrest⟩ := List.pairwise_cons.mp htimed
    obtain ⟨hc, hafter, hbefore⟩ := hon c List.mem_cons_self
    -- the point after `previous` is there, and no candle is earlier
    have hnext : c.time = g.next previous.micros := by
      have hle := g.next_le hc hafter
      obtain ⟨b, hb, ht⟩ := hall _ (g.on_next _) (g.lt_next _) (le_trans hle hbefore)
      rcases List.mem_cons.mp hb with rfl | hb
      · exact ht
      · have hlt := hfirst b hb
        omega
    have hstep : secondsBetween previous c.ts ≤ maxGap := by
      refine le_trans ?_ hmax
      rw [hinterval]
      refine secondsBetween_le ?_
      have hadd := g.next_le_add previous.micros
      show c.time ≤ _
      omega
    have hpos : 0 < secondsBetween previous c.ts := secondsBetween_pos hafter
    have hlonger : interval ≤ interval * (3 / 2) := by
      have hstep' : (0 : ℚ) < g.step := by exact_mod_cast g.positive
      rw [hinterval]
      linarith [div_pos hstep' (by norm_num : (0 : ℚ) < 1000000)]
    have hnone : ¬ (secondsBetween previous c.ts ≤ 0 ∨ maxGap < secondsBetween previous c.ts) := by
      rintro (h | h) <;> linarith
    unfold marketGaps
    dsimp only
    rw [if_neg hnone, List.nil_append]
    refine ih hlonger hrest ?_ ?_
    · intro b hb
      exact ⟨(hon b (List.mem_cons_of_mem _ hb)).1, hfirst b hb,
        (hon b (List.mem_cons_of_mem _ hb)).2.2⟩
    · intro t ht hlater hle
      have hprevious : previous.micros < t := lt_trans hafter hlater
      obtain ⟨b, hb, hbt⟩ := hall t ht hprevious hle
      rcases List.mem_cons.mp hb with rfl | hb
      · exact absurd hbt hlater.ne
      · exact ⟨b, hb, hbt⟩

end Gaps

/-! ## 3. What is judged -/

section Judged

variable {l : GridLabel}

/-- The canonical window of a feed. -/
def GridFeed.normalized (feed : GridFeed l) : Normalized :=
  normalizeCandleWindow feed.candles l.decisionTimestamp l.dueAt

theorem horizon_pos (l : GridLabel) : 0 < l.horizon := by
  have hpos := l.window.positive
  have hspans := l.spans
  by_contra hzero
  have hhorizon : l.horizon = 0 := by omega
  rw [hhorizon, Nat.cast_zero, zero_mul, add_zero] at hspans
  omega

theorem outcome_of_untouched {feed : GridFeed l} (h : feed.Untouched) :
    feed.outcome.forwardLabel = some .TIMEOUT ∧
      feed.outcome.windowComplete =
        (windowComplete feed.normalized (some l.timeframe) (some l.horizon) none).1 := by
  obtain ⟨e, s, t, he, hs, ht⟩ := numbers_of_geometry h.1
  have hnone : firstHit (touches l.side s t) feed.normalized.candles = none :=
    firstHit_eq_none.mpr fun b hb => h.2 s t hs ht b (mem_bars_of_normalized l.reads hb)
  have houtcome : feed.outcome = evaluateWindow l.side e s t (some l.timeframe) (some l.horizon)
      feed.normalized := by
    unfold GridFeed.outcome evaluateForwardOutcome
    dsimp only
    rw [if_neg (not_not.mpr h.1), he, hs, ht]
    rfl
  rw [houtcome]
  unfold evaluateWindow
  rw [hnone]
  exact ⟨rfl, rfl⟩

/-- What makes an untouched window complete. -/
theorem complete_iff (feed : GridFeed l) :
    (windowComplete feed.normalized (some l.timeframe) (some l.horizon) none).1 = true ↔
      feed.normalized.errors = ∅ ∧ (l.horizon : ℤ) ≤ feed.normalized.candles.length ∧
        marketGaps ((l.grid.step : ℚ) / 1000000) l.window.start ((l.grid.step : ℚ) / 1000000)
          feed.normalized.candles = [] ∧
        reachesEnd l.window ((l.grid.step : ℚ) / 1000000) none feed.normalized.candles = true := by
  have hwindow : feed.normalized.window = some l.window :=
    (normalize_of_ok l.reads feed.candles).1
  unfold windowComplete
  by_cases herrors : feed.normalized.errors = ∅
  · rw [if_neg (not_not.mpr herrors), hwindow, l.interval]
    simp only [observed, Bool.and_eq_true, List.isEmpty_iff, herrors, true_and, and_assoc]
    exact and_congr_left' decide_eq_true_iff
  · rw [if_pos herrors]
    exact iff_of_false Bool.false_ne_true fun h => herrors h.1

/-- The times of the canonical window are points of the grid. -/
theorem times_subset (feed : GridFeed l) :
    (feed.normalized.candles.map Bar.time).toFinset ⊆
      l.grid.window l.window.start.micros l.horizon := by
  intro t ht
  rw [List.mem_toFinset] at ht
  obtain ⟨b, hb, rfl⟩ := List.mem_map.mp ht
  have hbar := mem_bars_of_normalized l.reads hb
  obtain ⟨c, -, hread⟩ := mem_bars.mp hbar
  obtain ⟨-, hafter, hbefore⟩ := time_of_bar hread
  rw [l.spans] at hbefore
  exact l.grid.mem_window.mpr ⟨feed.aligned b hbar, hafter, hbefore⟩

theorem times_nodup (feed : GridFeed l) : (feed.normalized.candles.map Bar.time).Nodup :=
  List.pairwise_map.mpr (feed.normalized.timed.imp fun h => h.ne)

/-- Without a grid candle, the window has too few candles. -/
theorem missing_short {feed : GridFeed l} (h : ¬ feed.Present) :
    feed.normalized.candles.length < l.horizon := by
  unfold GridFeed.Present at h
  push Not at h
  obtain ⟨t, hon, hafter, hbefore, hnone⟩ := h
  rw [l.spans] at hbefore
  have hmem : t ∈ l.grid.window l.window.start.micros l.horizon :=
    l.grid.mem_window.mpr ⟨hon, hafter, hbefore⟩
  have hnot : t ∉ (feed.normalized.candles.map Bar.time).toFinset := by
    rw [List.mem_toFinset]
    intro ht
    obtain ⟨b, hb, hbt⟩ := List.mem_map.mp ht
    exact hnone b (mem_bars_of_normalized l.reads hb) hbt
  have hlt := Finset.card_lt_card (Finset.ssubset_iff_of_subset (times_subset feed) |>.mpr
    ⟨t, hmem, hnot⟩)
  rw [List.toFinset_card_of_nodup (times_nodup feed), List.length_map, l.grid.card_window] at hlt
  exact hlt

theorem errors_of_wellFormed {feed : GridFeed l} (h : feed.WellFormed) :
    feed.normalized.errors = ∅ := by
  refine Finset.eq_empty_of_forall_notMem fun f hf => ?_
  obtain ⟨i, d, rfl⟩ := errors_of_consistent l.reads h.consistent hf
  obtain ⟨c, hc, hread⟩ := (candle_mem_errors l.reads feed.candles i d).mp hf
  exact h.readable c (List.mem_of_getElem? hc) d hread

/-- Where every grid candle is there, the canonical window has a candle at each point. -/
theorem mem_of_present {feed : GridFeed l} (hpresent : feed.Present)
    (hwell : feed.WellFormed) {t : ℤ}
    (ht : t ∈ l.grid.window l.window.start.micros l.horizon) :
    ∃ b ∈ feed.normalized.candles, b.time = t := by
  obtain ⟨hon, hafter, hbefore⟩ := l.grid.mem_window.mp ht
  rw [← l.spans] at hbefore
  obtain ⟨b, hb, rfl⟩ := hpresent t hon hafter hbefore
  have hpoint := (mem_points l.reads hwell.consistent b.point).mpr (List.mem_map_of_mem hb)
  obtain ⟨b', hb', heq⟩ := List.mem_map.mp hpoint
  exact ⟨b', hb', congrArg Prod.fst heq⟩

/-- The last candle of a full window. -/
theorem last_of_present {feed : GridFeed l} (hpresent : feed.Present) (hwell : feed.WellFormed) :
    ∃ last, feed.normalized.candles.getLast? = some last ∧
      last.time = l.window.stop.micros - l.grid.phase l.window.start.micros := by
  obtain ⟨b, hb, htime⟩ := mem_of_present hpresent hwell (l.grid.last_mem (horizon_pos l))
  rw [← l.spans] at htime
  have hne : feed.normalized.candles ≠ [] := List.ne_nil_of_mem hb
  refine ⟨_, List.getLast?_eq_some_getLast hne, le_antisymm ?_ ?_⟩
  · have hmem : (feed.normalized.candles.getLast hne).time ∈
        (feed.normalized.candles.map Bar.time).toFinset := by
      rw [List.mem_toFinset]
      exact List.mem_map_of_mem (List.getLast_mem hne)
    have hle := l.grid.le_last (times_subset feed hmem)
    rw [← l.spans] at hle
    exact hle
  · rw [← htime]
    have hle : feed.normalized.candles.Pairwise fun a b => a.time ≤ b.time :=
      feed.normalized.timed.imp fun h => h.le
    exact hle.rel_getLast_of_rel_getLast_getLast hb le_rfl

/-- **A full window is complete where the decision is at most half an interval behind the grid.** -/
theorem complete_of_present {feed : GridFeed l} (hpresent : feed.Present)
    (hwell : feed.WellFormed) :
    (windowComplete feed.normalized (some l.timeframe) (some l.horizon) none).1 = true ↔
      2 * l.grid.phase l.window.start.micros ≤ l.grid.step := by
  have hlength : (l.horizon : ℤ) ≤ feed.normalized.candles.length := by
    have hsubset : l.grid.window l.window.start.micros l.horizon ⊆
        (feed.normalized.candles.map Bar.time).toFinset := by
      intro t ht
      obtain ⟨b, hb, rfl⟩ := mem_of_present hpresent hwell ht
      exact List.mem_toFinset.mpr (List.mem_map_of_mem hb)
    have hle := Finset.card_le_card hsubset
    rw [List.toFinset_card_of_nodup (times_nodup feed), List.length_map, l.grid.card_window] at hle
    exact_mod_cast hle
  have hgaps : marketGaps ((l.grid.step : ℚ) / 1000000) l.window.start
      ((l.grid.step : ℚ) / 1000000) feed.normalized.candles = [] := by
    refine marketGaps_nil (g := l.grid) l.window.stop.micros rfl le_rfl feed.normalized.timed ?_ ?_
    · intro b hb
      have hmem : b.time ∈ (feed.normalized.candles.map Bar.time).toFinset :=
        List.mem_toFinset.mpr (List.mem_map_of_mem hb)
      obtain ⟨hon, hafter, hbefore⟩ := l.grid.mem_window.mp (times_subset feed hmem)
      rw [← l.spans] at hbefore
      exact ⟨hon, hafter, hbefore⟩
    · intro t hon hafter hbefore
      rw [l.spans] at hbefore
      exact mem_of_present hpresent hwell (l.grid.mem_window.mpr ⟨hon, hafter, hbefore⟩)
  obtain ⟨last, hlast, htime⟩ := last_of_present hpresent hwell
  have hreach : reachesEnd l.window ((l.grid.step : ℚ) / 1000000) none feed.normalized.candles =
    true ↔
      2 * l.grid.phase l.window.start.micros ≤ l.grid.step := by
    unfold reachesEnd
    rw [hlast]
    dsimp only
    rw [decide_eq_true_iff]
    have hdistance : secondsBetween last.ts l.window.stop =
        (l.grid.phase l.window.start.micros : ℚ) / 1000000 := by
      unfold secondsBetween
      have hmicros : l.window.stop.micros - last.ts.micros =
        l.grid.phase l.window.start.micros := by
        have htime' : last.ts.micros = l.window.stop.micros - l.grid.phase l.window.start.micros :=
          htime
        omega
      rw [hmicros]
    rw [hdistance]
    constructor
    · intro h
      have hcast : (2 * l.grid.phase l.window.start.micros : ℚ) ≤ l.grid.step := by linarith
      exact_mod_cast hcast
    · intro h
      have hcast : (2 * l.grid.phase l.window.start.micros : ℚ) ≤ l.grid.step := by exact_mod_cast h
      linarith
  rw [complete_iff, hreach]
  exact ⟨fun h => h.2.2.2, fun h => ⟨errors_of_wellFormed hwell, hlength, hgaps, h⟩⟩

/-- **The window is judged as its candles say, unless they are all there and the decision is more
    than half an interval behind the grid.** -/
theorem judged_iff (feed : GridFeed l) :
    feed.Judged ↔ (feed.Untouched → feed.Present → feed.WellFormed →
      2 * l.grid.phase l.window.start.micros ≤ l.grid.step) := by
  constructor
  · intro h huntouched hpresent hwell
    have hcomplete := (h.complete huntouched hpresent hwell).1
    rw [(outcome_of_untouched huntouched).2] at hcomplete
    exact (complete_of_present hpresent hwell).mp hcomplete
  · intro h
    refine ⟨fun huntouched hpresent hwell => ?_, fun huntouched hmissing => ?_⟩
    · obtain ⟨hlabel, hcomplete⟩ := outcome_of_untouched huntouched
      refine ⟨?_, hlabel⟩
      rw [hcomplete]
      exact (complete_of_present hpresent hwell).mpr (h huntouched hpresent hwell)
    · rw [(outcome_of_untouched huntouched).2, Bool.eq_false_iff]
      intro hcomplete
      have hlength := ((complete_iff feed).mp hcomplete).2.1
      have hshort := missing_short hmissing
      omega

end Judged

/-- A label over two minutes that was decided 40 seconds after a full minute. -/
def lateLabel : GridLabel where
  grid := ⟨0, 60000000, by decide⟩
  side := "LONG"
  entry := .float 100
  stop := .float 90
  target := .float 110
  decisionTimestamp := ⟨"1970-01-01T00:00:40+00:00", some ⟨some 0, 40000000⟩⟩
  dueAt := ⟨"1970-01-01T00:02:40+00:00", some ⟨some 0, 160000000⟩⟩
  timeframe := ⟨2, .int 1, 'm'⟩
  horizon := 2
  window := ⟨⟨some 0, 40000000⟩, ⟨some 0, 160000000⟩, rfl, by decide⟩
  reads := rfl
  spans := rfl
  interval := by
    have hpos : (0 : ℚ) < 1 * 60 := by norm_num
    show (if (0 : ℚ) < (1 : ℤ) * 60 then some (((1 : ℤ) : ℚ) * 60) else none) = _
    norm_num

/-- Both of its candles. -/
def lateFeed : GridFeed lateLabel where
  candles := [sampleCandle 60 105 95, sampleCandle 120 105 95]
  aligned := by decide +kernel

/-- Both candles are there, and the window is incomplete for ever. -/
theorem late_window_incomplete : ¬ lateFeed.Judged := by
  intro h
  have huntouched : lateFeed.Untouched := by
    refine ⟨by decide +kernel, ?_⟩
    intro stop target hstop htarget
    cases hstop
    cases htarget
    decide +kernel
  have hpresent : lateFeed.Present := by
    intro t hon hafter hbefore
    have hwindow : t ∈ lateLabel.grid.window 40000000 2 :=
      lateLabel.grid.mem_window.mpr ⟨hon, hafter, hbefore⟩
    have hpoints : lateLabel.grid.window 40000000 2 = {60000000, 120000000} := by decide +kernel
    rw [hpoints, Finset.mem_insert, Finset.mem_singleton] at hwindow
    rcases hwindow with rfl | rfl
    · decide +kernel
    · decide +kernel
  have hwell : lateFeed.WellFormed := by
    refine ⟨fun c hc d hmalformed => ?_, by unfold Consistent; decide +kernel⟩
    have hread : ∀ c ∈ lateFeed.candles, (barOf lateLabel.window c).isSome := by decide +kernel
    have hsome := hread c hc
    unfold barOf at hsome
    rw [hmalformed] at hsome
    cases hsome
  have hcomplete := (h.complete huntouched hpresent hwell).1
  have hincomplete : lateFeed.outcome.windowComplete = false := by decide +kernel
  rw [hincomplete] at hcomplete
  cases hcomplete

end AlphaForge.Candles
