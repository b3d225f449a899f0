/-
  File:      AlphaForge/Positions/Replay.lean
  Subject:   What a position should close at: its tightenings and its candles replayed in time
             order, against what `resolve_campaign_positions` does.

  * `replayExit` -- the purpose of the resolver, stated on its own: one stream of recorded
    tightenings and candles, each candle tested against the stop in force at its time.
  * `stopLedger_run` -- the current stop is what the recorded tightenings make of the initial one.
  * **`closes_as_replayed_iff`** -- the resolver agrees with the replay exactly when no candle
    is reached by a stop that was not yet in force.
  * **`hindsight_closure`** -- a candle older than a tightening closes the position at the later
    stop.
-/
import AlphaForge.Positions.Lifecycle
import AlphaForge.Positions.Scan

namespace AlphaForge.Positions

open AlphaForge.Lib
open AlphaForge.Candles

/-! ## 1. The replay -/

/-- The stop after a tightening to `stop`; a stop never widens. -/
def tighter (side : String) (current stop : ℚ) :
    ℚ := if Tightens side current stop then stop else current

/-- The new stop of a recorded tightening. -/
def Event.tightenedTo (e : Event) : Option ℚ :=
  if e.action = "TIGHTEN_STOP" then e.newStop else none

/-- A recorded tightening with its time, where that compares with the candles of the position. -/
def Event.tightening (aware : Bool) (e : Event) : Option (ℤ × ℚ) :=
  match e.tightenedTo, e.eventTime.reading with
  | some stop, some d => if d.aware = aware then some (d.micros, stop) else none
  | _, _ => none

/-- The times of a position carry offsets. -/
def Position.aware (r : Position) : Bool := r.entryTime.reading.any Dt.aware

/-- The tightenings of a position as they were recorded. -/
def tightenings (r : Position) (events : List Event) : List (ℤ × ℚ) :=
  events.filterMap (Event.tightening r.aware)

/-- One tightening applied to the stop. -/
def applyTightening (side : String) (stop : ℚ) (e : ℤ × ℚ) : ℚ := tighter (sideOf side) stop e.2

/-- The stop in force at time `T`. -/
def stopInForce (r : Position) (events : List Event) (initialStop : ℚ) (T : ℤ) : ℚ :=
  stateAt Prod.fst (applyTightening r.side) initialStop (tightenings r events) T

/-- The window holds every candle up to `b`. -/
def completeUpTo (n : Normalized) (b : Bar) : Bool :=
  (scanComplete n ((upTo Bar.time b.time n.candles).length - 1)).1

/-- The exit of the position when its events and its candles are replayed in time order: the first
    candle that touches the target or the stop in force at its time, if no candle before it is
    missing. -/
def replayExit (r : Position) (events : List Event) (candles : List RawCandle)
    (now : TimeText) : Option Exit :=
  let n := normalizeCandleWindow candles r.entryTime now
  match scanNumbers r with
  | .error _ => none
  | .ok x =>
    let moves := (tightenings r events).insertionSort fun a b => a.1 ≤ b.1
    match replay Bar.time Prod.fst (applyTightening r.side)
        (fun stop b => touches r.side stop x.target b) x.initialStop moves n.candles with
    | none => none
    | some (stop, b) =>
      if completeUpTo n b = true then some (exitAt r.side stop x.target b) else none

/-! ## 2. Stops -/

/-- `a` is no tighter than `b`. -/
def Looser (side : String) (a b : ℚ) : Prop := if side = "LONG" then a ≤ b else b ≤ a

theorem tightens_long (a b : ℚ) : Tightens "LONG" a b ↔ a < b := Iff.rfl

theorem tightens_other {side : String} (hs : side ≠ "LONG") (a b : ℚ) :
    Tightens side a b ↔ b < a := by
  unfold Tightens
  rw [if_neg hs]

theorem tighter_long (a b : ℚ) : tighter "LONG" a b = max a b := by
  unfold tighter
  rcases lt_or_ge a b with h | h
  · rw [if_pos ((tightens_long a b).mpr h), max_eq_right h.le]
  · rw [if_neg fun ht => h.not_gt ((tightens_long a b).mp ht), max_eq_left h]

theorem tighter_other {side : String} (hs : side ≠ "LONG") (a b : ℚ) :
    tighter side a b = min a b := by
  unfold tighter
  rcases lt_or_ge b a with h | h
  · rw [if_pos ((tightens_other hs a b).mpr h), min_eq_right h.le]
  · rw [if_neg fun ht => h.not_gt ((tightens_other hs a b).mp ht), min_eq_left h]

theorem looser_refl (side : String) (a : ℚ) : Looser side a a := by
  unfold Looser
  split <;> exact le_rfl

theorem looser_mono (side : String) (a b s : ℚ) (h : Looser side a b) :
    Looser side (tighter side a s) (tighter side b s) := by
  by_cases hs : side = "LONG"
  · subst hs
    rw [tighter_long, tighter_long]
    exact max_le_max_right s h
  · unfold Looser at h ⊢
    rw [if_neg hs] at h ⊢
    rw [tighter_other hs, tighter_other hs]
    exact min_le_min_right s h

theorem looser_tighter (side : String) (a b s : ℚ) (h : Looser side a b) :
    Looser side a (tighter side b s) := by
  by_cases hs : side = "LONG"
  · subst hs
    rw [tighter_long]
    exact le_max_of_le_left h
  · unfold Looser at h ⊢
    rw [if_neg hs] at h ⊢
    rw [tighter_other hs]
    exact min_le_of_left_le h

instance (side : String) : RightCommutative (applyTightening side) where
  right_comm s e f := by
    unfold applyTightening
    by_cases hs : sideOf side = "LONG"
    · rw [hs]
      simp only [tighter_long, max_right_comm]
    · simp only [tighter_other hs, min_right_comm]

/-- A bar that reaches a looser stop reaches a tighter one. -/
theorem hits_of_looser {side : String} (hside : sideOf side = "LONG" ∨ sideOf side = "SHORT")
    {a b : ℚ} (h : Looser (sideOf side) a b) (target : ℚ) {bar : Bar}
    (hhit : (bar.hits side a target).1 = true) : (bar.hits side b target).1 = true := by
  unfold Bar.hits hit at hhit ⊢
  unfold Looser at h
  rcases hside with hs | hs
  · rw [hs] at h hhit ⊢
    simp only [if_true, if_false, String.reduceEq, decide_eq_true_eq] at h hhit ⊢
    exact hhit.trans h
  · rw [hs] at h hhit ⊢
    simp only [if_true, if_false, String.reduceEq, decide_eq_true_eq] at h hhit ⊢
    exact h.trans hhit

/-- The target does not depend on the stop. -/
theorem hits_target (side : String) (a b target : ℚ) (bar : Bar) :
    (bar.hits side a target).2 = (bar.hits side b target).2 := by
  unfold Bar.hits hit
  split <;> rfl

theorem touches_of_looser {side : String}
    (hside : sideOf side = "LONG" ∨ sideOf side = "SHORT") {a b : ℚ}
    (h : Looser (sideOf side) a b) {target : ℚ} {bar : Bar}
    (htouch : touches side a target bar = true) : touches side b target bar = true := by
  unfold touches at htouch ⊢
  rw [Bool.or_eq_true] at htouch ⊢
  rcases htouch with hstop | htarget
  · exact .inl (hits_of_looser hside h target hstop)
  · exact .inr (by rw [← hits_target side a b, htarget])

/-- A tightening with a time is a tightening. -/
theorem tightening_stop {aware : Bool} {e : Event} {move : ℤ × ℚ}
    (h : e.tightening aware = some move) : e.tightenedTo = some move.2 := by
  unfold Event.tightening at h
  split at h
  · rename_i stop d hs hd
    split at h
    · cases h
      exact hs
    · cases h
  · cases h

/-- The moves of a position are some of its tightenings, in their order. -/
theorem tightenings_sublist (r : Position) (events : List Event) :
    ((tightenings r events).map Prod.snd).Sublist (events.filterMap Event.tightenedTo) := by
  unfold tightenings
  induction events with
  | nil => exact List.Sublist.refl _
  | cons e events ih =>
    cases ht : e.tightening r.aware with
    | none =>
      rw [List.filterMap_cons_none ht]
      exact ih.trans ((List.sublist_cons_self e events).filterMap _)
    | some move =>
      rw [List.filterMap_cons_some ht, List.filterMap_cons_some (tightening_stop ht), List.map_cons]
      exact ih.cons_cons _

/-- The stop in force is never tighter than what all tightenings together make. -/
theorem stopInForce_looser (r : Position) (events : List Event) (initialStop : ℚ) (T : ℤ) :
    Looser (sideOf r.side) (stopInForce r events initialStop T)
      ((events.filterMap Event.tightenedTo).foldl (tighter (sideOf r.side)) initialStop) := by
  have hfold : ∀ l : List (ℤ × ℚ), l.foldl (applyTightening r.side) initialStop =
      (l.map Prod.snd).foldl (tighter (sideOf r.side)) initialStop := fun l => by
    rw [List.foldl_map]
    rfl
  unfold stopInForce stateAt
  rw [hfold]
  exact foldl_sublist_related (looser_mono _) (looser_tighter _)
    ((List.filter_sublist.map Prod.snd).trans (tightenings_sublist r events)) (looser_refl _ _)

/-! ## 3. The current stop -/

/-- The current stop of a trade is what its recorded tightenings make of the initial one. -/
def StopLedger (v : Trade) : Prop :=
  ∀ initialStop, v.row.stop = some initialStop → v.row.currentStop =
    some ((v.events.filterMap Event.tightenedTo).foldl (tighter (sideOf v.row.side)) initialStop)

theorem tightenedTo_other {e : Event} {action : String} (h : e.action = action)
    (hne : action ≠ "TIGHTEN_STOP") : e.tightenedTo = none := by
  unfold Event.tightenedTo
  rw [if_neg (by rw [h]; exact hne)]

/-- An action that is no tightening keeps the stop ledger if it keeps the stop. -/
theorem stopLedger_record {v : Trade} {r : Position} {e : Event} (h : StopLedger v)
    (he : e.tightenedTo = none) (hstop : r.stop = v.row.stop)
    (hcur : r.currentStop = v.row.currentStop) (hside : r.side = v.row.side) :
    StopLedger (v.record r e) := by
  intro initialStop hs
  show r.currentStop = some (((v.events ++ [e]).filterMap _).foldl (tighter (sideOf r.side)) _)
  rw [List.filterMap_append, List.filterMap_cons_none he, List.filterMap_nil, List.append_nil, hcur,
    hside]
  exact h initialStop (hstop ▸ hs)

theorem stopLedger_step {hash : Request → String} {call : Call} {v v' : Trade}
    (h : StopLedger v) (hs : TradeStep hash call v v') : StopLedger v' := by
  cases hs with
  | same => exact h
  | tighten a hcall ev n stop run hR hact hstop =>
    intro initialStop hinit
    have hcur := h initialStop hinit
    obtain ⟨-, -, -, -, hn, -, -⟩ := rowNumbers_ok hR.numbers
    rw [hcur, Option.some_or, Option.some.injEq] at hn
    have ht := tightenedStop_ok hstop
    have he : (tightenEvent hash v.row a n ev stop.1 run).tightenedTo = some stop.1 :=
      if_pos hact
    have hfold : ((v.events ++ [tightenEvent hash v.row a n ev stop.1 run]).filterMap
        Event.tightenedTo).foldl (tighter (sideOf v.row.side)) initialStop = stop.1 := by
      rw [List.filterMap_append, List.filterMap_cons_some he, List.filterMap_nil,
        List.foldl_append, hn, List.foldl_cons, List.foldl_nil]
      unfold tighter
      rw [if_pos ht]
    exact congrArg some hfold.symm
  | trail a hcall ev n run hR hact hc =>
    exact stopLedger_record h (tightenedTo_other hact (by decide)) rfl rfl rfl
  | reduce a hcall ev n s run hR hact hs =>
    exact stopLedger_record h (tightenedTo_other hact (by decide)) rfl rfl rfl
  | protect a hcall ev n price costs k run hR hact hc hk =>
    refine stopLedger_record h (@tightenedTo_other _ a.normalizedAction ?_ ?_) rfl rfl rfl
    · cases k.reply <;> rfl
    · rw [hact]
      decide
  | close c hcall k ho hk => exact h

/-- **The current stop after any sequence of calls.** -/
theorem stopLedger_run (hash : Request → String) {kw : OpenRequest} {quantity : ℚ} {db₀ : Db}
    (hopen : Opened kw db₀) (hq : kw.quantity = some quantity) (hpos : 0 < quantity)
    (calls : List Call) {v : Trade} (hv : (runCalls hash db₀ calls).trade kw.tradeId = some v) :
    StopLedger v := by
  induction calls using List.reverseRecOn generalizing v with
  | nil =>
    obtain ⟨db, hev, rfl⟩ := opened_eq hopen
    have hv' : (db.coalesce.setPosition kw.tradeId kw.row).trade kw.tradeId = some ⟨kw.row, []⟩ :=
      trade_eq_some.mpr ⟨setPosition_self .., hev⟩
    obtain rfl : (⟨kw.row, []⟩ : Trade) = v := Option.some.inj (hv'.symm.trans hv)
    exact fun initialStop hs => hs
  | append_singleton calls call ih =>
    rw [runCalls_concat] at hv
    have hm := managed_run hash (managed_opened hopen hq hpos) calls
    obtain ⟨w, hw, -⟩ := hm.trade
    obtain ⟨w', hw', hs⟩ := tradeStep_of_effect (callEffect_next hash hm.bootstrapped call) hw
    obtain rfl : w' = v := Option.some.inj (hw'.symm.trans hv)
    exact stopLedger_step (ih hw) hs

/-! ## 4. The resolver against the replay -/

/-- No candle is closed on with hindsight: a candle that touches the current stop while a looser
    one was in force comes after a candle that touches the current stop or the target, or after a
    gap. -/
def NoHindsight (r : Position) (events : List Event) (candles : List RawCandle)
    (now : TimeText) : Prop :=
  ∀ x, scanNumbers r = .ok x →
    ∀ b ∈ (normalizeCandleWindow candles r.entryTime now).candles,
      stopInForce r events x.initialStop b.time ≠ x.stop →
      (b.hits r.side x.stop x.target).1 = true →
      completeUpTo (normalizeCandleWindow candles r.entryTime now) b = true →
      ∃ b' ∈ (normalizeCandleWindow candles r.entryTime now).candles,
        b'.time < b.time ∧ touches r.side x.stop x.target b' = true

/-- A candle list without gaps has none in its beginning. -/
theorem marketGaps_append {interval : ℚ} {previous : Dt} {maxGap : ℚ} {l l' : List Bar}
    (h : marketGaps interval previous maxGap (l ++ l') = []) :
    marketGaps interval previous maxGap l = [] := by
  induction l generalizing previous maxGap with
  | nil => rfl
  | cons b l ih =>
    unfold marketGaps
    rw [List.cons_append] at h
    unfold marketGaps at h
    obtain ⟨hgap, hrest⟩ := List.append_eq_nil_iff.mp h
    simp only [hgap, ih hrest, List.append_nil]

/-- Completeness of the first `k + 1` candles: nothing malformed, none missing. -/
theorem scanComplete_iff (n : Normalized) (k : ℕ) :
    (scanComplete n k).1 = true ↔ n.errors = ∅ ∧ ∃ w, n.window = some w ∧
      k + 1 ≤ n.candles.length ∧ marketGaps 60 w.start 60 (n.candles.take (k + 1)) = [] := by
  have hminute : timeframeSeconds (some oneMinute) = some 60 := by decide +kernel
  unfold scanComplete windowComplete
  by_cases he : n.errors = ∅
  · rw [if_neg (not_not.mpr he), hminute]
    cases hw : n.window with
    | none => exact absurd he (n.unreadable hw)
    | some w =>
      simp only [observed, reachesEnd, Bool.and_true, Bool.and_eq_true, decide_eq_true_eq,
        List.isEmpty_iff, he, Option.some.injEq, true_and, exists_eq_left', List.length_take]
      refine and_congr_left fun _ => ?_
      omega
  · rw [if_pos he]
    simp [he]

/-- A window complete up to a bar is complete up to an earlier one. -/
theorem completeUpTo_mono {n : Normalized} {b b' : Bar} (hb : b ∈ n.candles)
    (hle : b.time ≤ b'.time) (h : completeUpTo n b' = true) : completeUpTo n b = true := by
  have hpos : 0 < (upTo Bar.time b.time n.candles).length :=
    List.length_pos_of_mem (mem_upTo.mpr ⟨hb, le_rfl⟩)
  have hlen : (upTo Bar.time b.time n.candles).length ≤
      (upTo Bar.time b'.time n.candles).length :=
    (List.monotone_filter_right n.candles fun a ha => by
      simpa using (of_decide_eq_true ha).trans hle).length_le
  unfold completeUpTo at h ⊢
  obtain ⟨he, w, hw, hk, hgaps⟩ := (scanComplete_iff n _).mp h
  refine (scanComplete_iff n _).mpr ⟨he, w, hw, by omega, ?_⟩
  rw [Nat.sub_add_cancel (by omega)] at hgaps ⊢
  have hsplit := List.take_append_drop (upTo Bar.time b.time n.candles).length
    (n.candles.take (upTo Bar.time b'.time n.candles).length)
  rw [List.take_take, Nat.min_eq_left hlen] at hsplit
  rw [← hsplit] at hgaps
  exact marketGaps_append hgaps

theorem completeUpTo_eq {n : Normalized} {p : Bar → Bool} {i : ℕ} {b : Bar}
    (hit : firstHit p n.candles = some (i, b)) : completeUpTo n b = (scanComplete n i).1 := by
  obtain ⟨hb, -, -, hseen⟩ := firstHit_timed n.timed hit
  obtain ⟨pre, post, hl, hi, -, -⟩ := firstHit_eq_some.mp hit
  unfold completeUpTo
  rw [← hseen, List.length_take, hl, List.length_append, List.length_cons]
  congr 3
  omega

section Compare

variable {r : Position} {events : List Event} {candles : List RawCandle} {now : TimeText}
  {x : ScanNumbers}

/-- The replay tests each candle against the stop in force at its time. -/
theorem replayExit_eq (hx : scanNumbers r = .ok x) :
    replayExit r events candles now =
      match firstHit (fun b => touches r.side
        (stopInForce r events x.initialStop b.time) x.target b)
        (normalizeCandleWindow candles r.entryTime now).candles with
      | none => none
      | some (_, b) =>
        if completeUpTo (normalizeCandleWindow candles r.entryTime now) b = true then
          some (exitAt r.side (stopInForce r events x.initialStop b.time) x.target b)
        else none := by
  have hsorted : ((tightenings r events).insertionSort fun a b => a.1 ≤ b.1).Pairwise
      fun a b => a.1 ≤ b.1 := by
    have : Std.Total fun a b : ℤ × ℚ => a.1 ≤ b.1 := ⟨fun a b => le_total a.1 b.1⟩
    have : IsTrans (ℤ × ℚ) fun a b => a.1 ≤ b.1 := ⟨fun _ _ _ => le_trans⟩
    exact List.pairwise_insertionSort _ _
  have hperm := List.perm_insertionSort (fun a b : ℤ × ℚ => a.1 ≤ b.1) (tightenings r events)
  have hstate : ∀ T, stateAt Prod.fst (applyTightening r.side) x.initialStop
      ((tightenings r events).insertionSort fun a b => a.1 ≤ b.1) T =
        stopInForce r events x.initialStop T := fun T => stateAt_perm x.initialStop hperm T
  unfold replayExit
  simp only [hx]
  rw [replay_eq_firstHit hsorted (normalizeCandleWindow candles r.entryTime now).timed]
  simp only [hstate]
  cases firstHit (fun b => touches r.side (stopInForce r events x.initialStop b.time) x.target b)
      (normalizeCandleWindow candles r.entryTime now).candles with
  | none => rfl
  | some hit => rfl

/-- The exit decided at the first candle that touches the current stop or the target. -/
theorem positionExit_eq (hx : scanNumbers r = .ok x) :
    positionExit r candles now =
      match firstHit (touches r.side x.stop x.target)
        (normalizeCandleWindow candles r.entryTime now).candles with
      | none => none
      | some (_, b) =>
        if completeUpTo (normalizeCandleWindow candles r.entryTime now) b = true then
          some (exitAt r.side x.stop x.target b)
        else none := by
  unfold positionExit
  simp only [hx]
  cases hhit : firstHit (touches r.side x.stop x.target)
      (normalizeCandleWindow candles r.entryTime now).candles with
  | none => rfl
  | some hit =>
    obtain ⟨i, b⟩ := hit
    simp only [completeUpTo_eq hhit]

/-- A candle that reaches the stop and one that only reaches the target close for different
    reasons. -/
theorem exitReason_ne {a b : Bool × Bool} (ha : a.1 = true) (hb : b.1 = false) :
    exitReason a ≠ exitReason b := by
  obtain ⟨sl, tp⟩ := a
  obtain ⟨sl', tp'⟩ := b
  cases ha
  cases hb
  cases tp <;> cases tp' <;> decide

/-- A touch that is the same under both stops gives the same exit. -/
theorem exitAt_of_target {side : String} {a b target : ℚ} {bar : Bar}
    (ha : (bar.hits side a target).1 = false) (hb : (bar.hits side b target).1 = false) :
    exitAt side a target bar = exitAt side b target bar := by
  have hhits : bar.hits side a target = bar.hits side b target :=
    Prod.ext (ha.trans hb.symm) (hits_target side a b target bar)
  unfold exitAt
  simp only [hhits, hb, Bool.false_eq_true, if_false]

/-- Without hindsight the resolver closes as the replay does. -/
theorem positionExit_of_noHindsight (hx : scanNumbers r = .ok x)
    (hside : sideOf r.side = "LONG" ∨ sideOf r.side = "SHORT")
    (hloose : ∀ T, Looser (sideOf r.side) (stopInForce r events x.initialStop T) x.stop)
    (h : NoHindsight r events candles now) :
    positionExit r candles now = replayExit r events candles now := by
  rw [positionExit_eq hx, replayExit_eq hx]
  have htimed := (normalizeCandleWindow candles r.entryTime now).timed
  have hN := h x hx
  generalize normalizeCandleWindow candles r.entryTime now = n at htimed hN ⊢
  have hweaker : ∀ c, touches r.side x.stop x.target c = false →
      touches r.side (stopInForce r events x.initialStop c.time) x.target c = false := by
    intro c hc
    rw [Bool.eq_false_iff] at hc ⊢
    exact fun ht => hc (touches_of_looser hside (hloose c.time) ht)
  cases hhit : firstHit (touches r.side x.stop x.target) n.candles with
  | none =>
    have hnone := firstHit_eq_none.mp hhit
    rw [firstHit_eq_none.mpr fun c hc => hweaker c (hnone c hc)]
  | some hit =>
    obtain ⟨i, b⟩ := hit
    obtain ⟨hb, htouch, hmin, -⟩ := firstHit_timed htimed hhit
    -- where the bar touches under the stop in force too, both scans end there
    have hfirst : touches r.side (stopInForce r events x.initialStop b.time) x.target b = true →
        firstHit (fun c => touches r.side (stopInForce r events x.initialStop c.time) x.target c)
          n.candles = some (i, b) := by
      intro ht
      obtain ⟨pre, post, hl, hi, -, hpre⟩ := firstHit_eq_some.mp hhit
      exact firstHit_eq_some.mpr ⟨pre, post, hl, hi, ht, fun c hc => hweaker c (hpre c hc)⟩
    by_cases hin : stopInForce r events x.initialStop b.time = x.stop
    · rw [hfirst (by rw [hin, htouch])]
      simp only [hin]
    · cases hstop : (b.hits r.side x.stop x.target).1 with
      | true =>
        have hgap : completeUpTo n b = false := by
          rw [Bool.eq_false_iff]
          intro hcomplete
          obtain ⟨b', hb', hlt, ht'⟩ := hN b hb hin hstop hcomplete
          exact absurd (hmin b' hb' ht') hlt.not_ge
        simp only [hgap, Bool.false_eq_true, if_false]
        cases hhit' : firstHit
            (fun c => touches r.side (stopInForce r events x.initialStop c.time) x.target c)
            n.candles with
        | none => rfl
        | some hit' =>
          obtain ⟨j, c⟩ := hit'
          obtain ⟨hc, htc, -, -⟩ := firstHit_timed htimed hhit'
          have hle := hmin c hc (touches_of_looser hside (hloose c.time) htc)
          have hgap' : completeUpTo n c = false := by
            rw [Bool.eq_false_iff] at hgap ⊢
            exact fun hcomplete => hgap (completeUpTo_mono hb hle hcomplete)
          simp only [hgap', Bool.false_eq_true, if_false]
      | false =>
        have hstop' : (b.hits r.side (stopInForce r events x.initialStop b.time) x.target).1 =
            false := by
          rw [Bool.eq_false_iff] at hstop ⊢
          exact fun hh => hstop (hits_of_looser hside (hloose b.time) x.target hh)
        have htarget : (b.hits r.side x.stop x.target).2 = true := by
          unfold touches at htouch
          rw [hstop, Bool.false_or] at htouch
          exact htouch
        have ht : touches r.side (stopInForce r events x.initialStop b.time) x.target b = true := by
          unfold touches
          rw [hstop', Bool.false_or, hits_target _ _ x.stop, htarget]
        rw [hfirst ht]
        simp only [exitAt_of_target hstop hstop']

/-- **A closure with hindsight is never the replay's.** -/
theorem noHindsight_of_positionExit (hx : scanNumbers r = .ok x)
    (h : positionExit r candles now = replayExit r events candles now) :
    NoHindsight r events candles now := by
  intro x' hx' b hb hne hstop hcomplete
  obtain rfl : x' = x := Except.ok.inj (hx'.symm.trans hx)
  rw [positionExit_eq hx, replayExit_eq hx] at h
  have htimed := (normalizeCandleWindow candles r.entryTime now).timed
  generalize normalizeCandleWindow candles r.entryTime now = n at htimed hb hcomplete h ⊢
  by_contra hno
  have htouch : touches r.side x'.stop x'.target b = true := by
    unfold touches
    rw [hstop, Bool.true_or]
  cases hhit : firstHit (touches r.side x'.stop x'.target) n.candles with
  | none =>
    rw [firstHit_eq_none.mp hhit b hb] at htouch
    cases htouch
  | some hit =>
    obtain ⟨i, c⟩ := hit
    obtain ⟨hc, htc, hmin, -⟩ := firstHit_timed htimed hhit
    have hge : ¬c.time < b.time := fun hlt => hno ⟨c, hc, hlt, htc⟩
    obtain rfl : c = b := timed_inj htimed hc hb (le_antisymm (hmin b hb htouch) (not_lt.mp hge))
    rw [hhit] at h
    simp only [hcomplete, if_true] at h
    cases hhit' : firstHit
        (fun d => touches r.side (stopInForce r events x'.initialStop d.time) x'.target d)
        n.candles with
    | none =>
      rw [hhit'] at h
      cases h
    | some hit' =>
      obtain ⟨j, d⟩ := hit'
      obtain ⟨hd, -, -, -⟩ := firstHit_timed htimed hhit'
      rw [hhit'] at h
      simp only at h
      split at h
      · have hexit := Option.some.inj h
        obtain rfl : c = d := timed_inj htimed hc hd
          (congrArg (fun e : Exit => e.time.micros) hexit)
        cases hstop' : (c.hits r.side (stopInForce r events x'.initialStop c.time) x'.target).1 with
        | true =>
          have hprice := congrArg Exit.price hexit
          simp only [exitAt, hstop, hstop', if_true] at hprice
          exact hne hprice.symm
        | false =>
          have hreason := congrArg Exit.reason hexit
          simp only [exitAt] at hreason
          exact exitReason_ne hstop hstop' hreason
      · cases h

end Compare

/-- **The resolver against the replay.** On every position opened and managed by any calls, for
    all candles and every other open row of the campaign: after `resolve_campaign_positions` the
    row shows the exit of the replay exactly when no candle is closed on with hindsight. -/
theorem closes_as_replayed_iff (hash : Request → String) (isoformat : Dt → String)
    (clock : String) (now : TimeText) (candlesOf : String → List RawCandle)
    {kw : OpenRequest} {quantity : ℚ} {db₀ : Db} (hopen : Opened kw db₀)
    (hq : kw.quantity = some quantity) (hpos : 0 < quantity)
    (hside : sideOf kw.side = "LONG" ∨ sideOf kw.side = "SHORT") (calls : List Call) {v : Trade}
    (hv : (runCalls hash db₀ calls).trade kw.tradeId = some v) (ho : v.row.status = .OPEN)
    {rowOrder : List String} (hnodup : rowOrder.Nodup) (hmem : kw.tradeId ∈ rowOrder)
    (hrows : ∀ t r, (t, r) ∈ openRows kw.campaignId rowOrder (runCalls hash db₀ calls) →
      ∃ x costs, Resolvable r x costs) :
    ∃ r', ((resolveCampaignPositions isoformat hash clock kw.campaignId now candlesOf []
        rowOrder).after (runCalls hash db₀ calls)).position kw.tradeId = some r' ∧
      (r'.exit = replayExit v.row v.events (candlesOf kw.tradeId) now ↔
        NoHindsight v.row v.events (candlesOf kw.tradeId) now) := by
  have hm := managed_run hash (managed_opened hopen hq hpos) calls
  obtain ⟨w, hw, hentry, -⟩ := hm.trade
  obtain rfl : v = w := Option.some.inj (hv.symm.trans hw)
  have hledger := stopLedger_run hash hopen hq hpos calls hv
  generalize runCalls hash db₀ calls = db at *
  obtain ⟨hrow, -⟩ := trade_eq_some.mp hv
  have hin : (kw.tradeId, v.row) ∈ openRows kw.campaignId rowOrder db :=
    mem_openRows.mpr ⟨hmem, hrow, (congrArg Position.campaignId hentry :), ho⟩
  have hpending : Pending db (openRows kw.campaignId rowOrder db) := by
    refine ⟨nodup_openRows kw.campaignId hnodup db, fun t r hr => ?_⟩
    obtain ⟨-, hpos', -, ho'⟩ := mem_openRows.mp hr
    exact ⟨hpos', ho', hrows t r hr⟩
  obtain ⟨counts, db', hrun, -, hexits⟩ := run_resolveRows isoformat clock now candlesOf
    (openRows kw.campaignId rowOrder db) hm.bootstrapped hpending ⟨0, 0, 0, 0, 0⟩
  have hafter : (resolveCampaignPositions isoformat hash clock kw.campaignId now candlesOf []
      rowOrder).after db = db' := by
    refine Prog.after_ok (a := counts) ?_
    unfold resolveCampaignPositions
    rw [Prog.run_bind, run_bootstrap hm.bootstrapped]
    exact hrun
  obtain ⟨r', hr', hexit⟩ := hexits _ _ hin
  refine ⟨r', by rw [hafter, hr'], ?_⟩
  rw [hexit]
  obtain ⟨x, costs, hres⟩ := hrows _ _ hin
  have hsame : v.row.side = kw.side := (congrArg Position.side hentry :)
  have hside' : sideOf v.row.side = "LONG" ∨ sideOf v.row.side = "SHORT" := by
    rw [hsame]
    exact hside
  have hloose : ∀ T, Looser (sideOf v.row.side)
      (stopInForce v.row v.events x.initialStop T) x.stop := by
    intro T
    obtain ⟨hinit, hstop⟩ := stops_of_numbers hres.numbers
    rw [hledger _ hinit, Option.some_or, Option.some.injEq] at hstop
    rw [← hstop]
    exact stopInForce_looser v.row v.events x.initialStop T
  exact ⟨noHindsight_of_positionExit hres.numbers,
    positionExit_of_noHindsight hres.numbers hside' hloose⟩

/-- The stop of the sample position moved from 90 to 95 at 150 seconds. -/
def sampleTighten : ActionCall where
  tradeId := "T1"
  managementEventId := "E1"
  action := "tighten_stop"
  eventTime := ⟨"1970-01-01T00:02:30+00:00", some ⟨some 0, 150000000⟩⟩
  evidence := .mapping sampleEvidence
  newStop := .float 95
  exitQuantity := .none
  executionPrice := .none
  exitCosts := .other .none
  now := "1970-01-01T00:02:31+00:00"

/-- The database after that tightening. -/
def sampleTightened : Db := runCalls sampleHash sampleDb [.act sampleTighten]

/-- Three minutes after the entry. -/
def sampleNow : TimeText := ⟨"1970-01-01T00:03:00+00:00", some ⟨some 0, 180000000⟩⟩

/-- The sample position after the resolver ran on `candles`. -/
def sampleResolved (candles : List RawCandle) : Option Exit :=
  (((resolveCampaignPositions (fun _ => "") sampleHash "" "C1" sampleNow (fun _ => candles) []
    ["T1"]).after sampleTightened).position "T1").bind Position.exit

/-- The exit of its replay. -/
def sampleReplayed (candles : List RawCandle) : Option Exit :=
  (sampleTightened.trade "T1").bind fun v => replayExit v.row v.events candles sampleNow

theorem closes_as_replayed_iff_sample :
    ∃ v r', sampleTightened.trade "T1" = some v ∧
      ((resolveCampaignPositions (fun _ => "") sampleHash "" "C1" sampleNow
        (fun _ => [sampleCandle 60 101 96, sampleCandle 120 101 96]) [] ["T1"]).after
          sampleTightened).position "T1" = some r' ∧
      (r'.exit = replayExit v.row v.events [sampleCandle 60 101 96, sampleCandle 120 101 96]
          sampleNow ↔
        NoHindsight v.row v.events [sampleCandle 60 101 96, sampleCandle 120 101 96]
          sampleNow) := by
  have hstate : (sampleTightened.trade "T1").map (fun v => (v.row.status,
      match scanNumbers v.row with
      | .ok x => (exitCosts v.row x).isOk
      | .error _ => false)) = some (.OPEN, true) := by decide +kernel
  obtain ⟨v, hv, hstate⟩ := Option.map_eq_some_iff.mp hstate
  obtain ⟨ho, hok⟩ := Prod.mk.inj hstate
  have hrows : ∀ t r, (t, r) ∈ openRows "C1" ["T1"] sampleTightened →
      ∃ x costs, Resolvable r x costs := by
    intro t r hr
    obtain ⟨ht, hpos, -⟩ := mem_openRows.mp hr
    rw [List.mem_singleton.mp ht] at hpos
    obtain rfl : v.row = r := Option.some.inj ((trade_eq_some.mp hv).1.symm.trans hpos)
    cases hx : scanNumbers v.row with
    | error e => rw [hx] at hok; cases hok
    | ok x =>
      rw [hx] at hok
      cases hc : exitCosts v.row x with
      | error e => simp only [hc] at hok; cases hok
      | ok costs => exact ⟨x, costs, hx, hc⟩
  obtain ⟨r', hr', hiff⟩ := closes_as_replayed_iff sampleHash (fun _ => "") "" sampleNow
    (fun _ => [sampleCandle 60 101 96, sampleCandle 120 101 96]) sample_opened rfl
    (show (0 : ℚ) < 2 by norm_num) (.inl (by decide)) [.act sampleTighten] hv ho
    (List.nodup_singleton "T1") (List.mem_singleton_self "T1") hrows
  exact ⟨v, r', hv, hr', hiff⟩

/-- **A closure with hindsight**: the candle of the first minute falls to 94, above the stop of its
    time, and the position is closed there at the stop of two and a half minutes. -/
theorem hindsight_closure :
    sampleResolved [sampleCandle 60 101 94] = some ⟨⟨some 0, 60000000⟩, 95, "SL_HIT"⟩ ∧
    sampleReplayed [sampleCandle 60 101 94] = none := by
  decide +kernel

end AlphaForge.Positions
