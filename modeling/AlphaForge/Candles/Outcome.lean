/-
  File:      AlphaForge/Candles/Outcome.lean
  Subject:   `evaluate_forward_outcome` (`burnin_resolver.py`): the label of a rejected decision.

  * `geometryErrors` -- `_geometry_errors`.
  * `evaluateForwardOutcome` -- the evaluator; its scan is a `firstHit` over the canonical window.
  * `sameScan_of_points`, `sameScan_of_upTo` -- the scan depends on the points up to its terminal
    bar only.
  * **`forward_label`** -- on candles that do not contradict each other the label is that of the
    earliest bar that touches, and neither order, repetition, candles outside the window nor later
    ones change the result.
  * **`conflicting_candles`** -- candles that contradict each other are labelled by their order.
-/
import AlphaForge.Candles.Window
import Mathlib.Tactic.Linarith

namespace AlphaForge.Candles

open AlphaForge.Lib

/-! ## 1. The evaluator -/

inductive Label where
  | TIMEOUT
  | AMBIGUOUS
  | TP_BEFORE_SL
  | SL_BEFORE_TP
  deriving DecidableEq, Repr

/-- What `evaluate_forward_outcome` answers. -/
structure Outcome where
  forwardLabel : Option Label
  mfe : Option ℚ
  mae : Option ℚ
  grossR : Option ℚ
  ambiguous : Bool
  evidenceComplete : Bool
  windowComplete : Bool
  terminalIndex : Option ℕ
  marketGaps : List (Dt × Dt)
  missingFields : Finset MissingField
  observedBars : ℕ
  deriving DecidableEq

/-- The checks of `_geometry_errors` on three finite numbers. -/
def directionErrors (side : String) (entry stop target : ℚ) : List MissingField :=
  let invalid : List MissingField := [.directionallyInvalidGeometry]
  (if entry ≤ 0 then [.entryNonPositive] else [])
    ++ (if entry = stop then [.zeroRisk] else [])
    ++ (if sideOf side = "LONG" ∧ ¬(stop < entry ∧ entry < target) then invalid else [])
    ++ (if sideOf side = "SHORT" ∧ ¬(target < entry ∧ entry < stop) then invalid else [])
    ++ (if sideOf side ≠ "LONG" ∧ sideOf side ≠ "SHORT" then [.side] else [])

/-- `_geometry_errors`. -/
def geometryErrors (side : String) (entry stop target : Scalar) : Finset MissingField :=
  match entry.number?, stop.number?, target.number? with
  | some e, some s, some t => (directionErrors side e s t).toFinset
  | e, s, t =>
    (([(MissingField.entry, e), (.stop, s), (.target, t)].filter fun v => v.2.isNone).map
      Prod.fst).toFinset

/-- The answer to a geometry with errors. -/
def invalidGeometry (errors : Finset MissingField) : Outcome where
  forwardLabel := none
  mfe := none
  mae := none
  grossR := none
  ambiguous := false
  evidenceComplete := false
  windowComplete := false
  terminalIndex := none
  marketGaps := []
  missingFields := errors
  observedBars := 0

/-- `_hit` of a bar. -/
def Bar.hits (side : String) (stop target : ℚ) (b : Bar) : Bool × Bool :=
  hit side b.high b.low stop target

/-- The bar touches the stop or the target. -/
def touches (side : String) (stop target : ℚ) (b : Bar) : Bool :=
  (b.hits side stop target).1 || (b.hits side stop target).2

/-- The label of a terminal bar. -/
def labelOf (hits : Bool × Bool) : Label :=
  if hits.1 && hits.2 then .AMBIGUOUS else if hits.2 then .TP_BEFORE_SL else .SL_BEFORE_TP

/-- `gross`: risk multiples of a terminal bar's exit. -/
def grossOf (entry stop target : ℚ) (hits : Bool × Bool) : Option ℚ :=
  match labelOf hits with
  | .AMBIGUOUS => none
  | .TP_BEFORE_SL => some |(target - entry) / (entry - stop)|
  | _ => some (-1)

/-- The rise of a bar above the entry, in percent. -/
def rise (entry : ℚ) (b : Bar) : ℚ := (b.high - entry) / entry * 100

/-- The fall of a bar below the entry, in percent. -/
def fall (entry : ℚ) (b : Bar) : ℚ := (entry - b.low) / entry * 100

/-- `max(0.0, max(excursions, default=0.0))`. -/
def maxExcursion (excursions : List ℚ) : ℚ := excursions.foldl max 0

/-- `evaluate_forward_outcome` on a valid geometry. -/
def evaluateWindow (side : String) (entry stop target : ℚ) (timeframe : Option Timeframe)
    (horizonBars : Option ℤ) (n : Normalized) : Outcome :=
  let terminal := firstHit (touches side stop target) n.candles
  let hits := terminal.map fun r => r.2.hits side stop target
  let terminalIndex := terminal.map Prod.fst
  let seen := observed n.candles terminalIndex
  let short := sideOf side = "SHORT"
  let ambiguous := hits.any fun h => labelOf h == .AMBIGUOUS
  let complete := windowComplete n timeframe horizonBars terminalIndex
  { forwardLabel := some (hits.elim .TIMEOUT labelOf)
    mfe := some (maxExcursion (seen.map (if short then fall entry else rise entry)))
    mae := some (maxExcursion (seen.map (if short then rise entry else fall entry)))
    grossR := hits.elim (some 0) (grossOf entry stop target)
    ambiguous := ambiguous
    evidenceComplete := complete.1 && !ambiguous
    windowComplete := complete.1
    terminalIndex := terminalIndex
    marketGaps := complete.2
    missingFields := n.errors
    observedBars := seen.length }

/-- `evaluate_forward_outcome`. -/
def evaluateForwardOutcome (side : String) (entry stop target : Scalar)
    (decisionTimestamp dueAt : TimeText) (timeframe : Option Timeframe) (horizonBars : Option ℤ)
    (candles : List RawCandle) : Outcome :=
  let errors := geometryErrors side entry stop target
  if errors ≠ ∅ then invalidGeometry errors
  else
    match entry.number?, stop.number?, target.number? with
    | some entry, some stop, some target =>
      evaluateWindow side entry stop target timeframe horizonBars
        (normalizeCandleWindow candles decisionTimestamp dueAt)
    | _, _, _ => invalidGeometry errors

/-! ## 2. What the scan depends on -/

/-- A view of the points of two bar lists is one. -/
theorem map_of_points {β : Type} {f : Bar → β} {g : ℤ × ℚ × ℚ → β} (hf : ∀ b, f b = g b.point)
    {l l' : List Bar} (h : l.map Bar.point = l'.map Bar.point) : l.map f = l'.map f := by
  have hview : ∀ l : List Bar, l.map f = (l.map Bar.point).map g := fun l => by
    rw [List.map_map]
    exact List.map_congr_left fun b _ => hf b
  rw [hview, hview, h]

section Scan

variable {side : String} {stop target : ℚ}

/-- Bars of one point touch alike. -/
theorem hits_congr {b b' : Bar} (h : b.point = b'.point) :
    b.hits side stop target = b'.hits side stop target := by
  simp only [Bar.point, Prod.mk.injEq] at h
  unfold Bar.hits
  rw [h.2.1, h.2.2]

theorem touches_congr {b b' : Bar} (h : b.point = b'.point) :
    touches side stop target b = touches side stop target b' := by
  unfold touches
  rw [hits_congr h]

/-- Two bar lists with one scan: terminal index, hits and the points seen. -/
structure SameScan (side : String) (stop target : ℚ) (l l' : List Bar) : Prop where
  index : (firstHit (touches side stop target) l).map Prod.fst =
    (firstHit (touches side stop target) l').map Prod.fst
  hits : (firstHit (touches side stop target) l).map (fun r => r.2.hits side stop target) =
    (firstHit (touches side stop target) l').map fun r => r.2.hits side stop target
  seen : (observed l ((firstHit (touches side stop target) l).map Prod.fst)).map Bar.point =
    (observed l' ((firstHit (touches side stop target) l').map Prod.fst)).map Bar.point

/-- Lists with the same points find bars with the same point at the same index. -/
theorem firstHit_points (side : String) (stop target : ℚ) {l l' : List Bar}
    (h : l.map Bar.point = l'.map Bar.point) :
    (firstHit (touches side stop target) l).map (fun r => (r.1, r.2.point)) =
      (firstHit (touches side stop target) l').map fun r => (r.1, r.2.point) := by
  let q : ℤ × ℚ × ℚ → Bool := fun p =>
    (hit side p.2.1 p.2.2 stop target).1 || (hit side p.2.1 p.2.2 stop target).2
  have hview : ∀ l : List Bar, (firstHit (touches side stop target) l).map
      (fun r => (r.1, r.2.point)) = firstHit q (l.map Bar.point) :=
    fun l => (firstHit_map q Bar.point l).symm
  rw [hview, hview, h]

theorem sameScan_of_points {l l' : List Bar} (h : l.map Bar.point = l'.map Bar.point) :
    SameScan side stop target l l' := by
  have hp := firstHit_points side stop target h
  cases hl : firstHit (touches side stop target) l with
  | none =>
    rw [hl] at hp
    have hl' : firstHit (touches side stop target) l' = none := by
      simpa using hp.symm
    exact ⟨by rw [hl, hl'], by rw [hl, hl'], by rw [hl, hl']; exact h⟩
  | some r =>
    rw [hl] at hp
    obtain ⟨r', hl', hr⟩ := Option.map_eq_some_iff.mp hp.symm
    obtain ⟨hi, hb⟩ := Prod.mk.inj hr
    refine ⟨by rw [hl, hl']; exact congrArg some hi.symm,
      by rw [hl, hl']; exact congrArg some (hits_congr hb.symm), ?_⟩
    rw [hl, hl']
    show (l.take (r.1 + 1)).map Bar.point = (l'.take (r'.1 + 1)).map Bar.point
    rw [List.map_take, List.map_take, h, hi]

/-- Lists with the same points up to the terminal bar. -/
theorem sameScan_of_upTo {l l' : List Bar} {i : ℕ} {b : Bar} (hl : Timed Bar.time l)
    (hl' : Timed Bar.time l') (hit : firstHit (touches side stop target) l = some (i, b))
    (h : (upTo Bar.time b.time l).map Bar.point = (upTo Bar.time b.time l').map Bar.point) :
    SameScan side stop target l l' := by
  have hup := firstHit_upTo hl hit (le_refl b.time)
  have hp := firstHit_points side stop target h
  rw [hup] at hp
  obtain ⟨r', hup', hr⟩ := Option.map_eq_some_iff.mp hp.symm
  obtain ⟨j, b'⟩ := r'
  obtain ⟨rfl, hb⟩ := Prod.mk.inj hr
  have htime : b'.time = b.time := (Prod.mk.inj hb).1
  have hit' : firstHit (touches side stop target) l' = some (j, b') := by
    have happ := firstHit_append_of_some (l'.filter fun a => b.time < a.time) hup'
    rwa [upTo_append hl' b.time] at happ
  obtain ⟨-, -, -, hseen⟩ := firstHit_timed hl hit
  obtain ⟨-, -, -, hseen'⟩ := firstHit_timed hl' hit'
  refine ⟨by rw [hit, hit']; rfl, by rw [hit, hit']; exact congrArg some (hits_congr hb.symm), ?_⟩
  rw [hit, hit']
  show (l.take (j + 1)).map Bar.point = (l'.take (j + 1)).map Bar.point
  rw [hseen, hseen', htime, h]

end Scan

/-! ## 3. Outcomes that say the same -/

/-- A missing field less the position of the candle it names. -/
def MissingField.unplaced : MissingField → MissingField
  | .candle _ defect => .candle 0 defect
  | f => f

/-- The same outcome, up to the positions of unreadable candles in the list and the offsets in
    which the ends of a gap are written. -/
structure Agree (o o' : Outcome) : Prop where
  forwardLabel : o.forwardLabel = o'.forwardLabel
  mfe : o.mfe = o'.mfe
  mae : o.mae = o'.mae
  grossR : o.grossR = o'.grossR
  ambiguous : o.ambiguous = o'.ambiguous
  evidenceComplete : o.evidenceComplete = o'.evidenceComplete
  windowComplete : o.windowComplete = o'.windowComplete
  terminalIndex : o.terminalIndex = o'.terminalIndex
  marketGaps : o.marketGaps.map instants = o'.marketGaps.map instants
  missingFields : o.missingFields.image MissingField.unplaced =
    o'.missingFields.image MissingField.unplaced
  observedBars : o.observedBars = o'.observedBars

theorem agree_refl (o : Outcome) : Agree o o :=
  ⟨rfl, rfl, rfl, rfl, rfl, rfl, rfl, rfl, rfl, rfl, rfl⟩

/-- Windows with one scan and the same defects have one outcome. -/
theorem evaluateWindow_agree {side : String} {entry stop target : ℚ} {n n' : Normalized}
    (hw : n.window = n'.window)
    (he : n.errors.image MissingField.unplaced = n'.errors.image MissingField.unplaced)
    (h : SameScan side stop target n.candles n'.candles) (timeframe : Option Timeframe)
    (horizonBars : Option ℤ) :
    Agree (evaluateWindow side entry stop target timeframe horizonBars n)
      (evaluateWindow side entry stop target timeframe horizonBars n') := by
  have hempty : n.errors = ∅ ↔ n'.errors = ∅ := by
    rw [← Finset.image_eq_empty (f := MissingField.unplaced), he, Finset.image_eq_empty]
  obtain ⟨hindex, hhits, hseen⟩ := h
  rw [hindex] at hseen
  have hcomplete := windowComplete_congr hw hempty timeframe horizonBars _ hseen
  have hrise := map_of_points (f := rise entry) (g := fun p => (p.2.1 - entry) / entry * 100)
    (fun _ => rfl) hseen
  have hfall := map_of_points (f := fall entry) (g := fun p => (entry - p.2.2) / entry * 100)
    (fun _ => rfl) hseen
  have hlen := congrArg List.length hseen
  rw [List.length_map, List.length_map] at hlen
  unfold evaluateWindow
  simp only [hindex, hhits]
  refine ⟨rfl, ?_, ?_, rfl, rfl, ?_, hcomplete.1, rfl, hcomplete.2, he, hlen⟩
  · split
    · simp only [hfall]
    · simp only [hrise]
  · split
    · simp only [hrise]
    · simp only [hfall]
  · simp only [hcomplete.1]

/-! ## 4. Candles against the window of a decision -/

/-- The bars of a candle list in the window of a decision; none where its bounds are unreadable. -/
def windowBars (decisionTimestamp dueAt : TimeText) (candles : List RawCandle) : List Bar :=
  match readWindow decisionTimestamp dueAt with
  | .ok w => bars w candles
  | .error _ => []

/-- No two bars of the window contradict each other. -/
def NoConflict (decisionTimestamp dueAt : TimeText) (candles : List RawCandle) : Prop :=
  ∀ w, readWindow decisionTimestamp dueAt = .ok w → Consistent w candles

/-- A candle that leaves the result of `candles` alone: one of them again, one the window passes
    over, or a well-formed one later than a bar that touches. -/
def Harmless (side : String) (stop target : ℚ) (w : Window) (candles : List RawCandle)
    (c : RawCandle) : Prop :=
  c ∈ candles ∨ Outside w c ∨ ∃ b, readCandle w c = .bar b ∧
    ∃ t ∈ bars w candles, touches side stop target t = true ∧ t.time < b.time

theorem bars_append (w : Window) (candles candles' : List RawCandle) :
    bars w (candles ++ candles') = bars w candles ++ bars w candles' := by
  unfold bars
  exact List.filterMap_append

theorem mem_bars_perm {w : Window} {candles candles' : List RawCandle}
    (h : candles'.Perm candles) (b : Bar) : b ∈ bars w candles' ↔ b ∈ bars w candles :=
  (h.filterMap _).mem_iff

theorem consistent_perm {w : Window} {candles candles' : List RawCandle}
    (h : candles'.Perm candles) (hc : Consistent w candles) : Consistent w candles' :=
  consistent_subset hc fun b hb => (mem_bars_perm h b).mp hb

section Invariance

variable {decisionTimestamp dueAt : TimeText} {w : Window} {side : String} {stop target : ℚ}
  {candles extra candles' : List RawCandle}

/-- The bar of a harmless candle is one of the list's, or later than its terminal bar. -/
theorem bar_of_harmless (hextra : ∀ c ∈ extra, Harmless side stop target w candles c) {b : Bar}
    (hb : b ∈ bars w (extra ++ candles)) :
    b ∈ bars w candles ∨
      ∃ t ∈ bars w candles, touches side stop target t = true ∧ t.time < b.time := by
  rw [bars_append] at hb
  rcases List.mem_append.mp hb with hb | hb
  · obtain ⟨c, hc, hr⟩ := mem_bars.mp hb
    rcases hextra c hc with hin | hout | ⟨b', hr', t, ht, htouch, hlt⟩
    · exact .inl (mem_bars.mpr ⟨c, hin, hr⟩)
    · rw [readCandle_of_outside hout] at hr
      cases hr
    · rw [hr'] at hr
      cases hr
      exact .inr ⟨t, ht, htouch, hlt⟩
  · exact .inl hb

/-- Harmless candles leave the scan alone. -/
theorem sameScan_of_harmless (hw : readWindow decisionTimestamp dueAt = .ok w)
    (hperm : candles'.Perm (extra ++ candles)) (hc : Consistent w (extra ++ candles))
    (hextra : ∀ c ∈ extra, Harmless side stop target w candles c) :
    SameScan side stop target (normalizeCandleWindow candles decisionTimestamp dueAt).candles
      (normalizeCandleWindow candles' decisionTimestamp dueAt).candles := by
  have hsub : ∀ b ∈ bars w candles, b ∈ bars w (extra ++ candles) := fun b hb => by
    rw [bars_append]
    exact List.mem_append_right _ hb
  have hcl : Consistent w candles := consistent_subset hc hsub
  have hcl' : Consistent w candles' := consistent_perm hperm hc
  have hmem := mem_points hw hcl
  have hmem' := mem_points hw hcl'
  have htimed := (normalizeCandleWindow candles decisionTimestamp dueAt).timed
  have htimed' := (normalizeCandleWindow candles' decisionTimestamp dueAt).timed
  generalize (normalizeCandleWindow candles decisionTimestamp dueAt).candles = l at *
  generalize (normalizeCandleWindow candles' decisionTimestamp dueAt).candles = l' at *
  have hbars' : ∀ b, b ∈ bars w candles' ↔ b ∈ bars w (extra ++ candles) := mem_bars_perm hperm
  have hkey : ∀ b : Bar, (fun p : ℤ × ℚ × ℚ => p.1) b.point = b.time := fun _ => rfl
  cases hhit : firstHit (touches side stop target) l with
  | none =>
    -- nothing touches, so no candle is later than one that does
    have hquiet : ∀ t ∈ bars w candles, touches side stop target t = false := by
      intro t ht
      obtain ⟨e, he, hp⟩ := List.mem_map.mp ((hmem t.point).mpr (List.mem_map_of_mem ht))
      rw [← touches_congr hp]
      exact firstHit_eq_none.mp hhit e he
    refine sameScan_of_points (map_eq_of_timed hkey htimed htimed' fun p => ?_)
    rw [hmem, hmem']
    constructor
    · intro hp
      obtain ⟨b, hb, rfl⟩ := List.mem_map.mp hp
      exact List.mem_map_of_mem ((hbars' b).mpr (hsub b hb))
    · intro hp
      obtain ⟨b, hb, rfl⟩ := List.mem_map.mp hp
      rcases bar_of_harmless hextra ((hbars' b).mp hb) with hin | ⟨t, ht, htouch, -⟩
      · exact List.mem_map_of_mem hin
      · rw [hquiet t ht] at htouch
        cases htouch
  | some r =>
    obtain ⟨i, e⟩ := r
    obtain ⟨-, -, hfirst, -⟩ := firstHit_timed htimed hhit
    refine sameScan_of_upTo htimed htimed' hhit
      (map_eq_of_timed hkey (timed_upTo htimed) (timed_upTo htimed') fun p => ?_)
    simp only [List.mem_map, mem_upTo] at hmem hmem' ⊢
    constructor
    · intro ⟨b, ⟨hb, hle⟩, hp⟩
      obtain ⟨c, hc', hcp⟩ := (hmem p).mp ⟨b, hb, hp⟩
      obtain ⟨b', hb', hbp'⟩ := (hmem' p).mpr ⟨c, (hbars' c).mpr (hsub c hc'), hcp⟩
      refine ⟨b', ⟨hb', ?_⟩, hbp'⟩
      rw [← hkey b', hbp', ← hp]
      exact hle
    · intro ⟨b, ⟨hb, hle⟩, hp⟩
      obtain ⟨c, hc', hcp⟩ := (hmem' p).mp ⟨b, hb, hp⟩
      have htime : c.time = b.time := by rw [← hkey c, hcp, ← hp]; rfl
      rcases bar_of_harmless hextra ((hbars' c).mp hc') with hin | ⟨t, ht, htouch, hlt⟩
      · obtain ⟨b', hb', hbp'⟩ := (hmem p).mpr ⟨c, hin, hcp⟩
        refine ⟨b', ⟨hb', ?_⟩, hbp'⟩
        rw [← hkey b', hbp', ← hp]
        exact hle
      · -- a later candle lies beyond the terminal bar
        obtain ⟨e', he', hep⟩ := (hmem t.point).mpr ⟨t, ht, rfl⟩
        have hte : e.time ≤ t.time := by
          have hle' := hfirst e' he' (by rw [touches_congr hep]; exact htouch)
          rwa [(Prod.mk.inj hep).1] at hle'
        omega

/-- Harmless candles leave the defects alone. -/
theorem errors_of_harmless (hw : readWindow decisionTimestamp dueAt = .ok w)
    (hperm : candles'.Perm (extra ++ candles)) (hc : Consistent w (extra ++ candles))
    (hextra : ∀ c ∈ extra, Harmless side stop target w candles c) :
    (normalizeCandleWindow candles decisionTimestamp dueAt).errors.image MissingField.unplaced =
      (normalizeCandleWindow candles' decisionTimestamp dueAt).errors.image
        MissingField.unplaced := by
  have hcl : Consistent w candles := consistent_subset hc fun b hb => by
    rw [bars_append]
    exact List.mem_append_right _ hb
  have hcl' : Consistent w candles' := consistent_perm hperm hc
  have hdefect : ∀ {L : List RawCandle}, Consistent w L → ∀ f,
      f ∈ (normalizeCandleWindow L decisionTimestamp dueAt).errors.image MissingField.unplaced ↔
        ∃ d, f = .candle 0 d ∧ ∃ c ∈ L, readCandle w c = .malformed d := by
    intro L hL f
    rw [Finset.mem_image]
    constructor
    · intro ⟨g, hg, hgf⟩
      obtain ⟨i, d, rfl⟩ := errors_of_consistent hw hL hg
      obtain ⟨c, hci, hr⟩ := (candle_mem_errors hw L i d).mp hg
      exact ⟨d, hgf.symm, c, List.mem_of_getElem? hci, hr⟩
    · intro ⟨d, hf, c, hcL, hr⟩
      obtain ⟨i, hi⟩ := List.mem_iff_getElem?.mp hcL
      exact ⟨.candle i d, (candle_mem_errors hw L i d).mpr ⟨c, hi, hr⟩, hf.symm⟩
  ext f
  rw [hdefect hcl, hdefect hcl']
  refine exists_congr fun d => and_congr_right fun _ => ?_
  constructor
  · intro ⟨c, hin, hr⟩
    exact ⟨c, hperm.mem_iff.mpr (List.mem_append_right _ hin), hr⟩
  · intro ⟨c, hin, hr⟩
    rcases List.mem_append.mp (hperm.mem_iff.mp hin) with hin | hin
    · rcases hextra c hin with hin | hout | ⟨b, hr', -⟩
      · exact ⟨c, hin, hr⟩
      · rw [readCandle_of_outside hout] at hr
        cases hr
      · rw [hr'] at hr
        cases hr
    · exact ⟨c, hin, hr⟩

/-- The label of a window is that of its earliest bar that touches. -/
theorem label_of_earliest (hw : readWindow decisionTimestamp dueAt = .ok w)
    (hc : Consistent w candles) {b : Bar} (hb : b ∈ bars w candles)
    (htouch : touches side stop target b = true)
    (hfirst : ∀ b' ∈ bars w candles, touches side stop target b' = true → b.time ≤ b'.time) :
    ∃ i e, firstHit (touches side stop target)
      (normalizeCandleWindow candles decisionTimestamp dueAt).candles = some (i, e) ∧
      e.hits side stop target = b.hits side stop target := by
  have htimed := (normalizeCandleWindow candles decisionTimestamp dueAt).timed
  obtain ⟨b', hb', hp⟩ := List.mem_map.mp ((mem_points hw hc b.point).mpr (List.mem_map_of_mem hb))
  have htouch' : touches side stop target b' = true := by rw [touches_congr hp, htouch]
  cases hhit : firstHit (touches side stop target)
      (normalizeCandleWindow candles decisionTimestamp dueAt).candles with
  | none =>
    rw [firstHit_eq_none.mp hhit b' hb'] at htouch'
    cases htouch'
  | some r =>
    obtain ⟨i, e⟩ := r
    obtain ⟨he, hte, hmin, -⟩ := firstHit_timed htimed hhit
    have hle : e.time ≤ b'.time := hmin b' hb' htouch'
    have hge : b.time ≤ e.time := hfirst e (mem_bars_of_normalized hw he) hte
    have hbt : b'.time = b.time := (Prod.mk.inj hp).1
    have heq : e = b' := timed_inj htimed he hb' (by omega)
    exact ⟨i, e, rfl, by rw [heq, hits_congr hp]⟩

end Invariance

/-! ## 5. The label -/

/-- The label of `o` is that of the earliest bar that touches, AMBIGUOUS exactly when that bar
    touches both; TIMEOUT where none touches. -/
structure LabelledByEarliest (side : String) (stop target : ℚ) (bars : List Bar) (o : Outcome) :
    Prop where
  timeout : (∀ b ∈ bars, touches side stop target b = false) →
    o.forwardLabel = some .TIMEOUT ∧ o.ambiguous = false
  earliest : ∀ b ∈ bars, touches side stop target b = true →
    (∀ b' ∈ bars, touches side stop target b' = true → b.time ≤ b'.time) →
      o.forwardLabel = some (labelOf (b.hits side stop target)) ∧
      (o.forwardLabel = some .AMBIGUOUS ↔
        (b.hits side stop target).1 = true ∧ (b.hits side stop target).2 = true) ∧
      (o.ambiguous = true ↔ o.forwardLabel = some .AMBIGUOUS)

theorem labelOf_eq_ambiguous (hits : Bool × Bool) :
    labelOf hits = .AMBIGUOUS ↔ hits.1 = true ∧ hits.2 = true := by
  obtain ⟨sl, tp⟩ := hits
  cases sl <;> cases tp <;> decide

theorem evaluateWindow_labelled {side : String} {entry stop target : ℚ}
    {decisionTimestamp dueAt : TimeText} {candles : List RawCandle}
    (hc : NoConflict decisionTimestamp dueAt candles) (timeframe : Option Timeframe)
    (horizonBars : Option ℤ) :
    LabelledByEarliest side stop target (windowBars decisionTimestamp dueAt candles)
      (evaluateWindow side entry stop target timeframe horizonBars
        (normalizeCandleWindow candles decisionTimestamp dueAt)) := by
  unfold windowBars
  cases hw : readWindow decisionTimestamp dueAt with
  | error f =>
    refine ⟨fun _ => ?_, fun b hb => absurd hb List.not_mem_nil⟩
    unfold evaluateWindow
    rw [(normalize_of_error hw candles).1]
    exact ⟨rfl, rfl⟩
  | ok w =>
    refine ⟨fun hquiet => ?_, fun b hb htouch hfirst => ?_⟩
    · have hnone : firstHit (touches side stop target)
          (normalizeCandleWindow candles decisionTimestamp dueAt).candles = none :=
        firstHit_eq_none.mpr fun b hb => hquiet b (mem_bars_of_normalized hw hb)
      unfold evaluateWindow
      simp only [hnone]
      exact ⟨rfl, rfl⟩
    · obtain ⟨i, e, hhit, hhits⟩ := label_of_earliest hw (hc w hw) hb htouch hfirst
      unfold evaluateWindow
      simp only [hhit, Option.map_some, Option.elim_some, hhits, Option.any_some, beq_iff_eq,
        Option.some.injEq, labelOf_eq_ambiguous, and_self]

/-- A geometry without errors has three numbers. -/
theorem numbers_of_geometry {side : String} {entry stop target : Scalar}
    (h : geometryErrors side entry stop target = ∅) :
    ∃ e s t, entry.number? = some e ∧ stop.number? = some s ∧ target.number? = some t := by
  unfold geometryErrors at h
  cases he : entry.number? with
  | none => rw [he] at h; simp at h
  | some e =>
    cases hs : stop.number? with
    | none => rw [he, hs] at h; simp at h
    | some s =>
      cases ht : target.number? with
      | none => rw [he, hs, ht] at h; simp at h
      | some t => exact ⟨e, s, t, rfl, rfl, rfl⟩

/-- **The forward label.** For candles of which no two contradict each other: a valid geometry is
    labelled by the earliest bar of `(t0, due]` that touches the stop or the target, AMBIGUOUS
    exactly when that bar touches both; and the outcome is unchanged by order, repetition, candles
    outside the window and well-formed candles later than the terminal one. -/
theorem forward_label (side : String) (entry stop target : Scalar)
    (decisionTimestamp dueAt : TimeText) (timeframe : Option Timeframe) (horizonBars : Option ℤ)
    (candles extra candles' : List RawCandle)
    (hc : NoConflict decisionTimestamp dueAt (extra ++ candles))
    (hperm : candles'.Perm (extra ++ candles))
    (hextra : ∀ s t, stop.number? = some s → target.number? = some t →
      ∀ w, readWindow decisionTimestamp dueAt = .ok w →
        ∀ c ∈ extra, Harmless side s t w candles c) :
    (geometryErrors side entry stop target = ∅ →
      ∃ s t, stop.number? = some s ∧ target.number? = some t ∧
        LabelledByEarliest side s t (windowBars decisionTimestamp dueAt candles)
          (evaluateForwardOutcome side entry stop target decisionTimestamp dueAt timeframe
            horizonBars candles)) ∧
    Agree
      (evaluateForwardOutcome side entry stop target decisionTimestamp dueAt timeframe
        horizonBars candles)
      (evaluateForwardOutcome side entry stop target decisionTimestamp dueAt timeframe
        horizonBars candles') := by
  have hcl : NoConflict decisionTimestamp dueAt candles := fun w hw =>
    consistent_subset (hc w hw) fun b hb => by
      rw [bars_append]
      exact List.mem_append_right _ hb
  unfold evaluateForwardOutcome
  by_cases hgeo : geometryErrors side entry stop target = ∅
  · obtain ⟨e, s, t, he, hs, ht⟩ := numbers_of_geometry hgeo
    simp only [if_neg (not_not.mpr hgeo), he, hs, ht]
    refine ⟨fun _ => ⟨s, t, rfl, rfl, evaluateWindow_labelled hcl timeframe horizonBars⟩, ?_⟩
    cases hw : readWindow decisionTimestamp dueAt with
    | error f =>
      have hsame : normalizeCandleWindow candles decisionTimestamp dueAt =
          normalizeCandleWindow candles' decisionTimestamp dueAt := by
        unfold normalizeCandleWindow
        rw [hw]
      rw [hsame]
      exact agree_refl _
    | ok w =>
      have hharmless := hextra s t hs ht w hw
      refine evaluateWindow_agree ?_ (errors_of_harmless hw hperm (hc w hw) hharmless)
        (sameScan_of_harmless hw hperm (hc w hw) hharmless) timeframe horizonBars
      rw [(normalize_of_ok hw candles).1, (normalize_of_ok hw candles').1]
  · simp only [if_pos hgeo]
    exact ⟨fun h => absurd h hgeo, agree_refl _⟩

/-- A closed candle at `seconds` after the decision. -/
def sampleCandle (seconds : ℤ) (high low : ℚ) : RawCandle :=
  .mapping
    { isClosed := .none, closed := .none
      timestamp := some ⟨"", some ⟨some 0, seconds * 1000000⟩⟩
      openTime := none, time := none, high := .float high, low := .float low }

/-- The decision and ten minutes later. -/
def sampleDecision : TimeText := ⟨"1970-01-01T00:00:00+00:00", some ⟨some 0, 0⟩⟩
def sampleDue : TimeText := ⟨"1970-01-01T00:10:00+00:00", some ⟨some 0, 600000000⟩⟩

/-- The outcome of a LONG decision at 100 with stop 90 and target 110. -/
def sampleOutcome (candles : List RawCandle) : Outcome :=
  evaluateForwardOutcome "LONG" (.float 100) (.float 90) (.float 110) sampleDecision sampleDue none
    none candles

def sampleWindow : Window := ⟨⟨some 0, 0⟩, ⟨some 0, 600000000⟩, rfl, by decide⟩

theorem readWindow_sample {w : Window} (h : readWindow sampleDecision sampleDue = .ok w) :
    w = sampleWindow :=
  (Except.ok.inj h).symm

theorem forward_label_sample :
    Agree (sampleOutcome [sampleCandle 120 105 85, sampleCandle 60 101 99])
      (sampleOutcome [sampleCandle 60 101 99, sampleCandle 300 112 108, sampleCandle 120 105 85,
        sampleCandle 900 200 1, sampleCandle 60 101 99]) ∧
    (sampleOutcome [sampleCandle 120 105 85, sampleCandle 60 101 99]).forwardLabel =
      some .SL_BEFORE_TP := by
  refine ⟨(forward_label "LONG" (.float 100) (.float 90) (.float 110) sampleDecision sampleDue none
    none [sampleCandle 120 105 85, sampleCandle 60 101 99]
    [sampleCandle 60 101 99, sampleCandle 300 112 108, sampleCandle 900 200 1] _ ?_ ?_ ?_).2,
    by decide +kernel⟩
  · intro w hw
    rw [readWindow_sample hw]
    unfold Consistent
    decide +kernel
  · decide +kernel
  · intro s t hs ht w hw c hc
    cases hs
    cases ht
    rw [readWindow_sample hw]
    rcases List.mem_cons.mp hc with rfl | hc
    · exact .inl (by decide +kernel)
    · rcases List.mem_cons.mp hc with rfl | hc
      · exact .inr (.inr ⟨⟨⟨some 0, 300000000⟩, 112, 108, by decide +kernel⟩, by decide +kernel,
          ⟨⟨some 0, 120000000⟩, 105, 85, by decide +kernel⟩, by decide +kernel, by decide +kernel,
          by decide⟩)
      · rw [List.mem_singleton.mp hc]
        exact .inr (.inl (.inr ⟨⟨some 0, 900000000⟩, rfl, rfl, by decide⟩))

/-- **Contradicting candles are labelled by their order**, a decision without a valid geometry is
    not labelled, and the report of an unreadable candle names its place. -/
theorem conflicting_candles :
    (sampleOutcome [sampleCandle 60 112 95, sampleCandle 60 105 85]).forwardLabel =
      some .TP_BEFORE_SL ∧
    (sampleOutcome [sampleCandle 60 105 85, sampleCandle 60 112 95]).forwardLabel =
      some .SL_BEFORE_TP ∧
    (evaluateForwardOutcome "LONG" (.float 100) (.float 100) (.float 110) sampleDecision sampleDue
      none none [sampleCandle 60 112 95]).forwardLabel = none ∧
    (sampleOutcome [sampleCandle 900 1 1, .notMapping]).missingFields ≠
      (sampleOutcome [.notMapping]).missingFields := by
  decide +kernel

end AlphaForge.Candles
