/-
  File:      AlphaForge/WalkForward/Contract.lean
  Subject:   `walk_forward.py`: `WalkForwardContract`, its checks, `partition` and `calibrate`.

  A contract is a list of segments of time that is checked when it is built. A dataset is split over
  the segments, and a calibration sees the rows of the calibration segments that its target names.

  * `bounds_ordered` -- of two segments the later one starts after the earlier one has ended.
  * **`partition_exact`** -- a dataset that is accepted is split exactly: every segment gets the
    rows inside it in their order, and every row is inside exactly one segment.
  * **`calibrate_causal`** -- two accepted datasets that agree before the start of the target are
    calibrated alike.

  Of a row only what places it is spelled out; the rest is its evidence, which is only passed on.
-/
import AlphaForge.Lib.Checks
import AlphaForge.Lib.Json
import AlphaForge.Lib.Occurrences
import AlphaForge.Lib.Ranking

namespace AlphaForge.WalkForward

open AlphaForge.Lib

/-! ## 1. Segments -/

inductive SegmentRole where
  | calibration
  | oosValidation
  | untouchedTest
  deriving DecidableEq, Repr

/-- `SearchSelectionLineage`, with what `__post_init__` checks of it. -/
structure SearchSelectionLineage where
  lineageId : String
  candidateVariantIds : List String
  evidenceEvaluationCount : ℤ
  influencedSelection : Bool
  declaredFresh : Bool
  complete : lineageId ≠ "" ∧ candidateVariantIds ≠ [] ∧ "" ∉ candidateVariantIds ∧
    (candidateVariantIds.length : ℤ) ≤ evidenceEvaluationCount
  fresh : declaredFresh = true → ¬ (1 < evidenceEvaluationCount ∨ 1 < candidateVariantIds.length ∨
    influencedSelection = true)
  deriving DecidableEq

/-- `promotion_admissible`. -/
def SearchSelectionLineage.promotionAdmissible (l : SearchSelectionLineage) : Prop :=
  l.declaredFresh = true ∧ l.influencedSelection = false ∧ l.evidenceEvaluationCount = 1 ∧
    l.candidateVariantIds.length = 1

instance (l : SearchSelectionLineage) : Decidable l.promotionAdmissible :=
  inferInstanceAs (Decidable (_ ∧ _))

inductive UniverseMode where
  | pointInTime
  | fixed
  deriving DecidableEq, Repr

structure Membership where
  symbol : String
  start : String
  stop : Option String
  deriving DecidableEq, Repr

/-- `UniverseProvenance`, with what `__post_init__` checks of it. -/
structure UniverseProvenance where
  mode : UniverseMode
  identity : String
  sourceIdentity : String
  symbols : List String
  memberships : List Membership
  survivorshipBiasProtected : Bool
  complete : identity ≠ "" ∧ sourceIdentity ≠ "" ∧ symbols ≠ []
  fixed : mode = .fixed → memberships = [] ∧ survivorshipBiasProtected = false
  pointInTime : mode = .pointInTime → memberships ≠ [] ∧ survivorshipBiasProtected = true

structure Segment where
  segmentId : String
  windowId : String
  role : SegmentRole
  start : String
  stop : String
  gitSha : String
  strategyConfigHash : String
  configHash : String
  dataHash : String
  universeIdentity : String
  frozenAt : String
  calibrationSegmentIds : List String
  searchSelectionLineage : Option SearchSelectionLineage
  deriving DecidableEq

/-- A row of a dataset. -/
structure HistoricalRow (E : Type) where
  rowId : String
  timestamp : String
  symbol : String
  evidence : E
  deriving DecidableEq

/-- What the contract takes from the language. -/
structure Clock where
  /-- `datetime.fromisoformat(value.replace("Z", "+00:00"))`; `none` where it raises. -/
  read : String → Option Dt
  /-- `repr(value)`. -/
  repr : String → String

variable (clock : Clock)

/-- `_timestamp`, in microseconds of UTC. -/
def timestamp (value : String) : Except PyError ℤ :=
  match clock.read value with
  | none => .error (.valueError ("invalid UTC timestamp: " ++ clock.repr value))
  | some d =>
    if d.aware then .ok d.micros
    else .error (.valueError ("timestamp must include a timezone: " ++ clock.repr value))

/-- `segment.contains(timestamp)`. -/
def Segment.contains (s : Segment) (value : String) : Except PyError Bool := do
  let start ← timestamp clock s.start
  let point ← timestamp clock value
  if start ≤ point then
    let stop ← timestamp clock s.stop
    return decide (point < stop)
  else return false

/-- `membership.contains(timestamp)`. -/
def Membership.contains (m : Membership) (value : String) : Except PyError Bool := do
  let point ← timestamp clock value
  let start ← timestamp clock m.start
  if start ≤ point then
    match m.stop with
    | none => return true
    | some text => do
      let stop ← timestamp clock text
      return decide (point < stop)
  else return false

/-- `any(item.symbol == symbol and item.contains(timestamp) for item in memberships)`. -/
def anyContains (symbol value : String) : List Membership → Except PyError Bool
  | [] => .ok false
  | m :: rest =>
    if m.symbol = symbol then do
      let inside ← m.contains clock value
      if inside then return true else anyContains symbol value rest
    else anyContains symbol value rest

/-- `universe.admits(symbol, timestamp)`. -/
def UniverseProvenance.admits (u : UniverseProvenance) (symbol value : String) :
    Except PyError Bool :=
  match u.mode with
  | .fixed => .ok (symbol ∈ u.symbols)
  | .pointInTime => anyContains clock symbol value u.memberships

/-! ## 2. The checks of a contract -/

/-- `character in "0123456789abcdefABCDEF"`. -/
def isHex (c : Char) : Bool := "0123456789abcdefABCDEF".toList.contains c

/-- The check of the provenance of a segment. -/
def checkProvenance (s : Segment) : Except PyError Unit := do
  refuseIf (s.gitSha.length ≠ 40 ∨ (s.gitSha.toList.any fun c => !isHex c) = true ∨
    ([s.strategyConfigHash, s.configHash, s.dataHash, s.universeIdentity].any
      fun value => value.length ≠ 64) = true) "segment immutable provenance is invalid"
  let frozen ← timestamp clock s.frozenAt
  let start ← timestamp clock s.start
  refuseIf (start < frozen) "segment immutable provenance is invalid"

/-- The key of the chronological order, once every start is known to be a time. -/
def startOf (s : Segment) : ℤ :=
  match timestamp clock s.start with
  | .ok t => t
  | .error _ => 0

/-- `ordered`. -/
def ordered (segments : List Segment) : List Segment := sortOn (startOf clock) segments

/-- The check of two neighbours. -/
def checkNeighbours : List Segment → Except PyError Unit
  | previous :: current :: rest => do
    let start ← timestamp clock current.start
    let stop ← timestamp clock previous.stop
    refuseIf (start < stop) "segments must not overlap"
    checkNeighbours (current :: rest)
  | _ => .ok ()

/-- The last segment of an id. -/
def byId (segments : List Segment) (id : String) : Option Segment :=
  segments.reverse.find? fun s => s.segmentId = id

/-- The check of one calibration source of a segment. -/
def checkSource (segments : List Segment) (s : Segment) (sourceId : String) : Except PyError Unit :=
  match byId segments sourceId with
  | none => .error (.valueError "validation/test data cannot be a calibration source")
  | some source => do
    refuseIf (source.role ≠ .calibration) "validation/test data cannot be a calibration source"
    let stop ← timestamp clock source.stop
    let start ← timestamp clock s.start
    refuseIf (start < stop) "future rows cannot influence an earlier OOS segment"

/-- The check of what a segment is calibrated on. -/
def checkSources (segments : List Segment) (s : Segment) : Except PyError Unit :=
  if s.role = .calibration then
    refuseIf (s.calibrationSegmentIds ≠ []) "calibration segments cannot have fitted-data sources"
  else
    match s.searchSelectionLineage with
    | none => .error (.valueError "OOS/test segments require search/selection lineage")
    | some lineage => do
      refuseIf (s.role = .untouchedTest ∧ ¬ lineage.promotionAdmissible)
        "UNTOUCHED_TEST evidence must be fresh and untouched"
      refuseIf (s.calibrationSegmentIds = [])
        "OOS/test segments require explicit calibration sources"
      s.calibrationSegmentIds.forM (checkSource clock segments s)

/-- The check of a window: its calibration ends before its evaluation starts. -/
def checkWindow (segments : List Segment) (windowId : String) : Except PyError Unit := do
  let window := segments.filter fun s => s.windowId = windowId
  let calibration := window.filter fun s => s.role = .calibration
  let evaluation := window.filter fun s => s.role ≠ .calibration
  refuseIf (evaluation ≠ [] ∧ calibration = []) "each OOS/test window requires prior calibration"
  if calibration ≠ [] ∧ evaluation ≠ [] then
    let stops ← calibration.mapM fun s => timestamp clock s.stop
    let starts ← evaluation.mapM fun s => timestamp clock s.start
    -- the largest end lies after the smallest start
    refuseIf (∃ stop ∈ stops, ∃ start ∈ starts, start < stop)
      "future rows cannot influence an earlier OOS segment"

/-- `__post_init__`. The windows are visited in some order. -/
def checkContract (segments : List Segment) (u : UniverseProvenance) : Except PyError Unit := do
  refuseIf (segments = []) "walk-forward validation requires segments"
  segments.forM (checkProvenance clock)
  refuseIf (segments ≠ ordered clock segments) "segments must be chronological"
  refuseIf (∃ s ∈ segments, s.universeIdentity ≠ u.identity)
    "segment universe provenance does not match the contract"
  refuseIf (¬ (segments.map Segment.segmentId).Nodup) "segment ids must be unique"
  checkNeighbours clock segments
  refuseIf (¬ ∃ s ∈ segments, s.role = .calibration) "calibration evidence is required"
  refuseIf (¬ ∃ s ∈ segments, s.role = .oosValidation) "OOS validation evidence is required"
  segments.forM (checkSources clock segments)
  (segments.map Segment.windowId).dedup.forM (checkWindow clock segments)

/-- `WalkForwardContract`: segments and a universe that pass the checks. -/
structure WalkForwardContract where
  segments : List Segment
  provenance : UniverseProvenance
  accepted : checkContract clock segments provenance = .ok ()

/-! ## 3. Partition and calibration -/

variable {E : Type} {clock} (c : WalkForwardContract clock)

/-- `partitioned[key].append(row)`. -/
def appendRow (partitioned : List (String × List (HistoricalRow E))) (key : String)
    (row : HistoricalRow E) : List (String × List (HistoricalRow E)) :=
  partitioned.map fun e => if e.1 = key then (e.1, e.2 ++ [row]) else e

/-- One round of the loop of `partition`: the rows seen and the rows of each segment. -/
def place (state : List String × List (String × List (HistoricalRow E))) (row : HistoricalRow E) :
    Except PyError (List String × List (String × List (HistoricalRow E))) := do
  refuseIf (row.rowId = "" ∨ row.rowId ∈ state.1)
    "historical row identity must be present and unique"
  let found ← selectM (fun s => s.contains clock row.timestamp) c.segments
  match found with
  | [s] => do
    let admitted ← c.provenance.admits clock row.symbol row.timestamp
    refuseIf (admitted = false) ("row " ++ row.rowId ++ " is outside the declared universe")
    return (row.rowId :: state.1, appendRow state.2 s.segmentId row)
  | _ => .error (.valueError ("row " ++ row.rowId ++ " does not belong to exactly one segment"))

/-- `partition`. -/
def partition (rows : List (HistoricalRow E)) :
    Except PyError (List (String × List (HistoricalRow E))) := do
  let final ← rows.foldlM (place c) ([], c.segments.map fun s => (s.segmentId, []))
  return final.2

/-- The rows that a calibration sees, with its target. -/
def calibrationRows (rows : List (HistoricalRow E)) (targetSegmentId : String) :
    Except PyError (List (HistoricalRow E)) := do
  let partitioned ← partition c rows
  match c.segments.find? fun s => s.segmentId = targetSegmentId with
  | none => .error (.valueError "calibration target must be an OOS/test segment")
  | some target => do
    refuseIf (target.role = .calibration) "calibration target must be an OOS/test segment"
    let parts ← (c.segments.filter fun s => s.segmentId ∈ target.calibrationSegmentIds).mapM
      fun s =>
      match partitioned.lookup s.segmentId with
      | some part => .ok part
      | none => .error (.keyError s.segmentId)
    return parts.flatten

/-- `calibrate`: what the calibrator returns or raises on the rows it sees. -/
def calibrate {T : Type} (rows : List (HistoricalRow E)) (targetSegmentId : String)
    (calibrator : List (HistoricalRow E) → Except PyError T) : Except PyError T := do
  let seen ← calibrationRows c rows targetSegmentId
  calibrator seen

/-! ## 4. Segments are apart -/

section Apart

variable {c}

/-- A value is inside a segment. -/
theorem contains_iff {s : Segment} {value : String} : s.contains clock value = .ok true ↔
    ∃ start point stop, timestamp clock s.start = .ok start ∧ timestamp clock value = .ok point ∧
      timestamp clock s.stop = .ok stop ∧ start ≤ point ∧ point < stop := by
  unfold Segment.contains
  constructor
  · intro h
    obtain ⟨start, hstart, h⟩ := ok_of_bind h
    obtain ⟨point, hpoint, h⟩ := ok_of_bind h
    split at h
    · rename_i hle
      obtain ⟨stop, hstop, h⟩ := ok_of_bind h
      exact ⟨start, point, stop, hstart, hpoint, hstop, hle, of_decide_eq_true (Except.ok.inj h)⟩
    · cases h
  · intro ⟨start, point, stop, hstart, hpoint, hstop, hle, hlt⟩
    rw [hstart, ok_bind, hpoint, ok_bind, if_pos hle, hstop, ok_bind, decide_eq_true hlt]
    rfl

theorem startOf_eq {s : Segment} {t : ℤ} (h : timestamp clock s.start = .ok t) :
    startOf clock s = t := by
  unfold startOf
  rw [h]

variable (clock) in
/-- What an accepted contract is known to satisfy. -/
structure Accepted (segments : List Segment) : Prop where
  sorted : segments.Pairwise fun a b => startOf clock a ≤ startOf clock b
  ids : (segments.map Segment.segmentId).Nodup
  neighbours : checkNeighbours clock segments = .ok ()
  starts : ∀ s ∈ segments, ∃ t, timestamp clock s.start = .ok t
  sources : ∀ s ∈ segments, checkSources clock segments s = .ok ()

theorem accepted_of_check (c : WalkForwardContract clock) : Accepted clock c.segments := by
  have h := c.accepted
  unfold checkContract at h
  obtain ⟨_, _, h⟩ := ok_of_bind h
  obtain ⟨_, hprovenance, h⟩ := ok_of_bind h
  obtain ⟨_, hordered, h⟩ := ok_of_bind h
  obtain ⟨_, _, h⟩ := ok_of_bind h
  obtain ⟨_, hids, h⟩ := ok_of_bind h
  obtain ⟨_, hneighbours, h⟩ := ok_of_bind h
  obtain ⟨_, _, h⟩ := ok_of_bind h
  obtain ⟨_, _, h⟩ := ok_of_bind h
  obtain ⟨_, hsources, _⟩ := ok_of_bind h
  refine ⟨?_, not_not.mp (refuseIf_ok.mp hids), hneighbours, fun s hs => ?_,
    fun s hs => forM_ok_iff.mp hsources s hs⟩
  · have hsorted : (ordered clock c.segments).Pairwise fun a b => startOf clock a ≤
      startOf clock b :=
      pairwise_sortOn c.segments
    rwa [← not_not.mp (refuseIf_ok.mp hordered)] at hsorted
  · have hcheck := forM_ok_iff.mp hprovenance s hs
    unfold checkProvenance at hcheck
    obtain ⟨_, _, hcheck⟩ := ok_of_bind hcheck
    obtain ⟨_, _, hcheck⟩ := ok_of_bind hcheck
    obtain ⟨start, hstart, _⟩ := ok_of_bind hcheck
    exact ⟨start, hstart⟩

/-- **The later of two segments starts after the earlier one has ended.** -/
theorem bounds_ordered {segments : List Segment}
    (hsorted : segments.Pairwise fun a b => startOf clock a ≤ startOf clock b)
    (hneighbours : checkNeighbours clock segments = .ok ()) :
    segments.Pairwise fun a b =>
      ∃ stop, timestamp clock a.stop = .ok stop ∧ stop ≤ startOf clock b := by
  induction segments with
  | nil => exact List.Pairwise.nil
  | cons a rest ih =>
    obtain ⟨ha, hrest⟩ := List.pairwise_cons.mp hsorted
    cases rest with
    | nil => exact List.pairwise_singleton _ _
    | cons b others =>
      unfold checkNeighbours at hneighbours
      obtain ⟨start, hstart, hneighbours⟩ := ok_of_bind hneighbours
      obtain ⟨stop, hstop, hneighbours⟩ := ok_of_bind hneighbours
      obtain ⟨_, hapart, hneighbours⟩ := ok_of_bind hneighbours
      have hle : stop ≤ startOf clock b := by
        rw [startOf_eq hstart]
        exact not_lt.mp (refuseIf_ok.mp hapart)
      refine List.pairwise_cons.mpr ⟨fun x hx => ⟨stop, hstop, ?_⟩, ih hrest hneighbours⟩
      rcases List.mem_cons.mp hx with rfl | htail
      · exact hle
      · exact le_trans hle ((List.pairwise_cons.mp hrest).1 x htail)

/-- **No value is inside two segments.** -/
theorem segments_disjoint (c : WalkForwardContract clock) :
    c.segments.Pairwise fun a b => ∀ value,
      ¬ (a.contains clock value = .ok true ∧ b.contains clock value = .ok true) := by
  have h := accepted_of_check c
  refine (bounds_ordered h.sorted h.neighbours).imp ?_
  intro a b ⟨stop, hstop, hle⟩ value ⟨ha, hb⟩
  obtain ⟨_, point, stop', _, hpoint, hstop', _, hlt⟩ := contains_iff.mp ha
  obtain ⟨start, point', _, hstart, hpoint', _, hge, _⟩ := contains_iff.mp hb
  rw [hstop] at hstop'
  rw [hpoint] at hpoint'
  cases hstop'
  cases hpoint'
  rw [startOf_eq hstart] at hle
  omega

/-- A value inside a segment is inside no other. -/
theorem contains_unique (c : WalkForwardContract clock) {s t : Segment} (hs : s ∈ c.segments)
    (ht : t ∈ c.segments) {value : String} (hsv : s.contains clock value = .ok true)
    (htv : t.contains clock value = .ok true) : s = t := by
  by_contra hne
  have hsymm : Std.Symm fun a b : Segment => ∀ value,
      ¬ (a.contains clock value = .ok true ∧ b.contains clock value = .ok true) :=
    ⟨fun _ _ h value hboth => h value ⟨hboth.2, hboth.1⟩⟩
  exact (segments_disjoint c).forall hs ht hne value ⟨hsv, htv⟩

end Apart

/-! ## 5. The split of a dataset -/

section Split

variable {c}

variable (clock) in
/-- The row is inside the segment. -/
def inside (s : Segment) (row : HistoricalRow E) : Bool :=
  holds (fun s => s.contains clock row.timestamp) s

theorem inside_iff {s : Segment} {row : HistoricalRow E} :
    inside clock s row = true ↔ s.contains clock row.timestamp = .ok true := holds_iff

/-- The rows of each segment, when `done` says which. -/
def rowsBySegment (c : WalkForwardContract clock) (done : Segment → List (HistoricalRow E)) :
    List (String × List (HistoricalRow E)) := c.segments.map fun s => (s.segmentId, done s)

theorem id_injective (c : WalkForwardContract clock) {s t : Segment} (hs : s ∈ c.segments)
    (ht : t ∈ c.segments) (h : s.segmentId = t.segmentId) : s = t :=
  List.inj_on_of_nodup_map (accepted_of_check c).ids hs ht h

/-- **A row that is placed is inside one segment, and goes there.** -/
theorem place_ok {seen : List String} {done : Segment → List (HistoricalRow E)}
    {row : HistoricalRow E} {state : List String × List (String × List (HistoricalRow E))}
    (h : place c (seen, rowsBySegment c done) row = .ok state) :
    (∃ t ∈ c.segments, inside clock t row = true) ∧
      state.2 = rowsBySegment c fun s => done s ++ [row].filter (inside clock s) := by
  unfold place at h
  obtain ⟨_, _, h⟩ := ok_of_bind h
  obtain ⟨found, hfound, h⟩ := ok_of_bind h
  obtain ⟨_, hfilter⟩ := selectM_ok hfound
  split at h
  · rename_i t
    obtain ⟨admitted, _, h⟩ := ok_of_bind h
    obtain ⟨_, _, h⟩ := ok_of_bind h
    have hmem : ∀ s, s ∈ c.segments ∧ inside clock s row = true ↔ s = t := by
      intro s
      have hs : s ∈ [t] ↔ s ∈ c.segments ∧ inside clock s row = true := by
        rw [hfilter, List.mem_filter]
        rfl
      rw [← hs, List.mem_singleton]
    obtain ⟨ht, hinside⟩ := (hmem t).mpr rfl
    refine ⟨⟨t, ht, hinside⟩, ?_⟩
    rw [← Except.ok.inj h]
    unfold appendRow rowsBySegment
    rw [List.map_map]
    refine List.map_congr_left fun s hs => ?_
    simp only [Function.comp_apply]
    by_cases hst : s = t
    · rw [if_pos (congrArg Segment.segmentId hst), hst, List.filter_cons_of_pos hinside]
      rfl
    · have hout : ¬ inside clock s row = true := fun hin => hst ((hmem s).mp ⟨hs, hin⟩)
      rw [if_neg fun hid => hst (id_injective c hs ht hid), List.filter_cons_of_neg hout,
        List.filter_nil, List.append_nil]
  · cases h

theorem place_all {rows : List (HistoricalRow E)} {seen : List String}
    {done : Segment → List (HistoricalRow E)}
    {state : List String × List (String × List (HistoricalRow E))}
    (h : rows.foldlM (place c) (seen, rowsBySegment c done) = .ok state) :
    (∀ row ∈ rows, ∃ t ∈ c.segments, inside clock t row = true) ∧
      state.2 = rowsBySegment c fun s => done s ++ rows.filter (inside clock s) := by
  induction rows generalizing seen done with
  | nil =>
    cases Except.ok.inj h
    refine ⟨List.forall_mem_nil _, ?_⟩
    simp only [List.filter_nil, List.append_nil]
  | cons row rest ih =>
    rw [List.foldlM_cons] at h
    obtain ⟨⟨seen', state'⟩, hplace, h⟩ := ok_of_bind h
    obtain ⟨hrow, hstate⟩ := place_ok hplace
    simp only at hstate
    rw [hstate] at h
    obtain ⟨hrest, hfinal⟩ := ih h
    refine ⟨List.forall_mem_cons.mpr ⟨hrow, hrest⟩, hfinal.trans ?_⟩
    unfold rowsBySegment
    refine List.map_congr_left fun s _ => ?_
    simp only [List.append_assoc, ← List.filter_append, List.singleton_append]

/-- **A dataset that is accepted is split exactly**: each segment gets the rows inside it, in their
    order, and every row is inside exactly one segment. -/
theorem partition_exact {rows : List (HistoricalRow E)}
    {partitioned : List (String × List (HistoricalRow E))}
    (h : partition c rows = .ok partitioned) :
    partitioned = rowsBySegment c (fun s => rows.filter (inside clock s)) ∧
      ∀ row ∈ rows, ∃! s, s ∈ c.segments ∧ s.contains clock row.timestamp = .ok true := by
  unfold partition at h
  obtain ⟨state, hstate, h⟩ := ok_of_bind h
  obtain ⟨hrows, hfinal⟩ := place_all hstate
  refine ⟨(Except.ok.inj h).symm.trans hfinal, fun row hrow => ?_⟩
  obtain ⟨t, ht, hin⟩ := hrows row hrow
  exact ⟨t, ⟨ht, inside_iff.mp hin⟩, fun s hs => contains_unique c hs.1 ht hs.2 (inside_iff.mp hin)⟩

theorem lookup_rowsBySegment {done : Segment → List (HistoricalRow E)} {s : Segment}
    (hs : s ∈ c.segments) : (rowsBySegment c done).lookup s.segmentId = some (done s) := by
  have hnodup : ((rowsBySegment c done).map Prod.fst).Nodup := by
    unfold rowsBySegment
    rw [List.map_map]
    exact (accepted_of_check c).ids
  exact lookup_of_mem hnodup (List.mem_map.mpr ⟨s, hs, rfl⟩)

end Split

/-! ## 6. Causality -/

section Causality

variable {c}

variable (clock) in
/-- The row lies strictly before the start of the segment. -/
def before (target : Segment) (row : HistoricalRow E) : Bool :=
  match timestamp clock row.timestamp with
  | .ok point => decide (point < startOf clock target)
  | .error _ => false

/-- A source of an evaluated segment ends before that segment starts. -/
theorem source_ends (c : WalkForwardContract clock) {target s : Segment}
    (htarget : target ∈ c.segments) (hrole : target.role ≠ .calibration) (hs : s ∈ c.segments)
    (hid : s.segmentId ∈ target.calibrationSegmentIds) :
    ∃ stop, timestamp clock s.stop = .ok stop ∧ stop ≤ startOf clock target := by
  have h := (accepted_of_check c).sources target htarget
  unfold checkSources at h
  rw [if_neg hrole] at h
  split at h
  · cases h
  · obtain ⟨_, _, h⟩ := ok_of_bind h
    obtain ⟨_, _, h⟩ := ok_of_bind h
    have hsource := forM_ok_iff.mp h _ hid
    unfold checkSource at hsource
    split at hsource
    · cases hsource
    · rename_i source hfind
      unfold byId at hfind
      have hmem : source ∈ c.segments := List.mem_reverse.mp (List.mem_of_find?_eq_some hfind)
      have heq : source.segmentId = s.segmentId := by
        have hfound := List.find?_some hfind
        exact of_decide_eq_true hfound
      cases id_injective c hmem hs heq
      obtain ⟨_, _, hsource⟩ := ok_of_bind hsource
      obtain ⟨stop, hstop, hsource⟩ := ok_of_bind hsource
      obtain ⟨start, hstart, hsource⟩ := ok_of_bind hsource
      refine ⟨stop, hstop, ?_⟩
      rw [startOf_eq hstart]
      exact not_lt.mp (refuseIf_ok.mp hsource)

/-- What is inside a source lies before the target. -/
theorem before_of_inside {target s : Segment} {row : HistoricalRow E}
    (hends : ∃ stop, timestamp clock s.stop = .ok stop ∧ stop ≤ startOf clock target)
    (hin : inside clock s row = true) : before clock target row = true := by
  obtain ⟨stop, hstop, hle⟩ := hends
  obtain ⟨_, point, stop', _, hpoint, hstop', _, hlt⟩ := contains_iff.mp (inside_iff.mp hin)
  rw [hstop] at hstop'
  cases hstop'
  unfold before
  rw [hpoint]
  exact decide_eq_true (by omega)

/-- The part of a source depends on the rows before the target only. -/
theorem filter_inside {target s : Segment} (rows : List (HistoricalRow E))
    (hends : ∃ stop, timestamp clock s.stop = .ok stop ∧ stop ≤ startOf clock target) :
    rows.filter (inside clock s) = (rows.filter (before clock target)).filter (inside clock s) := by
  rw [List.filter_filter]
  refine List.filter_congr fun row _ => ?_
  by_cases hin : inside clock s row = true
  · rw [hin, before_of_inside hends hin, Bool.and_self]
  · rw [Bool.eq_false_iff.mpr hin, Bool.false_and]

/-- **What a calibration sees of an accepted dataset.** -/
theorem calibrationRows_of_partition {rows : List (HistoricalRow E)}
    {partitioned : List (String × List (HistoricalRow E))} (h : partition c rows = .ok partitioned)
    {target : Segment} {targetSegmentId : String}
    (hfind : (c.segments.find? fun s => s.segmentId = targetSegmentId) = some target)
    (hrole : target.role ≠ .calibration) :
    calibrationRows c rows targetSegmentId = .ok
      ((c.segments.filter fun s => s.segmentId ∈ target.calibrationSegmentIds).map fun s =>
        rows.filter (inside clock s)).flatten := by
  unfold calibrationRows
  rw [h, ok_bind, hfind]
  simp only
  rw [refuseIf_ok.mpr hrole, ok_bind, (partition_exact h).1]
  have hparts : ((c.segments.filter fun s => s.segmentId ∈ target.calibrationSegmentIds).mapM
      fun s => match (rowsBySegment c fun s => rows.filter (inside clock s)).lookup s.segmentId with
        | some part => Except.ok part
        | none => .error (PyError.keyError s.segmentId)) =
      .ok ((c.segments.filter fun s => s.segmentId ∈ target.calibrationSegmentIds).map fun s =>
        rows.filter (inside clock s)) := by
    refine mapM_ok_iff.mpr (List.forall₂_map_right_iff.mpr (List.forall₂_same.mpr fun s hs => ?_))
    rw [lookup_rowsBySegment (List.mem_of_mem_filter hs)]
  rw [hparts, ok_bind]
  rfl

/-- Two accepted datasets that agree before the target give its calibration the same rows. -/
theorem calibrationRows_congr {rows rows' : List (HistoricalRow E)} {targetSegmentId : String}
    {partitioned partitioned' : List (String × List (HistoricalRow E))}
    (h : partition c rows = .ok partitioned) (h' : partition c rows' = .ok partitioned')
    (hsame : ∀ target ∈ c.segments, target.segmentId = targetSegmentId →
      rows.filter (before clock target) = rows'.filter (before clock target)) :
    calibrationRows c rows targetSegmentId = calibrationRows c rows' targetSegmentId := by
  cases hfind : c.segments.find? fun s => s.segmentId = targetSegmentId with
  | none =>
    unfold calibrationRows
    rw [h, h', ok_bind, ok_bind, hfind]
  | some target =>
    have htarget : target ∈ c.segments := List.mem_of_find?_eq_some hfind
    have hid : target.segmentId = targetSegmentId := by
      have hfound := List.find?_some hfind
      exact of_decide_eq_true hfound
    by_cases hrole : target.role = .calibration
    · unfold calibrationRows
      rw [h, h', ok_bind, ok_bind, hfind]
      simp only [refuseIf, if_pos hrole]
      rfl
    · rw [calibrationRows_of_partition h hfind hrole, calibrationRows_of_partition h' hfind hrole]
      congr 2
      refine List.map_congr_left fun s hs => ?_
      obtain ⟨hs, hsource⟩ := List.mem_filter.mp hs
      have hends := source_ends c htarget hrole hs (of_decide_eq_true hsource)
      rw [filter_inside rows hends, filter_inside rows' hends, hsame target htarget hid]

/-- **A contract separates time.** Its segments are pairwise disjoint, what is in range is inside
    exactly one of them, an accepted dataset is split accordingly, and two accepted datasets that
    agree strictly before the start of the target are calibrated alike. -/
theorem calibrate_causal (c : WalkForwardContract clock) :
    (c.segments.Pairwise fun a b => ∀ value,
      ¬ (a.contains clock value = .ok true ∧ b.contains clock value = .ok true)) ∧
    (∀ value, (∃ s ∈ c.segments, s.contains clock value = .ok true) →
      ∃! s, s ∈ c.segments ∧ s.contains clock value = .ok true) ∧
    (∀ (rows : List (HistoricalRow E)) partitioned, partition c rows = .ok partitioned →
      partitioned = rowsBySegment c (fun s => rows.filter (inside clock s)) ∧
        ∀ row ∈ rows, ∃! s, s ∈ c.segments ∧ s.contains clock row.timestamp = .ok true) ∧
    ∀ (rows rows' : List (HistoricalRow E)) partitioned partitioned' targetSegmentId,
      partition c rows = .ok partitioned → partition c rows' = .ok partitioned' →
      (∀ target ∈ c.segments, target.segmentId = targetSegmentId →
        rows.filter (before clock target) = rows'.filter (before clock target)) →
      calibrationRows c rows targetSegmentId = calibrationRows c rows' targetSegmentId ∧
        ∀ (T : Type) (calibrator : List (HistoricalRow E) → Except PyError T),
          calibrate c rows targetSegmentId calibrator =
            calibrate c rows' targetSegmentId calibrator := by
  refine ⟨segments_disjoint c, fun value ⟨s, hs, hin⟩ => ?_, fun rows partitioned h => ?_, ?_⟩
  · exact ⟨s, ⟨hs, hin⟩, fun t ht => contains_unique c ht.1 hs ht.2 hin⟩
  · exact partition_exact h
  · intro rows rows' partitioned partitioned' targetSegmentId h h' hsame
    have hrows := calibrationRows_congr h h' hsame
    refine ⟨hrows, fun T calibrator => ?_⟩
    unfold calibrate
    rw [hrows]

/-! A contract of two segments of one day. -/

/-- An hour of the first of January 2026. -/
def hourText (hour : ℕ) : String := "2026-01-01T0" ++ hour.repr ++ ":00:00+00:00"

/-- Reads the hours up to nine. -/
def sampleClock : Clock where
  read value := ((List.range 10).find? fun hour => hourText hour = value).map fun hour =>
    ⟨some 0, (1767225600 + 3600 * (hour : ℤ)) * 1000000⟩
  repr value := "'" ++ value ++ "'"

def sampleHash : String := "0123456789abcdef0123456789abcdef0123456789abcdef0123456789abcdef"

def sampleLineage : SearchSelectionLineage where
  lineageId := "lineage"
  candidateVariantIds := ["variant"]
  evidenceEvaluationCount := 1
  influencedSelection := false
  declaredFresh := false
  complete := by decide
  fresh := by decide

def sampleUniverse : UniverseProvenance where
  mode := .fixed
  identity := sampleHash
  sourceIdentity := "exchange"
  symbols := ["BTCUSDT"]
  memberships := []
  survivorshipBiasProtected := false
  complete := by decide
  fixed := by decide
  pointInTime := by decide

def sampleSegment (id : String) (role : SegmentRole) (start stop : ℕ) : Segment where
  segmentId := id
  windowId := "w1"
  role := role
  start := hourText start
  stop := hourText stop
  gitSha := "0123456789abcdef0123456789abcdef01234567"
  strategyConfigHash := sampleHash
  configHash := sampleHash
  dataHash := sampleHash
  universeIdentity := sampleHash
  frozenAt := hourText 1
  calibrationSegmentIds := if role = .calibration then [] else ["cal"]
  searchSelectionLineage := if role = .calibration then none else some sampleLineage

def sampleContract : WalkForwardContract sampleClock where
  segments := [sampleSegment "cal" .calibration 1 5, sampleSegment "oos" .oosValidation 5 9]
  provenance := sampleUniverse
  accepted := by decide +kernel

def sampleRow (id : String) (hour : ℕ) : HistoricalRow Unit := ⟨id, hourText hour, "BTCUSDT", ()⟩

/-- A row after the last segment raises, whatever was calibrated before it. -/
theorem later_row_raises :
    [sampleRow "a" 2].filter (before sampleClock (sampleSegment "oos" .oosValidation 5 9)) =
      [sampleRow "a" 2, sampleRow "b" 9].filter
        (before sampleClock (sampleSegment "oos" .oosValidation 5 9)) ∧
    calibrate sampleContract [sampleRow "a" 2] "oos" (fun seen => .ok seen.length) = .ok 1 ∧
    calibrate sampleContract [sampleRow "a" 2, sampleRow "b" 9] "oos"
      (fun seen => .ok seen.length) =
        .error (.valueError "row b does not belong to exactly one segment") := by
  decide +kernel

theorem calibrate_causal_sample :
    calibrate sampleContract [sampleRow "a" 2, sampleRow "b" 5] "oos"
        (fun seen => .ok seen.length) =
      calibrate sampleContract [sampleRow "a" 2, sampleRow "c" 7, sampleRow "d" 6] "oos"
        (fun seen => .ok seen.length) := by
  have hpart : (partition sampleContract [sampleRow "a" 2, sampleRow "b" 5]).toBool = true ∧
      (partition sampleContract [sampleRow "a" 2, sampleRow "c" 7, sampleRow "d" 6]).toBool =
        true := by decide +kernel
  have hsame : ∀ target ∈ sampleContract.segments, target.segmentId = "oos" →
      [sampleRow "a" 2, sampleRow "b" 5].filter (before sampleClock target) =
        [sampleRow "a" 2, sampleRow "c" 7, sampleRow "d" 6].filter
          (before sampleClock target) := by decide +kernel
  cases h : partition sampleContract [sampleRow "a" 2, sampleRow "b" 5] with
  | error e => rw [h] at hpart; cases hpart.1
  | ok partitioned =>
    cases h' : partition sampleContract [sampleRow "a" 2, sampleRow "c" 7, sampleRow "d" 6] with
    | error e => rw [h'] at hpart; cases hpart.2
    | ok partitioned' =>
      exact ((calibrate_causal sampleContract).2.2.2 _ _ _ _ _ h h' hsame).2 _ _

end Causality

end AlphaForge.WalkForward
