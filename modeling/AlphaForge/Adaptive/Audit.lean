/-
  File:      AlphaForge/Adaptive/Audit.lean
  Subject:   Histories of calibration runs: what a change of a state obeys, and what the event table
             keeps of it.

  * `guarded_not_opposite`, `guarded_spaced` -- hysteresis and cooldown of one update.
  * `entries_after` -- the cooldown over a whole history.
  * `changes_sublist_events` -- every change has its own event, if its event identity is new.
  * **`history_audited`** -- the invariants of every history whose changes have new identities.
-/
import AlphaForge.Adaptive.Calibration

namespace AlphaForge.Adaptive

open AlphaForge.Lib

/-! ## 1. One state -/

section State

variable {sqrt : ℚ → ℚ} {rows : List Evidence} {health : Health}

/-- A relaxation rests on enough evidence, all of it eligible, and on proven health. -/
theorem state_relaxed {stats : Statistics} (h : (stateOf stats health rows).1 = .relaxed) :
    minSample ≤ stats.sampleCount ∧ (∀ e ∈ rows, eligible e = true) ∧
      health.allowsRelaxation = true := by
  unfold stateOf at h
  split at h
  · exact nomatch h
  · rename_i hsample
    split at h
    · split at h
      · exact nomatch h
      · split at h
        · split at h
          · exact nomatch h
          · rename_i hrows
            split at h
            · exact nomatch h
            · rename_i hhealth
              exact ⟨by omega, by simpa using hrows, by simpa using hhealth⟩
        · exact nomatch h
    · exact nomatch h

theorem netR_of_eligible {e : Evidence} (h : eligible e = true) : e.netR.isSome = true := by
  simp only [eligible, Bool.and_eq_true] at h
  exact h.1.2

/-- The sample counts the eligible rows. -/
theorem sampleCount_eq : (statistics sqrt rows).sampleCount = rows.countP eligible := by
  show (qualified rows).length = _
  have hall : ∀ e ∈ (rows.insertionSort earlier).filter eligible, e.netR.isSome = true :=
    fun e he => netR_of_eligible (List.mem_filter.mp he).2
  rw [qualified, List.filterMap_length_eq_length.mpr hall, ← List.countP_eq_length_filter]
  exact (List.perm_insertionSort earlier rows).countP_eq _

/-- The shadow value of a state that is not adjusted is the base. -/
theorem shadowValue_unadjusted {name : Option Gate} {base : Option ℚ} {state : CalibrationState}
    (h : state.adjusted = false) : shadowValue name base state = base := by
  cases name with
  | none => rfl
  | some gate =>
    cases base with
    | none => rfl
    | some b => simp [shadowValue, h]

theorem step_lt_bound (gate : Gate) : 1 / 2 / 10 ^ 8 < gate.step ∧
    gate.step + 1 / 2 / 10 ^ 8 < gate.bound := by
  cases gate <;> constructor <;> norm_num [Gate.step, Gate.bound]

/-- The clipping does not bind: the value is the base and one step, rounded. -/
theorem shadowValue_adjusted {gate : Gate} {b : ℚ} {state : CalibrationState}
    (h : state.adjusted = true) :
    shadowValue (some gate) (some b) state = some
      (roundTo 8 (b + state.direction * gate.step)) := by
  obtain ⟨hpos, hbound⟩ := step_lt_bound gate
  have hd : state.direction = 1 ∨ state.direction = -1 := by
    unfold CalibrationState.direction
    split
    · exact .inl rfl
    · exact .inr rfl
  have hclip : max (b - gate.bound) (min (b + gate.bound) (b + state.direction * gate.step)) =
      b + state.direction * gate.step := by
    rw [min_eq_right, max_eq_right]
    · rcases hd with hd | hd <;> rw [hd] <;> linarith
    · rcases hd with hd | hd <;> rw [hd] <;> linarith
  simp only [shadowValue, h, if_true, hclip]

/-- The value is one step from the base, up to the rounding, on the side of the direction and within
    the bound. -/
structure OneStep (gate : Gate) (state : CalibrationState) (base value : ℚ) : Prop where
  step : |value - (base + state.direction * gate.step)| ≤ 1 / 2 / 10 ^ 8
  side : 0 < state.direction * (value - base)
  bounded : |value - base| ≤ gate.bound

theorem oneStep_of_adjusted (gate : Gate) (b : ℚ) (state : CalibrationState) :
    OneStep gate state b (roundTo 8 (b + state.direction * gate.step)) := by
  obtain ⟨hpos, hbound⟩ := step_lt_bound gate
  have herror := roundTo_error 8 (b + state.direction * gate.step)
  have hd : state.direction = 1 ∨ state.direction = -1 := by
    unfold CalibrationState.direction
    split
    · exact .inl rfl
    · exact .inr rfl
  refine ⟨herror, ?_, ?_⟩
  · rw [abs_le] at herror
    rcases hd with hd | hd <;> rw [hd] at herror ⊢ <;> linarith [herror.1, herror.2]
  · rw [abs_le] at herror ⊢
    rcases hd with hd | hd <;> rw [hd] at herror ⊢ <;>
      exact ⟨by linarith [herror.1, herror.2], by linarith [herror.1, herror.2]⟩

end State

/-! ## 2. One update -/

section Update

variable {η : Type} {timestamp : String → Option ℚ} {previous : Option (Row η)} {now : String}
  {s : CalibrationState × List String}

/-- What hysteresis and cooldown make of a state. -/
theorem guarded_cases :
    (guarded timestamp previous now s).state = s.1 ∨
      (guarded timestamp previous now s).state = .normal ∨
      ∃ p, previous = some p ∧ s.1.adjusted = true ∧
        ¬ (p.calibrationState.adjusted = true ∧ p.calibrationState ≠ s.1) ∧
        p.calibrationState ≠ s.1 ∧
        (guarded timestamp previous now s).state = p.calibrationState := by
  cases previous with
  | none => exact .inl rfl
  | some p =>
    unfold guarded
    dsimp only
    split
    · exact .inl rfl
    · rename_i hadjusted
      split
      · exact .inr (.inl rfl)
      · rename_i hopposite
        split
        · rename_i hcooldown
          simp only [Bool.and_eq_true, bne_iff_ne] at hopposite hcooldown
          exact .inr (.inr ⟨p, rfl, by simpa using hadjusted, hopposite, hcooldown.2, rfl⟩)
        · exact .inl rfl

/-- An adjusted state after the guards is the state before them. -/
theorem guarded_adjusted (h : (guarded timestamp previous now s).state.adjusted = true) :
    (guarded timestamp previous now s).state = s.1 := by
  have hcases : (guarded timestamp previous now s).state = s.1 ∨
      (guarded timestamp previous now s).state = .normal ∨
      ∃ p, previous = some p ∧ s.1.adjusted = true ∧
        ¬ (p.calibrationState.adjusted = true ∧ p.calibrationState ≠ s.1) ∧
        p.calibrationState ≠ s.1 ∧
        (guarded timestamp previous now s).state = p.calibrationState := guarded_cases
  rcases hcases with hsame | hnormal | ⟨p, -, -, hopposite, hne, hkept⟩
  · exact hsame
  · rw [hnormal] at h
    exact nomatch h
  · rw [hkept] at h
    exact absurd ⟨h, hne⟩ hopposite

/-- No update goes from an adjusted state to the opposite one. -/
theorem guarded_not_opposite {p : Row η} (hp : previous = some p)
    (hbefore : p.calibrationState.adjusted = true)
    (hafter : (guarded timestamp previous now s).state.adjusted = true) :
    (guarded timestamp previous now s).state = p.calibrationState := by
  subst hp
  have hsame := guarded_adjusted hafter
  by_contra hne
  rw [hsame] at hafter hne
  have hopposite : (p.calibrationState.adjusted && p.calibrationState != s.1) = true := by
    simp [hbefore, Ne.symm hne]
  have hnormal : (guarded timestamp (some p) now s).state = .normal := by
    simp [guarded, hafter, hopposite]
  rw [hnormal] at hsame
  rw [← hsame] at hafter
  exact nomatch hafter

/-- An entry into an adjusted state is outside the cooldown of the last one. -/
theorem guarded_spaced {p : Row η} (hp : previous = some p)
    (hafter : (guarded timestamp previous now s).state.adjusted = true)
    (hentry : p.calibrationState ≠ (guarded timestamp previous now s).state) :
    inCooldown timestamp p now = false := by
  subst hp
  have hsame := guarded_adjusted hafter
  rw [hsame] at hafter hentry
  by_contra hcooldown
  rw [Bool.not_eq_false] at hcooldown
  have hkept : (guarded timestamp (some p) now s).state = .normal ∨
      (guarded timestamp (some p) now s).state = p.calibrationState := by
    unfold guarded
    dsimp only
    rw [if_neg (by simp [hafter])]
    split
    · exact .inl rfl
    · rw [if_pos (by simp [hcooldown, hentry])]
      exact .inr rfl
  rcases hkept with hnormal | hkept
  · rw [← hsame, hnormal] at hafter
    exact nomatch hafter
  · exact hentry (hkept.symm.trans hsame)

end Update

/-! ## 3. Histories -/

variable {κ η ι : Type} [DecidableEq κ] [DecidableEq η] [DecidableEq ι] (sqrt : ℚ → ℚ)
  (hashing : Hashing κ η ι) (timestamp : String → Option ℚ)

/-- An update of a key: the row before and the row after. -/
structure Update (κ η : Type) where
  group : Group κ
  previous : Option (Row η)
  next : Row η

/-- The update that a group makes. -/
def updateOf (db : Db κ η ι) (g : Group κ) : Option (Update κ η) :=
  (g.scope hashing).map fun scope =>
    ⟨g, db.rows.lookup g.key, g.row sqrt hashing timestamp scope (db.rows.lookup g.key)⟩

/-- The updates of a history, in their order. -/
def updates : Db κ η ι → List (Group κ) → List (Update κ η)
  | _, [] => []
  | db, g :: gs =>
    (updateOf sqrt hashing timestamp db g).toList ++
      updates (calibrateGroup sqrt hashing timestamp db g) gs

/-- The groups of a sequence of runs. -/
def steps (runs : List Run) : List (Group κ) := runs.flatMap (groups hashing)

/-- The database after a sequence of runs. -/
def history (runs : List Run) : Db κ η ι :=
  runs.foldl (calibrateCampaign sqrt hashing timestamp) Db.empty

omit [DecidableEq η] in
theorem history_eq [DecidableEq η] (runs : List Run) :
    history sqrt hashing timestamp runs =
      runEvents (calibrateGroup sqrt hashing timestamp) Db.empty (steps hashing runs) := by
  unfold history runEvents steps
  generalize (Db.empty : Db κ η ι) = db
  induction runs generalizing db with
  | nil => rfl
  | cons run runs ih =>
    rw [List.foldl_cons, List.flatMap_cons, List.foldl_append, ih]
    rfl

namespace Update

variable (u : Update κ η)

/-- The state changes. -/
def changes : Bool := u.previous.map Row.calibrationState != some u.next.calibrationState

/-- The update enters an adjusted state. -/
def entry : Bool := u.changes && u.next.calibrationState.adjusted

/-- Key, state before and state after. -/
def signature : κ × Option CalibrationState × CalibrationState :=
  (u.group.key, u.previous.map Row.calibrationState, u.next.calibrationState)

end Update

/-- Key, state before and state after of an event. -/
def Event.signature (e : Event κ η ι) : κ × Option CalibrationState × CalibrationState :=
  (e.calibrationKey, e.previousState, e.proposedState)

/-- The updates of a history obey the rules, and its events record the changes. -/
structure Audited (us : List (Update κ η)) (events : List (Event κ η ι)) : Prop where
  /-- No key goes from one adjusted state to the other. -/
  hysteresis : ∀ u ∈ us, ∀ p, u.previous = some p → p.calibrationState.adjusted = true →
    u.next.calibrationState.adjusted = true → u.next.calibrationState = p.calibrationState
  /-- Two entries of a key are the cooldown apart. -/
  cooldown : us.Pairwise fun u v => u.group.key = v.group.key → u.entry = true → v.entry = true →
    ∀ t t', timestamp u.group.run.now = some t → timestamp v.group.run.now = some t' →
      t + cooldownSeconds ≤ t'
  /-- A stored relaxation rests on enough evidence, all of it eligible, and on proven health. -/
  relaxed : ∀ u ∈ us, u.next.calibrationState = .relaxed →
    minSample ≤ u.group.rows.countP eligible ∧ (∀ e ∈ u.group.rows, eligible e = true) ∧
      u.group.run.health.allowsRelaxation = true
  /-- The shadow value leaves the base in an adjusted state only, by one step of the threshold of
      its scope, in the state's direction. -/
  shadow : ∀ u ∈ us, u.next.shadowValue ≠ u.next.baseValue →
    u.next.calibrationState.adjusted = true ∧ ∃ scope gate base value,
      u.group.scope hashing = some scope ∧
        threshold u.group.path scope.reason u.group.run.base = (some gate, some base) ∧
        u.next.baseValue = some base ∧ u.next.shadowValue = some value ∧
        OneStep gate u.next.calibrationState base value
  /-- Every change has an event of its own. -/
  events : ((us.filter Update.changes).map Update.signature).Sublist (events.map Event.signature)

/-- The times of the runs are times and never decrease. -/
def Chronological (runs : List Run) : Prop :=
  (∀ run ∈ runs, (timestamp run.now).isSome = true) ∧
    runs.Pairwise fun a b => ∀ x ∈ timestamp a.now, ∀ y ∈ timestamp b.now, x ≤ y

/-- A change of the group's key is not yet an event. -/
def newEvent (db : Db κ η ι) (g : Group κ) : Bool :=
  match updateOf sqrt hashing timestamp db g with
  | none => true
  | some u => !u.changes || db.events.all fun e =>
      e.eventId != (eventOf hashing g.key u.previous u.next false).eventId

section Proofs

variable {sqrt hashing timestamp} {db : Db κ η ι} {g : Group κ} {u : Update κ η}

omit [DecidableEq η] [DecidableEq ι] in
theorem updateOf_eq (h : updateOf sqrt hashing timestamp db g = some u) :
    ∃ scope, g.scope hashing = some scope ∧ u.group = g ∧ u.previous = db.rows.lookup g.key ∧
      u.next = g.row sqrt hashing timestamp scope (db.rows.lookup g.key) := by
  rw [updateOf, Option.map_eq_some_iff] at h
  obtain ⟨scope, hscope, rfl⟩ := h
  exact ⟨scope, hscope, rfl, rfl, rfl⟩

/-- The rows after an update. -/
theorem rows_calibrateGroup (h : updateOf sqrt hashing timestamp db g = some u) :
    (calibrateGroup sqrt hashing timestamp db g).rows = assign db.rows g.key u.next := by
  obtain ⟨scope, hscope, -, -, hnext⟩ := updateOf_eq h
  rw [calibrateGroup, hscope, hnext]

theorem calibrateGroup_of_none (h : updateOf sqrt hashing timestamp db g = none) :
    calibrateGroup sqrt hashing timestamp db g = db := by
  rw [updateOf, Option.map_eq_none_iff] at h
  rw [calibrateGroup, h]

theorem mem_updates {P : Update κ η → Prop}
    (hone : ∀ (db : Db κ η ι) g u, updateOf sqrt hashing timestamp db g = some u → P u)
    (gs : List (Group κ)) (db : Db κ η ι) : ∀ u ∈ updates sqrt hashing timestamp db gs, P u := by
  induction gs generalizing db with
  | nil => exact fun _ h => absurd h List.not_mem_nil
  | cons g gs ih =>
    intro u hu
    rw [updates, List.mem_append, Option.mem_toList] at hu
    rcases hu with hu | hu
    · exact hone db g u hu
    · exact ih _ u hu

omit [DecidableEq η] [DecidableEq ι] in
/-- The rules that one update obeys by itself. -/
theorem update_hysteresis (h : updateOf sqrt hashing timestamp db g = some u) {p : Row η}
    (hp : u.previous = some p) (hbefore : p.calibrationState.adjusted = true)
    (hafter : u.next.calibrationState.adjusted = true) :
    u.next.calibrationState = p.calibrationState := by
  obtain ⟨scope, -, -, hprevious, hnext⟩ := updateOf_eq h
  rw [hprevious] at hp
  rw [hnext] at hafter ⊢
  exact guarded_not_opposite hp hbefore hafter

omit [DecidableEq η] [DecidableEq ι] in
theorem update_relaxed (h : updateOf sqrt hashing timestamp db g = some u)
    (hrelaxed : u.next.calibrationState = .relaxed) :
    minSample ≤ u.group.rows.countP eligible ∧ (∀ e ∈ u.group.rows, eligible e = true) ∧
      u.group.run.health.allowsRelaxation = true := by
  obtain ⟨scope, -, hgroup, -, hnext⟩ := updateOf_eq h
  rw [hnext] at hrelaxed
  have hsame : (g.guarded sqrt timestamp (db.rows.lookup g.key)).state = .relaxed := hrelaxed
  have hstate : (stateOf (statistics sqrt g.rows) g.run.health g.rows).1 = .relaxed := by
    rw [← hsame]
    exact (guarded_adjusted (by rw [Group.guarded] at hsame; rw [hsame]; rfl)).symm
  have hfacts := state_relaxed hstate
  rw [sampleCount_eq] at hfacts
  rw [hgroup]
  exact hfacts

omit [DecidableEq η] [DecidableEq ι] in
theorem update_shadow (h : updateOf sqrt hashing timestamp db g = some u)
    (hne : u.next.shadowValue ≠ u.next.baseValue) :
    u.next.calibrationState.adjusted = true ∧ ∃ scope gate base value,
      u.group.scope hashing = some scope ∧
        threshold u.group.path scope.reason u.group.run.base = (some gate, some base) ∧
        u.next.baseValue = some base ∧ u.next.shadowValue = some value ∧
        OneStep gate u.next.calibrationState base value := by
  obtain ⟨scope, hscope, hgroup, -, hnext⟩ := updateOf_eq h
  rw [hgroup]
  rw [hnext] at hne ⊢
  generalize db.rows.lookup g.key = previous at hne ⊢
  simp only [Group.row] at hne ⊢
  generalize (g.guarded sqrt timestamp previous).state = state at hne ⊢
  rcases hthreshold : threshold g.path scope.reason g.run.base with ⟨name, base⟩
  rw [hthreshold] at hne
  have hadjusted : state.adjusted = true := by
    by_contra hnot
    exact hne (shadowValue_unadjusted (by simpa using hnot))
  refine ⟨hadjusted, ?_⟩
  cases name with
  | none => exact absurd rfl hne
  | some gate =>
    cases base with
    | none => exact absurd rfl hne
    | some b =>
      exact ⟨scope, gate, b, _, hscope, hthreshold, rfl, shadowValue_adjusted hadjusted,
        oneStep_of_adjusted gate b state⟩

omit [DecidableEq η] [DecidableEq ι] in
/-- An entry is stamped with its time. -/
theorem stamp_of_entry (h : updateOf sqrt hashing timestamp db g = some u)
    (hentry : u.entry = true) : u.next.lastAdjustedAt = some g.run.now := by
  obtain ⟨scope, -, -, hprevious, hnext⟩ := updateOf_eq h
  simp only [Update.entry, Update.changes, Bool.and_eq_true, bne_iff_ne] at hentry
  rw [hprevious, hnext] at hentry
  rw [hnext]
  exact if_pos ⟨hentry.2, hentry.1⟩

omit [DecidableEq η] [DecidableEq ι] in
/-- Any other update keeps the stamp. -/
theorem stamp_of_not_entry (h : updateOf sqrt hashing timestamp db g = some u)
    (hentry : u.entry = false) : u.next.lastAdjustedAt = u.previous.bind Row.lastAdjustedAt := by
  obtain ⟨scope, -, -, hprevious, hnext⟩ := updateOf_eq h
  rw [hprevious]
  have hnot : ¬ (u.next.calibrationState.adjusted = true ∧
      u.previous.map Row.calibrationState ≠ some u.next.calibrationState) := by
    rintro ⟨hadjusted, hne⟩
    simp [Update.entry, Update.changes, hadjusted, hne] at hentry
  rw [hprevious, hnext] at hnot
  rw [hnext]
  exact if_neg hnot

omit [DecidableEq η] [DecidableEq ι] in
/-- An entry comes when the cooldown of the last stamp is over. -/
theorem entry_spaced (h : updateOf sqrt hashing timestamp db g = some u) {p : Row η}
    (hp : db.rows.lookup g.key = some p) (hentry : u.entry = true) {s : String} {last now : ℚ}
    (hstamp : p.lastAdjustedAt = some s) (hlast : timestamp s = some last)
    (hnow : timestamp g.run.now = some now) (hle : last ≤ now) :
    last + cooldownSeconds ≤ now := by
  obtain ⟨scope, -, -, hprevious, hnext⟩ := updateOf_eq h
  simp only [Update.entry, Update.changes, Bool.and_eq_true, bne_iff_ne] at hentry
  rw [hprevious, hnext, hp] at hentry
  have hover : inCooldown timestamp p g.run.now = false :=
    guarded_spaced rfl hentry.2 fun heq => hentry.1 (congrArg some heq)
  rw [inCooldown, hstamp, Option.bind_some, hlast, hnow] at hover
  simp only [Bool.and_eq_false_iff, decide_eq_false_iff_not] at hover
  rcases hover with hover | hover
  · exact absurd (sub_nonneg.mpr hle) hover
  · linarith [not_lt.mp hover]

/-- The times of the groups are times and never decrease. -/
def ChronologicalGroups (timestamp : String → Option ℚ) (gs : List (Group κ)) : Prop :=
  (∀ g ∈ gs, (timestamp g.run.now).isSome = true) ∧
    gs.Pairwise fun a b => ∀ x ∈ timestamp a.run.now, ∀ y ∈ timestamp b.run.now, x ≤ y

/-- After a stamp, the entries of the key wait for its cooldown. -/
theorem entries_after {gs : List (Group κ)} (htimes : ChronologicalGroups timestamp gs)
    {db : Db κ η ι} {key : κ} {p : Row η} {s : String} {last : ℚ}
    (hrow : db.rows.lookup key = some p) (hstamp : p.lastAdjustedAt = some s)
    (hlast : timestamp s = some last)
    (hlate : ∀ g ∈ gs, ∀ t ∈ timestamp g.run.now, last ≤ t) :
    ∀ u ∈ updates sqrt hashing timestamp db gs, u.group.key = key → u.entry = true →
      ∀ t, timestamp u.group.run.now = some t → last + cooldownSeconds ≤ t := by
  induction gs generalizing db p s last with
  | nil => exact fun _ h => absurd h List.not_mem_nil
  | cons g gs ih =>
    obtain ⟨hsome, hsorted⟩ := htimes
    obtain ⟨hfirst, hsorted⟩ := List.pairwise_cons.mp hsorted
    have htimes' : ChronologicalGroups timestamp gs :=
      ⟨fun g' hg' => hsome g' (List.mem_cons_of_mem _ hg'), hsorted⟩
    have hlate' : ∀ g' ∈ gs, ∀ t ∈ timestamp g'.run.now, last ≤ t :=
      fun g' hg' => hlate g' (List.mem_cons_of_mem _ hg')
    intro u hu hkey hentry t ht
    rw [updates, List.mem_append, Option.mem_toList] at hu
    cases hone : updateOf sqrt hashing timestamp db g with
    | none =>
      rw [hone, calibrateGroup_of_none hone] at hu
      rcases hu with hu | hu
      · exact nomatch hu
      · exact ih htimes' hrow hstamp hlast hlate' u hu hkey hentry t ht
    | some v =>
      obtain ⟨scope, -, hgroup, hprevious, -⟩ := updateOf_eq hone
      have hrows := rows_calibrateGroup hone
      by_cases hg : g.key = key
      · subst hg
        have hafter : (calibrateGroup sqrt hashing timestamp db g).rows.lookup g.key =
            some v.next := by
          rw [hrows, lookup_assign, if_pos rfl]
        obtain ⟨now, hnow⟩ := Option.isSome_iff_exists.mp (hsome g List.mem_cons_self)
        by_cases hv : v.entry = true
        · -- the entry moves the stamp to its own time
          have hspaced := entry_spaced hone hrow hv hstamp hlast hnow
            (hlate g List.mem_cons_self now hnow)
          rcases hu with hu | hu
          · cases hone.symm.trans hu
            rw [hgroup, hnow] at ht
            cases ht
            exact hspaced
          · have hrest := ih htimes' hafter (stamp_of_entry hone hv) hnow
              (fun g' hg' => hfirst g' hg' now hnow) u hu hkey hentry t ht
            have hpos : (0 : ℚ) ≤ cooldownSeconds := by norm_num [cooldownSeconds]
            linarith
        · rw [Bool.not_eq_true] at hv
          have hkept : v.next.lastAdjustedAt = some s := by
            rw [stamp_of_not_entry hone hv, hprevious, hrow, Option.bind_some, hstamp]
          rcases hu with hu | hu
          · cases hone.symm.trans hu
            rw [hentry] at hv
            exact nomatch hv
          · exact ih htimes' hafter hkept hlast hlate' u hu hkey hentry t ht
      · have hafter : (calibrateGroup sqrt hashing timestamp db g).rows.lookup key = some p := by
          rw [hrows, lookup_assign, if_neg (Ne.symm hg)]
          exact hrow
        rcases hu with hu | hu
        · cases hone.symm.trans hu
          rw [hgroup] at hkey
          exact absurd hkey hg
        · exact ih htimes' hafter hstamp hlast hlate' u hu hkey hentry t ht

theorem cooldown_kept {gs : List (Group κ)} (htimes : ChronologicalGroups timestamp gs)
    (db : Db κ η ι) :
    (updates sqrt hashing timestamp db gs).Pairwise fun u v => u.group.key = v.group.key →
      u.entry = true → v.entry = true → ∀ t t', timestamp u.group.run.now = some t →
        timestamp v.group.run.now = some t' → t + cooldownSeconds ≤ t' := by
  induction gs generalizing db with
  | nil => exact .nil
  | cons g gs ih =>
    obtain ⟨hsome, hsorted⟩ := htimes
    obtain ⟨hfirst, hsorted⟩ := List.pairwise_cons.mp hsorted
    have htimes' : ChronologicalGroups timestamp gs :=
      ⟨fun g' hg' => hsome g' (List.mem_cons_of_mem _ hg'), hsorted⟩
    rw [updates, List.pairwise_append]
    refine ⟨?_, ih htimes' _, fun u hu v hv hkey hentry hentry' t t' ht ht' => ?_⟩
    · cases updateOf sqrt hashing timestamp db g with
      | none => exact .nil
      | some u => exact List.pairwise_singleton _ u
    · rw [Option.mem_toList] at hu
      obtain ⟨scope, -, hgroup, -, -⟩ := updateOf_eq hu
      have hrow : (calibrateGroup sqrt hashing timestamp db g).rows.lookup v.group.key =
          some u.next := by
        rw [rows_calibrateGroup hu, lookup_assign, if_pos (by rw [← hkey, hgroup])]
      rw [hgroup] at ht
      exact entries_after htimes' hrow (stamp_of_entry hu hentry) ht
        (fun g' hg' => hfirst g' hg' t ht) v hv rfl hentry' t' ht'

/-- Every change has an event of its own, if its identity is new. -/
theorem changes_sublist_events {gs : List (Group κ)} {db : Db κ η ι}
    (hnew : Along (calibrateGroup sqrt hashing timestamp)
      (fun db g => newEvent sqrt hashing timestamp db g = true) db gs) :
    ∃ added, (runEvents (calibrateGroup sqrt hashing timestamp) db gs).events = db.events ++ added ∧
      (((updates sqrt hashing timestamp db gs).filter Update.changes).map
        Update.signature).Sublist (added.map Event.signature) := by
  induction gs generalizing db with
  | nil => exact ⟨[], (List.append_nil _).symm, .slnil⟩
  | cons g gs ih =>
    obtain ⟨hfresh, hrest⟩ := hnew
    obtain ⟨added, hadded, hsublist⟩ := ih hrest
    have hrun : (runEvents (calibrateGroup sqrt hashing timestamp) db (g :: gs)).events =
        (calibrateGroup sqrt hashing timestamp db g).events ++ added := hadded
    rw [updates, List.filter_append, List.map_append]
    cases hone : updateOf sqrt hashing timestamp db g with
    | none =>
      rw [calibrateGroup_of_none hone] at hrun hsublist ⊢
      exact ⟨added, hrun, hsublist⟩
    | some u =>
      obtain ⟨scope, hscope, hgroup, hprevious, hnext⟩ := updateOf_eq hone
      have hevents : (calibrateGroup sqrt hashing timestamp db g).events =
          if changed u.previous u.next then
            insertEvent db.events (eventOf hashing g.key u.previous u.next
              (g.guarded sqrt timestamp (db.rows.lookup g.key)).blocked)
          else db.events := by
        rw [calibrateGroup, hscope, hprevious, hnext]
      generalize (g.guarded sqrt timestamp (db.rows.lookup g.key)).blocked = blocked at hevents
      have hgrows : ∃ new, (calibrateGroup sqrt hashing timestamp db g).events = db.events ++ new ∧
          (u.changes = true → new = [eventOf hashing g.key u.previous u.next blocked]) := by
        rw [hevents]
        by_cases hchanges : u.changes = true
        · have hchanged : changed u.previous u.next = true := by
            simp only [Update.changes, bne_iff_ne] at hchanges
            cases hp : u.previous with
            | none => rfl
            | some p =>
              rw [hp, Option.map_some] at hchanges
              have hstate : p.calibrationState ≠ u.next.calibrationState :=
                fun heq => hchanges (congrArg some heq)
              simp [changed, hstate]
          have hunused : (db.events.any fun e' => e'.eventId ==
              (eventOf hashing g.key u.previous u.next blocked).eventId) = false := by
            simp only [newEvent, hone, hchanges, Bool.not_true, Bool.false_or, List.all_eq_true,
              bne_iff_ne] at hfresh
            rw [List.any_eq_false]
            exact fun e he heq => hfresh e he (beq_iff_eq.mp heq)
          rw [if_pos hchanged, insertEvent, hunused]
          exact ⟨_, rfl, fun _ => rfl⟩
        · rw [insertEvent]
          split
          · split
            · exact ⟨[], (List.append_nil _).symm, fun h => absurd h hchanges⟩
            · exact ⟨_, rfl, fun h => absurd h hchanges⟩
          · exact ⟨[], (List.append_nil _).symm, fun h => absurd h hchanges⟩
      obtain ⟨new, hnewEvents, hsingle⟩ := hgrows
      refine ⟨new ++ added, by rw [hrun, hnewEvents, List.append_assoc], ?_⟩
      rw [List.map_append]
      refine List.Sublist.append ?_ hsublist
      by_cases hchanges : u.changes = true
      · have hsignature : u.signature =
            (eventOf hashing g.key u.previous u.next blocked).signature := by
          rw [Update.signature, hgroup]
          rfl
        rw [hsingle hchanges]
        simp [hchanges, hsignature]
      · simp [hchanges]

end Proofs

/-! ## 4. Runs -/

omit [DecidableEq η] [DecidableEq ι] in
theorem group_run {run : Run} {g : Group κ} (h : g ∈ groups hashing run) : g.run = run := by
  unfold groups at h
  obtain ⟨_, -, rfl⟩ := List.mem_map.mp h
  rfl

omit [DecidableEq η] [DecidableEq ι] in
theorem chronological_steps {runs : List Run} (h : Chronological timestamp runs) :
    ChronologicalGroups timestamp (steps hashing runs) := by
  obtain ⟨hsome, hsorted⟩ := h
  constructor
  · intro g hg
    obtain ⟨run, hrun, hmem⟩ := List.mem_flatMap.mp hg
    rw [group_run hashing hmem]
    exact hsome run hrun
  · rw [steps, List.pairwise_flatMap]
    constructor
    · intro run _
      refine List.pairwise_of_forall_mem_list fun a ha b hb x hx y hy => ?_
      rw [group_run hashing ha] at hx
      rw [group_run hashing hb] at hy
      exact (Option.some.inj (hx.symm.trans hy)).le
    · refine hsorted.imp fun {a b} hab x hx y hy t ht t' ht' => ?_
      rw [group_run hashing hx] at ht
      rw [group_run hashing hy] at ht'
      exact hab t ht t' ht'

/-- The invariants of every history whose changes have new identities. -/
theorem history_audited (runs : List Run) (htimes : Chronological timestamp runs)
    (hnew : Along (calibrateGroup sqrt hashing timestamp)
      (fun db g => newEvent sqrt hashing timestamp db g = true) Db.empty (steps hashing runs)) :
    Audited hashing timestamp (updates sqrt hashing timestamp Db.empty (steps hashing runs))
      (history sqrt hashing timestamp runs).events := by
  refine ⟨?_, cooldown_kept (chronological_steps hashing timestamp htimes) _, ?_, ?_, ?_⟩
  · exact mem_updates (fun _ _ _ h _ hp => update_hysteresis h hp) _ _
  · exact mem_updates (fun _ _ _ h => update_relaxed h) _ _
  · exact mem_updates (fun _ _ _ h => update_shadow h) _ _
  · obtain ⟨added, hadded, hsublist⟩ := changes_sublist_events hnew
    rw [history_eq, hadded]
    exact hsublist

/-- What an event's identity is made of. -/
structure Identity where
  key : String × String × Scope
  evidence : List Evidence
  previous : Option CalibrationState
  proposed : CalibrationState
  values : Option ℚ × Option ℚ
  reasons : List String
  deriving DecidableEq

/-- Hashes without collisions. -/
def perfectHashing : Hashing (String × String × Scope) (List Evidence) Identity where
  key campaign path scope := (campaign, path, scope)
  evidence := id
  event key evidence previous proposed before after reasons :=
    ⟨key, evidence, previous, proposed, (before, after), reasons⟩

/-- Thirty accepted trades that won. -/
def winners : List Evidence := (List.range 30).map fun k =>
  { burninRunId := "run"
    decisionId := toString k
    actualDecision := "ACCEPTED"
    reasonOrGate := "ACCEPTED"
    symbol := none
    regime := none
    side := none
    outcomeLabel := some "TP_HIT"
    netR := some 1
    attributable := true
    evidenceComplete := true
    executionInvalidated := false
    observedAt := "2026-01-01" }

/-- A run over the winners; its health is proven or not. -/
def winnersRun (now : String) (proven : Bool) : Run where
  campaignId := "campaign"
  evidence := winners
  base := ⟨some 0.5, none⟩
  health := if proven then ⟨some true, some true, some true, some true⟩
    else ⟨none, none, none, none⟩
  now := now

/-- The times of the runs below, in seconds. -/
def clock : String → Option ℚ
  | "day 1, 00:00" => some 0
  | "day 1, 01:00" => some 3600
  | "day 2, 01:00" => some 90000
  | "day 2, 02:00" => some 93600
  | _ => none

/-- The evidence stays and the health comes and goes. -/
def threeRuns : List Run :=
  [winnersRun "day 1, 00:00" true, winnersRun "day 1, 01:00" false, winnersRun "day 2, 01:00" true]

theorem chronological_threeRuns : Chronological clock threeRuns := by
  unfold Chronological
  decide +kernel

theorem history_audited_threeRuns :
    Audited perfectHashing clock (updates id perfectHashing clock Db.empty
      (steps perfectHashing threeRuns))
      (history id perfectHashing clock threeRuns).events :=
  history_audited id perfectHashing clock threeRuns chronological_threeRuns (by decide +kernel)

/-- The health goes a second time. -/
def fourRuns : List Run := threeRuns ++ [winnersRun "day 2, 02:00" false]

/-- The second change from relaxed to frozen has no event of its own. -/
theorem fourRuns_lose_event : Chronological clock fourRuns ∧
    ¬ Audited perfectHashing clock (updates id perfectHashing clock Db.empty
      (steps perfectHashing fourRuns))
      (history id perfectHashing clock fourRuns).events := by
  constructor
  · unfold Chronological
    decide +kernel
  · intro h
    exact absurd h.events (by decide +kernel)

end AlphaForge.Adaptive
