/-
  File:      AlphaForge/Storage/Archived.lean
  Subject:   What the archive of a campaign keeps, whoever crashes.

  * `Sound` -- the invariant of files and records: a manifest names a file with its checksum, a
    record in the database has the manifest of its campaign, and a copy in progress has none.
  * `Removed` -- what a removal that commits has done: every row that went was in the file.
  * **`evidence_kept`** -- after every run a cycle that was stored is stored still, or has its
    rollup, or is held row by row by a file whose checksum is on record.
-/
import AlphaForge.Storage.Archive

namespace AlphaForge.Storage

open AlphaForge.Lib AlphaForge.Universe

variable {F B : Type} [FloatNum F] {a : Archive F B} {d : Machine F}

/-! ## 1. Equal rows -/

section Rows

variable {α κ : Type} [LinearOrder κ] {key : α → κ} {same : α → α → Prop}

omit [FloatNum F] in
theorem sameList_iff {β : Type} {eq : β → β → Bool} {xs ys : List β} :
    sameList eq xs ys = true ↔ List.Forall₂ (fun x y => eq x y = true) xs ys := by
  induction xs generalizing ys with
  | nil =>
    cases ys with
    | nil => simp [sameList]
    | cons y ys => simp [sameList]
  | cons x xs ih =>
    cases ys with
    | nil => simp [sameList]
    | cons y ys => rw [sameList, Bool.and_eq_true, ih, List.forall₂_cons]

omit [FloatNum F] in
theorem forall₂_orderedInsert (hkey : ∀ x y, same x y → key x = key y) {x y : α} (hxy : same x y)
    {xs ys : List α} (h : List.Forall₂ same xs ys) :
    List.Forall₂ same (xs.orderedInsert (fun a b => key a ≤ key b) x)
      (ys.orderedInsert (fun a b => key a ≤ key b) y) := by
  induction h with
  | nil => exact List.Forall₂.cons hxy List.Forall₂.nil
  | @cons u v us vs huv hrest ih =>
    rw [List.orderedInsert_cons, List.orderedInsert_cons, hkey x y hxy, hkey u v huv]
    split
    · exact List.Forall₂.cons hxy (List.Forall₂.cons huv hrest)
    · exact List.Forall₂.cons huv ih

omit [FloatNum F] in
/-- Rows that are equal one by one stay so when both lists are sorted. -/
theorem forall₂_sortOn (hkey : ∀ x y, same x y → key x = key y) {xs ys : List α}
    (h : List.Forall₂ same xs ys) : List.Forall₂ same (sortOn key xs) (sortOn key ys) := by
  induction h with
  | nil => exact List.Forall₂.nil
  | cons hxy _ ih => exact forall₂_orderedInsert hkey hxy ih

theorem index_same {x y : CandidateRow F} (h : sameCandidate x y = true) :
    x.candidateIndex = y.candidateIndex := by
  simp only [sameCandidate, decide_eq_true_eq] at h
  exact h.2.2.1

end Rows

/-- The file has a cycle with all its rows, in the order of a replay. -/
structure Holds (snap : Source F) (c : CycleRow F) (stored : List (CandidateRow F)) : Prop where
  cycle : ∃ c', snap.db.cycle c.cycleId = some c' ∧ sameCycle c c' = true
  candidates : List.Forall₂ (fun q q' => sameCandidate q q' = true) stored
    (snap.db.stored c.cycleId)

theorem holds_of_rowsHeld {s snap : Source F} {c : CycleRow F} (hc : s.db.cycle c.cycleId = some c)
    (h : rowsHeld s snap c.cycleId = true) : Holds snap c (s.db.stored c.cycleId) := by
  simp only [rowsHeld, decide_eq_true_eq] at h
  obtain ⟨_, hcandidates, hcycles, _⟩ := h
  refine ⟨?_, ?_⟩
  · have hhead : (s.cycles.filter fun q => q.cycleId = c.cycleId).head? = some c := by
      rw [← find_eq_head]
      exact hc
    obtain ⟨rest, hrest⟩ := List.head?_eq_some_iff.mp hhead
    rw [hrest] at hcycles
    cases hsnap : snap.cycles.filter fun q => q.cycleId = c.cycleId with
    | nil =>
      rw [hsnap] at hcycles
      cases hcycles
    | cons c' others =>
      rw [hsnap, sameList, Bool.and_eq_true] at hcycles
      refine ⟨c', ?_, hcycles.1⟩
      show snap.cycles.find? _ = some c'
      rw [find_eq_head, hsnap]
      rfl
  · exact forall₂_sortOn (fun x y hxy => index_same hxy) (sameList_iff.mp hcandidates)

/-! ## 2. A removal -/

section Removal

variable {snap s s' : Source F} {cid : String}

/-- The tables without the evidence of some cycles. -/
def without (s : Source F) (ids : List String) : Source F :=
  { s with
    links := s.links.filter fun l => l.cycleId ∉ ids
    candidates := s.candidates.filter fun r => r.cycleId ∉ ids
    cycles := s.cycles.filter fun c => c.cycleId ∉ ids }

omit [FloatNum F] in
theorem filter_twice {β : Type} (name : β → String) (id : String) (ids : List String)
    (rows : List β) :
    ((rows.filter fun b => name b ≠ id).filter fun b => name b ∉ ids) =
      rows.filter fun b => name b ∉ id :: ids := by
  rw [List.filter_filter]
  refine List.filter_congr fun b _ => ?_
  simp [Bool.and_comm]

theorem removeCycle_ok {id : String} {count : ℕ} (h : removeCycle snap cid id s = .ok (s', count)) :
    rowsHeld s snap id = true ∧ count = rowsOf s id ∧
      s' = { s with
        toTables := s.toTables.without id
        archiveAuthorizations := s.archiveAuthorizations } := by
  unfold removeCycle at h
  obtain ⟨_, hheld, h⟩ := ok_of_bind h
  split at h
  · cases h
  · rename_i hfree
    dsimp only at h
    split at h
    · cases h
    · cases Except.ok.inj h
      refine ⟨require_ok.mp hheld, rfl, ?_⟩
      congr 1
      rw [List.filter_append]
      have hall : (s.archiveAuthorizations.filter fun auth => decide (auth.cycleId ≠ id)) =
          s.archiveAuthorizations := by
        refine List.filter_eq_self.mpr fun auth hauth => decide_eq_true fun heq => ?_
        exact hfree ⟨auth, hauth, heq⟩
      rw [hall]
      simp

/-- What a removal has done with the cycles it took. -/
structure Removed (s snap : Source F) (ids : List String) (s' : Source F) (removed : ℕ) : Prop where
  tables : s' = without s ids
  distinct : ids.Nodup
  held : ∀ id ∈ ids, rowsHeld s snap id = true
  rows : removed = (ids.map (rowsOf s)).sum

omit [FloatNum F] in
theorem without_nil (s : Source F) : without s [] = s := by
  unfold without
  simp

omit [FloatNum F] in
theorem without_cons (s : Source F) (id : String) (ids : List String) :
    without { s with toTables := s.toTables.without id } ids = without s (id :: ids) := by
  unfold without Tables.without
  simp only [filter_twice]

theorem rowsHeld_without {id x : String} (hne : id ≠ x) :
    rowsHeld { s with toTables := s.toTables.without x } snap id = rowsHeld s snap id := by
  unfold rowsHeld Tables.linksOf Tables.without
  have hany : ((s.cycles.filter fun c => c.cycleId ≠ x).any fun c => c.cycleId = id) =
      s.cycles.any fun c => c.cycleId = id := by
    rw [Bool.eq_iff_iff, List.any_eq_true, List.any_eq_true]
    constructor
    · rintro ⟨c, hc, hid⟩
      exact ⟨c, List.mem_of_mem_filter hc, hid⟩
    · rintro ⟨c, hc, hid⟩
      have hid' : c.cycleId = id := of_decide_eq_true hid
      exact ⟨c, List.mem_filter.mpr ⟨hc, decide_eq_true (hid' ▸ hne)⟩, hid⟩
  simp only [filter_without _ hne, hany]

omit [FloatNum F] in
theorem rowsOf_without {id x : String} (hne : id ≠ x) :
    rowsOf { s with toTables := s.toTables.without x } id = rowsOf s id := by
  unfold rowsOf deletedCounts Tables.linksOf Tables.without
  simp only [filter_without _ hne]

/-- **The loop removes the front of its list**, and only what the file holds. -/
theorem removeCycles_ok {batchRows : ℤ} {late : ℕ → Bool} {i removed total : ℕ} {todo : List String}
    (hdistinct : todo.Nodup)
    (h : removeCycles batchRows late snap cid i removed todo s = .ok (s', total)) :
    ∃ ids, ids <+: todo ∧ removed ≤ total ∧ Removed s snap ids s' (total - removed) ∧
      ((removed : ℤ) ≤ batchRows → (total : ℤ) ≤ batchRows) := by
  induction todo generalizing s i removed with
  | nil =>
    cases Except.ok.inj h
    exact ⟨[], List.prefix_rfl, le_rfl, ⟨(without_nil _).symm, List.nodup_nil,
      fun _ hid => absurd hid List.not_mem_nil, by simp⟩, fun hroom => hroom⟩
  | cons id rest ih =>
    unfold removeCycles at h
    split at h
    · cases Except.ok.inj h
      exact ⟨[], ⟨_, List.nil_append _⟩, le_rfl, ⟨(without_nil _).symm, List.nodup_nil,
        fun _ hid => absurd hid List.not_mem_nil, by simp⟩, fun hroom => hroom⟩
    · rename_i hfits
      obtain ⟨⟨s₁, count⟩, hone, h⟩ := ok_of_bind h
      obtain ⟨hheld, hcount, hs₁⟩ := removeCycle_ok hone
      obtain ⟨hnew, hnodup⟩ := List.nodup_cons.mp hdistinct
      obtain ⟨ids, hfront, hle, hr, hbudget⟩ := ih hnodup h
      have hout : ∀ x ∈ ids, x ≠ id := fun x hx heq => hnew (heq ▸ hfront.subset hx)
      refine ⟨id :: ids, List.cons_prefix_cons.mpr ⟨rfl, hfront⟩, by omega, ⟨?_, ?_, ?_, ?_⟩, ?_⟩
      · rw [hr.tables, hs₁]
        exact without_cons s id ids
      · exact List.nodup_cons.mpr ⟨fun hin => hout id hin rfl, hr.distinct⟩
      · intro x hx
        rcases List.mem_cons.mp hx with heq | hx
        · exact heq ▸ hheld
        · have hrow := hr.held x hx
          rw [hs₁] at hrow
          rw [← rowsHeld_without (hout x hx)]
          exact hrow
      · have hmap : ids.map (rowsOf s₁) = ids.map (rowsOf s) := by
          refine List.map_congr_left fun x hx => ?_
          rw [hs₁]
          exact rowsOf_without (hout x hx)
        have hrows := hr.rows
        rw [hmap] at hrows
        rw [List.map_cons, List.sum_cons]
        omega
      · intro _
        refine hbudget ?_
        have hroom : ¬ batchRows < rowsOf s id + removed := fun hlt => hfits (Or.inr hlt)
        push_cast
        omega

variable {batchRows : ℤ} {now checked : F} {late : ℕ → Bool} {m : Manifest}

omit [FloatNum F] in
theorem nodup_cyclesOf (s : Source F) (cid : String) (limit : ℤ) :
    (cyclesOf s cid limit).Nodup := by
  unfold cyclesOf sortedSet
  refine List.Nodup.sublist (List.take_sublist _ _) ?_
  exact (List.perm_insertionSort _ _).nodup_iff.mpr (List.nodup_dedup _)

omit [FloatNum F] in
theorem mem_cyclesOf {limit : ℤ} {id : String} (h : id ∈ cyclesOf s cid limit) :
    ∃ l ∈ s.links, l.campaignId = cid ∧ l.cycleId = id := by
  have hin := mem_sortedSet.mp (List.mem_of_mem_take h)
  obtain ⟨l, hl, hid⟩ := List.mem_map.mp hin
  obtain ⟨hmem, hcid⟩ := List.mem_filter.mp hl
  exact ⟨l, hmem, of_decide_eq_true hcid, hid⟩

theorem refuse_ok {reason : Except PyError (Option String)} (h : refuse reason = .ok ()) :
    reason = .ok none := by
  unfold refuse at h
  split at h
  · rfl
  · cases h
  · cases h

/-- What a removal that commits has done. -/
theorem removal_ok {removed : ℕ} (h : removal a d batchRows now late snap m s = .ok (s', removed)) :
    ∃ ids s₁, ids ⊆ cyclesOf s m.campaignId batchRows ∧ Removed s snap ids s₁ removed ∧
      s' = setState s₁ m.campaignId ∧
      campaignEligibility a d now (FloatNum.ofInt 0) s m.campaignId = .ok none ∧
      (∃ r ∈ s.archives, r.campaignId = m.campaignId ∧ r.checksum = m.checksum) ∧
      (0 ≤ batchRows → (removed : ℤ) ≤ batchRows) := by
  unfold removal at h
  obtain ⟨_, heligible, h⟩ := ok_of_bind h
  obtain ⟨_, hdurable, h⟩ := ok_of_bind h
  obtain ⟨identity, _, h⟩ := ok_of_bind h
  obtain ⟨_, _, h⟩ := ok_of_bind h
  obtain ⟨⟨s₁, total⟩, hloop, h⟩ := ok_of_bind h
  cases Except.ok.inj h
  obtain ⟨ids, hfront, _, hr, hbudget⟩ :=
    removeCycles_ok (nodup_cyclesOf s m.campaignId batchRows) hloop
  obtain ⟨r, hfound, hchecksum⟩ := Option.map_eq_some_iff.mp (require_ok.mp hdurable)
  have hcampaign := List.find?_some hfound
  exact ⟨ids, s₁, hfront.subset, hr, rfl, refuse_ok heligible,
    ⟨r, List.mem_of_find?_eq_some hfound, of_decide_eq_true hcampaign, hchecksum⟩,
    fun hroom => hbudget (by exact_mod_cast hroom)⟩

theorem verify_ok {file : Option (Source F)} (h : verifyManifest a d now file m = .ok ()) :
    ∃ snap, file = some snap ∧ d.fileHash snap = m.checksum := by
  unfold verifyManifest at h
  split at h
  · cases h
  · rename_i snap
    obtain ⟨_, hstate, _⟩ := ok_of_bind h
    exact ⟨snap, rfl, (require_ok.mp hstate).2⟩

variable (a d batchRows now checked late m) in
/-- A removal leaves the world as it is, or takes what the verified file holds. -/
theorem removeArchivedBatch_leaves (w : World F) :
    (removeArchivedBatch a d batchRows checked now late m w).1 = w ∨
      ∃ snap s removed, w.archive m.archivePath = some snap ∧ d.fileHash snap = m.checksum ∧
        removal a d batchRows now late snap m w.source = .ok (s, removed) ∧
        (removeArchivedBatch a d batchRows checked now late m w).1 = { w with source := s } := by
  unfold removeArchivedBatch
  split
  · exact Or.inl rfl
  · rename_i snap hfile
    split
    · exact Or.inl rfl
    · rename_i hverify
      split
      · rename_i s removed hremoval
        obtain ⟨snap', hsame, hhash⟩ := verify_ok hverify
        cases Option.some.inj hsame
        exact Or.inr ⟨snap, s, removed, hfile, hhash, hremoval, rfl⟩
      · exact Or.inl rfl

end Removal

/-! ## 3. Files and records -/

/-- The invariant. -/
structure Sound (d : Machine F) (w : World F) : Prop where
  held : ∀ name m, w.manifest name = some m → m.archivePath = name ∧
    d.archiveName m.campaignId = name ∧ ∃ snap, w.archive name = some snap ∧
      d.fileHash snap = m.checksum
  copied : ∀ name cid, w.working name = some (.copied cid) →
    d.archiveName cid = name ∧ w.manifest name = none
  recorded : ∀ r ∈ w.source.archives, w.manifest (d.archiveName r.campaignId) = some r.manifest ∧
    r.checksum = r.manifest.checksum ∧ r.manifest.campaignId = r.campaignId
  returned : ∀ m ∈ w.returned, w.manifest (d.archiveName m.campaignId) = some m

section Steps

variable {W : Source F → Source F → Prop} {w w' : World F}

omit [FloatNum F] in
/-- Before anything is archived. -/
theorem sound_fresh (hmanifest : ∀ name, w.manifest name = none)
    (hworking : ∀ name, w.working name = none) (hrecords : w.source.archives = [])
    (hreturned : w.returned = []) : Sound d w := by
  refine ⟨fun name m hm => ?_, fun name cid hphase => ?_, fun r hr => ?_, fun m hm => ?_⟩
  · rw [hmanifest] at hm
    cases hm
  · rw [hworking] at hphase
    cases hphase
  · rw [hrecords] at hr
    exact absurd hr List.not_mem_nil
  · rw [hreturned] at hm
    exact absurd hm List.not_mem_nil

/-- What one step can do. -/
inductive Change (a : Archive F B) (d : Machine F) (W : Source F → Source F → Prop) (w : World F) :
    World F → Prop where
  /-- A lock is taken or released. -/
  | locked (phases : String → Option Phase)
      (old : ∀ name cid, phases name = some (.copied cid) → w.working name = some (.copied cid)) :
      Change a d W w { w with working := phases }
  | copied (cid : String) (missing : w.manifest (d.archiveName cid) = none) :
      Change a d W w { w with
        working := Function.update w.working (d.archiveName cid) (some (.copied cid))
        archive := Function.update w.archive (d.archiveName cid) (some w.source) }
  | sealed (cid : String) (snap : Source F) (identity : List (Option String))
      (phase : w.working (d.archiveName cid) = some (.copied cid))
      (file : w.archive (d.archiveName cid) = some snap) :
      Change a d W w { w with
        working := Function.update w.working (d.archiveName cid) (some (.began cid))
        manifest := Function.update w.manifest (d.archiveName cid)
          (some (manifestOf d cid snap identity)) }
  | published (cid : String) (m : Manifest) (s : Source F)
      (found : w.manifest (d.archiveName cid) = some m) (campaign : m.campaignId = cid)
      (recorded : s = w.source ∨ s = { w.source with
        archives := w.source.archives ++ [⟨cid, m.checksum, m, .verified⟩] }) :
      Change a d W w { w with
        source := s
        working := Function.update w.working (d.archiveName cid) none
        returned := m :: w.returned }
  | written (s : Source F) (allowed : W w.source s) (archives : s.archives = w.source.archives)
      (rollups : s.rollups = w.source.rollups)
        (checkpoints : s.checkpoints = w.source.checkpoints) :
      Change a d W w { w with source := s }
  | batch (k : Compaction F) (now : F) (late : ℕ → Bool) : Change a d W w
      { w with source := { w.source with
        toTables := (compactStatsOnlyUniverseBatch a k now late w.source.toTables).1 } }
  | removed (batchRows : ℤ) (now : F) (late : ℕ → Bool) (m : Manifest) (snap s : Source F)
      (count : ℕ) (held : m ∈ w.returned) (file : w.archive m.archivePath = some snap)
      (hash : d.fileHash snap = m.checksum)
      (ok : removal a d batchRows now late snap m w.source = .ok (s, count)) :
      Change a d W w { w with source := s }

omit [FloatNum F] in
/-- No new copy is in progress where a lock is released. -/
theorem update_old {phases : String → Option Phase} {name : String} {phase : Option Phase}
    (hphase : ∀ cid, phase ≠ some (.copied cid)) (x cid : String)
    (h : Function.update phases name phase x = some (.copied cid)) :
    phases x = some (.copied cid) := by
  by_cases heq : x = name
  · rw [heq, Function.update_self] at h
    exact absurd h (hphase cid)
  · rwa [Function.update_of_ne heq] at h

theorem change_released (w : World F) (name : String) : Change a d W w (w.released name) :=
  Change.locked _ (update_old fun cid h => by cases h)

/-- An attempt that raises releases its lock. -/
theorem change_attempt {name : String} {result : Except PyError (World F)}
    (hok : ∀ w₁, result = .ok w₁ → Change a d W w w₁) :
    Change a d W w (w.attempt name result).1 := by
  unfold World.attempt
  split
  · rename_i w₁
    exact hok w₁ rfl
  · exact change_released w name

theorem change_of_step (hstep : WorldStep a d W w w') : Change a d W w w' := by
  cases hstep with
  | written allowed archives rollups checkpoints =>
    exact Change.written _ allowed archives rollups checkpoints
  | batch k now late => exact Change.batch k now late
  | began now minAge cid =>
    unfold beginArchive
    split
    · exact Change.locked w.working fun _ _ h => h
    · refine change_attempt fun w₁ h => ?_
      obtain ⟨_, _, h⟩ := ok_of_bind h
      rw [← Except.ok.inj h]
      exact Change.locked _ (update_old fun c hc => by cases hc)
  | copied now cid _ missing =>
    refine change_attempt fun w₁ h => ?_
    obtain ⟨_, _, h⟩ := ok_of_bind h
    obtain ⟨_, _, h⟩ := ok_of_bind h
    obtain ⟨_, _, h⟩ := ok_of_bind h
    rw [← Except.ok.inj h]
    exact Change.copied cid missing
  | sealed cid snap phase file =>
    refine change_attempt fun w₁ h => ?_
    obtain ⟨identity, _, h⟩ := ok_of_bind h
    rw [← Except.ok.inj h]
    exact Change.sealed cid snap identity phase file
  | published checked now cid m _ found =>
    refine change_attempt fun w₁ h => ?_
    obtain ⟨_, _, h⟩ := ok_of_bind h
    obtain ⟨_, hcampaign, h⟩ := ok_of_bind h
    obtain ⟨s, hs, h⟩ := ok_of_bind h
    rw [← Except.ok.inj h]
    refine Change.published cid m s found (require_ok.mp hcampaign) ?_
    obtain ⟨_, _, hs⟩ := ok_of_bind hs
    split at hs
    · obtain ⟨_, _, hs⟩ := ok_of_bind hs
      exact Or.inl (Except.ok.inj hs).symm
    · exact Or.inr (Except.ok.inj hs).symm
  | removed batchRows checked now late m held =>
    rcases removeArchivedBatch_leaves a d batchRows now checked late m w with
      hsame | ⟨snap, s, count, hfile, hhash, hok, hw⟩
    · rw [hsame]
      exact Change.locked w.working fun _ _ h => h
    · rw [hw]
      exact Change.removed batchRows now late m snap s count held hfile hhash hok
  | abandoned name => exact change_released w name

/-- The records after a removal: the same, with another state. -/
theorem records_removal {batchRows : ℤ} {now : F} {late : ℕ → Bool} {m : Manifest}
    {snap s s' : Source F} {count : ℕ}
    (h : removal a d batchRows now late snap m s = .ok (s', count)) :
    ∀ r ∈ s'.archives, ∃ old ∈ s.archives, r.campaignId = old.campaignId ∧
      r.manifest = old.manifest ∧ r.checksum = old.checksum := by
  obtain ⟨ids, s₁, _, hr, hstate, _⟩ := removal_ok h
  subst hstate
  intro r hin
  obtain ⟨old, hold, heq⟩ := List.mem_map.mp hin
  rw [hr.tables] at hold
  refine ⟨old, hold, ?_⟩
  subst heq
  split
  · exact ⟨rfl, rfl, rfl⟩
  · exact ⟨rfl, rfl, rfl⟩

theorem sound_step (h : Sound d w) (hstep : WorldStep a d W w w') : Sound d w' := by
  cases change_of_step hstep with
  | locked phases old => exact ⟨h.held, fun x c hx => h.copied x c (old x c hx),
      h.recorded, h.returned⟩
  | copied cid missing =>
    refine ⟨fun x m hm => ?_, fun x c hx => ?_, h.recorded, h.returned⟩
    · obtain ⟨hpath, hname, snap, hfile, hhash⟩ := h.held x m hm
      refine ⟨hpath, hname, snap, ?_, hhash⟩
      have hne : x ≠ d.archiveName cid := by
        intro heq
        rw [heq, missing] at hm
        cases hm
      show Function.update w.archive _ _ x = _
      rw [Function.update_of_ne hne, hfile]
    · by_cases heq : x = d.archiveName cid
      · subst heq
        replace hx : Function.update w.working _ _ _ = _ := hx
        rw [Function.update_self] at hx
        cases Option.some.inj hx
        exact ⟨rfl, missing⟩
      · replace hx : Function.update w.working _ _ _ = _ := hx
        rw [Function.update_of_ne heq] at hx
        exact h.copied x c hx
  | sealed cid snap identity phase file =>
    have hnone := (h.copied _ _ phase).2
    have hother : ∀ x m, w.manifest x = some m → x ≠ d.archiveName cid := by
      intro x m hm heq
      rw [heq, hnone] at hm
      cases hm
    refine ⟨fun x m hm => ?_, fun x c hx => ?_, fun r hr => ?_, fun m hm => ?_⟩
    · by_cases heq : x = d.archiveName cid
      · subst heq
        replace hm : Function.update w.manifest _ _ _ = _ := hm
        rw [Function.update_self] at hm
        cases Option.some.inj hm
        exact ⟨rfl, rfl, snap, file, rfl⟩
      · replace hm : Function.update w.manifest _ _ _ = _ := hm
        rw [Function.update_of_ne heq] at hm
        exact h.held x m hm
    · have hold := update_old (fun c hc => by cases hc) x c hx
      obtain ⟨hname, hmissing⟩ := h.copied x c hold
      refine ⟨hname, ?_⟩
      have hne : x ≠ d.archiveName cid := by
        intro heq
        subst heq
        replace hx : Function.update w.working _ _ _ = _ := hx
        rw [Function.update_self] at hx
        cases hx
      show Function.update w.manifest _ _ x = none
      rw [Function.update_of_ne hne, hmissing]
    · obtain ⟨hm, hrest⟩ := h.recorded r hr
      refine ⟨?_, hrest⟩
      show Function.update w.manifest _ _ _ = _
      rw [Function.update_of_ne (hother _ _ hm), hm]
    · have hm' := h.returned m hm
      show Function.update w.manifest _ _ _ = _
      rw [Function.update_of_ne (hother _ _ hm'), hm']
  | published cid m s found campaign recorded =>
    refine ⟨h.held, fun x c hx => h.copied x c (update_old (fun c hc => by cases hc) x c hx),
      fun r hr => ?_, fun m' hm' => ?_⟩
    · rcases recorded with rfl | rfl
      · exact h.recorded r hr
      · rcases List.mem_append.mp hr with hold | hnew
        · exact h.recorded r hold
        · cases List.mem_singleton.mp hnew
          exact ⟨found, rfl, campaign⟩
    · rcases List.mem_cons.mp hm' with rfl | hold
      · rw [campaign]
        exact found
      · exact h.returned m' hold
  | written s _ archives _ _ =>
    refine ⟨h.held, h.copied, fun r hr => h.recorded r ?_, h.returned⟩
    rw [← archives]
    exact hr
  | batch k now late => exact ⟨h.held, h.copied, h.recorded, h.returned⟩
  | removed batchRows now late m snap s count _ _ _ ok =>
    refine ⟨h.held, h.copied, fun r hr => ?_, h.returned⟩
    obtain ⟨old, hold, hcampaign, hmanifest, hchecksum⟩ := records_removal ok r hr
    rw [hcampaign, hmanifest, hchecksum]
    exact h.recorded old hold

theorem sound_reaches (h : Sound d w) (hrun : WorldReaches a d W w w') : Sound d w' := by
  induction hrun with
  | refl => exact h
  | tail _ hstep ih => exact sound_step ih hstep

end Steps

/-! ## 4. Nothing is lost -/

section Kept

/-- What was asked of it holds of a file on record whose removal has begun. -/
def OnRecord (d : Machine F) (w : World F) (P : Source F → Prop) : Prop :=
  ∃ r ∈ w.source.archives, r.state ≠ .verified ∧
    ∃ snap, w.archive (d.archiveName r.campaignId) = some snap ∧ d.fileHash snap = r.checksum ∧
      P snap

/-- A file on record holds the cycle, and its removal has begun. -/
def Recorded (d : Machine F) (w : World F) (c : CycleRow F) (stored : List (CandidateRow F)) :
    Prop :=
  OnRecord d w fun snap => Holds snap c stored

/-- What the writers of evidence do to the database. -/
def Writers (s s' : Source F) : Prop := Immutable s.toTables s'.toTables

variable {t : Tables F} {c : CycleRow F} {w w' : World F}

omit [FloatNum F] in
theorem setState_removing {s : Source F} {cid : String} {r : ArchiveRow} (hr : r ∈ s.archives)
    (hcampaign : r.campaignId = cid) : ∃ r' ∈ (setState s cid).archives,
      r'.campaignId = cid ∧ r'.checksum = r.checksum ∧ r'.state ≠ .verified := by
  refine ⟨_, List.mem_map_of_mem hr, ?_⟩
  rw [if_pos hcampaign]
  refine ⟨hcampaign, rfl, ?_⟩
  show (if _ then ArchiveState.removing else ArchiveState.archived) ≠ ArchiveState.verified
  split
  · exact ArchiveState.noConfusion
  · exact ArchiveState.noConfusion

omit [FloatNum F] in
/-- What is not taken stays as it was. -/
theorem untouched_without {s : Source F} {ids : List String} {id : String} (hout : id ∉ ids) :
    Untouched id s.db (without s ids).db := by
  refine ⟨?_, ?_⟩
  · show (s.cycles.filter _).find? _ = s.cycles.find? _
    rw [find_eq_head, find_eq_head, List.filter_filter]
    congr 1
    refine List.filter_congr fun q _ => ?_
    by_cases hq : q.cycleId = id
    · simp [hq, hout]
    · simp [hq]
  · show sortOn _ ((s.candidates.filter _).filter _) = sortOn _ (s.candidates.filter _)
    rw [List.filter_filter]
    congr 1
    refine List.filter_congr fun q _ => ?_
    by_cases hq : q.cycleId = id
    · simp [hq, hout]
    · simp [hq]

/-- A removal takes a stored cycle to the record, or leaves it. -/
theorem kept_removal (hs : Sound d w) {batchRows : ℤ} {now : F} {late : ℕ → Bool} {m : Manifest}
    {snap s : Source F} {count : ℕ} (held : m ∈ w.returned)
    (file : w.archive m.archivePath = some snap) (hash : d.fileHash snap = m.checksum)
    (ok : removal a d batchRows now late snap m w.source = .ok (s, count))
    (hc : w.source.db.cycle c.cycleId = some c) :
    (s.db.cycle c.cycleId = some c ∧ s.db.stored c.cycleId = w.source.db.stored c.cycleId) ∨
      Recorded d { w with source := s } c (w.source.db.stored c.cycleId) := by
  obtain ⟨ids, s₁, _, hr, hstate, _, ⟨r, hrecord, hcampaign, hchecksum⟩, _⟩ := removal_ok ok
  subst hstate
  by_cases hin : c.cycleId ∈ ids
  · refine Or.inr ?_
    have hrecord₁ : r ∈ s₁.archives := by
      rw [hr.tables]
      exact hrecord
    obtain ⟨r', hr', hcampaign', hchecksum', hremoving⟩ := setState_removing hrecord₁ hcampaign
    refine ⟨r', hr', hremoving, snap, ?_, ?_, holds_of_rowsHeld hc (hr.held _ hin)⟩
    · have hpath := (hs.held _ _ (hs.returned m held)).1
      rw [hcampaign', ← hpath]
      exact file
    · rw [hchecksum', hchecksum, hash]
  · refine Or.inl ?_
    obtain ⟨hcycle, hstored⟩ := untouched_without (s := w.source) hin
    have hdb : (setState s₁ m.campaignId).db = s₁.db := rfl
    rw [hdb, hr.tables, hcycle, hstored]
    exact ⟨hc, rfl⟩

/-- One step keeps what is recorded. -/
theorem recorded_step {W : Source F → Source F → Prop} (hs : Sound d w) {P : Source F → Prop}
    (h : OnRecord d w P) (hstep : WorldStep a d W w w') : OnRecord d w' P := by
  obtain ⟨r, hr, hstate, snap, hfile, hhash, hholds⟩ := h
  cases change_of_step hstep with
  | locked phases _ => exact ⟨r, hr, hstate, snap, hfile, hhash, hholds⟩
  | copied cid missing =>
    refine ⟨r, hr, hstate, snap, ?_, hhash, hholds⟩
    have hne : d.archiveName r.campaignId ≠ d.archiveName cid := by
      intro heq
      have hm := (hs.recorded r hr).1
      rw [heq, missing] at hm
      cases hm
    show Function.update w.archive _ _ _ = _
    rw [Function.update_of_ne hne, hfile]
  | sealed cid _ _ _ _ => exact ⟨r, hr, hstate, snap, hfile, hhash, hholds⟩
  | published cid m s _ _ recorded =>
    refine ⟨r, ?_, hstate, snap, hfile, hhash, hholds⟩
    rcases recorded with rfl | rfl
    · exact hr
    · exact List.mem_append_left _ hr
  | written s _ archives _ _ =>
    refine ⟨r, ?_, hstate, snap, hfile, hhash, hholds⟩
    show r ∈ s.archives
    rw [archives]
    exact hr
  | batch k now late => exact ⟨r, hr, hstate, snap, hfile, hhash, hholds⟩
  | removed batchRows now late m snap' s count _ _ _ ok =>
    obtain ⟨ids, s₁, _, hremoved, hsame, _⟩ := removal_ok ok
    subst hsame
    have hr₁ : r ∈ s₁.archives := by
      rw [hremoved.tables]
      exact hr
    by_cases hcampaign : r.campaignId = m.campaignId
    · obtain ⟨r', hr', hcampaign', hchecksum', hremoving⟩ := setState_removing hr₁ hcampaign
      refine ⟨r', hr', hremoving, snap, ?_, ?_, hholds⟩
      · rw [hcampaign', ← hcampaign]
        exact hfile
      · rw [hchecksum', hhash]
    · refine ⟨r, List.mem_map.mpr ⟨r, hr₁, if_neg hcampaign⟩, hstate, snap, hfile, hhash, hholds⟩

/-- One step keeps a cycle, takes it to its rollup, or to the record. -/
theorem kept_step (hs : Sound d w) (h : Accounted t c w.source.toTables)
    (hstep : WorldStep a d Writers w w') :
    Accounted t c w'.source.toTables ∨ Recorded d w' c (t.db.stored c.cycleId) := by
  cases change_of_step hstep with
  | locked phases _ => exact Or.inl h
  | copied cid _ => exact Or.inl h
  | sealed cid _ _ _ _ => exact Or.inl h
  | published cid m s _ _ recorded =>
    rcases recorded with rfl | rfl
    · exact Or.inl h
    · exact Or.inl h
  | written s allowed _ rollups checkpoints =>
    exact Or.inl (accounted_step (a := a) h (Step.written allowed rollups checkpoints))
  | batch k now late => exact Or.inl (accounted_step h (Step.batch k now late))
  | removed batchRows now late m snap s count held file hash ok =>
    rcases h with ⟨hcycle, hstored⟩ | ⟨q, hq, hrest⟩
    · rcases kept_removal hs held file hash ok hcycle with ⟨hcycle', hstored'⟩ | hrecorded
      · exact Or.inl (Or.inl ⟨hcycle', hstored'.trans hstored⟩)
      · rw [hstored] at hrecorded
        exact Or.inr hrecorded
    · obtain ⟨ids, s₁, _, hremoved, hsame, _⟩ := removal_ok ok
      refine Or.inl (Or.inr ⟨q, ?_, hrest⟩)
      subst hsame
      show q ∈ s₁.rollups
      rw [hremoved.tables]
      exact hq

/-- **No evidence is lost**: whatever is written to the other tables, however often a batch of the
    statistics or of the archive runs, and wherever an attempt to archive ends, a cycle that was
    stored is stored still with all its rows, or it has a rollup with the exact counts, or a file
    whose checksum is on record holds the same rows. -/
theorem evidence_kept (hs : Sound d w) (hc : w.source.db.cycle c.cycleId = some c)
    (hrun : WorldReaches a d Writers w w') : Accounted w.source.toTables c w'.source.toTables ∨
      Recorded d w' c (w.source.db.stored c.cycleId) := by
  induction hrun with
  | refl => exact Or.inl (Or.inl ⟨hc, rfl⟩)
  | tail hbefore hstep ih =>
    have hsound := sound_reaches hs hbefore
    rcases ih with hkept | hrecorded
    · exact kept_step hsound hkept hstep
    · exact Or.inr (recorded_step hsound hrecorded hstep)

/-! A run: the campaign of `Ledger.lean` is archived, and its first cycle goes. -/

/-- There is one time to read. -/
def stampedArchive (time : Extended) : Archive Extended (List Char) :=
  { shortArchive with isoTimestamp := fun _ => some time }

/-- Two seconds after the epoch. -/
def datedArchive : Archive Extended (List Char) := stampedArchive (.finite 2)

def sampleMachine : Machine Extended where
  fileHash s := strokes s.cycles.length
  schemaHash _ := ""
  intact _ := true
  jsonValid _ := true
  archiveName cid := cid

def sampleWorld : World Extended where
  source :=
    { sampleTables [] with
      mappingStatus := fun _ _ => "COMPLETED"
      archiveSchemaAvailable := true
      authorityRows := false
      archiveDependency := none
      archives := []
      archiveAuthorizations := [] }
  archive _ := none
  manifest _ := none
  working _ := none
  returned := []

def afterBegin (w : World Extended) : World Extended :=
  (beginArchive datedArchive sampleMachine (.finite 100) (.finite 0) "C" w).1

def afterCopy (w : World Extended) : World Extended :=
  (copyArchive datedArchive sampleMachine (.finite 100) "C" w).1

def afterSeal (snap : Source Extended) (w : World Extended) : World Extended :=
  (sealArchive sampleMachine "C" snap w).1

def afterPublish (m : Manifest) (w : World Extended) : World Extended :=
  (publishArchive datedArchive sampleMachine (.finite 100) (.finite 100) "C" m w).1

def afterRemoval (m : Manifest) (w : World Extended) : World Extended :=
  (removeArchivedBatch datedArchive sampleMachine 2 (.finite 100) (.finite 100)
    (fun _ => false) m w).1

def begunWorld : World Extended := afterBegin sampleWorld

def copiedWorld : World Extended := afterCopy begunWorld

theorem copiedWorld_file : (copiedWorld.archive "C").isSome = true := by decide +kernel

def sampleFile : Source Extended := (copiedWorld.archive "C").get copiedWorld_file

def sealedWorld : World Extended := afterSeal sampleFile copiedWorld

theorem sealedWorld_manifest : (sealedWorld.manifest "C").isSome = true := by decide +kernel

def sampleManifest : Manifest := (sealedWorld.manifest "C").get sealedWorld_manifest

def publishedWorld : World Extended := afterPublish sampleManifest sealedWorld

def removedWorld : World Extended := afterRemoval sampleManifest publishedWorld

section SampleSteps

variable {W : Source Extended → Source Extended → Prop} {w : World Extended}

theorem step_afterBegin : WorldStep datedArchive sampleMachine W w (afterBegin w) :=
  WorldStep.began _ _ _

theorem step_afterCopy (hphase : w.working "C" = some (.began "C"))
    (hmissing : w.manifest "C" = none) :
    WorldStep datedArchive sampleMachine W w (afterCopy w) := WorldStep.copied _ _ hphase hmissing

theorem step_afterSeal {snap : Source Extended} (hphase : w.working "C" = some (.copied "C"))
    (hfile : w.archive "C" = some snap) :
    WorldStep datedArchive sampleMachine W w (afterSeal snap w) := WorldStep.sealed _ _ hphase hfile

theorem step_afterPublish {m : Manifest} (hphase : w.working "C" = some (.began "C"))
    (hfound : w.manifest "C" = some m) :
    WorldStep datedArchive sampleMachine W w (afterPublish m w) :=
  WorldStep.published _ _ _ _ hphase hfound

theorem step_afterRemoval {m : Manifest} (hheld : m ∈ w.returned) :
    WorldStep datedArchive sampleMachine W w (afterRemoval m w) := WorldStep.removed _ _ _ _ _ hheld

end SampleSteps

theorem published_reached (W : Source Extended → Source Extended → Prop) :
    WorldReaches datedArchive sampleMachine W sampleWorld publishedWorld := by
  have hphases : begunWorld.working "C" = some (.began "C") ∧ begunWorld.manifest "C" = none ∧
      copiedWorld.working "C" = some (.copied "C") ∧
        sealedWorld.working "C" = some (.began "C") := by
    decide +kernel
  obtain ⟨hbegan, hmissing, hcopied, hsealed⟩ := hphases
  have hcopy : WorldReaches datedArchive sampleMachine W sampleWorld copiedWorld :=
    (Relation.ReflTransGen.single step_afterBegin).tail (step_afterCopy hbegan hmissing)
  exact (hcopy.tail (step_afterSeal hcopied (Option.some_get copiedWorld_file).symm)).tail
    (step_afterPublish hsealed (Option.some_get sealedWorld_manifest).symm)

theorem sampleWorld_sound : Sound sampleMachine sampleWorld :=
  sound_fresh (fun _ => rfl) (fun _ => rfl) rfl rfl

end Kept

end AlphaForge.Storage
