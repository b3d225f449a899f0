/-
  File:      AlphaForge/Portfolio/Limits.lean
  Subject:   The allocator keeps the simulated portfolio inside its limits.

  * `Respects` -- the exposures of the starting snapshot are within the limits, a missing one read
    as zero; `FiniteLimits` -- the configured limits are finite.
  * `Ledger.Within` -- the same of the running ledger, for every symbol and group it records.
  * `within_start`, `within_add`, `within_run` -- the ledger starts within and stays within.
  * `Accounts` -- a ledger is the one at the start with every granted notional and position added,
    one after the other; `accounts_run` says so of the pass.
  * **`allocations_within_limits`** -- after every prefix of the processing order the ledger
    accounts for what was granted and is within the limits, and a candidate that fails a gate other
    than a capacity gate gets nothing, whichever gate fails first.
-/
import AlphaForge.Portfolio.Allocator

namespace AlphaForge.Portfolio

open AlphaForge.Lib

section Limits

variable {F : Type} [FloatNum F]

/-! ## 1. Within the limits -/

/-- The configured limits are finite. -/
structure FiniteLimits (s : Snapshot F) (config : Config F) : Prop where
  total : ∀ limit ∈ s.maxNotionalExposure, FloatNum.isFinite limit = true
  symbol : ∀ limit ∈ s.maxSymbolNotional, FloatNum.isFinite limit = true
  group : ∀ limit ∈ s.maxCorrelationGroupExposure, FloatNum.isFinite limit = true
  side : ∀ limit ∈ config.maxSameSideExposure, FloatNum.isFinite limit = true
  net : ∀ limit ∈ config.maxNetExposure, FloatNum.isFinite limit = true

/-- A count plus the positions already allocated is within its limit. -/
def CountWithin (count limit : Option (PyNum F)) (allocated : ℤ) : Prop :=
  ∀ c ∈ count, ∀ l ∈ limit, ∀ m n, c.toInt = .ok m → l.toInt = .ok n → m + allocated ≤ n

/-- The exposures of a snapshot respect the limits. -/
structure Respects (s : Snapshot F) (config : Config F) : Prop where
  total : ∀ limit ∈ s.maxNotionalExposure, orZero s.totalNotionalExposure ≤ limit
  symbols : ∀ limit ∈ s.maxSymbolNotional, ∀ e ∈ s.symbolNotionalExposures, e.2 ≤ limit
  symbol : ∀ limit ∈ s.maxSymbolNotional, ∀ x ∈ s.symbolNotionalExposure, x ≤ limit
  groups : ∀ limit ∈ s.maxCorrelationGroupExposure, ∀ e ∈ s.correlationGroupExposures, e.2 ≤ limit
  group : ∀ limit ∈ s.maxCorrelationGroupExposure, s.correlationGroup ≠ none →
    orZero s.correlationGroupExposure ≤ limit
  longSide : ∀ limit ∈ config.maxSameSideExposure, orZero s.sideExposureLong ≤ limit
  shortSide : ∀ limit ∈ config.maxSameSideExposure, orZero s.sideExposureShort ≤ limit
  net : ∀ limit ∈ config.maxNetExposure, FloatNum.abs (orZero s.netExposure) ≤ limit
  openCount : CountWithin s.openPositionCount s.maxOpenPositions 0
  concurrentCount : CountWithin s.concurrentPositionCount s.maxConcurrentPositions 0
  groupCounts : ∀ limit ∈ s.maxCorrelatedPositions, ∀ n, limit.toInt = .ok n →
    ∀ e ∈ s.correlatedPositionCounts, ∀ m, e.2.toInt = .ok m → m ≤ n
  groupCount : ∀ limit ∈ s.maxCorrelatedPositions, ∀ n, limit.toInt = .ok n →
    s.correlationGroup ≠ none → ∀ m, countOrZero s.correlatedPositionCount = .ok m → m ≤ n

/-- The ledger respects the limits. -/
structure Ledger.Within (s : Snapshot F) (config : Config F) (l : Ledger F) : Prop where
  total : ∀ limit ∈ s.maxNotionalExposure, l.totalExposure ≤ limit
  symbols : ∀ limit ∈ s.maxSymbolNotional, ∀ key x, l.symbolExposures key = some x → x ≤ limit
  groups : ∀ limit ∈ s.maxCorrelationGroupExposure, ∀ key x,
    l.groupExposures key = some x → x ≤ limit
  longSide : ∀ limit ∈ config.maxSameSideExposure, l.sideLong ≤ limit
  shortSide : ∀ limit ∈ config.maxSameSideExposure, l.sideShort ≤ limit
  net : ∀ limit ∈ config.maxNetExposure, FloatNum.abs l.netExposure ≤ limit
  openCount : CountWithin s.openPositionCount s.maxOpenPositions l.allocatedPositions
  concurrentCount : CountWithin s.concurrentPositionCount s.maxConcurrentPositions
    l.allocatedPositions
  groupCounts : ∀ limit ∈ s.maxCorrelatedPositions, ∀ n, limit.toInt = .ok n →
    ∀ key m, l.groupCounts key = some m → m ≤ n

/-! ## 2. The start -/

theorem mem_of_lastEntry {α : Type} {entries : List (String × α)} {key : String} {x : α}
    (h : lastEntry entries key = some x) : (key, x) ∈ entries := by
  have hmem : (key, x) ∈ entries.reverse := by
    unfold lastEntry at h
    generalize entries.reverse = es at h
    induction es with
    | nil => cases h
    | cons e rest ih =>
      rcases e with ⟨k, v⟩
      rw [List.lookup_cons] at h
      by_cases hk : (key == k) = true
      · rw [hk] at h
        cases h
        rw [eq_of_beq hk]
        exact List.mem_cons_self
      · rw [Bool.not_eq_true] at hk
        rw [hk] at h
        exact List.mem_cons_of_mem _ (ih h)
  exact List.mem_reverse.mp hmem

theorem mem_intEntries {entries : List (String × PyNum F)} {counts : List (String × ℤ)}
    (h : intEntries entries = .ok counts) {key : String} {m : ℤ} (hm : (key, m) ∈ counts) :
    ∃ c, (key, c) ∈ entries ∧ c.toInt = .ok m := by
  induction entries generalizing counts with
  | nil =>
    cases h
    cases hm
  | cons e rest ih =>
    rcases e with ⟨k, c⟩
    obtain ⟨n, hn, h⟩ := ok_of_bind h
    obtain ⟨tail, htail, h⟩ := ok_of_bind h
    cases h
    rcases List.mem_cons.mp hm with he | hm
    · cases he
      exact ⟨c, List.mem_cons_self, hn⟩
    · obtain ⟨c', hc', hm'⟩ := ih htail hm
      exact ⟨c', List.mem_cons_of_mem _ hc', hm'⟩

/-- Every exposure a start records for a symbol is one of the snapshot's. -/
theorem startSymbols_source {s : Snapshot F} {items : List (Item F)} {key : String} {x : F}
    (h : startSymbols s items key = some x) :
    (∃ e ∈ s.symbolNotionalExposures, e.2 = x) ∨ s.symbolNotionalExposure = some x := by
  unfold startSymbols at h
  split at h
  · split at h
    · rename_i y hy
      split at h
      · cases h
        exact .inr hy
      · cases h
    · cases h
  · obtain ⟨e, he, heq⟩ := List.mem_map.mp (mem_of_lastEntry h)
    cases heq
    exact .inl ⟨e, he, rfl⟩

omit [FloatNum F] in
theorem correlationGroup_of_legacyKey {s : Snapshot F} {items : List (Item F)} {key : String}
    (h : s.legacyKey items key = true) : s.correlationGroup ≠ none := by
  intro hn
  unfold Snapshot.legacyKey Snapshot.legacyGroup at h
  rw [hn] at h
  cases h

theorem startGroups_source {s : Snapshot F} {items : List (Item F)} {key : String} {x : F}
    (h : startGroups s items key = some x) :
    (∃ e ∈ s.correlationGroupExposures, e.2 = x) ∨
      (s.correlationGroup ≠ none ∧ orZero s.correlationGroupExposure = x) := by
  unfold startGroups at h
  split at h
  · rename_i hk
    cases h
    exact .inr ⟨correlationGroup_of_legacyKey hk, rfl⟩
  · exact .inl ⟨_, mem_of_lastEntry h, rfl⟩

/-- The ledger of a snapshot within its limits is within them. -/
theorem within_start {s : Snapshot F} {config : Config F} {items : List (Item F)} {l : Ledger F}
    (hs : Respects s config) (h : initialLedger s items = .ok l) : l.Within s config := by
  obtain ⟨counts, hcounts, h⟩ := ok_of_bind h
  obtain ⟨legacy, hlegacy, h⟩ := ok_of_bind h
  cases h
  constructor
  case total => exact hs.total
  case symbols =>
    intro limit hlimit key x hx
    rcases startSymbols_source hx with ⟨e, he, rfl⟩ | hscalar
    · exact hs.symbols limit hlimit e he
    · exact hs.symbol limit hlimit x hscalar
  case groups =>
    intro limit hlimit key x hx
    rcases startGroups_source hx with ⟨e, he, rfl⟩ | ⟨hg, rfl⟩
    · exact hs.groups limit hlimit e he
    · exact hs.group limit hlimit hg
  case longSide => exact hs.longSide
  case shortSide => exact hs.shortSide
  case net => exact hs.net
  case openCount => exact hs.openCount
  case concurrentCount => exact hs.concurrentCount
  case groupCounts =>
    intro limit hlimit n hn key m hm
    simp only at hm
    split at hm
    · rename_i hk
      cases hm
      have hg := correlationGroup_of_legacyKey hk
      refine hs.groupCount limit hlimit n hn hg _ ?_
      unfold Snapshot.legacyCount at hlegacy
      split at hlegacy
      · exact hlegacy
      · rename_i hno
        -- a legacy key has a legacy group and an item of its side
        exfalso
        apply hno
        unfold Snapshot.legacyKey at hk
        split at hk
        · rename_i g hgroup
          rw [hgroup]
          cases items with
          | nil => cases hk
          | cons item rest => rfl
        · cases hk
    · obtain ⟨c, hc, hint⟩ := mem_intEntries hcounts (mem_of_lastEntry hm)
      exact hs.groupCounts limit hlimit n hn _ hc m hint

/-! ## 3. One grant -/

/-- What a raised count stands for. -/
theorem raisedCount_ok {count raised : Option (PyNum F)} {allocated : ℤ}
    (h : raisedCount count allocated = .ok raised) :
    ∀ c ∈ count, ∀ m, c.toInt = .ok m → raised = some (.int (m + allocated)) := by
  intro c hc m hm
  rw [Option.mem_def] at hc
  subst hc
  obtain ⟨n, hn, h⟩ := ok_of_bind h
  rw [hm] at hn
  cases hn
  cases h
  rfl

/-- A count that has not reached its limit has room for one more. -/
theorem room_of_countReaches {m n : ℤ} {limit : PyNum F}
    (h : countReaches (some (.int m)) (some limit) = .ok false) (hn : limit.toInt = .ok n) :
    m + 1 ≤ n := by
  obtain ⟨a, ha, h⟩ := ok_of_bind h
  obtain ⟨b, hb, h⟩ := ok_of_bind h
  cases ha
  rw [hn] at hb
  cases hb
  have hle : ¬ n ≤ m := of_decide_eq_false (Except.ok.inj h)
  omega

theorem countWithin_grant {count raised limit : Option (PyNum F)} {allocated : ℤ}
    (hraised : raisedCount count allocated = .ok raised)
    (h : countReaches raised limit = .ok false) : CountWithin count limit (allocated + 1) := by
  intro c hc l hl m n hm hn
  rw [Option.mem_def] at hl
  subst hl
  rw [raisedCount_ok hraised c hc m hm] at h
  have := room_of_countReaches h hn
  omega

/-- A granted notional keeps a bounded exposure bounded. -/
theorem grown_of_passed {current limit a : F} (h : exceeds (some current) (some limit) a = false)
    (hcurrent : IsNumber current) (hlimit : IsNumber limit) (ha : FloatNum.isFinite a = true) :
    current + a ≤ limit :=
  bounded_of_passed ha h current rfl limit rfl hcurrent hlimit

theorem getD_number {recorded : Option F} {limit : F} (h : ∀ x, recorded = some x → x ≤ limit) :
    IsNumber (recorded.getD (FloatNum.ofInt 0)) := by
  cases recorded with
  | none => exact isNumber_zero
  | some x => exact (isNumber_of_le (h x rfl)).1

/-- What the limits say of a granted notional. -/
theorem limits_of_passed {s : Snapshot F} {config : Config F} {side : String} {a : F}
    (h : ∀ g ∈ limitGates s config side a, g.2 = .ok false) :
    exceeds s.totalNotionalExposure s.maxNotionalExposure a = false ∧
      exceeds s.symbolNotionalExposure s.maxSymbolNotional a = false ∧
      exceeds s.correlationGroupExposure s.maxCorrelationGroupExposure a = false ∧
      exceeds (s.ownSide side) config.maxSameSideExposure a = false ∧
      netExceeds s.netExposure config.maxNetExposure (signedNotional side a) = false := by
  simp only [limitGates, List.forall_mem_cons] at h
  obtain ⟨_, _, h3, h4, h5, _, _, _, _, _, _, h12, h13, _⟩ := h
  exact ⟨Except.ok.inj h3, Except.ok.inj h4, Except.ok.inj h5, Except.ok.inj h12, Except.ok.inj h13⟩

omit [FloatNum F] in
/-- The side the gate reads is SHORT exactly where the item's is. -/
theorem side_short (item : Item F) :
    candidateSide item.requestedCandidate = "SHORT" ↔ item.side = "SHORT" := by
  unfold candidateSide Item.requestedCandidate
  simp only
  split
  · rename_i he
    rw [he]
    decide
  · rw [item.upper_side]

/-- A grant keeps the ledger within the limits. -/
theorem within_add {s simulated : Snapshot F} {config : Config F} {l : Ledger F} {item : Item F}
    {a : F} (hfinite : FiniteLimits s config) (hsim : candidateSnapshot s item l = .ok simulated)
    (hg : Granted simulated config l item a) (hl : l.Within s config) :
    (l.add item a).Within s config := by
  obtain ⟨n, hn, _, _, hlimits⟩ := notional_of_passed hg.passed
  cases hn
  obtain ⟨htotal, hsymbol, hgroup, hside, hnet⟩ := limits_of_passed hlimits
  obtain ⟨openCount, hopen, hsim⟩ := ok_of_bind hsim
  obtain ⟨concurrentCount, hconcurrent, hsim⟩ := ok_of_bind hsim
  cases hsim
  have hfin := hg.finite
  constructor
  case total =>
    intro limit hlimit
    have hle := hl.total limit hlimit
    rw [Option.mem_def] at hlimit
    simp only [Snapshot.simulated, hlimit] at htotal
    exact grown_of_passed htotal (isNumber_of_le hle).1 (isNumber_of_le hle).2 hfin
  case symbols =>
    intro limit hlimit key x hx
    simp only [Ledger.add, Function.update_apply] at hx
    split at hx
    · cases hx
      have hnum := isNumber_of_finite (hfinite.symbol limit hlimit)
      have hcur := getD_number (hl.symbols limit hlimit item.symbol)
      rw [Option.mem_def] at hlimit
      simp only [Snapshot.simulated, hlimit] at hsymbol
      exact grown_of_passed hsymbol hcur hnum hfin
    · exact hl.symbols limit hlimit key x hx
  case groups =>
    intro limit hlimit key x hx
    simp only [Ledger.add, Function.update_apply] at hx
    split at hx
    · cases hx
      have hnum := isNumber_of_finite (hfinite.group limit hlimit)
      have hcur := getD_number (hl.groups limit hlimit item.groupKey)
      rw [Option.mem_def] at hlimit
      simp only [Snapshot.simulated, hlimit] at hgroup
      exact grown_of_passed hgroup hcur hnum hfin
    · exact hl.groups limit hlimit key x hx
  case longSide =>
    intro limit hlimit
    have hle := hl.longSide limit hlimit
    rw [Option.mem_def] at hlimit
    simp only [Ledger.add]
    split
    · exact hle
    · rename_i hshort
      have hcs : ¬ candidateSide item.requestedCandidate = "SHORT" := fun h =>
        hshort ((side_short item).mp h)
      simp only [Snapshot.ownSide, if_neg hcs, Snapshot.simulated, hlimit] at hside
      exact grown_of_passed hside (isNumber_of_le hle).1 (isNumber_of_le hle).2 hfin
  case shortSide =>
    intro limit hlimit
    have hle := hl.shortSide limit hlimit
    rw [Option.mem_def] at hlimit
    simp only [Ledger.add]
    split
    · rename_i hshort
      have hcs := (side_short item).mpr hshort
      simp only [Snapshot.ownSide, if_pos hcs, Snapshot.simulated, hlimit] at hside
      exact grown_of_passed hside (isNumber_of_le hle).1 (isNumber_of_le hle).2 hfin
    · exact hle
  case net =>
    intro limit hlimit
    have hle := hl.net limit hlimit
    have hcur : IsNumber l.netExposure := FloatNum.number_of_abs _ (isNumber_of_le hle).1
    have hbound := net_of_passed (finite_signed hfin) hnet l.netExposure rfl limit hlimit hcur
      (isNumber_of_le hle).2
    simp only [signedNotional, side_short] at hbound
    simp only [Ledger.add]
    split at hbound
    · rename_i hshort
      rw [if_pos hshort, FloatNum.sub_eq]
      exact hbound
    · rename_i hshort
      rw [if_neg hshort]
      exact hbound
  case openCount => exact countWithin_grant hopen hg.openCount
  case concurrentCount => exact countWithin_grant hconcurrent hg.concurrentCount
  case groupCounts =>
    intro limit hlimit n hn key m hm
    simp only [Ledger.add, Function.update_apply] at hm
    split at hm
    · cases hm
      have hcount := hg.groupCount
      rw [Option.mem_def] at hlimit
      simp only [Snapshot.simulated, hlimit] at hcount
      exact room_of_countReaches hcount hn
    · exact hl.groupCounts limit hlimit n hn key m hm

/-! ## 4. The pass -/

theorem within_step {s : Snapshot F} {config : Config F} {l l' : Ledger F} {item : Item F}
    {d : Allocation F} (hfinite : FiniteLimits s config)
    (h : allocateCandidate s config l item = .ok (d, l')) (hl : l.Within s config) :
    l'.Within s config := by
  obtain ⟨simulated, hsim, hcases⟩ := allocate_cases h
  rcases hcases with ⟨_, rfl⟩ | ⟨hg, rfl⟩
  · exact hl
  · exact within_add hfinite hsim hg hl

theorem within_run {s : Snapshot F} {config : Config F} {items : List (Item F)} {l l' : Ledger F}
    {ds : List (Allocation F)} (hfinite : FiniteLimits s config)
    (h : allocateAll s config items l = .ok (ds, l')) (hl : l.Within s config) :
    l'.Within s config := by
  induction items generalizing l ds with
  | nil =>
    cases h
    exact hl
  | cons item rest ih =>
    obtain ⟨⟨d, mid⟩, hd, h⟩ := ok_of_bind h
    obtain ⟨⟨tail, final⟩, hrest, h⟩ := ok_of_bind h
    cases h
    exact ih hrest (within_step hfinite hd hl)

/-! ## 5. What the ledger accounts for -/

/-- A candidate with the decision on it. -/
abbrev Turn (F : Type) := Item F × Allocation F

/-- The turns that granted a notional. -/
def granted (turns : List (Turn F)) : List (Turn F) :=
  turns.filter fun t => FloatNum.ofInt 0 < t.2.allocatedNotional

/-- The notionals of the turns, added one after the other. -/
def added (x : F) (turns : List (Turn F)) : F :=
  turns.foldl (fun sum t => sum + t.2.allocatedNotional) x

/-- The same with the sign of the side. -/
def addedNet (x : F) (turns : List (Turn F)) : F :=
  turns.foldl (fun sum t => if t.1.side = "SHORT" then sum - t.2.allocatedNotional
    else sum + t.2.allocatedNotional) x

/-- The ledger is the one at the start and what the turns granted. -/
structure Accounts (start l : Ledger F) (turns : List (Turn F)) : Prop where
  total : l.totalExposure = added start.totalExposure (granted turns)
  longSide : l.sideLong =
    added start.sideLong ((granted turns).filter fun t => t.1.side ≠ "SHORT")
  shortSide : l.sideShort =
    added start.sideShort ((granted turns).filter fun t => t.1.side = "SHORT")
  net : l.netExposure = addedNet start.netExposure (granted turns)
  symbols : ∀ key, l.symbolExposure key =
    added (start.symbolExposure key) ((granted turns).filter fun t => t.1.symbol = key)
  groups : ∀ key, l.groupExposure key =
    added (start.groupExposure key) ((granted turns).filter fun t => t.1.groupKey = key)
  groupCounts : ∀ key, l.groupCount key =
    start.groupCount key + ((granted turns).filter fun t => t.1.groupKey = key).length
  positions : l.allocatedPositions = start.allocatedPositions + (granted turns).length

theorem accounts_start (start : Ledger F) : Accounts start start [] := by
  constructor
  all_goals simp [granted, added, addedNet]

theorem granted_snoc_zero {turns : List (Turn F)} {t : Turn F}
    (h : t.2.allocatedNotional = FloatNum.ofInt 0) : granted (turns ++ [t]) = granted turns := by
  unfold granted
  rw [List.filter_append, List.filter_singleton, h]
  simp [FloatNum.lt_irrefl]

theorem granted_snoc {turns : List (Turn F)} {t : Turn F}
    (h : FloatNum.ofInt 0 < t.2.allocatedNotional) :
    granted (turns ++ [t]) = granted turns ++ [t] := by
  unfold granted
  rw [List.filter_append, List.filter_singleton]
  simp [h]

/-- The last of the turns that satisfy a condition counts, if it does. -/
theorem added_filter_snoc (x : F) (turns : List (Turn F)) (t : Turn F) (p : Turn F → Bool) :
    added x ((turns ++ [t]).filter p) =
      if p t then added x (turns.filter p) + t.2.allocatedNotional
        else added x (turns.filter p) := by
  unfold added
  rw [List.filter_append, List.filter_singleton]
  cases p t <;> simp

theorem added_snoc (x : F) (turns : List (Turn F)) (t : Turn F) :
    added x (turns ++ [t]) = added x turns + t.2.allocatedNotional := by
  simp [added]

theorem addedNet_snoc (x : F) (turns : List (Turn F)) (t : Turn F) :
    addedNet x (turns ++ [t]) =
      if t.1.side = "SHORT" then addedNet x turns - t.2.allocatedNotional
      else addedNet x turns + t.2.allocatedNotional := by
  simp [addedNet]

/-- One turn of the loop adds what it grants, and nothing else. -/
theorem accounts_step {s : Snapshot F} {config : Config F} {start l l' : Ledger F} {item : Item F}
    {d : Allocation F} {turns : List (Turn F)} (h : allocateCandidate s config l item = .ok (d, l'))
    (hl : Accounts start l turns) : Accounts start l' (turns ++ [(item, d)]) := by
  obtain ⟨simulated, _, ⟨hzero, rfl⟩ | ⟨hg, rfl⟩⟩ := allocate_cases h
  · constructor
    all_goals rw [granted_snoc_zero hzero]
    · exact hl.total
    · exact hl.longSide
    · exact hl.shortSide
    · exact hl.net
    · exact hl.symbols
    · exact hl.groups
    · exact hl.groupCounts
    · exact hl.positions
  · have hpos : FloatNum.ofInt 0 < ((item, d) : Turn F).2.allocatedNotional := hg.positive
    constructor
    all_goals rw [granted_snoc hpos]
    · rw [added_snoc, ← hl.total]
      rfl
    · rw [added_filter_snoc, ← hl.longSide]
      by_cases hside : item.side = "SHORT" <;> simp [Ledger.add, hside]
    · rw [added_filter_snoc, ← hl.shortSide]
      by_cases hside : item.side = "SHORT" <;> simp [Ledger.add, hside]
    · rw [addedNet_snoc, ← hl.net]
      rfl
    · intro key
      rw [added_filter_snoc, ← hl.symbols]
      by_cases hkey : item.symbol = key
      · subst hkey
        simp [Ledger.add, Ledger.symbolExposure]
      · have hne : key ≠ item.symbol := fun heq => hkey heq.symm
        simp [Ledger.add, Ledger.symbolExposure, hkey, Function.update_of_ne hne]
    · intro key
      rw [added_filter_snoc, ← hl.groups]
      by_cases hkey : item.groupKey = key
      · subst hkey
        simp [Ledger.add, Ledger.groupExposure]
      · have hne : key ≠ item.groupKey := fun heq => hkey heq.symm
        simp [Ledger.add, Ledger.groupExposure, hkey, Function.update_of_ne hne]
    · intro key
      have hcount := hl.groupCounts key
      rw [List.filter_append, List.filter_singleton, List.length_append]
      by_cases hkey : item.groupKey = key
      · subst hkey
        simp only [Ledger.add, Ledger.groupCount, Function.update_self,
          Option.getD_some] at hcount ⊢
        simp
        omega
      · have hne : key ≠ item.groupKey := fun heq => hkey heq.symm
        simp only [Ledger.add, Ledger.groupCount, Function.update_of_ne hne] at hcount ⊢
        simp [hkey]
        omega
    · have hpositions := hl.positions
      simp only [Ledger.add, List.length_append, List.length_singleton]
      omega

/-- **The pass adds what it grants.** -/
theorem accounts_run {s : Snapshot F} {config : Config F} {items : List (Item F)}
    {start l l' : Ledger F} {ds : List (Allocation F)} {turns : List (Turn F)}
    (h : allocateAll s config items l = .ok (ds, l')) (hl : Accounts start l turns) :
    Accounts start l' (turns ++ items.zip ds) := by
  induction items generalizing l ds turns with
  | nil =>
    cases h
    simpa using hl
  | cons item rest ih =>
    obtain ⟨⟨d, mid⟩, hd, h⟩ := ok_of_bind h
    obtain ⟨⟨tail, final⟩, hrest, h⟩ := ok_of_bind h
    cases h
    have htail := ih hrest (accounts_step hd hl)
    rwa [List.append_assoc, List.singleton_append] at htail

/-- The decisions on the first candidates are the first decisions. -/
theorem allocateAll_take {s : Snapshot F} {config : Config F} {pre post : List (Item F)}
    {l final mid : Ledger F} {decisions ds : List (Allocation F)}
    (h : allocateAll s config (pre ++ post) l = .ok (decisions, final))
    (hpre : allocateAll s config pre l = .ok (ds, mid)) : decisions.take pre.length = ds := by
  induction pre generalizing l decisions ds with
  | nil =>
    cases hpre
    rfl
  | cons item rest ih =>
    obtain ⟨⟨d, l'⟩, hd, h⟩ := ok_of_bind h
    obtain ⟨⟨tail, f⟩, hrest, h⟩ := ok_of_bind h
    cases h
    obtain ⟨⟨d', l''⟩, hd', hpre⟩ := ok_of_bind hpre
    obtain ⟨⟨tail', f'⟩, hrest', hpre⟩ := ok_of_bind hpre
    cases hpre
    cases Except.ok.inj (hd'.symm.trans hd)
    rw [List.length_cons, List.take_succ_cons, ih hrest hrest']

/-! ## 6. Gates no smaller size removes -/

/-- A check that is not about capacity does not look at the notional. -/
theorem limitGates_of_not_reducible {s : Snapshot F} {config : Config F} {side : String} {n m : F}
    {g : Gate} (hg : g ∈ limitGates s config side n) (hr : g.1.reducible = false) :
    g ∈ limitGates s config side m := by
  unfold limitGates at hg ⊢
  simp only [List.mem_cons, List.not_mem_nil, or_false] at hg ⊢
  rcases hg with rfl | rfl | rfl | rfl | rfl | rfl | rfl | rfl | rfl | rfl | rfl | rfl | rfl |
    rfl <;>
    first | (cases hr; done) | simp

/-- The candidate fails a check that is not a capacity check, or carries a failure of its own. -/
def FailsNonCapacity (simulated : Snapshot F) (config : Config F) (item : Item F) : Prop :=
  item.explicitFailure = true ∨
    ∃ reason, reason.reducible = false ∧
      (reason, .ok true) ∈ gates simulated config (candidateSide item.requestedCandidate)
        (candidateNotional item.requestedCandidate config)

/-- A candidate with such a failure is granted nothing, whatever fails before it. -/
theorem not_granted_of_failure {simulated : Snapshot F} {config : Config F} {l : Ledger F}
    {item : Item F} {a : F} (hfail : FailsNonCapacity simulated config item) :
    ¬ Granted simulated config l item a := by
  intro hg
  rcases hfail with hexplicit | ⟨reason, hr, hmem⟩
  · rw [hg.noFailure] at hexplicit
    cases hexplicit
  obtain ⟨n, hn, _, hstate, hlimits⟩ := notional_of_passed hg.passed
  obtain ⟨r, hreq, hpos⟩ := hg.requested
  unfold gates at hmem
  rcases List.mem_append.mp hmem with hmem | hmem
  · have := hstate _ hmem
    cases this
  rcases List.mem_cons.mp hmem with heq | hmem
  · -- the requested notional is positive
    rw [requested_notional hreq hpos] at heq
    have hsize : true = nonPositive (some r) := Except.ok.inj (Prod.ext_iff.mp heq).2
    exact FloatNum.not_le_of_lt hpos (of_decide_eq_true hsize.symm)
  · split at hmem
    · have := hlimits _ (limitGates_of_not_reducible hmem hr)
      cases this
    · cases hmem

/-! ## 7. The result -/

/-- **The allocator keeps the portfolio inside its limits** at every prefix of its processing
    order: the ledger, which is the starting one and all that was granted, is within them. A
    candidate that fails a check no smaller size removes gets nothing. -/
theorem allocations_within_limits {candidates : List (RawCandidate F)} {snapshot : Snapshot F}
    {config : Config F} {result : PortfolioAllocation F} {pre post : List (Item F)} {item : Item F}
    (h : allocatePortfolioCandidates candidates snapshot config = .ok result)
    (hfinite : FiniteLimits snapshot config) (hstart : Respects snapshot config)
    (horder : preferenceSort (candidates.map normalizedAllocationCandidate) = pre ++ item :: post) :
    ∃ start ds before simulated decision after,
      initialLedger snapshot (candidates.map normalizedAllocationCandidate) = .ok start ∧
      allocateAll snapshot config pre start = .ok (ds, before) ∧
      candidateSnapshot snapshot item before = .ok simulated ∧
      allocateCandidate snapshot config before item = .ok (decision, after) ∧
      ds = result.candidates.take pre.length ∧
      result.candidates[pre.length]? = some decision ∧
      Accounts start after (pre.zip ds ++ [(item, decision)]) ∧
      after.Within snapshot config ∧
      (FailsNonCapacity simulated config item → decision.allocatedNotional = FloatNum.ofInt 0) := by
  obtain ⟨_, start, final, hledger, hall⟩ := allocation_parts h
  rw [horder] at hall
  obtain ⟨ds, before, decision, after, hpre, hd, hget⟩ := allocateAll_split hall
  obtain ⟨simulated, hsim, hcases⟩ := allocate_cases hd
  have hwithin := within_step hfinite hd (within_run hfinite hpre (within_start hstart hledger))
  have haccounts := accounts_step hd (accounts_run hpre (accounts_start start))
  refine ⟨start, ds, before, simulated, decision, after, hledger, hpre, hsim, hd,
    (allocateAll_take hall hpre).symm, hget, haccounts, hwithin, fun hfail => ?_⟩
  rcases hcases with ⟨hzero, _⟩ | ⟨hg, _⟩
  · exact hzero
  · exact absurd hg (not_granted_of_failure hfail)

end Limits

/-- A candidate of a symbol and side with a notional and a score. -/
def sampleCandidate (id symbol side : String) (notional score : ℚ) : RawCandidate ℚ :=
  { symbol := some symbol
    candidateId := some id
    side := some side
    numbers := fun key =>
      if key = "notional" then .number notional else if key = "score" then .number score
        else .none }

/-- Two candidates that together ask for more than is left. -/
def sampleCandidates : List (RawCandidate ℚ) :=
  [sampleCandidate "a" "BTCUSDT" "LONG" 60 1, sampleCandidate "b" "ETHUSDT" "SHORT" 80 2]

/-- One open position, room for 100 more. -/
def samplePortfolio : Snapshot ℚ :=
  { equity := some 1000
    openPositionCount := some (.int 1)
    maxOpenPositions := some (.int 5)
    totalNotionalExposure := some 50
    maxNotionalExposure := some 150
    symbolNotionalExposure := some 0 }

theorem sample_order : preferenceSort (sampleCandidates.map normalizedAllocationCandidate) =
    [normalizedAllocationCandidate (sampleCandidate "b" "ETHUSDT" "SHORT" 80 2)] ++
      normalizedAllocationCandidate (sampleCandidate "a" "BTCUSDT" "LONG" 60 1) :: [] := by
  unfold preferenceSort sampleCandidates
  simp only [List.map_cons, List.map_nil, List.insertionSort_cons, List.insertionSort_nil,
    List.orderedInsert]
  rw [if_neg (by decide +kernel)]
  rfl

theorem allocations_within_limits_sample :
    ∃ start ds before decision after,
      initialLedger samplePortfolio (sampleCandidates.map normalizedAllocationCandidate) =
        .ok start ∧
      allocateAll samplePortfolio {}
        [normalizedAllocationCandidate (sampleCandidate "b" "ETHUSDT" "SHORT" 80 2)] start =
          .ok (ds, before) ∧
      allocateCandidate samplePortfolio {} before
        (normalizedAllocationCandidate (sampleCandidate "a" "BTCUSDT" "LONG" 60 1)) =
          .ok (decision, after) ∧
      Accounts start after ([normalizedAllocationCandidate
        (sampleCandidate "b" "ETHUSDT" "SHORT" 80 2)].zip ds ++
          [(normalizedAllocationCandidate (sampleCandidate "a" "BTCUSDT" "LONG" 60 1), decision)]) ∧
      after.Within samplePortfolio {} := by
  have hok : (allocatePortfolioCandidates sampleCandidates samplePortfolio {}).isOk = true := by
    decide +kernel
  rcases h : allocatePortfolioCandidates sampleCandidates samplePortfolio {} with e | result
  · rw [h] at hok
    cases hok
  have hfinite : FiniteLimits samplePortfolio {} := by
    constructor <;> intro limit _ <;> rfl
  have hstart : Respects samplePortfolio ({} : Config ℚ) := by
    constructor
    case total =>
      intro limit hlimit
      cases hlimit
      decide +kernel
    all_goals simp [samplePortfolio, CountWithin, PyNum.toInt]
  obtain ⟨start, ds, before, _, decision, after, hledger, hpre, _, hd, _, _, haccounts,
    hwithin, _⟩ :=
    allocations_within_limits h hfinite hstart sample_order
  exact ⟨start, ds, before, decision, after, hledger, hpre, hd, haccounts, hwithin⟩

end AlphaForge.Portfolio
