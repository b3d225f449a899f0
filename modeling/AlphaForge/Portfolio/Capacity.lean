/-
  File:      AlphaForge/Portfolio/Capacity.lean
  Subject:   The allocator's capacity against the inequalities of the single check, in exact
             arithmetic.

  The allocator subtracts limit by limit what is taken already (`remainingCapacity`), the check adds
  the notional and compares (`limitGates`). Of a positive notional both ask the same, but for one
  thing: a net exposure on the other side can ask for a notional that is large enough, and only the
  check knows. What the check accepts is an interval, and its upper end is the capacity.

  * `le_capacity_iff` -- what the capacity asks of a notional (`Room`).
  * `Passes`, `passes_room`, `passes_between` -- what the check asks of a notional: it asks for
    room, and accepts what has room above a notional it accepts.
  * **`allocated_greatest`** -- a candidate without a failed gate of its own is allocated the
    greatest notional that the check accepts, and nothing where it accepts none.
  * `gatedCandidate` -- a candidate with a failed gate of its own.
-/
import AlphaForge.Portfolio.Limits

namespace AlphaForge.Portfolio

open AlphaForge.Lib

/-! ## 1. Counts -/

theorem ofInt_rat (n : ℤ) : (FloatNum.ofInt n : ℚ) = n := rfl

theorem zero_rat : (FloatNum.ofInt 0 : ℚ) = 0 := by
  rw [ofInt_rat, Int.cast_zero]

/-- Truncation takes less than one off. -/
theorem sub_one_lt_trunc (q : ℚ) : q - 1 < ((q.num.tdiv q.den : ℤ) : ℚ) := by
  rcases le_or_gt 0 q.num with h | h
  · have hfloor : q.num.tdiv q.den = ⌊q⌋ := by
      rw [Int.tdiv_eq_ediv_of_nonneg h, Rat.floor_def']
    rw [hfloor]
    exact Int.sub_one_lt_floor q
  · have hceil : q.num.tdiv q.den = ⌈q⌉ := by
      have hneg : 0 ≤ (-q).num := by
        rw [Rat.num_neg_eq_neg_num]
        omega
      have hfloor : (-q).num.tdiv (-q).den = ⌊-q⌋ := by
        rw [Int.tdiv_eq_ediv_of_nonneg hneg, Rat.floor_def']
      rw [Rat.num_neg_eq_neg_num, Rat.den_neg_eq_den, Int.neg_tdiv, Int.floor_neg] at hfloor
      exact neg_injective hfloor
    rw [hceil]
    have hle := Int.le_ceil q
    linarith

/-- A count of exact numbers is read without an error. -/
theorem toInt_rat (c : PyNum ℚ) :
    ∃ n, c.toInt = .ok n ∧ ∀ x, c.toFloat = .ok x → x - 1 < (n : ℚ) := by
  cases c with
  | int k =>
    refine ⟨k, rfl, fun x hx => ?_⟩
    obtain rfl : (k : ℚ) = x := Except.ok.inj hx
    linarith
  | float q =>
    refine ⟨q.num.tdiv q.den, rfl, fun x hx => ?_⟩
    obtain rfl := Except.ok.inj hx
    exact sub_one_lt_trunc q

theorem toFloat_rat (c : PyNum ℚ) : ∃ x, c.toFloat = .ok x := by
  cases c with
  | int k => exact ⟨(k : ℚ), rfl⟩
  | float q => exact ⟨q, rfl⟩

theorem countReaches_rat (count limit : Option (PyNum ℚ)) :
    ∃ b, countReaches count limit = .ok b := by
  cases limit with
  | none => exact ⟨false, rfl⟩
  | some l =>
    cases count with
    | none => exact ⟨false, rfl⟩
    | some c =>
      obtain ⟨m, hm, -⟩ := toInt_rat c
      obtain ⟨n, hn, -⟩ := toInt_rat l
      unfold countReaches
      dsimp only
      rw [hm, hn]
      exact ⟨_, rfl⟩

/-- A count that one more position does not put above its limit has not reached it. -/
theorem not_reached {n : ℤ} {limit : Option (PyNum ℚ)}
    (h : countExceeds (some (.int n)) limit = .ok false) :
    countReaches (some (.int n)) limit = .ok false := by
  cases limit with
  | none => rfl
  | some l =>
    obtain ⟨k, hk, hlt⟩ := toInt_rat l
    obtain ⟨x, hx⟩ := toFloat_rat l
    have hbound : ¬ x < (n : ℚ) + 1 := by
      unfold countExceeds at h
      dsimp only at h
      rw [hx] at h
      have hd : decide (x < (n : ℚ) + (FloatNum.ofInt 1 : ℚ)) = false := Except.ok.inj h
      rw [ofInt_rat, Int.cast_one] at hd
      exact of_decide_eq_false hd
    have hnk : (n : ℚ) < k := by
      have := hlt x hx
      linarith
    have hnk' : n < k := by exact_mod_cast hnk
    unfold countReaches
    dsimp only
    rw [hk]
    show Except.ok (decide (k ≤ n)) = _
    rw [decide_eq_false (not_le.mpr hnk')]

theorem raisedCount_int {count raised : Option (PyNum ℚ)} {allocated : ℤ}
    (h : raisedCount count allocated = .ok raised) :
    raised = none ∨ ∃ n, raised = some (.int n) := by
  cases count with
  | none => exact .inl (Except.ok.inj h).symm
  | some c =>
    obtain ⟨n, _, h⟩ := ok_of_bind h
    exact .inr ⟨_, (Except.ok.inj h).symm⟩

theorem not_reached_raised {count raised limit : Option (PyNum ℚ)} {allocated : ℤ}
    (hraised : raisedCount count allocated = .ok raised)
    (h : countExceeds raised limit = .ok false) : countReaches raised limit = .ok false := by
  rcases raisedCount_int hraised with rfl | ⟨n, rfl⟩
  · cases limit <;> rfl
  · exact not_reached h

/-! ## 2. The capacity -/

theorem le_pyMax {n r : ℚ} (hn : 0 < n) : n ≤ pyMax (FloatNum.ofInt 0) r ↔ n ≤ r := by
  unfold pyMax
  rw [zero_rat]
  split
  · exact Iff.rfl
  · rename_i hr
    constructor
    · intro h
      linarith
    · intro h
      linarith

theorem le_blockAt {count limit : Option (PyNum ℚ)} {reason : Reason} {st st' : Capacity ℚ} {n : ℚ}
    (h : blockAt count limit reason st = .ok st') (hn : 0 < n) :
    n ≤ st'.1 ↔ n ≤ st.1 ∧ countReaches count limit = .ok false := by
  obtain ⟨b, hb, h⟩ := ok_of_bind h
  rw [hb]
  cases b with
  | true =>
    obtain rfl := Except.ok.inj h
    constructor
    · intro hle
      have hzero : n ≤ (FloatNum.ofInt 0 : ℚ) := hle
      rw [zero_rat] at hzero
      linarith
    · exact fun hle => nomatch hle.2
  | false =>
    obtain rfl := Except.ok.inj h
    exact ⟨fun hle => ⟨hle, rfl⟩, fun hle => hle.1⟩

theorem le_lowerTo {limit : Option ℚ} {remaining : ℚ → ℚ} {reason : Reason} {st : Capacity ℚ}
    {n : ℚ} (hn : 0 < n) :
    n ≤ (lowerTo limit remaining reason st).1 ↔ n ≤ st.1 ∧ ∀ x ∈ limit, n ≤ remaining x := by
  cases limit with
  | none => exact ⟨fun h => ⟨h, fun _ hx => nomatch hx⟩, fun h => h.1⟩
  | some x =>
    have hlimit : (∀ y ∈ some x, n ≤ remaining y) ↔ n ≤ pyMax (FloatNum.ofInt 0) (remaining x) := by
      rw [le_pyMax hn]
      exact ⟨fun h => h x rfl, fun h y hy => Option.some.inj hy ▸ h⟩
    rw [hlimit]
    unfold lowerTo
    dsimp only
    split
    · rename_i hlt
      exact ⟨fun h => ⟨h.trans hlt.le, h⟩, fun h => h.2⟩
    · rename_i hle
      exact ⟨fun h => ⟨h, h.trans (not_lt.mp hle)⟩, fun h => h.1⟩

/-- What is taken of the candidate's own side. -/
def Ledger.ownSide (l : Ledger ℚ) (item : Item ℚ) : ℚ :=
  if item.side = "SHORT" then l.sideShort else l.sideLong

/-- The room the net limit `x` leaves on the candidate's side. -/
def Ledger.netRoom (l : Ledger ℚ) (item : Item ℚ) (x : ℚ) : ℚ :=
  if item.side = "SHORT" then x + l.netExposure else x - l.netExposure

/-- What the capacity asks of a notional. -/
structure Room (simulated : Snapshot ℚ) (config : Config ℚ) (l : Ledger ℚ) (item : Item ℚ)
    (n : ℚ) : Prop where
  openCount : countReaches simulated.openPositionCount simulated.maxOpenPositions = .ok false
  concurrentCount :
    countReaches simulated.concurrentPositionCount simulated.maxConcurrentPositions = .ok false
  groupCount : countReaches (some (.int (l.groupCount item.groupKey)))
    simulated.maxCorrelatedPositions = .ok false
  total : ∀ x ∈ simulated.maxNotionalExposure, n ≤ x - l.totalExposure
  symbol : ∀ x ∈ simulated.maxSymbolNotional, n ≤ x - l.symbolExposure item.symbol
  group : ∀ x ∈ simulated.maxCorrelationGroupExposure, n ≤ x - l.groupExposure item.groupKey
  ownSide : ∀ x ∈ config.maxSameSideExposure, n ≤ x - l.ownSide item
  net : ∀ x ∈ config.maxNetExposure, n ≤ l.netRoom item x

variable {simulated : Snapshot ℚ} {config : Config ℚ} {l : Ledger ℚ} {item : Item ℚ}

theorem remainingCapacity_rat (requested : ℚ) :
    ∃ st, remainingCapacity simulated config l item requested = .ok st := by
  have hblock : ∀ (count limit : Option (PyNum ℚ)) (reason : Reason) (st : Capacity ℚ),
      ∃ st', blockAt count limit reason st = .ok st' := by
    intro count limit reason st
    obtain ⟨b, hb⟩ := countReaches_rat count limit
    unfold blockAt
    rw [hb]
    cases b
    · exact ⟨_, rfl⟩
    · exact ⟨_, rfl⟩
  obtain ⟨st₁, h₁⟩ := hblock simulated.openPositionCount simulated.maxOpenPositions
    .maxOpenPositions (requested, [])
  obtain ⟨st₂, h₂⟩ := hblock simulated.concurrentPositionCount simulated.maxConcurrentPositions
    .maxConcurrentPositions st₁
  obtain ⟨st₃, h₃⟩ := hblock (some (.int (l.groupCount item.groupKey)))
    simulated.maxCorrelatedPositions .correlationOverexposure st₂
  unfold remainingCapacity
  rw [h₁]
  dsimp only [bind, Except.bind]
  rw [h₂]
  dsimp only
  rw [h₃]
  exact ⟨_, rfl⟩

/-- **A positive notional is within the capacity exactly if it is requested and has room.** -/
theorem le_capacity_iff {requested n : ℚ} {st : Capacity ℚ}
    (h : remainingCapacity simulated config l item requested = .ok st) (hn : 0 < n) :
    n ≤ st.1 ↔ n ≤ requested ∧ Room simulated config l item n := by
  obtain ⟨st₁, h₁, h⟩ := ok_of_bind h
  obtain ⟨st₂, h₂, h⟩ := ok_of_bind h
  obtain ⟨st₃, h₃, h⟩ := ok_of_bind h
  obtain rfl := Except.ok.inj h
  rw [le_lowerTo hn, le_lowerTo hn, le_lowerTo hn, le_lowerTo hn, le_lowerTo hn, le_blockAt h₃ hn,
    le_blockAt h₂ hn, le_blockAt h₁ hn]
  constructor
  · rintro ⟨⟨⟨⟨⟨⟨⟨⟨hr, hc₁⟩, hc₂⟩, hc₃⟩, h₄⟩, h₅⟩, h₆⟩, h₇⟩, h₈⟩
    exact ⟨hr, hc₁, hc₂, hc₃, h₄, h₅, h₆, h₇, h₈⟩
  · rintro ⟨hr, hc₁, hc₂, hc₃, h₄, h₅, h₆, h₇, h₈⟩
    exact ⟨⟨⟨⟨⟨⟨⟨⟨hr, hc₁⟩, hc₂⟩, hc₃⟩, h₄⟩, h₅⟩, h₆⟩, h₇⟩, h₈⟩

/-! ## 3. The check -/

/-- Every check passes the notional. -/
def Passes (simulated : Snapshot ℚ) (config : Config ℚ) (item : Item ℚ) (n : ℚ) : Prop :=
  ∀ g ∈ gates simulated config (candidateSide item.requestedCandidate) (some n), g.2 = .ok false

/-- The check accepts the notional `n` for the candidate. -/
def Accepts (simulated : Snapshot ℚ) (config : Config ℚ) (item : Item ℚ) (n : ℚ) : Prop :=
  ∃ d, evaluatePortfolioRisk (item.allocatedCandidate n) simulated config = .ok d ∧
    d.accepted = true

theorem accepts_iff {n : ℚ} (hn : 0 < n) :
    Accepts simulated config item n ↔ Passes simulated config item n := by
  have hpos : (FloatNum.ofInt 0 : ℚ) < n := by
    rw [zero_rat]
    exact hn
  have hnotional : candidateNotional (item.allocatedCandidate n) config = some n :=
    allocated_notional hpos
  constructor
  · rintro ⟨d, hd, haccepted⟩
    have hpassed := (accepted_iff hd).mp haccepted
    rw [hnotional] at hpassed
    exact hpassed
  · intro hpasses
    have hnone := firstFailed_eq_none.mpr hpasses
    refine ⟨.accept (some n), ?_, rfl⟩
    unfold evaluatePortfolioRisk
    rw [hnotional]
    show (firstFailed (gates simulated config (candidateSide item.requestedCandidate) (some n)) >>=
      fun r => _) = _
    rw [hnone]
    rfl

theorem exceeds_iff {c n : ℚ} {limit : Option ℚ} :
    exceeds (some c) limit n = false ↔ ∀ x ∈ limit, n ≤ x - c := by
  cases limit with
  | none => exact ⟨fun _ _ hx => (nomatch hx), fun _ => rfl⟩
  | some x =>
    unfold exceeds
    rw [decide_eq_false_iff_not, not_lt]
    constructor
    · intro h y hy
      obtain rfl := Option.some.inj hy
      linarith
    · intro h
      have := h x rfl
      linarith

theorem netExceeds_iff {c signed : ℚ} {limit : Option ℚ} :
    netExceeds (some c) limit signed = false ↔ ∀ x ∈ limit, |c + signed| ≤ x := by
  cases limit with
  | none => exact ⟨fun _ _ hx => (nomatch hx), fun _ => rfl⟩
  | some x =>
    unfold netExceeds
    rw [decide_eq_false_iff_not, not_lt]
    exact ⟨fun h y hy => Option.some.inj hy ▸ h, fun h => h x rfl⟩

theorem ownSide_simulated (base : Snapshot ℚ) (o c : Option (PyNum ℚ)) :
    (base.simulated item l o c).ownSide (candidateSide item.requestedCandidate) =
      some (l.ownSide item) := by
  unfold Snapshot.ownSide Ledger.ownSide
  by_cases h : item.side = "SHORT"
  · rw [if_pos ((side_short item).mpr h), if_pos h]
    rfl
  · rw [if_neg fun hs => h ((side_short item).mp hs), if_neg h]
    rfl

/-- On the candidate's own side the net limit is a bound from above and one from below. -/
theorem abs_net_le {n x : ℚ} :
    |l.netExposure + signedNotional (candidateSide item.requestedCandidate) n| ≤ x ↔
      n ≤ l.netRoom item x ∧ -x ≤ n + (l.netRoom item x - x) * -1 := by
  unfold signedNotional Ledger.netRoom
  rw [abs_le]
  by_cases h : item.side = "SHORT"
  · rw [if_pos ((side_short item).mpr h), if_pos h]
    constructor
    · intro ⟨h₁, h₂⟩
      exact ⟨by linarith, by linarith⟩
    · intro ⟨h₁, h₂⟩
      exact ⟨by linarith, by linarith⟩
  · rw [if_neg fun hs => h ((side_short item).mp hs), if_neg h]
    constructor
    · intro ⟨h₁, h₂⟩
      exact ⟨by linarith, by linarith⟩
    · intro ⟨h₁, h₂⟩
      exact ⟨by linarith, by linarith⟩

variable {base : Snapshot ℚ}

/-- **What the check accepts has room.** -/
theorem passes_room {n : ℚ} (hsim : candidateSnapshot base item l = .ok simulated)
    (h : Passes simulated config item n) : Room simulated config l item n := by
  obtain ⟨o, ho, hsim⟩ := ok_of_bind hsim
  obtain ⟨c, hc, hsim⟩ := ok_of_bind hsim
  obtain rfl := Except.ok.inj hsim
  obtain ⟨n', hn', -, -, hlimits⟩ := notional_of_passed h
  obtain rfl := Option.some.inj hn'
  simp only [limitGates, List.forall_mem_cons] at hlimits
  obtain ⟨h₁, h₂, h₃, h₄, h₅, h₆, -, -, -, -, -, h₁₂, h₁₃, -⟩ := hlimits
  rw [ownSide_simulated] at h₁₂
  refine ⟨not_reached_raised ho h₁, not_reached_raised hc h₂, not_reached h₆,
    exceeds_iff.mp (Except.ok.inj h₃), exceeds_iff.mp (Except.ok.inj h₄),
    exceeds_iff.mp (Except.ok.inj h₅), exceeds_iff.mp (Except.ok.inj h₁₂), ?_⟩
  intro x hx
  exact (abs_net_le.mp (netExceeds_iff.mp (Except.ok.inj h₁₃) x hx)).1

/-- **Above a notional that passes, what has room passes.** -/
theorem passes_between {m n : ℚ} (hsim : candidateSnapshot base item l = .ok simulated)
    (hm : Passes simulated config item m) (hmn : m ≤ n) (hroom : Room simulated config l item n) :
    Passes simulated config item n := by
  obtain ⟨o, ho, hsim⟩ := ok_of_bind hsim
  obtain ⟨c, hc, hsim⟩ := ok_of_bind hsim
  obtain rfl := Except.ok.inj hsim
  obtain ⟨m', hm', hpos, hstate, hlimits⟩ := notional_of_passed hm
  obtain rfl := Option.some.inj hm'
  rw [zero_rat, not_le] at hpos
  have hsize : nonPositive (some n) = false := by
    unfold nonPositive
    rw [zero_rat]
    exact decide_eq_false (by linarith)
  simp only [limitGates, List.forall_mem_cons] at hlimits
  obtain ⟨h₁, h₂, h₃, h₄, h₅, h₆, h₇, h₈, h₉, h₁₀, h₁₁, h₁₂, h₁₃, h₁₄, -⟩ := hlimits
  have hnet : ∀ x ∈ config.maxNetExposure,
      |l.netExposure + signedNotional (candidateSide item.requestedCandidate) n| ≤ x := by
    intro x hx
    have hlower := (abs_net_le.mp (netExceeds_iff.mp (Except.ok.inj h₁₃) x hx)).2
    exact abs_net_le.mpr ⟨hroom.net x hx, by linarith⟩
  unfold Passes gates
  rw [List.forall_mem_append, List.forall_mem_cons]
  refine ⟨hstate, congrArg Except.ok hsize, ?_⟩
  simp only [limitGates, List.forall_mem_cons]
  rw [ownSide_simulated]
  exact ⟨h₁, h₂, congrArg Except.ok (exceeds_iff.mpr hroom.total),
    congrArg Except.ok (exceeds_iff.mpr hroom.symbol),
    congrArg Except.ok (exceeds_iff.mpr hroom.group), h₆, h₇, h₈, h₉, h₁₀, h₁₁,
    congrArg Except.ok (exceeds_iff.mpr hroom.ownSide),
    congrArg Except.ok (netExceeds_iff.mpr hnet), h₁₄, fun _ hg => absurd hg List.not_mem_nil⟩

/-! ## 4. The allocation -/

/-- The notionals up to the requested one that the check accepts. -/
def acceptedNotionals (simulated : Snapshot ℚ) (config : Config ℚ) (item : Item ℚ) : Set ℚ :=
  {n | 0 < n ∧ (∃ r, item.requestedNotional = some r ∧ n ≤ r) ∧ Accepts simulated config item n}

/-- `a` is the greatest notional the check accepts, or nothing where it accepts none. -/
def Greatest (simulated : Snapshot ℚ) (config : Config ℚ) (item : Item ℚ) (a : ℚ) : Prop :=
  (a = 0 ∧ acceptedNotionals simulated config item = ∅) ∨
    (0 < a ∧ IsGreatest (acceptedNotionals simulated config item) a)

/-- The size of a candidate, before a size that is not positive is set to zero. -/
def GreatestSize (simulated : Snapshot ℚ) (config : Config ℚ) (item : Item ℚ) (a : ℚ) : Prop :=
  (a ≤ 0 ∧ acceptedNotionals simulated config item = ∅) ∨
    (0 < a ∧ IsGreatest (acceptedNotionals simulated config item) a)

theorem nothing_accepted (h : ∀ n, n ∉ acceptedNotionals simulated config item) :
    GreatestSize simulated config item (FloatNum.ofInt 0) :=
  .inl ⟨zero_rat.le, Set.eq_empty_iff_forall_notMem.mpr h⟩

theorem evaluate_rat (candidate : Candidate ℚ) (s : Snapshot ℚ) (config : Config ℚ) :
    ∃ d, evaluatePortfolioRisk candidate s config = .ok d := by
  have hcount : ∀ current limit : Option (PyNum ℚ), ∃ b, countExceeds current limit = .ok b := by
    intro current limit
    cases limit with
    | none => exact ⟨false, rfl⟩
    | some y =>
      cases current with
      | none => exact ⟨false, rfl⟩
      | some x =>
        obtain ⟨c, hc⟩ := toFloat_rat x
        obtain ⟨b, hb⟩ := toFloat_rat y
        unfold countExceeds
        dsimp only
        rw [hc, hb]
        exact ⟨_, rfl⟩
  have hall : ∀ gs : List Gate, (∀ g ∈ gs, ∃ b, g.2 = .ok b) → ∃ r, firstFailed gs = .ok r := by
    intro gs h
    induction gs with
    | nil => exact ⟨none, rfl⟩
    | cons g rest ih =>
      obtain ⟨⟨b, hb⟩, hrest⟩ := List.forall_mem_cons.mp h
      obtain ⟨r, hr⟩ := ih hrest
      obtain ⟨reason, verdict⟩ := g
      obtain rfl : verdict = .ok b := hb
      cases b with
      | true => exact ⟨some reason, rfl⟩
      | false => exact ⟨r, hr⟩
  have hgates : ∀ g ∈ gates s config (candidateSide candidate) (candidateNotional candidate config),
      ∃ b, g.2 = .ok b := by
    unfold gates stateGates
    rw [List.forall_mem_append]
    refine ⟨?_, List.forall_mem_cons.mpr ⟨⟨_, rfl⟩, ?_⟩⟩
    · simp only [List.forall_mem_cons]
      exact ⟨⟨_, rfl⟩, ⟨_, rfl⟩, ⟨_, rfl⟩, fun _ hg => nomatch hg⟩
    · cases candidateNotional candidate config with
      | none => exact fun _ hg => nomatch hg
      | some n =>
        simp only [limitGates, List.forall_mem_cons]
        exact ⟨hcount _ _, hcount _ _, ⟨_, rfl⟩, ⟨_, rfl⟩, ⟨_, rfl⟩, hcount _ _, ⟨_, rfl⟩, ⟨_, rfl⟩,
          ⟨_, rfl⟩, countReaches_rat _ _, countReaches_rat _ _, ⟨_, rfl⟩, ⟨_, rfl⟩, ⟨_, rfl⟩,
          fun _ hg => nomatch hg⟩
  obtain ⟨r, hr⟩ := hall _ hgates
  unfold evaluatePortfolioRisk
  dsimp only
  rw [hr]
  cases r with
  | none => exact ⟨_, rfl⟩
  | some reason => exact ⟨_, rfl⟩

/-- The size that the capacity and the second check come to. -/
theorem sizeCandidate_greatest {r : ℚ} (hsim : candidateSnapshot base item l = .ok simulated)
    (hr : item.requestedNotional = some r) :
    ∃ sized, sizeCandidate simulated config l item r = .ok sized ∧
      GreatestSize simulated config item sized.1 := by
  obtain ⟨⟨capacity, reasons⟩, hcapacity⟩ :
      ∃ st, remainingCapacity simulated config l item r = .ok st := remainingCapacity_rat r
  have hroom : ∀ n ∈ acceptedNotionals simulated config item, n ≤ r ∧ n ≤ capacity := by
    rintro n ⟨hn, ⟨r', hr', hle⟩, haccepts⟩
    obtain rfl := Option.some.inj (hr.symm.trans hr')
    have hpasses := (accepts_iff hn).mp haccepts
    exact ⟨hle, (le_capacity_iff hcapacity hn).mpr ⟨hle, passes_room hsim hpasses⟩⟩
  have hmin : ∀ n, n ≤ r ∧ n ≤ capacity ↔ n ≤ pyMin r capacity := by
    intro n
    unfold pyMin
    split
    · rename_i hlt
      exact ⟨fun h => h.2, fun h => ⟨h.trans hlt.le, h⟩⟩
    · rename_i hle
      exact ⟨fun h => h.1, fun h => ⟨h, h.trans (not_lt.mp hle)⟩⟩
  unfold sizeCandidate
  rw [hcapacity]
  dsimp only [bind, Except.bind]
  generalize ha : pyMax (FloatNum.ofInt 0) (pyMin r capacity) = a
  have hupper : ∀ n ∈ acceptedNotionals simulated config item, n ≤ a := by
    intro n hn
    rw [← ha, le_pyMax hn.1]
    exact (hmin n).mp (hroom n hn)
  split
  · rename_i hpos
    rw [zero_rat] at hpos
    have hle : a ≤ r ∧ a ≤ capacity := by
      rw [hmin, ← le_pyMax hpos, ha]
    have hfits := (le_capacity_iff hcapacity hpos).mp hle.2
    obtain ⟨final, hfinal⟩ := evaluate_rat (item.allocatedCandidate a) simulated config
    rw [hfinal]
    dsimp only
    by_cases haccepted : final.accepted = true
    · rw [if_pos haccepted]
      exact ⟨_, rfl, .inr ⟨hpos, ⟨hpos, ⟨r, hr, hle.1⟩, final, hfinal, haccepted⟩, hupper⟩⟩
    · rw [if_neg haccepted]
      refine ⟨_, rfl, nothing_accepted fun n hn => haccepted ?_⟩
      -- what is accepted below has room up to the capacity, so the capacity is accepted
      have hpasses := passes_between hsim ((accepts_iff hn.1).mp hn.2.2) (hupper n hn) hfits.2
      obtain ⟨d, hd, hd'⟩ := (accepts_iff hpos).mpr hpasses
      rw [hfinal] at hd
      obtain rfl := Except.ok.inj hd
      exact hd'
  · rename_i hneg
    rw [zero_rat, not_lt] at hneg
    refine ⟨_, rfl, .inl ⟨hneg, Set.eq_empty_iff_forall_notMem.mpr fun n hn => ?_⟩⟩
    have hle := hupper n hn
    have hpos := hn.1
    linarith

/-- A reason that no smaller size removes rejects every size. -/
theorem irreducible_rejects {side : String} {m n : ℚ} {reason : Reason}
    (hreason : reason.reducible = false) (hm : 0 < m)
    (h : (reason, .ok true) ∈ gates simulated config side (some m)) :
    (reason, .ok true) ∈ gates simulated config side (some n) := by
  unfold gates at h ⊢
  rcases List.mem_append.mp h with h | h
  · exact List.mem_append_left _ h
  · refine List.mem_append_right _ (List.mem_cons_of_mem _ ?_)
    rcases List.mem_cons.mp h with h | h
    · -- the size itself is positive
      have hsize : Except.ok (nonPositive (some m)) = (.ok true : Except PyError Bool) :=
        (congrArg Prod.snd h).symm
      have hle : m ≤ FloatNum.ofInt 0 := of_decide_eq_true (Except.ok.inj hsize)
      rw [zero_rat] at hle
      linarith
    · dsimp only at h ⊢
      cases reason <;> simp_all [limitGates, Reason.reducible]

/-- What a candidate without a failed gate of its own is given. -/
theorem chooseSize_greatest {hard : Decision ℚ}
    (hsim : candidateSnapshot base item l = .ok simulated)
    (hhard : evaluatePortfolioRisk item.requestedCandidate simulated config = .ok hard)
    (hexplicit : item.explicitFailure = false) :
    ∃ sized, chooseSize simulated config l item hard = .ok sized ∧
      GreatestSize simulated config item sized.1 := by
  unfold chooseSize
  split
  · rename_i hfailure
    refine ⟨_, rfl, nothing_accepted ?_⟩
    rintro n ⟨hn, ⟨r, hr, hle⟩, haccepts⟩
    have hrpos : (FloatNum.ofInt 0 : ℚ) < r := by
      rw [zero_rat]
      linarith
    unfold nonCapacityFailure at hfailure
    rw [hexplicit, Bool.false_or, Bool.and_eq_true, Bool.not_eq_true',
      Bool.not_eq_true'] at hfailure
    rcases evaluate_cases hhard with ⟨reason, hreason, rfl⟩ | ⟨-, rfl⟩
    · rw [requested_notional hr hrpos] at hreason
      have hmem := irreducible_rejects (n := n) hfailure.2 (zero_rat ▸ hrpos)
        (mem_of_firstFailed hreason)
      exact nomatch (accepts_iff hn).mp haccepts _ hmem
    · exact nomatch hfailure.1
  · cases hr : item.requestedNotional with
    | none =>
      refine ⟨_, rfl, nothing_accepted ?_⟩
      rintro n ⟨-, ⟨r, hr', -⟩, -⟩
      exact nomatch hr.symm.trans hr'
    | some r =>
      dsimp only
      split
      · rename_i hbad
        refine ⟨_, rfl, nothing_accepted ?_⟩
        rintro n ⟨hn, ⟨r', hr', hle⟩, -⟩
        obtain rfl := Option.some.inj (hr.symm.trans hr')
        rcases hbad with hbad | hbad
        · rw [zero_rat] at hbad
          linarith
        · cases hbad
      · exact sizeCandidate_greatest hsim hr

theorem greatest_of_size {a : ℚ} (h : GreatestSize simulated config item a) :
    Greatest simulated config item (if a ≤ FloatNum.ofInt 0 then FloatNum.ofInt 0 else a) := by
  rw [zero_rat]
  rcases h with ⟨ha, hempty⟩ | ⟨ha, hgreatest⟩
  · rw [if_pos ha]
    exact .inl ⟨rfl, hempty⟩
  · rw [if_neg (not_le.mpr ha)]
    exact .inr ⟨ha, hgreatest⟩

/-- **One turn of the loop**: it does not raise, and allocates the greatest notional that the check
    accepts on the simulated snapshot, or nothing to a candidate with a failed gate of its own. -/
theorem allocateCandidate_greatest {d : Allocation ℚ} {l' : Ledger ℚ}
    (hsim : candidateSnapshot base item l = .ok simulated)
    (h : allocateCandidate base config l item = .ok (d, l')) :
    if item.explicitFailure then d.allocatedNotional = 0
    else Greatest simulated config item d.allocatedNotional := by
  obtain ⟨s, hs, h⟩ := ok_of_bind h
  obtain rfl := Except.ok.inj (hsim.symm.trans hs)
  obtain ⟨hard, hhard, h⟩ := ok_of_bind h
  obtain ⟨sized, hsized, h⟩ := ok_of_bind h
  obtain ⟨rfl, -⟩ := Prod.mk.inj (Except.ok.inj h)
  rw [decided_notional]
  cases hexplicit : item.explicitFailure with
  | true =>
    unfold chooseSize nonCapacityFailure at hsized
    rw [hexplicit, Bool.true_or, if_pos rfl] at hsized
    obtain rfl := Except.ok.inj hsized
    rw [if_pos rfl, if_pos (FloatNum.le_refl isNumber_zero), zero_rat]
  | false =>
    obtain ⟨sized', hsized', hgreatest⟩ := chooseSize_greatest hsim hhard hexplicit
    obtain rfl := Except.ok.inj (hsized.symm.trans hsized')
    rw [if_neg Bool.false_ne_true]
    exact greatest_of_size hgreatest

/-- **The allocation against the check**, for every candidate of every allocation. -/
theorem allocated_greatest {candidates : List (RawCandidate ℚ)} {snapshot : Snapshot ℚ}
    {config : Config ℚ} {result : PortfolioAllocation ℚ} {pre post : List (Item ℚ)} {item : Item ℚ}
    (h : allocatePortfolioCandidates candidates snapshot config = .ok result)
    (horder : preferenceSort (candidates.map normalizedAllocationCandidate) = pre ++ item :: post) :
    ∃ start ds before simulated decision after,
      initialLedger snapshot (candidates.map normalizedAllocationCandidate) = .ok start ∧
      allocateAll snapshot config pre start = .ok (ds, before) ∧
      candidateSnapshot snapshot item before = .ok simulated ∧
      allocateCandidate snapshot config before item = .ok (decision, after) ∧
      result.candidates[pre.length]? = some decision ∧
      if item.explicitFailure then decision.allocatedNotional = 0
      else Greatest simulated config item decision.allocatedNotional := by
  obtain ⟨_, start, final, hledger, hall⟩ := allocation_parts h
  rw [horder] at hall
  obtain ⟨ds, before, decision, after, hpre, hd, hget⟩ := allocateAll_split hall
  obtain ⟨simulated, hsim, _⟩ := allocate_cases hd
  exact ⟨start, ds, before, simulated, decision, after, hledger, hpre, hsim, hd, hget,
    allocateCandidate_greatest hsim hd⟩

/-- A candidate of 100 that carries a failed gate of its own. -/
def gatedRequest : RawCandidate ℚ :=
  { symbol := some "BTCUSDT"
    hardGateAccepted := some false
    numbers := fun key => if key = "notional" then .number 100 else .none }

/-- The same candidate without the failed gate. -/
def freeRequest : RawCandidate ℚ := { gatedRequest with hardGateAccepted := none }

/-- A portfolio with room for 40. -/
def roomForForty : Snapshot ℚ :=
  { equity := some 1000
    openPositionCount := some (.int 0)
    totalNotionalExposure := some 60
    maxNotionalExposure := some 100
    symbolNotionalExposure := some 0 }

/-- Of the request of 100 the check accepts up to 40, and the candidate is allocated 40. -/
theorem allocated_greatest_forty :
    ∃ (simulated : Snapshot ℚ) (decision : Allocation ℚ), decision.allocatedNotional = 40 ∧
      Greatest simulated {} (normalizedAllocationCandidate freeRequest)
        decision.allocatedNotional := by
  have hok : (allocatePortfolioCandidates [freeRequest] roomForForty {}).map
      (fun r => r.candidates.map (·.allocatedNotional)) = .ok [40] := by decide +kernel
  rcases h : allocatePortfolioCandidates [freeRequest] roomForForty {} with e | result
  · rw [h] at hok
    cases hok
  rw [h] at hok
  have hamounts : result.candidates.map (·.allocatedNotional) = [40] := Except.ok.inj hok
  have horder : preferenceSort ([freeRequest].map normalizedAllocationCandidate) =
      [] ++ normalizedAllocationCandidate freeRequest :: [] := rfl
  obtain ⟨-, -, -, simulated, decision, -, -, -, -, -, hget, hgreatest⟩ :=
    allocated_greatest h horder
  have hforty : decision.allocatedNotional = 40 := by
    have hmap := congrArg (fun ds : List ℚ => ds[0]?) hamounts
    simp only [List.getElem?_map] at hmap
    rw [show result.candidates[0]? = some decision from hget] at hmap
    exact Option.some.inj hmap
  exact ⟨simulated, decision, hforty, hgreatest⟩

/-- **The check accepts the request on the simulated snapshot, and the candidate is allocated
    nothing**: its own gate failed. -/
theorem gatedCandidate :
    (allocatePortfolioCandidates [gatedRequest] roomForForty {}).map
        (fun r => r.candidates.map (·.allocatedNotional)) = .ok [0] ∧
      ∃ start simulated,
        initialLedger roomForForty [normalizedAllocationCandidate gatedRequest] = .ok start ∧
        candidateSnapshot roomForForty (normalizedAllocationCandidate gatedRequest) start =
          .ok simulated ∧
        (40 : ℚ) ∈ acceptedNotionals simulated {} (normalizedAllocationCandidate gatedRequest) := by
  refine ⟨by decide +kernel, _, _, rfl, rfl, by decide, ⟨100, by decide +kernel, by decide⟩, ?_⟩
  exact ⟨.accept (some 40), by decide +kernel, rfl⟩

end AlphaForge.Portfolio
