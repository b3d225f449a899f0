/-
  File:      AlphaForge/Portfolio/Evidence.lean
  Subject:   Missing portfolio evidence: the single check against the allocator.

  The single check answers UNKNOWN_PORTFOLIO_RISK exactly when one of four values is missing or the
  risk state is marked incomplete (`unknown_iff`). The allocator checks each candidate against a
  rebuilt snapshot. There the total and the symbol exposure are never missing, and the candidate's
  own `risk_state_complete` replaces the snapshot's, so only part of the missing evidence is still
  missing (`simulated_unknown_iff`).

  * **`unknown_fails_closed_iff`** -- a candidate whose snapshot the single check does not know is
    rejected as unknown by the allocator's check exactly when the evidence stays missing, and then
    it is allocated nothing.
  * `missing_total_allocated` -- a snapshot without its total exposure, and a candidate that is
    allocated its whole request.
-/
import AlphaForge.Portfolio.Allocator

namespace AlphaForge.Portfolio

open AlphaForge.Lib

section Evidence

variable {F : Type} [FloatNum F]

/-- UNKNOWN_PORTFOLIO_RISK is the answer exactly for a state marked incomplete or a missing
    value. -/
theorem unknown_iff {candidate : Candidate F} {s : Snapshot F} {config : Config F} :
    evaluatePortfolioRisk candidate s config = .ok (.fail .unknownPortfolioRisk) ↔
      config.rejectsUnknown = true ∧ (s.riskStateComplete = some false ∨
        s.lacksRequired = true) := by
  constructor
  · intro h
    have hfailed : firstFailed (gates s config (candidateSide candidate)
        (candidateNotional candidate config)) = .ok (some .unknownPortfolioRisk) := by
      rcases evaluate_cases h with ⟨reason, hr, hd⟩ | ⟨_, hd⟩
      · have : reason = .unknownPortfolioRisk := by
          simpa [Decision.fail] using (congrArg Decision.rejectReason hd).symm
        rw [hr, this]
      · exact absurd (congrArg Decision.accepted hd) (by simp [Decision.fail, Decision.accept])
    have hmem := mem_of_firstFailed hfailed
    unfold gates stateGates at hmem
    rcases List.mem_append.mp hmem with hmem | hmem
    · simp only [List.mem_cons, Prod.mk.injEq, Except.ok.injEq, List.not_mem_nil, or_false,
        reduceCtorEq, false_and, true_and] at hmem
      rcases hmem with h1 | h2
      · obtain ⟨hc, hs⟩ := Bool.and_eq_true_iff.mp h1.symm
        exact ⟨hc, .inl (eq_of_beq hs)⟩
      · obtain ⟨hc, hs⟩ := Bool.and_eq_true_iff.mp h2.symm
        exact ⟨hc, .inr hs⟩
    · -- no later check has this reason
      exfalso
      rcases List.mem_cons.mp hmem with heq | hmem
      · cases (Prod.ext_iff.mp heq).1
      · split at hmem
        · simp [limitGates] at hmem
        · cases hmem
  · rintro ⟨hconfig, hs⟩
    unfold evaluatePortfolioRisk gates stateGates
    by_cases h1 : s.riskStateComplete = some false
    · simp only [hconfig, h1, List.cons_append, firstFailed]
      rfl
    · have h2 : s.lacksRequired = true := hs.resolve_left h1
      have h1' : (s.riskStateComplete == some false) = false := beq_false_of_ne h1
      simp only [hconfig, h1', h2, List.cons_append, firstFailed]
      rfl

/-- The evidence that is still missing where the allocator checks the candidate. -/
def EvidenceStaysMissing (s : Snapshot F) (item : Item F) : Prop :=
  s.equity = none ∨ s.openPositionCount = none ∨
    (item.raw.riskStateComplete <|> s.riskStateComplete) = some false

theorem raisedCount_isNone {count raised : Option (PyNum F)} {allocated : ℤ}
    (h : raisedCount count allocated = .ok raised) : raised.isNone = count.isNone := by
  cases count with
  | none =>
    cases h
    rfl
  | some c =>
    obtain ⟨n, _, h⟩ := ok_of_bind h
    cases h
    rfl

/-- The allocator's check misses only part of what the single check misses. -/
theorem simulated_unknown_iff {candidate : Candidate F} {s simulated : Snapshot F}
    {config : Config F}
    {item : Item F} {l : Ledger F} (hsim : candidateSnapshot s item l = .ok simulated) :
    evaluatePortfolioRisk candidate simulated config = .ok (.fail .unknownPortfolioRisk) ↔
      config.rejectsUnknown = true ∧ EvidenceStaysMissing s item := by
  obtain ⟨openCount, hopen, hsim⟩ := ok_of_bind hsim
  obtain ⟨concurrentCount, _, hsim⟩ := ok_of_bind hsim
  cases hsim
  have hcount := raisedCount_isNone hopen
  rw [unknown_iff]
  unfold EvidenceStaysMissing Snapshot.lacksRequired
  simp only [Snapshot.simulated, hcount, Option.isNone_some, Bool.or_false, Bool.or_eq_true,
    Option.isNone_iff_eq_none]
  tauto

/-- What the allocator decides where its check does not know the risk state. -/
theorem nothing_if_unknown {s simulated : Snapshot F} {config : Config F} {l l' : Ledger F}
    {item : Item F} {d : Allocation F} (hsim : candidateSnapshot s item l = .ok simulated)
    (h : allocateCandidate s config l item = .ok (d, l'))
    (hunknown : evaluatePortfolioRisk item.requestedCandidate simulated config =
      .ok (.fail .unknownPortfolioRisk)) :
    d.allocatedNotional = FloatNum.ofInt 0 := by
  obtain ⟨s', hs', h⟩ := ok_of_bind h
  rw [hsim] at hs'
  cases hs'
  obtain ⟨hard, hhard, h⟩ := ok_of_bind h
  rw [hunknown] at hhard
  cases hhard
  obtain ⟨sized, hsized, h⟩ := ok_of_bind h
  cases h
  have hfailure : nonCapacityFailure item (.fail .unknownPortfolioRisk : Decision F) = true := by
    unfold nonCapacityFailure
    rw [Bool.or_eq_true]
    exact .inr rfl
  unfold chooseSize at hsized
  rw [if_pos hfailure] at hsized
  cases hsized
  rw [decided_notional, if_pos (FloatNum.le_refl isNumber_zero)]

/-- **Where missing evidence fails closed**: among the candidates of a snapshot that the single
    check answers UNKNOWN_PORTFOLIO_RISK for, the allocator's check answers the same exactly for
    those whose evidence stays missing, and these are allocated nothing. -/
theorem unknown_fails_closed_iff {candidates : List (RawCandidate F)} {snapshot : Snapshot F}
    {config : Config F} {result : PortfolioAllocation F} {pre post : List (Item F)} {item : Item F}
    {candidate : Candidate F}
    (h : allocatePortfolioCandidates candidates snapshot config = .ok result)
    (horder : preferenceSort (candidates.map normalizedAllocationCandidate) = pre ++ item :: post)
    (hunknown : evaluatePortfolioRisk candidate snapshot config =
      .ok (.fail .unknownPortfolioRisk)) :
    ∃ start ds before simulated decision after,
      initialLedger snapshot (candidates.map normalizedAllocationCandidate) = .ok start ∧
      allocateAll snapshot config pre start = .ok (ds, before) ∧
      candidateSnapshot snapshot item before = .ok simulated ∧
      allocateCandidate snapshot config before item = .ok (decision, after) ∧
      result.candidates[pre.length]? = some decision ∧
      (evaluatePortfolioRisk item.requestedCandidate simulated config =
          .ok (.fail .unknownPortfolioRisk) ↔ EvidenceStaysMissing snapshot item) ∧
      (EvidenceStaysMissing snapshot item → decision.allocatedNotional = FloatNum.ofInt 0) := by
  obtain ⟨hconfig, _⟩ := unknown_iff.mp hunknown
  obtain ⟨_, start, final, hledger, hall⟩ := allocation_parts h
  rw [horder] at hall
  obtain ⟨ds, before, decision, after, hpre, hd, hget⟩ := allocateAll_split hall
  obtain ⟨simulated, hsim, _⟩ := allocate_cases hd
  have hiff : evaluatePortfolioRisk item.requestedCandidate simulated config =
      .ok (.fail .unknownPortfolioRisk) ↔ EvidenceStaysMissing snapshot item := by
    rw [simulated_unknown_iff hsim]
    exact ⟨fun hs => hs.2, fun hs => ⟨hconfig, hs⟩⟩
  exact ⟨start, ds, before, simulated, decision, after, hledger, hpre, hsim, hd, hget, hiff,
    fun hmissing => nothing_if_unknown hsim hd (hiff.mpr hmissing)⟩

end Evidence

/-- One candidate of 100, nothing limited. -/
def unlimitedCandidate : RawCandidate Float :=
  { symbol := some "BTCUSDT"
    numbers := fun key => if key = "notional" then .number 100 else .none }

/-- A snapshot whose total exposure is missing. -/
def withoutTotal : Snapshot Float :=
  { equity := some 1000
    openPositionCount := some (.int 0)
    symbolNotionalExposure := some 0 }

/-- The single check does not know the snapshot without its total; the allocator approves the
    candidate in full. -/
theorem missing_total_allocated :
    evaluatePortfolioRisk { notional := .number (100 : Float) } withoutTotal {} =
        .ok (.fail .unknownPortfolioRisk) ∧
      (allocatePortfolioCandidates [unlimitedCandidate] withoutTotal {}).map
        (fun r => r.candidates.map fun d => (d.action, d.allocatedNotional)) =
          .ok [(.approve, 100)] := by
  decide +kernel

/-- A snapshot whose equity is missing. -/
def withoutEquity : Snapshot Float := { withoutTotal with equity := none }

theorem unknown_fails_closed_iff_sample :
    ∃ start before decision after,
      initialLedger withoutEquity [normalizedAllocationCandidate unlimitedCandidate] = .ok start ∧
      allocateAll withoutEquity {} [] start = .ok ([], before) ∧
      allocateCandidate withoutEquity {} before (normalizedAllocationCandidate unlimitedCandidate) =
        .ok (decision, after) ∧ decision.allocatedNotional = FloatNum.ofInt 0 := by
  have hok : (allocatePortfolioCandidates [unlimitedCandidate] withoutEquity {}).isOk = true := by
    decide +kernel
  rcases h : allocatePortfolioCandidates [unlimitedCandidate] withoutEquity {} with e | result
  · rw [h] at hok
    cases hok
  have hunknown : evaluatePortfolioRisk { notional := .number (100 : Float) } withoutEquity {} =
      .ok (.fail .unknownPortfolioRisk) := by decide +kernel
  have horder : preferenceSort ([unlimitedCandidate].map normalizedAllocationCandidate) =
      [] ++ normalizedAllocationCandidate unlimitedCandidate :: [] := rfl
  obtain ⟨start, ds, before, simulated, decision, after, hledger, hpre, _, hd, _, _, hzero⟩ :=
    unknown_fails_closed_iff h horder hunknown
  cases hpre
  exact ⟨start, start, decision, after, hledger, rfl, hd, hzero (.inl rfl)⟩

end AlphaForge.Portfolio
