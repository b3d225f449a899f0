/-
  File:      AlphaForge/Positions/Conservation.lean
  Subject:   Gross and execution cost of a closed position: nothing is lost or charged twice,
             however the quantity was split.

  * `IsSlice`, `slices_step` -- every partial exit carries its own gross, its share of the entry
    costs and its exit costs.
  * `partialCost_eq` -- the partial exits together carry the entry costs of the exited fraction.
  * `closing_total`, `closing_complete` -- the closure's total: entry costs once, plus the exit
    costs of all slices; it exists when the evidence is complete.
  * `cost_conservation` -- both for every run from an opened position to its closure and beyond.
-/
import AlphaForge.Positions.Lifecycle
import Mathlib.Tactic.FieldSimp

namespace AlphaForge.Positions

open AlphaForge.Lib
open AlphaForge.Candles (sideOf)

/-! ## 1. What a partial exit carries -/

/-- The terms of a position's entry that its accounting uses. -/
structure Entry where
  fill : ℚ
  stop : ℚ
  quantity : Positive
  side : String
  costs : EntryCosts ℚ

/-- `risk_usd`. -/
def Entry.risk (x : Entry) : ℚ := |x.fill - x.stop| * x.quantity.1

/-- The gross of `qty` units sold (or bought back) at `price`. -/
def Entry.gross (x : Entry) (price qty : ℚ) : ℚ := (price - x.fill) * qty * direction x.side

/-- The entry terms of a row whose entry-cost evidence is complete. -/
structure HasEntry (r : Position) (x : Entry) : Prop where
  fill : orElse r.simulatedFill r.plannedEntry = some x.fill
  stop : r.stop = some x.stop
  quantity : r.quantity = some x.quantity.1
  side : sideOf r.side = x.side
  costs : (entryCostsUsd r x.risk).complete? = some x.costs
  risk : 0 < x.risk

/-- The entry terms are read from columns that never change. -/
theorem hasEntry_atEntry {r r' : Position} {x : Entry} (h : HasEntry r x)
    (he : r'.atEntry = r.atEntry) : HasEntry r' x := by
  have hcosts : entryCostsUsd r' = entryCostsUsd r := by
    have h' : entryCostsUsd r'.atEntry = entryCostsUsd r.atEntry := by rw [he]
    exact h'
  have hfill := congrArg Position.simulatedFill he
  have hplan := congrArg Position.plannedEntry he
  refine ⟨?_, ?_, ?_, ?_, ?_, h.risk⟩
  · rw [← h.fill]
    exact congrArg₂ orElse hfill hplan
  · rw [← h.stop]
    exact (congrArg Position.stop he :)
  · rw [← h.quantity]
    exact (congrArg Position.quantity he :)
  · rw [← h.side]
    exact (congrArg (fun r => sideOf (Position.side r)) he :)
  · rw [hcosts]
    exact h.costs

/-- A partial exit: its own gross, its share of the entry costs, its own exit costs. -/
def IsSlice (x : Entry) (e : Event) : Prop :=
  ∃ qty price, ∃ costs : ExitCosts, e.requestedQuantity = some qty ∧
    e.executionPrice = some price ∧ e.grossPnl = some (x.gross price qty) ∧
    e.evidence.exitCostsUsd = some costs ∧ (∀ key, 0 ≤ costs key) ∧
    e.executionCost = some (x.costs.total * (qty / x.quantity.1) + costs.total)

theorem strictExitCosts_ok {p : Payload} {costs : ExitCosts} (h : strictExitCostsUsd p = .ok costs)
    (key : ExitCost) : 0 ≤ costs key := by
  unfold strictExitCostsUsd at h
  split at h
  · cases h
  · rename_i d
    split at h
    · cases h
    · split at h
      · cases h
      · cases h
        show 0 ≤ (strictExitCost d key).getD 0
        unfold strictExitCost
        cases hn : (finiteNumber (d.get key.name)).filter (0 ≤ ·) with
        | none => exact le_rfl
        | some q => simpa using (Option.filter_eq_some_iff.mp hn).2

theorem scale_total (costs : EntryCosts ℚ) (f : ℚ) :
    (costs.scale f).total = costs.total * f := by
  unfold EntryCosts.total EntryCosts.scale
  ring

/-- **One call keeps it that every partial exit is a slice.** -/
theorem slices_step {hash : Request → String} {call : Call} {v v' : Trade} {x : Entry}
    (h : ∀ e ∈ v.partials, IsSlice x e) (hx : HasEntry v.row x) (hs : TradeStep hash call v v') :
    ∀ e ∈ v'.partials, IsSlice x e := by
  cases hs with
  | same => exact h
  | tighten a hcall ev n stop run hR hact hstop =>
    rw [partials_record_other]
    · exact h
    · exact isPartialExit_other hact (by decide)
  | trail a hcall ev n run hR hact hc =>
    rw [partials_record_other]
    · exact h
    · exact isPartialExit_other hact (by decide)
  | reduce a hcall ev n s run hR hact hslice =>
    intro e he
    unfold Trade.partials Trade.record at he
    rw [List.filter_append, List.mem_append] at he
    rcases he with he | he
    · exact h e he
    · obtain rfl := List.mem_singleton.mp (List.mem_filter.mp he).1
      obtain ⟨hfill, hstop, hqty, -, -, -, hrisk⟩ := rowNumbers_ok hR.numbers
      obtain ⟨entry, hentry, -, hcosts, halloc, hgross, hcost, -⟩ := partialSlice_ok hslice
      obtain hf : x.fill = n.fill.1 := Option.some.inj (hx.fill.symm.trans hfill)
      obtain hst : x.stop = n.originalStop.1 := Option.some.inj (hx.stop.symm.trans hstop)
      obtain hq : x.quantity.1 = n.originalQty.1 := Option.some.inj (hx.quantity.symm.trans hqty)
      have hr : x.risk = n.riskUsd.1 := by
        unfold Entry.risk
        rw [hf, hst, hq, hrisk]
      have hce : entry = x.costs := by
        rw [← hr, hx.costs] at hentry
        exact (Option.some.inj hentry).symm
      refine ⟨s.qty.1, s.price.1, s.exitCosts, rfl, rfl, ?_, rfl, strictExitCosts_ok hcosts, ?_⟩
      · show some s.gross = _
        rw [hgross, ← hf, hx.side]
        rfl
      · show some s.executionCost = _
        rw [hcost, halloc, scale_total, hce, hq]
  | protect a hcall ev n price costs k run hR hact hc hk =>
    rw [partials_record_other]
    · exact h
    · exact isPartialExit_other hact (by decide)
  | close c hcall k ho hk => exact h

/-! ## 2. Sums over the partial exits -/

/-- The exit costs that the partial exits carry, all keys together. -/
def partialExitTotal (partials : List Event) : ℚ := (exitComponents partials).total

theorem exitComponents_cons {e : Event} {costs : ExitCosts} {rest : List Event}
    (h : e.evidence.exitCostsUsd = some costs) (key : ExitCost) :
    exitComponents (e :: rest) key = costs key + exitComponents rest key := by
  unfold exitComponents
  rw [List.filterMap_cons, h]
  rfl

theorem exitComponents_nonneg {x : Entry} {partials : List Event}
    (h : ∀ e ∈ partials, IsSlice x e) (key : ExitCost) : 0 ≤ exitComponents partials key := by
  induction partials with
  | nil => exact le_rfl
  | cons e rest ih =>
    obtain ⟨_, _, costs, -, -, -, hcosts, hpos, -⟩ := h e List.mem_cons_self
    rw [exitComponents_cons hcosts]
    exact add_nonneg (hpos key) (ih fun d hd => h d (List.mem_cons_of_mem _ hd))

theorem total_add {c : ExitCosts} {d e : ExitCosts} (h : ∀ key, c key = d key + e key) :
    c.total = d.total + e.total := by
  unfold ExitCosts.total exitCostInputs
  simp only [List.map_cons, List.map_nil, List.sum_cons, List.sum_nil, h]
  ring

/-- **The stored execution costs of the partial exits**: the entry costs of the exited fraction
    plus every slice's own exit costs. -/
theorem partialCost_eq {x : Entry} {partials : List Event} (h : ∀ e ∈ partials, IsSlice x e) :
    (partials.map fun e => e.executionCost.getD 0).sum =
      x.costs.total * ((partials.map fun e => e.requestedQuantity.getD 0).sum / x.quantity.1)
        + partialExitTotal partials := by
  induction partials with
  | nil => simp [partialExitTotal, exitComponents, ExitCosts.total, exitCostInputs]
  | cons e rest ih =>
    obtain ⟨qty, _, costs, hqty, -, -, hcosts, -, hcost⟩ := h e List.mem_cons_self
    have hrest := ih fun d hd => h d (List.mem_cons_of_mem _ hd)
    have htotal : partialExitTotal (e :: rest) = costs.total + partialExitTotal rest :=
      total_add (exitComponents_cons hcosts)
    rw [List.map_cons, List.sum_cons, List.map_cons, List.sum_cons, hrest, htotal, hqty, hcost]
    simp only [Option.getD_some]
    ring

/-! ## 3. The closure -/

/-- The exit-cost evidence of a closure is complete: every required cost, and every optional one
    that is given, is a number, and only funding may be negative. -/
def CompleteExit (exitCosts : Dict) : Prop :=
  ∀ key, (key ∈ requiredExitCosts ∨ exitCosts.has key.name = true) →
    ∃ raw, finiteNumber (exitCosts.get key.name) = some raw ∧ (0 ≤ raw ∨ key = .funding)

/-- The numbers of a row with entry terms `x` at its closure. -/
def Entry.closureNumbers (x : Entry) (r : Position) : ClosureNumbers where
  fill := x.fill
  originalQty := x.quantity.1
  remainingQty := r.remainingQuantity.getD x.quantity.1
  initialStop := x.stop

theorem closureNumbers_eq {r : Position} {x : Entry} (hx : HasEntry r x) :
    closureNumbers r = .ok (x.closureNumbers r) := by
  unfold closureNumbers
  rw [hx.fill, hx.quantity, hx.stop]
  rfl

/-- The exit costs of the final slice in USD; what is not given counts as zero. -/
def finalExitCosts (r : Position) (x : Entry) (exitCosts : Dict) : ExitCosts := fun key =>
  (exitValue r (x.closureNumbers r) x.risk exitCosts key).getD 0

/-- What a closure that went through computed. -/
theorem closing_inv {c : ClosureCall} {r : Position} {comps : ExitCosts} {partials : List Event}
    {k : Closing} (h : closing c r comps partials = .ok k) :
    ∃ n, closureNumbers r = .ok n ∧
      k.geometry = positionCashGeometry n.fill n.initialStop n.originalQty c.exitPrice
        (sideOf r.side) (some n.remainingQty) r.realizedGrossPnl ∧
      k.ledger = realizedCashLedger k.geometry.grossPnlUsd k.geometry.initialRiskUsd
        (closureCosts (entryCostsUsd r k.geometry.initialRiskUsd) comps
          (exitValue r n k.geometry.initialRiskUsd c.exitCosts))
        (closureMissing r k.geometry.initialRiskUsd c.exitCosts
          (exitValue r n k.geometry.initialRiskUsd c.exitCosts)) ∧
      k.finalSliceCost = k.ledger.totalCostUsd.map fun t => t - r.realizedExecutionCost := by
  unfold closing at h
  cases hn : closureNumbers r with
  | error e => rw [hn] at h; cases h
  | ok n =>
    cases hp : c.exitTime.parse with
    | error e => rw [hn, hp] at h; cases h
    | ok exitTime =>
      cases he : r.entryTime.parse with
      | error e => rw [hn, hp, he] at h; cases h
      | ok entryTime =>
        rw [hn, hp, he] at h
        change (exitTime.secondsSince entryTime >>= _) = _ at h
        cases hs : exitTime.secondsSince entryTime with
        | error e => rw [hs] at h; cases h
        | ok hold =>
          rw [hs] at h
          cases h
          exact ⟨n, rfl, rfl, rfl, rfl⟩

/-- The same for a row whose entry terms are known. -/
theorem closing_ok {c : ClosureCall} {r : Position} {comps : ExitCosts} {partials : List Event}
    {k : Closing} {x : Entry} (hx : HasEntry r x) (h : closing c r comps partials = .ok k) :
    k.ledger = realizedCashLedger k.geometry.grossPnlUsd x.risk
        (closureCosts (entryCostsUsd r x.risk) comps
          (exitValue r (x.closureNumbers r) x.risk c.exitCosts))
        (closureMissing r x.risk c.exitCosts
          (exitValue r (x.closureNumbers r) x.risk c.exitCosts)) ∧
      k.finalSliceCost = k.ledger.totalCostUsd.map fun t => t - r.realizedExecutionCost := by
  obtain ⟨n, hn, hg, hl, hf⟩ := closing_inv h
  obtain rfl : x.closureNumbers r = n := Except.ok.inj ((closureNumbers_eq hx).symm.trans hn)
  have hrisk : k.geometry.initialRiskUsd = x.risk := by
    rw [hg]
    rfl
  rw [hrisk] at hl
  exact ⟨hl, hf⟩

/-- The entry costs of a row with complete evidence: present and not negative. -/
theorem entryCosts_of_complete {r : Position} {risk : ℚ} {costs : EntryCosts ℚ}
    (hr : 0 < risk) (h : (entryCostsUsd r risk).complete? = some costs) :
    entryCostsUsd r risk =
        ⟨some costs.spreadCost, some costs.entrySlippageCost, some costs.feeCost⟩ ∧
      0 ≤ costs.spreadCost ∧ 0 ≤ costs.entrySlippageCost ∧ 0 ≤ costs.feeCost ∧
      r.entrySpread.isSome ∧ r.entrySlippage.isSome ∧ r.entryFee.isSome := by
  have hm : 0 ≤ if r.provenance.executionCostUnit = .text "R" then risk else 1 := by
    split
    · exact hr.le
    · exact zero_le_one
  have hvalue : ∀ (raw : Option ℚ) (y : ℚ),
      (raw.bind fun z => if z < 0 then none
        else some (z * if r.provenance.executionCostUnit = .text "R" then risk else 1)) = some y →
      0 ≤ y ∧ raw.isSome := by
    intro raw y hy
    obtain ⟨z, rfl, hz⟩ := Option.bind_eq_some_iff.mp hy
    split at hz
    · cases hz
    · rename_i hneg
      cases hz
      exact ⟨mul_nonneg (not_lt.mp hneg) hm, rfl⟩
  unfold EntryCosts.complete? at h
  split at h
  · rename_i spread slippage fee h₁ h₂ h₃
    cases h
    obtain ⟨p₁, q₁⟩ := hvalue _ _ h₁
    obtain ⟨p₂, q₂⟩ := hvalue _ _ h₂
    obtain ⟨p₃, q₃⟩ := hvalue _ _ h₃
    refine ⟨?_, p₁, p₂, p₃, q₁, q₂, q₃⟩
    rw [← h₁, ← h₂, ← h₃]
  · cases h

theorem exitScale_nonneg {r : Position} {x : Entry} (exitCosts : Dict) (hr : 0 < x.risk)
    (hrem : 0 ≤ r.remainingQuantity.getD x.quantity.1) :
    0 ≤ exitScale r (x.closureNumbers r) x.risk exitCosts := by
  have hf : 0 ≤ r.remainingQuantity.getD x.quantity.1 / x.quantity.1 :=
    div_nonneg hrem x.quantity.2.le
  unfold exitScale Entry.closureNumbers
  simp only
  split
  · exact zero_le_one
  · rw [if_pos x.quantity.2]
    split
    · exact mul_nonneg hr.le hf
    · rwa [one_mul]

/-- A complete exit cost is charged: its amount is known and only funding may be negative. -/
theorem exitValue_of_complete {r : Position} {x : Entry} {exitCosts : Dict}
    (hr : 0 < x.risk) (hrem : 0 ≤ r.remainingQuantity.getD x.quantity.1)
    (hc : CompleteExit exitCosts) {key : ExitCost}
    (hkey : key ∈ requiredExitCosts ∨ exitCosts.has key.name = true) :
    exitValue r (x.closureNumbers r) x.risk exitCosts key =
        some (finalExitCosts r x exitCosts key) ∧
      (key ≠ .funding → 0 ≤ finalExitCosts r x exitCosts key) := by
  obtain ⟨raw, hraw, hsign⟩ := hc key hkey
  have hval : exitValue r (x.closureNumbers r) x.risk exitCosts key =
      some (raw * exitScale r (x.closureNumbers r) x.risk exitCosts) := by
    unfold exitValue
    rw [hraw, Option.bind_some, if_neg]
    rintro ⟨hneg, hne⟩
    exact hsign.elim (not_le.mpr hneg) hne
  unfold finalExitCosts
  rw [hval]
  refine ⟨rfl, fun hne => ?_⟩
  exact mul_nonneg (hsign.resolve_right hne) (exitScale_nonneg exitCosts hr hrem)

/-- An optional exit cost that is not given costs nothing. -/
theorem exitValue_of_absent {r : Position} {x : Entry} {exitCosts : Dict} {key : ExitCost}
    (h : exitCosts.has key.name = false) :
    exitValue r (x.closureNumbers r) x.risk exitCosts key = none := by
  have hget : exitCosts.get key.name = .none := by
    unfold Dict.has at h
    unfold Dict.get
    rw [Option.isSome_eq_false_iff, Option.isNone_iff_eq_none] at h
    rw [h]
    rfl
  unfold exitValue
  rw [hget]
  rfl

/-- Complete evidence leaves nothing missing. -/
theorem closureMissing_of_complete {r : Position} {x : Entry} {exitCosts : Dict}
    (hx : HasEntry r x) (hrem : 0 ≤ r.remainingQuantity.getD x.quantity.1)
    (hc : CompleteExit exitCosts) :
    closureMissing r x.risk exitCosts (exitValue r (x.closureNumbers r) x.risk exitCosts) = [] := by
  obtain ⟨-, -, -, -, h₁, h₂, h₃⟩ := entryCosts_of_complete hx.risk hx.costs
  have hreq : (requiredExitCosts.filter fun key => exitCosts.get key.name = .none) = [] := by
    rw [List.filter_eq_nil_iff]
    intro key hkey hnone
    obtain ⟨raw, hraw, -⟩ := hc key (Or.inl hkey)
    rw [of_decide_eq_true hnone] at hraw
    cases hraw
  have hgiven : (exitCostInputs.filter fun key => exitCosts.has key.name &&
      (exitValue r (x.closureNumbers r) x.risk exitCosts key).isNone) = [] := by
    rw [List.filter_eq_nil_iff]
    intro key _ hbad
    rw [Bool.and_eq_true] at hbad
    rw [(exitValue_of_complete hx.risk hrem hc (Or.inr hbad.1)).1] at hbad
    cases hbad.2
  have hentry : ([("entry_spread", r.entrySpread), ("entry_slippage", r.entrySlippage),
      ("entry_fee", r.entryFee)].filter fun e => e.2.isNone) = [] := by
    rw [List.filter_eq_nil_iff]
    intro e he
    simp only [List.mem_cons, List.not_mem_nil, or_false] at he
    rcases he with rfl | rfl | rfl
    · simpa [Option.isSome_iff_ne_none] using h₁
    · simpa [Option.isSome_iff_ne_none] using h₂
    · simpa [Option.isSome_iff_ne_none] using h₃
  unfold closureMissing
  simp only
  rw [hreq, hgiven, hentry, if_neg (not_le.mpr hx.risk)]
  rfl

/-- The ledger's components when entry and required exit costs are known. -/
theorem closureCosts_eq {r : Position} {x : Entry} {exitCosts : Dict} {p : ExitCosts}
    (hx : HasEntry r x)
    (hreq : ∀ key ∈ requiredExitCosts, exitValue r (x.closureNumbers r) x.risk exitCosts key =
      some (finalExitCosts r x exitCosts key)) :
    closureCosts (entryCostsUsd r x.risk) p (exitValue r (x.closureNumbers r) x.risk exitCosts) =
      let f := finalExitCosts r x exitCosts
      [("spread_cost", some (x.costs.spreadCost + p .exitSpread + f .exitSpread)),
       ("entry_slippage_cost", some x.costs.entrySlippageCost),
       ("exit_slippage_cost", some (p .exitSlippage + f .exitSlippage)),
       ("fee_cost", some (x.costs.feeCost + p .exitFee + f .exitFee)),
       ("funding_cost", some (p .funding + f .funding)),
       ("latency_cost", some (p .latencyImpactPenalty + f .latencyImpactPenalty)),
       ("volatility_penalty", some (p .volatilityPenalty + f .volatilityPenalty)),
       ("liquidity_penalty", some (p .liquidityPenalty + f .liquidityPenalty))] := by
  obtain ⟨hentry, -⟩ := entryCosts_of_complete hx.risk hx.costs
  unfold closureCosts
  rw [hentry]
  simp only [hreq .exitSpread (by decide), hreq .exitSlippage (by decide),
    hreq .exitFee (by decide), hreq .funding (by decide),
    hreq .latencyImpactPenalty (by decide), Option.bind_some, Option.map_some]
  rfl

/-- A ledger that has a total knew every required exit cost. -/
theorem required_known {entry : EntryCosts (Option ℚ)} {p : ExitCosts}
    {final : ExitCost → Option ℚ} (h : ∀ c ∈ closureCosts entry p final, unusableCost c = false) :
    ∀ key ∈ requiredExitCosts, final key = some ((final key).getD 0) := by
  have hsome : ∀ {o : Option ℚ}, o.isSome → o = some (o.getD 0) := by
    intro o ho
    cases o with
    | none => cases ho
    | some y => rfl
  have hmem := fun c hc => usable_isSome (h c hc)
  unfold closureCosts at hmem
  simp only [List.mem_cons, List.not_mem_nil, or_false, forall_eq_or_imp, forall_eq,
    Option.isSome_bind, Option.isSome_map] at hmem
  obtain ⟨h₁, -, h₂, h₃, h₄, h₅, -⟩ := hmem
  obtain ⟨_, -, h₁⟩ := (Option.any_eq_true _ _).mp h₁
  obtain ⟨_, -, h₃⟩ := (Option.any_eq_true _ _).mp h₃
  intro key hk
  unfold requiredExitCosts at hk
  simp only [List.mem_cons, List.not_mem_nil, or_false] at hk
  rcases hk with rfl | rfl | rfl | rfl | rfl
  · exact hsome h₁
  · exact hsome h₂
  · exact hsome h₃
  · exact hsome h₄
  · exact hsome h₅

/-- **The total of a closure**, where it has one: the entry costs exactly once, the exit costs of
    every partial exit, and those of the final slice. -/
theorem closing_total {c : ClosureCall} {r : Position} {partials : List Event} {k : Closing}
    {x : Entry} {total : ℚ} (hx : HasEntry r x)
    (h : closing c r (exitComponents partials) partials = .ok k)
    (htotal : k.ledger.totalCostUsd = some total) :
    total = x.costs.total + partialExitTotal partials
      + (finalExitCosts r x c.exitCosts).total := by
  obtain ⟨hl, -⟩ := closing_ok hx h
  rw [hl, total_eq_some_iff] at htotal
  obtain ⟨⟨-, husable, -⟩, rfl⟩ := htotal
  rw [closureCosts_eq hx (required_known husable)]
  unfold costSum partialExitTotal ExitCosts.total exitCostInputs EntryCosts.total
  simp only [List.map_cons, List.map_nil, List.sum_cons, List.sum_nil, Option.getD_some]
  ring

/-- **A closure with complete exit costs has a total.** -/
theorem closing_complete {c : ClosureCall} {r : Position} {partials : List Event} {k : Closing}
    {x : Entry} (hx : HasEntry r x) (hrem : 0 ≤ r.remainingQuantity.getD x.quantity.1)
    (hslices : ∀ e ∈ partials, IsSlice x e) (hc : CompleteExit c.exitCosts)
    (h : closing c r (exitComponents partials) partials = .ok k) :
    ∃ total, k.ledger.totalCostUsd = some total := by
  obtain ⟨hl, -⟩ := closing_ok hx h
  obtain ⟨-, e₁, e₂, e₃, -⟩ := entryCosts_of_complete hx.risk hx.costs
  have hp := fun key => exitComponents_nonneg hslices key
  have hf : ∀ key, key ≠ .funding → 0 ≤ finalExitCosts r x c.exitCosts key := by
    intro key hne
    by_cases hhas : c.exitCosts.has key.name = true
    · exact (exitValue_of_complete hx.risk hrem hc (Or.inr hhas)).2 hne
    · by_cases hk : key ∈ requiredExitCosts
      · exact (exitValue_of_complete hx.risk hrem hc (Or.inl hk)).2 hne
      · unfold finalExitCosts
        rw [exitValue_of_absent (by simpa using hhas)]
        exact le_rfl
  have hpf := fun key hne => add_nonneg (hp key) (hf key hne)
  have husable : ∀ entry ∈ closureCosts (entryCostsUsd r x.risk) (exitComponents partials)
      (exitValue r (x.closureNumbers r) x.risk c.exitCosts), unusableCost entry = false := by
    rw [closureCosts_eq hx fun key hk => (exitValue_of_complete hx.risk hrem hc (Or.inl hk)).1]
    intro entry he
    simp only [List.mem_cons, List.not_mem_nil, or_false] at he
    rcases he with rfl | rfl | rfl | rfl | rfl | rfl | rfl | rfl
    · simpa [unusableCost] using
        add_nonneg (add_nonneg e₁ (hp .exitSpread)) (hf .exitSpread (by decide))
    · simpa [unusableCost] using e₂
    · simpa [unusableCost] using hpf .exitSlippage (by decide)
    · simpa [unusableCost] using
        add_nonneg (add_nonneg e₃ (hp .exitFee)) (hf .exitFee (by decide))
    · simp [unusableCost]
    · simpa [unusableCost] using hpf .latencyImpactPenalty (by decide)
    · simpa [unusableCost] using hpf .volatilityPenalty (by decide)
    · simpa [unusableCost] using hpf .liquidityPenalty (by decide)
  rw [hl]
  exact ⟨_, total_eq_some_iff.mpr ⟨⟨closureMissing_of_complete hx hrem hc, husable, hx.risk⟩, rfl⟩⟩

/-! ## 4. Runs -/

section Runs

variable {hash : Request → String} {kw : OpenRequest} {x : Entry} {db₀ : Db}

/-- After every sequence of calls the trade still has its entry terms, every partial exit is a
    slice, and while OPEN the ledger holds. -/
theorem slices_run (hash : Request → String) (hopen : Opened kw db₀) (hx : HasEntry kw.row x)
    (calls : List Call) :
    ∃ v, (runCalls hash db₀ calls).trade kw.tradeId = some v ∧ HasEntry v.row x ∧
      (∀ e ∈ v.partials, IsSlice x e) ∧
      (v.row.status = .OPEN → OpenLedger x.quantity.1 v) := by
  have h₀ := managed_opened hopen hx.quantity x.quantity.2
  have hrow : kw.row.atEntry = kw.row := rfl
  induction calls using List.reverseRecOn with
  | nil =>
    obtain ⟨v, hv, hentry, hledger⟩ := h₀.trade
    obtain ⟨db, hev, rfl⟩ := opened_eq hopen
    refine ⟨v, hv, hasEntry_atEntry hx (hentry.trans hrow.symm), ?_, hledger⟩
    have hnil : v.events = [] := by
      rw [← (trade_eq_some.mp hv).2]
      exact hev
    unfold Trade.partials
    rw [hnil]
    exact fun e he => absurd he List.not_mem_nil
  | append_singleton calls call ih =>
    rw [runCalls_concat]
    obtain ⟨v, hv, hxv, hslices, hledger⟩ := ih
    have hb := bootstrapped_run hash h₀.bootstrapped calls
    obtain ⟨v', hv', hs⟩ := tradeStep_of_effect (callEffect_next hash hb call) hv
    exact ⟨v', hv', hasEntry_atEntry hxv (atEntry_step hs), slices_step hslices hxv hs,
      fun ho => openLedger_step (hledger (open_before hs ho)) hs ho⟩

/-- Once closed a trade stays what it is. -/
theorem closed_run {db : Db} (hb : db.Bootstrapped) {t : String} {v : Trade}
    (hv : db.trade t = some v) (hc : v.row.status = .CLOSED) (calls : List Call) :
    (runCalls hash db calls).trade t = some v := by
  induction calls using List.reverseRecOn with
  | nil => exact hv
  | append_singleton calls call ih =>
    rw [runCalls_concat]
    have he := callEffect_next hash (bootstrapped_run hash hb calls) call
    obtain ⟨v', hv', hs⟩ := tradeStep_of_effect he ih
    rw [hv', closed_step hs hc]

/-- The closure a call runs: the call itself, or the one inside a protective exit. -/
inductive Closes : Call → ClosureCall → Prop
  | direct (c : ClosureCall) : Closes (.close c) c
  | protective (a : ActionCall) (price : Positive) (costs : ExitCosts)
      (hact : a.normalizedAction = "PROTECTIVE_EXIT")
      (hp : positive (finiteNumber a.executionPrice) = some price)
      (hc : strictExitCostsUsd a.exitCosts = .ok costs) :
      Closes (.act a) (protectiveClosure a price.1 costs)

theorem protectiveChecks_ok {a : ActionCall} {ev : Evidence} {price : Positive}
    {costs : ExitCosts} (h : protectiveChecks a ev = .ok (price, costs)) :
    positive (finiteNumber a.executionPrice) = some price ∧
      strictExitCostsUsd a.exitCosts = .ok costs := by
  unfold protectiveChecks at h
  split at h
  · cases h
  · rename_i p hp
    split at h
    · cases h
    · cases hc : strictExitCostsUsd a.exitCosts with
      | error e => rw [hc] at h; cases h
      | ok c =>
        rw [hc] at h
        cases h
        exact ⟨hp, rfl⟩

/-- The costs a protective exit hands to its closure are complete. -/
theorem completeExit_usdMapping {p : Payload} {costs : ExitCosts}
    (h : strictExitCostsUsd p = .ok costs) : CompleteExit (usdMapping costs) := by
  intro key _
  have hget : (usdMapping costs).get key.name = .float (costs key) := by
    cases key <;> rfl
  exact ⟨costs key, by rw [hget]; rfl, Or.inl (strictExitCosts_ok h key)⟩

/-- Two rows that a closure accounts for alike. -/
structure SameAccount (r r' : Position) : Prop where
  entry : r.atEntry = r'.atEntry
  remaining : r.remainingQuantity = r'.remainingQuantity
  gross : r.realizedGrossPnl = r'.realizedGrossPnl
  cost : r.realizedExecutionCost = r'.realizedExecutionCost

theorem finalExitCosts_same {r r' : Position}
    (hrem : r.remainingQuantity = r'.remainingQuantity) (hentry : r.atEntry = r'.atEntry)
    (x : Entry) (exitCosts : Dict) :
    finalExitCosts r x exitCosts = finalExitCosts r' x exitCosts := by
  have hp : r.provenance = r'.provenance := (congrArg Position.provenance hentry :)
  unfold finalExitCosts exitValue exitScale Entry.closureNumbers
  rw [hrem, hp]

/-- The gross, the total and the final slice's cost of a closure that has a total. -/
theorem closing_slices {c : ClosureCall} {r : Position} {k : Closing} {v : Trade} {total : ℚ}
    (hx : HasEntry v.row x) (hledger : OpenLedger x.quantity.1 v) (hr : SameAccount r v.row)
    (hslices : ∀ e ∈ v.partials, IsSlice x e)
    (h : closing c r (exitComponents v.partials) v.partials = .ok k)
    (htotal : k.ledger.totalCostUsd = some total) :
    let remaining := x.quantity.1 - v.partialSum Event.requestedQuantity
    let final := (finalExitCosts v.row x c.exitCosts).total
    total = x.costs.total + partialExitTotal v.partials + final ∧
      total = v.partialSum Event.executionCost
        + (x.costs.total * (remaining / x.quantity.1) + final) ∧
      k.finalSliceCost = some (x.costs.total * (remaining / x.quantity.1) + final) := by
  have hq := x.quantity.2.ne'
  have hxr := hasEntry_atEntry hx hr.entry
  obtain ⟨-, hf⟩ := closing_ok hxr h
  have hsum := closing_total hxr h htotal
  rw [finalExitCosts_same hr.remaining hr.entry] at hsum
  have hpc : v.partialSum Event.executionCost = x.costs.total *
      (v.partialSum Event.requestedQuantity / x.quantity.1) + partialExitTotal v.partials :=
    partialCost_eq hslices
  have hsplit : total = v.partialSum Event.executionCost + (x.costs.total *
      ((x.quantity.1 - v.partialSum Event.requestedQuantity) / x.quantity.1)
        + (finalExitCosts v.row x c.exitCosts).total) := by
    rw [hsum, hpc]
    field_simp
    ring
  refine ⟨hsum, hsplit, ?_⟩
  rw [hf, htotal, Option.map_some, hr.cost, hledger.cost, hsplit, add_sub_cancel_left]

/-- The gross of a closure: what the partial exits recorded plus the final slice. -/
theorem closing_gross {quantity : ℚ} {c : ClosureCall} {r : Position} {k : Closing} {v : Trade}
    (hledger : OpenLedger quantity v) (hr : SameAccount r v.row)
    (h : closing c r (exitComponents v.partials) v.partials = .ok k) :
    ∃ fill, orElse r.simulatedFill r.plannedEntry = some fill ∧
      k.geometry.grossPnlUsd = v.partialSum Event.grossPnl + (c.exitPrice - fill)
        * (quantity - v.partialSum Event.requestedQuantity) * direction (sideOf r.side) := by
  obtain ⟨n, hn, hg, -⟩ := closing_inv h
  unfold closureNumbers at hn
  split at hn
  · rename_i fill q stop hfill hq hstop
    cases hn
    refine ⟨fill, hfill, ?_⟩
    rw [hg, hr.remaining, hledger.remaining]
    show r.realizedGrossPnl + _ = _
    rw [hr.gross, hledger.gross]
    rfl
  · cases hn

/-- What a call that closes a trade did to it. -/
theorem closes_of_step {call : Call} {v w : Trade} (h : TradeStep hash call v w)
    (ho : v.row.status = .OPEN) (hc : w.row.status = .CLOSED) :
    ∃ c r k, Closes call c ∧ SameAccount r v.row ∧
      closing c r (exitComponents v.partials) v.partials = .ok k ∧ w.row = r.close c k ∧
      w.partials = v.partials ∧
      ∀ a, call = .act a → ∃ e ∈ w.events, e.managementEventId = a.managementEventId ∧
        e.executionCost = k.finalSliceCost := by
  cases h with
  | same => exact absurd (ho.symm.trans hc) (by decide)
  | tighten => exact absurd (ho.symm.trans hc) (by decide)
  | trail => exact absurd (ho.symm.trans hc) (by decide)
  | reduce => exact absurd (ho.symm.trans hc) (by decide)
  | protect a hcall ev n price costs k run hR hact hchk hk =>
    obtain ⟨hp, hcosts⟩ := protectiveChecks_ok hchk
    subst hcall
    refine ⟨_, v.row.managed a.eventTime.text, k, .protective a price costs hact hp hcosts,
      ⟨rfl, rfl, rfl, rfl⟩, hk, rfl, ?_, ?_⟩
    · exact partials_record_other (isPartialExit_other hact (by decide))
    · rintro a' ha
      cases ha
      exact ⟨_, List.mem_append_right _ (List.mem_singleton_self _), rfl, rfl⟩
  | close c hcall k hopen hk =>
    subst hcall
    exact ⟨c, v.row, k, .direct c, ⟨rfl, rfl, rfl, rfl⟩, hk, rfl, rfl, fun a ha => by cases ha⟩

/-- The answer of a closure that closed the trade. -/
theorem reply_of_closure {c : ClosureCall} {reply : ClosureReply} {db db' : Db} {t : String}
    {v w : Trade} (hb : db.Bootstrapped)
    (hrun : (resolvePositionClosure c).run db = .ok (reply, db')) (hv : db.trade t = some v)
    (ho : v.row.status = .OPEN) (hw : db'.trade t = some w) (hc : w.row.status = .CLOSED) :
    ∃ k, reply = k.reply ∧ closing c v.row (exitComponents v.partials) v.partials = .ok k := by
  have hvw : db.trade t ≠ db'.trade t := by
    rw [hv, hw]
    rintro h
    cases h
    exact absurd (ho.symm.trans hc) (by decide)
  have hE := closureEffect_of_run hb hrun
  cases hE with
  | already r hr hclosed => exact absurd rfl hvw
  | closed r k hr hopen hk =>
    obtain ⟨hrow, hev⟩ := trade_eq_some.mp hv
    by_cases ht : t = c.tradeId
    · subst ht
      obtain rfl : r = v.row := Option.some.inj (hr.symm.trans hrow)
      have hpart : partialEvents db c.tradeId = v.partials := by
        unfold partialEvents Trade.partials
        rw [hev]
      unfold priorPartialExitComponents at hk
      rw [hpart] at hk
      exact ⟨k, rfl, hk⟩
    · refine absurd ?_ hvw
      rw [hv]
      exact (trade_eq_some.mpr ⟨(setPosition_ne db _ ht).trans hrow, hev⟩).symm

/-- **Conservation of gross and cost.** A position opened with complete cost evidence, closed by
    `call` with complete exit costs after any sequence of calls, whatever follows: the total gross
    is the gross of all slices; the total cost is the entry costs once plus the exit costs of all
    slices, and it is what the partial exits recorded plus what the final slice recorded. -/
theorem cost_conservation (hash : Request → String) (hopen : Opened kw db₀)
    (hx : HasEntry kw.row x) (earlier later : List Call) (call : Call) {v w : Trade}
    (hv : (runCalls hash db₀ earlier).trade kw.tradeId = some v) (ho : v.row.status = .OPEN)
    (hw : (runCalls hash db₀ (earlier ++ [call])).trade kw.tradeId = some w)
    (hclosed : w.row.status = .CLOSED)
    (hcomplete : ∀ c, call = .close c → CompleteExit c.exitCosts) :
    (runCalls hash db₀ (earlier ++ call :: later)).trade kw.tradeId = some w ∧
    ∃ c remaining finalExit finalCost, Closes call c ∧
      remaining = x.quantity.1 - w.partialSum Event.requestedQuantity ∧
      finalExit = (finalExitCosts v.row x c.exitCosts).total ∧
      (∀ e ∈ w.partials, IsSlice x e) ∧
      w.row.grossPnl = some (w.partialSum Event.grossPnl + x.gross c.exitPrice remaining) ∧
      w.row.totalExecutionCost =
        some (x.costs.total + partialExitTotal w.partials + finalExit) ∧
      w.row.totalExecutionCost = some (w.partialSum Event.executionCost + finalCost) ∧
      finalCost = x.costs.total * (remaining / x.quantity.1) + finalExit ∧
      (∀ reply db', call = .close c →
        (resolvePositionClosure c).run (runCalls hash db₀ earlier) = .ok (reply, db') →
        reply.finalSliceExecutionCost = some finalCost) ∧
      (∀ a, call = .act a → ∃ e ∈ w.events, e.managementEventId = a.managementEventId ∧
        e.executionCost = some finalCost) := by
  obtain ⟨v', hv', hxv, hslices, hledger⟩ := slices_run hash hopen hx earlier
  obtain rfl : v' = v := Option.some.inj (hv'.symm.trans hv)
  have h₀ := managed_opened hopen hx.quantity x.quantity.2
  have hb := bootstrapped_run hash h₀.bootstrapped earlier
  rw [runCalls_concat] at hw
  have he := callEffect_next hash hb call
  obtain ⟨w', hw', hs⟩ := tradeStep_of_effect he hv
  obtain rfl : w' = w := Option.some.inj (hw'.symm.trans hw)
  refine ⟨?_, ?_⟩
  · rw [runCalls_append]
    exact closed_run (bootstrapped_effect hb he) hw hclosed later
  · obtain ⟨c, r, k, hcl, hr, hk, hrow, hpart, hev⟩ := closes_of_step hs ho hclosed
    have hce : CompleteExit c.exitCosts := by
      cases hcl with
      | direct => exact hcomplete c rfl
      | protective a price costs hact hp hc => exact completeExit_usdMapping hc
    have hsum : ∀ column, w'.partialSum column = v'.partialSum column := fun column => by
      unfold Trade.partialSum
      rw [hpart]
    have hall := hledger ho
    have hleft : ∀ {r : Position}, SameAccount r v'.row →
        0 ≤ r.remainingQuantity.getD x.quantity.1 := by
      intro r hr
      rw [hr.remaining, hall.remaining]
      exact hall.left.le
    obtain ⟨total, ht⟩ := closing_complete (hasEntry_atEntry hxv hr.entry) (hleft hr) hslices hce hk
    obtain ⟨hsum', hsplit, hf⟩ := closing_slices hxv hall hr hslices hk ht
    refine ⟨c, _, _, _, hcl, rfl, rfl, ?_, ?_, ?_, ?_, rfl, ?_, ?_⟩
    · rw [hpart]
      exact hslices
    · obtain ⟨fill, hfill, hgross⟩ := closing_gross hall hr hk
      have hxr := hasEntry_atEntry hxv hr.entry
      obtain rfl : fill = x.fill := Option.some.inj (hfill.symm.trans hxr.fill)
      rw [hxr.side] at hgross
      rw [hrow, hsum, hsum]
      exact congrArg some hgross
    · rw [hrow, hpart]
      exact ht.trans (congrArg some hsum')
    · rw [hrow, hsum, hsum]
      exact ht.trans (congrArg some hsplit)
    · rintro reply db' rfl hrun
      have hnext : (Call.close c).next hash (runCalls hash db₀ earlier) = db' := by
        refine Prog.after_ok (a := .close reply) ?_
        show (Reply.close <$> resolvePositionClosure c).run _ = _
        rw [Prog.run_map, hrun]
        rfl
      rw [hnext] at hw
      obtain ⟨k', rfl, hk'⟩ := reply_of_closure hb hrun hv ho hw hclosed
      have hself : SameAccount v'.row v'.row := ⟨rfl, rfl, rfl, rfl⟩
      obtain ⟨total', ht'⟩ := closing_complete hxv (hleft hself) hslices hce hk'
      rw [hsum]
      exact (closing_slices hxv hall hself hslices hk' ht').2.2
    · intro a ha
      obtain ⟨e, hmem, hid, hcost⟩ := hev a ha
      exact ⟨e, hmem, hid, by rw [hcost, hf, hsum]⟩

end Runs

/-- The entry terms of the sample position. -/
def sampleEntry : Entry where
  fill := 100
  stop := 90
  quantity := ⟨2, by norm_num⟩
  side := "LONG"
  costs := ⟨1, 0, 1⟩

theorem sample_hasEntry : HasEntry sampleRequest.row sampleEntry where
  fill := by decide +kernel
  stop := rfl
  quantity := rfl
  side := by decide
  costs := by decide +kernel
  risk := by decide +kernel

/-- The rest of the sample position sold at its target. -/
def sampleClosure : ClosureCall where
  tradeId := "T1"
  exitTime := ⟨"2026-01-01T02:00:00+00:00", some ⟨some 0, 7200000000⟩⟩
  exitPrice := 120
  exitReason := "TARGET"
  exitCosts := sampleExitCosts
  mfe := .none
  mae := .none
  ambiguous := false
  now := "2026-01-01T02:00:01+00:00"

theorem cost_conservation_sample :
    ∃ w, (runCalls sampleHash sampleDb [.act samplePartialExit, .close sampleClosure]).trade "T1"
        = some w ∧
      w.row.totalExecutionCost = some (w.partialSum Event.executionCost +
        (2 * (1 / 2) + 7 / 2)) := by
  have hopen : ((runCalls sampleHash sampleDb [.act samplePartialExit]).trade "T1").map
      (fun v => (v.row.status, v.partialSum Event.requestedQuantity)) = some (.OPEN, 1) := by
    decide +kernel
  have hclosed : ((runCalls sampleHash sampleDb
      ([.act samplePartialExit] ++ [.close sampleClosure])).trade "T1").map
      (fun v => (v.row.status, v.partialSum Event.requestedQuantity)) = some (.CLOSED, 1) := by
    decide +kernel
  obtain ⟨v, hv, hvo⟩ := Option.map_eq_some_iff.mp hopen
  obtain ⟨w, hw, hwc⟩ := Option.map_eq_some_iff.mp hclosed
  obtain ⟨ho, -⟩ := Prod.mk.inj hvo
  obtain ⟨hc, hsum⟩ := Prod.mk.inj hwc
  have hcomplete : ∀ c, Call.close sampleClosure = .close c → CompleteExit c.exitCosts := by
    rintro c ⟨⟩ key -
    exact ⟨1 / 2, by cases key <;> decide +kernel, Or.inl (by norm_num)⟩
  obtain ⟨-, c, remaining, finalExit, finalCost, hcl, hrem, hexit, -, -, -, htotal, hcost, -⟩ :=
    cost_conservation sampleHash sample_opened sample_hasEntry [.act samplePartialExit] []
      (.close sampleClosure) hv ho hw hc hcomplete
  refine ⟨w, hw, ?_⟩
  cases hcl
  have hunit : explicitUsd sampleClosure.exitCosts = true := by decide
  have hraw : ∀ key : ExitCost,
      finiteNumber (sampleClosure.exitCosts.get key.name) = some (1 / 2) := by
    intro key
    cases key <;> decide +kernel
  have hfinal : finalExit = 7 / 2 := by
    rw [hexit]
    norm_num [ExitCosts.total, exitCostInputs, finalExitCosts, exitValue, exitScale, hraw, hunit]
  rw [htotal, hcost, hrem, hfinal, hsum]
  norm_num [sampleEntry, EntryCosts.total]

end AlphaForge.Positions
