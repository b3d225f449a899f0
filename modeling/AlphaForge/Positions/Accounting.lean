/-
  File:      AlphaForge/Positions/Accounting.lean
  Subject:   `realized_accounting.py`: the cash identities of a closed position, in exact
             arithmetic.

  * `positionCashGeometry` -- initial risk, gross of the final slice, total gross.
  * `realizedCashLedger` -- the total cost exists exactly when nothing is missing; then it is the
    sum of all components (`total_eq_some_iff`) and the net is the gross minus it.
-/
import AlphaForge.Lib.PyValues
import Mathlib.Algebra.BigOperators.Group.List.Basic

namespace AlphaForge.Positions

open AlphaForge.Lib

/-- What `position_cash_geometry` answers. -/
structure CashGeometry where
  initialRiskUsd : ℚ
  grossPnlUsd : ℚ
  grossR : Option ℚ
  finalSliceGross : ℚ
  deriving DecidableEq, Repr

/-- `-1 if side == "SHORT" else 1`. -/
def direction (side : String) : ℚ := if side = "SHORT" then -1 else 1

/-- `position_cash_geometry`. -/
def positionCashGeometry (fill stop quantity exitPrice : ℚ) (side : String)
    (remainingQuantity : Option ℚ) (previousGross : ℚ) : CashGeometry :=
  let remaining := remainingQuantity.getD quantity
  let risk := |fill - stop| * quantity
  let finalGross := (exitPrice - fill) * remaining * direction side
  let gross := previousGross + finalGross
  { initialRiskUsd := risk
    grossPnlUsd := gross
    grossR := if 0 < risk then some (gross / risk) else none
    finalSliceGross := finalGross }

/-- What `realized_cash_ledger` answers. -/
structure CashLedger where
  totalCostUsd : Option ℚ
  netPnlUsd : Option ℚ
  netR : Option ℚ
  missingFields : List String
  deriving DecidableEq, Repr

/-- A component that cannot be summed: absent, or negative where only funding may be. -/
def unusableCost (entry : String × Option ℚ) : Bool :=
  match entry.2 with
  | none => true
  | some cash => cash < 0 && entry.1 != "funding_cost"

theorem usable_isSome {c : String × Option ℚ} (h : unusableCost c = false) : c.2.isSome := by
  obtain ⟨name, value⟩ := c
  cases value with
  | none => cases h
  | some x => rfl

/-- The fields `realized_cash_ledger` adds to the missing ones. -/
def absentFields (initialRisk : ℚ) (costs : List (String × Option ℚ)) (missing : List String) :
    List String :=
  missing ++ (costs.filter unusableCost).map Prod.fst
    ++ if initialRisk ≤ 0 then ["risk_usd"] else []

/-- `realized_cash_ledger`. -/
def realizedCashLedger (grossPnl initialRisk : ℚ) (costs : List (String × Option ℚ))
    (missing : List String) : CashLedger :=
  let absent := absentFields initialRisk costs missing
  let parsed := (costs.filter fun c => !unusableCost c).filterMap Prod.snd
  let total := if absent = [] then some parsed.sum else none
  let net := total.map fun t => grossPnl - t
  { totalCostUsd := total
    netPnlUsd := net
    netR := net.map (· / initialRisk)
    missingFields := sortedSet absent }

theorem absentFields_eq_nil {risk : ℚ} {costs : List (String × Option ℚ)}
    {missing : List String} :
    absentFields risk costs missing = [] ↔
      missing = [] ∧ (∀ c ∈ costs, unusableCost c = false) ∧ 0 < risk := by
  have hr : (if risk ≤ 0 then ["risk_usd"] else []) = [] ↔ 0 < risk := by
    split
    · rename_i h
      simpa using h
    · rename_i h
      simpa using h
  unfold absentFields
  simp only [List.append_eq_nil_iff, List.map_eq_nil_iff, List.filter_eq_nil_iff,
    Bool.not_eq_true, hr, and_assoc]

/-- The sum of all components, the absent ones counted as zero. -/
def costSum (costs : List (String × Option ℚ)) : ℚ := (costs.map fun c => c.2.getD 0).sum

theorem sum_usable {costs : List (String × Option ℚ)} (h : ∀ c ∈ costs, unusableCost c = false) :
    ((costs.filter fun c => !unusableCost c).filterMap Prod.snd).sum = costSum costs := by
  rw [List.filter_eq_self.mpr fun c hx => by simp [h c hx]]
  unfold costSum
  induction costs with
  | nil => rfl
  | cons c rest ih =>
    have hrest := ih fun d hd => h d (List.mem_cons_of_mem _ hd)
    obtain ⟨name, value⟩ := c
    cases value with
    | none => exact absurd (h _ List.mem_cons_self) (by simp [unusableCost])
    | some x => simp [hrest]

/-- **A total is recorded exactly when no evidence is missing, and it is the sum of all
    components.** -/
theorem total_eq_some_iff {gross risk total : ℚ} {costs : List (String × Option ℚ)}
    {missing : List String} :
    (realizedCashLedger gross risk costs missing).totalCostUsd = some total ↔
      (missing = [] ∧ (∀ c ∈ costs, unusableCost c = false) ∧ 0 < risk) ∧
        total = costSum costs := by
  rw [← absentFields_eq_nil]
  unfold realizedCashLedger
  simp only
  split
  · rename_i h
    rw [sum_usable (absentFields_eq_nil.mp h).2.1, Option.some.injEq]
    exact ⟨fun e => ⟨h, e.symm⟩, fun e => e.2.symm⟩
  · rename_i h
    simp [h]

end AlphaForge.Positions
