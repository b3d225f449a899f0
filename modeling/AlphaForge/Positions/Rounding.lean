/-
  File:      AlphaForge/Positions/Rounding.lean
  Subject:   The arithmetic of a partial exit and of the closing slice (`burnin_resolver.py`) over
             any numbers, and what binary64 makes of it.

  The other modules of this directory compute with exact numbers. The code computes with binary64
  numbers, and every difference, product and sum of them is rounded.

  * `OpenRow.slice`, `OpenRow.exit`, `OpenRow.closingCost` -- what the two functions compute and
    write.
  * `partialSlice_exact`, `reduce_exact`, `closingCost_exact` -- on exact numbers they are the
    functions of `Positions/Management.lean`.
  * **`quantities_round`** -- three exits of 0.3 from a quantity of 1.0: what is left and what was
    sold do not add up to it.
  * **`costs_round`** -- the costs of the two slices of a position do not add up to its total.
-/
import AlphaForge.Lib.Numbers
import AlphaForge.Positions.Conservation
import Mathlib

namespace AlphaForge.Positions

open AlphaForge.Lib
open AlphaForge.Candles (sideOf)

/-! ## 1. The arithmetic -/

section Arithmetic

variable {F : Type} [FloatNum F]

/-- `sum(values)`, added from left to right. -/
def leftSum (xs : List F) : F := xs.foldl (· + ·) (FloatNum.ofInt 0)

/-- The numbers of an OPEN row that a partial exit and a closure compute with. -/
structure OpenRow (F : Type) where
  fill : F
  quantity : F
  notional : F
  side : String
  /-- `_entry_costs_usd`. -/
  entryCosts : EntryCosts F
  remainingQuantity : F
  realizedGrossPnl : F
  realizedExecutionCost : F
  realizedNetPnl : F

/-- What PARTIAL_EXIT computes. -/
structure ExitSlice (F : Type) where
  qty : F
  gross : F
  entryAllocation : EntryCosts F
  executionCost : F
  net : F
  newRemaining : F
  remainingNotional : F

/-- `-1.0 if side == "SHORT" else 1.0`. -/
def signOf (side : String) : F := FloatNum.ofInt (if side = "SHORT" then -1 else 1)

/-- The computation of PARTIAL_EXIT; nothing where the exit leaves no remainder. -/
def OpenRow.slice (row : OpenRow F) (qty price : F) (exitCosts : ExitCost → F) :
    Option (ExitSlice F) :=
  if row.remainingQuantity - 1e-12 ≤ qty then none
  else
    let gross := (price - row.fill) * qty * signOf row.side
    let fraction := qty / row.quantity
    let allocation : EntryCosts F :=
      ⟨row.entryCosts.spreadCost * fraction, row.entryCosts.entrySlippageCost * fraction,
        row.entryCosts.feeCost * fraction⟩
    let cost := leftSum [allocation.spreadCost, allocation.entrySlippageCost, allocation.feeCost] +
      leftSum (exitCostInputs.map exitCosts)
    let remaining := row.remainingQuantity - qty
    some ⟨qty, gross, allocation, cost, gross - cost, remaining,
      row.notional * remaining / row.quantity⟩

/-- The UPDATE of PARTIAL_EXIT. -/
def OpenRow.exit (row : OpenRow F) (s : ExitSlice F) : OpenRow F :=
  { row with
    remainingQuantity := s.newRemaining
    realizedGrossPnl := row.realizedGrossPnl + s.gross
    realizedExecutionCost := row.realizedExecutionCost + s.executionCost
    realizedNetPnl := row.realizedNetPnl + s.net }

/-- Several exits at one price without exit costs; nothing where one of them is refused. -/
def OpenRow.exits (row : OpenRow F) (price : F) : List F → Option (OpenRow F × List (ExitSlice F))
  | [] => some (row, [])
  | qty :: rest => do
    let s ← row.slice qty price fun _ => FloatNum.ofInt 0
    let (last, slices) ← (row.exit s).exits price rest
    return (last, s :: slices)

/-- `total_cost_usd` of a closure with complete evidence: the sum of `costs_usd`. -/
def OpenRow.closingCost (row : OpenRow F) (earlier final : ExitCost → F) : F :=
  leftSum
    [row.entryCosts.spreadCost + earlier .exitSpread + final .exitSpread,
      row.entryCosts.entrySlippageCost,
      earlier .exitSlippage + final .exitSlippage,
      row.entryCosts.feeCost + earlier .exitFee + final .exitFee,
      earlier .funding + final .funding,
      earlier .latencyImpactPenalty + final .latencyImpactPenalty,
      earlier .volatilityPenalty + final .volatilityPenalty,
      earlier .liquidityPenalty + final .liquidityPenalty]

/-- `final_slice_cost`. -/
def OpenRow.finalSliceCost (row : OpenRow F) (earlier final : ExitCost → F) : F :=
  row.closingCost earlier final - row.realizedExecutionCost

end Arithmetic

/-! ## 2. Exact numbers -/

theorem leftSum_exact (xs : List ℚ) : leftSum xs = xs.sum := by
  unfold leftSum
  rw [List.sum_eq_foldl]
  rfl

theorem signOf_exact (side : String) : (signOf side : ℚ) = direction side := by
  unfold signOf direction
  split <;> rfl

/-- The numbers of a row whose entry costs are complete. -/
def Position.openRow (r : Position) (n : RowNumbers) (entryCosts : EntryCosts ℚ) : OpenRow ℚ where
  fill := n.fill.1
  quantity := n.originalQty.1
  notional := n.initialNotional.1
  side := sideOf r.side
  entryCosts := entryCosts
  remainingQuantity := n.remainingQty.1
  realizedGrossPnl := r.realizedGrossPnl
  realizedExecutionCost := r.realizedExecutionCost
  realizedNetPnl := r.realizedNetPnl

/-- On exact numbers this is the computation of the management action. -/
theorem partialSlice_exact {r : Position} {a : ActionCall} {n : RowNumbers} {s : Slice}
    (h : partialSlice r a n = .ok s) :
    ∃ entryCosts, (entryCostsUsd r n.riskUsd.1).complete? = some entryCosts ∧
      (r.openRow n entryCosts).slice s.qty.1 s.price.1 s.exitCosts =
        some ⟨s.qty.1, s.gross, s.entryAllocation, s.executionCost, s.net, s.newRemaining,
          s.remainingNotional⟩ := by
  unfold partialSlice at h
  split at h
  · rename_i qty price hqty hprice
    split at h
    · cases h
    · rename_i hleft
      obtain ⟨costs, hcosts, h⟩ := ok_of_bind h
      split at h
      · cases h
      · rename_i entryCosts hentry
        cases h
        refine ⟨entryCosts, hentry, ?_⟩
        have hguard : ¬ n.remainingQty.1 - (1e-12 : ℚ) ≤ qty.1 := by
          have heq : (1e-12 : ℚ) = 1 / 10 ^ 12 := by norm_num
          rw [heq]
          exact hleft
        unfold OpenRow.slice Position.openRow
        refine (if_neg hguard).trans ?_
        simp only [leftSum_exact, signOf_exact, Slice.net, EntryCosts.total, EntryCosts.scale,
          ExitCosts.total, List.sum_cons, List.sum_nil, add_zero, ← add_assoc]
  · cases h

/-- And so is what the UPDATE writes. -/
theorem reduce_exact {r : Position} {n : RowNumbers} {s : Slice} {entryCosts : EntryCosts ℚ}
    {e : ExitSlice ℚ} (hremaining : e.newRemaining = s.newRemaining) (hgross : e.gross = s.gross)
    (hcost : e.executionCost = s.executionCost) (hnet : e.net = s.net) (eventTime : String) :
    some ((r.openRow n entryCosts).exit e).remainingQuantity =
        (r.reduce s eventTime).remainingQuantity ∧
      ((r.openRow n entryCosts).exit e).realizedGrossPnl = (r.reduce s eventTime).realizedGrossPnl ∧
      ((r.openRow n entryCosts).exit e).realizedExecutionCost =
        (r.reduce s eventTime).realizedExecutionCost ∧
      ((r.openRow n entryCosts).exit e).realizedNetPnl = (r.reduce s eventTime).realizedNetPnl := by
  unfold OpenRow.exit Position.openRow Position.reduce
  exact ⟨congrArg some hremaining, congrArg (r.realizedGrossPnl + ·) hgross,
    congrArg (r.realizedExecutionCost + ·) hcost, congrArg (r.realizedNetPnl + ·) hnet⟩

/-- The total of a closure with complete evidence. -/
theorem closingCost_exact (row : OpenRow ℚ) (earlier final : ExitCosts) :
    row.closingCost earlier final =
      costSum (closureCosts ⟨some row.entryCosts.spreadCost, some row.entryCosts.entrySlippageCost,
        some row.entryCosts.feeCost⟩ earlier fun key => some (final key)) := by
  unfold OpenRow.closingCost costSum closureCosts
  rw [leftSum_exact]
  rfl

/-! ## 3. Binary64 -/

/-- One unit at 100, without entry costs but for a fee of 0.3. -/
def roundedRow : OpenRow Float where
  fill := 100
  quantity := 1
  notional := 100
  side := "LONG"
  entryCosts := ⟨0, 0, 0.3⟩
  remainingQuantity := 1
  realizedGrossPnl := 0
  realizedExecutionCost := 0
  realizedNetPnl := 0

/-- **Three exits of 0.3 leave 0.09999999999999998**: with the quantities of the events it is not
    the quantity, whether their sum is rounded or not. -/
theorem quantities_round :
    ∃ row slices, roundedRow.exits 110 [0.3, 0.3, 0.3] = some (row, slices) ∧
      FloatNum.feq (row.remainingQuantity + leftSum (slices.map ExitSlice.qty)) row.quantity =
        false ∧
      FloatNum.value row.quantity = some (((1 : ℚ) : WithTop ℚ) : ExtRat) ∧
      FloatNum.value row.remainingQuantity =
        some (((900719925474099 / 9007199254740992 : ℚ) : WithTop ℚ) : ExtRat) ∧
      (∀ s ∈ slices, FloatNum.value s.qty =
        some (((5404319552844595 / 18014398509481984 : ℚ) : WithTop ℚ) : ExtRat)) ∧
      (900719925474099 / 9007199254740992 + 3 * (5404319552844595 / 18014398509481984) : ℚ) ≠
        1 := by
  have hsome : (roundedRow.exits 110 [0.3, 0.3, 0.3]).isSome = true := by decide +kernel
  obtain ⟨⟨row, slices⟩, h⟩ := Option.isSome_iff_exists.mp hsome
  have hall : (roundedRow.exits 110 [0.3, 0.3, 0.3]).any (fun result =>
      !FloatNum.feq (result.1.remainingQuantity + leftSum (result.2.map ExitSlice.qty))
        result.1.quantity &&
      decide (FloatNum.value result.1.quantity = some (((1 : ℚ) : WithTop ℚ) : ExtRat)) &&
      decide (FloatNum.value result.1.remainingQuantity =
        some (((900719925474099 / 9007199254740992 : ℚ) : WithTop ℚ) : ExtRat)) &&
      decide (∀ s ∈ result.2, FloatNum.value s.qty =
        some (((5404319552844595 / 18014398509481984 : ℚ) : WithTop ℚ) : ExtRat))) = true := by
    decide +kernel
  rw [h] at hall
  simp only [Option.any_some, Bool.and_eq_true, Bool.not_eq_true', decide_eq_true_eq] at hall
  obtain ⟨⟨⟨hsum, hone⟩, hleft⟩, hsold⟩ := hall
  exact ⟨row, slices, h, hsum, hone, hleft, hsold, by norm_num⟩

/-- **An exit of 0.1 and the closing slice cost 0.03 and 0.27**, which is not the 0.3 that the
    position was charged. -/
theorem costs_round :
    ∃ row slices, roundedRow.exits 110 [0.1] = some (row, slices) ∧
      FloatNum.feq (row.closingCost (fun _ => 0) fun _ => 0) 0.3 = true ∧
      FloatNum.feq (leftSum (slices.map ExitSlice.executionCost) +
        row.finalSliceCost (fun _ => 0) fun _ => 0) (row.closingCost (fun _ => 0) fun _ => 0) =
          false := by
  have hsome : (roundedRow.exits 110 [0.1]).isSome = true := by decide +kernel
  obtain ⟨⟨row, slices⟩, h⟩ := Option.isSome_iff_exists.mp hsome
  have hall : (roundedRow.exits 110 [0.1]).any (fun result =>
      FloatNum.feq (result.1.closingCost (fun _ => 0) fun _ => 0) 0.3 &&
      !FloatNum.feq (leftSum (result.2.map ExitSlice.executionCost) +
        result.1.finalSliceCost (fun _ => 0) fun _ => 0)
        (result.1.closingCost (fun _ => 0) fun _ => 0)) = true := by
    decide +kernel
  rw [h] at hall
  simp only [Option.any_some, Bool.and_eq_true, Bool.not_eq_true'] at hall
  exact ⟨row, slices, h, hall.1, hall.2⟩

end AlphaForge.Positions
