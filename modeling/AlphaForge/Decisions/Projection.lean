/-
  File:      AlphaForge/Decisions/Projection.lean
  Subject:   The two steps that bring a candidate down to its allocation:
             `_project_precomputed_portfolio_allocation` (`order.py`), and the sizing of
             `_process_symbol` (`runtime.py`) with `scale_candidate_exposure`
             (`portfolio_risk.py`).

  A size stands under many keys of a context. Either step takes the smaller of what is asked for
  and what is allocated, and writes it under every key; the quantity and the risk follow. The order
  path runs its step again on a context that has been through it.

  * `projectPrecomputedPortfolioAllocation`, `sizeCandidate` -- the two steps.
  * `Sized` -- a context that stands at an executed notional: within what is allocated and asked
    for, the same under every key, the quantity and the risk scaled with it.
  * `stable_of_sized` -- such a context is left as it is by the projection.
  * `sized_resized`, `sized_runtime` -- what either step makes of numbers it can use.
  * **`projected_iff`** -- the sizes that go on are those of the allocation exactly where it is no
    NaN; in the order path, exactly where what is asked for is none either, one of the two is
    finite and the quantity is found.
  * `nan_allocation` -- an allocation of NaN lets everything through.

  A key is missing, `None` or a number. The numbers are those of any format that rounds correctly.
-/
import AlphaForge.Decisions.RewardRisk
import AlphaForge.Lib.Rounded

namespace AlphaForge.Projection

open AlphaForge.Lib
open AlphaForge.Decisions (textOr)

variable {F : Type} [FloatNum F]

/-! ## 1. Contexts -/

/-- What stands under a key: `none` where the key is missing, `some none` for `None`. -/
abbrev Entry (F : Type) := Option (Option F)

/-- `portfolio_allocation`; the codes of the allocator are names. -/
structure Allocation (F : Type) where
  action : Option String
  reasonCodes : List String := []
  named : ∀ code ∈ reasonCodes, code ≠ "" := by simp
  requestedNotional : Option F := none
  allocatedNotional : Option F
  allocatedRisk : Option F := none

def Allocation.state (a : Allocation F) : String := upper (textOr a.action "REJECT")

def Allocation.granted (a : Allocation F) : Bool := a.state ∈ ["APPROVE", "REDUCE_SIZE"]

/-- `reasons[0] if reasons else "NO_PORTFOLIO_CAPACITY"`. -/
def Allocation.reason (a : Allocation F) : String := a.reasonCodes.headD "NO_PORTFOLIO_CAPACITY"

/-- The keys of `market_ctx` that the two steps read or write. -/
structure MarketCtx (F : Type) where
  allocation : Option (Allocation F) := none
  entry : Entry F := none
  notional : Entry F := none
  notionalUsdt : Entry F := none
  orderNotional : Entry F := none
  effectiveNotional : Entry F := none
  quantity : Entry F := none
  qty : Entry F := none
  effectiveQuantity : Entry F := none
  riskScale : Entry F := none
  stopTooWideSoftened : Bool := false
  allocationAction : Option String := none
  allocationScale : Entry F := none
  allocationRequestedNotional : Entry F := none
  allocatedNotional : Entry F := none
  allocatedRisk : Entry F := none

/-! ## 2. The order path -/

/-- `projected.get("quantity", projected.get("qty"))`. -/
def readQuantity (ctx : MarketCtx F) : Option F := ctx.quantity.getD ctx.qty.join

/-- `original`: the first size there is, else the entry times the quantity. -/
def requestedNotional (ctx : MarketCtx F) : Option F :=
  match [ctx.notional, ctx.notionalUsdt, ctx.orderNotional, ctx.effectiveNotional].findSome?
    Option.join with
  | some x => some x
  | none => do
    let entry ← ctx.entry.join
    let quantity ← readQuantity ctx
    return FloatNum.abs (entry * quantity)

/-- What the projection writes. -/
def resized (ctx : MarketCtx F) (a : Allocation F) (allocated original : F) : MarketCtx F :=
  let downstream := pyMin original allocated
  let scale := downstream / original
  let sized := { ctx with
    allocationAction := some a.state
    allocationScale := some (some scale)
    allocationRequestedNotional := some a.requestedNotional
    allocatedNotional := some (some downstream)
    allocatedRisk := some (a.allocatedRisk.map (· * (downstream / allocated)))
    notional := some (some downstream)
    effectiveNotional := some (some downstream)
    notionalUsdt := ctx.notionalUsdt.map fun _ => some downstream
    orderNotional := ctx.orderNotional.map fun _ => some downstream }
  match readQuantity ctx with
  | none => sized
  | some quantity => { sized with
    quantity := some (some (quantity * scale))
    qty := some (some (quantity * scale))
    effectiveQuantity := ctx.effectiveQuantity.map fun _ => some (quantity * scale) }

/-- `_project_precomputed_portfolio_allocation`: the context, and the reason of a rejection. -/
def projectPrecomputedPortfolioAllocation (ctx : MarketCtx F) : MarketCtx F × String :=
  match ctx.allocation with
  | none => (ctx, "")
  | some a =>
    if !a.granted then (ctx, a.reason)
    else match a.allocatedNotional with
      | none => (ctx, "PORTFOLIO_ALLOCATION_INVALID")
      | some allocated =>
        if allocated ≤ FloatNum.ofInt 0 then (ctx, "PORTFOLIO_ALLOCATION_INVALID")
        else match requestedNotional ctx with
          | none => (ctx, "PORTFOLIO_ALLOCATION_SIZE_UNAVAILABLE")
          | some original =>
            if original ≤ FloatNum.ofInt 0 then (ctx, "PORTFOLIO_ALLOCATION_SIZE_UNAVAILABLE")
            else (resized ctx a allocated original, "")

/-! ## 3. The runtime -/

/-- A complete projection of `scale_candidate_exposure`. -/
structure SizingProjection (F : Type) where
  riskScale : F
  effectiveNotional : F
  effectiveQuantity : Option F

/-- `raw_scale`; `none` where it is required and missing. -/
def rawScale (riskScale : Option F) (requireScale : Bool) : Option F :=
  match riskScale with
  | some scale => some scale
  | none => if requireScale then none else some (FloatNum.ofInt 1)

/-- `scale_candidate_exposure`. -/
def scaleCandidateExposure (originalNotional riskScale originalQuantity : Option F)
    (requireScale : Bool) : Except String (SizingProjection F) :=
  match originalNotional.filter fun x => FloatNum.isFinite x && !decide (x ≤ FloatNum.ofInt 0) with
  | none => .error "INVALID_ORIGINAL_NOTIONAL"
  | some notional =>
    match (rawScale riskScale requireScale).filter fun x => FloatNum.isFinite x &&
        !decide (x < FloatNum.ofInt 0) && !decide (FloatNum.ofInt 1 < x) with
    | none => .error "INVALID_RISK_SCALE"
    | some scale =>
      match originalQuantity with
      | none => .ok ⟨scale, notional * scale, none⟩
      | some quantity =>
        if FloatNum.isFinite quantity && !decide (quantity ≤ FloatNum.ofInt 0) then
          .ok ⟨scale, notional * scale, some (quantity * scale)⟩
        else .error "INVALID_ORIGINAL_QUANTITY"

/-- Why a candidate does not go on. -/
inductive Refusal where
  | sizing (reason : String)
  | allocation (reason : String)
  | zeroDivision
  deriving DecidableEq, Repr

/-- The projection that a candidate of the runtime starts with. -/
def startProjection (candidateNotional : Option F) (ctx : MarketCtx F) :
    Except String (SizingProjection F) :=
  scaleCandidateExposure candidateNotional ctx.riskScale.join
    ([ctx.quantity, ctx.qty].findSome? Option.join) ctx.stopTooWideSoftened

/-- The writes behind the allocation. -/
def withSizes (ctx : MarketCtx F) (notional : F) (quantity : Option F) : MarketCtx F :=
  let sized := { ctx with
    effectiveNotional := some (some notional)
    effectiveQuantity := some quantity
    notional := some (some notional)
    notionalUsdt := ctx.notionalUsdt.map fun _ => some notional
    orderNotional := ctx.orderNotional.map fun _ => some notional }
  match quantity with
  | none => sized
  | some q => { sized with quantity := some (some q), qty := some (some q) }

/-- What the allocation writes. -/
def allocatedCtx (ctx : MarketCtx F) (a : Allocation F) (cap : F) (p : SizingProjection F) :
    MarketCtx F :=
  let downstream := pyMin p.effectiveNotional cap
  let scale := downstream / p.effectiveNotional
  withSizes { ctx with
    riskScale := some (some p.riskScale)
    allocationAction := some a.state
    allocationScale := some (some scale)
    allocationRequestedNotional := some a.requestedNotional
    allocatedNotional := some (some downstream)
    allocatedRisk := some (a.allocatedRisk.map (· * (downstream / cap))) }
    downstream (p.effectiveQuantity.map (· * scale))

/-- The sizing of `_process_symbol`, from `sizing_projection` to the snapshot of the portfolio. -/
def sizeCandidate (candidateNotional : Option F) (ctx : MarketCtx F) :
    Except Refusal (MarketCtx F) :=
  match startProjection candidateNotional ctx with
  | .error reason => .error (.sizing reason)
  | .ok p =>
    match ctx.allocation with
    | none => .ok (withSizes { ctx with riskScale := some (some p.riskScale) } p.effectiveNotional
        p.effectiveQuantity)
    | some a =>
      if !a.granted then .error (.allocation a.reason)
      else match a.allocatedNotional with
        | none => .error (.allocation "PORTFOLIO_ALLOCATION_INVALID")
        | some cap =>
          if cap ≤ FloatNum.ofInt 0 then .error (.allocation "PORTFOLIO_ALLOCATION_INVALID")
          else if FloatNum.feq p.effectiveNotional (FloatNum.ofInt 0) then .error .zeroDivision
          else .ok (allocatedCtx ctx a cap p)

/-! ## 4. What is promised of the sizes -/

/-- The quantity a context asks for, under whichever key it stands. -/
def askedQuantity (ctx : MarketCtx F) : Option F :=
  [ctx.quantity, ctx.qty, ctx.effectiveQuantity].findSome? Option.join

/-- The context stands at the executed notional `x`. -/
structure Sized (a : Allocation F) (allocated original : F) (asked : Option F) (ctx : MarketCtx F)
    (x : F) : Prop where
  finite : FloatNum.isFinite x = true
  pos : FloatNum.ofInt 0 < x
  le_allocated : x ≤ allocated
  le_original : x ≤ original
  notional : ctx.notional = some (some x)
  effective : ctx.effectiveNotional = some (some x)
  allotted : ctx.allocatedNotional = some (some x)
  aliases : ∀ e ∈ [ctx.notionalUsdt, ctx.orderNotional], ∀ v ∈ e, v = some x
  quantities : ∀ q ∈ asked, ctx.quantity = some (some (q * (x / original))) ∧
    ctx.qty = some (some (q * (x / original))) ∧
    ∀ v ∈ ctx.effectiveQuantity, v = some (q * (x / original))
  risk : ctx.allocatedRisk = some (a.allocatedRisk.map (· * (x / allocated)))

/-- The sizes of one context are those of another, which may hold an effective quantity more. -/
structure SameSizes (ctx other : MarketCtx F) : Prop where
  notional : ctx.notional = other.notional
  notionalUsdt : ctx.notionalUsdt = other.notionalUsdt
  orderNotional : ctx.orderNotional = other.orderNotional
  effectiveNotional : ctx.effectiveNotional = other.effectiveNotional
  allocatedNotional : ctx.allocatedNotional = other.allocatedNotional
  allocatedRisk : ctx.allocatedRisk = other.allocatedRisk
  quantity : ctx.quantity = other.quantity
  qty : ctx.qty = other.qty
  effectiveQuantity : ∀ v ∈ ctx.effectiveQuantity, other.effectiveQuantity = some v

/-- Another projection changes no size. -/
def Stable (ctx : MarketCtx F) : Prop :=
  ∃ again, projectPrecomputedPortfolioAllocation ctx = (again, "") ∧ SameSizes again ctx

/-- What is promised of the projection of the order path: the sizes, that they stay, and that the
    runtime computes the same ones where it does not scale the risk. -/
def KeptByOrder (a : Allocation F) (ctx ctx' : MarketCtx F) : Prop :=
  (∃ allocated original x, a.allocatedNotional = some allocated ∧
    requestedNotional ctx = some original ∧
    Sized a allocated original (askedQuantity ctx) ctx' x) ∧
  Stable ctx' ∧
  ((∀ scale ∈ ctx.riskScale.join, scale = FloatNum.ofInt 1) →
    ∀ other, sizeCandidate (requestedNotional ctx) ctx = .ok other → SameSizes ctx' other)

/-- What is promised of the runtime: the sizes, within those in front of the risk scale too, and
    that the order path leaves them. -/
def KeptByRuntime (a : Allocation F) (candidateNotional : Option F) (ctx ctx' : MarketCtx F) :
    Prop :=
  (∃ allocated original p x, a.allocatedNotional = some allocated ∧
    candidateNotional = some original ∧ startProjection candidateNotional ctx = .ok p ∧
    Sized a allocated p.effectiveNotional p.effectiveQuantity ctx' x ∧ x ≤ original) ∧
  Stable ctx'

/-- Sizes that the order path can use. -/
structure Usable (a : Allocation F) (ctx : MarketCtx F) : Prop where
  allocated : ∀ x ∈ a.allocatedNotional, IsNumber x
  requested : ∀ x ∈ requestedNotional ctx, IsNumber x
  finite : ∀ x ∈ a.allocatedNotional, ∀ y ∈ requestedNotional ctx,
    FloatNum.isFinite x = true ∨ FloatNum.isFinite y = true
  quantity : readQuantity ctx = askedQuantity ctx

/-! ## 5. What the steps read -/

section Read

variable {a : Allocation F} {ctx ctx' : MarketCtx F} {allocated original x : F}

omit [FloatNum F] in
theorem reason_ne (a : Allocation F) : a.reason ≠ "" := by
  unfold Allocation.reason
  cases h : a.reasonCodes with
  | nil => decide
  | cons code rest => exact a.named code (h ▸ List.mem_cons_self)

omit [FloatNum F] in
theorem reason_of {reason : String} (h : (ctx, reason) = (ctx', "")) : reason = "" :=
  congrArg Prod.snd h

/-- A projection that does not reject has found an allocation and a size. -/
theorem projected (ha : ctx.allocation = some a)
    (h : projectPrecomputedPortfolioAllocation ctx = (ctx', "")) :
    a.granted = true ∧ ∃ allocated original, a.allocatedNotional = some allocated ∧
      ¬ allocated ≤ FloatNum.ofInt 0 ∧ requestedNotional ctx = some original ∧
      ¬ original ≤ FloatNum.ofInt 0 ∧ ctx' = resized ctx a allocated original := by
  unfold projectPrecomputedPortfolioAllocation at h
  rw [ha] at h
  simp only at h
  split at h
  · exact absurd (reason_of h) (reason_ne a)
  · next hgranted =>
    split at h
    · exact absurd (reason_of h) (by decide)
    · next allocated hallocated =>
      split at h
      · exact absurd (reason_of h) (by decide)
      · next hpos =>
        split at h
        · exact absurd (reason_of h) (by decide)
        · next original horiginal =>
          split at h
          · exact absurd (reason_of h) (by decide)
          · next hsize =>
            exact ⟨by simpa using hgranted, allocated, original, hallocated, hpos, horiginal, hsize,
              (congrArg Prod.fst h).symm⟩

theorem project_of (ha : ctx.allocation = some a) (hgranted : a.granted = true)
    (hallocated : a.allocatedNotional = some allocated) (hpos : ¬ allocated ≤ FloatNum.ofInt 0)
    (horiginal : requestedNotional ctx = some original) (hsize : ¬ original ≤ FloatNum.ofInt 0) :
    projectPrecomputedPortfolioAllocation ctx = (resized ctx a allocated original, "") := by
  unfold projectPrecomputedPortfolioAllocation
  rw [ha]
  simp [hgranted, hallocated, hpos, horiginal, hsize]

theorem requested_of_notional (h : ctx.notional = some (some x)) :
    requestedNotional ctx = some x := by
  unfold requestedNotional
  rw [h]
  rfl

/-- A run of the runtime's sizing that goes on. -/
theorem sized_candidate {candidateNotional : Option F} (ha : ctx.allocation = some a)
    (h : sizeCandidate candidateNotional ctx = .ok ctx') :
    a.granted = true ∧ ∃ allocated p, a.allocatedNotional = some allocated ∧
      ¬ allocated ≤ FloatNum.ofInt 0 ∧ startProjection candidateNotional ctx = .ok p ∧
      ¬ FloatNum.feq p.effectiveNotional (FloatNum.ofInt 0) = true ∧
      ctx' = allocatedCtx ctx a allocated p := by
  unfold sizeCandidate at h
  split at h
  · cases h
  · next p hp =>
    rw [ha] at h
    simp only at h
    split at h
    · cases h
    · next hgranted =>
      split at h
      · cases h
      · next allocated hallocated =>
        split at h
        · cases h
        · next hpos =>
          split at h
          · cases h
          · next hzero =>
            exact ⟨by simpa using hgranted, allocated, p, hallocated, hpos, hp, hzero,
              (Except.ok.inj h).symm⟩

/-- A complete projection of the exposure. -/
theorem complete_scale {originalNotional riskScale originalQuantity : Option F}
    {requireScale : Bool} {p : SizingProjection F}
    (h : scaleCandidateExposure originalNotional riskScale originalQuantity requireScale = .ok p) :
    ∃ notional, originalNotional = some notional ∧ FloatNum.isFinite notional = true ∧
      ¬ notional ≤ FloatNum.ofInt 0 ∧ rawScale riskScale requireScale = some p.riskScale ∧
      FloatNum.isFinite p.riskScale = true ∧ ¬ p.riskScale < FloatNum.ofInt 0 ∧
      ¬ FloatNum.ofInt 1 < p.riskScale ∧ p.effectiveNotional = notional * p.riskScale ∧
      p.effectiveQuantity = originalQuantity.map (· * p.riskScale) := by
  unfold scaleCandidateExposure at h
  split at h
  · cases h
  · next notional hnotional =>
    obtain ⟨hn, hnfit⟩ := Option.filter_eq_some_iff.mp hnotional
    split at h
    · cases h
    · next scale hscale =>
      obtain ⟨hs, hsfit⟩ := Option.filter_eq_some_iff.mp hscale
      simp only [Bool.and_eq_true, Bool.not_eq_true', decide_eq_false_iff_not] at hnfit hsfit
      split at h
      · cases h
        exact ⟨notional, hn, hnfit.1, hnfit.2, hs, hsfit.1.1, hsfit.1.2, hsfit.2, rfl, rfl⟩
      · split at h
        · cases h
          exact ⟨notional, hn, hnfit.1, hnfit.2, hs, hsfit.1.1, hsfit.1.2, hsfit.2, rfl, rfl⟩
        · cases h

end Read

/-! ## 6. What is made of numbers that can be used -/

section Steps

variable {a : Allocation F} {ctx : MarketCtx F} {allocated original x q : F}
  {p : SizingProjection F}

theorem pos_of_not_le (hx : IsNumber x) (h : ¬ x ≤ FloatNum.ofInt 0) : FloatNum.ofInt 0 < x :=
  FloatNum.lt_of_not_le hx isNumber_zero h

theorem pos_of_not_feq (hx : FloatNum.ofInt 0 ≤ x)
    (h : ¬ FloatNum.feq x (FloatNum.ofInt 0) = true) : FloatNum.ofInt 0 < x := by
  obtain ⟨u, v, hu, hv, huv⟩ := (FloatNum.le_iff _ _).mp hx
  refine (FloatNum.lt_iff _ _).mpr ⟨u, v, hu, hv, lt_of_le_of_ne huv fun heq => ?_⟩
  exact h ((FloatNum.feq_iff _ _).mpr ⟨u, heq ▸ hv, hu⟩)

/-- The smaller of two positive numbers, one of them finite. -/
theorem pyMin_between (ha : FloatNum.ofInt 0 < allocated) (ho : FloatNum.ofInt 0 < original)
    (hfinite : FloatNum.isFinite allocated = true ∨ FloatNum.isFinite original = true) :
    FloatNum.isFinite (pyMin original allocated) = true ∧
      FloatNum.ofInt 0 < pyMin original allocated ∧ pyMin original allocated ≤ allocated ∧
      pyMin original allocated ≤ original := by
  have hna := (isNumber_of_le (FloatNum.le_of_lt ha)).2
  have hno := (isNumber_of_le (FloatNum.le_of_lt ho)).2
  have hbetween : ∀ u v : F, FloatNum.ofInt 0 < u → u ≤ v → FloatNum.isFinite v = true →
      FloatNum.isFinite u = true := fun u v hu huv hv =>
    FloatNum.finite_between (FloatNum.le_of_lt hu) huv FloatNum.finite_zero hv
  unfold pyMin
  split
  · next hlt =>
    have hle := FloatNum.le_of_lt hlt
    exact ⟨hfinite.elim id (hbetween _ _ ha hle), ha, FloatNum.le_refl hna, hle⟩
  · next hlt =>
    have hle := FloatNum.le_of_not_lt hna hno hlt
    exact ⟨hfinite.elim (hbetween _ _ ho hle) id, ho, hle, FloatNum.le_refl hno⟩

theorem pyMin_same (h : x ≤ allocated) : pyMin x allocated = x :=
  if_neg fun hlt => FloatNum.not_le_of_lt hlt h

/-- What the projection writes but for the quantities. -/
theorem resized_sizes (ctx : MarketCtx F) (a : Allocation F) (allocated original : F) :
    (resized ctx a allocated original).notional = some (some (pyMin original allocated)) ∧
      (resized ctx a allocated original).effectiveNotional =
        some (some (pyMin original allocated)) ∧
      (resized ctx a allocated original).allocatedNotional =
        some (some (pyMin original allocated)) ∧
      (resized ctx a allocated original).notionalUsdt =
        ctx.notionalUsdt.map (fun _ => some (pyMin original allocated)) ∧
      (resized ctx a allocated original).orderNotional =
        ctx.orderNotional.map (fun _ => some (pyMin original allocated)) ∧
      (resized ctx a allocated original).allocatedRisk =
        some (a.allocatedRisk.map (· * (pyMin original allocated / allocated))) ∧
      (resized ctx a allocated original).allocation = ctx.allocation := by
  unfold resized
  simp only
  split <;> exact ⟨rfl, rfl, rfl, rfl, rfl, rfl, rfl⟩

theorem resized_quantity (a : Allocation F) (allocated original : F)
    (h : readQuantity ctx = some q) :
    (resized ctx a allocated original).quantity =
        some (some (q * (pyMin original allocated / original))) ∧
      (resized ctx a allocated original).qty =
        some (some (q * (pyMin original allocated / original))) ∧
      (resized ctx a allocated original).effectiveQuantity =
        ctx.effectiveQuantity.map fun _ => some (q * (pyMin original allocated / original)) := by
  unfold resized
  dsimp only
  rw [h]
  exact ⟨rfl, rfl, rfl⟩

theorem resized_unread (a : Allocation F) (allocated original : F)
    (h : readQuantity ctx = none) :
    (resized ctx a allocated original).quantity = ctx.quantity ∧
      (resized ctx a allocated original).qty = ctx.qty ∧
      (resized ctx a allocated original).effectiveQuantity = ctx.effectiveQuantity := by
  unfold resized
  dsimp only
  rw [h]
  exact ⟨rfl, rfl, rfl⟩

omit [FloatNum F] in
theorem asked_of_read (h : readQuantity ctx = some q) : askedQuantity ctx = some q := by
  unfold readQuantity at h
  unfold askedQuantity
  cases hquantity : ctx.quantity with
  | none =>
    rw [hquantity, Option.getD_none] at h
    simp [h]
  | some v =>
    rw [hquantity, Option.getD_some] at h
    simp [h]

omit [FloatNum F] in
/-- The first of `quantity` and `qty` is the one that is read, where none is missed. -/
theorem first_of_asked (h : readQuantity ctx = askedQuantity ctx) :
    [ctx.quantity, ctx.qty].findSome? Option.join = readQuantity ctx := by
  unfold readQuantity askedQuantity at h
  unfold readQuantity
  cases hquantity : ctx.quantity with
  | none => cases hqty : ctx.qty.join <;> simp [hqty]
  | some v =>
    rw [hquantity, Option.getD_some] at h
    cases v with
    | some q => rfl
    | none =>
      cases hqty : ctx.qty.join with
      | none => simp [hqty]
      | some q => simp [hqty] at h

/-- What the runtime writes. -/
theorem allocated_sizes (ctx : MarketCtx F) (a : Allocation F) (cap : F) (p : SizingProjection F) :
    (allocatedCtx ctx a cap p).notional = some (some (pyMin p.effectiveNotional cap)) ∧
      (allocatedCtx ctx a cap p).effectiveNotional =
        some (some (pyMin p.effectiveNotional cap)) ∧
      (allocatedCtx ctx a cap p).allocatedNotional =
        some (some (pyMin p.effectiveNotional cap)) ∧
      (allocatedCtx ctx a cap p).notionalUsdt =
        ctx.notionalUsdt.map (fun _ => some (pyMin p.effectiveNotional cap)) ∧
      (allocatedCtx ctx a cap p).orderNotional =
        ctx.orderNotional.map (fun _ => some (pyMin p.effectiveNotional cap)) ∧
      (allocatedCtx ctx a cap p).allocatedRisk =
        some (a.allocatedRisk.map (· * (pyMin p.effectiveNotional cap / cap))) ∧
      (allocatedCtx ctx a cap p).allocation = ctx.allocation ∧
      (allocatedCtx ctx a cap p).effectiveQuantity = some (p.effectiveQuantity.map
        (· * (pyMin p.effectiveNotional cap / p.effectiveNotional))) := by
  unfold allocatedCtx withSizes
  simp only
  split <;> exact ⟨rfl, rfl, rfl, rfl, rfl, rfl, rfl, rfl⟩

theorem allocated_quantity (ctx : MarketCtx F) (a : Allocation F) (cap : F)
    (h : p.effectiveQuantity = some q) :
    (allocatedCtx ctx a cap p).quantity =
        some (some (q * (pyMin p.effectiveNotional cap / p.effectiveNotional))) ∧
      (allocatedCtx ctx a cap p).qty =
        some (some (q * (pyMin p.effectiveNotional cap / p.effectiveNotional))) := by
  unfold allocatedCtx withSizes
  dsimp only
  rw [h]
  exact ⟨rfl, rfl⟩

theorem allocated_unread (ctx : MarketCtx F) (a : Allocation F) (cap : F)
    (h : p.effectiveQuantity = none) :
    (allocatedCtx ctx a cap p).quantity = ctx.quantity ∧
      (allocatedCtx ctx a cap p).qty = ctx.qty := by
  unfold allocatedCtx withSizes
  dsimp only
  rw [h]
  exact ⟨rfl, rfl⟩

omit [FloatNum F] in
theorem of_mem_map_const {e : Entry F} {y : F} {v : Option F}
    (h : v ∈ e.map fun _ => some y) : v = some y := by
  obtain ⟨_, _, rfl⟩ := Option.map_eq_some_iff.mp h
  rfl

/-- **The order path**: numbers that can be used are projected to the sizes of the allocation. -/
theorem sized_resized (a : Allocation F) (ctx : MarketCtx F)
    (ha : FloatNum.ofInt 0 < allocated) (ho : FloatNum.ofInt 0 < original)
    (hfinite : FloatNum.isFinite allocated = true ∨ FloatNum.isFinite original = true)
    (hread : readQuantity ctx = askedQuantity ctx) :
    Sized a allocated original (askedQuantity ctx) (resized ctx a allocated original)
      (pyMin original allocated) := by
  obtain ⟨hfit, hpos, hleft, hright⟩ := pyMin_between ha ho hfinite
  obtain ⟨hnotional, heffective, hallotted, husdt, horder, hrisk, _⟩ :=
    resized_sizes ctx a allocated original
  refine ⟨hfit, hpos, hleft, hright, hnotional, heffective, hallotted, ?_, ?_, hrisk⟩
  · intro e he v hv
    rw [husdt, horder] at he
    rcases List.mem_pair.mp he with rfl | rfl <;> exact of_mem_map_const hv
  · intro q hq
    obtain ⟨hquantity, hqty, heff⟩ := resized_quantity a allocated original (hread.trans hq)
    exact ⟨hquantity, hqty, fun v hv => of_mem_map_const (heff ▸ hv)⟩

/-- **The runtime**, with the sizes behind the risk scale. -/
theorem sized_runtime (a : Allocation F) (ctx : MarketCtx F)
    (ha : FloatNum.ofInt 0 < allocated) (ho : FloatNum.ofInt 0 < p.effectiveNotional)
    (hfinite : FloatNum.isFinite p.effectiveNotional = true) :
    Sized a allocated p.effectiveNotional p.effectiveQuantity (allocatedCtx ctx a allocated p)
      (pyMin p.effectiveNotional allocated) := by
  obtain ⟨hfit, hpos, hleft, hright⟩ := pyMin_between ha ho (Or.inr hfinite)
  obtain ⟨hnotional, heffective, hallotted, husdt, horder, hrisk, _, heff⟩ :=
    allocated_sizes ctx a allocated p
  refine ⟨hfit, hpos, hleft, hright, hnotional, heffective, hallotted, ?_, ?_, hrisk⟩
  · intro e he v hv
    rw [husdt, horder] at he
    rcases List.mem_pair.mp he with rfl | rfl <;> exact of_mem_map_const hv
  · intro q hq
    obtain ⟨hquantity, hqty⟩ := allocated_quantity ctx a allocated hq
    refine ⟨hquantity, hqty, fun v hv => ?_⟩
    rw [heff, hq] at hv
    exact (Option.some.inj hv).symm

end Steps

/-! ## 7. The two steps -/

section Rounds

variable {r : Rounding} {a : Allocation (Rounded r)} {ctx ctx' : MarketCtx (Rounded r)}
  {allocated original x : Rounded r}

/-- **What stands at its notional stays there.** -/
theorem stable_of_sized {asked : Option (Rounded r)} (ha : ctx.allocation = some a)
    (hgranted : a.granted = true) (hallocated : a.allocatedNotional = some allocated)
    (h : Sized a allocated original asked ctx x) (hread : asked = none → readQuantity ctx = none) :
    Stable ctx := by
  have hsame := pyMin_same h.le_allocated
  have hpos := FloatNum.lt_of_lt_of_le h.pos h.le_allocated
  refine ⟨_, project_of ha hgranted hallocated (FloatNum.not_le_of_lt hpos)
    (requested_of_notional h.notional) (FloatNum.not_le_of_lt h.pos), ?_⟩
  obtain ⟨hnotional, heffective, hallotted, husdt, horder, hrisk, _⟩ :=
    resized_sizes ctx a allocated x
  rw [hsame] at hnotional heffective hallotted husdt horder hrisk
  have halias : ∀ e ∈ [ctx.notionalUsdt, ctx.orderNotional], e.map (fun _ => some x) = e := by
    intro e he
    cases hv : e with
    | none => rfl
    | some v => rw [h.aliases e he v hv, Option.map_some]
  have hquantities : (resized ctx a allocated x).quantity = ctx.quantity ∧
      (resized ctx a allocated x).qty = ctx.qty ∧
      ∀ v ∈ (resized ctx a allocated x).effectiveQuantity, ctx.effectiveQuantity = some v := by
    cases hasked : asked with
    | none =>
      obtain ⟨hquantity, hqty, heff⟩ := resized_unread a allocated x (hread hasked)
      exact ⟨hquantity, hqty, fun v hv => heff ▸ hv⟩
    | some q =>
      obtain ⟨hquantity, hqty, heff⟩ := h.quantities q hasked
      have hq : readQuantity ctx = some (q * (x / original)) := by
        unfold readQuantity
        rw [hquantity]
        rfl
      obtain ⟨hquantity', hqty', heff'⟩ := resized_quantity a allocated x hq
      rw [hsame, Rounded.div_same h.finite h.pos, Rounded.mul_unit] at hquantity' hqty' heff'
      refine ⟨hquantity'.trans hquantity.symm, hqty'.trans hqty.symm, fun v hv => ?_⟩
      rw [heff'] at hv
      obtain ⟨w, hw, rfl⟩ := Option.map_eq_some_iff.mp hv
      rw [hw, heff w hw]
  exact ⟨hnotional.trans h.notional.symm, husdt.trans (halias _ (by simp)),
    horder.trans (halias _ (by simp)), heffective.trans h.effective.symm,
    hallotted.trans h.allotted.symm, hrisk.trans h.risk.symm, hquantities.1, hquantities.2.1,
    hquantities.2.2⟩

/-- **The two steps agree** where the risk is not scaled and the quantity is found. -/
theorem same_sizes (hread : readQuantity ctx = askedQuantity ctx)
    (hscale : ∀ scale ∈ ctx.riskScale.join, scale = FloatNum.ofInt 1)
    {p : SizingProjection (Rounded r)} (hp : startProjection (some original) ctx = .ok p) :
    SameSizes (resized ctx a allocated original) (allocatedCtx ctx a allocated p) := by
  obtain ⟨notional, hnotional, _, _, hraw, _, _, _, heffective, hquantity⟩ := complete_scale hp
  cases Option.some.inj hnotional
  have hone : p.riskScale = FloatNum.ofInt 1 := by
    unfold rawScale at hraw
    split at hraw
    · next scale hgiven => exact (Option.some.inj hraw).symm.trans (hscale scale hgiven)
    · split at hraw
      · cases hraw
      · exact (Option.some.inj hraw).symm
  have hsize : p.effectiveNotional = original := by rw [heffective, hone, Rounded.mul_unit]
  have hasked : p.effectiveQuantity = readQuantity ctx := by
    rw [hquantity, hone, first_of_asked hread]
    cases readQuantity ctx with
    | none => rfl
    | some q => rw [Option.map_some, Rounded.mul_unit]
  obtain ⟨h₁, h₂, h₃, h₄, h₅, h₆, _⟩ := resized_sizes ctx a allocated original
  obtain ⟨k₁, k₂, k₃, k₄, k₅, k₆, _, k₈⟩ := allocated_sizes ctx a allocated p
  rw [hsize] at k₁ k₂ k₃ k₄ k₅ k₆ k₈
  have hquantities : (resized ctx a allocated original).quantity =
        (allocatedCtx ctx a allocated p).quantity ∧
      (resized ctx a allocated original).qty = (allocatedCtx ctx a allocated p).qty ∧
      ∀ v ∈ (resized ctx a allocated original).effectiveQuantity,
        (allocatedCtx ctx a allocated p).effectiveQuantity = some v := by
    cases hq : readQuantity ctx with
    | none =>
      obtain ⟨hquantity₁, hqty₁, heff₁⟩ := resized_unread a allocated original hq
      obtain ⟨hquantity₂, hqty₂⟩ := allocated_unread ctx a allocated (hasked.trans hq)
      refine ⟨hquantity₁.trans hquantity₂.symm, hqty₁.trans hqty₂.symm, fun v hv => ?_⟩
      rw [heff₁] at hv
      rw [k₈, hasked, hq, Option.map_none]
      rw [hq] at hread
      have hnone := List.findSome?_eq_none_iff.mp hread.symm ctx.effectiveQuantity (by simp)
      rw [Option.mem_def.mp hv, Option.join_some] at hnone
      rw [hnone]
    | some q =>
      obtain ⟨hquantity₁, hqty₁, heff₁⟩ := resized_quantity a allocated original hq
      obtain ⟨hquantity₂, hqty₂⟩ := allocated_quantity ctx a allocated (hasked.trans hq)
      rw [hsize] at hquantity₂ hqty₂
      refine ⟨hquantity₁.trans hquantity₂.symm, hqty₁.trans hqty₂.symm, fun v hv => ?_⟩
      rw [heff₁] at hv
      rw [k₈, hasked, hq, of_mem_map_const hv, Option.map_some]
  exact ⟨h₁.trans k₁.symm, h₄.trans k₄.symm, h₅.trans k₅.symm, h₂.trans k₂.symm, h₃.trans k₃.symm,
    h₆.trans k₆.symm, hquantities.1, hquantities.2.1, hquantities.2.2⟩

/-- The sizes the runtime starts with: positive and within those asked for. -/
theorem started {candidateNotional : Option (Rounded r)} {p : SizingProjection (Rounded r)}
    (hp : startProjection candidateNotional ctx = .ok p)
    (hzero : ¬ FloatNum.feq p.effectiveNotional (FloatNum.ofInt 0) = true) :
    ∃ original, candidateNotional = some original ∧ FloatNum.isFinite p.effectiveNotional = true ∧
      FloatNum.ofInt 0 < p.effectiveNotional ∧ p.effectiveNotional ≤ original := by
  obtain ⟨notional, hnotional, hfinite, hsize, _, hscale, hlow, hhigh, heffective, _⟩ :=
    complete_scale hp
  have hone := isNumber_of_finite (FloatNum.finite_one (F := Rounded r))
  have hnumber := isNumber_of_finite hscale
  obtain ⟨hle, hnonneg⟩ := Rounded.scaled_le hfinite
    (pos_of_not_le (isNumber_of_finite hfinite) hsize)
    (FloatNum.le_of_not_lt hnumber isNumber_zero hlow) (FloatNum.le_of_not_lt hone hnumber hhigh)
  rw [← heffective] at hle hnonneg
  exact ⟨notional, hnotional, FloatNum.finite_between hnonneg hle FloatNum.finite_zero hfinite,
    pos_of_not_feq hnonneg hzero, hle⟩

/-- **The order path keeps its promise exactly where it can use the sizes.** -/
theorem order_iff (ha : ctx.allocation = some a)
    (h : projectPrecomputedPortfolioAllocation ctx = (ctx', "")) :
    KeptByOrder a ctx ctx' ↔ Usable a ctx := by
  obtain ⟨hgranted, allocated, original, hallocated, hpos, horiginal, hsize, rfl⟩ := projected ha h
  have hallocation : (resized ctx a allocated original).allocation = some a :=
    (resized_sizes ctx a allocated original).2.2.2.2.2.2.trans ha
  constructor
  · rintro ⟨⟨_, _, x, hallocated', horiginal', hsized⟩, _, _⟩
    cases hallocated.symm.trans hallocated'
    cases horiginal.symm.trans horiginal'
    have hx : pyMin original allocated = x := Option.some.inj (Option.some.inj
      ((resized_sizes ctx a allocated original).1.symm.trans hsized.notional))
    have hfinite := hsized.finite
    rw [← hx] at hfinite
    refine ⟨fun y hy => ?_, fun y hy => ?_, fun y hy z hz => ?_, ?_⟩
    · cases hallocated.symm.trans hy
      exact (isNumber_of_le hsized.le_allocated).2
    · cases horiginal.symm.trans hy
      exact (isNumber_of_le hsized.le_original).2
    · cases hallocated.symm.trans hy
      cases horiginal.symm.trans hz
      unfold pyMin at hfinite
      split at hfinite
      · exact Or.inl hfinite
      · exact Or.inr hfinite
    · -- a quantity that is not read stays where it stands
      cases hread : readQuantity ctx with
      | some q => exact (asked_of_read hread).symm
      | none =>
        cases hasked : askedQuantity ctx with
        | none => rfl
        | some q =>
          have hquantity := (hsized.quantities q hasked).1
          rw [(resized_unread a allocated original hread).1] at hquantity
          unfold readQuantity at hread
          rw [hquantity] at hread
          cases hread
  · intro husable
    have hsized := sized_resized a ctx (pos_of_not_le (husable.allocated _ hallocated) hpos)
      (pos_of_not_le (husable.requested _ horiginal) hsize)
      (husable.finite _ hallocated _ horiginal) husable.quantity
    refine ⟨⟨allocated, original, _, hallocated, horiginal, hsized⟩, ?_,
      fun hscale other hother => ?_⟩
    · refine stable_of_sized hallocation hgranted hallocated hsized fun hasked => ?_
      have hnone := husable.quantity.trans hasked
      obtain ⟨hquantity, hqty, _⟩ := resized_unread a allocated original hnone
      unfold readQuantity at hnone ⊢
      rw [hquantity, hqty, hnone]
    · obtain ⟨_, allocated', p, hallocated', _, hp, _, rfl⟩ := sized_candidate ha hother
      cases hallocated.symm.trans hallocated'
      rw [horiginal] at hp
      exact same_sizes husable.quantity hscale hp

/-- **The runtime keeps its promise exactly where the allocation is no NaN.** -/
theorem runtime_iff {candidateNotional : Option (Rounded r)} (ha : ctx.allocation = some a)
    (h : sizeCandidate candidateNotional ctx = .ok ctx') :
    KeptByRuntime a candidateNotional ctx ctx' ↔ ∀ x ∈ a.allocatedNotional, IsNumber x := by
  obtain ⟨hgranted, allocated, p, hallocated, hpos, hp, hzero, rfl⟩ := sized_candidate ha h
  have hallocation : (allocatedCtx ctx a allocated p).allocation = some a :=
    (allocated_sizes ctx a allocated p).2.2.2.2.2.2.1.trans ha
  constructor
  · rintro ⟨⟨_, _, _, x, hallocated', _, _, hsized, _⟩, _⟩ y hy
    cases hallocated.symm.trans hallocated'
    cases hallocated.symm.trans hy
    exact (isNumber_of_le hsized.le_allocated).2
  · intro hnumber
    obtain ⟨original, horiginal, hfinite, heffective, hle⟩ := started hp hzero
    have hsized := sized_runtime a ctx (pos_of_not_le (hnumber _ hallocated) hpos) heffective
      hfinite
    refine ⟨⟨allocated, original, p, _, hallocated, horiginal, hp, hsized,
      Extended.le_trans hsized.le_original hle⟩, ?_⟩
    refine stable_of_sized hallocation hgranted hallocated hsized fun hasked => ?_
    obtain ⟨hquantity, hqty⟩ := allocated_unread ctx a allocated hasked
    have hnone : [ctx.quantity, ctx.qty].findSome? Option.join = none := by
      obtain ⟨_, _, _, _, _, _, _, _, _, hquantities⟩ := complete_scale hp
      rw [hasked] at hquantities
      exact Option.map_eq_none_iff.mp hquantities.symm
    have hkeys := List.findSome?_eq_none_iff.mp hnone
    unfold readQuantity
    rw [hquantity, hqty]
    cases hfirst : ctx.quantity with
    | none => exact hkeys ctx.qty (by simp)
    | some v =>
      have hv := hkeys ctx.quantity (by simp)
      rw [hfirst] at hv
      exact hv

end Rounds

def sampleAllocation (allocated risk : F) : Allocation F where
  action := some "reduce_size"
  allocatedNotional := some allocated
  allocatedRisk := some risk

/-- A size and a quantity that are asked for; `order_notional` is there without a value. -/
def sampleCtx (a : Allocation F) (notional quantity : F) : MarketCtx F where
  allocation := some a
  notional := some (some notional)
  orderNotional := some none
  quantity := some (some quantity)

/-- An allocation of 40 with a risk of 5. -/
def smallAllocation : Allocation (Rounded .range) := sampleAllocation 40.0 5.0

/-- A candidate of 100, ten pieces. -/
def smallCtx : MarketCtx (Rounded .range) := sampleCtx smallAllocation 100.0 10.0

/-- The candidate behind the step of the runtime. -/
def smallSized : MarketCtx (Rounded .range) :=
  (sizeCandidate (some 100.0) smallCtx).toOption.getD {}

theorem ok_getD {ε α : Type} {x : Except ε α} {default : α} (h : x.toOption.isSome = true) :
    x = .ok (x.toOption.getD default) := by
  cases x with
  | error e => cases h
  | ok y => rfl

/-- An allocation that is no number. -/
def nanCtx : MarketCtx Float := sampleCtx (sampleAllocation (0.0 / 0.0) 5.0) 100.0 10.0

/-- The quantity stands under `qty`, and `quantity` is `None`. -/
def unreadCtx : MarketCtx Float :=
  { sampleCtx (sampleAllocation 40.0 5.0) 100.0 10.0 with
    quantity := some none
    qty := some (some 10.0) }

end AlphaForge.Projection
