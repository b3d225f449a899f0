/-
  File:      AlphaForge/Positions/Trade.lean
  Subject:   One trade seen through every call on the database: its row and its events.

  * `Trade`, `Db.trade` -- the row of a trade id with its management events.
  * `TradeStep`, `tradeStep_of_effect` -- what any call, on any trade, does to it.
  * `OpenLedger`, `openLedger_step` -- the accounting invariant of an OPEN row.
-/
import AlphaForge.Positions.Effects
import Mathlib.Tactic.Linarith
import Mathlib.Tactic.Ring

namespace AlphaForge.Positions

open AlphaForge.Lib
open AlphaForge.Candles (sideOf)

/-! ## 1. The view of one trade -/

/-- A row with the management events of its trade id, oldest first. -/
structure Trade where
  row : Position
  events : List Event

/-- The PARTIAL_EXIT events of a trade. -/
def Trade.partials (v : Trade) : List Event := v.events.filter Event.isPartialExit

/-- The trade `t` in a database. -/
def Db.trade (db : Db) (t : String) : Option Trade :=
  (db.position t).map fun r => ⟨r, managementEvents db t⟩

theorem trade_eq_some {db : Db} {t : String} {v : Trade} :
    db.trade t = some v ↔ db.position t = some v.row ∧ managementEvents db t = v.events := by
  unfold Db.trade
  rw [Option.map_eq_some_iff]
  constructor
  · rintro ⟨r, hr, rfl⟩
    exact ⟨hr, rfl⟩
  · rintro ⟨hr, he⟩
    exact ⟨v.row, hr, by rw [he]⟩

/-- The trade after its row became `r` and `e` was recorded. -/
def Trade.record (v : Trade) (r : Position) (e : Event) : Trade := ⟨r, v.events ++ [e]⟩

/-- An open trade and an action whose common checks passed. -/
structure Ready (v : Trade) (a : ActionCall) (ev : Evidence) (n : RowNumbers) : Prop where
  isOpen : v.row.status = .OPEN
  evidence : validateManagementEvidence a.evidence = .ok ev
  numbers : rowNumbers v.row = .ok n

/-- What a call does to one trade. -/
inductive TradeStep (hash : Request → String) (call : Call) (v : Trade) : Trade → Prop
  | same : TradeStep hash call v v
  | tighten (a : ActionCall) (hcall : call = .act a) (ev : Evidence) (n : RowNumbers)
      (stop : Positive) (run : String)
      (h : Ready v a ev n) (hact : a.normalizedAction = "TIGHTEN_STOP")
      (hs : tightenedStop (sideOf v.row.side) n ev a.newStop = .ok stop) :
      TradeStep hash call v (v.record (v.row.tighten stop.1 a.eventTime.text)
        (tightenEvent hash v.row a n ev stop.1 run))
  | trail (a : ActionCall) (hcall : call = .act a) (ev : Evidence) (n : RowNumbers) (run : String)
      (h : Ready v a ev n) (hact : a.normalizedAction = "ENABLE_TRAILING")
      (hc : trailingChecks v.row = .ok ()) :
      TradeStep hash call v (v.record (v.row.trail a.eventTime.text)
        (trailingEvent hash v.row a n ev run))
  | reduce (a : ActionCall) (hcall : call = .act a) (ev : Evidence) (n : RowNumbers) (s : Slice)
      (run : String)
      (h : Ready v a ev n) (hact : a.normalizedAction = "PARTIAL_EXIT")
      (hs : partialSlice v.row a n = .ok s) :
      TradeStep hash call v (v.record (v.row.reduce s a.eventTime.text)
        (partialEvent hash v.row a n ev s run))
  | protect (a : ActionCall) (hcall : call = .act a) (ev : Evidence) (n : RowNumbers)
      (price : Positive)
      (costs : ExitCosts) (k : Closing) (run : String)
      (h : Ready v a ev n) (hact : a.normalizedAction = "PROTECTIVE_EXIT")
      (hc : protectiveChecks a ev = .ok (price, costs))
      (hk : closing (protectiveClosure a price.1 costs) (v.row.managed a.eventTime.text)
        (exitComponents v.partials) v.partials = .ok k) :
      TradeStep hash call v (v.record
        ((v.row.managed a.eventTime.text).close (protectiveClosure a price.1 costs) k)
        ((protectiveEvent hash v.row a n ev price.1 costs run).settle k.reply))
  | close (c : ClosureCall) (hcall : call = .close c) (k : Closing) (ho : v.row.status = .OPEN)
      (hk : closing c v.row (exitComponents v.partials) v.partials = .ok k) :
      TradeStep hash call v ⟨v.row.close c k, v.events⟩

section Steps

variable {hash : Request → String} {call : Call} {db db' : Db} {t : String} {v v' : Trade}

theorem settle_tradeId (reply : ClosureReply) (e : Event) :
    (e.settle reply).tradeId = e.tradeId := by
  cases reply <;> rfl

/-- Recording an event of trade `u` on its row, seen from trade `t`. -/
theorem trade_record (hv : db.trade t = some v) (u : String) (r : Position) {e : Event}
    (he : e.tradeId = u) :
    (db.record u r e).trade t = some (if t = u then v.record r e else v) := by
  obtain ⟨hr, hev⟩ := trade_eq_some.mp hv
  by_cases hu : t = u
  · subst hu
    rw [if_pos rfl, trade_eq_some]
    exact ⟨record_position db t r e, by rw [managementEvents_record, if_pos he, hev]; rfl⟩
  · rw [if_neg hu, trade_eq_some]
    refine ⟨?_, ?_⟩
    · rw [← hr]
      exact setPosition_ne db r hu
    · rw [managementEvents_record, if_neg (by rw [he]; exact fun h => hu h.symm), List.append_nil,
        hev]

theorem ready_of_acting {a : ActionCall} {r : Position} {ev : Evidence} {n : RowNumbers}
    (hv : db.trade a.tradeId = some v) (h : Acting db a r ev n) : r = v.row ∧ Ready v a ev n := by
  obtain ⟨hr, -⟩ := trade_eq_some.mp hv
  obtain rfl : r = v.row := Option.some.inj (h.row.symm.trans hr)
  exact ⟨rfl, h.isOpen, h.evidence, h.numbers⟩

/-- **What any call does to one trade.** -/
theorem tradeStep_of_effect (h : CallEffect hash db call db')
    (hv : db.trade t = some v) : ∃ v', db'.trade t = some v' ∧ TradeStep hash call v v' := by
  have hpart : ∀ {w : Trade}, db.trade t = some w → partialEvents db t = w.partials := by
    intro w hw
    unfold partialEvents Trade.partials
    rw [(trade_eq_some.mp hw).2]
  cases h with
  | rejected => exact ⟨v, hv, .same⟩
  | act h =>
    rename_i a
    cases h with
    | replay e hf ht ha hh => exact ⟨v, hv, .same⟩
    | tighten r ev n stop run hA hact hs =>
      refine ⟨_, trade_record hv _ _ rfl, ?_⟩
      split
      · rename_i hu
        subst hu
        obtain ⟨rfl, hR⟩ := ready_of_acting hv hA
        exact .tighten a rfl ev n stop run hR hact hs
      · exact .same
    | trail r ev n run hA hact hc =>
      refine ⟨_, trade_record hv _ _ rfl, ?_⟩
      split
      · rename_i hu
        subst hu
        obtain ⟨rfl, hR⟩ := ready_of_acting hv hA
        exact .trail a rfl ev n run hR hact hc
      · exact .same
    | reduce r ev n s run hA hact hs =>
      refine ⟨_, trade_record hv _ _ rfl, ?_⟩
      split
      · rename_i hu
        subst hu
        obtain ⟨rfl, hR⟩ := ready_of_acting hv hA
        exact .reduce a rfl ev n s run hR hact hs
      · exact .same
    | protect r ev n price costs k run hA hact hc hk =>
      refine ⟨_, trade_record hv _ _ (settle_tradeId _ _), ?_⟩
      split
      · rename_i hu
        subst hu
        obtain ⟨rfl, hR⟩ := ready_of_acting hv hA
        unfold priorPartialExitComponents at hk
        rw [hpart hv] at hk
        exact .protect a rfl ev n price costs k run hR hact hc hk
      · exact .same
  | close h =>
    rename_i c reply
    cases h with
    | already r hr hc => exact ⟨v, hv, .same⟩
    | closed r k hr ho hk =>
      obtain ⟨hrow, hev⟩ := trade_eq_some.mp hv
      by_cases hu : t = c.tradeId
      · subst hu
        obtain rfl : r = v.row := Option.some.inj (hr.symm.trans hrow)
        unfold priorPartialExitComponents at hk
        rw [hpart hv] at hk
        refine ⟨⟨v.row.close c k, v.events⟩, ?_, .close c rfl k ho hk⟩
        exact trade_eq_some.mpr ⟨setPosition_self .., hev⟩
      · exact ⟨v, trade_eq_some.mpr ⟨by rw [← hrow]; exact setPosition_ne db _ hu, hev⟩, .same⟩

/-- Closed is final. -/
theorem closed_step (h : TradeStep hash call v v') (hc : v.row.status = .CLOSED) : v' = v := by
  cases h with
  | same => rfl
  | tighten _ _ _ _ _ _ h => exact absurd (h.isOpen.symm.trans hc) (by decide)
  | trail _ _ _ _ _ h => exact absurd (h.isOpen.symm.trans hc) (by decide)
  | reduce _ _ _ _ _ _ h => exact absurd (h.isOpen.symm.trans hc) (by decide)
  | protect _ _ _ _ _ _ _ _ h => exact absurd (h.isOpen.symm.trans hc) (by decide)
  | close _ _ _ ho => exact absurd (ho.symm.trans hc) (by decide)

/-- A trade that is still open was open before. -/
theorem open_before (h : TradeStep hash call v v') (ho : v'.row.status = .OPEN) :
    v.row.status = .OPEN := by
  cases hs : v.row.status with
  | OPEN => rfl
  | CLOSED =>
    rw [closed_step h hs] at ho
    exact absurd (ho.symm.trans hs) (by decide)

end Steps

/-! ## 2. What never changes -/

/-- The row reset to its entry: what is left are the columns no operation writes. -/
def Position.atEntry (r : Position) : Position :=
  { r with
    status := .OPEN
    currentStop := r.stop
    currentTarget := r.target
    remainingQuantity := r.quantity
    remainingNotional := r.notional
    realizedGrossPnl := 0
    realizedExecutionCost := 0
    realizedNetPnl := 0
    trailingEnabled := false
    managementVersion := 0
    lastManagementAt := none
    exitTime := none
    exitPrice := none
    exitReason := none
    grossPnl := none
    grossR := none
    totalExecutionCost := none
    netPnl := none
    netR := none
    holdDurationSeconds := none
    mfe := none
    mae := none
    evidenceComplete := false
    missingFields := [] }

/-- The entry columns of a trade never change. -/
theorem atEntry_step {hash : Request → String} {call : Call} {v v' : Trade}
    (h : TradeStep hash call v v') :
    v'.row.atEntry = v.row.atEntry := by
  cases h <;> rfl

/-! ## 3. What the checks of an action establish -/

/-- The numbers an action works with are the row's. -/
theorem rowNumbers_ok {r : Position} {n : RowNumbers} (h : rowNumbers r = .ok n) :
    orElse r.simulatedFill r.plannedEntry = some n.fill.1 ∧ r.stop = some n.originalStop.1 ∧
      r.quantity = some n.originalQty.1 ∧
      r.remainingQuantity.or r.quantity = some n.remainingQty.1 ∧
      r.currentStop.or r.stop = some n.currentStop.1 ∧ r.notional = some n.initialNotional.1 ∧
      n.riskUsd.1 = |n.fill.1 - n.originalStop.1| * n.originalQty.1 := by
  unfold rowNumbers at h
  split at h
  · rename_i fill stop quantity remaining current notional h₁ h₂ h₃ h₄ h₅ h₆
    split at h
    · cases h
    · rename_i risk hrisk
      cases h
      exact ⟨positive_eq_some.mp h₁, positive_eq_some.mp h₂, positive_eq_some.mp h₃,
        positive_eq_some.mp h₄, positive_eq_some.mp h₅, positive_eq_some.mp h₆,
        (Option.some.inj (positive_eq_some.mp hrisk)).symm⟩
  · cases h

/-- A tightened stop lies on the protective side of the current one. -/
theorem tightenedStop_ok {side : String} {n : RowNumbers} {ev : Evidence} {raw : Scalar}
    {stop : Positive} (h : tightenedStop side n ev raw = .ok stop) :
    Tightens side n.currentStop.1 stop.1 := by
  unfold tightenedStop at h
  split at h
  · cases h
  · rename_i s hs
    split at h
    · cases h
    · rename_i ht
      split at h
      · cases h
      · cases h
        exact not_not.mp ht

/-- What the accounting of a partial exit consists of. -/
theorem partialSlice_ok {r : Position} {a : ActionCall} {n : RowNumbers} {s : Slice}
    (h : partialSlice r a n = .ok s) :
    ∃ entry, (entryCostsUsd r n.riskUsd.1).complete? = some entry ∧
      s.qty.1 < n.remainingQty.1 - 1 / 10 ^ 12 ∧
      strictExitCostsUsd a.exitCosts = .ok s.exitCosts ∧
      s.entryAllocation = entry.scale (s.qty.1 / n.originalQty.1) ∧
      s.gross = (s.price.1 - n.fill.1) * s.qty.1 * direction (sideOf r.side) ∧
      s.executionCost = s.entryAllocation.total + s.exitCosts.total ∧
      s.newRemaining = n.remainingQty.1 - s.qty.1 := by
  unfold partialSlice at h
  split at h
  · split at h
    · cases h
    · rename_i hrem
      cases hc : strictExitCostsUsd a.exitCosts with
      | error e => rw [hc] at h; cases h
      | ok costs =>
        rw [hc] at h
        simp only [bind, Except.bind] at h
        split at h
        · cases h
        · rename_i entry hentry
          cases h
          exact ⟨entry, hentry, not_le.mp hrem, rfl, rfl, rfl, rfl, rfl⟩
  · cases h

/-! ## 4. The ledger of an open trade -/

/-- The sum of one column over the partial exits; an empty value counts as zero. -/
def Trade.partialSum (v : Trade) (column : Event → Option ℚ) : ℚ :=
  (v.partials.map fun e => (column e).getD 0).sum

theorem partials_record_other {v : Trade} {r : Position} {e : Event}
    (he : e.isPartialExit = false) : (v.record r e).partials = v.partials := by
  unfold Trade.partials Trade.record
  rw [List.filter_append, List.filter_cons_of_neg (by simp [he]), List.filter_nil, List.append_nil]

theorem partialSum_record_other {v : Trade} {r : Position} {e : Event}
    (he : e.isPartialExit = false) (column : Event → Option ℚ) :
    (v.record r e).partialSum column = v.partialSum column := by
  unfold Trade.partialSum
  rw [partials_record_other he]

theorem partialSum_record {v : Trade} {r : Position} {e : Event}
    (he : e.isPartialExit = true) (column : Event → Option ℚ) :
    (v.record r e).partialSum column = v.partialSum column + (column e).getD 0 := by
  unfold Trade.partialSum Trade.partials Trade.record
  rw [List.filter_append, List.filter_cons_of_pos he, List.filter_nil, List.map_append,
    List.sum_append]
  simp

/-- What the row of an OPEN trade says about its events. -/
structure OpenLedger (quantity : ℚ) (v : Trade) : Prop where
  original : v.row.quantity = some quantity
  remaining : v.row.remainingQuantity = some (quantity - v.partialSum Event.requestedQuantity)
  left : 0 < quantity - v.partialSum Event.requestedQuantity
  exited : 0 ≤ v.partialSum Event.requestedQuantity
  version : v.row.managementVersion = v.events.length
  gross : v.row.realizedGrossPnl = v.partialSum Event.grossPnl
  cost : v.row.realizedExecutionCost = v.partialSum Event.executionCost
  net : v.row.realizedNetPnl = v.partialSum Event.netPnl
  netEq : v.row.realizedNetPnl = v.row.realizedGrossPnl - v.row.realizedExecutionCost

/-- An action that exits nothing keeps the ledger and counts one event more. -/
theorem openLedger_record {quantity : ℚ} {v : Trade} {r : Position} {e : Event}
    (h : OpenLedger quantity v) (he : e.isPartialExit = false)
    (hq : r.quantity = v.row.quantity) (hrem : r.remainingQuantity = v.row.remainingQuantity)
    (hver : r.managementVersion = v.row.managementVersion + 1)
    (hg : r.realizedGrossPnl = v.row.realizedGrossPnl)
    (hc : r.realizedExecutionCost = v.row.realizedExecutionCost)
    (hn : r.realizedNetPnl = v.row.realizedNetPnl) : OpenLedger quantity (v.record r e) where
  original := hq.trans h.original
  remaining := by rw [partialSum_record_other he]; exact hrem.trans h.remaining
  left := by rw [partialSum_record_other he]; exact h.left
  exited := by rw [partialSum_record_other he]; exact h.exited
  version := by
    show r.managementVersion = (v.events ++ [e]).length
    rw [hver, h.version, List.length_append, List.length_singleton]
  gross := by rw [partialSum_record_other he]; exact hg.trans h.gross
  cost := by rw [partialSum_record_other he]; exact hc.trans h.cost
  net := by rw [partialSum_record_other he]; exact hn.trans h.net
  netEq := by
    show r.realizedNetPnl = r.realizedGrossPnl - r.realizedExecutionCost
    rw [hn, hg, hc, h.netEq]

/-- **One call keeps the ledger of a trade that stays open.** -/
theorem openLedger_step {hash : Request → String} {call : Call} {quantity : ℚ} {v v' : Trade}
    (h : OpenLedger quantity v) (hs : TradeStep hash call v v') (ho : v'.row.status = .OPEN) :
    OpenLedger quantity v' := by
  cases hs with
  | same => exact h
  | tighten a hcall ev n stop run hR hact hstop =>
    exact openLedger_record h (isPartialExit_other hact (by decide)) rfl rfl rfl rfl rfl rfl
  | trail a hcall ev n run hR hact hc =>
    exact openLedger_record h (isPartialExit_other hact (by decide)) rfl rfl rfl rfl rfl rfl
  | reduce a hcall ev n s run hR hact hslice =>
    have he : (partialEvent hash v.row a n ev s run).isPartialExit = true := by
      show (upper a.normalizedAction == "PARTIAL_EXIT") = true
      rw [hact]
      decide
    obtain ⟨-, -, hqty, hrem, -, -, -⟩ := rowNumbers_ok hR.numbers
    rw [h.remaining] at hrem
    have hrem : quantity - v.partialSum Event.requestedQuantity = n.remainingQty.1 :=
      Option.some.inj hrem
    obtain ⟨entry, -, hleft, -, -, -, -, hnew⟩ := partialSlice_ok hslice
    have hpos := s.qty.2
    refine ⟨h.original, ?_, ?_, ?_, ?_, ?_, ?_, ?_, ?_⟩
    · rw [partialSum_record he]
      show some s.newRemaining = some (quantity - (_ + s.qty.1))
      rw [hnew, ← hrem, sub_sub]
    · rw [partialSum_record he]
      show 0 < quantity - (_ + s.qty.1)
      rw [← sub_sub, hrem]
      linarith
    · rw [partialSum_record he]
      show 0 ≤ _ + s.qty.1
      linarith [h.exited]
    · show v.row.managementVersion + 1 = (v.events ++ [_]).length
      rw [h.version, List.length_append, List.length_singleton]
    · rw [partialSum_record he, ← h.gross]
      rfl
    · rw [partialSum_record he, ← h.cost]
      rfl
    · rw [partialSum_record he, ← h.net]
      rfl
    · show v.row.realizedNetPnl + (s.gross - s.executionCost) =
        v.row.realizedGrossPnl + s.gross - (v.row.realizedExecutionCost + s.executionCost)
      rw [h.netEq]
      ring
  | protect => cases ho
  | close => cases ho

end AlphaForge.Positions
