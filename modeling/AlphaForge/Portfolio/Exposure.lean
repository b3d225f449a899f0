/-
  File:      AlphaForge/Portfolio/Exposure.lean
  Subject:   The exposures the runtime feeds to the risk gate (`runtime.py`,
             `portfolio_risk.py`), and the OPEN rows they stand for.

  `_active_positions` and `_active_position_sides` are written and popped together, so one
  dictionary holds both. Four functions write it: `_execute`, `_load_recovery_state`,
  `_attach_phase8_campaign` and `_sync_resolved_paper_positions`; `snapshot_from_state` adds it up.

  * `Book` -- the pending positions with their symbols; no OPEN row has a negative remainder.
  * `Event`, `World.next` -- a PAPER runtime and the tables below it. `start` refuses to attach
    where recovery found exposure; the supervisor attaches before `start`, so the calls stand in
    any order here.
  * Episode ids, cooldowns and pending orders are left out: no exposure is computed from them.
  * **`exposures_match`** -- after a sync or an attachment the exposures are the rows' exactly
    where no OPEN row is hidden by another one and nothing else is left in the map.
-/
import AlphaForge.Lib.Dictionary
import AlphaForge.Lib.Runs
import AlphaForge.Positions.Trade
import Mathlib.Tactic.Linarith

namespace AlphaForge.Portfolio

open AlphaForge.Lib
open AlphaForge.Positions (Db Position OpenRequest Provenance Positive Call Request Status
  persistPendingPosition CallEffect ActionEffect ClosureEffect)
open AlphaForge.Candles (sideOf)

/-! ## 1. The size of a paper position -/

/-- What `_execute` reads of the decision, the market context and the simulated result. -/
structure PaperOrder where
  orderId : String
  symbol : String
  side : String
  /-- `result["status"]`, in lower case. -/
  status : String
  notional : Option ℚ
  notionalUsdt : Option ℚ
  orderNotional : Option ℚ
  quantity : Option ℚ
  qty : Option ℚ
  fill : ℚ
  plannedEntry : ℚ
  stop : ℚ
  target : Option ℚ
  /-- The quantities of `result["fills"]`. -/
  fills : List ℚ
  /-- What `build_execution_cost_semantics` raises. -/
  semanticsError : Option PyError
  spreadPenalty : ℚ
  feePenalty : ℚ
  burninRunId : String
  fillTimestamp : TimeText
  provenance : Provenance

/-- Quantity and notional of the position to persist. -/
structure Size where
  quantity : ℚ
  notional : Positive

/-- `requested_notional`: the first of the notionals, else of the quantities, else the
    configured one. -/
def requestedNotional (candidateNotional : Option ℚ) (o : PaperOrder) : Except PyError ℚ :=
  match o.notional.or (o.notionalUsdt.or o.orderNotional) with
  | some x => .ok x
  | none =>
    match o.quantity.or o.qty with
    | some x => .ok (o.fill * x)
    | none =>
      match candidateNotional with
      | some x => .ok x
      | none => .error (.runtimeError "PAPER_POSITION_SIZE_UNAVAILABLE")

/-- A partial fill is sized by what was filled. -/
def filledSize (o : PaperOrder) (fill notional : Positive) : Except PyError Size :=
  if o.status = "partial_fill" then
    if o.fills = [] then .error (.runtimeError "PAPER_PARTIAL_FILL_QUANTITY_UNAVAILABLE")
    else if h : 0 < o.fills.sum ∧ o.fills.sum ≤ notional.1 / fill.1 then
      .ok ⟨o.fills.sum, ⟨fill.1 * o.fills.sum, mul_pos fill.2 h.1⟩⟩
    else .error (.runtimeError "PAPER_PARTIAL_FILL_QUANTITY_INVALID")
  else .ok ⟨notional.1 / fill.1, notional⟩

/-- The size `_persist_pending_paper_position` persists. -/
def paperSize (candidateNotional : Option ℚ) (o : PaperOrder) : Except PyError Size := do
  let requested ← requestedNotional candidateNotional o
  if h : 0 < o.fill ∧ 0 < requested then
    let size ← filledSize o ⟨o.fill, h.1⟩ ⟨requested, h.2⟩
    if |o.fill - o.stop| * size.quantity ≤ 0 then
      .error (.runtimeError "PAPER_POSITION_RISK_INVALID")
    else
      match o.semanticsError with
      | some e => .error e
      | none => .ok size
  else .error (.runtimeError "PAPER_POSITION_SIZE_INVALID")

/-- The arguments of `persist_pending_position`, less the symbol. -/
def PaperOrder.request (o : PaperOrder) (campaignId : String) (size : Size) : OpenRequest where
  tradeId := o.orderId
  campaignId := campaignId
  burninRunId := o.burninRunId
  side := o.side
  entryTime := o.fillTimestamp
  plannedEntry := some o.plannedEntry
  simulatedFill := some o.fill
  stop := some o.stop
  target := o.target
  quantity := some size.quantity
  notional := some size.notional.1
  entrySpread := some (o.spreadPenalty * (|o.fill - o.stop| * size.quantity) / 2)
  entrySlippage := some 0
  entryFee := some (o.feePenalty * (|o.fill - o.stop| * size.quantity) / 2)
  provenance := o.provenance

/-! ## 2. The pending positions -/

/-- `COALESCE(remaining_notional,notional)`. -/
def remaining (r : Position) : Option ℚ := r.remainingNotional.or r.notional

/-- An OPEN row has no negative remainder. -/
def RemainderNonneg (r : Position) : Prop := r.status = .OPEN → ∀ x ∈ remaining r, 0 ≤ x

/-- `burnin_pending_position_outcomes` with its column `symbol`, which no statement updates. -/
structure Book where
  db : Db
  /-- The symbol of each trade id, in the order the rows were inserted. -/
  symbols : Dictionary String String
  bootstrapped : db.Bootstrapped
  listed : ∀ t, t ∈ symbols.keys ↔ (db.position t).isSome
  nonneg : ∀ t r, db.position t = some r → RemainderNonneg r

/-- What the runtime reads of an OPEN row. -/
structure OpenRow where
  symbol : String
  side : String
  notional : ℚ
  deriving DecidableEq, Repr

/-- `SELECT symbol,side,COALESCE(remaining_notional,notional) … WHERE campaign_id=:cid AND
    status='OPEN'`, an empty notional read as 0. -/
def Book.openRows (b : Book) (campaignId : String) : List OpenRow :=
  b.symbols.entries.filterMap fun e =>
    (b.db.position e.1).bind fun r =>
      if r.campaignId = campaignId ∧ r.status = .OPEN then
        some ⟨e.2, r.side, (remaining r).getD 0⟩
      else none

/-! ## 3. What management does to the rows -/

section Management

variable {hash : Request → String} {db db' : Db}

/-- One row has a new value, in order if it is still OPEN. -/
inductive Replaced (db db' : Db) : Prop
  | same (h : db'.position = db.position)
  | row (t : String) (r r' : Position) (hr : db.position t = some r)
      (h : db'.position = (db.setPosition t r').position) (hn : RemainderNonneg r')

theorem remainderNonneg_closed {r : Position} (h : r.status = .CLOSED) : RemainderNonneg r := by
  intro ho
  rw [h] at ho
  cases ho

/-- A partial exit leaves a share of the initial notional. -/
theorem partialSlice_notional {r : Position} {a : Positions.ActionCall} {n : Positions.RowNumbers}
    {s : Positions.Slice} (h : Positions.partialSlice r a n = .ok s) : 0 ≤ s.remainingNotional := by
  obtain ⟨-, -, hrem, -, -, -, -, hnew⟩ := Positions.partialSlice_ok h
  have hpos : 0 < s.newRemaining := by
    rw [hnew]
    have hsmall : (0 : ℚ) < 1 / 10 ^ 12 := by norm_num
    linarith
  have heq : s.remainingNotional = n.initialNotional.1 * s.newRemaining / n.originalQty.1 := by
    unfold Positions.partialSlice at h
    split at h
    · split at h
      · cases h
      · obtain ⟨costs, -, h⟩ := ok_of_bind h
        split at h
        · cases h
        · cases h
          rfl
    · cases h
  rw [heq]
  exact div_nonneg (mul_nonneg n.initialNotional.2.le hpos.le) n.originalQty.2.le

/-- **A management call replaces one row at most**, and leaves no negative remainder. -/
theorem replaced_of_effect {call : Call} (hn : ∀ t r, db.position t = some r → RemainderNonneg r)
    (h : CallEffect hash db call db') : Replaced db db' := by
  cases h with
  | rejected => exact .same rfl
  | act h =>
    cases h with
    | replay e hf ht ha hh => exact .same rfl
    | tighten r ev n stop run hA hact hs =>
      exact .row _ r _ hA.row rfl fun _ x hx => hn _ _ hA.row hA.isOpen x hx
    | trail r ev n run hA hact hc =>
      exact .row _ r _ hA.row rfl fun _ x hx => hn _ _ hA.row hA.isOpen x hx
    | reduce r ev n s run hA hact hs =>
      refine .row _ r _ hA.row rfl fun _ x hx => ?_
      obtain rfl : s.remainingNotional = x := Option.some.inj hx
      exact partialSlice_notional hs
    | protect r ev n price costs k run hA hact hc hk =>
      exact .row _ r _ hA.row rfl (remainderNonneg_closed rfl)
  | close h =>
    cases h with
    | already r hr hc => exact .same rfl
    | closed r k hr ho hk => exact .row _ r _ hr rfl (remainderNonneg_closed rfl)

theorem nonneg_replaced (hn : ∀ t r, db.position t = some r → RemainderNonneg r)
    (h : Replaced db db') : ∀ t r, db'.position t = some r → RemainderNonneg r := by
  intro u w hu
  cases h with
  | same h => exact hn u w (h ▸ hu)
  | row t r r' hr h hn' =>
    rw [h] at hu
    by_cases e : u = t
    · subst e
      rw [Positions.setPosition_self] at hu
      exact Option.some.inj hu ▸ hn'
    · rw [Positions.setPosition_ne db r' e] at hu
      exact hn u w hu

theorem isSome_replaced (h : Replaced db db') (u : String) :
    (db'.position u).isSome = (db.position u).isSome := by
  cases h with
  | same h => rw [h]
  | row t r r' hr h hn' =>
    rw [h]
    by_cases e : u = t
    · subst e
      rw [Positions.setPosition_self, hr]
      rfl
    · rw [Positions.setPosition_ne db r' e]

end Management

/-- A management action or a closure, committed. -/
def Book.manage (hash : Request → String) (b : Book) (call : Call) : Book :=
  have effect := Positions.callEffect_next hash b.bootstrapped call
  have replaced := replaced_of_effect b.nonneg effect
  { db := call.next hash b.db
    symbols := b.symbols
    bootstrapped := Positions.bootstrapped_effect b.bootstrapped effect
    listed := fun t => by rw [b.listed, isSome_replaced replaced]
    nonneg := nonneg_replaced b.nonneg replaced }

/-! ## 4. Opening a position -/

/-- `persist_pending_position`: INSERT OR IGNORE, the trade id is UNIQUE. -/
def Book.persist (b : Book) (campaignId : String) (o : PaperOrder) (size : Size) : Book :=
  if h : o.orderId ∈ b.symbols.keys then b
  else
    { db := b.db.setPosition o.orderId (o.request campaignId size).row
      symbols := b.symbols.set o.orderId o.symbol
      bootstrapped := Positions.bootstrapped_setPosition b.bootstrapped (Positions.coalesce_row _)
      listed := fun t => by
        unfold Dictionary.keys Dictionary.set
        rw [mem_keys_assign]
        by_cases e : t = o.orderId
        · subst e
          simp
        · rw [Positions.setPosition_ne b.db _ e, ← b.listed]
          simp [e, Dictionary.keys]
      nonneg := fun t r hr => by
        by_cases e : t = o.orderId
        · subst e
          rw [Positions.setPosition_self] at hr
          cases hr
          intro _ x hx
          obtain rfl : size.notional.1 = x := Option.some.inj hx
          exact size.notional.2.le
        · rw [Positions.setPosition_ne b.db _ e] at hr
          exact b.nonneg t r hr }

/-- The database of that is the one `persist_pending_position` leaves. -/
theorem persist_db (b : Book) (campaignId : String) (o : PaperOrder) (size : Size) :
    (b.persist campaignId o size).db =
      (persistPendingPosition (o.request campaignId size)).after b.db := by
  have hrun : (persistPendingPosition (o.request campaignId size)).run b.db =
      .ok ((), (b.db.position o.orderId).elim
        (b.db.setPosition o.orderId (o.request campaignId size).row) fun _ => b.db) := by
    have hposition : b.db.position (o.request campaignId size).tradeId =
      b.db.position o.orderId := rfl
    unfold persistPendingPosition
    rw [Prog.run_bind, Positions.run_bootstrap b.bootstrapped]
    simp only [Except.bind, Prog.run_update, hposition]
    cases b.db.position o.orderId <;> rfl
  rw [Prog.after_ok hrun]
  unfold Book.persist
  by_cases h : o.orderId ∈ b.symbols.keys
  · obtain ⟨r, hr⟩ := Option.isSome_iff_exists.mp ((b.listed _).mp h)
    rw [dif_pos h, hr]
    rfl
  · have hnone : b.db.position o.orderId = none := by
      by_contra hne
      exact h ((b.listed _).mpr (Option.isSome_iff_ne_none.mpr hne))
    rw [dif_neg h, hnone]
    rfl

/-! ## 5. The map and its writers -/

/-- `_active_positions[symbol]` and `_active_position_sides[symbol]`. -/
structure Holding where
  notional : ℚ
  side : String
  deriving DecidableEq, Repr

/-- `str(side or "UNKNOWN").upper()`. -/
def holdingSide (side : String) : String := upper (if side = "" then "UNKNOWN" else side)

/-- A row of the legacy positions table; no side is read from it. -/
structure LegacyRow where
  symbol : String
  qty : Option ℚ
  status : String
  deriving DecidableEq, Repr

/-- `load_active_positions`. -/
def LegacyRow.active (r : LegacyRow) : Bool :=
  upper (strip r.status) ∈ ["OPEN", "POSITION_OPENED", "ACTIVE"]

/-- What `_load_recovery_state` assigns: quantities. -/
def recovered (rows : List LegacyRow) : List (String × Holding) :=
  (rows.filter LegacyRow.active).map fun r => (r.symbol, ⟨r.qty.getD 0, "UNKNOWN"⟩)

def OpenRow.entry (r : OpenRow) : String × Holding :=
  (upper r.symbol, ⟨r.notional, holdingSide r.side⟩)

/-- What the attachment and the sync assign: the OPEN rows that have a symbol. -/
def mirrored (rows : List OpenRow) : List (String × Holding) :=
  (rows.map OpenRow.entry).filter fun e => e.1 ≠ ""

/-- The tables and one PAPER runtime. -/
structure World where
  book : Book
  legacy : List LegacyRow
  memory : Dictionary String Holding
  campaignId : Option String

/-- Results that open no position. -/
def unopened : List String := ["rejected", "exchange_reject", "timeout", "error", "missing_ack"]

/-- The end of `_execute`: the symbol as it came, the first non-zero notional. -/
def World.hold (w : World) (o : PaperOrder) (paperNotional : Option ℚ) : World :=
  let notional := orElse paperNotional (orElse o.notional (orElse o.notionalUsdt o.orderNotional))
  { w with memory := w.memory.set o.symbol ⟨notional.getD 0, holdingSide o.side⟩ }

/-- `_execute` in PAPER mode, past its gates; what raises leaves everything as it was. -/
def World.execute (candidateNotional : Option ℚ) (w : World) (o : PaperOrder) : World :=
  if o.status ∈ unopened then w
  else
    match w.campaignId with
    | none => if o.status = "no_submit_verified" then w else w.hold o none
    | some cid =>
      match paperSize candidateNotional o with
      | .error _ => w
      | .ok size =>
        let committed := { w with book := w.book.persist cid o size }
        if o.status = "no_submit_verified" then committed
        else committed.hold o (some size.notional.1)

/-- `_attach_phase8_campaign` whose identity checks pass; the bootstrap finds nothing to fill. -/
def World.attach (w : World) (cid : String) : World :=
  { w with
    memory := w.memory.update (mirrored (w.book.openRows cid))
    campaignId := some cid }

/-- `_sync_resolved_paper_positions`. -/
def World.sync (w : World) : World :=
  match w.campaignId with
  | none => w
  | some cid =>
    let rows := mirrored (w.book.openRows cid)
    { w with memory := (w.memory.update rows).keep fun key => key ∈ rows.map Prod.fst }

/-- `symbol in self._active_positions`, the DUPLICATE_POSITION gate of `_evaluate_runtime_risk`. -/
def World.duplicate (w : World) (symbol : String) : Bool := symbol ∈ w.memory.keys

inductive Event where
  | execute (o : PaperOrder)
  /-- A row committed by a runtime that did not get to its map, or by another one. -/
  | commit (cid : String) (o : PaperOrder)
  /-- A partial exit, a closure or another management call. -/
  | manage (call : Call)
  /-- The legacy table is rewritten. -/
  | legacy (rows : List LegacyRow)
  /-- A new process. -/
  | restart
  /-- `_load_recovery_state`. -/
  | recover
  | attach (cid : String)
  | sync

def World.next (hash : Request → String) (candidateNotional : Option ℚ) (w : World) :
    Event → World
  | .execute o => w.execute candidateNotional o
  | .commit cid o =>
    match paperSize candidateNotional o with
    | .error _ => w
    | .ok size => { w with book := w.book.persist cid o size }
  | .manage call => { w with book := w.book.manage hash call }
  | .legacy rows => { w with legacy := rows }
  | .restart => { w with memory := Dictionary.empty, campaignId := none }
  | .recover => { w with memory := w.memory.update (recovered w.legacy) }
  | .attach cid => w.attach cid
  | .sync => w.sync

/-! ## 6. The exposures -/

/-- The exposures of `PortfolioRiskSnapshot`. -/
structure Exposures where
  totalNotionalExposure : ℚ
  symbolNotionalExposures : Dictionary String ℚ
  symbolNotionalExposure : ℚ
  sideExposureLong : ℚ
  sideExposureShort : ℚ

/-- One round of the loop of `snapshot_from_state`; a notional of 0 reads as missing. -/
def Exposures.add (symbol : String) (x : Exposures) (e : String × Holding) : Exposures :=
  let notional := |e.2.notional|
  let normalizedSymbol := upper e.1
  let pside := upper e.2.side
  if e.2.notional = 0 then x
  else
    { totalNotionalExposure := x.totalNotionalExposure + notional
      symbolNotionalExposures := x.symbolNotionalExposures.set normalizedSymbol
        ((x.symbolNotionalExposures.get? normalizedSymbol).getD 0 + notional)
      symbolNotionalExposure :=
        if normalizedSymbol = upper symbol then x.symbolNotionalExposure + notional
        else x.symbolNotionalExposure
      sideExposureLong :=
        if pside = "SHORT" then x.sideExposureLong else x.sideExposureLong + notional
      sideExposureShort :=
        if pside = "SHORT" then x.sideExposureShort + notional else x.sideExposureShort }

/-- `snapshot_from_state` on the map the runtime hands over. -/
def snapshotFromState (symbol : String) (positions : Dictionary String Holding) : Exposures :=
  positions.entries.foldl (Exposures.add symbol) ⟨0, Dictionary.empty, 0, 0, 0⟩

/-- The remaining notional of the rows in `p`. -/
def notionalOf (p : OpenRow → Prop) [DecidablePred p] (rows : List OpenRow) : ℚ :=
  ((rows.filter fun r => p r).map OpenRow.notional).sum

/-- The exposures are the rows': in total, for each symbol and for each side, whatever symbol the
    snapshot is taken for. -/
structure Agrees (positions : Dictionary String Holding) (rows : List OpenRow) : Prop where
  total : ∀ symbol, (snapshotFromState symbol positions).totalNotionalExposure =
    notionalOf (fun _ => True) rows
  symbols : ∀ symbol key, ((snapshotFromState symbol positions).symbolNotionalExposures.get?
    (upper key)).getD 0 = notionalOf (fun r => upper r.symbol = upper key) rows
  symbol : ∀ symbol, (snapshotFromState symbol positions).symbolNotionalExposure =
    notionalOf (fun r => upper r.symbol = upper symbol) rows
  long : ∀ symbol, (snapshotFromState symbol positions).sideExposureLong =
    notionalOf (fun r => sideOf r.side ≠ "SHORT") rows
  short : ∀ symbol, (snapshotFromState symbol positions).sideExposureShort =
    notionalOf (fun r => sideOf r.side = "SHORT") rows

/-! ## 7. Exposures as sums -/

/-- What an entry adds to the exposures that `p` selects. -/
def weight (p : String → Holding → Prop) [∀ key h, Decidable (p key h)] (key : String)
    (h : Holding) : ℚ := if p key h then |h.notional| else 0

/-- A part of the exposures that starts at 0 and takes the weight of every entry. -/
structure Counts (symbol : String) (f : Exposures → ℚ) (w : String → Holding → ℚ) : Prop where
  start : f ⟨0, Dictionary.empty, 0, 0, 0⟩ = 0
  step : ∀ x e, f (x.add symbol e) = f x + w e.1 e.2

theorem snapshot_eq {symbol : String} {f : Exposures → ℚ} {w : String → Holding → ℚ}
    (h : Counts symbol f w) (positions : Dictionary String Holding) :
    f (snapshotFromState symbol positions) = positions.sum w := by
  have hfold := foldl_rowSum h.step positions.entries ⟨0, Dictionary.empty, 0, 0, 0⟩
  rw [h.start, zero_add] at hfold
  exact hfold

theorem counts_total (symbol : String) :
    Counts symbol Exposures.totalNotionalExposure (weight fun _ _ => True) where
  start := rfl
  step x e := by
    unfold Exposures.add weight
    by_cases h : e.2.notional = 0
    · simp [h]
    · simp [h]

theorem counts_symbols (symbol key : String) :
    Counts symbol (fun x => (x.symbolNotionalExposures.get? key).getD 0)
      (weight fun k _ => upper k = key) where
  start := rfl
  step x e := by
    unfold Exposures.add weight
    by_cases h : e.2.notional = 0
    · simp [h]
    · simp only [h, if_false]
      unfold Dictionary.set Dictionary.get?
      dsimp only
      rw [lookup_assign]
      by_cases hk : upper e.1 = key
      · subst hk
        simp
      · have hk' : ¬ key = upper e.1 := fun h => hk h.symm
        simp [hk, hk']

theorem counts_symbol (symbol : String) :
    Counts symbol Exposures.symbolNotionalExposure
      (weight fun k _ => upper k = upper symbol) where
  start := rfl
  step x e := by
    unfold Exposures.add weight
    by_cases h : e.2.notional = 0
    · simp [h]
    · by_cases hk : upper e.1 = upper symbol
      · simp [h, hk]
      · simp [h, hk]

theorem counts_long (symbol : String) :
    Counts symbol Exposures.sideExposureLong (weight fun _ h => upper h.side ≠ "SHORT") where
  start := rfl
  step x e := by
    unfold Exposures.add weight
    by_cases h : e.2.notional = 0
    · simp [h]
    · by_cases hk : upper e.2.side = "SHORT"
      · simp [h, hk]
      · simp [h, hk]

theorem counts_short (symbol : String) :
    Counts symbol Exposures.sideExposureShort (weight fun _ h => upper h.side = "SHORT") where
  start := rfl
  step x e := by
    unfold Exposures.add weight
    by_cases h : e.2.notional = 0
    · simp [h]
    · by_cases hk : upper e.2.side = "SHORT"
      · simp [h, hk]
      · simp [h, hk]

/-! ## 8. What the rows lose -/

/-- Every OPEN row that a later one with the same symbol overwrites, whatever the case, and every
    one without a symbol, has nothing left. -/
def Apart (rows : List OpenRow) : Prop :=
  (∀ e ∈ hidden (mirrored rows), e.2.notional = 0) ∧
    ∀ r ∈ rows, upper r.symbol = "" → r.notional = 0

instance (rows : List OpenRow) : Decidable (Apart rows) :=
  inferInstanceAs (Decidable ((∀ e ∈ hidden (mirrored rows), e.2.notional = 0) ∧
    ∀ r ∈ rows, upper r.symbol = "" → r.notional = 0))

/-- A selection of entries and the selection of rows it stands for. -/
structure Selects (p : String → Holding → Prop) (q : OpenRow → Prop) : Prop where
  iff : ∀ r : OpenRow, p r.entry.1 r.entry.2 ↔ q r

section Rows

variable {p : String → Holding → Prop} [∀ key h, Decidable (p key h)]
  {q : OpenRow → Prop} [DecidablePred q] {rows : List OpenRow}

/-- The notional of the rows that have no symbol. -/
def unnamed (q : OpenRow → Prop) [DecidablePred q] (rows : List OpenRow) : ℚ :=
  notionalOf (fun r => q r ∧ upper r.symbol = "") rows

theorem notionalOf_cons (q : OpenRow → Prop) [DecidablePred q] (r : OpenRow)
    (rows : List OpenRow) :
    notionalOf q (r :: rows) = (if q r then r.notional else 0) + notionalOf q rows := by
  unfold notionalOf
  by_cases h : q r
  · rw [List.filter_cons_of_pos (by simpa using h), List.map_cons, List.sum_cons, if_pos h]
  · rw [List.filter_cons_of_neg (by simpa using h), if_neg h, zero_add]

theorem mirrored_cons (r : OpenRow) (rows : List OpenRow) :
    mirrored (r :: rows) =
      if upper r.symbol = "" then mirrored rows else r.entry :: mirrored rows := by
  unfold mirrored
  by_cases h : upper r.symbol = ""
  · simp [OpenRow.entry, h]
  · simp [OpenRow.entry, h]

/-- The rows' notional: what the map keeps, what is overwritten, and what has no symbol. -/
theorem notionalOf_split (h : Selects p q) (hn : ∀ r ∈ rows, 0 ≤ r.notional) :
    notionalOf q rows = rowSum (weight p) (latest (mirrored rows)) +
      (rowSum (weight p) (hidden (mirrored rows)) + unnamed q rows) := by
  have hsum : notionalOf q rows = rowSum (weight p) (mirrored rows) + unnamed q rows := by
    unfold unnamed
    induction rows with
    | nil => simp [notionalOf, mirrored]
    | cons r rest ih =>
      have ih := ih fun a ha => hn a (List.mem_cons_of_mem _ ha)
      have hw : weight p r.entry.1 r.entry.2 = if q r then r.notional else 0 := by
        unfold weight
        have habs : |r.entry.2.notional| = r.notional :=
          abs_of_nonneg (hn r List.mem_cons_self)
        rw [habs]
        exact if_congr (h.iff r) rfl rfl
      rw [notionalOf_cons, notionalOf_cons, ih]
      by_cases hs : upper r.symbol = ""
      · rw [mirrored_cons, if_pos hs]
        by_cases hq : q r
        · rw [if_pos hq, if_pos ⟨hq, hs⟩]
          ring
        · rw [if_neg hq, if_neg (fun hc => hq hc.1)]
          ring
      · rw [mirrored_cons, if_neg hs, rowSum_cons, hw, if_neg (fun hc : q r ∧ _ => hs hc.2)]
        ring
  rw [hsum, latest_add_hidden]
  ring

theorem weight_nonneg (key : String) (h : Holding) : 0 ≤ weight p key h := by
  unfold weight
  split
  · exact abs_nonneg _
  · exact le_refl 0

theorem weight_of_zero {key : String} {h : Holding} (hz : h.notional = 0) :
    weight p key h = 0 := by
  unfold weight
  rw [hz, abs_zero, ite_self]

/-- Rows that are apart lose nothing. -/
theorem lost_of_apart (h : Apart rows) :
    rowSum (weight p) (hidden (mirrored rows)) + unnamed q rows = 0 := by
  have hhidden : rowSum (weight p) (hidden (mirrored rows)) = 0 := by
    refine List.sum_eq_zero fun x hx => ?_
    obtain ⟨e, he, rfl⟩ := List.mem_map.mp hx
    exact weight_of_zero (h.1 e he)
  have hunnamed : unnamed q rows = 0 := by
    refine List.sum_eq_zero fun x hx => ?_
    obtain ⟨r, hr, rfl⟩ := List.mem_map.mp hx
    obtain ⟨hmem, hq⟩ := List.mem_filter.mp hr
    exact h.2 r hmem (of_decide_eq_true hq).2
  rw [hhidden, hunnamed, add_zero]

/-- Rows that lose nothing in total are apart. -/
theorem apart_iff_lost (hn : ∀ r ∈ rows, 0 ≤ r.notional) :
    rowSum (weight fun _ _ => True) (hidden (mirrored rows)) + unnamed (fun _ => True) rows = 0 ↔
      Apart rows := by
  constructor
  · intro h
    have hhidden : 0 ≤ rowSum (weight fun _ _ => True) (hidden (mirrored rows)) :=
      List.sum_nonneg fun x hx => by
        obtain ⟨e, _, rfl⟩ := List.mem_map.mp hx
        exact weight_nonneg e.1 e.2
    have hmem : ∀ r ∈ rows.filter (fun r => decide (True ∧ upper r.symbol = "")),
        0 ≤ r.notional := fun r hr => hn r (List.mem_filter.mp hr).1
    have hunnamed : 0 ≤ unnamed (fun _ => True) rows :=
      List.sum_nonneg fun x hx => by
        obtain ⟨r, hr, rfl⟩ := List.mem_map.mp hx
        exact hmem r hr
    obtain ⟨h₁, h₂⟩ := (add_eq_zero_iff_of_nonneg hhidden hunnamed).mp h
    constructor
    · intro e he
      have hz := (sum_map_eq_zero_iff fun e _ => weight_nonneg e.1 e.2).mp h₁ e he
      unfold weight at hz
      rw [if_pos trivial] at hz
      exact abs_eq_zero.mp hz
    · intro r hr hs
      exact (sum_map_eq_zero_iff hmem).mp h₂ r
        (List.mem_filter.mpr ⟨hr, decide_eq_true ⟨trivial, hs⟩⟩)
  · intro h
    exact lost_of_apart h

end Rows

/-! ## 9. The map after a sync or an attachment -/

/-- The campaign whose OPEN rows an event copies into the map. -/
def World.mirrors (w : World) : Event → Option String
  | .attach cid => some cid
  | .sync => w.campaignId
  | _ => none

/-- What an attachment leaves in the map from elsewhere; a sync leaves nothing. -/
def World.stale (w : World) : Event → List (String × Holding)
  | .attach cid =>
    let keys := (mirrored (w.book.openRows cid)).map Prod.fst
    w.memory.entries.filter fun e => e.1 ∉ keys ∧ e.2.notional ≠ 0
  | _ => []

section Runs

variable (hash : Request → String) (candidateNotional : Option ℚ)
variable {p : String → Holding → Prop} [∀ key h, Decidable (p key h)]

theorem openRows_nonneg (b : Book) (cid : String) : ∀ r ∈ b.openRows cid, 0 ≤ r.notional := by
  intro r hr
  obtain ⟨e, _, he⟩ := List.mem_filterMap.mp hr
  obtain ⟨row, hrow, hsel⟩ := Option.bind_eq_some_iff.mp he
  by_cases hopen : row.campaignId = cid ∧ row.status = .OPEN
  · rw [if_pos hopen] at hsel
    cases hsel
    have hn := b.nonneg e.1 row hrow hopen.2
    cases hrem : remaining row with
    | none => exact le_refl 0
    | some x => exact hn x hrem
  · rw [if_neg hopen] at hsel
    cases hsel

/-- **After a sync or an attachment** the map holds the latest row of each symbol, and what an
    attachment leaves. -/
theorem memory_mirrors {w : World} {e : Event} {cid : String} (he : w.mirrors e = some cid) :
    (w.next hash candidateNotional e).memory.sum (weight p) =
      rowSum (weight p) (w.stale e) +
        rowSum (weight p) (latest (mirrored (w.book.openRows cid))) := by
  cases e with
  | attach c =>
    obtain rfl : c = cid := Option.some.inj he
    have hstale : rowSum (weight p) (w.stale (.attach c)) = w.memory.sum fun key h =>
        if key ∈ (mirrored (w.book.openRows c)).map Prod.fst then 0 else weight p key h := by
      refine rowSum_filter w.memory.entries fun key h => ?_
      by_cases hkey : key ∈ (mirrored (w.book.openRows c)).map Prod.fst
      · simp [hkey]
      · by_cases hz : h.notional = 0
        · rw [if_neg hkey, weight_of_zero hz, ite_self]
        · simp [hkey, hz]
    show (w.memory.update (mirrored (w.book.openRows c))).sum (weight p) = _
    rw [Dictionary.sum_update, hstale]
  | sync =>
    show w.sync.memory.sum (weight p) = _
    have hc : w.campaignId = some cid := he
    unfold World.sync
    rw [hc]
    show Dictionary.sum (weight p) ((w.memory.update (mirrored (w.book.openRows cid))).keep
      fun key => key ∈ (mirrored (w.book.openRows cid)).map Prod.fst) = _
    rw [Dictionary.sum_keep_update]
    exact (zero_add _).symm
  | execute | commit | manage | legacy | restart | recover => cases he

theorem book_mirrors {w : World} {e : Event} {cid : String} (he : w.mirrors e = some cid) :
    (w.next hash candidateNotional e).book = w.book := by
  cases e with
  | attach c => rfl
  | sync =>
    show w.sync.book = w.book
    unfold World.sync
    split
    · rfl
    · rfl
  | execute | commit | manage | legacy | restart | recover => cases he

end Runs

/-! ## 10. When the exposures are the rows' -/

theorem upper_holdingSide (side : String) :
    upper (holdingSide side) = "SHORT" ↔ sideOf side = "SHORT" := by
  unfold holdingSide sideOf
  rw [upper_upper]
  by_cases h : side = ""
  · rw [if_pos h, if_pos h]
    decide
  · rw [if_neg h, if_neg h]

theorem selects_all : Selects (fun _ _ => True) (fun _ => True) := ⟨fun _ => Iff.rfl⟩

theorem selects_symbol (symbol : String) : Selects (fun key _ => upper key = upper symbol)
    (fun r => upper r.symbol = upper symbol) :=
  ⟨fun r => by
    show upper (upper r.symbol) = _ ↔ _
    rw [upper_upper]⟩

theorem selects_short : Selects (fun _ h => upper h.side = "SHORT")
    (fun r => sideOf r.side = "SHORT") :=
  ⟨fun r => upper_holdingSide r.side⟩

theorem selects_long : Selects (fun _ h => upper h.side ≠ "SHORT")
    (fun r => sideOf r.side ≠ "SHORT") :=
  ⟨fun r => not_congr (upper_holdingSide r.side)⟩

/-- Whatever the selection, the sums agree: then so do the exposures. -/
theorem agrees_of_sums {positions : Dictionary String Holding} {rows : List OpenRow}
    (h : ∀ (p : String → Holding → Prop) [∀ key h, Decidable (p key h)] (q : OpenRow → Prop)
      [DecidablePred q], Selects p q → positions.sum (weight p) = notionalOf q rows) :
    Agrees positions rows where
  total symbol := (snapshot_eq (counts_total symbol) positions).trans (h _ _ selects_all)
  symbols symbol key :=
    (snapshot_eq (counts_symbols symbol (upper key)) positions).trans (h _ _ (selects_symbol key))
  symbol symbol := (snapshot_eq (counts_symbol symbol) positions).trans
    (h _ _ (selects_symbol symbol))
  long symbol := (snapshot_eq (counts_long symbol) positions).trans (h _ _ selects_long)
  short symbol := (snapshot_eq (counts_short symbol) positions).trans (h _ _ selects_short)

theorem stale_sum_eq_zero_iff (w : World) (e : Event) :
    rowSum (weight fun _ _ => True) (w.stale e) = 0 ↔ w.stale e = [] := by
  constructor
  · intro h
    have hall := (sum_map_eq_zero_iff fun a _ => weight_nonneg a.1 a.2).mp h
    refine List.eq_nil_iff_forall_not_mem.mpr fun a ha => ?_
    have hz := hall a ha
    unfold weight at hz
    rw [if_pos trivial, abs_eq_zero] at hz
    cases e with
    | attach cid =>
      have hmem := of_decide_eq_true (List.mem_filter.mp ha).2
      exact hmem.2 hz
    | sync | execute | commit | manage | legacy | restart | recover => cases ha
  · intro h
    rw [h]
    rfl

/-- **Exposures against rows.** In every run of the runtime and of the tables below it, right
    after a sync or an attachment: where the OPEN rows are apart and nothing else is left in the
    map, the exposures are the rows' remaining notionals, in total, for each symbol and for each
    side; and where the exposures are the rows', nothing is left exactly if the rows are apart.
    A sync leaves nothing, so after a sync the exposures are right exactly if the rows are apart. -/
theorem exposures_match (hash : Request → String) (candidateNotional : Option ℚ) (w : World)
    (events : List Event) (e : Event) (cid : String)
    (he : (runEvents (World.next hash candidateNotional) w events).mirrors e = some cid) :
    let before := runEvents (World.next hash candidateNotional) w events
    let after := before.next hash candidateNotional e
    let rows := before.book.openRows cid
    (Apart rows ∧ before.stale e = [] → Agrees after.memory (after.book.openRows cid)) ∧
      (Agrees after.memory (after.book.openRows cid) → (Apart rows ↔ before.stale e = [])) ∧
      (e = .sync → before.stale e = []) := by
  intro before after rows
  have hbook : after.book = before.book := book_mirrors hash candidateNotional he
  have hn : ∀ r ∈ rows, 0 ≤ r.notional := openRows_nonneg before.book cid
  rw [hbook]
  refine ⟨fun ⟨hapart, hstale⟩ => agrees_of_sums fun p _ q _ hpq => ?_, fun hagrees => ?_, ?_⟩
  · have hmem := memory_mirrors hash candidateNotional (p := p) he
    rw [hmem, notionalOf_split hpq hn, lost_of_apart hapart]
    show rowSum (weight p) (before.stale e) + _ = _
    rw [hstale, rowSum_nil, zero_add, add_zero]
  · -- the total: what is left from elsewhere is what the rows lose
    have hmem := memory_mirrors hash candidateNotional (p := fun _ _ => True) he
    have htotal := hagrees.total ""
    rw [snapshot_eq (counts_total ""), hmem, notionalOf_split selects_all hn, add_comm] at htotal
    have hbalance := add_left_cancel htotal
    rw [← apart_iff_lost hn, ← stale_sum_eq_zero_iff, ← hbalance]
  · intro h
    subst h
    rfl

/-- No rows, no legacy positions, a new process. -/
def freshWorld : World where
  book :=
    { db := ⟨fun _ => none, [], fun _ => some (some "R1")⟩
      symbols := Dictionary.empty
      bootstrapped := fun _ _ h => nomatch h
      listed := fun _ => by simp [Dictionary.keys, Dictionary.empty]
      nonneg := fun _ _ h => nomatch h }
  legacy := []
  memory := Dictionary.empty
  campaignId := none

/-- A LONG order of a given notional. -/
def sampleOrder (orderId symbol : String) (notional : ℚ) : PaperOrder where
  orderId := orderId
  symbol := symbol
  side := "LONG"
  status := "filled"
  notional := some notional
  notionalUsdt := none
  orderNotional := none
  quantity := none
  qty := none
  fill := 100
  plannedEntry := 100
  stop := 90
  target := some 120
  fills := []
  semanticsError := none
  spreadPenalty := 0
  feePenalty := 0
  burninRunId := "R1"
  fillTimestamp := ⟨"2026-01-01T00:00:00+00:00", some ⟨some 0, 0⟩⟩
  provenance := ⟨.text "USD", none, none, .text "R"⟩

/-- The state after a run from the fresh world. -/
def sampleRun (events : List Event) : World :=
  runEvents (World.next (fun _ => "") none) freshWorld events

/-- Two orders for one symbol in lower case: the sync renames the first entry, so the gate against
    a second position does not find it, and the next sync keeps one of the two rows. -/
def lowerCaseRun : List Event :=
  [.attach "C", .execute (sampleOrder "O1" "btcusdt" 100), .sync,
    .execute (sampleOrder "O2" "btcusdt" 50), .sync]

/-- A legacy position: its quantity is loaded, and stays where a notional is expected. -/
def legacyRun : List Event :=
  [.legacy [⟨"ETHUSDT", some 2, "OPEN"⟩], .restart, .recover, .attach "C"]

/-- The gate admits both orders and the exposure is 50 where the rows have 150; and a restart
    leaves an exposure of 2 where there are no rows. -/
theorem exposures_differ :
    (sampleRun (lowerCaseRun.take 1)).duplicate "btcusdt" = false ∧
      (sampleRun (lowerCaseRun.take 3)).duplicate "btcusdt" = false ∧
      ¬ Agrees (sampleRun lowerCaseRun).memory ((sampleRun lowerCaseRun).book.openRows "C") ∧
      ¬ Agrees (sampleRun legacyRun).memory ((sampleRun legacyRun).book.openRows "C") := by
  refine ⟨by decide +kernel, by decide +kernel, fun h => ?_, fun h => ?_⟩
  · exact absurd (h.total "BTCUSDT") (by decide +kernel)
  · exact absurd (h.total "BTCUSDT") (by decide +kernel)

/-- Two different symbols, both in lower case. -/
theorem exposures_match_sample :
    Agrees (sampleRun [.attach "C", .execute (sampleOrder "O1" "btcusdt" 100),
      .execute (sampleOrder "O2" "ethusdt" 50), .sync]).memory
      ((sampleRun [.attach "C", .execute (sampleOrder "O1" "btcusdt" 100),
        .execute (sampleOrder "O2" "ethusdt" 50), .sync]).book.openRows "C") :=
  (exposures_match (fun _ => "") none freshWorld [.attach "C",
    .execute (sampleOrder "O1" "btcusdt" 100), .execute (sampleOrder "O2" "ethusdt" 50)] .sync "C"
    (by decide +kernel)).1 ⟨by decide +kernel, rfl⟩

end AlphaForge.Portfolio
