/-
  File:      AlphaForge/Positions/Lifecycle.lean
  Subject:   A paper position from its opening on, through every sequence of management actions
             and closures.

  * `Managed`, `managed_run` -- the ledger of an OPEN trade and its entry columns hold after every
    sequence of calls, whatever is rejected in between.
  * `stop_run` -- the stop of an OPEN trade only ever moved in the protective direction.
  * `management_invariant` -- both, and what a second call with a recorded event id does.
-/
import AlphaForge.Positions.Trade
import Mathlib.Data.List.Induction
import Mathlib.Tactic.NormNum

namespace AlphaForge.Positions

open AlphaForge.Lib
open AlphaForge.Candles (sideOf)

variable {hash : Request → String} {kw : OpenRequest} {quantity : ℚ} {db : Db}

/-! ## 1. The invariant of a managed trade -/

/-- `db₀` is a database in which `persist_pending_position` has just opened a new trade. -/
def Opened (kw : OpenRequest) (db₀ : Db) : Prop :=
  ∃ db, db.position kw.tradeId = none ∧ managementEvents db kw.tradeId = [] ∧
    (persistPendingPosition kw).run db = .ok ((), db₀)

/-- The opened trade is there with its entry columns; while OPEN its ledger holds. -/
structure Managed (kw : OpenRequest) (quantity : ℚ) (db : Db) : Prop where
  bootstrapped : db.Bootstrapped
  trade : ∃ v, db.trade kw.tradeId = some v ∧ v.row.atEntry = kw.row ∧
    (v.row.status = .OPEN → OpenLedger quantity v)

theorem opened_eq {db₀ : Db} (h : Opened kw db₀) :
    ∃ db, managementEvents db kw.tradeId = [] ∧
      db₀ = db.coalesce.setPosition kw.tradeId kw.row := by
  obtain ⟨db, hnone, hev, hrun⟩ := h
  refine ⟨db, hev, ?_⟩
  have hn : db.coalesce.position kw.tradeId = none := by
    show (db.position kw.tradeId).map Position.coalesce = none
    rw [hnone]
    rfl
  unfold persistPendingPosition bootstrapCampaignSchema at hrun
  have hrun := Prog.run_update_bind hrun
  rw [Prog.run_update, hn] at hrun
  cases hrun
  rfl

/-- The ledger of a trade that has just been opened. -/
theorem managed_opened {db₀ : Db} (h : Opened kw db₀) (hq : kw.quantity = some quantity)
    (hpos : 0 < quantity) : Managed kw quantity db₀ := by
  obtain ⟨db, hev, rfl⟩ := opened_eq h
  refine ⟨bootstrapped_setPosition (bootstrapped_coalesce db) (coalesce_row kw), ?_⟩
  refine ⟨⟨kw.row, []⟩, trade_eq_some.mpr ⟨setPosition_self .., hev⟩, rfl, fun _ => ?_⟩
  have hsum : ∀ column, Trade.partialSum ⟨kw.row, []⟩ column = 0 := fun _ => rfl
  refine ⟨hq, ?_, ?_, ?_, rfl, ?_, ?_, ?_, ?_⟩
  · rw [hsum, sub_zero]
    exact hq
  · rwa [hsum, sub_zero]
  · rw [hsum]
  · rw [hsum]
    rfl
  · rw [hsum]
    rfl
  · rw [hsum]
    rfl
  · show (0 : ℚ) = 0 - 0
    rw [sub_zero]

theorem managed_next (h : Managed kw quantity db) (call : Call) :
    Managed kw quantity (call.next hash db) := by
  have he := callEffect_next hash h.bootstrapped call
  obtain ⟨v, hv, hentry, hledger⟩ := h.trade
  obtain ⟨v', hv', hs⟩ := tradeStep_of_effect he hv
  refine ⟨bootstrapped_effect h.bootstrapped he, v', hv', ?_, fun ho => ?_⟩
  · rw [atEntry_step hs, hentry]
  · exact openLedger_step (hledger (open_before hs ho)) hs ho

theorem runCalls_append (hash : Request → String) (db : Db) (earlier later : List Call) :
    runCalls hash db (earlier ++ later) = runCalls hash (runCalls hash db earlier) later :=
  List.foldl_append ..

theorem runCalls_concat (hash : Request → String) (db : Db) (calls : List Call) (call : Call) :
    runCalls hash db (calls ++ [call]) = call.next hash (runCalls hash db calls) :=
  runCalls_append ..

/-- **The invariant holds after every sequence of calls.** -/
theorem managed_run (hash : Request → String) (h : Managed kw quantity db) (calls : List Call) :
    Managed kw quantity (runCalls hash db calls) := by
  induction calls using List.reverseRecOn with
  | nil => exact h
  | append_singleton calls call ih =>
    rw [runCalls_concat]
    exact managed_next ih call

/-! ## 2. The stop -/

/-- From `before` to `after` the stop moved in the protective direction or not at all. -/
def StopAdvances (side : String) (before after : Option ℚ) : Prop :=
  match before, after with
  | some b, some a => if side = "LONG" then b ≤ a else a ≤ b
  | none, none => True
  | _, _ => False

theorem stopAdvances_refl (side : String) (s : Option ℚ) : StopAdvances side s s := by
  cases s with
  | none => trivial
  | some x =>
    unfold StopAdvances
    simp

theorem stopAdvances_trans {side : String} {s₁ s₂ s₃ : Option ℚ} (h₁ : StopAdvances side s₁ s₂)
    (h₂ : StopAdvances side s₂ s₃) : StopAdvances side s₁ s₃ := by
  cases s₁ with
  | none =>
    cases s₂ with
    | none => exact h₂
    | some y => exact h₁.elim
  | some x =>
    cases s₂ with
    | none => exact h₁.elim
    | some y =>
      cases s₃ with
      | none => exact h₂.elim
      | some z =>
        simp only [StopAdvances] at h₁ h₂ ⊢
        split
        · rename_i hl
          rw [if_pos hl] at h₁ h₂
          exact h₁.trans h₂
        · rename_i hl
          rw [if_neg hl] at h₁ h₂
          exact h₂.trans h₁

/-- One call moves the stop of a trade that stays open in the protective direction only. -/
theorem stop_step {call : Call} {v v' : Trade} (h : TradeStep hash call v v')
    (hc : v.row.coalesce = v.row)
    (ho : v'.row.status = .OPEN) :
    StopAdvances (sideOf v.row.side) v.row.currentStop v'.row.currentStop := by
  cases h with
  | same => exact stopAdvances_refl _ _
  | tighten a hcall ev n stop run hR hact hs =>
    obtain ⟨-, -, -, -, hcur, -, -⟩ := rowNumbers_ok hR.numbers
    rw [((coalesce_eq_self_iff hR.isOpen).mp hc).1] at hcur
    have ht := tightenedStop_ok hs
    show StopAdvances _ v.row.currentStop (some stop.1)
    rw [hcur]
    unfold Tightens at ht
    unfold StopAdvances
    simp only
    split
    · rename_i hl
      rw [if_pos hl] at ht
      exact ht.le
    · rename_i hl
      rw [if_neg hl] at ht
      exact ht.le
  | trail => exact stopAdvances_refl _ _
  | reduce => exact stopAdvances_refl _ _
  | protect => cases ho
  | close => cases ho

/-- **The stop of an open trade only ever moved in the protective direction.** -/
theorem stop_run (h : Managed kw quantity db) (calls : List Call) {v v' : Trade}
    (hv : db.trade kw.tradeId = some v)
    (hv' : (runCalls hash db calls).trade kw.tradeId = some v') (ho : v'.row.status = .OPEN) :
    StopAdvances (sideOf kw.side) v.row.currentStop v'.row.currentStop := by
  induction calls using List.reverseRecOn generalizing v' with
  | nil =>
    obtain rfl : v = v' := Option.some.inj (hv.symm.trans hv')
    exact stopAdvances_refl _ _
  | append_singleton calls call ih =>
    rw [runCalls_concat] at hv'
    have hm := managed_run hash h calls
    obtain ⟨w, hw, hentry, -⟩ := hm.trade
    obtain ⟨w', hw', hs⟩ := tradeStep_of_effect (callEffect_next hash hm.bootstrapped call) hw
    obtain rfl : w' = v' := Option.some.inj (hw'.symm.trans hv')
    have hside : w.row.side = kw.side := congrArg Position.side hentry
    refine stopAdvances_trans (ih hw (open_before hs ho)) ?_
    rw [← hside]
    exact stop_step hs (hm.bootstrapped _ _ (trade_eq_some.mp hw).1) ho

/-! ## 3. Event ids -/

theorem findEvent_append {e e' : Event} {id : String} (h : db.findEvent id = some e) :
    (db.append e').findEvent id = some e := by
  unfold Db.findEvent at h ⊢
  rw [append_events, List.find?_append, h]
  rfl

/-- A recorded event keeps its id for good. -/
theorem findEvent_effect {db' : Db} {call : Call} {e : Event} {id : String}
    (h : CallEffect hash db call db') (hf : db.findEvent id = some e) :
    db'.findEvent id = some e := by
  cases h with
  | rejected => exact hf
  | act h =>
    cases h with
    | replay => exact hf
    | tighten => exact findEvent_append hf
    | trail => exact findEvent_append hf
    | reduce => exact findEvent_append hf
    | protect => exact findEvent_append hf
  | close h =>
    cases h with
    | already => exact hf
    | closed => exact hf

/-- Call `b` recorded its event in `db`. -/
def Records (hash : Request → String) (db : Db) (b : ActionCall) : Prop :=
  db.findEvent b.managementEventId = none ∧
    ((Call.act b).next hash db).findEvent b.managementEventId ≠ none

/-- The event `e` is what call `b` recorded. -/
structure RecordedBy (hash : Request → String) (b : ActionCall) (e : Event) : Prop where
  tradeId : e.tradeId = b.tradeId
  action : e.action = b.normalizedAction
  requestHash : e.requestHash = hash b.request

theorem findEvent_recorded {t : String} {r : Position} {e : Event}
    (h : db.findEvent e.managementEventId = none) :
    (db.record t r e).findEvent e.managementEventId = some e := by
  unfold Db.findEvent at h ⊢
  show (db.events ++ [e]).find? _ = _
  rw [List.find?_append, h]
  simp

/-- The event a call recorded carries its trade, action and request hash. -/
theorem recordedBy_of_records {b : ActionCall} (hb : db.Bootstrapped) (h : Records hash db b) :
    ∃ e, ((Call.act b).next hash db).findEvent b.managementEventId = some e ∧
      RecordedBy hash b e ∧ ∃ r, ((Call.act b).next hash db).position b.tradeId = some r := by
  obtain ⟨hnone, hsome⟩ := h
  have he := callEffect_next hash hb (.act b)
  generalize (Call.act b).next hash db = db' at he hsome
  cases he with
  | rejected => exact absurd hnone hsome
  | act he =>
    cases he with
    | replay e hf => exact absurd hnone hsome
    | tighten r ev n stop run hA =>
      exact ⟨_, findEvent_recorded hA.fresh, ⟨rfl, rfl, rfl⟩, _, record_position ..⟩
    | trail r ev n run hA =>
      exact ⟨_, findEvent_recorded hA.fresh, ⟨rfl, rfl, rfl⟩, _, record_position ..⟩
    | reduce r ev n s run hA =>
      exact ⟨_, findEvent_recorded hA.fresh, ⟨rfl, rfl, rfl⟩, _, record_position ..⟩
    | protect r ev n price costs k run hA =>
      exact ⟨_, findEvent_recorded hA.fresh, ⟨rfl, rfl, rfl⟩, _, record_position ..⟩

theorem bootstrapped_run (hash : Request → String) (hb : db.Bootstrapped) (calls : List Call) :
    (runCalls hash db calls).Bootstrapped := by
  induction calls using List.reverseRecOn with
  | nil => exact hb
  | append_singleton calls call ih =>
    rw [runCalls_concat]
    exact bootstrapped_effect ih (callEffect_next hash ih call)

/-- Recorded events and rows are still there after any further calls. -/
theorem persists_run (hb : db.Bootstrapped) {id t : String} {e : Event} {r : Position}
    (hf : db.findEvent id = some e) (hr : db.position t = some r) (calls : List Call) :
    (runCalls hash db calls).findEvent id = some e ∧
      ∃ r', (runCalls hash db calls).position t = some r' := by
  induction calls using List.reverseRecOn with
  | nil => exact ⟨hf, r, hr⟩
  | append_singleton calls call ih =>
    rw [runCalls_concat]
    obtain ⟨ihf, r', ihr⟩ := ih
    have he := callEffect_next hash (bootstrapped_run hash hb calls) call
    have hv : (runCalls hash db calls).trade t =
        some ⟨r', managementEvents (runCalls hash db calls) t⟩ := trade_eq_some.mpr ⟨ihr, rfl⟩
    obtain ⟨v', hv', -⟩ := tradeStep_of_effect he hv
    exact ⟨findEvent_effect he ihf, v'.row, (trade_eq_some.mp hv').1⟩

/-- **What a second call with a recorded event id does**: the same request is answered and
    changes nothing, a different one is refused and changes nothing. -/
theorem second_call {b a : ActionCall} {e : Event} {r : Position} (hb : db.Bootstrapped)
    (hf : db.findEvent b.managementEventId = some e) (hrec : RecordedBy hash b e)
    (hr : db.position b.tradeId = some r) (hid : a.managementEventId = b.managementEventId) :
    (a.request = b.request →
      (applyPositionManagementAction hash a).run db =
        .ok ({ status := .IDEMPOTENT, state := r.managementState a.tradeId }, db) ∧
      (Call.act a).next hash db = db) ∧
    (a.request ≠ b.request → (hash a.request = hash b.request → a.request = b.request) →
      (applyPositionManagementAction hash a).run db =
        .error (.valueError "POSITION_MANAGEMENT_EVENT_ID_CONFLICT") ∧
      (Call.act a).next hash db = db) := by
  rw [← hid] at hf
  constructor
  · intro heq
    have ht : a.tradeId = b.tradeId := congrArg Request.tradeId heq
    have ha : a.normalizedAction = b.normalizedAction := by
      rw [← request_action, heq, request_action]
    have hrun := run_replay hash hb hf (by rw [ht]; exact hr)
      (hrec.tradeId.trans ht.symm) (hrec.action.trans ha.symm) (by rw [heq]; exact hrec.requestHash)
    refine ⟨hrun, Prog.after_ok (a := .act ⟨.IDEMPOTENT, r.managementState a.tradeId⟩) ?_⟩
    show (Reply.act <$> applyPositionManagementAction hash a).run db = _
    rw [Prog.run_map, hrun]
    rfl
  · intro hne hcol
    have hrun := run_conflict hash hb hf
      (Or.inr (Or.inr (by rw [hrec.requestHash]; exact fun h => hne (hcol h.symm))))
    refine ⟨hrun, Prog.after_error (e := .valueError "POSITION_MANAGEMENT_EVENT_ID_CONFLICT") ?_⟩
    show (Reply.act <$> applyPositionManagementAction hash a).run db = _
    rw [Prog.run_map, hrun]
    rfl

/-! ## 4. The whole contract -/

/-- **The management contract.** After every sequence of calls on an opened position, rejected
    ones and replays included: while the position is OPEN its remaining quantity, version and
    running sums are those of its events and its stop only ever moved in the protective
    direction; a second call with a recorded event id changes nothing, and raises if it is a
    different request. -/
theorem management_invariant (hash : Request → String) {kw : OpenRequest} {quantity : ℚ}
    {db₀ : Db} (hopen : Opened kw db₀) (hq : kw.quantity = some quantity) (hpos : 0 < quantity)
    (calls : List Call) :
    (∃ v, (runCalls hash db₀ calls).trade kw.tradeId = some v ∧
      (v.row.status = .OPEN →
        (∃ remaining, v.row.remainingQuantity = some remaining ∧ v.row.quantity = some quantity ∧
          0 < remaining ∧ remaining ≤ quantity ∧
          quantity = remaining + v.partialSum Event.requestedQuantity) ∧
        v.row.managementVersion = v.events.length ∧
        v.row.realizedGrossPnl = v.partialSum Event.grossPnl ∧
        v.row.realizedExecutionCost = v.partialSum Event.executionCost ∧
        v.row.realizedNetPnl = v.partialSum Event.netPnl ∧
        v.row.realizedNetPnl = v.row.realizedGrossPnl - v.row.realizedExecutionCost ∧
        ∀ earlier later, calls = earlier ++ later →
          ∃ w, (runCalls hash db₀ earlier).trade kw.tradeId = some w ∧
            StopAdvances (sideOf kw.side) w.row.currentStop v.row.currentStop)) ∧
    (∀ earlier b later (a : ActionCall), calls = earlier ++ Call.act b :: later →
      Records hash (runCalls hash db₀ earlier) b → a.managementEventId = b.managementEventId →
      (a.request = b.request →
        (Call.act a).next hash (runCalls hash db₀ calls) = runCalls hash db₀ calls ∧
        ∃ state, (applyPositionManagementAction hash a).run (runCalls hash db₀ calls) =
          .ok ({ status := .IDEMPOTENT, state := state }, runCalls hash db₀ calls)) ∧
      (a.request ≠ b.request → (hash a.request = hash b.request → a.request = b.request) →
        (Call.act a).next hash (runCalls hash db₀ calls) = runCalls hash db₀ calls ∧
        (applyPositionManagementAction hash a).run (runCalls hash db₀ calls) =
          .error (.valueError "POSITION_MANAGEMENT_EVENT_ID_CONFLICT"))) := by
  have h₀ := managed_opened hopen hq hpos
  constructor
  · obtain ⟨v, hv, -, hledger⟩ := (managed_run hash h₀ calls).trade
    refine ⟨v, hv, fun ho => ?_⟩
    have hl := hledger ho
    refine ⟨⟨_, hl.remaining, hl.original, hl.left, ?_, ?_⟩, hl.version, hl.gross, hl.cost, hl.net,
      hl.netEq, ?_⟩
    · linarith [hl.exited]
    · ring
    · rintro earlier later rfl
      obtain ⟨w, hw, -⟩ := (managed_run hash h₀ earlier).trade
      rw [runCalls_append] at hv
      exact ⟨w, hw, stop_run (managed_run hash h₀ earlier) later hw hv ho⟩
  · rintro earlier b later a rfl hrec hid
    have hb := bootstrapped_run hash h₀.bootstrapped earlier
    obtain ⟨e, hf, hby, r, hr⟩ := recordedBy_of_records hb hrec
    have hsplit : runCalls hash db₀ (earlier ++ Call.act b :: later) =
        runCalls hash ((Call.act b).next hash (runCalls hash db₀ earlier)) later := by
      rw [runCalls_append]
      rfl
    have hb' := bootstrapped_effect hb (callEffect_next hash hb (.act b))
    obtain ⟨hf', r', hr'⟩ := persists_run hb' hf hr later
    rw [← hsplit] at hf' hr'
    have hend := bootstrapped_run hash h₀.bootstrapped (earlier ++ Call.act b :: later)
    obtain ⟨hsame, hother⟩ := second_call hend hf' hby hr' hid
    exact ⟨fun he => ⟨(hsame he).2, _, (hsame he).1⟩,
      fun hne hcol => ⟨(hother hne hcol).2, (hother hne hcol).1⟩⟩

/-- A LONG position of two units, entered at 100 with its stop at 90. -/
def sampleRequest : OpenRequest where
  tradeId := "T1"
  campaignId := "C1"
  burninRunId := "B1"
  side := "LONG"
  entryTime := ⟨"2026-01-01T00:00:00+00:00", some ⟨some 0, 0⟩⟩
  plannedEntry := some 100
  simulatedFill := some 100
  stop := some 90
  target := some 120
  quantity := some 2
  notional := some 200
  entrySpread := some 1
  entrySlippage := some 0
  entryFee := some 1
  provenance := ⟨.text "USD", none, none, .none⟩

/-- A database that holds nothing but that position. -/
def sampleDb : Db :=
  Db.setPosition ⟨fun _ => none, [], fun _ => none⟩ "T1" sampleRequest.row

theorem sample_opened : Opened sampleRequest sampleDb :=
  ⟨⟨fun _ => none, [], fun _ => none⟩, rfl, rfl, rfl⟩

def sampleEvidence : Dict :=
  [("evidence_status", .text "COMPLETE"), ("source", .text "runtime"),
   ("execution_risk_status", .text "OK"), ("regime_status", .text "OK"),
   ("liquidity_status", .text "OK"), ("observed_price", .float 110),
   ("trigger_reason", .text "regime flip")]

def sampleExitCosts : Dict :=
  ("cost_unit", .text "USD") :: exitCostInputs.map fun key => (key.name, .float (1 / 2))

/-- Half of the position sold at 110. -/
def samplePartialExit : ActionCall where
  tradeId := "T1"
  managementEventId := "E1"
  action := "partial_exit"
  eventTime := ⟨"2026-01-01T01:00:00+00:00", some ⟨some 0, 3600000000⟩⟩
  evidence := .mapping sampleEvidence
  newStop := .none
  exitQuantity := .float 1
  executionPrice := .float 110
  exitCosts := .mapping sampleExitCosts
  now := "2026-01-01T01:00:01+00:00"

/-- A hash that tells requests of different trades, times or actions apart. -/
def sampleHash (r : Request) : String := r.tradeId ++ "/" ++ r.eventTime ++ "/" ++ r.action

theorem management_invariant_sample :
    ∃ v, (runCalls sampleHash sampleDb [.act samplePartialExit]).trade "T1" = some v ∧
      v.row.status = .OPEN ∧ v.events.length = 1 ∧ v.row.managementVersion = v.events.length ∧
      v.row.realizedNetPnl = v.row.realizedGrossPnl - v.row.realizedExecutionCost := by
  have hopen : ((runCalls sampleHash sampleDb [.act samplePartialExit]).trade "T1").map
      (fun v => (v.row.status, v.events.length)) = some (.OPEN, 1) := by decide +kernel
  obtain ⟨v, hv, hledger⟩ := (management_invariant sampleHash sample_opened rfl
    (show (0 : ℚ) < 2 by norm_num) [.act samplePartialExit]).1
  rw [show sampleRequest.tradeId = "T1" from rfl] at hv
  rw [hv] at hopen
  obtain ⟨ho, hlen⟩ := Prod.mk.inj (Option.some.inj hopen)
  obtain ⟨-, hver, -, -, -, hnet, -⟩ := hledger ho
  exact ⟨v, hv, ho, hlen, hver, hnet⟩

end AlphaForge.Positions
