/-
  File:      AlphaForge/Positions/Effects.lean
  Subject:   What a call that succeeds does to the database, said once: everything later is
             derived from these cases.

  * `ClosureEffect`, `closureEffect_of_run` -- `resolve_position_closure`.
  * `ActionEffect`, `actionEffect_of_run` -- `apply_position_management_action`: a replay, one of
    the three updates with its event, or the protective exit with its closure.
  * `Call.next` -- a call inside the caller's transaction: a raised error leaves the state as it
    was.
-/
import AlphaForge.Positions.Management

namespace AlphaForge.Positions

open AlphaForge.Lib
open AlphaForge.Candles (sideOf)

variable {db db' : Db}

/-! ## 1. Small steps -/

/-- The events with one more at the end. -/
def Db.append (db : Db) (e : Event) : Db := { db with events := db.events ++ [e] }

@[simp] theorem append_position (db : Db) (e : Event) : (db.append e).position = db.position := rfl

@[simp] theorem append_events (db : Db) (e : Event) :
    (db.append e).events = db.events ++ [e] := rfl

theorem bootstrapped_append (h : db.Bootstrapped) (e : Event) : (db.append e).Bootstrapped := h

theorem managementEvents_append (db : Db) (e : Event) (t : String) :
    managementEvents (db.append e) t =
      managementEvents db t ++ if e.tradeId = t then [e] else [] := by
  unfold managementEvents
  rw [append_events, List.filter_append]
  by_cases h : e.tradeId = t
  · rw [if_pos h, List.filter_cons_of_pos (by simpa using h)]
    rfl
  · rw [if_neg h, List.filter_cons_of_neg (by simpa using h)]
    rfl

@[simp] theorem managementEvents_setPosition (db : Db) (t u : String) (r : Position) :
    managementEvents (db.setPosition t r) u = managementEvents db u := rfl

/-- A versioned update that reports success found the row and set it. -/
theorem run_cas {t : String} {r : Position} {set : Position → Position}
    (hr : db.position t = some r) (ho : r.status = .OPEN) :
    (casPositionUpdate t r.managementVersion set).run db = .ok ((), db.setPosition t (set r)) := by
  have hc : unchangedSince r.managementVersion r = true := by simp [unchangedSince, ho]
  unfold casPositionUpdate
  rw [Prog.run_bind, Prog.run_updateCount, matchedPosition_of_match hr hc,
    updatePosition_of_match set hr hc]
  rfl

/-- Inserting an event with a new id appends it. -/
theorem run_insert {r : Position} {event : String → Event}
    (hid : db.findEvent (event (managementRunId db r)).managementEventId = none) :
    (insertManagementEvent r event).run db =
      .ok ((), db.append (event (managementRunId db r))) := by
  unfold insertManagementEvent
  rw [Prog.run_bind, Prog.run_query]
  show (Prog.attempt fun db' : Db => db'.insertEvent (event (managementRunId db r))).run db = _
  rw [Prog.run_attempt]
  unfold Db.insertEvent
  rw [hid]
  rfl

/-! ## 2. Closure -/

/-- What a successful `resolve_position_closure` did. -/
inductive ClosureEffect (db : Db) (c : ClosureCall) : ClosureReply → Db → Prop
  | already (r : Position) (hr : db.position c.tradeId = some r) (hc : r.status = .CLOSED) :
      ClosureEffect db c .idempotent db
  | closed (r : Position) (k : Closing) (hr : db.position c.tradeId = some r)
      (ho : r.status = .OPEN)
      (hk : closing c r (priorPartialExitComponents db c.tradeId) (partialEvents db c.tradeId)
        = .ok k) :
      ClosureEffect db c k.reply (db.setPosition c.tradeId (r.close c k))

theorem closureEffect_of_run {c : ClosureCall} {reply : ClosureReply} (hb : db.Bootstrapped)
    (h : (resolvePositionClosure c).run db = .ok (reply, db')) :
    ClosureEffect db c reply db' := by
  unfold resolvePositionClosure at h
  have h := Prog.run_query_bind (run_bootstrap_bind hb h)
  split at h
  · cases h
  · rename_i r hr
    split at h
    · rename_i hc
      cases h
      exact .already r hr hc
    · rename_i hc
      have ho : r.status = .OPEN := by
        cases hs : r.status with
        | OPEN => rfl
        | CLOSED => exact absurd hs hc
      have h := Prog.run_query_bind h
      have h := Prog.run_query_bind h
      obtain ⟨k, hk, h⟩ := Prog.run_lift_bind h
      have h := Prog.run_update_bind h
      rw [updatePosition_of_match (fun row => row.close c k) hr rfl] at h
      cases h
      exact .closed r k hr ho hk

/-! ## 3. Actions -/

section Actions

variable {hash : Request → String} {a : ActionCall}

/-- An action call that got past the checks common to all actions. -/
structure Acting (db : Db) (a : ActionCall) (r : Position) (ev : Evidence) (n : RowNumbers) :
    Prop where
  fresh : db.findEvent a.managementEventId = none
  row : db.position a.tradeId = some r
  isOpen : r.status = .OPEN
  evidence : validateManagementEvidence a.evidence = .ok ev
  numbers : rowNumbers r = .ok n

/-- The row changed to `r'` and one event added. -/
def Db.record (db : Db) (t : String) (r : Position) (e : Event) : Db :=
  (db.setPosition t r).append e

/-- What a successful `apply_position_management_action` did. -/
inductive ActionEffect (hash : Request → String) (db : Db) (a : ActionCall) : Db → Prop
  | replay (e : Event) (hf : db.findEvent a.managementEventId = some e)
      (ht : e.tradeId = a.tradeId) (ha : e.action = a.normalizedAction)
      (hh : e.requestHash = hash a.request) : ActionEffect hash db a db
  | tighten (r : Position) (ev : Evidence) (n : RowNumbers) (stop : Positive) (run : String)
      (h : Acting db a r ev n) (hact : a.normalizedAction = "TIGHTEN_STOP")
      (hs : tightenedStop (sideOf r.side) n ev a.newStop = .ok stop) :
      ActionEffect hash db a (db.record a.tradeId (r.tighten stop.1 a.eventTime.text)
        (tightenEvent hash r a n ev stop.1 run))
  | trail (r : Position) (ev : Evidence) (n : RowNumbers) (run : String)
      (h : Acting db a r ev n) (hact : a.normalizedAction = "ENABLE_TRAILING")
      (hc : trailingChecks r = .ok ()) :
      ActionEffect hash db a (db.record a.tradeId (r.trail a.eventTime.text)
        (trailingEvent hash r a n ev run))
  | reduce (r : Position) (ev : Evidence) (n : RowNumbers) (s : Slice) (run : String)
      (h : Acting db a r ev n) (hact : a.normalizedAction = "PARTIAL_EXIT")
      (hs : partialSlice r a n = .ok s) :
      ActionEffect hash db a (db.record a.tradeId (r.reduce s a.eventTime.text)
        (partialEvent hash r a n ev s run))
  | protect (r : Position) (ev : Evidence) (n : RowNumbers) (price : Positive)
      (costs : ExitCosts) (k : Closing) (run : String)
      (h : Acting db a r ev n) (hact : a.normalizedAction = "PROTECTIVE_EXIT")
      (hc : protectiveChecks a ev = .ok (price, costs))
      (hk : closing (protectiveClosure a price.1 costs) (r.managed a.eventTime.text)
        (priorPartialExitComponents db a.tradeId) (partialEvents db a.tradeId) = .ok k) :
      ActionEffect hash db a (db.record a.tradeId
        ((r.managed a.eventTime.text).close (protectiveClosure a price.1 costs) k)
        ((protectiveEvent hash r a n ev price.1 costs run).settle k.reply))

theorem bootstrapped_record (hb : db.Bootstrapped) {t : String} {r : Position}
    (hr : r.coalesce = r) (e : Event) : (db.record t r e).Bootstrapped :=
  bootstrapped_append (bootstrapped_setPosition hb hr) e

/-- The versioned update and its event: the state the rest of the action runs on. -/
theorem run_recorded {r : Position} {ev : Evidence} {n : RowNumbers} {α : Type}
    {set : Position → Position} {event : String → Event} {rest : Prog Db PyError α} {x : α × Db}
    (h : Acting db a r ev n)
    (hid : ∀ run, (event run).managementEventId = a.managementEventId)
    (hrun : (do
      casPositionUpdate a.tradeId r.managementVersion set
      insertManagementEvent r event
      rest).run db = .ok x) :
    ∃ run, rest.run (db.record a.tradeId (set r) (event run)) = .ok x := by
  rw [Prog.run_bind, run_cas h.row h.isOpen] at hrun
  change Prog.run (insertManagementEvent r event >>= fun _ => rest)
    (db.setPosition a.tradeId (set r))
    = _ at hrun
  rw [Prog.run_bind, run_insert (by rw [hid]; exact h.fresh)] at hrun
  exact ⟨_, hrun⟩

/-- The common end of an applied action changes nothing. -/
theorem run_applied {t : String} {reply : ActionReply} (hb : db.Bootstrapped)
    (h : (applied t).run db = .ok (reply, db')) : db' = db := by
  unfold applied loadPositionManagementState at h
  obtain ⟨state, s₁, h₁, h⟩ := Prog.run_bind_ok h
  have h₁ := Prog.run_query_bind (run_bootstrap_bind hb h₁)
  split at h₁
  · cases h₁
  · cases h₁
    cases h
    rfl

/-- A row is settled if the bootstrap has nothing to fill in it. -/
theorem coalesce_eq_self_iff {r : Position} (ho : r.status = .OPEN) :
    r.coalesce = r ↔ r.currentStop.or r.stop = r.currentStop ∧
      r.currentTarget.or r.target = r.currentTarget ∧
      r.remainingQuantity.or r.quantity = r.remainingQuantity ∧
      r.remainingNotional.or r.notional = r.remainingNotional := by
  unfold Position.coalesce
  rw [if_pos ho]
  constructor
  · intro h
    refine ⟨?_, ?_, ?_, ?_⟩
    · exact congrArg Position.currentStop h
    · exact congrArg Position.currentTarget h
    · exact congrArg Position.remainingQuantity h
    · exact congrArg Position.remainingNotional h
  · rintro ⟨h₁, h₂, h₃, h₄⟩
    rw [h₁, h₂, h₃, h₄]

theorem coalesce_closed {r : Position} (hc : r.status = .CLOSED) : r.coalesce = r := by
  unfold Position.coalesce
  rw [if_neg (by rw [hc]; decide)]

theorem coalesce_managed {r : Position} (ho : r.status = .OPEN) (h : r.coalesce = r) (t : String) :
    (r.managed t).coalesce = r.managed t :=
  (coalesce_eq_self_iff (r := r.managed t) ho).mpr ((coalesce_eq_self_iff ho).mp h)

theorem coalesce_tighten {r : Position} (ho : r.status = .OPEN) (h : r.coalesce = r) (stop : ℚ)
    (t : String) : (r.tighten stop t).coalesce = r.tighten stop t :=
  (coalesce_eq_self_iff (r := r.tighten stop t) ho).mpr ⟨rfl, ((coalesce_eq_self_iff ho).mp h).2⟩

theorem coalesce_trail {r : Position} (ho : r.status = .OPEN) (h : r.coalesce = r) (t : String) :
    (r.trail t).coalesce = r.trail t :=
  (coalesce_eq_self_iff (r := r.trail t) ho).mpr ((coalesce_eq_self_iff ho).mp h)

theorem coalesce_reduce {r : Position} (ho : r.status = .OPEN) (h : r.coalesce = r) (s : Slice)
    (t : String) : (r.reduce s t).coalesce = r.reduce s t := by
  obtain ⟨hstop, htarget, -, -⟩ := (coalesce_eq_self_iff ho).mp h
  exact (coalesce_eq_self_iff (r := r.reduce s t) ho).mpr ⟨hstop, htarget, rfl, rfl⟩

/-- Only the event just added carries the new id, so settling it touches no other. -/
theorem updateEvent_record {e : Event} {f : Event → Event} (t : String) (r r' : Position)
    (hf : db.findEvent e.managementEventId = none) :
    ((db.record t r e).setPosition t r').updateEvent e.managementEventId f =
      db.record t r' (f e) := by
  have hmap : db.events.map (fun x => if x.managementEventId == e.managementEventId then f x else x)
      = db.events := by
    refine (List.map_congr_left fun x hx => ?_).trans (List.map_id _)
    rw [if_neg (List.find?_eq_none.mp hf x hx)]
    rfl
  unfold Db.updateEvent Db.record Db.append Db.setPosition
  simp only [List.map_append, hmap, List.map_cons, List.map_nil, beq_self_eq_true, if_true,
    Function.update_idem]

theorem record_position (db : Db) (t : String) (r : Position) (e : Event) :
    (db.record t r e).position t = some r := setPosition_self db t r

theorem partialEvents_record (db : Db) (t u : String) (r : Position) (e : Event) :
    partialEvents (db.record t r e) u =
      partialEvents db u ++ if e.tradeId = u ∧ e.isPartialExit = true then [e] else [] := by
  unfold partialEvents Db.record
  rw [managementEvents_append, List.filter_append, managementEvents_setPosition]
  congr 1
  by_cases hu : e.tradeId = u <;> by_cases hp : e.isPartialExit = true <;> simp [hu, hp]

theorem managementEvents_record (db : Db) (t u : String) (r : Position) (e : Event) :
    managementEvents (db.record t r e) u =
      managementEvents db u ++ if e.tradeId = u then [e] else [] :=
  managementEvents_append _ _ _

/-- An event of another action is no partial exit. -/
theorem isPartialExit_other {e : Event} {action : String} (h : e.action = action)
    (hne : upper action ≠ "PARTIAL_EXIT") : e.isPartialExit = false := by
  unfold Event.isPartialExit
  rw [h]
  simpa using hne

/-- It leaves the partial exits as they are. -/
theorem partialEvents_record_other {e : Event} (h : e.isPartialExit = false) (db : Db)
    (t u : String) (r : Position) :
    partialEvents (db.record t r e) u = partialEvents db u := by
  rw [partialEvents_record, if_neg (by simp [h]), List.append_nil]

theorem priorComponents_record_other {e : Event} (h : e.isPartialExit = false) (db : Db)
    (t u : String) (r : Position) :
    priorPartialExitComponents (db.record t r e) u = priorPartialExitComponents db u := by
  unfold priorPartialExitComponents
  rw [partialEvents_record_other h]

theorem actionEffect_of_perform {reply : ActionReply} {r : Position} {ev : Evidence}
    {n : RowNumbers} (hb : db.Bootstrapped) (hA : Acting db a r ev n)
    (h : (performAction hash a r ev n).run db = .ok (reply, db')) :
    ActionEffect hash db a db' := by
  have hrow := hb _ _ hA.row
  unfold performAction at h
  simp only at h
  split at h
  · rename_i hact
    obtain ⟨stop, hs, h⟩ := Prog.run_lift_bind h
    obtain ⟨run, h⟩ := run_recorded hA (fun _ => rfl) h
    obtain rfl := run_applied (bootstrapped_record hb (coalesce_tighten hA.isOpen hrow _ _) _) h
    exact .tighten r ev n stop run hA hact hs
  · split at h
    · rename_i _ hact
      obtain ⟨_, hc, h⟩ := Prog.run_lift_bind h
      obtain ⟨run, h⟩ := run_recorded hA (fun _ => rfl) h
      obtain rfl := run_applied (bootstrapped_record hb (coalesce_trail hA.isOpen hrow _) _) h
      exact .trail r ev n run hA hact hc
    · split at h
      · rename_i _ _ hact
        obtain ⟨s, hs, h⟩ := Prog.run_lift_bind h
        obtain ⟨run, h⟩ := run_recorded hA (fun _ => rfl) h
        obtain rfl := run_applied (bootstrapped_record hb (coalesce_reduce hA.isOpen hrow _ _) _) h
        exact .reduce r ev n s run hA hact hs
      · split at h
        · rename_i _ _ _ hact
          obtain ⟨⟨price, costs⟩, hc, h⟩ := Prog.run_lift_bind h
          obtain ⟨run, h⟩ := run_recorded hA (fun _ => rfl) h
          obtain ⟨creply, db₂, hclose, h⟩ := Prog.run_bind_ok h
          have hpart : (protectiveEvent hash r a n ev price.1 costs run).isPartialExit = false :=
            isPartialExit_other hact (by decide)
          have hE := closureEffect_of_run (bootstrapped_record hb
            (coalesce_managed hA.isOpen hrow a.eventTime.text) _) hclose
          cases hE with
          | already r' hr' hc' =>
            cases (record_position _ _ _ _).symm.trans hr'
            exact absurd (hA.isOpen.symm.trans hc') (by decide)
          | closed r' k hr' ho' hk =>
            cases (record_position _ _ _ _).symm.trans hr'
            have h := Prog.run_update_bind h
            have hset := updateEvent_record (e := protectiveEvent hash r a n ev price.1 costs run)
              (f := Event.settle k.reply) a.tradeId (r.managed a.eventTime.text)
              ((r.managed a.eventTime.text).close (protectiveClosure a price.1 costs) k) hA.fresh
            have h := (congrArg (applied a.tradeId).run hset).symm.trans h
            rw [priorComponents_record_other hpart, partialEvents_record_other hpart] at hk
            obtain rfl := run_applied (bootstrapped_record hb (coalesce_closed rfl) _) h
            exact .protect r ev n price costs k run hA hact hc hk
        · cases h

/-- **What a successful management action did.** -/
theorem actionEffect_of_run {reply : ActionReply} (hb : db.Bootstrapped)
    (h : (applyPositionManagementAction hash a).run db = .ok (reply, db')) :
    ActionEffect hash db a db' := by
  unfold applyPositionManagementAction at h
  have h := Prog.run_query_bind (run_bootstrap_bind hb h)
  split at h
  · rename_i e hf
    split at h
    · cases h
    · rename_i hsame
      obtain ⟨state, s₁, h₁, h⟩ := Prog.run_bind_ok h
      unfold loadPositionManagementState at h₁
      have h₁ := Prog.run_query_bind (run_bootstrap_bind hb h₁)
      split at h₁
      · cases h₁
      · cases h₁
        cases h
        simp only [not_or, not_not] at hsame
        exact .replay e hf hsame.1 hsame.2.1 hsame.2.2
  · rename_i hf
    have h := Prog.run_query_bind h
    split at h
    · cases h
    · rename_i r hr
      split at h
      · cases h
      · rename_i ho
        obtain ⟨ev, hev, h⟩ := Prog.run_lift_bind h
        obtain ⟨n, hn, h⟩ := Prog.run_lift_bind h
        exact actionEffect_of_perform hb ⟨hf, hr, not_not.mp ho, hev, hn⟩ h

end Actions

/-! ## 4. Calls -/

/-- One call of either operation. -/
inductive Call where
  | act (a : ActionCall)
  | close (c : ClosureCall)
  deriving DecidableEq, Repr

inductive Reply where
  | act (r : ActionReply)
  | close (r : ClosureReply)
  deriving DecidableEq, Repr

/-- The statements of a call. -/
def Call.prog (hash : Request → String) : Call → Prog Db PyError Reply
  | .act a => Reply.act <$> applyPositionManagementAction hash a
  | .close c => Reply.close <$> resolvePositionClosure c

/-- The database after a call, the caller rolling back what an error leaves unfinished. -/
def Call.next (hash : Request → String) (db : Db) (call : Call) : Db := (call.prog hash).after db

/-- The database after a sequence of calls. -/
def runCalls (hash : Request → String) (db : Db) (calls : List Call) : Db :=
  calls.foldl (Call.next hash) db

/-- The three ways a call can end. -/
inductive CallEffect (hash : Request → String) (db : Db) : Call → Db → Prop
  | rejected (call : Call) : CallEffect hash db call db
  | act {a : ActionCall} {db' : Db} (h : ActionEffect hash db a db') :
      CallEffect hash db (.act a) db'
  | close {c : ClosureCall} {reply : ClosureReply} {db' : Db} (h : ClosureEffect db c reply db') :
      CallEffect hash db (.close c) db'

theorem run_map_ok {α β : Type} {f : α → β} {p : Prog Db PyError α} {y : β}
    (h : (f <$> p).run db = .ok (y, db')) : ∃ x, p.run db = .ok (x, db') ∧ y = f x := by
  obtain ⟨x, s₁, h₁, h₂⟩ := Prog.run_bind_ok h
  cases h₂
  exact ⟨x, h₁, rfl⟩

theorem callEffect_next (hash : Request → String) (hb : db.Bootstrapped) (call : Call) :
    CallEffect hash db call (call.next hash db) := by
  unfold Call.next
  cases hr : (call.prog hash).run db with
  | error e =>
    rw [Prog.after_error hr]
    exact .rejected call
  | ok r =>
    obtain ⟨reply, db'⟩ := r
    rw [Prog.after_ok hr]
    cases call with
    | act a =>
      obtain ⟨x, hx, -⟩ := run_map_ok hr
      exact .act (actionEffect_of_run hb hx)
    | close c =>
      obtain ⟨x, hx, -⟩ := run_map_ok hr
      exact .close (closureEffect_of_run hb hx)

/-- Every call leaves the database bootstrapped. -/
theorem bootstrapped_effect {hash : Request → String} {call : Call} (hb : db.Bootstrapped)
    (h : CallEffect hash db call db') : db'.Bootstrapped := by
  cases h with
  | rejected => exact hb
  | act h =>
    cases h with
    | replay e hf ht ha hh => exact hb
    | tighten r ev n stop run hA hact hs =>
      exact bootstrapped_record hb (coalesce_tighten hA.isOpen (hb _ _ hA.row) _ _) _
    | trail r ev n run hA hact hc =>
      exact bootstrapped_record hb (coalesce_trail hA.isOpen (hb _ _ hA.row) _) _
    | reduce r ev n s run hA hact hs =>
      exact bootstrapped_record hb (coalesce_reduce hA.isOpen (hb _ _ hA.row) _ _) _
    | protect r ev n price costs k run hA hact hc hk =>
      exact bootstrapped_record hb (coalesce_closed rfl) _
  | close h =>
    cases h with
    | already r hr hc => exact hb
    | closed r k hr ho hk => exact bootstrapped_setPosition hb (coalesce_closed rfl)

/-! ## 5. Replays -/

/-- **A replay changes nothing**: the recorded event answers, the call writes nothing. -/
theorem run_replay (hash : Request → String) {a : ActionCall} {e : Event} {r : Position}
    (hb : db.Bootstrapped) (hf : db.findEvent a.managementEventId = some e)
    (hr : db.position a.tradeId = some r) (ht : e.tradeId = a.tradeId)
    (ha : e.action = a.normalizedAction) (hh : e.requestHash = hash a.request) :
    (applyPositionManagementAction hash a).run db =
      .ok ({ status := .IDEMPOTENT, state := r.managementState a.tradeId }, db) := by
  unfold applyPositionManagementAction
  simp only [Prog.run_bind, run_bootstrap hb, Except.bind, Prog.run_query, hf]
  simp only [ht, ha, hh, ne_eq, not_true_eq_false, or_self, if_false]
  rw [Prog.run_bind, run_load hb hr]
  rfl

/-- **An event id used for something else is refused.** -/
theorem run_conflict (hash : Request → String) {a : ActionCall} {e : Event}
    (hb : db.Bootstrapped) (hf : db.findEvent a.managementEventId = some e)
    (h : e.tradeId ≠ a.tradeId ∨ e.action ≠ a.normalizedAction ∨ e.requestHash ≠ hash a.request) :
    (applyPositionManagementAction hash a).run db =
      .error (.valueError "POSITION_MANAGEMENT_EVENT_ID_CONFLICT") := by
  unfold applyPositionManagementAction
  simp only [Prog.run_bind, run_bootstrap hb, Except.bind, Prog.run_query, hf]
  rw [if_pos h]
  rfl

end AlphaForge.Positions
