/-
  File:      AlphaForge/Positions/Writers.lean
  Subject:   Two writers on one database, statement by statement: `apply_position_management_action`
             and `resolve_position_closure` from different connections.

  * `writeFirst_call` -- both operations start with the UPDATE of `bootstrap_campaign_schema`, so
    a writer holds the write lock before it reads the row it will update.
  * `serialRun_runCalls` -- a serial execution of the clients is a sequence of calls, so everything
    proved about sequences of calls holds of every interleaving.
  * `Reflects`, `reflects_run` -- a closed trade accounts for every recorded partial exit.
  * `writers_serialize` -- no update is lost.
-/
import AlphaForge.Positions.Conservation

namespace AlphaForge.Positions

open AlphaForge.Lib
open AlphaForge.Candles (sideOf)

variable {hash : Request → String}

/-! ## 1. Serial executions are sequences of calls -/

/-- **The first statement of either operation is a write**: the bootstrap's UPDATE. -/
theorem writeFirst_call (hash : Request → String) (call : Call) : (call.prog hash).WriteFirst := by
  cases call with
  | act a => trivial
  | close c => trivial

theorem serialRun_runCalls {ι : Type} {calls : ι → Call} {s₀ s : Db} {log : List (ι × Reply)}
    (h : SerialRun (fun i => (calls i).prog hash) s₀ log s) :
    s = runCalls hash s₀ (log.map fun p => calls p.1) := by
  induction h with
  | nil => rfl
  | snoc _ hr ih =>
    subst ih
    rw [List.map_append, List.map_singleton, runCalls_concat]
    exact (Prog.after_ok hr).symm

/-! ## 2. What a closed trade reflects -/

/-- The trade `w` was closed by `call` and accounts for every recorded partial exit: its gross is
    their gross plus the last slice's, its total cost, if it has one, their cost plus the last
    slice's; without a total the recorded costs stand. -/
def Reflects (kw : OpenRequest) (quantity : ℚ) (call : Call) (w : Trade) : Prop :=
  ∃ c fill remaining, Closes call c ∧ orElse kw.simulatedFill kw.plannedEntry = some fill ∧
    remaining = quantity - w.partialSum Event.requestedQuantity ∧
    w.row.grossPnl = some (w.partialSum Event.grossPnl
      + (c.exitPrice - fill) * remaining * direction (sideOf kw.side)) ∧
    ((w.row.totalExecutionCost = none ∧
        w.row.realizedExecutionCost = w.partialSum Event.executionCost) ∨
      ∃ x, HasEntry kw.row x ∧
        w.row.totalExecutionCost = some (w.partialSum Event.executionCost
          + (x.costs.total * (remaining / quantity)
            + (finalExitCosts { kw.row with remainingQuantity := some remaining } x
                c.exitCosts).total)))

/-- A closure that records a total had complete entry evidence. -/
theorem hasEntry_of_total {c : ClosureCall} {r : Position} {comps : ExitCosts}
    {partials : List Event} {k : Closing} {quantity total : ℚ} (hq : r.quantity = some quantity)
    (hpos : 0 < quantity) (h : closing c r comps partials = .ok k)
    (ht : k.ledger.totalCostUsd = some total) :
    ∃ x, HasEntry r x ∧ x.quantity.1 = quantity := by
  obtain ⟨n, hn, hg, hl, -⟩ := closing_inv h
  rw [hl, total_eq_some_iff] at ht
  obtain ⟨⟨-, husable, hrisk⟩, -⟩ := ht
  have hmem := fun e he => usable_isSome (husable e he)
  unfold closureCosts at hmem
  simp only [List.mem_cons, List.not_mem_nil, or_false, forall_eq_or_imp, forall_eq,
    Option.isSome_bind, Option.isSome_map] at hmem
  obtain ⟨h₁, h₂, -, h₃, -⟩ := hmem
  obtain ⟨spread, hs, -⟩ := (Option.any_eq_true _ _).mp h₁
  obtain ⟨slippage, hsl⟩ := Option.isSome_iff_exists.mp h₂
  obtain ⟨fee, hfee, -⟩ := (Option.any_eq_true _ _).mp h₃
  unfold closureNumbers at hn
  split at hn
  · rename_i fill q stop hfill hq' hstop
    cases hn
    obtain rfl : q = quantity := Option.some.inj (hq'.symm.trans hq)
    have hr : k.geometry.initialRiskUsd = |fill - stop| * q := by
      rw [hg]
      rfl
    rw [hr] at hs hsl hfee hrisk
    refine ⟨⟨fill, stop, ⟨q, hpos⟩, sideOf r.side, ⟨spread, slippage, fee⟩⟩,
      ⟨hfill, hstop, hq', rfl, ?_, hrisk⟩, rfl⟩
    show EntryCosts.complete? (entryCostsUsd r (|fill - stop| * q)) = _
    unfold EntryCosts.complete?
    rw [hs, hsl, hfee]
  · cases hn

/-- **Every closed trade reflects its partial exits**, whatever calls led to it. -/
theorem reflects_run {kw : OpenRequest} {quantity : ℚ} {db₀ : Db} (hopen : Opened kw db₀)
    (hq : kw.quantity = some quantity) (hpos : 0 < quantity) (calls : List Call) {w : Trade}
    (hw : (runCalls hash db₀ calls).trade kw.tradeId = some w) (hc : w.row.status = .CLOSED) :
    ∃ call ∈ calls, Reflects kw quantity call w := by
  have h₀ := managed_opened hopen hq hpos
  induction calls using List.reverseRecOn with
  | nil =>
    obtain ⟨v, hv, -⟩ := h₀.trade
    obtain ⟨db, -, rfl⟩ := opened_eq hopen
    have hrow := (trade_eq_some.mp hw).1
    change (db.coalesce.setPosition kw.tradeId kw.row).position kw.tradeId = _ at hrow
    rw [setPosition_self] at hrow
    rw [← Option.some.inj hrow] at hc
    exact absurd hc (by decide : Status.OPEN ≠ Status.CLOSED)
  | append_singleton calls call ih =>
    have hm := managed_run hash h₀ calls
    obtain ⟨v, hv, hentry, hledger⟩ := hm.trade
    rw [runCalls_concat] at hw
    have he := callEffect_next hash hm.bootstrapped call
    obtain ⟨w', hw', hs⟩ := tradeStep_of_effect he hv
    obtain rfl : w' = w := Option.some.inj (hw'.symm.trans hw)
    cases hvs : v.row.status with
    | CLOSED =>
      obtain rfl := closed_step hs hvs
      obtain ⟨call', hmem, href⟩ := ih hv
      exact ⟨call', List.mem_append_left _ hmem, href⟩
    | OPEN =>
      refine ⟨call, List.mem_append_right _ (List.mem_singleton_self _), ?_⟩
      obtain ⟨c, r, k, hcl, hr, hk, hrow, hpart, -⟩ := closes_of_step hs hvs hc
      have hl := hledger hvs
      have hsum : ∀ column, w'.partialSum column = v.partialSum column := fun column => by
        unfold Trade.partialSum
        rw [hpart]
      have hre : r.atEntry = kw.row := hr.entry.trans hentry
      obtain ⟨fill, hfill, hgross⟩ := closing_gross hl hr hk
      have hside : r.side = kw.side := (congrArg Position.side hre :)
      have hkfill : orElse r.simulatedFill r.plannedEntry =
        orElse kw.simulatedFill kw.plannedEntry :=
        congrArg₂ orElse (congrArg Position.simulatedFill hre :)
          (congrArg Position.plannedEntry hre :)
      refine ⟨c, fill, _, hcl, hkfill ▸ hfill, rfl, ?_, ?_⟩
      · rw [hrow, hsum, hsum, ← hside]
        exact congrArg some hgross
      · cases ht : k.ledger.totalCostUsd with
        | none =>
          refine Or.inl ⟨by rw [hrow]; exact ht, ?_⟩
          rw [hrow, hsum]
          show k.ledger.totalCostUsd.getD r.realizedExecutionCost = _
          rw [ht, Option.getD_none, hr.cost, hl.cost]
        | some total =>
          have hrq : r.quantity = some quantity := by
            rw [← hl.original]
            exact (congrArg Position.quantity hr.entry :)
          obtain ⟨x, hx, rfl⟩ := hasEntry_of_total hrq hpos hk ht
          have hxk : HasEntry kw.row x := hasEntry_atEntry hx (hre.symm.trans rfl)
          have hxv := hasEntry_atEntry hx hr.entry.symm
          obtain ⟨v', hv', -, hslices, -⟩ := slices_run hash hopen hxk calls
          obtain rfl : v' = v := Option.some.inj (hv'.symm.trans hv)
          obtain ⟨-, hsplit, -⟩ := closing_slices hxv hl hr hslices hk ht
          refine Or.inr ⟨x, hxk, ?_⟩
          rw [hrow, hsum, hsum]
          refine ht.trans (congrArg some (hsplit.trans ?_))
          rw [@finalExitCosts_same v'.row { kw.row with
            remainingQuantity := some (x.quantity.1 - v'.partialSum Event.requestedQuantity) }
            hl.remaining hentry]

/-! ## 3. Two writers -/

/-- **No update is lost.** Two calls run statement by statement from different connections, on a
    database reached from an opened position: if both report success the result is that of
    running them one after the other in some order; at every moment the committed database is
    the result of running those that committed, and a closed position reflects every recorded
    partial exit. -/
theorem writers_serialize (hash : Request → String) {kw : OpenRequest} {quantity : ℚ} {db₀ : Db}
    (hopen : Opened kw db₀) (hq : kw.quantity = some quantity) (hpos : 0 < quantity)
    (earlier : List Call) (calls : Bool → Call) {m : Machine Bool Db PyError Reply}
    (h : Relation.ReflTransGen Step
      (Machine.start (runCalls hash db₀ earlier) fun i => (calls i).prog hash) m) :
    (∀ ans : Bool → Reply, (∀ i, m.client i = .finished (.ok (ans i))) →
      ∃ i s₁, ((calls i).prog hash).run (runCalls hash db₀ earlier) = .ok (ans i, s₁) ∧
        ((calls !i).prog hash).run s₁ = .ok (ans !i, m.committed)) ∧
    (∃ order : List Bool, order.Nodup ∧
      m.committed = runCalls hash db₀ (earlier ++ order.map calls)) ∧
    (∀ w, m.committed.trade kw.tradeId = some w → w.row.status = .CLOSED →
      ∃ call ∈ earlier ++ [calls false, calls true], Reflects kw quantity call w) := by
  have hw := fun i => writeFirst_call hash (calls i)
  obtain ⟨log, hlog⟩ := serializable hw h
  have hcommitted : m.committed =
      runCalls hash db₀ (earlier ++ (log.map Prod.fst).map calls) := by
    rw [serialRun_runCalls hlog.run, runCalls_append, List.map_map]
    rfl
  refine ⟨fun ans hans => serializable_two hw h hans, ⟨_, hlog.once, hcommitted⟩, ?_⟩
  intro w hwt hc
  rw [hcommitted] at hwt
  obtain ⟨call, hmem, href⟩ := reflects_run hopen hq hpos _ hwt hc
  refine ⟨call, ?_, href⟩
  rcases List.mem_append.mp hmem with hmem | hmem
  · exact List.mem_append_left _ hmem
  · obtain ⟨i, -, rfl⟩ := List.mem_map.mp hmem
    refine List.mem_append_right _ ?_
    cases i <;> simp

/-- The partial exit and the closure of the sample position, from two connections. -/
def sampleWriters (i : Bool) : Call := if i then .close sampleClosure else .act samplePartialExit

theorem writers_serialize_sample :
    ∃ m, Relation.ReflTransGen Step
        (Machine.start sampleDb fun i => (sampleWriters i).prog sampleHash) m ∧
      (∀ i, ∃ r, m.client i = .finished (.ok r)) ∧
      ∃ w, m.committed.trade "T1" = some w ∧ w.row.status = .CLOSED ∧ w.partials.length = 1 ∧
        ∃ call ∈ [sampleWriters false, sampleWriters true], Reflects sampleRequest 2 call w := by
  have hfirst : ((((Call.act samplePartialExit).prog sampleHash).run sampleDb).isOk) = true := by
    decide +kernel
  have hsecond : (((Call.close sampleClosure).prog sampleHash).run
      ((Call.act samplePartialExit).next sampleHash sampleDb)).isOk = true := by
    decide +kernel
  have hend : ((runCalls sampleHash sampleDb
      [.act samplePartialExit, .close sampleClosure]).trade "T1").map
      (fun w => (w.row.status, w.partials.length)) = some (.CLOSED, 1) := by
    decide +kernel
  obtain ⟨r₁, h₁⟩ := Prog.run_of_isOk hfirst
  obtain ⟨r₂, h₂⟩ := Prog.run_of_isOk hsecond
  have hrun := @run_both _ _ _ (fun i => (sampleWriters i).prog sampleHash) _ _ _ _ _ h₁ h₂
  obtain ⟨w, hw, hwc⟩ := Option.map_eq_some_iff.mp hend
  obtain ⟨hc, hlen⟩ := Prod.mk.inj hwc
  obtain ⟨-, -, href⟩ := writers_serialize sampleHash sample_opened rfl
    (show (0 : ℚ) < 2 by norm_num) [] sampleWriters hrun
  exact ⟨_, hrun, fun i => ⟨_, rfl⟩, w, hw, hc, hlen, href w hw hc⟩

end AlphaForge.Positions
