/-
  File:      AlphaForge/Exchange/Exposure.lean
  Subject:   What a snapshot of the exchange says about its exposure.

  A complete snapshot shows every row of `positionRisk` with its exact quantity and has the fills of
  every symbol that matters. Two filters can hide exposure from it: an order whose status is neither
  one of the three open ones nor terminal is skipped, and a quantity is compared with epsilon after
  the decimal context has rounded it to 28 digits.

  * `snapshot_returns` -- the snapshot never raises, its requests are bounded, and without complete
    evidence it has no counts.
  * `faithful_iff` -- when a complete snapshot hides nothing.
-/
import AlphaForge.Exchange.Snapshot

namespace AlphaForge.Exchange

open AlphaForge.Lib

variable {F : Type} [FloatNum F] (lang : Language F) (world : World F) (cfg : Config)
  (tracked : Tracked F)

/-! ## 1. Every snapshot returns -/

/-- The body succeeds outside a cooldown. -/
def Accepts (s : Session F) (t : Run F) : Prop :=
  ∃ remaining u, cooldownRemaining world s.reset = .ok remaining u ∧
    ¬ (FloatNum.ofInt 0 : F) < remaining ∧
    collect lang world cfg tracked ⟨u, Progress.fresh⟩ = .ok ⟨⟩ t

/-- A snapshot without complete evidence has no counts. -/
def NoCounts (r : Snapshot F) : Prop :=
  r.evidenceStatus = .incomplete ∧ r.orphanOrders = none ∧ r.orphanPositions = none ∧
    r.duplicateFills = none

/-- How a snapshot ends. -/
inductive Ending (s : Session F) (r : Snapshot F) : Prop where
  | complete (t : Run F) (h : Accepts lang world cfg tracked s t)
      (eq : r = completeSnapshot t.session t.progress)
  | incomplete (h : NoCounts r) (h' : ∀ t, ¬ Accepts lang world cfg tracked s t)

/-- The snapshot after the reading of the cooldown. -/
theorem snapshot_eq (s : Session F) :
    ∃ remaining u, cooldownRemaining world s.reset = .ok remaining u ∧ u.httpRequestCount = 0 ∧
      snapshot lang world cfg tracked s =
        (if (FloatNum.ofInt 0 : F) < remaining then
          pure { snapshotBase u Progress.fresh with
            errors := ["rate_limit_cooldown_active"]
            cooldownRemaining := some remaining }
        else
          match collect lang world cfg tracked ⟨u, Progress.fresh⟩ with
          | .ok _ t => do
            set t.session.clearCooldown
            return completeSnapshot t.session t.progress
          | .error failure t => do
            set t.session
            return incompleteSnapshot failure t.session t.progress : Step F (Snapshot F)) u :=
  ⟨_, _, rfl, rfl, rfl⟩

/-- The snapshot never raises, and its requests are bounded. -/
theorem snapshot_returns (s : Session F) :
    ∃ r t, snapshot lang world cfg tracked s = .ok r t ∧ r.httpRequestCount ≤ maxRequests cfg ∧
      Ending lang world cfg tracked s r := by
  obtain ⟨remaining, u, hremaining, hcount, hrun⟩ := snapshot_eq lang world cfg tracked s
  have hunique : ∀ t, Accepts lang world cfg tracked s t → ¬ (FloatNum.ofInt 0 : F) < remaining ∧
      collect lang world cfg tracked ⟨u, Progress.fresh⟩ = .ok ⟨⟩ t := by
    rintro t ⟨remaining', u', hremaining', hexpired, hcollect⟩
    cases hremaining.symm.trans hremaining'
    exact ⟨hexpired, hcollect⟩
  rw [hrun]
  split
  · rename_i hcooldown
    refine ⟨_, _, rfl, ?_, .incomplete ⟨rfl, rfl, rfl, rfl⟩ fun t h => (hunique t h).1 hcooldown⟩
    show u.httpRequestCount ≤ _
    rw [hcount]
    exact Nat.zero_le _
  · rename_i hexpired
    have hwithin : Within requests (maxRequests cfg) (collect lang world cfg tracked) :=
      within_collect
    have hbound := hwithin ⟨u, Progress.fresh⟩
    have hzero : requests (⟨u, Progress.fresh⟩ : Run F) = 0 := hcount
    rw [hzero, Nat.zero_add] at hbound
    cases hcollect : collect lang world cfg tracked ⟨u, Progress.fresh⟩ with
    | ok v t =>
      rw [hcollect, final_ok] at hbound
      exact ⟨_, _, rfl, hbound, .complete t ⟨remaining, u, hremaining, hexpired, hcollect⟩ rfl⟩
    | error failure t =>
      rw [hcollect, final_error] at hbound
      refine ⟨_, _, rfl, hbound, .incomplete ⟨rfl, rfl, rfl, rfl⟩ fun t' h => ?_⟩
      exact nomatch hcollect.symm.trans (hunique t' h).2

/-! ## 2. Nothing is hidden -/

/-- A position is the row's, with its exact quantity, and is active where that is above epsilon. -/
def PositionShown (exchangeSymbols : Option (List String)) (raw : Value F) (p : Position F) :
    Prop :=
  ∃ row, raw = .mapping row ∧ exactAmount lang row = some p.qtyExact ∧
    p.symbol = (positionSymbol lang exchangeSymbols row).getD
      (sanitizedSymbol lang (Payload.get row "symbol")) ∧
    (p.active = true ↔ cfg.positionEpsilon < p.qtyExact.magnitude)

variable (terminal : String → Prop)

/-- A complete snapshot hides nothing of what the exchange answered. -/
structure HidesNothing (rawPositions rawOrders : Value F) (r : Snapshot F) : Prop where
  positions : Answered world "positionRisk" none rawPositions ∧ ∃ rows exchangeSymbols,
    rawPositions = .list rows ∧
      List.Forall₂ (PositionShown lang cfg exchangeSymbols) rows r.positions
  orders : Answered world "openOrders" none rawOrders ∧ ∃ rows exchangeSymbols,
    rawOrders = .list rows ∧ ∀ raw ∈ rows, ∃ row, raw = .mapping row ∧
      (¬ terminal (orderStatus lang row) →
        ∃ o ∈ r.orders, OrderOf lang exchangeSymbols row o)
  openOrderFills : ∀ o ∈ r.orders, Fetched lang world o.symbol r.fills
  activePositionFills : ∀ p ∈ r.positions, p.active = true → Fetched lang world p.symbol r.fills
  trackedFills : ∃ exchangeSymbols, ∀ raw ∈ tracked.second, ∃ symbol,
    validSymbol lang exchangeSymbols raw "tracked" = .ok symbol ∧
      Fetched lang world symbol r.fills

/-- The snapshot is faithful: it returns within the bound, has no counts without complete evidence,
    and hides nothing with it. -/
def Faithful (s : Session F) : Prop :=
  ∃ r t, snapshot lang world cfg tracked s = .ok r t ∧ r.httpRequestCount ≤ maxRequests cfg ∧
    (r.evidenceStatus ≠ .complete → NoCounts r) ∧
    (r.evidenceStatus = .complete → ∃ t, Accepts lang world cfg tracked s t ∧
      ∃ rawPositions rawOrders, t.progress.rawPositions = some rawPositions ∧
        t.progress.rawOrders = some rawOrders ∧
        HidesNothing lang world cfg tracked terminal rawPositions rawOrders r)

/-- Epsilon lies between a quantity and its rounding. -/
def Straddled (epsilon : ℚ) (d : Decimal) : Prop :=
  ∃ size, d.abs = some size ∧ ¬ (epsilon < size ↔ epsilon < d.magnitude)

/-- No amount of the payload is straddled by epsilon. -/
def AmountsClear (epsilon : ℚ) (rawPositions : Value F) : Prop :=
  ∀ rows, rawPositions = .list rows → ∀ row, .mapping row ∈ rows → ∀ d,
    exactAmount lang row = some d → ¬ Straddled epsilon d

/-- Every order of the payload has an open or a terminal status. -/
def StatusesKnown (rawOrders : Value F) : Prop :=
  ∀ rows, rawOrders = .list rows → ∀ row, .mapping row ∈ rows →
    orderStatus lang row ∈ openStatuses ∨ terminal (orderStatus lang row)

theorem forall₂_of_mem {α β : Type} {R : α → β → Prop} {xs : List α} {ys : List β}
    (h : List.Forall₂ R xs ys) {x : α} (hx : x ∈ xs) : ∃ y ∈ ys, R x y := by
  induction h with
  | nil => exact absurd hx List.not_mem_nil
  | cons hxy _ ih =>
    rcases List.mem_cons.mp hx with rfl | hx
    · exact ⟨_, List.mem_cons_self, hxy⟩
    · obtain ⟨y, hy, hR⟩ := ih hx
      exact ⟨y, List.mem_cons_of_mem _ hy, hR⟩

theorem forall₂_imp_of_mem {α β : Type} {R S : α → β → Prop} {xs : List α} {ys : List β}
    (h : List.Forall₂ R xs ys) (himp : ∀ x ∈ xs, ∀ y ∈ ys, R x y → S x y) :
    List.Forall₂ S xs ys := by
  induction h with
  | nil => exact .nil
  | cons hxy _ ih =>
    exact .cons (himp _ List.mem_cons_self _ List.mem_cons_self hxy)
      (ih fun x hx y hy => himp x (List.mem_cons_of_mem _ hx) y (List.mem_cons_of_mem _ hy))

theorem forall₂_and {α β : Type} {R S : α → β → Prop} {xs : List α} {ys : List β}
    (hR : List.Forall₂ R xs ys) (hS : List.Forall₂ S xs ys) :
    List.Forall₂ (fun x y => R x y ∧ S x y) xs ys := by
  induction hR with
  | nil => exact .nil
  | cons hxy _ ih =>
    cases hS with
    | cons hxy' hS => exact .cons ⟨hxy, hxy'⟩ (ih hS)

theorem mapM_ok_mem {ε α β : Type} {f : α → Except ε β} {xs : List α} {ys : List β}
    (h : xs.mapM f = .ok ys) {x : α} (hx : x ∈ xs) : ∃ y ∈ ys, f x = .ok y := by
  induction xs generalizing ys with
  | nil => exact absurd hx List.not_mem_nil
  | cons a xs ih =>
    rw [List.mapM_cons] at h
    obtain ⟨b, hb, h⟩ := ok_of_bind h
    obtain ⟨bs, hbs, h⟩ := ok_of_bind h
    cases h
    rcases List.mem_cons.mp hx with rfl | hx
    · exact ⟨b, List.mem_cons_self, hb⟩
    · obtain ⟨y, hy, hfy⟩ := ih hbs hx
      exact ⟨y, List.mem_cons_of_mem _ hy, hfy⟩

variable {lang world cfg tracked terminal}

/-- What a collection has read hides nothing, if amounts and statuses are clear. -/
theorem hidesNothing_of_collected {t : Run F} {rawPositions rawOrders : Value F}
    (h : Collected lang world cfg tracked t.progress)
    (hrawPositions : t.progress.rawPositions = some rawPositions)
    (hrawOrders : t.progress.rawOrders = some rawOrders)
    (hamounts : AmountsClear lang cfg.positionEpsilon rawPositions)
    (hstatuses : StatusesKnown lang terminal rawOrders) :
    HidesNothing lang world cfg tracked terminal rawPositions rawOrders
      (completeSnapshot t.session t.progress) := by
  obtain ⟨raw, positionSymbols, warnings, hraw, hanswered, hnormal⟩ := h.positions
  cases hraw.symm.trans hrawPositions
  obtain ⟨raw', orderSymbols, hraw', hordersAnswered, hordersNormal⟩ := h.orders
  cases hraw'.symm.trans hrawOrders
  obtain ⟨fillSymbols, trackedSymbols, htracked, hfetched⟩ := h.fills
  obtain ⟨rows, rfl, hshows⟩ := normalizePositions_ok lang hnormal
  obtain ⟨orderRows, rfl, horders, hopen⟩ := normalizeOrders_ok lang hordersNormal
  have hfetch : ∀ symbol, (symbol ∈ trackedSymbols ∨
      (∃ o ∈ t.progress.orders, o.symbol = symbol) ∨
        ∃ p ∈ t.progress.positions, p.active = true ∧ p.symbol = symbol) →
      Fetched lang world symbol t.progress.fills :=
    fun symbol hsymbol => hfetched symbol (mem_selectedSymbols.mpr hsymbol)
  refine ⟨⟨hanswered, rows, positionSymbols, rfl, ?_⟩,
    ⟨hordersAnswered, orderRows, orderSymbols, rfl, ?_⟩, ?_, ?_, fillSymbols, ?_⟩
  · refine forall₂_imp_of_mem hshows fun raw hmem p _ hp => ?_
    obtain ⟨row, rfl, hexact, hsymbol⟩ := hp.row
    obtain ⟨size, hsize, hactive⟩ := hp.active
    refine ⟨row, rfl, hexact, hsymbol, hactive.trans ?_⟩
    by_contra hnot
    exact hamounts rows rfl row hmem p.qtyExact hexact ⟨size, hsize, hnot⟩
  · intro raw hmem
    obtain ⟨row, rfl, hrow⟩ := horders raw hmem
    refine ⟨row, rfl, fun hnot => hrow ?_⟩
    exact (hstatuses orderRows rfl row hmem).resolve_right hnot
  · exact fun o ho => hfetch o.symbol (.inr (.inl ⟨o, ho, rfl⟩))
  · exact fun p hp hactive => hfetch p.symbol (.inr (.inr ⟨p, hp, hactive, rfl⟩))
  · intro raw hraw
    obtain ⟨symbol, hsymbol, hvalid⟩ := mapM_ok_mem htracked hraw
    exact ⟨symbol, hvalid, hfetch symbol (.inl hsymbol)⟩

/-- Where nothing is hidden, no amount is straddled. -/
theorem amountsClear_of_hidesNothing {t : Run F} {rawPositions rawOrders : Value F}
    (hcollected : Collected lang world cfg tracked t.progress)
    (hrawPositions : t.progress.rawPositions = some rawPositions)
    (h : HidesNothing lang world cfg tracked terminal rawPositions rawOrders
      (completeSnapshot t.session t.progress)) :
    AmountsClear lang cfg.positionEpsilon rawPositions := by
  obtain ⟨raw, positionSymbols, warnings, hraw, -, hnormal⟩ := hcollected.positions
  cases hraw.symm.trans hrawPositions
  obtain ⟨rows, rfl, hshows⟩ := normalizePositions_ok lang hnormal
  obtain ⟨-, rows', exchangeSymbols, hrows, hshown⟩ := h.positions
  cases hrows
  intro rows' hrows' row hmem d hd
  cases hrows'
  rintro ⟨size, hsize, hnot⟩
  -- both relations hold of the row's own position
  have hboth := forall₂_and hshows hshown
  obtain ⟨p, -, hp, row', hrow', hexact, -, hactive⟩ := forall₂_of_mem hboth hmem
  cases hrow'
  cases hd.symm.trans hexact
  obtain ⟨size', hsize', hactive'⟩ := hp.active
  cases hsize.symm.trans hsize'
  exact hnot (hactive'.symm.trans hactive)

theorem statusesKnown_of_hidesNothing {t : Run F} {rawPositions rawOrders : Value F}
    (hcollected : Collected lang world cfg tracked t.progress)
    (h : HidesNothing lang world cfg tracked terminal rawPositions rawOrders
      (completeSnapshot t.session t.progress)) :
    StatusesKnown lang terminal rawOrders := by
  obtain ⟨raw, orderSymbols, -, -, hnormal⟩ := hcollected.orders
  obtain ⟨orderRows, -, -, hopen⟩ := normalizeOrders_ok lang hnormal
  obtain ⟨-, rows, exchangeSymbols, rfl, horders⟩ := h.orders
  intro rows' hrows' row hmem
  cases hrows'
  obtain ⟨row', hrow', hshown⟩ := horders _ hmem
  cases hrow'
  by_cases hterminal : terminal (orderStatus lang row)
  · exact .inr hterminal
  · obtain ⟨o, ho, hof⟩ := hshown hterminal
    exact .inl (hof.status ▸ hopen o ho)

variable (lang world cfg tracked terminal)

theorem accepts_collected {s : Session F} {t : Run F} (h : Accepts lang world cfg tracked s t) :
    Collected lang world cfg tracked t.progress := by
  obtain ⟨_, _, -, -, hcollect⟩ := h
  exact collect_ok hcollect

/-- What is read is read once. -/
theorem accepts_unique {s : Session F} {t t' : Run F}
    (h : Accepts lang world cfg tracked s t) (h' : Accepts lang world cfg tracked s t') :
    t = t' := by
  obtain ⟨_, _, hremaining, -, hcollect⟩ := h
  obtain ⟨_, _, hremaining', -, hcollect'⟩ := h'
  cases hremaining.symm.trans hremaining'
  cases hcollect.symm.trans hcollect'
  rfl

/-- The snapshot is faithful if and only if, where the exchange's answers are accepted, no amount
    is straddled by epsilon and every order has an open or a terminal status. -/
theorem faithful_iff (s : Session F) :
    Faithful lang world cfg tracked terminal s ↔
      ∀ t rawPositions rawOrders, Accepts lang world cfg tracked s t →
        t.progress.rawPositions = some rawPositions → t.progress.rawOrders = some rawOrders →
        AmountsClear lang cfg.positionEpsilon rawPositions ∧
          StatusesKnown lang terminal rawOrders := by
  obtain ⟨r, u, hsnapshot, hbound, hending⟩ := snapshot_returns lang world cfg tracked s
  constructor
  · rintro ⟨r', u', hsnapshot', -, -, hcomplete⟩ t rawPositions rawOrders haccepts hp ho
    cases hsnapshot.symm.trans hsnapshot'
    cases hending with
    | incomplete _ hnone => exact absurd haccepts (hnone t)
    | complete t₁ h₁ heq =>
      cases accepts_unique lang world cfg tracked h₁ haccepts
      subst heq
      obtain ⟨t₂, h₂, rawPositions', rawOrders', hp', ho', hhides⟩ := hcomplete rfl
      cases accepts_unique lang world cfg tracked haccepts h₂
      cases hp.symm.trans hp'
      cases ho.symm.trans ho'
      have hcollected := accepts_collected lang world cfg tracked haccepts
      exact ⟨amountsClear_of_hidesNothing hcollected hp hhides,
        statusesKnown_of_hidesNothing hcollected hhides⟩
  · intro hclear
    refine ⟨r, u, hsnapshot, hbound, ?_, ?_⟩
    · intro hstatus
      cases hending with
      | incomplete h _ => exact h
      | complete t h heq =>
        subst heq
        exact absurd rfl hstatus
    · intro hstatus
      cases hending with
      | incomplete h _ => exact nomatch h.1.symm.trans hstatus
      | complete t h heq =>
        subst heq
        have hcollected := accepts_collected lang world cfg tracked h
        obtain ⟨rawPositions, _, _, hp, -⟩ := hcollected.positions
        obtain ⟨rawOrders, _, ho, -⟩ := hcollected.orders
        obtain ⟨hamounts, hstatuses⟩ := hclear t rawPositions rawOrders h hp ho
        exact ⟨t, h, rawPositions, rawOrders, hp, ho,
          hidesNothing_of_collected hcollected hp ho hamounts hstatuses⟩

/-! ## 3. An order that is being cancelled -/

/-- A language of ASCII texts; no text spells a number. -/
def asciiLanguage : Language ℚ where
  parse _ := none
  str _ := ""
  dumps _ := ""
  upper := upper
  lower := lower
  strip := strip
  category _ := "Lu"
  decimal _ := none
  decimalFloat _ := 0
  int _ := none
  timestamp _ := none
  digest _ := ""
  redact := id
  bannedUntil _ := none

/-- The exchange has no positions and one order, whose cancellation is pending. -/
def pendingCancel : World ℚ where
  http _ request :=
    if request.endpoint = "openOrders" then
      .payload (.list [.mapping [("symbol", .text "BTCUSDT"), ("status", .text "PENDING_CANCEL")]])
    else .payload (.list [])
  nowMs n := n
  monotonic _ := 0

/-- The defaults of the configuration. -/
def defaultConfig : Config := ⟨5000, 3600000, 1 / 100000000, 10, 1⟩

/-- A new provider. -/
def newSession : Session ℚ := ⟨0, 0, [], [], 0, 0, none, 0, 0⟩

/-- The terminal statuses of the exchange's orders. -/
def exchangeTerminal (status : String) : Prop :=
  status ∈ ["FILLED", "CANCELED", "REJECTED", "EXPIRED", "EXPIRED_IN_MATCH"]

/-- The order is hidden from a complete snapshot. -/
theorem pendingCancel_hidden :
    ¬ Faithful asciiLanguage pendingCancel defaultConfig ⟨[], []⟩ exchangeTerminal newSession := by
  rintro ⟨r, t, hsnapshot, -, -, hcomplete⟩
  have hrun : (match snapshot asciiLanguage pendingCancel defaultConfig ⟨[], []⟩ newSession with
      | .ok r _ => decide (r.evidenceStatus = .complete) && r.orders.isEmpty
      | .error _ _ => false) = true := by decide +kernel
  rw [hsnapshot] at hrun
  simp only [Bool.and_eq_true, decide_eq_true_eq, List.isEmpty_iff] at hrun
  obtain ⟨_, -, _, rawOrders, -, -, hhides⟩ := hcomplete hrun.1
  obtain ⟨⟨n, request, hendpoint, -, hanswer⟩, rows, _, rfl, horders⟩ := hhides.orders
  simp only [pendingCancel, if_pos hendpoint] at hanswer
  cases hanswer
  obtain ⟨row, hrow, hshown⟩ := horders _ List.mem_cons_self
  cases hrow
  have hstatus : ¬ exchangeTerminal (orderStatus asciiLanguage
      [("symbol", .text "BTCUSDT"), ("status", .text "PENDING_CANCEL")]) := by
    unfold exchangeTerminal
    decide +kernel
  obtain ⟨o, ho, -⟩ := hshown hstatus
  rw [hrun.2] at ho
  exact absurd ho List.not_mem_nil

end AlphaForge.Exchange
