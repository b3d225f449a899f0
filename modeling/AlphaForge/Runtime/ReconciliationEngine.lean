/-
  File:      AlphaForge/Runtime/ReconciliationEngine.lean
  Subject:   `reconciliation.py`: `ReconciliationEngine.reconcile`, the findings about a snapshot of
             the exchange.

  The check looks from the exchange to the own orders: what the exchange shows has to be known. It
  is given no own positions and no own fills.

  * `Clean` -- when the check reports success: every order, position and lifecycle state is
    covered, and no fill occurs twice.
  * **`reconcile_outcome`** -- success is `Clean`, the duplicates are counted, and neither the
    metrics nor the findings depend on the order of a list.

  The timestamps of the findings are left out.
-/
import AlphaForge.Lib.Occurrences
import AlphaForge.Lib.Payload

namespace AlphaForge.Runtime.ReconciliationEngine

open AlphaForge.Lib

variable {F : Type} [FloatNum F] (py : Builtins F)

/-! ## 1. Findings -/

/-- `ReconciliationFinding`. -/
structure Finding (F : Type) where
  findingType : String
  severity : String
  symbol : String
  lifecycleRef : String
  evidence : Payload F
  suggestedRemediation : String
  failClosed : Bool

/-- `RepairRecommendation`. -/
structure Repair (F : Type) where
  category : String
  symbol : String
  requiresOperatorApproval : Bool
  actionPayload : Payload F

/-- What the engine and one call of it are given, less the lists. -/
structure Engine where
  staleOrderSeconds : ℤ
  failClosedOnHigh : Bool
  mode : String
  /-- `datetime.now(timezone.utc)`. -/
  now : Dt
  /-- `datetime.fromisoformat`; `none` where it raises. -/
  fromisoformat : String → Option Dt

/-- `ReconciliationSnapshot`, less the time of capture. -/
structure ExchangeSnapshot (F : Type) where
  orders : List (Payload F)
  positions : List (Payload F)
  fills : List (Payload F)

/-- A finding with the repair that is appended together with it. -/
abbrev Item (F : Type) := Finding F × Repair F

variable (engine : Engine)

omit [FloatNum F] in
/-- `_mk` and `_repair`. -/
def item (findingType severity symbol ref : String) (evidence : Payload F) (remediation : String)
    (failClosed : Bool) (category : String) (action : Payload F) : Item F :=
  ({ findingType := findingType, severity := severity, symbol := symbol, lifecycleRef := ref,
     evidence := evidence, suggestedRemediation := remediation,
     failClosed := failClosed && engine.failClosedOnHigh },
   { category := category, symbol := symbol,
     requiresOperatorApproval := upper engine.mode = "LIVE",
     actionPayload := ("dry_run", .bool true) :: ("shadow_mode", .bool true) :: action })

/-- `str(record.get(key) or default)`. -/
def textOf (record : Payload F) (key default : String) : String :=
  let value := record.get key
  if value.truthy then value.str py else default

/-! ## 2. The four checks -/

/-- `_is_stale`; a time without an offset cannot be subtracted. -/
def isStale (order : Payload F) : Except PyError Bool :=
  let createdAt := textOf py order "created_at" ""
  if createdAt = "" then .ok false
  else
    match engine.fromisoformat (createdAt.replace "Z" "+00:00") with
    | none => .ok false
    | some ts => do
      let age ← engine.now.secondsSince ts
      return decide ((engine.staleOrderSeconds : ℚ) ≤ age)

/-- The ids of the own orders. -/
def intendedIds (intendedOrders : List (Payload F)) : List String :=
  (intendedOrders.filter fun o => (o.get "order_id").truthy).map fun o => (o.get "order_id").str py

/-- The status of an order. -/
def statusOf (order : Payload F) : String := upper (textOf py order "status" "UNKNOWN")

/-- The order is not one of the own ones. -/
def isOrphan (ids : List String) (order : Payload F) : Bool :=
  let oid := textOf py order "order_id" ""
  oid ≠ "" ∧ oid ∉ ids

/-- `status == "OPEN" and self._is_stale(order, now)`. -/
def isStaleOpen (order : Payload F) : Except PyError Bool :=
  if statusOf py order = "OPEN" then isStale py engine order else .ok false

def orderItems (ids : List String) (order : Payload F) : Except PyError (List (Item F)) := do
  let oid := textOf py order "order_id" ""
  let symbol := textOf py order "symbol" "UNKNOWN"
  let evidence : Payload F := [("order", .mapping order)]
  let orphan :=
    if isOrphan py ids order then
      [item engine "ORPHAN_ORDER" "HIGH" symbol ("order:" ++ oid) evidence "cancel stale order" true
        "cancel_stale_order" [("order_id", .text oid)]]
    else []
  let stale ← isStaleOpen py engine order
  return orphan ++
    if stale then
      [item engine "STALE_ORDER" "MEDIUM" symbol ("order:" ++ oid) evidence
        "refresh exchange snapshot" false "refresh_exchange_snapshot" [("order_id", .text oid)]]
    else []

/-- The symbols with an open or partly filled order. -/
def openSymbols (orders : List (Payload F)) : List String :=
  (orders.filter fun o => upper (textOf py o "status" "") ∈ ["OPEN", "PARTIAL_FILL"]).map fun o =>
    textOf py o "symbol" ""

/-- A state after the entry without an order and a position. -/
def isDivergent (snapshot : ExchangeSnapshot F) (entry : String × String) : Bool :=
  entry.2 ∈ ["ENTRY_FILLED", "ENTRY_ACKNOWLEDGED"] ∧ entry.1 ∉ openSymbols py snapshot.orders ∧
    entry.1 ∉ snapshot.positions.map fun p => (p.get "symbol").str py

def lifecycleItem (snapshot : ExchangeSnapshot F) (entry : String × String) : Item F :=
  item engine "LIFECYCLE_DIVERGENCE" "HIGH" entry.1 ("symbol:" ++ entry.1)
    [("lifecycle", .text entry.2),
      ("open_symbols", .list ((sortedSet (openSymbols py snapshot.orders)).map .text))]
    "escalate incident" true "escalate_incident" [("lifecycle_state", .text entry.2)]

def lifecycleItems (lifecycleStateBySymbol : List (String × String))
    (snapshot : ExchangeSnapshot F) : List (Item F) :=
  (lifecycleStateBySymbol.filter (isDivergent py snapshot)).map (lifecycleItem py engine snapshot)

/-- The symbols of the own orders. -/
def intendedSymbols (intendedOrders : List (Payload F)) : List String :=
  intendedOrders.map fun o => textOf py o "symbol" ""

/-- `float(pos.get("qty", 0.0) or 0.0)`. -/
def quantityOf (pos : Payload F) : Except PyError F :=
  match (pos.getD "qty" (.float (FloatNum.ofInt 0))).or (.float (FloatNum.ofInt 0)) with
  | .bool b => .ok (FloatNum.ofInt (if b then 1 else 0))
  | .int n => .ok (FloatNum.ofInt n)
  | .float x => .ok x
  | .text s =>
    match py.parse s with
    | some x => .ok x
    | none => .error (.valueError s)
  | _ => .error .typeError

def positionItems (symbols : List String) (pos : Payload F) : Except PyError (List (Item F)) := do
  let symbol := textOf py pos "symbol" ""
  let qty ← quantityOf py pos
  return if symbol ∉ symbols ∧ FloatNum.ofInt 0 < FloatNum.abs qty then
      [item engine "ORPHAN_POSITION" "HIGH" symbol ("position:" ++ symbol)
        [("position", .mapping pos)] "close orphan position" true "close_orphan_position"
        [("qty", .float qty)]]
    else []

/-- The key under which a fill counts once. -/
def dedupeKey (fill : Payload F) : String :=
  let tradeId := strip (textOf py fill "trade_id" "")
  if tradeId ≠ "" then "trade_id:" ++ tradeId
  else
    "fallback:" ++ "|".intercalate
      [textOf py fill "symbol" "UNKNOWN", textOf py fill "order_id" "", textOf py fill "time" "",
        textOf py fill "qty" "", textOf py fill "price" "", textOf py fill "side" ""]

def fillItem (fill : Payload F) : Item F :=
  let key := dedupeKey py fill
  item engine "DUPLICATE_FILL" "HIGH" (textOf py fill "symbol" "UNKNOWN") ("fill:" ++ key)
    [("fill", .mapping fill), ("dedupe_key", .text key)] "escalate incident" true
    "escalate_incident" [("duplicate_fill_key", .text key)]

/-- The loop over the fills. -/
def fillItems (seen : List String) : List (Payload F) → List (Item F)
  | [] => []
  | fill :: rest =>
    if dedupeKey py fill ∈ seen then fillItem py engine fill :: fillItems seen rest
    else fillItems (dedupeKey py fill :: seen) rest

/-! ## 3. The engine -/

/-- The metrics, less the latency, which is always 0. -/
structure Metrics where
  reconciliationSuccess : Bool
  orphanIncidentRate : ℕ
  staleOrderFrequency : ℕ
  lifecycleDivergenceFrequency : ℕ
  repairRecommendationCounts : ℕ
  deriving DecidableEq, Repr

/-- What `reconcile` returns. -/
structure Report (F : Type) where
  findings : List (Finding F)
  recommendations : List (Repair F)
  metrics : Metrics

/-- How many findings have one of the given types. -/
def countTypes (types : List String) (findings : List (Finding F)) : ℕ :=
  (findings.filter fun f => f.findingType ∈ types).length

/-- The types that contain `ORPHAN`. -/
def orphanTypes : List String := ["ORPHAN_ORDER", "ORPHAN_POSITION"]

def reportOf (items : List (Item F)) : Report F :=
  let findings := items.map Prod.fst
  { findings := findings
    recommendations := items.map Prod.snd
    metrics :=
      { reconciliationSuccess := !findings.any (·.failClosed)
        orphanIncidentRate := countTypes orphanTypes findings
        staleOrderFrequency := countTypes ["STALE_ORDER"] findings
        lifecycleDivergenceFrequency := countTypes ["LIFECYCLE_DIVERGENCE"] findings
        repairRecommendationCounts := items.length } }

/-- `reconcile`. -/
def reconcile (intendedOrders : List (Payload F)) (lifecycleStateBySymbol : List (String × String))
    (snapshot : ExchangeSnapshot F) : Except PyError (Report F) := do
  let orders ← snapshot.orders.mapM (orderItems py engine (intendedIds py intendedOrders))
  let lifecycle := lifecycleItems py engine lifecycleStateBySymbol snapshot
  let positions ← snapshot.positions.mapM
    (positionItems py engine (intendedSymbols py intendedOrders))
  let fills := fillItems py engine [] snapshot.fills
  return reportOf (orders.flatten ++ lifecycle ++ positions.flatten ++ fills)

/-! ## 4. What each check finds -/

/-- What identifies a finding, whatever record it was found on. -/
structure Digest where
  findingType : String
  severity : String
  lifecycleRef : String
  suggestedRemediation : String
  failClosed : Bool
  deriving DecidableEq

omit [FloatNum F] in
def Finding.digest (f : Finding F) : Digest where
  findingType := f.findingType
  severity := f.severity
  lifecycleRef := f.lifecycleRef
  suggestedRemediation := f.suggestedRemediation
  failClosed := f.failClosed

omit [FloatNum F] in
def digests (items : List (Item F)) : List Digest := items.map fun i => i.1.digest

variable {py engine}

/-- The items of one order: at most an orphan and a stale one. -/
theorem orderItems_ok {ids : List String} {order : Payload F} {items : List (Item F)}
    (h : orderItems py engine ids order = .ok items) :
    ∀ i ∈ items,
      (isOrphan py ids order = true ∧ i.1.findingType = "ORPHAN_ORDER" ∧
        i.1.failClosed = engine.failClosedOnHigh) ∨
      (i.1.findingType = "STALE_ORDER" ∧ i.1.failClosed = false) := by
  simp only [orderItems] at h
  obtain ⟨stale, _, h⟩ := ok_of_bind h
  cases h
  intro i hi
  rcases List.mem_append.mp hi with hi | hi
  · by_cases horphan : isOrphan py ids order = true
    · rw [if_pos horphan] at hi
      rw [List.mem_singleton.mp hi]
      exact Or.inl ⟨horphan, rfl, Bool.true_and _⟩
    · rw [if_neg horphan] at hi
      exact absurd hi List.not_mem_nil
  · split at hi
    · rw [List.mem_singleton.mp hi]
      exact Or.inr ⟨rfl, rfl⟩
    · exact absurd hi List.not_mem_nil

/-- An order fails the check exactly where it is an orphan. -/
theorem orderItems_clean {ids : List String} {order : Payload F} {items : List (Item F)}
    (hclosed : engine.failClosedOnHigh = true) (h : orderItems py engine ids order = .ok items) :
    (∀ i ∈ items, i.1.failClosed = false) ↔ isOrphan py ids order = false := by
  constructor
  · intro hclean
    by_contra horphan
    rw [Bool.not_eq_false] at horphan
    simp only [orderItems] at h
    obtain ⟨stale, _, h⟩ := ok_of_bind h
    cases h
    rw [if_pos horphan] at hclean
    have hfail := hclean _ (List.mem_append_left _ (List.mem_singleton_self _))
    unfold item at hfail
    rw [hclosed] at hfail
    cases hfail
  · intro horphan i hi
    rcases orderItems_ok h i hi with ⟨htrue, _⟩ | ⟨_, hfalse⟩
    · rw [horphan] at htrue
      cases htrue
    · exact hfalse

/-- The position is unknown and not empty. -/
def isOrphanPosition (py : Builtins F) (symbols : List String) (pos : Payload F) : Prop :=
  textOf py pos "symbol" "" ∉ symbols ∧
    ∃ qty, quantityOf py pos = .ok qty ∧ FloatNum.ofInt 0 < FloatNum.abs qty

theorem positionItems_ok {symbols : List String} {pos : Payload F} {items : List (Item F)}
    (h : positionItems py engine symbols pos = .ok items) :
    (∀ i ∈ items, i.1.findingType = "ORPHAN_POSITION" ∧
        i.1.failClosed = engine.failClosedOnHigh) ∧
      (items = [] ↔ ¬ isOrphanPosition py symbols pos) := by
  simp only [positionItems] at h
  obtain ⟨qty, hqty, h⟩ := ok_of_bind h
  cases h
  have horphan : isOrphanPosition py symbols pos ↔
      textOf py pos "symbol" "" ∉ symbols ∧ FloatNum.ofInt 0 < FloatNum.abs qty := by
    unfold isOrphanPosition
    rw [hqty]
    refine and_congr_right fun _ => ?_
    constructor
    · intro ⟨q, hq, hpos⟩
      cases hq
      exact hpos
    · intro hpos
      exact ⟨qty, rfl, hpos⟩
  rw [horphan]
  split
  · rename_i hyes
    refine ⟨?_, iff_of_false (List.cons_ne_nil _ _) (not_not.mpr hyes)⟩
    intro i hi
    rw [List.mem_singleton.mp hi]
    exact ⟨rfl, Bool.true_and _⟩
  · rename_i hno
    exact ⟨fun i hi => absurd hi List.not_mem_nil, iff_of_true rfl hno⟩

theorem positionItems_clean {symbols : List String} {pos : Payload F} {items : List (Item F)}
    (hclosed : engine.failClosedOnHigh = true)
    (h : positionItems py engine symbols pos = .ok items) :
    (∀ i ∈ items, i.1.failClosed = false) ↔ ¬ isOrphanPosition py symbols pos := by
  obtain ⟨hall, hnil⟩ := positionItems_ok h
  rw [← hnil]
  constructor
  · intro hclean
    rw [List.eq_nil_iff_forall_not_mem]
    intro i hi
    have hfail := (hall i hi).2
    rw [hclean i hi, hclosed] at hfail
    cases hfail
  · intro hempty
    rw [hempty]
    exact fun i hi => absurd hi List.not_mem_nil

theorem lifecycleItems_mem {lifecycle : List (String × String)} {snapshot : ExchangeSnapshot F}
    {i : Item F} (h : i ∈ lifecycleItems py engine lifecycle snapshot) :
    i.1.findingType = "LIFECYCLE_DIVERGENCE" ∧ i.1.failClosed = engine.failClosedOnHigh := by
  obtain ⟨e, _, hi⟩ := List.mem_map.mp h
  rw [← hi]
  exact ⟨rfl, Bool.true_and _⟩

theorem lifecycleItems_clean {lifecycle : List (String × String)} {snapshot : ExchangeSnapshot F}
    (hclosed : engine.failClosedOnHigh = true) :
    (∀ i ∈ lifecycleItems py engine lifecycle snapshot, i.1.failClosed = false) ↔
      ∀ e ∈ lifecycle, isDivergent py snapshot e = false := by
  unfold lifecycleItems
  rw [List.forall_mem_map]
  simp only [List.mem_filter]
  constructor
  · intro h e he
    by_contra hdiv
    rw [Bool.not_eq_false] at hdiv
    have hfail : (true && engine.failClosedOnHigh) = false := h e ⟨he, hdiv⟩
    rw [hclosed] at hfail
    cases hfail
  · intro h e ⟨he, hdiv⟩
    rw [h e he] at hdiv
    cases hdiv

/-- What identifies a duplicate fill. -/
def fillDigest (engine : Engine) (key : String) : Digest :=
  ⟨"DUPLICATE_FILL", "HIGH", "fill:" ++ key, "escalate incident", true && engine.failClosedOnHigh⟩

/-- The duplicate fills are the repeated keys. -/
theorem digests_fillItems (seen : List String) (fills : List (Payload F)) :
    digests (fillItems py engine seen fills) =
      (repeats seen (fills.map (dedupeKey py))).map (fillDigest engine) := by
  induction fills generalizing seen with
  | nil => rfl
  | cons fill rest ih =>
    rw [List.map_cons]
    unfold fillItems repeats
    by_cases h : dedupeKey py fill ∈ seen
    · rw [if_pos h, if_pos h, List.map_cons, ← ih seen]
      rfl
    · rw [if_neg h, if_neg h]
      exact ih _

/-! ## 5. The parts of a report -/

/-- The items of a report: of the orders, the states, the positions and the fills. -/
theorem reconcile_ok {intended : List (Payload F)} {lifecycle : List (String × String)}
    {snapshot : ExchangeSnapshot F} {report : Report F}
    (h : reconcile py engine intended lifecycle snapshot = .ok report) :
    ∃ orders positions,
      snapshot.orders.mapM (orderItems py engine (intendedIds py intended)) = .ok orders ∧
      snapshot.positions.mapM (positionItems py engine (intendedSymbols py intended)) =
        .ok positions ∧
      report = reportOf (orders.flatten ++ lifecycleItems py engine lifecycle snapshot ++
        positions.flatten ++ fillItems py engine [] snapshot.fills) := by
  simp only [reconcile] at h
  obtain ⟨orders, horders, h⟩ := ok_of_bind h
  obtain ⟨positions, hpositions, h⟩ := ok_of_bind h
  cases h
  exact ⟨orders, positions, horders, hpositions, rfl⟩

/-- When the exchange shows nothing unknown. -/
structure Clean (py : Builtins F) (intended : List (Payload F))
    (lifecycle : List (String × String)) (snapshot : ExchangeSnapshot F) : Prop where
  /-- Every order with an id is an own order. -/
  orders : ∀ o ∈ snapshot.orders, textOf py o "order_id" "" ≠ "" →
    textOf py o "order_id" "" ∈ intendedIds py intended
  /-- Every position that is not empty has the symbol of an own order. -/
  positions : ∀ p ∈ snapshot.positions, ∀ qty, quantityOf py p = .ok qty →
    FloatNum.ofInt 0 < FloatNum.abs qty → textOf py p "symbol" "" ∈ intendedSymbols py intended
  /-- Every state after the entry has an open order or a position. -/
  lifecycle : ∀ e ∈ lifecycle, e.2 ∈ ["ENTRY_FILLED", "ENTRY_ACKNOWLEDGED"] →
    e.1 ∈ openSymbols py snapshot.orders ∨
      e.1 ∈ snapshot.positions.map fun p => (p.get "symbol").str py
  /-- Every fill occurs once. -/
  fills : (snapshot.fills.map (dedupeKey py)).Nodup

theorem isOrphan_eq_false {ids : List String} {o : Payload F} :
    isOrphan py ids o = false ↔
      (textOf py o "order_id" "" ≠ "" → textOf py o "order_id" "" ∈ ids) := by
  simp only [isOrphan, decide_eq_false_iff_not, not_and, not_not]

theorem isDivergent_eq_false {snapshot : ExchangeSnapshot F} {e : String × String} :
    isDivergent py snapshot e = false ↔ (e.2 ∈ ["ENTRY_FILLED", "ENTRY_ACKNOWLEDGED"] →
      e.1 ∈ openSymbols py snapshot.orders ∨
        e.1 ∈ snapshot.positions.map fun p => (p.get "symbol").str py) := by
  unfold isDivergent
  rw [decide_eq_false_iff_not]
  tauto

theorem fillItems_clean {fills : List (Payload F)} (hclosed : engine.failClosedOnHigh = true) :
    (∀ i ∈ fillItems py engine [] fills, i.1.failClosed = false) ↔
      (fills.map (dedupeKey py)).Nodup := by
  have hdigests : digests (fillItems py engine [] fills) =
      (repeats [] (fills.map (dedupeKey py))).map (fillDigest engine) := digests_fillItems [] fills
  have hall : (∀ i ∈ fillItems py engine [] fills, i.1.failClosed = false) ↔
      ∀ d ∈ digests (fillItems py engine [] fills), d.failClosed = false := by
    unfold digests
    rw [List.forall_mem_map]
    rfl
  rw [hall, hdigests, List.forall_mem_map, ← repeats_eq_nil_iff, List.eq_nil_iff_forall_not_mem]
  refine forall_congr' fun key => ?_
  have hfail : (fillDigest engine key).failClosed = true := by
    unfold fillDigest
    rw [hclosed]
    rfl
  rw [hfail]
  exact ⟨fun h hmem => Bool.noConfusion (h hmem), fun h hmem => absurd hmem h⟩

/-- **Success is that the exchange shows nothing unknown.** -/
theorem success_iff {intended : List (Payload F)} {lifecycle : List (String × String)}
    {snapshot : ExchangeSnapshot F} {report : Report F} (hclosed : engine.failClosedOnHigh = true)
    (h : reconcile py engine intended lifecycle snapshot = .ok report) :
    report.metrics.reconciliationSuccess = true ↔ Clean py intended lifecycle snapshot := by
  obtain ⟨orders, positions, horders, hpositions, hreport⟩ := reconcile_ok h
  have hsuccess : report.metrics.reconciliationSuccess = true ↔
      ∀ i ∈ orders.flatten ++ lifecycleItems py engine lifecycle snapshot ++ positions.flatten ++
        fillItems py engine [] snapshot.fills, i.1.failClosed = false := by
    rw [hreport]
    simp only [reportOf, Bool.not_eq_true', List.any_eq_false, List.forall_mem_map,
      Bool.not_eq_true]
  have hordersClean := forall_flatten_mapM horders fun _ _ => orderItems_clean hclosed
  have hpositionsClean := forall_flatten_mapM hpositions fun _ _ => positionItems_clean hclosed
  rw [hsuccess, List.forall_mem_append, List.forall_mem_append, List.forall_mem_append,
    hordersClean,
    lifecycleItems_clean hclosed, hpositionsClean, fillItems_clean hclosed]
  constructor
  · intro ⟨⟨⟨h1, h2⟩, h3⟩, h4⟩
    exact
      { orders := fun o ho => isOrphan_eq_false.mp (h1 o ho)
        positions := fun p hp qty hqty hpos => by
          by_contra hout
          exact h3 p hp ⟨hout, qty, hqty, hpos⟩
        lifecycle := fun e he => isDivergent_eq_false.mp (h2 e he)
        fills := h4 }
  · intro hclean
    refine ⟨⟨⟨fun o ho => isOrphan_eq_false.mpr (hclean.orders o ho),
      fun e he => isDivergent_eq_false.mpr (hclean.lifecycle e he)⟩, ?_⟩, hclean.fills⟩
    intro p hp ⟨hout, qty, hqty, hpos⟩
    exact hout (hclean.positions p hp qty hqty hpos)

/-! ## 6. Counting, and the order of the lists -/

omit [FloatNum F] in
/-- The findings of a type that is not theirs are none. -/
theorem countTypes_eq_zero {types : List String} {items : List (Item F)}
    (h : ∀ i ∈ items, i.1.findingType ∉ types) : countTypes types (items.map Prod.fst) = 0 := by
  unfold countTypes
  rw [List.length_eq_zero_iff, List.filter_eq_nil_iff, List.forall_mem_map]
  intro i hi
  rw [decide_eq_true_iff]
  exact h i hi

omit [FloatNum F] in
theorem countTypes_append (types : List String) (xs ys : List (Item F)) :
    countTypes types ((xs ++ ys).map Prod.fst) =
      countTypes types (xs.map Prod.fst) + countTypes types (ys.map Prod.fst) := by
  unfold countTypes
  rw [List.map_append, List.filter_append, List.length_append]

/-- **There is one finding for every fill beyond the first of its key.** -/
theorem duplicates_eq {intended : List (Payload F)} {lifecycle : List (String × String)}
    {snapshot : ExchangeSnapshot F} {report : Report F}
    (h : reconcile py engine intended lifecycle snapshot = .ok report) :
    countTypes ["DUPLICATE_FILL"] report.findings =
      snapshot.fills.length - (snapshot.fills.map (dedupeKey py)).dedup.length := by
  obtain ⟨orders, positions, horders, hpositions, hreport⟩ := reconcile_ok h
  have hordersType : ∀ i ∈ orders.flatten, i.1.findingType ∉ ["DUPLICATE_FILL"] := by
    refine (forall_flatten_mapM (Q := fun _ => True) horders ?_).mpr fun _ _ => trivial
    intro order items hitems
    refine iff_of_true (fun i hi => ?_) trivial
    rcases orderItems_ok hitems i hi with ⟨_, htype, _⟩ | ⟨htype, _⟩ <;> rw [htype] <;> decide
  have hpositionsType : ∀ i ∈ positions.flatten, i.1.findingType ∉ ["DUPLICATE_FILL"] := by
    refine (forall_flatten_mapM (Q := fun _ => True) hpositions ?_).mpr fun _ _ => trivial
    intro pos items hitems
    refine iff_of_true (fun i hi => ?_) trivial
    rw [((positionItems_ok hitems).1 i hi).1]
    decide
  have hlifecycleType : ∀ i ∈ lifecycleItems py engine lifecycle snapshot,
      i.1.findingType ∉ ["DUPLICATE_FILL"] := by
    intro i hi
    rw [(lifecycleItems_mem hi).1]
    decide
  have hfills : countTypes ["DUPLICATE_FILL"]
      ((fillItems py engine [] snapshot.fills).map Prod.fst) =
      (repeats [] (snapshot.fills.map (dedupeKey py))).length := by
    have hdigests : digests (fillItems py engine [] snapshot.fills) =
        (repeats [] (snapshot.fills.map (dedupeKey py))).map (fillDigest engine) :=
      digests_fillItems [] snapshot.fills
    have hlen := congrArg List.length hdigests
    unfold digests at hlen
    rw [List.length_map, List.length_map] at hlen
    rw [← hlen]
    unfold countTypes
    have htype : ∀ f ∈ (fillItems py engine [] snapshot.fills).map Prod.fst,
        decide (f.findingType ∈ ["DUPLICATE_FILL"]) = true := by
      intro f hf
      obtain ⟨i, hi, hif⟩ := List.mem_map.mp hf
      have hmem : i.1.digest ∈ digests (fillItems py engine [] snapshot.fills) :=
        List.mem_map_of_mem hi
      rw [hdigests] at hmem
      obtain ⟨key, _, hkey⟩ := List.mem_map.mp hmem
      have hd : f.findingType = "DUPLICATE_FILL" := by
        rw [← hif]
        exact (congrArg Digest.findingType hkey).symm
      rw [hd]
      decide
    rw [List.filter_eq_self.mpr htype, List.length_map]
  have hcount := length_repeats (snapshot.fills.map (dedupeKey py))
  rw [List.length_map] at hcount
  rw [hreport]
  simp only [reportOf]
  rw [countTypes_append, countTypes_append, countTypes_append, countTypes_eq_zero hordersType,
    countTypes_eq_zero hlifecycleType, countTypes_eq_zero hpositionsType, hfills]
  omega

/-- The same records in another order. -/
structure Reordered (snapshot snapshot' : ExchangeSnapshot F) : Prop where
  orders : snapshot.orders.Perm snapshot'.orders
  positions : snapshot.positions.Perm snapshot'.positions
  fills : snapshot.fills.Perm snapshot'.fills

/-- An order is checked against the own ids as a set. -/
theorem orderItems_perm {ids ids' : List String} (h : ids.Perm ids') :
    orderItems py engine ids = orderItems py engine ids' := by
  funext order
  have horphan : isOrphan py ids order = isOrphan py ids' order := by
    unfold isOrphan
    simp only [h.mem_iff]
  unfold orderItems
  rw [horphan]

theorem positionItems_perm {symbols symbols' : List String} (h : symbols.Perm symbols') :
    positionItems py engine symbols = positionItems py engine symbols' := by
  funext pos
  unfold positionItems
  simp only [h.mem_iff]

theorem isDivergent_perm {snapshot snapshot' : ExchangeSnapshot F}
    (h : Reordered snapshot snapshot') :
    isDivergent py snapshot = isDivergent py snapshot' := by
  funext e
  have horders := ((h.orders.filter fun o =>
    upper (textOf py o "status" "") ∈ ["OPEN", "PARTIAL_FILL"]).map fun o =>
      textOf py o "symbol" "").mem_iff (a := e.1)
  have hpositions := (h.positions.map fun p => (p.get "symbol").str py).mem_iff (a := e.1)
  unfold isDivergent openSymbols
  rw [decide_eq_decide, horders, hpositions]

omit [FloatNum F] in
/-- What a metric reads of the findings survives any reordering. -/
theorem metrics_perm {items items' : List (Item F)} (h : (digests items).Perm (digests items')) :
    (reportOf items).metrics = (reportOf items').metrics := by
  have hcount : ∀ types, countTypes types (items.map Prod.fst) =
      countTypes types (items'.map Prod.fst) := by
    intro types
    have hdigest : ∀ xs : List (Item F), countTypes types (xs.map Prod.fst) =
        ((digests xs).filter fun d => d.findingType ∈ types).length := by
      intro xs
      unfold countTypes digests
      rw [List.filter_map, List.filter_map, List.length_map, List.length_map]
      rfl
    rw [hdigest, hdigest]
    exact (h.filter _).length_eq
  have hlength : items.length = items'.length := by
    have hlen := h.length_eq
    unfold digests at hlen
    rw [List.length_map, List.length_map] at hlen
    exact hlen
  have hany : (items.map Prod.fst).any (·.failClosed) =
    (items'.map Prod.fst).any (·.failClosed) := by
    have hdigest : ∀ xs : List (Item F), (xs.map Prod.fst).any (·.failClosed) =
        (digests xs).any (·.failClosed) := by
      intro xs
      unfold digests
      rw [List.any_map, List.any_map]
      rfl
    rw [hdigest, hdigest]
    exact h.any_eq
  simp only [reportOf, hcount, hlength, hany]

/-- **The outcome does not depend on the order of a list.** -/
theorem reconcile_perm {intended intended' : List (Payload F)}
    {lifecycle lifecycle' : List (String × String)} {snapshot snapshot' : ExchangeSnapshot F}
    {report : Report F} (hintended : intended.Perm intended')
    (hlifecycle : lifecycle.Perm lifecycle')
    (hsnapshot : Reordered snapshot snapshot')
    (h : reconcile py engine intended lifecycle snapshot = .ok report) :
    ∃ report', reconcile py engine intended' lifecycle' snapshot' = .ok report' ∧
      report'.metrics = report.metrics ∧
      (report.findings.map Finding.digest).Perm (report'.findings.map Finding.digest) := by
  obtain ⟨orders, positions, horders, hpositions, hreport⟩ := reconcile_ok h
  have hids : (intendedIds py intended).Perm (intendedIds py intended') :=
    (hintended.filter _).map _
  have hsymbols : (intendedSymbols py intended).Perm (intendedSymbols py intended') :=
    hintended.map _
  rw [orderItems_perm hids] at horders
  rw [positionItems_perm hsymbols] at hpositions
  obtain ⟨orders', horders', hpermOrders⟩ := perm_mapM hsnapshot.orders horders
  obtain ⟨positions', hpositions', hpermPositions⟩ := perm_mapM hsnapshot.positions hpositions
  have hlifecycleDigests : (digests (lifecycleItems py engine lifecycle snapshot)).Perm
      (digests (lifecycleItems py engine lifecycle' snapshot')) := by
    unfold lifecycleItems digests
    rw [isDivergent_perm hsnapshot, List.map_map, List.map_map]
    exact (hlifecycle.filter _).map _
  have hfillDigests : (digests (fillItems py engine [] snapshot.fills)).Perm
      (digests (fillItems py engine [] snapshot'.fills)) := by
    rw [digests_fillItems, digests_fillItems]
    exact (perm_repeats (hsnapshot.fills.map _)).map _
  have hperm : (digests (orders.flatten ++ lifecycleItems py engine lifecycle snapshot ++
      positions.flatten ++ fillItems py engine [] snapshot.fills)).Perm
      (digests (orders'.flatten ++ lifecycleItems py engine lifecycle' snapshot' ++
        positions'.flatten ++ fillItems py engine [] snapshot'.fills)) := by
    unfold digests at hlifecycleDigests hfillDigests ⊢
    simp only [List.map_append]
    exact (((hpermOrders.flatten.map _).append hlifecycleDigests).append
      (hpermPositions.flatten.map _)).append hfillDigests
  refine ⟨reportOf (orders'.flatten ++ lifecycleItems py engine lifecycle' snapshot' ++
    positions'.flatten ++ fillItems py engine [] snapshot'.fills), ?_, ?_, ?_⟩
  · simp only [reconcile, horders', hpositions']
    rfl
  · rw [hreport]
    exact (metrics_perm hperm).symm
  · rw [hreport]
    simp only [reportOf, List.map_map]
    exact hperm

/-- **What a report says**: success is that the exchange shows nothing unknown, the duplicates are
    the fills beyond the first of each key, and the order of the lists does not matter. -/
theorem reconcile_outcome (py : Builtins F) (engine : Engine)
    (hclosed : engine.failClosedOnHigh = true)
    (intended : List (Payload F)) (lifecycle : List (String × String))
    (snapshot : ExchangeSnapshot F) (report : Report F)
    (h : reconcile py engine intended lifecycle snapshot = .ok report) :
    (report.metrics.reconciliationSuccess = true ↔ Clean py intended lifecycle snapshot) ∧
    countTypes ["DUPLICATE_FILL"] report.findings =
      snapshot.fills.length - (snapshot.fills.map (dedupeKey py)).dedup.length ∧
    ∀ intended' lifecycle' snapshot', intended.Perm intended' → lifecycle.Perm lifecycle' →
      Reordered snapshot snapshot' →
      ∃ report', reconcile py engine intended' lifecycle' snapshot' = .ok report' ∧
        report'.metrics = report.metrics ∧
        (report.findings.map Finding.digest).Perm (report'.findings.map Finding.digest) :=
  ⟨success_iff hclosed h, duplicates_eq h, fun _ _ _ hintended hlifecycle hsnapshot =>
    reconcile_perm hintended hlifecycle hsnapshot h⟩

/-- An engine with the default settings. -/
def defaultEngine : Engine where
  staleOrderSeconds := 120
  failClosedOnHigh := true
  mode := "PAPER"
  now := ⟨some 0, 0⟩
  fromisoformat _ := none

/-- Builtins for records of texts and numbers only. -/
def plainBuiltins : Builtins ℚ where
  parse _ := none
  str _ := ""
  dumps _ := ""

/-- One own order. -/
def ownOrder : Payload ℚ := [("order_id", .text "A1"), ("symbol", .text "BTCUSDT")]

/-- A position in the same symbol. -/
def ownPosition : Payload ℚ := [("symbol", .text "BTCUSDT"), ("qty", .float 3)]

/-- The exchange shows the position and no order. -/
def positionOnly : ExchangeSnapshot ℚ := ⟨[], [ownPosition], []⟩

/-- The own order is missing at the exchange, and no quantity is compared: success. -/
theorem reconcile_missing_order :
    ∃ report, reconcile plainBuiltins defaultEngine [ownOrder] [] positionOnly = .ok report ∧
      report.metrics.reconciliationSuccess = true ∧ report.findings = [] ∧
      "A1" ∉ positionOnly.orders.map fun o => textOf plainBuiltins o "order_id" "" := by
  refine ⟨_, rfl, by decide +kernel, rfl, by decide +kernel⟩

/-- The order, open at the exchange. -/
def openOrder : Payload ℚ :=
  [("order_id", .text "A1"), ("symbol", .text "BTCUSDT"), ("status", .text "OPEN")]

/-- A fill of it. -/
def fillOf (tradeId : String) : Payload ℚ :=
  [("symbol", .text "BTCUSDT"), ("order_id", .text "A1"), ("trade_id", .text tradeId)]

/-- The exchange shows the order, the position and these fills. -/
def filled (fills : List (Payload ℚ)) : ExchangeSnapshot ℚ := ⟨[openOrder], [ownPosition], fills⟩

/-- Everything shown is known; with a fill that occurs twice it is no success, in either order. -/
theorem reconcile_outcome_position :
    Clean plainBuiltins [ownOrder] [] (filled [fillOf "7", fillOf "8"]) ∧
      ¬ Clean plainBuiltins [ownOrder] [] (filled [fillOf "7", fillOf "8", fillOf "7"]) ∧
      ∃ report, reconcile plainBuiltins defaultEngine [ownOrder] []
          (filled [fillOf "8", fillOf "7", fillOf "7"]) = .ok report ∧
        report.metrics.reconciliationSuccess = false := by
  have hknown := reconcile_outcome plainBuiltins defaultEngine rfl [ownOrder] []
    (filled [fillOf "7", fillOf "8"]) _ rfl
  obtain ⟨hsuccess, -, hreordered⟩ := reconcile_outcome plainBuiltins defaultEngine rfl
    [ownOrder] []
    (filled [fillOf "7", fillOf "8", fillOf "7"]) _ rfl
  obtain ⟨report, hreport, hmetrics, -⟩ := hreordered [ownOrder] []
    (filled [fillOf "8", fillOf "7", fillOf "7"]) (.refl _) (.refl _)
    ⟨.refl _, .refl _, .swap _ _ _⟩
  refine ⟨hknown.1.mp (by decide +kernel), fun hclean => ?_, report, hreport, ?_⟩
  · exact absurd (hsuccess.mpr hclean) (by decide +kernel)
  · rw [hmetrics]
    decide +kernel

end AlphaForge.Runtime.ReconciliationEngine
