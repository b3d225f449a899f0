/-
  File:      AlphaForge/Exchange/Snapshot.lean
  Subject:   `BinanceReadonlyReconciliationProvider.snapshot`: positions, open orders and the fills
             of the symbols that matter, collected under one exception handler.

  `collect` is the body of the `try`; its locals survive its exceptions in a `Progress`.

  * `collect_ok` -- what a collection that succeeds has read.
  * `within_collect` -- how many requests it makes.
-/
import AlphaForge.Exchange.Transport

namespace AlphaForge.Exchange

open AlphaForge.Lib

/-! ## 1. The locals of the snapshot -/

structure Coverage where
  positionRisk : Bool
  openOrders : Bool
  userTrades : List String
  deriving DecidableEq, Repr

structure EndpointStatuses where
  positionRisk : String
  exchangeInfo : String
  openOrders : String
  userTrades : String
  deriving DecidableEq, Repr

structure Progress (F : Type) where
  positions : List (Position F)
  orders : List (Order F)
  fills : List (Fill F)
  coverage : Coverage
  selected : List String
  sources : List (String × List String)
  failedEndpoint : Option String
  failedSymbol : Option String
  positionWarnings : List Warning
  endpointStatuses : EndpointStatuses
  rawPositions : Option (Value F)
  rawOrders : Option (Value F)

/-- The locals at the start. -/
def Progress.fresh {F : Type} : Progress F where
  positions := []
  orders := []
  fills := []
  coverage := ⟨false, false, []⟩
  selected := []
  sources := []
  failedEndpoint := none
  failedSymbol := none
  positionWarnings := []
  endpointStatuses := ⟨"NOT_ATTEMPTED", "NOT_ATTEMPTED", "NOT_ATTEMPTED", "NOT_ATTEMPTED"⟩
  rawPositions := none
  rawOrders := none

structure Run (F : Type) where
  session : Session F
  progress : Progress F

/-- What `tracked_symbols` answers, asked twice. -/
structure Tracked (F : Type) where
  first : List (Value F)
  second : List (Value F)

variable {F : Type} [FloatNum F] (lang : Language F) (world : World F) (cfg : Config)
  (tracked : Tracked F)

abbrev Body (F α : Type) := EStateM (Failure F) (Run F) α

def onSession {α : Type} (m : Step F α) : Body F α :=
  zoom Run.session (fun t s => { s with session := t }) m

def note (f : Progress F → Progress F) : Body F PUnit :=
  modify fun s => { s with progress := f s.progress }

/-- A status of the snapshot's endpoints. -/
def noteStatus (f : EndpointStatuses → EndpointStatuses) : Body F PUnit :=
  note fun p => { p with endpointStatuses := f p.endpointStatuses }

/-- A validation: where it raises for the payload, the status says so. -/
def validated {α : Type} (invalid : EndpointStatuses → EndpointStatuses)
    (x : Except (Failure F) α) : Body F α :=
  match x with
  | .ok a => pure a
  | .error failure => do
    if failure.isPayload then noteStatus invalid
    throw failure

/-! ## 2. The collection -/

/-- The symbols of the exchange; `back` is the endpoint that asked. -/
def readExchangeInfo (invalid : EndpointStatuses → EndpointStatuses) (back : String) :
    Body F (List String) := do
  note fun p => { p with
    failedEndpoint := some "exchangeInfo"
    endpointStatuses := { p.endpointStatuses with exchangeInfo := "REQUEST_FAILED" } }
  let payload ← onSession (publicGet lang world "/fapi/v1/exchangeInfo" "exchangeInfo")
  let symbols ← validated invalid (exchangeInfoSymbols lang payload)
  note fun p => { p with
    failedEndpoint := some back
    endpointStatuses := { p.endpointStatuses with exchangeInfo := "PASS" } }
  return symbols

/-- The symbols of the exchange, where they are needed. -/
def readExchangeInfoIf (needed : Bool) (invalid : EndpointStatuses → EndpointStatuses)
    (back : String) (known : Option (List String)) : Body F (Option (List String)) :=
  if needed then some <$> readExchangeInfo lang world invalid back else pure known

def readPositions : Body F (Option (List String)) := do
  note fun p => { p with failedEndpoint := some "positionRisk" }
  let raw ← onSession (signedGet lang world cfg ⟨"/fapi/v3/positionRisk", [], "positionRisk", none⟩)
  note fun p => { p with
    rawPositions := some raw
    endpointStatuses := { p.endpointStatuses with positionRisk := "REQUEST_SUCCEEDED" } }
  let exchangeSymbols ← readExchangeInfoIf lang world
    (positionsNeedExchangeInfo lang raw || tracked.first.any (needsExchangeInfo lang))
    (fun e => { e with exchangeInfo := "PAYLOAD_VALIDATION_FAILED" }) "positionRisk" none
  let (positions, warnings) ← validated
    (fun e => { e with positionRisk := "PAYLOAD_VALIDATION_FAILED" })
    (normalizePositions lang cfg.positionEpsilon exchangeSymbols raw)
  note fun p => { p with
    positions := positions
    positionWarnings := warnings
    endpointStatuses := { p.endpointStatuses with positionRisk := "PASS" }
    coverage := { p.coverage with positionRisk := true } }
  return exchangeSymbols

/-- The second request for the symbols of the exchange leaves `REQUEST_FAILED` where its payload is
    invalid. -/
def readOrders (exchangeSymbols : Option (List String)) : Body F (Option (List String)) := do
  note fun p => { p with
    failedEndpoint := some "openOrders"
    endpointStatuses := { p.endpointStatuses with openOrders := "REQUEST_FAILED" } }
  let raw ← onSession (signedGet lang world cfg ⟨"/fapi/v1/openOrders", [], "openOrders", none⟩)
  note fun p => { p with rawOrders := some raw }
  let exchangeSymbols ← readExchangeInfoIf lang world
    (exchangeSymbols.isNone && ordersNeedExchangeInfo lang raw) id "openOrders" exchangeSymbols
  let orders ← validated (fun e => { e with openOrders := "PAYLOAD_VALIDATION_FAILED" })
    (normalizeOrders lang exchangeSymbols raw)
  note fun p => { p with
    orders := orders
    endpointStatuses := { p.endpointStatuses with openOrders := "PASS" }
    coverage := { p.coverage with openOrders := true } }
  return exchangeSymbols

/-- `_symbols_for_fills` and the configured maximum. -/
def selectSymbols (exchangeSymbols : Option (List String)) : Body F (List String) := do
  let s ← get
  let trackedSymbols ← returnOrRaise (tracked.second.mapM fun raw =>
    validSymbol lang exchangeSymbols raw "tracked")
  let selected := selectedSymbols trackedSymbols s.progress.orders s.progress.positions
  note fun p => { p with
    selected := selected
    sources := selected.map fun symbol =>
      (symbol, symbolSources trackedSymbols p.orders p.positions symbol) }
  if cfg.maxFillSymbols < selected.length then
    throw (.scope "fill_symbol_scope_exceeds_configured_max")
  else return selected

/-- The fills of one symbol. -/
def fetchSymbol (symbol : String) : Body F PUnit := do
  note fun p => { p with failedSymbol := some symbol }
  let now ← onSession (readClock world)
  let raw ← onSession (signedGet lang world cfg ⟨"/fapi/v1/userTrades",
    [("symbol", .text symbol), ("startTime", .int (now - cfg.tradeLookbackMs))], "userTrades",
    some symbol⟩)
  let fills ← validated (fun e => { e with userTrades := "PAYLOAD_VALIDATION_FAILED" })
    (normalizeFills lang raw)
  note fun p => { p with
    fills := p.fills ++ fills
    coverage := { p.coverage with userTrades := p.coverage.userTrades ++ [symbol] } }

def fetchFills : List String → Body F PUnit
  | [] => pure ()
  | symbol :: rest => do
    fetchSymbol lang world cfg symbol
    fetchFills rest

/-- The body of the `try`. -/
def collect : Body F PUnit := do
  let exchangeSymbols ← readPositions lang world cfg tracked
  let exchangeSymbols ← readOrders lang world cfg exchangeSymbols
  let selected ← selectSymbols lang cfg tracked exchangeSymbols
  note fun p => { p with
    failedEndpoint := some "userTrades"
    endpointStatuses := { p.endpointStatuses with
      userTrades := if selected.isEmpty then "PASS" else "REQUEST_FAILED" } }
  fetchFills lang world cfg selected
  noteStatus fun e => { e with userTrades := "PASS" }

/-! ## 3. The snapshot -/

inductive EvidenceStatus where
  | complete
  | incomplete
  deriving DecidableEq, Repr

structure Snapshot (F : Type) where
  evidenceStatus : EvidenceStatus
  orphanOrders : Option ℕ
  orphanPositions : Option ℕ
  duplicateFills : Option ℕ
  errors : List String
  failedEndpoint : Option String
  failedSymbol : Option String
  unknownUnreconciledSymbols : List String
  cooldownRemaining : Option F
  positions : List (Position F)
  orders : List (Order F)
  fills : List (Fill F)
  coverage : Coverage
  selectedSymbols : List String
  symbolSources : List (String × List String)
  positionWarnings : List Warning
  endpointStatuses : EndpointStatuses
  httpRequestCount : ℕ
  requestAttempts : List (Attempt F)
  requestEvidence : List Evidence

/-- `_snapshot_base`, with no counts. -/
def snapshotBase (s : Session F) (p : Progress F) : Snapshot F where
  evidenceStatus := .incomplete
  orphanOrders := none
  orphanPositions := none
  duplicateFills := none
  errors := []
  failedEndpoint := none
  failedSymbol := none
  unknownUnreconciledSymbols := []
  cooldownRemaining := none
  positions := p.positions
  orders := p.orders
  fills := p.fills
  coverage := p.coverage
  selectedSymbols := p.selected
  symbolSources := p.sources
  positionWarnings := p.positionWarnings
  endpointStatuses := p.endpointStatuses
  httpRequestCount := s.httpRequestCount
  requestAttempts := s.requestAttempts
  requestEvidence := s.requestEvidence

/-- The snapshot of a collection that succeeded. -/
def completeSnapshot (s : Session F) (p : Progress F) : Snapshot F :=
  { snapshotBase s p with
    evidenceStatus := .complete
    orphanOrders := some p.orders.length
    orphanPositions := some (p.positions.countP Position.active)
    duplicateFills := some 0 }

/-- The positions that an exception carries. -/
def Failure.positions : Failure F → Option (List (Position F))
  | exposure _ positions => some positions
  | _ => none

/-- The snapshot of a collection that raised. -/
def incompleteSnapshot (failure : Failure F) (s : Session F) (p : Progress F) : Snapshot F :=
  { snapshotBase s { p with positions := failure.positions.getD p.positions } with
    errors := [failure.sanitize]
    failedEndpoint := p.failedEndpoint
    failedSymbol := p.failedSymbol
    unknownUnreconciledSymbols := p.selected.filter fun s => !p.coverage.userTrades.contains s }

/-- The evidence of a new snapshot is empty. -/
def Session.reset (s : Session F) : Session F :=
  { s with requestEvidence := [], requestAttempts := [], httpRequestCount := 0 }

/-- `_clear_rate_limit_cooldown`. -/
def Session.clearCooldown (s : Session F) : Session F :=
  { s with cooldownUntil := FloatNum.ofInt 0, cooldownReason := none }

/-- `_rate_limit_cooldown_remaining_sec`. -/
def cooldownRemaining : Step F F := do
  let s ← get
  let now ← readMonotonic world
  return clip (s.cooldownUntil - now)

/-- `snapshot`. -/
def snapshot : Step F (Snapshot F) := do
  modify Session.reset
  let remaining ← cooldownRemaining world
  let s ← get
  if (FloatNum.ofInt 0 : F) < remaining then
    return { snapshotBase s Progress.fresh with
      errors := ["rate_limit_cooldown_active"]
      cooldownRemaining := some remaining }
  else
    match collect lang world cfg tracked ⟨s, Progress.fresh⟩ with
    | .ok _ t =>
      set t.session.clearCooldown
      return completeSnapshot t.session t.progress
    | .error failure t =>
      set t.session
      return incompleteSnapshot failure t.session t.progress

/-! ## 4. What a successful collection has read -/

section Read

variable {lang world cfg tracked}

/-- What is read stays. -/
structure SameData (p q : Progress F) : Prop where
  positions : q.positions = p.positions
  orders : q.orders = p.orders
  fills : q.fills = p.fills
  rawPositions : q.rawPositions = p.rawPositions
  rawOrders : q.rawOrders = p.rawOrders

omit [FloatNum F] in
theorem note_ok {f : Progress F → Progress F} {s t : Run F} {u : PUnit}
    (h : note f s = .ok u t) : t.progress = f s.progress := by
  cases h
  rfl

omit [FloatNum F] in
theorem onSession_ok {α : Type} {m : Step F α} {s t : Run F} {a : α}
    (h : onSession m s = .ok a t) : t.progress = s.progress ∧ ∃ u, m s.session = .ok a u := by
  obtain ⟨u, hm, rfl⟩ := zoom_ok_iff.mp h
  exact ⟨rfl, u, hm⟩

omit [FloatNum F] in
theorem validated_ok {α : Type} {invalid : EndpointStatuses → EndpointStatuses}
    {x : Except (Failure F) α} {s t : Run F} {a : α} (h : validated invalid x s = .ok a t) :
    x = .ok a ∧ t = s := by
  cases x with
  | ok b =>
    cases h
    exact ⟨rfl, rfl⟩
  | error failure =>
    unfold validated at h
    dsimp only at h
    split at h
    · obtain ⟨_, u, -, h⟩ := bind_ok_iff.mp h
      exact nomatch h
    · exact nomatch h

theorem readExchangeInfo_ok {invalid : EndpointStatuses → EndpointStatuses} {back : String}
    {s t : Run F} {symbols : List String}
    (h : readExchangeInfo lang world invalid back s = .ok symbols t) :
    SameData s.progress t.progress := by
  unfold readExchangeInfo at h
  obtain ⟨_, s₁, hnote, h⟩ := bind_ok_iff.mp h
  obtain ⟨payload, s₂, hget, h⟩ := bind_ok_iff.mp h
  obtain ⟨symbols', s₃, hvalid, h⟩ := bind_ok_iff.mp h
  obtain ⟨_, s₄, hend, h⟩ := bind_ok_iff.mp h
  cases h
  rw [note_ok hend, (validated_ok hvalid).2, (onSession_ok hget).1, note_ok hnote]
  exact ⟨rfl, rfl, rfl, rfl, rfl⟩

theorem readExchangeInfoIf_ok {needed : Bool} {invalid : EndpointStatuses → EndpointStatuses}
    {back : String} {known symbols : Option (List String)} {s t : Run F}
    (h : readExchangeInfoIf lang world needed invalid back known s = .ok symbols t) :
    SameData s.progress t.progress := by
  unfold readExchangeInfoIf at h
  split at h
  · rw [map_eq_pure_bind] at h
    obtain ⟨symbols', u, hread, h⟩ := bind_ok_iff.mp h
    cases h
    exact readExchangeInfo_ok hread
  · cases h
    exact ⟨rfl, rfl, rfl, rfl, rfl⟩

theorem readPositions_ok {s t : Run F} {exchangeSymbols : Option (List String)}
    (h : readPositions lang world cfg tracked s = .ok exchangeSymbols t) :
    ∃ raw warnings, t.progress.rawPositions = some raw ∧
      Answered world "positionRisk" none raw ∧
      normalizePositions lang cfg.positionEpsilon exchangeSymbols raw =
        .ok (t.progress.positions, warnings) := by
  unfold readPositions at h
  obtain ⟨_, s₁, -, h⟩ := bind_ok_iff.mp h
  obtain ⟨raw, s₂, hget, h⟩ := bind_ok_iff.mp h
  obtain ⟨_, s₃, hraw, h⟩ := bind_ok_iff.mp h
  obtain ⟨symbols, s₄, hinfo, h⟩ := bind_ok_iff.mp h
  obtain ⟨⟨positions, warnings⟩, s₅, hvalid, h⟩ := bind_ok_iff.mp h
  obtain ⟨_, s₆, hend, h⟩ := bind_ok_iff.mp h
  cases h
  obtain ⟨-, u, hgot⟩ := onSession_ok hget
  obtain ⟨hnormal, hsame⟩ := validated_ok hvalid
  refine ⟨raw, warnings, ?_, signedGet_answered hgot, ?_⟩
  · rw [note_ok hend, hsame]
    refine (readExchangeInfoIf_ok hinfo).rawPositions.trans ?_
    rw [note_ok hraw]
  · rw [note_ok hend]
    exact hnormal

theorem readOrders_ok {s t : Run F} {before exchangeSymbols : Option (List String)}
    (h : readOrders lang world cfg before s = .ok exchangeSymbols t) :
    t.progress.positions = s.progress.positions ∧
      t.progress.rawPositions = s.progress.rawPositions ∧
      ∃ raw, t.progress.rawOrders = some raw ∧ Answered world "openOrders" none raw ∧
        normalizeOrders lang exchangeSymbols raw = .ok t.progress.orders := by
  unfold readOrders at h
  obtain ⟨_, s₁, hnote, h⟩ := bind_ok_iff.mp h
  obtain ⟨raw, s₂, hget, h⟩ := bind_ok_iff.mp h
  obtain ⟨_, s₃, hraw, h⟩ := bind_ok_iff.mp h
  obtain ⟨symbols, s₄, hinfo, h⟩ := bind_ok_iff.mp h
  obtain ⟨orders, s₅, hvalid, h⟩ := bind_ok_iff.mp h
  obtain ⟨_, s₆, hend, h⟩ := bind_ok_iff.mp h
  cases h
  obtain ⟨hkept, u, hgot⟩ := onSession_ok hget
  obtain ⟨hnormal, hsame⟩ := validated_ok hvalid
  have hinfo := readExchangeInfoIf_ok hinfo
  refine ⟨?_, ?_, raw, ?_, signedGet_answered hgot, ?_⟩
  · rw [note_ok hend, hsame]
    refine hinfo.positions.trans ?_
    rw [note_ok hraw, hkept, note_ok hnote]
  · rw [note_ok hend, hsame]
    refine hinfo.rawPositions.trans ?_
    rw [note_ok hraw, hkept, note_ok hnote]
  · rw [note_ok hend, hsame]
    refine hinfo.rawOrders.trans ?_
    rw [note_ok hraw]
  · rw [note_ok hend]
    exact hnormal

omit [FloatNum F] in
theorem selectSymbols_ok {s t : Run F} {exchangeSymbols : Option (List String)}
    {selected : List String}
    (h : selectSymbols lang cfg tracked exchangeSymbols s = .ok selected t) :
    SameData s.progress t.progress ∧ (selected.length : ℤ) ≤ cfg.maxFillSymbols ∧
      ∃ trackedSymbols, tracked.second.mapM (fun raw =>
          validSymbol lang exchangeSymbols raw "tracked") = .ok trackedSymbols ∧
        selected = selectedSymbols trackedSymbols s.progress.orders s.progress.positions := by
  unfold selectSymbols at h
  obtain ⟨s₀, s₁, hget, h⟩ := bind_ok_iff.mp h
  cases hget
  obtain ⟨trackedSymbols, s₂, htracked, h⟩ := bind_ok_iff.mp h
  obtain ⟨hsymbols, rfl⟩ := returnOrRaise_ok_iff.mp htracked
  obtain ⟨_, s₃, hnote, h⟩ := bind_ok_iff.mp h
  split at h
  · exact nomatch h
  · rename_i hmax
    cases h
    refine ⟨?_, by omega, trackedSymbols, hsymbols, rfl⟩
    rw [note_ok hnote]
    exact ⟨rfl, rfl, rfl, rfl, rfl⟩

/-- The fills of a symbol are fetched. -/
def Fetched (lang : Language F) (world : World F) (symbol : String) (fills : List (Fill F)) :
    Prop :=
  ∃ payload read, Answered world "userTrades" (some symbol) payload ∧
    normalizeFills lang payload = .ok read ∧ ∀ f ∈ read, f ∈ fills

/-- Only fills are added. -/
structure AddsFills (p q : Progress F) : Prop where
  positions : q.positions = p.positions
  orders : q.orders = p.orders
  rawPositions : q.rawPositions = p.rawPositions
  rawOrders : q.rawOrders = p.rawOrders
  fills : ∀ f ∈ p.fills, f ∈ q.fills

theorem fetchSymbol_ok {symbol : String} {s t : Run F} {u : PUnit}
    (h : fetchSymbol lang world cfg symbol s = .ok u t) :
    AddsFills s.progress t.progress ∧ Fetched lang world symbol t.progress.fills := by
  unfold fetchSymbol at h
  obtain ⟨_, s₁, hnote, h⟩ := bind_ok_iff.mp h
  obtain ⟨now, s₂, hclock, h⟩ := bind_ok_iff.mp h
  obtain ⟨raw, s₃, hget, h⟩ := bind_ok_iff.mp h
  obtain ⟨read, s₄, hvalid, hend⟩ := bind_ok_iff.mp h
  obtain ⟨hkept, u', hgot⟩ := onSession_ok hget
  obtain ⟨hnormal, hsame⟩ := validated_ok hvalid
  have hprogress : s₄.progress = { s.progress with failedSymbol := some symbol } := by
    rw [hsame, hkept, (onSession_ok hclock).1, note_ok hnote]
  rw [note_ok hend, hprogress]
  exact ⟨⟨rfl, rfl, rfl, rfl, fun f hf => List.mem_append_left _ hf⟩, raw, read,
    signedGet_answered hgot, hnormal, fun f hf => List.mem_append_right _ hf⟩

theorem fetchFills_ok {symbols : List String} {s t : Run F} {u : PUnit}
    (h : fetchFills lang world cfg symbols s = .ok u t) :
    AddsFills s.progress t.progress ∧
      ∀ symbol ∈ symbols, Fetched lang world symbol t.progress.fills := by
  induction symbols generalizing s with
  | nil =>
    cases h
    exact ⟨⟨rfl, rfl, rfl, rfl, fun _ hf => hf⟩, fun _ hsymbol => absurd hsymbol List.not_mem_nil⟩
  | cons symbol rest ih =>
    rw [fetchFills] at h
    obtain ⟨_, s₁, hfetch, h⟩ := bind_ok_iff.mp h
    obtain ⟨hadds, payload, read, hanswered, hnormal, hread⟩ := fetchSymbol_ok hfetch
    obtain ⟨hrest, hall⟩ := ih h
    refine ⟨⟨hrest.positions.trans hadds.positions, hrest.orders.trans hadds.orders,
      hrest.rawPositions.trans hadds.rawPositions, hrest.rawOrders.trans hadds.rawOrders,
      fun f hf => hrest.fills f (hadds.fills f hf)⟩, fun symbol' hsymbol => ?_⟩
    rcases List.mem_cons.mp hsymbol with rfl | hsymbol
    · exact ⟨payload, read, hanswered, hnormal, fun f hf => hrest.fills f (hread f hf)⟩
    · exact hall symbol' hsymbol

/-- What a successful collection has read. -/
structure Collected (lang : Language F) (world : World F) (cfg : Config) (tracked : Tracked F)
    (p : Progress F) : Prop where
  positions : ∃ raw exchangeSymbols warnings, p.rawPositions = some raw ∧
    Answered world "positionRisk" none raw ∧
    normalizePositions lang cfg.positionEpsilon exchangeSymbols raw = .ok (p.positions, warnings)
  orders : ∃ raw exchangeSymbols, p.rawOrders = some raw ∧ Answered world "openOrders" none raw ∧
    normalizeOrders lang exchangeSymbols raw = .ok p.orders
  fills : ∃ exchangeSymbols trackedSymbols, tracked.second.mapM (fun raw =>
      validSymbol lang exchangeSymbols raw "tracked") = .ok trackedSymbols ∧
    ∀ symbol ∈ selectedSymbols trackedSymbols p.orders p.positions,
      Fetched lang world symbol p.fills

theorem collect_ok {s t : Run F} {u : PUnit} (h : collect lang world cfg tracked s = .ok u t) :
    Collected lang world cfg tracked t.progress := by
  unfold collect at h
  obtain ⟨positionSymbols, s₁, hpositions, h⟩ := bind_ok_iff.mp h
  obtain ⟨exchangeSymbols, s₂, horders, h⟩ := bind_ok_iff.mp h
  obtain ⟨selected, s₃, hselect, h⟩ := bind_ok_iff.mp h
  obtain ⟨_, s₄, hnote, h⟩ := bind_ok_iff.mp h
  obtain ⟨_, s₅, hfetch, hend⟩ := bind_ok_iff.mp h
  obtain ⟨rawPositions, warnings, hrawPositions, hanswered, hnormal⟩ := readPositions_ok hpositions
  obtain ⟨hkeep, hkeepRaw, rawOrders, hrawOrders, hordersAnswered, hordersNormal⟩ :=
    readOrders_ok horders
  obtain ⟨hsame, -, trackedSymbols, htracked, hselected⟩ := selectSymbols_ok hselect
  obtain ⟨hadds, hfetched⟩ := fetchFills_ok hfetch
  have hp : t.progress.positions = s₁.progress.positions := by
    rw [note_ok hend]
    refine hadds.positions.trans ?_
    rw [note_ok hnote]
    exact hsame.positions.trans hkeep
  have ho : t.progress.orders = s₂.progress.orders := by
    rw [note_ok hend]
    refine hadds.orders.trans ?_
    rw [note_ok hnote]
    exact hsame.orders
  refine ⟨⟨rawPositions, positionSymbols, warnings, ?_, hanswered, hp ▸ hnormal⟩,
    ⟨rawOrders, exchangeSymbols, ?_, hordersAnswered, ho ▸ hordersNormal⟩,
    exchangeSymbols, trackedSymbols, htracked, ?_⟩
  · rw [note_ok hend]
    refine hadds.rawPositions.trans ?_
    rw [note_ok hnote]
    exact hsame.rawPositions.trans (hkeepRaw.trans hrawPositions)
  · rw [note_ok hend]
    refine hadds.rawOrders.trans ?_
    rw [note_ok hnote]
    exact hsame.rawOrders.trans hrawOrders
  · intro symbol hsymbol
    rw [hp, ho, ← hkeep, ← hselected] at hsymbol
    have hfills : t.progress.fills = s₅.progress.fills := by rw [note_ok hend]
    rw [hfills]
    exact hfetched symbol hsymbol

end Read

/-! ## 5. How many requests -/

section Requests

variable {lang world cfg tracked}

/-- The requests so far. -/
def requests (s : Run F) : ℕ := s.session.httpRequestCount

omit [FloatNum F] in
theorem within_onSession {α : Type} {m : Step F α} {n : ℕ}
    (h : Within Session.httpRequestCount n m) : Within requests n (onSession m) :=
  within_zoom (fun _ _ => rfl) h

omit [FloatNum F] in
theorem within_note {f : Progress F → Progress F} : Within requests 0 (note f) :=
  within_modify fun _ => Nat.le_refl _

omit [FloatNum F] in
theorem within_validated {α : Type} {invalid : EndpointStatuses → EndpointStatuses}
    {x : Except (Failure F) α} : Within requests 0 (validated invalid x) := by
  unfold validated
  cases x with
  | ok a => exact within_pure a
  | error failure =>
    dsimp only
    split
    · exact within_after within_note fun _ => within_throw _
    · exact within_throw _

theorem within_readExchangeInfo {invalid : EndpointStatuses → EndpointStatuses} {back : String} :
    Within requests 1 (readExchangeInfo lang world invalid back) := by
  unfold readExchangeInfo
  refine within_after within_note fun _ => ?_
  refine within_bind (a := 1) (b := 0) (within_onSession within_publicGet) fun payload => ?_
  exact within_after within_validated fun _ => within_after within_note fun _ => within_pure _

theorem within_readExchangeInfoIf {needed : Bool} {invalid : EndpointStatuses → EndpointStatuses}
    {back : String} {known : Option (List String)} :
    Within requests 1 (readExchangeInfoIf lang world needed invalid back known) := by
  unfold readExchangeInfoIf
  split
  · rw [map_eq_pure_bind]
    exact within_bind (a := 1) (b := 0) within_readExchangeInfo fun _ => within_pure _
  · exact (within_pure _).mono (by omega)

theorem within_readPositions :
    Within requests (signedRequests cfg + 1) (readPositions lang world cfg tracked) := by
  unfold readPositions
  refine within_after within_note fun _ => ?_
  refine within_bind (within_onSession within_signedGet) fun raw => ?_
  refine within_after within_note fun _ => ?_
  refine within_bind (a := 1) (b := 0) within_readExchangeInfoIf fun symbols => ?_
  exact within_after within_validated fun _ => within_after within_note fun _ => within_pure _

theorem within_readOrders {before : Option (List String)} :
    Within requests (signedRequests cfg + 1) (readOrders lang world cfg before) := by
  unfold readOrders
  refine within_after within_note fun _ => ?_
  refine within_bind (within_onSession within_signedGet) fun raw => ?_
  refine within_after within_note fun _ => ?_
  refine within_bind (a := 1) (b := 0) within_readExchangeInfoIf fun symbols => ?_
  exact within_after within_validated fun _ => within_after within_note fun _ => within_pure _

omit [FloatNum F] in
theorem within_selectSymbols {exchangeSymbols : Option (List String)} :
    Within requests 0 (selectSymbols lang cfg tracked exchangeSymbols) := by
  unfold selectSymbols
  refine within_after within_get fun s => ?_
  refine within_after (within_returnOrRaise _) fun trackedSymbols => ?_
  refine within_after within_note fun _ => ?_
  split
  · exact within_throw _
  · exact within_pure _

theorem within_fetchFills {symbols : List String} :
    Within requests (symbols.length * signedRequests cfg)
      (fetchFills lang world cfg symbols) := by
  induction symbols with
  | nil => exact (within_pure _).mono (Nat.zero_le _)
  | cons symbol rest ih =>
    rw [fetchFills, List.length_cons, Nat.succ_mul, Nat.add_comm]
    refine within_bind ?_ fun _ => ih
    unfold fetchSymbol
    refine within_after within_note fun _ => ?_
    refine within_after (within_onSession within_readClock) fun now => ?_
    refine within_bind (b := 0) (within_onSession within_signedGet) fun raw => ?_
    exact within_after within_validated fun _ => within_note

/-- The most requests of a snapshot. -/
def maxRequests (cfg : Config) : ℕ :=
  2 * (signedRequests cfg + 1) + cfg.maxFillSymbols.toNat * signedRequests cfg

theorem within_collect : Within requests (maxRequests cfg) (collect lang world cfg tracked) := by
  unfold collect maxRequests
  rw [Nat.two_mul, Nat.add_assoc]
  refine within_bind within_readPositions fun positionSymbols => ?_
  refine within_bind within_readOrders fun exchangeSymbols => ?_
  rw [← Nat.zero_add (cfg.maxFillSymbols.toNat * signedRequests cfg)]
  refine within_bind_of_returns (P := fun selected => selected.length ≤ cfg.maxFillSymbols.toNat)
    within_selectSymbols (fun s selected t h => ?_) fun selected hselected => ?_
  · have hmax := (selectSymbols_ok h).2.1
    omega
  · refine within_after within_note fun _ => ?_
    refine within_bind (b := 0) ?_ fun _ => within_note
    exact within_fetchFills.mono (Nat.mul_le_mul_right _ hselected)

end Requests

end AlphaForge.Exchange
