/-
  File:      AlphaForge/Universe/Selection.lean
  Subject:   `symbol_selector.py`: `build_selected_universe`, from the judgements of the candidates
             to the selected symbols.

  Four passes rewrite the judgements: of each symbol only the best eligible candidate stays, of the
  rest only the most traded, these are scored and ranked, and the best of the ranking are selected.
  After the first pass a symbol identifies an eligible row, so rows are told apart by it.

  * `RanksBefore` -- the order of the ranking.
  * `Correct` -- what a universe says about the candidates it was built from.
  * **`selection_correct`** -- whatever is returned is `Correct`.
-/
import AlphaForge.Lib.Decimal
import AlphaForge.Lib.Extended
import AlphaForge.Lib.Occurrences
import AlphaForge.Lib.Ranking
import AlphaForge.Universe.Candidate

namespace AlphaForge.Universe

open AlphaForge.Lib

variable {F : Type} [FloatNum F] (host : Host F) (c : UniverseConstraints F)

/-! ## 1. De-duplication and the volume cut -/

/-- The place of a number in the order of numbers. -/
def order (x : F) : WithBot ExtRat :=
  match FloatNum.value x with
  | none => ⊥
  | some v => (v : WithBot ExtRat)

/-- `inputs.get(key)` where it is a number. -/
def numberAt (inputs : Payload F) (key : String) : Option F :=
  match inputs.get key with
  | .float x => some x
  | _ => none

namespace Row

variable (r : Row F)

/-- `float(inputs[key])`; an eligible row has the number. -/
def number (key : String) : F := (numberAt r.inputs key).getD (FloatNum.ofInt 0)

def volume : F := r.number "volume_24h_usd"

def spread : F := r.number "spread_pct"

def volatility : F := r.number "volatility_pct"

/-- The row with a further reason, no longer eligible. -/
def demote (reason : String) : Row F :=
  { r with state := .ineligible, reasons := r.reasons ++ [reason] }

end Row

/-- `str(inputs.get("source_exchange") or inputs.get("market_data_source") or default)`. -/
def sourceOf (inputs : Payload F) (default : String) : String :=
  (((inputs.get "source_exchange").or (inputs.get "market_data_source")).or (.text default)).str
    host.toBuiltins

/-- What `min` compares duplicates by. The hash is always defined: an eligible row has no funding
    rate that JSON refuses. -/
def duplicateKey (r : Row F) : (WithBot ExtRat)ᵒᵈ ×ₗ WithBot ExtRat ×ₗ String ×ₗ String :=
  toLex (OrderDual.toDual (order r.volume), toLex (order r.spread,
    toLex (sourceOf host r.inputs "", host.digest (.mapping r.inputs))))

/-- Two eligible rows with one symbol. -/
def Rival (a b : Row F) : Prop := a.state = .eligible ∧ b.state = .eligible ∧ a.symbol = b.symbol

instance : DecidableRel (Rival (F := F)) := fun _ _ => inferInstanceAs (Decidable (_ ∧ _ ∧ _))

/-- The first pass. `min` takes the first of the best, so a row stays if no earlier rival is at
    least as good and no later one is better. -/
def dedupe (rows : List (Row F)) : List (Row F) :=
  keepFirstBest Rival (duplicateKey host) (Row.demote · "DUPLICATE_SYMBOL_LOWER_QUALITY") [] rows

def eligibleRows (rows : List (Row F)) : List (Row F) :=
  rows.filter fun r => r.state = .eligible

/-- `(-volume, symbol)`. -/
def volumeKey (r : Row F) : (WithBot ExtRat)ᵒᵈ ×ₗ String :=
  toLex (OrderDual.toDual (order r.volume), r.symbol)

/-- `retained`. -/
def retained (rows : List (Row F)) : List (Row F) :=
  (sortOn volumeKey (eligibleRows rows)).take c.candidatePoolTopNVolume

/-- The second pass, `normalized`. -/
def cutVolume (rows : List (Row F)) : List (Row F) :=
  rows.map fun r =>
    if r.state = .eligible ∧ r.symbol ∉ (retained c rows).map Row.symbol then
      r.demote "OUTSIDE_TOP_N_VOLUME"
    else r

/-! ## 2. Scores -/

/-- A scored row: its symbol, its score, its ranking components and the entry the scoring leaves in
    the availability of the evidence. -/
structure Scored (F : Type) where
  symbol : String
  score : F
  components : Payload F
  regime : String

/-- `max(values, default=1.0)`. -/
def maxOf : List F → F
  | [] => FloatNum.ofInt 1
  | x :: rest => rest.foldl pyMax x

/-- `volume_quality`. -/
def volumeQuality (maxVolume volume : F) : F :=
  if maxVolume ≤ FloatNum.ofInt 0 then FloatNum.ofInt 10
  else FloatNum.ofInt 10 * host.log1p volume / host.log1p maxVolume

/-- `spread_quality`. -/
def spreadQuality (spread : F) : F :=
  if FloatNum.feq c.maxSpreadPct (FloatNum.ofInt 0) = true ∧
    FloatNum.feq spread (FloatNum.ofInt 0) = true
  then FloatNum.ofInt 10
  else pyMax (FloatNum.ofInt 0)
    (FloatNum.ofInt 10 * (FloatNum.ofInt 1 - spread / pyMax c.maxSpreadPct 1e-12))

/-- `volatility_quality`. -/
def volatilityQuality (maxVolatility volatility : F) : F :=
  if maxVolatility ≤ FloatNum.ofInt 0 then FloatNum.ofInt 0
  else FloatNum.ofInt 10 * volatility / maxVolatility

/-- `liquidity_quality`. -/
def liquidityQuality : Option F → F
  | none => FloatNum.ofInt 0
  | some x => FloatNum.ofInt 10 * x

/-- `slippage_penalty`. -/
def slippagePenalty (slippage : Option F) : F :=
  match slippage with
  | none => FloatNum.ofInt 1
  | some x => pyMin (FloatNum.ofInt 2) (FloatNum.ofInt 2 * x / pyMax c.maxExpectedSlippagePct 1e-12)

/-- Half of a regime reading, at most a half. -/
def regimeHalf : Option F → F
  | none => FloatNum.ofInt 0
  | some x => 0.5 * pyMin (FloatNum.ofInt 1) x

/-- `optional_uncertainty_penalty`. -/
def uncertaintyPenalty (slippage liquidity funding : Option F) (regimeMissing : Bool) : F :=
  let p : F := if slippage.isNone then 0.5 else FloatNum.ofInt 0
  let p := if liquidity.isNone then p + 0.5 else p
  let p := if funding.isNone then p + 0.25 else p
  if regimeMissing then p + 0.25 else p

/-- The score of a rankable row. -/
def scoreRow (maxVolume maxVolatility : F) (r : Row F) : Scored F :=
  let slippage := numberAt r.inputs "expected_slippage_pct"
  let liquidity := numberAt r.inputs "liquidity_score"
  let funding := numberAt r.inputs "funding_rate_pct"
  let trend := finiteNonnegative host (r.inputs.get "trend_strength")
  let chop := finiteNonnegative host (r.inputs.get "chop_score")
  let regimeMissing := trend.isNone || chop.isNone
  let volumeQ := volumeQuality host maxVolume r.volume
  let spreadQ := spreadQuality c r.spread
  let volatilityQ := volatilityQuality maxVolatility r.volatility
  let liquidityQ := liquidityQuality liquidity
  let regimeFit := regimeHalf trend - regimeHalf chop
  let slippageP := slippagePenalty c slippage
  let uncertaintyP := uncertaintyPenalty slippage liquidity funding regimeMissing
  { symbol := r.symbol
    score := host.round8 (pyMax (FloatNum.ofInt 0) (pyMin (FloatNum.ofInt 10)
      (volumeQ * 0.40 + spreadQ * 0.30 + liquidityQ * 0.15 + volatilityQ * 0.15 + regimeFit -
        slippageP - uncertaintyP)))
    components :=
      [("volume_quality", .float (host.round8 volumeQ)),
        ("spread_quality", .float (host.round8 spreadQ)),
        ("liquidity_quality", .float (host.round8 liquidityQ)),
        ("volatility_opportunity", .float (host.round8 volatilityQ)),
        ("regime_fit", .float (host.round8 regimeFit)),
        ("slippage_penalty", .float (host.round8 slippageP)),
        ("evidence_uncertainty_penalty", .float (host.round8 uncertaintyP)),
        ("ranking_version", .text "opportunity_ranking_v1")]
    regime := if regimeMissing then "UNAVAILABLE_OPTIONAL" else "AVAILABLE" }

/-- `(-score, symbol)`. -/
def rankKey (s : Scored F) : (WithBot ExtRat)ᵒᵈ ×ₗ String :=
  toLex (OrderDual.toDual (order s.score), s.symbol)

/-- `scored`: the rankable rows in the order of their ranks. -/
def scored (rows : List (Row F)) : List (Scored F) :=
  let rankable := eligibleRows rows
  let maxVolume := maxOf (rankable.map Row.volume)
  let maxVolatility := maxOf (rankable.map Row.volatility)
  sortOn rankKey (rankable.map (scoreRow host c maxVolume maxVolatility))

/-! ## 3. Decisions -/

/-- `UniverseCandidateDecision`. -/
structure Decision (F : Type) where
  symbol : String
  state : EvidenceState
  reasons : List String
  observedInputs : Payload F
  rankingComponents : Payload F
  score : Option F
  rank : Option ℕ
  selected : Bool
  evidenceAvailability : List (String × String)

/-- The rank of a symbol and its scored row. -/
def findRank (symbol : String) (n : ℕ) : List (Scored F) → Option (ℕ × Scored F)
  | [] => none
  | s :: rest => if s.symbol = symbol then some (n, s) else findRank symbol (n + 1) rest

/-- The symbols of `selected_identities`. -/
def winners (ranking : List (Scored F)) : List String :=
  (ranking.take c.maxActiveSymbols).map Scored.symbol

/-- The decision about a row after all passes. -/
def decisionOf (ranking : List (Scored F)) (r : Row F) : Decision F :=
  let rankInfo := if r.state = .eligible then findRank r.symbol 1 ranking else none
  let selected := r.state = .eligible ∧ r.symbol ∈ winners c ranking
  { symbol := r.symbol
    state := r.state
    reasons := if r.state = .eligible ∧ ¬ selected then r.reasons ++ ["RANKED_BELOW_MAX_ACTIVE"]
      else r.reasons
    observedInputs := r.inputs
    rankingComponents := (rankInfo.map fun info => info.2.components).getD []
    score := rankInfo.map fun info => info.2.score
    rank := rankInfo.map Prod.fst
    selected := decide selected
    evidenceAvailability := sortOn Prod.fst
      (r.availability ++ (rankInfo.map fun info =>
        ("regime_compatibility", info.2.regime)).toList) }

/-- The decisions about all candidates, in the order of the candidates. -/
def decisionsOf (rows : List (Row F)) : List (Decision F) :=
  let normalized := cutVolume c (dedupe host rows)
  normalized.map (decisionOf c (scored host c normalized))

/-- What the decisions are sorted by. -/
def decisionKey (d : Decision F) : Bool ×ₗ ℕ ×ₗ String ×ₗ String ×ₗ String ×ₗ String :=
  toLex (d.rank.isNone, toLex (d.rank.getD 0, toLex (d.symbol, toLex (d.state.value,
    toLex (sourceOf host d.observedInputs "", host.digest (.mapping d.observedInputs))))))

/-- `as_dict`. -/
def Decision.asDict (d : Decision F) : Payload F :=
  [("symbol", .text d.symbol),
    ("state", .text d.state.value),
    ("reasons", .list (d.reasons.map .text)),
    ("observed_inputs", .mapping d.observedInputs),
    ("ranking_components", .mapping d.rankingComponents),
    ("score", optionalNumber d.score),
    ("rank", match d.rank with
      | none => .none
      | some n => .int n),
    ("selected", .bool d.selected),
    ("evidence_availability", .mapping (d.evidenceAvailability.map fun e => (e.1, .text e.2)))]

/-! ## 4. The universe -/

/-- What the caller says about the run. -/
structure Request (F : Type) where
  decisionTimestamp : Value F
  executionMode : String
  gitSha : String
  strategyConfigHash : Option String

/-- `SelectedUniverse`, less the constraints, which it repeats. -/
structure SelectedUniverse (F : Type) where
  cycleId : String
  decisionTimestamp : F
  executionMode : String
  candidates : List (Decision F)
  selectedSymbols : List String
  configHash : String
  strategyConfigHash : Option String
  universeHash : String
  evidenceHash : String
  gitSha : String
  sourceProvenance : List String

variable (request : Request F)

/-- `str(git_sha or "UNKNOWN_GIT_COMMIT")`. -/
def Request.sha : String := if request.gitSha = "" then "UNKNOWN_GIT_COMMIT" else request.gitSha

/-- `evidence_payload`. -/
def evidencePayload (ts : F) (decisions : List (Decision F)) : Payload F :=
  [("decision_timestamp", .float ts),
    ("constraints", .mapping c.asDict),
    ("candidates", .list (decisions.map fun d => .mapping d.asDict)),
    ("git_sha", .text request.sha),
    ("strategy_config_hash", match request.strategyConfigHash with
      | none => .none
      | some hash => .text hash),
    ("ranking_version", .text "opportunity_ranking_v1"),
    ("schema_version", .text "universe_selection_v1")]

/-- `selected_symbols`. -/
def selectedSymbols (decisions : List (Decision F)) : List String :=
  (decisions.filter fun d => d.selected).map Decision.symbol

/-- The sorted decisions with their hashes. -/
def sealUniverse (ts : F) (decisions : List (Decision F)) :
    Except PyError (SelectedUniverse F) := do
  let selected := selectedSymbols decisions
  let evidenceHash ← canonicalHash host (.mapping (evidencePayload c request ts decisions))
  let configHash ← c.configHash host
  let universeHash ← canonicalHash host
    (.mapping [("symbols", .list (selected.map .text)), ("evidence_hash", .text evidenceHash)])
  return {
    cycleId := "universe:" ++ upper request.executionMode ++ ":" ++ evidenceHash
    decisionTimestamp := ts
    executionMode := upper request.executionMode
    candidates := decisions
    selectedSymbols := selected
    configHash := configHash
    strategyConfigHash := request.strategyConfigHash
    universeHash := universeHash
    evidenceHash := evidenceHash
    gitSha := request.sha
    sourceProvenance := sortedSet (decisions.map
      fun d => sourceOf host d.observedInputs "UNKNOWN") }

/-- The sort of the decisions hashes the inputs of each. -/
def hashInputs (decisions : List (Decision F)) : Except PyError Unit :=
  decisions.forM fun d => (canonicalHash host (.mapping d.observedInputs)).map fun _ => ()

/-- `build_selected_universe`. -/
def buildSelectedUniverse (candidates : List (Payload F)) : Except PyError (SelectedUniverse F) :=
  match timestampSeconds host request.decisionTimestamp with
  | none => .error (.valueError "decision_timestamp must be an explicit finite timestamp")
  | some ts => do
    let rows ← candidates.mapM (baseDecision host c ts)
    let decisions := decisionsOf host c rows
    hashInputs host decisions
    sealUniverse host c request ts (sortOn (decisionKey host) decisions)

/-! ## 5. The order of the keys -/

omit [FloatNum F] in
theorem rival_symm (a b : Row F) (h : Rival a b) : Rival b a := ⟨h.2.1, h.1, h.2.2.symm⟩

omit [FloatNum F] in
theorem rival_trans (a b d : Row F) (h : Rival a b) (h' : Rival b d) : Rival a d :=
  ⟨h.1, h'.2.1, h.2.2.trans h'.2.2⟩

theorem order_lt_iff {x y : F} (hx : IsNumber x) : order x < order y ↔ x < y := by
  obtain ⟨v, hv⟩ := isNumber_iff.mp hx
  rw [FloatNum.lt_iff]
  unfold order
  rw [hv]
  cases hw : FloatNum.value y with
  | none => exact iff_of_false (by simp) (by simp)
  | some w => simp

/-- A lower key of two with the larger number first, then the symbol. -/
theorem key_lt {x y : F} (hx : IsNumber x) (hy : IsNumber y) {s t : String} (hne : s ≠ t)
    (h : toLex (OrderDual.toDual (order x), s) ≤ toLex (OrderDual.toDual (order y), t)) :
    y < x ∨ ¬ x < y ∧ s < t := by
  rw [Prod.Lex.toLex_le_toLex] at h
  rcases h with h | ⟨heq, hst⟩
  · exact Or.inl ((order_lt_iff hy).mp (OrderDual.toDual_lt_toDual.mp h))
  · refine Or.inr ⟨fun hlt => ?_, lt_of_le_of_ne hst hne⟩
    have hlt' : order x < order y := (order_lt_iff hx).mpr hlt
    exact absurd (OrderDual.toDual_inj.mp heq) hlt'.ne

theorem number_score {maxVolume maxVolatility : F} (r : Row F) :
    IsNumber (scoreRow host c maxVolume maxVolatility r).score :=
  host.round_number _ pyMax_number

/-! ## 6. The passes -/

omit [FloatNum F] in
theorem mem_eligibleRows {rows : List (Row F)} {r : Row F} :
    r ∈ eligibleRows rows ↔ r ∈ rows ∧ r.state = .eligible := by
  unfold eligibleRows
  rw [List.mem_filter, decide_eq_true_eq]

omit [FloatNum F] in
theorem demote_not_eligible (r : Row F) (reason : String) : (r.demote reason).state ≠ .eligible :=
  nofun

/-- What the first pass makes of the rows. -/
theorem mem_dedupe {rows : List (Row F)} {z : Row F} (h : z ∈ dedupe host rows) :
    z ∈ rows ∨
      ∃ x ∈ rows, x.state = .eligible ∧ z = x.demote "DUPLICATE_SYMBOL_LOWER_QUALITY" := by
  obtain ⟨x, hx, hor⟩ := mem_keepFirstBest h
  rcases hor with ⟨hz, y, hr⟩ | ⟨hz, _⟩
  · exact Or.inr ⟨x, hx, hr.2.1, hz⟩
  · exact Or.inl (hz ▸ hx)

/-- What the first pass demotes has a rival that stays and sorts no later. -/
theorem kept_of_eligible {rows : List (Row F)} {x : Row F} (hx : x ∈ rows)
    (he : x.state = .eligible) :
    ∃ z ∈ rows, z ∈ dedupe host rows ∧ z.state = .eligible ∧ z.symbol = x.symbol ∧
      duplicateKey host z ≤ duplicateKey host x := by
  obtain ⟨z, hz, hkept, hr, hle⟩ : ∃ z ∈ rows, z ∈ dedupe host rows ∧ Rival z x ∧
      duplicateKey host z ≤ duplicateKey host x :=
    exists_kept rival_trans hx ⟨he, he, rfl⟩
  exact ⟨z, hz, hkept, hr.1, hr.2.2, hle⟩

/-- After the first pass a symbol identifies an eligible row. -/
theorem nodup_dedupe (rows : List (Row F)) :
    ((eligibleRows (dedupe host rows)).map Row.symbol).Nodup := by
  have hpair : (dedupe host rows).Pairwise fun a b => ¬ Rival a b :=
    pairwise_keepFirstBest rival_symm (fun x _ hr => demote_not_eligible x _ hr.1) [] rows
  refine List.pairwise_map.mpr ?_
  refine ((hpair.filter _).imp_of_mem fun ha hb hr heq => hr ?_)
  exact ⟨(mem_eligibleRows.mp ha).2, (mem_eligibleRows.mp hb).2, heq⟩

theorem retained_subset {rows : List (Row F)} {r : Row F} (h : r ∈ retained c rows) :
    r ∈ eligibleRows rows := mem_sortOn.mp (List.mem_of_mem_take h)

/-- What the second pass makes of the rows. -/
theorem mem_cutVolume {rows : List (Row F)} {z : Row F} :
    z ∈ cutVolume c rows ↔
      (z ∈ rows ∧ (z.state = .eligible → z.symbol ∈ (retained c rows).map Row.symbol)) ∨
      ∃ x ∈ rows, x.state = .eligible ∧ x.symbol ∉ (retained c rows).map Row.symbol ∧
        z = x.demote "OUTSIDE_TOP_N_VOLUME" := by
  unfold cutVolume
  rw [List.mem_map]
  constructor
  · intro ⟨x, hx, hz⟩
    by_cases hcut : x.state = .eligible ∧ x.symbol ∉ (retained c rows).map Row.symbol
    · rw [if_pos hcut] at hz
      exact Or.inr ⟨x, hx, hcut.1, hcut.2, hz.symm⟩
    · rw [if_neg hcut] at hz
      rw [← hz]
      exact Or.inl ⟨hx, fun he => by_contra fun hout => hcut ⟨he, hout⟩⟩
  · intro h
    rcases h with ⟨hz, hkeep⟩ | ⟨x, hx, he, hout, hz⟩
    · exact ⟨z, hz, if_neg fun hcut => hcut.2 (hkeep hcut.1)⟩
    · exact ⟨x, hx, (if_pos ⟨he, hout⟩).trans hz.symm⟩

/-- The rankable rows are the retained ones. -/
theorem eligible_cutVolume {rows : List (Row F)}
    (hnodup : ((eligibleRows rows).map Row.symbol).Nodup) :
    (eligibleRows (cutVolume c rows)).Perm (retained c rows) := by
  have hsub : ∀ r, r ∈ eligibleRows (cutVolume c rows) ↔ r ∈ retained c rows := by
    intro r
    rw [mem_eligibleRows, mem_cutVolume]
    constructor
    · intro ⟨hor, he⟩
      rcases hor with ⟨hr, hkeep⟩ | ⟨x, _, _, _, hz⟩
      · obtain ⟨y, hy, hsymbol⟩ := List.mem_map.mp (hkeep he)
        have hry : y = r := List.inj_on_of_nodup_map hnodup (retained_subset c hy)
          (mem_eligibleRows.mpr ⟨hr, he⟩) hsymbol
        exact hry ▸ hy
      · exact absurd (hz ▸ he) (demote_not_eligible x _)
    · intro hr
      obtain ⟨hmem, he⟩ := mem_eligibleRows.mp (retained_subset c hr)
      exact ⟨Or.inl ⟨hmem, fun _ => List.mem_map_of_mem hr⟩, he⟩
  have hdistinct : (eligibleRows rows).Nodup := hnodup.of_map
  have hretained : (retained c rows).Nodup :=
    ((perm_of_sortOn _).nodup_iff.mpr hdistinct).sublist (List.take_sublist _ _)
  have hcut : (eligibleRows (cutVolume c rows)).Nodup := by
    have hpair : rows.Pairwise fun a b => a.state = .eligible → b.state = .eligible → a ≠ b := by
      have := List.pairwise_filter.mp hdistinct
      exact this.imp fun h ha hb => h (decide_eq_true ha) (decide_eq_true hb)
    refine List.pairwise_filter.mpr (List.pairwise_map.mpr (hpair.imp fun {a b} hab ha hb => ?_))
    have hkeep : ∀ x : Row F, decide ((if x.state = .eligible ∧
        x.symbol ∉ (retained c rows).map Row.symbol then x.demote "OUTSIDE_TOP_N_VOLUME"
        else x).state = .eligible) = true → ¬ (x.state = .eligible ∧
        x.symbol ∉ (retained c rows).map Row.symbol) := by
      intro x hx hcut
      rw [if_pos hcut] at hx
      exact demote_not_eligible x _ (of_decide_eq_true hx)
    have hka := hkeep a ha
    have hkb := hkeep b hb
    rw [if_neg hka] at ha ⊢
    rw [if_neg hkb] at hb ⊢
    exact hab (of_decide_eq_true ha) (of_decide_eq_true hb)
  exact (List.perm_ext_iff_of_nodup hcut hretained).mpr hsub

/-! ## 7. What the passes leave -/

/-- The rows as the ranking finds them. -/
structure Normal (rows : List (Row F)) : Prop where
  nodup : ((eligibleRows rows).map Row.symbol).Nodup
  clean : ∀ r ∈ rows, r.state = .eligible ↔ r.reasons = []
  unranked : ∀ r ∈ rows, r.reasons ≠ ["RANKED_BELOW_MAX_ACTIVE"]

variable {c} {ts : F} {items : List (Payload F)} {rows : List (Row F)}

/-- What is left of a row after both passes. -/
theorem mem_normalized {z : Row F} (h : z ∈ cutVolume c (dedupe host rows)) :
    z ∈ rows ∨
      (∃ x ∈ rows, x.state = .eligible ∧ z = x.demote "DUPLICATE_SYMBOL_LOWER_QUALITY") ∨
      ∃ x ∈ rows, x.state = .eligible ∧ x ∈ dedupe host rows ∧
        x.symbol ∉ (retained c (dedupe host rows)).map Row.symbol ∧
        z = x.demote "OUTSIDE_TOP_N_VOLUME" := by
  rcases (mem_cutVolume c).mp h with ⟨hz, _⟩ | ⟨x, hx, he, hout, hz⟩
  · exact (mem_dedupe host hz).imp_right Or.inl
  · rcases mem_dedupe host hx with hx' | ⟨y, _, _, hxy⟩
    · exact Or.inr (Or.inr ⟨x, hx', he, hx, hout, hz⟩)
    · exact absurd (hxy ▸ he) (demote_not_eligible y _)

/-- The judgements of the candidates have reasons of the checks, none where ELIGIBLE. -/
theorem rows_sound (h : items.mapM (baseDecision host c ts) = .ok rows) {r : Row F}
    (hr : r ∈ rows) :
    (r.state = .eligible ↔ r.reasons = []) ∧ ∀ reason ∈ r.reasons, reason ∈ checkReasons := by
  obtain ⟨item, _, hrow⟩ := mem_mapM h hr
  exact ⟨(baseDecision_reasons host c ts item hrow).1, baseDecision_known host c ts item hrow⟩

theorem demote_reasons (h : items.mapM (baseDecision host c ts) = .ok rows) {x : Row F}
    (hx : x ∈ rows) (he : x.state = .eligible) (reason : String) :
    (x.demote reason).reasons = [reason] := by
  have hnil : x.reasons = [] := (rows_sound host h hx).1.mp he
  show x.reasons ++ [reason] = [reason]
  rw [hnil]
  rfl

theorem normal_rows (h : items.mapM (baseDecision host c ts) = .ok rows) :
    Normal (cutVolume c (dedupe host rows)) where
  nodup := by
    have hperm := (eligible_cutVolume c (nodup_dedupe host rows)).map Row.symbol
    refine hperm.nodup_iff.mpr ?_
    have hsorted : ((sortOn volumeKey (eligibleRows (dedupe host rows))).map Row.symbol).Nodup :=
      ((perm_of_sortOn _).map Row.symbol).nodup_iff.mpr (nodup_dedupe host rows)
    exact hsorted.sublist ((List.take_sublist _ _).map Row.symbol)
  clean z hz := by
    rcases mem_normalized host hz with hz | ⟨x, hx, he, hz⟩ | ⟨x, hx, he, _, _, hz⟩
    · exact (rows_sound host h hz).1
    · rw [hz, demote_reasons host h hx he]
      exact iff_of_false (demote_not_eligible x _) nofun
    · rw [hz, demote_reasons host h hx he]
      exact iff_of_false (demote_not_eligible x _) nofun
  unranked z hz heq := by
    rcases mem_normalized host hz with hz | ⟨x, hx, he, hz⟩ | ⟨x, hx, he, _, _, hz⟩
    · have hknown := (rows_sound host h hz).2 "RANKED_BELOW_MAX_ACTIVE" (by rw [heq]; simp)
      exact absurd hknown (by decide)
    · rw [hz, demote_reasons host h hx he] at heq
      exact absurd heq (by decide)
    · rw [hz, demote_reasons host h hx he] at heq
      exact absurd heq (by decide)

/-- The ranking has the symbols of the rankable rows. -/
theorem scored_symbols (rows : List (Row F)) :
    ((scored host c rows).map Scored.symbol).Perm ((eligibleRows rows).map Row.symbol) := by
  unfold scored
  refine ((perm_of_sortOn _).map Scored.symbol).trans ?_
  rw [List.map_map]
  exact List.Perm.refl _

omit [FloatNum F] in
theorem findRank_spec {symbol : String} {ranking : List (Scored F)} (n : ℕ)
    (h : symbol ∈ ranking.map Scored.symbol) :
    ∃ k s, findRank symbol n ranking = some (k, s) ∧ s ∈ ranking ∧ s.symbol = symbol := by
  induction ranking generalizing n with
  | nil => exact absurd h List.not_mem_nil
  | cons s rest ih =>
    unfold findRank
    by_cases hs : s.symbol = symbol
    · rw [if_pos hs]
      exact ⟨n, s, rfl, List.mem_cons_self .., hs⟩
    · rw [if_neg hs]
      rw [List.map_cons, List.mem_cons] at h
      obtain ⟨k, t, hfind, hmem, ht⟩ := ih (n + 1) (h.resolve_left fun heq => hs heq.symm)
      exact ⟨k, t, hfind, List.mem_cons_of_mem s hmem, ht⟩

theorem reasons_of_not_eligible {ranking : List (Scored F)} {z : Row F} (h : z.state ≠ .eligible) :
    (decisionOf c ranking z).reasons = z.reasons := by
  unfold decisionOf
  exact if_neg fun hcond => h hcond.1

/-- The reasons of a decision. -/
theorem decision_reasons (hn : Normal rows) {ranking : List (Scored F)} {r : Row F}
    (hr : r ∈ rows) :
    ((decisionOf c ranking r).state = .eligible ↔ (decisionOf c ranking r).reasons = [] ∨
      (decisionOf c ranking r).reasons = ["RANKED_BELOW_MAX_ACTIVE"]) ∧
    ((decisionOf c ranking r).selected = true ↔
      (decisionOf c ranking r).state = .eligible ∧ (decisionOf c ranking r).reasons = []) := by
  have hclean := hn.clean r hr
  unfold decisionOf
  simp only [decide_eq_true_eq]
  by_cases he : r.state = .eligible
  · have hnil := hclean.mp he
    by_cases hw : r.symbol ∈ winners c ranking
    · simp [he, hw, hnil]
    · simp [he, hw, hnil]
  · have hne : r.reasons ≠ [] := fun h => he (hclean.mpr h)
    simp [he, hne, hn.unranked r hr]

/-- The score of an eligible row is that of its place in the ranking. -/
theorem decision_score {r : Row F} (hr : r ∈ rows) (he : r.state = .eligible) :
    ∃ s ∈ scored host c rows, s.symbol = r.symbol ∧
      (decisionOf c (scored host c rows) r).score = some s.score := by
  have hmem : r.symbol ∈ (scored host c rows).map Scored.symbol :=
    (scored_symbols host rows).mem_iff.mpr
      (List.mem_map_of_mem (mem_eligibleRows.mpr ⟨hr, he⟩))
  obtain ⟨k, s, hfind, hs, hsymbol⟩ := findRank_spec 1 hmem
  refine ⟨s, hs, hsymbol, ?_⟩
  unfold decisionOf
  simp only [if_pos he, hfind, Option.map_some]

/-- The selected symbols are the best of the ranking. -/
theorem selected_perm (hn : Normal rows) :
    (selectedSymbols (rows.map (decisionOf c (scored host c rows)))).Perm
      (winners c (scored host c rows)) := by
  have hselected : selectedSymbols (rows.map (decisionOf c (scored host c rows))) =
      (rows.filter fun r => r.state = .eligible ∧ r.symbol ∈ winners c (scored host c rows)).map
        Row.symbol := by
    unfold selectedSymbols
    rw [List.filter_map, List.map_map]
    rfl
  have hsub : (rows.filter fun r => r.state = .eligible ∧
      r.symbol ∈ winners c (scored host c rows)).Sublist (eligibleRows rows) := by
    refine List.monotone_filter_right rows fun r h => ?_
    exact decide_eq_true (of_decide_eq_true h).1
  have hranking : ((scored host c rows).map Scored.symbol).Nodup :=
    (scored_symbols host rows).nodup_iff.mpr hn.nodup
  rw [hselected]
  refine (List.perm_ext_iff_of_nodup (hn.nodup.sublist (hsub.map Row.symbol))
    (hranking.sublist ((List.take_sublist _ _).map Scored.symbol))).mpr fun symbol => ?_
  constructor
  · intro h
    obtain ⟨r, hr, hsymbol⟩ := List.mem_map.mp h
    exact hsymbol ▸ (of_decide_eq_true (List.mem_filter.mp hr).2).2
  · intro h
    have hmem : symbol ∈ (scored host c rows).map Scored.symbol :=
      ((List.take_sublist _ _).map Scored.symbol).subset h
    obtain ⟨r, hr, hsymbol⟩ := List.mem_map.mp ((scored_symbols host rows).mem_iff.mp hmem)
    obtain ⟨hrow, he⟩ := mem_eligibleRows.mp hr
    refine List.mem_map.mpr ⟨r, List.mem_filter.mpr ⟨hrow, decide_eq_true ⟨he, ?_⟩⟩, hsymbol⟩
    exact hsymbol.symm ▸ h

/-! ## 8. What a universe says -/

/-- The ranking: by the score, then by the symbol. -/
def RanksBefore (d e : Decision F) : Prop :=
  ∃ x y, d.score = some x ∧ e.score = some y ∧ (y < x ∨ ¬ x < y ∧ d.symbol < e.symbol)

/-- By the volume, then by the symbol. -/
def MoreTraded (d e : Decision F) : Prop :=
  ∃ x y, numberAt d.observedInputs "volume_24h_usd" = some x ∧
    numberAt e.observedInputs "volume_24h_usd" = some y ∧ (y < x ∨ ¬ x < y ∧ d.symbol < e.symbol)

/-- The number of eligible decisions. -/
def eligibleCount (decisions : List (Decision F)) : ℕ :=
  decisions.countP fun d => d.state = .eligible

variable (c ts items)

/-- The candidate of a decision, which satisfies the constraints, and its judgement. -/
def Stems (d : Decision F) (row : Row F) : Prop :=
  ∃ item ∈ items, baseDecision host c ts item = .ok row ∧ d.symbol = row.symbol ∧
    d.observedInputs = row.inputs ∧ Satisfies host c ts item

/-- Both candidates satisfy the constraints, they have one symbol, and the one of `e`, which is no
    duplicate, sorts no later than the one of `d`. -/
def BetterDuplicate (d e : Decision F) : Prop :=
  (e.state = .eligible ∨ e.reasons = ["OUTSIDE_TOP_N_VOLUME"]) ∧ e.symbol = d.symbol ∧
    ∃ row row', Stems host c ts items d row ∧ Stems host c ts items e row' ∧
      duplicateKey host row' ≤ duplicateKey host row

/-- What a universe says about the candidates it was built from. -/
structure Correct (u : SelectedUniverse F) : Prop where
  /-- Every candidate gets its own decision. -/
  judged : ∃ rows, items.mapM (baseDecision host c ts) = .ok rows ∧
    (u.candidates.map fun d => (d.symbol, d.observedInputs)).Perm
      (rows.map fun r => (r.symbol, r.inputs))
  /-- ELIGIBLE means no reason but the capacity. -/
  eligible_iff : ∀ d ∈ u.candidates, d.state = .eligible ↔
    d.reasons = [] ∨ d.reasons = ["RANKED_BELOW_MAX_ACTIVE"]
  /-- Selected means ELIGIBLE without any reason. -/
  selected_iff : ∀ d ∈ u.candidates, d.selected = true ↔ d.state = .eligible ∧ d.reasons = []
  /-- An eligible candidate satisfies the constraints. -/
  satisfies : ∀ d ∈ u.candidates, d.state = .eligible → ∃ row, Stems host c ts items d row
  /-- Any other has a failed constraint, a better duplicate, or too little volume. -/
  refused : ∀ d ∈ u.candidates, d.state ≠ .eligible →
    (d.reasons = ["DUPLICATE_SYMBOL_LOWER_QUALITY"] ∧
        ∃ e ∈ u.candidates, BetterDuplicate host c ts items d e) ∨
      (d.reasons = ["OUTSIDE_TOP_N_VOLUME"] ∧ ∃ row, Stems host c ts items d row) ∨
      ∃ item ∈ items, ∃ row, baseDecision host c ts item = .ok row ∧ d.symbol = row.symbol ∧
        d.observedInputs = row.inputs ∧ d.reasons = row.reasons ∧ ¬ Satisfies host c ts item
  symbols : u.selectedSymbols = selectedSymbols u.candidates
  distinct : ((u.candidates.filter fun d => d.state = .eligible).map Decision.symbol).Nodup
  capacity : u.selectedSymbols.length = min c.maxActiveSymbols (eligibleCount u.candidates)
  /-- No unselected eligible candidate ranks before a selected one. -/
  best : ∀ d ∈ u.candidates, ∀ e ∈ u.candidates, d.selected = true → e.state = .eligible →
    e.selected = false → RanksBefore d e
  /-- The eligible candidates are the top of the volume. -/
  withinCut : eligibleCount u.candidates ≤ c.candidatePoolTopNVolume
  cut : ∀ e ∈ u.candidates, e.reasons = ["OUTSIDE_TOP_N_VOLUME"] →
    eligibleCount u.candidates = c.candidatePoolTopNVolume ∧
      ∀ d ∈ u.candidates, d.state = .eligible → MoreTraded d e

variable {c ts items} {request : Request F} {u : SelectedUniverse F}

/-- A universe that is returned has the sorted decisions about the candidates. -/
theorem build_ok (h : buildSelectedUniverse host c request items = .ok u) :
    ∃ ts rows, timestampSeconds host request.decisionTimestamp = some ts ∧
      items.mapM (baseDecision host c ts) = .ok rows ∧
      u.candidates = sortOn (decisionKey host) (decisionsOf host c rows) ∧
      u.selectedSymbols = selectedSymbols u.candidates := by
  unfold buildSelectedUniverse at h
  cases hts : timestampSeconds host request.decisionTimestamp with
  | none =>
    rw [hts] at h
    cases h
  | some ts =>
    simp only [hts] at h
    obtain ⟨rows, hrows, h⟩ := ok_of_bind h
    obtain ⟨_, _, h⟩ := ok_of_bind h
    unfold sealUniverse at h
    obtain ⟨_, _, h⟩ := ok_of_bind h
    obtain ⟨_, _, h⟩ := ok_of_bind h
    obtain ⟨_, _, h⟩ := ok_of_bind h
    cases h
    exact ⟨ts, rows, rfl, hrows, rfl, rfl⟩

/-- The row an eligible decision stems from. -/
theorem eligible_base (h : items.mapM (baseDecision host c ts) = .ok rows) {z : Row F}
    (hz : z ∈ cutVolume c (dedupe host rows)) (he : z.state = .eligible) :
    z ∈ rows ∧ ∃ item ∈ items, baseDecision host c ts item = .ok z ∧ Satisfies host c ts item := by
  rcases mem_normalized host hz with hr | ⟨x, _, _, hz⟩ | ⟨x, _, _, _, _, hz⟩
  · obtain ⟨item, hitem, hrow⟩ := mem_mapM h hr
    have hreasons := baseDecision_reasons host c ts item hrow
    exact ⟨hr, item, hitem, hrow, hreasons.2.mp (hreasons.1.mp he)⟩
  · exact absurd (hz ▸ he) (demote_not_eligible x _)
  · exact absurd (hz ▸ he) (demote_not_eligible x _)

/-- The judgement an eligible row is. -/
theorem eligible_row (h : items.mapM (baseDecision host c ts) = .ok rows) {x : Row F}
    (hx : x ∈ rows) (he : x.state = .eligible) :
    ∃ item ∈ items, baseDecision host c ts item = .ok x ∧ Satisfies host c ts item := by
  obtain ⟨item, hitem, hrow⟩ := mem_mapM h hx
  have hreasons := baseDecision_reasons host c ts item hrow
  exact ⟨item, hitem, hrow, hreasons.2.mp (hreasons.1.mp he)⟩

/-- The decision about an eligible judgement that a pass has demoted. -/
theorem stems_demote (h : items.mapM (baseDecision host c ts) = .ok rows) {x : Row F}
    (hx : x ∈ rows) (he : x.state = .eligible) (ranking : List (Scored F)) (reason : String) :
    Stems host c ts items (decisionOf c ranking (x.demote reason)) x := by
  obtain ⟨item, hitem, hrow, hsat⟩ := eligible_row host h hx he
  exact ⟨item, hitem, hrow, rfl, rfl, hsat⟩

/-- A row that the first pass leaves is the judgement of a decision that is no duplicate. -/
theorem kept_decision (h : items.mapM (baseDecision host c ts) = .ok rows) {z : Row F}
    (hz : z ∈ rows) (hkept : z ∈ dedupe host rows) (he : z.state = .eligible) :
    ∃ d ∈ decisionsOf host c rows, (d.state = .eligible ∨ d.reasons = ["OUTSIDE_TOP_N_VOLUME"]) ∧
      d.symbol = z.symbol ∧ Stems host c ts items d z := by
  by_cases hin : z.symbol ∈ (retained c (dedupe host rows)).map Row.symbol
  · have hmem : z ∈ cutVolume c (dedupe host rows) :=
      (mem_cutVolume c).mpr (Or.inl ⟨hkept, fun _ => hin⟩)
    obtain ⟨item, hitem, hrow, hsat⟩ := eligible_row host h hz he
    exact ⟨_, List.mem_map_of_mem hmem, Or.inl he, rfl, item, hitem, hrow, rfl, rfl, hsat⟩
  · have hmem : z.demote "OUTSIDE_TOP_N_VOLUME" ∈ cutVolume c (dedupe host rows) :=
      (mem_cutVolume c).mpr (Or.inr ⟨z, hkept, he, hin, rfl⟩)
    refine ⟨_, List.mem_map_of_mem hmem, Or.inr ?_, rfl, stems_demote host h hz he _ _⟩
    rw [reasons_of_not_eligible (demote_not_eligible z _)]
    exact demote_reasons host h hz he _

/-- An eligible row has the numbers of the required metrics. -/
theorem eligible_number (h : items.mapM (baseDecision host c ts) = .ok rows) {x : Row F}
    (hx : x ∈ rows) (he : x.state = .eligible) {m : Metric} (hm : m ∈ requiredMetrics) :
    numberAt x.inputs m.name = some (x.number m.name) ∧ FiniteNonneg (x.number m.name) := by
  obtain ⟨item, _, hrow⟩ := mem_mapM h hx
  obtain ⟨v, hv, hnumber⟩ := eligible_metric host c ts item m hrow he hm
  have hread : numberAt x.inputs m.name = some v := by
    unfold numberAt
    rw [hv]
  have hvalue : x.number m.name = v := by
    unfold Row.number
    rw [hread]
    rfl
  rw [hvalue]
  exact ⟨hread, hnumber⟩

theorem eligible_volume (h : items.mapM (baseDecision host c ts) = .ok rows) {x : Row F}
    (hx : x ∈ rows) (he : x.state = .eligible) :
    numberAt x.inputs "volume_24h_usd" = some x.volume ∧ FiniteNonneg x.volume :=
  eligible_number host h hx he (m := volumeMetric) (by simp [requiredMetrics])

theorem eligible_volatility (h : items.mapM (baseDecision host c ts) = .ok rows) {x : Row F}
    (hx : x ∈ rows) (he : x.state = .eligible) : FiniteNonneg x.volatility :=
  (eligible_number host h hx he (m := volatilityMetric) (by simp [requiredMetrics])).2

/-- A row outside the cut has less volume than every row in it. -/
theorem retained_before (h : items.mapM (baseDecision host c ts) = .ok rows) {r x : Row F}
    (hr : r ∈ retained c (dedupe host rows)) (hrow : r ∈ rows) (hx : x ∈ rows)
    (hdedupe : x ∈ dedupe host rows) (he : x.state = .eligible)
    (hout : x.symbol ∉ (retained c (dedupe host rows)).map Row.symbol) :
    x.volume < r.volume ∨ ¬ r.volume < x.volume ∧ r.symbol < x.symbol := by
  have hre : r.state = .eligible := (mem_eligibleRows.mp (retained_subset c hr)).2
  have hle : volumeKey r ≤ volumeKey x :=
    le_of_mem_take hr (mem_eligibleRows.mpr ⟨hdedupe, he⟩)
      fun hmem => hout (List.mem_map_of_mem hmem)
  have hne : r.symbol ≠ x.symbol := fun heq => hout (heq ▸ List.mem_map_of_mem hr)
  have hr := (eligible_volume host h hrow hre).2
  have hx := (eligible_volume host h hx he).2
  exact key_lt (isNumber_of_finite hr.1) (isNumber_of_finite hx.1) hne hle

/-- The eligible decisions are as many as the retained rows. -/
theorem eligibleCount_decisions (rows : List (Row F)) :
    eligibleCount (decisionsOf host c rows) = (retained c (dedupe host rows)).length := by
  have hperm := eligible_cutVolume c (nodup_dedupe host rows)
  rw [← hperm.length_eq]
  unfold eligibleCount decisionsOf eligibleRows
  rw [List.countP_map, List.countP_eq_length_filter]
  rfl

/-- The passes leave every row its symbol and its inputs. -/
theorem map_normalized (rows : List (Row F)) :
    (cutVolume c (dedupe host rows)).map (fun r => (r.symbol, r.inputs)) =
      rows.map fun r => (r.symbol, r.inputs) := by
  have hcut : ∀ l : List (Row F), (cutVolume c l).map (fun r => (r.symbol, r.inputs)) =
      l.map fun r => (r.symbol, r.inputs) := by
    intro l
    unfold cutVolume
    rw [List.map_map]
    refine List.map_congr_left fun r _ => ?_
    show (fun r : Row F => (r.symbol, r.inputs)) (if _ then _ else _) = _
    split
    · rfl
    · rfl
  rw [hcut]
  unfold dedupe
  refine map_keepFirstBest ?_ [] rows
  exact fun _ => rfl

/-- A selected row ranks before an eligible one that is not selected. -/
theorem selected_before {r q : Row F} (hr : r ∈ rows) (hq : q ∈ rows) (hn : Normal rows)
    (hsel : (decisionOf c (scored host c rows) r).selected = true) (he : q.state = .eligible)
    (hout : (decisionOf c (scored host c rows) q).selected = false) :
    RanksBefore (decisionOf c (scored host c rows) r) (decisionOf c (scored host c rows) q) := by
  have hranked : ((scored host c rows).map Scored.symbol).Nodup :=
    (scored_symbols host rows).nodup_iff.mpr hn.nodup
  obtain ⟨hre, hwin⟩ := of_decide_eq_true hsel
  have hlose : q.symbol ∉ winners c (scored host c rows) := fun hmem =>
    of_decide_eq_false hout ⟨he, hmem⟩
  obtain ⟨s, hs, hsr, hscore⟩ := decision_score host hr hre
  obtain ⟨t, ht, htq, htscore⟩ := decision_score host hq he
  -- `s` is among the best and `t` is not
  have hbest : s ∈ (scored host c rows).take c.maxActiveSymbols := by
    obtain ⟨w, hw, hwr⟩ := List.mem_map.mp hwin
    have hws : w = s := List.inj_on_of_nodup_map hranked (List.mem_of_mem_take hw) hs
      (hwr.trans hsr.symm)
    exact hws ▸ hw
  have hrest : t ∉ (scored host c rows).take c.maxActiveSymbols := fun hmem =>
    hlose (htq ▸ List.mem_map_of_mem hmem)
  have hle : rankKey s ≤ rankKey t := le_of_mem_take hbest (mem_sortOn.mp ht) hrest
  have hnumber : ∀ w ∈ scored host c rows, IsNumber w.score := by
    intro w hw
    obtain ⟨x, _, hx⟩ := List.mem_map.mp (mem_sortOn.mp hw)
    exact hx ▸ number_score host c x
  have hne : s.symbol ≠ t.symbol := fun heq => hlose (htq ▸ heq ▸ List.mem_map_of_mem hbest)
  have hlt := key_lt (hnumber s hs) (hnumber t ht) hne hle
  rw [hsr, htq] at hlt
  exact ⟨s.score, t.score, hscore, htscore, hlt⟩

/-- The row a candidate outside the cut stems from. -/
theorem outside_base (h : items.mapM (baseDecision host c ts) = .ok rows)
    (hn : Normal (cutVolume c (dedupe host rows))) {ranking : List (Scored F)} {q : Row F}
    (hq : q ∈ cutVolume c (dedupe host rows))
    (hreasons : (decisionOf c ranking q).reasons = ["OUTSIDE_TOP_N_VOLUME"]) :
    ∃ x ∈ rows, x.state = .eligible ∧ x ∈ dedupe host rows ∧
      x.symbol ∉ (retained c (dedupe host rows)).map Row.symbol ∧
      q = x.demote "OUTSIDE_TOP_N_VOLUME" := by
  have hne : q.state ≠ .eligible := by
    intro he
    have hiff := (decision_reasons hn hq : (_ ↔ (decisionOf c ranking q).reasons = [] ∨ _) ∧ _).1
    rcases hiff.mp he with hnil | hlow
    · rw [hnil] at hreasons
      cases hreasons
    · rw [hlow] at hreasons
      exact absurd hreasons (by decide)
  have hown : q.reasons = ["OUTSIDE_TOP_N_VOLUME"] := by
    rw [← hreasons, reasons_of_not_eligible hne]
  rcases mem_normalized host hq with hr | ⟨x, hx, he, hqx⟩ | hout
  · have hknown := (rows_sound host h hr).2 "OUTSIDE_TOP_N_VOLUME" (by rw [hown]; simp)
    exact absurd hknown (by decide)
  · rw [hqx, demote_reasons host h hx he] at hown
    exact absurd hown (by decide)
  · exact hout

/-- If anything is outside, the cut is full. -/
theorem retained_full {rows : List (Row F)} {x : Row F} (hx : x ∈ rows) (he : x.state = .eligible)
    (hout : x.symbol ∉ (retained c rows).map Row.symbol) :
    (retained c rows).length = c.candidatePoolTopNVolume := by
  by_contra hlen
  have hshort : (sortOn volumeKey (eligibleRows rows)).length ≤ c.candidatePoolTopNVolume := by
    have htake : (retained c rows).length = min c.candidatePoolTopNVolume
        (sortOn volumeKey (eligibleRows rows)).length := List.length_take
    omega
  refine hout (List.mem_map_of_mem ?_)
  unfold retained
  rw [List.take_of_length_le hshort, mem_sortOn, mem_eligibleRows]
  exact ⟨hx, he⟩

/-- **What is returned is correct.** -/
theorem selection_correct (h : buildSelectedUniverse host c request items = .ok u) :
    ∃ ts, timestampSeconds host request.decisionTimestamp = some ts ∧
      Correct host c ts items u := by
  obtain ⟨ts, rows, hts, hrows, hcandidates, hsymbols⟩ := build_ok host h
  have hn : Normal (cutVolume c (dedupe host rows)) := normal_rows host hrows
  have hperm : u.candidates.Perm (decisionsOf host c rows) := hcandidates ▸ perm_of_sortOn _
  -- every decision is that of a normalized row
  have hrow : ∀ d ∈ u.candidates, ∃ z ∈ cutVolume c (dedupe host rows),
      d = decisionOf c (scored host c (cutVolume c (dedupe host rows))) z := by
    intro d hd
    obtain ⟨z, hz, hdz⟩ := List.mem_map.mp (hperm.mem_iff.mp hd)
    exact ⟨z, hz, hdz.symm⟩
  have hcount : eligibleCount u.candidates = (retained c (dedupe host rows)).length :=
    (hperm.countP_eq _).trans (eligibleCount_decisions host rows)
  have hranked : ((scored host c (cutVolume c (dedupe host rows))).map Scored.symbol).Nodup :=
    (scored_symbols host _).nodup_iff.mpr hn.nodup
  refine ⟨ts, hts, ?_⟩
  constructor
  case judged =>
    have hmap : (decisionsOf host c rows).map (fun d => (d.symbol, d.observedInputs)) =
        rows.map fun r => (r.symbol, r.inputs) := by
      unfold decisionsOf
      rw [List.map_map]
      exact map_normalized host rows
    exact ⟨rows, hrows, hmap ▸ hperm.map _⟩
  case eligible_iff =>
    intro d hd
    obtain ⟨z, hz, hdz⟩ := hrow d hd
    rw [hdz]
    exact (decision_reasons hn hz).1
  case selected_iff =>
    intro d hd
    obtain ⟨z, hz, hdz⟩ := hrow d hd
    rw [hdz]
    exact (decision_reasons hn hz).2
  case satisfies =>
    intro d hd he
    obtain ⟨z, hz, hdz⟩ := hrow d hd
    rw [hdz] at he ⊢
    obtain ⟨_, item, hitem, hbase, hsat⟩ := eligible_base host hrows hz he
    exact ⟨z, item, hitem, hbase, rfl, rfl, hsat⟩
  case refused =>
    intro d hd hne
    obtain ⟨z, hz, hdz⟩ := hrow d hd
    rw [hdz] at hne ⊢
    rw [reasons_of_not_eligible hne]
    rcases mem_normalized host hz with hr | ⟨x, hx, he, hzx⟩ | ⟨x, hx, he, _, _, hzx⟩
    · obtain ⟨item, hitem, hbase⟩ := mem_mapM hrows hr
      have hiff := baseDecision_reasons host c ts item hbase
      exact Or.inr (Or.inr ⟨item, hitem, z, hbase, rfl, rfl, rfl,
        fun hsat => hne (hiff.1.mpr (hiff.2.mpr hsat))⟩)
    · -- the first pass keeps a rival that sorts no later
      obtain ⟨w, hw, hkept, hwe, hsymbol, hle⟩ := kept_of_eligible host hx he
      obtain ⟨e, he', hstays, hes, hstems⟩ := kept_decision host hrows hw hkept hwe
      rw [hzx]
      refine Or.inl ⟨demote_reasons host hrows hx he _, e, hperm.mem_iff.mpr he', hstays,
        hes.trans hsymbol, x, w, stems_demote host hrows hx he _ _, hstems, hle⟩
    · rw [hzx]
      exact Or.inr (Or.inl ⟨demote_reasons host hrows hx he _, x,
        stems_demote host hrows hx he _ _⟩)
  case symbols => exact hsymbols
  case distinct =>
    have heligible : ((decisionsOf host c rows).filter fun d => d.state = .eligible).map
      Decision.symbol =
        (eligibleRows (cutVolume c (dedupe host rows))).map Row.symbol := by
      unfold decisionsOf
      rw [List.filter_map, List.map_map]
      rfl
    exact ((hperm.filter _).map _).nodup_iff.mpr (heligible ▸ hn.nodup)
  case capacity =>
    have hlen := (((hperm.filter _).map Decision.symbol).trans (selected_perm host hn)).length_eq
    have hranking := (scored_symbols (c := c) host (cutVolume c (dedupe host rows))).length_eq
    have hretained := (eligible_cutVolume c (nodup_dedupe host rows)).length_eq
    rw [List.length_map, List.length_map] at hranking
    rw [hsymbols, hcount]
    show List.length (List.map _ _) = _
    rw [hlen]
    unfold winners
    rw [List.length_map, List.length_take, hranking, hretained]
  case best =>
    intro d hd e he hsel helig hout
    obtain ⟨r, hr, hdr⟩ := hrow d hd
    obtain ⟨q, hq, heq⟩ := hrow e he
    rw [hdr] at hsel ⊢
    rw [heq] at helig hout ⊢
    exact selected_before host hr hq hn hsel helig hout
  case withinCut =>
    rw [hcount]
    exact List.length_take_le _ _
  case cut =>
    intro e he hreasons
    obtain ⟨q, hq, heq⟩ := hrow e he
    rw [heq] at hreasons ⊢
    obtain ⟨x, hx, hxe, hdedupe, hout, hqx⟩ := outside_base host hrows hn hq hreasons
    refine ⟨hcount.trans (retained_full hdedupe hxe hout), ?_⟩
    intro d hd helig
    obtain ⟨r, hr, hdr⟩ := hrow d hd
    rw [hdr] at helig ⊢
    obtain ⟨hrow', _⟩ := eligible_base host hrows hr helig
    have hkept : r ∈ retained c (dedupe host rows) :=
      (eligible_cutVolume c (nodup_dedupe host rows)).mem_iff.mp (mem_eligibleRows.mpr ⟨hr, helig⟩)
    refine ⟨r.volume, x.volume, (eligible_volume host hrows hrow' helig).1, ?_, ?_⟩
    · rw [hqx]
      exact (eligible_volume host hrows hx hxe).1
    · rw [hqx]
      exact retained_before host hrows hkept hrow' hx hdedupe hxe hout

/-! ## 9. Two candidates for one place -/

/-- Exact numbers, and no texts that spell a number or a time; `log1p` is not called where no
    candidate has a volume. -/
def sampleHost : Host Extended where
  parse _ := none
  str _ := ""
  dumps _ := ""
  nan := .nan
  nan_not_finite := rfl
  isoTimestamp _ := none
  log1p x := x
  round8
    | .finite q => .finite (roundTo 8 q)
    | x => x
  round_number x h := by
    cases x with
    | finite q => exact isNumber_of_finite rfl
    | _ => exact h
  digest _ := ""

/-- Two places in the pool, one active symbol. -/
def sampleConstraints : UniverseConstraints Extended where
  minMarketCapUsd := none
  maxMarketCapUsd := none
  minVolume24hUsd := .finite 0
  candidatePoolTopNVolume := 2
  maxActiveSymbols := 1
  excludedSymbols := []
  maxEvidenceAgeSec := .finite 120
  maxSpreadPct := .finite (1 / 20)
  maxExpectedSlippagePct := .finite (1 / 20)
  maxAbsFundingRatePct := .finite (1 / 1000)
  minLiquidityScore := .finite (3 / 10)
  quoteAsset := "USDT"
  caps := by decide
  numbers := by decide +kernel
  capsOrdered := by simp
  topN_pos := by decide
  maxActive_pos := by decide
  maxActive_le := by decide
  minLiquidity_le := by decide +kernel
  excluded_symbols := by decide
  quote_asset := by decide

/-- A candidate with fresh evidence. -/
def sampleCandidate (symbol : String) (volatility : ℚ) : Payload Extended :=
  [("symbol", .text symbol), ("market_observed_at", .int 1000), ("volume_24h_usd", .int 0),
    ("spread_pct", .float (.finite (1 / 100))), ("volatility_pct", .float (.finite volatility))]

def sampleRequest : Request Extended := ⟨.int 1000, "paper", "", none⟩

/-- What is returned of a universe: its decisions less the evidence, and the selected symbols. -/
def summary (u : SelectedUniverse F) : List (String × EvidenceState × List String) × List String :=
  (u.candidates.map fun d => (d.symbol, d.state, d.reasons), u.selectedSymbols)

theorem sample_summary :
    (buildSelectedUniverse sampleHost sampleConstraints sampleRequest
      [sampleCandidate "AAAUSDT" 1, sampleCandidate "BBBUSDT" 2]).toOption.map summary =
      some ([("BBBUSDT", .eligible, []), ("AAAUSDT", .eligible, ["RANKED_BELOW_MAX_ACTIVE"])],
        ["BBBUSDT"]) := by
  decide +kernel

/-- The better of two candidates is selected. -/
theorem selection_correct_sample :
    ∃ u, buildSelectedUniverse sampleHost sampleConstraints sampleRequest
        [sampleCandidate "AAAUSDT" 1, sampleCandidate "BBBUSDT" 2] = .ok u ∧
      u.selectedSymbols = ["BBBUSDT"] ∧
      ∃ ts, timestampSeconds sampleHost sampleRequest.decisionTimestamp = some ts ∧
        Correct sampleHost sampleConstraints ts
          [sampleCandidate "AAAUSDT" 1, sampleCandidate "BBBUSDT" 2] u := by
  have h := sample_summary
  cases hu : buildSelectedUniverse sampleHost sampleConstraints sampleRequest
      [sampleCandidate "AAAUSDT" 1, sampleCandidate "BBBUSDT" 2] with
  | error e =>
    rw [hu] at h
    cases h
  | ok u =>
    rw [hu] at h
    have hsummary := Option.some.inj h
    exact ⟨u, rfl, congrArg Prod.snd hsummary, selection_correct sampleHost hu⟩

/-- **An ELIGIBLE candidate with a reason**: the other one. -/
theorem eligible_with_reason :
    ¬ ∀ u, buildSelectedUniverse sampleHost sampleConstraints sampleRequest
        [sampleCandidate "AAAUSDT" 1, sampleCandidate "BBBUSDT" 2] = .ok u →
      ∀ d ∈ u.candidates, d.state = .eligible ↔ d.reasons = [] := by
  intro hall
  have h := sample_summary
  cases hu : buildSelectedUniverse sampleHost sampleConstraints sampleRequest
      [sampleCandidate "AAAUSDT" 1, sampleCandidate "BBBUSDT" 2] with
  | error e =>
    rw [hu] at h
    cases h
  | ok u =>
    rw [hu] at h
    have hsummary := congrArg Prod.fst (Option.some.inj h)
    have hmem : ("AAAUSDT", EvidenceState.eligible, ["RANKED_BELOW_MAX_ACTIVE"]) ∈
        u.candidates.map fun d => (d.symbol, d.state, d.reasons) := by
      rw [show u.candidates.map (fun d => (d.symbol, d.state, d.reasons)) = _ from hsummary]
      simp
    obtain ⟨d, hd, heq⟩ := List.mem_map.mp hmem
    have hstate : d.state = .eligible := congrArg (fun t => t.2.1) heq
    have hreasons : d.reasons = ["RANKED_BELOW_MAX_ACTIVE"] := congrArg (fun t => t.2.2) heq
    have hnil := (hall u hu d hd).mp hstate
    rw [hnil] at hreasons
    cases hreasons

end AlphaForge.Universe
