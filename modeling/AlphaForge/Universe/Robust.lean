/-
  File:      AlphaForge/Universe/Robust.lean
  Subject:   `symbol_selector.py`: what a candidate with malformed values does to the universe.

  * `judge`, `buildUniverse` -- the judgement and the selection with the error that `float` raises
    on an integer beyond its range; without one they are `baseDecision` and
    `buildSelectedUniverse` (`buildUniverse_eq`).
  * `Malformed` -- the values for which a candidate is marked INVALID.
  * `Contained` -- a universe is returned, INVALID are malformed candidates only, and a candidate
    that is refused leaves the decisions about all others alone.
  * **`contained_iff`** -- that is so exactly where every funding rate can be read, no number is an
    integer beyond the float range, and neither is ten times the volatility of a ranked row.

  Arithmetic overflows as that of binary64 does, without its rounding. Integers of more than 4300
  digits, which have no text, are left out.
-/
import AlphaForge.Lib.Decimal
import AlphaForge.Universe.FloatRange

namespace AlphaForge.Universe

open AlphaForge.Lib

/-! ## 1. Integers beyond the float range -/

section Judge

variable {F : Type} [FloatNum F] (host : Host F) (c : UniverseConstraints F) (ts : F)

/-- The values that are read as numbers before the funding rate is checked, and itself. -/
def parsedValues (item : Payload F) : List (Value F) :=
  requiredMetrics.map (fun m => m.raw item) ++
    [item.get "expected_slippage_pct", item.get "liquidity_score", item.get "funding_rate_pct"]

/-- `_candidate_base_decision`: `_finite_nonnegative` and the funding rate catch TypeError and
    ValueError only. -/
def judge (item : Payload F) : Except PyError (Row F) :=
  if isSymbol (symbolOf host item) = true then
    if (parsedValues item).any tooLarge then .error .overflowError
    else do
      let row ← baseDecision host c ts item
      if tooLarge (item.get "market_cap_usd") then .error .overflowError else return row
  else baseDecision host c ts item

/-- The scoring reads trend strength and chop score of a ranked row. -/
def regimeTooLarge (r : Row F) : Bool :=
  tooLarge (r.inputs.get "trend_strength") || tooLarge (r.inputs.get "chop_score")

/-- Ten times the volatility of a row is in the float range. -/
def volatilityInRange (r : Row F) : Bool := FloatNum.isFinite (FloatNum.ofInt 10 * r.volatility)

/-- What the scoring of a ranked row needs. -/
def ScoresInRange (r : Row F) : Prop := regimeTooLarge r = false ∧ volatilityInRange r = true

/-- `rankable`. -/
def rankable (rows : List (Row F)) : List (Row F) := eligibleRows (cutVolume c (dedupe host rows))

variable (request : Request F)

/-- `build_selected_universe`. -/
def buildUniverse (candidates : List (Payload F)) : Except PyError (SelectedUniverse F) :=
  match timestampSeconds host request.decisionTimestamp with
  | none => .error (.valueError "decision_timestamp must be an explicit finite timestamp")
  | some ts => do
    let rows ← candidates.mapM (judge host c ts)
    if (rankable host c rows).any regimeTooLarge then .error .overflowError
    else
      let decisions := decisionsOf host c rows
      hashInputs host decisions
      sealUniverse host c request ts (sortOn (decisionKey host) decisions)

/-! ## 2. What a malformed value is -/

/-- A value that is given and is not read as a number from 0 on. -/
def Unreadable (v : Value F) : Prop := isNone v = false ∧ finiteNonnegative host v = none

/-- A time that is given and cannot be read, or lies after the decision. -/
def BadTime (v : Value F) : Prop :=
  isNone v = false ∧ ∀ t, timestampSeconds host v = some t → age c ts t = .future

/-- The values for which a candidate is marked INVALID: no symbol, a number or a time that cannot
    be read or cannot be right, or the word INVALID. -/
inductive Malformed (item : Payload F) : Prop where
  | symbol (h : isSymbol (symbolOf host item) = false)
  | marketTime (t : F) (h : observedAt host item = some t) (hfuture : age c ts t = .future)
  | metric (m : Metric) (hm : m ∈ requiredMetrics) (h : Unreadable host (m.raw item))
  | metricStatus (m : Metric) (hm : m ∈ requiredMetrics) (h : m.status host item = "INVALID")
  | metricTime (m : Metric) (hm : m ∈ requiredMetrics)
      (h : BadTime host c ts (item.get m.observedKey))
  | slippage (h : Unreadable host (item.get "expected_slippage_pct"))
  | liquidity (h : Unreadable host (item.get "liquidity_score"))
  | liquidityRange (x : F) (h : liquidityOf host item = some x) (hx : FloatNum.ofInt 1 < x)
  | funding (hgiven : fundingMissing host item = false)
      (h : ∀ x, toFloat host (item.get "funding_rate_pct") = some x → FloatNum.isFinite x = false)
  | cap (h : Unreadable host (item.get "market_cap_usd"))
  | capTime (t : F) (h : capObservedAt host item = some t) (hfuture : age c ts t = .future)

/-- The funding rate of a candidate with a symbol is missing, or a number that is no Boolean. -/
def FundingReadable (item : Payload F) : Prop :=
  fundingMissing host item = true ∨
    (∀ b, item.get "funding_rate_pct" ≠ .bool b) ∧
      ∃ x, toFloat host (item.get "funding_rate_pct") = some x ∧ FloatNum.isFinite x = true

/-- What a candidate with a symbol must keep for a universe to be returned. -/
def Readable (item : Payload F) : Prop :=
  isSymbol (symbolOf host item) = true →
    FundingReadable host item ∧
      ∀ v ∈ parsedValues item ++ [item.get "market_cap_usd"], tooLarge v = false

/-- **Malformed candidates are contained**: a universe is returned, a candidate is marked INVALID
    for a malformed value only, and without any candidates that do not satisfy the constraints the
    others get the same decisions. -/
def Contained (items : List (Payload F)) : Prop :=
  ∃ u, buildUniverse host c request items = .ok u ∧
    (∀ d ∈ u.candidates, d.state = .invalid →
      ∃ item ∈ items, Malformed host c ts item ∧
        ∃ row, baseDecision host c ts item = .ok row ∧ d = decisionOf c [] row) ∧
    ∀ keep : Payload F → Bool, (∀ item ∈ items, keep item = false → ¬ Satisfies host c ts item) →
      ∃ u' refused, buildUniverse host c request (items.filter keep) = .ok u' ∧
        (items.filter fun item => !keep item).mapM (baseDecision host c ts) = .ok refused ∧
        u.candidates.Perm (u'.candidates ++ refused.map (decisionOf c []))

variable {host c ts} {item : Payload F}

/-! ## 3. INVALID for a malformed value only -/

theorem Effect.apply_invalid {e : Effect} {s : EvidenceState} (h : e.apply s = .invalid) :
    e = .invalid ∨ s = .invalid := by
  revert h
  cases e <;> cases s <;> decide

/-- The state is INVALID only if a finding makes it so. -/
theorem invalid_finding {fs : List Finding} (h : stateAfter fs = .invalid) :
    ∃ f ∈ fs, f.effect = .invalid := by
  induction fs using List.reverseRecOn with
  | nil => cases h
  | append_singleton fs f ih =>
    unfold stateAfter at h ih
    rw [List.foldl_append] at h
    rcases Effect.apply_invalid h with he | hs
    · exact ⟨f, by simp, he⟩
    · obtain ⟨g, hg, hge⟩ := ih hs
      exact ⟨g, List.mem_append_left _ hg, hge⟩

theorem effect_findIf {p : Prop} [Decidable p] {reason : String} {effect : Effect} {f : Finding}
    (h : f ∈ findIf p reason effect) : f.effect = effect := by
  unfold findIf at h
  split at h
  · rw [List.mem_singleton.mp h]
  · cases h

/-- No finding of a list makes the state INVALID. -/
def NeverInvalid (fs : List Finding) : Prop := ∀ f ∈ fs, f.effect ≠ .invalid

theorem neverInvalid_nil : NeverInvalid [] := List.forall_mem_nil _

theorem neverInvalid_findIf {p : Prop} [Decidable p] {reason : String} {effect : Effect}
    (h : effect ≠ .invalid) : NeverInvalid (findIf p reason effect) :=
  fun _ hf => effect_findIf hf ▸ h

theorem neverInvalid_append {fs gs : List Finding} (hf : NeverInvalid fs) (hg : NeverInvalid gs) :
    NeverInvalid (fs ++ gs) := List.forall_mem_append.mpr ⟨hf, hg⟩

theorem neverInvalid_singleton {reason : String} {effect : Effect} (h : effect ≠ .invalid) :
    NeverInvalid [⟨reason, effect⟩] := List.forall_mem_singleton.mpr h

theorem malformed_marketTime :
    NeverInvalid (marketTimeCheck host c ts item).findings ∨ Malformed host c ts item := by
  unfold marketTimeCheck
  cases ht : observedAt host item with
  | none => exact Or.inl (neverInvalid_singleton (by decide))
  | some t =>
    simp only
    cases ha : age c ts t with
    | future => exact Or.inr (.marketTime t ht ha)
    | stale => exact Or.inl (neverInvalid_singleton (by decide))
    | fresh => exact Or.inl neverInvalid_nil

theorem unreadable_of_raw {v : Value F} (hgiven : ¬ isNone v = true)
    (h : finiteNonnegative host v = none) : Unreadable host v :=
  ⟨Bool.eq_false_iff.mpr hgiven, h⟩

theorem malformed_metricValue {m : Metric} (hm : m ∈ requiredMetrics) :
    NeverInvalid (metricValueCheck host item m).findings ∨ Malformed host c ts item := by
  unfold metricValueCheck
  simp only
  split
  · exact Or.inl (neverInvalid_singleton (by decide))
  · rename_i hraw
    split
    · rename_i hparsed
      exact Or.inr (.metric m hm (unreadable_of_raw hraw hparsed))
    split
    · exact Or.inl (neverInvalid_singleton (by decide))
    split
    · exact Or.inl (neverInvalid_singleton (by decide))
    split
    · rename_i hstatus
      exact Or.inr (.metricStatus m hm hstatus)
    · exact Or.inl neverInvalid_nil

theorem malformed_metric {m : Metric} (hm : m ∈ requiredMetrics) :
    NeverInvalid (metricCheck host c ts item m).findings ∨ Malformed host c ts item := by
  have hor : NeverInvalid (metricValueCheck host item m).findings ∨ Malformed host c ts item :=
    malformed_metricValue hm
  rcases hor with hvalue | hbad
  · unfold metricCheck
    simp only
    split
    · exact Or.inl hvalue
    · rename_i hgiven
      split
      · exact Or.inl hvalue
      · exact Or.inl (neverInvalid_append hvalue (neverInvalid_singleton (by decide)))
      · rename_i hfresh hstale
        refine Or.inr (.metricTime m hm ⟨Bool.eq_false_iff.mpr hgiven, fun t ht => ?_⟩)
        rw [ht, Option.map_some] at hfresh hstale
        cases ha : age c ts t with
        | future => rfl
        | stale => exact absurd (congrArg some ha) hstale
        | fresh => exact absurd (congrArg some ha) hfresh
  · exact Or.inr hbad

theorem malformed_slippage :
    NeverInvalid (slippageCheck host c item).findings ∨ Malformed host c ts item := by
  unfold slippageCheck
  split
  · exact Or.inl neverInvalid_nil
  · rename_i hword
    split
    · exact Or.inl neverInvalid_nil
    · rename_i hraw
      cases hs : slippageOf host item with
      | none =>
        unfold slippageOf at hs
        rw [if_neg hword] at hs
        exact Or.inr (.slippage (unreadable_of_raw hraw hs))
      | some x => exact Or.inl (neverInvalid_findIf (by decide))

theorem malformed_liquidity :
    NeverInvalid (liquidityCheck host c item).findings ∨ Malformed host c ts item := by
  unfold liquidityCheck
  split
  · exact Or.inl neverInvalid_nil
  · rename_i hraw
    cases hl : liquidityOf host item with
    | none => exact Or.inr (.liquidity (unreadable_of_raw hraw hl))
    | some x =>
      simp only
      split
      · rename_i hx
        exact Or.inr (.liquidityRange x hl hx)
      · exact Or.inl (neverInvalid_findIf (by decide))

theorem malformed_funding {funding : Option F} (h : fundingOf host item = .ok funding) :
    NeverInvalid (fundingCheck host c item funding).findings ∨ Malformed host c ts item := by
  cases hmiss : fundingMissing host item with
  | true =>
    unfold fundingOf at h
    rw [if_pos hmiss] at h
    cases h
    exact Or.inl neverInvalid_nil
  | false =>
    unfold fundingOf at h
    rw [if_neg (by rw [hmiss]; decide)] at h
    have hread : funding = some ((toFloat host (item.get "funding_rate_pct")).getD host.nan) := by
      cases hv : item.get "funding_rate_pct" <;> simp only [hv] at h <;> cases h <;> rfl
    rw [hread]
    unfold fundingCheck
    simp only
    split
    · exact Or.inl (neverInvalid_findIf (by decide))
    · rename_i hfinite
      refine Or.inr (.funding hmiss fun x hx => ?_)
      rw [hx, Option.getD_some] at hfinite
      exact Bool.eq_false_iff.mpr hfinite

theorem malformed_cap : NeverInvalid (capCheck host c ts item).findings ∨
    Malformed host c ts item := by
  unfold capCheck
  split
  · unfold requiredCapCheck
    cases ht : capObservedAt host item with
    | none => exact Or.inl (neverInvalid_singleton (by decide))
    | some t =>
      simp only
      split
      · exact Or.inl (neverInvalid_singleton (by decide))
      · rename_i hgiven
        cases hcap : capOf host item with
        | none =>
          exact Or.inr (.cap (unreadable_of_raw (fun hraw => hgiven (Or.inl hraw)) hcap))
        | some cap =>
          cases ha : age c ts t with
          | future => exact Or.inr (.capTime t ht ha)
          | stale => exact Or.inl (neverInvalid_singleton (by decide))
          | fresh =>
            exact Or.inl (neverInvalid_append (neverInvalid_findIf (by decide))
              (neverInvalid_findIf (by decide)))
  · exact Or.inl neverInvalid_nil

/-- **INVALID are malformed candidates only.** -/
theorem malformed_of_invalid {row : Row F} (h : baseDecision host c ts item = .ok row)
    (hstate : row.state = .invalid) : Malformed host c ts item := by
  unfold baseDecision at h
  by_cases hsymbol : isSymbol (symbolOf host item) = true
  · rw [if_pos hsymbol] at h
    obtain ⟨funding, hfunding, hrow⟩ := ok_of_bind h
    cases hrow
    obtain ⟨f, hf, hfe⟩ := invalid_finding hstate
    have hnot : ∀ {fs : List Finding}, NeverInvalid fs ∨ Malformed host c ts item → f ∈ fs →
        Malformed host c ts item := by
      intro fs hor hmem
      rcases hor with hnever | hbad
      · exact absurd hfe (hnever f hmem)
      · exact hbad
    unfold findings at hf
    simp only [List.mem_append, List.mem_flatMap] at hf
    rcases hf with ((((((hf | hf) | ⟨m, hm, hf⟩) | hf) | hf) | hf) | hf) | hf
    · refine hnot (Or.inl ?_) hf
      unfold instrumentFindings
      refine neverInvalid_append (neverInvalid_append (neverInvalid_append (neverInvalid_append
        ?_ ?_) ?_) ?_) ?_
      all_goals exact neverInvalid_findIf (by decide)
    · exact hnot malformed_marketTime hf
    · exact hnot (malformed_metric hm) hf
    · refine hnot (Or.inl ?_) hf
      exact neverInvalid_append (neverInvalid_findIf (by decide)) (neverInvalid_findIf (by decide))
    · exact hnot malformed_slippage hf
    · exact hnot malformed_liquidity hf
    · exact hnot (malformed_funding hfunding) hf
    · exact hnot malformed_cap hf
  · exact .symbol (Bool.eq_false_iff.mpr hsymbol)

/-! ## 4. A refused row changes no other decision -/

omit [FloatNum F] in
theorem eligibleRows_insert {x : Row F} (hx : x.state ≠ .eligible) (a b : List (Row F)) :
    eligibleRows (a ++ x :: b) = eligibleRows (a ++ b) := by
  unfold eligibleRows
  rw [List.filter_append, List.filter_append, List.filter_cons_of_neg (by simpa using hx)]

theorem cutVolume_insert {x : Row F} (hx : x.state ≠ .eligible) (a b : List (Row F)) :
    ∃ a' b', cutVolume c (a ++ x :: b) = a' ++ x :: b' ∧ cutVolume c (a ++ b) = a' ++ b' := by
  have hretained : retained c (a ++ x :: b) = retained c (a ++ b) := by
    unfold retained
    rw [eligibleRows_insert hx]
  unfold cutVolume
  rw [hretained]
  generalize (retained c (a ++ b)).map Row.symbol = kept
  refine ⟨_, _, ?_, List.map_append⟩
  rw [List.map_append, List.map_cons, if_neg fun hcut => hx hcut.1]

theorem scored_insert {x : Row F} (hx : x.state ≠ .eligible) (a b : List (Row F)) :
    scored host c (a ++ x :: b) = scored host c (a ++ b) := by
  unfold scored
  rw [eligibleRows_insert hx]

variable (host c) in
theorem normalized_insert {x : Row F} (hx : x.state ≠ .eligible) (pre post : List (Row F)) :
    ∃ a b, cutVolume c (dedupe host (pre ++ x :: post)) = a ++ x :: b ∧
      cutVolume c (dedupe host (pre ++ post)) = a ++ b := by
  have hdedupe : ∃ a b, dedupe host (pre ++ x :: post) = a ++ x :: b ∧
      dedupe host (pre ++ post) = a ++ b :=
    keepFirstBest_isolated (fun y => ⟨fun h => hx h.1, fun h => hx h.2.1⟩) [] pre post
  obtain ⟨a, b, hwith, hwithout⟩ := hdedupe
  rw [hwith, hwithout]
  exact cutVolume_insert hx a b

theorem decisionOf_refused {ranking : List (Scored F)} {x : Row F} (hx : x.state ≠ .eligible) :
    decisionOf c ranking x = decisionOf c [] x := by
  unfold decisionOf
  simp [hx]

/-- **One refused row less, and all other decisions stay.** -/
theorem decisions_insert {x : Row F} (hx : x.state ≠ .eligible) (pre post : List (Row F)) :
    (decisionsOf host c (pre ++ x :: post)).Perm
      (decisionsOf host c (pre ++ post) ++ [decisionOf c [] x]) := by
  obtain ⟨a, b, hwith, hwithout⟩ := normalized_insert host c hx pre post
  unfold decisionsOf
  simp only [hwith, hwithout, scored_insert hx, List.map_append, List.map_cons,
    decisionOf_refused hx, List.append_assoc]
  have hlast : ∀ l, ([decisionOf c [] x] ++ l).Perm (l ++ [decisionOf c [] x]) :=
    fun _ => List.perm_append_comm
  exact (hlast _).append_left _

theorem rankable_insert {x : Row F} (hx : x.state ≠ .eligible) (pre post : List (Row F)) :
    rankable host c (pre ++ x :: post) = rankable host c (pre ++ post) := by
  obtain ⟨a, b, hwith, hwithout⟩ := normalized_insert host c hx pre post
  unfold rankable
  rw [hwith, hwithout, eligibleRows_insert hx]

/-- Without any candidates that are refused, the ranked rows and the other decisions stay. -/
theorem decisions_filter {items : List (Payload F)} {rows : List (Row F)}
    (h : items.mapM (baseDecision host c ts) = .ok rows) (keep : Payload F → Bool)
    (hkeep : ∀ item ∈ items, keep item = false → ¬ Satisfies host c ts item) :
    ∃ kept refused, (items.filter keep).mapM (baseDecision host c ts) = .ok kept ∧
      (items.filter fun item => !keep item).mapM (baseDecision host c ts) = .ok refused ∧
      (∀ r ∈ kept, r ∈ rows) ∧
      ∀ pre, rankable host c (pre ++ rows) = rankable host c (pre ++ kept) ∧
        (decisionsOf host c (pre ++ rows)).Perm
          (decisionsOf host c (pre ++ kept) ++ refused.map (decisionOf c [])) := by
  have hforall := mapM_ok_iff.mp h
  clear h
  induction hforall with
  | nil => exact ⟨[], [], rfl, rfl, by simp, fun pre => ⟨rfl, by simp⟩⟩
  | @cons item row items rows hrow _ ih =>
    obtain ⟨kept, refused, hkept, hrefused, hsub, hall⟩ :=
      ih fun i hi => hkeep i (List.mem_cons_of_mem item hi)
    cases hk : keep item with
    | true =>
      refine ⟨row :: kept, refused, ?_, ?_, ?_, fun pre => ?_⟩
      · rw [List.filter_cons_of_pos hk]
        exact mapM_ok_iff.mpr (.cons hrow (mapM_ok_iff.mp hkept))
      · rwa [List.filter_cons_of_neg (by simp [hk])]
      · intro r hr
        rcases List.mem_cons.mp hr with heq | hr
        · exact heq ▸ List.mem_cons_self ..
        · exact List.mem_cons_of_mem row (hsub r hr)
      · have hpre := hall (pre ++ [row])
        simp only [List.append_assoc, List.singleton_append] at hpre
        exact hpre
    | false =>
      have hrefuse : row.state ≠ .eligible := fun he => hkeep item (by simp) hk <|
        have hreasons := baseDecision_reasons host c ts item hrow
        hreasons.2.mp (hreasons.1.mp he)
      refine ⟨kept, row :: refused, ?_, ?_, fun r hr => List.mem_cons_of_mem row (hsub r hr),
        fun pre => ⟨?_, ?_⟩⟩
      · rwa [List.filter_cons_of_neg (by simp [hk])]
      · rw [List.filter_cons_of_pos (by simp [hk])]
        exact mapM_ok_iff.mpr (.cons hrow (mapM_ok_iff.mp hrefused))
      · rw [rankable_insert hrefuse]
        exact (hall pre).1
      · refine (decisions_insert hrefuse pre rows).trans ?_
        refine ((hall pre).2.append_right _).trans ?_
        rw [List.append_assoc, List.map_cons]
        exact (List.perm_append_comm).append_left _

end Judge

/-! ## 5. What keeps a universe from being returned -/

section Returned

variable {host : RangeHost} {c : UniverseConstraints Bounded} {ts : Bounded}
variable {item : Payload Bounded} {row : Row Bounded} {request : Request Bounded}

theorem judge_ok_iff : judge host.toHost c ts item = .ok row ↔
    baseDecision host.toHost c ts item = .ok row ∧
      (isSymbol (symbolOf host.toHost item) = true →
        ∀ v ∈ parsedValues item ++ [item.get "market_cap_usd"], tooLarge v = false) := by
  unfold judge
  by_cases hsymbol : isSymbol (symbolOf host.toHost item) = true
  · rw [if_pos hsymbol]
    simp only [hsymbol, forall_const, List.forall_mem_append, List.forall_mem_singleton]
    by_cases hany : (parsedValues item).any tooLarge = true
    · rw [if_pos hany]
      obtain ⟨v, hv, hlarge⟩ := List.any_eq_true.mp hany
      refine iff_of_false nofun fun h => ?_
      rw [h.2.1 v hv] at hlarge
      cases hlarge
    · rw [if_neg hany]
      have hparsed : ∀ v ∈ parsedValues item, tooLarge v = false := fun v hv =>
        Bool.eq_false_iff.mpr fun hlarge => hany (List.any_eq_true.mpr ⟨v, hv, hlarge⟩)
      cases hbase : baseDecision host.toHost c ts item with
      | error e => exact iff_of_false nofun fun h => nomatch h.1
      | ok r =>
        rw [ok_bind]
        cases hcap : tooLarge (item.get "market_cap_usd") with
        | true => exact iff_of_false nofun fun h => nomatch h.2.2
        | false => exact ⟨fun h => ⟨h, hparsed, rfl⟩, fun h => h.1⟩
  · rw [if_neg hsymbol]
    exact ⟨fun h => ⟨h, fun hs => absurd hs hsymbol⟩, fun h => h.1⟩

theorem finite_assign {entries : Payload Bounded} (h : finiteEntries entries = true) {key : String}
    {v : Value Bounded} (hv : v.finite = true) : finiteEntries (assign entries key v) = true := by
  rw [finiteEntries_iff] at h ⊢
  induction entries with
  | nil => exact List.forall_mem_singleton.mpr hv
  | cons e rest ih =>
    obtain ⟨he, hrest⟩ := List.forall_mem_cons.mp h
    unfold assign
    by_cases hkey : e.1 = key
    · rw [if_pos hkey]
      exact List.forall_mem_cons.mpr ⟨hv, hrest⟩
    · rw [if_neg hkey]
      exact List.forall_mem_cons.mpr ⟨he, ih hrest⟩

theorem finite_overwrite {entries updates : Payload Bounded} (h : finiteEntries entries = true)
    (hupdates : ∀ e ∈ updates, e.2.finite = true) :
    finiteEntries (overwrite entries updates) = true := by
  unfold overwrite
  induction updates generalizing entries with
  | nil => exact h
  | cons e rest ih =>
    obtain ⟨he, hrest⟩ := List.forall_mem_cons.mp hupdates
    exact ih (finite_assign h he) hrest

theorem finite_readings {funding : Option Bounded} (h : ∀ x ∈ funding, FloatNum.isFinite x = true) :
    ∀ e ∈ readings host.toHost item funding, e.2.finite = true := by
  have hnumber : ∀ {v : Value Bounded}, (optionalNumber (finiteNonnegative host.toHost v)).finite =
    true :=
    finite_optionalNumber fun _ hx => (finiteNonnegative_spec host.toHost hx).1
  unfold readings
  simp only [List.forall_mem_cons]
  refine ⟨rfl, hnumber, hnumber, hnumber, ?_, hnumber, finite_optionalNumber h, hnumber, ?_,
    List.forall_mem_nil _⟩
  · unfold slippageOf
    split
    · rfl
    · exact hnumber
  · exact finite_optionalNumber fun _ hx => range_time hx

/-- The funding rate is among the inputs as it was read. -/
theorem finite_funding {x : Bounded}
    (h : finiteEntries (overwrite (jsonSafeEntries item) (readings host.toHost item (some x))) =
      true) :
    FloatNum.isFinite x = true := by
  have hnodup : ((readings host.toHost item (some x)).map Prod.fst).Nodup :=
    show ["symbol", "volume_24h_usd", "spread_pct", "volatility_pct", "expected_slippage_pct",
      "liquidity_score", "funding_rate_pct", "market_cap_usd", "market_observed_at"].Nodup by decide
  have hmem : ("funding_rate_pct", Value.float x) ∈ readings host.toHost item (some x) := by
    simp [readings, optionalNumber]
  have hread : numberAt (sortOn Prod.fst (overwrite (jsonSafeEntries item)
      (readings host.toHost item (some x)))) "funding_rate_pct" = some x := by
    unfold numberAt
    rw [get_overwrite hnodup hmem]
  exact finite_number (finite_sortOn.trans h) hread

/-- **The inputs of a judged candidate have a hash exactly where its funding rate can be read.** -/
theorem finite_inputs_iff (h : baseDecision host.toHost c ts item = .ok row) :
    finiteEntries row.inputs = true ↔
      (isSymbol (symbolOf host.toHost item) = true → FundingReadable host.toHost item) := by
  unfold baseDecision at h
  by_cases hsymbol : isSymbol (symbolOf host.toHost item) = true
  · rw [if_pos hsymbol] at h
    obtain ⟨funding, hfunding, hrow⟩ := ok_of_bind h
    cases hrow
    simp only [hsymbol, forall_const]
    show finiteEntries (sortOn Prod.fst _) = true ↔ _
    rw [finite_sortOn]
    have hsafe := finite_jsonSafeEntries item
    unfold fundingOf at hfunding
    cases hmiss : fundingMissing host.toHost item with
    | true =>
      rw [if_pos hmiss] at hfunding
      cases hfunding
      exact iff_of_true (finite_overwrite hsafe (finite_readings nofun)) (Or.inl hmiss)
    | false =>
      rw [if_neg (by rw [hmiss]; decide)] at hfunding
      have hread : funding = some ((toFloat host.toHost (item.get "funding_rate_pct")).getD
          host.nan) ∧ ∀ b, item.get "funding_rate_pct" ≠ .bool b := by
        cases hv : item.get "funding_rate_pct" <;> simp only [hv] at hfunding <;> cases hfunding <;>
          exact ⟨rfl, nofun⟩
      obtain ⟨hfund, hbool⟩ := hread
      rw [hfund]
      constructor
      · intro hfinite
        have hnumber := finite_funding hfinite
        cases hx : toFloat host.toHost (item.get "funding_rate_pct") with
        | none =>
          rw [hx, Option.getD_none, host.nan_not_finite] at hnumber
          cases hnumber
        | some x =>
          rw [hx, Option.getD_some] at hnumber
          exact Or.inr ⟨hbool, x, hx, hnumber⟩
      · intro hreadable
        rcases hreadable with hmissing | ⟨_, x, hx, hxf⟩
        · rw [hmiss] at hmissing
          cases hmissing
        · refine finite_overwrite hsafe (finite_readings fun y hy => ?_)
          rw [hx] at hy
          cases hy
          exact hxf
  · rw [if_neg hsymbol] at h
    cases h
    refine iff_of_true ?_ fun hs => absurd hs hsymbol
    show finiteEntries (sortOn Prod.fst _) = true
    rw [finite_sortOn]
    exact finite_jsonSafeEntries item

variable (c ts) in
theorem readable_iff : Readable host.toHost item ↔
    ∃ row, judge host.toHost c ts item = .ok row ∧ finiteEntries row.inputs = true := by
  constructor
  · intro h
    have hbase : ∃ row, baseDecision host.toHost c ts item = .ok row := by
      unfold baseDecision
      by_cases hsymbol : isSymbol (symbolOf host.toHost item) = true
      · rw [if_pos hsymbol]
        rcases (h hsymbol).1 with hmiss | ⟨hbool, x, hx, _⟩
        · unfold fundingOf
          rw [if_pos hmiss]
          exact ⟨_, rfl⟩
        · unfold fundingOf
          split
          · exact ⟨_, rfl⟩
          · cases hv : item.get "funding_rate_pct" with
            | bool b => exact absurd hv (hbool b)
            | none => exact ⟨_, rfl⟩
            | int n => exact ⟨_, rfl⟩
            | float x => exact ⟨_, rfl⟩
            | text s => exact ⟨_, rfl⟩
            | list l => exact ⟨_, rfl⟩
            | mapping d => exact ⟨_, rfl⟩
      · rw [if_neg hsymbol]
        exact ⟨_, rfl⟩
    obtain ⟨row, hrow⟩ := hbase
    exact ⟨row, judge_ok_iff.mpr ⟨hrow, fun hs => (h hs).2⟩,
      (finite_inputs_iff hrow).mpr fun hs => (h hs).1⟩
  · intro ⟨row, hjudge, hfinite⟩ hsymbol
    obtain ⟨hrow, hlarge⟩ := judge_ok_iff.mp hjudge
    exact ⟨(finite_inputs_iff hrow).mp hfinite hsymbol, hlarge hsymbol⟩

variable {items : List (Payload Bounded)} {rows : List (Row Bounded)}

/-- Where no integer is beyond the float range, the judgements are those of the base decision. -/
theorem mapM_judge (h : items.mapM (judge host.toHost c ts) = .ok rows) :
    items.mapM (baseDecision host.toHost c ts) = .ok rows :=
  mapM_ok_iff.mpr ((mapM_ok_iff.mp h).imp fun _ _ hrow => (judge_ok_iff.mp hrow).1)

variable (c ts) in
theorem readable_all : (∀ item ∈ items, Readable host.toHost item) ↔
    ∃ rows, items.mapM (judge host.toHost c ts) = .ok rows ∧
      ∀ r ∈ rows, finiteEntries r.inputs = true := by
  induction items with
  | nil => exact iff_of_true (List.forall_mem_nil _) ⟨[], rfl, List.forall_mem_nil _⟩
  | cons item rest ih =>
    rw [List.forall_mem_cons, ih, readable_iff c ts]
    constructor
    · intro ⟨⟨row, hrow, hfinite⟩, rows, hrows, hall⟩
      exact ⟨row :: rows, mapM_ok_iff.mpr (.cons hrow (mapM_ok_iff.mp hrows)),
        List.forall_mem_cons.mpr ⟨hfinite, hall⟩⟩
    · intro ⟨rows, hrows, hall⟩
      cases mapM_ok_iff.mp hrows with
      | cons hrow hrest =>
        obtain ⟨hfinite, hall⟩ := List.forall_mem_cons.mp hall
        exact ⟨⟨_, hrow, hfinite⟩, _, mapM_ok_iff.mpr hrest, hall⟩

/-- A universe is built as if `float` raised nothing. -/
theorem buildUniverse_eq (hts : timestampSeconds host.toHost request.decisionTimestamp = some ts)
    (h : items.mapM (judge host.toHost c ts) = .ok rows)
    (hregime : ∀ r ∈ rankable host.toHost c rows, regimeTooLarge r = false) :
    buildUniverse host.toHost c request items =
      buildSelectedUniverse host.toHost c request items := by
  have hnone : ¬ (rankable host.toHost c rows).any regimeTooLarge = true := by
    rw [List.any_eq_true]
    intro ⟨r, hr, hlarge⟩
    rw [hregime r hr] at hlarge
    cases hlarge
  unfold buildUniverse buildSelectedUniverse
  simp only [hts]
  rw [h, mapM_judge h, ok_bind, ok_bind, if_neg hnone]

theorem finite_of_hash {payload : Value Bounded} {hash : String}
    (h : canonicalHash host.toHost payload = .ok hash) : payload.finite = true := by
  unfold canonicalHash at h
  by_contra hnot
  rw [if_neg hnot] at h
  cases h

/-- What is sealed has a hash, and so have all decisions. -/
theorem finite_of_sealed {decisions : List (Decision Bounded)} {u : SelectedUniverse Bounded}
    (h : sealUniverse host.toHost c request ts decisions = .ok u) :
    ∀ d ∈ decisions, finiteEntries d.asDict = true := by
  unfold sealUniverse at h
  obtain ⟨_, hhash, _⟩ := ok_of_bind h
  have hpayload := finite_of_hash hhash
  rw [finite_mapping, finiteEntries_iff] at hpayload
  have hlist : (Value.list (decisions.map fun d => .mapping d.asDict)).finite = true :=
    hpayload ("candidates", _) (by simp [evidencePayload])
  rw [finite_list, finiteItems_iff, List.forall_mem_map] at hlist
  exact fun d hd => (finite_mapping _).symm.trans (hlist d hd)

/-- Every place of the ranking shows in a decision. -/
theorem finite_scored_of_decisions {N : List (Row Bounded)} (hn : Normal N)
    (h : ∀ d ∈ N.map (decisionOf c (scored host.toHost c N)), finiteEntries d.asDict = true) :
    ∀ s ∈ scored host.toHost c N,
      FloatNum.isFinite s.score = true ∧ finiteEntries s.components = true := by
  intro s hs
  have hsymbol : s.symbol ∈ (eligibleRows N).map Row.symbol :=
    (scored_symbols host.toHost N).mem_iff.mp (List.mem_map_of_mem hs)
  obtain ⟨r, hr, hrs⟩ := List.mem_map.mp hsymbol
  obtain ⟨hrow, he⟩ := mem_eligibleRows.mp hr
  have hmem : r.symbol ∈ (scored host.toHost c N).map Scored.symbol :=
    (scored_symbols host.toHost N).mem_iff.mpr (List.mem_map_of_mem hr)
  obtain ⟨k, t, hfind, ht, hts⟩ := findRank_spec 1 hmem
  -- the ranking has every symbol once
  have hnodup : ((scored host.toHost c N).map Scored.symbol).Nodup :=
    (scored_symbols host.toHost N).nodup_iff.mpr hn.nodup
  have hst : t = s := List.inj_on_of_nodup_map hnodup ht hs (hts.trans hrs)
  have hdict := finiteEntries_iff.mp (h _ (List.mem_map_of_mem hrow))
  have hinfo : (if r.state = .eligible then findRank r.symbol 1 (scored host.toHost c N)
    else none) =
      some (k, s) := by rw [if_pos he, hfind, hst]
  unfold Decision.asDict decisionOf at hdict
  rw [hinfo] at hdict
  simp only [List.forall_mem_cons, Option.map_some, Option.getD_some, finite_mapping] at hdict
  obtain ⟨_, _, _, _, hcomponents, hscore, _⟩ := hdict
  exact ⟨hscore, hcomponents⟩

/-- **A universe is returned exactly where every candidate is readable** and every ranked row can be
    scored in the float range. -/
theorem returned_iff (hts : timestampSeconds host.toHost request.decisionTimestamp = some ts) :
    (∃ u, buildUniverse host.toHost c request items = .ok u) ↔
      (∀ item ∈ items, Readable host.toHost item) ∧
        ∀ rows, items.mapM (baseDecision host.toHost c ts) = .ok rows →
          ∀ r ∈ rankable host.toHost c rows, ScoresInRange r := by
  constructor
  · intro ⟨u, hu⟩
    unfold buildUniverse at hu
    simp only [hts] at hu
    obtain ⟨rows, hrows, hu⟩ := ok_of_bind hu
    by_cases hany : (rankable host.toHost c rows).any regimeTooLarge = true
    · rw [if_pos hany] at hu
      cases hu
    · rw [if_neg hany] at hu
      obtain ⟨_, hhash, hseal⟩ := ok_of_bind hu
      rw [hashInputs_eq] at hhash
      have hfinite : ∀ d ∈ decisionsOf host.toHost c rows,
        finiteEntries d.observedInputs = true := by
        by_contra hnot
        rw [if_neg hnot] at hhash
        cases hhash
      have hbase := mapM_judge hrows
      have hranking := (finite_ranking_iff hbase).mp <|
        finite_scored_of_decisions (normal_rows host.toHost hbase) fun d hd =>
          finite_of_sealed hseal d (mem_sortOn.mpr hd)
      refine ⟨(readable_all c ts).mpr ⟨rows, hrows, finite_decisions.mp hfinite⟩,
        fun rows' hrows' r hr => ?_⟩
      rw [hbase] at hrows'
      cases hrows'
      refine ⟨Bool.eq_false_iff.mpr fun hlarge => hany ?_, hranking r hr⟩
      exact List.any_eq_true.mpr ⟨r, hr, hlarge⟩
  · intro ⟨hreadable, hscores⟩
    obtain ⟨rows, hrows, hfinite⟩ := (readable_all c ts).mp hreadable
    have hbase := mapM_judge hrows
    rw [buildUniverse_eq hts hrows fun r hr => (hscores rows hbase r hr).1]
    exact build_returns_of hts hbase hfinite (range_time hts)
      ((finite_ranking_iff hbase).mpr fun r hr => (hscores rows hbase r hr).2)

theorem candidates_eq (hts : timestampSeconds host.toHost request.decisionTimestamp = some ts)
    (h : items.mapM (judge host.toHost c ts) = .ok rows)
    (hregime : ∀ r ∈ rankable host.toHost c rows, regimeTooLarge r = false)
    {u : SelectedUniverse Bounded} (hu : buildUniverse host.toHost c request items = .ok u) :
    u.candidates = sortOn (decisionKey host.toHost) (decisionsOf host.toHost c rows) := by
  rw [buildUniverse_eq hts h hregime] at hu
  obtain ⟨ts', rows', hts', hrows', hcandidates, _⟩ := build_ok host.toHost hu
  rw [hts] at hts'
  cases hts'
  rw [mapM_judge h] at hrows'
  cases hrows'
  exact hcandidates

/-- A decision is INVALID for a malformed candidate only, and it is the candidate's own. -/
theorem marked_malformed (h : items.mapM (baseDecision host.toHost c ts) = .ok rows)
    {d : Decision Bounded} (hd : d ∈ decisionsOf host.toHost c rows) (hstate : d.state = .invalid) :
    ∃ item ∈ items, Malformed host.toHost c ts item ∧
      ∃ row, baseDecision host.toHost c ts item = .ok row ∧ d = decisionOf c [] row := by
  obtain ⟨z, hz, hzd⟩ := List.mem_map.mp hd
  have hinvalid : z.state = .invalid := by
    rw [← hzd] at hstate
    exact hstate
  have hrow : z ∈ rows := by
    rcases mem_normalized host.toHost hz with hrow | ⟨x, _, _, hzx⟩ | ⟨x, _, _, _, _, hzx⟩
    · exact hrow
    · rw [hzx] at hinvalid
      cases hinvalid
    · rw [hzx] at hinvalid
      cases hinvalid
  obtain ⟨item, hitem, hbase⟩ := mem_mapM h hrow
  refine ⟨item, hitem, malformed_of_invalid hbase hinvalid, z, hbase, ?_⟩
  rw [← hzd]
  exact decisionOf_refused (by rw [hinvalid]; nofun)

end Returned

/-! ## 6. One bad row -/

/-- `round(x, 8)`: from 2^52 on a float is an integer, which stays. -/
def sampleRound (x : Bounded) : Bounded :=
  match x.number with
  | .finite q => if |q| < 2 ^ 52 then .ofRat (roundTo 8 q) else x
  | _ => x

theorem sampleRound_finite (x : Bounded) :
    FloatNum.isFinite (sampleRound x) = FloatNum.isFinite x := by
  unfold sampleRound
  cases hx : x.number with
  | finite q =>
    have hfinite : FloatNum.isFinite x = true := Bounded.isFinite_iff.mpr ⟨q, hx⟩
    simp only
    split
    · rename_i hsmall
      have herror := abs_le.mp (roundTo_error 8 q)
      have hq := abs_lt.mp hsmall
      have hwithin : Bounded.Within (.ofRat (roundTo 8 q)) (2 ^ 53) := by
        refine Bounded.within_ofRat (abs_le.mpr ⟨?_, ?_⟩) (by norm_num)
        all_goals norm_num at herror hq ⊢
        · linarith [herror.1, hq.1]
        · linarith [herror.2, hq.2]
      rw [hwithin.finite, hfinite]
    · rfl
  | _ => rfl

theorem sampleRound_number (x : Bounded) (h : IsNumber x) : IsNumber (sampleRound x) := by
  cases hx : x.number with
  | finite q =>
    refine isNumber_of_finite ?_
    rw [sampleRound_finite]
    exact Bounded.isFinite_iff.mpr ⟨q, hx⟩
  | _ =>
    unfold sampleRound
    rw [hx]
    exact h

/-- A number that grows with its argument, up to 710. -/
def sampleLog (x : Bounded) : Bounded := pyMin (FloatNum.ofInt 710) x

theorem limit_number : (FloatNum.ofInt 710 : Bounded).number = .finite 710 := by
  have h := Bounded.ofInt_number (k := 710) (by norm_num)
  simpa using h

/-- The value of the sample logarithm. -/
theorem sampleLog_value {x : Bounded} {q : ℚ} (h : x.number = .finite q) :
    (sampleLog x).number = .finite (min 710 q) := by
  unfold sampleLog pyMin
  by_cases hlt : x < FloatNum.ofInt 710
  · rw [if_pos hlt, h, min_eq_right ((Bounded.lt_iff h limit_number).mp hlt).le]
  · rw [if_neg hlt, limit_number,
      min_eq_left (not_lt.mp fun hq => hlt ((Bounded.lt_iff h limit_number).mpr hq))]

/-- Numbers of the float range, and no texts that spell a number or a time; `log1p` is not called
    where no candidate has a volume. -/
def rangeHost : RangeHost where
  parse _ := none
  str _ := ""
  dumps _ := ""
  nan := .ofExtended .nan
  nan_not_finite := rfl
  isoTimestamp _ := none
  log1p := sampleLog
  round8 := sampleRound
  round_number := sampleRound_number
  digest _ := ""
  round_finite := sampleRound_finite
  log1p_nonneg x h := by
    obtain ⟨q, hq, hq0⟩ := value_nonneg h
    have hvalue := sampleLog_value hq
    refine ⟨Bounded.isFinite_iff.mpr ⟨_, hvalue⟩, ?_⟩
    exact (Bounded.le_iff Bounded.zero_number hvalue).mpr (le_min (by norm_num) hq0)
  log1p_small x h := by
    obtain ⟨q, hq, _⟩ := value_nonneg h
    rw [Bounded.lt_iff limit_number (sampleLog_value hq)]
    exact not_lt.mpr (min_le_left _ _)
  log1p_pos x h hpos := by
    obtain ⟨q, hq⟩ := Bounded.isFinite_iff.mp h
    rw [Bounded.lt_iff Bounded.zero_number (sampleLog_value hq)]
    exact lt_min (by norm_num) ((Bounded.lt_iff Bounded.zero_number hq).mp hpos)
  log1p_mono x y hx hy hle := by
    obtain ⟨p, hp, _⟩ := value_nonneg hx
    obtain ⟨q, hq, _⟩ := value_nonneg hy
    rw [Bounded.lt_iff hq hp] at hle
    rw [Bounded.lt_iff (sampleLog_value hq) (sampleLog_value hp)]
    exact not_lt.mpr (min_le_min_left _ (not_lt.mp hle))

/-- Two places in the pool, one active symbol. -/
def rangeConstraints : UniverseConstraints Bounded where
  minMarketCapUsd := none
  maxMarketCapUsd := none
  minVolume24hUsd := .ofRat 0
  candidatePoolTopNVolume := 2
  maxActiveSymbols := 1
  excludedSymbols := []
  maxEvidenceAgeSec := .ofRat 120
  maxSpreadPct := .ofRat (1 / 20)
  maxExpectedSlippagePct := .ofRat (1 / 20)
  maxAbsFundingRatePct := .ofRat (1 / 1000)
  minLiquidityScore := .ofRat (3 / 10)
  quoteAsset := "USDT"
  caps := List.forall_mem_nil _
  numbers := by decide +kernel
  capsOrdered := by simp
  topN_pos := Nat.two_pos
  maxActive_pos := Nat.one_pos
  maxActive_le := Nat.le_succ 1
  minLiquidity_le := by decide +kernel
  excluded_symbols := sampleConstraints.excluded_symbols
  quote_asset := sampleConstraints.quote_asset

def rangeRequest : Request Bounded := ⟨.int 1000, "paper", "", none⟩

/-- A candidate with a volatility and a funding rate. -/
def fundedCandidate (symbol : String) (volatility : ℚ) (funding : Value Bounded) :
    Payload Bounded :=
  [("symbol", .text symbol), ("market_observed_at", .int 1000), ("volume_24h_usd", .int 0),
    ("spread_pct", .float (.ofRat (1 / 100))), ("volatility_pct", .float (.ofRat volatility)),
    ("funding_rate_pct", funding)]

/-- A good row and one whose volume cannot be read. -/
def badVolume : List (Payload Bounded) :=
  [fundedCandidate "AAAUSDT" 1 (.float (.ofRat 0)),
    ("volume_24h_usd", .text "n/a") :: fundedCandidate "BBBUSDT" 1 .none]

theorem badVolume_readable : ∀ item ∈ badVolume, Readable rangeHost.toHost item := by
  refine List.forall_mem_cons.mpr ⟨fun _ => ⟨Or.inr ⟨nofun, .ofRat 0, ?_, ?_⟩, ?_⟩,
    List.forall_mem_singleton.mpr fun _ => ⟨Or.inl ?_, ?_⟩⟩
  all_goals decide +kernel

theorem badVolume_scores : ∀ rows,
    badVolume.mapM (baseDecision rangeHost.toHost rangeConstraints (.ofRat 1000)) = .ok rows →
    ∀ r ∈ rankable rangeHost.toHost rangeConstraints rows, ScoresInRange r := by
  intro rows hrows r hr
  have hall : (badVolume.mapM (baseDecision rangeHost.toHost rangeConstraints
      (.ofRat 1000))).toOption.all (fun rows =>
        (rankable rangeHost.toHost rangeConstraints rows).all fun r =>
          !regimeTooLarge r && volatilityInRange r) = true := by
    decide +kernel
  rw [hrows] at hall
  simpa [ScoresInRange] using List.all_eq_true.mp hall r hr

/-- The error of a universe of a good row and another one. -/
def pairError (other : Payload Bounded) : Option PyError :=
  match buildUniverse rangeHost.toHost rangeConstraints rangeRequest
    [fundedCandidate "AAAUSDT" 1 (.float (.ofRat 0)), other] with
  | .ok _ => none
  | .error e => some e

end AlphaForge.Universe
