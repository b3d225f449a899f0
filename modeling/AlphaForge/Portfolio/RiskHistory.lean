/-
  File:      AlphaForge/Portfolio/RiskHistory.lean
  Subject:   What a complete risk state of a campaign says, and where its fold order is the order
             of the closing instants.

  * `complete_iff` -- a report lacks nothing exactly where the campaign is `Consistent`.
  * `report_complete` -- then its values are the fold of the outcomes in the order of the query.
  * `Faithful` -- the meaning: a consistent campaign folded in the order of its closing instants,
    or a report without any value.
  * **`faithful_exactly`** -- whatever the trades earned, the report is faithful, exactly where the
    textual order of the closing times is no other than that of their instants.
  * `fraction_before_whole` -- two texts of one second, one with a fraction, that are folded the
    wrong way round.
-/
import AlphaForge.Lib.CheckedFold
import AlphaForge.Portfolio.RiskState
import Mathlib.Data.List.Permutation

namespace AlphaForge.Portfolio

open AlphaForge.Lib

/-! ## 1. Consistent campaigns -/

/-- An accepted trade of the campaign, entered and OPEN or CLOSED. -/
structure AcceptedRow.Consistent (campaignId : String) (now : ℤ) (a : AcceptedRow) : Prop where
  named : a.tradeId ≠ ""
  lineage : a.lineageCampaignId.getD "" = campaignId
  symbol : upper a.symbol ≠ ""
  entered : ∃ entry, portfolioRiskDt a.entryTime = some entry ∧ entry ≤ now
  status : upper a.status = "CLOSED" ∨ upper a.status = "OPEN"

/-- A complete outcome of a closed trade. -/
def OutcomeRow.Settles {F : Type} [FloatNum F] (accepted : List AcceptedRow) (now : ℤ)
    (o : OutcomeRow F) : Prop :=
  ∃ a ∈ accepted, a.tradeId = o.trade ∧ upper a.status = "CLOSED" ∧
    a.pendingEvidenceComplete = 1 ∧ upper a.symbol = o.symbolU ∧ a.burninRunId = o.burninRunId ∧
    o.evidenceComplete = 1 ∧
    ∃ entry closed netPnl, portfolioRiskDt a.entryTime = some entry ∧
      portfolioRiskDt o.closedAt = some closed ∧ o.netPnl = some netPnl ∧ entry ≤ closed ∧
      closed ≤ now ∧ FloatNum.isFinite netPnl = true

/-- Every accepted trade is OPEN, or CLOSED with exactly one complete outcome. -/
structure Consistent {F : Type} [FloatNum F] (initial : Option F) (campaignId : String) (now : ℤ)
    (accepted : List AcceptedRow) (outcomes : List (OutcomeRow F)) : Prop where
  equity : ∃ e, initial = some e ∧ FloatNum.isFinite e = true ∧ FloatNum.ofInt 0 < e
  trades : ∀ a ∈ accepted, a.Consistent campaignId now
  tradeIds : (accepted.map (·.tradeId)).Nodup
  settled : ∀ o ∈ outcomes, o.Settles accepted now
  outcomeIds : (outcomes.map (·.trade)).Nodup
  closed : ∀ a ∈ accepted, upper a.status = "CLOSED" → ∃ o ∈ outcomes, o.trade = a.tradeId

theorem perm_orderBy {α : Type} (time : α → StoredTime) (id : α → ℕ) (rows : List α) :
    (orderBy time id rows).Perm rows :=
  List.perm_insertionSort _ rows

/-! ## 2. The loop over the accepted trades -/

theorem entered_eq_none {a : AcceptedRow} {now : ℤ} :
    a.entered now = none ↔ ¬ ∃ entry, portfolioRiskDt a.entryTime = some entry ∧ entry ≤ now := by
  unfold AcceptedRow.entered
  rcases portfolioRiskDt a.entryTime with _ | entry
  · refine ⟨fun _ hsome => ?_, fun _ => rfl⟩
    obtain ⟨_, hentry, _⟩ := hsome
    cases hentry
  · by_cases h : now < entry
    · simp only [if_pos h, true_iff]
      intro ⟨other, heq, hle⟩
      cases heq
      omega
    · simp only [if_neg h, reduceCtorEq, false_iff, not_not]
      exact ⟨entry, rfl, by omega⟩

theorem append_eq_nil₄ {α : Type} {a b c d : List α} :
    a ++ b ++ c ++ d = [] ↔ a = [] ∧ b = [] ∧ c = [] ∧ d = [] := by
  simp only [List.append_eq_nil_iff, and_assoc]

theorem faults_eq_nil {a : AcceptedRow} {campaignId : String} {now : ℤ} :
    a.tradeId ≠ "" ∧ a.faults campaignId now = [] ↔ a.Consistent campaignId now := by
  unfold AcceptedRow.faults
  dsimp only
  rw [append_eq_nil₄]
  constructor
  · intro ⟨hnamed, hlineage, hsymbol, hentered, hstatus⟩
    refine ⟨hnamed, ?_, ?_, ?_, ?_⟩
    · by_contra h
      rw [if_neg h] at hlineage
      cases hlineage
    · intro h
      rw [if_pos h] at hsymbol
      cases hsymbol
    · by_contra h
      rw [if_pos (entered_eq_none.mpr h)] at hentered
      cases hentered
    · by_contra h
      rw [if_neg h] at hstatus
      cases hstatus
  · intro h
    exact ⟨h.named, if_pos h.lineage, if_neg h.symbol,
      if_neg fun hnone => entered_eq_none.mp hnone h.entered, if_pos h.status⟩

section Accepted

variable {campaignId symbol : String} {now : ℤ}

/-- What one clean round keeps. -/
theorem acceptRow_clean {st : AcceptedState} {a : AcceptedRow} :
    (acceptRow campaignId symbol now st a).missing = [] ↔
      st.missing = [] ∧ a.Consistent campaignId now ∧ a.tradeId ∉ st.kept.map (·.tradeId) := by
  rw [← faults_eq_nil]
  unfold acceptRow
  split
  · rename_i hempty
    simp only [List.append_eq_nil_iff, reduceCtorEq, and_false, hempty, ne_eq, not_true_eq_false,
      false_and]
  split
  · rename_i hmem
    simp only [List.append_eq_nil_iff, reduceCtorEq, and_false, hmem, not_true_eq_false]
  · rename_i hnamed hfresh
    simp only [List.append_eq_nil_iff]
    exact ⟨fun h => ⟨h.1, ⟨hnamed, h.2⟩, hfresh⟩, fun h => ⟨h.1, h.2.1.2⟩⟩

/-- The trade was entered on the day of `now`. -/
def enteredToday (now : ℤ) (a : AcceptedRow) : Bool :=
  (a.entered now).map dayOf = some (dayOf now)

theorem acceptRow_kept {st : AcceptedState} {a : AcceptedRow}
    (h : (acceptRow campaignId symbol now st a).missing = []) :
    (acceptRow campaignId symbol now st a).kept = st.kept ++ [a] ∧
      (acceptRow campaignId symbol now st a).tradesTodayGlobal =
        st.tradesTodayGlobal + (if enteredToday now a then 1 else 0) ∧
      (acceptRow campaignId symbol now st a).tradesTodaySymbol =
        st.tradesTodaySymbol +
          (if enteredToday now a ∧ upper a.symbol = upper symbol then 1 else 0) := by
  obtain ⟨_, hconsistent, hfresh⟩ := acceptRow_clean.mp h
  unfold acceptRow enteredToday
  rw [if_neg hconsistent.named, if_neg hfresh]
  refine ⟨rfl, ?_, ?_⟩ <;> simp only [decide_eq_true_eq]

theorem acceptRow_checks :
    ChecksKeys (acceptRow campaignId symbol now) (·.missing = [])
      (fun st => st.kept.map (·.tradeId))
      (·.tradeId) (·.Consistent campaignId now) :=
  { clean_iff := fun _ _ => acceptRow_clean
    known_eq := fun _ _ h => by
      rw [(acceptRow_kept h).1, List.map_append]
      rfl }

/-- After a clean loop every row is kept and counted. -/
theorem foldl_acceptRow_kept {rows : List AcceptedRow} {missing : List String}
    (h : (rows.foldl (acceptRow campaignId symbol now) (AcceptedState.start missing)).missing =
    []) :
    (rows.foldl (acceptRow campaignId symbol now) (AcceptedState.start missing)).kept = rows ∧
      (rows.foldl (acceptRow campaignId symbol now)
          (AcceptedState.start missing)).tradesTodayGlobal = rows.countP (enteredToday now ·) ∧
      (rows.foldl (acceptRow campaignId symbol now)
          (AcceptedState.start missing)).tradesTodaySymbol =
        rows.countP (fun a => enteredToday now a ∧ upper a.symbol = upper symbol) := by
  have hcount (p : AcceptedRow → Bool) (rows : List AcceptedRow) (n : ℕ) :
      rows.foldl (fun n a => n + if p a then 1 else 0) n = n + rows.countP p := by
    induction rows generalizing n with
    | nil => rfl
    | cons a rows ih =>
      rw [List.foldl_cons, ih, List.countP_cons]
      omega
  have hrows := foldl_clean_eq acceptRow_checks (·.kept) (fun kept a => kept ++ [a])
    (fun _ _ hc => (acceptRow_kept hc).1) rows _ h
  have hglobal := foldl_clean_eq acceptRow_checks (·.tradesTodayGlobal)
    (fun n a => n + if enteredToday now a then 1 else 0) (fun _ _ hc => (acceptRow_kept hc).2.1)
    rows _ h
  have hsymbol := foldl_clean_eq acceptRow_checks (·.tradesTodaySymbol)
    (fun n a => n + if decide (enteredToday now a ∧ upper a.symbol = upper symbol) then 1 else 0)
    (fun _ _ hc => by rw [(acceptRow_kept hc).2.2]; simp only [decide_eq_true_eq]) rows _ h
  refine ⟨hrows.trans ?_, hglobal.trans ?_, hsymbol.trans ?_⟩
  · rw [List.foldl_append_eq_append, ← List.flatMap_def, List.flatMap_singleton']
    rfl
  · exact (hcount (enteredToday now ·) rows 0).trans (Nat.zero_add _)
  · exact (hcount _ rows 0).trans (Nat.zero_add _)

end Accepted

/-! ## 3. The loop over the outcomes -/

section Outcomes

variable {F : Type} [FloatNum F] {symbol : String} {kept : List AcceptedRow} {now : ℤ}

theorem settles_named {o : OutcomeRow F} {campaignId : String}
    (hall : ∀ a ∈ kept, a.Consistent campaignId now) (h : o.Settles kept now) : o.trade ≠ "" := by
  obtain ⟨a, ha, hid, _⟩ := h
  exact hid ▸ (hall a ha).named

theorem find_of_nodup {a : AcceptedRow} {tradeId : String}
    (hnodup : (kept.map (·.tradeId)).Nodup) (ha : a ∈ kept) (hid : a.tradeId = tradeId) :
    kept.find? (·.tradeId = tradeId) = some a := by
  induction kept with
  | nil => cases ha
  | cons b rest ih =>
    obtain ⟨hnew, hnodup⟩ := List.nodup_cons.mp hnodup
    rcases List.mem_cons.mp ha with rfl | ha
    · exact List.find?_cons_of_pos (decide_eq_true hid)
    · have hne : b.tradeId ≠ tradeId := fun heq =>
        hnew (List.mem_map.mpr ⟨a, ha, hid.trans heq.symm⟩)
      rw [List.find?_cons_of_neg (by rw [decide_eq_true_eq]; exact hne)]
      exact ih hnodup ha

/-- A row that passes the checks of the second loop settles a trade that nothing settled yet. -/
theorem checkedOutcome_isSome {campaignId : String} {outcomeIds : List String} {o : OutcomeRow F}
    (hall : ∀ a ∈ kept, a.Consistent campaignId now) (hnodup : (kept.map (·.tradeId)).Nodup) :
    checkedOutcome kept outcomeIds now o ≠ none ↔ o.Settles kept now ∧ o.trade ∉ outcomeIds := by
  constructor
  · intro h
    unfold checkedOutcome at h
    split at h
    · rename_i a closed netPnl hfind hclosed hpnl
      split at h
      · rename_i entry hentry
        split at h
        · rename_i hchecks
          obtain ⟨_, hfresh, hstatus, hpending, hsymbol, hrun, hcomplete, hafter, hpast, hfinite⟩ :=
            hchecks
          have hid : a.tradeId = o.trade := by
            have hfound := List.find?_some hfind
            exact of_decide_eq_true hfound
          exact ⟨⟨a, List.mem_of_find?_eq_some hfind, hid, hstatus, hpending, hsymbol, hrun,
            hcomplete, entry, closed, netPnl, hentry, hclosed, hpnl, hafter, hpast, hfinite⟩,
            hfresh⟩
        · exact absurd rfl h
      · exact absurd rfl h
    · exact absurd rfl h
  · intro ⟨hsettles, hfresh⟩
    have hnamed := settles_named hall hsettles
    obtain ⟨a, ha, hid, hstatus, hpending, hsymbol, hrun, hcomplete, entry, closed, netPnl, hentry,
      hclosed, hpnl, hafter, hpast, hfinite⟩ := hsettles
    unfold checkedOutcome
    simp only [find_of_nodup hnodup ha hid, hclosed, hpnl, hentry]
    rw [if_pos ⟨hnamed, hfresh, hstatus, hpending, hsymbol, hrun, hcomplete, hafter, hpast,
      hfinite⟩]
    exact Option.some_ne_none _

/-- The closing instant of an outcome. -/
def closingInstant (o : OutcomeRow F) : ℤ := (portfolioRiskDt o.closedAt).getD 0

/-- One outcome of a history. -/
def Realized.addRow (symbol : String) (now : ℤ) (r : Realized F) (o : OutcomeRow F) : Realized F :=
  r.add symbol now (closingInstant o) (o.netPnl.getD (FloatNum.ofInt 0)) o

theorem checkedOutcome_eq {outcomeIds : List String} {o : OutcomeRow F} {closed : ℤ} {netPnl : F}
    (h : checkedOutcome kept outcomeIds now o = some (closed, netPnl)) :
    closingInstant o = closed ∧ o.netPnl.getD (FloatNum.ofInt 0) = netPnl := by
  unfold checkedOutcome at h
  split at h
  · rename_i hclosed hpnl
    split at h
    · split at h
      · cases h
        exact ⟨by rw [closingInstant, hclosed]; rfl, by rw [hpnl]; rfl⟩
      · cases h
    · cases h
  · cases h

theorem realizeRow_clean {campaignId : String} {st : OutcomeState F} {o : OutcomeRow F}
    (hall : ∀ a ∈ kept, a.Consistent campaignId now) (hnodup : (kept.map (·.tradeId)).Nodup) :
    (realizeRow symbol kept now st o).missing = [] ↔
      st.missing = [] ∧ o.Settles kept now ∧ o.trade ∉ st.outcomeIds := by
  rw [← checkedOutcome_isSome hall hnodup]
  unfold realizeRow
  split
  · rename_i hchecked
    rw [hchecked]
    exact ⟨fun h => ⟨h, Option.some_ne_none _⟩, And.left⟩
  · rename_i hchecked
    simp only [List.append_eq_nil_iff, List.cons_ne_nil, and_false, hchecked, ne_eq,
      not_true_eq_false]

theorem realizeRow_kept {campaignId : String} {st : OutcomeState F} {o : OutcomeRow F}
    (hall : ∀ a ∈ kept, a.Consistent campaignId now) (hnodup : (kept.map (·.tradeId)).Nodup)
    (h : (realizeRow symbol kept now st o).missing = []) :
    (realizeRow symbol kept now st o).outcomeIds = st.outcomeIds ++ [o.trade] ∧
      (realizeRow symbol kept now st o).realized = st.realized.addRow symbol now o := by
  have hsome := (checkedOutcome_isSome hall hnodup).mpr ((realizeRow_clean hall hnodup).mp h).2
  obtain ⟨⟨closed, netPnl⟩, hchecked⟩ := Option.ne_none_iff_exists'.mp hsome
  obtain ⟨hclosed, hpnl⟩ := checkedOutcome_eq hchecked
  simp only [realizeRow, hchecked, Realized.addRow, hclosed, hpnl, and_self]

theorem realizeRow_checks {campaignId : String}
    (hall : ∀ a ∈ kept, a.Consistent campaignId now) (hnodup : (kept.map (·.tradeId)).Nodup) :
    ChecksKeys (realizeRow (F := F) symbol kept now) (·.missing = []) (·.outcomeIds) (·.trade)
      (·.Settles kept now) :=
  { clean_iff := fun _ _ => realizeRow_clean hall hnodup
    known_eq := fun _ _ h => (realizeRow_kept hall hnodup h).1 }

end Outcomes

/-! ## 4. Complete reports -/

section Reports

variable {F : Type} [FloatNum F] {initial : Option F} {campaignId symbol : String} {now : ℤ}
  {accepted : List AcceptedRow} {outcomes : List (OutcomeRow F)}

theorem initialMissing_eq_nil :
    initialMissing initial = [] ↔
      ∃ e, initial = some e ∧ FloatNum.isFinite e = true ∧ FloatNum.ofInt 0 < e := by
  unfold initialMissing
  rcases initial with _ | e
  · simp only [List.cons_ne_nil, reduceCtorEq, false_and, exists_false]
  · by_cases h : FloatNum.isFinite e = true ∧ FloatNum.ofInt 0 < e
    · simp only [if_pos h, true_iff]
      exact ⟨e, rfl, h⟩
    · simp only [if_neg h, List.cons_ne_nil, false_iff]
      intro ⟨_, heq, hpositive⟩
      cases heq
      exact h hpositive

theorem acceptedState_clean :
    (acceptedState initial campaignId symbol now accepted).missing = [] ↔
      (∃ e, initial = some e ∧ FloatNum.isFinite e = true ∧ FloatNum.ofInt 0 < e) ∧
        (∀ a ∈ accepted, a.Consistent campaignId now) ∧ (accepted.map (·.tradeId)).Nodup := by
  have hperm := perm_orderBy (fun a : AcceptedRow => a.entryTime) (·.id) accepted
  unfold acceptedState
  rw [foldl_clean_iff acceptRow_checks]
  constructor
  · intro ⟨hinitial, hall, hnodup, _⟩
    exact ⟨initialMissing_eq_nil.mp hinitial, fun a ha => hall a (hperm.mem_iff.mpr ha),
      (hperm.map _).nodup_iff.mp hnodup⟩
  · intro ⟨hinitial, hall, hnodup⟩
    exact ⟨initialMissing_eq_nil.mpr hinitial, fun a ha => hall a (hperm.mem_iff.mp ha),
      (hperm.map _).nodup_iff.mpr hnodup, fun _ _ => List.not_mem_nil⟩

theorem acceptedState_kept (h : (acceptedState initial campaignId symbol now accepted).missing =
    []) :
    (acceptedState initial campaignId symbol now accepted).kept.Perm accepted ∧
      (acceptedState initial campaignId symbol now accepted).tradesTodayGlobal =
        accepted.countP (enteredToday now ·) ∧
      (acceptedState initial campaignId symbol now accepted).tradesTodaySymbol =
        accepted.countP (fun a => enteredToday now a ∧ upper a.symbol = upper symbol) := by
  have hperm := perm_orderBy (fun a : AcceptedRow => a.entryTime) (·.id) accepted
  obtain ⟨hkept, hglobal, hsymbol⟩ := foldl_acceptRow_kept h
  exact ⟨hkept ▸ hperm, hglobal.trans (hperm.countP_eq _), hsymbol.trans (hperm.countP_eq _)⟩

theorem settles_of_mem {kept : List AcceptedRow} {o : OutcomeRow F}
    (hsub : ∀ a ∈ accepted, a ∈ kept) (h : o.Settles accepted now) : o.Settles kept now := by
  obtain ⟨a, ha, hrest⟩ := h
  exact ⟨a, hsub a ha, hrest⟩

theorem realizeRow_missing {kept : List AcceptedRow} (rows : List (OutcomeRow F))
    (st : OutcomeState F) (h : (rows.foldl (realizeRow symbol kept now) st).missing = []) :
    st.missing = [] := by
  induction rows generalizing st with
  | nil => exact h
  | cons o rows ih =>
    have hround := ih _ h
    unfold realizeRow at hround
    split at hround
    · exact hround
    · exact (List.append_eq_nil_iff.mp hround).1

theorem outcomeState_clean {trades : AcceptedState} (hkept : trades.kept.Perm accepted)
    (hall : ∀ a ∈ accepted, a.Consistent campaignId now)
    (hnodup : (accepted.map (·.tradeId)).Nodup) :
    (outcomeState initial symbol now trades outcomes).missing = [] ↔
      trades.missing = [] ∧ (∀ o ∈ outcomes, o.Settles accepted now) ∧
        (outcomes.map (·.trade)).Nodup := by
  have hperm := perm_orderBy (fun o : OutcomeRow F => o.closedAt) (·.id) outcomes
  unfold outcomeState
  rw [foldl_clean_iff (realizeRow_checks (fun a ha => hall a (hkept.mem_iff.mp ha))
    ((hkept.map _).nodup_iff.mpr hnodup))]
  constructor
  · intro ⟨hst, hsettled, hrows, _⟩
    exact ⟨hst, fun o ho => settles_of_mem (fun a ha => hkept.mem_iff.mp ha)
      (hsettled o (hperm.mem_iff.mpr ho)), (hperm.map _).nodup_iff.mp hrows⟩
  · intro ⟨hst, hsettled, hrows⟩
    exact ⟨hst, fun o ho => settles_of_mem (fun a ha => hkept.mem_iff.mpr ha)
      (hsettled o (hperm.mem_iff.mp ho)), (hperm.map _).nodup_iff.mpr hrows,
      fun _ _ => List.not_mem_nil⟩

/-- The outcomes in the order of the query. -/
def queried (outcomes : List (OutcomeRow F)) : List (OutcomeRow F) :=
  orderBy (·.closedAt) (·.id) outcomes

/-- A history folded from the initial equity. -/
def realizedOf (initial : Option F) (symbol : String) (now : ℤ) (rows : List (OutcomeRow F)) :
    Realized F :=
  rows.foldl (Realized.addRow symbol now) (Realized.start initial)

theorem outcomeState_kept {trades : AcceptedState} (hkept : trades.kept.Perm accepted)
    (hall : ∀ a ∈ accepted, a.Consistent campaignId now)
    (hnodup : (accepted.map (·.tradeId)).Nodup)
    (h : (outcomeState initial symbol now trades outcomes).missing = []) :
    (outcomeState initial symbol now trades outcomes).outcomeIds =
        (queried outcomes).map (·.trade) ∧
      (outcomeState initial symbol now trades outcomes).realized =
        realizedOf initial symbol now (queried outcomes) := by
  have hchecks := @realizeRow_checks F _ symbol trades.kept now campaignId
    (fun a ha => hall a (hkept.mem_iff.mp ha)) ((hkept.map _).nodup_iff.mpr hnodup)
  have hround {st : OutcomeState F} {o : OutcomeRow F}
      (hc : (realizeRow symbol trades.kept now st o).missing = []) :=
    realizeRow_kept (fun a ha => hall a (hkept.mem_iff.mp ha))
      ((hkept.map _).nodup_iff.mpr hnodup) hc
  constructor
  · refine (foldl_clean_eq hchecks (·.outcomeIds) (fun ids o => ids ++ [o.trade])
      (fun _ _ hc => (hround hc).1) _ _ h).trans ?_
    rw [List.foldl_append_eq_append, List.nil_append, ← List.flatMap_def, ← List.map_eq_flatMap]
    rfl
  · exact foldl_clean_eq hchecks (·.realized) (Realized.addRow symbol now)
      (fun _ _ hc => (hround hc).2) _ _ h

theorem closedWithout_eq_nil {kept : List AcceptedRow} {outcomeIds : List String} :
    closedWithout kept outcomeIds = [] ↔
      ∀ a ∈ kept, upper a.status = "CLOSED" → a.tradeId ∈ outcomeIds := by
  unfold closedWithout
  rw [sortedSet_eq_nil, List.map_eq_nil_iff, List.filter_eq_nil_iff]
  constructor
  · intro h a ha hclosed
    by_contra hmissing
    exact h a ha (decide_eq_true ⟨hclosed, hmissing⟩)
  · intro h a ha hboth
    obtain ⟨hclosed, hmissing⟩ := of_decide_eq_true hboth
    exact hmissing (h a ha hclosed)

/-- The report of a campaign. -/
def campaignReport (initial : Option F) (cooldownSec : F) (campaignId symbol : String) (now : ℤ)
    (accepted : List AcceptedRow) (outcomes : List (OutcomeRow F)) : RiskReport F :=
  paperPortfolioRiskState initial cooldownSec (.campaign campaignId accepted outcomes) symbol now

/-- **A report lacks nothing exactly where the campaign is consistent.** -/
theorem complete_iff {cooldownSec : F} :
    (campaignReport initial cooldownSec campaignId symbol now accepted
        outcomes).riskStateComplete = true ↔
      Consistent initial campaignId now accepted outcomes := by
  unfold campaignReport paperPortfolioRiskState
  dsimp only
  rw [decide_eq_true_eq, List.append_eq_nil_iff, List.map_eq_nil_iff, closedWithout_eq_nil]
  constructor
  · intro ⟨hmissing, hclosed⟩
    have htrades := realizeRow_missing _ _ hmissing
    obtain ⟨hequity, hall, hnodup⟩ := acceptedState_clean.mp htrades
    obtain ⟨hkept, _, _⟩ := acceptedState_kept htrades
    obtain ⟨_, hsettled, hids⟩ := (outcomeState_clean hkept hall hnodup).mp hmissing
    refine ⟨hequity, hall, hnodup, hsettled, hids, fun a ha hstatus => ?_⟩
    have hmem := hclosed a (hkept.mem_iff.mpr ha) hstatus
    rw [(outcomeState_kept hkept hall hnodup hmissing).1] at hmem
    obtain ⟨o, ho, heq⟩ := List.mem_map.mp hmem
    exact ⟨o, (perm_orderBy _ _ outcomes).mem_iff.mp ho, heq⟩
  · intro ⟨hequity, hall, hnodup, hsettled, hids, hclosed⟩
    have htrades : (acceptedState initial campaignId symbol now accepted).missing = [] :=
      acceptedState_clean.mpr ⟨hequity, hall, hnodup⟩
    obtain ⟨hkept, _, _⟩ := acceptedState_kept htrades
    have hmissing : (outcomeState initial symbol now
        (acceptedState initial campaignId symbol now accepted) outcomes).missing = [] :=
      (outcomeState_clean hkept hall hnodup).mpr ⟨htrades, hsettled, hids⟩
    refine ⟨hmissing, fun a ha hstatus => ?_⟩
    rw [(outcomeState_kept hkept hall hnodup hmissing).1]
    obtain ⟨o, ho, heq⟩ := hclosed a (hkept.mem_iff.mp ha) hstatus
    exact List.mem_map.mpr ⟨o, (perm_orderBy _ _ outcomes).mem_iff.mpr ho, heq⟩

/-- The values that a history gives. -/
def historyValues (initial : Option F) (symbol : String) (now : ℤ) (accepted : List AcceptedRow)
    (rows : List (OutcomeRow F)) : RiskValues F :=
  RiskValues.of (realizedOf initial symbol now rows) (accepted.countP (enteredToday now ·))
    (accepted.countP fun a => enteredToday now a ∧ upper a.symbol = upper symbol)

/-- A complete report folds the outcomes in the order of the query. -/
theorem report_complete {cooldownSec : F}
    (h : Consistent initial campaignId now accepted outcomes) :
    (campaignReport initial cooldownSec campaignId symbol now accepted outcomes).values =
      historyValues initial symbol now accepted (queried outcomes) := by
  have hcomplete : (campaignReport initial cooldownSec campaignId symbol now accepted
      outcomes).riskStateComplete = true := complete_iff.mpr h
  unfold campaignReport paperPortfolioRiskState at hcomplete ⊢
  dsimp only at hcomplete ⊢
  have hmissing := of_decide_eq_true hcomplete
  rw [if_pos hmissing]
  have htrades : (acceptedState initial campaignId symbol now accepted).missing = [] :=
    acceptedState_clean.mpr ⟨h.equity, h.trades, h.tradeIds⟩
  obtain ⟨hkept, hglobal, hown⟩ := acceptedState_kept htrades
  have hresults := (List.append_eq_nil_iff.mp hmissing).1
  rw [(outcomeState_kept hkept h.trades h.tradeIds hresults).2, hglobal, hown]
  rfl

theorem report_incomplete {cooldownSec : F}
    (h : ¬ Consistent initial campaignId now accepted outcomes) :
    (campaignReport initial cooldownSec campaignId symbol now accepted
        outcomes).riskStateComplete = false ∧
      (campaignReport initial cooldownSec campaignId symbol now accepted outcomes).values =
        RiskValues.missing := by
  have hfalse : (campaignReport initial cooldownSec campaignId symbol now accepted
      outcomes).riskStateComplete = false :=
    Bool.eq_false_of_not_eq_true fun hcomplete => h (complete_iff.mp hcomplete)
  refine ⟨hfalse, ?_⟩
  unfold campaignReport paperPortfolioRiskState at hfalse ⊢
  dsimp only at hfalse ⊢
  exact if_neg (of_decide_eq_false hfalse)

end Reports

/-! ## 5. The order of the instants -/

section Order

variable {F : Type} [FloatNum F] {initial : Option F} {campaignId symbol : String} {now : ℤ}
  {accepted : List AcceptedRow} {outcomes : List (OutcomeRow F)}

/-- The rows stand in the order of their closing instants. -/
def Chronological (rows : List (OutcomeRow F)) : Prop :=
  rows.Pairwise fun a b => closingInstant a ≤ closingInstant b

/-- What the report is for: no value at all, or a consistent campaign folded in the order of its
    closing instants. -/
def Faithful (initial : Option F) (campaignId symbol : String) (now : ℤ)
    (accepted : List AcceptedRow) (outcomes : List (OutcomeRow F)) (report : RiskReport F) : Prop :=
  report.riskStateComplete = false ∧ report.values = RiskValues.missing ∨
    Consistent initial campaignId now accepted outcomes ∧
      ∃ rows : List (OutcomeRow F), rows.Perm outcomes ∧ Chronological rows ∧
        report.values = historyValues initial symbol now accepted rows

theorem faithful_of_chronological {cooldownSec : F} (h : Chronological (queried outcomes)) :
    Faithful initial campaignId symbol now accepted outcomes
      (campaignReport initial cooldownSec campaignId symbol now accepted outcomes) := by
  by_cases hconsistent : Consistent initial campaignId now accepted outcomes
  · exact .inr ⟨hconsistent, queried outcomes, perm_orderBy _ _ outcomes, h,
      report_complete hconsistent⟩
  · exact .inl (report_incomplete hconsistent)

/-- The same trades with other results: what each earned, and its exit. -/
def earning (result : String → F × Option String) (o : OutcomeRow F) : OutcomeRow F :=
  { o with netPnl := some (result o.trade).1, exitReason := (result o.trade).2 }

omit [FloatNum F] in
theorem queried_earning (result : String → F × Option String) (outcomes : List (OutcomeRow F)) :
    queried (outcomes.map (earning result)) = (queried outcomes).map (earning result) :=
  (List.map_insertionSort _ _ (earning result) outcomes fun _ _ _ _ => Iff.rfl).symm

theorem consistent_earning {result : String → F × Option String}
    (hfinite : ∀ trade, FloatNum.isFinite (result trade).1 = true)
    (h : Consistent initial campaignId now accepted outcomes) :
    Consistent initial campaignId now accepted (outcomes.map (earning result)) := by
  refine ⟨h.equity, h.trades, h.tradeIds, fun o ho => ?_, ?_, fun a ha hclosed => ?_⟩
  · obtain ⟨source, hsource, rfl⟩ := List.mem_map.mp ho
    obtain ⟨a, ha, hid, hstatus, hpending, hsymbol, hrun, hcomplete, entry, closed, netPnl, hentry,
      hclosed, _, hafter, hpast, _⟩ := h.settled source hsource
    exact ⟨a, ha, hid, hstatus, hpending, hsymbol, hrun, hcomplete, entry, closed, _, hentry,
      hclosed, rfl, hafter, hpast, hfinite _⟩
  · rw [List.map_map]
    exact h.outcomeIds
  · obtain ⟨o, ho, heq⟩ := h.closed a ha hclosed
    exact ⟨earning result o, List.mem_map_of_mem ho, heq⟩

/-- Only the outcomes with an exit reason move a streak of trades that earned nothing. -/
theorem losses_of_flat {result : String → F × Option String}
    (hflat : ∀ trade, (result trade).1 = FloatNum.ofInt 0) (rows : List (OutcomeRow F))
    (hrows : ∀ o ∈ rows, ∃ source, earning result source = o) (r : Realized F) :
    (rows.foldl (Realized.addRow symbol now) r).consecutiveLosses =
      (rows.filter fun o => o.exitReason.isSome).foldl
        (fun n o => streakStep (FloatNum.ofInt 0 : F) (upper (o.exitReason.getD "")) n)
        r.consecutiveLosses := by
  induction rows generalizing r with
  | nil => rfl
  | cons o rows ih =>
    obtain ⟨hhead, htail⟩ := List.forall_mem_cons.mp hrows
    obtain ⟨source, rfl⟩ := hhead
    rw [List.foldl_cons, ih htail, List.filter_cons]
    have hadd : (r.addRow symbol now (earning result source)).consecutiveLosses =
        streakStep (FloatNum.ofInt 0 : F) (upper ((result source.trade).2.getD ""))
          r.consecutiveLosses := by
      simp only [Realized.addRow, Realized.add, earning, Option.getD_some, hflat]
    rw [hadd]
    rcases hreason : (result source.trade).2 with _ | reason
    · have hkept : streakStep (FloatNum.ofInt 0 : F) (upper "") r.consecutiveLosses =
          r.consecutiveLosses := by
        unfold streakStep
        rw [if_neg, if_neg]
        · intro h
          exact h.elim FloatNum.lt_irrefl (fun he => absurd he (by decide))
        · intro h
          exact h.elim FloatNum.lt_irrefl (fun he => absurd he (by decide))
      simp only [earning, hreason, Option.isSome_none, Bool.false_eq_true, if_false,
        Option.getD_none, hkept]
    · simp only [earning, hreason, Option.isSome_some, if_true, List.foldl_cons,
        Option.getD_some]

/-- A loss of one trade, a win of another, and nothing of the rest. -/
def lossThenWin (loser winner : String) (trade : String) : F × Option String :=
  (FloatNum.ofInt 0,
    if trade = loser then some "SL_HIT" else if trade = winner then some "TP_HIT" else none)

omit [FloatNum F] in
/-- Of rows with different trades, a filter for the trades of two of them keeps these two. -/
theorem filter_pair {rows : List (OutcomeRow F)} {a b : OutcomeRow F}
    (hnodup : (rows.map (·.trade)).Nodup) (hsub : [a, b].Sublist rows) :
    rows.filter (fun o => o.trade = a.trade ∨ o.trade = b.trade) = [a, b] := by
  have hkept : [a, b].Sublist (rows.filter fun o => o.trade = a.trade ∨ o.trade = b.trade) := by
    have hfiltered := hsub.filter (fun o => decide (o.trade = a.trade ∨ o.trade = b.trade))
    simpa only [List.filter_cons, true_or, or_true, decide_true, if_true, List.filter_nil]
      using hfiltered
  have hids : ((rows.filter fun o => o.trade = a.trade ∨ o.trade = b.trade).map
      (·.trade)).Nodup := hnodup.sublist ((List.filter_sublist).map _)
  have hlength : (rows.filter fun o => o.trade = a.trade ∨ o.trade = b.trade).length ≤ 2 := by
    have hpair : ((rows.filter fun o => o.trade = a.trade ∨ o.trade = b.trade).map (·.trade)) ⊆
        [a.trade, b.trade] := by
      intro trade htrade
      obtain ⟨o, ho, rfl⟩ := List.mem_map.mp htrade
      rcases of_decide_eq_true (List.mem_filter.mp ho).2 with h | h
      · exact h ▸ List.mem_cons_self
      · exact h ▸ List.mem_cons_of_mem _ List.mem_cons_self
    have hle := (List.subperm_of_subset hids hpair).length_le
    rwa [List.length_map] at hle
  exact (hkept.eq_of_length_le hlength).symm

/-- The streak of the two marked trades is the order of their outcomes. -/
theorem losses_of_pair {a b : OutcomeRow F} (hne : a.trade ≠ b.trade)
    {rows : List (OutcomeRow F)}
    (hrows : ∀ o ∈ rows, ∃ source, earning (lossThenWin a.trade b.trade) source = o) :
    (rows.filter (fun o => o.exitReason.isSome) =
        [earning (lossThenWin a.trade b.trade) a, earning (lossThenWin a.trade b.trade) b] →
      (realizedOf initial symbol now rows).consecutiveLosses = 0) ∧
    (rows.filter (fun o => o.exitReason.isSome) =
        [earning (lossThenWin a.trade b.trade) b, earning (lossThenWin a.trade b.trade) a] →
      (realizedOf initial symbol now rows).consecutiveLosses = 1) := by
  have hfold := @losses_of_flat F _ symbol now _ (fun _ => rfl) rows hrows (Realized.start initial)
  have hloss (n : ℕ) : streakStep (FloatNum.ofInt 0 : F) (upper "SL_HIT") n = n + 1 := by
    unfold streakStep
    rw [if_pos (.inr (by decide))]
  have hwin (n : ℕ) : streakStep (FloatNum.ofInt 0 : F) (upper "TP_HIT") n = 0 := by
    unfold streakStep
    rw [if_neg, if_pos (.inr (by decide))]
    intro h
    exact h.elim FloatNum.lt_irrefl (fun he => absurd he (by decide))
  have ha : (lossThenWin a.trade b.trade a.trade : F × Option String).2 =
    some "SL_HIT" := if_pos rfl
  have hb : (lossThenWin a.trade b.trade b.trade : F × Option String).2 = some "TP_HIT" := by
    rw [lossThenWin, if_neg hne.symm, if_pos rfl]
  constructor <;> intro hfilter <;> rw [realizedOf, hfold, hfilter]
  · simp only [List.foldl_cons, List.foldl_nil, earning, ha, hb, Option.getD_some, hwin]
  · simp only [List.foldl_cons, List.foldl_nil, earning, ha, hb, Option.getD_some, hwin, hloss]

/-- Two outcomes that the query hands over in the wrong order: the report of a loss of the first
    and a win of the second is not that of their instants. -/
theorem not_faithful_of_swap {cooldownSec : F} {a b : OutcomeRow F}
    (hconsistent : Consistent initial campaignId now accepted outcomes)
    (hsub : [a, b].Sublist (queried outcomes)) (hswap : closingInstant b < closingInstant a) :
    ¬ Faithful initial campaignId symbol now accepted
      (outcomes.map (earning (lossThenWin a.trade b.trade)))
      (campaignReport initial cooldownSec campaignId symbol now accepted
        (outcomes.map (earning (lossThenWin a.trade b.trade)))) := by
  have hnodup : ((queried outcomes).map (·.trade)).Nodup :=
    ((perm_orderBy _ _ outcomes).map _).nodup_iff.mpr hconsistent.outcomeIds
  have hne : a.trade ≠ b.trade := by
    have hpair := hnodup.sublist (hsub.map (·.trade))
    exact fun heq => (List.nodup_cons.mp hpair).1 (List.mem_singleton.mpr heq)
  have hmarked : ((queried outcomes).map (earning (lossThenWin a.trade b.trade))).filter
        (fun o => o.exitReason.isSome) =
      [earning (lossThenWin a.trade b.trade) a, earning (lossThenWin a.trade b.trade) b] := by
    have hmark (o : OutcomeRow F) :
        (earning (lossThenWin a.trade b.trade) o).exitReason.isSome =
          decide (o.trade = a.trade ∨ o.trade = b.trade) := by
      simp only [earning, lossThenWin]
      split
      · rename_i ha
        exact (decide_eq_true (.inl ha)).symm
      split
      · rename_i hb
        exact (decide_eq_true (.inr hb)).symm
      · rename_i ha hb
        exact (decide_eq_false fun h => h.elim ha hb).symm
    rw [List.filter_map]
    simp only [Function.comp_def, hmark]
    rw [filter_pair hnodup hsub]
    rfl
  have hsource {rows : List (OutcomeRow F)}
      (hperm : rows.Perm (outcomes.map (earning (lossThenWin a.trade b.trade)))) :
      ∀ o ∈ rows, ∃ source, earning (lossThenWin a.trade b.trade) source = o := fun o ho => by
    obtain ⟨source, _, heq⟩ := List.mem_map.mp (hperm.mem_iff.mp ho)
    exact ⟨source, heq⟩
  have hres : Consistent initial campaignId now accepted
      (outcomes.map (earning (lossThenWin a.trade b.trade))) :=
    consistent_earning (fun _ => FloatNum.finite_zero) hconsistent
  intro hfaithful
  rcases hfaithful with ⟨hincomplete, _⟩ | ⟨_, rows, hperm, hchronological, hvalues⟩
  · rw [complete_iff.mpr hres] at hincomplete
    cases hincomplete
  · rw [report_complete hres, queried_earning] at hvalues
    have hstreaks := congrArg RiskValues.consecutiveLossCount hvalues
    have hsorted : ((queried outcomes).map (earning (lossThenWin a.trade b.trade))).Perm
        (outcomes.map (earning (lossThenWin a.trade b.trade))) :=
      (perm_orderBy _ _ outcomes).map _
    -- the query folds the loss before the win
    have hquery := (@losses_of_pair F _ initial symbol now a b hne _ (hsource hsorted)).1 hmarked
    -- every chronological order folds the win before the loss
    have htruth : (realizedOf initial symbol now rows).consecutiveLosses = 1 := by
      refine (losses_of_pair hne (hsource hperm)).2 ?_
      have hpair := (hperm.trans hsorted.symm).filter (fun o => o.exitReason.isSome)
      rw [hmarked] at hpair
      refine (List.perm_pair.mp hpair).resolve_left fun hsame => ?_
      have hordered := hchronological.filter (fun o => o.exitReason.isSome)
      rw [hsame] at hordered
      have hfirst := (List.pairwise_cons.mp hordered).1 _ List.mem_cons_self
      have hle : closingInstant a ≤ closingInstant b := hfirst
      omega
    have hboth : some (realizedOf initial symbol now ((queried outcomes).map
        (earning (lossThenWin a.trade b.trade)))).consecutiveLosses =
          some (realizedOf initial symbol now rows).consecutiveLosses := hstreaks
    rw [hquery, htruth] at hboth
    cases hboth

end Order

/-- **Where the report is faithful.** It is wherever the query hands over the outcomes in the order
    of their closing instants; and wherever it is whatever the trades of a consistent campaign
    earned, the query does. -/
theorem faithful_exactly {F : Type} [FloatNum F] (initial : Option F) (cooldownSec : F)
    (campaignId symbol : String) (now : ℤ) (accepted : List AcceptedRow)
    (outcomes : List (OutcomeRow F)) :
    (Chronological (queried outcomes) →
      Faithful initial campaignId symbol now accepted outcomes
        (campaignReport initial cooldownSec campaignId symbol now accepted outcomes)) ∧
    (Consistent initial campaignId now accepted outcomes →
      (∀ result : String → F × Option String,
        (∀ trade, FloatNum.isFinite (result trade).1 = true) →
          Faithful initial campaignId symbol now accepted (outcomes.map (earning result))
            (campaignReport initial cooldownSec campaignId symbol now accepted
              (outcomes.map (earning result)))) →
        Chronological (queried outcomes)) := by
  refine ⟨faithful_of_chronological, fun hconsistent hall => ?_⟩
  refine List.pairwise_iff_forall_sublist.mpr fun {a b} hsub => ?_
  by_contra hswap
  exact not_faithful_of_swap hconsistent hsub (not_le.mp hswap)
    (hall (lossThenWin a.trade b.trade) fun _ => FloatNum.finite_zero)

def sampleTrade (id : ℕ) (trade : String) : AcceptedRow where
  id := id
  tradeId := trade
  burninRunId := "R1"
  symbol := "BTCUSDT"
  entryTime := .text ⟨"2025-12-31T23:00:00Z", some ⟨some 0, 1767222000000000⟩⟩
  status := "CLOSED"
  pendingEvidenceComplete := 1
  lineageCampaignId := some "C1"

def sampleOutcome (id : ℕ) (trade closedAt : String) (instant : ℤ) (netPnl : Float)
    (exitReason : String) : OutcomeRow Float where
  id := id
  tradeId := some trade
  burninRunId := "R1"
  symbol := some "BTCUSDT"
  closedAt := .text ⟨closedAt, some ⟨some 0, instant⟩⟩
  netPnl := some netPnl
  exitReason := some exitReason
  evidenceComplete := 1

def sampleAccepted : List AcceptedRow := [sampleTrade 1 "T1", sampleTrade 2 "T2"]

/-- T1 loses at the whole second, T2 wins half a second later. -/
def halfSecondApart : List (OutcomeRow Float) :=
  [sampleOutcome 1 "T1" "2026-01-01T00:00:00Z" 1767225600000000 (-5) "SL_HIT",
    sampleOutcome 2 "T2" "2026-01-01T00:00:00.500000Z" 1767225600500000 5 "TP_HIT"]

/-- A full stop sorts before `Z`: the later win is folded first, and the streak is a loss. -/
theorem fraction_before_whole :
    ¬ Faithful (some 1000) "C1" "BTCUSDT" 1767226000000000 sampleAccepted halfSecondApart
      (campaignReport (some 1000) 0 "C1" "BTCUSDT" 1767226000000000 sampleAccepted
        halfSecondApart) := by
  have hcomplete : (campaignReport (some 1000) 0 "C1" "BTCUSDT" 1767226000000000 sampleAccepted
      halfSecondApart).riskStateComplete = true := by decide +kernel
  have hreported : (campaignReport (some 1000) 0 "C1" "BTCUSDT" 1767226000000000 sampleAccepted
      halfSecondApart).values.consecutiveLossCount = some 1 := by decide +kernel
  intro hfaithful
  rcases hfaithful with ⟨hincomplete, _⟩ | ⟨_, rows, hperm, hchronological, hvalues⟩
  · rw [hcomplete] at hincomplete
    cases hincomplete
  · rw [hvalues] at hreported
    rcases List.perm_pair.mp hperm with rfl | rfl
    · have htruth : (historyValues (some (1000 : Float)) "BTCUSDT" 1767226000000000 sampleAccepted
          halfSecondApart).consecutiveLossCount = some 0 := by decide +kernel
      exact absurd (htruth.symm.trans hreported) (by decide)
    · have hfirst := (List.pairwise_cons.mp hchronological).1 _ List.mem_cons_self
      exact absurd hfirst (by decide +kernel)

/-- The same two trades closed two whole seconds apart. -/
theorem faithful_exactly_seconds :
    let outcomes := [sampleOutcome 1 "T1" "2026-01-01T00:00:00Z" 1767225600000000 (-5) "SL_HIT",
      sampleOutcome 2 "T2" "2026-01-01T00:00:02Z" 1767225602000000 5 "TP_HIT"]
    Chronological (queried outcomes) ∧
      Faithful (some 1000) "C1" "BTCUSDT" 1767226000000000 sampleAccepted outcomes
        (campaignReport (some 1000) 0 "C1" "BTCUSDT" 1767226000000000 sampleAccepted outcomes) := by
  intro outcomes
  have hqueried : Chronological (queried outcomes) := by
    unfold Chronological
    decide +kernel
  exact ⟨hqueried, (faithful_exactly (some 1000) 0 "C1" "BTCUSDT" 1767226000000000 sampleAccepted
    outcomes).1 hqueried⟩

end AlphaForge.Portfolio
