/-
  File:      AlphaForge/Burnin/Drawdown.lean
  Subject:   The drawdown rows that `runtime.py` appends once a period, and what the qualification
             makes of a campaign that has recovered.

  A row carries the largest drawdown so far and whether the drawdown at its own time is over. No
  later period rewrites it, and `_compute_drawdown` looks at every row.

  * `Sane` -- what every snapshot of a risk report satisfies; `sane_of_report` from `sane_add`.
  * `passes_iff` -- when the component passes on a table of such rows.
  * **`recovery_honoured_iff`** -- a campaign that has recovered within the limit passes exactly
    when every snapshot that it ever took was resolved and measurable.
-/
import AlphaForge.Burnin.Verdict
import AlphaForge.Lib.Cancelling
import AlphaForge.Portfolio.RiskHistory

namespace AlphaForge.Burnin

open AlphaForge.Lib AlphaForge.Portfolio

/-! ## 1. The periodic rows -/

section Rows

variable {F : Type} [FloatNum F]

/-- What a complete risk report says about the drawdown. -/
structure Measured (F : Type) where
  peak : F
  trough : F
  maxDrawdown : F
  currentDrawdown : F
  losses : ℕ

/-- The report is `drawdown_complete`. -/
def measured (r : RiskReport F) : Option (Measured F) :=
  if r.riskStateComplete then do
    let maxDrawdown ← r.values.maxDrawdownPct
    let peak ← r.values.maxDrawdownPeakEquity
    let trough ← r.values.maxDrawdownTroughEquity
    let current ← r.values.rollingDrawdownPct
    let losses ← r.values.consecutiveLossCount
    return ⟨peak, trough, maxDrawdown, current, losses⟩
  else none

/-- `resolved`. -/
def Measured.resolved (m : Measured F) : ℤ :=
  if m.currentDrawdown ≤ 1e-12 ∧ m.losses = 0 then 1 else 0

/-- A number in a REAL column: NaN is stored as NULL. -/
def realColumn (x : F) : Lib.Value F := if FloatNum.feq x x then .float x else .none

/-- What a period needs: the run, its clock, and what its risk state is rebuilt from. -/
structure Period (F : Type) where
  burninRunId : String
  now : String
  runtimeStatus : String
  initial : Option F
  cooldownSec : F
  loaded : Loaded F
  instant : ℤ

/-- `drawdown_state`. -/
def Period.report (t : Period F) : RiskReport F :=
  paperPortfolioRiskState t.initial t.cooldownSec t.loaded "" t.instant

/-- `drawdown_payload`, with sorted keys. -/
def drawdownPayload (t : Period F) (m : Measured F) : Payload F :=
  [("current_drawdown_pct", .float m.currentDrawdown),
    ("current_equity", (t.report.values.equity.map Lib.Value.float).getD .none),
    ("evidence_source", .text t.report.riskStateSource), ("evidence_status", .text "COMPLETE"),
    ("max_drawdown_pct", .float m.maxDrawdown), ("risk_state_complete", .bool true),
    ("risk_state_missing_fields", .list []), ("runtime_status", .text t.runtimeStatus)]

/-- The row of a period. -/
def drawdownRow (t : Period F) (m : Measured F) : DrawdownRow F where
  drawdownEventId := "dd:" ++ t.burninRunId ++ ":" ++ t.now
  peakEquity := realColumn m.peak
  troughEquity := realColumn m.trough
  drawdownPct := realColumn m.maxDrawdown
  consecutiveLosses := some m.losses
  resolved := some m.resolved
  payload := some (.mapping (drawdownPayload t m))

/-- The drawdown half of `_persist_burnin_periodic_metrics`, on the rows of a campaign. An id that
    exists raises, which is caught. -/
def persistPeriodic (table : List (DrawdownRow F)) (t : Period F) : List (DrawdownRow F) :=
  match measured t.report with
  | none => table
  | some m =>
    if (drawdownRow t m).drawdownEventId ∈ table.map DrawdownRow.drawdownEventId then table
    else table ++ [drawdownRow t m]

/-- The rows that the periods of a campaign append. -/
def snapshots (periods : List (Period F)) : List (DrawdownRow F) :=
  periods.foldl persistPeriodic []

/-- The copies of the rows that the aggregate of a campaign holds. -/
def aggregated (campaignId : String) (table : List (DrawdownRow F)) : List (DrawdownRow F) :=
  table.map fun d => { d with drawdownEventId := d.drawdownEventId ++ ":agg:" ++ campaignId }

end Rows

/-! ## 2. The equity curve -/

section Curve

variable {F : Type} [CancellingNum F]

/-- The numbers of a snapshot belong to one curve above a positive start. -/
structure Sane (peak trough maxDrawdown : F) : Prop where
  positive : FloatNum.ofInt 0 < peak
  below : trough ≤ peak
  nonneg : FloatNum.ofInt 0 ≤ maxDrawdown
  relation : FloatNum.isFinite peak = true →
    FloatNum.feq maxDrawdown (pyMax (FloatNum.ofInt 0) ((peak - trough) / peak)) = true

/-- What a curve keeps. -/
structure SaneCurve (c : EquityCurve F) : Prop where
  number : IsNumber c.current
  positive : FloatNum.ofInt 0 < c.peak
  below : c.current ≤ c.peak
  sane : Sane c.maxDrawdownPeak c.maxDrawdownTrough c.maxDrawdownPct

theorem feq_refl {x : F} (h : IsNumber x) : FloatNum.feq x x = true := by
  obtain ⟨v, hv⟩ := isNumber_iff.mp h
  exact (FloatNum.feq_iff x x).mpr ⟨v, hv, hv⟩

theorem le_of_le_of_lt {a b c : F} (hab : a ≤ b) (hbc : b < c) : a ≤ c := by
  obtain ⟨x, y, hx, hy, hxy⟩ := (FloatNum.le_iff a b).mp hab
  obtain ⟨y', z, hy', hz, hyz⟩ := (FloatNum.lt_iff b c).mp hbc
  rw [hy] at hy'
  cases hy'
  exact (FloatNum.le_iff a c).mpr ⟨x, z, hx, hz, hxy.trans hyz.le⟩

theorem feq_zero {x : F} (h : FloatNum.value x = FloatNum.value (FloatNum.ofInt 0 : F)) :
    FloatNum.feq (FloatNum.ofInt 0) (pyMax (FloatNum.ofInt 0) x) = true := by
  unfold pyMax
  split
  · rename_i hlt
    obtain ⟨v, w, hv, hw, hvw⟩ := (FloatNum.lt_iff _ _).mp hlt
    rw [h, hv] at hw
    rw [Option.some.inj hw] at hvw
    exact absurd hvw (lt_irrefl w)
  · exact feq_refl isNumber_zero

theorem sane_start {e : F} (hfinite : FloatNum.isFinite e = true) (hpos : FloatNum.ofInt 0 < e) :
    SaneCurve (EquityCurve.start e) := by
  have hnumber := isNumber_of_finite hfinite
  have hle := FloatNum.le_refl hnumber
  refine ⟨hnumber, hpos, hle, hpos, hle, FloatNum.le_refl isNumber_zero, fun _ => ?_⟩
  exact feq_zero (CancellingNum.zero_div _ _ (CancellingNum.sub_self e hfinite) hfinite hpos)

/-- A drawdown below a positive peak is the share that is missing. -/
theorem drawdown_eq {c : EquityCurve F} (h : FloatNum.ofInt 0 < c.peak) :
    c.drawdown = some (pyMax (FloatNum.ofInt 0) ((c.peak - c.current) / c.peak)) := by
  unfold EquityCurve.drawdown
  rw [if_pos h]
  rfl

/-- **A finite result keeps a curve sane.** -/
theorem sane_add {c : EquityCurve F} {netPnl : F} (h : SaneCurve c)
    (hfinite : FloatNum.isFinite netPnl = true) : SaneCurve (c.add netPnl) := by
  have hcurrent : IsNumber (c.current + netPnl) := FloatNum.denotes_add _ _ h.number hfinite
  have hpeak : FloatNum.ofInt 0 < (if c.peak < c.current + netPnl then c.current + netPnl
      else c.peak) := by
    split
    · rename_i hlt
      exact FloatNum.lt_trans h.positive hlt
    · exact h.positive
  have hbelow : c.current + netPnl ≤ (if c.peak < c.current + netPnl then c.current + netPnl
      else c.peak) := by
    split
    · exact FloatNum.le_refl hcurrent
    · rename_i hlt
      exact FloatNum.le_of_not_lt (isNumber_of_le h.below).2 hcurrent hlt
  unfold EquityCurve.add
  simp only
  generalize (if c.peak < c.current + netPnl then c.current + netPnl else c.peak) = peak at *
  rw [drawdown_eq hpeak]
  simp only
  split
  · rename_i hlarger
    exact ⟨hcurrent, hpeak, hbelow, hpeak, hbelow, le_of_le_of_lt h.sane.nonneg hlarger,
      fun _ => feq_refl pyMax_number⟩
  · exact ⟨hcurrent, hpeak, hbelow, h.sane⟩

omit [CancellingNum F] in
theorem addRow_curve [FloatNum F] (symbol : String) (now : ℤ) (r : Realized F) (o : OutcomeRow F) :
    (r.addRow symbol now o).curve =
      r.curve.map (EquityCurve.add (o.netPnl.getD (FloatNum.ofInt 0))) := rfl

/-- A history of finite results has a sane curve. -/
theorem sane_realized {rows : List (OutcomeRow F)} {initial : F} (symbol : String) (now : ℤ)
    (hfinite : FloatNum.isFinite initial = true) (hpos : FloatNum.ofInt 0 < initial)
    (hrows : ∀ o ∈ rows, FloatNum.isFinite (o.netPnl.getD (FloatNum.ofInt 0)) = true) :
    ∃ c, (realizedOf (some initial) symbol now rows).curve = some c ∧ SaneCurve c := by
  unfold realizedOf
  induction rows using List.reverseRecOn with
  | nil => exact ⟨_, rfl, sane_start hfinite hpos⟩
  | append_singleton rows o ih =>
    obtain ⟨hinit, hlast⟩ := List.forall_mem_append.mp hrows
    obtain ⟨c, hc, hsane⟩ := ih hinit
    rw [List.foldl_append, List.foldl_cons, List.foldl_nil]
    refine ⟨c.add (o.netPnl.getD (FloatNum.ofInt 0)), ?_,
      sane_add hsane (hlast o (List.mem_singleton_self o))⟩
    rw [addRow_curve, hc]
    rfl

omit [CancellingNum F] in
theorem measured_eq [FloatNum F] {r : RiskReport F} {m : Measured F} (h : measured r = some m) :
    r.riskStateComplete = true ∧ r.values.maxDrawdownPct = some m.maxDrawdown ∧
      r.values.maxDrawdownPeakEquity = some m.peak ∧
      r.values.maxDrawdownTroughEquity = some m.trough := by
  unfold measured at h
  split at h
  · rename_i hcomplete
    simp only [Option.bind_eq_bind, Option.bind_eq_some_iff, Option.pure_def,
      Option.some.injEq] at h
    obtain ⟨maxDrawdown, hmax, peak, hpeak, trough, htrough, _, _, _, _, rfl⟩ := h
    exact ⟨hcomplete, hmax, hpeak, htrough⟩
  · cases h

/-- The numbers of a report without a campaign are those of the start. -/
theorem sane_unscoped {initial : Option F} {m : Measured F}
    (h : measured (unscopedReport initial) = some m) : Sane m.peak m.trough m.maxDrawdown := by
  obtain ⟨hcomplete, hmax, hpeak, htrough⟩ := measured_eq h
  have hmissing : initialMissing initial = [] := of_decide_eq_true hcomplete
  obtain ⟨e, rfl, hfinite, hpos⟩ := initialMissing_eq_nil.mp hmissing
  simp only [unscopedReport, if_pos hmissing, Option.some.injEq] at hmax hpeak htrough
  rw [← hmax, ← hpeak, ← htrough]
  exact (sane_start hfinite hpos).sane

/-- The numbers of a campaign are those of its curve. -/
theorem sane_campaign {initial : Option F} {cooldownSec : F} {campaignId symbol : String} {now : ℤ}
    {accepted : List AcceptedRow} {outcomes : List (OutcomeRow F)} {m : Measured F}
    (h : measured (campaignReport initial cooldownSec campaignId symbol now accepted outcomes) =
      some m) : Sane m.peak m.trough m.maxDrawdown := by
  obtain ⟨hcomplete, hmax, hpeak, htrough⟩ := measured_eq h
  have hconsistent := complete_iff.mp hcomplete
  obtain ⟨e, rfl, hfinite, hpos⟩ := hconsistent.equity
  have hrows : ∀ o ∈ queried outcomes, FloatNum.isFinite (o.netPnl.getD (FloatNum.ofInt 0)) =
    true := by
    intro o ho
    have hmem : o ∈ outcomes := (perm_orderBy _ _ outcomes).mem_iff.mp ho
    obtain ⟨_, _, _, _, _, _, _, _, _, _, netPnl, _, _, hpnl, _, _, hpnlFinite⟩ :=
      hconsistent.settled o hmem
    rw [hpnl]
    exact hpnlFinite
  obtain ⟨c, hc, hsane⟩ := sane_realized symbol now hfinite hpos hrows
  rw [report_complete hconsistent] at hmax hpeak htrough
  simp only [historyValues, RiskValues.of, hc, Option.map_some, Option.some.injEq]
    at hmax hpeak htrough
  rw [← hmax, ← hpeak, ← htrough]
  exact hsane.sane

/-- **Every snapshot of a risk report is sane.** -/
theorem sane_of_report {t : Period F} {m : Measured F} (h : measured t.report = some m) :
    Sane m.peak m.trough m.maxDrawdown := by
  cases t with
  | mk burninRunId now runtimeStatus initial cooldownSec loaded instant =>
    cases loaded with
    | unscoped => exact sane_unscoped h
    | noEngine => exact absurd (measured_eq h).1 Bool.false_ne_true
    | queryFailed => exact absurd (measured_eq h).1 Bool.false_ne_true
    | campaign campaignId accepted outcomes => exact sane_campaign h

end Curve

/-! ## 3. What the qualification makes of a row -/

section Reading

variable {F : Type} [CancellingNum F] {lang : Language F} {th : Thresholds F}

theorem finiteNumber_realColumn (x : F) :
    finiteNumber lang (realColumn x) = if FloatNum.isFinite x then some x else none := by
  unfold finiteNumber realColumn
  by_cases h : FloatNum.isFinite x = true
  · rw [if_pos (feq_refl (isNumber_of_finite h)), if_pos h]
    exact Option.filter_eq_some_iff.mpr ⟨rfl, h⟩
  · rw [if_neg h]
    split
    · exact Option.filter_eq_none_iff.mpr fun y hy => by
        cases hy
        exact h
    · rfl

/-- The numbers of the row can be read: the peak is finite, the trough not below zero and the
    drawdown at most the whole. -/
def Measurable (m : Measured F) : Prop :=
  FloatNum.isFinite m.peak = true ∧ FloatNum.ofInt 0 ≤ m.trough ∧ m.maxDrawdown ≤ FloatNum.ofInt 1

theorem finite_of_measurable {m : Measured F} (hsane : Sane m.peak m.trough m.maxDrawdown)
    (h : Measurable m) : FloatNum.isFinite m.trough = true ∧
      FloatNum.isFinite m.maxDrawdown = true :=
  ⟨FloatNum.finite_between h.2.1 hsane.below FloatNum.finite_zero h.1,
    FloatNum.finite_between hsane.nonneg h.2.2 FloatNum.finite_zero FloatNum.finite_one⟩

theorem wholeGaps_row (t : Period F) (m : Measured F) : wholeGaps (drawdownRow t m) = [] := by
  have hlosses : ¬ ((m.losses : ℤ) < 0) := by omega
  have hresolved : ¬ (m.resolved ≠ 0 ∧ m.resolved ≠ 1) := by
    unfold Measured.resolved
    split <;> decide
  unfold wholeGaps drawdownRow
  rw [List.append_eq_nil_iff]
  exact ⟨blocked_nil.mpr hlosses, blocked_nil.mpr hresolved⟩

theorem source_ne_empty {t : Period F} {m : Measured F} (h : measured t.report = some m) :
    t.report.riskStateSource ≠ "" := by
  cases t with
  | mk burninRunId now runtimeStatus initial cooldownSec loaded instant =>
    cases loaded with
    | unscoped => exact (by decide : "RUNTIME_SESSION_UNSCOPED" ≠ "")
    | _ => exact (by decide : "BURNIN_CAMPAIGN_EVIDENCE" ≠ "")

theorem payloadGaps_row {t : Period F} {m : Measured F} (h : t.report.riskStateSource ≠ "") :
    payloadGaps (drawdownRow t m) = [] := by
  have hsource : ((drawdownPayload t m).get "evidence_source").truthy = true := bne_iff_ne.mpr h
  unfold payloadGaps
  simp only [List.append_eq_nil_iff, blocked_nil]
  refine ⟨⟨⟨?_, ?_⟩, fun hfalse => Bool.false_ne_true (hfalse.symm.trans hsource)⟩, ?_⟩
  all_goals
    intro hfalse
    cases hfalse

theorem relationGaps_nil {p t d : F} : relationGaps (some p) (some t) (some d) = [] ↔
    ¬ p ≤ FloatNum.ofInt 0 ∧ ¬ (t < FloatNum.ofInt 0 ∨ p < t) ∧
      ¬ (FloatNum.ofInt 0 < p ∧
        isClose d (pyMax (FloatNum.ofInt 0) ((p - t) / p)) = false) ∧
      FloatNum.ofInt 0 ≤ d ∧ d ≤ FloatNum.ofInt 1 := by
  unfold relationGaps
  simp only [List.append_eq_nil_iff, blocked_nil, not_not, and_assoc]
  refine and_congr_right fun _ => ?_
  split
  · rename_i h
    exact iff_of_false (fun hnil => List.cons_ne_nil _ _ hnil.1) fun hall => hall.1 h
  · rename_i h
    rw [blocked_nil, and_iff_right h]

/-- **A row of a sane snapshot misses nothing exactly when its numbers can be read.** -/
theorem drawdownMissing_nil {t : Period F} {m : Measured F} (h : measured t.report = some m) :
    drawdownMissing lang (drawdownRow t m) = [] ↔ Measurable m := by
  have hsane := sane_of_report h
  unfold drawdownMissing
  rw [wholeGaps_row, payloadGaps_row (source_ne_empty h)]
  simp only [List.append_eq_nil_iff, numericGap, blocked_nil, drawdownRow, finiteNumber_realColumn]
  constructor
  · rintro ⟨⟨⟨⟨⟨hpeak, htrough⟩, hdrawdown⟩, _⟩, _⟩, hrelation⟩
    have hp : FloatNum.isFinite m.peak = true := by
      by_contra hn
      rw [if_neg hn] at hpeak
      exact hpeak rfl
    have ht : FloatNum.isFinite m.trough = true := by
      by_contra hn
      rw [if_neg hn] at htrough
      exact htrough rfl
    have hd : FloatNum.isFinite m.maxDrawdown = true := by
      by_contra hn
      rw [if_neg hn] at hdrawdown
      exact hdrawdown rfl
    rw [if_pos hp, if_pos ht, if_pos hd] at hrelation
    obtain ⟨_, hrange, _, _, hone⟩ := relationGaps_nil.mp hrelation
    exact ⟨hp, FloatNum.le_of_not_lt (isNumber_of_finite ht) isNumber_zero fun hlt =>
      hrange (Or.inl hlt), hone⟩
  · intro hm
    obtain ⟨ht, hd⟩ := finite_of_measurable hsane hm
    rw [if_pos hm.1, if_pos ht, if_pos hd]
    have hfound : ∀ x : F, ¬ (some x).isNone = true := fun _ hnone => by cases hnone
    refine ⟨⟨⟨⟨⟨hfound _, hfound _⟩, hfound _⟩, trivial⟩, trivial⟩, relationGaps_nil.mpr ?_⟩
    refine ⟨FloatNum.not_le_of_lt hsane.positive, ?_, ?_, hsane.nonneg, hm.2.2⟩
    · rintro (hneg | habove)
      · exact FloatNum.not_le_of_lt hneg hm.2.1
      · exact FloatNum.not_le_of_lt habove hsane.below
    · intro hfar
      have hclose := hfar.2
      unfold isClose at hclose
      rw [hsane.relation hm.1] at hclose
      cases hclose

end Reading

/-! ## 4. A campaign that has recovered -/

section Recovery

variable {F : Type} [CancellingNum F] {lang : Language F} {th : Thresholds F}

/-- The numbers of a row can be read. -/
def RowMeasurable (d : DrawdownRow F) : Prop :=
  (∃ p, d.peakEquity = .float p ∧ FloatNum.isFinite p = true) ∧
    (∃ x, d.troughEquity = .float x ∧ FloatNum.ofInt 0 ≤ x) ∧
    ∃ x, d.drawdownPct = .float x ∧ x ≤ FloatNum.ofInt 1

variable (th) in
/-- The drawdown of a row is within the limit. -/
def WithinLimit (d : DrawdownRow F) : Prop :=
  ∀ x, d.drawdownPct = .float x → ¬ th.maxDrawdownPct < x

theorem realColumn_number {x : F} (h : IsNumber x) : realColumn x = .float x := if_pos (feq_refl h)

theorem realColumn_float {x y : F} (h : realColumn x = .float y) : x = y := by
  unfold realColumn at h
  split at h
  · exact Lib.Value.float.inj h
  · cases h

theorem rowMeasurable_iff {t : Period F} {m : Measured F} :
    RowMeasurable (drawdownRow t m) ↔ Measurable m := by
  constructor
  · intro ⟨⟨p, hp, hfinite⟩, ⟨x, hx, hnonneg⟩, y, hy, hone⟩
    cases realColumn_float hp
    cases realColumn_float hx
    cases realColumn_float hy
    exact ⟨hfinite, hnonneg, hone⟩
  · intro ⟨hfinite, hnonneg, hone⟩
    exact ⟨⟨_, realColumn_number (isNumber_of_finite hfinite), hfinite⟩,
      ⟨_, realColumn_number (isNumber_of_le hnonneg).2, hnonneg⟩,
      ⟨_, realColumn_number (isNumber_of_le hone).1, hone⟩⟩

theorem mem_persistPeriodic {table : List (DrawdownRow F)} {t : Period F} {d : DrawdownRow F}
    (h : d ∈ persistPeriodic table t) :
    d ∈ table ∨ ∃ m, measured t.report = some m ∧ d = drawdownRow t m := by
  unfold persistPeriodic at h
  split at h
  · exact Or.inl h
  · rename_i m hm
    split at h
    · exact Or.inl h
    · exact (List.mem_append.mp h).imp_right fun hnew => ⟨m, hm, List.mem_singleton.mp hnew⟩

/-- **Every row of a campaign is the row of a complete risk report.** -/
theorem mem_snapshots {periods : List (Period F)} {d : DrawdownRow F} (h : d ∈ snapshots periods) :
    ∃ t m, measured t.report = some m ∧ d = drawdownRow t m := by
  unfold snapshots at h
  induction periods using List.reverseRecOn with
  | nil => cases h
  | append_singleton before t ih =>
    rw [List.foldl_append, List.foldl_cons, List.foldl_nil] at h
    rcases mem_persistPeriodic h with hold | ⟨m, hm, hd⟩
    · exact ih hold
    · exact ⟨t, m, hm, hd⟩

theorem drawdownGaps_nil {rows : List (DrawdownRow F)} :
    drawdownGaps lang rows = [] ↔ ∀ d ∈ rows, drawdownMissing lang d = [] := by
  unfold drawdownGaps
  rw [List.map_eq_nil_iff, List.filter_eq_nil_iff]
  constructor
  · intro h d hd
    obtain ⟨i, hi, rfl⟩ := List.getElem_of_mem hd
    have hnone := h (rows[i], i) (List.mk_mem_zipIdx_iff_getElem?.mpr (List.getElem?_eq_getElem hi))
    simpa using hnone
  · intro h e he
    have hmem : e.1 ∈ rows := List.fst_mem_of_mem_zipIdx he
    rw [h e.1 hmem]
    exact Bool.false_ne_true

theorem lt_pyMax {limit a b : F} (ha : IsNumber a) (hb : IsNumber b) :
    limit < pyMax a b ↔ limit < a ∨ limit < b := by
  unfold pyMax
  split
  · rename_i hab
    exact ⟨Or.inr, fun h => h.elim (fun hlt => FloatNum.lt_trans hlt hab) id⟩
  · rename_i hab
    have hle := FloatNum.le_of_not_lt ha hb hab
    exact ⟨Or.inl, fun h => h.elim id fun hlt => FloatNum.lt_of_lt_of_le hlt hle⟩

theorem pyMax_isNumber {a b : F} (ha : IsNumber a) (hb : IsNumber b) : IsNumber (pyMax a b) := by
  unfold pyMax
  split
  · exact hb
  · exact ha

theorem lt_maxFrom {limit x : F} {values : List F} (hx : IsNumber x)
    (hall : ∀ y ∈ values, IsNumber y) :
    limit < maxFrom x values ↔ limit < x ∨ ∃ y ∈ values, limit < y := by
  unfold maxFrom
  induction values generalizing x with
  | nil => simp
  | cons y rest ih =>
    obtain ⟨hy, hrest⟩ := List.forall_mem_cons.mp hall
    rw [List.foldl_cons, ih (pyMax_isNumber hx hy) hrest, lt_pyMax hx hy, List.exists_mem_cons_iff,
      or_assoc]

theorem computeDrawdown_pass {rows : List (DrawdownRow F)} :
    (computeDrawdown lang th rows).status = "PASS" ↔
      rows ≠ [] ∧ drawdownGaps lang rows = [] ∧ drawdownBlocked lang th rows = false := by
  have insufficient : "INSUFFICIENT_EVIDENCE" ≠ "PASS" := by decide
  have failed : "FAIL" ≠ "PASS" := by decide
  rw [← computeDrawdown_nil]
  unfold computeDrawdown
  split
  · exact iff_of_false insufficient nofun
  · split
    · exact iff_of_false insufficient nofun
    · split
      · exact iff_of_false failed nofun
      · exact iff_of_true rfl rfl

/-- What is said of a drawdown column that can be read. -/
theorem withinLimit_iff {d : DrawdownRow F} {x : F} (h : d.drawdownPct = .float x) :
    WithinLimit th d ↔ ¬ th.maxDrawdownPct < x := by
  unfold WithinLimit
  rw [h]
  exact ⟨fun hall => hall x rfl, fun hlt y hy => Lib.Value.float.inj hy ▸ hlt⟩

/-- Rows that can be read are blocked by one beyond the limit or one that is not resolved. -/
theorem drawdownBlocked_iff {rows : List (DrawdownRow F)} (h : ∀ d ∈ rows, ∃ x,
      d.drawdownPct = .float x ∧ FloatNum.isFinite x = true ∧
        finiteNumber lang d.drawdownPct = some x) :
    drawdownBlocked lang th rows = false ↔ ∀ d ∈ rows, WithinLimit th d ∧ d.resolved ≠ some 0 := by
  have hunresolved : unresolvedDrawdowns rows = 0 ↔ ∀ d ∈ rows, d.resolved ≠ some 0 := by
    unfold unresolvedDrawdowns
    rw [List.length_eq_zero_iff, List.filter_eq_nil_iff]
    simp only [decide_eq_true_eq]
  have hmax : (maxDrawdown lang rows).any (fun x => th.maxDrawdownPct < x) = false ↔
      ∀ d ∈ rows, WithinLimit th d := by
    cases rows with
    | nil => exact iff_of_true rfl (List.forall_mem_nil _)
    | cons d rest =>
      obtain ⟨⟨x, hx, hfinite, hread⟩, hrest⟩ := List.forall_mem_cons.mp h
      have hnumbers : ∀ y ∈ rest.filterMap (fun d => finiteNumber lang d.drawdownPct),
          IsNumber y := by
        intro y hy
        obtain ⟨e, he, hye⟩ := List.mem_filterMap.mp hy
        obtain ⟨z, _, hz, hreadz⟩ := hrest e he
        rw [hreadz] at hye
        cases hye
        exact isNumber_of_finite hz
      have hvalues : (d :: rest).filterMap (fun d => finiteNumber lang d.drawdownPct) =
          x :: rest.filterMap fun d => finiteNumber lang d.drawdownPct :=
        List.filterMap_cons_some hread
      unfold maxDrawdown
      rw [hvalues]
      simp only [Option.any_some, decide_eq_false_iff_not]
      rw [lt_maxFrom (isNumber_of_finite hfinite) hnumbers, List.forall_mem_cons,
        withinLimit_iff hx, not_or]
      refine and_congr_right fun _ => ?_
      constructor
      · intro hnone e he
        obtain ⟨z, hz, _, hreadz⟩ := hrest e he
        exact (withinLimit_iff hz).mpr fun hlt =>
          hnone ⟨z, List.mem_filterMap.mpr ⟨e, he, hreadz⟩, hlt⟩
      · rintro hall ⟨y, hy, hlt⟩
        obtain ⟨e, he, hye⟩ := List.mem_filterMap.mp hy
        obtain ⟨z, hz, _, hreadz⟩ := hrest e he
        rw [hreadz] at hye
        cases hye
        exact (withinLimit_iff hz).mp (hall e he) hlt
  unfold drawdownBlocked
  rw [Bool.or_eq_false_iff, hmax, decide_eq_false_iff_not, not_not, hunresolved]
  exact forall₂_and.symm

/-- A row of a report that can be read has a drawdown that the reader finds. -/
theorem drawdown_read {t : Period F} {m : Measured F} (h : measured t.report = some m)
    (hm : Measurable m) : ∃ x, (drawdownRow t m).drawdownPct = .float x ∧
      FloatNum.isFinite x = true ∧ finiteNumber lang (drawdownRow t m).drawdownPct = some x := by
  have hfinite := (finite_of_measurable (sane_of_report h) hm).2
  have hcolumn : (drawdownRow t m).drawdownPct = .float m.maxDrawdown :=
    realColumn_number (isNumber_of_finite hfinite)
  refine ⟨m.maxDrawdown, hcolumn, hfinite, ?_⟩
  show finiteNumber lang (realColumn m.maxDrawdown) = some m.maxDrawdown
  rw [finiteNumber_realColumn, if_pos hfinite]

theorem resolved_cases (m : Measured F) : m.resolved = 0 ∨ m.resolved = 1 := by
  unfold Measured.resolved
  split
  · exact Or.inr rfl
  · exact Or.inl rfl

/-- The qualification reads the rows of a campaign, in any order. -/
def Reads (campaignId : String) (periods : List (Period F)) (rows : List (DrawdownRow F)) : Prop :=
  rows.Perm (aggregated campaignId (snapshots periods))

/-- **When the component passes on the rows of a campaign.** -/
theorem passes_iff {campaignId : String} {periods : List (Period F)} {rows : List (DrawdownRow F)}
    (h : Reads campaignId periods rows) : (computeDrawdown lang th rows).status = "PASS" ↔
      snapshots periods ≠ [] ∧
        ∀ d ∈ snapshots periods, RowMeasurable d ∧ WithinLimit th d ∧ d.resolved = some 1 := by
  have hmem : ∀ p : DrawdownRow F → Prop,
      (∀ (d : DrawdownRow F) id, p { d with drawdownEventId := id } ↔ p d) →
      ((∀ d ∈ rows, p d) ↔ ∀ d ∈ snapshots periods, p d) := by
    intro p hp
    have hperm : (∀ d ∈ rows, p d) ↔ ∀ d ∈ aggregated campaignId (snapshots periods), p d :=
      forall_congr' fun d => by rw [h.mem_iff]
    rw [hperm]
    unfold aggregated
    rw [List.forall_mem_map]
    exact forall₂_congr fun d _ => hp d _
  have hnil : rows = [] ↔ snapshots periods = [] := by
    rw [← List.length_eq_zero_iff, h.length_eq]
    unfold aggregated
    rw [List.length_map, List.length_eq_zero_iff]
  have hmissing : (∀ d ∈ rows, drawdownMissing lang d = []) ↔
      ∀ d ∈ snapshots periods, RowMeasurable d := by
    rw [hmem _ fun d id => Iff.rfl]
    refine forall₂_congr fun d hd => ?_
    obtain ⟨t, m, hm, rfl⟩ := mem_snapshots hd
    rw [drawdownMissing_nil hm, rowMeasurable_iff]
  rw [computeDrawdown_pass, drawdownGaps_nil, hmissing, ne_eq, ne_eq, hnil]
  refine and_congr_right fun _ => ?_
  rw [forall₂_and]
  refine and_congr_right fun hall => ?_
  have hread : ∀ d ∈ rows, ∃ x, d.drawdownPct = .float x ∧ FloatNum.isFinite x = true ∧
      finiteNumber lang d.drawdownPct = some x := by
    rw [hmem _ fun d id => Iff.rfl]
    intro d hd
    obtain ⟨t, m, hm, rfl⟩ := mem_snapshots hd
    exact drawdown_read hm (rowMeasurable_iff.mp (hall _ hd))
  rw [drawdownBlocked_iff hread, hmem _ fun d id => Iff.rfl]
  refine forall₂_congr fun d hd => and_congr_right fun _ => ?_
  obtain ⟨t, m, hm, rfl⟩ := mem_snapshots hd
  show some m.resolved ≠ some 0 ↔ some m.resolved = some 1
  rcases resolved_cases m with h0 | h1
  · rw [h0]
    decide
  · rw [h1]
    decide

variable (lang th) in
/-- A campaign whose last snapshot is resolved and whose drawdowns are within the limit passes, and
    one whose last snapshot is not resolved does not. -/
def RecoveryHonoured (campaignId : String) (periods : List (Period F)) : Prop :=
  ∀ rows, Reads campaignId periods rows → ∀ last, (snapshots periods).getLast? = some last →
    (last.resolved = some 1 → (∀ d ∈ snapshots periods, WithinLimit th d) →
      (computeDrawdown lang th rows).status = "PASS") ∧
    (last.resolved = some 0 → (computeDrawdown lang th rows).status ≠ "PASS")

variable (lang th) in
/-- **Recovery counts exactly where there was nothing to recover from**: a campaign that ends
    resolved and within the limit passes when every snapshot on its way was resolved, and readable,
    and only then. One that ends unresolved never passes. -/
theorem recovery_honoured_iff (campaignId : String) (periods : List (Period F)) :
    RecoveryHonoured lang th campaignId periods ↔
      ∀ last, (snapshots periods).getLast? = some last → last.resolved = some 1 →
        (∀ d ∈ snapshots periods, WithinLimit th d) →
        ∀ d ∈ snapshots periods, d.resolved = some 1 ∧ RowMeasurable d := by
  constructor
  · intro h last hlast hresolved hlimit d hd
    have hpass := (h _ (List.Perm.refl _) last hlast).1 hresolved hlimit
    obtain ⟨hreadable, _, hone⟩ := ((passes_iff (List.Perm.refl _)).mp hpass).2 d hd
    exact ⟨hone, hreadable⟩
  · intro h rows hreads last hlast
    have hmem : last ∈ snapshots periods := List.mem_of_getLast? hlast
    constructor
    · intro hresolved hlimit
      refine (passes_iff hreads).mpr ⟨List.ne_nil_of_mem hmem, fun d hd => ?_⟩
      obtain ⟨hone, hreadable⟩ := h last hlast hresolved hlimit d hd
      exact ⟨hreadable, hlimit d hd, hone⟩
    · intro hunresolved hpass
      have hone := (((passes_iff hreads).mp hpass).2 last hmem).2.2
      rw [hunresolved] at hone
      cases hone

/-! Two periods of one campaign: after a loss, and after the win that makes up for it. -/

def floatLanguage : Language Float where
  py := ⟨fun _ => none, fun _ => "", fun _ => ""⟩
  upper := id
  sqrt := id
  lower := id
  inf := 0

def samplePeriod (now : String) (accepted : List AcceptedRow) (outcomes : List (OutcomeRow Float)) :
    Period Float where
  burninRunId := "R1"
  now := now
  runtimeStatus := "RUNNING"
  initial := some 1000
  cooldownSec := 0
  loaded := .campaign "C1" accepted outcomes
  instant := 1767226000000000

def samplePeriods : List (Period Float) :=
  [samplePeriod "2026-01-01T00:00:01Z" [Portfolio.sampleTrade 1 "T1"]
      [sampleOutcome 1 "T1" "2026-01-01T00:00:00Z" 1767225600000000 (-5) "SL_HIT"],
    samplePeriod "2026-01-01T00:00:03Z" sampleAccepted
      [sampleOutcome 1 "T1" "2026-01-01T00:00:00Z" 1767225600000000 (-5) "SL_HIT",
        sampleOutcome 2 "T2" "2026-01-01T00:00:02Z" 1767225602000000 5 "TP_HIT"]]

theorem sample_failed :
    (computeDrawdown floatLanguage ({} : Thresholds Float)
      (aggregated "C1" (snapshots samplePeriods))).status = "FAIL" := by decide +kernel

/-- A drawdown above the limit. -/
def aboveDrawdown (th : Thresholds F) : Lib.Value F → Bool
  | .float x => decide (th.maxDrawdownPct < x)
  | _ => false

/-- **A loss of half a percent is made up for, and blocks all the same.** -/
theorem recovered_blocked : ¬ RecoveryHonoured floatLanguage {} "C1" samplePeriods := by
  have hlast : (snapshots samplePeriods).getLast?.map DrawdownRow.resolved = some (some 1) := by
    decide +kernel
  have hwithin : ((snapshots samplePeriods).all fun d =>
      !aboveDrawdown ({} : Thresholds Float) d.drawdownPct) = true := by decide +kernel
  intro h
  obtain ⟨last, hmem, hresolved⟩ := Option.map_eq_some_iff.mp hlast
  have hpass := (h _ (List.Perm.refl _) last hmem).1 hresolved fun d hd x hx hlt => by
    have hrow := List.all_eq_true.mp hwithin d hd
    rw [hx] at hrow
    have habove : aboveDrawdown ({} : Thresholds Float) (.float x) = true := decide_eq_true hlt
    rw [habove] at hrow
    cases hrow
  rw [sample_failed] at hpass
  exact absurd hpass (by decide)

end Recovery

end AlphaForge.Burnin
