/-
  File:      AlphaForge/Burnin/Observations.lean
  Subject:   `burnin.py`: the table of burn-in observations and the rows that count as decisions.

  * `Observation`, `Observations` -- a row of `burnin_observations`, and the table with its physical
    row ids: `INSERT OR REPLACE` deletes the row of the observation id and appends a new one.
  * `canonicalDecision` -- `canonical_decision_sql`: of the canonical rows of a run with one
    decision identity, the one with the smallest row id.
  * `canonicalDecision_iff` -- it is the row that leads its key.
  * **`canonical_sound_iff`** -- one row per identity, the row of the observation that was persisted
    first, and counts that no replay changes: that is so after every prefix of a history exactly
    where every call is careful and the second row of an identity has the verdict of the first.
-/
import AlphaForge.Lib.Dictionary
import AlphaForge.Lib.Extended
import AlphaForge.Lib.Payload
import AlphaForge.Lib.Upsert

namespace AlphaForge.Burnin

open AlphaForge.Lib

/-! ## 1. Rows -/

/-- What the language and the database make of a text or a number. -/
structure Host where
  /-- `text.upper()`. -/
  upper : String → String
  /-- The number of a JSON integer, which is rounded beyond 64 bits. -/
  number : ℤ → Extended
  /-- The text of a JSON array or object. -/
  jsonText : Value Extended → String

/-- A row of `burnin_observations` less its id; `evidenceComplete` is the flag, the JSON columns are
    kept as what they hold. -/
structure Observation where
  observationId : String
  burninRunId : String
  releaseId : String
  observedAt : String
  executionMode : String
  symbol : Option String
  interval : Option String
  regime : String
  decision : Option String
  lifecycleState : Option String
  evidenceComplete : Bool
  missingFields : List String
  metrics : Payload Extended
  sourceProvenance : Payload Extended

/-- The arguments of `persist_burnin_observation`. -/
structure ObservationArgs where
  observationId : String
  burninRunId : String
  releaseId : String
  executionMode : String
  observedAt : Option String := none
  symbol : Option String := none
  interval : Option String := none
  regime : Option String := none
  decision : Option String := none
  lifecycleState : Option String := none
  metrics : Payload Extended := []
  sourceProvenance : Payload Extended := []
  missingFields : List String := []
  observationKind : String := "CANONICAL_DECISION"

/-- A call and what `utc_now` answers in it. -/
structure Call where
  args : ObservationArgs
  now : String

/-- `a or b` of a text that may be missing. -/
def textOr (a : Option String) (b : String) : String :=
  match a with
  | some s => if s = "" then b else s
  | none => b

variable (host : Host)

/-- The row that `persist_burnin_observation` writes. -/
def Call.row (call : Call) : Observation where
  observationId := call.args.observationId
  burninRunId := call.args.burninRunId
  releaseId := call.args.releaseId
  observedAt := textOr call.args.observedAt call.now
  executionMode := call.args.executionMode
  symbol := call.args.symbol
  interval := call.args.interval
  regime := textOr call.args.regime "UNKNOWN"
  decision := call.args.decision
  lifecycleState := call.args.lifecycleState
  evidenceComplete := call.args.missingFields.isEmpty
  missingFields := call.args.missingFields
  metrics := assign call.args.metrics "observation_kind"
    (.text (host.upper call.args.observationKind))
  sourceProvenance := call.args.sourceProvenance

/-! ## 2. The table -/

/-- `burnin_observations`: its rows by increasing id, and the last id that AUTOINCREMENT gave. -/
structure Observations where
  rows : List (ℕ × Observation)
  lastId : ℕ
  idsIncrease : rows.Pairwise fun r s => r.1 < s.1
  idsGiven : ∀ r ∈ rows, r.1 ≤ lastId

namespace Observations

def empty : Observations := ⟨[], 0, List.Pairwise.nil, List.forall_mem_nil _⟩

/-- `INSERT OR REPLACE` under the unique observation id. -/
def insertOrReplace (t : Observations) (o : Observation) : Observations where
  rows := (t.rows.filter fun r => r.2.observationId ≠ o.observationId) ++ [(t.lastId + 1, o)]
  lastId := t.lastId + 1
  idsIncrease := by
    refine List.pairwise_append.mpr ⟨t.idsIncrease.filter _, List.pairwise_singleton _ _, ?_⟩
    intro r hr s hs
    have := t.idsGiven r (List.mem_of_mem_filter hr)
    rw [List.mem_singleton.mp hs]
    omega
  idsGiven := by
    intro r hr
    rcases List.mem_append.mp hr with hr | hr
    · have := t.idsGiven r (List.mem_of_mem_filter hr)
      omega
    · rw [List.mem_singleton.mp hr]

/-- The rows without their ids. -/
def contents (t : Observations) : List Observation := t.rows.map Prod.snd

end Observations

/-- `persist_burnin_observation`. -/
def persistBurninObservation (t : Observations) (call : Call) : Observations :=
  t.insertOrReplace (call.row host)

/-- The table after a history of calls. -/
def persistAll (calls : List Call) : Observations :=
  calls.foldl (persistBurninObservation host) .empty

/-! ## 3. The decisions that count -/

/-- What `json_extract` answers, less NULL. -/
inductive SqlValue where
  | number (x : Extended)
  | text (s : String)
  deriving DecidableEq

/-- `json_extract(metrics, '$.key')`. -/
def jsonExtract (metrics : Payload Extended) (key : String) : Option SqlValue :=
  match metrics.get key with
  | .none => none
  | .bool b => some (.number (host.number (if b then 1 else 0)))
  | .int n => some (.number (host.number n))
  | .float .nan => none
  | .float x => some (.number x)
  | .text s => some (.text s)
  | v => some (.text (host.jsonText v))

/-- `text LIKE 'pattern%'`: `_` stands for one character, letters match in either case. -/
def likePrefix : List Char → List Char → Bool
  | [], _ => true
  | _ :: _, [] => false
  | p :: pattern, c :: text => (p = '_' || p.toUpper = c.toUpper) && likePrefix pattern text

/-- `legacy_kind`. -/
def legacyKind (o : Observation) : String :=
  if likePrefix "incomplete_reject_geometry_".toList o.observationId.toList then "DIAGNOSTIC"
  else "CANONICAL_DECISION"

/-- `kind`: NaN and infinities are no valid JSON. -/
def isCanonical (o : Observation) : Bool :=
  let explicit :=
    if finiteEntries o.metrics then jsonExtract host o.metrics "observation_kind" else none
  match explicit with
  | some (.text s) => upper s = "CANONICAL_DECISION"
  | some (.number _) => false
  | none => upper (legacyKind o) = "CANONICAL_DECISION"

/-- `identity`. -/
def identity (o : Observation) : SqlValue :=
  ((jsonExtract host o.metrics "reject_decision_id").or
    (jsonExtract host o.metrics "signal_id")).getD (.text o.observationId)

/-- `canonical_decision_sql`: no canonical row of the run with the identity has a smaller id. -/
def canonicalDecision (t : Observations) (r : ℕ × Observation) : Bool :=
  isCanonical host r.2 && !t.rows.any fun other =>
    other.2.burninRunId = r.2.burninRunId && isCanonical host other.2 &&
      identity host other.2 = identity host r.2 && decide (other.1 < r.1)

/-- `obs` of `derive_burnin_run_counters`: the decisions of a run that count. -/
def decisionRows (t : Observations) (run : String) : List (ℕ × Observation) :=
  t.rows.filter fun r => r.2.burninRunId = run && canonicalDecision host t r

/-- `str(decision or "").upper()`. -/
def verdict (o : Observation) : String := host.upper (textOr o.decision "")

/-- The counts of decisions in `derive_burnin_run_counters`. -/
structure DecisionCounters where
  sampleCount : ℕ
  acceptedCount : ℕ
  rejectedCount : ℕ
  incompleteObs : ℕ
  deriving DecidableEq, Repr

def deriveDecisionCounters (t : Observations) (run : String) : DecisionCounters :=
  let obs := (decisionRows host t run).map Prod.snd
  { sampleCount := obs.length
    acceptedCount := (obs.filter fun o => verdict host o = "ACCEPTED").length
    rejectedCount := (obs.filter fun o => verdict host o = "REJECTED").length
    incompleteObs := (obs.filter fun o => !o.evidenceComplete).length }

/-! ## 4. Leading rows -/

/-- The run and decision identity of a canonical row. -/
def decisionKey (o : Observation) : Option (String × SqlValue) :=
  if isCanonical host o then some (o.burninRunId, identity host o) else none

variable {host} {t : Observations} {r : ℕ × Observation} {o : Observation}

theorem decisionKey_eq_iff {k : String × SqlValue} : decisionKey host o = some k ↔
    isCanonical host o = true ∧ o.burninRunId = k.1 ∧ identity host o = k.2 := by
  unfold decisionKey
  by_cases h : isCanonical host o = true
  · rw [if_pos h, Option.some.injEq, Prod.ext_iff]
    exact ⟨fun hk => ⟨h, hk⟩, fun hk => hk.2⟩
  · rw [if_neg h]
    exact iff_of_false nofun fun hk => h hk.1

theorem contents_insertOrReplace (t : Observations) (o : Observation) :
    (t.insertOrReplace o).contents = upsert Observation.observationId t.contents o := by
  unfold Observations.contents Observations.insertOrReplace upsert without
  rw [List.map_append, List.map_singleton, List.filter_map]
  rfl

theorem contents_persistAll (calls : List Call) : (persistAll host calls).contents =
    upsertAll Observation.observationId (calls.map (Call.row host)) := by
  induction calls using List.reverseRecOn with
  | nil => rfl
  | append_singleton done call ih =>
    rw [List.map_append, List.map_singleton, upsertAll_concat, ← ih]
    unfold persistAll
    rw [List.foldl_append]
    exact contents_insertOrReplace _ _

/-- In a list by increasing id, a row has no smaller one before it exactly where it is found
    first. -/
theorem find_of_increasing {rows : List (ℕ × Observation)} (h : rows.Pairwise fun r s => r.1 < s.1)
    {p : ℕ × Observation → Bool} (hr : r ∈ rows) (hp : p r = true) :
    (∀ s ∈ rows, p s = true → ¬ s.1 < r.1) ↔ rows.find? p = some r := by
  induction rows with
  | nil => cases hr
  | cons x rest ih =>
    obtain ⟨hx, hrest⟩ := List.pairwise_cons.mp h
    rcases List.mem_cons.mp hr with heq | hlater
    · rw [heq] at hp ⊢
      rw [List.find?_cons_of_pos hp]
      refine iff_of_true (fun s hs _ => ?_) rfl
      rcases List.mem_cons.mp hs with heq | hs
      · rw [heq]
        exact Nat.lt_irrefl _
      · exact Nat.lt_asymm (hx s hs)
    · by_cases hpx : p x = true
      · rw [List.find?_cons_of_pos hpx]
        refine iff_of_false (fun hall => hall x (List.mem_cons_self ..) hpx (hx r hlater))
          fun heq => ?_
        cases heq
        exact Nat.lt_irrefl _ (hx _ hlater)
      · rw [List.find?_cons_of_neg hpx, ← ih hrest hlater, List.forall_mem_cons]
        exact ⟨fun hall => hall.2, fun hall => ⟨fun hx => absurd hx hpx, hall⟩⟩

/-- **A row of the table counts exactly where it is the earliest of its key.** -/
theorem canonicalDecision_iff (hnodup : (t.contents.map Observation.observationId).Nodup)
    (hr : r ∈ t.rows) : canonicalDecision host t r = true ↔
      leads Observation.observationId (decisionKey host) t.contents r.2 = true := by
  have hmem : r.2 ∈ t.contents := List.mem_map_of_mem hr
  have hlead : leads Observation.observationId (decisionKey host) t.contents r.2 = true ↔
      ∃ k, earliest (decisionKey host) k t.contents = some r.2 := by
    rw [← mem_leaders hnodup]
    unfold leaders
    rw [List.mem_filter]
    exact ⟨fun h => ⟨hmem, h⟩, fun h => h.2⟩
  rw [hlead]
  unfold canonicalDecision
  by_cases hc : isCanonical host r.2 = true
  · have hkey : decisionKey host r.2 = some (r.2.burninRunId, identity host r.2) := by
      unfold decisionKey
      rw [if_pos hc]
    have hfirst : (∃ k, earliest (decisionKey host) k t.contents = some r.2) ↔
        earliest (decisionKey host) (r.2.burninRunId, identity host r.2) t.contents =
          some r.2 := by
      refine ⟨fun ⟨k, hk⟩ => ?_, fun h => ⟨_, h⟩⟩
      have hrk := earliest_key hk
      rw [hkey] at hrk
      cases hrk
      exact hk
    rw [hfirst, hc, Bool.true_and, Bool.not_eq_true', List.any_eq_false]
    have hfind := find_of_increasing t.idsIncrease (p := fun s => decide
      (decisionKey host s.2 = some (r.2.burninRunId, identity host r.2))) hr (decide_eq_true hkey)
    have hrows : earliest (decisionKey host) (r.2.burninRunId, identity host r.2) t.contents =
        some r.2 ↔ t.rows.find? (fun s => decide
          (decisionKey host s.2 = some (r.2.burninRunId, identity host r.2))) = some r := by
      unfold earliest Observations.contents
      rw [List.find?_map, Option.map_eq_some_iff]
      constructor
      · intro ⟨s, hs, hsr⟩
        have hrows : (t.rows.map (Observation.observationId ∘ Prod.snd)).Nodup := by
          rw [← List.map_map]
          exact hnodup
        have heq : s = r := List.inj_on_of_nodup_map hrows (List.mem_of_find?_eq_some hs) hr
          (congrArg Observation.observationId hsr)
        rw [heq] at hs
        exact hs
      · intro h
        exact ⟨r, h, rfl⟩
    rw [hrows, ← hfind]
    refine forall₂_congr fun s _ => ?_
    simp only [decide_eq_true_eq, decisionKey_eq_iff, Bool.and_eq_true]
    tauto
  · rw [Bool.eq_false_iff.mpr hc, Bool.false_and]
    refine iff_of_false nofun fun ⟨k, hk⟩ => ?_
    have hrk := (decisionKey_eq_iff.mp (earliest_key hk)).1
    exact hc hrk

/-! ## 5. One decision per identity -/

variable (host) in
theorem nodup_persistAll (calls : List Call) :
    ((persistAll host calls).contents.map Observation.observationId).Nodup := by
  rw [contents_persistAll]
  exact nodup_upsertAll _

theorem mem_decisionRows (hnodup : (t.contents.map Observation.observationId).Nodup)
    {run : String} : r ∈ decisionRows host t run ↔ r ∈ t.rows ∧ r.2.burninRunId = run ∧
      ∃ k, earliest (decisionKey host) k t.contents = some r.2 := by
  unfold decisionRows
  rw [List.mem_filter, Bool.and_eq_true, decide_eq_true_iff]
  refine and_congr_right fun hr => and_congr_right fun _ => ?_
  rw [canonicalDecision_iff hnodup hr, ← mem_leaders hnodup]
  unfold leaders
  rw [List.mem_filter]
  exact ⟨fun h => ⟨List.mem_map_of_mem hr, h⟩, fun h => h.2⟩

/-- **Of the canonical rows of a run with one identity, exactly one counts**, in every state. -/
theorem exists_unique_decision (calls : List Call) {r : ℕ × Observation}
    (hr : r ∈ (persistAll host calls).rows) (hc : isCanonical host r.2 = true) :
    ∃! s, s ∈ decisionRows host (persistAll host calls) r.2.burninRunId ∧
      identity host s.2 = identity host r.2 := by
  have hnodup := nodup_persistAll host calls
  have hkey : decisionKey host r.2 = some (r.2.burninRunId, identity host r.2) :=
    decisionKey_eq_iff.mpr ⟨hc, rfl, rfl⟩
  have hmem : r.2 ∈ (persistAll host calls).contents := List.mem_map_of_mem hr
  obtain ⟨o, ho⟩ := earliest_isSome hmem hkey
  obtain ⟨s, hs, hso⟩ := List.mem_map.mp (earliest_mem ho)
  rw [← hso] at ho
  obtain ⟨_, hrun, hid⟩ := decisionKey_eq_iff.mp (earliest_key ho)
  refine ⟨s, ⟨(mem_decisionRows hnodup).mpr ⟨hs, hrun, _, ho⟩, hid⟩, fun s' ⟨hs', hid'⟩ => ?_⟩
  obtain ⟨hmem', hrun', k, hk⟩ := (mem_decisionRows hnodup).mp hs'
  have hkk : k = (r.2.burninRunId, identity host r.2) := by
    obtain ⟨_, hk1, hk2⟩ := decisionKey_eq_iff.mp (earliest_key hk)
    exact Prod.ext (hk1.symm.trans hrun') (hk2.symm.trans hid')
  rw [hkk, ho] at hk
  have hrows : ((persistAll host calls).rows.map (Observation.observationId ∘ Prod.snd)).Nodup := by
    rw [← List.map_map]
    exact hnodup
  exact List.inj_on_of_nodup_map hrows hmem' hs
    (congrArg Observation.observationId (Option.some.inj hk).symm)

/-! ## 6. The first one, and replays -/

/-- `ACCEPTED`, `REJECTED`, or neither. -/
def verdictKind (host : Host) (o : Observation) : Bool × Bool :=
  (verdict host o = "ACCEPTED", verdict host o = "REJECTED")

variable (host) in
/-- A further call with the same arguments leaves the accepted and rejected counts of a run
    alone. -/
def ReplayKeeps (calls : List Call) (call : Call) (now run : String) : Prop :=
  let before := deriveDecisionCounters host (persistAll host calls) run
  let after := deriveDecisionCounters host (persistAll host (calls ++ [⟨call.args, now⟩])) run
  after.acceptedCount = before.acceptedCount ∧ after.rejectedCount = before.rejectedCount

variable (host) in
/-- **What the counters promise of a history of calls**: one row of an identity counts, it is the
    row of the observation that was persisted first with the identity, and persisting an observation
    again that is unchanged in the table leaves the accepted and rejected counts alone. -/
structure Sound (calls : List Call) : Prop where
  one : ∀ r ∈ (persistAll host calls).rows, isCanonical host r.2 = true →
    ∃! s, s ∈ decisionRows host (persistAll host calls) r.2.burninRunId ∧
      identity host s.2 = identity host r.2
  first : ∀ run, ∀ r ∈ decisionRows host (persistAll host calls) run,
    ∃ c, (calls.map (Call.row host)).find? (fun o => decisionKey host o = decisionKey host r.2) =
      some c ∧ c.observationId = r.2.observationId
  replay : ∀ call ∈ calls, call.row host ∈ (persistAll host calls).contents →
    ∀ now run, ReplayKeeps host calls call now run

variable (host) in
/-- Where an identity has further rows, the second one has the verdict of the first. -/
def Agreeing (rows : List Observation) : Prop :=
  ∀ k o next, earliest (decisionKey host) k rows = some o →
    earliest (decisionKey host) k (without Observation.observationId o.observationId rows) =
      some next → verdictKind host next = verdictKind host o

variable (host) in
/-- The number of leading rows of a run with a verdict. -/
def verdictCount (rows : List Observation) (run word : String) : ℕ :=
  ((leaders Observation.observationId (decisionKey host) rows).filter fun o =>
    o.burninRunId = run && decide (verdict host o = word)).length

/-- The rows that count are the leading ones of the run. -/
theorem map_decisionRows (hnodup : (t.contents.map Observation.observationId).Nodup)
    (run : String) :
    (decisionRows host t run).map Prod.snd =
      (leaders Observation.observationId (decisionKey host) t.contents).filter fun o =>
        o.burninRunId = run := by
  unfold decisionRows leaders
  rw [List.filter_filter]
  show _ = (t.rows.map Prod.snd).filter _
  rw [List.filter_map]
  refine congrArg (List.map Prod.snd) (List.filter_congr fun r hr => ?_)
  rw [Bool.eq_iff_iff, Bool.and_eq_true, canonicalDecision_iff hnodup hr]
  simp only [Function.comp_apply, Bool.and_eq_true, decide_eq_true_eq]

variable (host) in
theorem counters_eq (hnodup : (t.contents.map Observation.observationId).Nodup) (run : String) :
    (deriveDecisionCounters host t run).acceptedCount =
        verdictCount host t.contents run "ACCEPTED" ∧
      (deriveDecisionCounters host t run).rejectedCount =
        verdictCount host t.contents run "REJECTED" := by
  unfold deriveDecisionCounters verdictCount
  simp only [map_decisionRows hnodup, List.filter_filter]
  exact ⟨congrArg List.length (List.filter_congr fun _ _ => Bool.and_comm ..),
    congrArg List.length (List.filter_congr fun _ _ => Bool.and_comm ..)⟩

/-- A replay in terms of the leading rows. -/
theorem replayKeeps_iff (calls : List Call) (call : Call) (now run : String) :
    ReplayKeeps host calls call now run ↔ ∀ word ∈ ["ACCEPTED", "REJECTED"],
      verdictCount host (upsert Observation.observationId (persistAll host calls).contents
        (Call.row host ⟨call.args, now⟩)) run word =
      verdictCount host (persistAll host calls).contents run word := by
  have hafter : (persistAll host (calls ++ [⟨call.args, now⟩])).contents =
      upsert Observation.observationId (persistAll host calls).contents
        (Call.row host ⟨call.args, now⟩) := by
    rw [contents_persistAll, contents_persistAll, List.map_append, List.map_singleton,
      upsertAll_concat]
  have hbefore := counters_eq host (nodup_persistAll host calls) run
  have hcount := counters_eq host (nodup_persistAll host (calls ++ [⟨call.args, now⟩])) run
  unfold ReplayKeeps
  simp only [hbefore, hcount, hafter, List.forall_mem_cons, List.not_mem_nil, false_implies,
    implies_true, and_true]

theorem verdictCount_upsert_iff {rows : List Observation}
    (hnodup : (rows.map Observation.observationId).Nodup) {call : Call}
    (hmem : call.row host ∈ rows) (now run word : String) :
    verdictCount host (upsert Observation.observationId rows (Call.row host ⟨call.args, now⟩)) run
        word = verdictCount host rows run word ↔
      ∀ k, earliest (decisionKey host) k rows = some (call.row host) → ∀ next,
        earliest (decisionKey host) k
          (without Observation.observationId (call.row host).observationId rows) = some next →
        (decide (next.burninRunId = run) && decide (verdict host next = word)) =
          (decide ((call.row host).burninRunId = run) &&
            decide (verdict host (call.row host) = word)) := by
  unfold verdictCount
  exact count_upsert_iff (o := Call.row host ⟨call.args, now⟩) hnodup hmem rfl rfl rfl

/-- **Replays leave the counts alone exactly where the second row of every identity agrees with the
    first.** -/
theorem replay_iff (calls : List Call) :
    (∀ call ∈ calls, call.row host ∈ (persistAll host calls).contents →
      ∀ now run, ReplayKeeps host calls call now run) ↔
    Agreeing host (persistAll host calls).contents := by
  have hnodup := nodup_persistAll host calls
  have hrun : ∀ {k o next}, earliest (decisionKey host) k (persistAll host calls).contents =
    some o →
      earliest (decisionKey host) k (without Observation.observationId o.observationId
        (persistAll host calls).contents) = some next → next.burninRunId = o.burninRunId :=
    fun ho hnext => (decisionKey_eq_iff.mp (earliest_key hnext)).2.1.trans
      (decisionKey_eq_iff.mp (earliest_key ho)).2.1.symm
  constructor
  · intro h k o next ho hnext
    have hwritten : o ∈ calls.map (Call.row host) := by
      have hmem : o ∈ upsertAll Observation.observationId (calls.map (Call.row host)) := by
        rw [← contents_persistAll]
        exact earliest_mem ho
      exact mem_of_mem_upsertAll hmem
    obtain ⟨call, hcall, hrow⟩ := List.mem_map.mp hwritten
    rw [← hrow] at ho hnext ⊢
    have hkeeps := (replayKeeps_iff calls call call.now (call.row host).burninRunId).mp
      (h call hcall (earliest_mem ho) _ _)
    have hword : ∀ word ∈ ["ACCEPTED", "REJECTED"],
        decide (verdict host next = word) = decide (verdict host (call.row host) = word) := by
      intro word hword
      have heq := (verdictCount_upsert_iff hnodup (earliest_mem ho) _ _ word).mp
        (hkeeps word hword) k ho next hnext
      rwa [hrun ho hnext, decide_eq_true rfl, Bool.true_and, Bool.true_and] at heq
    unfold verdictKind
    rw [hword "ACCEPTED" (by decide), hword "REJECTED" (by decide)]
  · intro h call _ hmem now run
    rw [replayKeeps_iff]
    intro word hword
    refine (verdictCount_upsert_iff hnodup hmem now run word).mpr fun k ho next hnext => ?_
    have hagree := h k _ next ho hnext
    unfold verdictKind at hagree
    obtain ⟨haccepted, hrejected⟩ := Prod.mk.inj hagree
    rw [hrun ho hnext]
    simp only [List.mem_cons, List.not_mem_nil, or_false] at hword
    rcases hword with rfl | rfl
    · rw [haccepted]
    · rw [hrejected]

/-- The first one persisted counts, in the terms of the leading rows. -/
theorem first_iff (calls : List Call) :
    (∀ run, ∀ r ∈ decisionRows host (persistAll host calls) run,
      ∃ c, (calls.map (Call.row host)).find? (fun o => decisionKey host o = decisionKey host r.2) =
        some c ∧ c.observationId = r.2.observationId) ↔
    FirstKept Observation.observationId (decisionKey host) (calls.map (Call.row host)) := by
  have hnodup := nodup_persistAll host calls
  unfold FirstKept
  rw [← contents_persistAll]
  constructor
  · intro h k o ho
    obtain ⟨r, hr, hro⟩ := List.mem_map.mp (earliest_mem ho)
    have hlead : earliest (decisionKey host) k (persistAll host calls).contents = some r.2 := by
      rw [hro]
      exact ho
    obtain ⟨c, hc, hname⟩ := h r.2.burninRunId r ((mem_decisionRows hnodup).mpr ⟨hr, rfl, k, hlead⟩)
    rw [earliest_key hlead] at hc
    rw [hro] at hname
    exact ⟨c, hc, hname⟩
  · intro h run r hr
    obtain ⟨_, _, k, hk⟩ := (mem_decisionRows hnodup).mp hr
    obtain ⟨c, hc, hname⟩ := h k r.2 hk
    rw [earliest_key hk]
    exact ⟨c, hc, hname⟩

/-- **The counters keep what they promise after every prefix of a history exactly where every call
    is careful** (it rewrites no row that counts while its identity has further ones, and takes up
    an identity again that has no row left only under the observation that had it first) **and the
    second row of every identity has the verdict of the first.** -/
theorem canonical_sound_iff (host : Host) (calls : List Call) :
    (∀ done, done <+: calls → Sound host done) ↔
      (∀ done call, done ++ [call] <+: calls → Careful Observation.observationId (decisionKey host)
        (done.map (Call.row host)) (call.row host)) ∧
      ∀ done, done <+: calls → Agreeing host (persistAll host done).contents := by
  have hfirst : (∀ done, done <+: calls →
        FirstKept Observation.observationId (decisionKey host) (done.map (Call.row host))) ↔
      ∀ done call, done ++ [call] <+: calls → Careful Observation.observationId (decisionKey host)
        (done.map (Call.row host)) (call.row host) := firstKept_iff (Call.row host) calls
  rw [← hfirst]
  constructor
  · intro h
    exact ⟨fun done hprefix => (first_iff done).mp (h done hprefix).first,
      fun done hprefix => (replay_iff done).mp (h done hprefix).replay⟩
  · intro ⟨hkept, hagree⟩ done hprefix
    exact ⟨fun r hr hc => exists_unique_decision done hr hc,
      (first_iff done).mpr (hkept done hprefix), (replay_iff done).mpr (hagree done hprefix)⟩

/-! ## 7. One decision accepted and rejected -/

/-- A host on plain texts. -/
def sampleHost : Host := ⟨upper, fun n => .finite n, fun _ => ""⟩

/-- An observation of one signal. -/
def sampleCall (observationId decision : String) : Call :=
  ⟨{ observationId := observationId, burninRunId := "run", releaseId := "release",
     executionMode := "PAPER", decision := some decision,
     metrics := [("signal_id", .text "signal")] }, "2026-01-01T00:00:00Z"⟩

def sampleCalls : List Call := [sampleCall "first" "ACCEPTED", sampleCall "second" "REJECTED"]

/-- **A replay of the accepted observation makes the rejected one count**: before it the counts are
    not safe from a replay, after it the first one persisted does not count. -/
theorem replay_flips :
    deriveDecisionCounters sampleHost (persistAll sampleHost sampleCalls) "run" = ⟨1, 1, 0, 0⟩ ∧
      deriveDecisionCounters sampleHost
        (persistAll sampleHost (sampleCalls ++ [sampleCall "first" "ACCEPTED"])) "run" =
          ⟨1, 0, 1, 0⟩ ∧
      ¬ Sound sampleHost sampleCalls ∧
      ¬ Sound sampleHost (sampleCalls ++ [sampleCall "first" "ACCEPTED"]) := by
  refine ⟨by decide +kernel, by decide +kernel, fun h => ?_, fun h => ?_⟩
  · have hmem : (sampleCall "first" "ACCEPTED").row sampleHost ∈
        (persistAll sampleHost sampleCalls).contents := by
      rw [contents_persistAll]
      exact mem_upsert.mpr (Or.inl ⟨mem_upsert.mpr (Or.inr rfl), by decide⟩)
    have hkeeps := (h.replay _ (List.mem_cons_self ..) hmem "now" "run").1
    revert hkeeps
    decide +kernel
  · have hrows : (decisionRows sampleHost (persistAll sampleHost
        (sampleCalls ++ [sampleCall "first" "ACCEPTED"])) "run").map (fun r =>
          (r.2.observationId, decisionKey sampleHost r.2)) =
        [("second", some ("run", .text "signal"))] := by decide +kernel
    have hmem := List.mem_singleton_self (("second", some ("run", SqlValue.text "signal")))
    rw [← hrows] at hmem
    obtain ⟨r, hr, hpair⟩ := List.mem_map.mp hmem
    obtain ⟨hid, hkey⟩ := Prod.mk.inj hpair
    obtain ⟨c, hc, hname⟩ := h.first "run" r hr
    rw [hkey] at hc
    have hfound := congrArg (Option.map Observation.observationId) hc
    rw [Option.map_some, hname, hid] at hfound
    revert hfound
    decide +kernel

end AlphaForge.Burnin
