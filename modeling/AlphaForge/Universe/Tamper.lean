/-
  File:      AlphaForge/Universe/Tamper.lean
  Subject:   `universe_evidence.py`: what the hashes of a cycle say about the payload that is read.

  The hashes cover the constraints, the candidates, the time, the commit, the hash of the strategy
  and the versions; the cycle id covers the mode. They do not cover the providers, nor an entry that
  the payload has besides.

  * `verifiedKeys` -- the entries that two loads of equal hashes agree on.
  * **`tamper_evident_iff`** -- with an injective hash, two loads of one cycle with equal hashes
    give the same payload exactly when the rest of the stored payloads agrees.
  * **`providers_forged`** -- a cycle that loads still loads after its providers were replaced.
-/
import AlphaForge.Universe.Replay

namespace AlphaForge.Universe

open AlphaForge.Lib

variable {F B : Type} [FloatNum F] {a : Archive F B}

/-! ## 1. What is covered -/

/-- The entries that a load compares with something hashed. -/
def verifiedKeys : List String :=
  ["cycle_id", "decision_timestamp", "execution_mode", "constraints", "candidates",
    "selected_symbols", "config_hash", "strategy_config_hash", "universe_hash", "evidence_hash",
    "git_sha", "ranking_version", "schema_version"]

/-- The hashes of a cycle row. -/
def recordedHashes (db : Db F) (id : String) : Option (String × Option String × String × String) :=
  (db.cycle id).map fun r => (r.configHash, r.strategyConfigHash, r.universeHash, r.evidenceHash)

variable (a) in
/-- The stored payload of a cycle, less what only describes its storage. -/
def keptPayload (db : Db F) (id : String) : Payload F :=
  match db.cycle id with
  | none => []
  | some row =>
    match a.loads row.payloadJson with
    | .ok (.mapping payload) =>
      match storageCodec payload with
      | some codec => kept codec payload
      | none => []
    | _ => []

/-- Two stored payloads agree on what is not verified. A hash that is null may be left out. -/
structure Agrees (p q : Payload F) : Prop where
  others : ∀ key, key ∉ verifiedKeys →
    (p.lookup key).map Value.normal = (q.lookup key).map Value.normal
  strategy : (p.lookup "strategy_config_hash").isSome = (q.lookup "strategy_config_hash").isSome

/-! ## 2. What a load pins down -/

/-- Equal hashes are of one canonical value. -/
theorem hash_covers (hinj : Function.Injective a.sha256) {v w : Value F} {hash : String}
    (hv : canonicalHash a.toHost v = .ok hash) (hw : canonicalHash a.toHost w = .ok hash) :
    v.canonical = w.canonical := by
  obtain ⟨hvf, hvd⟩ := canonicalHash_ok_iff.mp hv
  obtain ⟨hwf, hwd⟩ := canonicalHash_ok_iff.mp hw
  exact a.digest_injective hinj hvf hwf (hvd.trans hwd.symm)

/-- A candidate is read from its row. -/
def IsRead (r : CandidateRow F) (c : Payload F) : Prop :=
  ∃ reasons observed components availability,
    c = candidateDict r reasons observed components availability

theorem readCandidates_rows {details : Option (List (Payload F × Payload F))} {index : ℕ}
    {rows : List (CandidateRow F)} {cs : List (Payload F)}
    (h : readCandidates a details index rows = .ok cs) : List.Forall₂ IsRead rows cs := by
  induction rows generalizing index cs with
  | nil =>
    cases Except.ok.inj h
    exact List.Forall₂.nil
  | cons r rest ih =>
    obtain ⟨c, hc, h⟩ := ok_of_bind h
    obtain ⟨others, hothers, h⟩ := ok_of_bind h
    cases Except.ok.inj h
    refine List.Forall₂.cons ?_ (ih hothers)
    obtain ⟨_, _, hc⟩ := ok_of_bind hc
    obtain ⟨observed, _, hc⟩ := ok_of_bind hc
    obtain ⟨availability, _, hc⟩ := ok_of_bind hc
    obtain ⟨resolved, _, hc⟩ := ok_of_bind hc
    obtain ⟨reasons, _, hc⟩ := ok_of_bind hc
    obtain ⟨components, _, hc⟩ := ok_of_bind hc
    obtain ⟨_, _, hc⟩ := ok_of_bind hc
    exact ⟨reasons, resolved.1, components, resolved.2, (Except.ok.inj hc).symm⟩

omit [FloatNum F] in
/-- The hashed candidates tell which symbols are selected. -/
theorem actualSelected_congr {rows rows' : List (CandidateRow F)} {cs cs' : List (Payload F)}
    (h : List.Forall₂ IsRead rows cs) (h' : List.Forall₂ IsRead rows' cs')
    (heq : cs.map (fun c => (Value.mapping c).canonical) =
      cs'.map fun c => (Value.mapping c).canonical) :
    actualSelected rows = actualSelected rows' := by
  induction h generalizing rows' cs' with
  | nil =>
    cases h' with
    | nil => rfl
    | cons _ _ => cases heq
  | @cons r c rest others hr _ ih =>
    cases h' with
    | nil => cases heq
    | @cons r' c' rest' others' hr' hrest' =>
      rw [List.map_cons, List.map_cons, List.cons.injEq] at heq
      obtain ⟨reasons, observed, components, availability, rfl⟩ := hr
      obtain ⟨reasons', observed', components', availability', rfl⟩ := hr'
      have hsymbol : r.symbol = r'.symbol := by
        have hfound := canonical_lookup heq.1 "symbol"
        simpa [candidateDict, List.lookup_cons, Value.canonical] using hfound
      have hselected : decide (r.selected ≠ 0) = decide (r'.selected ≠ 0) := by
        have hfound := canonical_lookup heq.1 "selected"
        simpa [candidateDict, List.lookup_cons, Value.canonical, Value.reshape] using hfound
      have hrest : actualSelected rest = actualSelected rest' := ih hrest' heq.2
      unfold actualSelected at hrest ⊢
      rw [List.filter_cons, List.filter_cons, hselected]
      split
      · rw [List.map_cons, List.map_cons, hrest, hsymbol]
      · exact hrest

section Covered

variable {db db' : Db F} {id : String} {r r' : Reading F} {p p' : Payload F}

theorem keptPayload_eq (h : Reads a db id r p) : keptPayload a db id = kept r.codec r.payload := by
  unfold keptPayload
  rw [h.row]
  simp only
  rw [h.payload]
  simp only
  rw [h.codec]

/-- The payload that is returned is the stored one but for the candidates. -/
theorem lookup_merged (h : Reads a db id r p) {key : String} (hkey : key ≠ "candidates") :
    p.lookup key = (keptPayload a db id).lookup key := by
  rw [keptPayload_eq h]
  have hmerged := h.merged
  unfold mergeCandidates at hmerged
  split at hmerged
  · rename_i hcodec
    obtain ⟨_, _, hp⟩ := ok_of_bind hmerged
    rw [← Except.ok.inj hp, hcodec]
    rfl
  · obtain ⟨_, _, hp⟩ := ok_of_bind hmerged
    rw [← Except.ok.inj hp, lookup_assign, if_neg hkey]

theorem lookup_candidates (h : Reads a db id r p) : (p.lookup "candidates").map Value.normal =
    some (Value.list (r.candidates.map .mapping)).normal := by
  have hmerged := h.merged
  unfold mergeCandidates at hmerged
  split at hmerged
  · obtain ⟨_, hsame, hp⟩ := ok_of_bind hmerged
    rw [← Except.ok.inj hp]
    exact lookup_of_same (require_ok.mp hsame) (fun he => by cases he)
  · obtain ⟨_, _, hp⟩ := ok_of_bind hmerged
    rw [← Except.ok.inj hp, lookup_assign, if_pos rfl]
    rfl

theorem cycle_id (h : Reads a db id r p) : r.row.cycleId = id := by
  have hfound := List.find?_some h.row
  exact of_decide_eq_true hfound

/-- What the hashes say about the columns and the candidates of a cycle. -/
structure Covered (r r' : Reading F) : Prop where
  cycleId : r.row.cycleId = r'.row.cycleId
  decisionTimestamp : r.row.decisionTimestamp = r'.row.decisionTimestamp
  executionMode : r.row.executionMode = r'.row.executionMode
  configHash : r.row.configHash = r'.row.configHash
  strategyConfigHash : r.row.strategyConfigHash = r'.row.strategyConfigHash
  universeHash : r.row.universeHash = r'.row.universeHash
  evidenceHash : r.row.evidenceHash = r'.row.evidenceHash
  gitSha : r.row.gitSha = r'.row.gitSha
  rankingVersion : r.row.rankingVersion = r'.row.rankingVersion
  schemaVersion : r.row.schemaVersion = r'.row.schemaVersion
  constraints : (Value.mapping r.constraints).canonical = (Value.mapping r'.constraints).canonical
  candidates : r.candidates.map (fun c => (Value.mapping c).canonical) =
    r'.candidates.map fun c => (Value.mapping c).canonical

theorem covered_of_hashes (hinj : Function.Injective a.sha256) (h : Reads a db id r p)
    (h' : Reads a db' id r' p') (hhash : recordedHashes db id = recordedHashes db' id) :
    Covered r r' := by
  unfold recordedHashes at hhash
  rw [h.row, h'.row] at hhash
  simp only [Option.map_some, Option.some.injEq, Prod.mk.injEq] at hhash
  obtain ⟨hconfig, hstrategy, huniverse, hevidence⟩ := hhash
  have hid : r.row.cycleId = r'.row.cycleId := (cycle_id h).trans (cycle_id h').symm
  have hcanonical := hash_covers hinj h.evidenceHash (hevidence ▸ h'.evidenceHash)
  have hfield := canonical_lookup hcanonical
  have htime := hfield "decision_timestamp"
  have hcandidates := hfield "candidates"
  have hsha := hfield "git_sha"
  have hranking := hfield "ranking_version"
  have hschema := hfield "schema_version"
  simp only [canonicalOf, List.lookup_cons, String.reduceBEq, Option.map_some, Option.some.injEq,
    Value.canonical, reshape_text, Value.text.injEq] at hsha hranking hschema
  simp only [canonicalOf, List.lookup_cons, String.reduceBEq, Option.map_some, Option.some.injEq,
    Value.canonical, Value.reshape, id_eq, Value.float.injEq] at htime
  simp only [canonicalOf, List.lookup_cons, String.reduceBEq, Option.map_some,
    Option.some.injEq] at hcandidates
  have hmode : r.row.executionMode = r'.row.executionMode := by
    have hcycle := h.cycleId.symm.trans (hid.trans h'.cycleId)
    rw [hevidence, String.append_left_inj, String.append_left_inj,
      String.append_right_inj] at hcycle
    exact hcycle
  refine ⟨hid, htime, hmode, hconfig, hstrategy, huniverse, hevidence, hsha, hranking, hschema,
    hash_covers hinj h.configHash (hconfig ▸ h'.configHash), ?_⟩
  have hlist := canonical_list hcandidates
  rwa [List.map_map, List.map_map] at hlist

/-- Entries that are compared with one value are the same. -/
theorem lookup_congr {key : String} {v w : Value F} (h : (Payload.get p key).Same v)
    (h' : (Payload.get p' key).Same w) (hv : v ≠ .none) (heq : v = w) :
    (p.lookup key).map Value.normal = (p'.lookup key).map Value.normal := by
  rw [lookup_of_same h hv, lookup_of_same h' (heq ▸ hv), heq]

/-- **The verified entries are the same.** -/
theorem verified_lookup (hinj : Function.Injective a.sha256) (h : Reads a db id r p)
    (h' : Reads a db' id r' p') (hhash : recordedHashes db id = recordedHashes db' id)
    {key : String}
    (hkey : key ∈ verifiedKeys) (hne : key ≠ "strategy_config_hash") :
    (p.lookup key).map Value.normal = (p'.lookup key).map Value.normal := by
  have hc := covered_of_hashes hinj h h' hhash
  have he := h.expected
  have he' := h'.expected
  simp only [expectedOf, List.forall_mem_cons] at he he'
  obtain ⟨hid, htime, hmode, -, hconfig, -, huniverse, hevidence, hsha, -, hranking,
    hschema, -⟩ := he
  obtain ⟨hid', htime', hmode', -, hconfig', -, huniverse', hevidence', hsha', -, hranking',
    hschema', -⟩ := he'
  unfold verifiedKeys at hkey
  simp only [List.mem_cons, List.not_mem_nil, or_false] at hkey
  rcases hkey with rfl | rfl | rfl | rfl | rfl | rfl | rfl | rfl | rfl | rfl | rfl | rfl | rfl
  · exact lookup_congr hid hid' (fun he => by cases he) (congrArg Value.text hc.cycleId)
  · exact lookup_congr htime htime' (fun he => by cases he)
      (congrArg Value.float hc.decisionTimestamp)
  · exact lookup_congr hmode hmode' (fun he => by cases he) (congrArg Value.text hc.executionMode)
  · rw [lookup_of_get h.constraints (fun he => by cases he),
      lookup_of_get h'.constraints (fun he => by cases he)]
    exact congrArg some (normal_eq_of_canonical hc.constraints)
  · rw [lookup_candidates h, lookup_candidates h']
    refine congrArg some (normal_eq_of_canonical ?_)
    unfold Value.canonical
    rw [reshape_list, reshape_list, reshapeItems_eq_map, reshapeItems_eq_map, List.map_map,
      List.map_map]
    exact congrArg Value.list hc.candidates
  · rw [h.symbols, h'.symbols]
    have hsymbols := actualSelected_congr (readCandidates_rows h.candidates)
      (readCandidates_rows h'.candidates) hc.candidates
    have hprojection : r.symbols.normal = (textList (actualSelected (db.stored id))).normal :=
      h.projection
    have hprojection' : r'.symbols.normal = (textList (actualSelected (db'.stored id))).normal :=
      h'.projection
    rw [Option.map_some, Option.map_some, hprojection, hprojection', hsymbols]
  · exact lookup_congr hconfig hconfig' (fun he => by cases he) (congrArg Value.text hc.configHash)
  · exact absurd rfl hne
  · exact lookup_congr huniverse huniverse' (fun he => by cases he)
      (congrArg Value.text hc.universeHash)
  · exact lookup_congr hevidence hevidence' (fun he => by cases he)
      (congrArg Value.text hc.evidenceHash)
  · exact lookup_congr hsha hsha' (fun he => by cases he) (congrArg Value.text hc.gitSha)
  · exact lookup_congr hranking hranking' (fun he => by cases he)
      (congrArg Value.text hc.rankingVersion)
  · exact lookup_congr hschema hschema' (fun he => by cases he)
      (congrArg Value.text hc.schemaVersion)

/-- The hash of the strategy is the same, or it is null and may be left out. -/
theorem strategy_lookup (hinj : Function.Injective a.sha256) (h : Reads a db id r p)
    (h' : Reads a db' id r' p') (hhash : recordedHashes db id = recordedHashes db' id) :
    (p.lookup "strategy_config_hash").map Value.normal =
        (p'.lookup "strategy_config_hash").map Value.normal ↔
      (p.lookup "strategy_config_hash").isSome = (p'.lookup "strategy_config_hash").isSome := by
  have hc := covered_of_hashes hinj h h' hhash
  have hstrategy : (Payload.get p "strategy_config_hash").Same
      (optionalText r.row.strategyConfigHash) :=
    h.expected ("strategy_config_hash", optionalText r.row.strategyConfigHash)
      (by unfold expectedOf; simp)
  have hstrategy' : (Payload.get p' "strategy_config_hash").Same
      (optionalText r'.row.strategyConfigHash) :=
    h'.expected ("strategy_config_hash", optionalText r'.row.strategyConfigHash)
      (by unfold expectedOf; simp)
  rw [← hc.strategyConfigHash] at hstrategy'
  cases hhash : r.row.strategyConfigHash with
  | some hash =>
    rw [hhash] at hstrategy hstrategy'
    have hfound := lookup_of_same hstrategy (fun he => by cases he)
    have hfound' := lookup_of_same hstrategy' (fun he => by cases he)
    have hsome : (p.lookup "strategy_config_hash").isSome = true := by
      simpa using congrArg Option.isSome hfound
    have hsome' : (p'.lookup "strategy_config_hash").isSome = true := by
      simpa using congrArg Option.isSome hfound'
    exact iff_of_true (hfound.trans hfound'.symm) (hsome.trans hsome'.symm)
  | none =>
    rw [hhash] at hstrategy hstrategy'
    have hnone : ∀ {q : Payload F}, (Payload.get q "strategy_config_hash").Same
      (optionalText none) →
        q.lookup "strategy_config_hash" = none ∨ q.lookup "strategy_config_hash" = some .none := by
      intro q hq
      have hget : Payload.get q "strategy_config_hash" = .none := normal_eq_none hq
      cases hlookup : q.lookup "strategy_config_hash" with
      | none => exact Or.inl rfl
      | some v => exact Or.inr (congrArg some ((get_of_lookup hlookup).symm.trans hget))
    rcases hnone hstrategy with hp | hp <;> rcases hnone hstrategy' with hp' | hp' <;>
      simp [hp, hp']

end Covered

/-! ## 3. Forged providers -/

/-- The universe with other providers. -/
def withProviders (s : Selection F) (providers : List String) : Selection F :=
  { s with sourceProvenance := providers }

theorem sealed_withProviders {s : Selection F} {host : Host F} (h : Sealed host s)
    (providers : List String) : Sealed host (withProviders s providers) :=
  ⟨h.configHash, h.evidenceHash, h.universeHash, h.cycleId, h.selected⟩

theorem recordedHashes_fresh {s : Selection F} {db : Db F} (hfresh : db.cycle s.cycleId = none)
    {json : String} {params : List (CandidateRow F)} :
    recordedHashes (withCycle db (cycleRow a s json) params) s.cycleId =
      some (s.configHash, s.strategyConfigHash, s.universeHash, s.evidenceHash) := by
  have hrow : (withCycle db (cycleRow a s json) params).cycle s.cycleId =
      some (cycleRow a s json) := by
    have hfound : [cycleRow a s json].find? (fun r => r.cycleId = s.cycleId) =
        some (cycleRow a s json) := by
      simp [cycleRow]
    unfold Db.cycle withCycle at *
    rw [List.find?_append, hfresh, hfound]
    rfl
  unfold recordedHashes
  rw [hrow]
  rfl

theorem textList_normal {texts others : List String}
    (h : (textList texts : Value F).normal = (textList others : Value F).normal) :
    texts = others := by
  unfold textList Value.normal at h
  rw [reshape_list, reshape_list, Value.list.injEq, reshapeItems_eq_map, reshapeItems_eq_map,
    List.map_map, List.map_map] at h
  have htext : Value.reshape (denoted (F := F)) ∘ Value.text = Value.text := by
    funext s
    exact reshape_text s
  rw [htext] at h
  exact List.map_injective_iff.mpr (fun _ _ he => Value.text.inj he) h

/-- **The providers can be replaced**: two tables with the same cycle and the same hashes load, and
    return different payloads. -/
theorem providers_forged {s : Selection F} (hs : Sealed a.toHost s)
    (hsize : a.size (a.encode (a.compact (detailsOf s))) ≤ maxCandidateDetailsBytes)
    {providers : List String} (hne : providers ≠ s.sourceProvenance) {db : Db F}
    (hforeign : Foreign db) (hfresh : db.cycle s.cycleId = none) :
    ∃ db₁ db₂ p₁ p₂, load a db₁ s.cycleId = .ok p₁ ∧ load a db₂ s.cycleId = .ok p₂ ∧
      recordedHashes db₁ s.cycleId = recordedHashes db₂ s.cycleId ∧
      ¬ (Value.mapping p₁).Same (.mapping p₂) := by
  have hs' := sealed_withProviders hs providers
  obtain ⟨details, json, params, hpack, hjson, hparams⟩ := sealed_writable hs hsize
  obtain ⟨details', json', params', hpack', hjson', hparams'⟩ := sealed_writable hs' hsize
  obtain ⟨p₁, hp₁, hsame₁⟩ := (stored_fresh hs hforeign hfresh hpack hjson hparams).read
  obtain ⟨p₂, hp₂, hsame₂⟩ := (stored_fresh hs' hforeign hfresh hpack' hjson' hparams').read
  refine ⟨_, _, p₁, p₂, hp₁, hp₂, ?_, fun hsame => hne ?_⟩
  · rw [recordedHashes_fresh hfresh]
    exact (recordedHashes_fresh (s := withProviders s providers) hfresh).symm
  · have hdicts : (Value.mapping s.asDict).normal =
        (Value.mapping (withProviders s providers).asDict).normal :=
      (hsame₁.symm.trans hsame).trans hsame₂
    unfold Value.normal at hdicts
    rw [reshape_mapping, reshape_mapping, Value.mapping.injEq] at hdicts
    have hentry := reshapeEntries_eq_iff.mp hdicts "source_provenance"
    have htexts : (textList s.sourceProvenance : Value F).normal = (textList providers).normal :=
      Option.some.inj hentry
    exact (textList_normal htexts).symm

/-! ## 4. Two loads of one cycle -/

/-- **With an injective hash, two loads of one cycle whose hashes are equal return the same payload
    exactly when the stored payloads agree on what no hash covers.** -/
theorem tamper_evident_iff (hinj : Function.Injective a.sha256) {db db' : Db F} {id : String}
    {p p' : Payload F} (h : load a db id = .ok p) (h' : load a db' id = .ok p')
    (hhash : recordedHashes db id = recordedHashes db' id) :
    (Value.mapping p).Same (.mapping p') ↔ Agrees (keptPayload a db id) (keptPayload a db' id) := by
  obtain ⟨r, hr⟩ := load_ok_iff.mp h
  obtain ⟨r', hr'⟩ := load_ok_iff.mp h'
  have hstrategyNe : "strategy_config_hash" ≠ "candidates" := by decide
  have hsame : (Value.mapping p).Same (.mapping p') ↔
      ∀ key, (p.lookup key).map Value.normal = (p'.lookup key).map Value.normal := by
    unfold Value.Same Value.normal
    rw [reshape_mapping, reshape_mapping, Value.mapping.injEq]
    exact reshapeEntries_eq_iff
  rw [hsame]
  constructor
  · intro heq
    refine ⟨fun key hkey => ?_, ?_⟩
    · have hne : key ≠ "candidates" := fun he => hkey (he ▸ by decide)
      rw [← lookup_merged hr hne, ← lookup_merged hr' hne]
      exact heq key
    · rw [← lookup_merged hr hstrategyNe, ← lookup_merged hr' hstrategyNe]
      exact (strategy_lookup hinj hr hr' hhash).mp (heq _)
  · intro hagrees key
    by_cases hkey : key ∈ verifiedKeys
    · by_cases hstrategy : key = "strategy_config_hash"
      · subst hstrategy
        refine (strategy_lookup hinj hr hr' hhash).mpr ?_
        rw [lookup_merged hr hstrategyNe, lookup_merged hr' hstrategyNe]
        exact hagrees.strategy
      · exact verified_lookup hinj hr hr' hhash hkey hstrategy
    · have hne : key ≠ "candidates" := fun he => hkey (he ▸ by decide)
      rw [lookup_merged hr hne, lookup_merged hr' hne]
      exact hagrees.others key hkey

/-- The universe of one candidate, and the same with forged providers. -/
theorem tamper_evident_sample :
    ∃ id db₁ db₂ p₁ p₂, load sampleArchive db₁ id = .ok p₁ ∧ load sampleArchive db₂ id = .ok p₂ ∧
      recordedHashes db₁ id = recordedHashes db₂ id ∧
      ((Value.mapping p₁).Same (.mapping p₂) ↔
        Agrees (keptPayload sampleArchive db₁ id) (keptPayload sampleArchive db₂ id)) := by
  obtain ⟨u, hu, hsize⟩ := sample_universe
  have hne : "FORGED" :: u.sourceProvenance ≠ u.sourceProvenance := List.cons_ne_self _ _
  obtain ⟨db₁, db₂, p₁, p₂, h₁, h₂, hhash, -⟩ :=
    providers_forged (build_sealed hu) hsize hne foreign_emptyDb rfl
  exact ⟨_, db₁, db₂, p₁, p₂, h₁, h₂, hhash,
    tamper_evident_iff (fun _ _ h => String.ofList_injective h) h₁ h₂ hhash⟩

/-- **Equal hashes and two payloads**, under an injective hash. -/
theorem tampered_providers :
    Function.Injective sampleArchive.sha256 ∧
      ∃ id db₁ db₂ p₁ p₂, load sampleArchive db₁ id = .ok p₁ ∧ load sampleArchive db₂ id = .ok p₂ ∧
        recordedHashes db₁ id = recordedHashes db₂ id ∧
        ¬ (Value.mapping p₁).Same (.mapping p₂) := by
  obtain ⟨u, hu, hsize⟩ := sample_universe
  have hne : "FORGED" :: u.sourceProvenance ≠ u.sourceProvenance := List.cons_ne_self _ _
  exact ⟨fun _ _ h => String.ofList_injective h, u.cycleId,
    providers_forged (build_sealed hu) hsize hne foreign_emptyDb rfl⟩

end AlphaForge.Universe
