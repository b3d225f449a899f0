/-
  File:      AlphaForge/Universe/Replay.lean
  Subject:   `universe_evidence.py`: a stored universe is read back as it was selected.

  * `Sealed` -- the hashes and the id of a universe are those of its content; `build_sealed` says it
    of every universe that is selected.
  * **`load_persisted`** -- a sealed universe in a new cycle is read back.
  * **`persisted_universe`** -- a universe that was persisted is read back after any later persists,
    persisting it again changes nothing, and another universe under its id is refused.
-/
import AlphaForge.Lib.PrefixText
import AlphaForge.Universe.Evidence

namespace AlphaForge.Universe

open AlphaForge.Lib

variable {F B : Type} [FloatNum F] {a : Archive F B}

/-! ## 1. Sealed universes -/

/-- What `canonical` is of a universe that is read back. -/
def sealedPayload (s : Selection F) : Payload F :=
  [("decision_timestamp", .float s.decisionTimestamp),
    ("constraints", .mapping s.constraints.asDict),
    ("candidates", .list (s.candidates.map fun d => .mapping d.asDict)),
    ("git_sha", .text s.gitSha),
    ("strategy_config_hash", optionalText s.strategyConfigHash),
    ("ranking_version", .text s.rankingVersion),
    ("schema_version", .text s.schemaVersion)]

/-- The hashes and the id are those of the content. -/
structure Sealed (host : Host F) (s : Selection F) : Prop where
  configHash : canonicalHash host (.mapping s.constraints.asDict) = .ok s.configHash
  evidenceHash : canonicalHash host (.mapping (sealedPayload s)) = .ok s.evidenceHash
  universeHash : canonicalHash host (.mapping (universeOf s.selectedSymbols s.evidenceHash)) =
    .ok s.universeHash
  cycleId : s.cycleId = "universe:" ++ s.executionMode ++ ":" ++ s.evidenceHash
  selected : s.selectedSymbols = selectedSymbols s.candidates

/-- A universe with the constraints it was selected under. -/
def Selection.of (u : SelectedUniverse F) (c : UniverseConstraints F) : Selection F :=
  { u with constraints := c }

/-- **Every universe that is selected is sealed.** -/
theorem build_sealed {host : Host F} {c : UniverseConstraints F} {request : Request F}
    {items : List (Payload F)} {u : SelectedUniverse F}
    (h : buildSelectedUniverse host c request items = .ok u) : Sealed host (Selection.of u c) := by
  unfold buildSelectedUniverse at h
  split at h
  · cases h
  · obtain ⟨rows, _, h⟩ := ok_of_bind h
    obtain ⟨_, _, h⟩ := ok_of_bind h
    unfold sealUniverse at h
    obtain ⟨evidenceHash, hevidence, h⟩ := ok_of_bind h
    obtain ⟨configHash, hconfig, h⟩ := ok_of_bind h
    obtain ⟨universeHash, huniverse, h⟩ := ok_of_bind h
    cases Except.ok.inj h
    exact ⟨hconfig, hevidence, huniverse, rfl, rfl⟩

/-! ## 2. The frame of a cycle -/

theorem dumpsStrict_ok {v : Value F} {text : String} :
    a.dumpsStrict v = .ok text ↔ v.finite = true ∧ a.compact v = text := by
  unfold Archive.dumpsStrict
  split
  · rename_i h
    rw [Except.ok.injEq]
    exact (and_iff_right h).symm
  · rename_i h
    exact iff_of_false (fun he => by cases he) fun he => h he.1

/-- What a frame holds of a candidate. -/
def storedPair (d : Decision F) : Payload F × Payload F :=
  (reshapeEntries id d.observedInputs, reshapeEntries id (availabilityOfDecision d))

omit [FloatNum F] in
theorem detailPairs (ds : List (Decision F)) :
    (reshapeItems id (ds.map fun d =>
      .list [.mapping d.observedInputs, .mapping (availabilityOfDecision d)])).mapM detailPair =
      .ok (ds.map storedPair) := by
  induction ds with
  | nil => rfl
  | cons d rest ih =>
    rw [List.map_cons, reshapeItems, List.mapM_cons, ih]
    rfl

/-- A frame that was packed is unpacked. -/
theorem unpack_pack {s : Selection F} {details : Value F}
    (h : packCandidateDetails a s = .ok details) :
    details.finite = true ∧ unpackCandidateDetails a details.canonical s.candidates.length =
      .ok (s.candidates.map storedPair) := by
  unfold packCandidateDetails at h
  obtain ⟨text, htext, h⟩ := ok_of_bind h
  obtain ⟨hfinite, rfl⟩ := dumpsStrict_ok.mp htext
  simp only at h
  split at h
  · cases h
  rename_i hbound
  rw [not_lt] at hbound
  cases Except.ok.inj h
  refine ⟨rfl, ?_⟩
  generalize hraw : a.encode (a.compact (detailsOf s)) = raw at hbound
  have hpos : 0 < a.size raw := hraw ▸ a.compact_pos _
  have hlength : (a.b64encode (a.compress raw)).length ≤ 2 * maxCandidateDetailsBytes := by
    have hencode := a.b64encode_length (a.compress raw)
    have hcompress := a.compress_bound raw
    unfold maxCandidateDetailsBytes at hbound ⊢
    omega
  have hread : a.loadsBytes raw = .ok (detailsOf s).canonical :=
    hraw ▸ a.loadsBytes_compact _ hfinite
  have hframe : ∀ entries : Payload F, Payload.get entries "sha256" = .text (a.sha256 raw) →
      readFrame a entries (a.size raw) (a.b64encode (a.compress raw)) = .ok raw := by
    intro entries hsha
    unfold readFrame
    rw [a.b64decode_encode, ok_bind, Int.toNat_natCast, a.decompress_compress, ok_bind, hsha,
      require_ok.mpr ⟨rfl, rfl, rfl, rfl, rfl⟩]
    rfl
  generalize hentries : ([("codec", .text "zlib-json-v1"),
    ("uncompressed_bytes", .int (a.size raw)),
    ("sha256", .text (a.sha256 raw)), ("data", .text (a.b64encode (a.compress raw)))] : Payload F) =
      entries
  have hget : ∀ key, Payload.get (reshapeEntries id entries) key =
    (Payload.get entries key).canonical :=
    get_reshape entries
  have hkeys : entries.map Prod.fst = frameKeys := by rw [← hentries]; rfl
  have hcodec : Payload.get (reshapeEntries id entries) "codec" = .text "zlib-json-v1" := by
    rw [hget, ← hentries]
    rfl
  have hsize : Payload.get (reshapeEntries id entries) "uncompressed_bytes" =
    .int (a.size raw) := by
    rw [hget, ← hentries]
    rfl
  have hsha : Payload.get (reshapeEntries id entries) "sha256" = .text (a.sha256 raw) := by
    rw [hget, ← hentries]
    rfl
  have hdata : Payload.get (reshapeEntries id entries) "data" =
      .text (a.b64encode (a.compress raw)) := by
    rw [hget, ← hentries]
    rfl
  have hmem : ∀ key, key ∈ (reshapeEntries id entries).map Prod.fst ↔ key ∈ frameKeys := by
    intro key
    rw [mem_keys_reshape, hkeys]
  unfold Value.canonical
  rw [reshape_mapping]
  unfold unpackCandidateDetails
  simp only
  rw [require_ok.mpr ⟨fun key hkey => (hmem key).mp hkey, fun key hkey => (hmem key).mpr hkey,
    congrArg Value.normal hcodec⟩, ok_bind, hsize, hdata]
  simp only
  rw [require_ok.mpr ⟨by exact_mod_cast hpos, by exact_mod_cast hbound, hlength⟩, ok_bind,
    hframe _ hsha, ok_bind, hread, ok_bind]
  unfold detailsOf Value.canonical
  rw [reshape_list]
  simp only
  rw [require_ok.mpr (by rw [reshapeItems_eq_map, List.length_map, List.length_map]), ok_bind,
    detailPairs]

/-! ## 3. The rows of the candidates -/

theorem finite_textList (texts : List String) : (textList texts : Value F).finite = true := by
  unfold textList
  rw [finite_list, finiteItems_iff, List.forall_mem_map]
  intro s _
  rfl

/-- A candidate as it is read back from its row and its frame entry. -/
def readBack (r : CandidateRow F) (d : Decision F) : Payload F :=
  candidateDict r (textList d.reasons).canonical (.mapping (storedPair d).1)
    (Value.mapping d.rankingComponents).canonical (.mapping (storedPair d).2)

theorem candidateRow_ok {id : String} {index : ℕ} {d : Decision F} {r : CandidateRow F}
    (h : candidateRow a id index d = .ok r) : (Value.mapping d.rankingComponents).finite = true ∧
      r = { cycleId := id
            candidateIndex := index
            symbol := d.symbol
            eligibilityState := d.state.value
            exclusionReasonsJson := a.dumps (textList d.reasons)
            observedInputsJson := a.dumps (detailReference index)
            rankingComponentsJson := a.compact (.mapping d.rankingComponents)
            rankingScore := d.score
            rankingOrder := d.rank.map Int.ofNat
            selected := if d.selected then 1 else 0
            evidenceAvailabilityJson := a.dumps (detailReference index) } := by
  obtain ⟨components, hcomponents, h⟩ := ok_of_bind h
  obtain ⟨hfinite, rfl⟩ := dumpsStrict_ok.mp hcomponents
  exact ⟨hfinite, (Except.ok.inj h).symm⟩

/-- The canonical form of what is read back is that of the decision. -/
theorem readBack_canonical {id : String} {index : ℕ} {d : Decision F} {r : CandidateRow F}
    (h : candidateRow a id index d = .ok r) :
    (Value.mapping (readBack r d)).canonical = (Value.mapping d.asDict).canonical := by
  obtain ⟨-, rfl⟩ := candidateRow_ok h
  have hinputs : (Value.mapping (storedPair d).1).canonical =
      (Value.mapping d.observedInputs).canonical := by
    exact canonical_canonical (.mapping d.observedInputs)
  have havailability : (Value.mapping (storedPair d).2).canonical =
      (Value.mapping (availabilityOfDecision d)).canonical := by
    exact canonical_canonical (.mapping (availabilityOfDecision d))
  have hselected : (.bool (decide ((if d.selected then 1 else 0 : ℤ) ≠ 0)) : Value F) =
      .bool d.selected := by
    cases d.selected <;> rfl
  refine canonical_mapping_congr ?_
  unfold readBack candidateDict Decision.asDict
  rw [hselected]
  refine .cons ⟨rfl, rfl⟩ (.cons ⟨rfl, rfl⟩ (.cons ⟨rfl, canonical_canonical _⟩
    (.cons ⟨rfl, hinputs⟩ (.cons ⟨rfl, canonical_canonical _⟩ (.cons ⟨rfl, rfl⟩
      (.cons ⟨rfl, ?_⟩ (.cons ⟨rfl, rfl⟩ (.cons ⟨rfl, havailability⟩ .nil))))))))
  -- the rank comes back as it was written
  cases d.rank <;> rfl

theorem readBack_finite {id : String} {index : ℕ} {d : Decision F} {r : CandidateRow F}
    (h : candidateRow a id index d = .ok r) (hd : finiteEntries d.asDict = true) :
    finiteEntries (readBack r d) = true := by
  obtain ⟨hcomponents, rfl⟩ := candidateRow_ok h
  rw [finiteEntries_iff] at hd ⊢
  simp only [Decision.asDict, List.forall_mem_cons] at hd
  obtain ⟨-, -, -, hinputs, -, hscore, -, -, havailability, -⟩ := hd
  unfold readBack candidateDict
  simp only [List.forall_mem_cons]
  refine ⟨rfl, rfl, finite_canonical _ (finite_textList _), finite_canonical _ hinputs,
    finite_canonical _ hcomponents, hscore, ?_, rfl, finite_canonical _ havailability,
    List.forall_mem_nil _⟩
  cases d.rank <;> rfl

/-- A candidate that was written is read back. -/
theorem readCandidate_written {id : String} {index : ℕ} {d : Decision F} {r : CandidateRow F}
    {all : List (Payload F × Payload F)} (h : candidateRow a id index d = .ok r)
    (hdetail : all[index]? = some (storedPair d)) :
    readCandidate a (some all) index r = .ok (readBack r d) := by
  obtain ⟨hcomponents, hr⟩ := candidateRow_ok h
  have hindex : r.candidateIndex = index ∧ (r.selected = 0 ∨ r.selected = 1) := by
    rw [hr]
    cases d.selected
    · exact ⟨rfl, Or.inl rfl⟩
    · exact ⟨rfl, Or.inr rfl⟩
  have hreference : (detailReference index : Value F).canonical.Same (detailReference index) :=
    normal_canonical _
  have hobserved : a.loads r.observedInputsJson =
    .ok (detailReference index : Value F).canonical := by
    rw [hr]
    exact a.loads_dumps _ rfl
  have havailability : a.loads r.evidenceAvailabilityJson =
      .ok (detailReference index : Value F).canonical := by
    rw [hr]
    exact a.loads_dumps _ rfl
  have hreasons : a.loads r.exclusionReasonsJson =
    .ok (textList d.reasons : Value F).canonical := by
    rw [hr]
    exact a.loads_dumps _ (finite_textList _)
  have hloaded : a.loads r.rankingComponentsJson =
      .ok (Value.mapping d.rankingComponents).canonical := by
    rw [hr]
    exact a.loads_compact _ hcomponents
  have hresolved : resolveDetails (some all) index (detailReference index).canonical
      (detailReference index).canonical = .ok
        (.mapping (storedPair d).1, .mapping (storedPair d).2) := by
    unfold resolveDetails
    simp only
    rw [require_ok.mpr ⟨hreference, hreference⟩, ok_bind, hdetail]
  unfold readCandidate
  rw [require_ok.mpr hindex, ok_bind, hobserved, ok_bind, havailability, ok_bind,
    hresolved, ok_bind,
    hreasons, ok_bind, hloaded, ok_bind, require_ok.mpr ⟨rfl, rfl, rfl, rfl⟩, ok_bind]
  rfl

/-- The candidates that were written are read back. -/
theorem readCandidates_written {id : String} {ds : List (Decision F)} {index : ℕ}
    {params : List (CandidateRow F)} {all : List (Payload F × Payload F)}
    (h : candidateRows a id index ds = .ok params)
    (hdetails : ∀ i, all[index + i]? = (ds[i]?).map storedPair)
    (hfinite : ∀ d ∈ ds, finiteEntries d.asDict = true) :
    ∃ cs, readCandidates a (some all) index params = .ok cs ∧
      cs.map (fun c => (Value.mapping c).canonical) =
        ds.map (fun d => (Value.mapping d.asDict).canonical) ∧
      ∀ c ∈ cs, finiteEntries c = true := by
  induction ds generalizing index params with
  | nil =>
    cases Except.ok.inj h
    exact ⟨[], rfl, rfl, List.forall_mem_nil _⟩
  | cons d rest ih =>
    obtain ⟨r, hr, h⟩ := ok_of_bind h
    obtain ⟨others, hothers, h⟩ := ok_of_bind h
    cases Except.ok.inj h
    obtain ⟨hd, hrest⟩ := List.forall_mem_cons.mp hfinite
    obtain ⟨cs, hcs, hcanonical, hcfinite⟩ := ih hothers (fun i => by
      rw [Nat.add_assoc, Nat.add_comm 1 i, hdetails (i + 1), List.getElem?_cons_succ]) hrest
    have hread : readCandidate a (some all) index r = .ok (readBack r d) :=
      readCandidate_written hr (hdetails 0)
    refine ⟨readBack r d :: cs, ?_, ?_, List.forall_mem_cons.mpr ⟨readBack_finite hr hd, hcfinite⟩⟩
    · unfold readCandidates
      rw [hread, ok_bind, hcs, ok_bind]
      rfl
    · rw [List.map_cons, List.map_cons, readBack_canonical hr, hcanonical]

/-! ## 4. A cycle is read back -/

theorem candidateRows_spec {id : String} {ds : List (Decision F)} {index : ℕ}
    {params : List (CandidateRow F)} (h : candidateRows a id index ds = .ok params) :
    params.length = ds.length ∧ (∀ r ∈ params, r.cycleId = id ∧ (index : ℤ) ≤ r.candidateIndex) ∧
      params.Pairwise (fun r q => r.candidateIndex < q.candidateIndex) ∧
      actualSelected params = selectedSymbols ds := by
  induction ds generalizing index params with
  | nil =>
    cases Except.ok.inj h
    exact ⟨rfl, List.forall_mem_nil _, List.Pairwise.nil, rfl⟩
  | cons d rest ih =>
    obtain ⟨r, hr, h⟩ := ok_of_bind h
    obtain ⟨others, hothers, h⟩ := ok_of_bind h
    cases Except.ok.inj h
    obtain ⟨-, rfl⟩ := candidateRow_ok hr
    obtain ⟨hlength, hmem, hsorted, hselected⟩ := ih hothers
    refine ⟨by rw [List.length_cons, List.length_cons, hlength],
      List.forall_mem_cons.mpr ⟨⟨rfl, le_refl _⟩, fun q hq => ⟨(hmem q hq).1, ?_⟩⟩,
      List.pairwise_cons.mpr ⟨fun q hq => ?_, hsorted⟩, ?_⟩
    · have hle := (hmem q hq).2
      omega
    · have hle := (hmem q hq).2
      simp only
      omega
    · unfold actualSelected selectedSymbols at hselected ⊢
      cases hd : d.selected
      · simpa [hd] using hselected
      · simpa [hd] using hselected

omit [FloatNum F] in
theorem lookup_pop_self (payload : Payload F) (key : String) :
    (pop payload key).lookup key = none := by
  unfold pop
  rw [List.lookup_eq_none_iff]
  intro e he
  rw [bne_iff_ne]
  have hne : e.1 ≠ key := by simpa using List.of_mem_filter he
  exact hne.symm

theorem canonicalHash_congr {v w : Value F} {hash : String}
    (h : canonicalHash a.toHost v = .ok hash)
    (hw : w.finite = true) (heq : w.canonical = v.canonical) :
    canonicalHash a.toHost w = .ok hash := by
  obtain ⟨-, hdigest⟩ := canonicalHash_ok_iff.mp h
  exact canonicalHash_ok_iff.mpr ⟨hw, (a.digest_congr heq).trans hdigest⟩

section Load

variable {s : Selection F} {details : Value F} {cs : List (Payload F)}

/-- The payload that is read back. -/
def restored (s : Selection F) (details : Value F) (cs : List (Payload F)) : Payload F :=
  assign (kept .batch (reshapeEntries id (cyclePayload s details))) "candidates"
    (.list (cs.map .mapping))

theorem lookup_restored {key : String} (h : key ≠ "_storage_codec") (h' : key ≠ "candidate_details")
    (h'' : key ≠ "candidates") : (restored s details cs).lookup key =
      ((cyclePayload s details).lookup key).map Value.canonical := by
  unfold restored kept
  rw [lookup_assign, if_neg h'', lookup_pop h', lookup_pop h, lookup_reshape]
  rfl

theorem get_restored {key : String} (h : key ≠ "_storage_codec") (h' : key ≠ "candidate_details")
    (h'' : key ≠ "candidates") : Payload.get (restored s details cs) key =
      (Payload.get (cyclePayload s details) key).canonical := by
  unfold Payload.get Payload.getD
  rw [lookup_restored h h' h'']
  cases (cyclePayload s details).lookup key with
  | none => rfl
  | some v => rfl

/-- The keys of the dictionary of a universe. -/
def dictKeys : List String :=
  ["cycle_id", "decision_timestamp", "execution_mode", "constraints", "candidates",
    "selected_symbols", "config_hash", "strategy_config_hash", "universe_hash", "evidence_hash",
    "git_sha", "source_provenance", "schema_version", "ranking_version"]

/-- The keys of a stored payload. -/
def payloadKeys : List String :=
  ["_storage_codec", "candidate_details", "cycle_id", "decision_timestamp", "execution_mode",
    "constraints", "selected_symbols", "config_hash", "strategy_config_hash", "universe_hash",
    "evidence_hash", "git_sha", "source_provenance", "ranking_version", "schema_version"]

/-- **The payload that is read back is the dictionary of the universe.** -/
theorem restored_same
    (hcs : cs.map (fun c => (Value.mapping c).canonical) =
      s.candidates.map fun d => (Value.mapping d.asDict).canonical) :
    (Value.mapping (restored s details cs)).Same (.mapping s.asDict) := by
  unfold Value.Same Value.normal
  rw [reshape_mapping, reshape_mapping]
  refine congrArg Value.mapping (reshapeEntries_eq_iff.mpr fun key => ?_)
  by_cases hcandidates : key = "candidates"
  · subst hcandidates
    have hlist : (Value.list (cs.map .mapping)).canonical =
        (Value.list (s.candidates.map fun d => .mapping d.asDict)).canonical := by
      refine canonical_list_congr ?_
      rw [List.map_map, List.map_map]
      exact hcs
    unfold restored
    rw [lookup_assign, if_pos rfl]
    exact congrArg some (normal_eq_of_canonical hlist)
  by_cases hcodec : key = "_storage_codec"
  · subst hcodec
    unfold restored kept
    rw [lookup_assign, if_neg hcandidates, lookup_pop (by decide), lookup_pop_self]
    rfl
  by_cases hdetails : key = "candidate_details"
  · subst hdetails
    unfold restored kept
    rw [lookup_assign, if_neg hcandidates, lookup_pop_self]
    rfl
  rw [lookup_restored hcodec hdetails hcandidates]
  have hlookup : (cyclePayload s details).lookup key = s.asDict.lookup key := by
    by_cases hkey : key ∈ dictKeys
    · unfold dictKeys at hkey
      simp only [List.mem_cons, List.not_mem_nil, or_false] at hkey
      rcases hkey with rfl | rfl | rfl | rfl | rfl | rfl | rfl | rfl | rfl | rfl | rfl | rfl | rfl |
        rfl
      all_goals first | rfl | exact absurd rfl hcandidates
    · have hpayload : key ∉ (cyclePayload s details).map Prod.fst := by
        intro hmem
        have hsubset : ∀ k ∈ payloadKeys, k = "_storage_codec" ∨ k = "candidate_details" ∨
          k ∈ dictKeys := by
          decide
        rcases hsubset key hmem with h | h | h
        · exact hcodec h
        · exact hdetails h
        · exact hkey h
      have hdict : key ∉ s.asDict.map Prod.fst := hkey
      rw [mem_keys_iff, Bool.not_eq_true, Option.isSome_eq_false_iff, Option.isNone_iff_eq_none]
        at hpayload hdict
      rw [hpayload, hdict]
  rw [hlookup, Option.map_map]
  cases s.asDict.lookup key with
  | none => rfl
  | some v => exact congrArg some (normal_canonical v)

theorem stored_codec : storageCodec (reshapeEntries id (cyclePayload s details)) = some .batch := by
  unfold storageCodec
  rw [get_reshape]
  rfl

theorem stored_details : Payload.get (cyclePayload s details) "candidate_details" = details := rfl

theorem merge_restored : mergeCandidates .batch (reshapeEntries id (cyclePayload s details)) cs =
    .ok (restored s details cs) := by
  have hfresh : "candidates" ∉ (reshapeEntries id (cyclePayload s details)).map Prod.fst := by
    rw [mem_keys_reshape]
    intro hmem
    have hkey : "candidates" ∈ payloadKeys := hmem
    revert hkey
    decide
  unfold mergeCandidates
  simp only
  rw [require_ok.mpr hfresh, ok_bind]
  rfl

theorem restored_constraints : Payload.get (restored s details cs) "constraints" =
    .mapping (reshapeEntries id s.constraints.asDict) := by
  rw [get_restored (by decide) (by decide) (by decide)]
  rfl

theorem restored_expected {json : String} :
    ∀ e ∈ expectedOf (cycleRow a s json) (textList s.selectedSymbols).canonical
      (textList s.sourceProvenance).canonical,
      (Payload.get (restored s details cs) e.1).Same e.2 := by
  have hnodup : ((cyclePayload s details).map Prod.fst).Nodup := by
    have hkeys : payloadKeys.Nodup := by decide
    exact hkeys
  have hget : ∀ {key : String} {v : Value F}, (key, v) ∈ cyclePayload s details →
      key ≠ "_storage_codec" → key ≠ "candidate_details" → key ≠ "candidates" →
      Payload.get (restored s details cs) key = v.canonical := by
    intro key v hmem h h' h''
    rw [get_restored h h' h'', get_of_lookup (lookup_of_mem hnodup hmem)]
  have hfield : ∀ {key : String} {v : Value F}, (key, v) ∈ cyclePayload s details →
      key ≠ "_storage_codec" → key ≠ "candidate_details" → key ≠ "candidates" →
      (Payload.get (restored s details cs) key).Same v := by
    intro key v hmem h h' h''
    rw [hget hmem h h' h'']
    exact normal_canonical v
  have htexts : ∀ {key : String} {v : Value F}, (key, v) ∈ cyclePayload s details →
      key ≠ "_storage_codec" → key ≠ "candidate_details" → key ≠ "candidates" →
      (Payload.get (restored s details cs) key).Same v.canonical := by
    intro key v hmem h h' h''
    exact (hfield hmem h h' h'').trans (normal_canonical v).symm
  unfold expectedOf cycleRow
  simp only [List.forall_mem_cons]
  refine ⟨hfield ?_ ?_ ?_ ?_, hfield ?_ ?_ ?_ ?_, hfield ?_ ?_ ?_ ?_, htexts ?_ ?_ ?_ ?_,
    hfield ?_ ?_ ?_ ?_, hfield ?_ ?_ ?_ ?_, hfield ?_ ?_ ?_ ?_, hfield ?_ ?_ ?_ ?_,
    hfield ?_ ?_ ?_ ?_, htexts ?_ ?_ ?_ ?_, hfield ?_ ?_ ?_ ?_, hfield ?_ ?_ ?_ ?_,
    List.forall_mem_nil _⟩
  all_goals first | decide | (unfold cyclePayload; simp)

/-- **A cycle that holds the rows of a sealed universe is read back.** -/
theorem load_persisted (hs : Sealed a.toHost s) {db : Db F} {json : String}
    {params : List (CandidateRow F)} (hpack : packCandidateDetails a s = .ok details)
    (hjson : a.dumpsStrict (.mapping (cyclePayload s details)) = .ok json)
    (hparams : candidateRows a s.cycleId 0 s.candidates = .ok params)
    (hrow : db.cycle s.cycleId = some (cycleRow a s json))
    (hstored : db.stored s.cycleId = params) :
    ∃ p, load a db s.cycleId = .ok p ∧ (Value.mapping p).Same (.mapping s.asDict) := by
  obtain ⟨hpayloadFinite, hcompact⟩ := dumpsStrict_ok.mp hjson
  obtain ⟨hdetailsFinite, hunpack⟩ := unpack_pack hpack
  obtain ⟨hlength, -, -, hactual⟩ := candidateRows_spec hparams
  obtain ⟨hsealedFinite, hdigest⟩ := canonicalHash_ok_iff.mp hs.evidenceHash
  rw [finite_mapping, finiteEntries_iff] at hsealedFinite
  simp only [sealedPayload, List.forall_mem_cons] at hsealedFinite
  obtain ⟨htime, hconstraints, hcandidates, -⟩ := hsealedFinite
  have hdicts : ∀ d ∈ s.candidates, finiteEntries d.asDict = true := by
    rw [finite_list, finiteItems_iff, List.forall_mem_map] at hcandidates
    exact hcandidates
  have hdetails : ∀ i, (s.candidates.map storedPair)[0 + i]? =
    (s.candidates[i]?).map storedPair := by
    intro i
    rw [Nat.zero_add, List.getElem?_map]
  obtain ⟨cs, hcs, hcanonical, hcsFinite⟩ := readCandidates_written hparams hdetails hdicts
  have hselected : actualSelected params = s.selectedSymbols := hactual.trans hs.selected.symm
  have hlist : (Value.list (cs.map .mapping)).canonical =
      (Value.list (s.candidates.map fun d => .mapping d.asDict)).canonical := by
    refine canonical_list_congr ?_
    rw [List.map_map, List.map_map]
    exact hcanonical
  have hpayload : a.loads json =
      .ok (.mapping (reshapeEntries id (cyclePayload s details))) := by
    have hread := a.loads_compact _ hpayloadFinite
    rw [hcompact] at hread
    exact hread
  have hframe : cycleDetails a .batch (reshapeEntries id (cyclePayload s details))
      s.candidates.length = .ok (some (s.candidates.map storedPair)) := by
    unfold cycleDetails
    rw [if_pos rfl, get_reshape, stored_details]
    exact congrArg (Except.map some) hunpack
  have hconstraintsFinite : (Value.mapping (reshapeEntries id s.constraints.asDict)).finite =
    true := by
    rw [← canonical_mapping]
    exact finite_canonical _ hconstraints
  have hconstraintsCanonical : (Value.mapping (reshapeEntries id s.constraints.asDict)).canonical =
      (Value.mapping s.constraints.asDict).canonical := by
    rw [← canonical_mapping, canonical_canonical]
  have hconfig : canonicalHash a.toHost (.mapping (reshapeEntries id s.constraints.asDict)) =
      .ok s.configHash :=
    canonicalHash_congr hs.configHash hconstraintsFinite hconstraintsCanonical
  have hevidence : canonicalHash a.toHost (.mapping (canonicalOf (cycleRow a s json)
      (reshapeEntries id s.constraints.asDict) cs)) = .ok s.evidenceHash := by
    refine canonicalHash_congr hs.evidenceHash ?_ ?_
    · rw [finite_mapping, finiteEntries_iff]
      unfold canonicalOf cycleRow
      simp only [List.forall_mem_cons, finite_text, true_and]
      refine ⟨htime, hconstraintsFinite, ?_, ?_, List.forall_mem_nil _⟩
      · rw [finite_list, finiteItems_iff, List.forall_mem_map]
        exact hcsFinite
      · cases s.strategyConfigHash <;> rfl
    · refine canonical_mapping_congr ?_
      unfold canonicalOf cycleRow sealedPayload
      simp only [List.forall₂_cons, List.forall₂_nil_left_iff, true_and, and_true]
      exact ⟨hconstraintsCanonical, hlist⟩
  have hsymbols : (restored s details cs).lookup "selected_symbols" =
      some (textList s.selectedSymbols).canonical :=
    lookup_restored (by decide) (by decide) (by decide)
  have hcount : ((db.stored s.cycleId).length : ℤ) = s.candidates.length := by
    rw [hstored, hlength]
  have hread : readCandidates a (some (s.candidates.map storedPair)) 0 (db.stored s.cycleId) =
      .ok cs := by
    rw [hstored]
    exact hcs
  have hprojection : (textList s.selectedSymbols : Value F).canonical.Same
      (textList (actualSelected (db.stored s.cycleId))) := by
    rw [hstored, hselected]
    exact normal_canonical _
  have huniverse : canonicalHash a.toHost (.mapping (universeOf
      (actualSelected (db.stored s.cycleId)) s.evidenceHash)) = .ok s.universeHash := by
    rw [hstored, hselected]
    exact hs.universeHash
  have hreads : Reads a db s.cycleId ⟨cycleRow a s json,
      reshapeEntries id (cyclePayload s details), .batch, some (s.candidates.map storedPair), cs,
      (textList s.selectedSymbols).canonical, (textList s.sourceProvenance).canonical,
      reshapeEntries id s.constraints.asDict, (textList s.selectedSymbols).canonical⟩
      (restored s details cs) := by
    constructor
    -- the parts of the reading are compared only once they are in sight
    all_goals dsimp only
    exacts [hrow, hpayload, stored_codec, hframe, hcount, hread, merge_restored,
      a.loads_dumps _ (finite_textList _), a.loads_dumps _ (finite_textList _), restored_expected,
      restored_constraints, hconfig, hevidence, hs.cycleId, hsymbols, hprojection, huniverse]
  exact ⟨restored s details cs, load_ok_iff.mpr ⟨_, hreads⟩, restored_same hcanonical⟩

end Load

/-! ## 5. Persisting -/

/-- Every candidate row belongs to a cycle: the foreign key of the table. -/
def Foreign (db : Db F) : Prop := ∀ r ∈ db.candidates, (db.cycle r.cycleId).isSome = true

omit [FloatNum F] in
/-- Rows of new keys are all inserted. -/
theorem inserted {params : List (CandidateRow F)}
    (hsorted : params.Pairwise fun r q => r.candidateIndex < q.candidateIndex) {db : Db F}
    (hnew : ∀ q ∈ db.candidates, ∀ r ∈ params,
      ¬ (q.cycleId = r.cycleId ∧ q.candidateIndex = r.candidateIndex)) :
    params.foldl Db.insertCandidate db = { db with candidates := db.candidates ++ params } := by
  induction params generalizing db with
  | nil => rw [List.foldl_nil, List.append_nil]
  | cons r rest ih =>
    obtain ⟨hr, hrest⟩ := List.pairwise_cons.mp hsorted
    have hstep : db.insertCandidate r = { db with candidates := db.candidates ++ [r] } := by
      unfold Db.insertCandidate
      rw [if_neg]
      rw [List.any_eq_true]
      intro ⟨q, hq, hkey⟩
      exact hnew q hq r List.mem_cons_self (of_decide_eq_true hkey)
    rw [List.foldl_cons, hstep, ih hrest]
    · simp only [List.append_assoc, List.singleton_append]
    · intro q hq x hx hkey
      rcases List.mem_append.mp hq with hold | hlast
      · exact hnew q hold x (List.mem_cons_of_mem r hx) hkey
      · have hlt := hr x hx
        rw [← hkey.2, List.mem_singleton.mp hlast] at hlt
        omega

omit [FloatNum F] in
theorem cycle_append {db : Db F} {row : CycleRow F} {id : String} {r : CycleRow F}
    (h : db.cycle id = some r) :
    ({ db with cycles := db.cycles ++ [row] } : Db F).cycle id = some r := by
  unfold Db.cycle at h ⊢
  rw [List.find?_append, h]
  rfl

theorem compareRows_self {id : String} (params : List (CandidateRow F)) :
    compareRows id params params = .ok () := by
  unfold compareRows
  rw [if_neg (not_not.mpr rfl)]
  refine forM_ok_iff.mpr fun pair hpair => ?_
  rw [List.zip_eq_zipWith, List.zipWith_self, List.mem_map] at hpair
  obtain ⟨r, _, rfl⟩ := hpair
  exact if_pos rfl

/-- A universe is in the tables: its cycle is there, it can be written again, and it is read
    back. -/
structure Stored (a : Archive F B) (db : Db F) (s : Selection F) : Prop where
  row : ∃ row, db.cycle s.cycleId = some row ∧ row.evidenceHash = s.evidenceHash
  writable : packCandidateDetails a s = .error (.valueError "UNIVERSE_CANDIDATE_DETAILS_BOUND") ∨
    ∃ details json, packCandidateDetails a s = .ok details ∧
      a.dumpsStrict (.mapping (cyclePayload s details)) = .ok json
  read : ∃ p, load a db s.cycleId = .ok p ∧ (Value.mapping p).Same (.mapping s.asDict)

theorem verifySelectionReplay_ok {db : Db F} {s : Selection F} {evidenceHash : String} :
    verifySelectionReplay a db s evidenceHash = .ok () ↔ evidenceHash = s.evidenceHash ∧
      ∃ p, load a db s.cycleId = .ok p ∧ (Value.mapping p).Same (.mapping s.asDict) := by
  unfold verifySelectionReplay
  by_cases heq : evidenceHash = s.evidenceHash
  · rw [if_neg (not_not.mpr heq)]
    cases hload : load a db s.cycleId with
    | error e =>
      refine iff_of_false (fun h => ?_) fun ⟨_, p, hp, _⟩ => by cases hp
      cases e <;> cases h
    | ok p =>
      simp only
      split
      · rename_i hsame
        exact iff_of_true rfl ⟨heq, p, rfl, hsame⟩
      · rename_i hsame
        refine iff_of_false (fun h => by cases h) fun ⟨_, q, hq, hsameq⟩ => hsame ?_
        rw [Except.ok.inj hq]
        exact hsameq
  · rw [if_pos heq]
    exact iff_of_false (fun h => by cases h) fun h => heq h.1

/-- The tables with a new cycle and its candidates. -/
def withCycle (db : Db F) (row : CycleRow F) (params : List (CandidateRow F)) : Db F :=
  { db with cycles := db.cycles ++ [row], candidates := db.candidates ++ params }

theorem stored_withCycle {s : Selection F} {db : Db F} (hforeign : Foreign db)
    (hfresh : db.cycle s.cycleId = none) (row : CycleRow F) {params : List (CandidateRow F)}
    (hparams : candidateRows a s.cycleId 0 s.candidates = .ok params) :
    (∀ q ∈ db.candidates, q.cycleId ≠ s.cycleId) ∧
      (withCycle db row params).stored s.cycleId = params := by
  obtain ⟨-, hmem, hsorted, -⟩ := candidateRows_spec hparams
  have hold : ∀ q ∈ db.candidates, q.cycleId ≠ s.cycleId := by
    intro q hq heq
    have hsome := hforeign q hq
    rw [heq, hfresh] at hsome
    cases hsome
  refine ⟨hold, ?_⟩
  unfold Db.stored withCycle
  rw [List.filter_append, List.filter_eq_nil_iff.mpr, List.nil_append, List.filter_eq_self.mpr]
  · exact sortOn_sorted (hsorted.imp le_of_lt)
  · exact fun r hr => decide_eq_true (hmem r hr).1
  · exact fun q hq heq => hold q hq (of_decide_eq_true heq)

/-- The candidates of a new cycle are written and read back as they are. -/
theorem insertCandidates_fresh {s : Selection F} {db : Db F} (hforeign : Foreign db)
    (hfresh : db.cycle s.cycleId = none) (row : CycleRow F) {params : List (CandidateRow F)}
    (hparams : candidateRows a s.cycleId 0 s.candidates = .ok params) :
    insertCandidates a { db with cycles := db.cycles ++ [row] } s =
      (withCycle db row params, .ok ()) := by
  obtain ⟨-, hmem, hsorted, -⟩ := candidateRows_spec hparams
  obtain ⟨hold, hstored⟩ := stored_withCycle hforeign hfresh row hparams
  have hwritten : params.foldl Db.insertCandidate { db with cycles := db.cycles ++ [row] } =
      withCycle db row params :=
    inserted hsorted fun q hq r hr hkey => hold q hq (hkey.1.trans (hmem r hr).1)
  unfold insertCandidates
  rw [hparams]
  simp only
  rw [hwritten, hstored, compareRows_self]

/-- A sealed universe in a new cycle is in the tables. -/
theorem stored_fresh {s : Selection F} (hs : Sealed a.toHost s) {db : Db F} (hforeign : Foreign db)
    (hfresh : db.cycle s.cycleId = none) {details : Value F} {json : String}
    {params : List (CandidateRow F)} (hpack : packCandidateDetails a s = .ok details)
    (hjson : a.dumpsStrict (.mapping (cyclePayload s details)) = .ok json)
    (hparams : candidateRows a s.cycleId 0 s.candidates = .ok params) :
    Stored a (withCycle db (cycleRow a s json) params) s := by
  obtain ⟨-, hstored⟩ := stored_withCycle hforeign hfresh (cycleRow a s json) hparams
  have hrow : (withCycle db (cycleRow a s json) params).cycle s.cycleId =
      some (cycleRow a s json) := by
    unfold Db.cycle withCycle at *
    have hfound : [cycleRow a s json].find? (fun r => r.cycleId = s.cycleId) =
        some (cycleRow a s json) := by
      simp [cycleRow]
    rw [List.find?_append, hfresh, hfound]
    rfl
  exact ⟨⟨cycleRow a s json, hrow, rfl⟩, Or.inr ⟨details, json, hpack, hjson⟩,
    load_persisted hs hpack hjson hparams hrow hstored⟩

/-- **A sealed universe whose frame fits is written in a new cycle.** -/
theorem persist_fresh {s : Selection F} {db : Db F} (hforeign : Foreign db)
    (hfresh : db.cycle s.cycleId = none) {details : Value F} {json : String}
    {params : List (CandidateRow F)} (hpack : packCandidateDetails a s = .ok details)
    (hjson : a.dumpsStrict (.mapping (cyclePayload s details)) = .ok json)
    (hparams : candidateRows a s.cycleId 0 s.candidates = .ok params) :
    persist a db s = (withCycle db (cycleRow a s json) params, .ok ()) := by
  unfold persist
  rw [hpack]
  simp only
  rw [hjson]
  simp only
  rw [hfresh]
  exact insertCandidates_fresh hforeign hfresh (cycleRow a s json) hparams

theorem finite_texts_mapping (entries : List (String × String)) :
    (Value.mapping (entries.map fun e => (e.1, .text e.2)) : Value F).finite = true := by
  rw [finite_mapping, finiteEntries_iff, List.forall_mem_map]
  intro e _
  rfl

theorem candidateRows_ok {id : String} {ds : List (Decision F)}
    (h : ∀ d ∈ ds, (Value.mapping d.rankingComponents).finite = true) (index : ℕ) :
    ∃ params, candidateRows a id index ds = .ok params := by
  induction ds generalizing index with
  | nil => exact ⟨[], rfl⟩
  | cons d rest ih =>
    obtain ⟨hd, hrest⟩ := List.forall_mem_cons.mp h
    obtain ⟨params, hparams⟩ := ih hrest (index + 1)
    unfold candidateRows candidateRow
    rw [dumpsStrict_ok.mpr ⟨hd, rfl⟩, ok_bind]
    show ∃ params, (candidateRows a id (index + 1) rest >>= _) = .ok params
    rw [hparams]
    exact ⟨_, rfl⟩

/-- A sealed universe has a text, and its candidates have rows; only the size of its frame is
    bounded. -/
theorem sealed_writable {s : Selection F} (hs : Sealed a.toHost s)
    (hsize : a.size (a.encode (a.compact (detailsOf s))) ≤ maxCandidateDetailsBytes) :
    ∃ details json params, packCandidateDetails a s = .ok details ∧
      a.dumpsStrict (.mapping (cyclePayload s details)) = .ok json ∧
      candidateRows a s.cycleId 0 s.candidates = .ok params := by
  obtain ⟨hfinite, -⟩ := canonicalHash_ok_iff.mp hs.evidenceHash
  rw [finite_mapping, finiteEntries_iff] at hfinite
  simp only [sealedPayload, List.forall_mem_cons] at hfinite
  obtain ⟨htime, hconstraints, hcandidates, -⟩ := hfinite
  rw [finite_list, finiteItems_iff, List.forall_mem_map] at hcandidates
  have hdicts : ∀ d ∈ s.candidates, (Value.mapping d.observedInputs).finite = true ∧
      (Value.mapping d.rankingComponents).finite = true := by
    intro d hd
    have hdict := hcandidates d hd
    rw [finite_mapping, finiteEntries_iff] at hdict
    simp only [Decision.asDict, List.forall_mem_cons] at hdict
    exact ⟨hdict.2.2.2.1, hdict.2.2.2.2.1⟩
  have hdetails : (detailsOf s).finite = true := by
    unfold detailsOf
    rw [finite_list, finiteItems_iff, List.forall_mem_map]
    intro d hd
    rw [finite_list, finiteItems_iff]
    simp only [List.forall_mem_cons]
    exact ⟨(hdicts d hd).1, finite_texts_mapping _, List.forall_mem_nil _⟩
  have hrows : ∃ params, candidateRows a s.cycleId 0 s.candidates = .ok params :=
    candidateRows_ok (fun d hd => (hdicts d hd).2) 0
  obtain ⟨params, hparams⟩ := hrows
  have hpack : ∃ details, packCandidateDetails a s = .ok details := by
    unfold packCandidateDetails
    rw [dumpsStrict_ok.mpr ⟨hdetails, rfl⟩, ok_bind]
    simp only
    rw [if_neg (not_lt.mpr hsize)]
    exact ⟨_, rfl⟩
  obtain ⟨details, hpack⟩ := hpack
  have hpayload : (Value.mapping (cyclePayload s details)).finite = true := by
    rw [finite_mapping, finiteEntries_iff]
    unfold cyclePayload
    simp only [List.forall_mem_cons, finite_text, true_and]
    refine ⟨(unpack_pack hpack).1, htime, hconstraints, finite_textList _, ?_, finite_textList _,
      List.forall_mem_nil _⟩
    cases s.strategyConfigHash <;> rfl
  exact ⟨details, _, params, hpack, dumpsStrict_ok.mpr ⟨hpayload, rfl⟩, hparams⟩

/-- **A universe that was persisted is in the tables.** -/
theorem persist_stored {s : Selection F} (hs : Sealed a.toHost s) {db db' : Db F}
    (hforeign : Foreign db) (h : persist a db s = (db', .ok ())) : Stored a db' s := by
  unfold persist at h
  split at h
  · rename_i e hpack
    split at h
    · rename_i hbound
      split at h
      · cases h
      · rename_i prior hprior
        obtain ⟨rfl, hverify⟩ := Prod.mk.inj h
        obtain ⟨heq, hread⟩ := verifySelectionReplay_ok.mp hverify
        exact ⟨⟨prior, hprior, heq⟩, Or.inl (hbound ▸ hpack), hread⟩
    · cases h
  · rename_i details hpack
    split at h
    · cases h
    · rename_i json hjson
      split at h
      · rename_i existing hexisting
        split at h
        · cases h
        · obtain ⟨rfl, hverify⟩ := Prod.mk.inj h
          obtain ⟨heq, hread⟩ := verifySelectionReplay_ok.mp hverify
          exact ⟨⟨existing, hexisting, heq⟩, Or.inr ⟨details, json, hpack, hjson⟩, hread⟩
      · rename_i hfresh
        unfold insertCandidates at h
        split at h
        · cases h
        · rename_i params hparams
          have hwritten := insertCandidates_fresh hforeign hfresh (cycleRow a s json) hparams
          unfold insertCandidates at hwritten
          rw [hparams] at hwritten
          have hdb' := (Prod.mk.inj h).1
          rw [(Prod.mk.inj hwritten).1] at hdb'
          rw [← hdb']
          exact stored_fresh hs hforeign hfresh hpack hjson hparams

/-- **Persisting it again changes nothing.** -/
theorem stored_persist {s : Selection F} {db : Db F} (h : Stored a db s) :
    persist a db s = (db, .ok ()) := by
  obtain ⟨row, hrow, heq⟩ := h.row
  have hverify : verifySelectionReplay a db s row.evidenceHash = .ok () :=
    verifySelectionReplay_ok.mpr ⟨heq, h.read⟩
  unfold persist
  rcases h.writable with hbound | ⟨details, json, hpack, hjson⟩
  · rw [hbound]
    simp only
    rw [if_pos trivial, hrow]
    simp only
    rw [hverify]
  · rw [hpack]
    simp only
    rw [hjson]
    simp only
    rw [hrow]
    simp only
    rw [if_neg (not_not.mpr heq), hverify]

/-- **Another universe under its id is refused**, and nothing is written. -/
theorem stored_refuses {s s' : Selection F} {db : Db F} (h : Stored a db s)
    (hid : s'.cycleId = s.cycleId)
    (hother : ¬ (Value.mapping s'.asDict).Same (.mapping s.asDict)) :
    ∃ e, persist a db s' = (db, .error e) := by
  obtain ⟨row, hrow, -⟩ := h.row
  obtain ⟨p, hp, hsame⟩ := h.read
  rw [← hid] at hrow hp
  have hverify : ∀ hash, ∃ e, verifySelectionReplay a db s' hash = .error e := by
    intro hash
    cases hx : verifySelectionReplay a db s' hash with
    | error e => exact ⟨e, rfl⟩
    | ok u =>
      obtain ⟨-, q, hq, hsameq⟩ := verifySelectionReplay_ok.mp hx
      rw [hp] at hq
      rw [← Except.ok.inj hq] at hsameq
      exact absurd (hsameq.symm.trans hsame) hother
  unfold persist
  split
  · rename_i e _
    split
    · rw [hrow]
      obtain ⟨e', he'⟩ := hverify row.evidenceHash
      exact ⟨e', by rw [← he']⟩
    · exact ⟨e, rfl⟩
  · split
    · rename_i e _
      exact ⟨e, rfl⟩
    · rw [hrow]
      simp only
      split
      · exact ⟨_, rfl⟩
      · obtain ⟨e', he'⟩ := hverify row.evidenceHash
        exact ⟨e', by rw [he']⟩

/-! ## 6. Later persists -/

/-- Any number of persists, whatever each of them raises. -/
def persistAll (a : Archive F B) (db : Db F) (later : List (Selection F)) : Db F :=
  later.foldl (fun db s => (persist a db s).1) db

/-- What a load reads of a cycle that is there. -/
def Untouched (id : String) (db db' : Db F) : Prop :=
  db'.cycle id = db.cycle id ∧ db'.stored id = db.stored id

theorem load_untouched {id : String} {db db' : Db F} (h : Untouched id db db')
    (hrow : (db.cycle id).isSome = true) : load a db' id = load a db id := by
  obtain ⟨row, hrow⟩ := Option.isSome_iff_exists.mp hrow
  unfold load
  rw [h.1, hrow]
  simp only
  unfold loadRow
  rw [h.2]

omit [FloatNum F] in
theorem inserted_untouched {id other : String} (hne : other ≠ id) {params : List (CandidateRow F)}
    (hparams : ∀ r ∈ params, r.cycleId = other) (db : Db F) :
    Untouched id db (params.foldl Db.insertCandidate db) := by
  induction params generalizing db with
  | nil => exact ⟨rfl, rfl⟩
  | cons r rest ih =>
    obtain ⟨hr, hrest⟩ := List.forall_mem_cons.mp hparams
    have hstep : Untouched id db (db.insertCandidate r) := by
      unfold Db.insertCandidate
      split
      · exact ⟨rfl, rfl⟩
      · refine ⟨rfl, ?_⟩
        unfold Db.stored
        have hnone : [r].filter (fun q => decide (q.cycleId = id)) = [] := by
          simp [hr, hne]
        rw [List.filter_append, hnone, List.append_nil]
    obtain ⟨hcycle, hstored⟩ := ih hrest (db.insertCandidate r)
    exact ⟨hcycle.trans hstep.1, hstored.trans hstep.2⟩

/-- **A persist leaves every cycle that is there as it is.** -/
theorem persist_untouched {id : String} {db : Db F} (hrow : (db.cycle id).isSome = true)
    (s : Selection F) : Untouched id db (persist a db s).1 := by
  have hself : Untouched id db db := ⟨rfl, rfl⟩
  unfold persist
  split
  · split
    · split
      · exact hself
      · exact hself
    · exact hself
  · split
    · exact hself
    · split
      · split
        · exact hself
        · exact hself
      · rename_i json _ _ hfresh
        have hne : s.cycleId ≠ id := by
          intro heq
          rw [heq] at hfresh
          rw [hfresh] at hrow
          cases hrow
        obtain ⟨row, hrow⟩ := Option.isSome_iff_exists.mp hrow
        have hcycle : Untouched id db { db with cycles := db.cycles ++ [cycleRow a s json] } :=
          ⟨(cycle_append hrow).trans hrow.symm, rfl⟩
        unfold insertCandidates
        split
        · exact hcycle
        · rename_i params hparams
          obtain ⟨-, hmem, -, -⟩ := candidateRows_spec hparams
          obtain ⟨hc, hs⟩ := inserted_untouched hne (fun r hr => (hmem r hr).1)
            { db with cycles := db.cycles ++ [cycleRow a s json] }
          exact ⟨hc.trans hcycle.1, hs.trans hcycle.2⟩

/-- What is in the tables stays there. -/
theorem stored_later {s : Selection F} {db : Db F} (h : Stored a db s)
    (later : List (Selection F)) :
    Stored a (persistAll a db later) s := by
  induction later generalizing db with
  | nil => exact h
  | cons x rest ih =>
    refine ih ?_
    obtain ⟨row, hrow, heq⟩ := h.row
    have hsome : (db.cycle s.cycleId).isSome = true := by rw [hrow]; rfl
    have huntouched : Untouched s.cycleId db (persist a db x).1 := persist_untouched hsome x
    obtain ⟨p, hp, hsame⟩ := h.read
    exact ⟨⟨row, huntouched.1.trans hrow, heq⟩, h.writable,
      p, (load_untouched huntouched hsome).trans hp, hsame⟩

/-- **A selected universe that was persisted is read back as its dictionary, persisting it again
    leaves the tables as they are, and so does any other universe under its id, which is refused**
    -- then and after any later persists. -/
theorem persisted_universe {c : UniverseConstraints F} {request : Request F}
    {items : List (Payload F)} {u : SelectedUniverse F}
    (h : buildSelectedUniverse a.toHost c request items = .ok u) {db db' : Db F}
    (hforeign : Foreign db) (hpersist : persist a db (Selection.of u c) = (db', .ok ()))
    (later : List (Selection F)) :
    (∃ p, load a (persistAll a db' later) u.cycleId = .ok p ∧
      (Value.mapping p).Same (.mapping (Selection.of u c).asDict)) ∧
    persist a (persistAll a db' later) (Selection.of u c) = (persistAll a db' later, .ok ()) ∧
    ∀ s : Selection F, s.cycleId = u.cycleId →
      ¬ (Value.mapping s.asDict).Same (.mapping (Selection.of u c).asDict) →
      ∃ e, persist a (persistAll a db' later) s = (persistAll a db' later, .error e) := by
  have hstored := stored_later (persist_stored (build_sealed h) hforeign hpersist) later
  exact ⟨hstored.read, stored_persist hstored,
    fun s hid hother => stored_refuses hstored hid hother⟩

/-- `json.loads`, where the text is the code of a value. -/
def sampleRead (text : List Char) : Except PyError (Value Extended) :=
  match readValue Code.extended text.length text with
  | some (v, []) => .ok v
  | _ => .error (.valueError "Expecting value")

theorem sampleRead_write (v : Value Extended) :
    sampleRead (writeValue Code.extended v) = .ok v := by
  have hread := readValue_write Code.extended v _ [] (le_refl _)
  rw [List.append_nil] at hread
  unfold sampleRead
  rw [hread]

/-- Byte strings are lists of characters, the text of a payload is a code of its canonical form,
    and nothing is compressed. -/
def sampleArchive : Archive Extended (List Char) where
  toHost := { sampleHost with
    dumps := fun v => String.ofList (writeValue Code.extended v.canonical)
    digest := fun v => String.ofList (writeValue Code.extended v.canonical) }
  compact v := String.ofList (writeValue Code.extended v.canonical)
  loads text := sampleRead text.toList
  encode := String.toList
  loadsBytes := sampleRead
  size := List.length
  sha256 := String.ofList
  compress x := x
  decompress x limit := .ok ⟨x.take limit, decide (x.length ≤ limit),
    decide (limit < x.length), false⟩
  b64encode := String.ofList
  b64decode text := .ok text.toList
  describe _ := ""
  loads_dumps v _ := by rw [String.toList_ofList, sampleRead_write]
  loads_compact v _ := by rw [String.toList_ofList, sampleRead_write]
  loadsBytes_compact v _ := by rw [String.toList_ofList, sampleRead_write]
  compact_canonical v := by rw [canonical_canonical]
  compact_pos v := by
    rw [String.toList_ofList]
    exact writeValue_pos _ _
  digest_eq v := by rw [String.toList_ofList]
  decompress_compress x := by
    rw [List.take_of_length_le (Nat.le_succ _), decide_eq_true (Nat.le_succ _),
      decide_eq_false (Nat.not_lt.mpr (Nat.le_succ _))]
  compress_bound x := by omega
  b64decode_encode x := by rw [String.toList_ofList]
  b64encode_length x := by
    rw [String.length_ofList]
    omega

/-- No tables yet. -/
def emptyDb : Db Extended := ⟨[], [], none⟩

theorem foreign_emptyDb : Foreign emptyDb := List.forall_mem_nil _

/-- The frame of the universe of these candidates fits. -/
def frameFits (items : List (Payload Extended)) : Option Bool :=
  (buildSelectedUniverse sampleArchive.toHost sampleConstraints sampleRequest items).toOption.map
    fun u => decide ((writeValue Code.extended
      (detailsOf (Selection.of u sampleConstraints)).canonical).length ≤ maxCandidateDetailsBytes)

theorem universe_of_frameFits {items : List (Payload Extended)} (h : frameFits items = some true) :
    ∃ u, buildSelectedUniverse sampleArchive.toHost sampleConstraints sampleRequest items = .ok u ∧
      sampleArchive.size (sampleArchive.encode (sampleArchive.compact
        (detailsOf (Selection.of u sampleConstraints)))) ≤ maxCandidateDetailsBytes := by
  unfold frameFits at h
  cases hu : buildSelectedUniverse sampleArchive.toHost sampleConstraints sampleRequest items with
  | error e =>
    rw [hu] at h
    cases h
  | ok u =>
    rw [hu] at h
    refine ⟨u, rfl, ?_⟩
    have hlength := of_decide_eq_true (Option.some.inj h)
    show (String.toList (String.ofList (writeValue Code.extended
      (detailsOf (Selection.of u sampleConstraints)).canonical))).length ≤ _
    rw [String.toList_ofList]
    exact hlength

/-- A universe of one candidate. -/
theorem sample_universe :
    ∃ u, buildSelectedUniverse sampleArchive.toHost sampleConstraints sampleRequest
        [sampleCandidate "AAAUSDT" 1] = .ok u ∧
      sampleArchive.size (sampleArchive.encode (sampleArchive.compact
        (detailsOf (Selection.of u sampleConstraints)))) ≤ maxCandidateDetailsBytes :=
  universe_of_frameFits (by decide +kernel)

def samplePool : List (Payload Extended) :=
  [sampleCandidate "AAAUSDT" 1, sampleCandidate "BBBUSDT" 2]

/-- The same universe, said to come from another revision. -/
def Selection.relabelled (s : Selection Extended) : Selection Extended :=
  { s with gitSha := s.gitSha ++ "*" }

theorem relabelled_other (s : Selection Extended) :
    ¬ (Value.mapping s.relabelled.asDict).Same (.mapping s.asDict) := by
  intro h
  unfold Value.Same Value.normal at h
  rw [reshape_mapping, reshape_mapping] at h
  have hentries := Value.mapping.inj h
  have hsha := reshapeEntries_eq_iff.mp hentries "git_sha"
  have hnew : s.relabelled.asDict.lookup "git_sha" = some (.text (s.gitSha ++ "*")) := rfl
  have hold : s.asDict.lookup "git_sha" = some (.text s.gitSha) := rfl
  rw [hnew, hold, Option.map_some, Option.map_some, reshape_text, reshape_text] at hsha
  have hlength := congrArg String.length (Value.text.inj (Option.some.inj hsha))
  rw [String.length_append] at hlength
  simp at hlength

/-- The universe of two candidates, persisted in empty tables, then another one, then the first once
    more and the first with another revision. -/
theorem persisted_universe_sample :
    ∃ u other db, buildSelectedUniverse sampleArchive.toHost sampleConstraints sampleRequest
        samplePool = .ok u ∧
      buildSelectedUniverse sampleArchive.toHost sampleConstraints sampleRequest
        [sampleCandidate "AAAUSDT" 1] = .ok other ∧
      persistAll sampleArchive emptyDb
        [Selection.of u sampleConstraints, Selection.of other sampleConstraints] = db ∧
      (∃ p, load sampleArchive db u.cycleId = .ok p ∧
        (Value.mapping p).Same (.mapping (Selection.of u sampleConstraints).asDict)) ∧
      persist sampleArchive db (Selection.of u sampleConstraints) = (db, .ok ()) ∧
      ∃ e, persist sampleArchive db (Selection.of u sampleConstraints).relabelled =
        (db, .error e) := by
  obtain ⟨u, hu, hsize⟩ := @universe_of_frameFits samplePool (by decide +kernel)
  obtain ⟨other, hother, -⟩ := sample_universe
  obtain ⟨details, json, params, hpack, hjson, hparams⟩ := sealed_writable (build_sealed hu) hsize
  have hpersist := persist_fresh (s := Selection.of u sampleConstraints) foreign_emptyDb rfl hpack
    hjson hparams
  obtain ⟨hread, hagain, hrefuse⟩ := persisted_universe hu foreign_emptyDb hpersist
    [Selection.of other sampleConstraints]
  refine ⟨u, other, _, hu, hother, ?_, hread, hagain, hrefuse _ rfl (relabelled_other _)⟩
  unfold persistAll
  rw [List.foldl_cons, hpersist]

end AlphaForge.Universe
