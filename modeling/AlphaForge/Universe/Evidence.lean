/-
  File:      AlphaForge/Universe/Evidence.lean
  Subject:   `universe_evidence.py`: how a selected universe is stored and read back.

  A cycle is one row with the universe less its candidates, one row for each candidate with what the
  queries need, and, inside the payload of the cycle, one compressed frame with the rest of every
  candidate. Reading puts the three together and recomputes the hashes.

  * `persist` -- `persist_universe_selection`, with the tables it leaves behind.
  * `load` -- `load_persisted_universe_selection`; `load_ok_iff` says what a load that answers
    found.

  The columns hold values of their declared types. The driver reports one row or none for the insert
  of a cycle, so the branch for an unknown outcome is left out.
-/
import AlphaForge.Lib.Json
import AlphaForge.Universe.Selection

namespace AlphaForge.Universe

open AlphaForge.Lib

/-! ## 1. The library -/

/-- What the decompression of a frame leaves. -/
structure Frame (B : Type) where
  raw : B
  eof : Bool
  unconsumedTail : Bool
  unusedData : Bool

/-- What the store takes from the libraries for JSON, SHA-256, zlib and base64, with byte strings in
    `B`. `dumps` is `json.dumps(value, sort_keys=True)`. -/
structure Archive (F B : Type) [FloatNum F] extends Host F where
  /-- `json.dumps(value, sort_keys=True, separators=(",", ":"))`. -/
  compact : Value F → String
  /-- `json.loads(text)`. -/
  loads : String → Except PyError (Value F)
  /-- `text.encode()`. -/
  encode : String → B
  /-- `json.loads(raw)` of a byte string. -/
  loadsBytes : B → Except PyError (Value F)
  /-- `len(raw)`. -/
  size : B → ℕ
  sha256 : B → String
  /-- `zlib.compress`. -/
  compress : B → B
  /-- `zlib.decompressobj()` with one call of `decompress(data, limit)`. -/
  decompress : B → ℕ → Except PyError (Frame B)
  b64encode : B → String
  /-- `base64.b64decode(text, validate=True)`. -/
  b64decode : String → Except PyError B
  /-- `str(exc)`. -/
  describe : PyError → String
  loads_dumps : ∀ v, v.finite = true → loads (dumps v) = .ok v.canonical
  loads_compact : ∀ v, v.finite = true → loads (compact v) = .ok v.canonical
  loadsBytes_compact : ∀ v, v.finite = true → loadsBytes (encode (compact v)) = .ok v.canonical
  compact_canonical : ∀ v, compact v.canonical = compact v
  compact_pos : ∀ v, 0 < size (encode (compact v))
  digest_eq : ∀ v, digest v = sha256 (encode (compact v))
  decompress_compress : ∀ x, decompress (compress x) (size x + 1) = .ok ⟨x, true, false, false⟩
  compress_bound : ∀ x, size (compress x) ≤
    size x + size x / 4096 + size x / 16384 + size x / 33554432 + 13
  b64decode_encode : ∀ x, b64decode (b64encode x) = .ok x
  b64encode_length : ∀ x, (b64encode x).length ≤ 4 * ((size x + 2) / 3)

variable {F B : Type} [FloatNum F] (a : Archive F B)

namespace Archive

theorem digest_canonical (v : Value F) : a.digest v.canonical = a.digest v := by
  rw [a.digest_eq, a.digest_eq, a.compact_canonical]

/-- Values of one canonical form have one digest. -/
theorem digest_congr {v w : Value F} (h : v.canonical = w.canonical) : a.digest v = a.digest w := by
  rw [← a.digest_canonical, h, a.digest_canonical]

/-- Where the hash function is injective, a digest tells the value. -/
theorem digest_injective (hinj : Function.Injective a.sha256) {v w : Value F}
    (hv : v.finite = true) (hw : w.finite = true) (h : a.digest v = a.digest w) :
    v.canonical = w.canonical := by
  rw [a.digest_eq, a.digest_eq] at h
  have hread := a.loadsBytes_compact v hv
  rw [hinj h, a.loadsBytes_compact w hw] at hread
  exact (Except.ok.inj hread).symm

/-- `json.dumps(value, allow_nan=False, ..)`. -/
def dumpsStrict (v : Value F) : Except PyError String :=
  if v.finite then .ok (a.compact v)
  else .error (.valueError "Out of range float values are not JSON compliant")

end Archive

/-- `if not p: raise ValueError(message)`. -/
def require (p : Prop) [Decidable p] (message : String) : Except PyError Unit :=
  if p then .ok () else .error (.valueError message)

theorem require_ok {p : Prop} [Decidable p] {message : String} :
    require p message = .ok () ↔ p := by
  unfold require
  split
  · rename_i h
    exact iff_of_true rfl h
  · rename_i h
    exact iff_of_false (fun he => by cases he) h

/-! ## 2. What is stored -/

/-- `SelectedUniverse` with every field. -/
structure Selection (F : Type) [FloatNum F] extends SelectedUniverse F where
  constraints : UniverseConstraints F
  schemaVersion : String := "universe_selection_v1"
  rankingVersion : String := "opportunity_ranking_v1"

def optionalText : Option String → Value F
  | none => .none
  | some s => .text s

def optionalInt : Option ℤ → Value F
  | none => .none
  | some n => .int n

/-- A list of texts. -/
def textList (texts : List String) : Value F := .list (texts.map .text)

namespace Selection

variable (s : Selection F)

/-- `selection.as_dict()`. -/
def asDict : Payload F :=
  [("cycle_id", .text s.cycleId),
    ("decision_timestamp", .float s.decisionTimestamp),
    ("execution_mode", .text s.executionMode),
    ("constraints", .mapping s.constraints.asDict),
    ("candidates", .list (s.candidates.map fun d => .mapping d.asDict)),
    ("selected_symbols", textList s.selectedSymbols),
    ("config_hash", .text s.configHash),
    ("strategy_config_hash", optionalText s.strategyConfigHash),
    ("universe_hash", .text s.universeHash),
    ("evidence_hash", .text s.evidenceHash),
    ("git_sha", .text s.gitSha),
    ("source_provenance", textList s.sourceProvenance),
    ("schema_version", .text s.schemaVersion),
    ("ranking_version", .text s.rankingVersion)]

end Selection

/-- `candidate.evidence_availability`. -/
def availabilityOfDecision (d : Decision F) : Payload F :=
  d.evidenceAvailability.map fun e => (e.1, .text e.2)

/-- The list that the frame of a cycle holds. -/
def detailsOf (s : Selection F) : Value F :=
  .list (s.candidates.map fun d =>
    .list [.mapping d.observedInputs, .mapping (availabilityOfDecision d)])

/-- `MAX_CANDIDATE_DETAILS_BYTES`. -/
def maxCandidateDetailsBytes : ℕ := 64 * 1024 * 1024

/-- `_pack_candidate_details`. -/
def packCandidateDetails (s : Selection F) : Except PyError (Value F) := do
  let text ← a.dumpsStrict (detailsOf s)
  let raw := a.encode text
  if maxCandidateDetailsBytes < a.size raw then
    .error (.valueError "UNIVERSE_CANDIDATE_DETAILS_BOUND")
  else .ok (.mapping
    [("codec", .text "zlib-json-v1"), ("uncompressed_bytes", .int (a.size raw)),
      ("sha256", .text (a.sha256 raw)), ("data", .text (a.b64encode (a.compress raw)))])

/-- One of the details: two dictionaries. -/
def detailPair : Value F → Except PyError (Payload F × Payload F)
  | .list [.mapping observed, .mapping availability] => .ok (observed, availability)
  | _ => .error (.valueError "candidate detail shape invalid")

/-- The keys of a frame. -/
def frameKeys : List String := ["codec", "uncompressed_bytes", "sha256", "data"]

/-- The bytes of a frame of known size. -/
def readFrame (entries : Payload F) (size : ℤ) (data : String) : Except PyError B := do
  let compressed ← a.b64decode data
  let frame ← a.decompress compressed (size.toNat + 1)
  require ((a.size frame.raw : ℤ) = size ∧ frame.eof = true ∧ frame.unconsumedTail = false ∧
    frame.unusedData = false ∧ (entries.get "sha256").Same (.text (a.sha256 frame.raw)))
    "candidate detail frame invalid"
  return frame.raw

/-- `_unpack_candidate_details`. -/
def unpackCandidateDetails (value : Value F) (count : ℤ) :
    Except PyError (List (Payload F × Payload F)) :=
  match value with
  | .mapping entries => do
    require ((∀ key ∈ entries.map Prod.fst, key ∈ frameKeys) ∧
      (∀ key ∈ frameKeys, key ∈ entries.map Prod.fst) ∧
      (Payload.get entries "codec").Same (.text "zlib-json-v1")) "candidate detail codec invalid"
    match Payload.get entries "uncompressed_bytes", Payload.get entries "data" with
    | .int size, .text data => do
      require (0 < size ∧ size ≤ maxCandidateDetailsBytes ∧
        data.length ≤ 2 * maxCandidateDetailsBytes) "candidate detail size invalid"
      let raw ← readFrame a entries size data
      match ← a.loadsBytes raw with
      | .list details => do
        require ((details.length : ℤ) = count) "candidate detail shape invalid"
        details.mapM detailPair
      | _ => .error (.valueError "candidate detail shape invalid")
    | _, _ => .error (.valueError "candidate detail size invalid")
  | _ => .error (.valueError "candidate detail codec invalid")

/-- A row of `universe_selection_cycles`. -/
structure CycleRow (F : Type) where
  cycleId : String
  decisionTimestamp : F
  executionMode : String
  selectedSymbolsJson : String
  candidateCount : ℤ
  configHash : String
  strategyConfigHash : Option String
  universeHash : String
  evidenceHash : String
  gitSha : String
  sourceProvenanceJson : String
  rankingVersion : String
  schemaVersion : String
  payloadJson : String

/-- A row of `universe_selection_candidates`. -/
structure CandidateRow (F : Type) where
  cycleId : String
  candidateIndex : ℤ
  symbol : String
  eligibilityState : String
  exclusionReasonsJson : String
  observedInputsJson : String
  rankingComponentsJson : String
  rankingScore : Option F
  rankingOrder : Option ℤ
  selected : ℤ
  evidenceAvailabilityJson : String

/-- The tables. `rollups` holds the cycles of `storage_universe_compaction_rollups`, where that
    table exists. -/
structure Db (F : Type) where
  cycles : List (CycleRow F)
  candidates : List (CandidateRow F)
  rollups : Option (List String)

namespace Db

variable (db : Db F) (id : String)

/-- The row of a cycle. -/
def cycle : Option (CycleRow F) := db.cycles.find? fun r => r.cycleId = id

/-- The candidate rows of a cycle, `ORDER BY candidate_index`. -/
def stored : List (CandidateRow F) :=
  sortOn CandidateRow.candidateIndex (db.candidates.filter fun r => r.cycleId = id)

/-- `INSERT .. ON CONFLICT(cycle_id, candidate_index) DO NOTHING`. -/
def insertCandidate (r : CandidateRow F) : Db F :=
  if db.candidates.any fun q => q.cycleId = r.cycleId ∧ q.candidateIndex = r.candidateIndex then db
  else { db with candidates := db.candidates ++ [r] }

end Db

/-! ## 3. Reading -/

/-- `_storage_codec` of a cycle payload. -/
inductive StorageCodec where
  | legacy
  | rows
  | batch
  deriving DecidableEq

/-- `codec`; `none` where it is unknown. -/
def storageCodec (payload : Payload F) : Option StorageCodec :=
  match payload.get "_storage_codec" with
  | .none => some .legacy
  | .text "candidate-rows-v2" => some .rows
  | .text "candidate-batch-v3" => some .batch
  | _ => none

/-- `{"_cycle_detail": index}`. -/
def detailReference (index : ℕ) : Value F := .mapping [("_cycle_detail", .int index)]

/-- The inputs and the availability of a candidate: its own, or those of the frame. -/
def resolveDetails (details : Option (List (Payload F × Payload F))) (index : ℕ)
    (observed availability : Value F) : Except PyError (Value F × Value F) :=
  match details with
  | none => .ok (observed, availability)
  | some all => do
    require (observed.Same (detailReference index) ∧ availability.Same (detailReference index))
      "candidate detail reference mismatch"
    match all[index]? with
    | some pair => .ok (.mapping pair.1, .mapping pair.2)
    | none => .error (.keyError "list index out of range")

/-- `isinstance(value, list)`. -/
def isList : Value F → Bool
  | .list _ => true
  | _ => false

/-- `isinstance(value, dict)`. -/
def isMapping : Value F → Bool
  | .mapping _ => true
  | _ => false

/-- `candidate`. -/
def candidateDict (r : CandidateRow F) (reasons observed components availability : Value F) :
    Payload F :=
  [("symbol", .text r.symbol),
    ("state", .text r.eligibilityState),
    ("reasons", reasons),
    ("observed_inputs", observed),
    ("ranking_components", components),
    ("score", optionalNumber r.rankingScore),
    ("rank", optionalInt r.rankingOrder),
    ("selected", .bool (r.selected ≠ 0)),
    ("evidence_availability", availability)]

/-- One round of the loop over the candidate rows. -/
def readCandidate (details : Option (List (Payload F × Payload F))) (index : ℕ)
    (r : CandidateRow F) : Except PyError (Payload F) := do
  require (r.candidateIndex = index ∧ (r.selected = 0 ∨ r.selected = 1))
    "candidate index or boolean mismatch"
  let observed ← a.loads r.observedInputsJson
  let availability ← a.loads r.evidenceAvailabilityJson
  let resolved ← resolveDetails details index observed availability
  let reasons ← a.loads r.exclusionReasonsJson
  let components ← a.loads r.rankingComponentsJson
  require (isList reasons = true ∧ isMapping resolved.1 = true ∧ isMapping components = true ∧
    isMapping resolved.2 = true) "candidate JSON structure invalid"
  return candidateDict r reasons resolved.1 components resolved.2

/-- The loop over the candidate rows. -/
def readCandidates (details : Option (List (Payload F × Payload F))) :
    ℕ → List (CandidateRow F) → Except PyError (List (Payload F))
  | _, [] => .ok []
  | index, r :: rest => do
    let candidate ← readCandidate a details index r
    let others ← readCandidates details (index + 1) rest
    return candidate :: others

/-- `payload.pop(key)`. -/
def pop (payload : Payload F) (key : String) : Payload F := payload.filter fun e => e.1 ≠ key

/-- The payload with what only describes its storage taken out. -/
def kept (codec : StorageCodec) (payload : Payload F) : Payload F :=
  match codec with
  | .legacy => payload
  | .rows => pop payload "_storage_codec"
  | .batch => pop (pop payload "_storage_codec") "candidate_details"

/-- The payload with its candidates. -/
def mergeCandidates (codec : StorageCodec) (payload : Payload F) (candidates : List (Payload F)) :
    Except PyError (Payload F) :=
  match codec with
  | .legacy => do
    require ((payload.get "candidates").Same (.list (candidates.map .mapping)))
      "legacy candidate rows diverge from cycle payload"
    return payload
  | _ => do
    require ("candidates" ∉ payload.map Prod.fst) "normalized cycle contains duplicate candidates"
    return assign (kept codec payload) "candidates" (.list (candidates.map .mapping))

/-- `expected`. -/
def expectedOf (row : CycleRow F) (selected providers : Value F) : Payload F :=
  [("cycle_id", .text row.cycleId),
    ("decision_timestamp", .float row.decisionTimestamp),
    ("execution_mode", .text row.executionMode),
    ("selected_symbols", selected),
    ("config_hash", .text row.configHash),
    ("strategy_config_hash", optionalText row.strategyConfigHash),
    ("universe_hash", .text row.universeHash),
    ("evidence_hash", .text row.evidenceHash),
    ("git_sha", .text row.gitSha),
    ("source_provenance", providers),
    ("ranking_version", .text row.rankingVersion),
    ("schema_version", .text row.schemaVersion)]

/-- `canonical`. -/
def canonicalOf (row : CycleRow F) (constraints : Payload F) (candidates : List (Payload F)) :
    Payload F :=
  [("decision_timestamp", .float row.decisionTimestamp),
    ("constraints", .mapping constraints),
    ("candidates", .list (candidates.map .mapping)),
    ("git_sha", .text row.gitSha),
    ("strategy_config_hash", optionalText row.strategyConfigHash),
    ("ranking_version", .text row.rankingVersion),
    ("schema_version", .text row.schemaVersion)]

/-- `actual_selected`. -/
def actualSelected (stored : List (CandidateRow F)) : List String :=
  (stored.filter fun r => r.selected ≠ 0).map CandidateRow.symbol

/-- What is hashed as the universe. -/
def universeOf (symbols : List String) (evidenceHash : String) : Payload F :=
  [("symbols", textList symbols), ("evidence_hash", .text evidenceHash)]

/-- The checks of a payload that has its candidates. -/
def verify (row : CycleRow F) (stored : List (CandidateRow F)) (payload : Payload F)
    (candidates : List (Payload F)) : Except PyError Unit := do
  let selected ← a.loads row.selectedSymbolsJson
  let providers ← a.loads row.sourceProvenanceJson
  require (∀ e ∈ expectedOf row selected providers, (payload.get e.1).Same e.2)
    "cycle metadata mismatch"
  match payload.get "constraints" with
  | .mapping constraints => do
    let configHash ← canonicalHash a.toHost (.mapping constraints)
    require (configHash = row.configHash) "constraints hash mismatch"
    let evidenceHash ← canonicalHash a.toHost (.mapping (canonicalOf row constraints candidates))
    require (evidenceHash = row.evidenceHash) "canonical decision evidence hash mismatch"
    require (row.cycleId = "universe:" ++ row.executionMode ++ ":" ++ row.evidenceHash)
      "cycle ID / evidence hash mismatch"
    match payload.lookup "selected_symbols" with
    | none => .error (.keyError "selected_symbols")
    | some symbols => do
      require (symbols.Same (textList (actualSelected stored)))
        "selected symbol projection mismatch"
      let universeHash ← canonicalHash a.toHost
        (.mapping (universeOf (actualSelected stored) row.evidenceHash))
      require (universeHash = row.universeHash) "universe hash mismatch"
  | _ => .error (.valueError "constraints unavailable")

/-- `details`: the frame of a cycle that has one. -/
def cycleDetails (codec : StorageCodec) (payload : Payload F) (count : ℤ) :
    Except PyError (Option (List (Payload F × Payload F))) :=
  if codec = .batch then
    (unpackCandidateDetails a (Payload.get payload "candidate_details") count).map some
  else .ok none

/-- The body of the `try` block. -/
def loadRow (db : Db F) (id : String) (row : CycleRow F) : Except PyError (Payload F) := do
  match ← a.loads row.payloadJson with
  | .mapping payload =>
    match storageCodec payload with
    | none => .error (.valueError "unknown storage codec")
    | some codec => do
      let details ← cycleDetails a codec payload row.candidateCount
      let stored := db.stored id
      require ((stored.length : ℤ) = row.candidateCount) "candidate count mismatch"
      let candidates ← readCandidates a details 0 stored
      let merged ← mergeCandidates codec payload candidates
      verify a row stored merged candidates
      return merged
  | _ => .error (.valueError "cycle payload is not an object")

/-- `raise ValueError(..) from exc`, for the errors that are caught. -/
def invalid (id : String) : PyError → PyError
  | .valueError m => .valueError
      ("UNIVERSE_SELECTION_EVIDENCE_INVALID:" ++ id ++ ":" ++ a.describe (.valueError m))
  | .keyError m => .valueError
      ("UNIVERSE_SELECTION_EVIDENCE_INVALID:" ++ id ++ ":" ++ a.describe (.keyError m))
  | .typeError => .valueError
      ("UNIVERSE_SELECTION_EVIDENCE_INVALID:" ++ id ++ ":" ++ a.describe .typeError)
  | e => e

/-- `load_persisted_universe_selection`. -/
def load (db : Db F) (id : String) : Except PyError (Payload F) :=
  match db.cycle id with
  | none =>
    if id ∈ db.rollups.getD [] then
      .error (.valueError ("UNIVERSE_SELECTION_STATS_ONLY_NOT_REPLAYABLE:" ++ id))
    else .error (.valueError ("UNIVERSE_SELECTION_EVIDENCE_MISSING:" ++ id))
  | some row => (loadRow a db id row).mapError (invalid a id)

/-! ## 4. Writing -/

/-- `payload_json` before it is a text. -/
def cyclePayload (s : Selection F) (details : Value F) : Payload F :=
  [("_storage_codec", .text "candidate-batch-v3"),
    ("candidate_details", details),
    ("cycle_id", .text s.cycleId),
    ("decision_timestamp", .float s.decisionTimestamp),
    ("execution_mode", .text s.executionMode),
    ("constraints", .mapping s.constraints.asDict),
    ("selected_symbols", textList s.selectedSymbols),
    ("config_hash", .text s.configHash),
    ("strategy_config_hash", optionalText s.strategyConfigHash),
    ("universe_hash", .text s.universeHash),
    ("evidence_hash", .text s.evidenceHash),
    ("git_sha", .text s.gitSha),
    ("source_provenance", textList s.sourceProvenance),
    ("ranking_version", .text s.rankingVersion),
    ("schema_version", .text s.schemaVersion)]

/-- `cycle_params`. -/
def cycleRow (s : Selection F) (payloadJson : String) : CycleRow F where
  cycleId := s.cycleId
  decisionTimestamp := s.decisionTimestamp
  executionMode := s.executionMode
  selectedSymbolsJson := a.dumps (textList s.selectedSymbols)
  candidateCount := s.candidates.length
  configHash := s.configHash
  strategyConfigHash := s.strategyConfigHash
  universeHash := s.universeHash
  evidenceHash := s.evidenceHash
  gitSha := s.gitSha
  sourceProvenanceJson := a.dumps (textList s.sourceProvenance)
  rankingVersion := s.rankingVersion
  schemaVersion := s.schemaVersion
  payloadJson := payloadJson

/-- One of `candidate_params`. -/
def candidateRow (id : String) (index : ℕ) (d : Decision F) : Except PyError (CandidateRow F) := do
  let components ← a.dumpsStrict (.mapping d.rankingComponents)
  return {
    cycleId := id
    candidateIndex := index
    symbol := d.symbol
    eligibilityState := d.state.value
    exclusionReasonsJson := a.dumps (textList d.reasons)
    observedInputsJson := a.dumps (detailReference index)
    rankingComponentsJson := components
    rankingScore := d.score
    rankingOrder := d.rank.map Int.ofNat
    selected := if d.selected then 1 else 0
    evidenceAvailabilityJson := a.dumps (detailReference index) }

/-- `candidate_params`. -/
def candidateRows (id : String) : ℕ → List (Decision F) → Except PyError (List (CandidateRow F))
  | _, [] => .ok []
  | index, d :: rest => do
    let row ← candidateRow a id index d
    let others ← candidateRows id (index + 1) rest
    return row :: others

/-- The columns of a candidate row that are read back. -/
def rowValues (r : CandidateRow F) : Value F :=
  .list [.int r.candidateIndex, .text r.symbol, .text r.eligibilityState,
    .text r.exclusionReasonsJson, .text r.observedInputsJson, .text r.rankingComponentsJson,
    optionalNumber r.rankingScore, optionalInt r.rankingOrder, .int r.selected,
    .text r.evidenceAvailabilityJson]

def idempotencyConflict (id : String) : PyError :=
  .runtimeError ("UNIVERSE_SELECTION_IDEMPOTENCY_CONFLICT:" ++ id)

/-- `_verify_selection_replay`. -/
def verifySelectionReplay (db : Db F) (s : Selection F) (evidenceHash : String) :
    Except PyError Unit :=
  if evidenceHash ≠ s.evidenceHash then .error (idempotencyConflict s.cycleId)
  else
    match load a db s.cycleId with
    | .error (.valueError _) =>
      .error (.runtimeError ("UNIVERSE_SELECTION_CANDIDATE_IDEMPOTENCY_CONFLICT:" ++ s.cycleId))
    | .error e => .error e
    | .ok restored =>
      if (Value.mapping restored).Same (.mapping s.asDict) then .ok ()
      else .error (idempotencyConflict s.cycleId)

/-- The comparison of the rows that are read back with the rows that were written. -/
def compareRows (id : String) (stored params : List (CandidateRow F)) : Except PyError Unit := do
  if stored.length ≠ params.length then
    .error (.runtimeError ("UNIVERSE_SELECTION_CANDIDATE_COUNT_CONFLICT:" ++ id ++ ":" ++
      toString stored.length ++ "!=" ++ toString params.length))
  else (stored.zip params).forM fun pair =>
    if (rowValues pair.1).Same (rowValues pair.2) then .ok ()
    else .error (.runtimeError ("UNIVERSE_SELECTION_CANDIDATE_IDEMPOTENCY_CONFLICT:" ++ id ++ ":" ++
      toString pair.2.candidateIndex))

/-- What follows the insert of a cycle row: the tables, and what is raised. -/
def insertCandidates (db : Db F) (s : Selection F) : Db F × Except PyError Unit :=
  match candidateRows a s.cycleId 0 s.candidates with
  | .error e => (db, .error e)
  | .ok params =>
    let written := params.foldl Db.insertCandidate db
    (written, compareRows s.cycleId (written.stored s.cycleId) params)

/-- `persist_universe_selection`: the tables it leaves, and what it raises. -/
def persist (db : Db F) (s : Selection F) : Db F × Except PyError Unit :=
  match packCandidateDetails a s with
  | .error e =>
    if e = .valueError "UNIVERSE_CANDIDATE_DETAILS_BOUND" then
      match db.cycle s.cycleId with
      | none => (db, .error e)
      | some prior => (db, verifySelectionReplay a db s prior.evidenceHash)
    else (db, .error e)
  | .ok details =>
    match a.dumpsStrict (.mapping (cyclePayload s details)) with
    | .error e => (db, .error e)
    | .ok payloadJson =>
      match db.cycle s.cycleId with
      | some existing =>
        if existing.evidenceHash ≠ s.evidenceHash then (db, .error (idempotencyConflict s.cycleId))
        else (db, verifySelectionReplay a db s existing.evidenceHash)
      | none => insertCandidates a { db with cycles := db.cycles ++ [cycleRow a s payloadJson] } s

/-! ## 5. What a load that answers has found -/

/-- The parts that a load puts together. -/
structure Reading (F : Type) where
  row : CycleRow F
  payload : Payload F
  codec : StorageCodec
  details : Option (List (Payload F × Payload F))
  candidates : List (Payload F)
  selected : Value F
  providers : Value F
  constraints : Payload F
  symbols : Value F

/-- `p` is read from the parts, and every check passes. -/
structure Reads (db : Db F) (id : String) (r : Reading F) (p : Payload F) : Prop where
  row : db.cycle id = some r.row
  payload : a.loads r.row.payloadJson = .ok (.mapping r.payload)
  codec : storageCodec r.payload = some r.codec
  details : cycleDetails a r.codec r.payload r.row.candidateCount = .ok r.details
  count : ((db.stored id).length : ℤ) = r.row.candidateCount
  candidates : readCandidates a r.details 0 (db.stored id) = .ok r.candidates
  merged : mergeCandidates r.codec r.payload r.candidates = .ok p
  selected : a.loads r.row.selectedSymbolsJson = .ok r.selected
  providers : a.loads r.row.sourceProvenanceJson = .ok r.providers
  expected : ∀ e ∈ expectedOf r.row r.selected r.providers, (Payload.get p e.1).Same e.2
  constraints : Payload.get p "constraints" = .mapping r.constraints
  configHash : canonicalHash a.toHost (.mapping r.constraints) = .ok r.row.configHash
  evidenceHash : canonicalHash a.toHost
    (.mapping (canonicalOf r.row r.constraints r.candidates)) = .ok r.row.evidenceHash
  cycleId : r.row.cycleId = "universe:" ++ r.row.executionMode ++ ":" ++ r.row.evidenceHash
  symbols : p.lookup "selected_symbols" = some r.symbols
  projection : r.symbols.Same (textList (actualSelected (db.stored id)))
  universeHash : canonicalHash a.toHost
    (.mapping (universeOf (actualSelected (db.stored id)) r.row.evidenceHash)) =
      .ok r.row.universeHash

variable {a}

theorem canonicalHash_ok_iff {host : Host F} {v : Value F} {hash : String} :
    canonicalHash host v = .ok hash ↔ v.finite = true ∧ host.digest v = hash := by
  unfold canonicalHash
  split
  · rename_i h
    rw [Except.ok.injEq]
    exact (and_iff_right h).symm
  · rename_i h
    exact iff_of_false (fun he => by cases he) fun he => h he.1

omit [FloatNum F] in
theorem lookup_pop {payload : Payload F} {key k : String} (h : k ≠ key) :
    (pop payload key).lookup k = payload.lookup k := by
  unfold pop
  induction payload with
  | nil => rfl
  | cons e rest ih =>
    rw [List.filter_cons]
    by_cases hk : k = e.1
    · rw [if_pos (decide_eq_true (hk ▸ h)), lookup_head hk, lookup_head hk]
    · rw [lookup_tail hk]
      split
      · rw [lookup_tail hk, ih]
      · exact ih

theorem verify_ok_iff {row : CycleRow F} {stored : List (CandidateRow F)} {p : Payload F}
    {candidates : List (Payload F)} : verify a row stored p candidates = .ok () ↔
    ∃ selected providers constraints symbols,
      a.loads row.selectedSymbolsJson = .ok selected ∧
      a.loads row.sourceProvenanceJson = .ok providers ∧
      (∀ e ∈ expectedOf row selected providers, (Payload.get p e.1).Same e.2) ∧
      Payload.get p "constraints" = .mapping constraints ∧
      canonicalHash a.toHost (.mapping constraints) = .ok row.configHash ∧
      canonicalHash a.toHost (.mapping (canonicalOf row constraints candidates)) =
        .ok row.evidenceHash ∧
      row.cycleId = "universe:" ++ row.executionMode ++ ":" ++ row.evidenceHash ∧
      p.lookup "selected_symbols" = some symbols ∧
      symbols.Same (textList (actualSelected stored)) ∧
      canonicalHash a.toHost (.mapping (universeOf (actualSelected stored) row.evidenceHash)) =
        .ok row.universeHash := by
  unfold verify
  constructor
  · intro h
    obtain ⟨selected, hselected, h⟩ := ok_of_bind h
    obtain ⟨providers, hproviders, h⟩ := ok_of_bind h
    obtain ⟨_, hexpected, h⟩ := ok_of_bind h
    split at h
    · rename_i constraints hconstraints
      obtain ⟨configHash, hconfig, h⟩ := ok_of_bind h
      obtain ⟨_, hconfigEq, h⟩ := ok_of_bind h
      obtain ⟨evidenceHash, hevidence, h⟩ := ok_of_bind h
      obtain ⟨_, hevidenceEq, h⟩ := ok_of_bind h
      obtain ⟨_, hid, h⟩ := ok_of_bind h
      split at h
      · cases h
      · rename_i symbols hsymbols
        obtain ⟨_, hprojection, h⟩ := ok_of_bind h
        obtain ⟨universeHash, huniverse, h⟩ := ok_of_bind h
        rw [require_ok.mp hconfigEq] at hconfig
        rw [require_ok.mp hevidenceEq] at hevidence
        rw [require_ok.mp h] at huniverse
        exact ⟨selected, providers, constraints, symbols, hselected, hproviders,
          require_ok.mp hexpected, hconstraints, hconfig, hevidence, require_ok.mp hid, hsymbols,
          require_ok.mp hprojection, huniverse⟩
    · cases h
  · intro ⟨selected, providers, constraints, symbols, hselected, hproviders, hexpected,
      hconstraints, hconfig, hevidence, hid, hsymbols, hprojection, huniverse⟩
    rw [hselected, ok_bind, hproviders, ok_bind, require_ok.mpr hexpected, ok_bind, hconstraints]
    simp only
    rw [hconfig, ok_bind, require_ok.mpr rfl, ok_bind, hevidence, ok_bind, require_ok.mpr rfl,
      ok_bind, require_ok.mpr hid, ok_bind, hsymbols]
    simp only
    rw [require_ok.mpr hprojection, ok_bind, huniverse, ok_bind, require_ok.mpr rfl]

/-- **A load answers exactly with what it has read.** -/
theorem load_ok_iff {db : Db F} {id : String} {p : Payload F} :
    load a db id = .ok p ↔ ∃ r, Reads a db id r p := by
  constructor
  · intro h
    unfold load at h
    cases hrow : db.cycle id with
    | none =>
      rw [hrow] at h
      simp only at h
      split at h
      · cases h
      · cases h
    | some row =>
      rw [hrow] at h
      simp only at h
      have hload : loadRow a db id row = .ok p := by
        cases hx : loadRow a db id row with
        | error e =>
          rw [hx] at h
          cases h
        | ok q =>
          rw [hx] at h
          exact h
      unfold loadRow at hload
      obtain ⟨value, hvalue, hload⟩ := ok_of_bind hload
      split at hload
      · rename_i payload
        split at hload
        · cases hload
        · rename_i codec hcodec
          obtain ⟨details, hdetails, hload⟩ := ok_of_bind hload
          obtain ⟨_, hcount, hload⟩ := ok_of_bind hload
          obtain ⟨candidates, hcandidates, hload⟩ := ok_of_bind hload
          obtain ⟨merged, hmerged, hload⟩ := ok_of_bind hload
          obtain ⟨_, hverify, hload⟩ := ok_of_bind hload
          cases Except.ok.inj hload
          obtain ⟨selected, providers, constraints, symbols, hselected, hproviders, hexpected,
            hconstraints, hconfig, hevidence, hid, hsymbols, hprojection, huniverse⟩ :=
            verify_ok_iff.mp hverify
          exact ⟨⟨row, payload, codec, details, candidates, selected, providers, constraints,
            symbols⟩, ⟨hrow, hvalue, hcodec, hdetails, require_ok.mp hcount, hcandidates, hmerged,
            hselected, hproviders, hexpected, hconstraints, hconfig, hevidence, hid, hsymbols,
            hprojection, huniverse⟩⟩
      · cases hload
  · intro ⟨r, h⟩
    have hverify : verify a r.row (db.stored id) p r.candidates = .ok () :=
      verify_ok_iff.mpr ⟨r.selected, r.providers, r.constraints, r.symbols, h.selected,
        h.providers, h.expected, h.constraints, h.configHash, h.evidenceHash, h.cycleId, h.symbols,
        h.projection, h.universeHash⟩
    unfold load
    rw [h.row]
    simp only
    unfold loadRow
    rw [h.payload, ok_bind]
    simp only
    rw [h.codec]
    simp only
    rw [h.details, ok_bind, require_ok.mpr h.count, ok_bind, h.candidates, ok_bind, h.merged,
      ok_bind, hverify, ok_bind]
    rfl

end AlphaForge.Universe
