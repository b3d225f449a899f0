/-
  File:      AlphaForge/Exchange/Transport.lean
  Subject:   The requests of `binance_reconciliation_provider.py`: one HTTP operation with its
             evidence and the rate-limit cooldown, the refresh of the server time, the signed GET
             with its two retry counters, and the public GET.

  The exchange answers the n-th request of a snapshot as it likes. A signed GET retries a transient
  failure as often as configured and one stale timestamp; a stale timestamp may be answered again
  by the refresh itself, so one attempt makes up to three requests.

  * **`within_signedGet`** -- a signed GET makes at most `signedRequests` requests.
  * `signedGet_answered` -- what a signed GET returns, the exchange answered.
-/
import AlphaForge.Exchange.Rows
import AlphaForge.Lib.Procedures

namespace AlphaForge.Exchange

open AlphaForge.Lib

/-! ## 1. The exchange and the session -/

/-- A request; the signature is a function of the query and left out. -/
structure Request (F : Type) where
  endpoint : String
  path : String
  symbol : Option String
  kind : String
  query : List (String × Value F)

inductive Response (F : Type) where
  | payload (v : Value F)
  | httpError (e : HttpError F)
  | transport (e : TransportError)
  /-- Any other exception, by its class. -/
  | other (className : String)

/-- What is outside the provider: the exchange, by the number of requests before, and the clocks, by
    the number of readings before. -/
structure World (F : Type) where
  http : ℕ → Request F → Response F
  nowMs : ℕ → ℤ
  monotonic : ℕ → F

structure Config where
  recvWindowMs : ℤ
  tradeLookbackMs : ℤ
  positionEpsilon : ℚ
  maxFillSymbols : ℤ
  transportRetries : ℤ

structure Attempt (F : Type) where
  sequence : ℕ
  endpointClass : String
  symbol : Option String
  requestKind : String
  attemptNumber : ℕ
  retryReason : Option String
  httpStatus : Option ℤ
  binanceCode : Option ℤ
  transportCategory : Option String
  outcome : String
  timeRefreshPerformed : Bool
  retryAfterSec : Option F
  rateLimitCooldownSec : Option F

structure Evidence where
  endpointClass : String
  symbol : Option String
  binanceCode : Option ℤ
  httpStatus : Option ℤ
  binanceMessage : Option String
  timeRefreshPerformed : Bool
  retryCount : ℕ
  finalOutcome : String
  deriving DecidableEq, Repr

/-- The provider's own state, and how often the clocks were read. -/
structure Session (F : Type) where
  timeOffsetMs : ℤ
  lastTimestampMs : ℤ
  requestEvidence : List Evidence
  requestAttempts : List (Attempt F)
  httpRequestCount : ℕ
  cooldownUntil : F
  cooldownReason : Option String
  clockReads : ℕ
  monotonicReads : ℕ

variable {F : Type} [FloatNum F] (lang : Language F) (world : World F) (cfg : Config)

/-- A step of the provider. -/
abbrev Step (F α : Type) := EStateM (Failure F) (Session F) α

/-- The last element, changed. -/
def mapLast {α : Type} (f : α → α) : List α → List α
  | [] => []
  | [x] => [f x]
  | x :: y :: xs => x :: mapLast f (y :: xs)

/-- `attempt.update(...)`, of the attempt made last. -/
def updateAttempt (f : Attempt F → Attempt F) : Step F PUnit :=
  modify fun s => { s with requestAttempts := mapLast f s.requestAttempts }

/-- `self._now_ms()`. -/
def readClock : Step F ℤ := do
  let s ← get
  modify fun s => { s with clockReads := s.clockReads + 1 }
  return world.nowMs s.clockReads

/-- `time.monotonic()`. -/
def readMonotonic : Step F F := do
  let s ← get
  modify fun s => { s with monotonicReads := s.monotonicReads + 1 }
  return world.monotonic s.monotonicReads

/-- `_record`. -/
def record (e : Evidence) : Step F PUnit :=
  modify fun s => { s with requestEvidence := s.requestEvidence ++ [e] }

/-! ## 2. HTTP errors and the cooldown -/

namespace HttpError

variable (e : HttpError F)

/-- `int(body.get("code"))`; `none` where the body is no mapping or the code no integer. -/
def binanceCode : Option ℤ :=
  match e.body with
  | some (.mapping body) =>
    match Payload.get body "code" with
    | .none => none
    | code => lang.int code
  | _ => none

/-- `_safe_binance_message`. -/
def safeMessage : Value F → Option String
  | .none => none
  | v => some (lang.redact (String.ofList (((v.str lang.toBuiltins).toList.map fun c =>
      if c = '\r' ∨ c = '\n' then ' ' else c).take 200)))

/-- The message of the body, unless its code could not be read. -/
def binanceMessage : Option String :=
  match e.body with
  | some (.mapping body) =>
    match Payload.get body "code" with
    | .none => safeMessage lang (Payload.get body "msg")
    | code => if (lang.int code).isSome then safeMessage lang (Payload.get body "msg") else none
  | _ => none

/-- Binance's shared rate-limit states. -/
def rateLimited : Bool :=
  e.status == 429 || (e.status == 418 && e.binanceCode lang == some (-1003))

/-- `_retry_after_seconds`. -/
def retryAfterSeconds : Option F :=
  match e.retryAfter with
  | none => none
  | some raw =>
    if raw = "" then none
    else (lang.parse (lang.strip raw)).filter fun x => (FloatNum.ofInt 0 : F) < x

/-- The message speaks of a limit per minute. -/
def perMinute : Bool :=
  (lang.lower ((e.binanceMessage lang).getD "")).toList.tails.any
    ("per minute".toList.isPrefixOf ·)

end HttpError

/-- `max(0.0, x)`. -/
def clip (x : F) : F := if (FloatNum.ofInt 0 : F) < x then x else FloatNum.ofInt 0

/-- `_ban_until_seconds`. -/
def banUntilSeconds (message : Option String) : Step F (Option F) :=
  match lang.bannedUntil (message.getD "") with
  | none => return none
  | some raw => do
    let now ← readClock world
    let banUntilMs := if 10000000000 ≤ raw then raw else raw * 1000
    return some (clip (FloatNum.ofInt (banUntilMs - now) / FloatNum.ofInt 1000))

/-- The wait that a rate-limit response asks for. -/
def cooldownSeconds (e : HttpError F) (banUntil : Option F) : F :=
  match e.retryAfterSeconds lang with
  | some retryAfter => retryAfter
  | none =>
    match banUntil with
    | some banUntil => banUntil
    | none =>
      if e.status = 429 ∧ e.perMinute lang = true then FloatNum.ofInt 60 else FloatNum.ofInt 0

/-- `f"HTTP_{exc.code}_BINANCE_{code}"`. -/
def cooldownReason (e : HttpError F) : String :=
  "HTTP_" ++ toString e.status ++ "_BINANCE_" ++
    match e.binanceCode lang with
    | some code => toString code
    | none => "None"

/-- `_register_rate_limit_cooldown`; the cooldown of the response. -/
def registerCooldown (e : HttpError F) : Step F F := do
  let banUntil ← banUntilSeconds lang world (e.binanceMessage lang)
  let cooldown := cooldownSeconds lang e banUntil
  if (FloatNum.ofInt 0 : F) < cooldown then
    let now ← readMonotonic world
    modify fun s => { s with
      cooldownUntil := if s.cooldownUntil < now + cooldown then now + cooldown
        else s.cooldownUntil }
  modify fun s => { s with cooldownReason := some (cooldownReason lang e) }
  return cooldown

/-! ## 3. One operation -/

/-- The new attempt. -/
def newAttempt (request : Request F) (attemptNumber : ℕ) (retryReason : Option String)
    (s : Session F) : Session F :=
  { s with
    httpRequestCount := s.httpRequestCount + 1
    requestAttempts := s.requestAttempts ++ [{
      sequence := s.httpRequestCount + 1
      endpointClass := request.endpoint
      symbol := request.symbol
      requestKind := request.kind
      attemptNumber := attemptNumber
      retryReason := retryReason
      httpStatus := none
      binanceCode := none
      transportCategory := none
      outcome := "FAIL"
      timeRefreshPerformed := request.kind == "SERVER_TIME"
      retryAfterSec := none
      rateLimitCooldownSec := none }] }

/-- What an HTTP error leaves behind. -/
def noteHttpError (e : HttpError F) : Step F PUnit := do
  updateAttempt fun a => { a with
    httpStatus := some e.status
    transportCategory := some "HTTP"
    binanceCode := e.binanceCode lang }
  if e.rateLimited lang then
    let cooldown ← registerCooldown lang world e
    updateAttempt fun a => { a with
      retryReason := some "RATE_LIMIT_COOLDOWN"
      retryAfterSec := e.retryAfterSeconds lang
      rateLimitCooldownSec := some cooldown }

/-- `_http_operation`. -/
def httpOperation (request : Request F) (attemptNumber : ℕ) (retryReason : Option String) :
    Step F (Value F) := do
  let s ← get
  modify (newAttempt request attemptNumber retryReason)
  match world.http s.httpRequestCount request with
  | .payload v =>
    updateAttempt fun a => { a with outcome := "PASS" }
    return v
  | .httpError e =>
    noteHttpError lang world e
    throw (.http e)
  | .transport e =>
    updateAttempt fun a => { a with transportCategory := some e.category }
    throw (.transport e)
  | .other className =>
    updateAttempt fun a => { a with transportCategory := some "TRANSPORT" }
    throw (.other className)

/-- `payload["serverTime"]`, where it is an integer. -/
def serverTime : Value F → Option ℤ
  | .mapping payload =>
    match Payload.get payload "serverTime" with
    | .int n => some n
    | .bool b => some (if b then 1 else 0)
    | _ => none
  | _ => none

/-- `_refresh_server_time`. -/
def refreshServerTime : Step F PUnit := do
  let payload ← httpOperation lang world ⟨"serverTime", "/fapi/v1/time", none, "SERVER_TIME", []⟩ 1
    (some "BINANCE_-1021")
  match serverTime payload with
  | none => throw (.payload "server_time_payload_invalid")
  | some n =>
    let now ← readClock world
    modify fun s => { s with timeOffsetMs := n - now }

/-! ## 4. The signed GET -/

/-- The negative code of a payload. -/
def errorCode : Value F → Option ℤ
  | .mapping payload =>
    match Payload.get payload "code" with
    | .int n => if n < 0 then some n else none
    | _ => none
  | _ => none

/-- What a signed GET asks for. -/
structure Get (F : Type) where
  path : String
  params : List (String × Value F)
  endpoint : String
  symbol : Option String

/-- How one attempt ends that raises nothing. -/
inductive Outcome (F : Type) (retries : ℤ) (transientRetries : ℕ) (timestampRetry : Bool) where
  | done (v : Value F)
  | refreshed (h : timestampRetry = false)
  | transient (h : (transientRetries : ℤ) < retries)

section Attempts

variable (g : Get F) (transientRetries : ℕ) (timestampRetry : Bool)

/-- `transient_retries + timestamp_retry`. -/
def retryCount : ℕ := transientRetries + timestampRetry.toNat

def evidence (code : Option ℤ) (outcome : String) (httpStatus : Option ℤ)
    (message : Option String) :
    Evidence :=
  ⟨g.endpoint, g.symbol, code, httpStatus, message, timestampRetry,
    retryCount transientRetries timestampRetry, outcome⟩

/-- The attempt is marked for the one retry of a stale timestamp, and the time is refreshed. -/
def refresh (code : ℤ) : Step F PUnit := do
  updateAttempt fun a => { a with
    outcome := "RETRY"
    retryReason := some "BINANCE_-1021"
    binanceCode := some code
    timeRefreshPerformed := true }
  refreshServerTime lang world

/-- The end of a failed attempt that is retried. -/
def retryTransient : Step F PUnit :=
  updateAttempt fun a => { a with outcome := "RETRY", retryReason := some "TRANSIENT_FAILURE" }

/-- `binance_http_error`. -/
def httpFailure (e : HttpError F) : Failure F :=
  .payload ("binance_http_error:status=" ++ toString e.status ++ ":code=" ++
    match e.binanceCode lang with
    | some code => toString code
    | none => "None")

/-- The `except` clauses; `code` is the code of the payload, where the refresh raised. -/
def handle (code : Option ℤ) :
    Failure F → Step F (Outcome F cfg.transportRetries transientRetries timestampRetry)
  | .http e =>
    if h : e.binanceCode lang = some (-1021) ∧ timestampRetry = false then do
      refresh lang world (-1021)
      return .refreshed h.2
    else if e.rateLimited lang then do
      record (evidence g transientRetries timestampRetry (e.binanceCode lang) "FAIL"
        (some e.status) (e.binanceMessage lang))
      throw (httpFailure lang e)
    else if e.status = 401 ∨ e.status = 403 then do
      record (evidence g transientRetries timestampRetry (e.binanceCode lang) "FAIL"
        (some e.status) (e.binanceMessage lang))
      throw (.auth ("binance_auth_failed_status_" ++ toString e.status))
    else if h : (500 ≤ e.status ∧ e.status < 600) ∧
      (transientRetries : ℤ) < cfg.transportRetries then do
      retryTransient
      return .transient h.2
    else do
      record (evidence g transientRetries timestampRetry (e.binanceCode lang) "FAIL"
        (some e.status) (e.binanceMessage lang))
      throw (httpFailure lang e)
  | .transport e =>
    if h : (transientRetries : ℤ) < cfg.transportRetries then do
      retryTransient
      return .transient h
    else do
      record (evidence g transientRetries timestampRetry code "FAIL" none none)
      throw (.transport e)
  | failure => throw failure

/-- The timestamp of the next signed request. -/
def nextTimestamp : Step F ℤ := do
  let now ← readClock world
  let s ← get
  let timestamp := max (now + s.timeOffsetMs) (s.lastTimestampMs + 1)
  modify fun s => { s with lastTimestampMs := timestamp }
  return timestamp

/-- One round of `_signed_get`. -/
def attempt : Step F (Outcome F cfg.transportRetries transientRetries timestampRetry) := do
  let timestamp ← nextTimestamp world
  let request : Request F := ⟨g.endpoint, g.path, g.symbol, "SIGNED",
    g.params ++ [("timestamp", .int timestamp), ("recvWindow", .int cfg.recvWindowMs)]⟩
  match ← observe (httpOperation lang world request
      (retryCount transientRetries timestampRetry + 1) none) with
  | .error failure => handle lang world cfg g transientRetries timestampRetry none failure
  | .ok result =>
    match errorCode result with
    | none =>
      record (evidence g transientRetries timestampRetry none "PASS" none none)
      return .done result
    | some code =>
      if h : code = -1021 ∧ timestampRetry = false then
        match ← observe (refresh lang world code) with
        | .ok _ => return .refreshed h.2
        | .error failure =>
          handle lang world cfg g transientRetries timestampRetry (some code) failure
      else
        updateAttempt fun a => { a with outcome := "FAIL", binanceCode := some code }
        throw (.auth ("binance_error_code_" ++ toString code))

/-- The retries that are left. -/
def retriesLeft (transientRetries : ℕ) (timestampRetry : Bool) : ℕ :=
  (cfg.transportRetries - transientRetries).toNat + (!timestampRetry).toNat

/-- The loop of `_signed_get`. -/
def signedGetLoop (transientRetries : ℕ) (timestampRetry : Bool) : Step F (Value F) := do
  match ← attempt lang world cfg g transientRetries timestampRetry with
  | .done v => return v
  | .refreshed _ => signedGetLoop transientRetries true
  | .transient _ => signedGetLoop (transientRetries + 1) timestampRetry
termination_by retriesLeft cfg transientRetries timestampRetry
decreasing_by
  all_goals
    simp only [retriesLeft]
    grind

end Attempts

/-- `_signed_get`. -/
def signedGet (g : Get F) : Step F (Value F) := signedGetLoop lang world cfg g 0 false

/-- `_public_get`. -/
def publicGet (path endpoint : String) : Step F (Value F) := do
  match ← observe (httpOperation lang world ⟨endpoint, path, none, "PUBLIC", []⟩ 1 none) with
  | .ok payload =>
    record ⟨endpoint, none, none, none, none, false, 0, "PASS"⟩
    return payload
  | .error failure =>
    record ⟨endpoint, none, none, none, none, false, 0, "FAIL"⟩
    throw failure

/-! ## 5. How many requests -/

section Requests

variable {lang world cfg}

omit [FloatNum F] in
theorem within_updateAttempt {f : Attempt F → Attempt F} :
    Within Session.httpRequestCount 0 (updateAttempt f) := within_modify fun _ => Nat.le_refl _

omit [FloatNum F] in
theorem within_record {e : Evidence} :
    Within Session.httpRequestCount 0 (record e : Step F PUnit) :=
  within_modify fun _ => Nat.le_refl _

omit [FloatNum F] in
theorem within_readClock : Within Session.httpRequestCount 0 (readClock world) :=
  within_after within_get fun _ => within_after (within_modify fun _ => Nat.le_refl _) fun _ =>
    within_pure _

omit [FloatNum F] in
theorem within_readMonotonic : Within Session.httpRequestCount 0 (readMonotonic world) :=
  within_after within_get fun _ => within_after (within_modify fun _ => Nat.le_refl _) fun _ =>
    within_pure _

theorem within_banUntilSeconds {message : Option String} :
    Within Session.httpRequestCount 0 (banUntilSeconds lang world message) := by
  unfold banUntilSeconds
  split
  · exact within_pure _
  · exact within_after within_readClock fun _ => within_pure _

theorem within_registerCooldown {e : HttpError F} :
    Within Session.httpRequestCount 0 (registerCooldown lang world e) := by
  unfold registerCooldown
  refine within_after within_banUntilSeconds fun banUntil => ?_
  have hend : Within Session.httpRequestCount 0 (do
      modify fun s : Session F => { s with cooldownReason := some (cooldownReason lang e) }
      return cooldownSeconds lang e banUntil : Step F F) :=
    within_after (within_modify fun _ => Nat.le_refl _) fun _ => within_pure _
  dsimp only
  split
  · exact within_after within_readMonotonic fun _ =>
      within_after (within_modify fun _ => Nat.le_refl _) fun _ => hend
  · exact hend

theorem within_noteHttpError {e : HttpError F} :
    Within Session.httpRequestCount 0 (noteHttpError lang world e) := by
  unfold noteHttpError
  refine within_after within_updateAttempt fun _ => ?_
  split
  · exact within_after within_registerCooldown fun _ => within_updateAttempt
  · exact within_pure _

theorem within_httpOperation {request : Request F} {attemptNumber : ℕ}
    {retryReason : Option String} :
    Within Session.httpRequestCount 1
      (httpOperation lang world request attemptNumber retryReason) := by
  unfold httpOperation
  refine within_after within_get fun s => ?_
  refine within_bind (a := 1) (b := 0) (within_modify fun _ => Nat.le_refl _) fun _ => ?_
  split
  · exact within_after within_updateAttempt fun _ => within_pure _
  · exact within_after within_noteHttpError fun _ => within_throw _
  · exact within_after within_updateAttempt fun _ => within_throw _
  · exact within_after within_updateAttempt fun _ => within_throw _

theorem within_refresh {code : ℤ} :
    Within Session.httpRequestCount 1 (refresh lang world code) := by
  unfold refresh refreshServerTime
  refine within_after within_updateAttempt fun _ => ?_
  refine within_bind (a := 1) (b := 0) within_httpOperation fun payload => ?_
  split
  · exact within_throw _
  · exact within_after within_readClock fun _ => within_modify fun _ => Nat.le_refl _

variable {g : Get F} {transientRetries : ℕ} {timestampRetry : Bool}

theorem within_handle {code : Option ℤ} {failure : Failure F} :
    Within Session.httpRequestCount 1
      (handle lang world cfg g transientRetries timestampRetry code failure) := by
  unfold handle
  split
  · split
    · exact within_bind within_refresh fun _ => within_pure _
    · split
      · exact (within_after within_record fun _ => within_throw _).mono (by omega)
      · split
        · exact (within_after within_record fun _ => within_throw _).mono (by omega)
        · split
          · exact (within_after within_updateAttempt fun _ => within_pure _).mono (by omega)
          · exact (within_after within_record fun _ => within_throw _).mono (by omega)
  · split
    · exact (within_after within_updateAttempt fun _ => within_pure _).mono (by omega)
    · exact (within_after within_record fun _ => within_throw _).mono (by omega)
  · exact (within_throw _).mono (by omega)

omit [FloatNum F] in
theorem within_nextTimestamp : Within Session.httpRequestCount 0 (nextTimestamp world) :=
  within_after within_readClock fun _ => within_after within_get fun _ =>
    within_after (within_modify fun _ => Nat.le_refl _) fun _ => within_pure _

/-- One round makes at most three requests: its own, a refresh, and the refresh of the handler where
    the first refresh is refused for a stale timestamp too. -/
theorem within_attempt :
    Within Session.httpRequestCount 3
      (attempt lang world cfg g transientRetries timestampRetry) := by
  unfold attempt
  refine within_after within_nextTimestamp fun timestamp => ?_
  refine within_bind (a := 1) (b := 2) (within_observe within_httpOperation) fun result => ?_
  split
  · exact within_handle.mono (by omega)
  · split
    · exact (within_after within_record fun _ => within_pure _).mono (by omega)
    · split
      · refine within_bind (a := 1) (b := 1) (within_observe within_refresh) fun outcome => ?_
        split
        · exact (within_pure _).mono (by omega)
        · exact within_handle
      · exact (within_after within_updateAttempt fun _ => within_throw _).mono (by omega)

theorem within_signedGetLoop (transientRetries : ℕ) (timestampRetry : Bool) :
    Within Session.httpRequestCount (3 * (retriesLeft cfg transientRetries timestampRetry + 1))
      (signedGetLoop lang world cfg g transientRetries timestampRetry) := by
  rw [signedGetLoop, Nat.mul_add, Nat.add_comm]
  refine within_bind within_attempt fun outcome => ?_
  cases outcome with
  | done v => exact (within_pure _).mono (by omega)
  | refreshed h =>
    have hless : retriesLeft cfg transientRetries true + 1 =
        retriesLeft cfg transientRetries timestampRetry := by
      simp [retriesLeft, h]
    exact (within_signedGetLoop transientRetries true).mono (by omega)
  | transient h =>
    have hless : retriesLeft cfg (transientRetries + 1) timestampRetry + 1 =
        retriesLeft cfg transientRetries timestampRetry := by
      simp only [retriesLeft]
      omega
    exact (within_signedGetLoop (transientRetries + 1) timestampRetry).mono (by omega)
termination_by retriesLeft cfg transientRetries timestampRetry

/-- The most requests of a signed GET. -/
def signedRequests (cfg : Config) : ℕ := 3 * (cfg.transportRetries.toNat + 2)

theorem within_signedGet :
    Within Session.httpRequestCount (signedRequests cfg) (signedGet lang world cfg g) := by
  refine (within_signedGetLoop 0 false).mono ?_
  simp only [retriesLeft, signedRequests, Bool.not_false, Bool.toNat_true]
  omega

theorem within_publicGet {path endpoint : String} :
    Within Session.httpRequestCount 1 (publicGet lang world path endpoint) := by
  unfold publicGet
  refine within_bind (a := 1) (b := 0) (within_observe within_httpOperation) fun outcome => ?_
  cases outcome with
  | ok payload => exact within_after within_record fun _ => within_pure _
  | error failure => exact within_after within_record fun _ => within_throw _

/-! ## 6. What is returned, the exchange answered -/

/-- The exchange answered a request to the endpoint with the payload. -/
def Answered (world : World F) (endpoint : String) (symbol : Option String) (payload : Value F) :
    Prop :=
  ∃ n request, request.endpoint = endpoint ∧ request.symbol = symbol ∧
    world.http n request = .payload payload

theorem httpOperation_answered {request : Request F} {attemptNumber : ℕ}
    {retryReason : Option String} {s t : Session F} {v : Value F}
    (h : httpOperation lang world request attemptNumber retryReason s = .ok v t) :
    Answered world request.endpoint request.symbol v := by
  unfold httpOperation at h
  obtain ⟨s', u, hs, h⟩ := bind_ok_iff.mp h
  obtain ⟨_, u', -, h⟩ := bind_ok_iff.mp h
  cases hresponse : world.http s'.httpRequestCount request with
  | payload w =>
    rw [hresponse] at h
    obtain ⟨_, u'', -, h⟩ := bind_ok_iff.mp h
    cases h
    exact ⟨_, request, rfl, rfl, hresponse⟩
  | httpError e =>
    rw [hresponse] at h
    obtain ⟨_, u'', -, h⟩ := bind_ok_iff.mp h
    exact nomatch h
  | transport e =>
    rw [hresponse] at h
    obtain ⟨_, u'', -, h⟩ := bind_ok_iff.mp h
    exact nomatch h
  | other className =>
    rw [hresponse] at h
    obtain ⟨_, u'', -, h⟩ := bind_ok_iff.mp h
    exact nomatch h

/-- A failure never ends a round with a payload. -/
theorem handle_not_done {code : Option ℤ} {failure : Failure F} {s t : Session F} {v : Value F} :
    handle lang world cfg g transientRetries timestampRetry code failure s ≠ .ok (.done v) t := by
  intro h
  unfold handle at h
  split at h
  · split at h
    · obtain ⟨_, u, -, h⟩ := bind_ok_iff.mp h
      exact nomatch h
    · split at h
      · obtain ⟨_, u, -, h⟩ := bind_ok_iff.mp h
        exact nomatch h
      · split at h
        · obtain ⟨_, u, -, h⟩ := bind_ok_iff.mp h
          exact nomatch h
        · split at h
          · obtain ⟨_, u, -, h⟩ := bind_ok_iff.mp h
            exact nomatch h
          · obtain ⟨_, u, -, h⟩ := bind_ok_iff.mp h
            exact nomatch h
  · split at h
    · obtain ⟨_, u, -, h⟩ := bind_ok_iff.mp h
      exact nomatch h
    · obtain ⟨_, u, -, h⟩ := bind_ok_iff.mp h
      exact nomatch h
  · exact nomatch h

theorem attempt_answered {s t : Session F} {v : Value F}
    (h : attempt lang world cfg g transientRetries timestampRetry s = .ok (.done v) t) :
    Answered world g.endpoint g.symbol v := by
  unfold attempt at h
  obtain ⟨timestamp, u, -, h⟩ := bind_ok_iff.mp h
  obtain ⟨result, u', hresult, h⟩ := bind_ok_iff.mp h
  cases result with
  | error failure => exact absurd h handle_not_done
  | ok result =>
    dsimp only at h
    cases hcode : errorCode result with
    | none =>
      rw [hcode] at h
      obtain ⟨_, u'', -, h⟩ := bind_ok_iff.mp h
      cases h
      exact httpOperation_answered (observe_ok_iff.mp hresult)
    | some code =>
      rw [hcode] at h
      dsimp only at h
      split at h
      · obtain ⟨outcome, u'', -, h⟩ := bind_ok_iff.mp h
        cases outcome with
        | ok _ => exact nomatch h
        | error failure => exact absurd h handle_not_done
      · obtain ⟨_, u'', -, h⟩ := bind_ok_iff.mp h
        exact nomatch h

theorem signedGetLoop_answered (transientRetries : ℕ) (timestampRetry : Bool) {s t : Session F}
    {v : Value F}
    (h : signedGetLoop lang world cfg g transientRetries timestampRetry s = .ok v t) :
    Answered world g.endpoint g.symbol v := by
  rw [signedGetLoop] at h
  obtain ⟨outcome, u, hattempt, h⟩ := bind_ok_iff.mp h
  cases outcome with
  | done w =>
    cases h
    exact attempt_answered hattempt
  | refreshed hr =>
    exact signedGetLoop_answered transientRetries true h
  | transient hr =>
    exact signedGetLoop_answered (transientRetries + 1) timestampRetry h
termination_by retriesLeft cfg transientRetries timestampRetry
decreasing_by
  all_goals
    simp only [retriesLeft]
    grind

theorem signedGet_answered {s t : Session F} {v : Value F}
    (h : signedGet lang world cfg g s = .ok v t) : Answered world g.endpoint g.symbol v :=
  signedGetLoop_answered 0 false h

end Requests

end AlphaForge.Exchange
