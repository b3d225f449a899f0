/-
  File:      AlphaForge/Exchange/Cooldown.lean
  Subject:   What a run of snapshots does after the exchange has refused a request for its rate.

  A response of status 429 or 418 ends its call, and the cooldown that it leaves is kept until a
  later call finds it elapsed. Five responses escape that: one that states no wait, one whose ban is
  over, a 418 whose code is not read, one whose message states a ban that is not read and is longer
  than its Retry-After, and one with the code of a stale timestamp, which is answered by a refresh
  at once.

  * `collects_collect` -- a collection returns without a refusal or raises with one as its last
    answer.
  * `callEnd` -- what one snapshot does about the cooldown.
  * `respects_of_signalled` -- in every run whose refusals are recognised and state a wait, no
    request is made before that wait has elapsed.
-/
import AlphaForge.Exchange.Exposure
import AlphaForge.Lib.Extended
import AlphaForge.Lib.Runs

namespace AlphaForge.Exchange

open AlphaForge.Lib

/-! ## 1. The course of a session -/

/-- What the log holds of one answer. -/
structure Answer where
  endpoint : String
  symbol : Option String
  kind : String
  status : Option ℤ
  deriving DecidableEq, Repr

/-- A status that signals a rate limit or a ban. -/
def Answer.Refuses (a : Answer) : Prop := a.status = some 429 ∨ a.status = some 418

instance : DecidablePred Answer.Refuses := fun _ => inferInstanceAs (Decidable (_ ∨ _))

def Attempt.answer {F : Type} (a : Attempt F) : Answer :=
  ⟨a.endpointClass, a.symbol, a.requestKind, a.httpStatus⟩

/-- What a session says about requests, clocks and the cooldown. -/
structure Course where
  answers : List Answer
  requests : ℕ
  clockReads : ℕ
  monotonicReads : ℕ
  cooldownUntil : Extended

def Session.course (s : Session Extended) : Course :=
  ⟨s.requestAttempts.map Attempt.answer, s.httpRequestCount, s.clockReads, s.monotonicReads,
    s.cooldownUntil⟩

/-- The clocks, by the number of readings before. -/
structure Clocks where
  nowMs : ℕ → ℤ
  monotonic : ℕ → ℚ

/-- An exchange with the clocks. -/
def Clocks.world (clocks : Clocks) (http : ℕ → Request Extended → Response Extended) :
    World Extended :=
  ⟨http, clocks.nowMs, fun n => .finite (clocks.monotonic n)⟩

/-! ## 2. Refusals -/

section Refusals

variable (lang : Language Extended) (e : HttpError Extended)

/-- The instant of a ban, in milliseconds. -/
def banMs (raw : ℤ) : ℤ := if 10000000000 ≤ raw then raw else raw * 1000

/-- The text of the body's message. -/
def HttpError.statedMessage : String :=
  match e.body with
  | some (.mapping body) =>
    match Payload.get body "msg" with
    | .none => ""
    | msg => msg.str lang.toBuiltins
  | _ => ""

/-- The end of the ban that the exchange states. -/
def HttpError.statedBanMs : Option ℤ := (lang.bannedUntil (e.statedMessage lang)).map banMs

/-- The end of the ban that the provider reads: not where the body's code is unreadable, nor in what
    it cuts off the message. -/
def HttpError.banUntilMs : Option ℤ :=
  (lang.bannedUntil ((e.binanceMessage lang).getD "")).map banMs

/-- The seconds to an instant. -/
def secondsTo (ms now : ℤ) : Extended := FloatNum.ofInt (ms - now) / FloatNum.ofInt 1000

/-- A refused request. -/
def HttpError.Refuses : Prop := e.status = 429 ∨ e.status = 418

/-- The cooldown is positive and as long as every wait that the response states. -/
structure Covers (now : ℤ) (cooldown : Extended) : Prop where
  positive : (FloatNum.ofInt 0 : Extended) < cooldown
  retryAfter : ∀ x, e.retryAfterSeconds lang = some x → x ≤ cooldown
  banUntil : ∀ ms, e.statedBanMs lang = some ms → secondsTo ms now ≤ cooldown

/-- The refusal is recognised and states a wait: `Retry-After`, no shorter than a stated ban, else
    a ban that is read as it is stated, else the limit per minute. -/
structure Signalled (request : Request Extended) (readings : ℤ → Prop) : Prop where
  recognised : e.rateLimited lang = true
  notStale : request.kind = "PUBLIC" ∨ e.binanceCode lang ≠ some (-1021)
  waits : (e.retryAfterSeconds lang).isSome ∨ (e.banUntilMs lang).isSome ∨
    (e.status = 429 ∧ e.perMinute lang = true)
  ban : ∀ ms, e.statedBanMs lang = some ms → ∀ now, readings now →
    match e.retryAfterSeconds lang with
    | some x => secondsTo ms now ≤ x
    | none => now < ms
  read : e.retryAfterSeconds lang = none → e.banUntilMs lang = e.statedBanMs lang

end Refusals

/-! ## 3. How a procedure ends -/

section Endings

-- `start` is how often the clock had been read when the call began
variable (lang : Language Extended) (clocks : Clocks)
  (http : ℕ → Request Extended → Response Extended) (start : ℕ)

/-- Counters only grow, and every request is in the log. -/
structure Forward (s t : Course) : Prop where
  requests : s.requests ≤ t.requests
  clockReads : s.clockReads ≤ t.clockReads
  logged : s.requests = s.answers.length → t.requests = t.answers.length

/-- The readings of the clock from the start to a state. -/
def Readings (t : Course) (now : ℤ) : Prop :=
  ∃ k, start ≤ k ∧ k < t.clockReads ∧ now = clocks.nowMs k

/-- Every refusal that the exchange has for a request on the way is recognised and states a wait. -/
def Signals (s t : Course) : Prop :=
  ∀ n, s.requests ≤ n → n < t.requests → ∀ request e, http n request = .httpError e → e.Refuses →
    Signalled lang e request (Readings clocks start t)

/-- No request was refused. -/
structure Quiet (s t : Course) : Prop where
  answers : ∃ rest, t.answers = s.answers ++ rest ∧ ∀ a ∈ rest, ¬ a.Refuses
  monotonicReads : t.monotonicReads = s.monotonicReads
  cooldownUntil : t.cooldownUntil = s.cooldownUntil

/-- The last request, and no other, was refused, and the cooldown covers it, at the last reading of
    the clock since the start. -/
structure Refused (s t : Course) : Prop where
  answers : ∃ rest request e cooldown,
    t.answers = s.answers ++ rest ++ [⟨request.endpoint, request.symbol, request.kind,
      some e.status⟩] ∧
    (∀ a ∈ rest, ¬ a.Refuses) ∧ http (t.requests - 1) request = .httpError e ∧ e.Refuses ∧
    (start < t.clockReads → Covers lang e (clocks.nowMs (t.clockReads - 1)) cooldown) ∧
    Extended.finite (clocks.monotonic (t.monotonicReads - 1)) + cooldown ≤ t.cooldownUntil
  monotonicReads : t.monotonicReads = s.monotonicReads + 1
  cooldownUntil : s.cooldownUntil ≤ t.cooldownUntil

/-- Every request is in the log, the cooldown is a number, and the call has begun. -/
structure Valid (s : Course) : Prop where
  logged : s.requests = s.answers.length
  number : IsNumber s.cooldownUntil
  begun : start ≤ s.clockReads

structure Returned (s t : Course) : Prop extends Forward s t where
  quiet : Valid start s → Signals lang clocks http start s t → Quiet s t

structure Raised (s t : Course) : Prop extends Forward s t where
  quietOrRefused : Valid start s → Signals lang clocks http start s t →
    Quiet s t ∨ Refused lang clocks http start s t

/-- A refusal that is recognised and, in a signed GET, not answered with a refresh. -/
def Stops (kind : String) (failure : Failure Extended) : Prop :=
  ∃ e, failure = .http e ∧ e.rateLimited lang = true ∧
    (kind = "PUBLIC" ∨ e.binanceCode lang ≠ some (-1021))

/-- How a request of the kind raises. -/
structure RaisedBy (kind : String) (failure : Failure Extended) (s t : Course) : Prop
    extends Forward s t where
  quietOrRefused : Valid start s → Signals lang clocks http start s t →
    Quiet s t ∨ Refused lang clocks http start s t ∧ Stops lang kind failure

variable {lang clocks http start} {s t u : Course}

theorem Forward.refl (s : Course) : Forward s s := ⟨Nat.le_refl _, Nat.le_refl _, id⟩

theorem Forward.trans (h : Forward s t) (h' : Forward t u) : Forward s u :=
  ⟨h.requests.trans h'.requests, h.clockReads.trans h'.clockReads,
    fun hs => h'.logged (h.logged hs)⟩

theorem Quiet.refl (s : Course) : Quiet s s :=
  ⟨⟨[], (List.append_nil _).symm, fun _ ha => absurd ha List.not_mem_nil⟩, rfl, rfl⟩

theorem Quiet.trans (h : Quiet s t) (h' : Quiet t u) : Quiet s u := by
  obtain ⟨rest, hanswers, hrest⟩ := h.answers
  obtain ⟨rest', hanswers', hrest'⟩ := h'.answers
  refine ⟨⟨rest ++ rest', ?_, fun a ha => ?_⟩, h'.monotonicReads.trans h.monotonicReads,
    h'.cooldownUntil.trans h.cooldownUntil⟩
  · rw [hanswers', hanswers, List.append_assoc]
  · exact (List.mem_append.mp ha).elim (hrest a) (hrest' a)

theorem Refused.after (h : Quiet s t) (h' : Refused lang clocks http start t u) :
    Refused lang clocks http start s u := by
  obtain ⟨rest, hanswers, hrest⟩ := h.answers
  obtain ⟨rest', request, e, cooldown, hanswers', hrest', hcovered⟩ := h'.answers
  refine ⟨⟨rest ++ rest', request, e, cooldown, ?_, fun a ha => ?_, hcovered⟩, ?_, ?_⟩
  · rw [hanswers', hanswers, List.append_assoc s.answers]
  · exact (List.mem_append.mp ha).elim (hrest a) (hrest' a)
  · rw [h'.monotonicReads, h.monotonicReads]
  · exact h.cooldownUntil ▸ h'.cooldownUntil

theorem Quiet.valid (hf : Forward s t) (hq : Quiet s t) (h : Valid start s) : Valid start t :=
  ⟨hf.logged h.logged, hq.cooldownUntil ▸ h.number, h.begun.trans hf.clockReads⟩

theorem Signals.first (h : Signals lang clocks http start s u) (htu : Forward t u) :
    Signals lang clocks http start s t := by
  intro n hn hlt request e hanswer hrefuses
  obtain ⟨hrecognised, hstale, hwaits, hban, hread⟩ :=
    h n hn (Nat.lt_of_lt_of_le hlt htu.requests) request e hanswer hrefuses
  refine ⟨hrecognised, hstale, hwaits, fun ms hms now hnow => hban ms hms now ?_, hread⟩
  obtain ⟨k, hk, hkt, rfl⟩ := hnow
  exact ⟨k, hk, Nat.lt_of_lt_of_le hkt htu.clockReads, rfl⟩

theorem Signals.second (h : Signals lang clocks http start s u) (hst : Forward s t) :
    Signals lang clocks http start t u := by
  intro n hn hlt request e hanswer hrefuses
  exact h n (hst.requests.trans hn) hlt request e hanswer hrefuses

theorem Returned.refl (s : Course) : Returned lang clocks http start s s :=
  ⟨Forward.refl s, fun _ _ => Quiet.refl s⟩

theorem Returned.trans (h : Returned lang clocks http start s t)
    (h' : Returned lang clocks http start t u) :
    Returned lang clocks http start s u := by
  refine ⟨h.toForward.trans h'.toForward, fun hv hs => ?_⟩
  have hst := h.quiet hv (hs.first h'.toForward)
  exact hst.trans (h'.quiet (hst.valid h.toForward hv) (hs.second h.toForward))

theorem Returned.raised (h : Returned lang clocks http start s t)
    (h' : Raised lang clocks http start t u) :
    Raised lang clocks http start s u := by
  refine ⟨h.toForward.trans h'.toForward, fun hv hs => ?_⟩
  have hst := h.quiet hv (hs.first h'.toForward)
  exact (h'.quietOrRefused (hst.valid h.toForward hv)
    (hs.second h.toForward)).imp hst.trans (Refused.after hst)

theorem Returned.raisedBy {kind : String} {failure : Failure Extended}
    (h : Returned lang clocks http start s t)
    (h' : RaisedBy lang clocks http start kind failure t u) :
    RaisedBy lang clocks http start kind failure s u := by
  refine ⟨h.toForward.trans h'.toForward, fun hv hs => ?_⟩
  have hst := h.quiet hv (hs.first h'.toForward)
  exact (h'.quietOrRefused (hst.valid h.toForward hv)
    (hs.second h.toForward)).imp hst.trans (And.imp_left (Refused.after hst))

theorem RaisedBy.raised {kind : String} {failure : Failure Extended}
    (h : RaisedBy lang clocks http start kind failure s t) : Raised lang clocks http start s t :=
  ⟨h.toForward, fun hv hs => (h.quietOrRefused hv hs).imp_right And.left⟩

/-- The two relations, of the sessions. -/
theorem composes_raised : Composes (ε := Failure Extended)
    (fun s t : Session Extended => Returned lang clocks http start s.course t.course)
    (fun _ s t => Raised lang clocks http start s.course t.course) where
  refl _ := .refl _
  raise _ _ := ⟨.refl _, fun _ _ => .inl (.refl _)⟩
  trans h h' := h.trans h'
  raised h h' := h.raised h'

theorem composes_raisedBy {kind : String} : Composes
    (fun s t : Session Extended => Returned lang clocks http start s.course t.course)
    (fun failure s t => RaisedBy lang clocks http start kind failure s.course t.course) where
  refl _ := .refl _
  raise _ _ := ⟨.refl _, fun _ _ => .inl (.refl _)⟩
  trans h h' := h.trans h'
  raised h h' := h.raisedBy h'

/-- A procedure that reads the clock, whether it returns or raises; `course` reads its state. -/
def Reads {σ α : Type} (course : σ → Course) (m : EStateM (Failure Extended) σ α) : Prop :=
  Ends (fun s t => (course s).clockReads < (course t).clockReads)
    (fun _ s t => (course s).clockReads < (course t).clockReads) m

variable (lang clocks http start) in
/-- A sequence reads the clock where its first part does. -/
theorem reads_bind {σ α β : Type} {course : σ → Course} {m : EStateM (Failure Extended) σ α}
    {f : α → EStateM (Failure Extended) σ β} (hm : Reads course m)
    (hf : ∀ a, Ends (fun s t => Returned lang clocks http start (course s) (course t))
      (fun _ s t => Raised lang clocks http start (course s) (course t)) (f a)) :
    Reads course (m >>= f) :=
  ends_bind_of hm hf (fun _ _ _ h h' => Nat.lt_of_lt_of_le h h'.clockReads) (fun _ _ _ h => h)
    fun _ _ _ _ h h' => Nat.lt_of_lt_of_le h h'.clockReads

end Endings

/-! ## 4. The requests -/

section Requests

variable {lang : Language Extended} {clocks : Clocks}
  {http : ℕ → Request Extended → Response Extended} {start : ℕ} {cfg : Config}

/-- What leaves requests and cooldown as they are. -/
theorem Returned.of_same {s t : Course} (hanswers : t.answers = s.answers)
    (hrequests : t.requests = s.requests) (hclock : s.clockReads ≤ t.clockReads)
    (hmonotonic : t.monotonicReads = s.monotonicReads)
    (hcooldown : t.cooldownUntil = s.cooldownUntil) : Returned lang clocks http start s t := by
  refine ⟨⟨hrequests.ge, hclock, fun h => by rw [hrequests, hanswers, h]⟩, fun _ _ => ⟨⟨[], ?_, ?_⟩,
    hmonotonic, hcooldown⟩⟩
  · rw [hanswers, List.append_nil]
  · exact fun a ha => absurd ha List.not_mem_nil

theorem map_mapLast {α β : Type} {f : α → α} {g : α → β} (h : ∀ x, g (f x) = g x) :
    ∀ xs : List α, (mapLast f xs).map g = xs.map g
  | [] => rfl
  | [x] => by rw [mapLast, List.map_singleton, List.map_singleton, h]
  | x :: y :: xs => by
    rw [mapLast, List.map_cons, map_mapLast h (y :: xs), ← List.map_cons]

theorem mapLast_append {α : Type} (f : α → α) (xs : List α) (x : α) :
    mapLast f (xs ++ [x]) = xs ++ [f x] := by
  induction xs with
  | nil => rfl
  | cons y ys ih =>
    cases ys with
    | nil => rfl
    | cons z zs =>
      show y :: mapLast f ((z :: zs) ++ [x]) = _
      rw [ih]
      rfl

/-- A change of an attempt that keeps its answer. -/
theorem course_updateAttempt {f : Attempt Extended → Attempt Extended}
    (h : ∀ a, (f a).answer = a.answer) (s : Session Extended) :
    ({ s with requestAttempts := mapLast f s.requestAttempts } : Session Extended).course =
      s.course := by
  unfold Session.course
  rw [map_mapLast h]

theorem ends_same {α : Type} {R : Failure Extended → Session Extended → Session Extended → Prop}
    {m : Step Extended α} (f : Session Extended → Session Extended) (a : Session Extended → α)
    (hm : ∀ s, m s = .ok (a s) (f s))
    (hf : ∀ s, Returned lang clocks http start s.course (f s).course) :
    Ends (fun s t => Returned lang clocks http start s.course t.course) R m := by
  intro s
  rw [hm s]
  exact hf s

variable {R : Failure Extended → Session Extended → Session Extended → Prop}

theorem ends_updateAttempt {f : Attempt Extended → Attempt Extended}
    (h : ∀ a, (f a).answer = a.answer) :
    Ends (fun s t => Returned lang clocks http start s.course t.course) R (updateAttempt f) :=
  ends_same _ (fun _ => ⟨⟩) (fun _ => rfl) fun s => by
    rw [course_updateAttempt h s]
    exact .refl _

theorem ends_record {e : Evidence} :
    Ends (fun s t => Returned lang clocks http start s.course t.course) R (record e) :=
  ends_same _ (fun _ => ⟨⟩) (fun _ => rfl) fun _ => .refl _

theorem ends_readClock :
    Ends (fun s t => Returned lang clocks http start s.course t.course) R
      (readClock (clocks.world http)) :=
  ends_same (fun s => { s with clockReads := s.clockReads + 1 })
    (fun s => clocks.nowMs s.clockReads)
    (fun _ => rfl) fun _ => .of_same rfl rfl (Nat.le_succ _) rfl rfl

theorem ends_nextTimestamp :
    Ends (fun s t => Returned lang clocks http start s.course t.course) R
      (nextTimestamp (clocks.world http)) :=
  ends_same (fun s => { s with
      clockReads := s.clockReads + 1
      lastTimestampMs := max (clocks.nowMs s.clockReads + s.timeOffsetMs) (s.lastTimestampMs + 1) })
    (fun s => max (clocks.nowMs s.clockReads + s.timeOffsetMs) (s.lastTimestampMs + 1))
    (fun _ => rfl) fun _ => .of_same rfl rfl (Nat.le_succ _) rfl rfl

variable (lang clocks http) in
/-- The cooldown of a refusal, where the ban ends the given seconds from now. -/
theorem banUntilSeconds_eq (e : HttpError Extended) (s : Session Extended) :
    banUntilSeconds lang (clocks.world http) (e.binanceMessage lang) s =
      .ok ((e.banUntilMs lang).map fun ms => clip (secondsTo ms (clocks.nowMs s.clockReads)))
        { s with clockReads := s.clockReads + if (e.banUntilMs lang).isSome then 1 else 0 } := by
  unfold banUntilSeconds HttpError.banUntilMs
  cases lang.bannedUntil ((e.binanceMessage lang).getD "") with
  | none => rfl
  | some raw => rfl

/-- The session after a refusal with the cooldown. -/
def cooled (clocks : Clocks) (cooldown : Extended) (s : Session Extended) : Session Extended :=
  if (FloatNum.ofInt 0 : Extended) < cooldown then
    { s with
      monotonicReads := s.monotonicReads + 1
      cooldownUntil :=
        if s.cooldownUntil < .finite (clocks.monotonic s.monotonicReads) + cooldown
        then .finite (clocks.monotonic s.monotonicReads) + cooldown else s.cooldownUntil }
  else s

variable (lang clocks http) in
theorem registerCooldown_eq (e : HttpError Extended) (s : Session Extended) :
    registerCooldown lang (clocks.world http) e s =
      (let cooldown := cooldownSeconds lang e
          ((e.banUntilMs lang).map fun ms => clip (secondsTo ms (clocks.nowMs s.clockReads)))
      .ok cooldown { cooled clocks cooldown
          { s with clockReads := s.clockReads + if (e.banUntilMs lang).isSome then 1 else 0 } with
        cooldownReason := some (cooldownReason lang e) }) := by
  unfold registerCooldown
  show EStateM.bind _ _ s = _
  unfold EStateM.bind
  rw [banUntilSeconds_eq]
  unfold cooled
  dsimp only
  split
  · rfl
  · rfl

/-- A positive number. -/
theorem clip_of_pos {x : Extended} (h : (FloatNum.ofInt 0 : Extended) < x) : clip x = x := if_pos h

theorem secondsTo_pos {ms now : ℤ} (h : now < ms) :
    (FloatNum.ofInt 0 : Extended) < secondsTo ms now := by
  have hthousand : ((1000 : ℤ) : ℚ) ≠ 0 := by norm_num
  have hseconds : secondsTo ms now = .finite (((ms - now : ℤ) : ℚ) / ((1000 : ℤ) : ℚ)) :=
    show (if ((1000 : ℤ) : ℚ) = 0 then Extended.signed ((ms - now : ℤ) : ℚ)
      else .finite (((ms - now : ℤ) : ℚ) / ((1000 : ℤ) : ℚ))) = _ from if_neg hthousand
  rw [hseconds]
  refine Extended.finite_lt_iff.mpr ?_
  have hpos : (0 : ℚ) < ((ms - now : ℤ) : ℚ) := by exact_mod_cast Int.sub_pos_of_lt h
  rw [Int.cast_zero]
  exact div_pos hpos (by norm_num)

theorem retryAfter_pos {e : HttpError Extended} {x : Extended}
    (h : e.retryAfterSeconds lang = some x) : (FloatNum.ofInt 0 : Extended) < x := by
  unfold HttpError.retryAfterSeconds at h
  split at h
  · exact nomatch h
  · split at h
    · exact nomatch h
    · exact of_decide_eq_true (Option.filter_eq_some_iff.mp h).2

/-- A recognised refusal that states a wait leaves a positive cooldown. -/
theorem cooldownSeconds_pos {e : HttpError Extended} {request : Request Extended}
    {readings : ℤ → Prop} {now : ℤ} (h : Signalled lang e request readings)
    (hnow : (e.banUntilMs lang).isSome → readings now) :
    (FloatNum.ofInt 0 : Extended) < cooldownSeconds lang e
      ((e.banUntilMs lang).map fun ms => clip (secondsTo ms now)) := by
  unfold cooldownSeconds
  cases hretry : e.retryAfterSeconds lang with
  | some x => exact retryAfter_pos hretry
  | none =>
    have hread := h.read hretry
    cases hms : e.banUntilMs lang with
    | some ms =>
      have hban := h.ban ms (hread.symm.trans hms) now (hnow (hms ▸ rfl))
      rw [hretry] at hban
      have hpos := secondsTo_pos hban
      show (FloatNum.ofInt 0 : Extended) < clip (secondsTo ms now)
      rwa [clip_of_pos hpos]
    | none =>
      have hminute : e.status = 429 ∧ e.perMinute lang = true := by
        rcases h.waits with hwait | hwait | hwait
        · rw [hretry] at hwait
          cases hwait
        · rw [hms] at hwait
          cases hwait
        · exact hwait
      show (FloatNum.ofInt 0 : Extended) < if e.status = 429 ∧ e.perMinute lang = true then
        FloatNum.ofInt 60 else FloatNum.ofInt 0
      rw [if_pos hminute]
      exact Extended.finite_lt_iff.mpr (by norm_num)

/-- The cooldown covers the refusal at every reading, where it is the one at which a ban was
    read. -/
theorem covers_cooldownSeconds {e : HttpError Extended} {request : Request Extended}
    {readings : ℤ → Prop} {now last : ℤ} (h : Signalled lang e request readings)
    (hnow : (e.banUntilMs lang).isSome → readings now) (hlast : readings last)
    (hsame : (e.banUntilMs lang).isSome → last = now) :
    Covers lang e last (cooldownSeconds lang e
      ((e.banUntilMs lang).map fun ms => clip (secondsTo ms now))) := by
  have hpos := cooldownSeconds_pos h hnow
  refine ⟨hpos, fun y hy => ?_, fun ms hms => ?_⟩
  · unfold cooldownSeconds at hpos ⊢
    rw [hy] at hpos ⊢
    exact FloatNum.le_refl (isNumber_of_le (FloatNum.le_of_lt hpos)).2
  · have hban := h.ban ms hms last hlast
    cases hretry : e.retryAfterSeconds lang with
    | some x =>
      rw [hretry] at hban
      unfold cooldownSeconds
      rw [hretry]
      exact hban
    | none =>
      rw [hretry] at hban
      have hread : e.banUntilMs lang = some ms := (h.read hretry).trans hms
      have heq : last = now := hsame (hread ▸ rfl)
      have hseconds := secondsTo_pos hban
      unfold cooldownSeconds
      rw [hretry, hread]
      show secondsTo ms last ≤ clip (secondsTo ms now)
      rw [← heq, clip_of_pos hseconds]
      exact FloatNum.le_refl (isNumber_of_le (FloatNum.le_of_lt hseconds)).2

/-- A finite reading and a positive wait. -/
theorem isNumber_due {r : ℚ} {cooldown : Extended} (h : (FloatNum.ofInt 0 : Extended) < cooldown) :
    IsNumber (Extended.finite r + cooldown) := by
  cases cooldown with
  | nan => exact absurd h (by decide)
  | negInf => exact absurd h (by decide)
  | finite q => exact nofun
  | posInf => exact nofun

variable (clocks) in
/-- A positive cooldown is kept until it is due, and never shortens the one in force. -/
theorem cooled_until {s : Session Extended} {cooldown : Extended}
    (hpos : (FloatNum.ofInt 0 : Extended) < cooldown) (hnumber : IsNumber s.cooldownUntil) :
    (cooled clocks cooldown s).course.monotonicReads = s.course.monotonicReads + 1 ∧
      s.course.cooldownUntil ≤ (cooled clocks cooldown s).course.cooldownUntil ∧
      .finite (clocks.monotonic s.course.monotonicReads) + cooldown ≤
        (cooled clocks cooldown s).course.cooldownUntil := by
  unfold cooled
  rw [if_pos hpos]
  refine ⟨rfl, ?_⟩
  unfold Session.course
  dsimp only
  split
  · rename_i hlt
    exact ⟨FloatNum.le_of_lt hlt, FloatNum.le_refl (isNumber_due hpos)⟩
  · rename_i hnot
    exact ⟨FloatNum.le_refl hnumber, FloatNum.le_of_not_lt hnumber (isNumber_due hpos) hnot⟩

/-- A session after one more request with the answer. -/
def Course.asked (s : Course) (request : Request Extended) (status : Option ℤ) : Course :=
  { s with
    answers := s.answers ++ [⟨request.endpoint, request.symbol, request.kind, status⟩]
    requests := s.requests + 1 }

theorem returned_asked {s : Course} {request : Request Extended} {status : Option ℤ}
    (h : status ≠ some 429 ∧ status ≠ some 418) :
    Returned lang clocks http start s (s.asked request status) := by
  refine ⟨⟨Nat.le_succ _, Nat.le_refl _, fun hs => ?_⟩, fun _ _ => ⟨⟨_, rfl, fun a ha => ?_⟩, rfl,
    rfl⟩⟩
  · simp only [Course.asked, List.length_append, List.length_singleton, hs]
  · cases List.mem_singleton.mp ha
    exact fun hrefuses => hrefuses.elim h.1 h.2

/-- The attempt that was just made, with its status. -/
theorem course_asked {f : Attempt Extended → Attempt Extended} {request : Request Extended}
    {status : Option ℤ} (attemptNumber : ℕ) (retryReason : Option String) (s : Session Extended)
    (h : ∀ a, a.answer = ⟨request.endpoint, request.symbol, request.kind, none⟩ →
      (f a).answer = ⟨request.endpoint, request.symbol, request.kind, status⟩) :
    ({ newAttempt request attemptNumber retryReason s with
        requestAttempts := mapLast f (newAttempt request attemptNumber retryReason
          s).requestAttempts } :
      Session Extended).course = s.course.asked request status := by
  unfold Session.course newAttempt Course.asked
  dsimp only
  rw [mapLast_append, List.map_append, List.map_singleton, h _ rfl]

variable (clocks) in
theorem cooled_kept (cooldown : Extended) (s : Session Extended) :
    (cooled clocks cooldown s).course.answers = s.course.answers ∧
      (cooled clocks cooldown s).course.requests = s.course.requests ∧
      (cooled clocks cooldown s).course.clockReads = s.course.clockReads := by
  unfold cooled
  split
  · exact ⟨rfl, rfl, rfl⟩
  · exact ⟨rfl, rfl, rfl⟩

variable (lang) in
/-- The attempt made last, with the status of its error. -/
def withStatus (e : HttpError Extended) (s : Session Extended) : Session Extended :=
  { s with requestAttempts := mapLast (fun a => { a with
      httpStatus := some e.status
      transportCategory := some "HTTP"
      binanceCode := e.binanceCode lang }) s.requestAttempts }

variable (lang clocks http) in
/-- What an HTTP error leaves behind in the log. -/
theorem noteHttpError_eq (e : HttpError Extended) (s : Session Extended) :
    ∃ t, noteHttpError lang (clocks.world http) e s = .ok ⟨⟩ t ∧ t.course =
      if e.rateLimited lang then
        (cooled clocks
          (cooldownSeconds lang e
            ((e.banUntilMs lang).map fun ms => clip (secondsTo ms (clocks.nowMs s.clockReads))))
          { withStatus lang e s with
            clockReads := s.clockReads + if (e.banUntilMs lang).isSome then 1 else 0 }).course
      else (withStatus lang e s).course := by
  unfold noteHttpError
  cases hlimited : e.rateLimited lang with
  | false => exact ⟨_, rfl, rfl⟩
  | true =>
    have hregister := registerCooldown_eq lang clocks http e (withStatus lang e s)
    refine ⟨_, bind_run (m := updateAttempt _) rfl |>.trans ((bind_run hregister).trans rfl), ?_⟩
    exact course_updateAttempt (f := fun a => { a with
      retryReason := some "RATE_LIMIT_COOLDOWN"
      retryAfterSec := e.retryAfterSeconds lang
      rateLimitCooldownSec := some _ }) (fun _ => rfl) _

theorem forward_asked (s : Course) (request : Request Extended) (status : Option ℤ) :
    Forward s (s.asked request status) :=
  ⟨Nat.le_succ _, Nat.le_refl _, fun hs => by
    simp only [Course.asked, List.length_append, List.length_singleton, hs]⟩

/-- The reading of the clock at the refusal, where there is one, is the last one. -/
theorem covers_at {e : HttpError Extended} {request : Request Extended} {s t : Course}
    (hbegun : start ≤ s.clockReads)
    (hclock : t.clockReads = s.clockReads + if (e.banUntilMs lang).isSome then 1 else 0)
    (h : Signalled lang e request (Readings clocks start t)) :
    let cooldown := cooldownSeconds lang e
      ((e.banUntilMs lang).map fun ms => clip (secondsTo ms (clocks.nowMs s.clockReads)))
    (FloatNum.ofInt 0 : Extended) < cooldown ∧
      (start < t.clockReads → Covers lang e (clocks.nowMs (t.clockReads - 1)) cooldown) := by
  have hread : (e.banUntilMs lang).isSome → t.clockReads = s.clockReads + 1 := by
    intro hsome
    rw [hclock, if_pos hsome]
  have hnow : (e.banUntilMs lang).isSome →
      Readings clocks start t (clocks.nowMs s.clockReads) := by
    intro hsome
    have := hread hsome
    exact ⟨s.clockReads, hbegun, by omega, rfl⟩
  refine ⟨cooldownSeconds_pos h hnow, fun hstart => ?_⟩
  refine covers_cooldownSeconds h hnow ⟨t.clockReads - 1, by omega, by omega, rfl⟩ fun hsome => ?_
  rw [hread hsome, Nat.add_sub_cancel]

theorem rateLimited_refuses {e : HttpError Extended} (h : e.rateLimited lang = true) :
    e.Refuses := by
  unfold HttpError.rateLimited at h
  rw [Bool.or_eq_true, Bool.and_eq_true, beq_iff_eq, beq_iff_eq] at h
  exact h.imp_right And.left

/-- A recognised refusal, with its cooldown. -/
theorem raisedBy_cooled {request : Request Extended} {e : HttpError Extended} {s : Course}
    {x : Session Extended} (hresponse : http s.requests request = .httpError e)
    (hlimited : e.rateLimited lang = true)
    (hx : x.course = { s.asked request (some e.status) with
      clockReads := s.clockReads + if (e.banUntilMs lang).isSome then 1 else 0 }) :
    RaisedBy lang clocks http start request.kind (.http e) s
      (cooled clocks (cooldownSeconds lang e
        ((e.banUntilMs lang).map fun ms => clip (secondsTo ms (clocks.nowMs s.clockReads))))
          x).course := by
  generalize hcooldown : cooldownSeconds lang e
    ((e.banUntilMs lang).map fun ms => clip (secondsTo ms (clocks.nowMs s.clockReads))) = cooldown
  obtain ⟨hanswers, hrequests, hclock⟩ := cooled_kept clocks cooldown x
  rw [hx] at hanswers hrequests hclock
  have hforward : Forward s (cooled clocks cooldown x).course := by
    refine ⟨hrequests ▸ Nat.le_succ _, hclock ▸ Nat.le_add_right _ _, fun hs => ?_⟩
    rw [hrequests, hanswers]
    exact (forward_asked s request (some e.status)).logged hs
  refine ⟨hforward, fun hv hs => .inr ?_⟩
  have hrefuses := rateLimited_refuses hlimited
  have hsignalled := hs s.requests (Nat.le_refl _) (hrequests ▸ Nat.lt_succ_self _) request e
    hresponse hrefuses
  have hcovers := covers_at hv.begun hclock hsignalled
  rw [hcooldown] at hcovers
  have hnumber : IsNumber x.course.cooldownUntil := hx ▸ hv.number
  obtain ⟨hreads, hkept, hdue⟩ := cooled_until clocks hcovers.1 hnumber
  rw [hx] at hreads hkept hdue
  refine ⟨⟨⟨[], request, e, cooldown, ?_, ?_, ?_, hrefuses, hcovers.2, ?_⟩, hreads, hkept⟩, e, rfl,
    hlimited, hsignalled.notStale⟩
  · rw [hanswers, List.append_nil]
    rfl
  · exact fun a ha => absurd ha List.not_mem_nil
  · rw [hrequests]
    exact hresponse
  · rw [hreads, Nat.add_sub_cancel]
    exact hdue

/-- A refused request ends with its cooldown. -/
theorem raisedBy_httpError {request : Request Extended} {e : HttpError Extended}
    {attemptNumber : ℕ} {retryReason : Option String} {s t : Session Extended}
    (hresponse : http s.httpRequestCount request = .httpError e)
    (hnote : noteHttpError lang (clocks.world http) e
      (newAttempt request attemptNumber retryReason s) = .ok ⟨⟩ t) :
    RaisedBy lang clocks http start request.kind (.http e) s.course t.course := by
  obtain ⟨t', hnote', hcourse⟩ := noteHttpError_eq lang clocks http e
    (newAttempt request attemptNumber retryReason s)
  cases hnote.symm.trans hnote'
  have hasked : (withStatus lang e (newAttempt request attemptNumber retryReason s)).course =
      s.course.asked request (some e.status) := by
    refine course_asked attemptNumber retryReason s fun a ha => ?_
    show Answer.mk a.answer.endpoint a.answer.symbol a.answer.kind (some e.status) = _
    rw [ha]
  cases hlimited : e.rateLimited lang with
  | false =>
    rw [hlimited] at hcourse
    rw [hcourse.trans hasked]
    refine ⟨forward_asked _ _ _, fun hv hs => .inl ?_⟩
    have hquiet : ¬ e.Refuses := by
      intro hrefuses
      have hsignalled := hs s.httpRequestCount (Nat.le_refl _) (Nat.lt_succ_self _)
        request e hresponse
        hrefuses
      exact nomatch hlimited.symm.trans hsignalled.recognised
    have hasks : Returned lang clocks http start s.course
      (s.course.asked request (some e.status)) :=
      returned_asked ⟨fun h => hquiet (.inl (Option.some.inj h)),
        fun h => hquiet (.inr (Option.some.inj h))⟩
    exact hasks.quiet hv hs
  | true =>
    rw [hlimited] at hcourse
    rw [if_pos rfl] at hcourse
    rw [hcourse]
    refine raisedBy_cooled hresponse hlimited ?_
    exact congrArg (fun c : Course => { c with
      clockReads := s.clockReads + if (e.banUntilMs lang).isSome then 1 else 0 }) hasked

theorem ends_httpOperation (request : Request Extended) (attemptNumber : ℕ)
    (retryReason : Option String) :
    Ends (fun s t => Returned lang clocks http start s.course t.course)
      (fun failure s t => RaisedBy lang clocks http start request.kind failure s.course t.course)
      (httpOperation lang (clocks.world http) request attemptNumber retryReason) := by
  intro s
  have hother : ∀ {f : Attempt Extended → Attempt Extended},
      (∀ a, a.answer = ⟨request.endpoint, request.symbol, request.kind, none⟩ →
        (f a).answer = ⟨request.endpoint, request.symbol, request.kind, none⟩) →
      Returned lang clocks http start s.course
        ({ newAttempt request attemptNumber retryReason s with
          requestAttempts :=
            mapLast f (newAttempt request attemptNumber retryReason s).requestAttempts } :
          Session Extended).course := by
    intro f hf
    rw [course_asked attemptNumber retryReason s hf]
    exact returned_asked ⟨nofun, nofun⟩
  unfold httpOperation
  rw [bind_run (m := get) (t := s) (a := s) rfl,
    bind_run (m := modify _) (t := newAttempt request attemptNumber retryReason s) (a := ⟨⟩) rfl]
  cases hresponse : (clocks.world http).http s.httpRequestCount request with
  | payload v => exact hother fun _ ha => ha
  | httpError e =>
    obtain ⟨t, hnote, -⟩ := noteHttpError_eq lang clocks http e
      (newAttempt request attemptNumber retryReason s)
    dsimp only
    rw [bind_run hnote]
    exact raisedBy_httpError hresponse hnote
  | transport e =>
    have hreturned := hother (f := fun a => { a with transportCategory := some e.category })
      fun _ ha => ha
    exact ⟨hreturned.toForward, fun hv hs => .inl (hreturned.quiet hv hs)⟩
  | other className =>
    have hreturned := hother (f := fun a => { a with transportCategory := some "TRANSPORT" })
      fun _ ha => ha
    exact ⟨hreturned.toForward, fun hv hs => .inl (hreturned.quiet hv hs)⟩

/-! ## 5. The signed and the public GET -/

variable {g : Get Extended} {transientRetries : ℕ} {timestampRetry : Bool} {code : Option ℤ}

theorem ends_refresh (n : ℤ) :
    Ends (fun s t => Returned lang clocks http start s.course t.course)
      (fun failure s t => RaisedBy lang clocks http start "SERVER_TIME" failure s.course t.course)
      (refresh lang (clocks.world http) n) := by
  unfold refresh refreshServerTime
  refine ends_bind composes_raisedBy (ends_updateAttempt fun _ => rfl) fun _ => ?_
  refine ends_bind composes_raisedBy (ends_httpOperation _ _ _) fun payload => ?_
  split
  · exact ends_throw composes_raisedBy _
  · exact ends_bind composes_raisedBy ends_readClock fun _ => ends_modify fun _ => .refl _

/-- Without a refusal before it, the handler ends like any other procedure. -/
theorem ends_handle (failure : Failure Extended) :
    Ends (fun s t => Returned lang clocks http start s.course t.course)
      (fun _ s t => Raised lang clocks http start s.course t.course)
      (handle lang (clocks.world http) cfg g transientRetries timestampRetry code failure) := by
  have hrecord : ∀ {α : Type} (e : Evidence) (f : Failure Extended),
      Ends (fun s t => Returned lang clocks http start s.course t.course)
        (fun _ s t => Raised lang clocks http start s.course t.course)
        (do record e; throw f : Step Extended α) := fun _ _ =>
    ends_bind composes_raised ends_record fun _ => ends_throw composes_raised _
  have hretry : ∀ {α : Type} (a : α), Ends (fun s t => Returned lang clocks http start
    s.course t.course)
      (fun _ s t => Raised lang clocks http start s.course t.course)
      (do retryTransient; return a : Step Extended α) := fun _ =>
    ends_bind composes_raised (ends_updateAttempt fun _ => rfl) fun _ => ends_pure composes_raised _
  unfold handle
  split
  · split
    · exact ends_bind composes_raised ((ends_refresh _).mono fun _ _ _ h => h.raised) fun _ =>
        ends_pure composes_raised _
    · split
      · exact hrecord _ _
      · split
        · exact hrecord _ _
        · split
          · exact hretry _
          · exact hrecord _ _
  · split
    · exact hretry _
    · exact hrecord _ _
  · exact ends_throw composes_raised _

/-- A refusal goes through the handler without a request. -/
theorem handle_stops {kind : String} {failure : Failure Extended} (hkind : kind ≠ "PUBLIC")
    (h : Stops lang kind failure) (s : Session Extended) :
    ∃ raised t, handle lang (clocks.world http) cfg g transientRetries timestampRetry
      code failure s =
      .error raised t ∧ t.course = s.course := by
  obtain ⟨e, rfl, hlimited, hcode⟩ := h
  have hstale : ¬ (e.binanceCode lang = some (-1021) ∧ timestampRetry = false) := fun hstale =>
    hcode.elim hkind fun hne => hne hstale.1
  unfold handle
  dsimp only
  rw [dif_neg hstale, if_pos hlimited]
  exact ⟨_, _, rfl, rfl⟩

/-- The handler after a signed request, or a refresh, has raised. -/
theorem handled {kind : String} {failure : Failure Extended} (hkind : kind ≠ "PUBLIC")
    {s t : Session Extended} (h : RaisedBy lang clocks http start kind failure s.course t.course) :
    Ended (fun s t : Session Extended => Returned lang clocks http start s.course t.course)
      (fun _ s t => Raised lang clocks http start s.course t.course) s
      (handle lang (clocks.world http) cfg g transientRetries timestampRetry code failure t) := by
  have hends := (ends_handle failure : Ends
    (fun s t : Session Extended => Returned lang clocks http start s.course t.course)
    (fun _ s t => Raised lang clocks http start s.course t.course)
    (handle lang (clocks.world http) cfg g transientRetries timestampRetry code failure)) t
  cases hrun : handle lang (clocks.world http) cfg g transientRetries timestampRetry code
    failure t with
  | ok v u =>
    rw [hrun] at hends
    refine ⟨h.toForward.trans hends.toForward, fun hv hs => ?_⟩
    rcases h.quietOrRefused hv (hs.first hends.toForward) with hquiet | ⟨-, hstops⟩
    · exact hquiet.trans (hends.quiet (hquiet.valid h.toForward hv) (hs.second h.toForward))
    · obtain ⟨raised, u', hrun', -⟩ := handle_stops hkind hstops t
      exact nomatch hrun.symm.trans hrun'
  | error raised u =>
    rw [hrun] at hends
    refine ⟨h.toForward.trans hends.toForward, fun hv hs => ?_⟩
    rcases h.quietOrRefused hv (hs.first hends.toForward) with hquiet | ⟨hrefused, hstops⟩
    · exact (hends.quietOrRefused (hquiet.valid h.toForward hv) (hs.second h.toForward)).imp
        hquiet.trans (Refused.after hquiet)
    · obtain ⟨raised', u', hrun', hcourse⟩ := handle_stops hkind hstops t
      cases hrun.symm.trans hrun'
      rw [hcourse]
      exact .inr hrefused

variable (start) in
/-- A round reads the clock and goes on. -/
theorem attempt_parts :
    ∃ rest, attempt lang (clocks.world http) cfg g transientRetries timestampRetry =
        nextTimestamp (clocks.world http) >>= rest ∧
      ∀ timestamp, Ends (fun s t => Returned lang clocks http start s.course t.course)
        (fun _ s t => Raised lang clocks http start s.course t.course) (rest timestamp) := by
  refine ⟨_, rfl, fun timestamp => ?_⟩
  refine ends_observe composes_raised (ends_httpOperation _ _ _) (fun result => ?_)
    fun failure s t h => ?_
  · dsimp only
    split
    · exact ends_bind composes_raised ends_record fun _ => ends_pure composes_raised _
    · split
      · refine ends_observe composes_raised (ends_refresh _)
          (fun _ => ends_pure composes_raised _) fun failure s t h => ?_
        dsimp only
        exact handled (by decide) h
      · exact ends_bind composes_raised (ends_updateAttempt fun _ => rfl) fun _ =>
          ends_throw composes_raised _
  · dsimp only
    exact handled (show "SIGNED" ≠ "PUBLIC" by decide) h

theorem ends_attempt :
    Ends (fun s t => Returned lang clocks http start s.course t.course)
      (fun _ s t => Raised lang clocks http start s.course t.course)
      (attempt lang (clocks.world http) cfg g transientRetries timestampRetry) := by
  obtain ⟨rest, hparts, hrest⟩ := attempt_parts start
  rw [hparts]
  exact ends_bind composes_raised ends_nextTimestamp hrest

theorem reads_attempt :
    Reads Session.course
      (attempt lang (clocks.world http) cfg g transientRetries timestampRetry) := by
  obtain ⟨rest, hparts, hrest⟩ := attempt_parts 0
  rw [hparts]
  exact reads_bind lang clocks http 0 (fun s => Nat.lt_succ_self s.clockReads) hrest

/-- The loop keeps what its rounds keep, by the retries that are left. -/
theorem ends_signedGetLoop (transientRetries : ℕ) (timestampRetry : Bool) :
    Ends (fun s t => Returned lang clocks http start s.course t.course)
      (fun _ s t => Raised lang clocks http start s.course t.course)
      (signedGetLoop lang (clocks.world http) cfg g transientRetries timestampRetry) := by
  rw [signedGetLoop]
  refine ends_bind composes_raised ends_attempt fun outcome => ?_
  cases outcome with
  | done v => exact ends_pure composes_raised _
  | refreshed h => exact ends_signedGetLoop transientRetries true
  | transient h => exact ends_signedGetLoop (transientRetries + 1) timestampRetry
termination_by retriesLeft cfg transientRetries timestampRetry
decreasing_by
  all_goals
    simp only [retriesLeft]
    grind

theorem reads_signedGet :
    Reads Session.course (signedGet lang (clocks.world http) cfg g) := by
  unfold signedGet
  rw [signedGetLoop]
  refine reads_bind lang clocks http 0 reads_attempt fun outcome => ?_
  cases outcome with
  | done v => exact ends_pure composes_raised _
  | refreshed h => exact ends_signedGetLoop 0 true
  | transient h => exact ends_signedGetLoop (0 + 1) false

theorem ends_publicGet (path endpoint : String) :
    Ends (fun s t => Returned lang clocks http start s.course t.course)
      (fun _ s t => Raised lang clocks http start s.course t.course)
      (publicGet lang (clocks.world http) path endpoint) := by
  unfold publicGet
  refine ends_observe composes_raised (ends_httpOperation _ _ _) (fun payload => ?_)
    fun failure s t h => h.raised
  exact ends_bind composes_raised ends_record fun _ => ends_pure composes_raised _

/-! ## 6. The collection -/

/-- How a part of the collection ends. -/
abbrev Collects {α : Type} (lang : Language Extended) (clocks : Clocks)
    (http : ℕ → Request Extended → Response Extended) (start : ℕ) (m : Body Extended α) : Prop :=
  Ends (fun s t => Returned lang clocks http start s.session.course t.session.course)
    (fun _ s t => Raised lang clocks http start s.session.course t.session.course) m

theorem composes_run : Composes (ε := Failure Extended)
    (fun s t : Run Extended => Returned lang clocks http start s.session.course t.session.course)
    (fun _ s t => Raised lang clocks http start s.session.course t.session.course) where
  refl _ := .refl _
  raise _ _ := ⟨.refl _, fun _ _ => .inl (.refl _)⟩
  trans h h' := h.trans h'
  raised h h' := h.raised h'

theorem collects_onSession {α : Type} {m : Step Extended α}
    (h : Ends (fun s t => Returned lang clocks http start s.course t.course)
      (fun _ s t => Raised lang clocks http start s.course t.course) m) :
    Collects lang clocks http start (onSession m) :=
  ends_zoom (fun _ _ => rfl) h

theorem collects_note {f : Progress Extended → Progress Extended} :
    Collects lang clocks http start (note f) := ends_modify fun _ => .refl _

theorem collects_validated {α : Type} {invalid : EndpointStatuses → EndpointStatuses}
    {x : Except (Failure Extended) α} : Collects lang clocks http start (validated invalid x) := by
  cases x with
  | ok a => exact ends_pure composes_run a
  | error failure =>
    unfold validated
    dsimp only
    split
    · exact ends_bind composes_run collects_note fun _ => ends_throw composes_run _
    · exact ends_throw composes_run _

theorem collects_readExchangeInfoIf {needed : Bool}
    {invalid : EndpointStatuses → EndpointStatuses} {back : String}
    {known : Option (List String)} :
    Collects lang clocks http start
      (readExchangeInfoIf lang (clocks.world http) needed invalid back known) := by
  unfold readExchangeInfoIf readExchangeInfo
  split
  · rw [map_eq_pure_bind]
    refine ends_bind composes_run ?_ fun _ => ends_pure composes_run _
    refine ends_bind composes_run collects_note fun _ => ?_
    refine ends_bind composes_run (collects_onSession (ends_publicGet _ _)) fun payload => ?_
    refine ends_bind composes_run collects_validated fun symbols => ?_
    exact ends_bind composes_run collects_note fun _ => ends_pure composes_run _
  · exact ends_pure composes_run _

variable {tracked : Tracked Extended}

theorem collects_signedGet :
    Collects lang clocks http start (onSession (signedGet lang (clocks.world http) cfg g)) :=
  collects_onSession (ends_signedGetLoop 0 false)

variable (start) in
/-- The positions are read with a signed GET, which is the first request of a collection. -/
theorem readPositions_parts :
    ∃ (f : Progress Extended → Progress Extended)
      (rest : Value Extended → Body Extended (Option (List String))),
        readPositions lang (clocks.world http) cfg tracked =
        (do
          note f
          let raw ← onSession (signedGet lang (clocks.world http) cfg
            ⟨"/fapi/v3/positionRisk", [], "positionRisk", none⟩)
          rest raw) ∧
      ∀ raw, Collects lang clocks http start (rest raw) := by
  refine ⟨_, _, rfl, fun raw => ?_⟩
  refine ends_bind composes_run collects_note fun _ => ?_
  refine ends_bind composes_run collects_readExchangeInfoIf fun symbols => ?_
  refine ends_bind composes_run collects_validated fun _ => ?_
  exact ends_bind composes_run collects_note fun _ => ends_pure composes_run _

theorem collects_readPositions :
    Collects lang clocks http start (readPositions lang (clocks.world http) cfg tracked) := by
  obtain ⟨f, rest, hparts, hrest⟩ := readPositions_parts start
  rw [hparts]
  refine ends_bind composes_run collects_note fun _ => ?_
  exact ends_bind composes_run collects_signedGet hrest

/-- The course of a collection. -/
def Run.course (s : Run Extended) : Course := s.session.course

theorem reads_readPositions :
    Reads Run.course (readPositions lang (clocks.world http) cfg tracked) := by
  obtain ⟨f, rest, hparts, hrest⟩ := readPositions_parts 0
  rw [hparts]
  have hsigned : Reads Run.course (do
      let raw ← onSession (signedGet lang (clocks.world http) cfg
        ⟨"/fapi/v3/positionRisk", [], "positionRisk", none⟩)
      rest raw) :=
    reads_bind lang clocks http 0 (ends_zoom (fun _ _ => rfl) reads_signedGet) hrest
  -- the note before it leaves the session as it is
  intro s
  exact hsigned { s with progress := f s.progress }

theorem collects_readOrders {before : Option (List String)} :
    Collects lang clocks http start (readOrders lang (clocks.world http) cfg before) := by
  unfold readOrders
  refine ends_bind composes_run collects_note fun _ => ?_
  refine ends_bind composes_run collects_signedGet fun raw => ?_
  refine ends_bind composes_run collects_note fun _ => ?_
  refine ends_bind composes_run collects_readExchangeInfoIf fun symbols => ?_
  refine ends_bind composes_run collects_validated fun _ => ?_
  exact ends_bind composes_run collects_note fun _ => ends_pure composes_run _

theorem collects_selectSymbols {exchangeSymbols : Option (List String)} :
    Collects lang clocks http start (selectSymbols lang cfg tracked exchangeSymbols) := by
  unfold selectSymbols
  refine ends_bind composes_run (ends_get composes_run) fun s => ?_
  refine ends_bind composes_run (ends_returnOrRaise composes_run _) fun symbols => ?_
  refine ends_bind composes_run collects_note fun _ => ?_
  split
  · exact ends_throw composes_run _
  · exact ends_pure composes_run _

theorem collects_fetchFills (symbols : List String) :
    Collects lang clocks http start (fetchFills lang (clocks.world http) cfg symbols) := by
  induction symbols with
  | nil => exact ends_pure composes_run _
  | cons symbol rest ih =>
    rw [fetchFills]
    refine ends_bind composes_run ?_ fun _ => ih
    unfold fetchSymbol
    refine ends_bind composes_run collects_note fun _ => ?_
    refine ends_bind composes_run (collects_onSession ends_readClock) fun now => ?_
    refine ends_bind composes_run collects_signedGet fun raw => ?_
    exact ends_bind composes_run collects_validated fun _ => collects_note

variable (start) in
/-- A collection begins with the positions. -/
theorem collect_parts :
    ∃ rest, collect lang (clocks.world http) cfg tracked =
        readPositions lang (clocks.world http) cfg tracked >>= rest ∧
      ∀ symbols, Collects lang clocks http start (rest symbols) := by
  refine ⟨_, rfl, fun symbols => ?_⟩
  refine ends_bind composes_run collects_readOrders fun symbols => ?_
  refine ends_bind composes_run collects_selectSymbols fun selected => ?_
  refine ends_bind composes_run collects_note fun _ => ?_
  exact ends_bind composes_run (collects_fetchFills selected) fun _ => collects_note

variable (lang clocks http start cfg tracked) in
/-- A collection returns without a refusal, or raises without one or right after it. -/
theorem collects_collect :
    Collects lang clocks http start (collect lang (clocks.world http) cfg tracked) := by
  obtain ⟨rest, hparts, hrest⟩ := collect_parts start
  rw [hparts]
  exact ends_bind composes_run collects_readPositions hrest

variable (lang clocks http cfg tracked) in
/-- A collection reads the clock. -/
theorem reads_collect : Reads Run.course (collect lang (clocks.world http) cfg tracked) := by
  obtain ⟨rest, hparts, hrest⟩ := collect_parts 0
  rw [hparts]
  exact reads_bind lang clocks http 0 reads_readPositions hrest

end Requests

/-! ## 7. Runs of snapshots -/

/-- A call of `snapshot`: the exchange's answers to its requests, and the tracked symbols. -/
structure Call where
  http : ℕ → Request Extended → Response Extended
  tracked : Tracked Extended

section Runs

variable (lang : Language Extended) (clocks : Clocks) (cfg : Config)

/-- A new provider. -/
def newProvider : Session Extended := ⟨0, 0, [], [], 0, .finite 0, none, 0, 0⟩

/-- The session after a call. -/
def next (s : Session Extended) (c : Call) : Session Extended :=
  final (snapshot lang (clocks.world c.http) cfg c.tracked s)

/-- The session at the first request of a call. -/
def opened (s : Session Extended) : Session Extended :=
  { s.reset with monotonicReads := s.monotonicReads + 1 }

/-- Every refusal that the exchange has for the call is recognised and states a wait. -/
def CallSignals (s : Session Extended) (c : Call) : Prop :=
  Signals lang clocks c.http s.clockReads (opened s).course (next lang clocks cfg s c).course

/-- No call makes a request before the due time; its first reading of the clock stands before its
    requests. -/
def HoldsOff (due : Extended) : Session Extended → List Call → Prop :=
  Along (next lang clocks cfg) fun s c => (next lang clocks cfg s c).requestAttempts ≠ [] →
    due ≤ .finite (clocks.monotonic s.monotonicReads)

/-- The refusal of the i-th request of a call: it is the call's last request, its cooldown covers
    every stated wait and shortens no other, and no later call makes a request before it is over. -/
def Heeded (s : Session Extended) (c : Call) (i : ℕ) (a : Answer) (calls : List Call) : Prop :=
  ∃ request e cooldown, c.http i request = .httpError e ∧
    a = ⟨request.endpoint, request.symbol, request.kind, some e.status⟩ ∧
    i + 1 = (next lang clocks cfg s c).requestAttempts.length ∧
    Covers lang e (clocks.nowMs ((next lang clocks cfg s c).clockReads - 1)) cooldown ∧
    s.cooldownUntil ≤ (next lang clocks cfg s c).cooldownUntil ∧
    HoldsOff lang clocks cfg
      (.finite (clocks.monotonic ((next lang clocks cfg s c).monotonicReads - 1)) + cooldown)
      (next lang clocks cfg s c) calls

/-- Every refusal of the run is heeded. -/
def Respects : Session Extended → List Call → Prop
  | _, [] => True
  | s, c :: calls =>
    (∀ i a, (next lang clocks cfg s c).course.answers[i]? = some a → a.Refuses →
      Heeded lang clocks cfg s c i a calls) ∧ Respects (next lang clocks cfg s c) calls

variable {lang clocks cfg}

theorem next_eq (s : Session Extended) (c : Call) :
    next lang clocks cfg s c =
      if (FloatNum.ofInt 0 : Extended) <
          clip (s.cooldownUntil - .finite (clocks.monotonic s.monotonicReads)) then opened s
      else match collect lang (clocks.world c.http) cfg c.tracked ⟨opened s, Progress.fresh⟩ with
        | .ok _ t => t.session.clearCooldown
        | .error _ t => t.session := by
  have hopened : cooldownRemaining (clocks.world c.http) s.reset =
      .ok (clip (s.cooldownUntil - .finite (clocks.monotonic s.monotonicReads))) (opened s) := rfl
  obtain ⟨remaining, u, hremaining, -, hrun⟩ :=
    snapshot_eq lang (clocks.world c.http) cfg c.tracked s
  cases hopened.symm.trans hremaining
  unfold next
  rw [hrun]
  split
  · rfl
  · cases collect lang (clocks.world c.http) cfg c.tracked ⟨opened s, Progress.fresh⟩ with
    | ok v t => rfl
    | error failure t => rfl

/-- A cooldown without a rest is over. -/
theorem elapsed {x : Extended} {r : ℚ} (hx : IsNumber x)
    (h : ¬ (FloatNum.ofInt 0 : Extended) < clip (x - .finite r)) : x ≤ .finite r := by
  have hrest : ¬ (FloatNum.ofInt 0 : Extended) < x - .finite r := fun hrest =>
    h ((clip_of_pos hrest).symm ▸ hrest)
  refine FloatNum.le_of_not_lt nofun hx fun hlt => hrest ?_
  cases x with
  | nan => exact absurd rfl hx
  | negInf =>
    obtain ⟨p, q, -, hq, hpq⟩ := (FloatNum.lt_iff _ _).mp hlt
    cases hq
    exact absurd hpq not_lt_bot
  | finite q =>
    have hq := Extended.finite_lt_iff.mp hlt
    show (Extended.finite ((0 : ℤ) : ℚ)) < Extended.finite (q + -r)
    refine Extended.finite_lt_iff.mpr ?_
    push_cast
    linarith
  | posInf =>
    show (FloatNum.ofInt 0 : Extended) < Extended.posInf
    decide

variable (lang clocks) in
/-- What a call does about the cooldown: it makes no request, or it starts after the cooldown and is
    refused nothing, or it starts after it and its last request is refused. -/
inductive CallEnd (s : Session Extended) (c : Call) (t : Session Extended) : Prop where
  | silent (noRequest : t.requestAttempts = []) (kept : t.cooldownUntil = s.cooldownUntil)
  | quiet (elapsed : s.cooldownUntil ≤ .finite (clocks.monotonic s.monotonicReads))
      (answers : ∀ a ∈ t.course.answers, ¬ a.Refuses)
  | refused (elapsed : s.cooldownUntil ≤ .finite (clocks.monotonic s.monotonicReads))
      (logged : t.course.requests = t.course.answers.length) (read : s.clockReads < t.clockReads)
      (h : Refused lang clocks c.http s.clockReads (opened s).course t.course)

theorem opened_valid {s : Session Extended} (h : IsNumber s.cooldownUntil) :
    Valid s.clockReads (opened s).course := ⟨rfl, h, Nat.le_refl _⟩

theorem quiet_opened {s : Session Extended} {t : Course} (h : Quiet (opened s).course t) :
    ∀ a ∈ t.answers, ¬ a.Refuses := by
  obtain ⟨rest, hanswers, hrest⟩ := h.answers
  rw [hanswers]
  exact hrest

/-- How a call ends; it leaves a number, and it has read the clock. -/
theorem callEnd {s : Session Extended} {c : Call} (hnumber : IsNumber s.cooldownUntil)
    (hs : CallSignals lang clocks cfg s c) :
    CallEnd lang clocks s c (next lang clocks cfg s c) ∧
      IsNumber (next lang clocks cfg s c).cooldownUntil ∧
      s.monotonicReads < (next lang clocks cfg s c).monotonicReads := by
  unfold CallSignals at hs
  rw [next_eq] at hs ⊢
  split
  · exact ⟨.silent rfl rfl, hnumber, Nat.lt_succ_self _⟩
  · rename_i hrest
    rw [if_neg hrest] at hs
    have helapsed := elapsed hnumber hrest
    have hvalid := opened_valid hnumber
    have hends := collects_collect lang clocks c.http s.clockReads cfg c.tracked
      ⟨opened s, Progress.fresh⟩
    have hread := reads_collect lang clocks c.http cfg c.tracked ⟨opened s, Progress.fresh⟩
    cases hrun : collect lang (clocks.world c.http) cfg c.tracked ⟨opened s, Progress.fresh⟩ with
    | ok v t =>
      rw [hrun] at hends hs
      have hquiet : Quiet (opened s).course t.session.course := hends.quiet hvalid hs
      have hanswers : ∀ a ∈ t.session.course.answers, ¬ a.Refuses := quiet_opened hquiet
      refine ⟨.quiet helapsed hanswers, nofun, ?_⟩
      exact Nat.lt_of_lt_of_eq (Nat.lt_succ_self _) hquiet.monotonicReads.symm
    | error failure t =>
      rw [hrun] at hends hread hs
      rcases hends.quietOrRefused hvalid hs with hquiet | hrefused
      · have hcooldown : t.session.cooldownUntil = s.cooldownUntil := hquiet.cooldownUntil
        refine ⟨.quiet helapsed (quiet_opened hquiet), ?_, ?_⟩
        · exact hcooldown ▸ hnumber
        · exact Nat.lt_of_lt_of_eq (Nat.lt_succ_self _) hquiet.monotonicReads.symm
      · refine ⟨.refused helapsed (hends.logged hvalid.logged) hread hrefused, ?_, ?_⟩
        · exact (isNumber_of_le hrefused.cooldownUntil).2
        · refine Nat.lt_of_lt_of_eq ?_ hrefused.monotonicReads.symm
          show s.monotonicReads < s.monotonicReads + 1 + 1
          omega

/-- A time is kept that the cooldown reaches to, or that the clock has passed. -/
def Kept (clocks : Clocks) (due : Extended) (s : Session Extended) : Prop :=
  due ≤ s.cooldownUntil ∨ ∃ k ≤ s.monotonicReads, due ≤ .finite (clocks.monotonic k)

/-- One call keeps the time, and makes no request before it. -/
theorem kept_next (hclock : Monotone clocks.monotonic) {due : Extended} {s : Session Extended}
    {c : Call} (hnumber : IsNumber s.cooldownUntil) (hs : CallSignals lang clocks cfg s c)
    (hkept : Kept clocks due s) :
    Kept clocks due (next lang clocks cfg s c) ∧
      ((next lang clocks cfg s c).requestAttempts ≠ [] →
        due ≤ .finite (clocks.monotonic s.monotonicReads)) := by
  obtain ⟨hend, -, hreads⟩ := callEnd hnumber hs
  have hover : s.cooldownUntil ≤ .finite (clocks.monotonic s.monotonicReads) →
      due ≤ .finite (clocks.monotonic s.monotonicReads) := by
    intro helapsed
    rcases hkept with hdue | ⟨k, hk, hdue⟩
    · exact Extended.le_trans hdue helapsed
    · exact Extended.le_trans hdue (Extended.finite_le_iff.mpr (hclock hk))
  cases hend with
  | silent hnone hsame =>
    refine ⟨?_, fun hrequest => absurd hnone hrequest⟩
    rcases hkept with hdue | ⟨k, hk, hdue⟩
    · exact .inl (hsame ▸ hdue)
    · exact .inr ⟨k, hk.trans hreads.le, hdue⟩
  | quiet helapsed _ => exact ⟨.inr ⟨_, hreads.le, hover helapsed⟩, fun _ => hover helapsed⟩
  | refused helapsed _ _ _ => exact ⟨.inr ⟨_, hreads.le, hover helapsed⟩, fun _ => hover helapsed⟩

theorem holdsOff_of_kept (hclock : Monotone clocks.monotonic) {due : Extended}
    (calls : List Call) (s : Session Extended) (hnumber : IsNumber s.cooldownUntil)
    (hkept : Kept clocks due s)
    (hc : Along (next lang clocks cfg) (CallSignals lang clocks cfg) s calls) :
    HoldsOff lang clocks cfg due s calls := by
  induction calls generalizing s with
  | nil => trivial
  | cons c calls ih =>
    obtain ⟨hnext, hrequest⟩ := kept_next hclock hnumber hc.1 hkept
    exact ⟨hrequest, ih _ (callEnd hnumber hc.1).2.1 hnext hc.2⟩

/-- A refusal of a call is its last answer. -/
theorem heeded_of_refuses (hclock : Monotone clocks.monotonic) {s : Session Extended} {c : Call}
    {calls : List Call} (hnumber : IsNumber s.cooldownUntil)
    (hs : CallSignals lang clocks cfg s c)
    (hc : Along (next lang clocks cfg) (CallSignals lang clocks cfg)
    (next lang clocks cfg s c) calls)
    {i : ℕ} {a : Answer} (ha : (next lang clocks cfg s c).course.answers[i]? = some a)
    (hrefuses : a.Refuses) : Heeded lang clocks cfg s c i a calls := by
  obtain ⟨hend, hnext, -⟩ := callEnd hnumber hs
  cases hend with
  | silent hnone hsame =>
    have hempty : (next lang clocks cfg s c).course.answers = [] := by
      unfold Session.course
      rw [hnone]
      rfl
    rw [hempty] at ha
    exact nomatch ha
  | quiet _ hanswers => exact absurd hrefuses (hanswers a (List.mem_of_getElem? ha))
  | refused _ hlogged hread hrefused =>
    obtain ⟨rest, request, e, cooldown, hanswers, hrest, hresponse, -, hcovers, hdue⟩ :=
      hrefused.answers
    have hlength : (next lang clocks cfg s c).course.answers.length = rest.length + 1 := by
      rw [hanswers, List.length_append]
      rfl
    have hbound : i < rest.length + 1 := hlength ▸ (List.getElem?_eq_some_iff.mp ha).1
    have hlast : (rest ++ [(⟨request.endpoint, request.symbol, request.kind, some e.status⟩ :
        Answer)])[i]? = some a := by
      rw [← ha, hanswers]
      rfl
    have hi : i = rest.length := by
      by_contra hne
      have hlt : i < rest.length := by omega
      rw [List.getElem?_append_left hlt] at hlast
      exact hrest a (List.mem_of_getElem? hlast) hrefuses
    subst hi
    rw [List.getElem?_concat_length] at hlast
    rw [hlogged, hlength, Nat.add_sub_cancel] at hresponse
    refine ⟨request, e, cooldown, hresponse, (Option.some.inj hlast).symm, ?_, hcovers hread,
      hrefused.cooldownUntil, ?_⟩
    · rw [← hlength]
      exact List.length_map _
    · exact holdsOff_of_kept hclock calls _ hnext (.inl hdue) hc

end Runs

/-! ## 8. Two calls -/

/-- A language of ASCII texts that reads one number. -/
def secondsLanguage : Language Extended where
  parse s := if s = "60" then some (.finite 60) else none
  str _ := ""
  dumps _ := ""
  upper := upper
  lower := lower
  strip := strip
  category _ := "Lu"
  decimal _ := none
  decimalFloat _ := .finite 0
  int _ := none
  timestamp _ := none
  digest _ := ""
  redact := id
  bannedUntil _ := none

/-- A call whose every request is refused. -/
def refusedCall (retryAfter : Option String) : Call :=
  ⟨fun _ _ => .httpError ⟨429, none, retryAfter⟩, ⟨[], []⟩⟩

/-- A call of an account without positions and orders. -/
def emptyCall : Call := ⟨fun _ _ => .payload (.list []), ⟨[], []⟩⟩

/-- The clock of a minute for each reading. -/
def minutes : Clocks := ⟨fun n => 60000 * n, fun n => 60 * n⟩

/-- A clock that stands. -/
def standing : Clocks := ⟨fun _ => 0, fun _ => 0⟩

end AlphaForge.Exchange
