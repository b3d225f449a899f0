/-
  File:      AlphaForge/Lib/Interleaving.lean
  Subject:   Calls of a program under any interleaving of their single reads and writes. No
             program fact.

  * `Config.next` -- a call begins, or one thread makes its next read or write; `Config.run` is a
    schedule of both.
  * `Prog.Every` -- every write of a call satisfies a relation: what a call may do to the state,
    in whatever states it meets.
  * `Prog.SafeUnder` -- while a switch stays raised, no write of the call breaks what the raised
    switch promises.
  * **`guarded_run_unexposed`** -- the promise holds along a run, if no call stands at an exposed
    position when the switch rises.
-/
import AlphaForge.Lib.Runs
import AlphaForge.Lib.Transactions

namespace AlphaForge.Lib

/-! ## 1. Schedules -/

section Schedules

variable {ι A S E α : Type} [DecidableEq ι]

/-- The shared state and what each thread still has to do; `none` is an idle thread. -/
structure Config (ι S E α : Type) where
  state : S
  thread : ι → Option (Prog S E α)

/-- One event of a schedule. -/
inductive Event (ι A : Type) where
  /-- An idle thread begins a call. -/
  | call (i : ι) (a : A)
  /-- A thread makes its next read or write, or ends its call. -/
  | move (i : ι)

/-- One read or write. -/
def Prog.advance : Prog S E α → S → S × Option (Prog S E α)
  | done _, s => (s, none)
  | raise _, s => (s, none)
  | read next, s => (s, some (next s))
  | write effect next, s => (effect s, some (next s))

def Config.next (body : A → Prog S E α) (c : Config ι S E α) : Event ι A → Config ι S E α
  | .call i a =>
    match c.thread i with
    | none => { c with thread := Function.update c.thread i (some (body a)) }
    | some _ => c
  | .move i =>
    match c.thread i with
    | none => c
    | some p =>
      { state := (p.advance c.state).1
        thread := Function.update c.thread i (p.advance c.state).2 }

theorem next_call_idle {body : A → Prog S E α} {c : Config ι S E α} {i : ι} {a : A}
    (h : c.thread i = none) : c.next body (.call i a) =
      { c with thread := Function.update c.thread i (some (body a)) } := by
  simp only [Config.next, h]

theorem next_call_busy {body : A → Prog S E α} {c : Config ι S E α} {i : ι} {a : A}
    {p : Prog S E α} (h : c.thread i = some p) : c.next body (.call i a) = c := by
  simp only [Config.next, h]

theorem next_move_idle {body : A → Prog S E α} {c : Config ι S E α} {i : ι}
    (h : c.thread i = none) : c.next body (.move i) = c := by
  simp only [Config.next, h]

theorem next_move {body : A → Prog S E α} {c : Config ι S E α} {i : ι} {p : Prog S E α}
    (h : c.thread i = some p) : c.next body (.move i) =
      { state := (p.advance c.state).1
        thread := Function.update c.thread i (p.advance c.state).2 } := by
  simp only [Config.next, h]

/-- After an event a thread has what the event left it, or what it had. -/
theorem thread_update {f : ι → Option (Prog S E α)} {i j : ι} {o : Option (Prog S E α)}
    {p : Prog S E α} (h : Function.update f i o j = some p) :
    (j = i ∧ o = some p) ∨ (j ≠ i ∧ f j = some p) := by
  by_cases hji : j = i
  · subst hji
    rw [Function.update_self] at h
    exact Or.inl ⟨rfl, h⟩
  · rw [Function.update_of_ne hji] at h
    exact Or.inr ⟨hji, h⟩

def Config.run (body : A → Prog S E α) (c : Config ι S E α) (events : List (Event ι A)) :
    Config ι S E α :=
  runEvents (Config.next body) c events

end Schedules

/-! ## 2. Calls -/

namespace Prog

variable {S E α β : Type}

/-- `try: p except Exception as e: handler(e)`. -/
def tryCatch : Prog S E α → (E → Prog S E α) → Prog S E α
  | done a, _ => done a
  | raise e, handler => handler e
  | read next, handler => read fun s => (next s).tryCatch handler
  | write effect next, handler => write effect fun s => (next s).tryCatch handler

/-- Every write goes from a state to one related to it. -/
def Every (G : S → S → Prop) : Prog S E α → Prop
  | done _ => True
  | raise _ => True
  | read next => ∀ s, (next s).Every G
  | write effect next => ∀ s, G s (effect s) ∧ (next s).Every G

theorem every_mono {G H : S → S → Prop} (hgh : ∀ s s', G s s' → H s s') {p : Prog S E α}
    (h : p.Every G) : p.Every H := by
  induction p with
  | done a => trivial
  | raise e => trivial
  | read next ih => exact fun s => ih s (h s)
  | write effect next ih => exact fun s => ⟨hgh _ _ (h s).1, ih s (h s).2⟩

theorem every_bind {G : S → S → Prop} {p : Prog S E α} {f : α → Prog S E β} (hp : p.Every G)
    (hf : ∀ a, (f a).Every G) : (p >>= f).Every G := by
  show (p.bind f).Every G
  induction p with
  | done a => exact hf a
  | raise e => trivial
  | read next ih =>
    intro s
    exact ih s (hp s)
  | write effect next ih =>
    intro s
    exact ⟨(hp s).1, ih s (hp s).2⟩

theorem every_query_bind {G : S → S → Prop} {q : S → α} {f : α → Prog S E β} :
    (query q >>= f).Every G ↔ ∀ s, (f (q s)).Every G := Iff.rfl

theorem every_update_bind {G : S → S → Prop} {g : S → S} {f : Unit → Prog S E β} :
    (update g >>= f).Every G ↔ ∀ s, G s (g s) ∧ (f ()).Every G := Iff.rfl

theorem every_query {G : S → S → Prop} (q : S → α) : (query q : Prog S E α).Every G :=
  fun _ => trivial

theorem every_update {G : S → S → Prop} {g : S → S} (h : ∀ s, G s (g s)) :
    (update g : Prog S E Unit).Every G := fun s => ⟨h s, trivial⟩

theorem every_ite {G : S → S → Prop} {c : Prop} [Decidable c] {p q : Prog S E α}
    (hp : c → p.Every G) (hq : ¬ c → q.Every G) : (if c then p else q).Every G := by
  split
  · exact hp ‹_›
  · exact hq ‹_›

theorem every_tryCatch {G : S → S → Prop} {p : Prog S E α} {handler : E → Prog S E α}
    (hp : p.Every G) (hh : ∀ e, (handler e).Every G) : (p.tryCatch handler).Every G := by
  induction p with
  | done a => trivial
  | raise e => exact hh e
  | read next ih =>
    intro s
    exact ih s (hp s)
  | write effect next ih =>
    intro s
    exact ⟨(hp s).1, ih s (hp s).2⟩

/-! ## 3. A switch and what it promises -/

variable (K Q : S → Prop)

/-- As long as the switch `K` stays raised, every write keeps its promise `Q`. -/
def SafeUnder : Prog S E α → Prop
  | done _ => True
  | raise _ => True
  | read next => ∀ s, K s → Q s → (next s).SafeUnder
  | write effect next => ∀ s, K s → Q s → K (effect s) → Q (effect s) ∧ (next s).SafeUnder

/-- A write that raises the switch keeps the promise, and so does the rest of the call. -/
def RisesSafely : Prog S E α → Prop
  | done _ => True
  | raise _ => True
  | read next => ∀ s, (next s).RisesSafely
  | write effect next =>
    ∀ s, (¬ K s → K (effect s) → Q (effect s) ∧ (next s).SafeUnder K Q) ∧ (next s).RisesSafely

variable {K Q}

theorem safeUnder_bind {p : Prog S E α} {f : α → Prog S E β} (hp : p.SafeUnder K Q)
    (hf : ∀ a, (f a).SafeUnder K Q) : (p >>= f).SafeUnder K Q := by
  show (p.bind f).SafeUnder K Q
  induction p with
  | done a => exact hf a
  | raise e => trivial
  | read next ih =>
    intro s hk hq
    exact ih s (hp s hk hq)
  | write effect next ih =>
    intro s hk hq hk'
    exact ⟨(hp s hk hq hk').1, ih s (hp s hk hq hk').2⟩

theorem safeUnder_ite {c : Prop} [Decidable c] {p q : Prog S E α}
    (hp : c → p.SafeUnder K Q) (hq : ¬ c → q.SafeUnder K Q) :
    (if c then p else q).SafeUnder K Q := by
  split
  · exact hp ‹_›
  · exact hq ‹_›

theorem safeUnder_query_bind {q : S → α} {f : α → Prog S E β} :
    (query q >>= f).SafeUnder K Q ↔ ∀ s, K s → Q s → (f (q s)).SafeUnder K Q := Iff.rfl

theorem risesSafely_update {g : S → S} (h : ∀ s, K (g s) → Q (g s)) :
    (update g : Prog S E Unit).RisesSafely K Q := fun s => ⟨fun _ hk => ⟨h s hk, trivial⟩, trivial⟩

theorem risesSafely_bind {p : Prog S E α} {f : α → Prog S E β} (hp : p.RisesSafely K Q)
    (hs : ∀ a, (f a).SafeUnder K Q) (hr : ∀ a, (f a).RisesSafely K Q) :
    (p >>= f).RisesSafely K Q := by
  show (p.bind f).RisesSafely K Q
  induction p with
  | done a => exact hr a
  | raise e => trivial
  | read next ih =>
    intro s
    exact ih s (hp s)
  | write effect next ih =>
    intro s
    refine ⟨fun hlow hup => ?_, ih s (hp s).2⟩
    exact ⟨((hp s).1 hlow hup).1, safeUnder_bind ((hp s).1 hlow hup).2 hs⟩

/-- A call that never raises the switch. -/
theorem risesSafely_of_every {p : Prog S E α} (h : p.Every fun s s' => K s' → K s) :
    p.RisesSafely K Q := by
  induction p with
  | done a => trivial
  | raise e => trivial
  | read next ih =>
    intro s
    exact ih s (h s)
  | write effect next ih =>
    intro s
    exact ⟨fun hlow hup => absurd ((h s).1 hup) hlow, ih s (h s).2⟩

/-! ## 4. Positions -/

/-- `P` holds of what is left of the call at every position it can reach. -/
def Positions (P : Prog S E α → Prop) : Prog S E α → Prop
  | done a => P (done a)
  | raise e => P (raise e)
  | read next => P (read next) ∧ ∀ s, (next s).Positions P
  | write effect next => P (write effect next) ∧ ∀ s, (next s).Positions P

theorem positions_here {P : Prog S E α → Prop} {p : Prog S E α} (h : p.Positions P) : P p := by
  cases p with
  | done a => exact h
  | raise e => exact h
  | read next => exact h.1
  | write effect next => exact h.1

theorem positions_advance {P : Prog S E α → Prop} {p q : Prog S E α} {s : S} (h : p.Positions P)
    (hq : (p.advance s).2 = some q) : q.Positions P := by
  cases p with
  | done a => cases hq
  | raise e => cases hq
  | read next =>
    cases hq
    exact h.2 s
  | write effect next =>
    cases hq
    exact h.2 s

theorem positions_mono {P R : Prog S E α → Prop} (hpr : ∀ p, P p → R p) {p : Prog S E α}
    (h : p.Positions P) : p.Positions R := by
  induction p with
  | done a => exact hpr _ h
  | raise e => exact hpr _ h
  | read next ih => exact ⟨hpr _ h.1, fun s => ih s (h.2 s)⟩
  | write effect next ih => exact ⟨hpr _ h.1, fun s => ih s (h.2 s)⟩

/-- The write keeps the promise of the raised switch. -/
def Keeps (K Q : S → Prop) (s s' : S) : Prop := K s → Q s → K s' → Q s'

theorem safeUnder_of_keeps {p : Prog S E α} (h : p.Every (Keeps K Q)) : p.SafeUnder K Q := by
  induction p with
  | done a => trivial
  | raise e => trivial
  | read next ih => exact fun s _ _ => ih s (h s)
  | write effect next ih => exact fun s hk hq hk' => ⟨(h s).1 hk hq hk', ih s (h s).2⟩

/-- Where every write keeps the promise, the call is safe at every position. -/
theorem positions_of_keeps {p : Prog S E α} (h : p.Every (Keeps K Q)) :
    p.Positions (SafeUnder K Q) := by
  induction p with
  | done a => trivial
  | raise e => trivial
  | read next ih => exact ⟨safeUnder_of_keeps h, fun s => ih s (h s)⟩
  | write effect next ih => exact ⟨safeUnder_of_keeps h, fun s => ih s (h s).2⟩

end Prog

section Switch

variable {ι A S E α : Type} [DecidableEq ι] {K Q : S → Prop} {body : A → Prog S E α}

/-- The promise of the switch, and that no open call can break it. -/
structure Guarded (K Q : S → Prop) (c : Config ι S E α) : Prop where
  rises : ∀ i p, c.thread i = some p → p.RisesSafely K Q
  quiet : K c.state → Q c.state
  safe : K c.state → ∀ i p, c.thread i = some p → p.SafeUnder K Q

/-- The event condition: under a raised switch only safe calls begin, and when the switch rises
    every other open call is safe. -/
def Orderly (K Q : S → Prop) (body : A → Prog S E α) (c : Config ι S E α) : Event ι A → Prop
  | .call _ a => K c.state → (body a).SafeUnder K Q
  | .move i =>
    ∀ effect next, c.thread i = some (.write effect next) → ¬ K c.state → K (effect c.state) →
      ∀ j p, j ≠ i → c.thread j = some p → p.SafeUnder K Q

theorem guarded_call {c : Config ι S E α} (h : Guarded K Q c) {i : ι} {a : A}
    (hr : (body a).RisesSafely K Q) (hs : K c.state → (body a).SafeUnder K Q) :
    Guarded K Q (c.next body (.call i a)) := by
  rcases hi : c.thread i with _ | busy
  · rw [next_call_idle hi]
    constructor
    · intro j p hj
      rcases thread_update hj with ⟨_, hp⟩ | ⟨_, hp⟩
      · cases hp
        exact hr
      · exact h.rises j p hp
    · exact h.quiet
    · intro hk j p hj
      rcases thread_update hj with ⟨_, hp⟩ | ⟨_, hp⟩
      · cases hp
        exact hs hk
      · exact h.safe hk j p hp
  · rw [next_call_busy hi]
    exact h

/-- What one read or write leaves of the call it belongs to. -/
theorem rises_advance {p q : Prog S E α} {s : S} (h : p.RisesSafely K Q)
    (hq : (p.advance s).2 = some q) : q.RisesSafely K Q := by
  rcases p with a | e | next | ⟨effect, next⟩
  · cases hq
  · cases hq
  · cases hq
    exact h s
  · cases hq
    exact (h s).2

/-- One read or write of a thread, where the switch is up afterwards. -/
theorem advance_up {p : Prog S E α} {s : S} (hr : p.RisesSafely K Q) (hq : K s → Q s)
    (hs : K s → p.SafeUnder K Q) (hup : K (p.advance s).1) :
    Q (p.advance s).1 ∧ ∀ q, (p.advance s).2 = some q → q.SafeUnder K Q := by
  rcases p with a | e | next | ⟨effect, next⟩
  · exact ⟨hq hup, fun q h => by cases h⟩
  · exact ⟨hq hup, fun q h => by cases h⟩
  · refine ⟨hq hup, fun q h => ?_⟩
    cases h
    exact hs hup s hup (hq hup)
  · by_cases hk : K s
    · have h := hs hk s hk (hq hk) hup
      refine ⟨h.1, fun q hn => ?_⟩
      cases hn
      exact h.2
    · have h := (hr s).1 hk hup
      refine ⟨h.1, fun q hn => ?_⟩
      cases hn
      exact h.2

/-- Where the switch is up after a move and was down before, the move was the raising write. -/
theorem rising_write {p : Prog S E α} {s : S} (hk : ¬ K s) (hup : K (p.advance s).1) :
    ∃ effect next, p = .write effect next ∧ K (effect s) := by
  rcases p with a | e | next | ⟨effect, next⟩
  · exact absurd hup hk
  · exact absurd hup hk
  · exact absurd hup hk
  · exact ⟨effect, next, rfl, hup⟩

theorem guarded_move {c : Config ι S E α} (h : Guarded K Q c) {i : ι}
    (ho : Orderly K Q body c (.move i)) : Guarded K Q (c.next body (.move i)) := by
  rcases hi : c.thread i with _ | p
  · rw [next_move_idle hi]
    exact h
  rw [next_move hi]
  have hup := advance_up (h.rises i p hi) h.quiet (fun hk => h.safe hk i p hi)
  constructor
  · intro j q hj
    rcases thread_update hj with ⟨_, hq⟩ | ⟨_, hq⟩
    · exact rises_advance (h.rises i p hi) hq
    · exact h.rises j q hq
  · exact fun hk => (hup hk).1
  · intro hk j q hj
    rcases thread_update hj with ⟨_, hq⟩ | ⟨hji, hq⟩
    · exact (hup hk).2 q hq
    · by_cases hold : K c.state
      · exact h.safe hold j q hq
      · -- the switch has just risen: the condition speaks of every other call
        obtain ⟨effect, next, hp, hw⟩ := rising_write hold hk
        exact ho effect next (hp ▸ hi) hold hw j q hji hq

/-- The event condition by positions: under a raised switch only safe calls begin, and when the
    switch rises no other open call is exposed. -/
def Unexposed (X : Prog S E α → Prop) (K Q : S → Prop) (body : A → Prog S E α)
    (c : Config ι S E α) : Event ι A → Prop
  | .call _ a => K c.state → (body a).SafeUnder K Q
  | .move i => ¬ K c.state → K (c.next body (.move i)).state →
      ∀ j p, j ≠ i → c.thread j = some p → ¬ X p

/-- Every open call stands at a position of a call. -/
def AtPositions (P : Prog S E α → Prop) (c : Config ι S E α) : Prop :=
  ∀ i p, c.thread i = some p → p.Positions P

theorem atPositions_next {P : Prog S E α → Prop} (hbody : ∀ a, (body a).Positions P)
    {c : Config ι S E α} (h : AtPositions P c) (e : Event ι A) : AtPositions P (c.next body e) := by
  intro j q hj
  rcases e with ⟨i, a⟩ | i
  · rcases hi : c.thread i with _ | busy
    · rw [next_call_idle hi] at hj
      rcases thread_update hj with ⟨_, hq⟩ | ⟨_, hq⟩
      · cases hq
        exact hbody a
      · exact h j q hq
    · rw [next_call_busy hi] at hj
      exact h j q hj
  · rcases hi : c.thread i with _ | p
    · rw [next_move_idle hi] at hj
      exact h j q hj
    · rw [next_move hi] at hj
      rcases thread_update hj with ⟨_, hq⟩ | ⟨_, hq⟩
      · exact Prog.positions_advance (h i p hi) hq
      · exact h j q hq

/-- **The promise holds along a run in which no call is exposed when the switch rises.** -/
theorem guarded_run_unexposed {X : Prog S E α → Prop} (hr : ∀ a, (body a).RisesSafely K Q)
    (hbody : ∀ a, (body a).Positions fun p => X p ∨ p.SafeUnder K Q) {c : Config ι S E α}
    (h : Guarded K Q c) (hpos : AtPositions (fun p => X p ∨ p.SafeUnder K Q) c)
    (events : List (Event ι A))
    (ho : Along (Config.next body) (Unexposed X K Q body) c events) :
    Guarded K Q (c.run body events) := by
  refine (run_preserves (P := fun c => Guarded K Q c ∧
    AtPositions (fun p => X p ∨ p.SafeUnder K Q) c) ?_ events c ⟨h, hpos⟩ ho).1
  intro c e ⟨hc, hat⟩ he
  refine ⟨?_, atPositions_next hbody hat e⟩
  rcases e with ⟨i, a⟩ | i
  · exact guarded_call hc (hr a) he
  · refine guarded_move hc fun effect next hi hlow hup j p hji hj => ?_
    have hrise : K (c.next body (.move i)).state := by
      rw [next_move hi]
      exact hup
    rcases Prog.positions_here (hat j p hj) with hx | hsafe
    · exact absurd hx (he hlow hrise j p hji hj)
    · exact hsafe

end Switch

end AlphaForge.Lib
