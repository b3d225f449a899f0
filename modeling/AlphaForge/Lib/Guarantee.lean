/-
  File:      AlphaForge/Lib/Guarantee.lean
  Subject:   Calls under any interleaving, each with keys of its own. No program fact.

  * `Prog.Under` -- a call that relies on what the others may do, and guarantees what it does
    itself; `under_bind` composes it along the call, `under_frame` adds what nobody changes.
  * `Discipline` -- what others may do to a state as seen by the owner of some keys.
  * **`guaranteed_run`** -- where every call meets the discipline with its own keys and no two calls
    share a key, the invariant holds after every schedule, and every write on the way is a step.
  * `Prog.Fenced` -- a call that, once a write of its own has begun something, keeps to a rule from
    then on; `fenced_run`: so does its thread, whatever the others do.
-/
import AlphaForge.Lib.Interleaving
import Mathlib

namespace AlphaForge.Lib

/-! ## 1. One call -/

namespace Prog

variable {S E α β : Type}

/-- From a state on, and whatever the others do to it: every write guarantees `G` and keeps `I`, and
    what the call answers satisfies `Q`. -/
def Under (R G : S → S → Prop) (I : S → Prop) (Q : α → S → Prop) : Prog S E α → S → Prop
  | done a, s => ∀ s', R s s' → I s' → Q a s'
  | raise _, _ => True
  | read next, s => ∀ s', R s s' → I s' → (next s').Under R G I Q s'
  | write effect next, s =>
    ∀ s', R s s' → I s' → G s' (effect s') ∧ I (effect s') ∧ (next s').Under R G I Q (effect s')

variable {R G : S → S → Prop} {I : S → Prop} {Q : α → S → Prop} {Q' : β → S → Prop}

/-- What others do in between is covered. -/
theorem under_stable (htrans : ∀ s s' s'', R s s' → R s' s'' → R s s'') {p : Prog S E α} {s s' : S}
    (h : p.Under R G I Q s) (hs : R s s') : p.Under R G I Q s' := by
  cases p with
  | done a => exact fun t ht hi => h t (htrans _ _ _ hs ht) hi
  | raise e => trivial
  | read next => exact fun t ht hi => h t (htrans _ _ _ hs ht) hi
  | write effect next => exact fun t ht hi => h t (htrans _ _ _ hs ht) hi

/-- It is enough to look at the states that the others leave. -/
theorem under_of_all (hrefl : ∀ s, R s s) {p : Prog S E α} {s : S}
    (h : ∀ s', R s s' → I s' → p.Under R G I Q s') : p.Under R G I Q s := by
  cases p with
  | done a => exact fun s' hs hi => h s' hs hi s' (hrefl s') hi
  | raise e => trivial
  | read next => exact fun s' hs hi => h s' hs hi s' (hrefl s') hi
  | write effect next => exact fun s' hs hi => h s' hs hi s' (hrefl s') hi

theorem under_bind (hrefl : ∀ s, R s s) {p : Prog S E α} {f : α → Prog S E β} {s : S}
    (h : p.Under R G I (fun a s => (f a).Under R G I Q' s) s) :
    (p >>= f).Under R G I Q' s := by
  show (p.bind f).Under R G I Q' s
  induction p generalizing s with
  | done a => exact under_of_all hrefl h
  | raise e => trivial
  | read next ih => exact fun s' hs hi => ih s' (h s' hs hi)
  | write effect next ih =>
    intro s' hs hi
    obtain ⟨hg, hi', hnext⟩ := h s' hs hi
    exact ⟨hg, hi', ih s' hnext⟩

theorem under_mono {Q'' : α → S → Prop} (hq : ∀ a s, Q a s → Q'' a s) {p : Prog S E α} {s : S}
    (h : p.Under R G I Q s) : p.Under R G I Q'' s := by
  induction p generalizing s with
  | done a => exact fun s' hs hi => hq a s' (h s' hs hi)
  | raise e => trivial
  | read next ih => exact fun s' hs hi => ih s' (h s' hs hi)
  | write effect next ih =>
    intro s' hs hi
    obtain ⟨hg, hi', hnext⟩ := h s' hs hi
    exact ⟨hg, hi', ih s' hnext⟩

/-- What both the others and the call itself leave alone still holds at the end. -/
theorem under_frame {K : S → Prop} (hothers : ∀ s s', K s → R s s' → K s')
    (hown : ∀ s s', K s → G s s' → K s') {p : Prog S E α} {s : S} (h : p.Under R G I Q s)
    (hk : K s) :
    p.Under R G I (fun a s => Q a s ∧ K s) s := by
  induction p generalizing s with
  | done a => exact fun s' hs hi => ⟨h s' hs hi, hothers s s' hk hs⟩
  | raise e => trivial
  | read next ih => exact fun s' hs hi => ih s' (h s' hs hi) (hothers s s' hk hs)
  | write effect next ih =>
    intro s' hs hi
    obtain ⟨hg, hi', hnext⟩ := h s' hs hi
    exact ⟨hg, hi', ih s' hnext (hown _ _ (hothers s s' hk hs) hg)⟩

theorem under_query_bind {q : S → α} {f : α → Prog S E β} {s : S} :
    (query q >>= f).Under R G I Q' s ↔ ∀ s', R s s' → I s' → (f (q s')).Under R G I Q' s' := Iff.rfl

theorem under_update_bind {g : S → S} {f : Unit → Prog S E β} {s : S} :
    (update g >>= f).Under R G I Q' s ↔ ∀ s', R s s' → I s' →
      G s' (g s') ∧ I (g s') ∧ (f ()).Under R G I Q' (g s') := Iff.rfl

theorem under_updateCount_bind {g : S → S} {count : S → ℕ} {f : ℕ → Prog S E β} {s : S} :
    (updateCount g count >>= f).Under R G I Q' s ↔ ∀ s', R s s' → I s' →
      G s' (g s') ∧ I (g s') ∧ (f (count s')).Under R G I Q' (g s') := Iff.rfl

end Prog

/-! ## 2. Any number of calls -/

section Calls

variable {ι A K S E α : Type} [DecidableEq ι]

/-- What the owner of some keys sees others do, what a write does, and what holds at every time. -/
structure Discipline (K S : Type) where
  foreign : Set K → S → S → Prop
  refl : ∀ T s, foreign T s s
  trans : ∀ T s s' s'', foreign T s s' → foreign T s' s'' → foreign T s s''
  invariant : S → Prop
  step : S → S → Prop

variable (d : Discipline K S)

/-- What the owner of the keys does: a step, and foreign to everyone who has none of them. -/
def Discipline.own (T : Set K) (s s' : S) : Prop :=
  d.step s s' ∧ ∀ U, Disjoint T U → d.foreign U s s'

/-- A call that meets the discipline with the given keys. -/
def Discipline.Meets (T : Set K) (p : Prog S E α) (s : S) : Prop :=
  p.Under (d.foreign T) (d.own T) d.invariant (fun _ _ => True) s

/-- The keys of the call that an event begins. -/
def Event.keys (keys : A → Set K) : Event ι A → Set K
  | .call _ a => keys a
  | .move _ => ∅

/-- Every open call meets the discipline with keys that no other call has, now or later. -/
structure Guaranteed (keys : A → Set K) (c : Config ι S E α) (rest : List (Event ι A))
    (owned : ι → Set K) : Prop where
  holds : d.invariant c.state
  apart : ∀ i j, i ≠ j → Disjoint (owned i) (owned j)
  meets : ∀ i p, c.thread i = some p → d.Meets (owned i) p c.state
  later : ∀ e ∈ rest, ∀ i, Disjoint (owned i) (e.keys keys)

variable {d} {keys : A → Set K} {body : A → Prog S E α} {c : Config ι S E α}
  {rest : List (Event ι A)} {owned : ι → Set K}

/-- An idle thread begins a call. -/
theorem guaranteed_call {i : ι} {a : A}
    (hbody : ∀ s, d.invariant s → d.Meets (keys a) (body a) s)
    (hrest : ∀ e ∈ rest, Disjoint (keys a) (e.keys keys))
    (h : Guaranteed d keys c (.call i a :: rest) owned) (hidle : c.thread i = none) :
    Guaranteed d keys (c.next body (.call i a)) rest (Function.update owned i (keys a)) := by
  have hnew := h.later (.call i a) List.mem_cons_self
  rw [next_call_idle hidle]
  constructor
  · exact h.holds
  · intro j k hjk
    by_cases hj : j = i
    · rw [hj, Function.update_self, Function.update_of_ne (hj ▸ hjk.symm)]
      exact (hnew k).symm
    · rw [Function.update_of_ne hj]
      by_cases hk : k = i
      · rw [hk, Function.update_self]
        exact hnew j
      · rw [Function.update_of_ne hk]
        exact h.apart j k hjk
  · intro j p hj
    rcases thread_update hj with ⟨heq, hp⟩ | ⟨hne, hp⟩
    · cases hp
      rw [heq, Function.update_self]
      exact hbody _ h.holds
    · rw [Function.update_of_ne hne]
      exact h.meets j p hp
  · intro e he j
    by_cases hj : j = i
    · rw [hj, Function.update_self]
      exact hrest e he
    · rw [Function.update_of_ne hj]
      exact h.later e (List.mem_cons_of_mem _ he) j

/-- The next read or write of a call, and what it does. -/
theorem Discipline.meets_advance {T : Set K} {p : Prog S E α} {s : S} (hinv : d.invariant s)
    (h : d.Meets T p s) :
    d.invariant (p.advance s).1 ∧ ((p.advance s).1 = s ∨ d.own T s (p.advance s).1) ∧
      ∀ q, (p.advance s).2 = some q → d.Meets T q (p.advance s).1 := by
  cases p with
  | done a => exact ⟨hinv, Or.inl rfl, fun q hq => by cases hq⟩
  | raise e => exact ⟨hinv, Or.inl rfl, fun q hq => by cases hq⟩
  | read next =>
    refine ⟨hinv, Or.inl rfl, fun q hq => ?_⟩
    cases hq
    exact h s (d.refl T s) hinv
  | write effect next =>
    obtain ⟨hown, hinv', hnext⟩ := h s (d.refl T s) hinv
    refine ⟨hinv', Or.inr hown, fun q hq => ?_⟩
    cases hq
    exact hnext

theorem guaranteed_move {i : ι} (h : Guaranteed d keys c (.move i :: rest) owned) :
    Guaranteed d keys (c.next body (.move i)) rest owned ∧
      ((c.next body (.move i)).state = c.state ∨ d.step c.state (c.next body (.move i)).state) := by
  have hlater := fun e he => h.later e (List.mem_cons_of_mem _ he)
  rcases hi : c.thread i with _ | p
  · rw [next_move_idle hi]
    exact ⟨⟨h.holds, h.apart, h.meets, hlater⟩, Or.inl rfl⟩
  · rw [next_move hi]
    obtain ⟨hinv, hstep, hnext⟩ := Discipline.meets_advance h.holds (h.meets i p hi)
    -- to everyone else the write is foreign
    have hforeign : ∀ U, Disjoint (owned i) U → d.foreign U c.state (p.advance c.state).1 := by
      intro U hU
      rcases hstep with hsame | hown
      · rw [hsame]
        exact d.refl U _
      · exact hown.2 U hU
    refine ⟨⟨hinv, h.apart, fun j q hj => ?_, hlater⟩, hstep.imp id fun hown => hown.1⟩
    rcases thread_update hj with ⟨heq, hq⟩ | ⟨hne, hq⟩
    · rw [heq]
      exact hnext q hq
    · exact Prog.under_stable (d.trans (owned j)) (h.meets j q hq)
        (hforeign _ (h.apart i j hne.symm))

/-- **Any schedule**: after it every open call still meets the discipline, whatever is to come, and
    every write on the way is a step. -/
theorem guaranteed_run {allowed : A → Prop}
    (hbody : ∀ a, allowed a → ∀ s, d.invariant s → d.Meets (keys a) (body a) s)
    {events : List (Event ι A)} (hallowed : ∀ i a, .call i a ∈ events → allowed a)
    (hapart : (events ++ rest).Pairwise fun e e' => Disjoint (e.keys keys) (e'.keys keys))
    (h : Guaranteed d keys c (events ++ rest) owned) :
    (∃ owned', Guaranteed d keys (c.run body events) rest owned') ∧
      Relation.ReflTransGen d.step c.state (c.run body events).state := by
  induction events generalizing c owned with
  | nil => exact ⟨⟨owned, h⟩, .refl⟩
  | cons e events ih =>
    obtain ⟨hfirst, hrest⟩ := List.pairwise_cons.mp hapart
    have hlater := fun i a hmem => hallowed i a (List.mem_cons_of_mem e hmem)
    show (∃ owned', Guaranteed d keys ((c.next body e).run body events) rest owned') ∧
      Relation.ReflTransGen d.step c.state ((c.next body e).run body events).state
    cases e with
    | call i a =>
      rcases hi : c.thread i with _ | p
      · have hstate : (c.next body (.call i a)).state = c.state := by
          rw [next_call_idle hi]
        have hmeets := hbody a (hallowed i a List.mem_cons_self)
        have hnext := ih hlater hrest (guaranteed_call hmeets hfirst h hi)
        rw [hstate] at hnext
        exact hnext
      · rw [next_call_busy hi]
        exact ih hlater hrest
          ⟨h.holds, h.apart, h.meets, fun e he => h.later e (List.mem_cons_of_mem _ he)⟩
    | move i =>
      obtain ⟨hnext, hstep⟩ := guaranteed_move h
      obtain ⟨hinv, hpath⟩ := ih hlater hrest hnext
      refine ⟨hinv, ?_⟩
      rcases hstep with hsame | hstep
      · rw [hsame] at hpath
        exact hpath
      · exact .head hstep hpath

omit [DecidableEq ι] in
/-- A start where no call is open. -/
theorem guaranteed_start {s : S} (hinv : d.invariant s) {events : List (Event ι A)} :
    Guaranteed d keys (⟨s, fun _ => none⟩ : Config ι S E α) events fun _ => ∅ where
  holds := hinv
  apart _ _ _ := Set.empty_disjoint _
  meets _ _ hp := by cases hp
  later _ _ _ := Set.empty_disjoint _

end Calls

/-! ## 3. What a call may no longer do -/

section Fences

variable {ι A S E α β κ : Type}

/-- Once a write of the call has begun something under a key, every later one keeps to the rule of
    the key. -/
def Prog.Fenced (Begins Rule : κ → S → S → Prop) : Prog S E α → Prop
  | .done _ => True
  | .raise _ => True
  | .read next => ∀ s, (next s).Fenced Begins Rule
  | .write effect next => ∀ s, (next s).Fenced Begins Rule ∧
      ∀ k, Begins k s (effect s) → (next s).Every (Rule k)

variable {Begins Rule : κ → S → S → Prop}

/-- A call that keeps to the rules of all it begins from its first write on. -/
theorem Prog.fenced_of_every {Q : S → S → Prop} {p : Prog S E α}
    (hrule : ∀ k s s', Q s s' → Begins k s s' → ∀ t t', Q t t' → Rule k t t') (h : p.Every Q) :
    p.Fenced Begins Rule := by
  induction p with
  | done a => trivial
  | raise e => trivial
  | read next ih => exact fun s => ih s (h s)
  | write effect next ih =>
    refine fun s => ⟨ih s (h s).2, fun k hk => ?_⟩
    exact Prog.every_mono (hrule k s (effect s) (h s).1 hk) (h s).2

/-- What follows has to keep to the rules of what was begun before it. -/
theorem Prog.fenced_bind {K : κ → Prop} {p : Prog S E α} {f : α → Prog S E β}
    (hp : p.Fenced Begins Rule) (hbegun : p.Every fun s s' => ∀ k, Begins k s s' → K k)
    (hf : ∀ a, (f a).Fenced Begins Rule) (hrule : ∀ k, K k → ∀ a, (f a).Every (Rule k)) :
    (p >>= f).Fenced Begins Rule := by
  show (p.bind f).Fenced Begins Rule
  induction p with
  | done a => exact hf a
  | raise e => trivial
  | read next ih => exact fun s => ih s (hp s) (hbegun s)
  | write effect next ih =>
    refine fun s => ⟨ih s (hp s).1 (hbegun s).2, fun k hk => ?_⟩
    exact Prog.every_bind ((hp s).2 k hk) (hrule k ((hbegun s).1 k hk))

theorem Prog.fenced_update_bind {g : S → S} {f : Unit → Prog S E β} :
    (update g >>= f).Fenced Begins Rule ↔ ∀ s, (f ()).Fenced Begins Rule ∧
      ∀ k, Begins k s (g s) → (f ()).Every (Rule k) := Iff.rfl

theorem Prog.fenced_updateCount_bind {g : S → S} {count : S → ℕ} {f : ℕ → Prog S E β} :
    (updateCount g count >>= f).Fenced Begins Rule ↔ ∀ s, (f (count s)).Fenced Begins Rule ∧
      ∀ k, Begins k s (g s) → (f (count s)).Every (Rule k) := Iff.rfl

theorem Prog.every_updateCount_bind {G : S → S → Prop} {g : S → S} {count : S → ℕ}
    {f : ℕ → Prog S E β} :
    (updateCount g count >>= f).Every G ↔ ∀ s, G s (g s) ∧ (f (count s)).Every G := Iff.rfl

/-- Both kinds of rule, past a query. -/
theorem Prog.fenced_query_bind {Q : S → S → Prop} {q : S → α} {f : α → Prog S E β}
    (h : ∀ s, (f (q s)).Fenced Begins Rule ∧ (f (q s)).Every Q) :
    (query q >>= f).Fenced Begins Rule ∧ (query q >>= f).Every Q :=
  ⟨fun s => (h s).1, fun s => (h s).2⟩

variable [DecidableEq ι] {body : A → Prog S E α} {c : Config ι S E α} {i : ι}

/-- Every open call is fenced, and stays so. -/
theorem fenced_threads (hbody : ∀ a, (body a).Fenced Begins Rule) (events : List (Event ι A))
    (h : ∀ i p, c.thread i = some p → p.Fenced Begins Rule) :
    ∀ i p, (c.run body events).thread i = some p → p.Fenced Begins Rule := by
  refine run_invariant (P := fun c => ∀ i p, c.thread i = some p → p.Fenced Begins Rule)
    (fun c e h => ?_) events c h
  cases e with
  | call i a =>
    rcases hi : c.thread i with _ | p
    · rw [next_call_idle hi]
      intro j q hj
      rcases thread_update hj with ⟨_, hq⟩ | ⟨_, hq⟩
      · rw [← Option.some.inj hq]
        exact hbody a
      · exact h j q hq
    · rw [next_call_busy hi]
      exact h
  | move i =>
    rcases hi : c.thread i with _ | p
    · rw [next_move_idle hi]
      exact h
    · rw [next_move hi]
      intro j q hj
      rcases thread_update hj with ⟨_, hq⟩ | ⟨_, hq⟩
      · have hp := h i p hi
        cases p with
        | done a => cases hq
        | raise e => cases hq
        | read next =>
          cases hq
          exact hp _
        | write effect next =>
          cases hq
          exact (hp _).1
      · exact h j q hq

/-- A rule of every write of a thread holds on, until the thread begins another call. -/
theorem every_thread {Q : S → S → Prop} {events : List (Event ι A)}
    (hcalls : ∀ a, .call i a ∉ events) (h : ∀ p, c.thread i = some p → p.Every Q) :
    ∀ p, (c.run body events).thread i = some p → p.Every Q := by
  induction events generalizing c with
  | nil => exact h
  | cons e rest ih =>
    refine @ih (c.next body e) (fun a hmem => hcalls a (List.mem_cons_of_mem e hmem)) ?_
    cases e with
    | call j a =>
      have hne : i ≠ j := by
        rintro rfl
        exact hcalls a List.mem_cons_self
      rcases hj : c.thread j with _ | p
      · rw [next_call_idle hj]
        intro p hp
        rcases thread_update hp with ⟨heq, _⟩ | ⟨_, hp⟩
        · exact absurd heq hne
        · exact h p hp
      · rw [next_call_busy hj]
        exact h
    | move j =>
      rcases hj : c.thread j with _ | p
      · rw [next_move_idle hj]
        exact h
      · rw [next_move hj]
        intro q hq
        rcases thread_update hq with ⟨heq, hq⟩ | ⟨_, hq⟩
        · have hp := h p (heq ▸ hj)
          cases p with
          | done a => cases hq
          | raise e => cases hq
          | read next =>
            cases hq
            exact hp _
          | write effect next =>
            cases hq
            exact (hp _).2
        · exact h q hq

/-- **Once a thread has begun something, it keeps to its rule** until its next call, whatever the
    others do. -/
theorem fenced_run (hnew : ∀ k s, ¬ Begins k s s) (hrefl : ∀ k s, Rule k s s)
    (h : ∀ i p, c.thread i = some p → p.Fenced Begins Rule) {k : κ}
    (hbegins : Begins k c.state (c.next body (.move i)).state) {events : List (Event ι A)}
    (hcalls : ∀ a, .call i a ∉ events) :
    Rule k ((c.next body (.move i)).run body events).state
      (((c.next body (.move i)).run body events).next body (.move i)).state := by
  have hevery : ∀ p, (c.next body (.move i)).thread i = some p → p.Every (Rule k) := by
    rcases hi : c.thread i with _ | p
    · rw [next_move_idle hi] at hbegins
      exact absurd hbegins (hnew k _)
    · rw [next_move hi] at hbegins ⊢
      have hp := h i p hi
      intro q hnext
      have hq : (p.advance c.state).2 = some q := by
        rw [← hnext]
        exact (Function.update_self i (p.advance c.state).2 c.thread).symm
      cases p with
      | done a => cases hq
      | raise e => cases hq
      | read next => exact absurd hbegins (hnew k _)
      | write effect next =>
        cases hq
        exact (hp c.state).2 k hbegins
  have hlater : ∀ p, ((c.next body (.move i)).run body events).thread i = some p → p.Every _ :=
    every_thread hcalls hevery
  generalize (c.next body (.move i)).run body events = d at hlater
  rcases hi : d.thread i with _ | p
  · rw [next_move_idle hi]
    exact hrefl k _
  · rw [next_move hi]
    have hp := hlater p hi
    cases p with
    | done a => exact hrefl k _
    | raise e => exact hrefl k _
    | read next => exact hrefl k _
    | write effect next => exact (hp d.state).1

end Fences

end AlphaForge.Lib
