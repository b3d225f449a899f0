/-
  File:      AlphaForge/Lib/Timeline.lean
  Subject:   Lists ordered by a key, the first element that meets a test, and the replay of two
             ordered streams as one. Any key, any elements, no program fact.

  * `Timed` -- strictly ascending keys; `upTo` cuts such a list at a key, `map_eq_of_timed` says
    that its members determine it.
  * `firstHit` -- the scan `for index, a in enumerate(l): if p(a): break`.
  * `firstHit_timed` -- on an ordered list it finds the earliest element that meets the test, and
    what it passed over is the list up to that key.
  * `replay` -- events and elements merged by key; **`replay_eq_firstHit`**: it tests each element
    in the state made by the events up to its key.
  * `livingAt` -- the elements whose life contains a key; `pairwise_apart_iff` says when at most one
    of them lives at a time.
-/
import Mathlib.Data.List.Sort
import Mathlib.Data.List.Perm.Basic

namespace AlphaForge.Lib

variable {κ α β : Type*}

/-! ## 1. Ordered lists -/

section Timed

variable [LinearOrder κ] {key : α → κ}

/-- The keys ascend strictly. -/
def Timed (key : α → κ) (l : List α) : Prop := l.Pairwise fun a b => key a < key b

/-- The elements up to key `T`. -/
def upTo (key : α → κ) (T : κ) (l : List α) : List α := l.filter fun a => key a ≤ T

theorem mem_upTo {T : κ} {l : List α} {a : α} : a ∈ upTo key T l ↔ a ∈ l ∧ key a ≤ T := by
  unfold upTo
  rw [List.mem_filter, decide_eq_true_eq]

theorem timed_upTo {T : κ} {l : List α} (h : Timed key l) : Timed key (upTo key T l) :=
  h.filter _

/-- A key names one element. -/
theorem timed_inj {l : List α} (h : Timed key l) {a b : α} (ha : a ∈ l) (hb : b ∈ l)
    (hk : key a = key b) : a = b := by
  induction l with
  | nil => cases ha
  | cons c l ih =>
    obtain ⟨hc, hl⟩ := List.pairwise_cons.mp h
    rcases List.mem_cons.mp ha with rfl | ha'
    · rcases List.mem_cons.mp hb with rfl | hb'
      · rfl
      · exact absurd hk (hc b hb').ne
    · rcases List.mem_cons.mp hb with rfl | hb'
      · exact absurd hk (hc a ha').ne'
      · exact ih hl ha' hb'

/-- An ordered list is its part up to `T` followed by its part beyond `T`. -/
theorem upTo_append {l : List α} (h : Timed key l) (T : κ) :
    upTo key T l ++ l.filter (fun a => T < key a) = l := by
  unfold upTo
  induction l with
  | nil => rfl
  | cons a l ih =>
    obtain ⟨ha, hl⟩ := List.pairwise_cons.mp h
    by_cases hT : key a ≤ T
    · rw [List.filter_cons_of_pos (by simpa using hT),
        List.filter_cons_of_neg (by simpa using hT), List.cons_append, ih hl]
    · have hlater : ∀ b ∈ l, T < key b := fun b hb => (not_le.mp hT).trans (ha b hb)
      rw [List.filter_cons_of_neg (by simpa using hT),
        List.filter_cons_of_pos (by simpa using not_le.mp hT),
        List.filter_eq_nil_iff.mpr (by simpa using hlater),
        List.filter_eq_self.mpr (by simpa using hlater), List.nil_append]

/-- **Two ordered lists with the same members are the same**, as far as a view `f` that keeps the
    key shows them. -/
theorem map_eq_of_timed {f : α → β} {key' : β → κ} (hf : ∀ a, key' (f a) = key a) {l l' : List α}
    (h : Timed key l) (h' : Timed key l') (hm : ∀ b, b ∈ l.map f ↔ b ∈ l'.map f) :
    l.map f = l'.map f := by
  have : Std.Irrefl fun a b : β => key' a < key' b := ⟨fun a => lt_irrefl (key' a)⟩
  have : Std.Antisymm fun a b : β => key' a < key' b :=
    ⟨fun a b hab hba => absurd hba hab.not_gt⟩
  refine List.Pairwise.eq_of_mem_iff (r := fun a b : β => key' a < key' b) ?_ ?_ hm
  · exact List.pairwise_map.mpr (h.imp fun hab => by simpa only [hf] using hab)
  · exact List.pairwise_map.mpr (h'.imp fun hab => by simpa only [hf] using hab)

end Timed

/-! ## 2. The first hit -/

/-- The first element that meets the test, with its index. -/
def firstHit (p : α → Bool) : List α → Option (ℕ × α)
  | [] => none
  | a :: l => if p a then some (0, a) else (firstHit p l).map fun r => (r.1 + 1, r.2)

theorem firstHit_eq_none {p : α → Bool} {l : List α} :
    firstHit p l = none ↔ ∀ a ∈ l, p a = false := by
  induction l with
  | nil => simp [firstHit]
  | cons a l ih => cases h : p a <;> simp [firstHit, h, ih]

/-- What was passed over meets the test nowhere. -/
theorem firstHit_eq_some {p : α → Bool} {l : List α} {i : ℕ} {a : α} :
    firstHit p l = some (i, a) ↔
      ∃ pre post, l = pre ++ a :: post ∧ pre.length = i ∧ p a = true ∧ ∀ b ∈ pre, p b = false := by
  induction l generalizing i with
  | nil => simp [firstHit]
  | cons c l ih =>
    cases h : p c with
    | true =>
      simp only [firstHit, h, if_true, Option.some.injEq, Prod.mk.injEq]
      constructor
      · rintro ⟨rfl, rfl⟩
        exact ⟨[], l, rfl, rfl, h, by simp⟩
      · rintro ⟨pre, post, hl, rfl, -, hpre⟩
        cases pre with
        | nil => exact ⟨rfl, (List.cons.inj hl).1⟩
        | cons b pre =>
          obtain ⟨rfl, -⟩ := List.cons.inj hl
          rw [hpre c (by simp)] at h
          cases h
    | false =>
      simp only [firstHit, h, Bool.false_eq_true, if_false, Option.map_eq_some_iff, Prod.exists,
        Prod.mk.injEq]
      constructor
      · rintro ⟨j, b, hj, rfl, rfl⟩
        obtain ⟨pre, post, rfl, rfl, hp, hpre⟩ := ih.mp hj
        exact ⟨c :: pre, post, rfl, rfl, hp, by simpa [h] using hpre⟩
      · rintro ⟨pre, post, hl, rfl, hp, hpre⟩
        cases pre with
        | nil =>
          obtain ⟨rfl, -⟩ := List.cons.inj hl
          rw [hp] at h
          cases h
        | cons b pre =>
          obtain ⟨rfl, rfl⟩ := List.cons.inj hl
          exact ⟨pre.length, a, ih.mpr ⟨pre, post, rfl, rfl, hp,
            fun x hx => hpre x (List.mem_cons_of_mem _ hx)⟩, rfl, rfl⟩

/-- A hit in the first part is the hit of the whole. -/
theorem firstHit_append_of_some {p : α → Bool} {l : List α} (l' : List α) {r : ℕ × α}
    (h : firstHit p l = some r) : firstHit p (l ++ l') = some r := by
  obtain ⟨i, a⟩ := r
  obtain ⟨pre, post, rfl, hi, hp, hpre⟩ := firstHit_eq_some.mp h
  exact firstHit_eq_some.mpr ⟨pre, post ++ l', by simp, hi, hp, hpre⟩

theorem firstHit_map (p : β → Bool) (f : α → β) (l : List α) :
    firstHit p (l.map f) = (firstHit (fun a => p (f a)) l).map fun r => (r.1, f r.2) := by
  induction l with
  | nil => rfl
  | cons a l ih =>
    cases h : p (f a) with
    | true => simp [firstHit, h]
    | false =>
      simp only [List.map_cons, firstHit, h, Bool.false_eq_true, if_false, ih, Option.map_map]
      rfl

theorem firstHit_congr {p q : α → Bool} {l : List α} (h : ∀ a ∈ l, p a = q a) :
    firstHit p l = firstHit q l := by
  induction l with
  | nil => rfl
  | cons a l ih =>
    unfold firstHit
    rw [h a (by simp), ih fun b hb => h b (List.mem_cons_of_mem a hb)]

section TimedHit

variable [LinearOrder κ] {key : α → κ} {p : α → Bool}

/-- **The first hit of an ordered list is its earliest element that meets the test**, and the
    scan saw exactly the elements up to it. -/
theorem firstHit_timed {l : List α} {i : ℕ} {a : α} (h : Timed key l)
    (hit : firstHit p l = some (i, a)) :
    a ∈ l ∧ p a = true ∧ (∀ b ∈ l, p b = true → key a ≤ key b) ∧
      l.take (i + 1) = upTo key (key a) l := by
  obtain ⟨pre, post, rfl, rfl, hp, hpre⟩ := firstHit_eq_some.mp hit
  obtain ⟨-, hcons, hcross⟩ := List.pairwise_append.mp h
  obtain ⟨hpost, -⟩ := List.pairwise_cons.mp hcons
  refine ⟨by simp, hp, ?_, ?_⟩
  · intro b hb hpb
    rcases List.mem_append.mp hb with hb | hb
    · rw [hpre b hb] at hpb
      cases hpb
    · rcases List.mem_cons.mp hb with rfl | hb
      · exact le_rfl
      · exact (hpost b hb).le
  · have hbefore : ∀ b ∈ pre, key b ≤ key a := fun b hb => (hcross b hb a (by simp)).le
    unfold upTo
    rw [List.filter_append, List.filter_eq_self.mpr (by simpa using hbefore),
      List.filter_cons_of_pos (by simp),
      List.filter_eq_nil_iff.mpr (by simpa using hpost)]
    rw [List.take_length_add_append]
    rfl

/-- A hit at or before `T` is found in the part up to `T`. -/
theorem firstHit_upTo {l : List α} {i : ℕ} {a : α} (h : Timed key l)
    (hit : firstHit p l = some (i, a)) {T : κ} (hT : key a ≤ T) :
    firstHit p (upTo key T l) = some (i, a) := by
  cases hu : firstHit p (upTo key T l) with
  | none =>
    obtain ⟨ha, hp, -, -⟩ := firstHit_timed h hit
    rw [firstHit_eq_none.mp hu a (mem_upTo.mpr ⟨ha, hT⟩)] at hp
    cases hp
  | some r =>
    have happ := firstHit_append_of_some (l.filter fun a => T < key a) hu
    rw [upTo_append h T, hit] at happ
    exact happ.symm

end TimedHit

/-! ## 3. Two streams as one -/

section Replay

variable {σ ε : Type*} [LinearOrder κ] (key : α → κ) (time : ε → κ) (apply : σ → ε → σ)
  (hit : σ → α → Bool)

/-- Events and elements in the order of their keys, an event before the elements of its key: the
    first element that hits, with the state it was tested in. -/
def replay : σ → List ε → List α → Option (σ × α)
  | _, _, [] => none
  | s, events, a :: rest =>
    let now := (events.takeWhile fun e => time e ≤ key a).foldl apply s
    if hit now a then some (now, a)
    else replay now (events.dropWhile fun e => time e ≤ key a) rest

/-- The state at time `T`: every event up to it has happened. -/
def stateAt (s : σ) (events : List ε) (T : κ) : σ :=
  (events.filter fun e => time e ≤ T).foldl apply s

variable {key time apply hit}

/-- In an ordered list the elements up to `T` come first. -/
theorem takeWhile_eq_filter {events : List ε} (h : events.Pairwise fun a b => time a ≤ time b)
    (T : κ) : (events.takeWhile fun e => time e ≤ T) = events.filter fun e => time e ≤ T := by
  induction events with
  | nil => rfl
  | cons e events ih =>
    obtain ⟨he, hevents⟩ := List.pairwise_cons.mp h
    by_cases hT : time e ≤ T
    · rw [List.takeWhile_cons_of_pos (by simpa using hT),
        List.filter_cons_of_pos (by simpa using hT), ih hevents]
    · have hlater : ∀ b ∈ events, ¬time b ≤ T := fun b hb hbT => hT ((he b hb).trans hbT)
      rw [List.takeWhile_cons_of_neg (by simpa using hT),
        List.filter_cons_of_neg (by simpa using hT),
        List.filter_eq_nil_iff.mpr (by simpa using hlater)]

/-- What happened up to `T` may be applied first. -/
theorem stateAt_dropWhile {events : List ε} (h : events.Pairwise fun a b => time a ≤ time b)
    (s : σ) {T U : κ} (hTU : T ≤ U) :
    stateAt time apply (stateAt time apply s events T)
      (events.dropWhile fun e => time e ≤ T) U = stateAt time apply s events U := by
  unfold stateAt
  rw [← takeWhile_eq_filter h T, ← List.foldl_append]
  congr 1
  have hsplit := List.takeWhile_append_dropWhile (p := fun e => decide (time e ≤ T)) (l := events)
  conv_rhs => rw [← hsplit, List.filter_append]
  congr 1
  refine (List.filter_eq_self.mpr fun e he => ?_).symm
  rw [takeWhile_eq_filter h T] at he
  simpa using (of_decide_eq_true (List.mem_filter.mp he).2).trans hTU

/-- **The replay tests each element in the state of its own time.** -/
theorem replay_eq_firstHit {events : List ε} (he : events.Pairwise fun a b => time a ≤ time b)
    {l : List α} (hl : Timed key l) (s : σ) :
    replay key time apply hit s events l =
      (firstHit (fun a => hit (stateAt time apply s events (key a)) a) l).map fun r =>
        (stateAt time apply s events (key r.2), r.2) := by
  induction l generalizing s events with
  | nil => rfl
  | cons a l ih =>
    obtain ⟨ha, hl'⟩ := List.pairwise_cons.mp hl
    unfold replay firstHit
    rw [takeWhile_eq_filter he (key a)]
    show (if hit (stateAt time apply s events (key a)) a = true then _ else _) = _
    split
    · rfl
    · rw [Option.map_map, ih (he.sublist (List.dropWhile_sublist _)) hl']
      have hstate : ∀ b ∈ l, stateAt time apply (stateAt time apply s events (key a))
          (events.dropWhile fun e => time e ≤ key a) (key b) =
            stateAt time apply s events (key b) :=
        fun b hb => stateAt_dropWhile he s (ha b hb).le
      show (firstHit (fun b => hit (stateAt time apply (stateAt time apply s events (key a))
        _ (key b)) b)
        l).map _ = _
      rw [firstHit_congr fun b hb => by rw [hstate b hb]]
      cases hf : firstHit (fun b => hit (stateAt time apply s events (key b)) b) l with
      | none => rfl
      | some r =>
        obtain ⟨i, b⟩ := r
        obtain ⟨hb, -⟩ := firstHit_timed hl' hf
        show some (stateAt time apply (stateAt time apply s events (key a)) _ (key b), b) = _
        rw [hstate b hb]
        rfl

/-- Events that commute may be recorded in any order. -/
theorem stateAt_perm [RightCommutative apply] (s : σ) {events events' : List ε}
    (h : events.Perm events') (T : κ) :
    stateAt time apply s events T = stateAt time apply s events' T :=
  (h.filter _).foldl_eq s

/-- Where an event keeps `R` on both sides and moves the right side further, fewer events on the
    left leave `R` in place. -/
theorem foldl_sublist_related {R : σ → σ → Prop}
    (hmono : ∀ s s' e, R s s' → R (apply s e) (apply s' e))
    (hinfl : ∀ s s' e, R s s' → R s (apply s' e)) {fewer events : List ε}
    (hsub : fewer.Sublist events) {s s' : σ} (h : R s s') :
    R (fewer.foldl apply s) (events.foldl apply s') := by
  induction hsub generalizing s s' with
  | slnil => exact h
  | cons e _ ih => exact ih (hinfl s s' e h)
  | cons_cons e _ ih => exact ih (hmono s s' e h)

end Replay

/-! ## 4. Lifetimes -/

section Lifetimes

variable [LinearOrder κ] (start finish : α → κ)

/-- An element lives from its start on and before its finish. -/
def LivesAt (t : κ) (a : α) : Prop := start a ≤ t ∧ t < finish a

instance (t : κ) : DecidablePred (LivesAt start finish t) :=
  fun _ => inferInstanceAs (Decidable (_ ∧ _))

/-- Neither of two elements lives when the other one starts. -/
def Apart (a b : α) : Prop := ¬ LivesAt start finish (start a) b ∧
    ¬ LivesAt start finish (start b) a

instance (a b : α) : Decidable (Apart start finish a b) := inferInstanceAs (Decidable (_ ∧ _))

/-- The elements that live at a time. -/
def livingAt (l : List α) (t : κ) : List α := l.filter fun a => LivesAt start finish t a

variable {start finish}

theorem mem_livingAt {l : List α} {t : κ} {a : α} :
    a ∈ livingAt start finish l t ↔ a ∈ l ∧ LivesAt start finish t a := by
  unfold livingAt
  rw [List.mem_filter, decide_eq_true_eq]

/-- Two elements that live at one time are not apart: the later start falls into the other life. -/
theorem not_apart {t : κ} {a b : α} (ha : LivesAt start finish t a)
    (hb : LivesAt start finish t b) :
    ¬ Apart start finish a b := by
  intro ⟨h1, h2⟩
  rcases le_total (start a) (start b) with h | h
  · exact h2 ⟨h, hb.1.trans_lt ha.2⟩
  · exact h1 ⟨h, ha.1.trans_lt hb.2⟩

/-- Of elements that are apart at most one lives at a time. -/
theorem livingAt_of_apart {l : List α} (h : l.Pairwise (Apart start finish)) {t : κ} {a : α}
    (ha : a ∈ livingAt start finish l t) : livingAt start finish l t = [a] := by
  have hpair : (livingAt start finish l t).Pairwise (Apart start finish) := h.filter _
  have hlives : ∀ b ∈ livingAt start finish l t, LivesAt start finish t b :=
    fun b hb => (mem_livingAt.mp hb).2
  generalize livingAt start finish l t = living at ha hpair hlives ⊢
  match living, ha, hpair, hlives with
  | [b], ha, _, _ => rw [List.mem_singleton.mp ha]
  | b :: c :: rest, _, hpair, hlives =>
    obtain ⟨hb, _⟩ := List.pairwise_cons.mp hpair
    exact absurd (hb c (by simp)) (not_apart (hlives b (by simp)) (hlives c (by simp)))

/-- Elements are apart exactly where none of the others lives when one of them starts. -/
theorem pairwise_apart_iff {l : List α} :
    l.Pairwise (Apart start finish) ↔
      ∀ earlier a later, l = earlier ++ a :: later →
        livingAt start finish (earlier ++ later) (start a) = [] := by
  constructor
  · intro h earlier a later hl
    rw [hl, List.pairwise_append, List.pairwise_cons] at h
    obtain ⟨_, ⟨hlater, _⟩, hearlier⟩ := h
    refine List.filter_eq_nil_iff.mpr fun b hb => ?_
    rw [decide_eq_true_eq]
    rcases List.mem_append.mp hb with hb | hb
    · exact (hearlier b hb a (by simp)).2
    · exact (hlater b hb).1
  · intro h
    induction l with
    | nil => exact List.Pairwise.nil
    | cons a l ih =>
      have hnone : ∀ {others : List α} {t : κ}, livingAt start finish others t = [] →
          ∀ b ∈ others, ¬ LivesAt start finish t b := fun hnil b hb hlives =>
        List.not_mem_nil (hnil ▸ mem_livingAt.mpr ⟨hb, hlives⟩)
      refine List.pairwise_cons.mpr ⟨fun b hb => ?_, ih fun earlier c later hl => ?_⟩
      · obtain ⟨earlier, later, hl⟩ := List.append_of_mem hb
        have hfirst := hnone (h [] a l rfl)
        have hsecond := hnone (h (a :: earlier) b later (by rw [hl, List.cons_append]))
        exact ⟨hfirst b hb, hsecond a (by simp)⟩
      · refine List.filter_eq_nil_iff.mpr fun b hb => ?_
        rw [decide_eq_true_eq]
        exact hnone (h (a :: earlier) c later (by rw [hl, List.cons_append])) b
          (List.mem_cons_of_mem a hb)

end Lifetimes

end AlphaForge.Lib
