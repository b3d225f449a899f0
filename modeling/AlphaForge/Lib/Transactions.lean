/-
  File:      AlphaForge/Lib/Transactions.lean
  Subject:   Database operations as statement programs, and many of them under a single-writer
             lock. No program fact.

  * `Prog` -- an operation as the tree of its statements: a read goes on with what it saw, a
    write changes the state; `run` executes it alone, an error leaves no state behind (the
    caller rolls back).
  * `Step` -- statement-level interleaving of any number of clients: a statement before a
    client's first write sees the latest committed state; the first write takes the lock, from
    then on the client works on its own copy until it commits or rolls back.
  * `serializable` -- if every client's first statement is a write, every reachable state is the
    one a serial execution of the committed clients ends in, with the same answers.
-/
import Mathlib.Logic.Relation
import Mathlib.Logic.Function.Basic
import Mathlib.Data.List.Nodup

namespace AlphaForge.Lib

/-! ## 1. Programs -/

/-- A database operation: the tree of its statements over states `S`. -/
inductive Prog (S E α : Type) where
  | done (a : α)
  | raise (e : E)
  | read (next : S → Prog S E α)
  | write (effect : S → S) (next : S → Prog S E α)

namespace Prog

variable {S E α β : Type}

/-- The statements of `p`, then those of what it answers. -/
def bind : Prog S E α → (α → Prog S E β) → Prog S E β
  | done a, f => f a
  | raise e, _ => raise e
  | read next, f => read fun s => (next s).bind f
  | write eff next, f => write eff fun s => (next s).bind f

instance : Monad (Prog S E) where
  pure := done
  bind := bind

/-- A SELECT. -/
def query (q : S → β) : Prog S E β := read fun s => done (q s)

/-- An UPDATE or INSERT that cannot fail. -/
def update (f : S → S) : Prog S E Unit := write f fun _ => done ()

/-- An UPDATE that answers how many rows it matched in the state before it. -/
def updateCount (f : S → S) (count : S → ℕ) : Prog S E ℕ := write f fun s => done (count s)

/-- A write that a constraint may refuse: it changes nothing then, and raises. -/
def attempt (f : S → Except E S) : Prog S E Unit :=
  write (fun s => (f s).toOption.getD s) fun s =>
    match f s with
    | .ok _ => done ()
    | .error e => raise e

/-- Computation without a statement. -/
def lift : Except E β → Prog S E β
  | .ok b => done b
  | .error e => raise e

/-- The operation alone: its answer and the new state, or the error it raises. -/
def run : Prog S E α → S → Except E (α × S)
  | done a, s => .ok (a, s)
  | raise e, _ => .error e
  | read next, s => (next s).run s
  | write eff next, s => (next s).run (eff s)

/-- What `run` leaves behind when the caller rolls a raised error back. -/
def after (p : Prog S E α) (s : S) : S :=
  match p.run s with
  | .ok (_, s') => s'
  | .error _ => s

@[simp] theorem run_pure (a : α) (s : S) : (pure a : Prog S E α).run s = .ok (a, s) := rfl

@[simp] theorem run_raise (e : E) (s : S) : (raise e : Prog S E α).run s = .error e := rfl

@[simp] theorem run_bind (p : Prog S E α) (f : α → Prog S E β) (s : S) :
    (p >>= f).run s = (p.run s).bind fun r => (f r.1).run r.2 := by
  show (p.bind f).run s = _
  induction p generalizing s with
  | done a => rfl
  | raise e => rfl
  | read next ih => exact ih s s
  | write eff next ih => exact ih s (eff s)

theorem run_map (f : α → β) (p : Prog S E α) (s : S) :
    (f <$> p).run s = (p.run s).map fun r => (f r.1, r.2) := by
  show (p >>= fun a => pure (f a)).run s = _
  rw [run_bind]
  cases p.run s <;> rfl

@[simp] theorem run_query (q : S → β) (s : S) : (query q : Prog S E β).run s = .ok (q s, s) := rfl

@[simp] theorem run_update (f : S → S) (s : S) :
    (update f : Prog S E Unit).run s = .ok ((), f s) := rfl

@[simp] theorem run_updateCount (f : S → S) (n : S → ℕ) (s : S) :
    (updateCount f n : Prog S E ℕ).run s = .ok (n s, f s) := rfl

theorem run_attempt (f : S → Except E S) (s : S) :
    (attempt f : Prog S E Unit).run s = (f s).map fun s' => ((), s') := by
  show Prog.run (match f s with | .ok _ => done () | .error e => raise e)
    ((f s).toOption.getD s) = _
  cases f s <;> rfl

@[simp] theorem run_lift (x : Except E β) (s : S) :
    (lift x : Prog S E β).run s = x.map fun b => (b, s) := by
  cases x <;> rfl

/-- A sequence that ends well has a first half that ends well. -/
theorem run_bind_ok {p : Prog S E α} {f : α → Prog S E β} {s s' : S} {b : β}
    (h : (p >>= f).run s = .ok (b, s')) :
    ∃ a s₁, p.run s = .ok (a, s₁) ∧ (f a).run s₁ = .ok (b, s') := by
  rw [run_bind] at h
  cases hp : p.run s with
  | error e => rw [hp] at h; cases h
  | ok r => rw [hp] at h; exact ⟨r.1, r.2, rfl, h⟩

/-- What follows a read runs on the state it read. -/
theorem run_query_bind {q : S → β} {f : β → Prog S E α} {s : S} {r : α × S}
    (h : (query q >>= f).run s = .ok r) : (f (q s)).run s = .ok r := h

/-- What follows a write runs on the new state. -/
theorem run_update_bind {g : S → S} {f : Unit → Prog S E α} {s : S} {r : α × S}
    (h : (update g >>= f).run s = .ok r) : (f ()).run (g s) = .ok r := h

/-- A computation between two statements succeeded, and the rest ran. -/
theorem run_lift_bind {x : Except E β} {f : β → Prog S E α} {s : S} {r : α × S}
    (h : (lift x >>= f).run s = .ok r) : ∃ b, x = .ok b ∧ (f b).run s = .ok r := by
  cases x with
  | error e => cases h
  | ok b => exact ⟨b, rfl, h⟩

theorem run_of_isOk {p : Prog S E α} {s : S} (h : (p.run s).isOk = true) :
    ∃ a, p.run s = .ok (a, p.after s) := by
  unfold after
  cases hr : p.run s with
  | error e => rw [hr] at h; cases h
  | ok r => exact ⟨r.1, rfl⟩

theorem after_ok {p : Prog S E α} {s s' : S} {a : α} (h : p.run s = .ok (a, s')) :
    p.after s = s' := by
  unfold after; rw [h]

theorem after_error {p : Prog S E α} {s : S} {e : E} (h : p.run s = .error e) :
    p.after s = s := by
  unfold after; rw [h]

/-- The first statement, if there is one, is a write. -/
def WriteFirst : Prog S E α → Prop
  | read _ => False
  | _ => True

end Prog

/-! ## 2. Clients under a single-writer lock -/

/-- Where one client stands. -/
inductive Client (S E α : Type) where
  /-- Nothing written yet: reads see the latest committed state. -/
  | waiting (p : Prog S E α)
  /-- The lock is held, `work` is the uncommitted copy. -/
  | holding (work : S) (p : Prog S E α)
  | finished (r : Except E α)

/-- The committed state and every client. -/
structure Machine (ι S E α : Type) where
  committed : S
  client : ι → Client S E α

section Lock

variable {ι S E α : Type} [DecidableEq ι]

/-- Client `i` now stands at `c`. -/
def Machine.set (m : Machine ι S E α) (i : ι) (c : Client S E α) : Machine ι S E α :=
  { m with client := Function.update m.client i c }

/-- Nobody is between its first write and its commit. -/
def Machine.Free (m : Machine ι S E α) : Prop := ∀ j w p, m.client j ≠ .holding w p

/-- One statement, commit or rollback of one client. -/
inductive Step : Machine ι S E α → Machine ι S E α → Prop
  | read (m : Machine ι S E α) (i : ι) (next : S → Prog S E α)
      (h : m.client i = .waiting (.read next)) : Step m (m.set i (.waiting (next m.committed)))
  | lock (m : Machine ι S E α) (i : ι) (eff : S → S) (next : S → Prog S E α)
      (h : m.client i = .waiting (.write eff next)) (free : m.Free) :
      Step m (m.set i (.holding (eff m.committed) (next m.committed)))
  | ownRead (m : Machine ι S E α) (i : ι) (w : S) (next : S → Prog S E α)
      (h : m.client i = .holding w (.read next)) : Step m (m.set i (.holding w (next w)))
  | ownWrite (m : Machine ι S E α) (i : ι) (w : S) (eff : S → S) (next : S → Prog S E α)
      (h : m.client i = .holding w (.write eff next)) :
      Step m (m.set i (.holding (eff w) (next w)))
  | commit (m : Machine ι S E α) (i : ι) (w : S) (a : α)
      (h : m.client i = .holding w (.done a)) :
      Step m { m.set i (.finished (.ok a)) with committed := w }
  | answer (m : Machine ι S E α) (i : ι) (a : α) (h : m.client i = .waiting (.done a)) :
      Step m (m.set i (.finished (.ok a)))
  /-- A raised error, a lock that stays busy, a crash: the work so far is rolled back. -/
  | rollback (m : Machine ι S E α) (i : ι) (e : E) (h : ∀ r, m.client i ≠ .finished r) :
      Step m (m.set i (.finished (.error e)))

/-- All clients before their first statement. -/
def Machine.start (s : S) (prog : ι → Prog S E α) : Machine ι S E α :=
  ⟨s, fun i => .waiting (prog i)⟩

/-- The operations of the log ran one after the other, each to its end, with these answers. -/
inductive SerialRun (prog : ι → Prog S E α) (s₀ : S) : List (ι × α) → S → Prop
  | nil : SerialRun prog s₀ [] s₀
  | snoc {log : List (ι × α)} {s s' : S} {i : ι} {a : α} (h : SerialRun prog s₀ log s)
      (hr : (prog i).run s = .ok (a, s')) : SerialRun prog s₀ (log ++ [(i, a)]) s'

/-! ## 3. The invariant -/

/-- What a client's position says, given the log of the committed operations. -/
def Client.Fits (prog : ι → Prog S E α) (log : List (ι × α)) (s : S) (i : ι) :
    Client S E α → Prop
  | .waiting p => p = prog i ∧ i ∉ log.map Prod.fst
  | .holding w p => p.run w = (prog i).run s ∧ i ∉ log.map Prod.fst
  | .finished (.ok a) => (i, a) ∈ log
  | .finished (.error _) => i ∉ log.map Prod.fst

/-- The committed state is a serial one, every client fits it, at most one holds the lock. -/
structure Serial (prog : ι → Prog S E α) (s₀ : S) (m : Machine ι S E α)
    (log : List (ι × α)) : Prop where
  run : SerialRun prog s₀ log m.committed
  once : (log.map Prod.fst).Nodup
  fits : ∀ i, (m.client i).Fits prog log m.committed i
  single : ∀ i j w v p q, m.client i = .holding w p → m.client j = .holding v q → i = j

theorem set_client_self (m : Machine ι S E α) (i : ι) (c : Client S E α) :
    (m.set i c).client i = c := Function.update_self ..

theorem set_client_ne (m : Machine ι S E α) {i j : ι} (c : Client S E α) (h : j ≠ i) :
    (m.set i c).client j = m.client j := Function.update_of_ne h ..

variable {prog : ι → Prog S E α} {s₀ : S} {m : Machine ι S E α} {log : List (ι × α)}

/-- A step that commits nothing keeps the invariant if the moved client fits and a new holder
    is the only one. -/
theorem serial_set (h : Serial prog s₀ m log) (i : ι) (c : Client S E α)
    (hc : c.Fits prog log m.committed i)
    (hh : ∀ w p, c = .holding w p → ∀ j v q, j ≠ i → m.client j ≠ .holding v q) :
    Serial prog s₀ (m.set i c) log where
  run := h.run
  once := h.once
  fits j := by
    by_cases e : j = i
    · subst e; rw [set_client_self]; exact hc
    · rw [set_client_ne m c e]; exact h.fits j
  single j k w v p q hj hk := by
    by_cases ej : j = i
    · by_cases ek : k = i
      · rw [ej, ek]
      · subst ej
        rw [set_client_self] at hj
        rw [set_client_ne m c ek] at hk
        exact absurd hk (hh w p hj k v q ek)
    · rw [set_client_ne m c ej] at hj
      by_cases ek : k = i
      · subst ek
        rw [set_client_self] at hk
        exact absurd hj (hh v q hk j w p ej)
      · rw [set_client_ne m c ek] at hk
        exact h.single j k w v p q hj hk

omit [DecidableEq ι] in
theorem serial_start (prog : ι → Prog S E α) (s₀ : S) :
    Serial prog s₀ (Machine.start s₀ prog) [] where
  run := .nil
  once := List.nodup_nil
  fits _ := ⟨rfl, List.not_mem_nil⟩
  single _ _ _ _ _ _ hi := by cases hi

/-- Finishing appends the operation to the log. A new committed state concerns no other client:
    whoever holds the lock works on a copy of the old one. -/
theorem serial_finish (h : Serial prog s₀ m log) {i : ι} {w : S} {a : α}
    (hrun : (prog i).run m.committed = .ok (a, w)) (hnew : i ∉ log.map Prod.fst)
    (hw : ∀ j v q, j ≠ i → m.client j = .holding v q → w = m.committed) :
    Serial prog s₀ { m.set i (.finished (.ok a)) with committed := w } (log ++ [(i, a)]) := by
  refine ⟨.snoc h.run hrun, ?_, ?_, ?_⟩
  · rw [List.map_append]
    exact h.once.append (List.nodup_singleton i) (by simpa using hnew)
  · intro j
    show ((m.set i (.finished (.ok a))).client j).Fits prog (log ++ [(i, a)]) w j
    by_cases e : j = i
    · subst e
      rw [set_client_self]
      exact List.mem_append_right _ (List.mem_singleton_self _)
    · rw [set_client_ne m _ e]
      have hj := h.fits j
      have hnot : j ∉ log.map Prod.fst → j ∉ (log ++ [(i, a)]).map Prod.fst := by
        simp [e]
      cases hc : m.client j with
      | waiting p => rw [hc] at hj; exact ⟨hj.1, hnot hj.2⟩
      | holding v q => rw [hc] at hj; rw [hw j v q e hc]; exact ⟨hj.1, hnot hj.2⟩
      | finished r =>
        rw [hc] at hj
        cases r with
        | error x => exact hnot hj
        | ok b => exact List.mem_append_left _ hj
  · intro j k v u p q hj hk
    change (m.set i (.finished (.ok a))).client j = _ at hj
    change (m.set i (.finished (.ok a))).client k = _ at hk
    have ej : j ≠ i := by rintro rfl; rw [set_client_self] at hj; cases hj
    have ek : k ≠ i := by rintro rfl; rw [set_client_self] at hk; cases hk
    rw [set_client_ne m _ ej] at hj
    rw [set_client_ne m _ ek] at hk
    exact h.single j k v u p q hj hk

/-- **One statement of one client keeps the invariant.** -/
theorem serial_step (hw : ∀ i, (prog i).WriteFirst) (h : Serial prog s₀ m log)
    {m' : Machine ι S E α} (hs : Step m m') : ∃ log', Serial prog s₀ m' log' := by
  cases hs with
  | read i next hi =>
    -- a program that starts with a write never stands before a read without the lock
    have hf := h.fits i
    rw [hi] at hf
    have := hw i
    rw [← hf.1] at this
    exact absurd this id
  | lock i eff next hi free =>
    have hf := h.fits i
    rw [hi] at hf
    refine ⟨log, serial_set h i _ ⟨?_, hf.2⟩ fun _ _ _ j v q _ => free j v q⟩
    rw [← hf.1]
    rfl
  | ownRead i w next hi =>
    have hf := h.fits i
    rw [hi] at hf
    exact ⟨log, serial_set h i _ ⟨hf.1, hf.2⟩ fun _ _ _ j v q e hj =>
      e (h.single j i v w q _ hj hi)⟩
  | ownWrite i w eff next hi =>
    have hf := h.fits i
    rw [hi] at hf
    exact ⟨log, serial_set h i _ ⟨hf.1, hf.2⟩ fun _ _ _ j v q e hj =>
      e (h.single j i v w q _ hj hi)⟩
  | commit i w a hi =>
    have hf := h.fits i
    rw [hi] at hf
    exact ⟨_, serial_finish h hf.1.symm hf.2 fun j v q e hj => absurd
      (h.single j i v w q _ hj hi) e⟩
  | answer i a hi =>
    have hf := h.fits i
    rw [hi] at hf
    have hrun : (prog i).run m.committed = .ok (a, m.committed) := by rw [← hf.1]; rfl
    exact ⟨_, serial_finish h hrun hf.2 fun _ _ _ _ _ => rfl⟩
  | rollback i e hi =>
    have hf := h.fits i
    refine ⟨log, serial_set h i _ ?_ fun _ _ e => by cases e⟩
    cases hc : m.client i with
    | waiting p => rw [hc] at hf; exact hf.2
    | holding w p => rw [hc] at hf; exact hf.2
    | finished r => exact absurd hc (hi r)

/-- **Single-writer serializability.** Every reachable state is serial. -/
theorem serializable (hw : ∀ i, (prog i).WriteFirst)
    (h : Relation.ReflTransGen Step (Machine.start s₀ prog) m) : ∃ log, Serial prog s₀ m log := by
  induction h with
  | refl => exact ⟨[], serial_start prog s₀⟩
  | tail _ hs ih =>
    obtain ⟨log, hlog⟩ := ih
    exact serial_step hw hlog hs

/-! ## 4. Serial executions are possible -/

/-- The lock holder can run to its end. -/
theorem run_holding (p : Prog S E α) {m : Machine ι S E α} {i : ι} {w s : S} {a : α}
    (hi : m.client i = .holding w p) (hr : p.run w = .ok (a, s)) :
    Relation.ReflTransGen Step m { m.set i (.finished (.ok a)) with committed := s } := by
  induction p generalizing m w with
  | done b =>
    cases hr
    exact .single (.commit m i s a hi)
  | raise e => cases hr
  | read next ih =>
    have h := ih w (m := m.set i (.holding w (next w))) (set_client_self ..) hr
    simp only [Machine.set, Function.update_idem] at h ⊢
    exact .head (.ownRead m i w next hi) h
  | write eff next ih =>
    have h := ih w (m := m.set i (.holding (eff w) (next w))) (set_client_self ..) hr
    simp only [Machine.set, Function.update_idem] at h ⊢
    exact .head (.ownWrite m i w eff next hi) h

/-- While nobody holds the lock a waiting client can run to its end. -/
theorem run_waiting (p : Prog S E α) {m : Machine ι S E α} {i : ι} {s : S} {a : α}
    (hfree : m.Free) (hi : m.client i = .waiting p) (hr : p.run m.committed = .ok (a, s)) :
    Relation.ReflTransGen Step m { m.set i (.finished (.ok a)) with committed := s } := by
  induction p generalizing m with
  | done b =>
    cases hr
    exact .single (.answer m i a hi)
  | raise e => cases hr
  | read next ih =>
    have hfree' : (m.set i (.waiting (next m.committed))).Free := by
      intro j w q hj
      by_cases e : j = i
      · subst e
        rw [set_client_self] at hj
        cases hj
      · rw [set_client_ne m _ e] at hj
        exact hfree j w q hj
    have h := ih m.committed hfree' (set_client_self ..) hr
    simp only [Machine.set, Function.update_idem] at h ⊢
    exact .head (.read m i next hi) h
  | write eff next =>
    have h := run_holding (next m.committed)
      (m := m.set i (.holding (eff m.committed) (next m.committed))) (set_client_self ..) hr
    simp only [Machine.set, Function.update_idem] at h ⊢
    exact .head (.lock m i eff next hi hfree) h

end Lock

/-! ## 5. Two clients -/

/-- Two clients can run one after the other. -/
theorem run_both {S E α : Type} {prog : Bool → Prog S E α} {s₀ s₁ s₂ : S} {a b : α}
    (h₁ : (prog false).run s₀ = .ok (a, s₁)) (h₂ : (prog true).run s₁ = .ok (b, s₂)) :
    Relation.ReflTransGen Step (Machine.start s₀ prog)
      ⟨s₂, fun i => .finished (.ok (if i then b else a))⟩ := by
  have hfree : (Machine.start s₀ prog).Free := fun _ _ _ h => by cases h
  have hfirst := run_waiting (prog false) hfree rfl h₁
  refine hfirst.trans ?_
  have hfree' : ({ (Machine.start s₀ prog).set false (.finished (.ok a)) with committed := s₁ } :
      Machine Bool S E α).Free := by
    intro j w q hj
    cases j <;> cases hj
  have hsecond := run_waiting (prog true) (i := true) hfree' rfl h₂
  have hend : ({ ({ (Machine.start s₀ prog).set false (.finished (.ok a)) with
      committed := s₁ } : Machine Bool S E α).set true (.finished (.ok b)) with
      committed := s₂ } : Machine Bool S E α) =
      ⟨s₂, fun i => .finished (.ok (if i then b else a))⟩ := by
    refine congrArg (Machine.mk s₂) (funext fun i => ?_)
    cases i <;> rfl
  rw [hend] at hsecond
  exact hsecond

/-- **Two clients that both succeed ran one after the other**, in some order, and got the answers
    of that serial run. -/
theorem serializable_two {S E α : Type} {prog : Bool → Prog S E α} {s₀ : S} {m : Machine Bool S E α}
    (hw : ∀ i, (prog i).WriteFirst) (h : Relation.ReflTransGen Step (Machine.start s₀ prog) m)
    {ans : Bool → α} (hok : ∀ i, m.client i = .finished (.ok (ans i))) :
    ∃ i s₁, (prog i).run s₀ = .ok (ans i, s₁) ∧
      (prog !i).run s₁ = .ok (ans !i, m.committed) := by
  obtain ⟨log, hlog⟩ := serializable hw h
  have hmem : ∀ i, (i, ans i) ∈ log := fun i => by
    have := hlog.fits i
    rwa [hok i] at this
  have hrun := hlog.run
  have honce := hlog.once
  generalize m.committed = s at hrun
  cases hrun with
  | nil => cases hmem true
  | snoc h₁ hr₁ =>
    rename_i log₁ s₁ j b
    cases h₁ with
    | nil =>
      have h0 := List.mem_singleton.mp (hmem true)
      have h1 := List.mem_singleton.mp (hmem false)
      rw [← h1] at h0
      cases h0
    | snoc h₀ hr₀ =>
      rename_i log₀ s₂ i a
      have hij : j = !i := by
        rw [Bool.eq_not]
        rintro rfl
        simp [List.nodup_append] at honce
      subst hij
      have hans : ∀ k c, (k, c) ∈ log₀ ++ [(i, a)] ++ [(!i, b)] → c = ans k := by
        intro k c hc
        have := List.inj_on_of_nodup_map honce hc (hmem k) rfl
        exact congrArg Prod.snd this
      cases h₀ with
      | nil =>
        rw [hans i a (by simp)] at hr₀
        rw [hans (!i) b (by simp)] at hr₁
        exact ⟨i, _, hr₀, hr₁⟩
      | snoc _ _ =>
        rename_i k _ _ _
        -- three entries would name one of the two clients twice
        cases k <;> cases i <;> simp [List.nodup_append] at honce

end AlphaForge.Lib
