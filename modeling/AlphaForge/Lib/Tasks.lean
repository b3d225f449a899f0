/-
  File:      AlphaForge/Lib/Tasks.lean
  Subject:   Programs that call a world which may refuse, and may be stopped between two calls.
             No program fact.

  * `Task` -- an answer, an exception, or a call with what follows its reply; `attempt` hands the
    exception over.
  * `Handler` -- what a call does to the world, given what the environment decides about it.
  * `Meets` -- a condition on the call and the world holds whenever the program is about to call,
    and another one of its outcome: what a stop between two calls leaves is covered.
  * `meets_bind`, `meets_seq`, `meets_try`, `meets_invoke` -- a rule for each way to build programs;
    **`meets_advance`** carries them over a call of a running program.
  * `Only` -- every call a program can make is of one kind; **`meets_of_only`** -- what all calls of
    a kind preserve, a program of only such calls preserves.
-/
import Mathlib.Tactic.Common

namespace AlphaForge.Lib

/-! ## 1. Programs -/

/-- A program over the calls `Op`; a call is answered or raises. -/
inductive Task (Op : Type) (Reply : Op → Type) (ε α : Type) where
  | done (a : α)
  | raise (e : ε)
  | call (op : Op) (next : Except ε (Reply op) → Task Op Reply ε α)

namespace Task

variable {Op : Type} {Reply : Op → Type} {ε α β : Type}

/-- The calls of `t`, then those of what it answers. -/
def bind : Task Op Reply ε α → (α → Task Op Reply ε β) → Task Op Reply ε β
  | done a, f => f a
  | raise e, _ => raise e
  | call op next, f => call op fun r => (next r).bind f

instance : Monad (Task Op Reply ε) where
  pure := done
  bind := bind

/-- A call whose exception is not caught. -/
def invoke (op : Op) : Task Op Reply ε (Reply op) :=
  call op fun r =>
    match r with
    | .ok a => done a
    | .error e => raise e

/-- Computation without a call. -/
def lift : Except ε α → Task Op Reply ε α
  | .ok a => done a
  | .error e => raise e

/-- `try: t; except …`: the outcome of `t`, handed over. -/
def attempt : Task Op Reply ε α → Task Op Reply ε (Except ε α)
  | done a => done (.ok a)
  | raise e => done (.error e)
  | call op next => call op fun r => (next r).attempt

end Task

/-! ## 2. The world -/

/-- What a call does to a state, given what the environment decides. -/
abbrev Handler (Op : Type) (Reply : Op → Type) (ε S ω : Type) :=
  (op : Op) → ω → S → Except ε (Reply op) × S

variable {Op : Type} {Reply : Op → Type} {ε S ω α β : Type}

/-- A running program makes its next call. -/
def advance (handle : Handler Op Reply ε S ω) (w : ω) :
    Task Op Reply ε α × S → Task Op Reply ε α × S
  | (.call op next, s) => (next (handle op w s).1, (handle op w s).2)
  | (t, s) => (t, s)

/-! ## 3. Conditions on a running program -/

variable (handle : Handler Op Reply ε S ω) (C : Op → S → ω → Prop) (I : Op → S → Prop)

/-- As long as the environment decides within `C`: `I` holds before every call of the program, and
    `Q` of its outcome. -/
def Meets (Q : Except ε α → S → Prop) : Task Op Reply ε α → S → Prop
  | .done a, s => Q (.ok a) s
  | .raise e, s => Q (.error e) s
  | .call op next, s =>
    I op s ∧ ∀ w, C op s w → Meets Q (next (handle op w s).1) (handle op w s).2

variable {handle C I} {Q R : Except ε α → S → Prop}

theorem meets_pure {a : α} {s : S} (h : Q (.ok a) s) :
    Meets handle C I Q (pure a : Task Op Reply ε α) s := h

theorem meets_raise {e : ε} {s : S} (h : Q (.error e) s) :
    Meets handle C I Q (.raise e : Task Op Reply ε α) s := h

theorem meets_mono (hQ : ∀ r s, Q r s → R r s) (t : Task Op Reply ε α) (s : S)
    (h : Meets handle C I Q t s) : Meets handle C I R t s := by
  induction t generalizing s with
  | done a => exact hQ _ s h
  | raise e => exact hQ _ s h
  | call op next ih => exact ⟨h.1, fun w hw => ih _ _ (h.2 w hw)⟩

/-- What a sequence does after the first part: it goes on, or has raised. -/
def After (handle : Handler Op Reply ε S ω) (C : Op → S → ω → Prop) (I : Op → S → Prop)
    (Q : Except ε β → S → Prop) (f : α → Task Op Reply ε β) : Except ε α → S → Prop
  | .ok a, s => Meets handle C I Q (f a) s
  | .error e, s => Q (.error e) s

theorem meets_bind {Q : Except ε β → S → Prop} {f : α → Task Op Reply ε β}
    (t : Task Op Reply ε α) (s : S) (h : Meets handle C I (After handle C I Q f) t s) :
    Meets handle C I Q (t >>= f) s := by
  show Meets handle C I Q (t.bind f) s
  induction t generalizing s with
  | done a => exact h
  | raise e => exact h
  | call op next ih => exact ⟨h.1, fun w hw => ih _ _ (h.2 w hw)⟩

theorem meets_attempt {Q : Except ε (Except ε α) → S → Prop} (t : Task Op Reply ε α) (s : S)
    (h : Meets handle C I (fun r s => Q (.ok r) s) t s) : Meets handle C I Q t.attempt s := by
  induction t generalizing s with
  | done a => exact h
  | raise e => exact h
  | call op next ih => exact ⟨h.1, fun w hw => ih _ _ (h.2 w hw)⟩

/-- `try`: the program goes on with the outcome of the first part. -/
theorem meets_try {Q : Except ε β → S → Prop} {f : Except ε α → Task Op Reply ε β}
    {t : Task Op Reply ε α} {s : S} (h : Meets handle C I
    (fun r s => Meets handle C I Q (f r) s) t s) :
    Meets handle C I Q (t.attempt >>= f) s :=
  meets_bind _ _ (meets_attempt _ _ h)

/-- A sequence, from what is known of the first part. -/
theorem meets_seq {Q : Except ε β → S → Prop} {f : α → Task Op Reply ε β}
    {t : Task Op Reply ε α} {s : S} (h : Meets handle C I R t s)
    (hok : ∀ a s, R (.ok a) s → Meets handle C I Q (f a) s)
    (herror : ∀ e s, R (.error e) s → Q (.error e) s) : Meets handle C I Q (t >>= f) s := by
  refine meets_bind _ _ (meets_mono ?_ _ _ h)
  intro r s hr
  cases r with
  | ok a => exact hok a s hr
  | error e => exact herror e s hr

theorem meets_lift {x : Except ε α} {s : S} (h : Q x s) :
    Meets handle C I Q (.lift x : Task Op Reply ε α) s := by
  cases x with
  | ok a => exact h
  | error e => exact h

/-- A call: every decision within `C` leaves the outcome the program goes on with. -/
theorem meets_invoke {op : Op} {Q : Except ε (Reply op) → S → Prop} {s : S}
    (hI : I op s)
    (h : ∀ w, C op s w → Q (handle op w s).1 (handle op w s).2) :
    Meets handle C I Q (.invoke op) s := by
  refine ⟨hI, fun w hw => ?_⟩
  have hq := h w hw
  cases hr : (handle op w s).1 with
  | ok a =>
    rw [hr] at hq
    exact hq
  | error e =>
    rw [hr] at hq
    exact hq

theorem meets_done_iff {a : α} {s : S} :
    Meets handle C I Q (.done a : Task Op Reply ε α) s ↔ Q (.ok a) s := Iff.rfl

theorem meets_raise_iff {e : ε} {s : S} :
    Meets handle C I Q (.raise e : Task Op Reply ε α) s ↔ Q (.error e) s := Iff.rfl

/-- A program that is about to call finds `I`. -/
theorem meets_stopped {op : Op} {next : Except ε (Reply op) → Task Op Reply ε α} {s : S}
    (h : Meets handle C I Q (.call op next) s) : I op s := h.1

/-- A running program that meets its conditions does so after its next call. -/
theorem meets_advance {t : Task Op Reply ε α} {s : S} {w : ω} (h : Meets handle C I Q t s)
    (hw : ∀ op next, t = .call op next → C op s w) :
    Meets handle C I Q (advance handle w (t, s)).1 (advance handle w (t, s)).2 := by
  cases t with
  | done a => exact h
  | raise e => exact h
  | call op next => exact h.2 w (hw op next rfl)

/-! ## 4. Programs of one kind of calls -/

/-- Every call the program can make is of the kind `K`. -/
def Only (K : Op → Prop) : Task Op Reply ε α → Prop
  | .done _ => True
  | .raise _ => True
  | .call op next => K op ∧ ∀ r, Only K (next r)

variable {K : Op → Prop}

theorem only_pure (a : α) : Only K (pure a : Task Op Reply ε α) := trivial

theorem only_raise (e : ε) : Only K (.raise e : Task Op Reply ε α) := trivial

theorem only_invoke {op : Op} (h : K op) : Only K (.invoke op : Task Op Reply ε (Reply op)) := by
  refine ⟨h, fun r => ?_⟩
  cases r with
  | ok a => trivial
  | error e => trivial

theorem only_lift (x : Except ε α) : Only K (.lift x : Task Op Reply ε α) := by
  cases x with
  | ok a => trivial
  | error e => trivial

theorem only_bind {t : Task Op Reply ε α} {f : α → Task Op Reply ε β} (ht : Only K t)
    (hf : ∀ a, Only K (f a)) : Only K (t >>= f) := by
  show Only K (t.bind f)
  induction t with
  | done a => exact hf a
  | raise e => trivial
  | call op next ih => exact ⟨ht.1, fun r => ih r (ht.2 r)⟩

theorem only_attempt {t : Task Op Reply ε α} (ht : Only K t) : Only K t.attempt := by
  induction t with
  | done a => trivial
  | raise e => trivial
  | call op next ih => exact ⟨ht.1, fun r => ih r (ht.2 r)⟩

theorem only_mono {K' : Op → Prop} (hK : ∀ op, K op → K' op) {t : Task Op Reply ε α}
    (ht : Only K t) : Only K' t := by
  induction t with
  | done a => trivial
  | raise e => trivial
  | call op next ih => exact ⟨hK op ht.1, fun r => ih r (ht.2 r)⟩

/-- What every call of a kind preserves, a program of only such calls preserves. -/
theorem meets_of_only {J : S → Prop} (hI : ∀ op s, K op → J s → I op s)
    (hstep : ∀ op w s, K op → J s → J (handle op w s).2) {t : Task Op Reply ε α} {s : S}
    (ht : Only K t) (h : J s) : Meets handle C I (fun _ s => J s) t s := by
  induction t generalizing s with
  | done a => exact h
  | raise e => exact h
  | call op next ih =>
    exact ⟨hI op s ht.1 h, fun w _ => ih _ (ht.2 _) (hstep op w s ht.1 h)⟩

-- Outside this module the rules are used, never the recursion.
attribute [irreducible] Meets Only

end AlphaForge.Lib
