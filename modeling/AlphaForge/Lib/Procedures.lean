/-
  File:      AlphaForge/Lib/Procedures.lean
  Subject:   Procedures with a state that survives their exceptions. No program fact.

  * `bind_ok_iff` -- a sequence succeeds where both parts do.
  * `observe` -- a procedure that hands over the exception of another instead of raising it.
  * `zoom` -- a procedure on a part of the state; the rest of the state stays.
  * `Within` -- a procedure adds at most so much to a cost, whether it succeeds or raises, with one
    rule for each way to build procedures.
  * `Ends` -- a procedure relates its states in one way where it returns and in another where it
    raises, with one rule for each way to build procedures.
-/
import Mathlib.Tactic.Common

namespace AlphaForge.Lib

variable {ε σ τ α β : Type}

/-! ## 1. Success -/

theorem bind_ok_iff {x : EStateM ε σ α} {f : α → EStateM ε σ β} {s t : σ} {b : β} :
    (x >>= f) s = .ok b t ↔ ∃ a u, x s = .ok a u ∧ f a u = .ok b t := by
  show EStateM.bind x f s = .ok b t ↔ _
  unfold EStateM.bind
  cases hx : x s with
  | ok a u =>
    constructor
    · exact fun h => ⟨a, u, rfl, h⟩
    · rintro ⟨a', u', h, hf⟩
      cases h
      exact hf
  | error e u =>
    constructor
    · intro h
      exact nomatch h
    · rintro ⟨a', u', h, -⟩
      exact nomatch h

/-- What a procedure leaves. -/
def final : EStateM.Result ε σ α → σ
  | .ok _ t => t
  | .error _ t => t

@[simp] theorem final_ok (a : α) (t : σ) : final (.ok a t : EStateM.Result ε σ α) = t := rfl

@[simp] theorem final_error (e : ε) (t : σ) :
    final (.error e t : EStateM.Result ε σ α) = t := rfl

/-- A procedure that hands over the exception of another. -/
def observe (m : EStateM ε σ α) : EStateM ε σ (Except ε α) := fun s =>
  match m s with
  | .ok a t => .ok (.ok a) t
  | .error e t => .ok (.error e) t

theorem observe_ok_iff {m : EStateM ε σ α} {s t : σ} {a : α} :
    observe m s = .ok (.ok a) t ↔ m s = .ok a t := by
  unfold observe
  cases m s with
  | ok b u => simp
  | error e u => simp

/-- The outcome of a computation without a state. -/
def returnOrRaise (x : Except ε α) : EStateM ε σ α :=
  match x with
  | .ok a => pure a
  | .error e => throw e

theorem returnOrRaise_ok_iff {x : Except ε α} {s t : σ} {a : α} :
    returnOrRaise x s = .ok a t ↔ x = .ok a ∧ s = t := by
  cases x with
  | ok b =>
    show EStateM.Result.ok b s = _ ↔ _
    simp
  | error e =>
    show EStateM.Result.error e s = _ ↔ _
    simp

/-! ## 2. Parts of a state -/

/-- A procedure on a part of the state. -/
def zoom (get : σ → τ) (set : τ → σ → σ) (m : EStateM ε τ α) : EStateM ε σ α := fun s =>
  match m (get s) with
  | .ok a t => .ok a (set t s)
  | .error e t => .error e (set t s)

theorem zoom_ok_iff {get : σ → τ} {set : τ → σ → σ} {m : EStateM ε τ α} {s u : σ} {a : α} :
    zoom get set m s = .ok a u ↔ ∃ t, m (get s) = .ok a t ∧ u = set t s := by
  unfold zoom
  cases m (get s) with
  | ok b t => simp [eq_comm, and_comm]
  | error e t => simp

/-! ## 3. Cost -/

/-- The procedure adds at most `n` to the cost. -/
def Within (cost : σ → ℕ) (n : ℕ) (m : EStateM ε σ α) : Prop :=
  ∀ s, cost (final (m s)) ≤ cost s + n

variable {cost : σ → ℕ} {a b n : ℕ}

theorem Within.mono {m : EStateM ε σ α} (h : Within cost a m) (hab : a ≤ b) : Within cost b m := by
  intro s
  have hs := h s
  omega

theorem within_pure (x : α) : Within cost 0 (pure x : EStateM ε σ α) := fun _ => Nat.le_refl _

theorem within_throw (e : ε) : Within cost 0 (throw e : EStateM ε σ α) := fun _ => Nat.le_refl _

theorem within_returnOrRaise (x : Except ε α) :
    Within cost 0 (returnOrRaise x : EStateM ε σ α) := by
  cases x with
  | ok a => exact within_pure a
  | error e => exact within_throw e

theorem within_get : Within cost 0 (get : EStateM ε σ σ) := fun _ => Nat.le_refl _

theorem within_modify {f : σ → σ} (h : ∀ s, cost (f s) ≤ cost s + n) :
    Within cost n (modify f : EStateM ε σ PUnit) := h

/-- The second part is needed only at what the first returns. -/
theorem within_bind_of_returns {m : EStateM ε σ α} {f : α → EStateM ε σ β} {P : α → Prop}
    (hm : Within cost a m) (hreturns : ∀ s x t, m s = .ok x t → P x)
    (hf : ∀ x, P x → Within cost b (f x)) : Within cost (a + b) (m >>= f) := by
  intro s
  have hs := hm s
  show cost (final (EStateM.bind m f s)) ≤ _
  unfold EStateM.bind
  cases h : m s with
  | ok x t =>
    rw [h] at hs
    have ht := hf x (hreturns s x t h) t
    rw [final_ok] at hs
    show cost (final (f x t)) ≤ _
    omega
  | error e t =>
    rw [h, final_error] at hs
    show cost t ≤ _
    omega

theorem within_bind {m : EStateM ε σ α} {f : α → EStateM ε σ β} (hm : Within cost a m)
    (hf : ∀ x, Within cost b (f x)) : Within cost (a + b) (m >>= f) :=
  within_bind_of_returns (P := fun _ => True) hm (fun _ _ _ _ => trivial) fun x _ => hf x

/-- A part without a cost in front. -/
theorem within_after {m : EStateM ε σ α} {f : α → EStateM ε σ β} (hm : Within cost 0 m)
    (hf : ∀ x, Within cost n (f x)) : Within cost n (m >>= f) :=
  (within_bind hm hf).mono (by omega)

theorem within_observe {m : EStateM ε σ α} (h : Within cost n m) : Within cost n (observe m) := by
  intro s
  have hs := h s
  unfold observe
  cases hm : m s with
  | ok x t => rwa [hm] at hs
  | error e t => rwa [hm] at hs

theorem within_zoom {get : σ → τ} {set : τ → σ → σ} {cost : τ → ℕ} {m : EStateM ε τ α}
    (hset : ∀ t s, get (set t s) = t) (h : Within cost n m) :
    Within (fun s => cost (get s)) n (zoom get set m) := by
  intro s
  have hs := h (get s)
  unfold zoom
  cases hm : m (get s) with
  | ok x t =>
    rw [hm] at hs
    simpa only [final, hset] using hs
  | error e t =>
    rw [hm] at hs
    simpa only [final, hset] using hs

/-! ## 4. How a procedure ends -/

/-- A result that returns relates the states by `Q`, one that raises by `R`. -/
def Ended (Q : σ → σ → Prop) (R : ε → σ → σ → Prop) (s : σ) : EStateM.Result ε σ α → Prop
  | .ok _ t => Q s t
  | .error e t => R e s t

/-- The procedure ends so from every state. -/
def Ends (Q : σ → σ → Prop) (R : ε → σ → σ → Prop) (m : EStateM ε σ α) : Prop :=
  ∀ s, Ended Q R s (m s)

/-- Two such relations that fit a sequence: what raises may come after what returns. -/
structure Composes (Q : σ → σ → Prop) (R : ε → σ → σ → Prop) : Prop where
  refl : ∀ s, Q s s
  raise : ∀ e s, R e s s
  trans : ∀ {s t u}, Q s t → Q t u → Q s u
  raised : ∀ {e s t u}, Q s t → R e t u → R e s u

variable {Q : σ → σ → Prop} {R R' : ε → σ → σ → Prop}

theorem Ended.after (hc : Composes Q R) {s t : σ} {r : EStateM.Result ε σ α} (h : Q s t)
    (hr : Ended Q R t r) : Ended Q R s r := by
  cases r with
  | ok a u => exact hc.trans h hr
  | error e u => exact hc.raised h hr

theorem Ends.mono {m : EStateM ε σ α} (h : Ends Q R m) (hR : ∀ e s t, R e s t → R' e s t) :
    Ends Q R' m := by
  intro s
  have hs := h s
  cases hm : m s with
  | ok a t =>
    rw [hm] at hs
    exact hs
  | error e t =>
    rw [hm] at hs
    exact hR e s t hs

theorem ends_pure (hc : Composes Q R) (a : α) : Ends Q R (pure a) := fun s => hc.refl s

theorem ends_throw (hc : Composes Q R) (e : ε) : Ends Q R (throw e : EStateM ε σ α) := fun s =>
  hc.raise e s

theorem ends_returnOrRaise (hc : Composes Q R) (x : Except ε α) : Ends Q R (returnOrRaise x) := by
  cases x with
  | ok a => exact ends_pure hc a
  | error e => exact ends_throw hc e

theorem ends_get (hc : Composes Q R) : Ends Q R (get : EStateM ε σ σ) := fun s => hc.refl s

theorem ends_modify {f : σ → σ} (h : ∀ s, Q s (f s)) :
    Ends Q R (modify f : EStateM ε σ PUnit) := h

/-- A sequence of parts that end in their own ways. -/
theorem ends_bind_of {Q₁ Q₂ : σ → σ → Prop} {R₁ R₂ : ε → σ → σ → Prop} {m : EStateM ε σ α}
    {f : α → EStateM ε σ β} (hm : Ends Q₁ R₁ m) (hf : ∀ a, Ends Q₂ R₂ (f a))
    (hreturns : ∀ s t u, Q₁ s t → Q₂ t u → Q s u) (hfirst : ∀ e s t, R₁ e s t → R e s t)
    (hsecond : ∀ e s t u, Q₁ s t → R₂ e t u → R e s u) : Ends Q R (m >>= f) := by
  intro s
  have hs := hm s
  show Ended Q R s (EStateM.bind m f s)
  unfold EStateM.bind
  cases h : m s with
  | ok a t =>
    rw [h] at hs
    have ht := hf a t
    show Ended Q R s (f a t)
    cases hrun : f a t with
    | ok b u =>
      rw [hrun] at ht
      exact hreturns s t u hs ht
    | error e u =>
      rw [hrun] at ht
      exact hsecond e s t u hs ht
  | error e t =>
    rw [h] at hs
    exact hfirst e s t hs

theorem ends_bind (hc : Composes Q R) {m : EStateM ε σ α} {f : α → EStateM ε σ β}
    (hm : Ends Q R m) (hf : ∀ a, Ends Q R (f a)) : Ends Q R (m >>= f) :=
  ends_bind_of hm hf (fun _ _ _ => hc.trans) (fun _ _ _ => id) fun _ _ _ _ => hc.raised

/-- A sequence whose first part hands over its exception: the second part is run after either
    ending. -/
theorem ends_observe (hc : Composes Q R) {m : EStateM ε σ α} {f : Except ε α → EStateM ε σ β}
    (hm : Ends Q R' m) (hok : ∀ a, Ends Q R (f (.ok a)))
    (herror : ∀ e s t, R' e s t → Ended Q R s (f (.error e) t)) :
    Ends Q R (observe m >>= f) := by
  intro s
  have hs := hm s
  show Ended Q R s (EStateM.bind (observe m) f s)
  unfold EStateM.bind observe
  cases h : m s with
  | ok a t =>
    rw [h] at hs
    exact (hok a t).after hc hs
  | error e t =>
    rw [h] at hs
    exact herror e s t hs

theorem ends_zoom {get : σ → τ} {set : τ → σ → σ} {Q : τ → τ → Prop} {R : ε → τ → τ → Prop}
    {m : EStateM ε τ α} (hset : ∀ t s, get (set t s) = t) (h : Ends Q R m) :
    Ends (fun s t => Q (get s) (get t)) (fun e s t => R e (get s) (get t)) (zoom get set m) := by
  intro s
  have hs := h (get s)
  unfold zoom
  cases hm : m (get s) with
  | ok a t =>
    rw [hm] at hs
    show Q (get s) (get (set t s))
    rw [hset]
    exact hs
  | error e t =>
    rw [hm] at hs
    show R e (get s) (get (set t s))
    rw [hset]
    exact hs

/-- A sequence after a first part that returns. -/
theorem bind_run {m : EStateM ε σ α} {f : α → EStateM ε σ β} {s t : σ} {a : α}
    (h : m s = .ok a t) : (m >>= f) s = f a t := by
  show EStateM.bind m f s = _
  unfold EStateM.bind
  rw [h]

end AlphaForge.Lib
