/-
  File:      AlphaForge/Lib/Checks.lean
  Subject:   Checks that raise, and selections by a predicate that may raise. No program fact.

  * `refuseIf` -- `if p: raise ValueError(message)`.
  * `selectM` -- `[x for x in xs if p(x)]`; **`selectM_ok`** says what it holds.
-/
import AlphaForge.Lib.PyValues

namespace AlphaForge.Lib

/-- `if p: raise ValueError(message)`. -/
def refuseIf (p : Prop) [Decidable p] (message : String) : Except PyError Unit :=
  if p then .error (.valueError message) else .ok ()

theorem refuseIf_ok {p : Prop} [Decidable p] {message : String} :
    refuseIf p message = .ok () ↔ ¬ p := by
  unfold refuseIf
  split
  · rename_i h
    exact iff_of_false (fun he => by cases he) (not_not.mpr h)
  · rename_i h
    exact iff_of_true rfl h

variable {ε α : Type}

/-- The predicate answers, and with yes. -/
def holds (p : α → Except ε Bool) (x : α) : Bool :=
  match p x with
  | .ok b => b
  | .error _ => false

theorem holds_iff {p : α → Except ε Bool} {x : α} : holds p x = true ↔ p x = .ok true := by
  unfold holds
  cases p x with
  | error e => exact iff_of_false Bool.false_ne_true fun h => by cases h
  | ok b => rw [Except.ok.injEq]

/-- `[x for x in xs if p(x)]`. -/
def selectM (p : α → Except ε Bool) : List α → Except ε (List α)
  | [] => .ok []
  | x :: rest => do
    let b ← p x
    let others ← selectM p rest
    return if b then x :: others else others

/-- A selection that answers holds what satisfies the predicate, which answered throughout. -/
theorem selectM_ok {p : α → Except ε Bool} {xs ys : List α} (h : selectM p xs = .ok ys) :
    (∀ x ∈ xs, ∃ b, p x = .ok b) ∧ ys = xs.filter (holds p) := by
  induction xs generalizing ys with
  | nil =>
    cases Except.ok.inj h
    exact ⟨List.forall_mem_nil _, rfl⟩
  | cons x rest ih =>
    obtain ⟨b, hb, h⟩ := ok_of_bind h
    obtain ⟨others, hothers, h⟩ := ok_of_bind h
    obtain ⟨hrest, rfl⟩ := ih hothers
    refine ⟨List.forall_mem_cons.mpr ⟨⟨b, hb⟩, hrest⟩, ?_⟩
    have hhead : holds p x = b := by
      unfold holds
      rw [hb]
    rw [← Except.ok.inj h, List.filter_cons, hhead]

end AlphaForge.Lib
