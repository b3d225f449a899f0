/-
  File:      AlphaForge/Lib/Runs.lean
  Subject:   Runs of a machine with a total step function, and conditions on the events of a run.
             No program fact.

  * `Along` -- a condition on the event and the state it meets, at every event of a run.
  * `run_preserves` -- what every event that meets the condition preserves holds after the run.
-/

namespace AlphaForge.Lib

variable {S E : Type}

/-- The state after a run. -/
def runEvents (next : S → E → S) (s : S) (events : List E) : S := events.foldl next s

/-- `C` holds of every event of a run, in the state it meets. -/
def Along (next : S → E → S) (C : S → E → Prop) : S → List E → Prop
  | _, [] => True
  | s, e :: events => C s e ∧ Along next C (next s e) events

instance decidableAlong (next : S → E → S) (C : S → E → Prop) [∀ s e, Decidable (C s e)] :
    ∀ (s : S) (events : List E), Decidable (Along next C s events)
  | _, [] => isTrue trivial
  | s, e :: events =>
    @instDecidableAnd _ _ _ (decidableAlong next C (next s e) events)

theorem along_mono {next : S → E → S} {C D : S → E → Prop} (h : ∀ s e, C s e → D s e)
    (events : List E) (s : S) (hc : Along next C s events) : Along next D s events := by
  induction events generalizing s with
  | nil => trivial
  | cons e events ih => exact ⟨h s e hc.1, ih _ hc.2⟩

theorem along_and {next : S → E → S} {C D : S → E → Prop} (events : List E) (s : S)
    (hc : Along next C s events) (hd : Along next D s events) :
    Along next (fun s e => C s e ∧ D s e) s events := by
  induction events generalizing s with
  | nil => trivial
  | cons e events ih => exact ⟨⟨hc.1, hd.1⟩, ih _ hc.2 hd.2⟩

theorem run_preserves {next : S → E → S} {P : S → Prop} {C : S → E → Prop}
    (step : ∀ s e, P s → C s e → P (next s e)) (events : List E) (s : S) (h : P s)
    (hc : Along next C s events) : P (runEvents next s events) := by
  induction events generalizing s with
  | nil => exact h
  | cons e events ih => exact ih _ (step s e h hc.1) hc.2

/-- What every event preserves holds after every run. -/
theorem run_invariant {next : S → E → S} {P : S → Prop} (step : ∀ s e, P s → P (next s e))
    (events : List E) (s : S) (h : P s) : P (runEvents next s events) := by
  induction events generalizing s with
  | nil => exact h
  | cons e events ih => exact ih _ (step s e h)

end AlphaForge.Lib
