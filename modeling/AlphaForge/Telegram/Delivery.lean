/-
  File:      AlphaForge/Telegram/Delivery.lean
  Subject:   What becomes of an update: executed at most once, passed by the offset only when it was
             handled, its response delivered or pending.

  The reservation of the update's id, the execution, the response with the offset, and the message
  are separate steps. A reserved id is never executed again, so a response that is not written right
  after the execution is gone: the update served again is a duplicate, and is passed.

  * `Delivers` -- what is asked of a state.
  * **`deliveries_kept`** -- it holds in every state of a run in which nothing stops the process,
    and no transaction fails, between the dispatch of a request and the commit of its response.
  * `lostResponse` -- a run with one failing transaction.
-/
import AlphaForge.Telegram.Service

namespace AlphaForge.Telegram

open AlphaForge.Lib hiding strip upper
open AlphaForge.Lib.PyText

variable {F : Type}

/-- A poll has returned, or the service has started. -/
def Process.isIdle : Process F → Bool
  | .idle _ => true
  | _ => false

instance (w : World) (i : String) : Decidable (Responded w i) := by
  unfold Responded
  infer_instance

/-- What is asked of a state of the service. -/
structure Delivers (svc : Service) (s : System F) : Prop where
  /-- No update is executed twice. -/
  once : (s.world.history.dispatched.map (·.updateId)).Nodup
  /-- The offset only passes what was rejected or executed. -/
  passed : ∀ n ∈ s.world.history.seen, ∀ o, s.world.nextOffset = some o → n < o →
    Handled s.world n
  /-- The offset does not move back. -/
  monotone : ∀ e, OffsetLe s.world.nextOffset (next svc s e).world.nextOffset
  /-- After a poll and after a start, every response is delivered or pending. -/
  kept : s.process.isIdle = true → ∀ r ∈ s.world.history.dispatched, Responded s.world r.updateId

/-- **Responses are kept where the environment takes care.** -/
theorem deliveries_kept (svc : Service) (events : List (Event F))
    (hp : Along (next svc) Promises (System.fresh : System F) events)
    (hc : Along (next svc) (Cares svc) (System.fresh : System F) events) :
    Delivers svc (runEvents (next svc) (System.fresh : System F) events) := by
  have hsound : Sound svc True (runEvents (next svc) (System.fresh : System F) events) :=
    sound_run events (along_mono (fun _ _ h => ⟨h.1, fun _ => h.2⟩) _ _ (along_and _ _ hp hc))
  generalize runEvents (next svc) (System.fresh : System F) events = s at hsound ⊢
  refine ⟨hsound.consistent.once, hsound.consistent.passed, fun e => offset_next s e, ?_⟩
  obtain ⟨w, process⟩ := s
  intro hidle r hr
  cases process with
  | idle offset => exact Loop.kept hsound trivial r hr (Option.some_ne_none _)
  | down => cases hidle
  | starting t => cases hidle
  | polling t => cases hidle

/-! ## The lost response -/

/-- ASCII digits and letters. -/
def ascii : Unicode := ⟨Char.isDigit, Lib.lower, Lib.upper⟩

def demoService : Service :=
  { unicode := ascii
    iso := toString
    botToken := "token"
    telegramConfig := ⟨[], ["9001"]⟩ }

/-- `/status`, as update 7. -/
def statusUpdate : Value ℚ :=
  .mapping [("update_id", .int 7), ("message", .mapping [("text", .text "/status"),
    ("from", .mapping [("id", .int 1)]), ("chat", .mapping [("id", .int 9001)])])]

def batchOf (updates : List (Value ℚ)) : Answer ℚ :=
  .payload (.mapping [("ok", .bool true), ("result", .list updates)])

def demoConfig : RemoteConfig := ⟨some "db", some "campaign", some "run"⟩

def statusResult : Answer ℚ := .result (some ⟨"STATUS", 0, "RUNNING", ""⟩)

/-- The start: the pending responses are loaded, there are none. -/
def startEvents : List (Event ℚ) := [.start, .answer (.done 0)]

/-- A poll up to the dispatch of the request: the offset, the batch, the reservation, the audit row,
    the dispatch, the execution. -/
def executeEvents : List (Event ℚ) :=
  [.poll demoConfig, .answer (.done 0), .answer (batchOf [statusUpdate]), .answer (.done 0),
    .answer (.done 0), .answer (.done 0), .answer statusResult]

/-- The transaction of the response fails; the update served again is a duplicate, the offset passes
    it. -/
def lostEvents : List (Event ℚ) :=
  startEvents ++ executeEvents ++ [.answer .fault] ++
    [.poll demoConfig, .answer (.done 0), .answer (batchOf [statusUpdate]), .answer (.done 0),
      .answer (.done 0), .answer (.done 0), .answer (.done 0)]

/-- The process is stopped with the update in hand, which is served again and executed; it is
    stopped once more behind the commit of the response, which the next start sends. -/
def keptEvents : List (Event ℚ) :=
  startEvents ++ [.poll demoConfig, .answer (.done 0), .answer (batchOf [statusUpdate]), .crash] ++
    startEvents ++ executeEvents ++ [.answer (.done 0), .crash] ++
    [.start, .answer (.done 0), .answer (batchOf []), .answer (.done 0)]

set_option maxRecDepth 8000 in
theorem deliveries_kept_status :
    (runEvents (next demoService) System.fresh keptEvents).world.history.seen = [7, 7] ∧
      (runEvents (next demoService) System.fresh keptEvents).world.history.delivered = ["7"] ∧
      Delivers demoService (runEvents (next demoService) System.fresh keptEvents) :=
  ⟨by decide +kernel, by decide +kernel,
    deliveries_kept demoService keptEvents (by decide +kernel) (by decide +kernel)⟩

set_option maxRecDepth 8000 in
/-- **A response is lost**: update 7 is executed, the offset is past it, and its response is neither
    delivered nor pending. -/
theorem lostResponse :
    Along (next demoService) Promises (System.fresh : System ℚ) lostEvents ∧
      (runEvents (next demoService) System.fresh lostEvents).world.nextOffset = some 8 ∧
      ¬ Delivers demoService (runEvents (next demoService) System.fresh lostEvents) := by
  refine ⟨by decide +kernel, by decide +kernel, fun h => ?_⟩
  have hidle : (runEvents (next demoService) System.fresh lostEvents).process.isIdle = true := by
    decide +kernel
  have hlost :
      ∃ r ∈ (runEvents (next demoService) System.fresh lostEvents).world.history.dispatched,
        ¬ Responded (runEvents (next demoService) System.fresh lostEvents).world r.updateId := by
    decide +kernel
  obtain ⟨r, hr, hnot⟩ := hlost
  exact hnot (h.kept hidle r hr)

end AlphaForge.Telegram
