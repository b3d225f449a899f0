/-
  File:      AlphaForge/Telegram/Service.lean
  Subject:   `run_service` of `telegram_service.py` as a machine: the process retries what is
             pending, then polls; it may be stopped before any call, and is started again from its
             databases.

  * `Process`, `Event`, `next` -- the machine; one event is one call of the process, its start, the
    beginning of a poll, or a stop.
  * `Promises`, `Cares` -- what is promised about the Telegram API, and a careful environment.
  * `Holds`, `Upholds` -- invariants of the machine, and what they need: **`holds_next`**.
  * `Sound` -- the invariant of the updates; **`sound_run`** -- it holds after every run.
-/
import AlphaForge.Lib.Runs
import AlphaForge.Telegram.Batch

namespace AlphaForge.Telegram

open AlphaForge.Lib hiding strip upper
open AlphaForge.Lib.PyText

/-! ## 1. The machine -/

/-- What the service runs with. -/
structure Service where
  unicode : Unicode
  iso : ℤ → String
  botToken : String
  telegramConfig : TelegramRemoteControlConfig

/-- The arguments `run_service` polls with. -/
def Service.pollArguments (svc : Service) (config : RemoteConfig) : PollArguments :=
  { botToken := svc.botToken
    telegramConfig := svc.telegramConfig
    remoteConfig := config
    hasExecutor := true
    hasControlStore := true
    maxMessageChars := 3900
    hasStateStore := true }

/-- Where the process stands. Between two polls it remembers the offset. -/
inductive Process (F : Type) where
  | down
  | starting (t : Proc F (List TelegramResponseDelivery))
  | idle (offset : Option ℤ)
  | polling (t : Proc F TelegramPollResult)

structure System (F : Type) where
  world : World
  process : Process F

inductive Event (F : Type) where
  | start
  /-- A poll begins, with the configuration `_safe_remote_config` finds. -/
  | poll (config : RemoteConfig)
  /-- The process makes its next call. -/
  | answer (a : Answer F)
  | crash

variable {F : Type} (svc : Service)

/-- After the retry the service polls, with no offset of its own. -/
def Process.started : Proc F (List TelegramResponseDelivery) → Process F
  | .done _ => .idle none
  | .raise _ => .down
  | t => .starting t

/-- After a poll the service goes on from the offset of its result. -/
def Process.polled : Proc F TelegramPollResult → Process F
  | .done result => .idle result.nextOffset
  | .raise _ => .down
  | t => .polling t

def next (s : System F) : Event F → System F
  | .start =>
    match s.process with
    | .down =>
      { s with process := .started (retryPendingTelegramResponses svc.unicode svc.botToken) }
    | _ => s
  | .poll config =>
    match s.process with
    | .idle offset =>
      { s with process :=
          .polled (pollTelegramOnce svc.unicode svc.iso (svc.pollArguments config) offset) }
    | _ => s
  | .answer a =>
    match s.process with
    | .starting t =>
      let r := advance perform a (t, s.world)
      ⟨r.2, .started r.1⟩
    | .polling t =>
      let r := advance perform a (t, s.world)
      ⟨r.2, .polled r.1⟩
    | _ => s
  | .crash => { s with process := .down }

/-- A new installation. -/
def World.fresh : World := ⟨[], [], none, [], [], ⟨[], [], [], [], [], [], []⟩⟩

def System.fresh : System F := ⟨.fresh, .down⟩

/-- The call a program is about to make. -/
def nextCallOf {α : Type} : Proc F α → Option Op
  | .call op _ => some op
  | _ => none

/-- The call the process is about to make. -/
def System.nextCall (s : System F) : Option Op :=
  match s.process with
  | .starting t => nextCallOf t
  | .polling t => nextCallOf t
  | _ => none

/-! ## 2. The environment -/

/-- What the Telegram API promises. -/
def Promises (s : System F) : Event F → Prop
  | .answer a =>
    match s.nextCall with
    | some op => Promised s.world op a
    | none => True
  | _ => True

instance (s : System F) (e : Event F) : Decidable (Promises s e) := by
  unfold Promises
  split
  · split <;> infer_instance
  · infer_instance

/-- From the dispatch of a request to the commit of its response the process is not stopped, and the
    transaction commits; the chat has an id in normal form. -/
def Cares (s : System F) : Event F → Prop
  | .answer a =>
    match s.nextCall with
    | some op => Careful svc.unicode s.world op a
    | none => True
  | .crash =>
    match s.nextCall with
    | some op => op.ofCommand = false
    | none => True
  | _ => True

instance (s : System F) (e : Event F) : Decidable (Cares svc s e) := by
  unfold Cares
  split
  · split <;> infer_instance
  · split <;> infer_instance
  · infer_instance

/-! ## 3. Invariants of the machine -/

section Holds

variable (C : Op → World → Answer F → Prop) (D : Op → Prop) (I : Op → World → Prop)
variable (B : Option ℤ → World → Prop)

/-- The environment answers within `C`, and stops the process only before calls in `D`. -/
def Permits (s : System F) : Event F → Prop
  | .answer a => ∀ op, s.nextCall = some op → C op s.world a
  | .crash => ∀ op, s.nextCall = some op → D op
  | _ => True

/-- `B` holds between polls and `I` before every call. -/
def Holds (s : System F) : Prop :=
  match s.process with
  | .down => B none s.world
  | .starting t => Meets perform C I (fun _ w => B none w) t s.world
  | .idle offset => B offset s.world
  | .polling t => Meets perform C I (Polled B) t s.world

/-- What the retry, the poll and a stop need. -/
structure Upholds : Prop where
  forget : ∀ off w, B off w → B none w
  stopped : ∀ op w, D op → I op w → B none w
  retry : ∀ w, B none w → Meets perform C I (fun _ w => B none w)
    (retryPendingTelegramResponses svc.unicode svc.botToken) w
  poll : ∀ config off w, B off w → Meets perform C I (Polled B)
    (pollTelegramOnce svc.unicode svc.iso (svc.pollArguments config) off) w

variable {svc} {C D I B} {s : System F}

theorem holds_started {t : Proc F (List TelegramResponseDelivery)} {w : World}
    (h : Meets perform C I (fun _ w => B none w) t w) : Holds C I B ⟨w, .started t⟩ := by
  cases t with
  | done a => exact meets_done_iff.mp h
  | raise e => exact meets_raise_iff.mp h
  | call op next => exact h

theorem holds_polled {t : Proc F TelegramPollResult} {w : World}
    (h : Meets perform C I (Polled B) t w) : Holds C I B ⟨w, .polled t⟩ := by
  cases t with
  | done result => exact meets_done_iff.mp h
  | raise e => exact meets_raise_iff.mp h
  | call op next => exact h

/-- A stop between two calls. -/
theorem holds_stopped {α : Type} {Q : Except Raised α → World → Prop} {t : Proc F α} {w : World}
    (hB : Upholds svc C D I B) (h : Meets perform C I Q t w) (hQ : ∀ r w, Q r w → B none w)
    (hcall : ∀ op, nextCallOf t = some op → D op) : B none w := by
  cases t with
  | done a => exact hQ _ _ (meets_done_iff.mp h)
  | raise e => exact hQ _ _ (meets_raise_iff.mp h)
  | call op next => exact hB.stopped op w (hcall op rfl) (meets_stopped h)

theorem polled_forget (hB : Upholds svc C D I B) (r : Except Raised TelegramPollResult)
    (w : World) (h : Polled B r w) : B none w := by
  cases r with
  | ok result => exact hB.forget _ w h
  | error e => exact h

/-- **Every event the environment is permitted keeps the invariant.** -/
theorem holds_next (hB : Upholds svc C D I B) (h : Holds C I B s) (e : Event F)
    (he : Permits C D s e) : Holds C I B (next svc s e) := by
  obtain ⟨w, process⟩ := s
  cases e with
  | start =>
    cases process with
    | down => exact holds_started (hB.retry w h)
    | starting t => exact h
    | idle offset => exact h
    | polling t => exact h
  | poll config =>
    cases process with
    | down => exact h
    | starting t => exact h
    | idle offset => exact holds_polled (hB.poll config offset w h)
    | polling t => exact h
  | answer a =>
    cases process with
    | down => exact h
    | starting t =>
      refine holds_started (meets_advance h fun op next ht => he op ?_)
      rw [ht]
      rfl
    | idle offset => exact h
    | polling t =>
      refine holds_polled (meets_advance h fun op next ht => he op ?_)
      rw [ht]
      rfl
  | crash =>
    cases process with
    | down => exact h
    | starting t => exact holds_stopped hB h (fun _ _ hb => hb) he
    | idle offset => exact hB.forget offset w h
    | polling t => exact holds_stopped hB h (polled_forget hB) he

/-- What `B` and `I` have in common holds wherever the process stands. -/
theorem Holds.world {P : World → Prop} (h : Holds C I B s) (hB : ∀ off w, B off w → P w)
    (hI : ∀ op w, I op w → P w) : P s.world := by
  obtain ⟨w, process⟩ := s
  have hkeeps : ∀ {α : Type} {Q : Except Raised α → World → Prop} {t : Proc F α},
      Meets perform C I Q t w → (∀ r w, Q r w → P w) → P w := by
    intro α Q t ht hQ
    cases t with
    | done a => exact hQ _ _ (meets_done_iff.mp ht)
    | raise e => exact hQ _ _ (meets_raise_iff.mp ht)
    | call op next => exact hI op w (meets_stopped ht)
  cases process with
  | down => exact hB none w h
  | starting t => exact hkeeps h fun _ w hb => hB none w hb
  | idle offset => exact hB offset w h
  | polling t =>
    refine hkeeps h fun r w hb => ?_
    cases r with
    | ok result => exact hB _ w hb
    | error e => exact hB none w hb

end Holds

/-! ## 4. The service is sound -/

/-- What holds of the service; with `strict`, no response is lost. -/
def Sound (svc : Service) (strict : Prop) (s : System F) : Prop :=
  Holds (Allowed svc.unicode strict) (Steady svc.telegramConfig strict)
    (Between svc.telegramConfig strict) s

variable {svc} {strict : Prop} {s : System F}

theorem Between.forget {config : TelegramRemoteControlConfig} {off : Option ℤ} {w : World}
    (h : Between config strict off w) : Between config strict none w :=
  h.earlier fun _ hx => nomatch hx

theorem controlled_fresh (config : TelegramRemoteControlConfig) : Controlled config .fresh where
  authorized _ h := absurd h List.not_mem_nil
  once := List.nodup_nil
  spent _ h := absurd h List.not_mem_nil
  licensed _ h := absurd h List.not_mem_nil
  requested _ h := absurd h List.not_mem_nil

theorem sound_fresh : Sound svc strict (System.fresh : System F) where
  consistent :=
    { once := List.nodup_nil
      reserved := fun _ h => absurd h List.not_mem_nil
      reached := fun _ h => nomatch h
      passed := fun _ h => absurd h List.not_mem_nil }
  controlled := controlled_fresh _
  kept _ _ h := absurd h List.not_mem_nil
  received _ h := absurd h List.not_mem_nil
  ahead _ h := absurd h List.not_mem_nil
  offset _ h := nomatch h
  flown _ h := nomatch h

/-- The service upholds its invariant; with `strict`, it is not stopped during a command. -/
theorem upholds_sound :
    Upholds (F := F) svc (Allowed svc.unicode strict) (fun op => strict → op.ofCommand = false)
      (Steady svc.telegramConfig strict) (Between svc.telegramConfig strict) where
  forget _ _ h := h.forget
  stopped op w hop h :=
    { consistent := h.consistent
      controlled := h.controlled
      kept := fun hs => h.kept hs (hop hs)
      received := fun _ hn => absurd hn List.not_mem_nil
      ahead := fun _ hn => absurd hn List.not_mem_nil
      offset := fun _ hx => nomatch hx
      flown := fun _ hi => nomatch hi }
  retry _ h := retry_meets _ h
  poll config off w h := by
    have hlow : 1 ≤ (svc.pollArguments config).maxMessageChars := by
      show 1 ≤ 3900
      omega
    have hhigh : (svc.pollArguments config).maxMessageChars ≤ 3900 := Nat.le_refl _
    exact poll_meets svc.iso rfl hlow hhigh rfl h

theorem permits_sound {e : Event F} (hp : Promises s e) (hc : strict → Cares svc s e) :
    Permits (Allowed svc.unicode strict) (fun op => strict → op.ofCommand = false) s e := by
  cases e with
  | start => trivial
  | poll config => trivial
  | answer a =>
    intro op hop
    unfold Promises at hp
    unfold Cares at hc
    dsimp only at hp hc
    rw [hop] at hp hc
    exact ⟨hp, hc⟩
  | crash =>
    intro op hop hs
    have hcrash := hc hs
    unfold Cares at hcrash
    dsimp only at hcrash
    rw [hop] at hcrash
    exact hcrash

/-- **Every event keeps the service sound.** -/
theorem sound_next (h : Sound svc strict s) (e : Event F) (hp : Promises s e)
    (hc : strict → Cares svc s e) : Sound svc strict (next svc s e) :=
  holds_next upholds_sound h e (permits_sound hp hc)

/-- **After every run the service is sound**, and no response is lost where the environment takes
    care. -/
theorem sound_run (events : List (Event F))
    (h : Along (next svc) (fun s e => Promises s e ∧ (strict → Cares svc s e))
      (System.fresh : System F) events) :
    Sound svc strict (runEvents (next svc) .fresh events) :=
  run_preserves (P := Sound svc strict) (fun _ e hs he => sound_next hs e he.1 he.2) events _
    sound_fresh h

/-- The updates and the offset of a sound service are in order, wherever the process stands. -/
theorem Sound.consistent (h : Sound svc strict s) : Consistent s.world :=
  Holds.world h (fun _ _ hb => Loop.consistent hb) fun _ _ hi => hi.consistent

/-! ## 5. What no event does -/

/-- The offset never moves back. -/
theorem offset_next (s : System F) (e : Event F) :
    OffsetLe s.world.nextOffset (next svc s e).world.nextOffset := by
  have hadvance : ∀ {α : Type} (t : Proc F α) (w : World) (a : Answer F),
      OffsetLe w.nextOffset (advance perform a (t, w)).2.nextOffset := by
    intro α t w a
    cases t with
    | done b => exact offsetLe_refl _
    | raise e => exact offsetLe_refl _
    | call op next => exact offset_perform op a w
  obtain ⟨w, process⟩ := s
  cases e with
  | start => cases process <;> exact offsetLe_refl _
  | poll config => cases process <;> exact offsetLe_refl _
  | crash => exact offsetLe_refl _
  | answer a =>
    cases process with
    | down => exact offsetLe_refl _
    | starting t => exact hadvance t w a
    | idle offset => exact offsetLe_refl _
    | polling t => exact hadvance t w a

/-- A terminal status is never changed. -/
theorem statuses_next (s : System F) (e : Event F) :
    StatusesKept s.world (next svc s e).world := by
  have hadvance : ∀ {α : Type} (t : Proc F α) (w : World) (a : Answer F),
      StatusesKept w (advance perform a (t, w)).2 := by
    intro α t w a
    cases t with
    | done b => exact terminalKept_refl _
    | raise e => exact terminalKept_refl _
    | call op next => exact terminal_perform op a w
  obtain ⟨w, process⟩ := s
  cases e with
  | start => cases process <;> exact terminalKept_refl _
  | poll config => cases process <;> exact terminalKept_refl _
  | crash => exact terminalKept_refl _
  | answer a =>
    cases process with
    | down => exact terminalKept_refl _
    | starting t => exact hadvance t w a
    | idle offset => exact terminalKept_refl _
    | polling t => exact hadvance t w a

end AlphaForge.Telegram
