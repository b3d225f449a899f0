/-
  File:      AlphaForge/Ownership/Lease.lean
  Subject:   `execution_ownership.py`: the durable single-owner lease of an account scope, fenced
             by a token.

  One row a scope. `acquireExecutionOwnership` inserts, renews or takes over; a takeover needs the
  lease expired at the acquirer's clock and raises the token by one. `releaseExecutionOwnership`
  expires the own lease. Each call is one transaction; the clocks of the callers are arbitrary.

  * `Change` -- everything one call can do to a row (`apply_change`).
  * `Advances` -- the same owner under the same token, or a greater token: a preorder that every
    run follows (`run_advances`).
  * **`ownership_fenced`** -- in every reachable state one triple validates at most, an owner is
    displaced only after its lease had expired at the acquirer's clock, the token rises at every
    change of owner and stays at a renewal, and a superseded token never validates again.

  Tokens are unbounded here; in the table they are 64-bit integers from 1 on.
-/
import AlphaForge.Lib.Numbers
import AlphaForge.Lib.PyValues

namespace AlphaForge.Ownership

open AlphaForge.Lib

/-! ## 1. The row and the calls -/

/-- A row of `execution_account_leases`. -/
structure Lease (F : Type) where
  mode : String
  ownerInstanceId : String
  ownerStartupId : String
  fencingToken : ℤ
  leaseExpiresAt : F
  updatedAt : F
  deriving DecidableEq, Repr

/-- The table, by account scope. -/
abbrev Leases (F : Type) := String → Option (Lease F)

/-- `ExecutionOwnership`. -/
structure ExecutionOwnership (F : Type) where
  accountScope : String
  mode : String
  ownerInstanceId : String
  ownerStartupId : String
  fencingToken : Option ℤ
  leaseExpiresAt : Option F
  acquired : Bool
  reason : String
  deriving DecidableEq, Repr

/-- Arguments of `acquire_execution_ownership`. -/
structure AcquireArgs (F : Type) where
  accountScope : String
  mode : String
  ownerInstanceId : String
  ownerStartupId : String
  leaseTtlSec : F
  now : F

/-- Arguments of `validate_execution_ownership`. -/
structure ValidateArgs (F : Type) where
  accountScope : String
  ownerInstanceId : String
  ownerStartupId : String
  fencingToken : Option ℤ
  minValiditySec : F
  now : F

/-- Arguments of `release_execution_ownership`. -/
structure ReleaseArgs (F : Type) where
  accountScope : String
  ownerInstanceId : String
  ownerStartupId : String
  fencingToken : Option ℤ
  now : F

/-- The owner of a row: instance and startup. -/
def Lease.owner {F : Type} (l : Lease F) : String × String := (l.ownerInstanceId, l.ownerStartupId)

def AcquireArgs.owner {F : Type} (a : AcquireArgs F) : String × String :=
  (a.ownerInstanceId, a.ownerStartupId)

section Calls

variable {F : Type} [FloatNum F]

/-- `_validate_inputs`. -/
def validateInputs (a : AcquireArgs F) : Except PyError (String × F) :=
  if strip a.accountScope = "" then .error (.valueError "execution account scope is required")
  else if strip a.ownerInstanceId = "" then .error (.valueError "owner_instance_id is required")
  else if strip a.ownerStartupId = "" then .error (.valueError "owner_startup_id is required")
  else if FloatNum.isFinite a.leaseTtlSec = false ∨ a.leaseTtlSec ≤ FloatNum.ofInt 0 then
    .error (.valueError "lease_ttl_sec must be finite and > 0")
  else .ok (strip a.accountScope, a.leaseTtlSec)

/-- A value of a NOT NULL column: NaN is stored as NULL and violates it. -/
def notNull (x : F) : Except PyError F :=
  match FloatNum.value x with
  | some _ => .ok x
  | none => .error .integrityError

/-- The row after the INSERT, or the UPDATE where one was there. -/
def acquiredRow (fresh : Lease F) (row : Option (Lease F)) : Lease F :=
  match row with
  | none => fresh
  | some held =>
    if held.owner = fresh.owner then { fresh with fencingToken := held.fencingToken }
    else if held.leaseExpiresAt ≤ fresh.updatedAt then
      { fresh with fencingToken := held.fencingToken + 1 }
    else held

/-- `acquire_execution_ownership`. -/
def acquireExecutionOwnership (a : AcquireArgs F) (db : Leases F) :
    Except PyError (ExecutionOwnership F × Leases F) := do
  let (scope, ttl) ← validateInputs a
  let expires ← notNull (a.now + ttl)
  let now ← notNull a.now
  let row := acquiredRow
    { mode := upper a.mode
      ownerInstanceId := a.ownerInstanceId
      ownerStartupId := a.ownerStartupId
      fencingToken := 1
      leaseExpiresAt := expires
      updatedAt := now } (db scope)
  let acquired := row.owner = a.owner ∧ a.now < row.leaseExpiresAt
  return (
    { accountScope := scope
      mode := row.mode
      ownerInstanceId := row.ownerInstanceId
      ownerStartupId := row.ownerStartupId
      fencingToken := some row.fencingToken
      leaseExpiresAt := some row.leaseExpiresAt
      acquired := acquired
      reason := if acquired then "" else "EXECUTION_ACCOUNT_OWNED_BY_ANOTHER_RUNTIME" },
    Function.update db scope (some row))

/-- Why a row does not validate a triple; empty where it does. -/
def validationReason (v : ValidateArgs F) (row : Lease F) : String :=
  if row.ownerInstanceId ≠ v.ownerInstanceId then "EXECUTION_OWNER_INSTANCE_MISMATCH"
  else if row.ownerStartupId ≠ v.ownerStartupId then "EXECUTION_OWNER_STARTUP_MISMATCH"
  else if v.fencingToken ≠ some row.fencingToken then "EXECUTION_FENCING_TOKEN_MISMATCH"
  else if row.leaseExpiresAt ≤ v.now + v.minValiditySec then
    "EXECUTION_OWNERSHIP_LEASE_TOO_CLOSE_TO_EXPIRY"
  else ""

/-- `validate_execution_ownership`. -/
def validateExecutionOwnership (v : ValidateArgs F) (db : Leases F) :
    Except PyError (ExecutionOwnership F) :=
  if FloatNum.isFinite v.minValiditySec = false ∨ v.minValiditySec < FloatNum.ofInt 0 then
    .error (.valueError "min_validity_sec must be finite and >= 0")
  else
    match db (strip v.accountScope) with
    | none =>
      .ok { accountScope := strip v.accountScope
            mode := ""
            ownerInstanceId := ""
            ownerStartupId := ""
            fencingToken := none
            leaseExpiresAt := none
            acquired := false
            reason := "EXECUTION_OWNERSHIP_MISSING" }
    | some row =>
      .ok { accountScope := strip v.accountScope
            mode := row.mode
            ownerInstanceId := row.ownerInstanceId
            ownerStartupId := row.ownerStartupId
            fencingToken := some row.fencingToken
            leaseExpiresAt := some row.leaseExpiresAt
            acquired := validationReason v row = ""
            reason := validationReason v row }

/-- `release_execution_ownership`. -/
def releaseExecutionOwnership (r : ReleaseArgs F) (db : Leases F) :
    Except PyError (Bool × Leases F) :=
  match r.fencingToken, db (strip r.accountScope) with
  | some token, some row =>
    if row.ownerInstanceId = r.ownerInstanceId ∧ row.ownerStartupId = r.ownerStartupId ∧
        row.fencingToken = token then do
      let now ← notNull r.now
      return (true, Function.update db (strip r.accountScope)
        (some { row with leaseExpiresAt := now, updatedAt := now }))
    else .ok (false, db)
  | _, _ => .ok (false, db)

/-- One call of one process. -/
inductive Call (F : Type) where
  | acquire (a : AcquireArgs F)
  | validate (v : ValidateArgs F)
  | release (r : ReleaseArgs F)

/-- The table after a call; a call that raises is rolled back. -/
def Call.apply (c : Call F) (db : Leases F) : Leases F :=
  match c with
  | .acquire a =>
    match acquireExecutionOwnership a db with
    | .ok (_, db') => db'
    | .error _ => db
  | .validate _ => db
  | .release r =>
    match releaseExecutionOwnership r db with
    | .ok (_, db') => db'
    | .error _ => db

/-- The table after the calls, in the order in which they were committed. -/
def run (db : Leases F) (calls : List (Call F)) : Leases F := calls.foldl (fun s c => c.apply s) db

theorem run_append (db : Leases F) (first second : List (Call F)) :
    run db (first ++ second) = run (run db first) second := List.foldl_append

/-! ## 2. One call -/

/-- What a call can do to the row of a scope. -/
inductive Change (c : Call F) (scope : String) : Option (Lease F) → Option (Lease F) → Prop
  | same (row : Option (Lease F)) : Change c scope row row
  | inserted (l : Lease F) : Change c scope none (some l)
  | kept (l l' : Lease F) (owner : l'.owner = l.owner) (token : l'.fencingToken = l.fencingToken) :
      Change c scope (some l) (some l')
  | takenOver (l l' : Lease F) (a : AcquireArgs F) (call : c = .acquire a)
      (account : strip a.accountScope = scope) (acquirer : l'.owner = a.owner)
      (other : l'.owner ≠ l.owner) (expired : l.leaseExpiresAt ≤ a.now)
      (token : l'.fencingToken = l.fencingToken + 1) : Change c scope (some l) (some l')

theorem validateInputs_scope {a : AcquireArgs F} {scope : String} {ttl : F}
    (h : validateInputs a = .ok (scope, ttl)) : scope = strip a.accountScope := by
  unfold validateInputs at h
  split at h
  · cases h
  split at h
  · cases h
  split at h
  · cases h
  split at h
  · cases h
  · cases h
    rfl

theorem notNull_ok {x y : F} (h : notNull x = .ok y) : y = x := by
  unfold notNull at h
  split at h
  · cases h
    rfl
  · cases h

theorem acquire_change {a : AcquireArgs F} {db db' : Leases F} {reply : ExecutionOwnership F}
    (h : acquireExecutionOwnership a db = .ok (reply, db')) (scope : String) :
    Change (.acquire a) scope (db scope) (db' scope) := by
  obtain ⟨⟨s, ttl⟩, hinputs, h⟩ := ok_of_bind h
  obtain ⟨expires, _, h⟩ := ok_of_bind h
  obtain ⟨now, hnow, h⟩ := ok_of_bind h
  have hs := validateInputs_scope hinputs
  have hn := notNull_ok hnow
  subst hs hn
  cases h
  rw [Function.update_apply]
  split
  · rename_i hscope
    subst hscope
    rcases hrow : db (strip a.accountScope) with _ | held
    · exact .inserted _
    · simp only [acquiredRow]
      split
      · rename_i howner
        exact .kept held _ howner.symm rfl
      · rename_i hother
        split
        · rename_i hexpired
          exact .takenOver held _ a rfl rfl rfl (fun e => hother e.symm) hexpired rfl
        · exact .same _
  · exact .same _

theorem release_change {r : ReleaseArgs F} {db db' : Leases F} {b : Bool}
    (h : releaseExecutionOwnership r db = .ok (b, db')) (scope : String) :
    Change (.release r) scope (db scope) (db' scope) := by
  unfold releaseExecutionOwnership at h
  split at h
  · rename_i token row _ hrow
    split at h
    · obtain ⟨now, _, h⟩ := ok_of_bind h
      cases h
      rw [Function.update_apply]
      split
      · rename_i hscope
        subst hscope
        rw [hrow]
        exact .kept row _ rfl rfl
      · exact .same _
    · cases h
      exact .same _
  · cases h
    exact .same _

theorem apply_change (c : Call F) (db : Leases F) (scope : String) :
    Change c scope (db scope) (c.apply db scope) := by
  cases c with
  | acquire a =>
    rcases h : acquireExecutionOwnership a db with e | ⟨reply, db'⟩
    · simp only [Call.apply, h]
      exact .same _
    · simp only [Call.apply, h]
      exact acquire_change h scope
  | validate v => exact .same _
  | release r =>
    rcases h : releaseExecutionOwnership r db with e | ⟨b, db'⟩
    · simp only [Call.apply, h]
      exact .same _
    · simp only [Call.apply, h]
      exact release_change h scope

/-! ## 3. Runs -/

/-- The same owner under the same token, or a greater token. -/
def Advances (l l' : Lease F) : Prop :=
  (l'.owner = l.owner ∧ l'.fencingToken = l.fencingToken) ∨ l.fencingToken < l'.fencingToken

omit [FloatNum F] in
theorem advances_trans {l₁ l₂ l₃ : Lease F} (h : Advances l₁ l₂) (h' : Advances l₂ l₃) :
    Advances l₁ l₃ := by
  rcases h with ⟨ho, ht⟩ | hlt
  · rcases h' with ⟨ho', ht'⟩ | hlt'
    · exact .inl ⟨ho'.trans ho, ht'.trans ht⟩
    · exact .inr (by omega)
  · rcases h' with ⟨_, ht'⟩ | hlt'
    · exact .inr (by omega)
    · exact .inr (by omega)

theorem advances_apply (c : Call F) {db : Leases F} {scope : String} {l : Lease F}
    (h : db scope = some l) : ∃ l', c.apply db scope = some l' ∧ Advances l l' := by
  have hc := apply_change c db scope
  rw [h] at hc
  generalize c.apply db scope = row at hc
  cases hc with
  | same => exact ⟨l, rfl, .inl ⟨rfl, rfl⟩⟩
  | kept _ l' howner htoken => exact ⟨l', rfl, .inl ⟨howner, htoken⟩⟩
  | takenOver _ l' a _ _ _ _ _ htoken => exact ⟨l', rfl, .inr (by omega)⟩

/-- A row is never deleted, and along every run it advances. -/
theorem run_advances (calls : List (Call F)) {db : Leases F} {scope : String} {l : Lease F}
    (h : db scope = some l) : ∃ l', run db calls scope = some l' ∧ Advances l l' := by
  induction calls generalizing db l with
  | nil => exact ⟨l, h, .inl ⟨rfl, rfl⟩⟩
  | cons c rest ih =>
    obtain ⟨mid, hmid, hadv⟩ := advances_apply c h
    obtain ⟨l', hl', hadv'⟩ := ih hmid
    exact ⟨l', hl', advances_trans hadv hadv'⟩

/-- What validates is the row's own triple. -/
theorem row_of_validated {v : ValidateArgs F} {db : Leases F} {r : ExecutionOwnership F}
    (h : validateExecutionOwnership v db = .ok r) (hacquired : r.acquired = true) :
    ∃ l, db (strip v.accountScope) = some l ∧ l.owner = (v.ownerInstanceId, v.ownerStartupId) ∧
      v.fencingToken = some l.fencingToken := by
  unfold validateExecutionOwnership at h
  split at h
  · cases h
  split at h
  · cases h
    cases hacquired
  · rename_i row hrow
    cases h
    have hreason : validationReason v row = "" := of_decide_eq_true hacquired
    unfold validationReason at hreason
    split at hreason
    · exact absurd hreason (by decide)
    rename_i hinstance
    split at hreason
    · exact absurd hreason (by decide)
    rename_i hstartup
    split at hreason
    · exact absurd hreason (by decide)
    rename_i htoken
    exact ⟨row, hrow, Prod.ext (not_not.mp hinstance) (not_not.mp hstartup), not_not.mp htoken⟩

/-! ## 4. The result -/

/-- **The lease is fenced**, from every table and over every run: one triple validates at most, an
    owner is displaced only after its lease had expired at the acquirer's clock, the token rises at
    every change of owner and stays while the owner does, and a superseded token never validates
    again. -/
theorem ownership_fenced (start : Leases F) (calls : List (Call F)) :
    (∀ v v' r r', validateExecutionOwnership v (run start calls) = .ok r → r.acquired = true →
      validateExecutionOwnership v' (run start calls) = .ok r' → r'.acquired = true →
      strip v'.accountScope = strip v.accountScope →
      v'.ownerInstanceId = v.ownerInstanceId ∧ v'.ownerStartupId = v.ownerStartupId ∧
        v'.fencingToken = v.fencingToken) ∧
    (∀ c scope l, run start calls scope = some l →
      ∃ l', run start (calls ++ [c]) scope = some l' ∧
        (l'.owner = l.owner → l'.fencingToken = l.fencingToken) ∧
        (l'.owner ≠ l.owner → l.fencingToken < l'.fencingToken ∧
          ∃ a, c = .acquire a ∧ strip a.accountScope = scope ∧ l'.owner = a.owner ∧
            l.leaseExpiresAt ≤ a.now)) ∧
    (∀ more later scope l l', run start calls scope = some l →
      run start (calls ++ more) scope = some l' →
      (l'.owner, l'.fencingToken) ≠ (l.owner, l.fencingToken) →
      ∀ v r, strip v.accountScope = scope → v.fencingToken = some l.fencingToken →
        validateExecutionOwnership v (run start (calls ++ more ++ later)) = .ok r →
        r.acquired = false) := by
  refine ⟨fun v v' r r' h hr h' hr' hscope => ?_, fun c scope l hl => ?_,
    fun more later scope l l' hl hl' hne v r hscope htoken h => ?_⟩
  · obtain ⟨l, hl, howner, htoken⟩ := row_of_validated h hr
    obtain ⟨l', hl', howner', htoken'⟩ := row_of_validated h' hr'
    rw [hscope, hl] at hl'
    cases hl'
    rw [howner] at howner'
    obtain ⟨hi, hs⟩ := Prod.mk.inj howner'
    exact ⟨hi.symm, hs.symm, htoken'.trans htoken.symm⟩
  · have hc := apply_change c (run start calls) scope
    rw [run_append]
    show ∃ l', c.apply (run start calls) scope = some l' ∧ _
    rw [hl] at hc
    generalize c.apply (run start calls) scope = row at hc
    cases hc with
    | same => exact ⟨l, rfl, fun _ => rfl, fun hne => absurd rfl hne⟩
    | kept _ l' howner htoken => exact ⟨l', rfl, fun _ => htoken, fun hne => absurd howner hne⟩
    | takenOver _ l' a call account acquirer other expired token =>
      exact ⟨l', rfl, fun he => absurd he other,
        fun _ => ⟨by omega, a, call, account, acquirer, expired⟩⟩
  · obtain ⟨mid, hmid, hadv⟩ := run_advances more hl
    rw [run_append, hmid] at hl'
    cases hl'
    have hlt : l.fencingToken < l'.fencingToken := by
      rcases hadv with ⟨ho, ht⟩ | hlt
      · exact absurd (by rw [ho, ht]) hne
      · exact hlt
    rw [← run_append] at hmid
    obtain ⟨last, hlast, hadv'⟩ := run_advances later hmid
    rw [← run_append] at hlast
    cases hr : r.acquired with
    | false => rfl
    | true =>
      obtain ⟨row, hrow, _, htoken'⟩ := row_of_validated h hr
      rw [hscope, hlast] at hrow
      cases hrow
      rw [htoken] at htoken'
      have heq : l.fencingToken = last.fencingToken := Option.some.inj htoken'
      rcases hadv' with ⟨_, ht⟩ | hlt'
      · omega
      · omega

end Calls

/-- A second runtime takes over once the first lease has expired at its clock; the first one's
    token does not validate any more, at whatever clock. -/
example :
    let calls : List (Call ℚ) :=
      [.acquire ⟨"acct", "LIVE", "i1", "s1", 30, 0⟩, .acquire ⟨"acct", "LIVE", "i2", "s2", 30, 40⟩]
    (validateExecutionOwnership ⟨"acct", "i1", "s1", some 1, 0, 0⟩ (run (fun _ => none) calls)).map
      ExecutionOwnership.reason = .ok "EXECUTION_OWNER_INSTANCE_MISMATCH" := by
  decide +kernel

end AlphaForge.Ownership
