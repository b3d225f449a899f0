/-
  File:      AlphaForge/Decisions/Parity.lean
  Subject:   `decision_invariant.py`: one decision as several surfaces record it, and the check
             that they record the same decision.

  A surface is a payload. `projectPreSubmitInvariant` reads twenty fields out of it,
  `validatePreSubmitSemantics` re-checks how its values relate, `incompletePreSubmitFields` lists
  what it lacks. `assertPreSubmitInvariantParity` compares every other surface with the first.

  * **`parity_ok_iff`** -- it returns exactly when every surface is complete (`Complete`) and valid
    (`SemanticallyValid`) and every other surface agrees with the first (`AgreesWith`). Texts, gates
    and provenance are then the same on any two surfaces; numbers are close to those of the first
    surface only (`parity_tolerance_adds_up`).

  The details of the errors are carried as data, not as text.
-/
import AlphaForge.Lib.Payload

namespace AlphaForge.Decisions.Parity

open AlphaForge.Lib

variable {F : Type} [FloatNum F] (py : Builtins F)

/-! ## 1. The projection -/

/-- `PreSubmitInvariant`. -/
structure PreSubmitInvariant (F : Type) where
  decision : String
  primaryRejectReason : String
  failedGates : List String
  score : Option F
  candidateRr : Option F
  executableRawRr : Option F
  remainingExecutionPenalty : Option F
  effectiveRr : Option F
  rrBasis : String
  executionCostSemantics : String
  thresholdProvenance : List (String × String)
  executionEvidenceStatus : String
  portfolioDecision : String
  originalNotional : Option F
  riskScale : Option F
  effectiveNotional : Option F
  stopDistanceBasis : String
  geometryStatus : String
  geometrySource : String
  lifecyclePreSubmitTerminalState : String

/-- `_identity`. -/
def identity (value : Value F) : String :=
  match value with
  | .none => ""
  | .mapping _ | .list _ => py.dumps value
  | _ => strip (value.str py)

/-- `_decision`. -/
def decision (value : Value F) : String :=
  let text := value.label py
  if text ∈ ["ACCEPT", "ACCEPTED", "EXECUTED", "ALLOW", "ALLOWED"] then "ACCEPT"
  else if text ∈ ["REJECT", "REJECTED", "BLOCK", "BLOCKED"] then "REJECT"
  else if text = "" then "UNKNOWN" else text

/-- The names of one source of failed gates: a text is split at `|`. -/
def gateNames (source : Value F) : List String :=
  match source with
  | .text s => ((s.splitOn "|").map strip).filter (· ≠ "")
  | .list items => (items.map fun x => strip (x.str py)).filter (· ≠ "")
  | _ => []

/-- `_failed_gates`. -/
def failedGates (payload : Payload F) : List String :=
  let execution := (payload.get "execution_safety").asMapping
  sortedSet
    ([payload.get "all_failed_gates", payload.get "failed_gates", execution.get "all_failed_gates",
      payload.get "risk_flags"].flatMap (gateNames py))

/-- The order of two pairs of texts. -/
def pairLe (a b : String × String) : Prop := a.1 < b.1 ∨ (a.1 = b.1 ∧ a.2 ≤ b.2)

instance (a b : String × String) : Decidable (pairLe a b) := inferInstanceAs (Decidable (_ ∨ _))

/-- `_threshold_provenance`. -/
def thresholdProvenance (payload : Payload F) : List (String × String) :=
  ((payload.get "threshold_provenance").asMapping.map fun e => (e.1, e.2.str py)).insertionSort
    pairLe

/-- The decision of the portfolio: a mapping states it or says whether it accepted. -/
def portfolioValue (portfolio : Value F) : Value F :=
  match portfolio with
  | .mapping entries =>
    match Payload.get entries "decision" with
    | .none =>
      match Payload.get entries "accepted" with
      | .bool true => .text "ACCEPT"
      | .bool false => .text "REJECT"
      | _ => .text "UNKNOWN"
    | stated => stated
  | other => other

/-- `project_pre_submit_invariant`. -/
def projectPreSubmitInvariant (payload : Payload F) : PreSubmitInvariant F :=
  let execution := (payload.get "execution_safety").asMapping
  let primary := ((payload.get "primary_reject_reason").or (payload.get "reject_reason")).or
    (payload.get "reason")
  let lifecycle := ((payload.get "lifecycle_pre_submit_terminal_state").or
    (payload.get "pre_submit_terminal_state")).or (payload.get "lifecycle_state")
  let evidenceStatus := ((payload.get "execution_evidence_status").or
    (execution.get "execution_evidence_status")).or (payload.get "evidence_status")
  { decision := decision py ((payload.get "decision").or (payload.get "status"))
    primaryRejectReason := primary.label py
    failedGates := failedGates py payload
    score := (payload.get "score").number py
    candidateRr := (payload.getD "candidate_rr" (payload.get "rr")).number py
    executableRawRr := (payload.get "executable_raw_rr").number py
    remainingExecutionPenalty := (payload.get "remaining_execution_penalty").number py
    effectiveRr := (payload.get "effective_rr").number py
    rrBasis := (payload.get "rr_basis").label py
    executionCostSemantics := identity py (payload.get "execution_cost_semantics")
    thresholdProvenance := thresholdProvenance py payload
    executionEvidenceStatus := if evidenceStatus.truthy then evidenceStatus.label py else "UNKNOWN"
    portfolioDecision := decision py (portfolioValue (payload.get "portfolio_decision"))
    originalNotional := (payload.get "original_notional").number py
    riskScale := (payload.get "risk_scale").number py
    effectiveNotional := (payload.get "effective_notional").number py
    stopDistanceBasis := (payload.get "stop_distance_basis").label py
    geometryStatus := (payload.get "geometry_status").label py
    geometrySource := (payload.get "geometry_source").label py
    lifecyclePreSubmitTerminalState := lifecycle.label py }

/-! ## 2. The relations inside one payload -/

/-- `isclose(a, b, rel_tol=0.0, abs_tol=tol)`; a tolerance below zero, on which it raises, is left
    out. -/
def isClose (a b tol : F) : Prop :=
  FloatNum.feq a b = true ∨
    (FloatNum.isFinite a = true ∧ FloatNum.isFinite b = true ∧ FloatNum.abs (b - a) ≤ tol)

instance (a b tol : F) : Decidable (isClose a b tol) := inferInstanceAs (Decidable (_ ∨ _))

/-- `SemanticInvariantViolation`: its code and the values its detail shows. -/
structure SemanticInvariantViolation (F : Type) where
  code : String
  detail : List (String × Value F)

/-- One violation where a relation does not hold. -/
def violationUnless (holds : Prop) [Decidable holds] (code : String)
    (detail : List (String × Value F)) : List (SemanticInvariantViolation F) :=
  if holds then [] else [{ code := code, detail := detail }]

/-- Texts as a value. -/
def texts (xs : List String) : Value F := .list (xs.map .text)

/-- The statuses under which a decision has no geometry. -/
def unavailableGeometry : List String := ["UNAVAILABLE", "GUIDED_CANDIDATE_UNAVAILABLE"]

/-- The fields that are numbers only where there is a geometry. -/
def authoritativeGeometry : List String :=
  ["entry", "sl", "stop", "tp", "target", "candidate_rr", "executable_raw_rr", "effective_rr"]

/-- The fields of the geometry that carry a number. -/
def leakedGeometry (payload : Payload F) : List String :=
  authoritativeGeometry.filter fun field => ((payload.get field).number py).isSome

def geometryViolations (payload : Payload F) : List (SemanticInvariantViolation F) :=
  let status := (payload.get "geometry_status").label py
  violationUnless (status ∈ unavailableGeometry → leakedGeometry py payload = [])
    "UNAVAILABLE_GEOMETRY_HAS_AUTHORITATIVE_VALUES"
    [("geometry_status", .text status), ("numeric_fields", texts (leakedGeometry py payload))]

/-- `max(0.0, executable_raw_rr - remaining_penalty)`. -/
def expectedEffectiveRr (executable penalty : F) : F :=
  pyMax (FloatNum.ofInt 0) (executable - penalty)

def effectiveRrViolations (p : PreSubmitInvariant F) (tol : F) :
    List (SemanticInvariantViolation F) :=
  match p.executableRawRr, p.remainingExecutionPenalty, p.effectiveRr with
  | some executable, some penalty, some effective =>
    let expected := expectedEffectiveRr executable penalty
    violationUnless (isClose effective expected tol) "EFFECTIVE_RR_ARITHMETIC_MISMATCH"
      [("effective_rr", .float effective), ("executable_raw_rr", .float executable),
        ("remaining_execution_penalty", .float penalty), ("expected", .float expected)]
  | _, _, _ => []

def riskScaleViolations (p : PreSubmitInvariant F) : List (SemanticInvariantViolation F) :=
  match p.riskScale with
  | some scale =>
    violationUnless (FloatNum.ofInt 0 ≤ scale ∧ scale ≤ FloatNum.ofInt 1) "RISK_SCALE_OUT_OF_RANGE"
      [("risk_scale", .float scale)]
  | none => []

def notionalViolations (p : PreSubmitInvariant F) (tol : F) : List (SemanticInvariantViolation F) :=
  match p.originalNotional, p.riskScale, p.effectiveNotional with
  | some original, some scale, some effective =>
    violationUnless (isClose effective (original * scale) tol) "EFFECTIVE_NOTIONAL_SCALING_MISMATCH"
      [("original_notional", .float original), ("risk_scale", .float scale),
        ("effective_notional", .float effective), ("expected", .float (original * scale))]
  | _, _, _ => []

/-- `_gate_evidence`: the mappings of the first of two sequences. -/
def gateEvidence (payload : Payload F) : List (Payload F) :=
  let execution := (payload.get "execution_safety").asMapping
  let raw :=
    match payload.get "failed_gate_evidence" with
    | .list items => items
    | _ =>
      match execution.get "failed_gate_evidence" with
      | .list items => items
      | _ => []
  raw.filterMap fun
    | .mapping entries => some entries
    | _ => none

/-- The gate that a piece of evidence is about. -/
def gateOf (item : Payload F) : String := ((item.get "gate").or (item.get "name")).label py

/-- The gates that the evidence is about. -/
def evidenceGates (payload : Payload F) : List String :=
  sortedSet (((gateEvidence payload).map (gateOf py)).filter (· ≠ ""))

def gateSetViolations (payload : Payload F) (p : PreSubmitInvariant F) :
    List (SemanticInvariantViolation F) :=
  violationUnless (gateEvidence payload ≠ [] → evidenceGates py payload = p.failedGates)
    "FAILED_GATE_SET_MISMATCH"
    [("all_failed_gates", texts p.failedGates),
      ("failed_gate_evidence", texts (evidenceGates py payload))]

/-- The number that a gate has observed, where the decision states it. -/
def observedAuthority (p : PreSubmitInvariant F) (gate : String) : Option F :=
  if gate = "LOW_EFFECTIVE_RR" then p.effectiveRr
  else if gate = "RR_TOO_LOW" then p.candidateRr
  else if gate = "LOW_SCORE" then p.score
  else none

def gateObservedViolations (p : PreSubmitInvariant F) (tol : F) (item : Payload F) :
    List (SemanticInvariantViolation F) :=
  match (item.get "observed").number py, observedAuthority p (gateOf py item) with
  | some observed, some authority =>
    violationUnless (isClose observed authority tol) "GATE_OBSERVED_VALUE_MISMATCH"
      [("gate", .text (gateOf py item)), ("gate_observed", .float observed),
        ("authoritative", .float authority)]
  | _, _ => []

def acceptViolations (p : PreSubmitInvariant F) : List (SemanticInvariantViolation F) :=
  violationUnless (p.decision = "ACCEPT" → p.failedGates = []) "ACCEPT_WITH_FAILED_GATES"
    [("failed_gates", texts p.failedGates)]

def rejectViolations (p : PreSubmitInvariant F) : List (SemanticInvariantViolation F) :=
  if p.decision = "REJECT" then
    violationUnless (p.primaryRejectReason ≠ "") "REJECT_WITHOUT_PRIMARY_REASON" [] ++
    (if p.failedGates = [] then [{ code := "REJECT_WITHOUT_FAILED_GATE", detail := [] }]
     else
      violationUnless (p.primaryRejectReason ≠ "" → p.primaryRejectReason ∈ p.failedGates)
        "PRIMARY_REJECT_REASON_NOT_FAILED"
        [("primary", .text p.primaryRejectReason), ("failed_gates", texts p.failedGates)])
  else []

/-- The provenance of a payload: its own mapping, or the payload. -/
def sourceProvenance (payload : Payload F) : Payload F :=
  match payload.get "source_provenance" with
  | .mapping entries => entries
  | _ => payload

/-- `value is True`. -/
def isTrue (value : Value F) : Bool :=
  match value with
  | .bool true => true
  | _ => false

/-- The evidence of the expected fill. -/
structure FillEvidence (F : Type) where
  executableEntry : Option F
  hypotheticalEntry : Option F
  embedded : Bool
  entrySlippageCost : Option F
  attributable : Bool
  required : List (Option F)

def fillEvidence (payload : Payload F) : FillEvidence F :=
  let provenance := sourceProvenance payload
  let costs := (payload.get "execution_cost_assumptions").asMapping
  let executableEntry := (provenance.get "executable_entry").number py
  { executableEntry := executableEntry
    hypotheticalEntry :=
      (provenance.getD "hypothetical_entry" (payload.get "hypothetical_entry")).number py
    embedded := isTrue (provenance.get "entry_slippage_embedded_in_fill")
    entrySlippageCost := (costs.get "entry_slippage_cost").number py
    attributable := isTrue (provenance.get "reject_quality_attributable")
    required :=
      [executableEntry, (provenance.get "executable_raw_rr").number py,
        (provenance.get "remaining_execution_penalty").number py,
        (provenance.get "effective_rr_at_decision").number py] }

/-- The provenance claims the parity of the expected fill. -/
def claimsFillParity (payload : Payload F) : Prop :=
  ((sourceProvenance payload).get "reject_execution_basis").label py =
    "EXPECTED_FILL_RUNTIME_PARITY"

instance (payload : Payload F) : Decidable (claimsFillParity py payload) :=
  inferInstanceAs (Decidable (_ = _))

def fillEntryViolations (e : FillEvidence F) (tol : F) : List (SemanticInvariantViolation F) :=
  match e.executableEntry, e.hypotheticalEntry with
  | some executable, some hypothetical =>
    violationUnless (isClose executable hypothetical tol) "EXPECTED_FILL_ENTRY_PARITY_MISMATCH"
      [("executable_entry", .float executable), ("hypothetical_entry", .float hypothetical)]
  | _, _ => []

def entrySlippageViolations (e : FillEvidence F) : List (SemanticInvariantViolation F) :=
  match e.entrySlippageCost with
  | some cost =>
    violationUnless (e.embedded = true → FloatNum.feq cost (FloatNum.ofInt 0) = true)
      "ENTRY_SLIPPAGE_DOUBLE_COUNT"
      [("entry_slippage_embedded_in_fill", .bool true), ("entry_slippage_cost", .float cost)]
  | none => []

def fillEvidenceViolations (e : FillEvidence F) : List (SemanticInvariantViolation F) :=
  violationUnless (e.attributable = true → ∀ x ∈ e.required, x.isSome)
    "ATTRIBUTABLE_REJECT_PARITY_EVIDENCE_INCOMPLETE" []

def expectedFillViolations (payload : Payload F) (tol : F) : List (SemanticInvariantViolation F) :=
  let e := fillEvidence py payload
  if claimsFillParity py payload then
    fillEntryViolations e tol ++ entrySlippageViolations e ++ fillEvidenceViolations e
  else []

/-- `validate_pre_submit_semantics`. -/
def validatePreSubmitSemantics (payload : Payload F) (numericAbsTol : F) :
    List (SemanticInvariantViolation F) :=
  let p := projectPreSubmitInvariant py payload
  geometryViolations py payload ++ effectiveRrViolations p numericAbsTol ++ riskScaleViolations p ++
    notionalViolations p numericAbsTol ++ gateSetViolations py payload p ++
    (gateEvidence payload).flatMap (gateObservedViolations py p numericAbsTol) ++
    acceptViolations p ++ rejectViolations p ++ expectedFillViolations py payload numericAbsTol

/-! ## 3. What a surface lacks -/

/-- A field of the projection. -/
inductive FieldValue (F : Type) where
  | number (x : Option F)
  | text (s : String)
  | gates (xs : List String)
  | provenance (entries : List (String × String))

/-- The fields in the order of the class. -/
def PreSubmitInvariant.fields (p : PreSubmitInvariant F) : List (String × FieldValue F) :=
  [ ("decision", .text p.decision),
    ("primary_reject_reason", .text p.primaryRejectReason),
    ("failed_gates", .gates p.failedGates),
    ("score", .number p.score),
    ("candidate_rr", .number p.candidateRr),
    ("executable_raw_rr", .number p.executableRawRr),
    ("remaining_execution_penalty", .number p.remainingExecutionPenalty),
    ("effective_rr", .number p.effectiveRr),
    ("rr_basis", .text p.rrBasis),
    ("execution_cost_semantics", .text p.executionCostSemantics),
    ("threshold_provenance", .provenance p.thresholdProvenance),
    ("execution_evidence_status", .text p.executionEvidenceStatus),
    ("portfolio_decision", .text p.portfolioDecision),
    ("original_notional", .number p.originalNotional),
    ("risk_scale", .number p.riskScale),
    ("effective_notional", .number p.effectiveNotional),
    ("stop_distance_basis", .text p.stopDistanceBasis),
    ("geometry_status", .text p.geometryStatus),
    ("geometry_source", .text p.geometrySource),
    ("lifecycle_pre_submit_terminal_state", .text p.lifecyclePreSubmitTerminalState) ]

/-- The statuses that are no evidence of an execution. -/
def incompleteEvidence : List String :=
  ["", "UNKNOWN", "UNAVAILABLE", "INCOMPLETE", "UNAVAILABLE_BLOCKING", "INVALID_FAKE_ZERO"]

/-- `incomplete_pre_submit_fields`, on a projection. -/
def incompletePreSubmitFields (p : PreSubmitInvariant F) : List String :=
  [ ("score", p.score.isNone),
    ("candidate_rr", p.candidateRr.isNone),
    ("executable_raw_rr", p.executableRawRr.isNone),
    ("remaining_execution_penalty", p.remainingExecutionPenalty.isNone),
    ("effective_rr", p.effectiveRr.isNone),
    ("original_notional", p.originalNotional.isNone),
    ("risk_scale", p.riskScale.isNone),
    ("effective_notional", p.effectiveNotional.isNone),
    ("rr_basis", p.rrBasis = ""),
    ("execution_cost_semantics", p.executionCostSemantics = ""),
    ("stop_distance_basis", p.stopDistanceBasis = ""),
    ("geometry_status", p.geometryStatus = ""),
    ("geometry_source", p.geometrySource = ""),
    ("threshold_provenance", p.thresholdProvenance = []),
    ("execution_evidence_status", p.executionEvidenceStatus ∈ incompleteEvidence),
    ("portfolio_decision", p.portfolioDecision = "UNKNOWN"),
    ("lifecycle_pre_submit_terminal_state", p.lifecyclePreSubmitTerminalState = ""),
    ("decision", p.decision = "UNKNOWN")
  ].filterMap fun (field, missing) => if missing then some field else none

/-! ## 4. The comparison -/

/-- `InvariantMismatch`. -/
structure InvariantMismatch (F : Type) where
  field : String
  expected : FieldValue F
  observed : FieldValue F

/-- Two values of one field agree: two numbers up to the tolerance, everything else exactly. -/
def FieldValue.agrees (tol : F) : FieldValue F → FieldValue F → Bool
  | .number (some a), .number (some b) => isClose a b tol
  | .number none, .number none => true
  | .text a, .text b => a = b
  | .gates a, .gates b => a = b
  | .provenance a, .provenance b => a = b
  | _, _ => false

/-- `compare_pre_submit_invariants`. -/
def comparePreSubmitInvariants (expected observed : PreSubmitInvariant F) (numericAbsTol : F) :
    List (InvariantMismatch F) :=
  (expected.fields.zip observed.fields).filterMap fun ((field, left), (_, right)) =>
    if left.agrees numericAbsTol right then none
    else some { field := field, expected := left, observed := right }

/-! ## 5. The parity check -/

/-- What the check raises. -/
inductive ParityError (F : Type) where
  /-- `DECISION_SEMANTIC_INVARIANT_VIOLATION`. -/
  | semantic (violations : List (SemanticInvariantViolation F))
  /-- `DECISION_PARITY_EVIDENCE_INCOMPLETE`. -/
  | incomplete (missing : List String)
  /-- `DECISION_PARITY_MISMATCH`. -/
  | mismatch (mismatches : List (InvariantMismatch F))

/-- The default tolerance of the comparison. -/
def defaultAbsTol : F := 1e-9

/-- `if found: raise`. -/
def raiseIfAny {α : Type} (found : List α) (error : List α → ParityError F) :
    Except (ParityError F) Unit :=
  if found = [] then .ok () else .error (error found)

/-- `assert_pre_submit_semantics`. -/
def assertPreSubmitSemantics (payload : Payload F) (numericAbsTol : F) :
    Except (ParityError F) (PreSubmitInvariant F) := do
  raiseIfAny (validatePreSubmitSemantics py payload numericAbsTol) .semantic
  return projectPreSubmitInvariant py payload

/-- The checks of one surface by itself. -/
def checkedSurface (payload : Payload F) (numericAbsTol : F) :
    Except (ParityError F) (PreSubmitInvariant F) := do
  let _ ← assertPreSubmitSemantics py payload numericAbsTol
  raiseIfAny (incompletePreSubmitFields (projectPreSubmitInvariant py payload)) .incomplete
  return projectPreSubmitInvariant py payload

/-- The body of the loop over the other surfaces. The comparison has its own default tolerance. -/
def checkAgainst (expected : PreSubmitInvariant F) (payload : Payload F) (numericAbsTol : F) :
    Except (ParityError F) Unit := do
  let observed ← checkedSurface py payload numericAbsTol
  raiseIfAny (comparePreSubmitInvariants expected observed defaultAbsTol) .mismatch

/-- `assert_pre_submit_invariant_parity`. -/
def assertPreSubmitInvariantParity (reference : Payload F) (surfaces : List (Payload F))
    (numericAbsTol : F) : Except (ParityError F) (PreSubmitInvariant F) := do
  let expected ← checkedSurface py reference numericAbsTol
  surfaces.forM fun payload => checkAgainst py expected payload numericAbsTol
  return expected

/-! ## 6. What a valid surface is -/

omit [FloatNum F] in
theorem violationUnless_eq_nil {holds : Prop} [Decidable holds] {code : String}
    {detail : List (String × Value F)} : violationUnless holds code detail = [] ↔ holds := by
  unfold violationUnless
  split
  · rename_i h
    exact iff_of_true rfl h
  · rename_i h
    exact iff_of_false (List.cons_ne_nil _ _) h

/-- How the values of a payload have to relate. -/
structure SemanticallyValid (payload : Payload F) (tol : F) : Prop where
  geometry : (payload.get "geometry_status").label py ∈ unavailableGeometry →
    ∀ field ∈ authoritativeGeometry, (payload.get field).number py = none
  effectiveRr : ∀ executable penalty effective,
    (projectPreSubmitInvariant py payload).executableRawRr = some executable →
    (projectPreSubmitInvariant py payload).remainingExecutionPenalty = some penalty →
    (projectPreSubmitInvariant py payload).effectiveRr = some effective →
    isClose effective (expectedEffectiveRr executable penalty) tol
  riskScale : ∀ scale, (projectPreSubmitInvariant py payload).riskScale = some scale →
    FloatNum.ofInt 0 ≤ scale ∧ scale ≤ FloatNum.ofInt 1
  notional : ∀ original scale effective,
    (projectPreSubmitInvariant py payload).originalNotional = some original →
    (projectPreSubmitInvariant py payload).riskScale = some scale →
    (projectPreSubmitInvariant py payload).effectiveNotional = some effective →
    isClose effective (original * scale) tol
  gateSet : gateEvidence payload ≠ [] →
    evidenceGates py payload = (projectPreSubmitInvariant py payload).failedGates
  gateObserved : ∀ item ∈ gateEvidence payload, ∀ observed authority,
    (item.get "observed").number py = some observed →
    observedAuthority (projectPreSubmitInvariant py payload) (gateOf py item) = some authority →
    isClose observed authority tol
  accepted : (projectPreSubmitInvariant py payload).decision = "ACCEPT" →
    (projectPreSubmitInvariant py payload).failedGates = []
  rejected : (projectPreSubmitInvariant py payload).decision = "REJECT" →
    (projectPreSubmitInvariant py payload).primaryRejectReason ≠ "" ∧
    (projectPreSubmitInvariant py payload).primaryRejectReason ∈
      (projectPreSubmitInvariant py payload).failedGates
  fillEntry : claimsFillParity py payload → ∀ executable hypothetical,
    (fillEvidence py payload).executableEntry = some executable →
    (fillEvidence py payload).hypotheticalEntry = some hypothetical →
    isClose executable hypothetical tol
  entrySlippage : claimsFillParity py payload → (fillEvidence py payload).embedded = true →
    ∀ cost, (fillEvidence py payload).entrySlippageCost = some cost →
    FloatNum.feq cost (FloatNum.ofInt 0) = true
  attributable : claimsFillParity py payload → (fillEvidence py payload).attributable = true →
    ∀ x ∈ (fillEvidence py payload).required, x.isSome

variable {py}

theorem geometryViolations_eq_nil {payload : Payload F} :
    geometryViolations py payload = [] ↔
      ((payload.get "geometry_status").label py ∈ unavailableGeometry →
        ∀ field ∈ authoritativeGeometry, (payload.get field).number py = none) := by
  unfold geometryViolations
  rw [violationUnless_eq_nil]
  refine imp_congr_right fun _ => ?_
  unfold leakedGeometry
  rw [List.filter_eq_nil_iff]
  refine forall₂_congr fun field _ => ?_
  rw [Bool.not_eq_true, Option.isSome_eq_false_iff, Option.isNone_iff_eq_none]

theorem effectiveRrViolations_eq_nil {p : PreSubmitInvariant F} {tol : F} :
    effectiveRrViolations p tol = [] ↔ ∀ executable penalty effective,
      p.executableRawRr = some executable → p.remainingExecutionPenalty = some penalty →
      p.effectiveRr = some effective →
      isClose effective (expectedEffectiveRr executable penalty) tol := by
  unfold effectiveRrViolations
  split
  · rename_i executable penalty effective hraw hpen heff
    rw [violationUnless_eq_nil, hraw, hpen, heff]
    constructor
    · intro h _ _ _ h1 h2 h3
      cases h1
      cases h2
      cases h3
      exact h
    · intro h
      exact h _ _ _ rfl rfl rfl
  · rename_i hmissing
    exact iff_of_true rfl fun _ _ _ h1 h2 h3 => (hmissing _ _ _ h1 h2 h3).elim

theorem riskScaleViolations_eq_nil {p : PreSubmitInvariant F} :
    riskScaleViolations p = [] ↔ ∀ scale, p.riskScale = some scale →
      FloatNum.ofInt 0 ≤ scale ∧ scale ≤ FloatNum.ofInt 1 := by
  unfold riskScaleViolations
  split
  · rename_i scale hscale
    rw [violationUnless_eq_nil, hscale]
    constructor
    · intro h _ heq
      cases heq
      exact h
    · intro h
      exact h _ rfl
  · rename_i hnone
    rw [hnone]
    exact iff_of_true rfl fun _ h => (Option.some_ne_none _ h.symm).elim

theorem notionalViolations_eq_nil {p : PreSubmitInvariant F} {tol : F} :
    notionalViolations p tol = [] ↔ ∀ original scale effective,
      p.originalNotional = some original → p.riskScale = some scale →
      p.effectiveNotional = some effective → isClose effective (original * scale) tol := by
  unfold notionalViolations
  split
  · rename_i original scale effective horiginal hscale heff
    rw [violationUnless_eq_nil, horiginal, hscale, heff]
    constructor
    · intro h _ _ _ h1 h2 h3
      cases h1
      cases h2
      cases h3
      exact h
    · intro h
      exact h _ _ _ rfl rfl rfl
  · rename_i hmissing
    exact iff_of_true rfl fun _ _ _ h1 h2 h3 => (hmissing _ _ _ h1 h2 h3).elim

theorem gateObservedViolations_eq_nil {p : PreSubmitInvariant F} {tol : F} {item : Payload F} :
    gateObservedViolations py p tol item = [] ↔ ∀ observed authority,
      (item.get "observed").number py = some observed →
      observedAuthority p (gateOf py item) = some authority → isClose observed authority tol := by
  unfold gateObservedViolations
  split
  · rename_i observed authority hobs hauth
    rw [violationUnless_eq_nil, hobs, hauth]
    constructor
    · intro h _ _ h1 h2
      cases h1
      cases h2
      exact h
    · intro h
      exact h _ _ rfl rfl
  · rename_i hmissing
    exact iff_of_true rfl fun _ _ h1 h2 => (hmissing _ _ h1 h2).elim

omit [FloatNum F] in
theorem rejectViolations_eq_nil {p : PreSubmitInvariant F} :
    rejectViolations p = [] ↔ (p.decision = "REJECT" →
      p.primaryRejectReason ≠ "" ∧ p.primaryRejectReason ∈ p.failedGates) := by
  unfold rejectViolations
  by_cases hreject : p.decision = "REJECT"
  · rw [if_pos hreject, List.append_eq_nil_iff, violationUnless_eq_nil]
    by_cases hgates : p.failedGates = []
    · rw [if_pos hgates]
      constructor
      · intro ⟨_, h⟩
        cases h
      · intro h
        have hmem := (h hreject).2
        rw [hgates] at hmem
        exact absurd hmem List.not_mem_nil
    · rw [if_neg hgates, violationUnless_eq_nil]
      constructor
      · intro ⟨hreason, hmem⟩ _
        exact ⟨hreason, hmem hreason⟩
      · intro h
        exact ⟨(h hreject).1, fun _ => (h hreject).2⟩
  · rw [if_neg hreject]
    exact iff_of_true rfl fun h => absurd h hreject

theorem fillEntryViolations_eq_nil {e : FillEvidence F} {tol : F} :
    fillEntryViolations e tol = [] ↔ ∀ executable hypothetical,
      e.executableEntry = some executable → e.hypotheticalEntry = some hypothetical →
      isClose executable hypothetical tol := by
  unfold fillEntryViolations
  split
  · rename_i executable hypothetical h1 h2
    rw [violationUnless_eq_nil, h1, h2]
    constructor
    · intro h _ _ h1 h2
      cases h1
      cases h2
      exact h
    · intro h
      exact h _ _ rfl rfl
  · rename_i hmissing
    exact iff_of_true rfl fun _ _ h1 h2 => (hmissing _ _ h1 h2).elim

theorem entrySlippageViolations_eq_nil {e : FillEvidence F} :
    entrySlippageViolations e = [] ↔ (e.embedded = true → ∀ cost, e.entrySlippageCost = some cost →
      FloatNum.feq cost (FloatNum.ofInt 0) = true) := by
  unfold entrySlippageViolations
  split
  · rename_i cost hcost
    rw [violationUnless_eq_nil, hcost]
    refine imp_congr_right fun _ => ?_
    constructor
    · intro h _ heq
      cases heq
      exact h
    · intro h
      exact h _ rfl
  · rename_i hnone
    rw [hnone]
    exact iff_of_true rfl fun _ _ h => (Option.some_ne_none _ h.symm).elim

theorem expectedFillViolations_eq_nil {payload : Payload F} {tol : F} :
    expectedFillViolations py payload tol = [] ↔ (claimsFillParity py payload →
      fillEntryViolations (fillEvidence py payload) tol = [] ∧
      entrySlippageViolations (fillEvidence py payload) = [] ∧
      fillEvidenceViolations (fillEvidence py payload) = []) := by
  simp only [expectedFillViolations]
  by_cases hclaims : claimsFillParity py payload
  · rw [if_pos hclaims, List.append_eq_nil_iff, List.append_eq_nil_iff, and_assoc]
    exact ⟨fun h _ => h, fun h => h hclaims⟩
  · rw [if_neg hclaims]
    exact iff_of_true rfl fun h => absurd h hclaims

/-- The validation finds nothing exactly on a valid surface. -/
theorem validatePreSubmitSemantics_eq_nil {payload : Payload F} {tol : F} :
    validatePreSubmitSemantics py payload tol = [] ↔ SemanticallyValid py payload tol := by
  simp only [validatePreSubmitSemantics, List.append_eq_nil_iff, List.flatMap_eq_nil_iff,
    geometryViolations_eq_nil, effectiveRrViolations_eq_nil, riskScaleViolations_eq_nil,
    notionalViolations_eq_nil, gateObservedViolations_eq_nil, rejectViolations_eq_nil,
    expectedFillViolations_eq_nil, fillEntryViolations_eq_nil, entrySlippageViolations_eq_nil,
    gateSetViolations, acceptViolations, fillEvidenceViolations, violationUnless_eq_nil]
  constructor
  · intro ⟨⟨⟨⟨⟨⟨⟨⟨hgeo, hrr⟩, hscale⟩, hnotional⟩, hset⟩, hobs⟩, hacc⟩, hrej⟩, hfill⟩
    exact
      { geometry := hgeo
        effectiveRr := hrr
        riskScale := hscale
        notional := hnotional
        gateSet := hset
        gateObserved := hobs
        accepted := hacc
        rejected := hrej
        fillEntry := fun h => (hfill h).1
        entrySlippage := fun h => (hfill h).2.1
        attributable := fun h => (hfill h).2.2 }
  · intro h
    exact ⟨⟨⟨⟨⟨⟨⟨⟨h.geometry, h.effectiveRr⟩, h.riskScale⟩, h.notional⟩, h.gateSet⟩,
      h.gateObserved⟩, h.accepted⟩, h.rejected⟩,
      fun hc => ⟨h.fillEntry hc, h.entrySlippage hc, h.attributable hc⟩⟩

/-! ## 7. Completeness and agreement -/

/-- The numbers of a projection. -/
def PreSubmitInvariant.numbers (p : PreSubmitInvariant F) : List (Option F) :=
  [p.score, p.candidateRr, p.executableRawRr, p.remainingExecutionPenalty, p.effectiveRr,
    p.originalNotional, p.riskScale, p.effectiveNotional]

/-- A projection with every protected field. -/
structure Complete (p : PreSubmitInvariant F) : Prop where
  numbers : ∀ x ∈ p.numbers, x ≠ none
  labels : ∀ s ∈ [p.rrBasis, p.executionCostSemantics, p.stopDistanceBasis, p.geometryStatus,
    p.geometrySource, p.lifecyclePreSubmitTerminalState], s ≠ ""
  provenance : p.thresholdProvenance ≠ []
  evidence : p.executionEvidenceStatus ∉ incompleteEvidence
  portfolio : p.portfolioDecision ≠ "UNKNOWN"
  decided : p.decision ≠ "UNKNOWN"

omit [FloatNum F] in
/-- Nothing is reported missing exactly on a complete projection. -/
theorem incompletePreSubmitFields_eq_nil {p : PreSubmitInvariant F} :
    incompletePreSubmitFields p = [] ↔ Complete p := by
  unfold incompletePreSubmitFields
  rw [List.filterMap_eq_nil_iff]
  simp only [List.forall_mem_cons, ite_eq_right_iff, reduceCtorEq, imp_false,
    Option.isNone_iff_eq_none,
    decide_eq_true_eq, List.not_mem_nil, IsEmpty.forall_iff, implies_true, and_true]
  constructor
  · intro ⟨h1, h2, h3, h4, h5, h6, h7, h8, h9, h10, h11, h12, h13, h14, h15, h16, h17, h18⟩
    exact
      { numbers := by
          simp only [PreSubmitInvariant.numbers, List.forall_mem_cons]
          exact ⟨h1, h2, h3, h4, h5, h6, h7, h8, fun _ hx => absurd hx List.not_mem_nil⟩
        labels := by
          simp only [List.forall_mem_cons]
          exact ⟨h9, h10, h11, h12, h13, h17, fun _ hx => absurd hx List.not_mem_nil⟩
        provenance := h14
        evidence := h15
        portfolio := h16
        decided := h18 }
  · intro h
    have hnumbers := h.numbers
    have hlabels := h.labels
    simp only [PreSubmitInvariant.numbers, List.forall_mem_cons] at hnumbers hlabels
    obtain ⟨h1, h2, h3, h4, h5, h6, h7, h8, _⟩ := hnumbers
    obtain ⟨h9, h10, h11, h12, h13, h17, _⟩ := hlabels
    exact ⟨h1, h2, h3, h4, h5, h6, h7, h8, h9, h10, h11, h12, h13, h.provenance, h.evidence,
      h.portfolio, h17, h.decided⟩

/-- Everything but the numbers is the same. -/
structure SameIdentity (a b : PreSubmitInvariant F) : Prop where
  decision : a.decision = b.decision
  primaryRejectReason : a.primaryRejectReason = b.primaryRejectReason
  failedGates : a.failedGates = b.failedGates
  rrBasis : a.rrBasis = b.rrBasis
  executionCostSemantics : a.executionCostSemantics = b.executionCostSemantics
  thresholdProvenance : a.thresholdProvenance = b.thresholdProvenance
  executionEvidenceStatus : a.executionEvidenceStatus = b.executionEvidenceStatus
  portfolioDecision : a.portfolioDecision = b.portfolioDecision
  stopDistanceBasis : a.stopDistanceBasis = b.stopDistanceBasis
  geometryStatus : a.geometryStatus = b.geometryStatus
  geometrySource : a.geometrySource = b.geometrySource
  lifecyclePreSubmitTerminalState :
    a.lifecyclePreSubmitTerminalState = b.lifecyclePreSubmitTerminalState

omit [FloatNum F] in
theorem SameIdentity.refl (a : PreSubmitInvariant F) : SameIdentity a a :=
  ⟨rfl, rfl, rfl, rfl, rfl, rfl, rfl, rfl, rfl, rfl, rfl, rfl⟩

omit [FloatNum F] in
theorem SameIdentity.symm {a b : PreSubmitInvariant F} (h : SameIdentity a b) : SameIdentity b a :=
  ⟨h.1.symm, h.2.symm, h.3.symm, h.4.symm, h.5.symm, h.6.symm, h.7.symm, h.8.symm, h.9.symm,
    h.10.symm, h.11.symm, h.12.symm⟩

omit [FloatNum F] in
theorem SameIdentity.trans {a b c : PreSubmitInvariant F} (h : SameIdentity a b)
    (k : SameIdentity b c) : SameIdentity a c :=
  ⟨h.1.trans k.1, h.2.trans k.2, h.3.trans k.3, h.4.trans k.4, h.5.trans k.5, h.6.trans k.6,
    h.7.trans k.7, h.8.trans k.8, h.9.trans k.9, h.10.trans k.10, h.11.trans k.11,
    h.12.trans k.12⟩

/-- Two numbers are close, or both are missing. -/
def NumbersAgree (tol : F) (a b : Option F) : Prop :=
  match a, b with
  | some x, some y => isClose x y tol
  | none, none => True
  | _, _ => False

/-- The second projection agrees with the first. -/
structure AgreesWith (tol : F) (a b : PreSubmitInvariant F) : Prop where
  identity : SameIdentity a b
  numbers : List.Forall₂ (NumbersAgree tol) a.numbers b.numbers

theorem agrees_number {tol : F} {a b : Option F} :
    FieldValue.agrees tol (.number a) (.number b) = true ↔ NumbersAgree tol a b := by
  cases a <;> cases b <;> simp [FieldValue.agrees, NumbersAgree]

theorem agrees_text {tol : F} {a b : String} :
    FieldValue.agrees tol (.text a) (.text b) = true ↔ a = b := by
  simp only [FieldValue.agrees, decide_eq_true_eq]

theorem agrees_gates {tol : F} {a b : List String} :
    FieldValue.agrees tol (.gates a) (.gates b) = true ↔ a = b := by
  simp only [FieldValue.agrees, decide_eq_true_eq]

theorem agrees_provenance {tol : F} {a b : List (String × String)} :
    FieldValue.agrees tol (.provenance a) (.provenance b) = true ↔ a = b := by
  simp only [FieldValue.agrees, decide_eq_true_eq]

/-- The comparison finds nothing exactly where the second projection agrees with the first. -/
theorem comparePreSubmitInvariants_eq_nil {a b : PreSubmitInvariant F} {tol : F} :
    comparePreSubmitInvariants a b tol = [] ↔ AgreesWith tol a b := by
  unfold comparePreSubmitInvariants
  rw [List.filterMap_eq_nil_iff]
  simp only [PreSubmitInvariant.fields, List.zip_cons_cons, List.zip_nil_left, List.forall_mem_cons,
    ite_eq_left_iff, reduceCtorEq, imp_false, not_not, agrees_number, agrees_text, agrees_gates,
    agrees_provenance, List.not_mem_nil, IsEmpty.forall_iff, implies_true, and_true]
  constructor
  · intro ⟨h1, h2, h3, h4, h5, h6, h7, h8, h9, h10, h11, h12, h13, h14, h15, h16, h17,
      h18, h19, h20⟩
    refine ⟨⟨h1, h2, h3, h9, h10, h11, h12, h13, h17, h18, h19, h20⟩, ?_⟩
    simp only [PreSubmitInvariant.numbers, List.forall₂_cons]
    exact ⟨h4, h5, h6, h7, h8, h14, h15, h16, List.Forall₂.nil⟩
  · intro ⟨hid, hnumbers⟩
    simp only [PreSubmitInvariant.numbers, List.forall₂_cons] at hnumbers
    obtain ⟨h4, h5, h6, h7, h8, h14, h15, h16, _⟩ := hnumbers
    exact ⟨hid.1, hid.2, hid.3, h4, h5, h6, h7, h8, hid.4, hid.5, hid.6, hid.7, hid.8,
      h14, h15, h16,
      hid.9, hid.10, hid.11, hid.12⟩

/-! ## 8. The parity check -/

omit [FloatNum F] in
theorem raiseIfAny_ok_iff {α : Type} {found : List α} {error : List α → ParityError F} :
    raiseIfAny found error = .ok () ↔ found = [] := by
  unfold raiseIfAny
  split
  · rename_i h
    exact iff_of_true rfl h
  · rename_i h
    exact iff_of_false nofun h

/-- The checks of one surface pass exactly on a complete and valid one. -/
theorem checkedSurface_ok_iff {payload : Payload F} {tol : F} {p : PreSubmitInvariant F} :
    checkedSurface py payload tol = .ok p ↔
      p = projectPreSubmitInvariant py payload ∧ SemanticallyValid py payload tol ∧
        Complete (projectPreSubmitInvariant py payload) := by
  rw [← validatePreSubmitSemantics_eq_nil, ← incompletePreSubmitFields_eq_nil]
  unfold checkedSurface assertPreSubmitSemantics
  constructor
  · intro h
    obtain ⟨_, hsemantic, h⟩ := ok_of_bind h
    obtain ⟨_, hvalid, _⟩ := ok_of_bind hsemantic
    obtain ⟨_, hcomplete, h⟩ := ok_of_bind h
    cases h
    exact ⟨rfl, raiseIfAny_ok_iff.mp hvalid, raiseIfAny_ok_iff.mp hcomplete⟩
  · intro ⟨hp, hvalid, hcomplete⟩
    rw [hp, raiseIfAny_ok_iff.mpr hvalid, raiseIfAny_ok_iff.mpr hcomplete]
    rfl

/-- One other surface passes exactly where it is complete, valid and agrees with the first. -/
theorem checkAgainst_ok_iff {expected : PreSubmitInvariant F} {payload : Payload F} {tol : F} :
    checkAgainst py expected payload tol = .ok () ↔
      SemanticallyValid py payload tol ∧ Complete (projectPreSubmitInvariant py payload) ∧
        AgreesWith defaultAbsTol expected (projectPreSubmitInvariant py payload) := by
  rw [← comparePreSubmitInvariants_eq_nil]
  unfold checkAgainst
  constructor
  · intro h
    obtain ⟨observed, hchecked, h⟩ := ok_of_bind h
    obtain ⟨hobs, hvalid, hcomplete⟩ := checkedSurface_ok_iff.mp hchecked
    rw [hobs] at h
    exact ⟨hvalid, hcomplete, raiseIfAny_ok_iff.mp h⟩
  · intro ⟨hvalid, hcomplete, hnone⟩
    rw [checkedSurface_ok_iff.mpr ⟨rfl, hvalid, hcomplete⟩]
    exact raiseIfAny_ok_iff.mpr hnone

/-- What the check asks of the surfaces. -/
structure InParity (py : Builtins F) (reference : Payload F)
    (surfaces : List (Payload F)) (tol : F) :
    Prop where
  complete : ∀ s ∈ reference :: surfaces, Complete (projectPreSubmitInvariant py s)
  valid : ∀ s ∈ reference :: surfaces, SemanticallyValid py s tol
  agree : ∀ s ∈ surfaces, AgreesWith defaultAbsTol (projectPreSubmitInvariant py reference)
    (projectPreSubmitInvariant py s)

theorem assertPreSubmitInvariantParity_ok_iff {reference : Payload F} {surfaces : List (Payload F)}
    {tol : F} {p : PreSubmitInvariant F} :
    assertPreSubmitInvariantParity py reference surfaces tol = .ok p ↔
      p = projectPreSubmitInvariant py reference ∧ InParity py reference surfaces tol := by
  unfold assertPreSubmitInvariantParity
  constructor
  · intro h
    obtain ⟨expected, hreference, h⟩ := ok_of_bind h
    obtain ⟨hexp, hvalid, hcomplete⟩ := checkedSurface_ok_iff.mp hreference
    obtain ⟨_, hloop, h⟩ := ok_of_bind h
    cases h
    have hall := forM_ok_iff.mp hloop
    rw [hexp] at hall
    refine ⟨hexp, ?_, ?_, ?_⟩
    · exact List.forall_mem_cons.mpr ⟨hcomplete,
        fun s hs => (checkAgainst_ok_iff.mp (hall s hs)).2.1⟩
    · exact List.forall_mem_cons.mpr ⟨hvalid, fun s hs => (checkAgainst_ok_iff.mp (hall s hs)).1⟩
    · intro s hs
      exact (checkAgainst_ok_iff.mp (hall s hs)).2.2
  · intro ⟨hp, h⟩
    obtain ⟨hcomplete, hcompletes⟩ := List.forall_mem_cons.mp h.complete
    obtain ⟨hvalid, hvalids⟩ := List.forall_mem_cons.mp h.valid
    have hloop : (surfaces.forM fun payload =>
        checkAgainst py (projectPreSubmitInvariant py reference) payload tol) = .ok () :=
      forM_ok_iff.mpr fun s hs =>
        checkAgainst_ok_iff.mpr ⟨hvalids s hs, hcompletes s hs, h.agree s hs⟩
    rw [checkedSurface_ok_iff.mpr ⟨rfl, hvalid, hcomplete⟩, hp]
    show (surfaces.forM _ >>= fun _ => Except.ok _) = _
    rw [hloop]
    rfl

theorem InParity.sameIdentity {reference : Payload F} {surfaces : List (Payload F)} {tol : F}
    (h : InParity py reference surfaces tol) {s t : Payload F} (hs : s ∈ reference :: surfaces)
    (ht : t ∈ reference :: surfaces) :
    SameIdentity (projectPreSubmitInvariant py s) (projectPreSubmitInvariant py t) := by
  have hfirst : ∀ u ∈ reference :: surfaces,
      SameIdentity (projectPreSubmitInvariant py reference) (projectPreSubmitInvariant py u) :=
    List.forall_mem_cons.mpr ⟨SameIdentity.refl _, fun u hu => (h.agree u hu).identity⟩
  exact (hfirst s hs).symm.trans (hfirst t ht)

/-- **The check passes exactly on complete and valid surfaces that agree with the first.**
    Everything but the numbers is then the same on any two surfaces. -/
theorem parity_ok_iff (py : Builtins F) (reference : Payload F) (surfaces : List (Payload F)) :
    ((∃ p, assertPreSubmitInvariantParity py reference surfaces defaultAbsTol = .ok p) ↔
      InParity py reference surfaces defaultAbsTol) ∧
    ∀ p, assertPreSubmitInvariantParity py reference surfaces defaultAbsTol = .ok p →
      p = projectPreSubmitInvariant py reference ∧
      ∀ s ∈ reference :: surfaces, ∀ t ∈ reference :: surfaces,
        SameIdentity (projectPreSubmitInvariant py s) (projectPreSubmitInvariant py t) := by
  refine ⟨⟨fun ⟨p, hp⟩ => (assertPreSubmitInvariantParity_ok_iff.mp hp).2, fun h =>
    ⟨_, assertPreSubmitInvariantParity_ok_iff.mpr ⟨rfl, h⟩⟩⟩, ?_⟩
  intro p hp
  obtain ⟨hproject, h⟩ := assertPreSubmitInvariantParity_ok_iff.mp hp
  exact ⟨hproject, fun s hs t ht => h.sameIdentity hs ht⟩

/-- An accepted decision with a given score. -/
def acceptedSurface (score : Float) : Payload Float :=
  [ ("decision", .text "ACCEPT"), ("score", .float score), ("candidate_rr", .float 2),
    ("executable_raw_rr", .float 2), ("remaining_execution_penalty", .float 0.5),
    ("effective_rr", .float 1.5), ("rr_basis", .text "EXPECTED_FILL"),
    ("execution_cost_semantics", .text "ENTRY_SLIPPAGE_IN_FILL"),
    ("threshold_provenance", .mapping [("min_score", .text "config")]),
    ("execution_evidence_status", .text "COMPLETE"), ("portfolio_decision", .text "ACCEPT"),
    ("original_notional", .float 100), ("risk_scale", .float 1), ("effective_notional", .float 100),
    ("stop_distance_basis", .text "ENTRY_TO_STOP"), ("geometry_status", .text "AVAILABLE"),
    ("geometry_source", .text "STRATEGY"), ("lifecycle_pre_submit_terminal_state",
      .text "ACCEPTED") ]

/-- Builtins for payloads of texts and numbers only. -/
def plainBuiltins : Builtins Float where
  parse _ := none
  str _ := ""
  dumps _ := ""

/-- Two surfaces on either side of the first one's score, and one with the same. -/
def driftingSurfaces : List (Payload Float) :=
  [acceptedSurface 1e-9, acceptedSurface (-1e-9), acceptedSurface 0]

theorem drifting_ok :
    assertPreSubmitInvariantParity plainBuiltins (acceptedSurface 0) driftingSurfaces
      defaultAbsTol =
      .ok (projectPreSubmitInvariant plainBuiltins (acceptedSurface 0)) := by
  have hok : (assertPreSubmitInvariantParity plainBuiltins (acceptedSurface 0) driftingSurfaces
      defaultAbsTol).isOk = true := by decide +kernel
  cases h : assertPreSubmitInvariantParity plainBuiltins (acceptedSurface 0) driftingSurfaces
      defaultAbsTol with
  | error e =>
    rw [h] at hok
    cases hok
  | ok p => rw [(assertPreSubmitInvariantParity_ok_iff.mp h).1]

theorem parity_ok_drifting :
    SameIdentity (projectPreSubmitInvariant plainBuiltins (acceptedSurface 1e-9))
      (projectPreSubmitInvariant plainBuiltins (acceptedSurface (-1e-9))) := by
  have hidentity := ((parity_ok_iff plainBuiltins (acceptedSurface 0) driftingSurfaces).2 _
    drifting_ok).2
  exact hidentity _ (List.mem_cons_of_mem _ (List.mem_cons_self ..)) _
    (List.mem_cons_of_mem _ (List.mem_cons_of_mem _ (List.mem_cons_self ..)))

/-- Four surfaces pass although the second and the third disagree: each is within the tolerance of
    the first, on either side of it. -/
theorem parity_tolerance_adds_up :
    (assertPreSubmitInvariantParity plainBuiltins (acceptedSurface 0) driftingSurfaces
      defaultAbsTol).isOk = true ∧
    (comparePreSubmitInvariants (projectPreSubmitInvariant plainBuiltins (acceptedSurface 1e-9))
      (projectPreSubmitInvariant plainBuiltins (acceptedSurface (-1e-9))) defaultAbsTol).map
        (·.field) =
      ["score"] := by
  decide +kernel

end AlphaForge.Decisions.Parity
