/-
  File:      AlphaForge/Lib/Payload.lean
  Subject:   Untyped payloads: mappings with text keys and arbitrary values, over any number
             format. No program fact.

  * `Value` -- None, Booleans, integers, floats, texts, sequences and mappings.
  * `Builtins` -- what the language makes of a text or a value: the float a text spells, `str`,
    and the canonical JSON text.
  * `number` -- a number where the value is one or spells one.
  * `finite` -- no float in the value is NaN or infinite.
-/
import AlphaForge.Lib.Numbers
import AlphaForge.Lib.PyValues

namespace AlphaForge.Lib

/-- A value of a payload. Integers beyond the float range, on which `float` raises, are left
    out. -/
inductive Value (F : Type) where
  | none
  | bool (b : Bool)
  | int (n : ℤ)
  | float (x : F)
  | text (s : String)
  | list (items : List (Value F))
  | mapping (entries : List (String × Value F))

/-- A mapping with text keys. -/
abbrev Payload (F : Type) := List (String × Value F)

/-- What the language's functions make of a text or a value. -/
structure Builtins (F : Type) where
  /-- `float(text)`; `none` where it raises. -/
  parse : String → Option F
  /-- `str(value)` of a value that is no text. -/
  str : Value F → String
  /-- `json.dumps(value, sort_keys=True, default=str)`. -/
  dumps : Value F → String

variable {F : Type} [FloatNum F]

/-- `bool(value)`. -/
def Value.truthy : Value F → Bool
  | .none => false
  | .bool b => b
  | .int n => n != 0
  | .float x => !FloatNum.feq x (FloatNum.ofInt 0)
  | .text s => s != ""
  | .list items => !items.isEmpty
  | .mapping entries => !entries.isEmpty

/-- `a or b`. -/
def Value.or (a b : Value F) : Value F := if a.truthy then a else b

omit [FloatNum F] in
/-- `value if isinstance(value, Mapping) else {}`. -/
def Value.asMapping : Value F → Payload F
  | .mapping entries => entries
  | _ => []

namespace Payload

omit [FloatNum F] in
/-- `payload.get(key, default)`. -/
def getD (p : Payload F) (key : String) (default : Value F) : Value F :=
  (p.lookup key).getD default

omit [FloatNum F] in
/-- `payload.get(key)`. -/
def get (p : Payload F) (key : String) : Value F := p.getD key .none

end Payload

variable (py : Builtins F)

/-- The number of a value: missing and unknown ones have none. -/
def Value.number : Value F → Option F
  | .none => Option.none
  | .bool b => some (FloatNum.ofInt (if b then 1 else 0))
  | .int n => some (FloatNum.ofInt n)
  | .float x => some x
  | .text s => if s = "" ∨ s = "UNKNOWN" ∨ s = "UNAVAILABLE" then Option.none else py.parse s
  | .list _ => Option.none
  | .mapping _ => Option.none

omit [FloatNum F] in
/-- `str(value)`. -/
def Value.str : Value F → String
  | .text s => s
  | v => py.str v

/-- `str(value or "").strip().upper()`. -/
def Value.label (v : Value F) : String :=
  if v.truthy then upper (strip (v.str py)) else ""

/-! ## Finite values -/

mutual

/-- No float in the value is NaN or infinite: `json.dumps(value, allow_nan=False)` takes it. -/
def Value.finite : Value F → Bool
  | .float x => FloatNum.isFinite x
  | .list items => finiteItems items
  | .mapping entries => finiteEntries entries
  | _ => true

def finiteItems : List (Value F) → Bool
  | [] => true
  | v :: rest => v.finite && finiteItems rest

def finiteEntries : List (String × Value F) → Bool
  | [] => true
  | (_, v) :: rest => v.finite && finiteEntries rest

end

@[simp] theorem finite_none : (Value.none : Value F).finite = true := rfl

@[simp] theorem finite_bool (b : Bool) : (Value.bool b : Value F).finite = true := rfl

@[simp] theorem finite_int (n : ℤ) : (Value.int n : Value F).finite = true := rfl

@[simp] theorem finite_text (s : String) : (Value.text s : Value F).finite = true := rfl

@[simp] theorem finite_float (x : F) : (Value.float x).finite = FloatNum.isFinite x := rfl

@[simp] theorem finite_list (items : List (Value F)) :
    (Value.list items).finite = finiteItems items := rfl

@[simp] theorem finite_mapping (entries : Payload F) :
    (Value.mapping entries).finite = finiteEntries entries := rfl

theorem finiteItems_iff {items : List (Value F)} :
    finiteItems items = true ↔ ∀ v ∈ items, v.finite = true := by
  induction items with
  | nil => simp [finiteItems]
  | cons v rest ih => rw [finiteItems, Bool.and_eq_true, ih, List.forall_mem_cons]

theorem finiteEntries_iff {entries : Payload F} :
    finiteEntries entries = true ↔ ∀ e ∈ entries, e.2.finite = true := by
  induction entries with
  | nil => simp [finiteEntries]
  | cons e rest ih => rw [finiteEntries, Bool.and_eq_true, ih, List.forall_mem_cons]

end AlphaForge.Lib
