/-
  File:      AlphaForge/Lib/PyValues.lean
  Subject:   The Python values that untyped callers and JSON columns hand to a program, with
             exact numbers, and the errors an operation raises. No program fact.

  * `Scalar` -- one value of a mapping; `number?` is what `float(value)` makes of it when that is
    a finite number.
  * `Dict` -- a mapping with text keys; `get` answers `none` for an absent key.
  * `Dt` -- a datetime as the library compares them: naive and aware ones do not mix.
-/
import Mathlib.Data.Rat.Defs
import Mathlib.Algebra.Order.Field.Rat
import Mathlib.Data.List.Dedup
import Mathlib.Data.List.Sort

namespace AlphaForge.Lib

/-! ## 1. Errors -/

/-- What an operation raises. -/
inductive PyError where
  | valueError (msg : String)
  | keyError (msg : String)
  | typeError
  | overflowError
  | runtimeError (msg : String)
  | integrityError
  | timeoutError
  deriving DecidableEq, Repr

/-- A bind that answers has both its parts answer. -/
theorem ok_of_bind {ε α β : Type} {x : Except ε α} {f : α → Except ε β} {b : β}
    (h : x >>= f = .ok b) : ∃ a, x = .ok a ∧ f a = .ok b := by
  rcases x with e | a
  · cases h
  · exact ⟨a, rfl, h⟩

theorem ok_bind {ε α β : Type} (a : α) (f : α → Except ε β) : (.ok a >>= f) = f a := rfl

theorem error_bind {ε α β : Type} (e : ε) (f : α → Except ε β) : (.error e >>= f) = .error e := rfl

/-- A loop of checks passes where each of them does. -/
theorem forM_ok_iff {ε α : Type} {check : α → Except ε Unit} {xs : List α} :
    xs.forM check = .ok () ↔ ∀ x ∈ xs, check x = .ok () := by
  induction xs with
  | nil => exact ⟨fun _ _ hx => absurd hx List.not_mem_nil, fun _ => rfl⟩
  | cons x xs ih =>
    rw [List.forall_mem_cons, ← ih]
    constructor
    · intro h
      obtain ⟨_, hx, hrest⟩ := ok_of_bind (x := check x) (f := fun _ => xs.forM check) h
      exact ⟨hx, hrest⟩
    · intro ⟨hx, hrest⟩
      have hstep : (check x >>= fun _ => xs.forM check) = .ok () := by
        rw [hx]
        exact hrest
      exact hstep

/-! ## 2. Values -/

/-- A Python value. A text that `float` reads as a finite number is a `numeral` with that
    reading; a list or mapping is carried as its JSON text, nothing looks into it. -/
inductive Scalar where
  | none
  | bool (b : Bool)
  | int (n : ℤ)
  | float (x : ℚ)
  /-- NaN and the infinities, as floats or spelled out. -/
  | nonFinite
  | numeral (s : String) (x : ℚ)
  | text (s : String)
  | container (json : String)
  deriving DecidableEq, Repr

/-- `bool(value)`. -/
def Scalar.truthy : Scalar → Bool
  | .none => false
  | .bool b => b
  | .int n => n != 0
  | .float x => x != 0
  | .nonFinite => true
  | .numeral _ _ => true
  | .text s => s != ""
  | .container json => json != "[]" && json != "{}"

/-- `float(value)` where it is a finite number; a Boolean reads as 0 or 1. -/
def Scalar.number? : Scalar → Option ℚ
  | .bool b => some (if b then 1 else 0)
  | .int n => some n
  | .float x => some x
  | .numeral _ x => some x
  | _ => Option.none

/-- `str(value or "")` of a missing, empty or textual value; `none` stands for the rendering of a
    number, a Boolean or a container, which is a text that spells no word. -/
def Scalar.textOrEmpty (v : Scalar) : Option String :=
  if v.truthy then
    match v with
    | .numeral s _ => some s
    | .text s => some s
    | _ => Option.none
  else some ""

/-- `text.upper()` on ASCII letters. -/
def upper (s : String) : String := String.ofList (s.toList.map Char.toUpper)

theorem toUpper_toUpper (c : Char) : c.toUpper.toUpper = c.toUpper := by
  by_cases h : 'a'.val ≤ c.val ∧ c.val ≤ 'z'.val
  · -- a lower-case letter moves below the range
    have hv : c.toUpper.val = c.val + ('A'.val - 'a'.val) := by
      unfold Char.toUpper
      rw [dif_pos h]
    have hn : ¬ ('a'.val ≤ c.toUpper.val ∧ c.toUpper.val ≤ 'z'.val) := by
      rw [hv]
      intro ⟨hlow, _⟩
      have h1 : 97 ≤ c.val.toNat := h.1
      have h2 : c.val.toNat ≤ 122 := h.2
      have h3 : 97 ≤ (c.val + 4294967264).toNat := hlow
      rw [UInt32.toNat_add] at h3
      have h4 : (4294967264 : UInt32).toNat = 4294967264 := rfl
      omega
    generalize c.toUpper = d at hn ⊢
    unfold Char.toUpper
    exact dif_neg hn
  · have hc : c.toUpper = c := by
      unfold Char.toUpper
      exact dif_neg h
    rw [hc, hc]

theorem upper_upper (s : String) : upper (upper s) = upper s := by
  unfold upper
  rw [String.toList_ofList, List.map_map]
  congr 2
  funext c
  exact toUpper_toUpper c

/-- `text.lower()` on ASCII letters. -/
def lower (s : String) : String := String.ofList (s.toList.map Char.toLower)

/-- `text.strip()`. -/
def strip (s : String) : String :=
  String.ofList
    ((s.toList.dropWhile Char.isWhitespace).reverse.dropWhile Char.isWhitespace).reverse

/-- `a or b` of two nullable numbers: zero counts as missing. -/
def orElse (a b : Option ℚ) : Option ℚ :=
  match a with
  | some x => if x = 0 then b else some x
  | none => b

/-- `sorted(set(texts))`. -/
def sortedSet (texts : List String) : List String := texts.dedup.insertionSort (· ≤ ·)

theorem mem_sortedSet {x : String} {texts : List String} : x ∈ sortedSet texts ↔ x ∈ texts := by
  unfold sortedSet
  rw [List.mem_insertionSort, List.mem_dedup]

theorem sortedSet_eq_nil {texts : List String} : sortedSet texts = [] ↔ texts = [] := by
  constructor
  · intro h
    rw [List.eq_nil_iff_forall_not_mem]
    intro x hx
    have hmem := mem_sortedSet.mpr hx
    rw [h] at hmem
    exact absurd hmem List.not_mem_nil
  · intro h
    rw [h]
    rfl

/-! ## 3. Mappings -/

/-- A mapping with text keys. -/
abbrev Dict := List (String × Scalar)

/-- `mapping.get(key)`. -/
def Dict.get (d : Dict) (key : String) : Scalar := (d.lookup key).getD .none

/-- `key in mapping`. -/
def Dict.has (d : Dict) (key : String) : Bool := (d.lookup key).isSome

/-- `{**mapping, key: value}`. -/
def Dict.set (d : Dict) (key : String) (value : Scalar) : Dict :=
  (key, value) :: d.filter fun e => e.1 != key

/-! ## 4. Times -/

/-- A datetime: its offset in seconds where it carries one, and its microseconds (of UTC when it
    does). Comparison and subtraction look at the microseconds only. -/
structure Dt where
  offset : Option ℤ
  micros : ℤ
  deriving DecidableEq, Repr

/-- The datetime carries an offset. -/
def Dt.aware (d : Dt) : Bool := d.offset.isSome

/-- A text with what `datetime.fromisoformat` reads in it; `none` where that raises. -/
structure TimeText where
  text : String
  reading : Option Dt
  deriving DecidableEq, Repr

/-- `a - b` in seconds; naive and aware times do not subtract. -/
def Dt.secondsSince (a b : Dt) : Except PyError ℚ :=
  if a.aware = b.aware then .ok ((a.micros - b.micros : ℤ) / 1000000) else .error .typeError

/-- The datetime of a text, as a program that does not catch the error reads it. -/
def TimeText.parse (t : TimeText) : Except PyError Dt :=
  match t.reading with
  | some d => .ok d
  | none => .error (.valueError t.text)

end AlphaForge.Lib
