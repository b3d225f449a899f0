/-
  File:      AlphaForge/Lib/Extended.lean
  Subject:   Exact numbers with NaN and the infinities: what binary64 arithmetic computes without
             its rounding and its overflow. No program fact.

  * `Extended` -- a rational, an infinity or NaN, with the IEEE rules for the special values.
  * the instance of `FloatNum`: a program over any number format runs on exact numbers.
  * `isFinite_add`, `isFinite_mul`, `isFinite_div` -- finite numbers stay finite.
  * `finite_lt_iff`, `finite_le_iff`, `le_trans` -- the order.
-/
import AlphaForge.Lib.Numbers

namespace AlphaForge.Lib

/-- A rational, an infinity or NaN. -/
inductive Extended where
  | nan
  | negInf
  | finite (q : ℚ)
  | posInf
  deriving DecidableEq

namespace Extended

/-! ## 1. Arithmetic -/

/-- The extended rational a number denotes. -/
def value : Extended → Option ExtRat
  | .nan => none
  | .negInf => some ⊥
  | .finite q => some ((q : WithTop ℚ) : ExtRat)
  | .posInf => some ((⊤ : WithTop ℚ) : ExtRat)

def neg : Extended → Extended
  | .nan => .nan
  | .negInf => .posInf
  | .finite q => .finite (-q)
  | .posInf => .negInf

def add : Extended → Extended → Extended
  | .finite p, .finite q => .finite (p + q)
  | .nan, _ => .nan
  | _, .nan => .nan
  | .posInf, .negInf => .nan
  | .negInf, .posInf => .nan
  | .posInf, _ => .posInf
  | _, .posInf => .posInf
  | .negInf, _ => .negInf
  | _, .negInf => .negInf

/-- The infinity or NaN with the sign of `q`. -/
def signed (q : ℚ) : Extended := if 0 < q then .posInf else if q < 0 then .negInf else .nan

/-- The sign of a number that denotes one. -/
def sign : Extended → ℚ
  | .nan => 0
  | .negInf => -1
  | .finite q => if 0 < q then 1 else if q < 0 then -1 else 0
  | .posInf => 1

def mul : Extended → Extended → Extended
  | .finite p, .finite q => .finite (p * q)
  | .nan, _ => .nan
  | _, .nan => .nan
  | x, y => signed (x.sign * y.sign)

def div : Extended → Extended → Extended
  | .finite p, .finite q => if q = 0 then signed p else .finite (p / q)
  | .nan, _ => .nan
  | _, .nan => .nan
  | .finite _, _ => .finite 0
  | x, .finite q => if q < 0 then x.neg else x
  | _, _ => .nan

def abs : Extended → Extended
  | .nan => .nan
  | .negInf => .posInf
  | .finite q => .finite |q|
  | .posInf => .posInf

def isFinite : Extended → Bool
  | .finite _ => true
  | _ => false

/-- A comparison of the denoted values, false on NaN. -/
def compareWith (r : ExtRat → ExtRat → Prop) [DecidableRel r] (a b : Extended) : Bool :=
  match a.value, b.value with
  | some x, some y => decide (r x y)
  | _, _ => false

theorem compareWith_iff {r : ExtRat → ExtRat → Prop} [DecidableRel r] {a b : Extended} :
    compareWith r a b = true ↔ ∃ x y, a.value = some x ∧ b.value = some y ∧ r x y := by
  unfold compareWith
  cases ha : a.value <;> cases hb : b.value <;> simp

instance : Add Extended := ⟨add⟩
instance : Neg Extended := ⟨neg⟩
instance : Sub Extended := ⟨fun a b => a + -b⟩
instance : Mul Extended := ⟨mul⟩
instance : Div Extended := ⟨div⟩
instance : LT Extended := ⟨fun a b => compareWith (· < ·) a b = true⟩
instance : LE Extended := ⟨fun a b => compareWith (· ≤ ·) a b = true⟩
instance : OfScientific Extended := ⟨fun m s e => .finite (OfScientific.ofScientific m s e)⟩

instance : FloatNum Extended where
  decLt a b := inferInstanceAs (Decidable (compareWith (· < ·) a b = true))
  decLe a b := inferInstanceAs (Decidable (compareWith (· ≤ ·) a b = true))
  feq := compareWith (· = ·)
  abs := abs
  ofInt n := .finite n
  trunc
    | .finite q => some (q.num.tdiv q.den)
    | _ => none
  isFinite := isFinite
  value := value
  lt_iff _ _ := compareWith_iff
  le_iff _ _ := compareWith_iff
  feq_iff a b := by
    rw [compareWith_iff]
    constructor
    · intro ⟨x, y, ha, hb, h⟩
      exact ⟨x, ha, h ▸ hb⟩
    · intro ⟨x, ha, hb⟩
      exact ⟨x, x, ha, hb, rfl⟩
  finite_iff a := by cases a <;> simp [isFinite, value]
  value_zero := by simp [value]
  finite_one := rfl
  sub_eq _ _ := rfl
  finite_neg a := by cases a <;> rfl
  denotes_add a b ha hb := by
    cases a <;> cases b <;> simp_all [value, isFinite, HAdd.hAdd, Add.add, add]
  denotes_abs a ha := by cases a <;> simp_all [value, abs]
  number_of_abs a ha := by cases a <;> simp_all [value, abs]

/-! ## 2. Finite numbers stay finite -/

theorem isFinite_iff {a : Extended} : FloatNum.isFinite a = true ↔ ∃ q, a = .finite q := by
  cases a with
  | finite q => exact ⟨fun _ => ⟨q, rfl⟩, fun _ => rfl⟩
  | _ => exact iff_of_false nofun nofun

variable {a b : Extended}

theorem isFinite_add (ha : FloatNum.isFinite a = true) (hb : FloatNum.isFinite b = true) :
    FloatNum.isFinite (a + b) = true := by
  obtain ⟨p, rfl⟩ := isFinite_iff.mp ha
  obtain ⟨q, rfl⟩ := isFinite_iff.mp hb
  rfl

theorem isFinite_sub (ha : FloatNum.isFinite a = true) (hb : FloatNum.isFinite b = true) :
    FloatNum.isFinite (a - b) = true := by
  obtain ⟨p, rfl⟩ := isFinite_iff.mp ha
  obtain ⟨q, rfl⟩ := isFinite_iff.mp hb
  rfl

theorem isFinite_mul (ha : FloatNum.isFinite a = true) (hb : FloatNum.isFinite b = true) :
    FloatNum.isFinite (a * b) = true := by
  obtain ⟨p, rfl⟩ := isFinite_iff.mp ha
  obtain ⟨q, rfl⟩ := isFinite_iff.mp hb
  rfl

theorem isFinite_div (ha : FloatNum.isFinite a = true) (hb : FloatNum.isFinite b = true)
    (hpos : FloatNum.ofInt 0 < b) : FloatNum.isFinite (a / b) = true := by
  obtain ⟨p, rfl⟩ := isFinite_iff.mp ha
  obtain ⟨q, rfl⟩ := isFinite_iff.mp hb
  have hq : q ≠ 0 := fun h => by
    rw [h] at hpos
    exact FloatNum.lt_irrefl hpos
  have hdiv : (Extended.finite p) / (Extended.finite q) = .finite (p / q) := if_neg hq
  rw [hdiv]
  rfl

/-! ## 3. Order -/

theorem finite_lt_iff {p q : ℚ} : Extended.finite p < Extended.finite q ↔ p < q := by
  rw [FloatNum.lt_iff]
  constructor
  · rintro ⟨x, y, hx, hy, hxy⟩
    cases hx
    cases hy
    exact_mod_cast hxy
  · intro h
    exact ⟨_, _, rfl, rfl, by exact_mod_cast h⟩

theorem finite_le_iff {p q : ℚ} : Extended.finite p ≤ Extended.finite q ↔ p ≤ q := by
  rw [FloatNum.le_iff]
  constructor
  · rintro ⟨x, y, hx, hy, hxy⟩
    cases hx
    cases hy
    exact_mod_cast hxy
  · intro h
    exact ⟨_, _, rfl, rfl, by exact_mod_cast h⟩

theorem le_trans {x y z : Extended} (hxy : x ≤ y) (hyz : y ≤ z) : x ≤ z := by
  obtain ⟨p, q, hp, hq, hpq⟩ := (FloatNum.le_iff x y).mp hxy
  obtain ⟨q', r, hq', hr, hqr⟩ := (FloatNum.le_iff y z).mp hyz
  cases hq.symm.trans hq'
  exact (FloatNum.le_iff x z).mpr ⟨p, r, hp, hr, hpq.trans hqr⟩

end Extended

end AlphaForge.Lib
