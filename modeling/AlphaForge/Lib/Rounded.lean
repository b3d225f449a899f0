/-
  File:      AlphaForge/Lib/Rounded.lean
  Subject:   Numbers of a format that rounds correctly, with NaN and the infinities: what
             floating-point arithmetic computes, whatever its precision and its range. No program
             fact.

  * `Rounding` -- which rationals a format holds, and what it makes of the others: a monotone map
    that leaves what it holds.
  * `Rounded` -- the numbers of a format; every operation is the exact one, rounded.
  * the instance of `FloatNum`.
  * `div_same`, `mul_unit`, `scaled_le` -- a number is once itself, and a fraction of it is no more
    than it is.
  * `Rounding.range` -- the range of binary64 with every rational in it.
-/
import AlphaForge.Lib.Bounded

namespace AlphaForge.Lib

/-- A number format that rounds correctly. -/
structure Rounding where
  /-- The format has this number. -/
  holds : ℚ → Prop
  round : ℚ → Extended
  mono : ∀ p q, p ≤ q → round p ≤ round q
  exact : ∀ q, holds q → round q = .finite q
  held : ∀ p q, round p = .finite q → holds q
  number : ∀ q, round q ≠ .nan
  neg : ∀ q, round (-q) = (round q).neg
  zero : holds 0
  one : holds 1

namespace Extended

/-- The result of an operation, rounded. -/
def rounded (r : Rounding) : Extended → Extended
  | .finite q => r.round q
  | x => x

theorem rounded_held {r : Rounding} {x : Extended} {q : ℚ} (h : x.rounded r = .finite q) :
    r.holds q := by
  cases x with
  | finite p => exact r.held p q h
  | _ => cases h

/-- What is rounded is still a number. -/
theorem number_rounded {r : Rounding} {x : Extended} (h : x.value ≠ none) :
    (x.rounded r).value ≠ none := by
  cases x with
  | finite q =>
    show (r.round q).value ≠ none
    cases hq : r.round q with
    | nan => exact absurd hq (r.number q)
    | _ => exact Option.some_ne_none _
  | _ => exact h

end Extended

/-! ## 1. The numbers of a format -/

/-- An extended number whose finite values the format holds. -/
structure Rounded (r : Rounding) where
  number : Extended
  held : ∀ q, number = .finite q → r.holds q

namespace Rounded

variable {r : Rounding} {a b : Rounded r}

@[ext]
theorem ext (h : a.number = b.number) : a = b := by
  cases a
  cases b
  cases h
  rfl

instance : DecidableEq (Rounded r) :=
  fun _ _ => decidable_of_iff _ (Iff.intro ext (congrArg number))

def ofExtended (x : Extended) : Rounded r := ⟨x.rounded r, fun _ h => Extended.rounded_held h⟩

def ofRat (q : ℚ) : Rounded r := ofExtended (.finite q)

def neg (a : Rounded r) : Rounded r := ofExtended a.number.neg

def abs (a : Rounded r) : Rounded r := ofExtended a.number.abs

instance : Add (Rounded r) := ⟨fun a b => ofExtended (a.number + b.number)⟩
instance : Neg (Rounded r) := ⟨neg⟩
instance : Sub (Rounded r) := ⟨fun a b => a + -b⟩
instance : Mul (Rounded r) := ⟨fun a b => ofExtended (a.number * b.number)⟩
instance : Div (Rounded r) := ⟨fun a b => ofExtended (a.number / b.number)⟩
instance : LT (Rounded r) := ⟨fun a b => a.number < b.number⟩
instance : LE (Rounded r) := ⟨fun a b => a.number ≤ b.number⟩
instance : OfScientific (Rounded r) := ⟨fun m s e => ofRat (OfScientific.ofScientific m s e)⟩

theorem number_ofRat {q : ℚ} (h : r.holds q) : (ofRat q : Rounded r).number = .finite q :=
  r.exact q h

theorem finite_neg (a : Rounded r) : (neg a).number.isFinite = a.number.isFinite := by
  obtain ⟨x, hx⟩ := a
  cases x with
  | finite q =>
    show (r.round (-q)).isFinite = true
    rw [r.neg, r.exact q (hx q rfl)]
    rfl
  | _ => rfl

instance : FloatNum (Rounded r) where
  decLt a b := inferInstanceAs (Decidable (a.number < b.number))
  decLe a b := inferInstanceAs (Decidable (a.number ≤ b.number))
  feq a b := FloatNum.feq a.number b.number
  abs := abs
  ofInt n := ofRat n
  trunc a := FloatNum.trunc a.number
  isFinite a := a.number.isFinite
  value a := a.number.value
  lt_iff a b := FloatNum.lt_iff a.number b.number
  le_iff a b := FloatNum.le_iff a.number b.number
  feq_iff a b := FloatNum.feq_iff a.number b.number
  finite_iff a := FloatNum.finite_iff a.number
  value_zero := by
    rw [Int.cast_zero, number_ofRat r.zero]
    rfl
  finite_one := by
    rw [Int.cast_one, number_ofRat r.one]
    rfl
  sub_eq _ _ := rfl
  finite_neg := finite_neg
  denotes_add a b ha hb :=
    Extended.number_rounded (FloatNum.denotes_add a.number b.number ha hb)
  denotes_abs a ha := Extended.number_rounded (FloatNum.denotes_abs a.number ha)
  number_of_abs a ha := by
    intro hnone
    have hnan : a.number = .nan := by
      cases h : a.number <;> rw [h] at hnone <;> simp_all [Extended.value]
    unfold abs at ha
    rw [hnan] at ha
    exact ha rfl

/-! ## 2. What rounding keeps -/

theorem isFinite_iff : FloatNum.isFinite a = true ↔ ∃ q, a.number = .finite q :=
  Extended.isFinite_iff

theorem number_zero : (FloatNum.ofInt 0 : Rounded r).number = .finite 0 := by
  show (ofRat ((0 : ℤ) : ℚ) : Rounded r).number = _
  rw [Int.cast_zero, number_ofRat r.zero]

theorem number_one : (FloatNum.ofInt 1 : Rounded r).number = .finite 1 := by
  show (ofRat ((1 : ℤ) : ℚ) : Rounded r).number = _
  rw [Int.cast_one, number_ofRat r.one]

theorem le_iff : a ≤ b ↔ a.number ≤ b.number := Iff.rfl

theorem lt_iff : a < b ↔ a.number < b.number := Iff.rfl

theorem pos_iff {q : ℚ} (ha : a.number = .finite q) : FloatNum.ofInt 0 < a ↔ 0 < q := by
  rw [lt_iff, number_zero, ha, Extended.finite_lt_iff]

theorem div_same (hfinite : FloatNum.isFinite a = true) (hpos : FloatNum.ofInt 0 < a) :
    a / a = FloatNum.ofInt 1 := by
  obtain ⟨q, hq⟩ := isFinite_iff.mp hfinite
  have hne : q ≠ 0 := ((pos_iff hq).mp hpos).ne'
  refine ext ?_
  show (a.number / a.number).rounded r = _
  have hdiv : Extended.finite q / Extended.finite q = .finite (q / q) := if_neg hne
  rw [hq, hdiv, div_self hne, number_one]
  exact r.exact 1 r.one

theorem mul_unit (a : Rounded r) : a * FloatNum.ofInt 1 = a := by
  refine ext ?_
  show (a.number * (FloatNum.ofInt 1 : Rounded r).number).rounded r = a.number
  rw [number_one]
  cases h : a.number with
  | finite q =>
    show r.round (q * 1) = .finite q
    rw [mul_one]
    exact r.exact q (a.held q h)
  | nan => rfl
  | posInf => exact congrArg _ (by decide +kernel : Extended.posInf * .finite 1 = .posInf)
  | negInf => exact congrArg _ (by decide +kernel : Extended.negInf * .finite 1 = .negInf)

/-- A fraction of a number is no more than the number. -/
theorem scaled_le (hfinite : FloatNum.isFinite a = true) (ha : FloatNum.ofInt 0 < a)
    (hlow : FloatNum.ofInt 0 ≤ b) (hhigh : b ≤ FloatNum.ofInt 1) :
    a * b ≤ a ∧ FloatNum.ofInt 0 ≤ a * b := by
  obtain ⟨q, hq⟩ := isFinite_iff.mp hfinite
  obtain ⟨p, hp⟩ := isFinite_iff.mp
    (FloatNum.finite_between hlow hhigh FloatNum.finite_zero FloatNum.finite_one)
  have hpos := (pos_iff hq).mp ha
  rw [le_iff, number_zero, hp, Extended.finite_le_iff] at hlow
  rw [le_iff, number_one, hp, Extended.finite_le_iff] at hhigh
  have hmul : (a * b).number = r.round (q * p) := by
    show (a.number * b.number).rounded r = _
    rw [hq, hp]
    rfl
  rw [le_iff, le_iff, hmul, number_zero, hq, ← r.exact q (a.held q hq), ← r.exact 0 r.zero]
  exact ⟨r.mono _ _ (mul_le_of_le_one_right hpos.le hhigh), r.mono _ _ (mul_nonneg hpos.le hlow)⟩

end Rounded

/-! ## 3. The range of binary64 -/

namespace Rounding

theorem clamp_mono {p q : ℚ} (h : p ≤ q) :
    (Extended.finite p).clamp ≤ (Extended.finite q).clamp := by
  have hlimit := overflowLimit_pos
  have hnumber : (Extended.finite p).clamp.value ≠ none :=
    Extended.number_clamp (Option.some_ne_none _)
  by_cases hhigh : overflowLimit ≤ q
  · have htop : (Extended.finite q).clamp = .posInf := if_pos hhigh
    obtain ⟨x, hx⟩ := Option.ne_none_iff_exists'.mp hnumber
    rw [htop]
    exact (FloatNum.le_iff _ _).mpr ⟨x, _, hx, rfl, le_top⟩
  · by_cases hlow : p ≤ -overflowLimit
    · have hbottom : (Extended.finite p).clamp = .negInf :=
        (if_neg (not_le.mpr (by linarith))).trans (if_pos hlow)
      obtain ⟨y, hy⟩ := Option.ne_none_iff_exists'.mp
        (Extended.number_clamp (x := .finite q) (Option.some_ne_none _))
      rw [hbottom]
      exact (FloatNum.le_iff _ _).mpr ⟨_, y, rfl, hy, bot_le⟩
    · rw [not_le] at hhigh hlow
      rw [Extended.clamp_finite (abs_lt.mpr ⟨hlow, h.trans_lt hhigh⟩),
        Extended.clamp_finite (abs_lt.mpr ⟨hlow.trans_le h, hhigh⟩)]
      exact Extended.finite_le_iff.mpr h

theorem clamp_neg (q : ℚ) : (Extended.finite (-q)).clamp = (Extended.finite q).clamp.neg := by
  have hlimit := overflowLimit_pos
  unfold Extended.clamp
  simp only [le_neg, neg_le_neg_iff]
  split_ifs with hlow hhigh hhigh'
  · linarith
  · rfl
  · rfl
  · rfl

/-- Every rational of the range is a number; what is beyond it is an infinity. -/
def range : Rounding where
  holds q := |q| < overflowLimit
  round q := (Extended.finite q).clamp
  mono _ _ := clamp_mono
  exact _ := Extended.clamp_finite
  held p q h := Extended.clamp_inRange h
  number q h := by
    unfold Extended.clamp at h
    simp only at h
    split_ifs at h
  neg := clamp_neg
  zero := by simpa using overflowLimit_pos
  one := Bounded.abs_small (by norm_num)

end Rounding

end AlphaForge.Lib
