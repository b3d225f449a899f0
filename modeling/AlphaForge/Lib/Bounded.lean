/-
  File:      AlphaForge/Lib/Bounded.lean
  Subject:   Exact numbers of the range of binary64, with its NaN, its infinities and its overflow:
             what binary64 arithmetic computes without the rounding of its results. No program fact.

  * `overflowLimit` -- the least magnitude that rounds beyond the largest binary64 number.
  * `Bounded` -- NaN, an infinity or a rational below the limit; a result from the limit on is an
    infinity.
  * the instance of `FloatNum`.
  * `Within` -- a finite number up to a magnitude, and `Within.add` to `Within.pyMax` -- how the
    magnitudes compose: arithmetic that stays below the limit is exact.
-/
import AlphaForge.Lib.Extended

namespace AlphaForge.Lib

/-- Half a step beyond the largest binary64 number: the tie rounds to an infinity. -/
def overflowStep : ℕ := 2 ^ 1024 - 2 ^ 970

theorem overflowStep_large : 10 ^ 30 < overflowStep := by decide +kernel

/-- The least magnitude that overflows. -/
def overflowLimit : ℚ := overflowStep

/-- Far more than any sum of small numbers needs. -/
theorem overflowLimit_large : (10 : ℚ) ^ 30 < overflowLimit := by
  have hcast : (10 : ℚ) ^ 30 = ((10 ^ 30 : ℕ) : ℚ) := by norm_num
  rw [hcast]
  exact Nat.cast_lt.mpr overflowStep_large

theorem overflowLimit_pos : 0 < overflowLimit := lt_trans (by positivity) overflowLimit_large

namespace Extended

/-- The result of an operation: an infinity where it is beyond the range. -/
def clamp : Extended → Extended
  | .finite q =>
    if overflowLimit ≤ q then .posInf else if q ≤ -overflowLimit then .negInf else .finite q
  | x => x

theorem clamp_inRange {x : Extended} {q : ℚ} (h : x.clamp = .finite q) : |q| < overflowLimit := by
  unfold clamp at h
  split at h
  · split_ifs at h with hhigh hlow
    cases h
    exact abs_lt.mpr ⟨not_le.mp hlow, not_le.mp hhigh⟩
  · rename_i hfinite
    exact absurd h (hfinite q)

theorem clamp_finite {q : ℚ} (h : |q| < overflowLimit) : (finite q).clamp = .finite q := by
  obtain ⟨hlow, hhigh⟩ := abs_lt.mp h
  exact (if_neg (not_le.mpr hhigh)).trans (if_neg (not_le.mpr hlow))

/-- What overflows is still a number. -/
theorem number_clamp {x : Extended} (h : x.value ≠ none) : x.clamp.value ≠ none := by
  cases x with
  | finite q =>
    unfold clamp
    simp only
    split_ifs
    all_goals simp [value]
  | _ => exact h

end Extended

/-! ## 1. Numbers of the range -/

/-- An extended number whose finite values are in the range. -/
structure Bounded where
  number : Extended
  inRange : ∀ q, number = .finite q → |q| < overflowLimit

namespace Bounded

@[ext]
theorem ext {a b : Bounded} (h : a.number = b.number) : a = b := by
  cases a
  cases b
  cases h
  rfl

instance : DecidableEq Bounded := fun _ _ => decidable_of_iff _ (Iff.intro ext (congrArg number))

/-- A result, in the range. -/
def ofExtended (x : Extended) : Bounded := ⟨x.clamp, fun _ h => Extended.clamp_inRange h⟩

def ofRat (q : ℚ) : Bounded := ofExtended (.finite q)

def neg (a : Bounded) : Bounded := ofExtended a.number.neg

def abs (a : Bounded) : Bounded := ofExtended a.number.abs

instance : Add Bounded := ⟨fun a b => ofExtended (a.number + b.number)⟩
instance : Neg Bounded := ⟨neg⟩
instance : Sub Bounded := ⟨fun a b => a + -b⟩
instance : Mul Bounded := ⟨fun a b => ofExtended (a.number * b.number)⟩
instance : Div Bounded := ⟨fun a b => ofExtended (a.number / b.number)⟩
instance : LT Bounded := ⟨fun a b => a.number < b.number⟩
instance : LE Bounded := ⟨fun a b => a.number ≤ b.number⟩
instance : OfScientific Bounded := ⟨fun m s e => ofRat (OfScientific.ofScientific m s e)⟩

theorem number_ofRat {q : ℚ} (h : |q| < overflowLimit) : (ofRat q).number = .finite q :=
  Extended.clamp_finite h

theorem abs_small {q : ℚ} (h : |q| ≤ 10 ^ 30) :
    |q| < overflowLimit := h.trans_lt overflowLimit_large

theorem finite_neg (a : Bounded) : (neg a).number.isFinite = a.number.isFinite := by
  obtain ⟨x, hx⟩ := a
  cases x with
  | finite q =>
    have hq : |-q| < overflowLimit := by
      rw [abs_neg]
      exact hx q rfl
    show (Extended.finite (-q)).clamp.isFinite = true
    rw [Extended.clamp_finite hq]
    rfl
  | _ => rfl

instance : FloatNum Bounded where
  decLt a b := inferInstanceAs (Decidable (a.number < b.number))
  decLe a b := inferInstanceAs (Decidable (a.number ≤ b.number))
  feq a b := FloatNum.feq a.number b.number
  abs := abs
  ofInt n := ofRat n
  trunc a := FloatNum.trunc a.number
  isFinite a := a.number.isFinite
  value a := a.number.value
  lt_iff a b := FloatNum.lt_iff a.number b.number
  le_iff a b := FloatNum.le_iff a.number b.number
  feq_iff a b := FloatNum.feq_iff a.number b.number
  finite_iff a := FloatNum.finite_iff a.number
  value_zero := by
    rw [number_ofRat (by simpa using overflowLimit_pos)]
    simp [Extended.value]
  finite_one := by
    rw [number_ofRat (abs_small (by norm_num))]
    rfl
  sub_eq _ _ := rfl
  finite_neg := finite_neg
  denotes_add a b ha hb :=
    Extended.number_clamp (FloatNum.denotes_add a.number b.number ha hb)
  denotes_abs a ha := Extended.number_clamp (FloatNum.denotes_abs a.number ha)
  number_of_abs a ha := by
    intro hnone
    have hnan : a.number = .nan := by
      cases h : a.number <;> rw [h] at hnone <;> simp_all [Extended.value]
    unfold abs at ha
    rw [hnan] at ha
    exact ha rfl

/-! ## 2. Arithmetic below the limit is exact -/

/-- A finite number up to a magnitude. -/
def Within (a : Bounded) (m : ℚ) : Prop := ∃ q, a.number = .finite q ∧ |q| ≤ m

variable {a b : Bounded} {m n : ℚ}

theorem isFinite_iff : FloatNum.isFinite a = true ↔ ∃ q, a.number = .finite q :=
  Extended.isFinite_iff

theorem Within.finite (h : Within a m) : FloatNum.isFinite a = true := by
  obtain ⟨q, hq, _⟩ := h
  exact isFinite_iff.mpr ⟨q, hq⟩

theorem Within.mono (h : Within a m) (hmn : m ≤ n) : Within a n := by
  obtain ⟨q, hq, hqm⟩ := h
  exact ⟨q, hq, hqm.trans hmn⟩

theorem within_ofRat {q : ℚ} (hq : |q| ≤ m) (hm : m ≤ 10 ^ 30) : Within (ofRat q) m :=
  ⟨q, number_ofRat (abs_small (hq.trans hm)), hq⟩

theorem within_clamp {q : ℚ} (hq : |q| ≤ m) (hm : m ≤ 10 ^ 30) :
    Within (ofExtended (.finite q)) m :=
  within_ofRat hq hm

theorem Within.add (ha : Within a m) (hb : Within b n) (hmn : m + n ≤ 10 ^ 30) :
    Within (a + b) (m + n) := by
  obtain ⟨p, hp, hpm⟩ := ha
  obtain ⟨q, hq, hqn⟩ := hb
  show Within (ofExtended (a.number + b.number)) (m + n)
  rw [hp, hq]
  exact within_clamp ((abs_add_le p q).trans (add_le_add hpm hqn)) hmn

theorem Within.neg (ha : Within a m) (hm : m ≤ 10 ^ 30) : Within (-a) m := by
  obtain ⟨p, hp, hpm⟩ := ha
  show Within (ofExtended a.number.neg) m
  rw [hp]
  exact within_clamp (by rwa [abs_neg]) hm

theorem Within.sub (ha : Within a m) (hb : Within b n) (hn : n ≤ 10 ^ 30) (hmn : m + n ≤ 10 ^ 30) :
    Within (a - b) (m + n) :=
  ha.add (hb.neg hn) hmn

theorem Within.mul (ha : Within a m) (hb : Within b n) (hmn : m * n ≤ 10 ^ 30) :
    Within (a * b) (m * n) := by
  obtain ⟨p, hp, hpm⟩ := ha
  obtain ⟨q, hq, hqn⟩ := hb
  show Within (ofExtended (a.number * b.number)) (m * n)
  rw [hp, hq]
  refine within_clamp ?_ hmn
  rw [abs_mul]
  exact mul_le_mul hpm hqn (abs_nonneg q) ((abs_nonneg p).trans hpm)

/-- A quotient is as large as the divisor goes into the number. -/
theorem within_div {p q : ℚ} (ha : a.number = .finite p) (hb : b.number = .finite q) (hq : 0 < q)
    (hpq : |p| ≤ m * q) (hm : m ≤ 10 ^ 30) : Within (a / b) m := by
  show Within (ofExtended (a.number / b.number)) m
  have hdiv : Extended.finite p / Extended.finite q = .finite (p / q) := if_neg hq.ne'
  rw [ha, hb, hdiv]
  refine within_clamp ?_ hm
  rw [abs_div, abs_of_pos hq]
  exact (div_le_iff₀ hq).mpr hpq

/-- A finite number divided by one from 1 on. -/
theorem isFinite_div {q : ℚ} (ha : FloatNum.isFinite a = true) (hb : b.number = .finite q)
    (hq : 1 ≤ q) : FloatNum.isFinite (a / b) = true := by
  obtain ⟨p, hp⟩ := isFinite_iff.mp ha
  have hq0 : 0 < q := lt_of_lt_of_le one_pos hq
  have hdiv : Extended.finite p / Extended.finite q = .finite (p / q) := if_neg hq0.ne'
  have hsmall : |p / q| < overflowLimit := by
    refine lt_of_le_of_lt ?_ (a.inRange p hp)
    rw [abs_div, abs_of_pos hq0]
    exact div_le_self (abs_nonneg p) hq
  have hnumber : (a / b).number = .finite (p / q) := by
    show (ofExtended (a.number / b.number)).number = _
    rw [hp, hb, hdiv]
    exact Extended.clamp_finite hsmall
  exact isFinite_iff.mpr ⟨_, hnumber⟩

theorem Within.pyMax (ha : Within a m) (hb : Within b m) : Within (pyMax a b) m := by
  unfold Lib.pyMax
  split
  · exact hb
  · exact ha

theorem Within.pyMin (ha : Within a m) (hb : Within b m) : Within (pyMin a b) m := by
  unfold Lib.pyMin
  split
  · exact hb
  · exact ha

/-! ## 3. Order -/

theorem lt_iff {p q : ℚ} (ha : a.number = .finite p) (hb : b.number = .finite q) :
    a < b ↔ p < q := by
  show a.number < b.number ↔ p < q
  rw [ha, hb]
  exact Extended.finite_lt_iff

theorem le_iff {p q : ℚ} (ha : a.number = .finite p) (hb : b.number = .finite q) :
    a ≤ b ↔ p ≤ q := by
  show a.number ≤ b.number ↔ p ≤ q
  rw [ha, hb]
  exact Extended.finite_le_iff

theorem ofInt_number {k : ℤ} (h : |(k : ℚ)| ≤ 10 ^ 30) :
    (FloatNum.ofInt k : Bounded).number = .finite k :=
  number_ofRat (abs_small h)

theorem zero_number : (FloatNum.ofInt 0 : Bounded).number = .finite 0 := by
  have h := ofInt_number (k := 0) (by norm_num)
  simpa using h

/-- A number from 0 on, or what became of it by overflow. -/
def Nonneg (a : Bounded) : Prop := a.number = .posInf ∨ ∃ q, a.number = .finite q ∧ 0 ≤ q

theorem nonneg_ofRat {q : ℚ} (h : 0 ≤ q) : Nonneg (ofRat q) := by
  by_cases hover : overflowLimit ≤ q
  · exact Or.inl (if_pos hover)
  · refine Or.inr ⟨q, number_ofRat ?_, h⟩
    rw [abs_of_nonneg h]
    exact not_le.mp hover

theorem nonneg_mul {p q : ℚ} (ha : a.number = .finite p) (hb : b.number = .finite q)
    (hp : 0 ≤ p) (hq : 0 ≤ q) : Nonneg (a * b) := by
  show Nonneg (ofExtended (a.number * b.number))
  rw [ha, hb]
  exact nonneg_ofRat (mul_nonneg hp hq)

/-- Divided by a positive number, an infinity stays one. -/
theorem posInf_div {q : ℚ} (ha : a.number = .posInf) (hb : b.number = .finite q) (hq : 0 < q) :
    (a / b).number = .posInf := by
  show (ofExtended (a.number / b.number)).number = .posInf
  rw [ha, hb]
  show (if q < 0 then Extended.negInf else Extended.posInf).clamp = .posInf
  rw [if_neg (not_lt.mpr hq.le)]
  rfl

theorem Nonneg.div {q : ℚ} (ha : Nonneg a) (hb : b.number = .finite q) (hq : 0 < q) :
    Nonneg (a / b) := by
  rcases ha with hinf | ⟨p, hp, hp0⟩
  · exact Or.inl (posInf_div hinf hb hq)
  · show Nonneg (ofExtended (a.number / b.number))
    have hdiv : Extended.finite p / Extended.finite q = .finite (p / q) := if_neg hq.ne'
    rw [hp, hb, hdiv]
    exact nonneg_ofRat (div_nonneg hp0 hq.le)

/-- Cut to a number, what overflows is finite again. -/
theorem Nonneg.pyMin {k : ℚ} (ha : a.number = .finite k) (hb : Nonneg b) (hk : |k| ≤ m) :
    Within (pyMin a b) m := by
  unfold Lib.pyMin
  split
  · rename_i hlt
    rcases hb with hinf | ⟨q, hq, hq0⟩
    · have h : b.number < a.number := hlt
      rw [hinf, ha] at h
      obtain ⟨x, y, hx, hy, hxy⟩ := (FloatNum.lt_iff _ _).mp h
      cases hx
      cases hy
      exact absurd hxy (not_lt.mpr (ext_lt_top k).le)
    · refine ⟨q, hq, ?_⟩
      rw [abs_of_nonneg hq0]
      exact ((lt_iff hq ha).mp hlt).le.trans ((le_abs_self k).trans hk)
  · exact ⟨k, ha, hk⟩

/-- The value of a finite number from 0 on. -/
theorem nonneg_number (h : FloatNum.isFinite a = true) (hpos : FloatNum.ofInt 0 ≤ a) :
    ∃ q, a.number = .finite q ∧ 0 ≤ q := by
  obtain ⟨q, hq⟩ := isFinite_iff.mp h
  exact ⟨q, hq, (le_iff zero_number hq).mp hpos⟩

end Bounded

end AlphaForge.Lib
