/-
  File:      AlphaForge/Lib/Differences.lean
  Subject:   The sign of a difference survives rounding: where `a ≤ b`, the computed `a - b` is not
             positive. No program fact.

  `DifferenceNum` adds the law to `FloatNum`; binary64 and the rationals satisfy it. Its use is the
  converse (`lt_of_sub_pos`): a difference that is not below or at zero separates its operands.
-/
import AlphaForge.Lib.Numbers

namespace AlphaForge.Lib

/-- Numbers whose differences keep their sign. -/
class DifferenceNum (F : Type) extends FloatNum F where
  sub_nonpos : ∀ a b : F, isFinite a = true → isFinite b = true → a ≤ b → a - b ≤ ofInt 0

/-- A difference that is not at or below zero separates its operands. -/
theorem lt_of_sub_pos {F : Type} [DifferenceNum F] {a b : F} (ha : FloatNum.isFinite a = true)
    (hb : FloatNum.isFinite b = true) (h : ¬ a - b ≤ FloatNum.ofInt 0) : b < a := by
  refine FloatNum.lt_of_not_le (isNumber_of_finite ha) (isNumber_of_finite hb) fun hab => h ?_
  exact DifferenceNum.sub_nonpos a b ha hb hab

instance : DifferenceNum ℚ where
  sub_nonpos a b _ _ h := by
    show a - b ≤ ((0 : ℤ) : ℚ)
    rw [Int.cast_zero, sub_nonpos]
    exact h

section Binary64

open Float.Model Float.Model.UnpackedFloat

/-- Not above zero, and not NaN. -/
def Nonpositive : UnpackedFloat → Prop
  | .notANumber => False
  | .infinity s => s = .negative
  | .zero _ => True
  | .finite s _ _ _ => s = .negative

theorem nonpositive_value {u : UnpackedFloat} (h : Nonpositive u) :
    ∃ x, unpackedValue u = some x ∧ x ≤ (((0 : ℚ) : WithTop ℚ) : ExtRat) := by
  cases u with
  | notANumber => exact h.elim
  | infinity s =>
    subst h
    exact ⟨⊥, rfl, bot_le⟩
  | zero s => exact ⟨_, rfl, le_rfl⟩
  | finite s m e hm =>
    subst h
    refine ⟨_, rfl, ?_⟩
    have hle : ((Sign.negative.apply m : ℤ) : ℚ) * 2 ^ e ≤ 0 := by
      have hp : (0 : ℚ) < 2 ^ e := by positivity
      have hm' : ((Sign.negative.apply m : ℤ) : ℚ) ≤ 0 := by simp [Sign.apply]
      exact mul_nonpos_of_nonpos_of_nonneg hm' hp.le
    exact_mod_cast hle

theorem nonpositive_unpack_components (e : BitVec 11) (m : BitVec 52)
    (h : e = -1#11 → m = 0#52) :
    Nonpositive (UnpackedFloat.unpack Format.binary64
      (packComponents Format.binary64 .negative e m)) := by
  rw [unpack_components]
  split
  · rename_i he
    rw [if_pos (h he)]
    rfl
  · split
    · split
      · trivial
      · rfl
    · rfl

/-- Packing keeps the sign. -/
theorem nonpositive_pack {u : UnpackedFloat} (h : Nonpositive u) :
    Nonpositive (Float.Model.pack u).unpack := by
  cases u with
  | notANumber => exact h.elim
  | infinity s =>
    subst h
    rfl
  | zero s => cases s <;> trivial
  | finite s m e hm =>
    subst h
    unfold Float.Model.pack Float.Model.unpack UnpackedFloat.pack
    simp only
    split
    · rfl
    · rename_i hle
      split
      · exact nonpositive_unpack_components _ _ fun htop =>
          absurd htop (exponent_ne_top (Nat.lt_of_not_le hle))
      · exact nonpositive_unpack_components _ _ fun htop => absurd htop (by decide)

theorem nonpositive_round (spec : Float.Model.Format) (m : ℕ) (e : ℤ) :
    Nonpositive (UnpackedFloat.round spec .negative m e) := by
  unfold UnpackedFloat.round UnpackedFloat.roundWithAccuracy
  simp only
  split
  · trivial
  · rfl

theorem nonpositive_normalize (spec : Float.Model.Format) {m : ℤ} (e : ℤ) (s : Sign) (h : m ≤ 0) :
    Nonpositive (UnpackedFloat.normalize spec m e s) := by
  unfold UnpackedFloat.normalize
  split
  · exact nonpositive_round spec _ _
  · trivial
  · rename_i hgt
    exact absurd (compare_gt_iff_gt.mp hgt) (not_lt.mpr h)

/-- A mantissa moved to a smaller exponent denotes the same number. -/
theorem decreaseExponent_value (s : Sign) (m : ℕ) {e e' : ℤ} (h : e' ≤ e) :
    ((s.apply (decreaseExponent m e e').1 : ℤ) : ℚ) * 2 ^ e' = (s.apply m : ℤ) * 2 ^ e := by
  have hpow : (2 : ℚ) ^ e = 2 ^ (e - e').toNat * 2 ^ e' := by
    rw [← zpow_natCast, ← zpow_add₀ two_ne_zero, Int.toNat_of_nonneg (by omega)]
    congr 1
    omega
  cases s <;> simp only [decreaseExponent, Sign.apply, Nat.shiftLeft_eq, hpow] <;>
    push_cast <;> ring

/-- A finite number has the sign of its value. -/
theorem sign_of_value_nonpos {s : Sign} {m : ℕ} {e : ℤ} (hm : 0 < m)
    (h : ((s.apply m : ℤ) : ℚ) * 2 ^ e ≤ 0) : s = .negative := by
  cases s with
  | negative => rfl
  | positive =>
    have hpos : (0 : ℚ) < ((Sign.positive.apply m : ℤ) : ℚ) * 2 ^ e := by
      simp only [Sign.apply, Int.cast_natCast]
      positivity
    exact absurd h (not_le.mpr hpos)

theorem neg_sign_of_value_nonneg {s : Sign} {m : ℕ} {e : ℤ} (hm : 0 < m)
    (h : 0 ≤ ((s.apply m : ℤ) : ℚ) * 2 ^ e) : -s = .negative := by
  cases s with
  | positive => rfl
  | negative =>
    have hneg : ((Sign.negative.apply m : ℤ) : ℚ) * 2 ^ e < 0 := by
      have hpos : (0 : ℚ) < m * 2 ^ e := by positivity
      simp only [Sign.apply, Int.cast_neg, Int.cast_natCast]
      linarith
    exact absurd h (not_le.mpr hneg)

theorem finite_value {s : Sign} {m : ℕ} {e : ℤ} {hm : 0 < m} {q : ℚ}
    (h : unpackedValue (.finite s m e hm) = some ((q : WithTop ℚ) : ExtRat)) :
    ((s.apply m : ℤ) : ℚ) * 2 ^ e = q :=
  WithTop.coe_injective (WithBot.coe_injective (Option.some.inj h))

/-- The exact difference is not positive; rounding it keeps its sign. -/
theorem unpacked_sub_nonpositive {x y : UnpackedFloat} {p q : ℚ}
    (hx : unpackedValue x = some ((p : WithTop ℚ) : ExtRat))
    (hy : unpackedValue y = some ((q : WithTop ℚ) : ExtRat)) (h : p ≤ q) :
    Nonpositive (UnpackedFloat.sub Format.binary64 x y) := by
  cases x with
  | notANumber => exact nomatch hx
  | infinity s => cases s <;> simp [unpackedValue] at hx
  | zero s =>
    have hp : p = 0 := by simpa [unpackedValue, eq_comm] using hx
    cases y with
    | notANumber => exact nomatch hy
    | infinity t => cases t <;> simp [unpackedValue] at hy
    | zero t =>
      unfold UnpackedFloat.sub
      simp only
      split <;> trivial
    | finite t m e hm =>
      have hq := finite_value hy
      exact neg_sign_of_value_nonneg hm (by rw [hq, ← hp]; exact h)
  | finite s m e hm =>
    have hp := finite_value hx
    cases y with
    | notANumber => exact nomatch hy
    | infinity t => cases t <;> simp [unpackedValue] at hy
    | zero t =>
      have hq : q = 0 := by simpa [unpackedValue, eq_comm] using hy
      exact sign_of_value_nonpos hm (by rw [hp, ← hq]; exact h)
    | finite t m' e' hm' =>
      have hq := finite_value hy
      refine nonpositive_normalize _ _ _ ?_
      have hpow : (0 : ℚ) < 2 ^ min e e' := by positivity
      have hle : ((s.apply (decreaseExponent m e (min e e')).1 : ℤ) : ℚ) * 2 ^ min e e' ≤
          ((t.apply (decreaseExponent m' e' (min e e')).1 : ℤ) : ℚ) * 2 ^ min e e' := by
        rw [decreaseExponent_value s m (min_le_left e e'),
          decreaseExponent_value t m' (min_le_right e e'), hp, hq]
        exact h
      have hint := le_of_mul_le_mul_right hle hpow
      rw [sub_nonpos]
      exact_mod_cast hint

theorem float_sub_nonpos (x y : Float) (hx : x.isFinite = true) (hy : y.isFinite = true)
    (h : x ≤ y) : x - y ≤ Float.ofInt 0 := by
  obtain ⟨p, hp⟩ := (float_finite_iff x).mp hx
  obtain ⟨q, hq⟩ := (float_finite_iff y).mp hy
  obtain ⟨a, b, ha, hb, hab⟩ := (float_le_iff x y).mp h
  rw [hp] at ha
  rw [hq] at hb
  rw [← Option.some.inj ha, ← Option.some.inj hb] at hab
  have hpq : p ≤ q := by exact_mod_cast hab
  obtain ⟨v, hv, hle⟩ := nonpositive_value (nonpositive_pack (unpacked_sub_nonpositive hp hq hpq))
  exact (float_le_iff _ _).mpr ⟨v, _, hv, FloatNum.value_zero (F := Float), hle⟩

end Binary64

/-- IEEE-754 binary64. -/
instance : DifferenceNum Float where
  sub_nonpos := float_sub_nonpos

end AlphaForge.Lib
