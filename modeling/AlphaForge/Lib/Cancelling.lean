/-
  File:      AlphaForge/Lib/Cancelling.lean
  Subject:   What rounding never touches: a finite number less itself is zero, and zero divided by
             a positive number is zero. No program fact.

  `CancellingNum` adds the two laws to `FloatNum`; binary64 and the rationals satisfy them.
-/
import AlphaForge.Lib.Numbers

namespace AlphaForge.Lib

/-- Numbers that cancel. -/
class CancellingNum (F : Type) extends FloatNum F where
  sub_self : ∀ a : F, isFinite a = true → value (a - a) = value (ofInt 0)
  zero_div : ∀ a b : F, value a = value (ofInt 0) → isFinite b = true → ofInt 0 < b →
    value (a / b) = value (ofInt 0)

instance : CancellingNum ℚ where
  sub_self a _ := by
    show some _ = some _
    rw [sub_self]
    rfl
  zero_div a b ha _ _ := by
    have h : a = 0 := by simpa [FloatNum.value, FloatNum.ofInt] using ha
    rw [h]
    show some _ = some _
    rw [zero_div]
    rfl

section Binary64

open Float.Model Float.Model.UnpackedFloat

theorem unpacked_sub_self {u : UnpackedFloat} (h : u.isFinite = true) :
    ∃ s, UnpackedFloat.sub Format.binary64 u u = .zero s := by
  cases u with
  | notANumber => cases h
  | infinity s => cases h
  | zero s => cases s <;> exact ⟨_, rfl⟩
  | finite s m e hm =>
    refine ⟨.positive, ?_⟩
    simp only [UnpackedFloat.sub, sub_self]
    rfl

theorem float_value_zero_iff (x : Float) :
    floatValue x = floatValue (Float.ofInt 0) ↔ ∃ s, x.toModel.unpack = .zero s := by
  have hzero : floatValue (Float.ofInt 0) = some (((0 : ℚ) : WithTop ℚ) : ExtRat) :=
    FloatNum.value_zero (F := Float)
  rw [hzero]
  unfold floatValue
  cases x.toModel.unpack with
  | notANumber => simp [unpackedValue]
  | infinity s =>
    cases s
    · simp [unpackedValue]
    · exact iff_of_false (fun h => (ext_lt_top 0).ne' (Option.some.inj h)) (by simp)
  | zero s => simp [unpackedValue]
  | finite s m e hm =>
    have hpow : (2 : ℚ) ^ e ≠ 0 := zpow_ne_zero e two_ne_zero
    cases s <;> simp [unpackedValue, Sign.apply, hm.ne', hpow]

theorem pack_zero_value (s : Sign) : (Float.Model.pack (.zero s)).unpack = .zero s :=
  unpack_pack (.zero s) trivial

theorem float_sub_self (x : Float) (h : x.isFinite = true) :
    floatValue (x - x) = floatValue (Float.ofInt 0) := by
  rw [float_value_zero_iff]
  obtain ⟨s, hs⟩ := unpacked_sub_self (u := x.toModel.unpack) h
  refine ⟨s, ?_⟩
  show (Float.Model.pack (UnpackedFloat.sub Format.binary64 x.toModel.unpack
    x.toModel.unpack)).unpack = .zero s
  rw [hs, pack_zero_value]

theorem float_zero_div (x y : Float) (hx : floatValue x = floatValue (Float.ofInt 0))
    (hy : y.isFinite = true) (hpos : Float.ofInt 0 < y) :
    floatValue (x / y) = floatValue (Float.ofInt 0) := by
  rw [float_value_zero_iff] at hx ⊢
  obtain ⟨s, hs⟩ := hx
  have hne : ¬ ∃ t, y.toModel.unpack = .zero t := by
    rw [← float_value_zero_iff]
    intro heq
    obtain ⟨a, b, ha, hb, hab⟩ := (float_lt_iff _ _).mp hpos
    rw [heq, ha] at hb
    rw [Option.some.inj hb] at hab
    exact absurd hab (lt_irrefl _)
  have hdiv : ∃ t, UnpackedFloat.div Format.binary64 x.toModel.unpack y.toModel.unpack =
    .zero t := by
    rw [hs]
    have hy' : y.toModel.unpack.isFinite = true := hy
    revert hne hy'
    cases y.toModel.unpack with
    | notANumber => exact fun _ h => by cases h
    | infinity t => exact fun _ h => by cases h
    | zero t => exact fun hne _ => absurd ⟨t, rfl⟩ hne
    | finite t m e hm => exact fun _ _ => ⟨_, rfl⟩
  obtain ⟨t, ht⟩ := hdiv
  refine ⟨t, ?_⟩
  show (Float.Model.pack (UnpackedFloat.div Format.binary64 x.toModel.unpack
    y.toModel.unpack)).unpack = .zero t
  rw [ht, pack_zero_value]

end Binary64

instance : CancellingNum Float where
  sub_self := float_sub_self
  zero_div := float_zero_div

end AlphaForge.Lib
