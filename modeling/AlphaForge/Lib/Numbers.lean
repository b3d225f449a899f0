/-
  File:      AlphaForge/Lib/Numbers.lean
  Subject:   The numbers a program computes with: one interface for IEEE-754 binary64 and for
             exact rational arithmetic. No program fact.

  A number denotes an extended rational, or nothing (NaN). `FloatNum` asks of a number type only
  what a chain of comparisons needs:

  * `lt_iff`, `le_iff`, `feq_iff` -- every comparison is the comparison of the denoted values and
    is false as soon as one side denotes nothing (the IEEE rule for NaN);
  * `finite_iff` -- a finite number denotes a rational;
  * `denotes_add` -- adding a finite number to a number that denotes keeps a number that denotes
    (it may overflow to an infinity, it is never NaN).

  Instances: `Float` (binary64, over the logical model of the core library) and `ℚ`.
-/
import Mathlib

namespace AlphaForge.Lib

/-- The rationals with both infinities. -/
abbrev ExtRat := WithBot (WithTop ℚ)

/-! ## 1. The value of a binary64 number -/

section Binary64

open Float.Model Float.Model.UnpackedFloat

/-- The extended rational an unpacked float denotes; NaN denotes nothing. -/
def unpackedValue : UnpackedFloat → Option ExtRat
  | .infinity .positive => some ((⊤ : WithTop ℚ) : ExtRat)
  | .infinity .negative => some ⊥
  | .notANumber => none
  | .zero _ => some (((0 : ℚ) : WithTop ℚ) : ExtRat)
  | .finite s m e _ => some ((((s.apply m : ℤ) * (2 : ℚ) ^ e : ℚ) : WithTop ℚ) : ExtRat)

/-- What `unpack` guarantees of a finite binary64 number: mantissa and exponent fit, and the
    mantissa is normalised unless the exponent is the smallest one. -/
def Normalised : UnpackedFloat → Prop
  | .finite _ m e _ => m < 2 ^ 53 ∧ -1074 ≤ e ∧ e ≤ 971 ∧ (e = -1074 ∨ 2 ^ 52 ≤ m)
  | _ => True

theorem normalised_unpack (f : Float.Model) : Normalised f.unpack := by
  unfold Float.Model.unpack UnpackedFloat.unpack
  simp only
  split
  · split <;> trivial
  · rename_i htop
    have htop' : (@unpackExponent Format.binary64 f.toBits.toBitVec).toNat ≠ 2047 :=
      fun h => htop (BitVec.eq_of_toNat_eq h)
    have hlt := BitVec.isLt (@unpackExponent Format.binary64 f.toBits.toBitVec)
    split
    · rename_i h0
      split
      · trivial
      · refine ⟨?_, ?_, ?_, Or.inl ?_⟩
        · exact lt_trans (BitVec.isLt _) (by norm_num [Format.binary64])
        all_goals rw [h0]; decide
    · rename_i h0
      have hm := BitVec.isLt (1#1 ++ @unpackMantissa Format.binary64 f.toBits.toBitVec)
      have hpos : 0 < (@unpackExponent Format.binary64 f.toBits.toBitVec).toNat := by
        rw [BitVec.toNat_pos, BitVec.pos_iff_ne_zero]; exact h0
      simp only [Format.binary64] at hpos hlt htop'
      refine ⟨by simpa [Format.binary64] using hm, ?_, ?_, Or.inr ?_⟩
      · simp only [Format.exponentBias, Format.binary64]; omega
      · simp only [Format.exponentBias, Format.binary64]; omega
      · rw [BitVec.toNat_append]
        simp only [BitVec.toNat_ofNat, Format.binary64]
        exact Nat.left_le_or

theorem unpackSign_pack (s : Sign) (e : BitVec 11) (m : BitVec 52) :
    unpackSign (packComponents Format.binary64 s e m) = s.toBitVec := by
  cases s <;> simp only [unpackSign, packComponents, Sign.toBitVec] <;> ext i hi <;>
    (have : i = 0 := by omega) <;> subst this
  · simp; rw [BitVec.getLsbD_append, BitVec.getLsbD_append]; simp
  · simp; rw [BitVec.getLsbD_append, BitVec.getLsbD_append]; simp

theorem sign_roundtrip (s : Sign) : Sign.ofBitVec s.toBitVec = s := by
  cases s <;> rfl

/-- The implicit bit stands above the 52 stored ones. -/
theorem implicit_bit (m : BitVec 52) : (1#1 ++ m).toNat = 2 ^ 52 + m.toNat := by
  rw [BitVec.toNat_append, ← Nat.shiftLeft_add_eq_or_of_lt m.isLt]
  rfl

/-- What unpacking three packed fields gives. -/
theorem unpack_components (s : Sign) (e : BitVec 11) (m : BitVec 52) :
    UnpackedFloat.unpack Format.binary64 (packComponents Format.binary64 s e m) =
      if e = -1#11 then (if m = 0#52 then .infinity s else .notANumber)
      else if e = 0#11 then
        (if h : m = 0#52 then .zero s
         else .finite s m.toNat (-1074) (by rw [BitVec.toNat_pos, BitVec.pos_iff_ne_zero]; exact h))
      else .finite s (1#1 ++ m).toNat ((e.toNat : Int) - 1075) (by rw [implicit_bit]; omega) := by
  unfold UnpackedFloat.unpack
  simp only [unpackExponent_packComponents, unpackMantissa_packComponents, unpackSign_pack,
    sign_roundtrip]
  split
  · rfl
  · split
    · rename_i h0
      subst h0
      rfl
    · rfl

theorem exponent_ne_top {n : ℕ} (h : n + 1 < 2048) : BitVec.ofNat 11 n ≠ -1#11 := by
  intro he
  have := congrArg BitVec.toNat he
  rw [BitVec.toNat_ofNat] at this
  have h1 : (-1#11 : BitVec 11).toNat = 2047 := by decide
  omega

/-- Packing forgets nothing about being a NaN, whatever it packs. -/
theorem unpack_pack_nan (u : UnpackedFloat) :
    (Float.Model.pack u).unpack = .notANumber ↔ u = .notANumber := by
  unfold Float.Model.pack Float.Model.unpack
  simp only
  cases u with
  | notANumber => simp [UnpackedFloat.pack, packedNaN, UnpackedFloat.unpack]
  | infinity s => simp [UnpackedFloat.pack, packedInfinity, UnpackedFloat.unpack]
  | zero s => simp [UnpackedFloat.pack, packedZero, UnpackedFloat.unpack]
  | finite s m e hm =>
    simp only [reduceCtorEq, iff_false]
    unfold UnpackedFloat.pack
    simp only
    split
    · simp [packedInfinity, UnpackedFloat.unpack]
    · rename_i hle
      split
      · rw [unpack_components, if_neg (exponent_ne_top (Nat.lt_of_not_le hle))]
        split
        · split <;> simp
        · simp
      · rw [unpack_components, if_neg (by decide), if_pos rfl]
        split <;> simp

theorem unpack_pack_finite (s : Sign) (m : ℕ) (e : ℤ) (hm : 0 < m) (h53 : m < 2 ^ 53)
    (hlo : -1074 ≤ e)
    (hhi : e ≤ 971) (hn : e = -1074 ∨ 2 ^ 52 ≤ m) :
    (Float.Model.pack (.finite s m e hm)).unpack = .finite s m e hm := by
  unfold Float.Model.pack Float.Model.unpack
  simp only
  unfold UnpackedFloat.pack
  simp only
  have hbias : Format.binary64.exponentBias = 1023 := rfl
  rw [hbias]
  rw [if_neg (by omega)]
  by_cases h52 : 2 ^ 52 ≤ m
  · have hlog : m.log2 = 52 := by
      rw [Nat.log2_eq_iff hm.ne']; exact ⟨h52, h53⟩
    rw [if_pos (by rw [hlog]; rfl), unpack_components, if_neg (exponent_ne_top (by omega)), if_neg]
    · congr 1
      · rw [implicit_bit, BitVec.toNat_ofNat]; omega
      · rw [BitVec.toNat_ofNat]; omega
    · intro h0
      have := congrArg BitVec.toNat h0
      simp only [BitVec.toNat_ofNat] at this
      omega
  · have he : e = -1074 := by tauto
    subst he
    have hlog : m.log2 < 52 := by
      rw [Nat.log2_lt hm.ne']; omega
    rw [if_neg (by simp only [Format.mantissaBits]; omega), unpack_components,
      if_neg (by decide), if_pos rfl, dif_neg]
    · congr 1
      simp only [BitVec.toNat_ofNat]
      omega
    · intro h0
      have := congrArg BitVec.toNat h0
      simp only [BitVec.toNat_ofNat] at this
      omega

/-- A normalised number survives packing. -/
theorem unpack_pack (u : UnpackedFloat) (h : Normalised u) : (Float.Model.pack u).unpack = u := by
  cases u with
  | notANumber => rfl
  | infinity s => cases s <;> rfl
  | zero s => cases s <;> rfl
  | finite s m e hm =>
    obtain ⟨h53, hlo, hhi, hn⟩ := h
    exact unpack_pack_finite s m e hm h53 hlo hhi hn

/-! ## 2. Comparison is comparison of values -/

/-- A larger exponent is a larger number. -/
theorem scaled_lt {m₁ m₂ : ℕ} {e₁ e₂ : ℤ} (h1 : m₁ < 2 ^ 53) (h2 : 2 ^ 52 ≤ m₂) (he : e₁ < e₂) :
    (m₁ : ℚ) * 2 ^ e₁ < m₂ * 2 ^ e₂ := by
  have hm1 : (m₁ : ℚ) < 2 ^ 53 := by exact_mod_cast h1
  have hm2 : (2 : ℚ) ^ 52 ≤ m₂ := by exact_mod_cast h2
  calc (m₁ : ℚ) * 2 ^ e₁ < 2 ^ 53 * 2 ^ e₁ := by gcongr
    _ = 2 ^ 52 * 2 ^ (e₁ + 1) := by rw [zpow_add₀ (by norm_num)]; ring
    _ ≤ m₂ * 2 ^ e₂ := by gcongr <;> [norm_num; omega]

theorem scaled_compare {m₁ m₂ : ℕ} {e₁ e₂ : ℤ} (h1 : m₁ < 2 ^ 53) (h2 : m₂ < 2 ^ 53)
    (n1 : e₁ = -1074 ∨ 2 ^ 52 ≤ m₁) (n2 : e₂ = -1074 ∨ 2 ^ 52 ≤ m₂)
    (l1 : -1074 ≤ e₁) (l2 : -1074 ≤ e₂) :
    (compare e₁ e₂).then (compare m₁ m₂) = compare ((m₁ : ℚ) * 2 ^ e₁) (m₂ * 2 ^ e₂) := by
  rcases lt_trichotomy e₁ e₂ with he | rfl | he
  · rw [compare_lt_iff_lt.mpr he, compare_lt_iff_lt.mpr
      (scaled_lt h1 (n2.resolve_left (by omega)) he)]
    rfl
  · rw [compare_eq_iff_eq.mpr rfl]
    have hp : (0 : ℚ) < 2 ^ e₁ := by positivity
    rcases lt_trichotomy m₁ m₂ with hm | rfl | hm
    · rw [compare_lt_iff_lt.mpr hm, compare_lt_iff_lt.mpr (by gcongr)]; rfl
    · rw [compare_eq_iff_eq.mpr rfl, compare_eq_iff_eq.mpr rfl]; rfl
    · rw [compare_gt_iff_gt.mpr hm, compare_gt_iff_gt.mpr (by gcongr)]; rfl
  · rw [compare_gt_iff_gt.mpr he, compare_gt_iff_gt.mpr
      (scaled_lt h2 (n1.resolve_left (by omega)) he)]
    rfl

theorem compare_coe (a b : ℚ) :
    compare (((a : WithTop ℚ) : ExtRat)) ((b : WithTop ℚ) : ExtRat) = compare a b := by
  rcases lt_trichotomy a b with h | rfl | h
  · rw [compare_lt_iff_lt.mpr h, compare_lt_iff_lt]; exact_mod_cast h
  · rw [compare_eq_iff_eq.mpr rfl, compare_eq_iff_eq.mpr rfl]
  · rw [compare_gt_iff_gt.mpr h, compare_gt_iff_gt]; exact_mod_cast h

theorem compare_neg_swap (a b : ℚ) : compare (-a) (-b) = (compare a b).swap := by
  rcases lt_trichotomy a b with h | rfl | h
  · rw [compare_lt_iff_lt.mpr h, compare_gt_iff_gt.mpr (neg_lt_neg h)]; rfl
  · rw [compare_eq_iff_eq.mpr rfl, compare_eq_iff_eq.mpr rfl]; rfl
  · rw [compare_gt_iff_gt.mpr h, compare_lt_iff_lt.mpr (neg_lt_neg h)]; rfl

theorem isLE_compare (a b : ExtRat) : (compare a b).isLE = true ↔ a ≤ b := by
  rcases lt_trichotomy a b with h | rfl | h
  · rw [compare_lt_iff_lt.mpr h]; exact ⟨fun _ => h.le, fun _ => rfl⟩
  · rw [compare_eq_iff_eq.mpr rfl]; exact ⟨fun _ => le_rfl, fun _ => rfl⟩
  · rw [compare_gt_iff_gt.mpr h]
    constructor
    · intro e
      cases e
    · intro e
      exact absurd h (not_lt.mpr e)

theorem ext_lt_top (q : ℚ) : ((q : WithTop ℚ) : ExtRat) < ((⊤ : WithTop ℚ) : ExtRat) :=
  WithBot.coe_lt_coe.mpr (WithTop.coe_lt_top q)

theorem ext_bot_lt (q : WithTop ℚ) : (⊥ : ExtRat) < (q : ExtRat) := WithBot.bot_lt_coe q

/-- **Comparing two binary64 numbers compares the values they denote.** -/
theorem compare_value (x y : UnpackedFloat) (hx : Normalised x) (hy : Normalised y) :
    x.compare y = (unpackedValue x).bind fun a => (unpackedValue y).map fun b => compare a b := by
  have hpos : ∀ (m : ℕ) (e : ℤ), 0 < m → (0 : ℚ) < m * 2 ^ e := fun m e h => by positivity
  cases x with
  | notANumber => cases y <;> rfl
  | infinity s =>
    cases y with
    | notANumber => cases s <;> rfl
    | infinity t =>
      cases s <;> cases t
      · exact congrArg some (compare_eq_iff_eq.mpr rfl).symm
      · exact congrArg some (compare_lt_iff_lt.mpr (ext_bot_lt _)).symm
      · exact congrArg some (compare_gt_iff_gt.mpr (ext_bot_lt _)).symm
      · exact congrArg some (compare_eq_iff_eq.mpr rfl).symm
    | zero t =>
      cases s
      · exact congrArg some (compare_lt_iff_lt.mpr (ext_bot_lt _)).symm
      · exact congrArg some (compare_gt_iff_gt.mpr (ext_lt_top _)).symm
    | finite t m e hm =>
      cases s
      · exact congrArg some (compare_lt_iff_lt.mpr (ext_bot_lt _)).symm
      · exact congrArg some (compare_gt_iff_gt.mpr (ext_lt_top _)).symm
  | zero s =>
    cases y with
    | notANumber => rfl
    | infinity t =>
      cases t
      · exact congrArg some (compare_gt_iff_gt.mpr (ext_bot_lt _)).symm
      · exact congrArg some (compare_lt_iff_lt.mpr (ext_lt_top _)).symm
    | zero t => exact congrArg some (compare_eq_iff_eq.mpr rfl).symm
    | finite t m e hm =>
      have h := hpos m e hm
      cases t <;> simp only [unpackedValue, Option.bind_some, Option.map_some, compare_coe]
      · refine congrArg some (compare_gt_iff_gt.mpr ?_).symm
        simp only [Sign.apply]; push_cast; linarith
      · refine congrArg some (compare_lt_iff_lt.mpr ?_).symm
        simpa only [Sign.apply, Int.cast_natCast] using h
  | finite s m e hm =>
    have h := hpos m e hm
    cases y with
    | notANumber => cases s <;> rfl
    | infinity t =>
      cases t
      · cases s <;> exact congrArg some (compare_gt_iff_gt.mpr (ext_bot_lt _)).symm
      · cases s <;> exact congrArg some (compare_lt_iff_lt.mpr (ext_lt_top _)).symm
    | zero t =>
      cases s <;> simp only [unpackedValue, Option.bind_some, Option.map_some, compare_coe]
      · refine congrArg some (compare_lt_iff_lt.mpr ?_).symm
        simp only [Sign.apply]; push_cast; linarith
      · refine congrArg some (compare_gt_iff_gt.mpr ?_).symm
        simpa only [Sign.apply, Int.cast_natCast] using h
    | finite t m' e' hm' =>
      obtain ⟨h53, hlo, -, hn⟩ := hx
      obtain ⟨h53', hlo', -, hn'⟩ := hy
      have h' := hpos m' e' hm'
      have hc := scaled_compare h53 h53' hn hn' hlo hlo'
      cases s <;> cases t <;>
        simp only [unpackedValue, Option.bind_some, Option.map_some, compare_coe, Sign.apply,
          Int.cast_neg, Int.cast_natCast, neg_mul]
      · rw [compare_neg_swap, ← hc]; rfl
      · exact congrArg some (compare_lt_iff_lt.mpr (by linarith)).symm
      · exact congrArg some (compare_gt_iff_gt.mpr (by linarith)).symm
      · rw [← hc]; rfl

/-! ## 3. Signs, sums and the facts about `Float` -/

theorem normalised_neg {u : UnpackedFloat} (h : Normalised u) : Normalised u.neg := by
  cases u <;> exact h

theorem apply_neg (s : Sign) (n : ℤ) : (-s).apply n = -s.apply n := by
  cases s
  · exact (neg_neg n).symm
  · rfl

/-- Subtraction is addition of the negated number, rounding included. -/
theorem unpacked_sub (spec : Float.Model.Format) (x y : UnpackedFloat) :
    UnpackedFloat.sub spec x y = UnpackedFloat.add spec x y.neg := by
  cases x <;> cases y <;> try rfl
  simp only [UnpackedFloat.sub, UnpackedFloat.add, UnpackedFloat.neg, apply_neg, sub_eq_add_neg]

/-- The value of a binary64 number. -/
def floatValue (x : Float) : Option ExtRat := unpackedValue x.toModel.unpack

theorem float_compare (x y : Float) :
    x.toModel.unpack.compare y.toModel.unpack =
      (floatValue x).bind fun a => (floatValue y).map fun b => compare a b :=
  compare_value _ _ (normalised_unpack _) (normalised_unpack _)

theorem float_lt_iff (x y : Float) :
    x < y ↔ ∃ a b, floatValue x = some a ∧ floatValue y = some b ∧ a < b := by
  have h : x < y ↔ (x.toModel.unpack.compare y.toModel.unpack == some .lt) = true := by
    show (x.lt y) = true ↔ _
    unfold Float.lt
    simp only [decide_eq_true_eq]
    exact Iff.rfl
  rw [h, float_compare]
  cases floatValue x <;> cases floatValue y <;> simp [compare_lt_iff_lt]

theorem float_le_iff (x y : Float) :
    x ≤ y ↔ ∃ a b, floatValue x = some a ∧ floatValue y = some b ∧ a ≤ b := by
  have h : x ≤ y ↔ ((x.toModel.unpack.compare y.toModel.unpack).any (·.isLE)) = true := by
    show (x.le y) = true ↔ _
    unfold Float.le
    simp only [decide_eq_true_eq]
    exact Iff.rfl
  rw [h, float_compare]
  cases floatValue x <;> cases floatValue y <;> simp [isLE_compare]

theorem float_beq_iff (x y : Float) :
    Float.beq x y = true ↔ ∃ a, floatValue x = some a ∧ floatValue y = some a := by
  have h : Float.beq x y = true ↔
      (x.toModel.unpack.compare y.toModel.unpack == some .eq) = true := Iff.rfl
  rw [h, float_compare]
  cases floatValue x with
  | none => simp
  | some a =>
    cases floatValue y with
    | none => simp
    | some b =>
      simp only [Option.bind_some, Option.map_some, beq_iff_eq, Option.some.injEq,
        compare_eq_iff_eq, exists_eq_left']
      exact eq_comm

theorem float_finite_iff (x : Float) :
    x.isFinite = true ↔ ∃ q : ℚ, floatValue x = some ((q : WithTop ℚ) : ExtRat) := by
  show x.toModel.unpack.isFinite = true ↔ ∃ q : ℚ, unpackedValue x.toModel.unpack = _
  cases x.toModel.unpack with
  | notANumber => simp [UnpackedFloat.isFinite, unpackedValue]
  | infinity s => cases s <;> simp [UnpackedFloat.isFinite, unpackedValue]
  | zero s => simp [UnpackedFloat.isFinite, unpackedValue]
  | finite s m e hm => exact ⟨fun _ => ⟨_, rfl⟩, fun _ => rfl⟩

theorem denotes_iff (u : UnpackedFloat) : unpackedValue u = none ↔ u = .notANumber := by
  cases u with
  | infinity s => cases s <;> simp [unpackedValue]
  | _ => simp [unpackedValue]

theorem round_not_nan (spec : Float.Model.Format) (s : Sign) (m : ℕ) (e : ℤ) :
    UnpackedFloat.round spec s m e ≠ .notANumber := by
  unfold UnpackedFloat.round UnpackedFloat.roundWithAccuracy
  simp only
  split <;> simp

theorem normalize_not_nan (spec : Float.Model.Format) (m e : ℤ) (s : Sign) :
    UnpackedFloat.normalize spec m e s ≠ .notANumber := by
  unfold UnpackedFloat.normalize
  split
  · exact round_not_nan _ _ _ _
  · simp
  · exact round_not_nan _ _ _ _

theorem float_denotes_add (x y : Float) (hx : floatValue x ≠ none) (hy : y.isFinite = true) :
    floatValue (x + y) ≠ none := by
  have hx' : x.toModel.unpack ≠ .notANumber := fun h => hx ((denotes_iff _).mpr h)
  have hy' : y.toModel.unpack.isFinite = true := hy
  intro h
  have h2 : UnpackedFloat.add Format.binary64 x.toModel.unpack y.toModel.unpack = .notANumber :=
    (unpack_pack_nan _).mp ((denotes_iff _).mp h)
  revert h2
  generalize x.toModel.unpack = u at hx'
  generalize y.toModel.unpack = v at hy'
  cases u <;> cases v <;> simp_all [UnpackedFloat.add, UnpackedFloat.isFinite, normalize_not_nan]
  split <;> simp

theorem float_sub_eq (x y : Float) : x - y = x + -y := by
  show Float.ofModel (Float.Model.pack (UnpackedFloat.sub Format.binary64 x.toModel.unpack
    y.toModel.unpack)) =
    Float.ofModel (Float.Model.pack (UnpackedFloat.add Format.binary64 x.toModel.unpack
      (Float.Model.pack y.toModel.unpack.neg).unpack))
  rw [unpack_pack _ (normalised_neg (normalised_unpack _)), unpacked_sub]

theorem float_finite_neg (x : Float) : (-x).isFinite = x.isFinite := by
  show (Float.Model.pack x.toModel.unpack.neg).unpack.isFinite = x.toModel.unpack.isFinite
  rw [unpack_pack _ (normalised_neg (normalised_unpack _))]
  cases x.toModel.unpack <;> rfl

theorem float_denotes_abs (x : Float) (h : floatValue x ≠ none) : floatValue x.abs ≠ none := by
  have h' : x.toModel.unpack ≠ .notANumber := fun e => h ((denotes_iff _).mpr e)
  intro hn
  have hn' : (Float.Model.pack x.toModel.unpack.abs).unpack = .notANumber := (denotes_iff _).mp hn
  rw [unpack_pack_nan] at hn'
  cases hu : x.toModel.unpack <;> simp_all [UnpackedFloat.abs]

theorem float_number_of_abs (x : Float) (h : floatValue x.abs ≠ none) : floatValue x ≠ none := by
  intro hn
  have hu : x.toModel.unpack = .notANumber := (denotes_iff _).mp hn
  have ha : (Float.Model.pack x.toModel.unpack.abs).unpack = .notANumber := by
    rw [unpack_pack_nan, hu]
    rfl
  exact h ((denotes_iff _).mpr ha)

end Binary64

/-! ## 4. The interface -/

/-- The numbers a program computes with. -/
class FloatNum (F : Type) extends Add F, Sub F, Mul F, Div F, Neg F, LT F, LE F,
  OfScientific F where
  decLt : DecidableLT F
  decLe : DecidableLE F
  /-- The `==` of the language: false on NaN, true on the two zeros. -/
  feq : F → F → Bool
  abs : F → F
  /-- An integer as a number, rounded where the format cannot hold it. -/
  ofInt : ℤ → F
  /-- Truncation to an integer; `none` where the number is not finite. -/
  trunc : F → Option ℤ
  isFinite : F → Bool
  /-- The extended rational a number denotes; `none` for NaN. -/
  value : F → Option ExtRat
  lt_iff : ∀ a b : F, a < b ↔ ∃ x y, value a = some x ∧ value b = some y ∧ x < y
  le_iff : ∀ a b : F, a ≤ b ↔ ∃ x y, value a = some x ∧ value b = some y ∧ x ≤ y
  feq_iff : ∀ a b : F, feq a b = true ↔ ∃ x, value a = some x ∧ value b = some x
  finite_iff : ∀ a : F, isFinite a = true ↔ ∃ q : ℚ, value a = some ((q : WithTop ℚ) : ExtRat)
  value_zero : value (ofInt 0) = some (((0 : ℚ) : WithTop ℚ) : ExtRat)
  finite_one : isFinite (ofInt 1) = true
  sub_eq : ∀ a b : F, a - b = a + -b
  finite_neg : ∀ a : F, isFinite (-a) = isFinite a
  denotes_add : ∀ a b : F, value a ≠ none → isFinite b = true → value (a + b) ≠ none
  denotes_abs : ∀ a : F, value a ≠ none → value (abs a) ≠ none
  number_of_abs : ∀ a : F, value (abs a) ≠ none → value a ≠ none

instance FloatNum.decidableLT {F : Type} [FloatNum F] : DecidableLT F := FloatNum.decLt

instance FloatNum.decidableLE {F : Type} [FloatNum F] : DecidableLE F := FloatNum.decLe

/-- A binary64 number truncated towards zero. -/
def floatTrunc (x : Float) : Option ℤ :=
  match x.toModel.unpack with
  | .finite s m e _ => some (s.apply (if 0 ≤ e then m <<< e.toNat else m >>> (-e).toNat : ℕ))
  | .zero _ => some 0
  | _ => none

/-- IEEE-754 binary64. -/
instance : FloatNum Float where
  decLt := inferInstance
  decLe := inferInstance
  feq := Float.beq
  abs := Float.abs
  ofInt := Float.ofInt
  trunc := floatTrunc
  isFinite := Float.isFinite
  value := floatValue
  lt_iff := float_lt_iff
  le_iff := float_le_iff
  feq_iff := float_beq_iff
  finite_iff := float_finite_iff
  value_zero := by decide +kernel
  finite_one := by decide +kernel
  sub_eq := float_sub_eq
  finite_neg := float_finite_neg
  denotes_add := float_denotes_add
  denotes_abs := float_denotes_abs
  number_of_abs := float_number_of_abs

/-- Exact arithmetic. -/
instance : FloatNum ℚ where
  decLt := inferInstance
  decLe := inferInstance
  feq a b := a == b
  abs q := |q|
  ofInt n := n
  trunc q := some (q.num.tdiv q.den)
  isFinite _ := true
  value q := some ((q : WithTop ℚ) : ExtRat)
  lt_iff a b := by simp
  le_iff a b := by simp
  feq_iff a b := by
    constructor
    · intro h
      rw [eq_of_beq h]
      exact ⟨_, rfl, rfl⟩
    · rintro ⟨v, ha, hb⟩
      rw [← hb] at ha
      have h : a = b := by simpa using ha
      rw [h]
      exact beq_self_eq_true b
  finite_iff a := by simp
  value_zero := by simp
  finite_one := rfl
  sub_eq := sub_eq_add_neg
  finite_neg _ := rfl
  denotes_add _ _ _ _ := by simp
  denotes_abs _ _ := by simp
  number_of_abs _ _ := by simp

/-! ## 5. Order -/

section Order

variable {F : Type} [FloatNum F] {a b c : F}

/-- The value is a number: anything but NaN. -/
def IsNumber (a : F) : Prop := FloatNum.value a ≠ none

theorem isNumber_iff : IsNumber a ↔ ∃ x, FloatNum.value a = some x := Option.ne_none_iff_exists'

theorem isNumber_zero : IsNumber (FloatNum.ofInt 0 : F) := isNumber_iff.mpr ⟨_, FloatNum.value_zero⟩

theorem isNumber_of_finite (h : FloatNum.isFinite a = true) : IsNumber a := by
  obtain ⟨q, hq⟩ := (FloatNum.finite_iff a).mp h
  exact isNumber_iff.mpr ⟨_, hq⟩

theorem isNumber_of_le (h : a ≤ b) : IsNumber a ∧ IsNumber b := by
  obtain ⟨x, y, hx, hy, _⟩ := (FloatNum.le_iff a b).mp h
  exact ⟨isNumber_iff.mpr ⟨x, hx⟩, isNumber_iff.mpr ⟨y, hy⟩⟩

theorem FloatNum.le_of_lt (h : a < b) : a ≤ b := by
  obtain ⟨x, y, hx, hy, hxy⟩ := (FloatNum.lt_iff a b).mp h
  exact (FloatNum.le_iff a b).mpr ⟨x, y, hx, hy, hxy.le⟩

theorem FloatNum.le_of_not_lt (ha : IsNumber a) (hb : IsNumber b) (h : ¬ a < b) : b ≤ a := by
  obtain ⟨x, hx⟩ := isNumber_iff.mp ha
  obtain ⟨y, hy⟩ := isNumber_iff.mp hb
  refine (FloatNum.le_iff b a).mpr ⟨y, x, hy, hx, ?_⟩
  by_contra hyx
  exact h ((FloatNum.lt_iff a b).mpr ⟨x, y, hx, hy, not_le.mp hyx⟩)

theorem FloatNum.lt_of_not_le (ha : IsNumber a) (hb : IsNumber b) (h : ¬ a ≤ b) : b < a := by
  obtain ⟨x, hx⟩ := isNumber_iff.mp ha
  obtain ⟨y, hy⟩ := isNumber_iff.mp hb
  refine (FloatNum.lt_iff b a).mpr ⟨y, x, hy, hx, ?_⟩
  by_contra hyx
  exact h ((FloatNum.le_iff a b).mpr ⟨x, y, hx, hy, not_lt.mp hyx⟩)

theorem FloatNum.not_le_of_lt (h : a < b) : ¬ b ≤ a := by
  intro hle
  obtain ⟨x, y, hx, hy, hxy⟩ := (FloatNum.lt_iff a b).mp h
  obtain ⟨y', x', hy', hx', hyx⟩ := (FloatNum.le_iff b a).mp hle
  rw [hx] at hx'
  rw [hy] at hy'
  cases hx'
  cases hy'
  exact absurd hxy (not_lt.mpr hyx)

theorem FloatNum.lt_irrefl : ¬ a < a := fun h => FloatNum.not_le_of_lt h (FloatNum.le_of_lt h)

theorem FloatNum.lt_trans (hab : a < b) (hbc : b < c) : a < c := by
  obtain ⟨x, y, hx, hy, hxy⟩ := (FloatNum.lt_iff a b).mp hab
  obtain ⟨y', z, hy', hz, hyz⟩ := (FloatNum.lt_iff b c).mp hbc
  rw [hy] at hy'
  cases hy'
  exact (FloatNum.lt_iff a c).mpr ⟨x, z, hx, hz, hxy.trans hyz⟩

theorem FloatNum.lt_of_lt_of_le (hab : a < b) (hbc : b ≤ c) : a < c := by
  obtain ⟨x, y, hx, hy, hxy⟩ := (FloatNum.lt_iff a b).mp hab
  obtain ⟨y', z, hy', hz, hyz⟩ := (FloatNum.le_iff b c).mp hbc
  rw [hy] at hy'
  cases hy'
  exact (FloatNum.lt_iff a c).mpr ⟨x, z, hx, hz, hxy.trans_le hyz⟩

theorem FloatNum.le_refl (ha : IsNumber a) : a ≤ a := by
  obtain ⟨x, hx⟩ := isNumber_iff.mp ha
  exact (FloatNum.le_iff a a).mpr ⟨x, x, hx, hx, le_rfl⟩

/-- What lies between two finite numbers is finite. -/
theorem FloatNum.finite_between (hab : a ≤ b) (hbc : b ≤ c) (ha : FloatNum.isFinite a = true)
    (hc : FloatNum.isFinite c = true) : FloatNum.isFinite b = true := by
  obtain ⟨p, hp⟩ := (FloatNum.finite_iff a).mp ha
  obtain ⟨r, hr⟩ := (FloatNum.finite_iff c).mp hc
  obtain ⟨x, y, hx, hy, hxy⟩ := (FloatNum.le_iff a b).mp hab
  obtain ⟨y', z, hy', hz, hyz⟩ := (FloatNum.le_iff b c).mp hbc
  rw [hp] at hx
  rw [hr] at hz
  rw [hy] at hy'
  cases hx
  cases hz
  cases hy'
  rw [FloatNum.finite_iff]
  have hbot : y ≠ ⊥ := fun h => by
    rw [h] at hxy
    exact absurd hxy (not_le.mpr (ext_bot_lt _))
  obtain ⟨t, rfl⟩ := WithBot.ne_bot_iff_exists.mp hbot
  have htop : t ≠ ⊤ := fun h => by
    rw [h] at hyz
    exact absurd hyz (not_le.mpr (ext_lt_top r))
  obtain ⟨q, rfl⟩ := WithTop.ne_top_iff_exists.mp htop
  exact ⟨q, hy⟩

theorem FloatNum.finite_zero : FloatNum.isFinite (FloatNum.ofInt 0 : F) = true :=
  (FloatNum.finite_iff _).mpr ⟨0, FloatNum.value_zero⟩

end Order

/-! ## 6. The larger and the smaller of two -/

section Extremes

variable {F : Type} [FloatNum F]

/-- `max(a, b)`. -/
def pyMax (a b : F) : F := if a < b then b else a

/-- `min(a, b)`. -/
def pyMin (a b : F) : F := if b < a then b else a

theorem pyMax_number {x : F} : IsNumber (pyMax (FloatNum.ofInt 0) x) := by
  unfold pyMax
  split
  · rename_i h
    exact (isNumber_of_le (FloatNum.le_of_lt h)).2
  · exact isNumber_zero

theorem pyMax_positive {x : F} (h : FloatNum.ofInt 0 < pyMax (FloatNum.ofInt 0) x) :
    pyMax (FloatNum.ofInt 0) x = x := by
  unfold pyMax at h ⊢
  split
  · rfl
  · rename_i hx
    rw [if_neg hx] at h
    exact absurd h FloatNum.lt_irrefl

/-- Between nothing and a finite request lies a finite allocation. -/
theorem pyMin_finite {a b : F} (ha : FloatNum.isFinite a = true)
    (hpos : FloatNum.ofInt 0 < pyMin a b) : FloatNum.isFinite (pyMin a b) = true := by
  unfold pyMin at hpos ⊢
  split
  · rename_i hlt
    rw [if_pos hlt] at hpos
    exact FloatNum.finite_between (FloatNum.le_of_lt hpos) (FloatNum.le_of_lt hlt)
      FloatNum.finite_zero ha
  · exact ha

end Extremes

end AlphaForge.Lib
