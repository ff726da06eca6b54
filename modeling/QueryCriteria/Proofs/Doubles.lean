import Mathlib.Algebra.Group.Nat.Hom
import QueryCriteria.Value.Json

/-!
A whole number of JSON never becomes an infinite double.

A whole number beyond the signed ones is below 2 to the power of 64, and doubles go up to almost 2
to the power of 1024, so there is room to spare and the bounds here are crude ones. Rounding first
shifts a mantissa, which makes it no greater, then adds one to it at the most
(`roundedMantissa_le`), and then shifts it again, so the exponent stays far below that of infinity
(`moderate_roundWithAccuracy`). A number with such an exponent is packed with its own exponent
bits, which are not all ones, and that is what it is to be finite (`isFinite_unpack`).
-/

namespace QueryCriteria.Doubles

open Float.Model Float.Model.UnpackedFloat

/-! ## Rounding -/

theorem mantissa_shiftRight_le (em : ExtendedMantissa) (k : Nat) :
    (em >>> k).mantissa ≤ em.mantissa := by
  induction k with
  | zero => exact Nat.le_refl _
  | succ k ih => exact Nat.le_trans (Nat.div_le_self (em >>> k).mantissa 2) ih

theorem roundedMantissa_le (em : ExtendedMantissa) : em.roundedMantissa ≤ em.mantissa + 1 := by
  obtain ⟨mantissa, roundBit, stickyBit⟩ := em
  have hparity : mantissa + mantissa % 2 ≤ mantissa + 1 := by omega
  cases roundBit <;> cases stickyBit
  · exact Nat.le_succ mantissa
  · exact Nat.le_succ mantissa
  · exact hparity
  · exact Nat.le_refl _

theorem mantissa_shiftToTargetExponent_le (spec : Format) (m : Nat) (e : Int) :
    (shiftToTargetExponent spec m e .exact).1.mantissa ≤ m := mantissa_shiftRight_le _ _

theorem exponent_shiftToTargetExponent (spec : Format) (m : Nat) (e : Int) :
    (shiftToTargetExponent spec m e .exact).2 =
      max e (spec.targetExponent (totalExponent m e)) := by
  show e + ((spec.targetExponent (totalExponent m e) - e).toNat : Int) = _
  omega

/-- The exponent that a mantissa is shifted to. -/
theorem exponent_shift_le {m k : Nat} {e : Int} (hm : m < 2 ^ k) :
    (shiftToTargetExponent .binary64 m e .exact).2 ≤ max e (max (k + 1 + e - 53) (-1074)) := by
  have hlog : m.log2 ≤ k := by
    by_cases hzero : m = 0
    · simp [hzero]
    · exact Nat.le_of_lt ((Nat.log2_lt hzero).2 hm)
  rw [exponent_shiftToTargetExponent]
  unfold Format.targetExponent totalExponent
  have hbits : Format.binary64.mantissaBits = 53 := rfl
  have hmin : Format.binary64.minExponent = -1074 := rfl
  rw [hbits, hmin]
  omega

/-- Zero, or a number with an exponent far below that of infinity. -/
inductive Moderate : UnpackedFloat → Prop where
  | zero (s : Sign) : Moderate (.zero s)
  | finite {s : Sign} {m : Nat} {e : Int} (hm : 0 < m) (he : e ≤ 500) : Moderate (.finite s m e hm)

theorem moderate_roundWithAccuracy {sign : Sign} {m : Nat} {e : Int} (hm : m < 2 ^ 117)
    (he : e ≤ 0) : Moderate (roundWithAccuracy .binary64 sign m e .exact) := by
  have hround : (shiftToTargetExponent .binary64 m e .exact).1.roundedMantissa < 2 ^ 118 := by
    have hle := roundedMantissa_le (shiftToTargetExponent .binary64 m e .exact).1
    have hshift := mantissa_shiftToTargetExponent_le .binary64 m e
    omega
  have hfirst := exponent_shift_le (e := e) hm
  have hsecond :=
    exponent_shift_le (e := (shiftToTargetExponent .binary64 m e .exact).2) hround
  unfold roundWithAccuracy
  dsimp only
  generalize shiftToTargetExponent .binary64
    (shiftToTargetExponent .binary64 m e .exact).1.roundedMantissa
    (shiftToTargetExponent .binary64 m e .exact).2 .exact = final at hsecond ⊢
  by_cases hzero : final.1.mantissa = 0
  · rw [dif_pos hzero]
    exact .zero sign
  · rw [dif_neg hzero]
    exact .finite _ (by omega)

/-! ## Packing -/

/-- All exponent bits are ones in infinities and in what is no number, and in nothing else. -/
theorem isFinite_unpack (spec : Format) {b : BitVec spec.numBits}
    (h : unpackExponent b ≠ -1#_) : (UnpackedFloat.unpack spec b).isFinite = true := by
  unfold UnpackedFloat.unpack
  dsimp only
  rw [if_neg h]
  by_cases hexponent : unpackExponent b = 0#_
  · rw [if_pos hexponent]
    by_cases hmantissa : unpackMantissa b = 0#_
    · rw [dif_pos hmantissa]
      rfl
    · rw [dif_neg hmantissa]
      rfl
  · rw [if_neg hexponent]
    rfl

theorem isFinite_pack {f : UnpackedFloat} (h : Moderate f) : (pack f).isFinite = true := by
  refine isFinite_unpack .binary64 ?_
  show unpackExponent (UnpackedFloat.pack .binary64 f) ≠ -1#11
  cases h with
  | zero s =>
    unfold UnpackedFloat.pack packedZero
    rw [unpackExponent_packComponents]
    decide
  | finite hm he =>
    have hbias : Format.binary64.exponentBias = 1023 := rfl
    unfold UnpackedFloat.pack
    dsimp only
    rw [hbias, if_neg (by omega)]
    split
    · rw [unpackExponent_packComponents]
      intro hones
      have hnat := congrArg BitVec.toNat hones
      rw [BitVec.toNat_ofNat, show (-1#11).toNat = 2047 from rfl] at hnat
      omega
    · rw [unpackExponent_packComponents]
      decide

theorem ofScientific_eq {n : Nat} (h : n ≠ 0) :
    UnpackedFloat.ofScientific .binary64 n 0 =
      roundWithAccuracy .binary64 .positive (n <<< 53 * 1) (-53) .exact := by
  have hpower : (0 : Int) ≤ 2 ^ Format.binary64.exponentBits := by decide
  unfold UnpackedFloat.ofScientific
  rw [dif_neg h, if_neg (by decide), if_neg (by omega), if_pos (Int.le_refl 0)]
  rfl

theorem ofNat_eq {n : Nat} (h : 2 ^ 53 ≤ n) :
    Float.ofNat n = .ofModel (pack (UnpackedFloat.ofScientific .binary64 n 0)) := by
  have hslow : ¬ (n < 2 ^ 53 ∧ 0 ≤ 22) := fun h' => Nat.not_lt_of_le h h'.1
  exact dif_neg hslow

/-- Words of sixty-four bits are far from the end of the doubles. -/
theorem isFinite_ofNat {n : Nat} (hlow : 2 ^ 53 ≤ n) (hhigh : n < 2 ^ 64) :
    (Float.ofNat n).isFinite = true := by
  have hzero : n ≠ 0 := by omega
  have hbound : n <<< 53 * 1 < 2 ^ 117 := by
    rw [Nat.shiftLeft_eq]
    omega
  have hmoderate : Moderate (UnpackedFloat.ofScientific .binary64 n 0) := by
    rw [ofScientific_eq hzero]
    exact moderate_roundWithAccuracy hbound (by decide)
  rw [ofNat_eq hlow]
  exact isFinite_pack hmoderate

end QueryCriteria.Doubles
