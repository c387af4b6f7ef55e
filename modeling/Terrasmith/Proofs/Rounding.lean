import Mathlib.Algebra.Group.Nat.Defs
import Terrasmith.Number.Text

/-!
How integers beyond the signed range become floats. A float has 53 bits, and so of an integer of 64 bits it holds a
multiple of `2 ^ 11`: the closest one, and of two as close the one with an even quotient. Back as a number this is an
integer again, unless it has been rounded up to `2 ^ 64`.
-/
namespace Terrasmith.Number

open Float.Model Float.Model.UnpackedFloat

/-- How many steps of `2 ^ 11` the float closest to an integer has, if the integer has 64 bits. -/
def steps (n : Nat) : Nat :=
  if n % 2048 < 1024 then n / 2048
  else if n % 2048 = 1024 then n / 2048 + n / 2048 % 2
  else n / 2048 + 1

section Rounding

variable {n : Nat}

/-- A shift of an exact mantissa: the bits that fall out last and before are kept as a round bit and a sticky bit. -/
theorem shiftRight_exact (m k : Nat) :
    (ExtendedMantissa.mk m false false >>> (k + 1)) =
      ⟨m / 2 ^ (k + 1), m / 2 ^ k % 2 != 0, m % 2 ^ k != 0⟩ := by
  induction k with
  | zero => simp [HShiftRight.hShiftRight, Nat.repeat, ExtendedMantissa.shiftRightOne, Nat.mod_one]
  | succ k ih =>
    have hstep : ExtendedMantissa.mk m false false >>> (k + 2) =
        (ExtendedMantissa.mk m false false >>> (k + 1)).shiftRightOne := rfl
    have hsticky : (m / 2 ^ k % 2 != 0 || m % 2 ^ k != 0) = (m % 2 ^ (k + 1) != 0) := by
      rw [Nat.mod_pow_succ]
      rcases Nat.mod_two_eq_zero_or_one (m / 2 ^ k) with hbit | hbit <;> simp [hbit]
    rw [hstep, ih, ExtendedMantissa.shiftRightOne, hsticky, Nat.div_div_eq_div_mul, ← Nat.pow_succ]

theorem roundedMantissa_steps (n : Nat) :
    (ExtendedMantissa.mk (n / 2048) (n / 1024 % 2 != 0) (n % 1024 != 0)).roundedMantissa = steps n := by
  unfold steps
  cases hround : n / 1024 % 2 != 0 <;> cases hsticky : n % 1024 != 0 <;>
    simp only [bne_iff_ne, bne_eq_false_iff_eq] at hround hsticky
  · exact (if_pos (by omega)).symm
  · exact (if_pos (by omega)).symm
  · exact ((if_neg (by omega)).trans (if_pos (by omega))).symm
  · exact ((if_neg (by omega)).trans (if_neg (by omega))).symm

theorem steps_eq_iff : 2048 * steps n = n ↔ 2048 ∣ n := by
  unfold steps
  split
  · omega
  · split <;> omega

theorem le_steps (hlow : signedLimit ≤ n) : 2 ^ 52 ≤ steps n := by
  unfold signedLimit at hlow
  unfold steps
  split
  · omega
  · split <;> omega

theorem steps_le (hhigh : n < unsignedLimit) : steps n ≤ 2 ^ 53 := by
  unfold unsignedLimit at hhigh
  unfold steps
  split
  · omega
  · split <;> omega

/-- The first shift leaves 53 bits. -/
theorem shift_word (hlow : signedLimit ≤ n) (hhigh : n < unsignedLimit) :
    shiftToTargetExponent Format.binary64 (n <<< 53) (-53) .exact =
      (⟨n / 2048, n / 1024 % 2 != 0, n % 1024 != 0⟩, 11) := by
  unfold signedLimit at hlow
  unfold unsignedLimit at hhigh
  have hbits : (n <<< 53).log2 = 116 := by
    rw [Nat.shiftLeft_eq, Nat.log2_eq_iff (by omega)]
    omega
  have htarget : Format.binary64.targetExponent (totalExponent (n <<< 53) (-53)) = 11 := by
    rw [totalExponent, hbits]
    rfl
  rw [shiftToTargetExponent, htarget]
  have hshift := shiftRight_exact (n <<< 53) 63
  have hmantissa : n <<< 53 / 2 ^ 64 = n / 2048 := by rw [Nat.shiftLeft_eq]; omega
  have hround : n <<< 53 / 2 ^ 63 = n / 1024 := by rw [Nat.shiftLeft_eq]; omega
  have hsticky : (n <<< 53 % 2 ^ 63 != 0) = (n % 1024 != 0) := by
    rw [Nat.shiftLeft_eq, Bool.eq_iff_iff, bne_iff_ne, bne_iff_ne]
    omega
  rw [hmantissa, hround, hsticky] at hshift
  exact congrArg (·, (11 : Int)) hshift

/-- What has 53 bits stays. -/
theorem shift_fitting {m : Nat} (hlow : 2 ^ 52 ≤ m) (hhigh : m < 2 ^ 53) :
    shiftToTargetExponent Format.binary64 m 11 .exact = (⟨m, false, false⟩, 11) := by
  have hbits : m.log2 = 52 := (Nat.log2_eq_iff (by omega)).mpr ⟨hlow, hhigh⟩
  have htarget : Format.binary64.targetExponent (totalExponent m 11) = 11 := by
    rw [totalExponent, hbits]
    rfl
  rw [shiftToTargetExponent, htarget]
  rfl

/-- Rounding up to the next power of two costs a bit. -/
theorem shift_overflow :
    shiftToTargetExponent Format.binary64 (2 ^ 53) 11 .exact = (⟨2 ^ 52, false, false⟩, 12) := by
  have htarget : Format.binary64.targetExponent (totalExponent (2 ^ 53) 11) = 12 := by
    rw [totalExponent, Nat.log2_two_pow]
    rfl
  rw [shiftToTargetExponent, htarget]
  rfl

/-- The float closest to an integer beyond the signed range has 53 bits and stands for a multiple of `2 ^ 11`. -/
theorem ofScientific_word (hlow : signedLimit ≤ n) (hhigh : n < unsignedLimit) :
    ∃ (m k : Nat) (hm : 0 < m), UnpackedFloat.ofScientific Format.binary64 n 0 = .finite .positive m k hm ∧
      (2 ^ 52 ≤ m ∧ m < 2 ^ 53) ∧ (m = steps n ∧ k = 11 ∨ m = 2 ^ 52 ∧ k = 12 ∧ steps n = 2 ^ 53) := by
  have hn : n ≠ 0 := by unfold signedLimit at hlow; omega
  have hround : UnpackedFloat.ofScientific Format.binary64 n 0 =
      roundWithAccuracy Format.binary64 .positive (n <<< 53 * 1) (-53 + 0) .exact := by
    have hsmall : ¬(0 : Int) > 2 ^ 11 := by decide
    have hlarge : ¬(0 : Int) < -(2 ^ 11 + (n.log2 : Int)) := by omega
    rw [UnpackedFloat.ofScientific, dif_neg hn, if_neg hsmall, if_neg hlarge, if_pos (Int.le_refl 0)]
    rfl
  rw [hround, Nat.mul_one, Int.add_zero, roundWithAccuracy, shift_word hlow hhigh]
  dsimp only
  rw [roundedMantissa_steps]
  rcases Nat.lt_or_ge (steps n) (2 ^ 53) with hfits | hfull
  · have hpos : 0 < steps n := by have := le_steps hlow; omega
    rw [shift_fitting (le_steps hlow) hfits]
    exact ⟨steps n, 11, hpos, dif_neg (Nat.ne_of_gt hpos), ⟨le_steps hlow, hfits⟩, .inl ⟨rfl, rfl⟩⟩
  · obtain hfull : steps n = 2 ^ 53 := Nat.le_antisymm (steps_le hhigh) hfull
    rw [hfull, shift_overflow]
    exact ⟨2 ^ 52, 12, by decide, rfl, by decide, .inr ⟨rfl, rfl, rfl⟩⟩

end Rounding

/-! ### Bits -/

section Bits

variable {m k : Nat}

theorem toNat_toBits_ofModel (f : UnpackedFloat) :
    (Float.ofModel (Float.Model.pack f)).toBits.toNat = (UnpackedFloat.pack Format.binary64 f).toNat := rfl

theorem isFinite_ofModel (f : UnpackedFloat) : (Float.ofModel (Float.Model.pack f)).isFinite =
    (UnpackedFloat.unpack Format.binary64 (UnpackedFloat.pack Format.binary64 f)).isFinite := rfl

/-- A mantissa of 53 bits is packed without the first of them, behind its exponent. -/
theorem pack_word (hm : 0 < m) (hlow : 2 ^ 52 ≤ m) (hhigh : m < 2 ^ 53) (hk : k ≤ 12) :
    UnpackedFloat.pack Format.binary64 (.finite .positive m k hm) =
      packComponents Format.binary64 .positive (BitVec.ofNat 11 (k + 1075)) (BitVec.ofNat 52 m) := by
  have hbits : m.log2 = 52 := (Nat.log2_eq_iff (by omega)).mpr ⟨hlow, hhigh⟩
  have hexponent : ((k : Int) + (Format.binary64.exponentBias : Nat) + (52 : Nat)).toNat = k + 1075 := by
    change ((k : Int) + (1023 : Nat) + (52 : Nat)).toNat = k + 1075
    omega
  delta UnpackedFloat.pack
  dsimp only
  rw [hexponent, hbits, if_neg (by change ¬2048 ≤ k + 1075 + 1; omega),
    if_pos (show 52 + 1 = Format.binary64.mantissaBits from rfl)]

theorem toNat_packComponents (exponent : BitVec 11) (mantissa : BitVec 52) :
    (packComponents Format.binary64 .positive exponent mantissa).toNat =
      exponent.toNat * 2 ^ 52 + mantissa.toNat := by
  rw [packComponents, BitVec.toNat_append, BitVec.toNat_append, ← Nat.shiftLeft_add_eq_or_of_lt mantissa.isLt,
    ← Nat.shiftLeft_add_eq_or_of_lt exponent.isLt, Nat.shiftLeft_eq]
  simp [Sign.toBitVec]

/-- A packed float whose exponent is neither the least nor the greatest one is finite. -/
theorem isFinite_packComponents {sign : Sign} {exponent : BitVec 11} {mantissa : BitVec 52} (hleast : exponent ≠ 0#11)
    (hgreatest : exponent ≠ -1#11) :
    (UnpackedFloat.unpack Format.binary64 (packComponents Format.binary64 sign exponent mantissa)).isFinite = true := by
  delta UnpackedFloat.unpack
  dsimp only
  rw [unpackExponent_packComponents, if_neg hgreatest, if_neg hleast]
  rfl

/-- A mantissa of 53 bits with a small exponent is a number again: an integer if it is in range. -/
theorem ofFloat?_pack (hm : 0 < m) (hlow : 2 ^ 52 ≤ m) (hhigh : m < 2 ^ 53) (hk : k ≤ 12) {x : Float}
    (hx : x = Float.ofModel (Float.Model.pack (.finite .positive m k hm))) :
    ofFloat? x = some (if m * 2 ^ k < unsignedLimit then .int ((m * 2 ^ k : Nat) : Int) else .float x) := by
  have hexponent : (BitVec.ofNat 11 (k + 1075)).toNat = k + 1075 := by
    rw [BitVec.toNat_ofNat]
    omega
  have hbits : x.toBits.toNat = (k + 1075) * 2 ^ 52 + (m - 2 ^ 52) := by
    rw [hx, toNat_toBits_ofModel, pack_word hm hlow hhigh hk, toNat_packComponents, hexponent, BitVec.toNat_ofNat]
    omega
  have hfinite : x.isFinite = true := by
    rw [hx, isFinite_ofModel, pack_word hm hlow hhigh hk]
    refine isFinite_packComponents (fun h => ?_) fun h => ?_
    · have hvalue : (0#11).toNat = k + 1075 := h ▸ hexponent
      simp at hvalue
    · have hvalue : (-1#11).toNat = k + 1075 := h ▸ hexponent
      have hones : (-1#11).toNat = 2047 := by decide
      omega
  have hsign : Binary.isNegative x = false := by
    rw [Binary.isNegative, hbits, decide_eq_false_iff_not, Binary.twoTo, Nat.pow_eq]
    omega
  have hbinary : Binary.ofFloat x = ⟨m, (k : Int)⟩ := by
    have hmod : x.toBits.toNat % 2 ^ 63 = x.toBits.toNat := Nat.mod_eq_of_lt (by omega)
    have hfield : x.toBits.toNat / 2 ^ 52 = k + 1075 := by omega
    have hfraction : x.toBits.toNat % 2 ^ 52 = m - 2 ^ 52 := by omega
    simp only [Binary.ofFloat, Binary.twoTo, Nat.pow_eq, hmod, hfield, hfraction]
    rw [if_neg (by omega)]
    simp only [Binary.mk.injEq]
    omega
  have hvalue : (Binary.ofFloat x).toNat? = some (m * 2 ^ k) := by
    rw [hbinary, Binary.toNat?, if_pos (Int.natCast_nonneg k), Int.toNat_natCast, Binary.twoTo, Nat.pow_eq]
  have hrange : inRange ((m * 2 ^ k : Nat) : Int) = decide (m * 2 ^ k < unsignedLimit) := by
    rw [inRange, Bool.eq_iff_iff, Bool.and_eq_true, decide_eq_true_iff, decide_eq_true_iff, decide_eq_true_iff]
    omega
  rw [ofFloat?, if_pos hfinite, ofFloat, if_pos hfinite, hvalue]
  simp only [hsign, Bool.false_eq_true, if_false, hrange, decide_eq_true_eq]

end Bits

theorem ofNat_unsignedLimit : Float.ofNat unsignedLimit =
    Float.ofModel (Float.Model.pack (.finite .positive (2 ^ 52) (12 : Nat) (by decide))) := by
  decide +kernel

/-- The number that is read where an integer is written: the integer, if it is in the signed range, else the number of
the closest float. -/
def readBack (i : Int) : Number :=
  if i < signedLimit then .int i
  else if 2048 * steps i.toNat < unsignedLimit then .int ((2048 * steps i.toNat : Nat) : Int)
  else .float (Float.ofNat unsignedLimit)

theorem ofFloat?_ofScientific {n : Nat} (hlow : signedLimit ≤ n) (hhigh : n < unsignedLimit) :
    ofFloat? (Float.ofScientific n false 0) = some (readBack n) := by
  obtain ⟨m, k, hm, hround, ⟨hmlow, hmhigh⟩, hvalue⟩ := ofScientific_word hlow hhigh
  have hx : Float.ofScientific n false 0 = Float.ofModel (Float.Model.pack (.finite .positive m k hm)) := by
    have hbig : ¬(n < 2 ^ 53 ∧ 0 ≤ 22) := by unfold signedLimit at hlow; omega
    rw [Float.ofScientific, dif_neg hbig, ← hround]
    rfl
  have hunsigned : ¬(n : Int) < signedLimit := by omega
  rw [readBack, if_neg hunsigned, Int.toNat_natCast, ofFloat?_pack hm hmlow hmhigh (by omega) hx]
  rcases hvalue with ⟨rfl, rfl⟩ | ⟨rfl, rfl, hfull⟩
  · have hmul : steps n * 2 ^ 11 = 2048 * steps n := by omega
    have hlimit : 2048 * steps n < unsignedLimit := by unfold unsignedLimit; omega
    rw [hmul, if_pos hlimit, if_pos hlimit]
  · have hlimit : ¬2 ^ 52 * 2 ^ 12 < unsignedLimit := by decide
    rw [hfull, if_neg hlimit, if_neg (by decide), hx, ofNat_unsignedLimit]

/-- An integer beyond the signed range is read back as itself exactly if it is a multiple of `2 ^ 11`. -/
theorem readBack_eq_self_iff {i : Int} (h : inRange i = true) : readBack i = .int i ↔ i < signedLimit ∨ 2048 ∣ i := by
  rw [inRange, Bool.and_eq_true, decide_eq_true_iff, decide_eq_true_iff] at h
  rw [readBack]
  split
  · simp [*]
  · have hsigned : ¬i < signedLimit := ‹_›
    obtain ⟨n, rfl⟩ := Int.eq_ofNat_of_zero_le (show 0 ≤ i by omega)
    have hdvd : (2048 : Int) ∣ n ↔ 2048 ∣ n := by omega
    rw [Int.toNat_natCast, or_iff_right hsigned, hdvd, ← steps_eq_iff]
    split
    · rw [Number.int.injEq, Int.ofNat_inj]
    · have hlimit : ¬2048 * steps n < unsignedLimit := ‹_›
      have hne : 2048 * steps n ≠ n := by omega
      simp [hne]

end Terrasmith.Number
