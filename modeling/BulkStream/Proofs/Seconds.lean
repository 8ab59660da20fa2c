import Mathlib
import BulkStream.Progress

/-!
Durations in seconds. A duration that is not empty is a positive number of seconds, although its two
parts are rounded, divided and added as doubles: no number met on the way is so small that it could
be rounded to zero.
-/
namespace BulkStream

open Float.Model UnpackedFloat

namespace Double

/-- A positive number whose mantissa has all its bits, with an exponent in a range. -/
def IsNormal (low high : Int) : UnpackedFloat → Prop
  | .finite .positive m e _ => 2 ^ 52 ≤ m ∧ m < 2 ^ 53 ∧ low ≤ e ∧ e ≤ high
  | _ => False

variable {low high : Int}

theorem IsNormal.exists_finite {x : UnpackedFloat} (h : IsNormal low high x) :
    ∃ m e positive, x = .finite .positive m e positive ∧
      2 ^ 52 ≤ m ∧ m < 2 ^ 53 ∧ low ≤ e ∧ e ≤ high := by
  cases x with
  | finite sign m e positive =>
      cases sign with
      | positive => exact ⟨m, e, positive, rfl, h⟩
      | negative => exact h.elim
  | infinity _ | notANumber | zero _ => exact h.elim

theorem IsNormal.mono {x : UnpackedFloat} (h : IsNormal low high x) {lower higher : Int}
    (below : lower ≤ low) (above : high ≤ higher) : IsNormal lower higher x := by
  obtain ⟨m, e, positive, rfl, long, short, least, most⟩ := h.exists_finite
  exact ⟨long, short, Int.le_trans below least, Int.le_trans most above⟩

theorem log2_of_full {m : Nat} (long : 2 ^ 52 ≤ m) (short : m < 2 ^ 53) : m.log2 = 52 :=
  (Nat.log2_eq_iff (by omega)).mpr ⟨long, short⟩

theorem log2_shiftLeft {m : Nat} (positive : m ≠ 0) (k : Nat) : (m <<< k).log2 = m.log2 + k := by
  have shifted : m * 2 ^ k ≠ 0 := Nat.mul_ne_zero positive (Nat.ne_of_gt (Nat.two_pow_pos k))
  rw [Nat.shiftLeft_eq, Nat.log2_eq_iff shifted, Nat.add_right_comm, Nat.pow_add, Nat.pow_add]
  constructor
  · exact Nat.mul_le_mul_right _ (Nat.log2_self_le positive)
  · exact Nat.mul_lt_mul_of_pos_right Nat.lt_log2_self (Nat.two_pow_pos k)

theorem mantissa_shiftRight (m : ExtendedMantissa) (n : Nat) :
    (m >>> n).mantissa = m.mantissa / 2 ^ n := by
  induction n with
  | zero => simp [HShiftRight.hShiftRight, Nat.repeat]
  | succ n ih =>
      change (m >>> n).mantissa / 2 = _
      rw [ih, Nat.div_div_eq_div_mul, Nat.pow_succ]

theorem mantissa_le_rounded (m : ExtendedMantissa) :
    m.mantissa ≤ m.roundedMantissa ∧ m.roundedMantissa ≤ m.mantissa + 1 := by
  obtain ⟨m, half, rest⟩ := m
  cases half <;> cases rest <;>
    simp only [ExtendedMantissa.roundedMantissa, ExtendedMantissa.accuracy,
      Accuracy.roundToNearestEven] <;>
    omega

theorem mantissa_ofMantissaAndAccuracy (m : Nat) (a : Accuracy) :
    (ExtendedMantissa.ofMantissaAndAccuracy m a).mantissa = m := by
  cases a with
  | exact => rfl
  | inexact order => cases order <;> rfl

theorem targetExponent_eq (m : Nat) (e : Int) :
    Format.binary64.targetExponent (totalExponent m e) = max (m.log2 + e - 52) (-1074) := by
  simp only [Format.targetExponent, totalExponent, Format.mantissaBits, Format.minExponent]
  omega

/-- A mantissa with bits to spare is cut to the bits there are. -/
theorem shifted_full {m : Nat} {e : Int} (long : 2 ^ 52 ≤ m) (above : -1074 ≤ e) (a : Accuracy) :
    ∃ n, 2 ^ 52 ≤ n.mantissa ∧ n.mantissa < 2 ^ 53 ∧
      shiftToTargetExponent .binary64 m e a = (n, e + (m.log2 - 52 : Nat)) := by
  have positive : m ≠ 0 := by omega
  have bits : 52 ≤ m.log2 := (Nat.le_log2 positive).mpr long
  have target : Format.binary64.targetExponent (totalExponent m e) = e + (m.log2 - 52 : Nat) := by
    rw [targetExponent_eq]
    omega
  have shift : (e + ((m.log2 - 52 : Nat) : Int) - e).toNat = m.log2 - 52 := by omega
  have cut : shiftToTargetExponent .binary64 m e a =
      (ExtendedMantissa.ofMantissaAndAccuracy m a >>> (m.log2 - 52), e + (m.log2 - 52 : Nat)) := by
    simp only [shiftToTargetExponent, shiftToExponent, target, shift]
  refine ⟨_, ?_, ?_, cut⟩
  · rw [mantissa_shiftRight, mantissa_ofMantissaAndAccuracy,
      Nat.le_div_iff_mul_le (Nat.two_pow_pos _), ← Nat.pow_add, Nat.add_sub_of_le bits]
    exact Nat.log2_self_le positive
  · rw [mantissa_shiftRight, mantissa_ofMantissaAndAccuracy,
      Nat.div_lt_iff_lt_mul (Nat.two_pow_pos _), ← Nat.pow_add,
      show 53 + (m.log2 - 52) = m.log2 + 1 by omega]
    exact Nat.lt_log2_self

theorem roundWithAccuracy_normal {m : Nat} {e : Int} (long : 2 ^ 52 ≤ m) (above : -1074 ≤ e)
    (a : Accuracy) :
    IsNormal (m.log2 + e - 52) (m.log2 + e - 51)
      (roundWithAccuracy .binary64 .positive m e a) := by
  have bits : 52 ≤ m.log2 := (Nat.le_log2 (by omega)).mpr long
  obtain ⟨n, low, high, first⟩ := shifted_full long above a
  obtain ⟨least, most⟩ := mantissa_le_rounded n
  -- Rounding up may add a bit, which a second cut takes off.
  obtain ⟨k, full, short, second⟩ :=
    shifted_full (m := n.roundedMantissa) (e := e + (m.log2 - 52 : Nat)) (by omega) (by omega) .exact
  have rounded : n.roundedMantissa.log2 < 54 := (Nat.log2_lt (by omega)).mpr (by omega)
  have some_bit : k.mantissa ≠ 0 := by omega
  simp only [roundWithAccuracy, first, second, dif_neg some_bit, IsNormal]
  omega

theorem round_normal {m : Nat} {e : Int} (positive : m ≠ 0) (above : -1074 ≤ e)
    (room : -1074 ≤ m.log2 + e - 52) :
    IsNormal (m.log2 + e - 52) (m.log2 + e - 51) (UnpackedFloat.round .binary64 .positive m e) := by
  have target : Format.binary64.targetExponent (totalExponent m e) = m.log2 + e - 52 := by
    rw [targetExponent_eq]
    omega
  have shift : (e - (m.log2 + e - 52)).toNat = 52 - m.log2 := by omega
  simp only [UnpackedFloat.round, target, decreaseExponent, shift]
  have bits := log2_shiftLeft positive (52 - m.log2)
  have long : 2 ^ 52 ≤ m <<< (52 - m.log2) := by
    rw [← Nat.le_log2]
    · omega
    · rw [Nat.shiftLeft_eq]
      exact Nat.mul_ne_zero positive (Nat.ne_of_gt (Nat.two_pow_pos _))
  have rounded := roundWithAccuracy_normal long
    (show -1074 ≤ e - (52 - m.log2 : Nat) by omega) .exact
  apply rounded.mono <;> omega

theorem unpackSign_positive (exponent : BitVec 11) (mantissa : BitVec 52) :
    unpackSign (packComponents .binary64 .positive exponent mantissa) = 0#1 := by
  simp only [unpackSign, packComponents, BitVec.extractLsb]
  rw [BitVec.extractLsb'_append_eq_of_le (by decide),
    BitVec.extractLsb'_append_eq_of_le (by decide)]
  rfl

/-- The leading bit of a full mantissa need not be stored. -/
theorem toNat_leading_append {m : Nat} (long : 2 ^ 52 ≤ m) (short : m < 2 ^ 53) :
    (1#1 ++ BitVec.ofNat 52 m).toNat = m := by
  rw [BitVec.toNat_append, BitVec.toNat_ofNat, BitVec.toNat_ofNat,
    ← Nat.shiftLeft_add_eq_or_of_lt (Nat.mod_lt _ (Nat.two_pow_pos 52)), Nat.shiftLeft_eq]
  omega

/-- Packing keeps a normal number as it is. -/
theorem unpack_pack_normal {x : UnpackedFloat} (h : IsNormal (-1074) 971 x) :
    (Float.Model.pack x).unpack = x := by
  obtain ⟨m, e, positive, rfl, long, short, least, most⟩ := h.exists_finite
  have bias : (e + Format.exponentBias .binary64 + Format.mantissaBitsWithoutImplicit .binary64).toNat =
      (e + 1075).toNat := by
    change (e + (1023 : Nat) + (52 : Nat)).toNat = (e + 1075).toNat
    omega
  have room : ¬ 2 ^ Format.exponentBits .binary64 ≤ (e + 1075).toNat + 1 := by
    change ¬ 2048 ≤ _
    omega
  have packed : UnpackedFloat.pack .binary64 (.finite .positive m e positive) =
      packComponents .binary64 .positive (.ofNat 11 (e + 1075).toNat) (.ofNat 52 m) := by
    simp only [UnpackedFloat.pack, bias, if_neg room, log2_of_full long short]
    rfl
  have exponent : (BitVec.ofNat 11 (e + 1075).toNat).toNat = (e + 1075).toNat := by
    rw [BitVec.toNat_ofNat, Nat.mod_eq_of_lt (by omega)]
  -- The exponents of what is not normal are the greatest and the least.
  have apart (other : BitVec 11) (value : other.toNat ≠ (e + 1075).toNat) :
      BitVec.ofNat 11 (e + 1075).toNat ≠ other := by
    rintro rfl
    exact value exponent
  have below : BitVec.ofNat 11 (e + 1075).toNat ≠ -1#11 := by
    apply apart
    change 2047 ≠ (e + 1075).toNat
    omega
  have above : BitVec.ofNat 11 (e + 1075).toNat ≠ 0#11 := by
    apply apart
    change 0 ≠ (e + 1075).toNat
    omega
  change UnpackedFloat.unpack .binary64 (UnpackedFloat.pack .binary64 _) = _
  rw [packed]
  simp only [UnpackedFloat.unpack, unpackExponent_packComponents, unpackMantissa_packComponents,
    if_neg below, if_neg above, unpackSign_positive, exponent]
  have value : ((e + 1075).toNat : Int) - (((1023 : Nat) : Int) + ((52 : Nat) : Int)) = e := by
    omega
  exact UnpackedFloat.finite.injEq .. ▸ ⟨rfl, toNat_leading_append long short, value⟩

/-- The number that a double stands for is normal, with its exponent in a range. -/
def Scaled (low high : Int) (x : Float) : Prop := IsNormal low high x.toModel.unpack

theorem scaled_pack {x : UnpackedFloat} (h : IsNormal low high x) (above : -1074 ≤ low)
    (below : high ≤ 971) : Scaled low high ⟨Float.Model.pack x⟩ := by
  rw [Scaled, unpack_pack_normal (h.mono above below)]
  exact h

theorem scaled_countAsFloat {n : Nat} (positive : n ≠ 0) (count : n < countLimit) :
    Scaled (-52) 12 (countAsFloat n) := by
  have bits : n.log2 < 64 := (Nat.log2_lt positive).mpr count
  have rounded : IsNormal (-52) 12 (UnpackedFloat.round .binary64 .positive n 0) := by
    apply (round_normal positive (by omega) (by omega)).mono <;> omega
  have same : countAsFloat n = ⟨Float.Model.pack (UnpackedFloat.round .binary64 .positive n 0)⟩ := by
    have value : n.toUInt64.toNat = n := Nat.mod_eq_of_lt count
    have order : compare (n : Int) 0 = .gt := Int.compare_eq_gt.mpr (by omega)
    simp only [countAsFloat, UInt64.toFloat, Float.Model.ofUInt64, UnpackedFloat.ofUInt64,
      UnpackedFloat.ofNat, UnpackedFloat.ofInt, UnpackedFloat.normalize, value, order,
      Int.toNat_natCast]
  rw [same]
  exact scaled_pack rounded (by omega) (by omega)

theorem scaled_div {lowest highest : Int} {a b : Float} (numerator : Scaled low high a)
    (denominator : Scaled lowest highest b) (above : -1021 ≤ low - highest)
    (below : high - lowest ≤ 1022) : Scaled (low - highest - 53) (high - lowest - 51) (a / b) := by
  obtain ⟨m, e, positive, first, long, short, least, most⟩ := numerator.exists_finite
  obtain ⟨n, f, positive', second, long', short', least', most'⟩ := denominator.exists_finite
  have target : min (e - f)
      (Format.binary64.targetExponent (totalExponent m e - totalExponent n f)) = e - f - 53 := by
    simp only [Format.targetExponent, totalExponent, Format.mantissaBits, Format.minExponent,
      log2_of_full long short, log2_of_full long' short']
    omega
  have quotient : 2 ^ 52 ≤ m <<< 53 / n ∧ m <<< 53 / n < 2 ^ 54 := by
    rw [Nat.shiftLeft_eq, Nat.le_div_iff_mul_le positive', Nat.div_lt_iff_lt_mul positive']
    omega
  have bits : (m <<< 53 / n).log2 < 54 := (Nat.log2_lt (by omega)).mpr quotient.2
  have full : 52 ≤ (m <<< 53 / n).log2 := (Nat.le_log2 (by omega)).mpr quotient.1
  have divided : a / b = ⟨Float.Model.pack (roundWithAccuracy .binary64 .positive (m <<< 53 / n)
      (e - f - 53) (accuracyOfFraction (m <<< 53 % n) n))⟩ := by
    have shift : (e - f - (e - f - 53)).toNat = 53 := by omega
    change Float.ofModel (Float.Model.pack
      (UnpackedFloat.div .binary64 a.toModel.unpack b.toModel.unpack)) = _
    simp only [first, second, UnpackedFloat.div, divCore, target, shift]
    rfl
  rw [divided]
  apply scaled_pack _ (by omega) (by omega)
  apply (roundWithAccuracy_normal quotient.1 (by omega) _).mono <;> omega

theorem shiftLeft_bounds {m : Nat} (long : 2 ^ 52 ≤ m) (short : m < 2 ^ 53) {k most : Nat}
    (h : k ≤ most) : 2 ^ 52 ≤ m <<< k ∧ m <<< k < 2 ^ (53 + most) := by
  rw [Nat.shiftLeft_eq]
  constructor
  · exact Nat.le_trans long (Nat.le_mul_of_pos_right m (Nat.two_pow_pos k))
  · calc m * 2 ^ k < 2 ^ 53 * 2 ^ k := Nat.mul_lt_mul_of_pos_right short (Nat.two_pow_pos k)
      _ = 2 ^ (53 + k) := (Nat.pow_add 2 53 k).symm
      _ ≤ 2 ^ (53 + most) := Nat.pow_le_pow_right (by decide) (by omega)

theorem scaled_add {a b : Float} (augend : Scaled low high a) (addend : Scaled low high b)
    (above : -1074 ≤ low) (below : high ≤ 969) : Scaled low (high + 2) (a + b) := by
  obtain ⟨m, e, positive, first, long, short, least, most⟩ := augend.exists_finite
  obtain ⟨n, f, positive', second, long', short', least', most'⟩ := addend.exists_finite
  let low' := min e f
  let sum := m <<< (e - low').toNat + n <<< (f - low').toNat
  have parts := shiftLeft_bounds long short
    (show (e - low').toNat ≤ (max e f - low').toNat by omega)
  have parts' := shiftLeft_bounds long' short'
    (show (f - low').toNat ≤ (max e f - low').toNat by omega)
  have some_bit : sum ≠ 0 := by omega
  have full : 52 ≤ sum.log2 := (Nat.le_log2 some_bit).mpr (by omega)
  have bits : sum.log2 < 54 + (max e f - low').toNat := by
    rw [Nat.log2_lt some_bit, Nat.add_right_comm 53 1, Nat.pow_succ]
    omega
  have added : a + b = ⟨Float.Model.pack (UnpackedFloat.round .binary64 .positive sum low')⟩ := by
    have order : compare ((m <<< (e - low').toNat : Nat) + (n <<< (f - low').toNat : Nat) : Int) 0 =
        .gt := Int.compare_eq_gt.mpr (by omega)
    have value : ((m <<< (e - low').toNat : Nat) + (n <<< (f - low').toNat : Nat) : Int).toNat =
        sum := rfl
    change Float.ofModel (Float.Model.pack
      (UnpackedFloat.add .binary64 a.toModel.unpack b.toModel.unpack)) = _
    simp only [first, second, UnpackedFloat.add, decreaseExponent, Sign.apply,
      UnpackedFloat.normalize]
    simp only [show min e f = low' from rfl, order, value]
  rw [added]
  apply scaled_pack _ above (by omega)
  apply (round_normal some_bit (by omega) (by omega)).mono <;> omega

theorem zero_add_scaled {a b : Float} (zero : a.toModel.unpack = .zero .positive)
    (h : Scaled low high b) (above : -1074 ≤ low) (below : high ≤ 971) :
    Scaled low high (a + b) := by
  obtain ⟨m, e, positive, value, -⟩ := h.exists_finite
  have added : a + b = ⟨Float.Model.pack b.toModel.unpack⟩ := by
    change Float.ofModel (Float.Model.pack
      (UnpackedFloat.add .binary64 a.toModel.unpack b.toModel.unpack)) = _
    simp only [zero, value, UnpackedFloat.add]
  rw [added]
  exact scaled_pack h above below

theorem scaled_add_zero {a b : Float} (zero : b.toModel.unpack = .zero .positive)
    (h : Scaled low high a) (above : -1074 ≤ low) (below : high ≤ 971) :
    Scaled low high (a + b) := by
  obtain ⟨m, e, positive, value, -⟩ := h.exists_finite
  have added : a + b = ⟨Float.Model.pack a.toModel.unpack⟩ := by
    change Float.ofModel (Float.Model.pack
      (UnpackedFloat.add .binary64 a.toModel.unpack b.toModel.unpack)) = _
    simp only [zero, value, UnpackedFloat.add]
  rw [added]
  exact scaled_pack h above below

theorem Scaled.pos {x : Float} (h : Scaled low high x) : 0 < x := by
  obtain ⟨m, e, positive, value, -⟩ := h.exists_finite
  have zero : (0 : Float).toModel.unpack = .zero .positive := rfl
  have before : UnpackedFloat.lt (0 : Float).toModel.unpack x.toModel.unpack = true := by
    rw [zero, value]
    rfl
  change decide ((0 : Float).toModel < x.toModel) = true
  exact decide_eq_true before

end Double

/-- Nanoseconds in a duration whose whole seconds are a count. -/
def durationLimit : Nat := countLimit * 1000000000

open Double in
/-- Every duration that is not empty is positive in seconds too. -/
theorem secondsOf_pos {duration : Nat} (some_time : 0 < duration)
    (bounded : duration < durationLimit) : 0 < secondsOf duration := by
  have billion : Scaled (-23) (-23) (1000000000 : Float) := by
    have value : (1000000000 : Float).toModel.unpack =
        .finite .positive (1000000000 <<< 23) (-23) (by decide) := rfl
    rw [Scaled, value]
    simp only [IsNormal]
    omega
  have whole : duration / 1000000000 < countLimit :=
    (Nat.div_lt_iff_lt_mul (by decide)).mpr bounded
  have part : duration % 1000000000 < countLimit :=
    Nat.lt_trans (Nat.mod_lt _ (by decide)) (by decide)
  rw [secondsOf]
  by_cases nothing : duration % 1000000000 = 0
  · have full := scaled_countAsFloat (show duration / 1000000000 ≠ 0 by omega) whole
    rw [nothing]
    exact (scaled_add_zero rfl full (by decide) (by decide)).pos
  · have fraction := scaled_div (scaled_countAsFloat nothing part) billion (by decide) (by decide)
    by_cases short : duration / 1000000000 = 0
    · rw [short]
      exact (zero_add_scaled rfl fraction (by decide) (by decide)).pos
    · have full : Scaled (-82) 12 (countAsFloat (duration / 1000000000)) :=
        (scaled_countAsFloat short whole).mono (by decide) (by decide)
      have rest : Scaled (-82) 12 (countAsFloat (duration % 1000000000) / 1000000000) :=
        fraction.mono (by decide) (by decide)
      exact (scaled_add full rest (by decide) (by decide)).pos

end BulkStream
