import Mathlib
import RelationalLearning.Decimal.Shortest

namespace RelationalLearning.Binary64

open Float.Model (Format)
open Float.Model.UnpackedFloat

theorem exponentBias_eq : Format.exponentBias Format.binary64 = 1023 := by decide

theorem toNat_implicit (digits : Nat) (mantissa : BitVec digits) :
    (1#1 ++ mantissa).toNat = 2 ^ digits + mantissa.toNat := by
  rw [BitVec.toNat_append, ← Nat.shiftLeft_add_eq_or_of_lt mantissa.isLt]
  simp [Nat.shiftLeft_eq]

theorem pack_of_digits (sign : Sign) (mantissa : Nat) (exponent : Int) (positive : 0 < mantissa)
    (digits : mantissa.log2 = 52) (biased : Nat) (place : exponent + 1075 = biased)
    (inside : biased + 1 < 2048) :
    pack Format.binary64 (.finite sign mantissa exponent positive) =
      packComponents Format.binary64 sign (BitVec.ofNat 11 biased) (BitVec.ofNat 52 mantissa) := by
  have bias : (exponent + (Format.exponentBias Format.binary64 : Nat) + (52 : Nat)).toNat =
      biased := by
    rw [exponentBias_eq]
    omega
  have small : ¬ 2 ^ 11 ≤ biased + 1 := by omega
  have normal : mantissa.log2 + 1 = Format.mantissaBits Format.binary64 := by
    rw [digits]
    rfl
  simp only [pack, bias, if_neg small, if_pos normal]

/-- A number of 53 digits is packed without loss, unless its exponent is too small or too large. -/
theorem unpack_pack (sign : Sign) (mantissa : Nat) (exponent : Int) (positive : 0 < mantissa)
    (digits : mantissa.log2 = 52) (low : -1074 ≤ exponent) (high : exponent ≤ 971) :
    (Float.Model.pack (.finite sign mantissa exponent positive)).unpack =
      .finite sign mantissa exponent positive := by
  obtain ⟨atLeast, lessThan⟩ := (Nat.log2_eq_iff (Nat.ne_of_gt positive)).mp digits
  let biased := (exponent + 1075).toNat
  have inside : biased + 1 < 2048 := by omega
  have whole : (BitVec.ofNat 11 biased).toNat = biased := by
    rw [BitVec.toNat_ofNat, Nat.mod_eq_of_lt (by omega)]
  have nonzero : BitVec.ofNat 11 biased ≠ 0#11 := by
    intro same
    have := congrArg BitVec.toNat same
    rw [whole, BitVec.toNat_ofNat] at this
    omega
  have finite : BitVec.ofNat 11 biased ≠ -1#11 := by
    intro same
    have := congrArg BitVec.toNat same
    rw [whole] at this
    have : (-1#11).toNat = 2047 := by decide
    omega
  have kept : (1#1 ++ BitVec.ofNat 52 mantissa).toNat = mantissa := by
    rw [toNat_implicit, BitVec.toNat_ofNat]
    omega
  have unbiased : (biased : Int) - ((Format.exponentBias Format.binary64 : Nat) + (52 : Nat)) =
      exponent := by
    rw [exponentBias_eq]
    omega
  change unpack Format.binary64 (pack Format.binary64 (.finite sign mantissa exponent positive)) = _
  rw [pack_of_digits sign mantissa exponent positive digits biased (by omega) inside, unpack]
  simp only [unpackMantissa_packComponents, unpackExponent_packComponents,
    unpackSign_packComponents, Sign.ofBitVec_toBitVec, finite, nonzero, if_false, whole, kept,
    unbiased]

theorem unpack_pack_subnormal (sign : Sign) (mantissa : Nat) (positive : 0 < mantissa)
    (digits : mantissa < 2 ^ 52) :
    (Float.Model.pack (.finite sign mantissa (-1074) positive)).unpack =
      .finite sign mantissa (-1074) positive := by
  have few : ¬ mantissa.log2 + 1 = Format.mantissaBits Format.binary64 := by
    have := (Nat.log2_lt (Nat.ne_of_gt positive)).mpr digits
    change ¬ mantissa.log2 + 1 = 53
    omega
  have kept : (BitVec.ofNat 52 mantissa).toNat = mantissa := by
    rw [BitVec.toNat_ofNat, Nat.mod_eq_of_lt digits]
  have nonzero : BitVec.ofNat 52 mantissa ≠ 0#52 := by
    intro same
    have := congrArg BitVec.toNat same
    rw [kept, BitVec.toNat_ofNat] at this
    omega
  have packed : pack Format.binary64 (.finite sign mantissa (-1074) positive) =
      packComponents Format.binary64 sign 0#11 (BitVec.ofNat 52 mantissa) := by
    simp only [pack, if_neg few]
    rfl
  change unpack Format.binary64 (pack Format.binary64 (.finite sign mantissa (-1074) positive)) = _
  rw [packed, unpack]
  simp only [unpackMantissa_packComponents, unpackExponent_packComponents,
    unpackSign_packComponents, Sign.ofBitVec_toBitVec, nonzero, kept]
  rfl

theorem unpack_pack_large (sign : Sign) (mantissa : Nat) (exponent : Int) (positive : 0 < mantissa)
    (large : 971 < exponent) :
    (Float.Model.pack (.finite sign mantissa exponent positive)).unpack = .infinity sign := by
  have beyond : 2 ^ 11 ≤
      (exponent + (Format.exponentBias Format.binary64 : Nat) + (52 : Nat)).toNat + 1 := by
    rw [exponentBias_eq]
    omega
  have packed : pack Format.binary64 (.finite sign mantissa exponent positive) =
      packedInfinity Format.binary64 sign := by
    simp only [pack, if_pos beyond]
  change unpack Format.binary64 (pack Format.binary64 (.finite sign mantissa exponent positive)) = _
  rw [packed]
  cases sign <;> rfl

theorem digits_of_unpack (value : Float) (sign : Sign) (mantissa : Nat) (exponent : Int)
    (positive : 0 < mantissa)
    (unpacked : value.toModel.unpack = .finite sign mantissa exponent positive) :
    mantissa.log2 = 52 ∧ -1074 ≤ exponent ∧ exponent ≤ 971 ∨
      mantissa < 2 ^ 52 ∧ exponent = -1074 := by
  have bias := exponentBias_eq
  unfold Float.Model.unpack unpack at unpacked
  dsimp only at unpacked
  split at unpacked
  next => split at unpacked <;> cases unpacked
  next finite =>
    split at unpacked
    next subnormal =>
      split at unpacked
      next => cases unpacked
      next =>
        cases unpacked
        refine .inr ⟨BitVec.isLt _, ?_⟩
        rw [subnormal, bias]
        rfl
    next normal =>
      cases unpacked
      have most := (@unpackExponent Format.binary64 value.toModel.toBits.toBitVec).isLt
      have least : (@unpackExponent Format.binary64 value.toModel.toBits.toBitVec).toNat ≠ 0 :=
        fun zero => normal (BitVec.eq_of_toNat_eq zero)
      have less : (@unpackExponent Format.binary64 value.toModel.toBits.toBitVec).toNat ≠ 2047 :=
        fun last => finite (BitVec.eq_of_toNat_eq last)
      have fits := (@unpackMantissa Format.binary64 value.toModel.toBits.toBitVec).isLt
      change _ < 2 ^ 11 at most
      change _ < 2 ^ 52 at fits
      refine .inl ⟨?_, by omega, by omega⟩
      rw [toNat_implicit]
      change (2 ^ 52 + _ : Nat).log2 = 52
      exact (Nat.log2_eq_iff (by omega)).mpr ⟨by omega, by omega⟩

theorem unpack_pack_zero (sign : Sign) : (Float.Model.pack (.zero sign)).unpack = .zero sign := by
  cases sign <;> rfl

theorem toNat_unpackMantissa (value : Float) :
    (@unpackMantissa Format.binary64 value.toModel.toBits.toBitVec).toNat =
      value.toBits.toNat % Nat.pow 2 52 := by
  rw [unpackMantissa_def, BitVec.extractLsb'_toNat]
  rfl

theorem toNat_unpackExponent (value : Float) :
    (@unpackExponent Format.binary64 value.toModel.toBits.toBitVec).toNat =
      value.toBits.toNat / Nat.pow 2 52 % Nat.pow 2 11 := by
  rw [unpackExponent_def, BitVec.extractLsb'_toNat, Nat.shiftRight_eq_div_pow]
  rfl

theorem ofFloat?_finite (value : Float) (sign : Sign) (mantissa : Nat) (exponent : Int)
    (positive : 0 < mantissa)
    (unpacked : value.toModel.unpack = .finite sign mantissa exponent positive) :
    ∃ narrow, Decimal.Binary.ofFloat? value = some ⟨mantissa, exponent, narrow⟩ := by
  have fraction := toNat_unpackMantissa value
  have biased := toNat_unpackExponent value
  unfold Float.Model.unpack unpack at unpacked
  dsimp only at unpacked
  simp only [Decimal.Binary.ofFloat?, ← fraction, ← biased]
  split at unpacked
  next => split at unpacked <;> cases unpacked
  next =>
    split at unpacked
    next subnormal =>
      split at unpacked
      next => cases unpacked
      next =>
        cases unpacked
        have zero : (@unpackExponent Format.binary64 value.toModel.toBits.toBitVec).toNat = 0 := by
          rw [subnormal]
          rfl
        exact ⟨false, by rw [if_pos zero, if_neg (Nat.ne_of_gt positive), zero, exponentBias_eq]; rfl⟩
    next normal =>
      cases unpacked
      have nonzero : (@unpackExponent Format.binary64 value.toModel.toBits.toBitVec).toNat ≠ 0 :=
        fun zero => normal (BitVec.eq_of_toNat_eq zero)
      exact ⟨_, by rw [if_neg nonzero, toNat_implicit, exponentBias_eq, Nat.add_comm]; rfl⟩

theorem ofFloat?_zero (value : Float) (sign : Sign) (unpacked : value.toModel.unpack = .zero sign) :
    Decimal.Binary.ofFloat? value = none := by
  have fraction := toNat_unpackMantissa value
  have biased := toNat_unpackExponent value
  unfold Float.Model.unpack unpack at unpacked
  dsimp only at unpacked
  simp only [Decimal.Binary.ofFloat?, ← fraction, ← biased]
  split at unpacked
  next => split at unpacked <;> cases unpacked
  next =>
    split at unpacked
    next subnormal =>
      split at unpacked
      next empty =>
        rw [subnormal, empty]
        rfl
      next => cases unpacked
    next => cases unpacked

end RelationalLearning.Binary64
