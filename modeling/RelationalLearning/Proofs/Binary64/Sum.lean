import RelationalLearning.Proofs.Binary64.Quotient

namespace RelationalLearning.Binary64

open Float.Model (Format)
open Float.Model.UnpackedFloat

/-- Zero, or neither very small nor very large. -/
def Moderate (number : ℚ) : Prop :=
  number = 0 ∨ (2 : ℚ) ^ (-200 : Int) ≤ |number| ∧ |number| ≤ 2 ^ (200 : Int)

theorem abs_signed (sign : Sign) (magnitude : ℚ) (positive : 0 ≤ magnitude) :
    |signed sign magnitude| = magnitude := by
  cases sign with
  | positive => exact abs_of_nonneg positive
  | negative => exact (abs_neg magnitude).trans (abs_of_nonneg positive)

theorem signed_mul (sign : Sign) (magnitude scale : ℚ) :
    signed sign magnitude * scale = signed sign (magnitude * scale) := by
  cases sign with
  | positive => rfl
  | negative => exact neg_mul magnitude scale

theorem moderate_whole (number : Int) (small : number.natAbs ≤ 2 ^ 53) : Moderate number := by
  by_cases none : number = 0
  · exact .inl (by exact_mod_cast none)
  · have size : |(number : ℚ)| = number.natAbs := by rw [Nat.cast_natAbs, Int.cast_abs]
    have low : (1 : ℚ) ≤ number.natAbs := by exact_mod_cast Int.natAbs_pos.mpr none
    have high : (number.natAbs : ℚ) ≤ 2 ^ 53 := by exact_mod_cast small
    rw [Moderate, size]
    exact .inr ⟨le_trans (by norm_num) low, le_trans high (by norm_num)⟩

theorem exponent_of_moderate (number : ℚ) (mantissa : Nat) (exponent : Int)
    (digits : mantissa.log2 = 52) (positive : 0 < mantissa)
    (size : |number| = mantissa * 2 ^ exponent) (moderate : Moderate number) :
    -253 < exponent ∧ exponent ≤ 148 := by
  have above := zpow_le_of_log2 mantissa exponent positive
  have below := lt_zpow_of_log2 mantissa exponent positive
  rw [digits, ← size] at above below
  rcases moderate with rfl | ⟨low, high⟩
  · have : (0 : ℚ) < mantissa * 2 ^ exponent := by positivity
    rw [← size, abs_zero] at this
    exact absurd this (lt_irrefl 0)
  · have := zpow_two_lt _ _ (lt_of_le_of_lt low below)
    have := zpow_two_le _ _ (le_trans above high)
    omega

theorem isFinite_round (sign : Sign) (mantissa : Nat) (exponent : Int) (positive : 0 < mantissa)
    (low : -1022 ≤ exponent + mantissa.log2) (high : exponent + mantissa.log2 ≤ 1022) :
    (Float.ofModel (.pack (round Format.binary64 sign mantissa exponent))).isFinite = true := by
  obtain ⟨rounded, last, nonzero, nearest, equal, digits, atLeast, atMost, value, near⟩ :=
    round_nearest sign mantissa exponent positive (by omega)
  rw [equal]
  exact isFinite_of_holds _ _ (holds_finite sign rounded last nonzero digits (by omega) (by omega))

theorem isFinite_normalize (mantissa exponent : Int) (zero : Sign)
    (low : -1022 ≤ exponent) (high : exponent + mantissa.natAbs.log2 ≤ 1022) :
    (Float.ofModel (.pack (normalize Format.binary64 mantissa exponent zero))).isFinite = true := by
  rw [Float.Model.UnpackedFloat.normalize]
  rcases lt_trichotomy mantissa 0 with negative | rfl | positive
  · obtain ⟨size, rfl⟩ : ∃ size : Nat, mantissa = -size := ⟨mantissa.natAbs, by omega⟩
    rw [Int.natAbs_neg, Int.natAbs_natCast] at high
    rw [Int.compare_eq_lt.mpr negative]
    simpa using isFinite_round .negative size exponent (by omega) (by omega) high
  · simpa using isFinite_of_holds _ _ (holds_zero zero)
  · obtain ⟨size, rfl⟩ : ∃ size : Nat, mantissa = size := ⟨mantissa.natAbs, by omega⟩
    rw [Int.natAbs_natCast] at high
    rw [Int.compare_eq_gt.mpr positive]
    simpa using isFinite_round .positive size exponent (by omega) (by omega) high

theorem Moderate.abs_le (number : ℚ) (moderate : Moderate number) :
    |number| ≤ 2 ^ (200 : Int) := by
  rcases moderate with rfl | ⟨low, high⟩
  · rw [abs_zero]
    positivity
  · exact high

theorem Moderate.add_le (first second : ℚ) (moderate : Moderate first)
    (moderate' : Moderate second) : |first + second| ≤ 2 ^ (201 : Int) := by
  calc |first + second|
      ≤ |first| + |second| := abs_add_le first second
    _ ≤ 2 ^ (200 : Int) + 2 ^ (200 : Int) := add_le_add moderate.abs_le moderate'.abs_le
    _ = 2 ^ (201 : Int) := by norm_num

theorem log2_le_of_abs (mantissa exponent : Int) (bound : Int) (low : exponent ≤ bound)
    (size : |(mantissa : ℚ) * 2 ^ exponent| ≤ 2 ^ bound) :
    exponent + mantissa.natAbs.log2 ≤ bound := by
  by_cases none : mantissa = 0
  · rw [none]
    simpa using low
  · have above := zpow_le_of_log2 mantissa.natAbs exponent (Int.natAbs_pos.mpr none)
    rw [abs_mul, abs_of_pos (by positivity : (0 : ℚ) < 2 ^ exponent), ← Int.cast_abs,
      ← Nat.cast_natAbs] at size
    exact zpow_two_le _ _ (le_trans above size)

theorem isFinite_add (first second : Float) (left right : ℚ) (held : Holds first left)
    (held' : Holds second right) (moderate : Moderate left) (moderate' : Moderate right) :
    (first + second).isFinite = true := by
  have unfolded : first + second =
      .ofModel (.pack (add Format.binary64 first.toModel.unpack second.toModel.unpack)) := rfl
  rw [unfolded]
  cases held with
  | zero sign unpacked none =>
      cases held' with
      | zero other unpackedOther noneOther =>
          rw [unpacked, unpackedOther]
          simp only [add]
          split
          next => exact isFinite_of_holds _ _ (holds_zero sign)
          next => exact isFinite_of_holds _ _ (holds_zero .positive)
      | finite other mantissa exponent positive unpackedOther digits low high equal =>
          rw [unpacked, unpackedOther]
          exact isFinite_of_holds _ _ (holds_finite other mantissa exponent positive digits low high)
  | finite sign mantissa exponent positive unpacked digits low high equal =>
      cases held' with
      | zero other unpackedOther noneOther =>
          rw [unpacked, unpackedOther]
          exact isFinite_of_holds _ _ (holds_finite sign mantissa exponent positive digits low high)
      | finite other mantissa' exponent' positive' unpacked' digits' low' high' equal' =>
          have size : |left| = mantissa * 2 ^ exponent := by
            rw [equal, abs_signed _ _ (by positivity)]
          have size' : |right| = mantissa' * 2 ^ exponent' := by
            rw [equal', abs_signed _ _ (by positivity)]
          have bounds := exponent_of_moderate left mantissa exponent digits positive size moderate
          have bounds' :=
            exponent_of_moderate right mantissa' exponent' digits' positive' size' moderate'
          rw [unpacked, unpacked']
          apply isFinite_normalize _ (min exponent exponent') .positive (by omega)
          refine le_trans (log2_le_of_abs _ _ 201 (by omega) ?_) (by norm_num)
          have aligned := shiftLeft_value mantissa exponent _ (Int.min_le_left exponent exponent')
          have aligned' := shiftLeft_value mantissa' exponent' _ (Int.min_le_right exponent exponent')
          rw [Int.cast_add, apply_eq_signed, apply_eq_signed, add_mul, signed_mul, signed_mul]
          rw [aligned, aligned', ← equal, ← equal']
          exact moderate.add_le _ _ moderate'

theorem moderate_quotient (first second : Float) (dividend divisor : Int)
    (left : Holds first dividend) (right : Holds second divisor) (nonzero : divisor ≠ 0)
    (small : dividend.natAbs ≤ 2 ^ 53) (narrow : divisor.natAbs ≤ 2 ^ 53) :
    ∃ quotient, Holds (first / second) quotient ∧ Moderate quotient := by
  by_cases none : dividend = 0
  · rw [none, Int.cast_zero] at left
    have held := holds_zero_div first second divisor left right (by exact_mod_cast nonzero)
    exact ⟨0, held, .inl rfl⟩
  · obtain ⟨nearest, unit, held, large, near⟩ :=
      holds_div first second dividend divisor left right none nonzero small narrow
    refine ⟨_, held, .inr ?_⟩
    rw [abs_signed _ _ (by positivity)]
    have scale : (0 : ℚ) < 2 ^ unit := by positivity
    have some : (1 : ℚ) ≤ dividend.natAbs := by exact_mod_cast Int.natAbs_pos.mpr none
    have most : (dividend.natAbs : ℚ) ≤ 2 ^ 53 := by exact_mod_cast small
    have some' : (1 : ℚ) ≤ divisor.natAbs := by exact_mod_cast Int.natAbs_pos.mpr nonzero
    have most' : (divisor.natAbs : ℚ) ≤ 2 ^ 53 := by exact_mod_cast narrow
    generalize (dividend.natAbs : ℚ) = upper at *
    generalize (divisor.natAbs : ℚ) = lower at *
    have least : 1 / 2 ^ 53 ≤ upper / lower := by
      rw [div_le_div_iff₀ (by positivity) (by linarith)]
      nlinarith
    have greatest : upper / lower ≤ 2 ^ 53 :=
      le_trans (div_le_self (by linarith) some') most
    obtain ⟨below, above⟩ := abs_le.mp near
    have units : upper / lower / 2 ^ unit * 2 ^ unit = upper / lower := by
      field_simp
    constructor
    · calc (2 : ℚ) ^ (-200 : Int)
          ≤ upper / lower / 2 := by norm_num at least ⊢; linarith
        _ = upper / lower / 2 ^ unit / 2 * 2 ^ unit := by rw [div_mul_eq_mul_div, units]
        _ ≤ nearest * 2 ^ unit := mul_le_mul_of_nonneg_right (by linarith) scale.le
    · calc (nearest : ℚ) * 2 ^ unit
          ≤ upper / lower / 2 ^ unit * 2 * 2 ^ unit :=
            mul_le_mul_of_nonneg_right (by linarith) scale.le
        _ = upper / lower * 2 := by rw [mul_right_comm, units]
        _ ≤ 2 ^ (200 : Int) := by norm_num at greatest ⊢; linarith

end RelationalLearning.Binary64
