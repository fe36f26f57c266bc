import RelationalLearning.Proofs.Binary64.Whole

namespace RelationalLearning.Binary64

open Float.Model.UnpackedFloat

theorem lt_iff_unpacked (first second : Float) :
    first < second ↔ first.toModel.unpack.lt second.toModel.unpack = true := by
  change decide (first.toModel < second.toModel) = true ↔ _
  rw [decide_eq_true_iff]
  rfl

theorem unpack_zero : (0.0 : Float).toModel.unpack = .zero .positive := rfl

theorem number?_zero : number? 0.0 = some 0 := by
  rw [number?, unpack_zero]

theorem isFinite_of_holds (value : Float) (number : ℚ) (held : Holds value number) :
    value.isFinite = true := by
  change value.toModel.unpack.isFinite = true
  cases held with
  | zero sign unpacked none => rw [unpacked]; rfl
  | finite sign mantissa exponent positive unpacked digits low high same => rw [unpacked]; rfl

theorem compare_zero (value : Float) (number : ℚ) (held : Holds value number) :
    value.toModel.unpack.compare (.zero .positive) = some (compare number 0) ∧
    (Float.Model.UnpackedFloat.zero .positive).compare value.toModel.unpack =
      some (compare 0 number) := by
  cases held with
  | zero sign unpacked none =>
      rw [unpacked, none, compare_eq_iff_eq.mpr rfl]
      exact ⟨rfl, rfl⟩
  | finite sign mantissa exponent positive unpacked digits low high same =>
      have magnitude : (0 : ℚ) < mantissa * 2 ^ exponent := by positivity
      rw [unpacked]
      cases sign with
      | positive =>
          have above : 0 < number := by
            rw [same]
            exact magnitude
          rw [compare_gt_iff_gt.mpr above, compare_lt_iff_lt.mpr above]
          exact ⟨rfl, rfl⟩
      | negative =>
          have below : number < 0 := by
            rw [same]
            exact neg_neg_of_pos magnitude
          rw [compare_lt_iff_lt.mpr below, compare_gt_iff_gt.mpr below]
          exact ⟨rfl, rfl⟩

theorem lt_zero_iff (value : Float) (number : ℚ) (held : Holds value number) :
    value < 0.0 ↔ number < 0 := by
  rw [lt_iff_unpacked, unpack_zero, Float.Model.UnpackedFloat.lt,
    (compare_zero value number held).1, ← compare_lt_iff_lt]
  cases compare number 0 <;> decide

theorem zero_lt_iff (value : Float) (number : ℚ) (held : Holds value number) :
    0.0 < value ↔ 0 < number := by
  rw [lt_iff_unpacked, unpack_zero, Float.Model.UnpackedFloat.lt,
    (compare_zero value number held).2, ← compare_lt_iff_lt]
  cases compare 0 number <;> decide

theorem beq_zero_iff (value : Float) (number : ℚ) (held : Holds value number) :
    (value == 0.0) = true ↔ number = 0 := by
  change value.toModel.unpack.beq (0.0 : Float).toModel.unpack = true ↔ _
  rw [unpack_zero, Float.Model.UnpackedFloat.beq, (compare_zero value number held).1]
  refine Iff.trans ?_ compare_eq_iff_eq
  cases compare number 0 <;> decide

/-- Cutting off digits rounds up if the number is increased before. -/
theorem ceil_div (numerator denominator : Nat) (positive : 0 < denominator) :
    ⌈(numerator : ℚ) / denominator⌉ = ((numerator + denominator - 1) / denominator : Nat) := by
  have scale : (0 : ℚ) < denominator := by exact_mod_cast positive
  have split := Nat.div_add_mod (numerator + denominator - 1) denominator
  have rest := Nat.mod_lt (numerator + denominator - 1) positive
  generalize (numerator + denominator - 1) / denominator = quotient at split ⊢
  rw [Int.ceil_eq_iff, Int.cast_natCast, lt_div_iff₀ scale, div_le_iff₀ scale]
  constructor
  · have : quotient * denominator < numerator + denominator := by
      rw [Nat.mul_comm]
      omega
    have : (quotient * denominator : ℚ) < numerator + denominator := by exact_mod_cast this
    linarith
  · have : numerator ≤ quotient * denominator := by
      rw [Nat.mul_comm]
      omega
    exact_mod_cast this

theorem ceil_fraction (mantissa places : Nat) :
    ⌈(mantissa : ℚ) * 2 ^ (-(places : Int))⌉.toNat =
      (mantissa + 2 ^ places - 1) / 2 ^ places := by
  have unit : (2 : ℚ) ^ (-(places : Int)) = 1 / (2 ^ places : Nat) := by
    rw [zpow_neg, zpow_natCast, one_div]
    norm_cast
  rw [unit, mul_one_div, ceil_div mantissa (2 ^ places) (Nat.two_pow_pos places),
    Int.toNat_natCast]

theorem ceil_multiple (mantissa places : Nat) :
    ⌈(mantissa : ℚ) * 2 ^ (places : Int)⌉.toNat = mantissa * 2 ^ places := by
  have whole : (mantissa : ℚ) * 2 ^ (places : Int) = ((mantissa * 2 ^ places : Nat) : Int) := by
    rw [zpow_natCast]
    norm_cast
  rw [whole, Int.ceil_intCast, Int.toNat_natCast]

theorem ceiling_eq (value : Float) (number : ℚ) (held : Holds value number) :
    Decimal.ceiling value = ⌈number⌉.toNat := by
  have below := lt_zero_iff value number held
  cases held with
  | zero sign unpacked none =>
      rw [Decimal.ceiling, ofFloat?_zero value sign unpacked, none, Int.ceil_zero]
      rfl
  | finite sign mantissa exponent positive unpacked digits low high same =>
      obtain ⟨narrow, bits⟩ := ofFloat?_finite value sign mantissa exponent positive unpacked
      have magnitude : (0 : ℚ) < mantissa * 2 ^ exponent := by positivity
      simp only [Decimal.ceiling, bits]
      cases sign with
      | negative =>
          have negative : number < 0 := by
            rw [same]
            exact neg_neg_of_pos magnitude
          have : ⌈number⌉ ≤ 0 := Int.ceil_le.mpr (by exact_mod_cast negative.le)
          rw [if_pos (below.mpr negative)]
          omega
      | positive =>
          have whole : number = mantissa * 2 ^ exponent := same
          have nonnegative : ¬ value < 0.0 := by
            rw [below, whole]
            exact not_lt.mpr magnitude.le
          rw [if_neg nonnegative, whole]
          split
          next small =>
            obtain ⟨places, rfl⟩ : ∃ places : Nat, exponent = -places := ⟨exponent.natAbs, by omega⟩
            rw [ceil_fraction, Int.natAbs_neg, Int.natAbs_natCast]
            rfl
          next large =>
            obtain ⟨places, rfl⟩ : ∃ places : Nat, exponent = places := ⟨exponent.natAbs, by omega⟩
            rw [ceil_multiple, Int.natAbs_natCast]
            rfl

end RelationalLearning.Binary64
