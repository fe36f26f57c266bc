import RelationalLearning.Column.Basic
import RelationalLearning.Proofs.Binary64.Quotient

namespace RelationalLearning.Column

open Binary64

theorem ceil_quotient_le (dividend divisor : Int) (nonzero : divisor ≠ 0) :
    ⌈(dividend : ℚ) / divisor⌉ ≤ dividend.natAbs := by
  have wide : (1 : ℚ) ≤ |(divisor : ℚ)| := by exact_mod_cast Int.one_le_abs nonzero
  rw [Int.ceil_le]
  calc
    (dividend : ℚ) / divisor ≤ |(dividend : ℚ) / divisor| := le_abs_self _
    _ = |(dividend : ℚ)| / |(divisor : ℚ)| := abs_div _ _
    _ ≤ |(dividend : ℚ)| := div_le_self (abs_nonneg _) wide
    _ = ((dividend.natAbs : Int) : ℚ) := by rw [Int.natCast_natAbs, Int.cast_abs]

theorem arangeLength_ofInt (start stop step : Int) (nonzero : step ≠ 0)
    (starts : start.natAbs ≤ 2 ^ 53) (stops : stop.natAbs ≤ 2 ^ 53) (steps : step.natAbs ≤ 2 ^ 53)
    (apart : (stop - start).natAbs ≤ 2 ^ 53) :
    arangeLength (Float.ofInt start) (Float.ofInt stop) (Float.ofInt step) =
      ⌈((stop - start : Int) : ℚ) / step⌉.toNat := by
  have heldStep := holds_ofInt step steps
  have difference :=
    holds_sub (Float.ofInt stop) (Float.ofInt start) stop start (stop - start)
      (holds_ofInt stop stops)
    (holds_ofInt start starts) (by push_cast; rfl) apart
  obtain ⟨quotient, held, sign, ceiling⟩ :=
    holds_quotient _ _ _ step difference heldStep nonzero apart steps
  have usable : ¬ ((Float.ofInt step == 0.0) = true ∨ (!(Float.ofInt step).isFinite) = true) := by
    rw [beq_zero_iff _ _ heldStep, isFinite_of_holds _ _ heldStep]
    simpa using nonzero
  have positive := zero_lt_iff _ quotient held
  unfold arangeLength
  simp only [Bool.or_eq_true, usable, if_false, isFinite_of_holds _ quotient held, Bool.true_and,
    decide_eq_true_eq, gt_iff_lt, positive, ceiling_eq _ quotient held]
  split
  next above =>
    have few := ceil_quotient_le (stop - start) step nonzero
    rw [ceiling above, Nat.min_eq_left]
    have : Nat.pow 2 64 - 1 = 18446744073709551615 := by decide
    omega
  next below =>
    have : ((stop - start : Int) : ℚ) / step ≤ 0 := not_lt.mp fun above => below (sign.mpr above)
    have : ⌈((stop - start : Int) : ℚ) / step⌉ ≤ 0 := Int.ceil_le.mpr (by exact_mod_cast this)
    omega

end RelationalLearning.Column
