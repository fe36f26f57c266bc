import Mathlib

/-!
Rounding goes to a nearest number. A number that is cut off keeps two marks of what it lost, and
these say on which side of the middle it was.
-/

namespace RelationalLearning.Binary64

open Float.Model (Format totalExponent)
open Float.Model.UnpackedFloat

/-- What a mantissa and its two marks tell about the number that was cut off. -/
inductive Locates : ExtendedMantissa → ℚ → Prop
  | whole (mantissa : Nat) (number : ℚ) (same : number = mantissa) :
    Locates ⟨mantissa, false, false⟩ number
  | low (mantissa : Nat) (number : ℚ) (above : mantissa < number)
    (below : number < mantissa + 1 / 2) :
    Locates ⟨mantissa, false, true⟩ number
  | middle (mantissa : Nat) (number : ℚ) (same : number = mantissa + 1 / 2) :
    Locates ⟨mantissa, true, false⟩ number
  | high (mantissa : Nat) (number : ℚ) (above : mantissa + 1 / 2 < number)
    (below : number < mantissa + 1) :
    Locates ⟨mantissa, true, true⟩ number

theorem abs_roundedMantissa_sub_le (extended : ExtendedMantissa) (number : ℚ)
    (located : Locates extended number) : |(extended.roundedMantissa : ℚ) - number| ≤ 1 / 2 := by
  rw [abs_le]
  cases located with
  | whole mantissa number same =>
      change _ ≤ (mantissa : ℚ) - number ∧ (mantissa : ℚ) - number ≤ _
      constructor <;> linarith
  | low mantissa number above below =>
      change _ ≤ (mantissa : ℚ) - number ∧ (mantissa : ℚ) - number ≤ _
      constructor <;> linarith
  | middle mantissa number same =>
      -- the even neighbour is as near as the odd one
      change _ ≤ ((mantissa + mantissa % 2 : Nat) : ℚ) - number ∧
        ((mantissa + mantissa % 2 : Nat) : ℚ) - number ≤ _
      rcases Nat.mod_two_eq_zero_or_one mantissa with even | odd
      · rw [even, same]
        constructor <;> push_cast <;> linarith
      · rw [odd, same]
        constructor <;> push_cast <;> linarith
  | high mantissa number above below =>
      change _ ≤ ((mantissa + 1 : Nat) : ℚ) - number ∧ ((mantissa + 1 : Nat) : ℚ) - number ≤ _
      constructor <;> push_cast <;> linarith

theorem floor_of_locates (extended : ExtendedMantissa) (number : ℚ)
    (located : Locates extended number) :
    extended.mantissa ≤ number ∧ number < extended.mantissa + 1 := by
  cases located <;> constructor <;> linarith

theorem mantissa_ofMantissaAndAccuracy (mantissa : Nat) (accuracy : Accuracy) :
    (ExtendedMantissa.ofMantissaAndAccuracy mantissa accuracy).mantissa = mantissa := by
  unfold ExtendedMantissa.ofMantissaAndAccuracy
  split <;> rfl

theorem halves (mantissa : Nat) :
    ((mantissa % 2 : Nat) : ℚ) + 2 * ((mantissa / 2 : Nat) : ℚ) = mantissa := by
  exact_mod_cast Nat.mod_add_div mantissa 2

theorem locates_marked (mantissa : Nat) (middle rest : Bool) (number : ℚ)
    (marked : (middle || rest) = true) (above : mantissa < number) (below : number < mantissa + 1) :
    Locates (ExtendedMantissa.shiftRightOne ⟨mantissa, middle, rest⟩) (number / 2) := by
  have half := halves mantissa
  rcases Nat.mod_two_eq_zero_or_one mantissa with even | odd
  · rw [even, Nat.cast_zero] at half
    simp only [ExtendedMantissa.shiftRightOne, even, marked, bne_self_eq_false]
    exact .low _ _ (by linarith) (by linarith)
  · rw [odd, Nat.cast_one] at half
    simp only [ExtendedMantissa.shiftRightOne, odd, marked]
    exact .high _ _ (by linarith) (by linarith)

theorem locates_shiftRightOne (extended : ExtendedMantissa) (number : ℚ)
    (located : Locates extended number) : Locates extended.shiftRightOne (number / 2) := by
  cases located with
  | whole mantissa number same =>
      have half := halves mantissa
      rcases Nat.mod_two_eq_zero_or_one mantissa with even | odd
      · rw [even, Nat.cast_zero] at half
        simp only [ExtendedMantissa.shiftRightOne, even, bne_self_eq_false]
        exact .whole _ _ (by linarith)
      · rw [odd, Nat.cast_one] at half
        simp only [ExtendedMantissa.shiftRightOne, odd]
        exact .middle _ _ (by linarith)
  | low mantissa number above below =>
      exact locates_marked mantissa false true number rfl above (by linarith)
  | middle mantissa number same =>
      exact locates_marked mantissa true false number rfl (by linarith) (by linarith)
  | high mantissa number above below =>
      exact locates_marked mantissa true true number rfl (by linarith) below

theorem locates_shiftRight (extended : ExtendedMantissa) (number : ℚ)
    (located : Locates extended number) (steps : Nat) :
    Locates (extended >>> steps) (number / 2 ^ steps) := by
  change Locates (steps.repeat ExtendedMantissa.shiftRightOne extended) _
  induction steps with
  | zero => simpa [Nat.repeat] using located
  | succ steps ih =>
      rw [Nat.repeat, pow_succ, ← div_div]
      exact locates_shiftRightOne _ _ ih

theorem targetExponent_eq (mantissa : Nat) (exponent : Int)
    (low : -1074 ≤ exponent + mantissa.log2 - 52) :
    Format.binary64.targetExponent (totalExponent mantissa exponent) =
      exponent + mantissa.log2 - 52 := by
  simp only [Format.targetExponent, totalExponent, Format.mantissaBits, Format.minExponent]
  omega

theorem shiftToTargetExponent_eq (mantissa : Nat) (exponent : Int) (accuracy : Accuracy)
    (steps : Nat) (digits : mantissa.log2 = 52 + steps) (low : -1074 ≤ exponent + steps) :
    shiftToTargetExponent Format.binary64 mantissa exponent accuracy =
      (ExtendedMantissa.ofMantissaAndAccuracy mantissa accuracy >>> steps, exponent + steps) := by
  have target := targetExponent_eq mantissa exponent (by omega)
  have amount : (exponent + mantissa.log2 - 52 - exponent).toNat = steps := by omega
  rw [shiftToTargetExponent, target, shiftToExponent, amount]

theorem log2_eq_of_mem (number digits : Nat) (low : 2 ^ digits ≤ number)
    (high : number < 2 ^ (digits + 1)) : number.log2 = digits := by
  have positive : number ≠ 0 := by
    have := Nat.two_pow_pos digits
    omega
  exact (Nat.log2_eq_iff positive).mpr ⟨low, high⟩

theorem roundedMantissa_mem (mantissa : Nat) (accuracy : Accuracy) (number : ℚ) (steps : Nat)
    (digits : mantissa.log2 = 52 + steps)
    (located : Locates (ExtendedMantissa.ofMantissaAndAccuracy mantissa accuracy) number) :
    2 ^ 52 ≤ (ExtendedMantissa.ofMantissaAndAccuracy mantissa accuracy >>> steps).roundedMantissa ∧
      (ExtendedMantissa.ofMantissaAndAccuracy mantissa accuracy >>> steps).roundedMantissa ≤
        2 ^ 53 := by
  have near := abs_roundedMantissa_sub_le _ _ (locates_shiftRight _ number located steps)
  obtain ⟨nearBelow, nearAbove⟩ := abs_le.mp near
  obtain ⟨above, below⟩ := floor_of_locates _ number located
  rw [mantissa_ofMantissaAndAccuracy] at above below
  obtain ⟨atLeast, lessThan⟩ := (Nat.log2_eq_iff (by rintro rfl; simp at digits; omega)).mp digits
  have scale : (0 : ℚ) < 2 ^ steps := by positivity
  have lower : (2 ^ 52 : ℚ) ≤ number / 2 ^ steps := by
    rw [le_div_iff₀ scale, ← pow_add]
    exact le_trans (by exact_mod_cast atLeast) above
  have upper : number / 2 ^ steps < (2 ^ 53 : ℚ) := by
    rw [div_lt_iff₀ scale, ← pow_add]
    apply lt_of_lt_of_le below
    have most : mantissa + 1 ≤ 2 ^ (53 + steps) := by
      rw [show 53 + steps = 52 + steps + 1 by omega]
      exact lessThan
    exact_mod_cast most
  generalize (ExtendedMantissa.ofMantissaAndAccuracy mantissa accuracy >>> steps).roundedMantissa =
    rounded at *
  have least : (2 ^ 52 : ℚ) < rounded + 1 := by linarith
  have most : (rounded : ℚ) < 2 ^ 53 + 1 := by linarith
  have least : 2 ^ 52 < rounded + 1 := by exact_mod_cast least
  have most : rounded < 2 ^ 53 + 1 := by exact_mod_cast most
  omega

/-- A number with at least 53 digits is rounded to a multiple of the last digit that is kept. -/
theorem roundWithAccuracy_nearest (sign : Sign) (mantissa : Nat) (exponent : Int)
    (accuracy : Accuracy) (number : ℚ) (steps : Nat) (digits : mantissa.log2 = 52 + steps)
    (low : -1074 ≤ exponent + steps)
    (located : Locates (ExtendedMantissa.ofMantissaAndAccuracy mantissa accuracy) number) :
    ∃ (rounded : Nat) (last : Int) (positive : 0 < rounded) (nearest : Nat),
      roundWithAccuracy Format.binary64 sign mantissa exponent accuracy =
        .finite sign rounded last positive ∧
      rounded.log2 = 52 ∧ exponent + steps ≤ last ∧ last ≤ exponent + steps + 1 ∧
      (rounded : ℚ) * 2 ^ last =
        nearest * 2 ^ (exponent + steps) ∧ |(nearest : ℚ) - number / 2 ^ steps| ≤ 1 / 2 := by
  have cut := shiftToTargetExponent_eq mantissa exponent accuracy steps digits low
  have near := abs_roundedMantissa_sub_le _ _ (locates_shiftRight _ number located steps)
  obtain ⟨least, most⟩ := roundedMantissa_mem mantissa accuracy number steps digits located
  generalize ExtendedMantissa.ofMantissaAndAccuracy mantissa accuracy >>> steps = kept at *
  -- rounding up may give one digit too many, which is then a zero
  rcases Nat.lt_or_eq_of_le most with fits | carried
  · have digits : kept.roundedMantissa.log2 = 52 + 0 := log2_eq_of_mem _ 52 least fits
    have again :=
      shiftToTargetExponent_eq kept.roundedMantissa (exponent + steps) .exact 0 digits (by omega)
    have nonzero : kept.roundedMantissa ≠ 0 := by omega
    refine ⟨kept.roundedMantissa, exponent + steps, Nat.pos_of_ne_zero nonzero,
      kept.roundedMantissa, ?_, digits, le_refl _, by omega, rfl, near⟩
    simp only [roundWithAccuracy, cut, again, Int.natCast_zero, Int.add_zero]
    exact dif_neg nonzero
  · have digits : kept.roundedMantissa.log2 = 52 + 1 := by rw [carried, Nat.log2_two_pow]
    have again :=
      shiftToTargetExponent_eq kept.roundedMantissa (exponent + steps) .exact 1 digits (by omega)
    have half : kept.roundedMantissa / 2 = 2 ^ 52 := by omega
    have nonzero : kept.roundedMantissa / 2 ≠ 0 := by omega
    refine ⟨kept.roundedMantissa / 2, exponent + steps + 1, Nat.pos_of_ne_zero nonzero,
      kept.roundedMantissa, ?_, by rw [half, Nat.log2_two_pow], by omega, le_refl _, ?_, near⟩
    · simp only [roundWithAccuracy, cut, again, Int.natCast_one]
      exact dif_neg nonzero
    · rw [half, carried, zpow_add_one₀ (by norm_num)]
      push_cast
      ring

theorem log2_shiftLeft (number steps : Nat) (positive : 0 < number) :
    (number <<< steps).log2 = number.log2 + steps := by
  obtain ⟨atLeast, lessThan⟩ := (Nat.log2_eq_iff (Nat.ne_of_gt positive)).mp rfl
  rw [Nat.shiftLeft_eq]
  refine log2_eq_of_mem _ _ ?_ ?_
  · rw [pow_add]
    exact Nat.mul_le_mul_right _ atLeast
  · rw [Nat.add_right_comm, pow_add]
    exact Nat.mul_lt_mul_of_pos_right lessThan (Nat.two_pow_pos steps)

theorem round_nearest (sign : Sign) (mantissa : Nat) (exponent : Int) (positive : 0 < mantissa)
    (low : -1074 ≤ exponent + mantissa.log2 - 52) :
    ∃ (rounded : Nat) (last : Int) (positive : 0 < rounded) (nearest : Nat),
      round Format.binary64 sign mantissa exponent = .finite sign rounded last positive ∧
      rounded.log2 = 52 ∧
      exponent + mantissa.log2 - 52 ≤ last ∧ last ≤ exponent + mantissa.log2 - 51 ∧
      (rounded : ℚ) * 2 ^ last = nearest * 2 ^ (exponent + mantissa.log2 - 52) ∧
      |(nearest : ℚ) - mantissa * 2 ^ (52 - mantissa.log2 : Int)| ≤ 1 / 2 := by
  let added := 52 - mantissa.log2
  let steps := mantissa.log2 - 52
  have amount : (exponent - (exponent + mantissa.log2 - 52)).toNat = added := by omega
  have digits : (mantissa <<< added).log2 = 52 + steps := by
    rw [log2_shiftLeft mantissa added positive]
    omega
  have unit : exponent - added + steps = exponent + mantissa.log2 - 52 := by omega
  obtain ⟨rounded, last, nonzero, nearest, same, normal, atLeast, atMost, value, near⟩ :=
    roundWithAccuracy_nearest sign (mantissa <<< added) (exponent - added) .exact
      (mantissa <<< added : Nat) steps digits
      (by omega) (.whole _ _ rfl)
  rw [unit] at atLeast atMost value
  refine ⟨rounded, last, nonzero, nearest, ?_, normal, atLeast, by omega, value, ?_⟩
  · rw [Float.Model.UnpackedFloat.round, targetExponent_eq mantissa exponent low, decreaseExponent,
      amount]
    exact same
  · have scaled : ((mantissa <<< added : Nat) : ℚ) / 2 ^ steps =
        mantissa * 2 ^ (52 - mantissa.log2 : Int) := by
      have difference : (52 - mantissa.log2 : Int) = added - steps := by omega
      rw [Nat.shiftLeft_eq, difference, zpow_sub₀ (by norm_num)]
      push_cast
      rw [zpow_natCast, zpow_natCast, mul_div_assoc]
    rw [← scaled]
    exact near

end RelationalLearning.Binary64
