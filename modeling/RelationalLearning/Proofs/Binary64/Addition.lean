import RelationalLearning.Proofs.Binary64.Special

/-!
Sums of numbers of any size that are not negative. They are rounded, but never below one of their
summands, as a summand has no more digits than are kept.
-/

namespace RelationalLearning.Binary64

open Float.Model (Format totalExponent)
open Float.Model.UnpackedFloat

def Short (number : ℚ) : Prop :=
  ∃ (mantissa : Nat) (exponent : Int), mantissa < 2 ^ 53 ∧ number = mantissa * 2 ^ exponent

theorem number?_eq_some (value : Float) (number : ℚ) :
    number? value = some number ↔
      (∃ sign, value.toModel.unpack = .zero sign ∧ number = 0) ∨
      ∃ sign mantissa exponent positive,
        value.toModel.unpack = .finite sign mantissa exponent positive ∧
        number = signed sign (mantissa * 2 ^ exponent) := by
  rw [number?]
  cases unpacked : value.toModel.unpack with
  | zero sign => simp [eq_comm]
  | finite sign mantissa exponent positive =>
      constructor
      · rintro ⟨⟩
        exact .inr ⟨sign, mantissa, exponent, positive, rfl, rfl⟩
      · rintro (⟨-, ⟨⟩, -⟩ | ⟨-, -, -, -, ⟨⟩, rfl⟩)
        rfl
  | infinity sign => simp
  | notANumber => simp

theorem number?_pack (sign : Sign) (mantissa : Nat) (exponent : Int) (positive : 0 < mantissa)
    (digits : mantissa.log2 = 52 ∧ -1074 ≤ exponent ∧ exponent ≤ 971 ∨
      mantissa < 2 ^ 52 ∧ exponent = -1074) :
    number? (.ofModel (.pack (.finite sign mantissa exponent positive))) =
      some (signed sign (mantissa * 2 ^ exponent)) := by
  have unpacked : (Float.Model.pack (.finite sign mantissa exponent positive)).unpack =
      .finite sign mantissa exponent positive := by
    rcases digits with ⟨normal, low, high⟩ | ⟨few, rfl⟩
    · exact unpack_pack sign mantissa exponent positive normal low high
    · exact unpack_pack_subnormal sign mantissa positive few
  exact (number?_eq_some _ _).mpr (.inr ⟨sign, mantissa, exponent, positive, unpacked, rfl⟩)

theorem le_nearest_of_short (least number : ℚ) (unit : Int) (nearest : Nat)
    (short : Short least) (below : least ≤ number * 2 ^ unit)
    (near : |(nearest : ℚ) - number| ≤ 1 / 2)
    (many : 2 ^ 52 ≤ nearest) : least ≤ nearest * 2 ^ unit := by
  obtain ⟨mantissa, exponent, few, rfl⟩ := short
  have scale : (0 : ℚ) < 2 ^ unit := by positivity
  rcases le_or_gt unit exponent with multiple | finer
  · have aligned := shiftLeft_value mantissa exponent unit multiple
    rw [← aligned] at below ⊢
    have atMost := le_of_mul_le_mul_right below scale
    obtain ⟨nearBelow, -⟩ := abs_le.mp near
    have : ((mantissa <<< (exponent - unit).toNat : Nat) : ℚ) < nearest + 1 := by linarith
    have : mantissa <<< (exponent - unit).toNat < nearest + 1 := by exact_mod_cast this
    have : mantissa <<< (exponent - unit).toNat ≤ nearest := by omega
    exact mul_le_mul_of_nonneg_right (by exact_mod_cast this) scale.le
  · -- with 53 digits from a finer place on, it does not get to where the nearest number begins
    calc (mantissa : ℚ) * 2 ^ exponent
        ≤ 2 ^ 53 * 2 ^ exponent :=
          mul_le_mul_of_nonneg_right (by exact_mod_cast few.le) (by positivity)
      _ = 2 ^ (53 + exponent) := by rw [zpow_add₀ (by norm_num)]; rfl
      _ ≤ 2 ^ (52 + unit) := zpow_le_zpow_right₀ (by norm_num) (by omega)
      _ = 2 ^ 52 * 2 ^ unit := by rw [zpow_add₀ (by norm_num)]; rfl
      _ ≤ nearest * 2 ^ unit := mul_le_mul_of_nonneg_right (by exact_mod_cast many) scale.le

theorem shiftLeft_pos (mantissa steps : Nat) (positive : 0 < mantissa) : 0 < mantissa <<< steps := by
  rw [Nat.shiftLeft_eq]
  exact Nat.mul_pos positive (Nat.two_pow_pos steps)

theorem targetExponent_small (mantissa : Nat) (exponent : Int)
    (small : exponent + mantissa.log2 < -1022) :
    Format.binary64.targetExponent (totalExponent mantissa exponent) = -1074 := by
  simp only [Format.targetExponent, totalExponent, Format.mantissaBits, Format.minExponent]
  omega

theorem round_small (sign : Sign) (mantissa : Nat) (exponent : Int) (positive : 0 < mantissa)
    (low : -1074 ≤ exponent) (small : exponent + mantissa.log2 < -1022) :
    ∃ (kept : Nat) (some : 0 < kept), kept < 2 ^ 52 ∧
      round Format.binary64 sign mantissa exponent = .finite sign kept (-1074) some ∧
      (kept : ℚ) * 2 ^ (-1074 : Int) = mantissa * 2 ^ exponent := by
  have digits := log2_shiftLeft mantissa (exponent - -1074).toNat positive
  have value := shiftLeft_value mantissa exponent (-1074) low
  have target := targetExponent_small mantissa exponent small
  have amount : exponent - ((exponent - -1074).toNat : Int) = -1074 := by omega
  have unfolded : round Format.binary64 sign mantissa exponent =
      roundWithAccuracy Format.binary64 sign (mantissa <<< (exponent - -1074).toNat) (-1074)
        .exact := by
    rw [Float.Model.UnpackedFloat.round, target, decreaseExponent, amount]
  have some := shiftLeft_pos mantissa (exponent - -1074).toNat positive
  generalize mantissa <<< (exponent - -1074).toNat = kept at digits value unfolded some
  have cut : shiftToTargetExponent Format.binary64 kept (-1074) .exact =
      (⟨kept, false, false⟩, -1074) := by
    rw [shiftToTargetExponent, targetExponent_small kept (-1074) (by omega)]
    rfl
  refine ⟨kept, some, (Nat.log2_lt (Nat.ne_of_gt some)).mp (by omega), ?_, value⟩
  have whole : ExtendedMantissa.roundedMantissa ⟨kept, false, false⟩ = kept := rfl
  simp only [unfolded, roundWithAccuracy, cut, whole]
  exact dif_neg (Nat.ne_of_gt some)

theorem number?_round (mantissa : Nat) (exponent : Int) (positive : 0 < mantissa)
    (low : -1074 ≤ exponent) :
    (Float.Model.pack (round Format.binary64 .positive mantissa exponent)).unpack =
      .infinity .positive ∨
    ∃ number, number? (.ofModel (.pack (round Format.binary64 .positive mantissa exponent))) =
        some number ∧
      ∀ least, Short least → least ≤ mantissa * 2 ^ exponent → least ≤ number := by
  rcases lt_or_ge (exponent + mantissa.log2) (-1022) with small | normal
  · obtain ⟨kept, some, few, equal, value⟩ :=
      round_small .positive mantissa exponent positive low small
    refine .inr ⟨_, by rw [equal]; exact number?_pack _ kept _ some (.inr ⟨few, rfl⟩), ?_⟩
    rw [← value]
    exact fun least _ below => below
  · obtain ⟨rounded, last, nonzero, nearest, equal, digits, atLeast, atMost, value, near⟩ :=
      round_nearest .positive mantissa exponent positive (by omega)
    rw [equal]
    rcases lt_or_ge 971 last with large | fits
    · exact .inl (unpack_pack_large .positive rounded last nonzero large)
    · refine .inr ⟨_, number?_pack _ rounded last nonzero (.inl ⟨digits, by omega, fits⟩), ?_⟩
      intro least short below
      have aligned : (mantissa : ℚ) * 2 ^ exponent =
          mantissa * 2 ^ (52 - mantissa.log2 : Int) * 2 ^ (exponent + mantissa.log2 - 52) := by
        rw [mul_assoc, ← zpow_add₀ (by norm_num)]
        congr 2
        omega
      have many : 2 ^ 52 ≤ nearest := by
        have first := zpow_le_of_log2 mantissa (52 - mantissa.log2) positive
        obtain ⟨nearBelow, -⟩ := abs_le.mp near
        rw [show (52 - mantissa.log2 + mantissa.log2 : Int) = 52 by omega] at first
        have : (2 : ℚ) ^ 52 < nearest + 1 := by
          have : (2 : ℚ) ^ (52 : Int) = 2 ^ 52 := rfl
          linarith
        have : 2 ^ 52 < nearest + 1 := by exact_mod_cast this
        omega
      rw [aligned] at below
      have reached := le_nearest_of_short least _ _ nearest short below near many
      rw [← value] at reached
      exact reached

theorem unpack_of_nonnegative (value : Float) (number : ℚ) (held : number? value = some number)
    (nonnegative : 0 ≤ number) :
    (∃ sign, value.toModel.unpack = .zero sign ∧ number = 0) ∨
      ∃ mantissa exponent positive,
        value.toModel.unpack = .finite .positive mantissa exponent positive ∧
        number = mantissa * 2 ^ exponent := by
  rcases (number?_eq_some value number).mp held with
    zero | ⟨sign, mantissa, exponent, positive, unpacked, rfl⟩
  · exact .inl zero
  · cases sign with
    | positive => exact .inr ⟨mantissa, exponent, positive, unpacked, rfl⟩
    | negative =>
        have : (0 : ℚ) < mantissa * 2 ^ exponent := by positivity
        exact absurd nonnegative (not_le.mpr (neg_neg_of_pos this))

theorem short_of_number? (value : Float) (number : ℚ) (held : number? value = some number)
    (nonnegative : 0 ≤ number) : Short number := by
  rcases unpack_of_nonnegative value number held nonnegative with
    ⟨sign, unpacked, rfl⟩ | ⟨mantissa, exponent, positive, unpacked, rfl⟩
  · exact ⟨0, 0, by norm_num, by norm_num⟩
  · refine ⟨mantissa, exponent, ?_, rfl⟩
    rcases digits_of_unpack value _ mantissa exponent positive unpacked with ⟨digits, -⟩ | ⟨few, -⟩
    · exact (Nat.log2_lt (Nat.ne_of_gt positive)).mp (by omega)
    · omega

theorem unpack_of_zero_lt (value : Float) (positive : 0.0 < value) :
    value.toModel.unpack = .infinity .positive ∨
      ∃ mantissa exponent nonzero,
        value.toModel.unpack = .finite .positive mantissa exponent nonzero := by
  rw [lt_iff_unpacked, unpack_zero] at positive
  cases unpacked : value.toModel.unpack with
  | notANumber => rw [unpacked] at positive; exact absurd positive (by decide)
  | zero sign => rw [unpacked] at positive; exact absurd positive (by cases sign <;> decide)
  | infinity sign =>
      cases sign with
      | positive => exact .inl rfl
      | negative => rw [unpacked] at positive; exact absurd positive (by decide)
  | finite sign mantissa exponent nonzero =>
      cases sign with
      | positive => exact .inr ⟨mantissa, exponent, nonzero, rfl⟩
      | negative => rw [unpacked] at positive; cases positive

theorem add_eq (first second : Float) :
    first + second =
      .ofModel (.pack (add Format.binary64 first.toModel.unpack second.toModel.unpack)) := rfl

/-- Numbers above zero are added with the smaller of their exponents, and the sum is rounded. -/
theorem add_positive (mantissa other : Nat) (exponent power : Int) (nonzero : 0 < mantissa)
    (some : 0 < other) :
    ∃ total : Nat, 0 < total ∧
      add Format.binary64 (.finite .positive mantissa exponent nonzero)
          (.finite .positive other power some) =
        round Format.binary64 .positive total (min exponent power) ∧
      (total : ℚ) * 2 ^ min exponent power = mantissa * 2 ^ exponent + other * 2 ^ power := by
  have aligned := shiftLeft_value mantissa exponent _ (Int.min_le_left exponent power)
  have aligned' := shiftLeft_value other power _ (Int.min_le_right exponent power)
  have positive := shiftLeft_pos mantissa (exponent - min exponent power).toNat nonzero
  simp only [add, decreaseExponent, Sign.apply]
  generalize mantissa <<< (exponent - min exponent power).toNat = left at *
  generalize other <<< (power - min exponent power).toNat = right at *
  refine ⟨left + right, by omega, ?_, ?_⟩
  · rw [← Int.natCast_add, Float.Model.UnpackedFloat.normalize, Int.compare_eq_gt.mpr (by omega)]
    rfl
  · rw [← aligned, ← aligned']
    push_cast
    ring

theorem unpack_add_endless (first second : Float)
    (endless : first.toModel.unpack = .infinity .positive) (positive : 0.0 < second) :
    (first + second).toModel.unpack = .infinity .positive := by
  have sum : add Format.binary64 first.toModel.unpack second.toModel.unpack =
      .infinity .positive := by
    rcases unpack_of_zero_lt second positive with unpacked | ⟨mantissa, exponent, nonzero, unpacked⟩
      <;> rw [endless, unpacked] <;> rfl
  rw [add_eq, sum]
  rfl

theorem unpack_add_endless_right (first second : Float) (number : ℚ)
    (held : number? first = some number)
    (endless : second.toModel.unpack = .infinity .positive) :
    (first + second).toModel.unpack = .infinity .positive := by
  have sum : add Format.binary64 first.toModel.unpack second.toModel.unpack =
      .infinity .positive := by
    rcases (number?_eq_some first number).mp held with
        ⟨sign, unpacked, -⟩ | ⟨sign, mantissa, exponent, nonzero, unpacked, -⟩
      <;> rw [endless, unpacked] <;> rfl
  rw [add_eq, sum]
  rfl

/-- Adding something positive does not make a number smaller, however the sum is rounded. -/
theorem le_number?_add (first second : Float) (number : ℚ) (held : number? first = some number)
    (nonnegative : 0 ≤ number) (positive : 0.0 < second) :
    (first + second).toModel.unpack = .infinity .positive ∨
      ∃ sum, number? (first + second) = some sum ∧ number ≤ sum := by
  have short := short_of_number? first number held nonnegative
  rcases unpack_of_zero_lt second positive with endless | ⟨other, power, some, finite⟩
  · exact .inl (unpack_add_endless_right first second number held endless)
  rw [add_eq, finite]
  rcases unpack_of_nonnegative first number held nonnegative with
    ⟨sign, unpacked, rfl⟩ | ⟨mantissa, exponent, nonzero, unpacked, rfl⟩
  · right
    rw [unpacked]
    have digits := digits_of_unpack second _ _ _ _ finite
    exact ⟨_, number?_pack .positive other power some digits, by rw [signed]; positivity⟩
  · have low : -1074 ≤ exponent := by
      have := digits_of_unpack first _ _ _ _ unpacked
      omega
    have low' : -1074 ≤ power := by
      have := digits_of_unpack second _ _ _ _ finite
      omega
    obtain ⟨total, some, sum, value⟩ := add_positive mantissa other exponent power nonzero some
    have below : (mantissa : ℚ) * 2 ^ exponent ≤ total * 2 ^ min exponent power := by
      rw [value]
      exact le_add_of_nonneg_right (by positivity)
    rw [unpacked, sum]
    rcases number?_round total (min exponent power) some (by omega) with
      endless | ⟨rounded, equal, above⟩
    · exact .inl endless
    · exact .inr ⟨rounded, equal, above _ short below⟩

end RelationalLearning.Binary64
