import RelationalLearning.Proofs.Binary64.Packing
import RelationalLearning.Proofs.Binary64.Rounding

namespace RelationalLearning.Binary64

open Float.Model (Format)
open Float.Model.UnpackedFloat

def signed : Sign → ℚ → ℚ
  | .positive, magnitude => magnitude
  | .negative, magnitude => -magnitude

theorem signed_neg (sign : Sign) (magnitude : ℚ) :
    signed (-sign) magnitude = -signed sign magnitude := by
  cases sign with
  | positive => rfl
  | negative => exact (neg_neg magnitude).symm

theorem signed_ne_zero (sign : Sign) (magnitude : ℚ) (positive : 0 < magnitude) :
    signed sign magnitude ≠ 0 := by
  cases sign with
  | positive => exact positive.ne'
  | negative => exact (neg_neg_of_pos positive).ne

/-- The number that a value stands for, which is zero or has 53 digits. -/
inductive Holds (value : Float) (number : ℚ) : Prop
  | zero (sign : Sign) (unpacked : value.toModel.unpack = .zero sign) (none : number = 0)
  | finite (sign : Sign) (mantissa : Nat) (exponent : Int) (positive : 0 < mantissa)
    (unpacked : value.toModel.unpack = .finite sign mantissa exponent positive)
    (digits : mantissa.log2 = 52) (low : -1074 ≤ exponent) (high : exponent ≤ 971)
    (same : number = signed sign (mantissa * 2 ^ exponent))

theorem apply_eq_signed (sign : Sign) (mantissa : Nat) :
    ((sign.apply mantissa : Int) : ℚ) = signed sign mantissa := by
  cases sign <;> simp [Sign.apply, signed]

theorem holds_zero (sign : Sign) : Holds (.ofModel (.pack (.zero sign))) 0 :=
  .zero sign (unpack_pack_zero sign) rfl

theorem zero_of_holds (value : Float) (held : Holds value 0) :
    ∃ sign, value.toModel.unpack = .zero sign := by
  cases held with
  | zero sign unpacked none => exact ⟨sign, unpacked⟩
  | finite sign mantissa exponent positive unpacked digits low high same =>
      exact absurd same.symm (signed_ne_zero sign _ (by positivity))

theorem holds_finite (sign : Sign) (mantissa : Nat) (exponent : Int) (positive : 0 < mantissa)
    (digits : mantissa.log2 = 52) (low : -1074 ≤ exponent) (high : exponent ≤ 971) :
    Holds (.ofModel (.pack (.finite sign mantissa exponent positive)))
      (signed sign (mantissa * 2 ^ exponent)) := by
  have unpacked := unpack_pack sign mantissa exponent positive digits low high
  exact .finite sign mantissa exponent positive unpacked digits low high rfl

theorem eq_of_near (first second : Nat) (near : |(first : ℚ) - second| ≤ 1 / 2) :
    first = second := by
  obtain ⟨below, above⟩ := abs_le.mp near
  have atMost : (first : ℚ) < second + 1 := by linarith
  have atLeast : (second : ℚ) < first + 1 := by linarith
  have atMost : first < second + 1 := by exact_mod_cast atMost
  have atLeast : second < first + 1 := by exact_mod_cast atLeast
  omega

theorem zpow_two_lt (first second : Int) (less : (2 : ℚ) ^ first < 2 ^ second) : first < second :=
  (zpow_lt_zpow_iff_right₀ (by norm_num)).mp less

theorem zpow_two_le (first second : Int) (less : (2 : ℚ) ^ first ≤ 2 ^ second) : first ≤ second :=
  (zpow_le_zpow_iff_right₀ (by norm_num)).mp less

theorem zpow_le_of_log2 (mantissa : Nat) (exponent : Int) (positive : 0 < mantissa) :
    (2 : ℚ) ^ (exponent + mantissa.log2) ≤ mantissa * 2 ^ exponent := by
  obtain ⟨atLeast, -⟩ := (Nat.log2_eq_iff (Nat.ne_of_gt positive)).mp rfl
  have large : (2 : ℚ) ^ mantissa.log2 ≤ mantissa := by exact_mod_cast atLeast
  rw [zpow_add₀ (by norm_num), zpow_natCast, mul_comm]
  exact mul_le_mul_of_nonneg_right large (by positivity)

theorem lt_zpow_of_log2 (mantissa : Nat) (exponent : Int) (positive : 0 < mantissa) :
    (mantissa : ℚ) * 2 ^ exponent < 2 ^ (exponent + mantissa.log2 + 1) := by
  obtain ⟨-, lessThan⟩ := (Nat.log2_eq_iff (Nat.ne_of_gt positive)).mp rfl
  have small : (mantissa : ℚ) < 2 ^ (mantissa.log2 + 1) := by exact_mod_cast lessThan
  rw [show exponent + mantissa.log2 + 1 =
    ((mantissa.log2 + 1 : Nat) : Int) + exponent by push_cast; ring, zpow_add₀ (by norm_num),
    zpow_natCast]
  exact mul_lt_mul_of_pos_right small (by positivity)

theorem first_digit_of_whole (mantissa : Nat) (exponent : Int) (number : Nat)
    (positive : 0 < mantissa) (same : (mantissa : ℚ) * 2 ^ exponent = number)
    (small : number ≤ 2 ^ 53) : 0 ≤ exponent + mantissa.log2 ∧ exponent + mantissa.log2 ≤ 53 := by
  have above := zpow_le_of_log2 mantissa exponent positive
  have below := lt_zpow_of_log2 mantissa exponent positive
  rw [same] at above below
  constructor
  · have nonzero : number ≠ 0 := by
      rintro rfl
      have : (0 : ℚ) < mantissa * 2 ^ exponent := by positivity
      simp [same] at this
    have one : (1 : ℚ) ≤ number := by exact_mod_cast Nat.pos_of_ne_zero nonzero
    have := zpow_two_lt 0 _ (lt_of_le_of_lt (by rw [zpow_zero]; exact one) below)
    omega
  · have bound : (number : ℚ) ≤ 2 ^ (53 : Int) := by exact_mod_cast small
    exact zpow_two_le _ 53 (le_trans above bound)

theorem multiple_of_whole (mantissa : Nat) (exponent : Int) (number : Nat) (positive : 0 < mantissa)
    (same : (mantissa : ℚ) * 2 ^ exponent = number) (small : number ≤ 2 ^ 53) :
    ∃ whole : Nat, (number : ℚ) = whole * 2 ^ (exponent + mantissa.log2 - 52) := by
  obtain ⟨low, high⟩ := first_digit_of_whole mantissa exponent number positive same small
  rcases le_or_gt (exponent + mantissa.log2) 52 with few | many
  · refine ⟨number * 2 ^ (52 - (exponent + mantissa.log2)).toNat, ?_⟩
    have sum : ((52 - (exponent + mantissa.log2)).toNat : Int) + (exponent + mantissa.log2 - 52) =
        0 := by omega
    push_cast
    rw [mul_assoc, ← zpow_natCast, ← zpow_add₀ (by norm_num), sum, zpow_zero, mul_one]
  · have last : exponent + mantissa.log2 = 53 := by omega
    have above := zpow_le_of_log2 mantissa exponent positive
    rw [same, last] at above
    have above : 2 ^ 53 ≤ number := by exact_mod_cast above
    have largest : number = 2 ^ 53 := by omega
    refine ⟨2 ^ 52, ?_⟩
    rw [last, largest]
    norm_num

theorem holds_round (sign : Sign) (mantissa : Nat) (exponent : Int) (number : Nat)
    (positive : 0 < mantissa) (same : (mantissa : ℚ) * 2 ^ exponent = number)
    (small : number ≤ 2 ^ 53) :
    Holds (.ofModel (.pack (round Format.binary64 sign mantissa exponent)))
      (signed sign number) := by
  obtain ⟨low, high⟩ := first_digit_of_whole mantissa exponent number positive same small
  obtain ⟨whole, multiple⟩ := multiple_of_whole mantissa exponent number positive same small
  obtain ⟨rounded, last, nonzero, nearest, equal, digits, atLeast, atMost, value, near⟩ :=
    round_nearest sign mantissa exponent positive (by omega)
  have units : (mantissa : ℚ) * 2 ^ (52 - mantissa.log2 : Int) = whole := by
    have apart : (52 - mantissa.log2 : Int) = exponent - (exponent + mantissa.log2 - 52) := by omega
    rw [apart, zpow_sub₀ (by norm_num), ← mul_div_assoc, same, multiple]
    exact mul_div_cancel_right₀ _ (by positivity)
  rw [units] at near
  obtain rfl := eq_of_near nearest whole near
  rw [equal, multiple, ← value]
  exact holds_finite sign rounded last nonzero digits (by omega) (by omega)

theorem holds_normalize (mantissa exponent number : Int) (zero : Sign)
    (same : (mantissa : ℚ) * 2 ^ exponent = number) (small : number.natAbs ≤ 2 ^ 53) :
    Holds (.ofModel (.pack (normalize Format.binary64 mantissa exponent zero))) number := by
  have scale : (0 : ℚ) < 2 ^ exponent := by positivity
  rw [Float.Model.UnpackedFloat.normalize]
  rcases lt_trichotomy mantissa 0 with negative | rfl | positive
  · have below : number < 0 := by
      have : (number : ℚ) < 0 := by
        rw [← same]
        exact mul_neg_of_neg_of_pos (by exact_mod_cast negative) scale
      exact_mod_cast this
    obtain ⟨size, rfl⟩ : ∃ size : Nat, mantissa = -size := ⟨mantissa.natAbs, by omega⟩
    obtain ⟨whole, rfl⟩ : ∃ whole : Nat, number = -whole := ⟨number.natAbs, by omega⟩
    have magnitude : (size : ℚ) * 2 ^ exponent = whole := by
      push_cast at same
      linarith
    have held := holds_round .negative size exponent whole (by omega) magnitude (by omega)
    rw [Int.compare_eq_lt.mpr negative]
    simpa [signed] using held
  · obtain rfl : number = 0 := by
      rw [Int.cast_zero, zero_mul] at same
      exact_mod_cast same.symm
    simpa using holds_zero zero
  · have above : 0 < number := by
      have : (0 : ℚ) < number := by
        rw [← same]
        exact mul_pos (by exact_mod_cast positive) scale
      exact_mod_cast this
    obtain ⟨size, rfl⟩ : ∃ size : Nat, mantissa = size := ⟨mantissa.natAbs, by omega⟩
    obtain ⟨whole, rfl⟩ : ∃ whole : Nat, number = whole := ⟨number.natAbs, by omega⟩
    have magnitude : (size : ℚ) * 2 ^ exponent = whole := by simpa using same
    have held := holds_round .positive size exponent whole (by omega) magnitude (by omega)
    rw [Int.compare_eq_gt.mpr positive]
    simpa [signed] using held

theorem holds_neg (value : Float) (number : ℚ) (held : Holds value number) :
    Holds (-value) (-number) := by
  have unfolded : -value = .ofModel (.pack value.toModel.unpack.neg) := rfl
  rw [unfolded]
  cases held with
  | zero sign unpacked none =>
      rw [unpacked, none, neg_zero]
      exact holds_zero (-sign)
  | finite sign mantissa exponent positive unpacked digits low high same =>
      rw [unpacked, same, ← signed_neg]
      exact holds_finite (-sign) mantissa exponent positive digits low high

theorem shiftLeft_value (mantissa : Nat) (exponent lower : Int) (below : lower ≤ exponent) :
    ((mantissa <<< (exponent - lower).toNat : Nat) : ℚ) * 2 ^ lower = mantissa * 2 ^ exponent := by
  rw [Nat.shiftLeft_eq]
  push_cast
  have sum : ((exponent - lower).toNat : Int) + lower = exponent := by omega
  rw [mul_assoc, ← zpow_natCast, ← zpow_add₀ (by norm_num), sum]

/-- A difference that is a whole number up to `2 ^ 53` is exact. -/
theorem holds_sub (first second : Float) (minuend subtrahend : ℚ) (difference : Int)
    (left : Holds first minuend) (right : Holds second subtrahend)
    (same : minuend - subtrahend = difference) (small : difference.natAbs ≤ 2 ^ 53) :
    Holds (first - second) difference := by
  have unfolded : first - second =
      .ofModel (.pack (sub Format.binary64 first.toModel.unpack second.toModel.unpack)) := rfl
  rw [unfolded, ← same]
  cases left with
  | zero sign unpacked none =>
      cases right with
      | zero other unpackedOther noneOther =>
          rw [unpacked, unpackedOther, none, noneOther, sub_zero]
          simp only [sub]
          split
          next => exact holds_zero sign
          next => exact holds_zero .positive
      | finite other mantissa exponent positive unpackedOther digits low high equal =>
          rw [unpacked, unpackedOther, none, equal, zero_sub, ← signed_neg]
          exact holds_finite (-other) mantissa exponent positive digits low high
  | finite sign mantissa exponent positive unpacked digits low high equal =>
      cases right with
      | zero other unpackedOther noneOther =>
          rw [unpacked, unpackedOther, noneOther, sub_zero, equal]
          exact holds_finite sign mantissa exponent positive digits low high
      | finite other otherMantissa otherExponent otherPositive unpackedOther _ _ _ equalOther =>
          rw [unpacked, unpackedOther, same]
          refine holds_normalize _ (min exponent otherExponent) difference .positive ?_ small
          have minuendAligned :=
            shiftLeft_value mantissa exponent _ (Int.min_le_left exponent otherExponent)
          have subtrahendAligned :=
            shiftLeft_value otherMantissa otherExponent _ (Int.min_le_right exponent otherExponent)
          rw [← same, equal, equalOther, ← minuendAligned, ← subtrahendAligned, Int.cast_sub,
            apply_eq_signed, apply_eq_signed]
          cases sign <;> cases other <;> simp only [signed] <;> ring

def signOf (number : Int) : Sign := if number < 0 then .negative else .positive

theorem finite_of_whole (value : Float) (number : Int) (held : Holds value number)
    (nonzero : number ≠ 0) (small : number.natAbs ≤ 2 ^ 53) :
    ∃ (mantissa : Nat) (exponent : Int) (positive : 0 < mantissa),
      value.toModel.unpack = .finite (signOf number) mantissa exponent positive ∧
      mantissa.log2 = 52 ∧
      (mantissa : ℚ) * 2 ^ exponent = number.natAbs ∧ -52 ≤ exponent ∧ exponent ≤ 1 := by
  cases held with
  | zero sign unpacked none => exact absurd (by exact_mod_cast none) nonzero
  | finite sign mantissa exponent positive unpacked digits low high same =>
      have magnitude : (0 : ℚ) < mantissa * 2 ^ exponent := by positivity
      have whole : (mantissa : ℚ) * 2 ^ exponent = number.natAbs := by
        rw [Nat.cast_natAbs, Int.cast_abs, same]
        cases sign <;> simp [signed, abs_of_nonneg]
      have signs : sign = signOf number := by
        cases sign with
        | positive =>
            have : (0 : ℚ) < number := by
              rw [same]
              exact magnitude
            have : 0 < number := by exact_mod_cast this
            rw [signOf, if_neg (by omega)]
        | negative =>
            have : (number : ℚ) < 0 := by
              rw [same]
              exact neg_neg_of_pos magnitude
            have : number < 0 := by exact_mod_cast this
            rw [signOf, if_pos this]
      obtain ⟨atLeast, atMost⟩ :=
        first_digit_of_whole mantissa exponent number.natAbs positive whole small
      exact ⟨mantissa, exponent, positive, by rw [unpacked, signs], digits, whole, by omega,
        by omega⟩

theorem signed_natAbs (number : Int) : signed (signOf number) (number.natAbs : ℚ) = number := by
  rw [Nat.cast_natAbs, signOf]
  split
  next negative =>
    rw [signed, Int.cast_abs, abs_of_neg (by exact_mod_cast negative), neg_neg]
  next positive =>
    rw [signed, Int.cast_abs, abs_of_nonneg (by exact_mod_cast not_lt.mp positive)]

theorem holds_mul_one (value : Float) (number : Int) (held : Holds value number)
    (small : number.natAbs ≤ 2 ^ 53) : Holds (value * Float.ofBits 0x3FF0000000000000) number := by
  have unfolded : value * Float.ofBits 0x3FF0000000000000 =
      .ofModel (.pack
        (mul Format.binary64 value.toModel.unpack
        (.finite .positive (2 ^ 52) (-52) (by decide)))) := rfl
  rw [unfolded]
  by_cases nonzero : number = 0
  · rw [nonzero, Int.cast_zero] at held ⊢
    obtain ⟨sign, unpacked⟩ := zero_of_holds value held
    rw [unpacked]
    cases sign with
    | positive => exact holds_zero .positive
    | negative => exact holds_zero .negative
  · obtain ⟨mantissa, exponent, positive, unpacked, digits, whole, low, high⟩ :=
      finite_of_whole value number held nonzero small
    have same_sign : signOf number * .positive = signOf number := by cases signOf number <;> rfl
    have shifted : mantissa * 2 ^ 52 = mantissa <<< 52 := (Nat.shiftLeft_eq mantissa 52).symm
    obtain ⟨rounded, last, nonzero, nearest, equal, normal, fromBelow, fromAbove, value, near⟩ :=
      roundWithAccuracy_nearest (signOf number) (mantissa * 2 ^ 52) (exponent + -52) .exact
        (mantissa * 2 ^ 52 : Nat) 52
        (by rw [shifted, log2_shiftLeft mantissa 52 positive, digits]) (by omega) (.whole _ _ rfl)
    have kept : ((mantissa * 2 ^ 52 : Nat) : ℚ) / 2 ^ 52 = mantissa := by
      push_cast
      exact mul_div_cancel_right₀ _ (by norm_num)
    rw [kept] at near
    obtain rfl := eq_of_near nearest mantissa near
    have unit : exponent + -52 + (52 : Nat) = exponent := by omega
    rw [unit] at fromBelow fromAbove value
    rw [unpacked, ← signed_natAbs, ← whole, ← value]
    simp only [mul, same_sign, equal]
    exact holds_finite (signOf number) rounded last nonzero normal (by omega) (by omega)

theorem holds_ofNat (number : Nat) (small : number ≤ 2 ^ 53) :
    Holds (Float.ofNat number) number := by
  rcases Nat.lt_or_eq_of_le small with fits | rfl
  · have quick : Float.ofNat number =
        number.toUInt64.toFloat * Float.ofBits 0x3FF0000000000000 := by
      unfold Float.ofNat
      exact dif_pos ⟨fits, by decide⟩
    have converted : number.toUInt64.toFloat =
        .ofModel (.pack (normalize Format.binary64 (number.toUInt64.toNat : Int) 0 .positive)) :=
          rfl
    have word : number.toUInt64.toNat = number := by
      rw [Nat.toUInt64_eq, UInt64.toNat_ofNat']
      omega
    rw [quick]
    refine holds_mul_one _ number ?_ small
    rw [converted, word]
    exact holds_normalize number 0 number .positive (by simp) small
  · apply Holds.finite .positive (2 ^ 52) 1 (by decide) rfl Nat.log2_two_pow (by decide) (by decide)
    norm_num [signed]

theorem holds_ofInt (number : Int) (small : number.natAbs ≤ 2 ^ 53) :
    Holds (Float.ofInt number) number := by
  cases number with
  | ofNat number => exact holds_ofNat number small
  | negSucc number =>
      have negated := holds_neg _ _ (holds_ofNat (number + 1) small)
      rw [Int.cast_negSucc]
      exact negated

/-- The number that a value stands for; what is infinite or not a number stands for none. -/
def number? (value : Float) : Option ℚ :=
  match value.toModel.unpack with
  | .zero _ => some 0
  | .finite sign mantissa exponent _ => some (signed sign (mantissa * 2 ^ exponent))
  | _ => none

theorem number?_of_holds (value : Float) (number : ℚ) (held : Holds value number) :
    number? value = some number := by
  cases held with
  | zero sign unpacked none => rw [number?, unpacked, none]
  | finite sign mantissa exponent positive unpacked digits low high same =>
      rw [number?, unpacked, same]

theorem number?_ofInt (whole : Int) (small : whole.natAbs ≤ 2 ^ 53) :
    number? (Float.ofInt whole) = some (whole : ℚ) :=
  number?_of_holds _ _ (holds_ofInt whole small)

end RelationalLearning.Binary64
