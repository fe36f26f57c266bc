import RelationalLearning.Proofs.Binary64.Ceiling

/-!
Quotients of whole numbers up to `2 ^ 53`. They are rounded, but by less than what separates them
from the next whole number, so that rounding takes none of them across one.
-/

namespace RelationalLearning.Binary64

open Float.Model (Format totalExponent)
open Float.Model.UnpackedFloat

theorem compare_double (rest denominator : Nat) (positive : 0 < denominator) :
    compare (2 * rest) denominator = compare ((rest : ℚ) / denominator) (1 / 2) := by
  have scale : (0 : ℚ) < denominator := by exact_mod_cast positive
  have increasing : StrictMono fun number : Nat => (number : ℚ) / (2 * denominator) :=
    fun _ _ less => div_lt_div_of_pos_right (by exact_mod_cast less) (by positivity)
  have rested : ((2 * rest : Nat) : ℚ) / (2 * denominator) = rest / denominator := by
    push_cast
    exact mul_div_mul_left _ _ two_ne_zero
  have halved : (denominator : ℚ) / (2 * denominator) = 1 / 2 := by
    field_simp
  rw [← rested, ← halved, ← cmp_eq_compare, ← cmp_eq_compare]
  exact (increasing.cmp_map_eq (2 * rest) denominator).symm

/-- The remainder of a division says where the quotient is. -/
theorem locates_quotient (numerator denominator : Nat) (positive : 0 < denominator) :
    Locates (ExtendedMantissa.ofMantissaAndAccuracy (numerator / denominator)
      (accuracyOfFraction (numerator % denominator) denominator))
        (numerator / denominator : ℚ) := by
  have scale : (0 : ℚ) < denominator := by exact_mod_cast positive
  have whole :
      (denominator * (numerator / denominator : Nat) + (numerator % denominator : Nat) : ℚ) =
        numerator := by
    exact_mod_cast Nat.div_add_mod numerator denominator
  have inside : (numerator % denominator : Nat) < (denominator : ℚ) := by
    exact_mod_cast Nat.mod_lt numerator positive
  have quotient : (numerator / denominator : ℚ) =
      (numerator / denominator : Nat) + (numerator % denominator : Nat) / (denominator : ℚ) := by
    rw [← whole]
    field_simp
  have less : ((numerator % denominator : Nat) : ℚ) / denominator < 1 :=
    (div_lt_one scale).mpr inside
  rw [quotient]
  generalize numerator / denominator = mantissa
  generalize numerator % denominator = rest at less
  unfold accuracyOfFraction
  split
  next none =>
    rw [none, Nat.cast_zero, zero_div, add_zero]
    exact .whole mantissa _ rfl
  next some =>
    have above : (0 : ℚ) < rest / denominator :=
      div_pos (by exact_mod_cast Nat.pos_of_ne_zero some) scale
    rw [compare_double rest denominator positive]
    rcases lt_trichotomy ((rest : ℚ) / denominator) (1 / 2) with below | middle | beyond
    · rw [compare_lt_iff_lt.mpr below]
      exact .low mantissa _ (by linarith) (by linarith)
    · rw [compare_eq_iff_eq.mpr middle, middle]
      exact .middle mantissa _ rfl
    · rw [compare_gt_iff_gt.mpr beyond]
      exact .high mantissa _ (by linarith) (by linarith)

theorem divCore_eq (first second : Nat) (upper lower : Int) (digits : first.log2 = 52)
    (same : second.log2 = 52) (normal : -1021 ≤ upper - lower) :
    divCore Format.binary64 first upper second lower =
      ((first <<< 53) / second, upper - lower - 53,
        accuracyOfFraction ((first <<< 53) % second) second) := by
  have target : Format.binary64.targetExponent
      (totalExponent first upper - totalExponent second lower) =
      upper - lower - 53 := by
    simp only [Format.targetExponent, totalExponent, Format.mantissaBits, Format.minExponent,
      digits, same]
    omega
  have least : min (upper - lower) (upper - lower - 53) = upper - lower - 53 := by omega
  have amount : (upper - lower - (upper - lower - 53)).toNat = 53 := by omega
  simp only [divCore, target, least, amount]

theorem log2_quotient (first second : Nat) (digits : first.log2 = 52) (same : second.log2 = 52) :
    ∃ steps, ((first <<< 53) / second).log2 = 52 + steps ∧ steps ≤ 1 := by
  obtain ⟨atLeast, lessThan⟩ := (Nat.log2_eq_iff (by rintro rfl; simp at digits)).mp digits
  obtain ⟨least, less⟩ := (Nat.log2_eq_iff (by rintro rfl; simp at same)).mp same
  have positive : 0 < second := lt_of_lt_of_le (Nat.two_pow_pos 52) least
  have low : 2 ^ 52 ≤ (first <<< 53) / second := by
    rw [Nat.le_div_iff_mul_le positive, Nat.shiftLeft_eq]
    omega
  have high : (first <<< 53) / second < 2 ^ 54 := by
    rw [Nat.div_lt_iff_lt_mul positive, Nat.shiftLeft_eq]
    omega
  rcases Nat.lt_or_ge ((first <<< 53) / second) (2 ^ 53) with few | many
  · exact ⟨0, log2_eq_of_mem _ 52 low few, by omega⟩
  · exact ⟨1, log2_eq_of_mem _ 53 many high, le_refl 1⟩

theorem div_eq (first second : Float) :
    first / second =
      .ofModel (.pack (div Format.binary64 first.toModel.unpack second.toModel.unpack)) := rfl

theorem holds_div (first second : Float) (dividend divisor : Int) (left : Holds first dividend)
    (right : Holds second divisor) (some : dividend ≠ 0) (nonzero : divisor ≠ 0)
    (small : dividend.natAbs ≤ 2 ^ 53) (narrow : divisor.natAbs ≤ 2 ^ 53) :
    ∃ (nearest : Nat) (unit : Int),
      Holds (first / second) (signed (signOf dividend / signOf divisor) (nearest * 2 ^ unit)) ∧
      (2 ^ 52 : ℚ) ≤ dividend.natAbs / divisor.natAbs / 2 ^ unit ∧
      |(nearest : ℚ) - dividend.natAbs / divisor.natAbs / 2 ^ unit| ≤ 1 / 2 := by
  obtain ⟨upper, upperExponent, upperPositive, upperUnpacked, upperDigits, upperWhole, upperLow,
    upperHigh⟩ :=
    finite_of_whole first dividend left some small
  obtain ⟨lower, lowerExponent, lowerPositive, lowerUnpacked, lowerDigits, lowerWhole, lowerLow,
    lowerHigh⟩ :=
    finite_of_whole second divisor right nonzero narrow
  obtain ⟨steps, digits, few⟩ := log2_quotient upper lower upperDigits lowerDigits
  have located := locates_quotient (upper <<< 53) lower lowerPositive
  obtain ⟨rounded, last, positive, nearest, equal, normal, fromBelow, fromAbove, value, near⟩ :=
    roundWithAccuracy_nearest (signOf dividend / signOf divisor) _
      (upperExponent - lowerExponent - 53) _ _ steps digits
      (by omega) located
  have scaled : (dividend.natAbs : ℚ) / divisor.natAbs /
      2 ^ (upperExponent - lowerExponent - 53 + steps) =
      (upper <<< 53 : Nat) / lower / 2 ^ steps := by
    have nonempty : (lower : ℚ) ≠ 0 := by exact_mod_cast Nat.ne_of_gt lowerPositive
    rw [← upperWhole, ← lowerWhole, zpow_add₀ (by norm_num), zpow_sub₀ (by norm_num),
      zpow_sub₀ (by norm_num), zpow_natCast, Nat.shiftLeft_eq]
    push_cast
    field_simp
  obtain ⟨above, -⟩ := floor_of_locates _ _ located
  obtain ⟨atLeast, -⟩ := (Nat.log2_eq_iff (by intro none; simp [none] at digits; omega)).mp digits
  rw [mantissa_ofMantissaAndAccuracy] at above
  have large : (2 ^ 52 : ℚ) ≤ (upper <<< 53 : Nat) / lower / 2 ^ steps := by
    rw [le_div_iff₀ (by positivity), ← pow_add]
    exact le_trans (by exact_mod_cast atLeast) above
  have held : Holds (first / second)
      (signed (signOf dividend / signOf divisor) (rounded * 2 ^ last)) := by
    rw [div_eq, upperUnpacked, lowerUnpacked]
    simp only [div,
      divCore_eq upper lower upperExponent lowerExponent upperDigits lowerDigits (by omega), equal]
    exact holds_finite _ rounded last positive normal (by omega) (by omega)
  rw [value] at held
  rw [← scaled] at near large
  exact ⟨nearest, upperExponent - lowerExponent - 53 + steps, held, large, near⟩

theorem add_one_div_le (dividend divisor below : Nat) (some : 0 < divisor)
    (less : (below : ℚ) < dividend / divisor) : (below : ℚ) + 1 / divisor ≤ dividend / divisor := by
  have scale : (0 : ℚ) < divisor := by exact_mod_cast some
  rw [lt_div_iff₀ scale] at less
  have product : below * divisor + 1 ≤ dividend := by exact_mod_cast less
  rw [le_div_iff₀ scale, add_mul, one_div_mul_cancel scale.ne']
  exact_mod_cast product

theorem lt_of_places (dividend divisor nearest places below : Nat) (positive : 0 < dividend)
    (some : 0 < divisor) (small : dividend ≤ 2 ^ 53)
    (large : (2 ^ 52 : ℚ) ≤ dividend / divisor * 2 ^ places)
    (near : |(nearest : ℚ) - dividend / divisor * 2 ^ places| ≤ 1 / 2)
    (less : (below : ℚ) < dividend / divisor) : (below : ℚ) * 2 ^ places < nearest := by
  have above : (0 : ℚ) < dividend := by exact_mod_cast positive
  have bound : (dividend : ℚ) ≤ 2 ^ 53 := by exact_mod_cast small
  obtain ⟨nearBelow, nearAbove⟩ := abs_le.mp near
  by_contra! crossed
  have separated := add_one_div_le dividend divisor below some less
  have gap : (dividend : ℚ) / divisor * 2 ^ places / dividend = 1 / divisor * 2 ^ places := by
    field_simp
  have apart : (nearest : ℚ) + dividend / divisor * 2 ^ places / dividend ≤
      dividend / divisor * 2 ^ places := by
    rw [gap]
    calc
      (nearest : ℚ) + 1 / divisor * 2 ^ places ≤
        below * 2 ^ places + 1 / divisor * 2 ^ places := by linarith
      _ = (below + 1 / divisor) * 2 ^ places := by ring
      _ ≤ dividend / divisor * 2 ^ places := mul_le_mul_of_nonneg_right separated (by positivity)
  have half : (dividend : ℚ) / divisor * 2 ^ places / dividend ≤ 1 / 2 := by linarith
  -- only a quotient of which just the first digit is not zero could be that near, and it is exact
  have exactly : (dividend : ℚ) / divisor * 2 ^ places = 2 ^ 52 := by
    rw [div_le_iff₀ above] at half
    linarith
  rw [exactly] at near apart
  have same : nearest = 2 ^ 52 := eq_of_near nearest (2 ^ 52) (by exact_mod_cast near)
  have : (0 : ℚ) < 2 ^ 52 / dividend := by positivity
  rw [same] at apart
  push_cast at apart
  linarith

theorem le_of_places (quotient : ℚ) (nearest places above : Nat)
    (near : |(nearest : ℚ) - quotient * 2 ^ places| ≤ 1 / 2) (atMost : quotient ≤ above) :
    (nearest : ℚ) ≤ above * 2 ^ places := by
  obtain ⟨-, nearAbove⟩ := abs_le.mp near
  have scaled : quotient * 2 ^ places ≤ above * 2 ^ places :=
    mul_le_mul_of_nonneg_right atMost (by positivity)
  have short : (nearest : ℚ) < above * 2 ^ places + 1 := by linarith
  have short : nearest < above * 2 ^ places + 1 := by exact_mod_cast short
  exact_mod_cast Nat.le_of_lt_succ short

theorem ceil_of_places (dividend divisor nearest places : Nat) (positive : 0 < dividend)
    (some : 0 < divisor) (small : dividend ≤ 2 ^ 53)
    (large : (2 ^ 52 : ℚ) ≤ dividend / divisor * 2 ^ places)
    (near : |(nearest : ℚ) - dividend / divisor * 2 ^ places| ≤ 1 / 2) :
    ⌈(nearest : ℚ) / 2 ^ places⌉ = ⌈(dividend : ℚ) / divisor⌉ := by
  have scale : (0 : ℚ) < divisor := by exact_mod_cast some
  have unit : (0 : ℚ) < 2 ^ places := by positivity
  have nonnegative : 0 < ⌈(dividend : ℚ) / divisor⌉ :=
    Int.ceil_pos.mpr (div_pos (by exact_mod_cast positive) scale)
  obtain ⟨below, ceiling⟩ : ∃ below : Nat, ⌈(dividend : ℚ) / divisor⌉ = (below + 1 : Nat) :=
    ⟨(⌈(dividend : ℚ) / divisor⌉ - 1).toNat, by omega⟩
  obtain ⟨more, atMost⟩ := Int.ceil_eq_iff.mp ceiling
  have less : (below : ℚ) < dividend / divisor := by
    push_cast at more
    linarith
  rw [ceiling, Int.ceil_eq_iff]
  constructor
  · rw [lt_div_iff₀ unit]
    push_cast
    rw [add_sub_cancel_right]
    exact lt_of_places dividend divisor nearest places below positive some small large near less
  · rw [div_le_iff₀ unit]
    exact le_of_places _ nearest places (below + 1) near atMost

theorem ceil_of_nearest (dividend divisor nearest : Nat) (unit : Int) (positive : 0 < dividend)
    (some : 0 < divisor) (small : dividend ≤ 2 ^ 53)
    (large : (2 ^ 52 : ℚ) ≤ dividend / divisor / 2 ^ unit)
    (near : |(nearest : ℚ) - dividend / divisor / 2 ^ unit| ≤ 1 / 2) :
    ⌈(nearest : ℚ) * 2 ^ unit⌉ = ⌈(dividend : ℚ) / divisor⌉ := by
  rcases le_or_gt unit 0 with below | above
  · obtain ⟨places, rfl⟩ : ∃ places : Nat, unit = -places := ⟨unit.natAbs, by omega⟩
    rw [zpow_neg, zpow_natCast, div_inv_eq_mul] at large near
    rw [zpow_neg, zpow_natCast, ← div_eq_mul_inv]
    exact ceil_of_places dividend divisor nearest places positive some small large near
  · -- no quotient is so large, unless it is `2 ^ 53`
    have scale : (1 : ℚ) ≤ divisor := by exact_mod_cast some
    have bound : (dividend : ℚ) ≤ 2 ^ 53 := by exact_mod_cast small
    have atMost : (dividend : ℚ) / divisor ≤ 2 ^ 53 :=
      le_trans (div_le_self (by positivity) scale) bound
    rw [le_div_iff₀ (by positivity)] at large
    have : (2 : ℚ) ^ (52 + unit) ≤ 2 ^ (53 : Int) := by
      rw [zpow_add₀ (by norm_num)]
      exact le_trans large atMost
    obtain rfl : unit = 1 := by
      have := zpow_two_le _ _ this
      omega
    rw [zpow_one] at large near ⊢
    have largest : (dividend : ℚ) / divisor = 2 ^ 53 := by linarith
    rw [largest] at near ⊢
    have same : nearest = 2 ^ 52 := eq_of_near nearest (2 ^ 52) (by norm_num at near ⊢; exact near)
    rw [same]
    norm_num

theorem holds_zero_div (first second : Float) (divisor : ℚ) (left : Holds first 0)
    (right : Holds second divisor) (nonzero : divisor ≠ 0) : Holds (first / second) 0 := by
  obtain ⟨sign, unpacked⟩ := zero_of_holds first left
  cases right with
  | zero other unpackedOther none => exact absurd none nonzero
  | finite other mantissa exponent positive unpackedOther digits low high same =>
      rw [div_eq, unpacked, unpackedOther]
      exact holds_zero (sign / other)

theorem signed_div (first second : Int) (magnitude : ℚ) (nonzero : first ≠ 0) (some : second ≠ 0) :
    signed (signOf first / signOf second) magnitude =
      if 0 < (first : ℚ) / second then magnitude else -magnitude := by
  unfold signOf
  rcases lt_or_gt_of_ne nonzero with below | above
    <;> rcases lt_or_gt_of_ne some with under | beyond
  · have positive : 0 < (first : ℚ) / second :=
      div_pos_of_neg_of_neg (by exact_mod_cast below) (by exact_mod_cast under)
    rw [if_pos below, if_pos under, if_pos positive]
    rfl
  · have negative : (first : ℚ) / second < 0 :=
      div_neg_of_neg_of_pos (by exact_mod_cast below) (by exact_mod_cast beyond)
    rw [if_pos below, if_neg (not_lt.mpr beyond.le), if_neg (not_lt.mpr negative.le)]
    rfl
  · have negative : (first : ℚ) / second < 0 :=
      div_neg_of_pos_of_neg (by exact_mod_cast above) (by exact_mod_cast under)
    rw [if_neg (not_lt.mpr above.le), if_pos under, if_neg (not_lt.mpr negative.le)]
    rfl
  · have positive : 0 < (first : ℚ) / second :=
      div_pos (by exact_mod_cast above) (by exact_mod_cast beyond)
    rw [if_neg (not_lt.mpr above.le), if_neg (not_lt.mpr beyond.le), if_pos positive]
    rfl

/-- A quotient is rounded, but neither across zero nor across any other whole number above it. -/
theorem holds_quotient (first second : Float) (dividend divisor : Int) (left : Holds first dividend)
    (right : Holds second divisor) (nonzero : divisor ≠ 0) (small : dividend.natAbs ≤ 2 ^ 53)
    (narrow : divisor.natAbs ≤ 2 ^ 53) :
    ∃ quotient : ℚ, Holds (first / second) quotient ∧
      (0 < quotient ↔ 0 < (dividend : ℚ) / divisor) ∧
      (0 < quotient → ⌈quotient⌉ = ⌈(dividend : ℚ) / divisor⌉) := by
  by_cases none : dividend = 0
  · subst none
    rw [Int.cast_zero] at left ⊢
    rw [zero_div]
    have held := holds_zero_div first second divisor left right (by exact_mod_cast nonzero)
    exact ⟨0, held, Iff.rfl, fun less => absurd less (lt_irrefl 0)⟩
  · obtain ⟨nearest, unit, held, large, near⟩ :=
      holds_div first second dividend divisor left right none nonzero small narrow
    have unitPositive : (0 : ℚ) < 2 ^ unit := by positivity
    have magnitude : (0 : ℚ) < nearest * 2 ^ unit := by
      obtain ⟨below, -⟩ := abs_le.mp near
      exact mul_pos (by linarith) unitPositive
    rw [signed_div dividend divisor _ none nonzero] at held
    refine ⟨_, held, ?_, ?_⟩
    · split
      next positive => exact ⟨fun _ => positive, fun _ => magnitude⟩
      next other => exact ⟨fun above => absurd above (by linarith), fun above => absurd above other⟩
    · split
      next positive =>
        intro _
        have absolute : (dividend : ℚ) / divisor = dividend.natAbs / divisor.natAbs := by
          rw [Nat.cast_natAbs, Nat.cast_natAbs, Int.cast_abs, Int.cast_abs, ← abs_div,
            abs_of_pos positive]
        rw [absolute]
        exact ceil_of_nearest _ _ nearest unit (Int.natAbs_pos.mpr none)
          (Int.natAbs_pos.mpr nonzero) small large near
      next => exact fun above => absurd above (by linarith)

end RelationalLearning.Binary64
