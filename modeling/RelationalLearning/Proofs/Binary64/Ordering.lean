import RelationalLearning.Pipeline.Figure
import RelationalLearning.Proofs.Binary64.Packing
import RelationalLearning.Proofs.Binary64.Special

namespace RelationalLearning.Binary64

open Float.Model (Format UnpackedFloat)
open Float.Model.UnpackedFloat

/-- A size with its sign. Below zero it counts from one, as there are two zeros. -/
def place : Sign → Int → Int
  | .positive, size => size
  | .negative, size => -1 - size

def placeOf : UnpackedFloat → Int
  | .notANumber => 0
  | .infinity sign => place sign (2047 * 2 ^ 52)
  | .zero sign => place sign 0
  | .finite sign mantissa exponent _ => place sign ((exponent + 1074) * 2 ^ 52 + mantissa)

theorem toNat_unpackSign (value : Float) :
    (@unpackSign Format.binary64 value.toModel.toBits.toBitVec).toNat =
      value.toBits.toNat / Nat.pow 2 63 := by
  have small : value.toBits.toNat / Nat.pow 2 63 < 2 :=
    Nat.div_lt_of_lt_mul value.toBits.toNat_lt
  rw [unpackSign, BitVec.toNat_cast, BitVec.extractLsb_toNat, Nat.shiftRight_eq_div_pow]
  exact Nat.mod_eq_of_lt small

theorem toNat_size (value : Float) :
    value.toBits.toNat % Nat.pow 2 63 =
      2 ^ 52 * (@unpackExponent Format.binary64 value.toModel.toBits.toBitVec).toNat +
        (@unpackMantissa Format.binary64 value.toModel.toBits.toBitVec).toNat := by
  rw [toNat_unpackExponent, toNat_unpackMantissa]
  change _ % 9223372036854775808 = 4503599627370496 * (_ / 4503599627370496 % 2048) +
    _ % 4503599627370496
  omega

theorem rank_eq_place (value : Float) :
    Figure.rank (.number value) =
      place (.ofBitVec (@unpackSign Format.binary64 value.toModel.toBits.toBitVec))
        (value.toBits.toNat % Nat.pow 2 63 : Nat) := by
  have upper := value.toBits.toNat_lt
  have sign := toNat_unpackSign value
  rw [Figure.rank, Sign.ofBitVec]
  by_cases positive : value.toBits.toNat < Nat.pow 2 63
  · have plus : @unpackSign Format.binary64 value.toModel.toBits.toBitVec = 0#1 :=
      BitVec.eq_of_toNat_eq (sign.trans (Nat.div_eq_of_lt positive))
    rw [if_pos positive, if_pos plus, place, Nat.mod_eq_of_lt positive]
  · have minus : @unpackSign Format.binary64 value.toModel.toBits.toBitVec ≠ 0#1 := by
      intro plus
      rw [plus] at sign
      exact positive (Nat.lt_of_div_eq_zero (by decide) sign.symm)
    rw [if_neg positive, if_neg minus, place]
    change ((9223372036854775808 : Nat) : Int) - 1 - _ =
      -1 - ((value.toBits.toNat % 9223372036854775808 : Nat) : Int)
    change ¬ value.toBits.toNat < 9223372036854775808 at positive
    omega

theorem rank_number (value : Float) (number : value.isNaN = false) :
    Figure.rank (.number value) = placeOf value.toModel.unpack := by
  change value.toModel.unpack.isNaN = false at number
  rw [rank_eq_place, toNat_size]
  unfold Float.Model.unpack unpack at number ⊢
  dsimp only at number ⊢
  split
  next last =>
    split
    next empty =>
      rw [last, empty]
      rfl
    next filled =>
      rw [if_pos last, if_neg filled] at number
      cases number
  next =>
    split
    next subnormal =>
      split
      next empty =>
        rw [subnormal, empty]
        rfl
      next =>
        rw [placeOf, subnormal, exponentBias_eq]
        congr 1
    next normal =>
      rw [placeOf, toNat_implicit, exponentBias_eq]
      congr 1
      change _ = (_ - (1023 + 52) + 1074) * 2 ^ 52 + ((2 ^ 52 + _ : Nat) : Int)
      push_cast
      omega

theorem bounds_of_unpack (value : Float) (sign : Sign) (mantissa : Nat) (exponent : Int)
    (positive : 0 < mantissa)
    (unpacked : value.toModel.unpack = .finite sign mantissa exponent positive) :
    -1074 ≤ exponent ∧ exponent ≤ 971 ∧ mantissa < 2 ^ 53 ∧
      (exponent = -1074 ∨ 2 ^ 52 ≤ mantissa) := by
  rcases digits_of_unpack value sign mantissa exponent positive unpacked with
    ⟨digits, low, high⟩ | ⟨short, lowest⟩
  · obtain ⟨least, most⟩ := (Nat.log2_eq_iff (Nat.ne_of_gt positive)).mp digits
    exact ⟨low, high, most, .inr least⟩
  · omega

/-- The larger exponent has the larger size, as only the smallest exponent leaves digits out. -/
theorem compare_size (first second : Float) (sign other : Sign) (mantissa digits : Nat)
    (exponent power : Int) (positive : 0 < mantissa) (some : 0 < digits)
    (left : first.toModel.unpack = .finite sign mantissa exponent positive)
    (right : second.toModel.unpack = .finite other digits power some) :
    compare ((exponent + 1074) * 2 ^ 52 + (mantissa : Int)) ((power + 1074) * 2 ^ 52 + digits) =
      (compare exponent power).then (compare mantissa digits) := by
  obtain ⟨low, -, most, least⟩ := bounds_of_unpack first _ _ _ _ left
  obtain ⟨bottom, -, top, full⟩ := bounds_of_unpack second _ _ _ _ right
  rcases lt_trichotomy exponent power with less | rfl | greater
  · rw [compare_lt_iff_lt.mpr less, Ordering.lt_then, compare_lt_iff_lt]
    omega
  · rw [compare_eq_iff_eq.mpr rfl, Ordering.eq_then]
    rcases lt_trichotomy mantissa digits with less | rfl | greater
    · rw [compare_lt_iff_lt.mpr less, compare_lt_iff_lt]
      omega
    · rw [compare_eq_iff_eq.mpr rfl, compare_eq_iff_eq.mpr rfl]
    · rw [compare_gt_iff_gt.mpr greater, compare_gt_iff_gt]
      omega
  · rw [compare_gt_iff_gt.mpr greater, Ordering.gt_then, compare_gt_iff_gt]
    omega

theorem size_bounds (value : Float) (sign : Sign) (mantissa : Nat) (exponent : Int)
    (positive : 0 < mantissa)
    (unpacked : value.toModel.unpack = .finite sign mantissa exponent positive) :
    0 < (exponent + 1074) * 2 ^ 52 + (mantissa : Int) ∧
      (exponent + 1074) * 2 ^ 52 + (mantissa : Int) < 2047 * 2 ^ 52 := by
  obtain ⟨low, high, most, -⟩ := bounds_of_unpack value sign mantissa exponent positive unpacked
  omega

theorem some_lt_compare {first second : Int} (less : first < second) :
    some .lt = some (compare first second) := congrArg some (compare_lt_iff_lt.mpr less).symm

theorem some_gt_compare {first second : Int} (greater : second < first) :
    some .gt = some (compare first second) := congrArg some (compare_gt_iff_gt.mpr greater).symm

theorem compare_place (sign other : Sign) (first second : Int) (positive : 0 < first)
    (also : 0 < second) :
    compare (place sign first) (place other second) =
      match sign, other with
      | .positive, .positive => compare first second
      | .negative, .negative => (compare first second).swap
      | .positive, .negative => .gt
      | .negative, .positive => .lt := by
  cases sign <;> cases other <;> simp only [place]
  · rcases lt_trichotomy first second with less | rfl | greater
    · rw [compare_lt_iff_lt.mpr less]
      exact compare_gt_iff_gt.mpr (by omega)
    · rw [compare_eq_iff_eq.mpr rfl, compare_eq_iff_eq.mpr rfl]
      rfl
    · rw [compare_gt_iff_gt.mpr greater]
      exact compare_lt_iff_lt.mpr (by omega)
  · exact compare_lt_iff_lt.mpr (by omega)
  · exact compare_gt_iff_gt.mpr (by omega)

theorem placeOf_bounds (value : Float) (sign : Sign) (mantissa : Nat) (exponent : Int)
    (positive : 0 < mantissa)
    (unpacked : value.toModel.unpack = .finite sign mantissa exponent positive) :
    placeOf (.infinity .negative) < placeOf (.finite sign mantissa exponent positive) ∧
      placeOf (.finite sign mantissa exponent positive) < placeOf (.infinity .positive) ∧
      match sign with
      | .positive => placeOf (.zero .positive) < placeOf (.finite sign mantissa exponent positive)
      | .negative =>
          placeOf (.finite sign mantissa exponent positive) < placeOf (.zero .negative) := by
  obtain ⟨least, most⟩ := size_bounds value sign mantissa exponent positive unpacked
  cases sign <;> simp only [placeOf, place] <;> omega

theorem placeOf_zero_bounds (sign : Sign) :
    placeOf (.zero .negative) ≤ placeOf (.zero sign) ∧
      placeOf (.zero sign) ≤ placeOf (.zero .positive) := by
  cases sign <;> decide

theorem compare_infinity (sign : Sign) (second : Float) (number : second.isNaN = false) :
    (UnpackedFloat.infinity sign).compare second.toModel.unpack =
      some (compare (placeOf (.infinity sign)) (placeOf second.toModel.unpack)) := by
  change second.toModel.unpack.isNaN = false at number
  cases right : second.toModel.unpack with
  | notANumber =>
      rw [right] at number
      cases number
  | infinity other | zero other => cases sign <;> cases other <;> rfl
  | finite other digits power nonzero =>
      obtain ⟨lower, upper, -⟩ := placeOf_bounds second other digits power nonzero right
      cases sign with
      | positive => exact some_gt_compare upper
      | negative => exact some_lt_compare lower

theorem compare_zero_other (sign : Sign) (second : Float) (number : second.isNaN = false) :
    (UnpackedFloat.zero sign).compare second.toModel.unpack =
        some (compare (placeOf (.zero sign)) (placeOf second.toModel.unpack)) ∨
      ∃ other, second.toModel.unpack = .zero other := by
  change second.toModel.unpack.isNaN = false at number
  have zeros := placeOf_zero_bounds sign
  cases right : second.toModel.unpack with
  | notANumber =>
      rw [right] at number
      cases number
  | infinity other => cases sign <;> cases other <;> exact .inl rfl
  | zero other => exact .inr ⟨other, rfl⟩
  | finite other digits power nonzero =>
      obtain ⟨-, -, side⟩ := placeOf_bounds second other digits power nonzero right
      cases other with
      | positive => exact .inl (some_lt_compare (zeros.2.trans_lt side))
      | negative => exact .inl (some_gt_compare (side.trans_le zeros.1))

theorem compare_finite (first second : Float) (sign : Sign) (mantissa : Nat) (exponent : Int)
    (positive : 0 < mantissa)
    (left : first.toModel.unpack = .finite sign mantissa exponent positive)
    (number : second.isNaN = false) :
    (UnpackedFloat.finite sign mantissa exponent positive).compare second.toModel.unpack =
      some (compare (placeOf (.finite sign mantissa exponent positive))
        (placeOf second.toModel.unpack)) := by
  change second.toModel.unpack.isNaN = false at number
  obtain ⟨lower, upper, side⟩ := placeOf_bounds first sign mantissa exponent positive left
  cases right : second.toModel.unpack with
  | notANumber =>
      rw [right] at number
      cases number
  | infinity other =>
      cases other with
      | positive => cases sign <;> exact some_lt_compare upper
      | negative => cases sign <;> exact some_gt_compare lower
  | zero other =>
      have zeros := placeOf_zero_bounds other
      cases sign with
      | positive => exact some_gt_compare (zeros.2.trans_lt side)
      | negative => exact some_lt_compare (side.trans_le zeros.1)
  | finite other digits power nonzero =>
      obtain ⟨least, -⟩ := size_bounds first sign mantissa exponent positive left
      obtain ⟨lowest, -⟩ := size_bounds second other digits power nonzero right
      have sizes := compare_size first second sign other mantissa digits exponent power
        positive nonzero left right
      rw [placeOf, placeOf, compare_place _ _ _ _ least lowest, sizes]
      cases sign <;> cases other <;> rfl

theorem compare_placeOf (first second : Float) (number : first.isNaN = false)
    (also : second.isNaN = false) :
    first.toModel.unpack.compare second.toModel.unpack =
        some (compare (placeOf first.toModel.unpack) (placeOf second.toModel.unpack)) ∨
      ∃ sign other, first.toModel.unpack = .zero sign ∧ second.toModel.unpack = .zero other := by
  change first.toModel.unpack.isNaN = false at number
  cases left : first.toModel.unpack with
  | notANumber =>
      rw [left] at number
      cases number
  | infinity sign => exact .inl (compare_infinity sign second also)
  | zero sign =>
      rcases compare_zero_other sign second also with places | ⟨other, right⟩
      · exact .inl places
      · exact .inr ⟨sign, other, rfl, right⟩
  | finite sign mantissa exponent positive =>
      exact .inl (compare_finite first second sign mantissa exponent positive left also)

theorem isNaN_of_compare (first second : Float) (order : Ordering)
    (compared : first.toModel.unpack.compare second.toModel.unpack = some order) :
    first.isNaN = false ∧ second.isNaN = false := by
  change first.toModel.unpack.isNaN = false ∧ second.toModel.unpack.isNaN = false
  cases left : first.toModel.unpack with
  | notANumber =>
      rw [left] at compared
      cases compared
  | infinity sign | zero sign | finite sign =>
      cases right : second.toModel.unpack with
      | notANumber =>
          rw [left, right] at compared
          cases sign <;> cases compared
      | infinity | zero | finite => exact ⟨rfl, rfl⟩

theorem rank_lt_of_lt (first second : Float) (less : first < second) :
    Figure.rank (.number first) < Figure.rank (.number second) := by
  rw [lt_iff_unpacked, Float.Model.UnpackedFloat.lt, beq_iff_eq] at less
  obtain ⟨number, also⟩ := isNaN_of_compare first second .lt less
  rw [rank_number first number, rank_number second also]
  rcases compare_placeOf first second number also with same | ⟨sign, other, left, right⟩
  · rw [same] at less
    exact compare_lt_iff_lt.mp (Option.some.inj less)
  · rw [left, right] at less
    cases less

theorem rank_eq_of_beq (first second : Float) (same : (first == second) = true)
    (told : (first == 0.0) = true → first = second) :
    Figure.rank (.number first) = Figure.rank (.number second) := by
  change first.toModel.unpack.beq second.toModel.unpack = true at same
  rw [Float.Model.UnpackedFloat.beq, beq_iff_eq] at same
  obtain ⟨number, also⟩ := isNaN_of_compare first second .eq same
  rcases compare_placeOf first second number also with places | ⟨sign, other, left, -⟩
  · rw [rank_number first number, rank_number second also]
    rw [places] at same
    exact compare_eq_iff_eq.mp (Option.some.inj same)
  · have zero : (first == 0.0) = true := by
      change first.toModel.unpack.beq (0.0 : Float).toModel.unpack = true
      rw [left]
      rfl
    rw [told zero]

theorem rank_bounds (value : Float) :
    Figure.rank (.missing true) < Figure.rank (.number value) ∧
      Figure.rank (.number value) < Figure.rank (.missing false) := by
  have upper : value.toBits.toNat < 18446744073709551616 := value.toBits.toNat_lt
  simp only [Figure.rank]
  change -((18446744073709551616 : Nat) : Int) < _ ∧ _ < ((18446744073709551616 : Nat) : Int)
  split
  next => omega
  next negative =>
    change _ < ((9223372036854775808 : Nat) : Int) - 1 - _ ∧
      ((9223372036854775808 : Nat) : Int) - 1 - _ < _
    omega

end RelationalLearning.Binary64
