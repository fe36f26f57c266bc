import RelationalLearning.Proofs.Binary64.Addition

namespace RelationalLearning.Binary64

open Float.Model (Format)
open Float.Model.UnpackedFloat

theorem ofNat_large (number : Nat) (large : 2 ^ 53 ≤ number) (fits : number < 2 ^ 64) :
    ∃ (rounded : Nat) (last : Int) (positive : 0 < rounded),
      Float.ofNat number = .ofModel (.pack (.finite .positive rounded last positive)) ∧
      rounded.log2 = 52 ∧ 1 ≤ last ∧ last ≤ 971 := by
  have positive : 0 < number := by omega
  have low : 53 ≤ number.log2 := (Nat.le_log2 (by omega)).mpr large
  have high : number.log2 < 64 := (Nat.log2_lt (by omega)).mpr fits
  have digits : (number <<< 53).log2 = 52 + (number.log2 + 1) := by
    rw [log2_shiftLeft number 53 positive]
    omega
  obtain ⟨rounded, last, nonzero, nearest, same, kept, atLeast, atMost, -⟩ :=
    roundWithAccuracy_nearest .positive (number <<< 53) (0 + -53) .exact (number <<< 53 : Nat)
      (number.log2 + 1) digits (by omega) (.whole _ _ rfl)
  refine ⟨rounded, last, nonzero, ?_, kept, by omega, by omega⟩
  have slow : Float.ofNat number =
      .ofModel (.pack (Float.Model.UnpackedFloat.ofScientific Format.binary64 number 0)) := by
    unfold Float.ofNat
    exact dif_neg fun quick => absurd quick.1 (by omega)
  have bits : Format.binary64.mantissaBits = 53 := rfl
  have signs : (.positive * .positive : Sign) = .positive := rfl
  have product : Float.Model.UnpackedFloat.ofScientific Format.binary64 number 0 =
      roundWithAccuracy Format.binary64 .positive (number <<< 53) (0 + -53) .exact := by
    simp only [Float.Model.UnpackedFloat.ofScientific]
    rw [dif_neg (by omega), if_neg (by decide), if_neg (by omega), if_pos (by decide)]
    simp only [mul, bits, signs, Int.toNat_zero, Nat.pow_zero, Nat.mul_one, Int.add_zero,
      Int.zero_add, Int.cast_ofNat_Int]
  rw [slow, product, ← same]

theorem number?_ofNat_large (number : Nat) (large : 2 ^ 53 ≤ number) (fits : number < 2 ^ 64) :
    ∃ rounded, number? (Float.ofNat number) = some rounded ∧ 2 ^ 53 ≤ rounded := by
  obtain ⟨rounded, last, positive, same, digits, low, high⟩ := ofNat_large number large fits
  have held := number?_pack .positive rounded last positive (.inl ⟨digits, by omega, high⟩)
  have first := zpow_le_of_log2 rounded last positive
  have large : (2 : ℚ) ^ (53 : Int) ≤ 2 ^ (last + rounded.log2) :=
    zpow_le_zpow_right₀ (by norm_num) (by omega)
  exact ⟨_, same ▸ held, le_trans large first⟩

end RelationalLearning.Binary64
