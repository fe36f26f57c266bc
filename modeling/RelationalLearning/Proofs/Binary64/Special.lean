import RelationalLearning.Proofs.Binary64.Ceiling

namespace RelationalLearning.Binary64

theorem le_iff_unpacked (first second : Float) :
    first ≤ second ↔ first.toModel.unpack.le second.toModel.unpack = true := by
  change decide (first.toModel ≤ second.toModel) = true ↔ _
  rw [decide_eq_true_iff]
  rfl

theorem unpack_of_not_finite (value : Float) (infinite : value.isFinite = false) :
    value.toModel.unpack = .notANumber ∨ ∃ sign, value.toModel.unpack = .infinity sign := by
  change value.toModel.unpack.isFinite = false at infinite
  cases unpacked : value.toModel.unpack with
  | notANumber => exact .inl rfl
  | infinity sign => exact .inr ⟨sign, rfl⟩
  | zero sign => rw [unpacked] at infinite; cases infinite
  | finite sign mantissa exponent nonzero => rw [unpacked] at infinite; cases infinite

theorem isFinite_of_isNaN (value : Float) (missing : value.isNaN = true) :
    value.isFinite = false := by
  change value.toModel.unpack.isNaN = true at missing
  change value.toModel.unpack.isFinite = false
  cases unpacked : value.toModel.unpack with
  | notANumber => rfl
  | _ => rw [unpacked] at missing; cases missing

theorem isFinite_of_isInf (value : Float) (endless : value.isInf = true) :
    value.isFinite = false := by
  change value.toModel.unpack.isInf = true at endless
  change value.toModel.unpack.isFinite = false
  cases unpacked : value.toModel.unpack with
  | infinity sign => rfl
  | _ => rw [unpacked] at endless; cases endless

theorem unpack_of_infinite (value : Float) (infinite : value.isFinite = false)
    (number : value.isNaN = false) (positive : ¬ value < 0.0) :
    value.toModel.unpack = .infinity .positive := by
  change value.toModel.unpack.isNaN = false at number
  rw [lt_iff_unpacked, unpack_zero] at positive
  rcases unpack_of_not_finite value infinite with unpacked | ⟨sign, unpacked⟩
  · rw [unpacked] at number
    cases number
  · cases sign with
    | positive => exact unpacked
    | negative => rw [unpacked] at positive; exact absurd rfl positive

theorem isInf_of_infinite (value : Float) (infinite : value.isFinite = false)
    (number : value.isNaN = false) (positive : ¬ value < 0.0) :
    value.isInf = true ∧ 0.0 < value := by
  have unpacked := unpack_of_infinite value infinite number positive
  constructor
  · change value.toModel.unpack.isInf = true
    rw [unpacked]
    rfl
  · rw [lt_iff_unpacked, unpacked]
    rfl

theorem isNaN_of_between (value : Float) (infinite : value.isFinite = false)
    (low : ¬ value < 0.0) (high : ¬ 1.0 < value) : value.isNaN = true := by
  change value.toModel.unpack.isNaN = true
  rw [lt_iff_unpacked] at low high
  rcases unpack_of_not_finite value infinite with unpacked | ⟨sign, unpacked⟩
  · rw [unpacked]
    rfl
  · cases sign with
    | positive => rw [unpacked] at high; exact absurd rfl high
    | negative => rw [unpacked] at low; exact absurd rfl low

/-- Also for values that compare with nothing, what is not up to zero is not below it. -/
theorem not_lt_of_not_le (value : Float) (infinite : value.isFinite = false)
    (positive : ¬ value ≤ 0.0) : ¬ value < 0.0 := by
  rw [le_iff_unpacked, unpack_zero] at positive
  rw [lt_iff_unpacked, unpack_zero]
  rcases unpack_of_not_finite value infinite with unpacked | ⟨sign, unpacked⟩
  · rw [unpacked]
    decide
  · cases sign with
    | positive => rw [unpacked]; decide
    | negative => rw [unpacked] at positive; exact absurd rfl positive

theorem zero_lt_iff_bne (value : Float) (number : value.isNaN = false)
    (positive : ¬ value < 0.0) : 0.0 < value ↔ (value != 0.0) = true := by
  change value.toModel.unpack.isNaN = false at number
  rw [lt_iff_unpacked, unpack_zero] at positive ⊢
  change _ ↔ (!value.toModel.unpack.beq (0.0 : Float).toModel.unpack) = true
  rw [unpack_zero]
  cases unpacked : value.toModel.unpack with
  | notANumber => rw [unpacked] at number; cases number
  | infinity sign =>
      cases sign with
      | positive => decide
      | negative => rw [unpacked] at positive; exact absurd rfl positive
  | zero sign => cases sign <;> decide
  | finite sign mantissa exponent nonzero =>
      cases sign with
      | positive => exact iff_of_true rfl rfl
      | negative => rw [unpacked] at positive; exact absurd rfl positive

end RelationalLearning.Binary64
