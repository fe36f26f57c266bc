import Mathlib

namespace RelationalLearning.Binary64

theorem eq_zero_of_beq (value : Float) (equal : (value == 0.0) = true) (positive : value ≠ -0.0) :
    value = 0.0 := by
  have zero : (0.0 : Float) = 0 := by decide
  have negative : (-0.0 : Float) = -0 := by decide
  have nonzero : (0 : Float) ≠ -0 := by decide
  rw [zero] at equal
  rw [negative] at positive
  obtain ⟨-, -, same | ⟨-, same⟩ | ⟨same, -⟩⟩ := Float.beq_iff_ne_nan_and_eq.mp equal
  · rw [same, zero]
  · exact absurd same nonzero
  · exact absurd same positive

end RelationalLearning.Binary64
