import RelationalLearning.Column.Cast

namespace RelationalLearning

def Role.family (role : Role) : Family := if role.isNumerical then .float else .string

theorem Role.family_eq_float (role : Role) : role.family = .float ↔ role.isNumerical = true := by
  cases role <;> decide

theorem Role.family_of_other (role : Role) (other : role.isNumerical ≠ true) :
    role.family = .string := by
  rw [Role.family, if_neg other]

namespace Column

@[simp]
theorem family_view (family : Family) (operator : Operator) (operands : Operands)
    (detail : Detail) : (Column.view family operator operands detail).family = family := by
  cases family <;> rfl

theorem family_asText (column : Column) : column.asText.family = .string := by
  unfold asText
  split
  next same => exact same
  next => rfl

theorem family_asNumber (column : Column) : column.asNumber.family = .float := by
  unfold asNumber
  split
  next same => exact same
  next => rfl
  next => rfl

theorem family_castFor (column : Column) (role : Role) (formats : List String) :
    (column.castFor role formats).family = role.family := by
  unfold castFor
  split
  next categorical =>
    rw [family_asText]
    exact (role.family_of_other (by simp [Role.isNumerical, categorical])).symm
  next numerical =>
    have float : role.family = .float :=
      role.family_eq_float.mpr (by simpa [Role.isNumerical] using numerical)
    rw [float]
    split
    next =>
      split
      next => rfl
      next => exact column.family_asNumber
    next => exact column.family_asNumber

theorem family_withUnit (column : Column) (unit : String) :
    (column.withUnit unit).family = column.family := by
  unfold withUnit
  split
  next same => rw [same, family_view]
  next same => rw [same, family_view]
  next => rfl

theorem family_withSubroles (column : Column) (subroles : List String)
    (valid : Subrole.validate subroles = .ok ()) :
    ∃ marked, column.withSubroles subroles = .ok marked ∧ marked.family = column.family := by
  unfold withSubroles
  rw [valid]
  split
  next same => exact ⟨_, rfl, by rw [same, family_view]⟩
  next same => exact ⟨_, rfl, by rw [same, family_view]⟩
  next => exact ⟨_, rfl, rfl⟩

theorem family_subselect (column : Column) (rows : Operand) :
    (column.subselect rows).family = column.family := by
  simp [subselect, combine]

end Column
end RelationalLearning
