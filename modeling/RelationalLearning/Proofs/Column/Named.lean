import Mathlib.Data.List.Nodup
import RelationalLearning.Column.Operator
import RelationalLearning.Role

namespace RelationalLearning

namespace Operator

def all : List Operator :=
  functions ++ arithmetic ++ orderings ++
    [.numEqualTo, .numNotEqualTo, .isInf, .isNan, .asStr, .asNum, .asTs, .booleanAsNum, .concat,
      .contains, .substr, .strEqualTo, .strNotEqualTo, .isNull, .boolEqualTo, .boolNotEqualTo, .and,
      .or, .xor, .not, .numUpdate, .strUpdate, .numWithSubroles, .strWithSubroles, .numWithUnit,
      .strWithUnit, .numSubselection, .strSubselection, .boolSubselection, .const, .arange, .rowid,
      .random]

theorem mem_all (operator : Operator) : operator ∈ all := by cases operator <;> decide

theorem name_injective (left right : Operator) (same : left.name = right.name) : left = right := by
  have distinct : (all.map name).Nodup := by decide +kernel
  exact List.inj_on_of_nodup_map distinct (mem_all left) (mem_all right) same

theorem named?_of_mem (operators : List Operator) (operator : Operator)
    (present : operator ∈ operators) : named? operators operator.name = some operator := by
  have found : (named? operators operator.name).isSome :=
    List.find?_isSome.mpr ⟨operator, present, by simp⟩
  obtain ⟨other, same⟩ := Option.isSome_iff_exists.mp found
  have named : other.name = operator.name := by simpa using List.find?_some same
  rw [same, name_injective other operator named]

end Operator

theorem Role.name_injective (first second : Role) (same : first.name = second.name) :
    first = second := by
  have distinct : (Role.all.map Role.name).Nodup := by decide
  exact List.inj_on_of_nodup_map distinct (Role.mem_all first) (Role.mem_all second) same

theorem ColumnKind.name_injective (first second : ColumnKind) (same : first.name = second.name) :
    first = second := by
  have distinct : ([ColumnKind.floatColumn, .floatView, .stringColumn, .stringView,
      .booleanView].map ColumnKind.name).Nodup := by decide
  exact List.inj_on_of_nodup_map distinct (by cases first <;> decide) (by cases second <;> decide)
    same

theorem Family.view_injective (first second : Family) (same : first.view = second.view) :
    first = second := by
  cases first <;> cases second <;> first | rfl | exact absurd same (by decide)

end RelationalLearning
