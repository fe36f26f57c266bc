import Mathlib.Data.List.Basic
import RelationalLearning.Json.Basic

namespace RelationalLearning.Json

theorem number_injective (left right : Float) (finite : left.isFinite = true)
    (same : number left = number right) : left = right := by
  unfold number at same
  rw [if_pos finite] at same
  split at same
  next => exact Json.float.inj same
  next => cases same

theorem number_eq_null (value : Float) : number value = .null ↔ value.isFinite = false := by
  cases finite : value.isFinite <;> simp [number, finite]

theorem texts_injective (left right : List String) (same : texts left = texts right) :
    left = right :=
  List.map_injective_iff.mpr (fun _ _ => Json.string.inj) (Json.array.inj same)

theorem nat_injective (left right : Nat) (same : nat left = nat right) : left = right :=
  Int.ofNat.inj (Json.int.inj same)

end RelationalLearning.Json
