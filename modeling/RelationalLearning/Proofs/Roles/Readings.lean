import RelationalLearning.Proofs.Index
import RelationalLearning.Proofs.Json.Covered
import RelationalLearning.Proofs.Roles

namespace RelationalLearning.Roles

structure Distinct (roles : Roles) : Prop where
  once : ∀ role, (roles.names role).Nodup
  alone : ∀ name first second,
    name ∈ roles.names first → name ∈ roles.names second → first = second

structure Consistent (roles : Roles) : Prop where
  once : roles.columns.Nodup
  aligned : roles.toList.length = roles.columns.length
  paired : ∀ name role,
    (name, role) ∈ roles.columns.zip roles.toList ↔ roles.role? name = some role
  sorted : roles.toMapping.Ordered
  mapped : ∀ name, roles.toMapping.lookup name = roles.role? name
  presented : roles.presented.Perm roles.columns
  contained : ∀ name, roles.contains name = true ↔ name ∈ roles.columns
  counted : roles.size = roles.columns.length

theorem distinct_iff (roles : Roles) : roles.Distinct ↔ roles.columns.Nodup := by
  rw [nodup_columns]
  exact ⟨fun distinct => ⟨distinct.once, distinct.alone⟩, fun ⟨once, alone⟩ => ⟨once, alone⟩⟩

theorem zip_traversals (roles : Roles) (order : List Role) :
    (order.flatMap roles.names).zip
        (order.flatMap fun role => List.replicate (roles.names role).length role) =
      order.flatMap fun role => (roles.names role).map fun name => (name, role) := by
  induction order with
  | nil => rfl
  | cons role order ih =>
      have bucket : (roles.names role).zip (List.replicate (roles.names role).length role) =
          (roles.names role).map fun name => (name, role) := by
        rw [← List.map_const', ← List.map_prod_left_eq_zip]
      simp only [List.flatMap_cons]
      rw [List.zip_append (by simp), bucket, ih]

theorem zip_toList (roles : Roles) : roles.columns.zip roles.toList = roles.assignments :=
  roles.zip_traversals Role.all

theorem mem_assignments (roles : Roles) (name : String) (role : Role) :
    (name, role) ∈ roles.assignments ↔ name ∈ roles.names role := by
  simp [assignments, Role.mem_all]

theorem mem_columns (roles : Roles) (name : String) :
    name ∈ roles.columns ↔ (roles.role? name).isSome := by
  simp [columns, role?_isSome, Role.mem_all]

theorem lookup_toMapping (roles : Roles) (valid : roles.validate = .ok ()) (name : String) :
    roles.toMapping.lookup name = roles.role? name := by
  have distinct : (Index.names roles.assignments.reverse).Nodup := by
    rw [Index.names, List.map_reverse, map_fst_assignments]
    exact List.nodup_reverse.mpr (roles.validate_eq_ok.mp valid)
  ext role
  rw [toMapping, Index.lookup_ofList, roles.role?_eq_some valid, ← mem_assignments,
    ← List.mem_reverse]
  exact ⟨Index.mem_of_lookup name role _, Index.lookup_of_mem name role _ distinct⟩

theorem consistent_of_distinct (roles : Roles) (distinct : roles.Distinct) : roles.Consistent := by
  have once := roles.distinct_iff.mp distinct
  have valid := roles.validate_eq_ok.mpr once
  have order : Role.presented.Perm Role.all := by decide
  refine ⟨once, ?_, ?_, Index.ordered_ofList roles.assignments, roles.lookup_toMapping valid,
    order.flatMap_right roles.names, ?_, ?_⟩
  · simp [toList, columns]
  · intro name role
    rw [zip_toList, mem_assignments, roles.role?_eq_some valid]
  · intro name
    rw [contains, mem_columns]
  · simp [size, columns, Role.all]

/--
Roles that name every column once survive being written out and read back, with the order of every
bucket, and all their readings agree; roles that name a column twice are refused.
-/
theorem roles_survive_export (roles : Roles) :
    (roles.Distinct → ofJson roles.toJson = .ok roles ∧ roles.Consistent) ∧
    (¬ roles.Distinct → ∃ reason, ofJson roles.toJson = .error (.value reason)) := by
  rw [ofJson_toJson]
  constructor
  · intro distinct
    have valid := roles.validate_eq_ok.mpr (roles.distinct_iff.mp distinct)
    exact ⟨by rw [checked, valid]; rfl, roles.consistent_of_distinct distinct⟩
  · intro repeated
    rw [distinct_iff, ← validate_eq_ok] at repeated
    cases outcome : roles.validate with
    | ok nothing => exact absurd outcome repeated
    | error cause =>
        obtain ⟨reason, rfl⟩ : ∃ reason, cause = .value reason := by
          unfold validate at outcome
          split at outcome
          next => cases outcome
          next => exact ⟨_, (Except.error.inj outcome).symm⟩
        exact ⟨reason, by rw [checked, outcome]; rfl⟩

end RelationalLearning.Roles
