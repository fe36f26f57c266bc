import Mathlib.Data.List.Nodup
import Mathlib.Data.List.Pairwise
import RelationalLearning.Proofs.Outcome
import RelationalLearning.Roles

namespace RelationalLearning.Roles

theorem repetitions_eq_nil (seen later : List (String × Role)) :
    repetitions seen later = [] ↔
      (later.map (·.1)).Nodup ∧ ∀ name ∈ later.map (·.1), seen.lookup name = none := by
  induction later generalizing seen with
  | nil => simp [repetitions]
  | cons entry later ih =>
      obtain ⟨name, role⟩ := entry
      cases before : seen.lookup name with
      | some first =>
          simp only [repetitions, before, reduceCtorEq, List.map_cons, List.forall_mem_cons,
            false_and, and_false]
      | none =>
          have apart : ∀ other, ((name, role) :: seen).lookup other = none ↔
              other ≠ name ∧ seen.lookup other = none := by
            intro other
            by_cases same : other = name
            · simp [same]
            · simp only [List.lookup_cons, beq_false_of_ne same, ne_eq, same, not_false_eq_true,
                true_and]
          simp only [repetitions, before, ih, apart, List.map_cons, List.nodup_cons,
            List.forall_mem_cons, true_and]
          constructor
          · rintro ⟨distinct, fresh⟩
            refine ⟨⟨fun member => (fresh name member).1 rfl, distinct⟩,
              fun other member => (fresh other member).2⟩
          · rintro ⟨⟨absent, distinct⟩, fresh⟩
            refine ⟨distinct, fun other member => ⟨?_, fresh other member⟩⟩
            rintro rfl
            exact absent member

theorem map_fst_assignments (roles : Roles) : roles.assignments.map (·.1) = roles.columns := by
  simp [assignments, columns, List.map_flatMap, Function.comp_def]

theorem validate_eq_ok (roles : Roles) : roles.validate = .ok () ↔ roles.columns.Nodup := by
  have none : repetitions [] roles.assignments = [] ↔ roles.columns.Nodup := by
    simp [repetitions_eq_nil, map_fst_assignments]
  rw [← none, validate]
  split
  next found => simp [found]
  next found =>
    have repeated : repetitions [] roles.assignments ≠ [] := found
    simp [repeated]

theorem nodup_columns (roles : Roles) : roles.columns.Nodup ↔
    (∀ role, (roles.names role).Nodup) ∧
    ∀ name first second, name ∈ roles.names first → name ∈ roles.names second → first = second := by
  have apart : Role.all.Nodup := by decide
  rw [columns, List.nodup_flatMap]
  refine and_congr ?_ ?_
  · exact ⟨fun each role => each role (Role.mem_all role), fun each role _ => each role⟩
  · constructor
    · intro disjoint name first second inFirst inSecond
      by_contra different
      have symmetric : Std.Symm (Function.onFun List.Disjoint roles.names) :=
        ⟨fun _ _ disjoint _ inSecond inFirst => disjoint inFirst inSecond⟩
      exact disjoint.forall (Role.mem_all first) (Role.mem_all second) different inFirst inSecond
    · intro single
      apply apart.imp
      intro first second different name inFirst inSecond
      exact different (single name first second inFirst inSecond)

theorem mem_names_of_role? (roles : Roles) (name : String) (role : Role)
    (found : roles.role? name = some role) : name ∈ roles.names role := by
  simpa using List.find?_some found

theorem role?_eq_some (roles : Roles) (valid : roles.validate = .ok ()) (name : String)
    (role : Role) : roles.role? name = some role ↔ name ∈ roles.names role := by
  obtain ⟨-, single⟩ := roles.nodup_columns.mp (roles.validate_eq_ok.mp valid)
  constructor
  · exact roles.mem_names_of_role? name role
  · intro member
    cases found : roles.role? name with
    | none => simpa [member] using List.find?_eq_none.mp found role (Role.mem_all role)
    | some other => rw [single name other role (roles.mem_names_of_role? name other found) member]

theorem role?_isSome (roles : Roles) (name : String) :
    (roles.role? name).isSome ↔ ∃ role, name ∈ roles.names role := by
  simp [role?, Role.mem_all]

theorem mem_presented (roles : Roles) (name : String) :
    name ∈ roles.presented ↔ (roles.role? name).isSome := by
  simp [presented, role?_isSome, Role.mem_presented]

theorem nodup_presented (roles : Roles) (distinct : roles.columns.Nodup) :
    roles.presented.Nodup := by
  have same : Role.presented.Perm Role.all := by decide
  exact (same.flatMap_right roles.names).nodup_iff.mpr distinct

theorem asStrings?_texts (values : List String) : (Json.texts values).asStrings? = some values := by
  have each : ∀ values : List String, (values.map Json.string).mapM Json.asString? =
      some values := by
    intro values
    induction values with
    | nil => rfl
    | cons value values ih => simp [Json.asString?, ih]
  exact each values

theorem fields?_toJson (roles : Roles) :
    roles.toJson.fields? rules = some (Role.all.map fun role => some (.texts (roles.names role))) :=
      rfl

theorem ofJson_toJson (roles : Roles) : ofJson roles.toJson = roles.checked := by
  have read : (Role.all.map fun role => some (Json.texts (roles.names role))).mapM
      (Json.orElse? Json.asStrings? []) =
      some (Role.all.map roles.names) := by
    simp [Role.all, Json.orElse?, asStrings?_texts]
  simp only [ofJson, fields?_toJson, Option.bind_eq_bind, Option.bind_some, read]
  rfl

end RelationalLearning.Roles
