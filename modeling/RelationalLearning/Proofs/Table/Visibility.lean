import RelationalLearning.Proofs.Column.Family
import RelationalLearning.Proofs.Roles
import RelationalLearning.Table.Basic

/-!
What can be seen of a view. The roles and the columns of views of views are found by different
walks, and both give every name to the uppermost layer that says anything about it.
-/

namespace RelationalLearning

/-- The column is stored as its role says, and carries no unknown marks. -/
structure AddedColumn.Proper (added : AddedColumn) : Prop where
  family : added.column.family = added.role.family
  subroles : Subrole.validate added.subroles = .ok ()

namespace Layer

def addedAs (layer : Layer) (name : String) : Option AddedColumn :=
  layer.added.filter fun added => added.name = name

def Proper (layer : Layer) : Prop :=
  ∀ added ∈ layer.added, added.Proper ∧ added.name ∉ layer.dropped

theorem mem_visible (layer : Layer) (role : Role) (names : List String) (name : String) :
    name ∈ layer.visible role names ↔
      match layer.addedAs name with
      | some added => added.role = role
      | none => name ∈ names ∧ name ∉ layer.dropped := by
  unfold visible addedAs
  cases layer.added with
  | none => simp
  | some added =>
      rw [Option.filter_some]
      by_cases same : added.name = name
      · by_cases fits : added.role = role
        · by_cases kept : name ∈ names ∧ name ∉ layer.dropped <;> simp [same, fits, kept]
        · simp [same, fits]
      · have apart : name ≠ added.name := fun equal => same equal.symm
        by_cases fits : added.role = role
        · by_cases kept : added.name ∈ names ∧ added.name ∉ layer.dropped
            <;> simp [same, fits, kept, apart]
        · simp [same, fits, apart]

theorem nodup_visible (layer : Layer) (role : Role) (names : List String) (distinct : names.Nodup) :
    (layer.visible role names).Nodup := by
  have kept : (names.filter fun name => !layer.dropped.contains name).Nodup := distinct.filter _
  unfold visible
  cases layer.added with
  | none => exact kept
  | some added =>
      dsimp only
      split
      next => exact kept.filter _
      next =>
        split
        next => exact kept
        next absent =>
          apply kept.append (List.nodup_singleton _)
          intro name member single
          obtain rfl := List.mem_singleton.mp single
          exact absent (List.contains_iff_mem.mpr member)

theorem mem_names_roles (layer : Layer) (base : Roles) (role : Role) (name : String) :
    name ∈ (layer.roles base).names role ↔
      match layer.addedAs name with
      | some added => added.role = role
      | none => name ∈ base.names role ∧ name ∉ layer.dropped := by
  rw [roles, Roles.names_ofBuckets, mem_visible]

theorem validate_roles (layer : Layer) (base : Roles) (valid : base.validate = .ok ()) :
    (layer.roles base).validate = .ok () := by
  obtain ⟨distinct, single⟩ := base.nodup_columns.mp (base.validate_eq_ok.mp valid)
  rw [Roles.validate_eq_ok, Roles.nodup_columns]
  constructor
  · intro role
    rw [roles, Roles.names_ofBuckets]
    exact layer.nodup_visible role _ (distinct role)
  · intro name first second inFirst inSecond
    rw [mem_names_roles] at inFirst inSecond
    cases shown : layer.addedAs name with
    | some added =>
        rw [shown] at inFirst inSecond
        exact inFirst.symm.trans inSecond
    | none =>
        rw [shown] at inFirst inSecond
        exact single name first second inFirst.1 inSecond.1

theorem role?_roles (layer : Layer) (base : Roles) (valid : base.validate = .ok ())
    (name : String) :
    (layer.roles base).role? name =
      match layer.addedAs name with
      | some added => some added.role
      | none => if name ∈ layer.dropped then none else base.role? name := by
  ext role
  rw [Roles.role?_eq_some _ (layer.validate_roles base valid), mem_names_roles]
  split
  next added => simp
  next =>
    split
    next dropped => simp [dropped]
    next present => simp [present, Roles.role?_eq_some base valid]

theorem family_restrict (layer : Layer) (column : Column) :
    (layer.restrict column).family = column.family := by
  unfold restrict
  split
  next rows _ => exact column.family_subselect (.column rows)
  next => rfl

end Layer

namespace DataFrame

variable (frame : DataFrame) (reply : Json)

theorem withReply_eq_ok (changed : DataFrame) : frame.withReply reply = .ok changed ↔
    ∃ roles valid, Roles.ofJson reply = .ok roles ∧ changed = { frame with roles, valid } := by
  unfold withReply
  split
  next cause read => simp [read]
  next roles read =>
    have valid := Roles.validate_of_ofJson reply roles read
    simp [read, valid, eq_comm]

theorem withReply_eq_error (cause : DataError) :
    frame.withReply reply = .error cause ↔ Roles.ofJson reply = .error cause := by
  unfold withReply
  split
  next reason read => simp [read]
  next roles read => simp [read]

end DataFrame

namespace Table

def Proper : Table → Prop
  | .frame _ => True
  | .view base layer => base.Proper ∧ layer.Proper

theorem validate_roles (table : Table) : table.roles.validate = .ok () := by
  induction table with
  | frame data => exact data.valid
  | view base layer ih => exact layer.validate_roles base.roles ih

theorem checkNames_eq_ok (table : Table) (names : List String) :
    table.checkNames names = .ok () ↔ ∀ name ∈ names, name ∈ table.columnNames := by
  have listed : (names.find? fun name => !table.columnNames.contains name) = none ↔
      ∀ name ∈ names, name ∈ table.columnNames := by simp
  rw [← listed, checkNames]
  cases names.find? fun name => !table.columnNames.contains name <;> simp

theorem column_view (base : Table) (layer : Layer) (name : String) :
    (Table.view base layer).column name =
      if name ∈ layer.dropped then
        .error (.key s!"Cannot retrieve column '{name}'. It has been dropped.")
      else
        match layer.addedAs name with
        | some added =>
          (added.column.withSubroles added.subroles).map fun column =>
            layer.restrict (column.withUnit added.unit)
        | none => (base.column name).map layer.restrict := by
  rw [Table.column]
  by_cases dropped : name ∈ layer.dropped
  · simp only [dropped, List.contains_iff_mem, if_true]
    rfl
  · simp only [dropped, List.contains_iff_mem, if_false]
    change (match layer.addedAs name with | some added => _ | none => _) = _
    cases layer.addedAs name with
    | some added => cases added.column.withSubroles added.subroles <;> rfl
    | none => cases base.column name <;> rfl

theorem column_of_role (table : Table) (proper : table.Proper) (name : String) (role : Role)
    (found : table.roles.role? name = some role) :
    ∃ column, table.column name = .ok column ∧ column.family = role.family := by
  induction table with
  | frame data =>
      have found : data.roles.role? name = some role := found
      refine ⟨if role.isNumerical then .floatColumn name role data.name
        else .stringColumn name role data.name, ?_, ?_⟩
      · simp [Table.column, DataFrame.column, found]
      · unfold Role.family
        split <;> rfl
  | view base layer ih =>
      obtain ⟨below, own⟩ := proper
      rw [roles, layer.role?_roles base.roles base.validate_roles] at found
      rw [column_view]
      cases shown : layer.addedAs name with
      | some added =>
          rw [shown] at found
          obtain rfl := Option.some.inj found
          obtain ⟨present, named⟩ := Option.filter_eq_some_iff.mp shown
          obtain rfl : added.name = name := by simpa using named
          obtain ⟨⟨family, subroles⟩, kept⟩ := own added present
          obtain ⟨marked, made, same⟩ := added.column.family_withSubroles added.subroles subroles
          refine ⟨layer.restrict (marked.withUnit added.unit), by simp [kept, made, Except.map], ?_⟩
          rw [layer.family_restrict, marked.family_withUnit, same, family]
      | none =>
          rw [shown] at found
          simp only at found
          split at found
          next => simp at found
          next kept =>
            obtain ⟨column, made, family⟩ := ih below found
            exact ⟨layer.restrict column, by simp [kept, made, Except.map],
              by rw [layer.family_restrict, family]⟩

theorem column_of_no_role (table : Table) (proper : table.Proper) (name : String)
    (absent : table.roles.role? name = none) : ∃ cause, table.column name = .error cause := by
  induction table with
  | frame data =>
      have absent : data.roles.role? name = none := absent
      exact ⟨data.noColumn name, by simp [Table.column, DataFrame.column, absent]⟩
  | view base layer ih =>
      rw [roles, layer.role?_roles base.roles base.validate_roles] at absent
      rw [column_view]
      cases shown : layer.addedAs name with
      | some added => simp [shown] at absent
      | none =>
          rw [shown] at absent
          by_cases dropped : name ∈ layer.dropped
          · exact ⟨_, if_pos dropped⟩
          · simp only [dropped, if_false] at absent
            obtain ⟨cause, failed⟩ := ih proper.1 absent
            exact ⟨cause, by simp [dropped, failed, Except.map]⟩

theorem column_isOk (table : Table) (proper : table.Proper) (name : String) :
    (∃ column, table.column name = .ok column) ↔ name ∈ table.columnNames := by
  rw [columnNames, Roles.mem_presented]
  cases found : table.roles.role? name with
  | some role =>
      obtain ⟨column, made, -⟩ := table.column_of_role proper name role found
      simp [made]
  | none =>
      obtain ⟨cause, failed⟩ := table.column_of_no_role proper name found
      simp [failed]

theorem family_column (table : Table) (proper : table.Proper) (name : String) (column : Column)
    (made : table.column name = .ok column) :
    ∃ role, table.roles.role? name = some role ∧ column.family = role.family := by
  cases found : table.roles.role? name with
  | some role =>
      obtain ⟨same, again, family⟩ := table.column_of_role proper name role found
      obtain rfl : same = column := Except.ok.inj (again.symm.trans made)
      exact ⟨role, rfl, family⟩
  | none =>
      obtain ⟨cause, failed⟩ := table.column_of_no_role proper name found
      simp [failed] at made

end Table
end RelationalLearning
