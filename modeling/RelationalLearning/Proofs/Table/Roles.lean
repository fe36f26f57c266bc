import RelationalLearning.Proofs.Pipeline.Operations
import RelationalLearning.Proofs.Roles.Map
import RelationalLearning.Proofs.Table.Changes

namespace RelationalLearning

namespace Roles

theorem without_nil (roles : Roles) : roles.without [] = roles := by
  simp [without]

theorem withColumn_of_role? (roles : Roles) (valid : roles.validate = .ok ()) (name : String)
    (role : Role) (found : roles.role? name = some role) : roles.withColumn name role = roles := by
  have own := roles.mem_names_of_role? name role found
  conv_rhs => rw [← roles.ofBuckets_names]
  refine congrArg ofBuckets (funext fun other => ?_)
  by_cases same : other = role
  · simp [same, own]
  · rw [if_neg same, List.filter_eq_self]
    rintro column member
    rw [decide_eq_true_iff]
    rintro rfl
    have elsewhere := (roles.role?_eq_some valid column other).mpr member
    exact same (Option.some.inj (elsewhere.symm.trans found))

end Roles

theorem NewColumn.resolve_eq_ok (new : NewColumn) (added : AddedColumn)
    (resolved : new.resolve = .ok added) :
    added.name = new.name ∧ added.role = new.role.getD new.column.family.standardRole := by
  unfold resolve at resolved
  split at resolved
  next => simp at resolved
  next =>
    simp only [Outcome.pure_eq_ok, Outcome.bind_eq_ok] at resolved
    obtain ⟨⟨⟩, -, same⟩ := resolved
    obtain rfl := Except.ok.inj same
    exact ⟨rfl, rfl⟩

theorem Layer.roles_eq (layer : Layer) (base : Roles) :
    layer.roles base =
      match layer.added with
      | none => base.without layer.dropped
      | some added => (base.without layer.dropped).withColumn added.name added.role := by
  unfold roles visible
  cases layer.added with
  | none => rfl
  | some added =>
      refine congrArg Roles.ofBuckets (funext fun role => ?_)
      by_cases same : added.role = role
      · simp [same, Roles.without]
      · have apart : role ≠ added.role := fun equal => same equal.symm
        simp [same, apart, Roles.without]

namespace Table

theorem roles_adding (table : Table) (added : AddedColumn) :
    ((View.ofTable table).adding added).roles = table.roles.withColumn added.name added.role := by
  have shown := Layer.roles_eq ((View.ofTable table).adding added).layer table.roles
  rw [show ((View.ofTable table).adding added).layer.dropped = [] from rfl, Roles.without_nil] at shown
  exact shown

theorem role?_of_column (table : Table) (name : String) (column : Column)
    (made : table.column name = .ok column) : ∃ role, table.roles.role? name = some role := by
  rw [← Option.isSome_iff_exists, Roles.role?_isSome]
  induction table generalizing column with
  | frame data =>
      rw [← Roles.role?_isSome]
      simp only [Table.column, DataFrame.column] at made
      split at made
      next => cases made
      next role found => simp [roles, found]
  | view base layer ih =>
      rw [column_view] at made
      split at made
      next => cases made
      next kept =>
        simp only [roles, layer.mem_names_roles]
        split at made
        next added shown => exact ⟨added.role, rfl⟩
        next shown =>
          obtain ⟨inner, below, -⟩ := (Outcome.map_eq_ok _ _ _).mp made
          obtain ⟨role, member⟩ := ih inner below
          exact ⟨role, member, kept⟩

theorem roles_addEach (edit : Roles → String → Roles)
    (make : Table → String → Client DataError AddedColumn)
    (acts : ∀ table name world added last, make table name world = (.ok added, last) →
      table.roles.withColumn added.name added.role = edit table.roles name)
    (names : List String) (below view : View) (world last : World)
    (made : addEach make below names world = (.ok view, last)) :
    view.roles = names.foldl edit below.roles := by
  induction names generalizing below world with
  | nil =>
      obtain ⟨rfl, -⟩ := (Client.pure_eq_ok below view world last).mp made
      rfl
  | cons name names ih =>
      simp only [addEach, Client.bind_eq_ok] at made
      obtain ⟨added, middle, first, rest⟩ := made
      rw [ih _ middle rest, roles_adding, acts _ _ _ _ _ first]
      rfl

theorem roles_foldColumns (edit : Roles → String → Roles)
    (make : Table → String → Client DataError AddedColumn)
    (acts : ∀ table name world added last, make table name world = (.ok added, last) →
      table.roles.withColumn added.name added.role = edit table.roles name)
    (table : Table) (names : List String) (view : View) (world last : World)
    (made : table.foldColumns names make world = (.ok view, last)) :
    view.roles = names.foldl edit table.roles := by
  cases names with
  | nil => exact absurd made (Client.throw_ne_ok _ view world last)
  | cons name names =>
      simp only [foldColumns, Client.bind_eq_ok] at made
      obtain ⟨added, middle, first, rest⟩ := made
      rw [roles_addEach edit make acts names _ view middle last rest, roles_adding,
        acts _ _ _ _ _ first]
      rfl

theorem roles_withRole (session : Session) (table : Table) (names : List String) (role : Role)
    (formats : List String) (view : View) (world last : World)
    (made : table.withRole session names role formats world = (.ok view, last)) :
    view.roles = names.foldl (fun roles name => roles.withColumn name role) table.roles := by
  simp only [withRole, Client.bind_eq_ok] at made
  obtain ⟨⟨⟩, middle, -, made⟩ := made
  refine roles_foldColumns _ (movedColumn session role formats) ?_ table names view middle last made
  intro table name world added last moved
  obtain ⟨_, _, _, -, resolved⟩ := table.movedColumn_eq_ok _ _ _ _ _ _ _ moved
  obtain ⟨named, given⟩ := NewColumn.resolve_eq_ok _ _ resolved
  rw [named, given]
  rfl

/-- Where every new column comes under the name and with the role of an old one, no role changes. -/
theorem roles_of_same_roles (make : Table → String → Client DataError AddedColumn)
    (same : ∀ table name world last added, make table name world = (.ok added, last) →
      ∃ column subroles unit, table.column name = .ok column ∧
        NewColumn.resolve ⟨column, name, table.roles.role? name, subroles, unit, []⟩ = .ok added)
    (table : Table) (names : List String) (view : View) (world last : World)
    (made : table.foldColumns names make world = (.ok view, last)) : view.roles = table.roles := by
  have kept := roles_foldColumns (fun roles _ => roles) make ?_ table names view world last made
  · rwa [List.foldl_fixed] at kept
  · intro table name world added last found
    obtain ⟨column, _, _, had, resolved⟩ := same table name world last added found
    obtain ⟨named, given⟩ := NewColumn.resolve_eq_ok _ _ resolved
    obtain ⟨role, shown⟩ := table.role?_of_column name column had
    rw [named, given, shown]
    exact table.roles.withColumn_of_role? table.validate_roles name role shown

theorem roles_withSubroles (session : Session) (table : Table) (names subroles : List String)
    (append : Bool) (view : View) (world last : World)
    (made : table.withSubroles session names subroles append world = (.ok view, last)) :
    view.roles = table.roles := by
  simp only [withSubroles, Client.bind_eq_ok] at made
  obtain ⟨⟨⟩, _, -, ⟨⟩, middle, -, made⟩ := made
  exact roles_of_same_roles (markedColumn session subroles append)
    (fun table => table.markedColumn_eq_ok session subroles append) table names view middle last
    made

theorem roles_withUnit (session : Session) (table : Table) (names : List String) (unit : String)
    (forComparison : Bool) (view : View) (world last : World)
    (made : table.withUnit session names unit forComparison world = (.ok view, last)) :
    view.roles = table.roles := by
  simp only [withUnit, Client.bind_eq_ok] at made
  obtain ⟨⟨⟩, middle, -, made⟩ := made
  exact roles_of_same_roles (measuredColumn session unit forComparison)
    (fun table => table.measuredColumn_eq_ok session unit forComparison) table names view middle last
    made

/--
The roles of a view are those of its base without the dropped columns, in which the added column is
given its role. So columns that are moved are given their role one after another, and other subroles
or units leave the roles as they are, whatever the engine answers.
-/
theorem roles_follow_layers :
    (∀ (base : Table) (layer : Layer),
      (Table.view base layer).roles =
        match layer.added with
        | none => base.roles.without layer.dropped
        | some added => (base.roles.without layer.dropped).withColumn added.name added.role) ∧
    (∀ (session : Session) (table : Table) (names : List String) (role : Role)
      (formats : List String) (view : View) (world last : World),
      table.withRole session names role formats world = (.ok view, last) →
        view.roles = names.foldl (fun roles name => roles.withColumn name role) table.roles) ∧
    (∀ (session : Session) (table : Table) (names subroles : List String) (append : Bool)
      (view : View) (world last : World),
      table.withSubroles session names subroles append world = (.ok view, last) →
        view.roles = table.roles) ∧
    ∀ (session : Session) (table : Table) (names : List String) (unit : String)
      (forComparison : Bool) (view : View) (world last : World),
      table.withUnit session names unit forComparison world = (.ok view, last) →
        view.roles = table.roles :=
  ⟨fun base layer => layer.roles_eq base.roles, roles_withRole, roles_withSubroles, roles_withUnit⟩

def measured : World :=
  Pipeline.answering [["Success!", "EUR"], ["Success!", "", ""], ["Success!", ""], ["Success!", "", ""]]

/-- The rate is aimed at, and then the amount. -/
theorem roles_follow_layers_promoted :
    (∃ view last, (Table.frame loans).withRole {} ["rate", "amount"] .target [] measured =
        (.ok view, last) ∧
      view.roles = { joinKey := ["id"], target := ["default", "rate", "amount"] }) ∧
    ∃ view last, unrated.table.withSubroles {} ["amount"] ["exclude mapping"] true measured =
        (.ok view, last) ∧
      view.roles = { joinKey := ["id"], numerical := ["amount"], target := ["default"] } := by
  obtain ⟨-, moved, marked, -⟩ := roles_follow_layers
  have promotes : ((Table.frame loans).withRole {} ["rate", "amount"] .target [] measured).1.isOk =
      true := by decide +kernel
  have marks : (unrated.table.withSubroles {} ["amount"] ["exclude mapping"] true measured).1.isOk =
      true := by decide +kernel
  refine ⟨?_, ?_⟩
  · generalize reached : (Table.frame loans).withRole {} ["rate", "amount"] .target [] measured =
      outcome at promotes ⊢
    obtain ⟨cause | view, last⟩ := outcome
    · cases promotes
    · exact ⟨_, _, rfl, (moved _ _ _ _ _ _ _ _ reached).trans (by decide)⟩
  · generalize reached : unrated.table.withSubroles {} ["amount"] ["exclude mapping"] true measured =
      outcome at marks ⊢
    obtain ⟨cause | view, last⟩ := outcome
    · cases marks
    · exact ⟨_, _, rfl, (marked _ _ _ _ _ _ _ _ reached).trans (by decide)⟩

end Table
end RelationalLearning
