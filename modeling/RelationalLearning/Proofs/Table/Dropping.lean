import RelationalLearning.Proofs.Table.Roles

namespace RelationalLearning

namespace Roles

theorem without_congr (roles : Roles) (first second : List String)
    (same : ∀ name, name ∈ first ↔ name ∈ second) : roles.without first = roles.without second := by
  simp [without, same]

theorem without_without (roles : Roles) (first second : List String) :
    (roles.without first).without second = roles.without (first ++ second) := by
  simp [without, List.filter_filter, Bool.and_comm]

def only (roles : Roles) (names : List String) : Roles :=
  ofBuckets fun role => (roles.names role).filter fun name => names.contains name

theorem without_others (roles : Roles) (names : List String) :
    roles.without (roles.presented.filter fun name => !names.contains name) = roles.only names := by
  refine congrArg ofBuckets (funext fun role => List.filter_congr ?_)
  intro name member
  have shown : name ∈ roles.presented := by
    rw [mem_presented, role?_isSome]
    exact ⟨role, member⟩
  simp [shown]

end Roles

theorem View.mem_includeNew (present added : List String) (name : String) :
    name ∈ includeNew present added ↔ name ∈ present ∨ name ∈ added := by
  unfold includeNew
  induction added generalizing present with
  | nil => simp
  | cons first added ih =>
      rw [List.foldl_cons, ih]
      by_cases old : first ∈ present
      · rw [if_pos (List.contains_iff_mem.mpr old)]
        by_cases same : name = first <;> simp [same, old]
      · rw [if_neg (by simpa using old)]
        simp [or_assoc]

namespace Table

variable (table : Table) (names : List String)

theorem roles_dropping : ((View.ofTable table).dropping names).roles = table.roles.without names := by
  have shown := Layer.roles_eq ((View.ofTable table).dropping names).layer table.roles
  refine shown.trans (table.roles.without_congr _ _ fun name => ?_)
  exact (View.mem_includeNew [] names name).trans (by simp)

theorem mem_columnNames_dropping (name : String) :
    name ∈ ((View.ofTable table).dropping names).table.columnNames ↔
      name ∈ table.columnNames ∧ name ∉ names := by
  have shown : ((View.ofTable table).dropping names).table.roles = table.roles.without names :=
    table.roles_dropping names
  simp only [columnNames, shown, Roles.mem_presented, Roles.role?_isSome, Roles.mem_without,
    exists_and_right]

theorem column_dropping (name : String) :
    ((View.ofTable table).dropping names).table.column name =
      if name ∈ names then .error (.key s!"Cannot retrieve column '{name}'. It has been dropped.")
      else table.column name := by
  have dropped : name ∈ ((View.ofTable table).dropping names).layer.dropped ↔ name ∈ names :=
    (View.mem_includeNew [] names name).trans (by simp)
  rw [View.table, column_view]
  by_cases gone : name ∈ names
  · rw [if_pos (dropped.mpr gone), if_pos gone]
  · rw [if_neg (dropped.not.mpr gone), if_neg gone]
    change (table.column name).map id = table.column name
    cases table.column name <;> rfl

theorem drop_of_shown (shown : ∀ name ∈ names, name ∈ table.columnNames) :
    table.drop names = .ok ((View.ofTable table).dropping names) := by
  rw [drop, (table.checkNames_eq_ok names).mpr shown]
  rfl

theorem roles_subselected (rows : Column) :
    ((View.ofTable table).subselected rows).roles = table.roles := by
  have shown := Layer.roles_eq ((View.ofTable table).subselected rows).layer table.roles
  exact shown.trans table.roles.without_nil

theorem column_subselected (rows : Column) (name : String) :
    ((View.ofTable table).subselected rows).table.column name =
      (table.column name).map fun column => column.subselect (.column rows) := by
  rw [View.table, column_view]
  exact if_neg List.not_mem_nil

theorem select_mask (session : Session) (mask : Column) (world : World) :
    table.select session (.mask mask) world = (.ok ((View.ofTable table).subselected mask), world) :=
  rfl

theorem selectColumns_of_shown (view : View) (shown : ∀ name ∈ names, name ∈ view.table.columnNames) :
    ∃ chosen, view.selectColumns names = .ok chosen ∧ chosen.roles = view.roles.only names := by
  have none : (names.filter fun name => !view.table.columnNames.contains name) = [] := by
    simpa [List.filter_eq_nil_iff] using shown
  refine ⟨(View.ofTable view.table).dropping
    (view.table.columnNames.filter fun name => !names.contains name), ?_, ?_⟩
  · simp only [View.selectColumns, none]
  · rw [roles_dropping]
    exact Roles.without_others view.table.roles names

theorem dropped_twice (first second : List String)
    (shown : ∀ name ∈ first ++ second, name ∈ table.columnNames) (apart : first.Disjoint second) :
    ∃ one both, table.drop first = .ok one ∧ one.table.drop second = .ok both ∧
      both.roles = table.roles.without (first ++ second) ∧
      ∀ name, both.table.column name =
        ((View.ofTable table).dropping (first ++ second)).table.column name := by
  have early : ∀ name ∈ first, name ∈ table.columnNames :=
    fun name member => shown name (List.mem_append_left second member)
  have late : ∀ name ∈ second, name ∈ ((View.ofTable table).dropping first).table.columnNames :=
    fun name member => (table.mem_columnNames_dropping first name).mpr
      ⟨shown name (List.mem_append_right first member), fun other => apart other member⟩
  refine ⟨_, _, table.drop_of_shown first early, drop_of_shown _ second late, ?_, ?_⟩
  · rw [roles_dropping]
    exact (congrArg (·.without second) (table.roles_dropping first)).trans
      (table.roles.without_without first second)
  · intro name
    simp only [column_dropping, List.mem_append]
    by_cases inFirst : name ∈ first <;> by_cases inSecond : name ∈ second <;>
      simp [inFirst, inSecond]

/--
Columns may be dropped in steps, in either order, or at once, and before or after a mask chooses rows:
the roles are the same, and what is found under a name, a column or an error, is the same. To keep some
columns of a view is to restrict its roles to them, whatever their order and however often they are
named.
-/
theorem drops_compose (table : Table) :
    (∀ first second : List String, (∀ name ∈ first ++ second, name ∈ table.columnNames) →
      first.Disjoint second →
      ∃ one oneTwo two twoOne both,
        table.drop first = .ok one ∧ one.table.drop second = .ok oneTwo ∧
        table.drop second = .ok two ∧ two.table.drop first = .ok twoOne ∧
        table.drop (first ++ second) = .ok both ∧
        oneTwo.roles = both.roles ∧ twoOne.roles = both.roles ∧
        ∀ name, name ≠ "" → oneTwo.table.column name = both.table.column name ∧
          twoOne.table.column name = both.table.column name) ∧
    (∀ names : List String, (∀ name ∈ names, name ∈ table.columnNames) →
      ∀ (session : Session) (mask : Column) (world : World),
      ∃ dropped before chosen after,
        table.drop names = .ok dropped ∧
        dropped.table.select session (.mask mask) world = (.ok before, world) ∧
        table.select session (.mask mask) world = (.ok chosen, world) ∧
        chosen.table.drop names = .ok after ∧
        before.roles = after.roles ∧
        ∀ name, name ≠ "" → before.table.column name = after.table.column name) ∧
    ∀ view : View, view.table = table →
      ∀ names : List String, (∀ name ∈ names, name ∈ table.columnNames) →
      ∃ chosen, view.selectColumns names = .ok chosen ∧ chosen.roles = table.roles.only names := by
  refine ⟨?_, ?_, ?_⟩
  · intro first second shown apart
    have swapped : ∀ name, name ∈ second ++ first ↔ name ∈ first ++ second := by
      simp [or_comm]
    obtain ⟨one, oneTwo, dropped, droppedNext, roles, columns⟩ :=
      table.dropped_twice first second shown apart
    obtain ⟨two, twoOne, dropped', droppedNext', roles', columns'⟩ :=
      table.dropped_twice second first (fun name member => shown name ((swapped name).mp member))
        (List.disjoint_comm.mp apart)
    refine ⟨one, oneTwo, two, twoOne, _, dropped, droppedNext, dropped', droppedNext',
      table.drop_of_shown _ shown, ?_, ?_, fun name _ => ⟨columns name, ?_⟩⟩
    · rw [roles, roles_dropping]
    · rw [roles', roles_dropping, table.roles.without_congr _ _ swapped]
    · rw [columns', column_dropping, column_dropping]
      simp only [swapped]
  · intro names shown session mask world
    have still : ∀ name ∈ names,
        name ∈ ((View.ofTable table).subselected mask).table.columnNames := by
      have same : ((View.ofTable table).subselected mask).table.roles = table.roles :=
        table.roles_subselected mask
      simpa only [columnNames, same] using shown
    refine ⟨_, _, _, _, table.drop_of_shown names shown, select_mask _ session mask world,
      table.select_mask session mask world, drop_of_shown _ names still, ?_, fun name _ => ?_⟩
    · rw [roles_subselected, roles_dropping]
      exact (table.roles_dropping names).trans
        (congrArg (·.without names) (table.roles_subselected mask).symm)
    · simp only [column_subselected, column_dropping]
      split <;> rfl
  · rintro view rfl names shown
    exact selectColumns_of_shown names view shown

/-- Loans without their rates and keys, some loans without their rates, and only some of their columns. -/
theorem drops_compose_loans :
    (∀ name ∈ ["rate"] ++ ["id"], name ∈ (Table.frame loans).columnNames) ∧
    ["rate"].Disjoint ["id"] ∧
    (∃ one both, (Table.frame loans).drop ["rate"] = .ok one ∧
      one.table.drop ["id"] = .ok both ∧
      both.roles = { numerical := ["amount"], target := ["default"] } ∧
      both.table.column "amount" = .ok amount ∧ ∃ cause, both.table.column "rate" = .error cause) ∧
    (∃ chosen after, (Table.frame loans).select {} (.mask (.ofLiteral (.truth true))) {} =
        (.ok chosen, {}) ∧
      chosen.table.drop ["rate"] = .ok after ∧
      after.roles = { joinKey := ["id"], numerical := ["amount"], target := ["default"] } ∧
      after.table.column "amount" = .ok (amount.subselect (.column (.ofLiteral (.truth true))))) ∧
    ∃ chosen, aimed.selectColumns ["default", "id", "default"] = .ok chosen ∧
      chosen.roles = { joinKey := ["id"], target := ["default"] } := by
  obtain ⟨twice, masks, -⟩ := drops_compose (.frame loans)
  obtain ⟨-, -, keeps⟩ := drops_compose aimed.table
  have shown : ∀ name ∈ ["rate"] ++ ["id"], name ∈ (Table.frame loans).columnNames := by decide
  have apart : ["rate"].Disjoint ["id"] := by simp
  refine ⟨shown, apart, ?_, ?_, ?_⟩
  · obtain ⟨one, oneTwo, _, _, both, dropped, droppedNext, -, -, atOnce, roles, -, columns⟩ :=
      twice _ _ shown apart
    obtain rfl : (View.ofTable (.frame loans)).dropping ["rate", "id"] = both :=
      Except.ok.inj (((Table.frame loans).drop_of_shown _ shown).symm.trans atOnce)
    have gone := (columns "rate" (by decide)).1
    rw [column_dropping, if_pos (by decide)] at gone
    exact ⟨one, oneTwo, dropped, droppedNext, roles.trans (by decide),
      (columns "amount" (by decide)).1.trans rfl, _, gone⟩
  · obtain ⟨dropped, before, chosen, after, first, masked, masks, second, roles, columns⟩ :=
      masks ["rate"] (by decide) {} (.ofLiteral (.truth true)) {}
    obtain rfl := Except.ok.inj (((Table.frame loans).drop_of_shown _ (by decide)).symm.trans first)
    obtain ⟨⟨⟩, -⟩ := Prod.mk.inj ((select_mask _ _ _ _).symm.trans masked)
    exact ⟨chosen, after, masks, second, roles.symm.trans (by decide),
      (columns "amount" (by decide)).symm.trans rfl⟩
  · obtain ⟨chosen, kept, roles⟩ := keeps aimed rfl ["default", "id", "default"] (by decide)
    exact ⟨chosen, kept, roles.trans (by decide)⟩

end Table
end RelationalLearning
