import Mathlib.Logic.Relation
import RelationalLearning.Proofs.Engine.Steps
import RelationalLearning.Proofs.Table.Visibility
import RelationalLearning.Table.View

namespace RelationalLearning

open Relation (ReflTransGen TransGen)

theorem NewColumn.proper_resolve (new : NewColumn) (added : AddedColumn)
    (resolved : new.resolve = .ok added) : added.Proper := by
  unfold resolve at resolved
  split at resolved
  next => simp at resolved
  next =>
    simp only [Outcome.pure_eq_ok, Outcome.bind_eq_ok] at resolved
    obtain ⟨⟨⟩, valid, same⟩ := resolved
    obtain rfl := Except.ok.inj same
    exact ⟨new.column.family_castFor _ new.timeFormats, valid⟩

theorem Column.movedTo_eq_ok (session : Session) (column : Column) (name : String) (role : Role)
    (formats : List String) (world last : World) (added : AddedColumn)
    (moved : column.movedTo session name role formats world = (.ok added, last)) :
    ∃ subroles unit,
      NewColumn.resolve ⟨column, name, some role, subroles, unit, formats⟩ = .ok added := by
  unfold movedTo at moved
  split at moved
  all_goals
    simp only [Client.bind_eq_ok, Client.ofExcept_eq_ok] at moved
    obtain ⟨unit, _, -, subroles, _, -, resolved, -⟩ := moved
    exact ⟨subroles, unit, resolved⟩

def Table.movedColumn (session : Session) (role : Role) (formats : List String) (table : Table)
    (name : String) : Client DataError AddedColumn := do
  let column ← Client.ofExcept (table.column name)
  column.movedTo session name role formats

def Table.markedColumn (session : Session) (subroles : List String) (append : Bool) (table : Table)
    (name : String) : Client DataError AddedColumn := do
  let column ← Client.ofExcept (table.column name)
  let unit ← column.unit session
  let subroles ←
    if append then pure (View.includeNew (← column.subroles session) subroles)
    else pure subroles
  Client.ofExcept (NewColumn.resolve ⟨column, name, table.roles.role? name, subroles, unit, []⟩)

def Table.measuredColumn (session : Session) (unit : String) (forComparison : Bool) (table : Table)
    (name : String) : Client DataError AddedColumn := do
  let column ← Client.ofExcept (table.column name)
  let subroles ← column.subroles session
  Client.ofExcept (NewColumn.resolve
    ⟨column, name, table.roles.role? name, subroles, unitFor unit forComparison, []⟩)

theorem Table.movedColumn_eq_ok (session : Session) (role : Role) (formats : List String)
    (table : Table) (name : String) (world last : World) (added : AddedColumn)
    (made : table.movedColumn session role formats name world = (.ok added, last)) :
    ∃ column subroles unit, table.column name = .ok column ∧
      NewColumn.resolve ⟨column, name, some role, subroles, unit, formats⟩ = .ok added := by
  simp only [movedColumn, Client.bind_eq_ok, Client.ofExcept_eq_ok] at made
  obtain ⟨column, middle, ⟨had, -⟩, moved⟩ := made
  obtain ⟨subroles, unit, resolved⟩ :=
    column.movedTo_eq_ok session name role formats middle last added moved
  exact ⟨column, subroles, unit, had, resolved⟩

theorem Table.markedColumn_eq_ok (session : Session) (subroles : List String) (append : Bool)
    (table : Table) (name : String) (world last : World) (added : AddedColumn)
    (made : table.markedColumn session subroles append name world = (.ok added, last)) :
    ∃ column subroles unit, table.column name = .ok column ∧
      NewColumn.resolve ⟨column, name, table.roles.role? name, subroles, unit, []⟩ = .ok added := by
  simp only [markedColumn, Client.bind_eq_ok, Client.ofExcept_eq_ok] at made
  obtain ⟨column, _, ⟨had, -⟩, unit, _, -, made⟩ := made
  split at made
  next =>
    simp only [Client.bind_eq_ok, Client.ofExcept_eq_ok] at made
    obtain ⟨present, _, -, told, _, -, resolved, -⟩ := made
    exact ⟨column, told, unit, had, resolved⟩
  next =>
    simp only [Client.bind_eq_ok, Client.ofExcept_eq_ok] at made
    obtain ⟨told, _, -, resolved, -⟩ := made
    exact ⟨column, told, unit, had, resolved⟩

theorem Table.measuredColumn_eq_ok (session : Session) (unit : String) (forComparison : Bool)
    (table : Table) (name : String) (world last : World) (added : AddedColumn)
    (made : table.measuredColumn session unit forComparison name world = (.ok added, last)) :
    ∃ column subroles unit, table.column name = .ok column ∧
      NewColumn.resolve ⟨column, name, table.roles.role? name, subroles, unit, []⟩ = .ok added := by
  simp only [measuredColumn, Client.bind_eq_ok, Client.ofExcept_eq_ok] at made
  obtain ⟨column, _, ⟨had, -⟩, subroles, _, -, resolved, -⟩ := made
  exact ⟨column, subroles, _, had, resolved⟩

theorem Table.proper_movedColumn (session : Session) (role : Role) (formats : List String)
    (table : Table) (name : String) (world : World) (added : AddedColumn) (last : World)
    (made : table.movedColumn session role formats name world = (.ok added, last)) :
    added.Proper := by
  obtain ⟨_, _, _, -, resolved⟩ := table.movedColumn_eq_ok _ _ _ _ _ _ _ made
  exact NewColumn.proper_resolve _ added resolved

theorem Table.proper_markedColumn (session : Session) (subroles : List String) (append : Bool)
    (table : Table) (name : String) (world : World) (added : AddedColumn) (last : World)
    (made : table.markedColumn session subroles append name world = (.ok added, last)) :
    added.Proper := by
  obtain ⟨_, _, _, -, resolved⟩ := table.markedColumn_eq_ok _ _ _ _ _ _ _ made
  exact NewColumn.proper_resolve _ added resolved

theorem Table.proper_measuredColumn (session : Session) (unit : String) (forComparison : Bool)
    (table : Table) (name : String) (world : World) (added : AddedColumn) (last : World)
    (made : table.measuredColumn session unit forComparison name world = (.ok added, last)) :
    added.Proper := by
  obtain ⟨_, _, _, -, resolved⟩ := table.measuredColumn_eq_ok _ _ _ _ _ _ _ made
  exact NewColumn.proper_resolve _ added resolved

theorem Layer.proper_of_none (layer : Layer) (nothing : layer.added = none) : layer.Proper := by
  intro added member
  rw [nothing] at member
  cases member

namespace Table

/-- A view is laid over a table; it keeps the last change that the table below was made with. -/
inductive Lays (table : Table) : Table → Prop
  | view (layer : Layer) (initial : layer.initialLastChange = table.initialLastChange)
    (proper : layer.Proper) : Lays table (.view table layer)

theorem lays_ofTable (table : Table) : Lays table (View.ofTable table).table :=
  .view _ rfl (Layer.proper_of_none _ rfl)

theorem lays_subselected (table : Table) (rows : Column) :
    Lays table ((View.ofTable table).subselected rows).table :=
  .view _ rfl (Layer.proper_of_none _ rfl)

theorem lays_dropping (table : Table) (names : List String) :
    Lays table ((View.ofTable table).dropping names).table :=
  .view _ rfl (Layer.proper_of_none _ rfl)

theorem lays_adding (table : Table) (added : AddedColumn) (fits : added.Proper) :
    Lays table ((View.ofTable table).adding added).table := by
  refine .view _ rfl ?_
  intro present member
  obtain rfl : added = present := Option.some.inj member
  exact ⟨fits, List.not_mem_nil⟩

theorem proper_lays (table above : Table) (lays : Lays table above) (proper : table.Proper) :
    above.Proper := by
  obtain ⟨layer, -, fits⟩ := lays
  exact ⟨proper, fits⟩

theorem proper_subselected (table : Table) (rows : Column) (proper : table.Proper) :
    ((View.ofTable table).subselected rows).table.Proper :=
  proper_lays _ _ (lays_subselected table rows) proper

theorem proper_adding (table : Table) (added : AddedColumn) (proper : table.Proper)
    (fits : added.Proper) : ((View.ofTable table).adding added).table.Proper :=
  proper_lays _ _ (lays_adding table added fits) proper

theorem addedAs_adding (table : Table) (added : AddedColumn) (name : String) :
    ((View.ofTable table).adding added).layer.addedAs name =
      if added.name = name then some added else none := by
  simp [Layer.addedAs, View.adding, Option.filter_some]

theorem column_adding (table : Table) (added : AddedColumn) (name : String) :
    ((View.ofTable table).adding added).table.column name =
      if added.name = name then
        (added.column.withSubroles added.subroles).map fun column => column.withUnit added.unit
      else table.column name := by
  rw [View.table, column_view, addedAs_adding]
  refine (if_neg List.not_mem_nil).trans ?_
  by_cases same : added.name = name
  · rw [if_pos same, if_pos same]
    rfl
  · rw [if_neg same, if_neg same]
    change (table.column name).map id = table.column name
    cases table.column name <;> rfl

theorem mem_columnNames_adding (table : Table) (added : AddedColumn) (name : String)
    (shown : name ∈ table.columnNames) :
    name ∈ ((View.ofTable table).adding added).table.columnNames := by
  rw [columnNames, Roles.mem_presented, Roles.role?_isSome] at shown ⊢
  obtain ⟨role, member⟩ := shown
  by_cases same : added.name = name
  · refine ⟨added.role, (Layer.mem_names_roles _ table.roles added.role name).mpr ?_⟩
    rw [addedAs_adding, if_pos same]
  · refine ⟨role, (Layer.mem_names_roles _ table.roles role name).mpr ?_⟩
    rw [addedAs_adding, if_neg same]
    exact ⟨member, List.not_mem_nil⟩

theorem laid_addEach (make : Table → String → Client DataError AddedColumn)
    (fits : ∀ table name world added last, make table name world = (.ok added, last) → added.Proper)
    (names : List String) (below view : View) (world last : World)
    (made : addEach make below names world = (.ok view, last)) :
    ReflTransGen Lays below.table view.table := by
  induction names generalizing below world with
  | nil =>
      obtain ⟨rfl, -⟩ := (Client.pure_eq_ok below view world last).mp made
      exact .refl
  | cons name names ih =>
      simp only [addEach, Client.bind_eq_ok] at made
      obtain ⟨added, middle, first, rest⟩ := made
      exact .head (lays_adding below.table added (fits _ _ _ _ _ first)) (ih _ middle rest)

theorem laid_foldColumns (table : Table) (make : Table → String → Client DataError AddedColumn)
    (fits : ∀ table name world added last, make table name world = (.ok added, last) → added.Proper)
    (names : List String) (view : View) (world last : World)
    (made : table.foldColumns names make world = (.ok view, last)) :
    TransGen Lays table view.table := by
  cases names with
  | nil => exact absurd made (Client.throw_ne_ok _ view world last)
  | cons name names =>
      simp only [foldColumns, Client.bind_eq_ok] at made
      obtain ⟨added, middle, first, rest⟩ := made
      have lays := lays_adding table added (fits _ _ _ _ _ first)
      exact TransGen.head' lays (laid_addEach make fits names _ view middle last rest)

theorem proper_withRoot (table : Table) (root : DataFrame) (proper : table.Proper) :
    (table.withRoot root).Proper := by
  induction table with
  | frame data => trivial
  | view base layer ih => exact ⟨ih proper.1, proper.2⟩

/-- One change of a table: a view is laid over it, or its roles are asked for again. -/
inductive Change : Table → Table → Prop
  | view (table : Table) : Change table (View.ofTable table).table
  | drop (table : Table) (names : List String) (view : View) (made : table.drop names = .ok view) :
    Change table view.table
  | select (session : Session) (table : Table) (selection : Selection) (view : View)
    (world last : World) (made : table.select session selection world = (.ok view, last)) :
    Change table view.table
  | withColumn (table : Table) (new : NewColumn) (view : View)
    (made : table.withColumn new = .ok view) :
    Change table view.table
  | withRole (session : Session) (table : Table) (names : List String) (role : Role)
    (formats : List String) (view : View) (world last : World)
    (made : table.withRole session names role formats world = (.ok view, last)) :
    Change table view.table
  | withSubroles (session : Session) (table : Table) (names subroles : List String) (append : Bool)
    (view : View) (world last : World)
    (made : table.withSubroles session names subroles append world = (.ok view, last)) :
    Change table view.table
  | withUnit (session : Session) (table : Table) (names : List String) (unit : String)
    (forComparison : Bool) (view : View) (world last : World)
    (made : table.withUnit session names unit forComparison world = (.ok view, last)) :
    Change table view.table
  | selectColumns (view chosen : View) (names : List String)
    (made : view.selectColumns names = .ok chosen) :
    Change view.table chosen.table
  | refresh (session : Session) (table : Table) (world : World) :
    Change table ((Table.refresh session).runOn table world).1.2

theorem laid_drop (table : Table) (names : List String) (view : View)
    (made : table.drop names = .ok view) : Lays table view.table := by
  simp only [drop, Outcome.bind_eq_ok] at made
  obtain ⟨⟨⟩, -, same⟩ := made
  obtain rfl := Except.ok.inj same
  exact lays_dropping table names

theorem laid_withColumn (table : Table) (new : NewColumn) (view : View)
    (made : table.withColumn new = .ok view) : Lays table view.table := by
  obtain ⟨added, resolved, rfl⟩ := (Outcome.map_eq_ok _ _ _).mp made
  exact lays_adding table added (new.proper_resolve added resolved)

theorem laid_select (session : Session) (table : Table) (selection : Selection) (view : View)
    (world last : World) (made : table.select session selection world = (.ok view, last)) :
    Lays table view.table := by
  simp only [select, Client.bind_eq_ok] at made
  obtain ⟨rows, middle, -, made⟩ := made
  split at made
  next =>
    simp only [Client.bind_eq_ok] at made
    obtain ⟨length, later, -, made⟩ := made
    split at made
    next => exact absurd made (Client.throw_ne_ok _ view later last)
    next =>
      obtain ⟨rfl, -⟩ := (Client.pure_eq_ok _ view later last).mp made
      exact lays_subselected table rows.column
  next =>
    obtain ⟨rfl, -⟩ := (Client.pure_eq_ok _ view middle last).mp made
    exact lays_subselected table rows.column

theorem change_cases (table changed : Table) (change : Change table changed) :
    TransGen Lays table changed ∨
      ∃ session world, changed = ((Table.refresh session).runOn table world).1.2 := by
  cases change with
  | view => exact .inl (.single (lays_ofTable table))
  | drop _ names view made => exact .inl (.single (laid_drop table names view made))
  | select session _ selection view world last made =>
      exact .inl (.single (laid_select session table selection view world last made))
  | withColumn _ new view made => exact .inl (.single (laid_withColumn table new view made))
  | withRole session _ names role formats view world last made =>
      simp only [withRole, Client.bind_eq_ok] at made
      obtain ⟨⟨⟩, middle, -, made⟩ := made
      exact .inl (laid_foldColumns table _ (proper_movedColumn session role formats) names view
        middle last made)
  | withSubroles session _ names subroles append view world last made =>
      simp only [withSubroles, Client.bind_eq_ok] at made
      obtain ⟨⟨⟩, _, -, ⟨⟩, middle, -, made⟩ := made
      exact .inl (laid_foldColumns table _ (proper_markedColumn session subroles append) names view
        middle last made)
  | withUnit session _ names unit forComparison view world last made =>
      simp only [withUnit, Client.bind_eq_ok] at made
      obtain ⟨⟨⟩, middle, -, made⟩ := made
      exact .inl (laid_foldColumns table _ (proper_measuredColumn session unit forComparison) names
        view middle last made)
  | selectColumns view chosen names made =>
      unfold View.selectColumns at made
      dsimp only at made
      split at made
      next =>
        obtain rfl := Except.ok.inj made
        exact .inl (.single (lays_dropping view.table _))
      next => simp at made
  | refresh session _ world => exact .inr ⟨session, world, rfl⟩

theorem proper_change (table changed : Table) (change : Change table changed)
    (proper : table.Proper) : changed.Proper := by
  rcases change_cases table changed change with laid | ⟨session, world, rfl⟩
  · clear change
    induction laid with
    | single lays => exact proper_lays _ _ lays proper
    | tail _ lays ih => exact proper_lays _ _ lays ih
  · exact proper_withRoot table _ proper

theorem proper_changes (frame : DataFrame) (table : Table)
    (changes : ReflTransGen Change (.frame frame) table) : table.Proper := by
  induction changes with
  | refl => trivial
  | tail _ change ih => exact proper_change _ _ change ih

/--
After all changes every column is shown once, exactly the columns that are shown can be had, and
each of them is stored as its role says.
-/
theorem column_changes (frame : DataFrame) (table : Table)
    (changes : ReflTransGen Change (.frame frame) table) :
    table.roles.validate = .ok () ∧ table.columnNames.Nodup ∧
    (∀ name, (∃ column, table.column name = .ok column) ↔ name ∈ table.columnNames) ∧
    ∀ name column, table.column name = .ok column →
      (column.family = .float ↔
        ∃ role, table.roles.role? name = some role ∧ role.isNumerical = true) ∧
      (column.family ≠ .float → column.family = .string) := by
  have proper := proper_changes frame table changes
  have valid := table.validate_roles
  refine ⟨valid, table.roles.nodup_presented (table.roles.validate_eq_ok.mp valid),
    table.column_isOk proper, ?_⟩
  intro name column made
  obtain ⟨role, found, family⟩ := table.family_column proper name column made
  rw [family]
  constructor
  · rw [role.family_eq_float]
    simp [found]
  · intro other
    exact role.family_of_other fun numerical => other (role.family_eq_float.mpr numerical)

def loans : DataFrame where
  name := "loans"
  roles := { joinKey := ["id"], numerical := ["amount", "rate"], target := ["default"] }

def amount : Column := .floatColumn "amount" .numerical "loans"

def unrated : View := (View.ofTable (.frame loans)).dropping ["rate"]

def aimed : View := (View.ofTable unrated.table).adding ⟨amount, "amount", .target, [], ""⟩

def masked : View := (View.ofTable aimed.table).subselected (.ofLiteral (.truth true))

theorem masked_changes : ReflTransGen Change (.frame loans) masked.table := by
  have dropped : Change (.frame loans) unrated.table := .drop _ ["rate"] _ rfl
  have added : Change unrated.table aimed.table :=
    .withColumn _ { column := amount, name := "amount", role := some .target } _ rfl
  have chosen : Change aimed.table masked.table :=
    .select {} _ (.mask (.ofLiteral (.truth true))) _ {} {} rfl
  exact ((ReflTransGen.refl.tail dropped).tail added).tail chosen

theorem column_changes_masked : masked.table.columnNames = ["id", "default", "amount"] ∧
    masked.roles.validate = .ok () ∧ ∃ column, masked.table.column "amount" = .ok column ∧
      column.family = .float := by
  obtain ⟨valid, -, had, stored⟩ := column_changes loans masked.table masked_changes
  obtain ⟨column, made⟩ := (had "amount").mpr (by decide)
  exact ⟨by decide, valid, column, made,
    (stored "amount" column made).1.mpr ⟨.target, by decide, by decide⟩⟩

end Table
end RelationalLearning
