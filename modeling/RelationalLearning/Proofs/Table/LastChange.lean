import RelationalLearning.Proofs.Json.Fixed
import RelationalLearning.Proofs.Pipeline.Operations
import RelationalLearning.Proofs.Table.Changes

/-!
The last change of a data frame in the views on it. What the first view was made with stays with all
views on top, whatever is asked for in between; what the views are described with is what was told
last.
-/

namespace RelationalLearning

open Json
open Relation (ReflTransGen TransGen)

variable {value : Json}

@[simp]
theorem Literal.fixes_toJson (literal : Literal) (name : String) :
    Fixes name value literal.toJson := by
  cases literal <;> simp [Literal.toJson]

theorem Literal.undated (literal : Literal) : Fixes "last_change_" value literal.toCommand := by
  apply fixes_record
  simp [FixedField]

theorem StoredColumn.undated (column : StoredColumn) :
    Fixes "last_change_" value column.toCommand := by
  apply fixes_record
  simp [FixedField]

mutual
theorem Column.undated (column : Column) : Fixes "last_change_" value column.toCommand := by
  cases column with
  | stored column => exact column.undated
  | view family operator operands detail =>
      rw [Column.toCommand]
      apply fixes_record
      have first := operands.undated_fields
      have second := detail.undated_fields
      simp only [List.forall_mem_cons, List.forall_mem_append]
      exact ⟨by simp [FixedField], by simp [FixedField], first, second⟩

theorem Operands.undated_fields (operands : Operands) :
    ∀ field ∈ operands.fields, FixedField "last_change_" value field := by
  cases operands with
  | none => simp [Operands.fields]
  | one first => simp [Operands.fields, FixedField, first.undated]
  | two first second => simp [Operands.fields, FixedField, first.undated, second.undated]

theorem Operand.undated (operand : Operand) : Fixes "last_change_" value operand.toCommand := by
  cases operand with
  | literal value => exact value.undated
  | column inner => exact inner.undated

theorem Detail.undated_fields (detail : Detail) :
    ∀ field ∈ detail.fields, FixedField "last_change_" value field := by
  cases detail with
  | condition condition => simp [Detail.fields, FixedField, condition.undated]
  | _ => simp [Detail.fields, FixedField]
end

theorem Column.fixes_dated (column : Column) (lastChange : String) :
    Fixes "last_change_" (.string lastChange)
      (column.toCommand.set "last_change_" (.string lastChange)) :=
  fixes_set _ column.undated (fixes_string _)

theorem AddedColumn.fixes_toCommand (added : AddedColumn) (lastChange : String) :
    Fixes "last_change_" (.string lastChange) (added.toCommand lastChange) := by
  apply fixes_record
  simp [FixedField, Column.fixes_dated]

namespace View

/-- A description of the view in which it, its added column and its choice of rows are dated. -/
structure Dated (view : View) (lastChange : String) (description : Json) : Prop where
  own : description.field? "last_change_" = some (.string lastChange)
  added : ∀ added ∈ view.layer.added, ∃ addition column,
    description.field? "added_" = some addition ∧ addition.field? "col_" = some column ∧
      column.field? "last_change_" = some (.string lastChange)
  rows : ∀ rows ∈ view.layer.subselection, ∃ choice,
    description.field? "subselection_" = some choice ∧
      choice.field? "last_change_" = some (.string lastChange)

theorem dated_toCommand (view : View) : view.Dated view.table.lastChange view.table.toCommand := by
  obtain ⟨base, layer⟩ := view
  obtain ⟨name, rows, added, dropped, initial⟩ := layer
  constructor
  · exact field?_record_append _ _ _ _ rfl
  · rintro added ⟨⟩
    refine ⟨added.toCommand base.lastChange, _, ?_, rfl, field?_set _ _ _⟩
    cases rows <;> rfl
  · rintro rows ⟨⟩
    refine ⟨_, ?_, field?_set rows.toCommand _ _⟩
    cases added <;> rfl

theorem check_eq (session : Session) (view : View) (world : World) :
    (view.check session world).1 = ((view.base.root.askLastChange session world).1.map fun change =>
      if change = view.layer.initialLastChange then .fresh else .stale) := by
  rw [check, Outcome.run_bind]
  obtain ⟨outcome, last⟩ := view.base.root.askLastChange session world
  cases outcome with
  | error cause => rfl
  | ok change =>
      by_cases same : change = view.layer.initialLastChange
      · simp only [if_pos same, Except.map]
        rfl
      · simp only [if_neg same, Except.map]
        rfl

end View

namespace DataFrame

theorem askLastChange_congr (session : Session) (first second : DataFrame)
    (same : first.name = second.name) :
    first.askLastChange session = second.askLastChange session := by
  unfold askLastChange DataFrame.command
  rw [same]

theorem keeps_name (session : Session) (name : String) :
    Updating.Keeps (fun frame => frame.name = name) (refresh session) := by
  refine Updating.keeps_handle_bind _ _ fun frame named => ?_
  refine Updating.keeps_bind _ _ _ (Updating.keeps_lift _ _) fun reply => ?_
  refine Updating.keeps_ofExcept_bind _ _ _ fun changed read => ?_
  obtain ⟨roles, valid, -, rfl⟩ := (frame.withReply_eq_ok reply changed).mp read
  refine Updating.keeps_bind _ _ _ (Updating.keeps_replace _ _ named) fun _ => ?_
  refine Updating.keeps_bind _ _ _ (Updating.keeps_lift _ _) fun lastChange => ?_
  refine Updating.keeps_bind _ _ _ (Updating.keeps_replace _ _ named) fun _ => ?_
  exact Updating.keeps_ofClient _ _

end DataFrame

namespace Table

def views : Table → List View
  | .frame _ => []
  | .view base layer => ⟨base, layer⟩ :: base.views

theorem fixes_toCommand (table : Table) :
    Fixes "last_change_" (.string table.lastChange) table.toCommand := by
  induction table with
  | frame data =>
      apply fixes_record
      simp [FixedField]
  | view base layer ih =>
      apply fixes_record
      simp only [List.forall_mem_append, List.forall_mem_map]
      refine ⟨⟨?_, ?_⟩, by simpa [FixedField, lastChange, root] using ih⟩
      · exact fun added _ => ⟨added.fixes_toCommand _, by simp⟩
      · exact fun rows _ => ⟨rows.fixes_dated _, by simp⟩

theorem within_views (table : Table) : ∀ view ∈ table.views,
    view.table.root = table.root ∧ Within view.table.toCommand table.toCommand := by
  induction table with
  | frame data => simp [views]
  | view base layer ih =>
      rw [Table.views, List.forall_mem_cons]
      refine ⟨⟨rfl, .here _⟩, ?_⟩
      intro view member
      obtain ⟨same, within⟩ := ih view member
      exact ⟨same, within_field _ _ _ "base_" (field?_record_append _ _ _ _ rfl) within⟩

theorem root_withRoot (table : Table) (frame : DataFrame) : (table.withRoot frame).root = frame := by
  induction table with
  | frame data => rfl
  | view base layer ih => exact ih

theorem views_withRoot (table : Table) (frame : DataFrame) : (table.withRoot frame).views =
    table.views.map fun view => ⟨view.base.withRoot frame, view.layer⟩ := by
  induction table with
  | frame data => rfl
  | view base layer ih => rw [withRoot, views, views, List.map_cons, ih]

theorem refresh_eq (session : Session) (table : Table) (world : World) :
    ∃ frame, ((refresh session).runOn table world).1.2 = table.withRoot frame ∧
      frame.name = table.root.name :=
  ⟨_, rfl, DataFrame.keeps_name session table.root.name table.root world rfl⟩

theorem laid_addTargets (name : String) (column : Column) (labels : List Literal)
    (table last : Table) (made : addTargets name column table labels = .ok last) :
    ReflTransGen Lays table last := by
  induction labels generalizing table with
  | nil =>
      obtain rfl := Except.ok.inj made
      exact .refl
  | cons label labels ih =>
      simp only [addTargets, Outcome.bind_eq_ok] at made
      obtain ⟨target, -, view, added, rest⟩ := made
      exact .head (laid_withColumn table _ view added) (ih view.table rest)

theorem laid_makeTargetColumns (session : Session) (table : Table) (name : String) (view : View)
    (world last : World) (made : table.makeTargetColumns session name world = (.ok view, last)) :
    TransGen Lays table view.table := by
  have targets : ∀ column labels, (addTargets name column table labels >>= fun targets =>
      targets.drop [name]) = .ok view → TransGen Lays table view.table := by
    intro column labels done
    obtain ⟨targets, added, dropped⟩ := (Outcome.bind_eq_ok _ _ _).mp done
    exact .tail' (laid_addTargets name column labels table targets added)
      (laid_drop targets [name] view dropped)
  simp only [makeTargetColumns, Client.bind_eq_ok] at made
  obtain ⟨column, _, -, labels, _, -, made⟩ := made
  split at made
  next =>
    obtain ⟨_, _, -, made⟩ := (Client.bind_eq_ok _ _ _ _ _).mp made
    exact targets column labels ((Client.ofExcept_eq_ok _ _ _ _).mp made).1
  next => exact targets column labels ((Client.ofExcept_eq_ok _ _ _ _).mp made).1

/-- A step in the life of a table: it is changed, or the view on top of it is made differently. -/
inductive Evolves : Table → Table → Prop
  | change (table changed : Table) (change : Change table changed) : Evolves table changed
  | makeTargetColumns (session : Session) (table : Table) (name : String) (view : View)
    (world last : World) (made : table.makeTargetColumns session name world = (.ok view, last)) :
    Evolves table view.table
  | named (view : View) (name : String) : Evolves view.table (view.named name).table
  | subselected (view : View) (rows : Column) : Evolves view.table (view.subselected rows).table
  | adding (view : View) (added : AddedColumn) : Evolves view.table (view.adding added).table
  | dropping (view : View) (names : List String) : Evolves view.table (view.dropping names).table

theorem evolves_cases (table changed : Table) (evolves : Evolves table changed) :
    TransGen Lays table changed ∨
    (∃ base layer other, table = .view base layer ∧ changed = .view base other ∧
      other.initialLastChange = layer.initialLastChange) ∨
    ∃ frame, changed = table.withRoot frame ∧ frame.name = table.root.name := by
  cases evolves with
  | change _ _ change =>
      rcases change_cases table changed change with laid | ⟨session, world, rfl⟩
      · exact .inl laid
      · exact .inr (.inr (refresh_eq session table world))
  | makeTargetColumns session _ name view world last made =>
      exact .inl (laid_makeTargetColumns session table name view world last made)
  | named view name => exact .inr (.inl ⟨_, _, _, rfl, rfl, rfl⟩)
  | subselected view rows => exact .inr (.inl ⟨_, _, _, rfl, rfl, rfl⟩)
  | adding view added => exact .inr (.inl ⟨_, _, _, rfl, rfl, rfl⟩)
  | dropping view names => exact .inr (.inl ⟨_, _, _, rfl, rfl, rfl⟩)

/-- The data frame has the name, and all views on it were made with the last change. -/
structure Since (name initial : String) (table : Table) : Prop where
  root : table.root.name = name
  views : ∀ view ∈ table.views, view.layer.initialLastChange = initial
  initial : table.initialLastChange = initial

variable {name initial : String}

theorem since_frame (frame : DataFrame) : Since frame.name frame.lastChange (.frame frame) :=
  ⟨rfl, by simp [views], rfl⟩

theorem Since.laid {table above : Table} (since : Since name initial table)
    (laid : TransGen Lays table above) : Since name initial above ∧ ∃ view : View, above = view.table := by
  have lays : ∀ below above, Lays below above → Since name initial below →
      Since name initial above ∧ ∃ view : View, above = view.table := by
    rintro below _ ⟨layer, same, -⟩ ⟨root, all, made⟩
    have kept : layer.initialLastChange = initial := same.trans made
    refine ⟨⟨root, ?_, kept⟩, ⟨below, layer⟩, rfl⟩
    rw [Table.views, List.forall_mem_cons]
    exact ⟨kept, all⟩
  induction laid with
  | single one => exact lays _ _ one since
  | tail _ one ih => exact lays _ _ one ih.1

theorem Since.evolves {view : View} {changed : Table} (since : Since name initial view.table)
    (evolves : Evolves view.table changed) :
    Since name initial changed ∧ ∃ other : View, changed = other.table := by
  obtain ⟨root, all, made⟩ := since
  rcases evolves_cases _ _ evolves with laid | ⟨base, layer, other, same, rfl, kept⟩ |
    ⟨frame, rfl, named⟩
  · exact Since.laid ⟨root, all, made⟩ laid
  · rw [same] at root all made
    rw [Table.views, List.forall_mem_cons] at all
    refine ⟨⟨root, ?_, kept.trans made⟩, ⟨base, other⟩, rfl⟩
    rw [Table.views, List.forall_mem_cons]
    exact ⟨kept.trans made, all.2⟩
  · refine ⟨⟨?_, ?_, made⟩, ⟨view.base.withRoot frame, view.layer⟩, rfl⟩
    · rw [root_withRoot, named, root]
    · rw [views_withRoot, List.forall_mem_map]
      exact all

theorem Since.lasts {view : View} {last : Table} (since : Since name initial view.table)
    (life : ReflTransGen Evolves view.table last) :
    Since name initial last ∧ ∃ other : View, last = other.table := by
  induction life with
  | refl => exact ⟨since, view, rfl⟩
  | tail _ evolves ih =>
      obtain ⟨still, other, rfl⟩ := ih
      exact still.evolves evolves

/-- Either no view was made so far, or the first one was made on the data frame as it was then. -/
theorem first_view (start : DataFrame) (table : Table)
    (life : ReflTransGen Evolves (.frame start) table) :
    (∃ frame, table = .frame frame) ∨ ∃ (frame : DataFrame) (first : View),
      ReflTransGen Evolves (.frame start) (.frame frame) ∧ Evolves (.frame frame) first.table ∧
      ReflTransGen Evolves first.table table ∧ Since frame.name frame.lastChange first.table := by
  induction life with
  | refl => exact .inl ⟨start, rfl⟩
  | @tail below changed before evolves ih =>
      rcases ih with ⟨frame, rfl⟩ | ⟨frame, first, early, made, late, since⟩
      · rcases evolves_cases _ _ evolves with laid | ⟨base, layer, other, same, -⟩ |
          ⟨other, rfl, -⟩
        · obtain ⟨since, first, rfl⟩ := (since_frame frame).laid laid
          exact .inr ⟨frame, first, before, evolves, .refl, since⟩
        · cases same
        · exact .inl ⟨other, rfl⟩
      · exact .inr ⟨frame, first, early, made, late.tail evolves, since⟩

/--
Whatever is done on the way to a view: all its layers were made with the last change that the handle
of the data frame had when the first of them was made. All dates in the description of the view are
the last change that the handle has now. The view, and every one that comes from it later, is stale
just where the engine's answer differs from the last change at the beginning.
-/
theorem staleness_lasts (start : DataFrame) (view : View)
    (life : ReflTransGen Evolves (.frame start) view.table) :
    ∃ (frame : DataFrame) (first : View), ReflTransGen Evolves (.frame start) (.frame frame) ∧
      Evolves (.frame frame) first.table ∧ ReflTransGen Evolves first.table view.table ∧
      (∀ inner ∈ view.table.views, inner.layer.initialLastChange = frame.lastChange) ∧
      Fixes "last_change_" (.string view.table.root.lastChange) view.table.toCommand ∧
      (∀ inner ∈ view.table.views, Within inner.table.toCommand view.table.toCommand ∧
        inner.Dated view.table.root.lastChange inner.table.toCommand) ∧
      ∀ later : View, ReflTransGen Evolves view.table later.table → ∀ session world,
        (later.check session world).1 =
          ((view.table.root.askLastChange session world).1.map fun change =>
            if change = frame.lastChange then .fresh else .stale) := by
  rcases first_view start view.table life with ⟨_, same⟩ | ⟨frame, first, early, made, late, since⟩
  · cases same
  obtain ⟨now, -⟩ := since.lasts late
  refine ⟨frame, first, early, made, late, now.views, view.table.fixes_toCommand, ?_, ?_⟩
  · intro inner member
    obtain ⟨same, within⟩ := view.table.within_views inner member
    exact ⟨within, same ▸ inner.dated_toCommand⟩
  · intro later further session world
    obtain ⟨still, -⟩ := now.lasts further
    rw [later.check_eq, show later.layer.initialLastChange = frame.lastChange from still.initial,
      DataFrame.askLastChange_congr session later.base.root view.table.root
        (still.root.trans now.root.symm)]

def telling : World := Pipeline.answering [["\x7b\x7d"], ["Success!", "tuesday"]]

def changedLoans : DataFrame := ((DataFrame.refresh {}).runOn loans telling).1.2

def refreshedMask : View := ⟨aimed.table.withRoot changedLoans, masked.layer⟩

theorem staleness_lasts_refreshed :
    ReflTransGen Evolves (.frame loans) refreshedMask.table ∧
    changedLoans.lastChange = "tuesday" ∧ refreshedMask.table.views.length = 3 ∧
    (∀ inner ∈ refreshedMask.table.views, inner.layer.initialLastChange = "") ∧
    Fixes "last_change_" (.string "tuesday") refreshedMask.table.toCommand ∧
    (refreshedMask.check {} (Pipeline.answering [["Success!", "tuesday"]])).1 = .ok .stale := by
  have told : changedLoans.lastChange = "tuesday" := by decide +kernel
  have refreshed : Change masked.table refreshedMask.table := .refresh {} masked.table telling
  have life : ReflTransGen Evolves (.frame loans) refreshedMask.table :=
    (ReflTransGen.mono Evolves.change _ _ masked_changes).tail (.change _ _ refreshed)
  refine ⟨life, told, rfl, ?_⟩
  obtain ⟨frame, first, -, -, -, kept, fixed, -, verdict⟩ :=
    staleness_lasts loans refreshedMask life
  have start : "" = frame.lastChange := kept refreshedMask (by simp [views, refreshedMask, View.table])
  refine ⟨fun inner member => (kept inner member).trans start.symm, ?_, ?_⟩
  · rw [← told]
    exact fixed
  · rw [verdict refreshedMask .refl, ← start]
    decide +kernel

end Table
end RelationalLearning
