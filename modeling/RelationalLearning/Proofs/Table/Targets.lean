import RelationalLearning.Proofs.Table.Dropping
import RelationalLearning.Proofs.Text.Pieces

namespace RelationalLearning

namespace Text

theorem mem_dropWhile {α : Type} (skip : α → Bool) (items : List α) (item : α)
    (member : item ∈ items) (kept : skip item = false) : item ∈ items.dropWhile skip := by
  induction items with
  | nil => exact member
  | cons first items ih =>
      rw [List.dropWhile_cons]
      split
      next skipped =>
        rcases List.mem_cons.mp member with rfl | later
        · exact absurd skipped (Bool.eq_false_iff.mp kept)
        · exact ih later
      next => exact member

theorem mem_trim (text : String) (c : Char) (member : c ∈ text.toList) (solid : isBlank c = false) :
    c ∈ (trim text).toList := by
  have started := mem_dropWhile isBlank text.toList c member solid
  have ended := mem_dropWhile isBlank _ c (List.mem_reverse.mpr started) solid
  rw [trim, String.toList_ofList]
  exact List.mem_reverse.mpr ended

end Text

theorem Validation.name_of_solid (text what : String) (c : Char) (member : c ∈ text.toList)
    (solid : Text.isBlank c = false) (free : Text.contains text reserved = false) :
    name text what = .ok () := by
  have nonempty : (Text.trim text).isEmpty = false := by
    rw [Bool.eq_false_iff]
    intro empty
    have kept := Text.mem_trim text c member solid
    rw [String.isEmpty_iff.mp empty] at kept
    simp at kept
  rw [name, if_neg (Bool.eq_false_iff.mp nonempty), if_neg (Bool.eq_false_iff.mp free)]

namespace Table

def targetName (name label : String) : String := s!"{name}={label}"

variable (name : String) (column : Column)

theorem toList_targetName (label : String) :
    (targetName name label).toList = name.toList ++ '=' :: label.toList := by
  change (name ++ "=" ++ label).toList = _
  simp

theorem targetName_inj (first second : String) :
    targetName name first = targetName name second ↔ first = second := by
  rw [← String.toList_inj, toList_targetName, toList_targetName]
  simp [String.toList_inj]

theorem targetName_ne (label : String) : targetName name label ≠ name := by
  intro same
  have counted := congrArg (fun text => text.toList.length) same
  simp [toList_targetName] at counted

def indicator (label : String) : Column :=
  .apply .float .booleanAsNum (.combine .boolean .strEqualTo column (.literal (.text label)))

def targetFor (label : String) : AddedColumn :=
  ⟨indicator column label, targetName name label, .target, [], ""⟩

/-- The target as a table shows it: with no subroles and an empty unit. -/
def shownTarget (label : String) : Column :=
  .view .float .numWithUnit (.one (.column
    (.view .float .numWithSubroles (.one (.column (indicator column label))) (.subroles []))))
    (.unit "")

theorem asNumber_combine (label : String) :
    (Column.combine .boolean .strEqualTo column (.literal (.text label))).asNumber =
      indicator column label := rfl

theorem validate_targetName (label : String)
    (own : Text.contains name Validation.reserved = false)
    (free : Text.contains label Validation.reserved = false) :
    Validation.name (targetName name label) "name" = .ok () := by
  have spelled := toList_targetName name label
  refine Validation.name_of_solid _ _ '=' (by simp [spelled]) (by decide) ?_
  exact Text.contains_around '=' _ name label _ spelled (by decide) own free

theorem resolve_target (label : String)
    (named : Validation.name (targetName name label) "name" = .ok ()) :
    NewColumn.resolve ⟨indicator column label, targetName name label, some .target, [], "", []⟩ =
      .ok (targetFor name column label) := by
  rw [NewColumn.resolve]
  simp only [named]
  rfl

theorem equalTo_text (label : String) (textual : column.family = .string) :
    column.equalTo (.literal (.text label)) =
      .ok (.combine .boolean .strEqualTo column (.literal (.text label))) := by
  have same : column.family = (Operand.literal (.text label)).family := textual
  rw [Column.equalTo, Column.compare, if_pos same, textual]
  rfl

def withTarget (table : Table) (label : String) : Table :=
  ((View.ofTable table).adding (targetFor name column label)).table

def withTargets (table : Table) (labels : List String) : Table :=
  labels.foldl (withTarget name column) table

theorem addTargets_eq (table : Table) (labels : List String) (textual : column.family = .string)
    (own : Text.contains name Validation.reserved = false)
    (free : ∀ label ∈ labels, Text.contains label Validation.reserved = false) :
    addTargets name column table (labels.map .text) =
      .ok (withTargets name column table labels) := by
  induction labels generalizing table with
  | nil => rfl
  | cons label labels ih =>
      obtain ⟨first, rest⟩ := List.forall_mem_cons.mp free
      have resolved := resolve_target name column label (validate_targetName name label own first)
      have laid : table.withColumn ⟨indicator column label, s!"{name}={label}", some .target,
          [], "", []⟩ = .ok ((View.ofTable table).adding (targetFor name column label)) :=
        congrArg (Except.map (View.ofTable table).adding) resolved
      rw [List.map_cons, addTargets, equalTo_text column label textual, Outcome.ok_bind, labelText,
        asNumber_combine]
      dsimp only
      rw [laid]
      exact ih _ rest

theorem mem_columnNames (table : Table) (shown : String) :
    shown ∈ table.columnNames ↔ ∃ role, shown ∈ table.roles.names role := by
  rw [columnNames, Roles.mem_presented, Roles.role?_isSome]

theorem names_withTarget (table : Table) (label : String) (role : Role)
    (absent : targetName name label ∉ table.columnNames) :
    (withTarget name column table label).roles.names role =
      table.roles.names role ++ if role = .target then [targetName name label] else [] := by
  rw [mem_columnNames, not_exists] at absent
  have shown : (withTarget name column table label).roles =
      table.roles.withColumn (targetName name label) .target :=
    table.roles_adding (targetFor name column label)
  rw [shown, Roles.withColumn, Roles.names_ofBuckets]
  by_cases aimed : role = .target
  · subst aimed
    simp [absent]
  · rw [if_neg aimed, if_neg aimed, List.append_nil, List.filter_eq_self]
    rintro other member
    rw [decide_eq_true_iff]
    rintro rfl
    exact absent role member

theorem column_withTarget (table : Table) (label other : String) :
    (withTarget name column table label).column other =
      if targetName name label = other then .ok (shownTarget column label)
      else table.column other := by
  rw [withTarget, column_adding]
  rfl

theorem absent_withTarget (table : Table) (label : String) (labels : List String)
    (apart : label ∉ labels)
    (absent : ∀ other ∈ label :: labels, targetName name other ∉ table.columnNames) :
    ∀ other ∈ labels, targetName name other ∉ (withTarget name column table label).columnNames := by
  obtain ⟨first, rest⟩ := List.forall_mem_cons.mp absent
  intro other member shown
  obtain ⟨role, shown⟩ := (mem_columnNames _ _).mp shown
  rw [names_withTarget name column table label role first] at shown
  rcases List.mem_append.mp shown with old | new
  · exact rest other member ((mem_columnNames _ _).mpr ⟨role, old⟩)
  · split at new
    next =>
      obtain rfl := (targetName_inj name other label).mp (List.mem_singleton.mp new)
      exact apart member
    next => cases new

theorem names_withTargets (table : Table) (labels : List String) (role : Role)
    (distinct : labels.Nodup)
    (absent : ∀ label ∈ labels, targetName name label ∉ table.columnNames) :
    (withTargets name column table labels).roles.names role =
      table.roles.names role ++ if role = .target then labels.map (targetName name) else [] := by
  induction labels generalizing table with
  | nil => simp [withTargets]
  | cons label labels ih =>
      obtain ⟨apart, distinct⟩ := List.nodup_cons.mp distinct
      have later := absent_withTarget name column table label labels apart absent
      refine (ih _ distinct later).trans ?_
      rw [names_withTarget name column table label role (absent label List.mem_cons_self),
        List.append_assoc]
      split <;> rfl

theorem names_instead (table : Table) (labels : List String) (role : Role)
    (distinct : labels.Nodup)
    (absent : ∀ label ∈ labels, targetName name label ∉ table.columnNames) :
    ((View.ofTable (withTargets name column table labels)).dropping [name]).roles.names role =
      (table.roles.names role).filter (fun other => other ≠ name) ++
        if role = .target then labels.map (targetName name) else [] := by
  rw [roles_dropping, Roles.without, Roles.names_ofBuckets,
    names_withTargets name column table labels role distinct absent, List.filter_append]
  congr 1
  · exact List.filter_congr fun other _ => by simp
  · refine List.filter_eq_self.mpr fun other member => ?_
    split at member
    next =>
      obtain ⟨label, -, rfl⟩ := List.mem_map.mp member
      simpa using targetName_ne name label
    next => cases member

theorem column_withTargets_of_other (table : Table) (labels : List String) (other : String)
    (apart : ∀ label ∈ labels, targetName name label ≠ other) :
    (withTargets name column table labels).column other = table.column other := by
  induction labels generalizing table with
  | nil => rfl
  | cons label labels ih =>
      obtain ⟨first, rest⟩ := List.forall_mem_cons.mp apart
      refine (ih _ rest).trans ?_
      rw [column_withTarget, if_neg first]

theorem column_withTargets_of_label (table : Table) (labels : List String) (label : String)
    (member : label ∈ labels) :
    (withTargets name column table labels).column (targetName name label) =
      .ok (shownTarget column label) := by
  induction labels generalizing table with
  | nil => cases member
  | cons first labels ih =>
      -- the uppermost view with the name is the one that is found
      by_cases later : label ∈ labels
      · exact ih _ later
      · obtain rfl : label = first := (List.mem_cons.mp member).resolve_right later
        refine (column_withTargets_of_other name column _ labels _ fun other inside same => ?_).trans ?_
        · exact later ((targetName_inj name other label).mp same ▸ inside)
        · rw [column_withTarget, if_pos rfl]

theorem labels_of_texts (session : Session) (texts : List String) (world told : World)
    (textual : column.family = .string)
    (reported : column.uniqueTexts session world = (.ok texts, told)) :
    labels session name column world = (.ok (texts.map .text), told) := by
  rw [labels, textual]
  dsimp only
  rw [Outcome.run_bind, reported]
  rfl

/-- Nothing can be refused, and whether a warning is logged does not change the view. -/
theorem makeTargetColumns_ok (session : Session) (table : Table) (labels : List String)
    (world told : World) (found : table.column name = .ok column)
    (textual : column.family = .string)
    (reported : column.uniqueTexts session world = (.ok labels, told))
    (own : Text.contains name Validation.reserved = false)
    (free : ∀ label ∈ labels, Text.contains label Validation.reserved = false)
    (shown : name ∈ (withTargets name column table labels).columnNames) :
    ∃ last, table.makeTargetColumns session name world =
      (.ok ((View.ofTable (withTargets name column table labels)).dropping [name]), last) := by
  have made : (do (← addTargets name column table (labels.map .text)).drop [name]) =
      Except.ok ((View.ofTable (withTargets name column table labels)).dropping [name]) := by
    rw [addTargets_eq name column table labels textual own free, Outcome.ok_bind]
    exact drop_of_shown _ _ (by simpa using shown)
  have listed := labels_of_texts name column session labels world told textual reported
  have given : (Client.ofExcept (.ok column) : Client DataError Column) world = (.ok column, world) :=
    rfl
  rw [makeTargetColumns, found, Outcome.run_bind, given]
  dsimp only
  rw [Outcome.run_bind, listed]
  dsimp only
  rw [made]
  split
  · exact ⟨_, rfl⟩
  · exact ⟨_, rfl⟩

theorem not_target_of_textual (table : Table) (proper : table.Proper)
    (found : table.column name = .ok column) (textual : column.family = .string) :
    name ∉ table.roles.target := by
  intro aimed
  obtain ⟨role, given, family⟩ := table.family_column proper name column found
  have valid := table.validate_roles
  obtain rfl : role = .target :=
    Option.some.inj (given.symm.trans ((Roles.role?_eq_some _ valid name .target).mpr aimed))
  rw [textual] at family
  cases family

/--
A column of texts is spread over a target for each label: they come behind the targets that are
there, in the order of the labels, and each compares the column with its label. The column itself is
gone, and every other one stays as it was and where it was. Where columns are stored as their roles
say, a column of texts is no target, so that no target is gone either.
-/
theorem targets_spread_column (session : Session) (table : Table) (labels : List String)
    (world told : World) (found : table.column name = .ok column)
    (textual : column.family = .string)
    (reported : column.uniqueTexts session world = (.ok labels, told)) (distinct : labels.Nodup)
    (absent : ∀ label ∈ labels, targetName name label ∉ table.columnNames)
    (own : Text.contains name Validation.reserved = false)
    (free : ∀ label ∈ labels, Text.contains label Validation.reserved = false) :
    ∃ view last, table.makeTargetColumns session name world = (.ok view, last) ∧
      (∀ role, view.roles.names role =
        (table.roles.names role).filter (fun other => other ≠ name) ++
          if role = .target then labels.map (targetName name) else []) ∧
      (table.Proper →
        view.roles.target = table.roles.target ++ labels.map (targetName name)) ∧
      view.table.column name =
        .error (.key s!"Cannot retrieve column '{name}'. It has been dropped.") ∧
      (∀ other ∈ table.columnNames, other ≠ name → other ≠ "" →
        view.table.column other = table.column other) ∧
      ∀ label ∈ labels,
        view.table.column (targetName name label) = .ok (shownTarget column label) := by
  have bucket := fun role => names_withTargets name column table labels role distinct absent
  have shown : name ∈ (withTargets name column table labels).columnNames := by
    obtain ⟨role, present⟩ := table.role?_of_column name column found
    rw [mem_columnNames]
    refine ⟨role, ?_⟩
    rw [bucket role]
    exact List.mem_append_left _ (table.roles.mem_names_of_role? name role present)
  obtain ⟨last, made⟩ := makeTargetColumns_ok name column session table labels world told found
    textual reported own free shown
  have remaining := fun role => names_instead name column table labels role distinct absent
  refine ⟨_, last, made, ?_, ?_, ?_, ?_, ?_⟩
  · exact remaining
  · intro proper
    have kept := not_target_of_textual name column table proper found textual
    refine (remaining .target).trans ?_
    rw [if_pos rfl, List.filter_eq_self.mpr fun other member => ?_]
    · rfl
    · simpa using fun same : other = name => kept (same ▸ member)
  · rw [column_dropping, if_pos (List.mem_singleton_self name)]
  · intro other old kept _
    rw [column_dropping, if_neg (by simpa using kept)]
    exact column_withTargets_of_other name column table labels other fun label member same =>
      absent label member (same ▸ old)
  · intro label member
    rw [column_dropping, if_neg (by simpa using targetName_ne name label)]
    exact column_withTargets_of_label name column table labels label member

def ranked : DataFrame where
  name := "loans"
  roles := { categorical := ["rank"], joinKey := ["id"], target := ["default"] }

def ranking : World :=
  { listening := [1708]
    scripts := [⟨(Frame.ofText success).toOption.getD [] ++
      Arrow.encode ⟨[("rank", .utf8)], [[[.text "good", .missing, .text "bad"]]]⟩, true, []⟩] }

theorem targets_spread_column_ranked :
    (Table.frame ranked).Proper ∧
    ∃ view last, (Table.frame ranked).makeTargetColumns {} "rank" ranking = (.ok view, last) ∧
      view.roles.target = ["default", "rank=good", "rank=bad"] ∧
      view.roles.joinKey = ["id"] ∧ view.roles.categorical = [] ∧
      (∃ cause, view.table.column "rank" = .error cause) ∧
      view.table.column "id" = .ok (.stringColumn "id" .joinKey "loans") ∧
      view.table.column "rank=bad" =
        .ok (shownTarget (.stringColumn "rank" .categorical "loans") "bad") := by
  have proper : (Table.frame ranked).Proper := trivial
  have listed : (Column.uniqueTexts {} (.stringColumn "rank" .categorical "loans") ranking).1.toOption =
      some ["good", "bad"] := by decide +kernel
  generalize reported : Column.uniqueTexts {} (.stringColumn "rank" .categorical "loans") ranking =
    outcome at listed
  obtain ⟨cause | labels, told⟩ := outcome
  · cases listed
  obtain rfl : labels = ["good", "bad"] := Option.some.inj listed
  obtain ⟨view, last, made, buckets, aimed, gone, kept, shown⟩ :=
    targets_spread_column "rank" (.stringColumn "rank" .categorical "loans") {} (.frame ranked)
      ["good", "bad"] ranking told rfl rfl reported (by decide) (by decide) (by decide) (by decide)
  refine ⟨proper, view, last, made, aimed proper, (buckets .joinKey).trans (by decide),
    (buckets .categorical).trans (by decide), ⟨_, gone⟩,
    (kept "id" (by decide) (by decide) (by decide)).trans rfl, shown "bad" (by decide)⟩

end Table

end RelationalLearning
