import Mathlib.Algebra.BigOperators.Group.List.Basic
import RelationalLearning.Pipeline.Importance
import RelationalLearning.Proofs.Appearance

namespace RelationalLearning.ImportantTable

variable {α : Type}

def about (columns : List (ImportantColumn α)) (target : String) : List (ImportantColumn α) :=
  columns.filter fun column => column.target = target

def tablesOf (columns : List (ImportantColumn α)) (target : String) : List String :=
  ((about columns target).map (·.table)).eraseDups

def columnsOf (columns : List (ImportantColumn α)) (target name : String) :
    List (ImportantColumn α) :=
  columns.filter fun column => column.target = target ∧ column.table = name

theorem columnsOf_about (columns : List (ImportantColumn α)) (target name : String) :
    columnsOf (about columns target) target name = columnsOf columns target name := by
  simp only [columnsOf, about, List.filter_filter]
  refine List.filter_congr fun column _ => ?_
  by_cases same : column.target = target <;> simp [same]

section

variable [Add α]

theorem ofColumns_concat (columns : List (ImportantColumn α)) (last : ImportantColumn α) :
    ofColumns (columns ++ [last]) = sumInto last (ofColumns columns) := by
  rw [ofColumns, List.foldl_append]
  rfl

theorem names_sumInto (column : ImportantColumn α) (tables : List (ImportantTable α)) :
    (sumInto column tables).map (·.name) =
      if column.table ∈ tables.map (·.name) then tables.map (·.name)
      else tables.map (·.name) ++ [column.table] := by
  induction tables with
  | nil => rfl
  | cons table tables ih =>
      rw [sumInto]
      by_cases here : table.name = column.table
      · simp [here]
      · have apart : column.table ≠ table.name := fun same => here same.symm
        rw [if_neg here, List.map_cons, ih]
        by_cases later : column.table ∈ tables.map (·.name)
        · simp [later]
        · simp [later, apart]

theorem names_ofColumns (columns : List (ImportantColumn α)) :
    (ofColumns columns).map (·.name) = (columns.map (·.table)).eraseDups := by
  induction columns using List.reverseRecOn with
  | nil => rfl
  | append_singleton columns last ih =>
      rw [ofColumns_concat, names_sumInto, ih, List.map_append, List.map_singleton,
        Appearance.eraseDups_concat]
      simp only [List.mem_eraseDups]

def including (column : ImportantColumn α) : Option (ImportantTable α) → ImportantTable α
  | none => ⟨column.table, column.importance, column.target, column.marker⟩
  | some table =>
    { table with importance := table.importance + column.importance, marker := column.marker }

theorem find?_sumInto (column : ImportantColumn α) (tables : List (ImportantTable α))
    (name : String) :
    (sumInto column tables).find? (fun table => table.name = name) =
      if column.table = name then
        some (including column (tables.find? fun table => table.name = name))
      else tables.find? fun table => table.name = name := by
  induction tables with
  | nil =>
      by_cases own : column.table = name
      · simp [sumInto, own, including]
      · simp [sumInto, own]
  | cons table tables ih =>
      rw [sumInto]
      by_cases here : table.name = column.table
      · rw [if_pos here]
        by_cases own : column.table = name
        · simp [here, own, including]
        · simp [here, own]
      · rw [if_neg here, List.find?_cons, ih, List.find?_cons]
        by_cases own : column.table = name
        · have other : table.name ≠ name := fun same => here (same.trans own.symm)
          simp [own, other]
        · simp [own]

end

variable [AddCommMonoid α]

def total (columns : List (ImportantColumn α)) : α := (columns.map (·.importance)).sum

/-- The entry of a table sums up all its columns, and has the marker of the last of them. -/
structure SumsUp (columns : List (ImportantColumn α)) (table : ImportantTable α) : Prop where
  importance : table.importance = total (columnsOf columns table.target table.name)
  marker : (columnsOf columns table.target table.name).getLast?.map (·.marker) = some table.marker

theorem total_sumInto (column : ImportantColumn α) (tables : List (ImportantTable α)) :
    ((sumInto column tables).map (·.importance)).sum =
      (tables.map (·.importance)).sum + column.importance := by
  induction tables with
  | nil => simp [sumInto]
  | cons table tables ih =>
      rw [sumInto]
      split
      next => simp [add_right_comm]
      next => simp [ih, add_assoc]

theorem total_ofColumns (columns : List (ImportantColumn α)) :
    ((ofColumns columns).map (·.importance)).sum = total columns := by
  induction columns using List.reverseRecOn with
  | nil => rfl
  | append_singleton columns last ih =>
      rw [ofColumns_concat, total_sumInto, ih]
      simp [total]

theorem sumsUp_of_find? (columns : List (ImportantColumn α)) (target name : String)
    (own : ∀ column ∈ columns, column.target = target) :
    match (ofColumns columns).find? fun table => table.name = name with
    | none => columnsOf columns target name = []
    | some table => table.name = name ∧ table.target = target ∧ SumsUp columns table := by
  induction columns using List.reverseRecOn with
  | nil => rfl
  | append_singleton columns last ih =>
      have before := ih fun column member => own column (by simp [member])
      have mine : last.target = target := own last (by simp)
      rw [ofColumns_concat, find?_sumInto]
      by_cases here : last.table = name
      · have grown : columnsOf (columns ++ [last]) target name =
            columnsOf columns target name ++ [last] := by
          simp [columnsOf, mine, here]
        rw [if_pos here]
        cases found : (ofColumns columns).find? fun table => table.name = name with
        | none =>
            rw [found] at before
            rw [before] at grown
            refine ⟨here, mine, ?_, ?_⟩
            · simp [including, mine, here, grown, total]
            · simp [including, mine, here, grown]
        | some table =>
            rw [found] at before
            obtain ⟨rfl, rfl, importance, marker⟩ := before
            refine ⟨rfl, rfl, ?_, ?_⟩
            · simp [including, grown, total, importance]
            · simp [including, grown]
      · have same : columnsOf (columns ++ [last]) target name = columnsOf columns target name := by
          simp [columnsOf, here]
        rw [if_neg here]
        split at before
        next => rw [same, before]
        next table found =>
          obtain ⟨rfl, rfl, importance, marker⟩ := before
          exact ⟨rfl, rfl, same ▸ importance, same ▸ marker⟩

theorem sumsUp_of_mem (columns : List (ImportantColumn α)) (target : String)
    (table : ImportantTable α) (member : table ∈ ofColumns (about columns target)) :
    table.target = target ∧ SumsUp columns table := by
  have distinct : ((ofColumns (about columns target)).map (·.name)).Nodup := by
    rw [names_ofColumns]
    exact Appearance.nodup_eraseDups _
  -- a table has no second entry that could be found in place of this one
  have there : ((ofColumns (about columns target)).find? fun other =>
      other.name = table.name).isSome :=
    List.find?_isSome.mpr ⟨table, member, decide_eq_true rfl⟩
  obtain ⟨other, found⟩ := Option.isSome_iff_exists.mp there
  have named : other.name = table.name := by simpa using List.find?_some found
  obtain rfl : other = table :=
    List.inj_on_of_nodup_map distinct (List.mem_of_find?_eq_some found) member named
  have own : ∀ column ∈ about columns target, column.target = target := by
    intro column member
    simpa [about] using (List.mem_filter.mp member).2
  have sums := sumsUp_of_find? (about columns target) target other.name own
  rw [found] at sums
  obtain ⟨-, rfl, importance, marker⟩ := sums
  rw [columnsOf_about] at importance marker
  exact ⟨rfl, importance, marker⟩

theorem flatMap_single {β : Type} (targets : List String) (distinct : targets.Nodup)
    (target : String) (asked : target ∈ targets) (entries : List β) :
    (targets.flatMap fun other => if other = target then entries else []) = entries := by
  induction targets with
  | nil => cases asked
  | cons first targets ih =>
      obtain ⟨new, distinct⟩ := List.nodup_cons.mp distinct
      rw [List.flatMap_cons]
      by_cases here : first = target
      · subst here
        have gone : ∀ other ∈ targets, (if other = first then entries else []) = [] := by
          intro other member
          refine if_neg ?_
          rintro rfl
          exact new member
        rw [if_pos rfl, List.flatMap_eq_nil_iff.mpr gone, List.append_nil]
      · have later := (List.mem_cons.mp asked).resolve_left fun same => here same.symm
        rw [if_neg here, List.nil_append, ih distinct later]

theorem filter_ofTargets (columns : List (ImportantColumn α)) (targets : List String)
    (distinct : targets.Nodup) (target : String) (asked : target ∈ targets) :
    (ofTargets columns targets).filter (fun table => table.target = target) =
      ofColumns (about columns target) := by
  have kept (other : String) :
      (ofColumns (about columns other)).filter (fun table => table.target = target) =
        if other = target then ofColumns (about columns target) else [] := by
    split
    next same =>
      subst same
      refine List.filter_eq_self.mpr fun table member => ?_
      exact decide_eq_true (sumsUp_of_mem columns other table member).1
    next apart =>
      refine List.filter_eq_nil_iff.mpr fun table member => ?_
      rw [decide_eq_true_iff, (sumsUp_of_mem columns other table member).1]
      exact apart
  rw [ofTargets, List.filter_flatMap]
  change targets.flatMap (fun other => (ofColumns (about columns other)).filter _) = _
  simp only [kept]
  exact flatMap_single targets distinct target asked _

/--
Table importances conserve column importances. Target by target, every table that has columns for it
has exactly one entry, in the order in which the tables appear; the entry sums up these columns, and
has the marker of the last one. So what matters to a target is neither more nor less than before, and
nothing of it comes from columns for other targets.
-/
theorem tables_conserve_importance (columns : List (ImportantColumn α)) (targets : List String)
    (distinct : targets.Nodup) :
    (ofTargets columns targets).map (fun table => (table.target, table.name)) =
      targets.flatMap (fun target => (tablesOf columns target).map fun name => (target, name)) ∧
    ((ofTargets columns targets).map fun table => (table.target, table.name)).Nodup ∧
    (∀ table ∈ ofTargets columns targets, SumsUp columns table) ∧
    ∀ target ∈ targets,
      (((ofTargets columns targets).filter fun table => table.target = target).map
        (·.importance)).sum = total (about columns target) := by
  have keys : (ofTargets columns targets).map (fun table => (table.target, table.name)) =
      targets.flatMap fun target => (tablesOf columns target).map fun name => (target, name) := by
    rw [ofTargets, List.map_flatMap]
    refine List.flatMap_congr fun target _ => ?_
    rw [tablesOf, ← names_ofColumns, List.map_map]
    refine List.map_congr_left fun table member => ?_
    exact congrArg (·, table.name) (sumsUp_of_mem columns target table member).1
  refine ⟨keys, ?_, ?_, ?_⟩
  · rw [keys, List.nodup_flatMap]
    constructor
    · intro target _
      exact (Appearance.nodup_eraseDups _).map fun _ _ same => (Prod.mk.inj same).2
    · refine distinct.imp fun {first second} apart => ?_
      rintro ⟨target, name⟩ one two
      obtain ⟨_, _, ⟨⟩⟩ := List.mem_map.mp one
      obtain ⟨_, _, ⟨⟩⟩ := List.mem_map.mp two
      exact apart rfl
  · intro table member
    obtain ⟨target, _, member⟩ := List.mem_flatMap.mp member
    exact (sumsUp_of_mem columns target table member).2
  · intro target asked
    rw [filter_ofTargets columns targets distinct target asked, total_ofColumns]

def shares : List (ImportantColumn Nat) :=
  [⟨0, "amount", "[POPULATION]", "loans", "default", 25⟩,
    ⟨1, "balance", "[PERIPHERAL]", "trans", "default", 50⟩,
    ⟨0, "balance", "[PERIPHERAL]", "trans", "churn", 100⟩,
    ⟨2, "date", "[PERIPHERAL]", "trans", "default", 25⟩]

theorem tables_conserve_importance_shares : ["default", "churn"].Nodup ∧
    (ofTargets shares ["default", "churn"]).map (fun table => (table.target, table.name)) =
      [("default", "loans"), ("default", "trans"), ("churn", "trans")] ∧
    (((ofTargets shares ["default", "churn"]).filter fun table => table.target = "default").map
      (·.importance)).foldr (· + ·) 0 = 100 := by
  have distinct : ["default", "churn"].Nodup := by decide
  obtain ⟨keys, -, -, conserved⟩ := tables_conserve_importance shares _ distinct
  exact ⟨distinct, keys.trans (by decide), (conserved "default" (by decide)).trans (by decide)⟩

end RelationalLearning.ImportantTable
