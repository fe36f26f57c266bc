import RelationalLearning.Proofs.DataModel.InStep

namespace RelationalLearning.StarSchema

open Relation (ReflTransGen)

def StandsFor (star : StarSchema) (bound called : String) : Prop :=
  ∃ table, star.container.peripheral.lookup bound = some table ∧ table.name = called

theorem same_name_of_join (star changed : StarSchema) (table present : Table)
    (name : Option String) (options : JoinOptions) (id : Nat)
    (joined : star.join table name options = .ok (id, changed))
    (found : star.container.peripheral.lookup (name.getD table.name) = some present) :
    present.name = table.name := by
  by_contra other
  simp only [join, found, ne_eq, other, not_false_eq_true, if_true] at joined
  cases joined

theorem lookup_join (star changed : StarSchema) (table : Table) (name : Option String)
    (options : JoinOptions) (id : Nat) (bound : String)
    (joined : star.join table name options = .ok (id, changed)) :
    changed.container.peripheral.lookup bound =
      if bound = name.getD table.name then some table
      else star.container.peripheral.lookup bound := by
  obtain ⟨-, added⟩ := join_eq_ok star changed table name options id joined
  rw [added, Index.lookup_insert]

theorem standsFor_join (star changed : StarSchema) (table : Table) (name : Option String)
    (options : JoinOptions) (id : Nat) (bound called : String)
    (stands : star.StandsFor bound called)
    (joined : star.join table name options = .ok (id, changed)) :
    changed.StandsFor bound called := by
  obtain ⟨present, found, same⟩ := stands
  have after := lookup_join star changed table name options id bound joined
  by_cases here : bound = name.getD table.name
  · rw [if_pos here] at after
    have named := same_name_of_join star changed table present name options id joined (here ▸ found)
    exact ⟨table, after, named.symm.trans same⟩
  · rw [if_neg here] at after
    exact ⟨present, after.trans found, same⟩

theorem standsFor_step (star next : StarSchema) (bound called : String)
    (stands : star.StandsFor bound called) (step : Step star next) :
    next.StandsFor bound called := by
  rcases step_cases star next step with ⟨table, name, options, id, joined⟩ | ⟨-, peripheral⟩
  · exact standsFor_join star next table name options id bound called stands joined
  · rw [StandsFor, peripheral]
    exact stands

theorem standsFor_of_steps (start star : StarSchema) (bound called : String)
    (stands : start.StandsFor bound called) (steps : ReflTransGen Step start star) :
    star.StandsFor bound called := by
  induction steps with
  | refl => exact stands
  | tail _ step ih => exact standsFor_step _ _ bound called ih step

/--
Through all successes and failures a bound name stays bound, to a table of the same name. A join
leaves the very table behind every name, but for one: where a different table of the same name is
joined under the name, the join puts it in the place of the one before.
-/
theorem bound_names_stay (start star changed : StarSchema) (table : Table) (name : Option String)
    (options : JoinOptions) (id : Nat) (steps : ReflTransGen Step start star)
    (joined : star.join table name options = .ok (id, changed)) :
    (∀ bound called, start.StandsFor bound called → changed.StandsFor bound called) ∧
    ∀ bound present, star.container.peripheral.lookup bound = some present →
      changed.container.peripheral.lookup bound = some present ∨
        (bound = name.getD table.name ∧ present ≠ table ∧ present.name = table.name ∧
          changed.container.peripheral.lookup bound = some table) := by
  constructor
  · intro bound called stands
    have before := standsFor_of_steps start star bound called stands steps
    exact standsFor_join star changed table name options id bound called before joined
  · intro bound present found
    have after := lookup_join star changed table name options id bound joined
    by_cases here : bound = name.getD table.name
    · rw [if_pos here] at after
      have named := same_name_of_join star changed table present name options id joined
        (here ▸ found)
      by_cases same : present = table
      · exact .inl (same ▸ after)
      · exact .inr ⟨here, same, named, after⟩
    · rw [if_neg here] at after
      exact .inl (after.trans found)

def transferred : StarSchema :=
  after ⟨.create (loans.placeholder none), { id := "id0000", population := some loans }⟩
    [.join transfers (some "moves") { on := [("id", "loan")] }]

def bareTransfers : Table := .view transfers { dropped := ["sum"], initialLastChange := "" }

theorem bound_names_stay_transferred :
    ∃ id changed, transferred.join bareTransfers (some "moves") { on := [("id", "loan")] } =
        .ok (id, changed) ∧
      changed.StandsFor "moves" "transfers" ∧
      changed.container.peripheral.lookup "moves" = some bareTransfers := by
  refine ⟨_, _, rfl, ?_⟩
  obtain ⟨stays, each⟩ := bound_names_stay transferred transferred _ bareTransfers (some "moves")
    { on := [("id", "loan")] } _ .refl rfl
  constructor
  · exact stays "moves" "transfers" ⟨transfers, rfl, rfl⟩
  · rcases each "moves" transfers rfl with kept | ⟨-, -, -, replaced⟩
    · cases kept
    · exact replaced

/-- A second join under a name can put a view into the place of the table that it is a view of. -/
theorem join_rebinds : ¬ ∀ start star changed table name options id bound present,
    Origin start → ReflTransGen Step start star →
      star.join table name options = .ok (id, changed) →
        star.container.peripheral.lookup bound = some present →
          changed.container.peripheral.lookup bound = some present := by
  intro kept
  have same := kept _ transferred _ bareTransfers (some "moves") { on := [("id", "loan")] } _
    "moves" transfers (.created loans none _ {} { names := 1 } rfl) (steps_after _ _) rfl rfl
  cases same

end RelationalLearning.StarSchema
