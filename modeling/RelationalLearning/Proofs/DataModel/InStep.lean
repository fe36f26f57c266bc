import RelationalLearning.DataModel.StarSchema
import RelationalLearning.Proofs.DataModel.Growth
import RelationalLearning.Proofs.DataModel.Peripheral

/-!
A star schema through all its changes. Data model and container name the same peripheral tables,
so every subset of the container can be passed to a pipeline made of the data model.
-/

namespace RelationalLearning

open Relation (ReflTransGen)

namespace Container

theorem peripheral_addCuts (population : Table) (masks : List (String × Column))
    (container : Container) :
    (addCuts population masks container).2.peripheral = container.peripheral := by
  induction masks generalizing container with
  | nil => rfl
  | cons mask masks ih =>
      rw [addCuts_cons]
      split
      next changed added =>
        obtain ⟨-, rfl⟩ := (container.addSubset_eq_ok changed _ _).mp added
        exact ih _
      next => rfl

theorem peripheral_split (masks : List (String × Column)) (container : Container) :
    (split masks container).2.peripheral = container.peripheral := by
  rcases split_eq masks container with ⟨-, reason, refused⟩ | ⟨population, -, same⟩
  · rw [refused]
  · rw [same]
    exact peripheral_addCuts population masks container

theorem peripheral_randomSplit (fractions : List (String × Float)) (seed : Nat)
    (peripheral : Index Table) :
    Updating.Keeps (fun container => container.peripheral = peripheral)
      (randomSplit fractions seed) := by
  intro container world same
  rcases randomSplit_eq fractions seed container world with ⟨-, reason, refused⟩ | ⟨-, splits⟩
  · rw [refused]
    exact same
  · rw [splits]
    exact (peripheral_split _ container).trans same

end Container

namespace StarSchema

theorem join_eq_ok (star changed : StarSchema) (table : Table) (name : Option String)
    (options : JoinOptions) (id : Nat) (joined : star.join table name options = .ok (id, changed)) :
    (star.model.add ⟨name.getD table.name, table.roles⟩).2.join star.model.population
        star.model.graph.size options = .ok changed.model ∧
      changed.container.peripheral =
        Index.insert (name.getD table.name) table star.container.peripheral := by
  have free : (do
      let model ← (star.model.add ⟨name.getD table.name, table.roles⟩).2.join
        star.model.population star.model.graph.size options
      let container ← star.container.addPeripheral (name.getD table.name) table
      return (star.model.graph.size, ⟨model, container⟩)) = Except.ok (id, changed) := by
    simp only [join] at joined
    split at joined
    next =>
      split at joined
      next => cases joined
      next => exact joined
    next => exact joined
  simp only [Outcome.bind_eq_ok] at free
  obtain ⟨model, linked, container, added, same⟩ := free
  obtain ⟨-, rfl⟩ := Prod.mk.inj (Except.ok.inj same)
  obtain ⟨-, rfl⟩ := star.container.addPeripheral_eq_ok container _ table added
  exact ⟨linked, rfl⟩

/-- The data model and the container name the same peripheral tables. -/
structure InStep (star : StarSchema) : Prop where
  sound : star.model.Sound
  names : star.model.peripheralNames = star.container.peripheral.names
  ordered : star.container.peripheral.Ordered

theorem inStep_create (population : Table) (name : Option String) (star : StarSchema)
    (world last : World)
    (made : (create population name : Client DataError StarSchema) world = (.ok star, last)) :
    star.InStep := by
  obtain ⟨container, later, fresh, same⟩ := (Client.bind_eq_ok _ _ _ _ _).mp made
  obtain ⟨id, latest, -, alone⟩ := (Client.bind_eq_ok _ _ _ _ _).mp fresh
  obtain ⟨rfl, -⟩ := (Client.pure_eq_ok _ _ _ _).mp alone
  obtain ⟨rfl, -⟩ := (Client.pure_eq_ok _ _ _ _).mp same
  exact ⟨DataModel.sound_create _, rfl, List.Pairwise.nil⟩

theorem inStep_ofContainer (container : Container) (name : Option String) (star : StarSchema)
    (ordered : container.peripheral.Ordered) (made : ofContainer container name = .ok star) :
    star.InStep := by
  let placeholders :=
    container.peripheral.map fun entry => entry.2.placeholder (some entry.1)
  obtain ⟨population, rfl⟩ : ∃ population : Table, star =
      ⟨((DataModel.create (population.placeholder name)).addAll placeholders).2, container⟩ := by
    simp only [ofContainer] at made
    split at made
    next population _ => exact ⟨population, (Except.ok.inj made).symm⟩
    next first _ _ _ => exact ⟨first, (Except.ok.inj made).symm⟩
    next => cases made
  have named : placeholders.map (·.name) = container.peripheral.names := by
    simp [placeholders, Index.names, Table.placeholder, Function.comp_def]
  refine ⟨DataModel.sound_addAll _ _ (DataModel.sound_create _), ?_, ordered⟩
  rw [DataModel.addAll_names, named]
  · rfl
  · rw [named]
    exact ordered

theorem inStep_join (star changed : StarSchema) (table : Table) (name : Option String)
    (options : JoinOptions) (id : Nat) (inStep : star.InStep)
    (joined : star.join table name options = .ok (id, changed)) : changed.InStep := by
  obtain ⟨linked, added⟩ := join_eq_ok star changed table name options id joined
  have sound := DataModel.sound_add star.model ⟨name.getD table.name, table.roles⟩ inStep.sound
  refine ⟨DataModel.sound_join _ changed.model _ _ options sound linked, ?_, ?_⟩
  · rw [DataModel.names_join _ changed.model _ _ options linked, added]
    exact Index.names_insert_congr _ _ _ _ _ inStep.names
  · rw [added]
    exact Index.ordered_insert _ table _ inStep.ordered

theorem joinKept_runOn (star : StarSchema) (table : Table) (name : Option String)
    (options : JoinOptions) (world : World) :
    (joinKept table name options).runOn star world =
      match star.join table name options with
      | .ok (id, changed) =>
        let said := s!"Joined '{name.getD table.name}' to the star schema"
        ((.ok id, changed), World.record (.logged ⟨.debug, false, said⟩) world)
      | .error cause => ((.error cause, star), world) := by
  have unfolded : (joinKept table name options).runOn star world =
      (Updating.ofExcept (star.join table name options) >>= fun joined => do
        Updating.replace joined.2
        Updating.ofClient (Client.log .debug s!"Joined '{name.getD table.name}' to the star schema")
        return joined.1).runOn star world := rfl
  rw [unfolded]
  cases star.join table name options with
  | ok result => rfl
  | error cause => rfl

/-- Where a star schema comes from; the names in a container stand in order, each once. -/
inductive Origin : StarSchema → Prop
  | created (population : Table) (name : Option String) (star : StarSchema) (world last : World)
      (made : (create population name : Client DataError StarSchema) world = (.ok star, last)) :
      Origin star
  | around (container : Container) (name : Option String) (star : StarSchema)
      (ordered : container.peripheral.Ordered) (made : ofContainer container name = .ok star) :
      Origin star

/-- What is done to a star schema; subsets can also be added to its container alone. -/
inductive Operation where
  | join (table : Table) (name : Option String) (options : JoinOptions)
  | split (masks : List (String × Column))
  | randomSplit (fractions : List (String × Float)) (seed : Nat)
  | addSubset (name : String) (table : Table)
  | freeze

def Operation.action : Operation → Updating StarSchema DataError Unit
  | .join table name options => do let _ ← joinKept table name options
  | .split masks => StarSchema.split masks
  | .randomSplit fractions seed => StarSchema.randomSplit fractions seed
  | .addSubset name table => onContainer do
      Updating.replace (← Updating.ofExcept ((← Updating.handle).addSubset name table))
  | .freeze => onContainer do Updating.replace (← Updating.handle).freeze

def Step (star next : StarSchema) : Prop :=
  ∃ (operation : Operation) (world : World), (operation.action.runOn star world).1.2 = next

theorem onContainer_eq {α : Type} (action : Updating Container DataError α)
    (same : ∀ peripheral,
      Updating.Keeps (fun container => container.peripheral = peripheral) action)
    (star : StarSchema) (world : World) :
    ((onContainer action).runOn star world).1.2.model = star.model ∧
      ((onContainer action).runOn star world).1.2.container.peripheral =
        star.container.peripheral :=
  ⟨rfl, same star.container.peripheral star.container world rfl⟩

theorem step_cases (star next : StarSchema) (step : Step star next) :
    (∃ table name options id, star.join table name options = .ok (id, next)) ∨
      (next.model = star.model ∧ next.container.peripheral = star.container.peripheral) := by
  obtain ⟨operation, world, rfl⟩ := step
  cases operation with
  | join table name options =>
      have unfolded : (Operation.action (.join table name options)).runOn star world =
          (joinKept table name options >>= fun _ => pure ()).runOn star world := rfl
      rw [unfolded, Updating.runOn_bind, joinKept_runOn]
      cases joined : star.join table name options with
      | ok result => exact .inl ⟨table, name, options, result.1, joined⟩
      | error cause => exact .inr ⟨rfl, rfl⟩
  | split masks =>
      refine .inr (onContainer_eq _ (fun peripheral container world same => ?_) star world)
      exact (container.peripheral_split masks).trans same
  | randomSplit fractions seed =>
      exact .inr (onContainer_eq _ (Container.peripheral_randomSplit fractions seed) star world)
  | addSubset name table =>
      refine .inr (onContainer_eq _ (fun peripheral container world same => ?_) star world)
      refine Updating.keeps_ofExcept_bind (fun changed => changed.peripheral = peripheral)
        (container.addSubset name table) _ ?_ container world same
      intro changed added
      obtain ⟨-, rfl⟩ := (container.addSubset_eq_ok changed name table).mp added
      exact Updating.keeps_replace _ _ same
  | freeze =>
      refine .inr (onContainer_eq _ (fun _ _ _ same => ?_) star world)
      exact same

theorem inStep_step (star next : StarSchema) (inStep : star.InStep) (step : Step star next) :
    next.InStep := by
  rcases step_cases star next step with ⟨table, name, options, id, joined⟩ | ⟨model, peripheral⟩
  · exact inStep_join star next table name options id inStep joined
  · constructor
    · rw [model]
      exact inStep.sound
    · rw [model, peripheral]
      exact inStep.names
    · rw [peripheral]
      exact inStep.ordered

theorem inStep_of_origin (star : StarSchema) (origin : Origin star) : star.InStep := by
  cases origin with
  | created population name star world last made =>
      exact inStep_create population name star world last made
  | around container name star ordered made =>
      exact inStep_ofContainer container name star ordered made

theorem inStep_of_steps (start star : StarSchema) (inStep : start.InStep)
    (steps : ReflTransGen Step start star) : star.InStep := by
  induction steps with
  | refl => exact inStep
  | tail _ step ih => exact inStep_step _ _ ih step

/--
Through all successes and failures the data model and the container name the same peripheral
tables, a join that fails changes neither, and a pipeline made of the data model finds all its
tables in every subset, each under its own name.
-/
theorem model_container_agree (start star : StarSchema) (origin : Origin start)
    (steps : ReflTransGen Step start star) :
    star.model.peripheralNames = star.container.peripheral.names ∧
    star.container.peripheral.names.Pairwise (· < ·) ∧
    (∀ table name options world changed last cause,
      (joinKept table name options).runOn star world = ((.error cause, changed), last) →
        changed = star) ∧
    ∀ (blueprint : Blueprint) (name : String), blueprint.dataModel = star.model →
      blueprint.peripheral = none → name ∈ star.container.subsets.names →
        ∃ subset names tables, star.container.subset name = .ok subset ∧
          blueprint.peripheralNames = .ok names ∧
          blueprint.orderPeripheral subset.peripheral = .ok tables ∧
          List.Forall₂ (fun name table => subset.peripheral.lookup name = some table) names tables := by
  have inStep := inStep_of_steps start star (inStep_of_origin start origin) steps
  refine ⟨inStep.names, inStep.ordered, ?_, ?_⟩
  · intro table name options world changed last cause failed
    rw [joinKept_runOn] at failed
    split at failed
    next => cases failed
    next => exact (congrArg (·.1.2) failed).symm
  · intro blueprint name same derived member
    obtain ⟨population, found⟩ :=
      Option.isSome_iff_exists.mp ((Index.lookup_isSome _ _).mpr member)
    have sound : blueprint.dataModel.Sound := same ▸ inStep.sound
    obtain ⟨names, needed, -, -⟩ := blueprint.peripheralNames_eq sound
    obtain ⟨tables, ordered⟩ := blueprint.orderPeripheral_isOk star.container.peripheral sound
      derived (same ▸ inStep.names)
    have held : star.container.subset name =
        .ok ⟨star.container.id, name, population, star.container.peripheral⟩ := by
      rw [Container.subset, found]
    exact ⟨_, names, tables, held, needed, ordered,
      blueprint.orderPeripheral_eq_ok _ tables names needed ordered⟩

def after (star : StarSchema) (operations : List Operation) : StarSchema :=
  operations.foldl (fun star operation => (operation.action.runOn star {}).1.2) star

theorem steps_after (star : StarSchema) (operations : List Operation) :
    ReflTransGen Step star (star.after operations) := by
  induction operations generalizing star with
  | nil => exact .refl
  | cons operation operations ih => exact .head ⟨operation, {}, rfl⟩ (ih _)

def loans : Table :=
  .frame { name := "loans", roles := { joinKey := ["id"], target := ["default"] } }

def transfers : Table :=
  .frame { name := "transfers", roles := { joinKey := ["loan"], numerical := ["sum"] } }

/-- Of these joins two succeed; the others clash, miss a column or come too late. -/
def lending : List Operation :=
  [.join transfers none { on := [("id", "loan")] }, .join loans (some "transfers") {},
    .join transfers (some "old") { on := [("id", "missing")] }, .addSubset "train" loans,
    .join transfers (some "early") { on := [("id", "loan")] }, .freeze,
    .join transfers (some "late") { on := [("id", "loan")] }]

def lent : StarSchema :=
  after ⟨.create (loans.placeholder none), { id := "id0000", population := some loans }⟩ lending

theorem model_container_agree_lent : lent.model.peripheralNames = ["early", "transfers"] ∧
    lent.container.peripheral.names = ["early", "transfers"] ∧
    ∃ subset tables, lent.container.subset "train" = .ok subset ∧
      ({ dataModel := lent.model } : Blueprint).orderPeripheral subset.peripheral = .ok tables := by
  obtain ⟨same, -, -, passed⟩ := model_container_agree _ lent
    (.created loans none _ {} { names := 1 } rfl) (steps_after _ lending)
  have names : lent.model.peripheralNames = ["early", "transfers"] := by decide
  obtain ⟨subset, needed, tables, held, -, ordered, -⟩ :=
    passed { dataModel := lent.model } "train" rfl rfl (by decide)
  exact ⟨names, same ▸ names, subset, tables, held, ordered⟩

end StarSchema
end RelationalLearning
