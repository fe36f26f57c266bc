import Mathlib.Logic.Relation
import RelationalLearning.DataModel.Container
import RelationalLearning.Proofs.Engine.Steps
import RelationalLearning.Proofs.Index

/-!
Containers over runs of operations. Tables are only ever added, subsets under new names alone, and a
container that was frozen stays as it is.
-/

namespace RelationalLearning.Container

open Relation (ReflTransGen)

theorem checkMutable_eq_ok (container : Container) :
    container.checkMutable = .ok () ↔ container.frozen = false := by
  unfold checkMutable
  split <;> simp_all

theorem checkMutable_of_frozen (container : Container) (frozen : container.frozen = true) :
    ∃ reason, container.checkMutable = .error (.value reason) := by
  unfold checkMutable
  rw [if_pos frozen]
  exact ⟨_, rfl⟩

theorem addPeripheral_eq_ok (container changed : Container) (name : String) (table : Table)
    (added : container.addPeripheral name table = .ok changed) :
    container.frozen = false ∧
      changed = { container with peripheral := .insert name table container.peripheral } := by
  simp only [addPeripheral, Outcome.bind_eq_ok] at added
  obtain ⟨⟨⟩, unlocked, ⟨⟩, -, added⟩ := added
  exact ⟨container.checkMutable_eq_ok.mp unlocked, (Except.ok.inj added).symm⟩

structure Free (container : Container) (name : String) : Prop where
  unlocked : container.frozen = false
  valid : checkName name "subset name" = .ok ()
  new : container.subsets.lookup name = none

theorem addSubset_eq_ok (container changed : Container) (name : String) (table : Table) :
    container.addSubset name table = .ok changed ↔
      container.Free name ∧
        changed = { container with subsets := .insert name table container.subsets } := by
  simp only [addSubset, Outcome.bind_eq_ok]
  constructor
  · rintro ⟨⟨⟩, unlocked, ⟨⟩, valid, added⟩
    split at added
    next => cases added
    next absent =>
      refine ⟨⟨container.checkMutable_eq_ok.mp unlocked, valid, ?_⟩, (Except.ok.inj added).symm⟩
      exact Option.not_isSome_iff_eq_none.mp absent
  · rintro ⟨free, rfl⟩
    have absent : ¬ container.subsets.has name := Option.not_isSome_iff_eq_none.mpr free.new
    refine ⟨⟨⟩, container.checkMutable_eq_ok.mpr free.unlocked, ⟨⟩, free.valid, ?_⟩
    rw [if_neg absent]
    rfl

theorem addPeripheral_of_frozen (container : Container) (name : String) (table : Table)
    (frozen : container.frozen = true) :
    ∃ reason, container.addPeripheral name table = .error (.value reason) := by
  obtain ⟨reason, refused⟩ := container.checkMutable_of_frozen frozen
  exact ⟨reason, by rw [addPeripheral, refused]; rfl⟩

theorem addSubset_of_frozen (container : Container) (name : String) (table : Table)
    (frozen : container.frozen = true) :
    ∃ reason, container.addSubset name table = .error (.value reason) := by
  obtain ⟨reason, refused⟩ := container.checkMutable_of_frozen frozen
  exact ⟨reason, by rw [addSubset, refused]; rfl⟩

theorem addCuts_cons (population : Table) (name : String) (mask : Column)
    (masks : List (String × Column)) (container : Container) :
    addCuts population ((name, mask) :: masks) container =
      match container.addSubset name (cut population name mask) with
      | .ok changed => addCuts population masks changed
      | .error cause => (.error cause, container) := by
  have unfolded : addCuts population ((name, mask) :: masks) container =
      ExceptT.bindCont (fun changed => do set changed; addCuts population masks)
        (container.addSubset name (cut population name mask)) container := rfl
  rw [unfolded]
  cases container.addSubset name (cut population name mask) with
  | ok changed => rfl
  | error cause => rfl

theorem split_eq (masks : List (String × Column)) (container : Container) :
    (container.population = none ∧
      ∃ reason, split masks container = (.error (.value reason), container)) ∨
    ∃ population, container.population = some population ∧
      split masks container = addCuts population masks container := by
  obtain ⟨id, population, peripheral, subsets, frozen⟩ := container
  cases population with
  | some population => exact .inr ⟨population, rfl, rfl⟩
  | none => exact .inl ⟨rfl, _, rfl⟩

/-- Whether fractions can be parts of one whole; a little more than the whole passes, as rounding may add it. -/
def Fit (fractions : List (String × Float)) : Prop :=
  (∀ part ∈ fractions, ¬ part.2 ≤ 0.0) ∧ ¬ (fractions.map (·.2)).foldl (· + ·) 0.0 > 1.0 + epsilon

theorem randomSplit_eq (fractions : List (String × Float)) (seed : Nat) (container : Container)
    (world : World) :
    (¬ Fit fractions ∧ ∃ reason, ((randomSplit fractions seed).runOn container world).1 =
      (.error (.value reason), container)) ∨
    Fit fractions ∧ ((randomSplit fractions seed).runOn container world).1 =
      split (fractionMasks (.random seed) fractions) container := by
  unfold randomSplit
  dsimp only
  split
  next refused =>
    refine .inl ⟨fun fit => ?_, _, rfl⟩
    simp only [Bool.or_eq_true, List.any_eq_true, decide_eq_true_eq] at refused
    rcases refused with ⟨part, member, small⟩ | large
    · exact fit.1 part member small
    · exact fit.2 large
  next accepted =>
    simp only [Bool.or_eq_true, List.any_eq_true, decide_eq_true_eq] at accepted
    refine .inr ⟨⟨fun part member small => ?_, fun large => ?_⟩, rfl⟩
    · exact accepted (.inl ⟨part, member, small⟩)
    · exact accepted (.inr large)

inductive Adds (container : Container) : Container → Prop
  | peripheral (name : String) (table : Table) (unlocked : container.frozen = false) :
      Adds container { container with peripheral := .insert name table container.peripheral }
  | subset (name : String) (table : Table) (unlocked : container.frozen = false)
      (new : container.subsets.lookup name = none) :
      Adds container { container with subsets := .insert name table container.subsets }

theorem adds_addPeripheral (container changed : Container) (name : String) (table : Table)
    (added : container.addPeripheral name table = .ok changed) : container.Adds changed := by
  obtain ⟨unlocked, rfl⟩ := container.addPeripheral_eq_ok changed name table added
  exact .peripheral name table unlocked

theorem adds_addSubset (container changed : Container) (name : String) (table : Table)
    (added : container.addSubset name table = .ok changed) : container.Adds changed := by
  obtain ⟨free, rfl⟩ := (container.addSubset_eq_ok changed name table).mp added
  exact .subset name table free.unlocked free.new

theorem adds_addCuts (population : Table) (masks : List (String × Column)) (container : Container) :
    ReflTransGen Adds container (addCuts population masks container).2 := by
  induction masks generalizing container with
  | nil => exact .refl
  | cons mask masks ih =>
      rw [addCuts_cons]
      split
      next changed added => exact .head (container.adds_addSubset changed _ _ added) (ih changed)
      next => exact .refl

theorem adds_split (masks : List (String × Column)) (container : Container) :
    ReflTransGen Adds container (split masks container).2 := by
  rcases split_eq masks container with ⟨-, reason, refused⟩ | ⟨population, -, same⟩
  · rw [refused]
  · rw [same]
    exact adds_addCuts population masks container

inductive Operation where
  | addPeripheral (name : String) (table : Table)
  | addSubset (name : String) (table : Table)
  | split (masks : List (String × Column))
  | randomSplit (fractions : List (String × Float)) (seed : Nat)
  | subset (name : String)
  | freeze

def changed (change : Container → Except DataError Container) : Updating Container DataError Unit := do
  Updating.replace (← Updating.ofExcept (change (← Updating.handle)))

def Operation.action : Operation → Updating Container DataError Unit
  | .addPeripheral name table => changed (·.addPeripheral name table)
  | .addSubset name table => changed (·.addSubset name table)
  | .split masks => Updating.ofState (Container.split masks)
  | .randomSplit fractions seed => Container.randomSplit fractions seed
  | .subset name => do
      let _ ← Updating.ofExcept ((← Updating.handle).subset name)
  | .freeze => changed (.ok ·.freeze)

def Operation.run (operation : Operation) (container : Container) (world : World) :
    Except DataError Unit × Container :=
  (operation.action.runOn container world).1

def Operation.Puts : Operation → Prop
  | .addPeripheral _ _ | .addSubset _ _ => True
  | .split masks => masks ≠ []
  | .randomSplit fractions _ => fractions ≠ []
  | .subset _ | .freeze => False

theorem run_changed (change : Container → Except DataError Container) (container : Container)
    (world : World) :
    ((changed change).runOn container world).1 =
      match change container with
      | .ok changed => (.ok (), changed)
      | .error cause => (.error cause, container) := by
  have unfolded : ((changed change).runOn container world).1 =
      ((Updating.ofExcept (change container) >>= fun changed => Updating.replace changed).runOn
        container world).1 := rfl
  rw [unfolded]
  cases change container with
  | ok changed => rfl
  | error cause => rfl

theorem run_subset (name : String) (container : Container) (world : World) :
    ((Operation.subset name).run container world).2 = container := by
  have unfolded : (Operation.subset name).run container world =
      ((Updating.ofExcept (container.subset name) >>= fun _ => pure ()).runOn
        container world).1 := rfl
  rw [unfolded]
  cases container.subset name with
  | ok subset => rfl
  | error cause => rfl

def Step (container next : Container) : Prop :=
  ∃ (operation : Operation) (world : World), (operation.run container world).2 = next

theorem step_cases (container next : Container) (step : Step container next) :
    ReflTransGen Adds container next ∨ next = container.freeze := by
  obtain ⟨operation, world, rfl⟩ := step
  cases operation with
  | addPeripheral name table =>
      left
      rw [Operation.run, Operation.action, run_changed]
      split
      next changed added => exact .single (container.adds_addPeripheral changed name table added)
      next => exact .refl
  | addSubset name table =>
      left
      rw [Operation.run, Operation.action, run_changed]
      split
      next changed added => exact .single (container.adds_addSubset changed name table added)
      next => exact .refl
  | split masks => exact .inl (adds_split masks container)
  | randomSplit fractions seed =>
      left
      rw [Operation.run, Operation.action]
      rcases randomSplit_eq fractions seed container world with ⟨-, reason, refused⟩ | ⟨-, same⟩
      · rw [refused]
      · rw [same]
        exact adds_split _ container
  | subset name =>
      left
      rw [run_subset]
  | freeze => exact .inr rfl

structure Kept (earlier later : Container) : Prop where
  population : later.population = earlier.population
  subsets : ∀ name table, earlier.subsets.lookup name = some table →
    later.subsets.lookup name = some table
  peripheral : ∀ name ∈ earlier.peripheral.names, name ∈ later.peripheral.names
  final : earlier.frozen = true → later = earlier

theorem Kept.refl (container : Container) : container.Kept container :=
  ⟨rfl, fun _ _ found => found, fun _ member => member, fun _ => rfl⟩

theorem Kept.trans {first second third : Container} (one : first.Kept second)
    (two : second.Kept third) : first.Kept third := by
  refine ⟨two.population.trans one.population, ?_, ?_, ?_⟩
  · exact fun name table found => two.subsets name table (one.subsets name table found)
  · exact fun name member => two.peripheral name (one.peripheral name member)
  · intro frozen
    obtain rfl := one.final frozen
    exact two.final frozen

theorem kept_adds (container next : Container) (adds : container.Adds next) :
    container.Kept next := by
  cases adds with
  | peripheral name table unlocked =>
      refine ⟨rfl, fun _ _ found => found, ?_, ?_⟩
      · intro other member
        exact (Index.mem_names_insert name other table container.peripheral).mpr (.inr member)
      · intro frozen
        rw [unlocked] at frozen
        cases frozen
  | subset name table unlocked new =>
      refine ⟨rfl, ?_, fun _ member => member, ?_⟩
      · intro other present found
        have apart : other ≠ name := by
          rintro rfl
          rw [new] at found
          cases found
        rw [Index.lookup_insert, if_neg apart]
        exact found
      · intro frozen
        rw [unlocked] at frozen
        cases frozen

theorem kept_freeze (container : Container) : container.Kept container.freeze := by
  refine ⟨rfl, fun _ _ found => found, fun _ member => member, ?_⟩
  intro frozen
  rw [freeze, ← frozen]

theorem kept_additions (container next : Container)
    (additions : ReflTransGen Adds container next) : container.Kept next := by
  induction additions with
  | refl => exact .refl container
  | tail _ adds ih => exact ih.trans (kept_adds _ _ adds)

theorem kept_step (container next : Container) (step : Step container next) :
    container.Kept next := by
  rcases step_cases container next step with additions | rfl
  · exact container.kept_additions next additions
  · exact container.kept_freeze

theorem kept_steps (start later : Container) (steps : ReflTransGen Step start later) :
    start.Kept later := by
  induction steps with
  | refl => exact .refl start
  | tail _ step ih => exact ih.trans (kept_step _ _ step)

theorem addCuts_of_frozen (population : Table) (masks : List (String × Column))
    (container : Container) (frozen : container.frozen = true) (some : masks ≠ []) :
    ∃ reason, (addCuts population masks container).1 = .error (.value reason) := by
  obtain ⟨⟨name, mask⟩, masks, rfl⟩ := List.exists_cons_of_ne_nil some
  obtain ⟨reason, refused⟩ :=
    container.addSubset_of_frozen name (cut population name mask) frozen
  exact ⟨reason, by rw [addCuts_cons, refused]⟩

theorem split_of_frozen (masks : List (String × Column)) (container : Container)
    (frozen : container.frozen = true) (some : masks ≠ []) :
    ∃ reason, (split masks container).1 = .error (.value reason) := by
  rcases split_eq masks container with ⟨-, reason, refused⟩ | ⟨population, -, same⟩
  · exact ⟨reason, by rw [refused]⟩
  · rw [same]
    exact addCuts_of_frozen population masks container frozen some

theorem fractionMasks_ne_nil (draw : Column) (fractions : List (String × Float))
    (some : fractions ≠ []) : fractionMasks draw fractions ≠ [] := by
  obtain ⟨⟨name, fraction⟩, fractions, rfl⟩ := List.exists_cons_of_ne_nil some
  exact List.cons_ne_nil _ _

theorem run_of_frozen (operation : Operation) (container : Container) (world : World)
    (frozen : container.frozen = true) (puts : operation.Puts) :
    ∃ reason, (operation.run container world).1 = .error (.value reason) := by
  cases operation with
  | addPeripheral name table =>
      obtain ⟨reason, refused⟩ := container.addPeripheral_of_frozen name table frozen
      exact ⟨reason, by rw [Operation.run, Operation.action, run_changed, refused]⟩
  | addSubset name table =>
      obtain ⟨reason, refused⟩ := container.addSubset_of_frozen name table frozen
      exact ⟨reason, by rw [Operation.run, Operation.action, run_changed, refused]⟩
  | split masks => exact split_of_frozen masks container frozen puts
  | randomSplit fractions seed =>
      rw [Operation.run, Operation.action]
      rcases randomSplit_eq fractions seed container world with ⟨-, reason, refused⟩ | ⟨-, same⟩
      · exact ⟨reason, by rw [refused]⟩
      · rw [same]
        exact split_of_frozen _ container frozen (fractionMasks_ne_nil _ fractions puts)
  | subset name => exact puts.elim
  | freeze => exact puts.elim

/--
Over any run the population stays, every subset keeps its table, and no peripheral name is lost. Once
the container was frozen it does not change any more, and all that would put a table into it fails.
-/
theorem grows_until_frozen (start later : Container) (steps : ReflTransGen Step start later) :
    start.Kept later ∧
      ∀ before : Container, start = before.freeze → later = start ∧
        ∀ (operation : Operation) (world : World), (operation.run later world).2 = later ∧
          (operation.Puts → ∃ reason, (operation.run later world).1 = .error (.value reason)) := by
  have kept := kept_steps start later steps
  refine ⟨kept, ?_⟩
  rintro before rfl
  obtain rfl := kept.final rfl
  refine ⟨rfl, fun operation world => ⟨?_, fun puts => ?_⟩⟩
  · exact (kept_step _ _ ⟨operation, world, rfl⟩).final rfl
  · exact run_of_frozen operation _ world rfl puts

def after (container : Container) (operations : List Operation) : Container :=
  operations.foldl (fun container operation => (operation.run container {}).2) container

theorem steps_after (container : Container) (operations : List Operation) :
    ReflTransGen Step container (container.after operations) := by
  induction operations generalizing container with
  | nil => exact .refl
  | cons operation operations ih => exact .head ⟨operation, {}, rfl⟩ (ih _)

def orders : Table :=
  .frame { name := "orders", roles := { joinKey := ["id"], target := ["late"] } }

def items : Table :=
  .frame { name := "items", roles := { joinKey := ["order"], numerical := ["price"] } }

def filling : List Operation :=
  [.addPeripheral "items" items, .addSubset "train" orders, .addSubset "train" items,
    .randomSplit [("test", 0.25)] 1]

def overfilling : List Operation :=
  [.addPeripheral "items" orders, .split [("valid", .rowid)], .subset "test"]

def filled : Container := after { id := "id0000", population := some orders } filling

theorem grows_until_frozen_filled :
    filled.subsets.lookup "train" = some orders ∧ "items" ∈ filled.peripheral.names ∧
      filled.subsets.names = ["test", "train"] ∧
      after filled.freeze overfilling = filled.freeze ∧
      ∃ reason, ((Operation.addSubset "valid" orders).run filled.freeze {}).1 =
        .error (.value reason) := by
  let started : Container := after { id := "id0000", population := some orders } (filling.take 2)
  obtain ⟨kept, -⟩ := grows_until_frozen started filled (steps_after started (filling.drop 2))
  obtain ⟨-, final⟩ := grows_until_frozen filled.freeze (after filled.freeze overfilling)
    (steps_after filled.freeze overfilling)
  obtain ⟨same, late⟩ := final filled rfl
  rw [same] at late
  exact ⟨kept.subsets "train" orders rfl, kept.peripheral "items" (by decide), by decide +kernel, same,
    (late (.addSubset "valid" orders) {}).2 trivial⟩

end RelationalLearning.Container
