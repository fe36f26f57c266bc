import RelationalLearning.DataModel.Container
import RelationalLearning.DataModel.Model

namespace RelationalLearning

def Table.placeholder (table : Table) (name : Option String) : Placeholder :=
  ⟨name.getD table.name, table.roles⟩

structure StarSchema where
  model : DataModel
  container : Container
  deriving Repr

namespace StarSchema

def create {ε : Type} (population : Table) (name : Option String) : Client ε StarSchema := do
  return ⟨.create (population.placeholder name), ← Container.create (some population)⟩

/-- Around the population of a container, or its first subset if it has none. -/
def ofContainer (container : Container) (name : Option String) : Except DataError StarSchema := do
  let population ←
    match container.population, container.subsets with
    | some population, _ => pure population
    | none, (_, first) :: _ => pure first
    | none, [] => throw (.value "The container holds no tables.")
  let placeholders := container.peripheral.map fun (name, table) => table.placeholder (some name)
  return ⟨((DataModel.create (population.placeholder name)).addAll placeholders).2, container⟩

/-- Joins a table to the population; model and container change together or not at all. -/
def join (star : StarSchema) (table : Table) (name : Option String) (options : JoinOptions) :
    Except DataError (Nat × StarSchema) := do
  let name := name.getD table.name
  match star.container.peripheral.lookup name with
  | some present =>
    if present.name ≠ table.name then
      throw (.value s!"The name '{name}' is already used by '{present.name}'.")
  | none => pure ()
  let (id, model) := star.model.add (table.placeholder (some name))
  let model ← model.join model.population id options
  let container ← star.container.addPeripheral name table
  return (id, ⟨model, container⟩)

def joinKept (table : Table) (name : Option String) (options : JoinOptions) :
    Updating StarSchema DataError Nat := do
  let star ← Updating.handle
  let (id, star) ← Updating.ofExcept (star.join table name options)
  Updating.replace star
  let joined := name.getD table.name
  Updating.ofClient (Client.log .debug s!"Joined '{joined}' to the star schema")
  return id

def onContainer {α : Type} (action : Updating Container DataError α) : Updating StarSchema DataError α :=
  Updating.onPart (·.container) (fun container star => { star with container }) action

def split (masks : List (String × Column)) : Updating StarSchema DataError Unit :=
  onContainer (Updating.ofState (Container.split masks))

def randomSplit (fractions : List (String × Float)) (seed : Nat) : Updating StarSchema DataError Unit :=
  onContainer (Container.randomSplit fractions seed)

def display (star : StarSchema) : Except DataError String := do
  return (← star.model.display) ++ star.container.display

end StarSchema

/-- A star schema whose population is joined to itself. -/
structure TimeSeries where
  star : StarSchema
  selfJoin : Nat
  deriving Repr

namespace TimeSeries

def create (population : Table) (name : Option String) (options : JoinOptions) :
    Client DataError TimeSeries := do
  if options.timeStamps.isNone then throw (.value "A time series needs time stamps to join on.")
  let star ← StarSchema.create population (some "population")
  fun world =>
    let ((result, star), world) := StarSchema.joinKept population name options star world
    (result.map fun selfJoin => ⟨star, selfJoin⟩, world)

end TimeSeries
end RelationalLearning
