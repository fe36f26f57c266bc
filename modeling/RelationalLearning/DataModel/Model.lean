import RelationalLearning.DataModel.Graph

namespace RelationalLearning

structure DataModel where
  graph : PlaceholderGraph
  population : Nat
  peripheral : Index (List Nat) := []
  deriving BEq, Repr

namespace DataModel

def create (population : Placeholder) : DataModel := ⟨({} : PlaceholderGraph).add population, 0, []⟩

def ofName (name : String) : DataModel := create ⟨name, .empty⟩

def add (model : DataModel) (placeholder : Placeholder) : Nat × DataModel :=
  let id := model.graph.size
  let present := (model.peripheral.lookup placeholder.name).getD []
  (id, { model with
    graph := model.graph.add placeholder
    peripheral := Index.insert placeholder.name (present ++ [id]) model.peripheral })

def addAll (model : DataModel) : List Placeholder → List Nat × DataModel
  | [] => ([], model)
  | placeholder :: rest =>
    let (id, model) := model.add placeholder
    let (ids, model) := model.addAll rest
    (id :: ids, model)

/-- The placeholders of a name; `population` always means the population. -/
def get (model : DataModel) (name : String) : Except DataError (List Nat) := do
  if name = "population" then return [model.population]
  if name = (← model.graph.placeholder model.population).name then return [model.population]
  match model.peripheral.lookup name with
  | some ids => return ids
  | none => throw (.key s!"No placeholder called '{name}' in the data model.")

def getOne (model : DataModel) (name : String) : Except DataError Nat := do
  match ← model.get name with
  | [id] => return id
  | ids => throw (.key s!"There are {ids.length} placeholders called '{name}'. Use get() to pick one.")

def join (model : DataModel) (left right : Nat) (options : JoinOptions) : Except DataError DataModel :=
  (model.graph.join left right options).map fun graph => { model with graph }

def peripheralNames (model : DataModel) : List String := model.peripheral.names

/-- The population under its own name and as `population`, then all other names. -/
def names (model : DataModel) : List String :=
  let own := match model.graph.placeholder model.population with
    | .ok placeholder => [placeholder.name]
    | .error _ => []
  own ++ ["population"] ++ model.peripheralNames

def entryCommand (model : DataModel) : List Nat → Except DataError Json
  | [id] => model.graph.toCommand id
  | ids => return .array (← ids.mapM model.graph.toCommand)

def toCommand (model : DataModel) : Except DataError Json := do
  let command ← model.graph.toCommand model.population
  let peripheral ← model.peripheral.mapM fun (name, ids) => do return (name, ← model.entryCommand ids)
  return command.set "peripheral_" (.record peripheral)

def display (model : DataModel) : Except DataError String := do
  let ids ← model.graph.toList model.population
  return Text.join "\n" (← ids.mapM model.graph.describe)

end DataModel
end RelationalLearning
