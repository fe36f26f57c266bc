import RelationalLearning.Table.View

namespace RelationalLearning

structure Subset where
  container : String
  name : String
  population : Table
  peripheral : Index Table
  deriving Repr

structure Container where
  id : String
  population : Option Table := none
  peripheral : Index Table := []
  subsets : Index Table := []
  frozen : Bool := false
  deriving Repr

namespace Container

def create {ε : Type} (population : Option Table) : Client ε Container := do
  return { id := ← Client.freshName, population }

def checkMutable (container : Container) : Except DataError Unit :=
  if container.frozen then
    .error (.value s!"Container '{container.id}' is frozen and cannot be changed.")
  else .ok ()

def checkName (name what : String) : Except DataError Unit :=
  match Validation.name name what with
  | .ok () => .ok ()
  | .error reason => .error (.value reason)

def addPeripheral (container : Container) (name : String) (table : Table) : Except DataError Container := do
  container.checkMutable
  checkName name "peripheral name"
  return { container with peripheral := Index.insert name table container.peripheral }

def addSubset (container : Container) (name : String) (table : Table) : Except DataError Container := do
  container.checkMutable
  checkName name "subset name"
  if container.subsets.has name then throw (.value s!"Subset '{name}' already exists.")
  return { container with subsets := Index.insert name table container.subsets }

def cut (population : Table) (name : String) (mask : Column) : Table :=
  (((View.ofTable population).subselected mask).named s!"{population.name}_{name}").table

/-- Adds one subset after another; those before a failure stay. -/
def addCuts (population : Table) : List (String × Column) → ExceptT DataError (StateM Container) Unit
  | [] => pure ()
  | (name, mask) :: rest => do
    let container ← get
    let container ← liftM (container.addSubset name (cut population name mask))
    set container
    addCuts population rest

def split (masks : List (String × Column)) : ExceptT DataError (StateM Container) Unit := do
  match (← get).population with
  | some population => addCuts population masks
  | none => throw (.value "A container without a population table cannot be split.")

def consecutive {α : Type} [Add α] : α → List (String × α) → List (String × α × α)
  | _, [] => []
  | lower, (name, size) :: rest => (name, lower, lower + size) :: consecutive (lower + size) rest

def between (draw : Column) (lower upper : Float) : Column :=
  let bound (value : Float) : Operand := .literal (.number value)
  let late := Column.combine .boolean .greaterEqual draw (bound lower)
  let early := Column.combine .boolean .less draw (bound upper)
  .combine .boolean .and late (.column early)

def fractionMasks (draw : Column) (fractions : List (String × Float)) : List (String × Column) :=
  (consecutive 0.0 fractions).map fun (name, lower, upper) => (name, between draw lower upper)

def quotedFractions (fractions : List (String × Float)) : String :=
  Text.bracketed (fractions.map fun (name, fraction) =>
    "(" ++ Text.quoted name ++ ", " ++ Decimal.quoted fraction ++ ")")

/-- The distance between one and the next number above it. -/
def epsilon : Float := Float.ofBits 0x3CB0000000000000

def randomSplit (fractions : List (String × Float)) (seed : Nat) : Updating Container DataError Unit := do
  let total := (fractions.map (·.2)).foldl (· + ·) 0.0
  if fractions.any (fun (_, fraction) => fraction ≤ 0.0) || total > 1.0 + epsilon then
    throw (.value ("Split fractions must be positive and sum up to at most 1.0, got " ++
      quotedFractions fractions ++ "."))
  let container ← Updating.handle
  Updating.ofClient (Client.log .debug
    (s!"Splitting container '{container.id}' into " ++ quotedFractions fractions))
  Updating.ofState (split (fractionMasks (.random seed) fractions))

def subset (container : Container) (name : String) : Except DataError Subset :=
  match container.subsets.lookup name with
  | some population => .ok ⟨container.id, name, population, container.peripheral⟩
  | none =>
    .error (.key (s!"Container '{container.id}' has no subset '{name}'. Subsets: " ++
      Text.bracketed (container.subsets.names.map Text.quoted) ++ "."))

def freeze (container : Container) : Container := { container with frozen := true }

def display (container : Container) : String :=
  let line (what : String) (entry : String × Table) : String :=
    s!"  {what} {entry.1}: {entry.2.name}\n"
  s!"container {container.id}\n" ++
    (container.population.map fun population => s!"  population: {population.name}\n").getD "" ++
    String.join (container.subsets.map (line "subset")) ++
    String.join (container.peripheral.map (line "peripheral"))

end Container
end RelationalLearning
