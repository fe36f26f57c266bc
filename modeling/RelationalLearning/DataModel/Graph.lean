import RelationalLearning.DataModel.Join
import RelationalLearning.Json.Printer

/-!
Placeholders joined to each other. A join that would close a circle is refused, so the tables that
belong to a placeholder form a tree in which a placeholder may occur more than once.
-/

namespace RelationalLearning

structure Join where
  right : Nat
  options : JoinOptions
  deriving BEq, Repr

structure GraphNode where
  placeholder : Placeholder
  joins : List Join := []
  parent : Option Nat := none
  deriving BEq, Repr

def GraphNode.alone (placeholder : Placeholder) : GraphNode := ⟨placeholder, [], none⟩

/-- Placeholders numbered in the order in which they were added. -/
structure PlaceholderGraph where
  nodes : List GraphNode := []
  deriving BEq, Repr

namespace PlaceholderGraph

def size (graph : PlaceholderGraph) : Nat := graph.nodes.length

def add (graph : PlaceholderGraph) (placeholder : Placeholder) : PlaceholderGraph :=
  ⟨graph.nodes ++ [GraphNode.alone placeholder]⟩

def node (graph : PlaceholderGraph) (id : Nat) : Except DataError GraphNode :=
  match graph.nodes[id]? with
  | some node => .ok node
  | none => .error (.key s!"No placeholder with id {id} in this graph.")

def placeholder (graph : PlaceholderGraph) (id : Nat) : Except DataError Placeholder :=
  (graph.node id).map (·.placeholder)

def joins (graph : PlaceholderGraph) (id : Nat) : Except DataError (List Join) :=
  (graph.node id).map (·.joins)

def parent (graph : PlaceholderGraph) (id : Nat) : Except DataError (Option Nat) :=
  (graph.node id).map (·.parent)

/-- What a walk along joins answers when it is longer than the graph is large. -/
def circular : DataError := .value "Circular references to other placeholders are not allowed."

/-- Follows the parents; `fuel` bounds how many there are. -/
def populationFrom (graph : PlaceholderGraph) : Nat → Nat → Except DataError Nat
  | 0, _ => .error circular
  | fuel + 1, id => do
    match ← graph.parent id with
    | some parent => graph.populationFrom fuel parent
    | none => return id

def population (graph : PlaceholderGraph) (id : Nat) : Except DataError Nat :=
  graph.populationFrom (graph.size + 1) id

def listFrom (graph : PlaceholderGraph) : Nat → Nat → Except DataError (List Nat)
  | 0, _ => .error circular
  | fuel + 1, id => do
    let joins ← graph.joins id
    let lists ← joins.mapM fun join => graph.listFrom fuel join.right
    return id :: lists.flatten

def toList (graph : PlaceholderGraph) (id : Nat) : Except DataError (List Nat) :=
  graph.listFrom (graph.size + 1) id

def children (graph : PlaceholderGraph) (id : Nat) : Except DataError (List Nat) :=
  (graph.toList id).map fun ids => ids.filter (· ≠ id)

/-- Appends a join without any check, and makes `left` the parent of the joined placeholder. -/
def link (graph : PlaceholderGraph) (left : Nat) (join : Join) : PlaceholderGraph :=
  let joined := graph.nodes.modify left fun node => { node with joins := node.joins ++ [join] }
  ⟨joined.modify join.right fun node => { node with parent := some left }⟩

def join (graph : PlaceholderGraph) (left right : Nat) (options : JoinOptions) :
    Except DataError PlaceholderGraph := do
  if (← graph.toList right).contains left then throw circular
  JoinOptions.checkSpan options.memory "memory"
  JoinOptions.checkSpan options.horizon "horizon"
  let leftSide ← graph.placeholder left
  let rightSide ← graph.placeholder right
  JoinOptions.checkSide leftSide.roles (options.on.map (·.1)) (options.timeStamps.map (·.1))
  JoinOptions.checkSide rightSide.roles (options.on.map (·.2)) (options.timeStamps.map (·.2))
  options.checkSpans
  let new : Join := ⟨right, options⟩
  if (← graph.joins left).contains new then
    throw (.value (s!"A join with the following set of parameters already exists on the placeholder '{leftSide.name}':" ++
      "\n\n" ++ options.quoted ++ "\n\nRedundant joins are not allowed."))
  return graph.link left new

def nodeCommand (node : GraphNode) (joined : List Json) : Json :=
  let each (write : JoinOptions → Json) : Json := .array (node.joins.map fun join => write join.options)
  let stamp (pick : String × String → String) (options : JoinOptions) : Json :=
    .string ((options.timeStamps.map pick).getD "")
  .record [("name_", .string node.placeholder.name), ("roles_", node.placeholder.roles.toJson),
    ("allow_lagged_targets_", each fun options => .bool options.laggedTargets),
    ("horizon_", each fun options => .number (options.horizon.getD 0.0)),
    ("join_keys_used_", each fun options => .string (JoinKeys.encode options.on).1),
    ("joined_tables_", .array joined),
    ("memory_", each fun options => .number (options.memory.getD 0.0)),
    ("other_join_keys_used_", each fun options => .string (JoinKeys.encode options.on).2),
    ("other_time_stamps_used_", each (stamp (·.2))),
    ("relationship_", each fun options => .string options.relationship.name),
    ("time_stamps_used_", each (stamp (·.1))),
    ("upper_time_stamps_used_", each fun options => .string (options.upperTimeStamp.getD ""))]

def commandFrom (graph : PlaceholderGraph) : Nat → Nat → Except DataError Json
  | 0, _ => .error circular
  | fuel + 1, id => do
    let node ← graph.node id
    let joined ← node.joins.mapM fun join => graph.commandFrom fuel join.right
    return nodeCommand node joined

def toCommand (graph : PlaceholderGraph) (id : Nat) : Except DataError Json :=
  graph.commandFrom (graph.size + 1) id

def listAt (command : Json) (name : String) : List Json :=
  ((command.field? name).bind Json.asArray?).getD []

def textAt (command : Json) (name : String) (index : Nat) : String :=
  ((listAt command name)[index]?.bind Json.asString?).getD ""

def spanAt (command : Json) (name : String) (index : Nat) : Option Float :=
  ((listAt command name)[index]?.bind Json.asFloat?).filter fun seconds => seconds != 0.0

def optionsAt (command : Json) (index : Nat) : Except DataError JoinOptions := do
  let on ← JoinKeys.decode (textAt command "join_keys_used_" index)
    (textAt command "other_join_keys_used_" index)
  let left := textAt command "time_stamps_used_" index
  let right := textAt command "other_time_stamps_used_" index
  let upper := textAt command "upper_time_stamps_used_" index
  let relationship ←
    match textAt command "relationship_" index with
    | "" => pure .manyToMany
    | name => Relationship.parse name
  return {
    on
    timeStamps := if left.isEmpty && right.isEmpty then none else some (left, right)
    upperTimeStamp := if upper.isEmpty then none else some upper
    relationship
    memory := spanAt command "memory_" index
    horizon := spanAt command "horizon_" index
    laggedTargets := ((listAt command "allow_lagged_targets_")[index]?.bind Json.asBool?).getD false }

/-- Adds the placeholder that a command describes, with all that is joined to it; `fuel` bounds the depth. -/
def decode (fuel : Nat) (command : Json) (graph : PlaceholderGraph) :
    Except DataError (Nat × PlaceholderGraph) :=
  match fuel with
  | 0 => .error circular
  | fuel + 1 => do
    let name ←
      match (command.field? "name_").bind Json.asString? with
      | some name => pure name
      | none => throw (.parse "Placeholder without 'name_'")
    let roles ←
      match command.field? "roles_" with
      | some roles => Roles.ofJson roles
      | none => pure .empty
    let id := graph.size
    let graph ← (listAt command "joined_tables_").zipIdx.foldlM (fun graph (child, index) => do
      let (right, graph) ← decode fuel child graph
      let options ← optionsAt command index
      return graph.link id ⟨right, options⟩) (graph.add ⟨name, roles⟩)
    return (id, graph)

def ofCommand (command : Json) : Except DataError (PlaceholderGraph × Nat) := do
  let (root, graph) ← decode (command.depth + 1) command {}
  return (graph, root)

def describeJoin (left right : String) (options : JoinOptions) : String :=
  let pair (what : String) (pair : String × String) : String :=
    s!"    {what}: ({left}.{pair.1}, {right}.{pair.2})\n"
  s!"  - right: '{right}'\n" ++ String.join (options.on.map (pair "on")) ++
    (options.timeStamps.map (pair "time_stamps")).getD "" ++
    (options.upperTimeStamp.map fun upper => s!"    upper_time_stamp: '{upper}'\n").getD "" ++
    s!"    relationship: '{options.relationship.name}'\n" ++
    (options.memory.map fun memory => "    memory: " ++ Decimal.sentence memory ++ "\n").getD "" ++
    (options.horizon.map fun horizon => "    horizon: " ++ Decimal.sentence horizon ++ "\n").getD "" ++
    (if options.laggedTargets then "    lagged_targets: true\n" else "")

def describe (graph : PlaceholderGraph) (id : Nat) : Except DataError String := do
  let node ← graph.node id
  let name := node.placeholder.name
  let columns := node.placeholder.roles.columns.zip node.placeholder.roles.toList
  let shown := (columns.take 5).map fun (column, role) => s!"  - {column}: {role.name}\n"
  let joins ← node.joins.mapM fun join => do
    return describeJoin name (← graph.placeholder join.right).name join.options
  return s!"{name}:\n  columns:\n" ++ String.join shown ++
    (if columns.length > 5 then "  - ...\n" else "") ++
    (if node.joins.isEmpty then "" else "\n  joins:\n") ++ String.join joins

end PlaceholderGraph
end RelationalLearning
