import RelationalLearning.Proofs.DataModel.Encoding

/-!
The command of a placeholder, read into a graph. What is read is the tree below the placeholder: one
that is joined in several places is read once for each of them.
-/

namespace RelationalLearning.PlaceholderGraph

open Relation (ReflTransGen)

mutual
theorem Tree.in_of_shape (graph extended : PlaceholderGraph) : ∀ tree : Tree, tree.In graph →
    (∀ id ∈ tree.ids, extended.shape id = graph.shape id) → tree.In extended
  | .node id placeholder branches, present, same =>
      ⟨(same id (by simp [Tree.ids])).trans present.1,
        Branches.in_of_shape graph extended branches present.2 fun other member =>
          same other (by simp [Tree.ids, member])⟩

theorem Branches.in_of_shape (graph extended : PlaceholderGraph) :
    ∀ branches : Branches, branches.In graph →
    (∀ id ∈ branches.ids, extended.shape id = graph.shape id) → branches.In extended
  | .none, _, _ => trivial
  | .more options tree rest, present, same =>
      ⟨Tree.in_of_shape graph extended tree present.1 fun other member =>
        same other (by simp [Branches.ids, member]),
        Branches.in_of_shape graph extended rest present.2 fun other member =>
          same other (by simp [Branches.ids, member])⟩
end

theorem nameIn_nodeCommand (node : GraphNode) (joined : List Json) :
    nameIn (nodeCommand node joined) = .ok node.placeholder.name := by
  simp [nameIn, nodeCommand, Json.field?_record, List.lookup, Json.asString?]

theorem rolesIn_nodeCommand (node : GraphNode) (joined : List Json) :
    rolesIn (nodeCommand node joined) = node.placeholder.roles.checked := by
  simp [rolesIn, nodeCommand, Json.field?_record, List.lookup, Roles.ofJson_toJson]

theorem Tree.id_restored (start : Nat) (tree : Tree) : (tree.restored start).id = start := by
  cases tree
  rfl

mutual
/-- Reading the command of a tree adds the tree behind all that is there, and changes nothing. -/
theorem Tree.decode_command : ∀ (fuel : Nat) (tree : Tree) (graph : PlaceholderGraph),
    tree.height ≤ fuel → tree.Expressible →
    ∃ extended, decode fuel tree.command graph = .ok (graph.size, extended) ∧
      extended.size = graph.size + tree.ids.length ∧
      (∀ other < graph.size, extended.shape other = graph.shape other) ∧
      (tree.restored graph.size).In extended
  | 0, .node _ _ _, _, fits, _ => by simp [Tree.height] at fits
  | fuel + 1, .node _ placeholder branches, graph, fits, expressible => by
      have top : (graph.add placeholder).shape graph.size = some (placeholder, []) := by
        simp [shape_add]
      obtain ⟨-, allowed, -⟩ := Branches.commands_restored 0 branches expressible.2
      have options : ∀ offset join, branches.joins[offset]? = some join →
          optionsAt (Tree.node 0 placeholder branches).command (0 + offset) =
            .ok join.options.restored := by
        intro offset join found
        rw [Nat.zero_add]
        exact optionsAt_nodeCommand _ _ offset join found
          (allowed join (List.mem_of_getElem? found))
      obtain ⟨extended, read, size, new, old, present⟩ :=
        Branches.attach_commands fuel (Tree.node 0 placeholder branches).command graph.size
          placeholder branches (graph.add placeholder) 0 [] (Nat.le_of_succ_le_succ fits)
          expressible.2 top options
      refine ⟨extended, ?_, ?_, ?_, ?_⟩
      · have valid : placeholder.roles.checked = .ok placeholder.roles := by
          simp [Roles.checked, expressible.1]
        have joined :
            listAt (Tree.node 0 placeholder branches).command "joined_tables_" = branches.commands :=
          (listAt_nodeCommand _ _).1
        simp only [Tree.command] at read joined ⊢
        simp only [decode_succ, nameIn_nodeCommand, rolesIn_nodeCommand, valid, joined,
          Outcome.ok_bind, read]
        rfl
      · simp only [size, size_add, Tree.ids, List.length_cons]
        omega
      · intro other here
        rw [old other (by simp; omega) (Nat.ne_of_lt here), shape_add, if_neg (Nat.ne_of_lt here)]
      · rw [size_add] at new present
        exact ⟨by simpa using new, present⟩

theorem Branches.attach_commands :
    ∀ (fuel : Nat) (command : Json) (id : Nat) (placeholder : Placeholder) (branches : Branches)
    (graph : PlaceholderGraph) (index : Nat) (joins : List Join),
    branches.height ≤ fuel → branches.Expressible → graph.shape id = some (placeholder, joins) →
    (∀ offset join, branches.joins[offset]? = some join →
      optionsAt command (index + offset) = .ok join.options.restored) →
    ∃ extended,
      (branches.commands.zipIdx index).foldlM (attach (decode fuel) command id) graph = .ok extended ∧
      extended.size = graph.size + branches.ids.length ∧
      extended.shape id = some (placeholder, joins ++ (branches.restored graph.size).joins) ∧
      (∀ other < graph.size, other ≠ id → extended.shape other = graph.shape other) ∧
      (branches.restored graph.size).In extended
  | _, _, _, _, .none, graph, _, _, _, _, top, _ =>
      ⟨graph, rfl, rfl, by simp [Branches.restored, Branches.joins, top], fun _ _ _ => rfl, trivial⟩
  | fuel, command, id, placeholder, .more choice tree rest, graph, index, joins, fits, expressible,
    top, options => by
      have here : id < graph.size := (graph.shape_isSome id).mp (by simp [top])
      obtain ⟨grown, read, size, kept, present⟩ := Tree.decode_command fuel tree graph
        (Nat.le_trans (Nat.le_max_left _ _) fits) expressible.2.1
      have option : optionsAt command index = .ok choice.restored := options 0 ⟨tree.id, choice⟩ rfl
      let linked := grown.link id ⟨graph.size, choice.restored⟩
      have linkedSize : linked.size = graph.size + tree.ids.length := by simp [linked, size]
      have linkedTop : linked.shape id =
          some (placeholder, joins ++ [⟨graph.size, choice.restored⟩]) := by
        simp [linked, shape_link, kept id here, top]
      have linkedElse : ∀ other, other ≠ id → linked.shape other = grown.shape other := by
        intro other apart
        simp [linked, shape_link, apart]
      obtain ⟨extended, others, wide, new, old, presents⟩ :=
        Branches.attach_commands fuel command id placeholder rest linked (index + 1)
          (joins ++ [⟨graph.size, choice.restored⟩]) (Nat.le_trans (Nat.le_max_right _ _) fits)
          expressible.2.2 linkedTop fun offset join found => by
            rw [Nat.add_right_comm, Nat.add_assoc]
            exact options (offset + 1) join found
      rw [linkedSize] at wide new old presents
      refine ⟨extended, ?_, ?_, ?_, ?_, ?_, presents⟩
      · simp only [Branches.commands, List.zipIdx_cons, List.foldlM_cons, attach, read, option,
          Outcome.ok_bind]
        exact others
      · simp only [wide, Branches.ids, List.length_append]
        omega
      · simp [new, Branches.restored, Branches.joins, Tree.id_restored]
      · intro other below apart
        rw [old other (by omega) apart, linkedElse other apart, kept other below]
      · refine Tree.in_of_shape grown extended _ present fun other member => ?_
        obtain ⟨after, before⟩ := List.mem_range'_1.mp (Tree.ids_restored graph.size tree ▸ member)
        have apart : other ≠ id := by omega
        rw [old other before apart, linkedElse other apart]
end

structure Expressible (graph : PlaceholderGraph) (id : Nat) : Prop where
  roles : ∀ other placeholder, ReflTransGen graph.Joined id other →
    graph.placeholder other = .ok placeholder → placeholder.roles.validate = .ok ()
  options : ∀ other joins, ReflTransGen graph.Joined id other → graph.joins other = .ok joins →
    ∀ join ∈ joins, join.options.Expressible

theorem Expressible.joined (graph : PlaceholderGraph) (id other : Nat)
    (expressible : graph.Expressible id) (edge : graph.Joined id other) : graph.Expressible other :=
  ⟨fun next placeholder path => expressible.roles next placeholder (.head edge path),
    fun next joins path => expressible.options next joins (.head edge path)⟩

mutual
theorem Tree.expressible (graph : PlaceholderGraph) :
    ∀ tree : Tree, tree.In graph → graph.Expressible tree.id → tree.Expressible
  | .node id placeholder branches, present, expressible => by
      have valid := expressible.roles id placeholder .refl
        ((graph.placeholder_eq_ok id placeholder).mpr ⟨branches.joins, present.1⟩)
      have joins := (graph.joins_eq_ok id branches.joins).mpr ⟨placeholder, present.1⟩
      refine ⟨valid, Branches.expressible graph branches present.2 fun join member => ?_⟩
      have edge : graph.Joined id join.right := ⟨branches.joins, joins, join, member, rfl⟩
      exact ⟨expressible.options id branches.joins .refl joins join member,
        Expressible.joined graph id join.right expressible edge⟩

theorem Branches.expressible (graph : PlaceholderGraph) : ∀ branches : Branches, branches.In graph →
    (∀ join ∈ branches.joins, join.options.Expressible ∧ graph.Expressible join.right) →
      branches.Expressible
  | .none, _, _ => trivial
  | .more options tree rest, present, each => by
      obtain ⟨fits, below⟩ := each ⟨tree.id, options⟩ (by simp [Branches.joins])
      have others :=
        Branches.expressible graph rest present.2 fun join member =>
          each join (by simp [Branches.joins, member])
      exact ⟨fits, Tree.expressible graph tree present.1 below, others⟩
end

theorem Tree.ofCommand_command (tree : Tree) (expressible : tree.Expressible) :
    ∃ read, ofCommand tree.command = .ok (read, 0) ∧ read.size = tree.ids.length ∧
      read.toCommand 0 = .ok tree.command ∧ read.toList 0 = .ok (List.range read.size) := by
  obtain ⟨read, decoded, size, -, present⟩ := tree.decode_command (tree.command.depth + 1) {}
    (Nat.le_succ_of_le tree.height_le_depth) expressible
  have size : read.size = tree.ids.length := by simpa [PlaceholderGraph.size] using size
  have low : (tree.restored 0).height ≤ read.size := by
    rw [tree.height_restored, size]
    exact tree.height_le_length
  have command := (tree.restored 0).toCommand_eq read present low
  have listed := (tree.restored 0).toList_eq read present low
  rw [tree.id_restored, tree.command_restored 0 expressible] at command
  rw [tree.id_restored, tree.ids_restored, ← size, ← List.range_eq_range'] at listed
  refine ⟨read, ?_, size, command, listed⟩
  simp only [ofCommand, decoded, Outcome.ok_bind]
  rfl

/--
The command of a placeholder is read into a graph of its own, with a number for every way to every
placeholder.
-/
theorem ofCommand_toCommand (start : PlaceholderGraph) (origin : Origin start)
    (operations : List Operation) (id : Nat) (here : id < (run start operations).size)
    (expressible : (run start operations).Expressible id) :
    ∃ command ids read root, (run start operations).toCommand id = .ok command ∧
      (run start operations).toList id = .ok ids ∧ ofCommand command = .ok (read, root) ∧
      read.toCommand root = .ok command ∧ read.size = ids.length ∧
      read.toList root = .ok (List.range read.size) := by
  have sound := sound_run start operations (sound_of_origin start origin)
  generalize run start operations = graph at sound here expressible
  obtain ⟨tree, rfl, present, low⟩ := tree_of_sound graph sound id here
  obtain ⟨read, decoded, size, command, listed⟩ :=
    tree.ofCommand_command (tree.expressible graph present expressible)
  exact ⟨tree.command, tree.ids, read, 0, tree.toCommand_eq graph present low,
    tree.toList_eq graph present low, decoded, command, size, listed⟩

theorem expressible_of_nodes (graph : PlaceholderGraph) (id : Nat)
    (each : ∀ node ∈ graph.nodes, node.placeholder.roles.validate = .ok () ∧
      ∀ join ∈ node.joins, join.options.Expressible) : graph.Expressible id := by
  refine ⟨fun other placeholder _ found => ?_, fun other joins _ found => ?_⟩
  · obtain ⟨node, present, rfl⟩ := (Outcome.map_eq_ok _ _ _).mp found
    exact (each node (List.mem_of_getElem? ((graph.node_eq_ok other node).mp present))).1
  · obtain ⟨node, present, rfl⟩ := (Outcome.map_eq_ok _ _ _).mp found
    exact (each node (List.mem_of_getElem? ((graph.node_eq_ok other node).mp present))).2

def shop : List Operation :=
  let named (name : String) : Operation := .add ⟨name, .empty⟩
  let dated : JoinOptions :=
    { on := [("customer", "id"), ("shop", "shop")], timeStamps := some ("day", "day"),
      memory := some 60.0 }
  [named "customers", named "orders", named "returns", named "products", .join 0 1 dated,
    .join 0 2 { on := [("customer", "buyer")] }, .join 1 3 {},
    .join 2 3 { relationship := .manyToOne }]

theorem ofCommand_shop : ∃ command read root, (run {} shop).toCommand 0 = .ok command ∧
    (run {} shop).toList 0 = .ok [0, 1, 3, 2, 3] ∧ ofCommand command = .ok (read, root) ∧
    read.toCommand root = .ok command ∧ read.toList root = .ok [0, 1, 2, 3, 4] := by
  obtain ⟨command, ids, read, root, written, listed, decoded, again, size, order⟩ :=
    ofCommand_toCommand {} .empty shop 0 (by decide) (expressible_of_nodes _ 0 (by decide))
  have same : (run {} shop).toList 0 = .ok [0, 1, 3, 2, 3] := by decide
  obtain rfl : ids = [0, 1, 3, 2, 3] := Except.ok.inj (listed.symm.trans same)
  rw [size] at order
  exact ⟨command, read, root, written, listed, decoded, again, order⟩

end RelationalLearning.PlaceholderGraph
