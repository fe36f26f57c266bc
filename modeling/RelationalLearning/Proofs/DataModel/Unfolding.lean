import Mathlib.Data.List.Nodup
import Mathlib.Data.List.Perm.Subperm
import RelationalLearning.Proofs.DataModel.Sound

/-!
The tree that stands below a placeholder. A placeholder that is joined in several places occurs in
the tree as often as there are ways to it, and walks along joins end because the tree is finite.
-/

namespace RelationalLearning.PlaceholderGraph

open Relation (TransGen ReflTransGen)

mutual
inductive Tree where
  | node (id : Nat) (placeholder : Placeholder) (branches : Branches)

inductive Branches where
  | none
  | more (options : JoinOptions) (tree : Tree) (rest : Branches)
end

def Tree.id : Tree → Nat
  | .node id _ _ => id

def Branches.joins : Branches → List Join
  | .none => []
  | .more options tree rest => ⟨tree.id, options⟩ :: rest.joins

mutual
def Tree.ids : Tree → List Nat
  | .node id _ branches => id :: branches.ids

def Branches.ids : Branches → List Nat
  | .none => []
  | .more _ tree rest => tree.ids ++ rest.ids
end

mutual
def Tree.height : Tree → Nat
  | .node _ _ branches => branches.height + 1

def Branches.height : Branches → Nat
  | .none => 0
  | .more _ tree rest => max tree.height rest.height
end

mutual
def Tree.command : Tree → Json
  | .node _ placeholder branches =>
    nodeCommand ⟨placeholder, branches.joins, Option.none⟩ branches.commands

def Branches.commands : Branches → List Json
  | .none => []
  | .more _ tree rest => tree.command :: rest.commands
end

mutual
/-- The tree is what stands in the graph below the number at its top. -/
def Tree.In (graph : PlaceholderGraph) : Tree → Prop
  | .node id placeholder branches =>
    graph.shape id = some (placeholder, branches.joins) ∧ branches.In graph

def Branches.In (graph : PlaceholderGraph) : Branches → Prop
  | .none => True
  | .more _ tree rest => tree.In graph ∧ rest.In graph
end

mutual
theorem Tree.listFrom_eq (graph : PlaceholderGraph) :
    ∀ (fuel : Nat) (tree : Tree), tree.In graph → tree.height ≤ fuel →
      graph.listFrom fuel tree.id = .ok tree.ids
  | 0, .node _ _ _, _, fits => by simp [Tree.height] at fits
  | fuel + 1, .node id placeholder branches, present, fits => by
      have joins : graph.joins id = .ok branches.joins :=
        (graph.joins_eq_ok id _).mpr ⟨placeholder, present.1⟩
      obtain ⟨lists, below, flat⟩ :=
        Branches.listFrom_eq graph fuel branches present.2 (Nat.le_of_succ_le_succ fits)
      simp [listFrom, Tree.id, Tree.ids, joins, below, flat]

theorem Branches.listFrom_eq (graph : PlaceholderGraph) :
    ∀ (fuel : Nat) (branches : Branches), branches.In graph → branches.height ≤ fuel →
      ∃ lists, (branches.joins.mapM fun join => graph.listFrom fuel join.right) = .ok lists ∧
        lists.flatten = branches.ids
  | _, .none, _, _ => ⟨[], rfl, rfl⟩
  | fuel, .more options tree rest, present, fits => by
      have first :=
        Tree.listFrom_eq graph fuel tree present.1 (Nat.le_trans (Nat.le_max_left _ _) fits)
      obtain ⟨lists, others, flat⟩ :=
        Branches.listFrom_eq graph fuel rest present.2 (Nat.le_trans (Nat.le_max_right _ _) fits)
      exact ⟨tree.ids :: lists, by simp [Branches.joins, first, others],
        by simp [Branches.ids, flat]⟩
end

mutual
theorem Tree.commandFrom_eq (graph : PlaceholderGraph) :
    ∀ (fuel : Nat) (tree : Tree), tree.In graph → tree.height ≤ fuel →
      graph.commandFrom fuel tree.id = .ok tree.command
  | 0, .node _ _ _, _, fits => by simp [Tree.height] at fits
  | fuel + 1, .node id placeholder branches, present, fits => by
      obtain ⟨parent, found⟩ := (graph.shape_eq_some id _ _).mp present.1
      have node := (graph.node_eq_ok id _).mpr found
      have below :=
        Branches.commandFrom_eq graph fuel branches present.2 (Nat.le_of_succ_le_succ fits)
      simp only [commandFrom, Tree.id, node, Outcome.ok_bind, below]
      rfl

theorem Branches.commandFrom_eq (graph : PlaceholderGraph) :
    ∀ (fuel : Nat) (branches : Branches), branches.In graph → branches.height ≤ fuel →
      (branches.joins.mapM fun join => graph.commandFrom fuel join.right) = .ok branches.commands
  | _, .none, _, _ => rfl
  | fuel, .more options tree rest, present, fits => by
      have first :=
        Tree.commandFrom_eq graph fuel tree present.1 (Nat.le_trans (Nat.le_max_left _ _) fits)
      have others :=
        Branches.commandFrom_eq graph fuel rest present.2 (Nat.le_trans (Nat.le_max_right _ _) fits)
      simp [Branches.joins, Branches.commands, first, others]
end

mutual
theorem Tree.mem_ids (graph : PlaceholderGraph) :
    ∀ tree : Tree, tree.In graph → ∀ other, other ∈ tree.ids ↔
      ReflTransGen graph.Joined tree.id other
  | .node id placeholder branches, present, other => by
      have below := Branches.mem_ids graph branches present.2 other
      have joined : ∀ next, graph.Joined id next ↔ ∃ join ∈ branches.joins, join.right = next := by
        intro next
        simp [joined_iff, present.1]
      simp only [Tree.ids, Tree.id, List.mem_cons, below]
      constructor
      · rintro (rfl | ⟨join, member, path⟩)
        · exact .refl
        · exact .head ((joined _).mpr ⟨join, member, rfl⟩) path
      · intro path
        rcases path.cases_head with rfl | ⟨next, edge, path⟩
        · exact .inl rfl
        · obtain ⟨join, member, rfl⟩ := (joined next).mp edge
          exact .inr ⟨join, member, path⟩

theorem Branches.mem_ids (graph : PlaceholderGraph) :
    ∀ branches : Branches, branches.In graph → ∀ other,
      other ∈ branches.ids ↔ ∃ join ∈ branches.joins, ReflTransGen graph.Joined join.right other
  | .none, _, other => by simp [Branches.ids, Branches.joins]
  | .more options tree rest, present, other => by
      simp [Branches.ids, Branches.joins, Tree.mem_ids graph tree present.1 other,
        Branches.mem_ids graph rest present.2 other]
end

/-- Every path of the relation from a place on has fewer than `bound` places. -/
inductive Shallow (next : Nat → Nat → Prop) : Nat → Nat → Prop
  | intro (bound place : Nat) (below : ∀ other, next place other → Shallow next bound other) :
      Shallow next (bound + 1) place

/-- Without circles no place stands twice on a path, so no path is longer than there are places. -/
theorem shallow_of_path (next : Nat → Nat → Prop) (size : Nat)
    (acyclic : ∀ place, ¬ TransGen next place place)
    (inside : ∀ place other, next place other → other < size) (bound place : Nat) (path : List Nat)
    (distinct : path.Nodup) (above : ∀ passed ∈ path, passed < size ∧ TransGen next passed place)
    (here : place < size) (room : size ≤ bound + path.length) : Shallow next bound place := by
  have fresh : place ∉ path := fun passed => acyclic place (above place passed).2
  induction bound generalizing place path with
  | zero =>
      have within : place :: path ⊆ List.range size := by
        intro passed member
        rcases List.mem_cons.mp member with rfl | member
        · exact List.mem_range.mpr here
        · exact List.mem_range.mpr (above passed member).1
      have short := ((List.nodup_cons.mpr ⟨fresh, distinct⟩).subperm within).length_le
      simp only [List.length_cons, List.length_range] at short
      omega
  | succ bound ih =>
      refine .intro bound place fun other edge => ?_
      have above : ∀ passed ∈ place :: path, passed < size ∧ TransGen next passed other := by
        intro passed member
        rcases List.mem_cons.mp member with rfl | member
        · exact ⟨here, .single edge⟩
        · exact ⟨(above passed member).1, (above passed member).2.tail edge⟩
      refine ih other (place :: path) (List.nodup_cons.mpr ⟨fresh, distinct⟩) above
        (inside place other edge) ?_ ?_
      · simp only [List.length_cons]
        omega
      · exact fun passed => acyclic other (above other passed).2

theorem shallow_of_acyclic (next : Nat → Nat → Prop) (size : Nat)
    (acyclic : ∀ place, ¬ TransGen next place place)
    (inside : ∀ place other, next place other → other < size) (bound : Nat) (room : size ≤ bound)
    (place : Nat) (here : place < size) : Shallow next bound place :=
  shallow_of_path next size acyclic inside bound place [] List.nodup_nil (by simp) here
    (by simpa using room)

theorem branches_of_joins (graph : PlaceholderGraph) (bound : Nat) (joins : List Join)
    (trees : ∀ join ∈ joins, ∃ tree : Tree, tree.id = join.right ∧ tree.In graph ∧
      tree.height ≤ bound) :
    ∃ branches : Branches, branches.joins = joins ∧ branches.In graph ∧
      branches.height ≤ bound := by
  induction joins with
  | nil => exact ⟨.none, rfl, trivial, Nat.zero_le _⟩
  | cons join joins ih =>
      obtain ⟨tree, id, present, low⟩ := trees join (by simp)
      obtain ⟨rest, same, others, lows⟩ := ih fun other member => trees other (by simp [member])
      exact ⟨.more join.options tree rest, by simp [Branches.joins, id, same], ⟨present, others⟩,
        Nat.max_le.mpr ⟨low, lows⟩⟩

theorem tree_of_shallow (graph : PlaceholderGraph) (sound : graph.Sound) (bound id : Nat)
    (shallow : Shallow graph.Joined bound id) (here : id < graph.size) :
    ∃ tree : Tree, tree.id = id ∧ tree.In graph ∧ tree.height ≤ bound := by
  induction shallow with
  | intro bound id below ih =>
      obtain ⟨placeholder, joins, found⟩ := graph.shape_of_lt id here
      have joined : ∀ join ∈ joins, graph.Joined id join.right := fun join member =>
        (graph.joined_iff id join.right).mpr ⟨placeholder, joins, found, join, member, rfl⟩
      obtain ⟨branches, rfl, present, low⟩ := branches_of_joins graph bound joins fun join member =>
        ih join.right (joined join member) (sound.inside id join.right (joined join member))
      exact ⟨.node id placeholder branches, rfl, ⟨found, present⟩, Nat.succ_le_succ low⟩

theorem tree_of_sound (graph : PlaceholderGraph) (sound : graph.Sound) (id : Nat)
    (here : id < graph.size) :
    ∃ tree : Tree, tree.id = id ∧ tree.In graph ∧ tree.height ≤ graph.size :=
  tree_of_shallow graph sound graph.size id
    (shallow_of_acyclic graph.Joined graph.size sound.acyclic sound.inside graph.size
      (Nat.le_refl _) id here) here

theorem Tree.toList_eq (graph : PlaceholderGraph) (tree : Tree) (present : tree.In graph)
    (low : tree.height ≤ graph.size) : graph.toList tree.id = .ok tree.ids :=
  tree.listFrom_eq graph (graph.size + 1) present (Nat.le_succ_of_le low)

theorem Tree.toCommand_eq (graph : PlaceholderGraph) (tree : Tree) (present : tree.In graph)
    (low : tree.height ≤ graph.size) : graph.toCommand tree.id = .ok tree.command :=
  tree.commandFrom_eq graph (graph.size + 1) present (Nat.le_succ_of_le low)

end RelationalLearning.PlaceholderGraph
