import Mathlib.Logic.Relation
import RelationalLearning.DataModel.Graph
import RelationalLearning.Proofs.Outcome

namespace RelationalLearning.PlaceholderGraph

open Relation (TransGen ReflTransGen)

/-- What a placeholder is and what is joined to it; its parent is left out. -/
def shape (graph : PlaceholderGraph) (id : Nat) : Option (Placeholder × List Join) :=
  graph.nodes[id]?.map fun node => (node.placeholder, node.joins)

def parentOf (graph : PlaceholderGraph) (id : Nat) : Option Nat :=
  graph.nodes[id]?.bind (·.parent)

def Joined (graph : PlaceholderGraph) (left right : Nat) : Prop :=
  ∃ joins, graph.joins left = .ok joins ∧ ∃ join ∈ joins, join.right = right

theorem node_eq_ok (graph : PlaceholderGraph) (id : Nat) (node : GraphNode) :
    graph.node id = .ok node ↔ graph.nodes[id]? = some node := by
  unfold PlaceholderGraph.node
  split <;> simp_all

theorem shape_eq_some (graph : PlaceholderGraph) (id : Nat) (placeholder : Placeholder)
    (joins : List Join) :
    graph.shape id = some (placeholder, joins) ↔
      ∃ parent, graph.nodes[id]? = some ⟨placeholder, joins, parent⟩ := by
  simp only [shape, Option.map_eq_some_iff]
  constructor
  · rintro ⟨node, found, same⟩
    obtain ⟨rfl, rfl⟩ : node.placeholder = placeholder ∧ node.joins = joins := by simpa using same
    exact ⟨node.parent, found⟩
  · rintro ⟨parent, found⟩
    exact ⟨_, found, rfl⟩

theorem joins_eq_ok (graph : PlaceholderGraph) (id : Nat) (joins : List Join) :
    graph.joins id = .ok joins ↔ ∃ placeholder, graph.shape id = some (placeholder, joins) := by
  simp only [PlaceholderGraph.joins, Outcome.map_eq_ok, node_eq_ok, shape_eq_some]
  constructor
  · rintro ⟨node, found, rfl⟩
    exact ⟨node.placeholder, node.parent, found⟩
  · rintro ⟨placeholder, parent, found⟩
    exact ⟨_, found, rfl⟩

theorem placeholder_eq_ok (graph : PlaceholderGraph) (id : Nat) (placeholder : Placeholder) :
    graph.placeholder id = .ok placeholder ↔
      ∃ joins, graph.shape id = some (placeholder, joins) := by
  simp only [PlaceholderGraph.placeholder, Outcome.map_eq_ok, node_eq_ok, shape_eq_some]
  constructor
  · rintro ⟨node, found, rfl⟩
    exact ⟨node.joins, node.parent, found⟩
  · rintro ⟨joins, parent, found⟩
    exact ⟨_, found, rfl⟩

theorem joined_iff (graph : PlaceholderGraph) (left right : Nat) :
    graph.Joined left right ↔
      ∃ placeholder joins, graph.shape left = some (placeholder, joins) ∧
        ∃ join ∈ joins, join.right = right := by
  simp only [Joined, joins_eq_ok]
  constructor
  · rintro ⟨joins, ⟨placeholder, found⟩, member⟩
    exact ⟨placeholder, joins, found, member⟩
  · rintro ⟨placeholder, joins, found, member⟩
    exact ⟨joins, ⟨placeholder, found⟩, member⟩

theorem parent_eq_ok (graph : PlaceholderGraph) (id : Nat) (inside : id < graph.size) :
    graph.parent id = .ok (graph.parentOf id) := by
  have found : graph.nodes[id]? = some graph.nodes[id] := List.getElem?_eq_getElem inside
  simp [PlaceholderGraph.parent, PlaceholderGraph.node, parentOf, found, Except.map]

theorem shape_isSome (graph : PlaceholderGraph) (id : Nat) :
    (graph.shape id).isSome ↔ id < graph.size := by
  simp [shape, size]

theorem shape_of_lt (graph : PlaceholderGraph) (id : Nat) (inside : id < graph.size) :
    ∃ placeholder joins, graph.shape id = some (placeholder, joins) := by
  obtain ⟨⟨placeholder, joins⟩, found⟩ :=
    Option.isSome_iff_exists.mp ((graph.shape_isSome id).mpr inside)
  exact ⟨placeholder, joins, found⟩

theorem left_lt_size (graph : PlaceholderGraph) (left right : Nat)
    (joined : graph.Joined left right) : left < graph.size := by
  obtain ⟨placeholder, joins, found, -⟩ := (graph.joined_iff left right).mp joined
  exact (graph.shape_isSome left).mp (by simp [found])

@[simp]
theorem size_add (graph : PlaceholderGraph) (placeholder : Placeholder) :
    (graph.add placeholder).size = graph.size + 1 := by
  simp [add, size]

theorem shape_add (graph : PlaceholderGraph) (placeholder : Placeholder) (id : Nat) :
    (graph.add placeholder).shape id =
      if id = graph.size then some (placeholder, []) else graph.shape id := by
  simp only [add, shape, size, List.getElem?_append]
  rcases Nat.lt_trichotomy id graph.nodes.length with below | same | above
  · simp [below, Nat.ne_of_lt below]
  · simp [same, GraphNode.alone]
  · have later : id - graph.nodes.length ≠ 0 := by omega
    simp [Nat.not_lt_of_gt above, Nat.ne_of_gt above, later]

theorem parentOf_add (graph : PlaceholderGraph) (placeholder : Placeholder) (id : Nat) :
    (graph.add placeholder).parentOf id = graph.parentOf id := by
  simp only [add, parentOf, List.getElem?_append]
  rcases Nat.lt_trichotomy id graph.nodes.length with below | same | above
  · simp [below]
  · simp [same, GraphNode.alone]
  · have later : id - graph.nodes.length ≠ 0 := by omega
    simp [Nat.not_lt_of_gt above, later]

theorem joined_add (graph : PlaceholderGraph) (placeholder : Placeholder) (left right : Nat) :
    (graph.add placeholder).Joined left right ↔ graph.Joined left right := by
  simp only [joined_iff, shape_add]
  by_cases new : left = graph.size
  · subst new
    have outside : graph.shape graph.size = none := by
      rw [← Option.not_isSome_iff_eq_none, shape_isSome]
      omega
    simp [outside]
  · simp [new]

@[simp]
theorem size_link (graph : PlaceholderGraph) (left : Nat) (join : Join) :
    (graph.link left join).size = graph.size := by
  simp [link, size]

theorem shape_link (graph : PlaceholderGraph) (left : Nat) (join : Join) (id : Nat) :
    (graph.link left join).shape id =
      if id = left then
        (graph.shape id).map fun (placeholder, joins) => (placeholder, joins ++ [join])
      else graph.shape id := by
  simp only [link, shape, List.getElem?_modify]
  by_cases same : id = left
  · subst same
    cases graph.nodes[id]? <;> by_cases self : join.right = id <;> simp [self]
  · have other : left ≠ id := fun h => same h.symm
    cases graph.nodes[id]? <;> by_cases self : join.right = id <;> simp [self, same, other]

theorem parentOf_link (graph : PlaceholderGraph) (left : Nat) (join : Join) (id : Nat)
    (inside : join.right < graph.size) :
    (graph.link left join).parentOf id =
      if id = join.right then some left else graph.parentOf id := by
  simp only [link, parentOf, List.getElem?_modify]
  by_cases same : join.right = id
  · subst same
    have found : graph.nodes[join.right]? = some graph.nodes[join.right] :=
      List.getElem?_eq_getElem inside
    by_cases self : left = join.right <;> simp [found, self]
  · have other : id ≠ join.right := fun h => same h.symm
    cases graph.nodes[id]? <;> by_cases self : left = id <;> simp [self, same, other]

theorem joined_link (graph : PlaceholderGraph) (left : Nat) (join : Join)
    (inside : left < graph.size) (first second : Nat) :
    (graph.link left join).Joined first second ↔
      graph.Joined first second ∨ first = left ∧ second = join.right := by
  simp only [joined_iff, shape_link]
  by_cases same : first = left
  · subst same
    obtain ⟨placeholder, joins, found⟩ := graph.shape_of_lt first inside
    simp [found, eq_comm]
  · simp [same]

theorem path_with_edge {relation : Nat → Nat → Prop} {left right first last : Nat}
    (path : TransGen (fun a b => relation a b ∨ a = left ∧ b = right) first last) :
    TransGen relation first last ∨
      ReflTransGen relation first left ∧ ReflTransGen relation right last := by
  induction path with
  | single edge =>
      rcases edge with old | ⟨rfl, rfl⟩
      · exact .inl (.single old)
      · exact .inr ⟨.refl, .refl⟩
  | tail _ edge ih =>
      rcases edge with old | ⟨rfl, rfl⟩
      · rcases ih with avoids | ⟨before, after⟩
        · exact .inl (avoids.tail old)
        · exact .inr ⟨before, after.tail old⟩
      · rcases ih with avoids | ⟨before, -⟩
        · exact .inr ⟨avoids.to_reflTransGen, .refl⟩
        · exact .inr ⟨before, .refl⟩

/-- Joins stay inside the graph and close no circle, and the parents tell what is joined. -/
structure Sound (graph : PlaceholderGraph) : Prop where
  inside : ∀ left right, graph.Joined left right → right < graph.size
  acyclic : ∀ id, ¬ TransGen graph.Joined id id
  parent_joined : ∀ id parent, graph.parentOf id = some parent → graph.Joined parent id
  joined_parent : ∀ left right, graph.Joined left right → (graph.parentOf right).isSome

theorem sound_empty : Sound {} := by
  have unjoined : ∀ left right, ¬ Joined {} left right := by
    intro left right joined
    exact Nat.not_lt_zero left (left_lt_size {} left right joined)
  refine ⟨?_, ?_, ?_, ?_⟩
  · intro left right joined
    exact absurd joined (unjoined left right)
  · intro id circle
    obtain ⟨next, joined, -⟩ := TransGen.head'_iff.mp circle
    exact unjoined id next joined
  · intro id parent found
    simp [parentOf] at found
  · intro left right joined
    exact absurd joined (unjoined left right)

theorem sound_add (graph : PlaceholderGraph) (placeholder : Placeholder) (sound : graph.Sound) :
    (graph.add placeholder).Sound := by
  have same : (graph.add placeholder).Joined = graph.Joined := by
    funext left right
    exact propext (joined_add graph placeholder left right)
  refine ⟨?_, ?_, ?_, ?_⟩
  · intro left right joined
    rw [same] at joined
    have := sound.inside left right joined
    simp only [size_add]
    omega
  · rw [same]
    exact sound.acyclic
  · intro id parent found
    rw [parentOf_add] at found
    rw [same]
    exact sound.parent_joined id parent found
  · intro left right joined
    rw [same] at joined
    rw [parentOf_add]
    exact sound.joined_parent left right joined

/-- A join to a placeholder from which the other is not reached keeps the graph sound. -/
theorem sound_link (graph : PlaceholderGraph) (left : Nat) (join : Join) (sound : graph.Sound)
    (leftInside : left < graph.size) (rightInside : join.right < graph.size)
    (open_ : ¬ ReflTransGen graph.Joined join.right left) : (graph.link left join).Sound := by
  have joined := joined_link graph left join leftInside
  have parents := fun id => parentOf_link graph left join id rightInside
  refine ⟨?_, ?_, ?_, ?_⟩
  · intro first second edge
    rw [size_link]
    rcases (joined first second).mp edge with old | ⟨-, rfl⟩
    · exact sound.inside first second old
    · exact rightInside
  · intro id circle
    have circle : TransGen (fun a b => graph.Joined a b ∨ a = left ∧ b = join.right) id id :=
      TransGen.mono (fun first second => (joined first second).mp) _ _ circle
    rcases path_with_edge circle with avoids | ⟨before, after⟩
    · exact sound.acyclic id avoids
    · exact open_ (after.trans before)
  · intro id parent found
    rw [parents] at found
    rw [joined]
    split at found
    next same => exact .inr ⟨(Option.some.inj found).symm, same⟩
    next => exact .inl (sound.parent_joined id parent found)
  · intro first second edge
    rw [parents]
    rcases (joined first second).mp edge with old | ⟨-, rfl⟩
    · split
      next => rfl
      next => exact sound.joined_parent first second old
    · simp

end RelationalLearning.PlaceholderGraph
