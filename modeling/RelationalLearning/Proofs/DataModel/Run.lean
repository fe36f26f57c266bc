import RelationalLearning.Proofs.DataModel.Unfolding

namespace RelationalLearning.PlaceholderGraph

open Relation (TransGen ReflTransGen)

inductive Operation where
  | add (placeholder : Placeholder)
  | join (left right : Nat) (options : JoinOptions)

/-- A refused join leaves the graph as it was. -/
def step (graph : PlaceholderGraph) : Operation → PlaceholderGraph
  | .add placeholder => graph.add placeholder
  | .join left right options =>
    match graph.join left right options with
    | .ok joined => joined
    | .error _ => graph

def run (graph : PlaceholderGraph) (operations : List Operation) : PlaceholderGraph :=
  operations.foldl step graph

inductive Origin : PlaceholderGraph → Prop
  | empty : Origin {}
  | described (command : Json) (graph : PlaceholderGraph) (root : Nat)
      (read : ofCommand command = .ok (graph, root)) : Origin graph

theorem join_eq_ok (graph joined : PlaceholderGraph) (left right : Nat) (options : JoinOptions) :
    graph.join left right options = .ok joined ↔
      (∃ ids, graph.toList right = .ok ids ∧ left ∉ ids) ∧
      JoinOptions.checkSpan options.memory "memory" = .ok () ∧
      JoinOptions.checkSpan options.horizon "horizon" = .ok () ∧
      (∃ leftSide rightSide, graph.placeholder left = .ok leftSide ∧
        graph.placeholder right = .ok rightSide ∧
        JoinOptions.checkSide leftSide.roles (options.on.map (·.1))
          (options.timeStamps.map (·.1)) = .ok () ∧
        JoinOptions.checkSide rightSide.roles (options.on.map (·.2))
          (options.timeStamps.map (·.2)) = .ok ()) ∧
      options.checkSpans = .ok () ∧
      (∃ joins, graph.joins left = .ok joins ∧ joins.contains ⟨right, options⟩ = false) ∧
      graph.link left ⟨right, options⟩ = joined := by
  simp only [join, Outcome.bind_eq_ok]
  constructor
  · rintro ⟨ids, listed, rest⟩
    split at rest
    next => simp at rest
    next fresh =>
      simp only [Outcome.bind_eq_ok] at rest
      obtain ⟨⟨⟩, memory, ⟨⟩, horizon, leftSide, isLeft, rightSide, isRight, ⟨⟩, leftFits, ⟨⟩,
        rightFits, ⟨⟩, spans, joins, present, rest⟩ := rest
      split at rest
      next => simp at rest
      next new =>
        exact ⟨⟨ids, listed, by simpa using fresh⟩, memory, horizon,
          ⟨leftSide, rightSide, isLeft, isRight, leftFits, rightFits⟩, spans,
          ⟨joins, present, by simpa using new⟩, by simpa using rest⟩
  · rintro ⟨⟨ids, listed, fresh⟩, memory, horizon,
      ⟨leftSide, rightSide, isLeft, isRight, leftFits, rightFits⟩, spans, ⟨joins, present, new⟩,
      rfl⟩
    refine ⟨ids, listed, ?_⟩
    simp [fresh, memory, horizon, isLeft, isRight, leftFits, rightFits, spans, present, new]

theorem lt_size_of_placeholder (graph : PlaceholderGraph) (id : Nat) (placeholder : Placeholder)
    (found : graph.placeholder id = .ok placeholder) : id < graph.size := by
  obtain ⟨node, present, -⟩ := (Outcome.map_eq_ok _ _ _).mp found
  exact (List.getElem?_eq_some_iff.mp ((graph.node_eq_ok id node).mp present)).1

theorem mem_toList (graph : PlaceholderGraph) (sound : graph.Sound) (id : Nat)
    (here : id < graph.size) (ids : List Nat) (listed : graph.toList id = .ok ids) (other : Nat) :
    other ∈ ids ↔ ReflTransGen graph.Joined id other := by
  obtain ⟨tree, rfl, present, low⟩ := tree_of_sound graph sound id here
  rw [tree.toList_eq graph present low] at listed
  obtain rfl := Except.ok.inj listed
  exact tree.mem_ids graph present other

theorem sound_join (graph joined : PlaceholderGraph) (left right : Nat) (options : JoinOptions)
    (sound : graph.Sound) (made : graph.join left right options = .ok joined) : joined.Sound := by
  obtain ⟨⟨ids, listed, fresh⟩, -, -, ⟨leftSide, rightSide, isLeft, isRight, -, -⟩, -, -, rfl⟩ :=
    (join_eq_ok graph joined left right options).mp made
  have leftInside := graph.lt_size_of_placeholder left leftSide isLeft
  have rightInside := graph.lt_size_of_placeholder right rightSide isRight
  refine sound_link graph left ⟨right, options⟩ sound leftInside rightInside fun path => fresh ?_
  exact (mem_toList graph sound right rightInside ids listed left).mpr path

def nameIn (command : Json) : Except DataError String :=
  match (command.field? "name_").bind Json.asString? with
  | some name => .ok name
  | none => .error (.parse "Placeholder without 'name_'")

def rolesIn (command : Json) : Except DataError Roles :=
  match command.field? "roles_" with
  | some roles => Roles.ofJson roles
  | none => .ok .empty

def attach (read : Json → PlaceholderGraph → Except DataError (Nat × PlaceholderGraph))
    (command : Json) (id : Nat) (graph : PlaceholderGraph) (branch : Json × Nat) :
    Except DataError PlaceholderGraph := do
  let (right, graph) ← read branch.1 graph
  let options ← optionsAt command branch.2
  return graph.link id ⟨right, options⟩

theorem decode_succ (fuel : Nat) (command : Json) (graph : PlaceholderGraph) :
    decode (fuel + 1) command graph = (do
      let name ← nameIn command
      let roles ← rolesIn command
      let extended ← (listAt command "joined_tables_").zipIdx.foldlM
        (attach (decode fuel) command graph.size) (graph.add ⟨name, roles⟩)
      return (graph.size, extended)) := by
  simp only [decode, nameIn, rolesIn]
  cases (command.field? "name_").bind Json.asString? <;> cases command.field? "roles_" <;> rfl

structure Forward (graph : PlaceholderGraph) : Prop extends graph.Sound where
  upward : ∀ left right, graph.Joined left right → left < right

theorem Forward.le_of_path (graph : PlaceholderGraph) (forward : graph.Forward) (first last : Nat)
    (path : ReflTransGen graph.Joined first last) : first ≤ last := by
  induction path with
  | refl => exact Nat.le_refl first
  | tail _ edge ih => exact Nat.le_trans ih (Nat.le_of_lt (forward.upward _ _ edge))

theorem forward_empty : Forward {} := by
  refine ⟨sound_empty, ?_⟩
  intro left right joined
  exact absurd (left_lt_size {} left right joined) (Nat.not_lt_zero left)

theorem forward_add (graph : PlaceholderGraph) (placeholder : Placeholder)
    (forward : graph.Forward) : (graph.add placeholder).Forward := by
  refine ⟨sound_add graph placeholder forward.toSound, ?_⟩
  intro left right joined
  exact forward.upward left right ((joined_add graph placeholder left right).mp joined)

theorem forward_link (graph : PlaceholderGraph) (left : Nat) (join : Join) (forward : graph.Forward)
    (upward : left < join.right) (inside : join.right < graph.size) :
    (graph.link left join).Forward := by
  have leftInside := Nat.lt_trans upward inside
  refine ⟨sound_link graph left join forward.toSound leftInside inside ?_, ?_⟩
  · intro path
    exact Nat.not_le_of_gt upward (forward.le_of_path graph join.right left path)
  · intro first second joined
    rcases (joined_link graph left join leftInside first second).mp joined with old | ⟨rfl, rfl⟩
    · exact forward.upward first second old
    · exact upward

theorem decode_forward (fuel : Nat) (command : Json) (graph extended : PlaceholderGraph) (id : Nat)
    (forward : graph.Forward) (read : decode fuel command graph = .ok (id, extended)) :
    extended.Forward ∧ id = graph.size ∧ graph.size < extended.size := by
  induction fuel generalizing command graph extended id with
  | zero => simp [decode] at read
  | succ fuel ih =>
      simp only [decode_succ, Outcome.bind_eq_ok] at read
      obtain ⟨name, -, roles, -, grown, done, same⟩ := read
      obtain ⟨rfl, rfl⟩ : graph.size = id ∧ grown = extended := by simpa using same
      -- every table that is read gets a number above that of the placeholder it is joined to
      have kept : grown.Forward ∧ graph.size < grown.size := by
        refine Outcome.foldlM_keeps
          (fun state => state.Forward ∧ graph.size < state.size) _ ?_ _ _ _ ?_ done
        · rintro state branch next ⟨forward, beyond⟩ attached
          simp only [attach, Outcome.bind_eq_ok] at attached
          obtain ⟨⟨right, wider⟩, read, options, -, linked⟩ := attached
          obtain ⟨forward, rfl, wide⟩ := ih branch.1 state wider right forward read
          obtain rfl : wider.link graph.size ⟨state.size, options⟩ = next := by simpa using linked
          refine ⟨forward_link wider graph.size _ forward beyond wide, ?_⟩
          rw [size_link]
          exact Nat.lt_trans beyond wide
        · exact ⟨forward_add graph _ forward, by simp⟩
      exact ⟨kept.1, rfl, kept.2⟩

theorem decode_of_ofCommand (command : Json) (graph : PlaceholderGraph) (root : Nat)
    (read : ofCommand command = .ok (graph, root)) :
    decode (command.depth + 1) command {} = .ok (root, graph) := by
  simp only [ofCommand, Outcome.bind_eq_ok] at read
  obtain ⟨⟨id, decoded⟩, done, same⟩ := read
  obtain ⟨rfl, rfl⟩ : decoded = graph ∧ id = root := by simpa using same
  exact done

theorem sound_of_origin (graph : PlaceholderGraph) (origin : Origin graph) : graph.Sound := by
  cases origin with
  | empty => exact sound_empty
  | described command graph root read =>
      have done := decode_of_ofCommand command graph root read
      exact (decode_forward _ command {} graph root forward_empty done).1.toSound

theorem sound_step (graph : PlaceholderGraph) (operation : Operation) (sound : graph.Sound) :
    (step graph operation).Sound := by
  cases operation with
  | add placeholder => exact sound_add graph placeholder sound
  | join left right options =>
      simp only [step]
      split
      next joined made => exact sound_join graph joined left right options sound made
      next => exact sound

theorem sound_run (graph : PlaceholderGraph) (operations : List Operation) (sound : graph.Sound) :
    (run graph operations).Sound := by
  induction operations generalizing graph with
  | nil => exact sound
  | cons operation operations ih =>
      exact ih (step graph operation) (sound_step graph operation sound)

theorem populationFrom_eq (graph : PlaceholderGraph) (sound : graph.Sound) (bound id : Nat)
    (shallow : Shallow (fun below above => graph.parentOf below = some above) bound id)
    (here : id < graph.size) :
    ∃ top, graph.populationFrom bound id = .ok top ∧ top < graph.size ∧ graph.parentOf top = none ∧
      ReflTransGen graph.Joined top id := by
  induction shallow with
  | intro bound id below ih =>
      have parent := graph.parent_eq_ok id here
      cases found : graph.parentOf id with
      | none => exact ⟨id, by simp [populationFrom, parent, found], here, found, .refl⟩
      | some above =>
          have joined := sound.parent_joined id above found
          obtain ⟨top, walked, inside, orphan, path⟩ :=
            ih above found (graph.left_lt_size above id joined)
          exact ⟨top, by simp [populationFrom, parent, found, walked], inside, orphan,
            path.tail joined⟩

theorem parents_acyclic (graph : PlaceholderGraph) (sound : graph.Sound) (id : Nat) :
    ¬ TransGen (fun below above => graph.parentOf below = some above) id id := by
  intro circle
  have upward : TransGen (Function.swap graph.Joined) id id :=
    TransGen.mono (fun below above found => sound.parent_joined below above found) _ _ circle
  exact sound.acyclic id (Relation.transGen_swap.mp upward)

theorem population_eq (graph : PlaceholderGraph) (sound : graph.Sound) (id : Nat)
    (here : id < graph.size) :
    ∃ top, graph.population id = .ok top ∧ top < graph.size ∧ graph.parentOf top = none ∧
      ReflTransGen graph.Joined top id := by
  refine populationFrom_eq graph sound (graph.size + 1) id ?_ here
  refine shallow_of_acyclic _ graph.size (parents_acyclic graph sound) ?_ _ (Nat.le_succ _) id here
  intro below above found
  exact graph.left_lt_size above below (sound.parent_joined below above found)

structure WalksEnd (graph : PlaceholderGraph) (id : Nat) : Prop where
  list : ∃ ids, graph.toList id = .ok ids ∧
    ∀ other, other ∈ ids ↔ ReflTransGen graph.Joined id other
  command : ∃ command, graph.toCommand id = .ok command
  children : ∃ below, graph.children id = .ok below ∧ id ∉ below ∧
    ∀ other, other ∈ below ↔ TransGen graph.Joined id other
  population : ∃ top whole, graph.population id = .ok top ∧ graph.parent top = .ok none ∧
    graph.toList top = .ok whole ∧ id ∈ whole

theorem walks_end (graph : PlaceholderGraph) (sound : graph.Sound) (id : Nat)
    (here : id < graph.size) : graph.WalksEnd id := by
  obtain ⟨tree, rfl, present, low⟩ := tree_of_sound graph sound id here
  have listed := tree.toList_eq graph present low
  have members := tree.mem_ids graph present
  refine ⟨⟨tree.ids, listed, members⟩, ⟨tree.command, tree.toCommand_eq graph present low⟩, ?_, ?_⟩
  · refine ⟨tree.ids.filter (· ≠ tree.id), by simp [children, listed, Except.map], by simp, ?_⟩
    intro other
    simp only [List.mem_filter, members, decide_eq_true_eq]
    constructor
    · rintro ⟨path, other⟩
      exact (Relation.reflTransGen_iff_eq_or_transGen.mp path).resolve_left other
    · intro path
      refine ⟨path.to_reflTransGen, ?_⟩
      rintro rfl
      exact sound.acyclic _ path
  · obtain ⟨top, walked, inside, orphan, path⟩ := population_eq graph sound tree.id here
    obtain ⟨whole, same, within, shallow⟩ := tree_of_sound graph sound top inside
    subst same
    refine ⟨whole.id, whole.ids, walked, ?_, whole.toList_eq graph within shallow, ?_⟩
    · rw [graph.parent_eq_ok whole.id inside, orphan]
    · exact (whole.mem_ids graph within tree.id).mpr path

/-- After every run there are no circles, parents tell what is joined, and all walks end. -/
theorem run_walks_end (start : PlaceholderGraph) (origin : Origin start)
    (operations : List Operation) :
    (∀ left right, (run start operations).Joined left right →
      left < (run start operations).size ∧ right < (run start operations).size) ∧
    (∀ id, ¬ TransGen (run start operations).Joined id id) ∧
    (∀ id, id < (run start operations).size →
      ∃ parent, (run start operations).parent id = .ok parent ∧
        (parent.isSome ↔ ∃ left, (run start operations).Joined left id) ∧
        ∀ above, parent = some above → (run start operations).Joined above id) ∧
    ∀ id, id < (run start operations).size → (run start operations).WalksEnd id := by
  have sound := sound_run start operations (sound_of_origin start origin)
  generalize run start operations = graph at sound
  refine ⟨?_, sound.acyclic, ?_, walks_end graph sound⟩
  · intro left right joined
    exact ⟨graph.left_lt_size left right joined, sound.inside left right joined⟩
  · intro id here
    refine ⟨graph.parentOf id, graph.parent_eq_ok id here, ⟨?_, ?_⟩, sound.parent_joined id⟩
    · intro found
      obtain ⟨above, found⟩ := Option.isSome_iff_exists.mp found
      exact ⟨above, sound.parent_joined id above found⟩
    · rintro ⟨left, joined⟩
      exact sound.joined_parent left id joined

/-- Two ways lead from the first placeholder to the last, and a join back to it is refused. -/
def diamond : List Operation :=
  let named (name : String) : Operation := .add ⟨name, .empty⟩
  [named "orders", named "items", named "returns", named "products", .join 0 1 {}, .join 0 2 {},
    .join 1 3 {}, .join 2 3 {}, .join 3 0 {}]

theorem diamond_walks_end : (run {} diamond).toList 0 = .ok [0, 1, 3, 2, 3] ∧
    (run {} diamond).parent 3 = .ok (some 2) ∧ (run {} diamond).WalksEnd 3 :=
  ⟨by decide, by decide, (run_walks_end {} .empty diamond).2.2.2 3 (by decide)⟩

end RelationalLearning.PlaceholderGraph
