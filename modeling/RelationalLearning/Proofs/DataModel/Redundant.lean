import RelationalLearning.Proofs.DataModel.Alike
import RelationalLearning.Proofs.Json.Covered

namespace RelationalLearning

def Json.Finite (document : Json) : Prop :=
  ∀ part number, Within part document → part.asFloat? = some number → number.isFinite = true

theorem Json.Finite.part (part document : Json) (finite : document.Finite)
    (within : Within part document) : part.Finite := by
  intro inner number inside read
  exact finite inner number (inside.trans inner part document within) read

theorem Join.beq_eq (first second : Join) :
    (first == second) = (first.right == second.right && first.options == second.options) := rfl

namespace PlaceholderGraph

structure Distinct (joins : List Join) : Prop where
  timed : ∀ join ∈ joins, join.options.Timed
  apart : joins.Pairwise fun earlier later => (later == earlier) = false

theorem Distinct.append (joins : List Join) (join : Join) (distinct : Distinct joins)
    (timed : join.options.Timed) (fresh : ∀ earlier ∈ joins, (join == earlier) = false) :
    Distinct (joins ++ [join]) := by
  constructor
  · intro other member
    rcases List.mem_append.mp member with old | new
    · exact distinct.timed other old
    · obtain rfl := List.mem_singleton.mp new
      exact timed
  · rw [List.pairwise_append]
    refine ⟨distinct.apart, List.pairwise_singleton _ _, ?_⟩
    intro earlier old other new
    obtain rfl := List.mem_singleton.mp new
    exact fresh earlier old

theorem Distinct.apart_at (joins : List Join) (distinct : Distinct joins) (first second : Nat)
    (earlier later : Join) (before : first < second) (isEarlier : joins[first]? = some earlier)
    (isLater : joins[second]? = some later) : (later == earlier) = false := by
  obtain ⟨low, rfl⟩ := List.getElem?_eq_some_iff.mp isEarlier
  obtain ⟨high, rfl⟩ := List.getElem?_eq_some_iff.mp isLater
  exact List.pairwise_iff_getElem.mp distinct.apart first second low high before

def Tidy (graph : PlaceholderGraph) : Prop :=
  ∀ id placeholder joins, graph.shape id = some (placeholder, joins) → Distinct joins

theorem tidy_empty : Tidy {} := by
  intro id placeholder joins found
  simp [shape] at found

theorem tidy_add (graph : PlaceholderGraph) (placeholder : Placeholder) (tidy : graph.Tidy) :
    (graph.add placeholder).Tidy := by
  intro id other joins found
  rw [shape_add] at found
  split at found
  next =>
    obtain rfl := (Prod.mk.inj (Option.some.inj found)).2
    exact ⟨by simp, .nil⟩
  next => exact tidy id other joins found

theorem tidy_link (graph : PlaceholderGraph) (left : Nat) (join : Join) (tidy : graph.Tidy)
    (timed : join.options.Timed)
    (fresh : ∀ placeholder joins, graph.shape left = some (placeholder, joins) →
      ∀ earlier ∈ joins, (join == earlier) = false) : (graph.link left join).Tidy := by
  intro id placeholder joins found
  rw [shape_link] at found
  split at found
  next same =>
    subst same
    obtain ⟨⟨old, before⟩, present, same⟩ := Option.map_eq_some_iff.mp found
    obtain rfl := (Prod.mk.inj same).2
    exact (tidy id old before present).append before join timed (fresh old before present)
  next => exact tidy id placeholder joins found

theorem measured_of_checkSpan (span : Option Float) (what : String)
    (passed : JoinOptions.checkSpan span what = .ok ()) : JoinOptions.Measured span := by
  rintro seconds rfl
  right
  simp only [JoinOptions.checkSpan, Validation.nonNegative] at passed
  split at passed
  next accepted =>
    split at accepted
    next => cases accepted
    next fits => simpa using fits
  next => cases passed

theorem tidy_join (graph joined : PlaceholderGraph) (left right : Nat) (options : JoinOptions)
    (tidy : graph.Tidy) (made : graph.join left right options = .ok joined) : joined.Tidy := by
  obtain ⟨-, memory, horizon, -, -, ⟨joins, present, new⟩, rfl⟩ :=
    (join_eq_ok graph joined left right options).mp made
  have timed : options.Timed :=
    ⟨measured_of_checkSpan _ _ memory, measured_of_checkSpan _ _ horizon⟩
  refine tidy_link graph left ⟨right, options⟩ tidy timed ?_
  intro placeholder listed found earlier member
  obtain rfl : listed = joins := by
    have same := (graph.joins_eq_ok left listed).mpr ⟨placeholder, found⟩
    exact Except.ok.inj (same.symm.trans present)
  rw [List.contains_eq_any_beq, List.any_eq_false] at new
  simpa using new earlier member

theorem tidy_step (graph : PlaceholderGraph) (operation : Operation) (tidy : graph.Tidy) :
    (step graph operation).Tidy := by
  cases operation with
  | add placeholder => exact tidy_add graph placeholder tidy
  | join left right options =>
      simp only [step]
      split
      next joined made => exact tidy_join graph joined left right options tidy made
      next => exact tidy

theorem tidy_run (graph : PlaceholderGraph) (operations : List Operation) (tidy : graph.Tidy) :
    (run graph operations).Tidy := by
  induction operations generalizing graph with
  | nil => exact tidy
  | cons operation operations ih =>
      exact ih (step graph operation) (tidy_step graph operation tidy)

theorem within_of_mem_listAt (command item : Json) (name : String)
    (member : item ∈ listAt command name) : Json.Within item command := by
  unfold listAt at member
  cases found : command.field? name with
  | none => simp [found] at member
  | some value =>
      cases value with
      | array items =>
          have member : item ∈ items := by simpa [found, Json.asArray?] using member
          exact Json.within_field item command _ name found (.item item item items member (.here _))
      | _ => simp [found, Json.asArray?] at member

theorem measured_spanAt (command : Json) (name : String) (index : Nat) (finite : command.Finite) :
    JoinOptions.Measured (spanAt command name index) := by
  intro seconds present
  left
  have read := (Option.filter_eq_some_iff.mp present).1
  obtain ⟨item, here, number⟩ := Option.bind_eq_some_iff.mp read
  have member := List.mem_of_getElem? here
  exact finite item seconds (within_of_mem_listAt command item name member) number

theorem timed_optionsAt (command : Json) (index : Nat) (options : JoinOptions)
    (finite : command.Finite) (read : optionsAt command index = .ok options) : options.Timed := by
  have measured (name : String) := measured_spanAt command name index finite
  simp only [optionsAt, Outcome.bind_eq_ok] at read
  obtain ⟨on, -, read⟩ := read
  split at read
  all_goals
    obtain ⟨relationship, -, same⟩ := (Outcome.bind_eq_ok _ _ _).mp read
    obtain rfl := Except.ok.inj same
    exact ⟨measured "memory_", measured "horizon_"⟩

theorem tidy_link_new (state wider : PlaceholderGraph) (left : Nat) (options : JoinOptions)
    (forward : state.Forward) (tidy : wider.Tidy) (timed : options.Timed)
    (unchanged : wider.shape left = state.shape left) :
    (wider.link left ⟨state.size, options⟩).Tidy := by
  refine tidy_link wider left ⟨state.size, options⟩ tidy timed ?_
  intro placeholder joins found earlier member
  have joined : state.Joined left earlier.right :=
    (state.joined_iff left earlier.right).mpr
      ⟨placeholder, joins, unchanged ▸ found, earlier, member, rfl⟩
  have older := forward.inside left earlier.right joined
  have apart : state.size ≠ earlier.right := Nat.ne_of_gt older
  rw [Join.beq_eq, beq_false_of_ne apart, Bool.false_and]

structure Extends (graph extended : PlaceholderGraph) : Prop where
  forward : extended.Forward
  larger : graph.size < extended.size
  tidy : extended.Tidy
  unchanged : ∀ old < graph.size, extended.shape old = graph.shape old

theorem extends_add (graph : PlaceholderGraph) (placeholder : Placeholder) (forward : graph.Forward)
    (tidy : graph.Tidy) : graph.Extends (graph.add placeholder) := by
  refine ⟨forward_add graph placeholder forward, by simp, tidy_add graph placeholder tidy, ?_⟩
  intro old below
  rw [shape_add, if_neg (Nat.ne_of_lt below)]

theorem extends_link (graph state wider : PlaceholderGraph) (options : JoinOptions)
    (before : graph.Extends state) (after : state.Extends wider) (timed : options.Timed) :
    graph.Extends (wider.link graph.size ⟨state.size, options⟩) := by
  refine ⟨forward_link wider graph.size _ after.forward before.larger after.larger, ?_, ?_, ?_⟩
  · rw [size_link]
    exact Nat.lt_trans before.larger after.larger
  · exact tidy_link_new state wider graph.size options before.forward after.tidy timed
      (after.unchanged graph.size before.larger)
  · intro old below
    calc (wider.link graph.size ⟨state.size, options⟩).shape old
        = wider.shape old := by rw [shape_link, if_neg (Nat.ne_of_lt below)]
      _ = state.shape old := after.unchanged old (Nat.lt_trans below before.larger)
      _ = graph.shape old := before.unchanged old below

theorem decode_extends (fuel : Nat) (command : Json) (graph extended : PlaceholderGraph) (id : Nat)
    (finite : command.Finite) (forward : graph.Forward) (tidy : graph.Tidy)
    (read : decode fuel command graph = .ok (id, extended)) : graph.Extends extended := by
  induction fuel generalizing command graph extended id with
  | zero => simp [decode] at read
  | succ fuel ih =>
      simp only [decode_succ, Outcome.bind_eq_ok] at read
      obtain ⟨name, -, roles, -, grown, done, same⟩ := read
      obtain ⟨-, rfl⟩ : graph.size = id ∧ grown = extended := by simpa using same
      refine Outcome.foldlM_keeps_of_mem graph.Extends _ _ _ grown ?_
        (extends_add graph ⟨name, roles⟩ forward tidy) done
      intro state branch member next before attached
      simp only [attach, Outcome.bind_eq_ok] at attached
      obtain ⟨⟨right, wider⟩, read, options, told, linked⟩ := attached
      have child := List.fst_mem_of_mem_zipIdx member
      have within := within_of_mem_listAt command branch.1 "joined_tables_" child
      have after := ih branch.1 state wider right (finite.part branch.1 command within) before.forward before.tidy read
      obtain ⟨-, rfl, -⟩ := decode_forward fuel branch.1 state wider right before.forward read
      obtain rfl : wider.link graph.size ⟨state.size, options⟩ = next := by simpa using linked
      exact extends_link graph state wider options before after
        (timed_optionsAt command branch.2 options finite told)

/-- The graphs that a run may start from, if documents hold finite numbers alone. -/
inductive Begun : PlaceholderGraph → Prop
  | empty : Begun {}
  | described (command : Json) (graph : PlaceholderGraph) (root : Nat) (finite : command.Finite)
      (read : ofCommand command = .ok (graph, root)) : Begun graph

theorem Begun.origin (graph : PlaceholderGraph) (begun : Begun graph) : Origin graph := by
  cases begun with
  | empty => exact .empty
  | described command graph root finite read => exact .described command graph root read

theorem tidy_of_begun (graph : PlaceholderGraph) (begun : Begun graph) : graph.Tidy := by
  cases begun with
  | empty => exact tidy_empty
  | described command graph root finite read =>
      have done := decode_of_ofCommand command graph root read
      exact (decode_extends _ command {} graph root finite forward_empty tidy_empty done).tidy

def entries : List String :=
  ["join_keys_used_", "other_join_keys_used_", "time_stamps_used_", "other_time_stamps_used_",
    "upper_time_stamps_used_", "relationship_", "memory_", "horizon_", "allow_lagged_targets_"]

/-- A command says the same about the joins at two places. -/
def SameEntries (command : Json) (first second : Nat) : Prop :=
  ∀ name ∈ entries, (listAt command name)[first]? = (listAt command name)[second]?

theorem alike_of_sameEntries (node : GraphNode) (joined : List Json) (first second : Nat)
    (earlier later : Join) (isEarlier : node.joins[first]? = some earlier)
    (isLater : node.joins[second]? = some later)
    (same : SameEntries (nodeCommand node joined) first second) :
    earlier.options.Alike later.options := by
  have entry (name : String) (write : JoinOptions → Json)
      (listed : listAt (nodeCommand node joined) name =
        node.joins.map fun join => write join.options)
      (member : name ∈ entries) : write earlier.options = write later.options := by
    have same := same name member
    rw [listed, List.getElem?_map, List.getElem?_map, isEarlier, isLater] at same
    exact Option.some.inj same
  obtain ⟨-, lefts, rights, left, right, upper, relationship, memory, horizon, lagged⟩ :=
    listAt_nodeCommand node joined
  have lefts := Json.string.inj (entry _ (fun options => .string (JoinKeys.encode options.on).1)
    lefts (by decide))
  have rights := Json.string.inj (entry _ (fun options => .string (JoinKeys.encode options.on).2)
    rights (by decide))
  exact {
    keys := Prod.ext lefts rights
    left := Json.string.inj (entry _
      (fun options => .string ((options.timeStamps.map (·.1)).getD "")) left (by decide))
    right := Json.string.inj (entry _
      (fun options => .string ((options.timeStamps.map (·.2)).getD "")) right (by decide))
    upper := Json.string.inj (entry _ (fun options => .string (options.upperTimeStamp.getD ""))
      upper (by decide))
    relationship := Json.string.inj (entry _ (fun options => .string options.relationship.name)
      relationship (by decide))
    memory := entry _ (fun options => .number (options.memory.getD 0.0)) memory (by decide)
    horizon := entry _ (fun options => .number (options.horizon.getD 0.0)) horizon (by decide)
    laggedTargets := Json.bool.inj (entry _ (fun options => .bool options.laggedTargets) lagged
      (by decide)) }

theorem toCommand_eq_ok (graph : PlaceholderGraph) (id : Nat) (command : Json)
    (told : graph.toCommand id = .ok command) :
    ∃ node joined, graph.nodes[id]? = some node ∧ nodeCommand node joined = command := by
  simp only [toCommand, commandFrom, Outcome.bind_eq_ok] at told
  obtain ⟨node, found, joined, -, same⟩ := told
  exact ⟨node, joined, (graph.node_eq_ok id node).mp found, Except.ok.inj same⟩

/--
A command tells the joins of a placeholder to the same other one apart, except those whose keys differ
and hold the reserved sequence, and those of which one spells out what the other leaves out.
-/
theorem joins_told_apart (start : PlaceholderGraph) (begun : Begun start)
    (operations : List Operation) (id : Nat) (inside : id < (run start operations).size) :
    ∃ command joins, (run start operations).toCommand id = .ok command ∧
      (run start operations).joins id = .ok joins ∧
      ∀ first second earlier later, first < second → joins[first]? = some earlier →
        joins[second]? = some later → earlier.right = later.right →
        SameEntries command first second →
          (earlier.options.on ≠ later.options.on ∧
            ∃ pair ∈ earlier.options.on ++ later.options.on,
              ¬ (JoinKeys.Clean pair.1 ∧ JoinKeys.Clean pair.2)) ∨
          earlier.options.SpelledOut later.options := by
  have sound := sound_run start operations (sound_of_origin start begun.origin)
  have tidy := tidy_run start operations (tidy_of_begun start begun)
  generalize run start operations = graph at sound tidy inside
  obtain ⟨command, told⟩ := (walks_end graph sound id inside).command
  obtain ⟨node, joined, found, rfl⟩ := graph.toCommand_eq_ok id command told
  have shape := (graph.shape_eq_some id _ _).mpr ⟨node.parent, found⟩
  refine ⟨_, node.joins, told, (graph.joins_eq_ok id node.joins).mpr ⟨_, shape⟩, ?_⟩
  intro first second earlier later before isEarlier isLater right same
  have distinct := tidy id node.placeholder node.joins shape
  have apart := distinct.apart_at node.joins first second earlier later before isEarlier isLater
  have alike := alike_of_sameEntries node joined first second earlier later isEarlier isLater same
  by_cases keys : earlier.options.on = later.options.on
  · right
    refine (earlier.options.beq_or_spelledOut later.options alike keys ?_ ?_).resolve_left ?_
    · exact distinct.timed earlier (List.mem_of_getElem? isEarlier)
    · exact distinct.timed later (List.mem_of_getElem? isLater)
    · intro equal
      simp [Join.beq_eq, right, equal] at apart
  · left
    refine ⟨keys, ?_⟩
    by_contra clean
    push Not at clean
    exact keys (alike.keys_eq earlier.options later.options clean)

def joinedTwice (first second : JoinOptions) : List Operation :=
  [.add ⟨"population", { joinKey := ["id"], timeStamp := ["date"] }⟩,
    .add ⟨"trans", { joinKey := ["id"], timeStamp := ["date"] }⟩, .join 0 1 first, .join 0 1 second]

def onId : JoinOptions := { on := [("id", "id")] }

theorem joins_told_apart_related :
    ∃ command, (run {} (joinedTwice onId { onId with relationship := .manyToOne })).toCommand 0 =
        .ok command ∧ ¬ SameEntries command 0 1 := by
  obtain ⟨command, joins, told, listed, apart⟩ := joins_told_apart {} .empty
    (joinedTwice onId { onId with relationship := .manyToOne }) 0 (by decide)
  obtain rfl := Except.ok.inj listed
  refine ⟨command, told, fun same => ?_⟩
  rcases apart 0 1 _ _ (by decide) rfl rfl rfl same with ⟨differ, -⟩ | spelled
  · exact absurd rfl differ
  · rcases spelled with spelled | spelled | spelled | spelled
    all_goals rcases spelled with ⟨-, absent⟩ | ⟨absent, -⟩ <;> cases absent

/-- The second join spells out that it has no horizon; a command says the same about both. -/
theorem horizon_spelled_out :
    ∃ command joins, (run {} (joinedTwice onId { onId with horizon := some 0.0 })).toCommand 0 =
        .ok command ∧
      (run {} (joinedTwice onId { onId with horizon := some 0.0 })).joins 0 = .ok joins ∧
      joins.map (·.right) = [1, 1] ∧ SameEntries command 0 1 := by
  refine ⟨_, _, rfl, rfl, rfl, ?_⟩
  intro name member
  simp only [entries, List.mem_cons, List.not_mem_nil, or_false] at member
  rcases member with rfl | rfl | rfl | rfl | rfl | rfl | rfl | rfl | rfl <;> rfl

end PlaceholderGraph
end RelationalLearning
