import RelationalLearning.Proofs.Binary64.Zero
import RelationalLearning.Proofs.DataModel.JoinKeys
import RelationalLearning.Proofs.DataModel.Run
import RelationalLearning.Proofs.Json.Field
import RelationalLearning.Proofs.Roles

namespace RelationalLearning

def JoinOptions.Tellable (span : Option Float) : Prop :=
  ∀ seconds ∈ span, seconds.isFinite = true ∧ seconds ≠ -0.0

instance (span : Option Float) : Decidable (JoinOptions.Tellable span) :=
  inferInstanceAs (Decidable (∀ seconds ∈ span, seconds.isFinite = true ∧ seconds ≠ -0.0))

structure JoinOptions.Expressible (options : JoinOptions) : Prop where
  keys : ∀ pair ∈ options.on, (pair.1 ≠ "" ∧ JoinKeys.Clean pair.1) ∧
    (pair.2 ≠ "" ∧ JoinKeys.Clean pair.2)
  memory : Tellable options.memory
  horizon : Tellable options.horizon

instance (options : JoinOptions) : Decidable options.Expressible :=
  decidable_of_iff (_ ∧ _ ∧ _)
    ⟨fun ⟨keys, memory, horizon⟩ => ⟨keys, memory, horizon⟩,
      fun fits => ⟨fits.keys, fits.memory, fits.horizon⟩⟩

/-- The options as they are read back: what says nothing is left out. -/
def JoinOptions.restored (options : JoinOptions) : JoinOptions :=
  { options with
    timeStamps := options.timeStamps.filter fun pair => !(pair.1.isEmpty && pair.2.isEmpty)
    upperTimeStamp := options.upperTimeStamp.filter fun name => !name.isEmpty
    memory := options.memory.filter fun seconds => seconds != 0.0
    horizon := options.horizon.filter fun seconds => seconds != 0.0 }

theorem Relationship.parse_name (relationship : Relationship) :
    Relationship.parse relationship.name = .ok relationship := by
  cases relationship <;> decide

theorem Relationship.name_ne_empty (relationship : Relationship) : relationship.name ≠ "" := by
  cases relationship <;> decide

namespace PlaceholderGraph

theorem listAt_nodeCommand (node : GraphNode) (joined : List Json) :
    listAt (nodeCommand node joined) "joined_tables_" = joined ∧
    listAt (nodeCommand node joined) "join_keys_used_" =
      node.joins.map (fun join => .string (JoinKeys.encode join.options.on).1) ∧
    listAt (nodeCommand node joined) "other_join_keys_used_" =
      node.joins.map (fun join => .string (JoinKeys.encode join.options.on).2) ∧
    listAt (nodeCommand node joined) "time_stamps_used_" =
      node.joins.map (fun join => .string ((join.options.timeStamps.map (·.1)).getD "")) ∧
    listAt (nodeCommand node joined) "other_time_stamps_used_" =
      node.joins.map (fun join => .string ((join.options.timeStamps.map (·.2)).getD "")) ∧
    listAt (nodeCommand node joined) "upper_time_stamps_used_" =
      node.joins.map (fun join => .string (join.options.upperTimeStamp.getD "")) ∧
    listAt (nodeCommand node joined) "relationship_" =
      node.joins.map (fun join => .string join.options.relationship.name) ∧
    listAt (nodeCommand node joined) "memory_" =
      node.joins.map (fun join => .number (join.options.memory.getD 0.0)) ∧
    listAt (nodeCommand node joined) "horizon_" =
      node.joins.map (fun join => .number (join.options.horizon.getD 0.0)) ∧
    listAt (nodeCommand node joined) "allow_lagged_targets_" =
      node.joins.map (fun join => .bool join.options.laggedTargets) := by
  simp [listAt, nodeCommand, Json.field?_record, List.lookup, Json.asArray?]

theorem asFloat?_span (span : Option Float) (tellable : JoinOptions.Tellable span) :
    ((Json.number (span.getD 0.0)).asFloat?).filter (fun seconds => seconds != 0.0) =
      span.filter fun seconds => seconds != 0.0 := by
  cases span with
  | none => decide
  | some seconds =>
      have finite : seconds.isFinite = true := (tellable seconds rfl).1
      simp [Json.number, finite, Json.asFloat?]

theorem pair_of_halves (pair : Option (String × String)) :
    (if ((pair.map (·.1)).getD "").isEmpty && ((pair.map (·.2)).getD "").isEmpty then none
      else some ((pair.map (·.1)).getD "", (pair.map (·.2)).getD "")) =
      pair.filter fun pair => !(pair.1.isEmpty && pair.2.isEmpty) := by
  cases pair with
  | none => rfl
  | some pair => cases empty : pair.1.isEmpty && pair.2.isEmpty <;> simp [empty, Option.filter]

theorem name_of_text (name : Option String) :
    (if (name.getD "").isEmpty then none else some (name.getD "")) =
      name.filter fun name => !name.isEmpty := by
  cases name with
  | none => rfl
  | some name => cases empty : name.isEmpty <;> simp [empty, Option.filter]

theorem optionsAt_nodeCommand (node : GraphNode) (joined : List Json) (index : Nat) (join : Join)
    (found : node.joins[index]? = some join) (expressible : join.options.Expressible) :
    optionsAt (nodeCommand node joined) index = .ok join.options.restored := by
  have firsts : JoinKeys.Tellable (join.options.on.map (·.1)) := by
    refine (JoinKeys.tellable_map_iff (·.1) _ fun pair member => ?_).mpr fun pair only => ?_
    · exact (expressible.keys pair member).1.2
    · exact (expressible.keys pair (by simp [only])).1.1
  have seconds : JoinKeys.Tellable (join.options.on.map (·.2)) := by
    refine (JoinKeys.tellable_map_iff (·.2) _ fun pair member => ?_).mpr fun pair only => ?_
    · exact (expressible.keys pair member).2.2
    · exact (expressible.keys pair (by simp [only])).2.1
  have keys := (JoinKeys.decode_encode_iff join.options.on).mpr ⟨firsts, seconds⟩
  have memory := asFloat?_span join.options.memory expressible.memory
  have horizon := asFloat?_span join.options.horizon expressible.horizon
  obtain ⟨-, lefts, rights, left, right, upper, relationship, memories, horizons, lagged⟩ :=
    listAt_nodeCommand node joined
  simp only [optionsAt, textAt, spanAt, lefts, rights, left, right, upper, relationship, memories,
    horizons, lagged, List.getElem?_map, found, Option.map_some, Option.bind_some, Json.asString?,
    Json.asBool?, Option.getD_some, keys, memory, horizon, pair_of_halves, name_of_text,
    Outcome.ok_bind]
  split
  next empty => exact absurd empty join.options.relationship.name_ne_empty
  next =>
    rw [Relationship.parse_name]
    rfl

theorem span_restored (span : Option Float) (tellable : JoinOptions.Tellable span) :
    (span.filter fun seconds => seconds != 0.0).getD 0.0 = span.getD 0.0 := by
  cases span with
  | none => rfl
  | some seconds =>
      cases zero : seconds == 0.0 with
      | false => simp [Option.filter, bne, zero]
      | true =>
          simp only [Option.filter, bne, zero, Bool.not_true, Bool.false_eq_true, if_false]
          exact (Binary64.eq_zero_of_beq seconds zero (tellable seconds rfl).2).symm

theorem halves_restored (pair : Option (String × String)) (pick : String × String → String)
    (empty : ∀ pair : String × String, pair.1.isEmpty && pair.2.isEmpty → pick pair = "") :
    ((pair.filter fun pair => !(pair.1.isEmpty && pair.2.isEmpty)).map pick).getD "" =
      (pair.map pick).getD "" := by
  cases pair with
  | none => rfl
  | some pair =>
      cases blank : pair.1.isEmpty && pair.2.isEmpty with
      | false => simp [Option.filter, blank]
      | true => simp [Option.filter, blank, empty pair blank]

theorem name_restored (name : Option String) :
    (name.filter fun name => !name.isEmpty).getD "" = name.getD "" := by
  cases name with
  | none => rfl
  | some name =>
      cases blank : name.isEmpty with
      | false => simp [Option.filter, blank]
      | true => simp [Option.filter, String.isEmpty_iff.mp blank]

theorem nodeCommand_restored (placeholder : Placeholder) (parent : Option Nat)
    (joins read : List Join) (joined : List Json)
    (expressible : ∀ join ∈ joins, join.options.Expressible)
    (same : read.map (·.options) = joins.map fun join => join.options.restored) :
    nodeCommand ⟨placeholder, read, parent⟩ joined =
      nodeCommand ⟨placeholder, joins, parent⟩ joined := by
  have each : ∀ write : JoinOptions → Json,
      (∀ options : JoinOptions, options.Expressible → write options.restored = write options) →
      read.map (fun join => write join.options) = joins.map fun join => write join.options := by
    intro write kept
    calc
      read.map (fun join => write join.options) = (read.map (·.options)).map write := by
        simp [Function.comp_def]
      _ = joins.map fun join => write join.options.restored := by
        rw [same]
        simp [Function.comp_def]
      _ = joins.map fun join => write join.options :=
        List.map_congr_left fun join member => kept join.options (expressible join member)
  have lefts := each (fun options => .string (JoinKeys.encode options.on).1) fun _ _ => rfl
  have rights := each (fun options => .string (JoinKeys.encode options.on).2) fun _ _ => rfl
  have left :=
    each (fun options => .string ((options.timeStamps.map (·.1)).getD "")) fun options _ =>
      congrArg Json.string (halves_restored options.timeStamps (·.1) (by simp +contextual))
  have right :=
    each (fun options => .string ((options.timeStamps.map (·.2)).getD "")) fun options _ =>
      congrArg Json.string (halves_restored options.timeStamps (·.2) (by simp +contextual))
  have upper := each (fun options => .string (options.upperTimeStamp.getD "")) fun options _ =>
    congrArg Json.string (name_restored options.upperTimeStamp)
  have relationship := each (fun options => .string options.relationship.name) fun _ _ => rfl
  have memory := each (fun options => .number (options.memory.getD 0.0)) fun options fits =>
    congrArg Json.number (span_restored options.memory fits.memory)
  have horizon := each (fun options => .number (options.horizon.getD 0.0)) fun options fits =>
    congrArg Json.number (span_restored options.horizon fits.horizon)
  have lagged := each (fun options => .bool options.laggedTargets) fun _ _ => rfl
  simp only [nodeCommand, lefts, rights, left, right, upper, relationship, memory, horizon, lagged]

mutual
def Tree.Expressible : Tree → Prop
  | .node _ placeholder branches => placeholder.roles.validate = .ok () ∧ branches.Expressible

def Branches.Expressible : Branches → Prop
  | .none => True
  | .more options tree rest => options.Expressible ∧ tree.Expressible ∧ rest.Expressible
end

mutual
/-- The tree as it is read back: its numbers follow each other from `start` on. -/
def Tree.restored (start : Nat) : Tree → Tree
  | .node _ placeholder branches => .node start placeholder (branches.restored (start + 1))

def Branches.restored (start : Nat) : Branches → Branches
  | .none => .none
  | .more options tree rest =>
    .more options.restored (tree.restored start) (rest.restored (start + tree.ids.length))
end

mutual
theorem Tree.ids_restored : ∀ (start : Nat) (tree : Tree),
    (tree.restored start).ids = List.range' start tree.ids.length
  | start, .node _ _ branches => by
      simp [Tree.restored, Tree.ids, Branches.ids_restored (start + 1) branches, List.range'_succ]

theorem Branches.ids_restored : ∀ (start : Nat) (branches : Branches),
    (branches.restored start).ids = List.range' start branches.ids.length
  | _, .none => rfl
  | start, .more options tree rest => by
      simp [Branches.restored, Branches.ids, Tree.ids_restored start tree,
        Branches.ids_restored (start + tree.ids.length) rest]
end

mutual
theorem Tree.height_restored :
    ∀ (start : Nat) (tree : Tree), (tree.restored start).height = tree.height
  | start, .node _ _ branches => congrArg (· + 1) (Branches.height_restored (start + 1) branches)

theorem Branches.height_restored : ∀ (start : Nat) (branches : Branches),
    (branches.restored start).height = branches.height
  | _, .none => rfl
  | start, .more options tree rest => by
      simp [Branches.restored, Branches.height, Tree.height_restored start tree,
        Branches.height_restored (start + tree.ids.length) rest]
end

mutual
theorem Tree.command_restored : ∀ (start : Nat) (tree : Tree), tree.Expressible →
    (tree.restored start).command = tree.command
  | start, .node _ placeholder branches, expressible => by
      obtain ⟨options, fits, commands⟩ :=
        Branches.commands_restored (start + 1) branches expressible.2
      simp only [Tree.restored, Tree.command, commands]
      exact nodeCommand_restored placeholder Option.none _ _ _ fits options

theorem Branches.commands_restored : ∀ (start : Nat) (branches : Branches), branches.Expressible →
    (branches.restored start).joins.map (·.options) =
      (branches.joins.map fun join => join.options.restored) ∧
    (∀ join ∈ branches.joins, join.options.Expressible) ∧
    (branches.restored start).commands = branches.commands
  | _, .none, _ => ⟨rfl, by simp [Branches.joins], rfl⟩
  | start, .more options tree rest, expressible => by
      obtain ⟨same, fits, commands⟩ :=
        Branches.commands_restored (start + tree.ids.length) rest expressible.2.2
      have first := Tree.command_restored start tree expressible.2.1
      refine ⟨by simp [Branches.restored, Branches.joins, same], ?_,
        by simp [Branches.restored, Branches.commands, first, commands]⟩
      intro join member
      rcases List.mem_cons.mp member with rfl | member
      · exact expressible.1
      · exact fits join member
end

mutual
theorem Tree.height_le_length : ∀ tree : Tree, tree.height ≤ tree.ids.length
  | .node _ _ branches => Nat.succ_le_succ (Branches.height_le_length branches)

theorem Branches.height_le_length : ∀ branches : Branches, branches.height ≤ branches.ids.length
  | .none => Nat.le_refl _
  | .more _ tree rest => by
      have first := Tree.height_le_length tree
      have others := Branches.height_le_length rest
      simp only [Branches.height, Branches.ids, List.length_append]
      omega
end

mutual
theorem Tree.height_le_depth : ∀ tree : Tree, tree.height ≤ tree.command.depth
  | .node _ placeholder branches => by
      have below := Branches.height_le_depthItems branches
      have nested : (Json.array branches.commands).depth <
          (Tree.node 0 placeholder branches).command.depth := by
        refine Json.depth_lt_of_field? _ "joined_tables_" _ ?_
        simp [Tree.command, nodeCommand, Json.field?_record, List.lookup]
      simp only [Json.depth, Tree.command, Tree.height] at nested ⊢
      omega

theorem Branches.height_le_depthItems :
    ∀ branches : Branches, branches.height ≤ Json.depthItems branches.commands
  | .none => Nat.le_refl _
  | .more _ tree rest => by
      have first := Tree.height_le_depth tree
      have others := Branches.height_le_depthItems rest
      simp only [Branches.height, Branches.commands, Json.depthItems]
      omega
end

end PlaceholderGraph
end RelationalLearning
