import Mathlib.Data.List.Perm.Basic
import RelationalLearning.Proofs.DataModel.Peripheral
import RelationalLearning.Proofs.Json.Fixed

namespace RelationalLearning.DataModel

def Operation.added : Operation → List Placeholder
  | .add placeholder => [placeholder]
  | .addAll placeholders => placeholders
  | .join _ _ _ => []

def numbered (name : String) (placeholders : List Placeholder) : List Nat :=
  ((placeholders.zipIdx 1).filter fun entry => entry.1.name = name).map (·.2)

/--
The graph holds the population and behind it the others, and the index holds each of the others
once, under its name and in their order.
-/
structure Indexes (model : DataModel) (population : Placeholder) (others : List Placeholder) :
    Prop where
  first : model.population = 0
  placed : ∀ id, (model.graph.shape id).map (·.1) = (population :: others)[id]?
  ordered : model.peripheral.Ordered
  grouped : ∀ name, model.peripheral.lookup name =
    if numbered name others = [] then none else some (numbered name others)
  once : (model.peripheral.flatMap (·.2)).Perm (List.range' 1 others.length)

theorem numbered_concat (name : String) (others : List Placeholder) (placeholder : Placeholder) :
    numbered name (others ++ [placeholder]) =
      numbered name others ++ if placeholder.name = name then [others.length + 1] else [] := by
  by_cases same : placeholder.name = name
  · simp [numbered, List.zipIdx_append, same, Nat.add_comm]
  · simp [numbered, List.zipIdx_append, same]

example : numbered "trans" [⟨"trans", {}⟩, ⟨"order", {}⟩, ⟨"trans", {}⟩] = [1, 3] := by decide

theorem flatMap_insert (name : String) (id : Nat) (index : Index (List Nat))
    (ordered : index.Ordered) :
    ((Index.insert name ((index.lookup name).getD [] ++ [id]) index).flatMap (·.2)).Perm
      (index.flatMap (·.2) ++ [id]) := by
  induction index with
  | nil => simp [Index.insert]
  | cons entry index ih =>
      obtain ⟨present, ids⟩ := entry
      obtain ⟨before, rest⟩ :
          (∀ other ∈ Index.names index, present < other) ∧ Index.Ordered index :=
        List.pairwise_cons.mp ordered
      rw [Index.lookup_cons, Index.insert]
      split
      next here =>
        have moved : ([id] ++ index.flatMap (·.2)).Perm (index.flatMap (·.2) ++ [id]) :=
          List.perm_append_comm
        simpa using moved.append_left ids
      next elsewhere =>
        split
        next below =>
          have absent : List.lookup name index = none := by
            rw [← Option.not_isSome_iff_eq_none, Index.lookup_isSome]
            intro member
            exact String.lt_irrefl _ (String.lt_trans below (before name member))
          have moved : ([id] ++ (ids ++ index.flatMap (·.2))).Perm
              (ids ++ index.flatMap (·.2) ++ [id]) := List.perm_append_comm
          simpa [absent] using moved
        next above => simpa using (ih rest).append_left ids

theorem Indexes.size_eq (model : DataModel) (population : Placeholder) (others : List Placeholder)
    (indexes : model.Indexes population others) : model.graph.size = others.length + 1 := by
  have inside : ∀ id, id < model.graph.size ↔ id < others.length + 1 := by
    intro id
    rw [← PlaceholderGraph.shape_isSome, ← Option.isSome_map, indexes.placed]
    simp
  have := inside model.graph.size
  have := inside (others.length + 1)
  omega

theorem indexes_create (population : Placeholder) : (create population).Indexes population [] := by
  refine ⟨rfl, ?_, List.Pairwise.nil, fun name => rfl, .nil⟩
  intro id
  rw [create, PlaceholderGraph.shape_add]
  cases id <;> rfl

theorem indexes_add (model : DataModel) (population : Placeholder) (others : List Placeholder)
    (placeholder : Placeholder) (indexes : model.Indexes population others) :
    (model.add placeholder).2.Indexes population (others ++ [placeholder]) := by
  have size := indexes.size_eq
  have present : (model.peripheral.lookup placeholder.name).getD [] =
      numbered placeholder.name others := by
    rw [indexes.grouped]
    split
    next none => exact none.symm
    next => rfl
  refine ⟨indexes.first, ?_, Index.ordered_insert _ _ _ indexes.ordered, ?_, ?_⟩
  · intro id
    simp only [add, PlaceholderGraph.shape_add, ← List.cons_append, List.getElem?_append,
      List.length_cons, size]
    have placed := indexes.placed id
    rcases Nat.lt_trichotomy id (others.length + 1) with below | rfl | above
    · simp [below, Nat.ne_of_lt below, placed]
    · simp
    · have later : id - (others.length + 1) ≠ 0 := by omega
      simp [Nat.not_lt_of_gt above, Nat.ne_of_gt above, later, placed]
  · intro name
    simp only [add, Index.lookup_insert, present, numbered_concat, size]
    by_cases same : name = placeholder.name
    · simp [same]
    · simp [same, Ne.symm same, indexes.grouped]
  · calc
      List.Perm _ (model.peripheral.flatMap (·.2) ++ [model.graph.size]) :=
        flatMap_insert _ _ _ indexes.ordered
      List.Perm _ (List.range' 1 others.length ++ [model.graph.size]) :=
        indexes.once.append_right _
      _ = List.range' 1 (others ++ [placeholder]).length := by
        simp [size, List.range'_concat, Nat.add_comm]

theorem indexes_addAll (model : DataModel) (population : Placeholder)
    (others placeholders : List Placeholder) (indexes : model.Indexes population others) :
    (model.addAll placeholders).2.Indexes population (others ++ placeholders) := by
  induction placeholders generalizing model others with
  | nil => simpa [addAll] using indexes
  | cons placeholder placeholders ih =>
      have grown := indexes_add model population others placeholder indexes
      simpa [addAll] using ih _ _ grown

theorem indexes_join (model joined : DataModel) (population : Placeholder)
    (others : List Placeholder) (left right : Nat) (options : JoinOptions)
    (indexes : model.Indexes population others)
    (made : model.join left right options = .ok joined) : joined.Indexes population others := by
  obtain ⟨graph, linked, rfl⟩ := (Outcome.map_eq_ok _ _ _).mp made
  obtain ⟨-, -, -, -, -, -, rfl⟩ := (PlaceholderGraph.join_eq_ok _ _ _ _ _).mp linked
  refine ⟨indexes.first, ?_, indexes.ordered, indexes.grouped, indexes.once⟩
  intro id
  rw [← indexes.placed, PlaceholderGraph.shape_link]
  split
  next => simp [Function.comp_def]
  next => rfl

theorem indexes_step (model : DataModel) (population : Placeholder) (others : List Placeholder)
    (operation : Operation) (indexes : model.Indexes population others) :
    (step model operation).Indexes population (others ++ operation.added) := by
  cases operation with
  | add placeholder => exact indexes_add model population others placeholder indexes
  | addAll placeholders => exact indexes_addAll model population others placeholders indexes
  | join left right options =>
      rw [Operation.added, List.append_nil, step]
      split
      next joined done =>
        exact indexes_join model joined population others left right options indexes done
      next => exact indexes

theorem indexes_made (population : Placeholder) (operations : List Operation) :
    (made population operations).Indexes population (operations.flatMap Operation.added) := by
  -- what is there before an operation counts as well, whatever it is
  suffices kept : ∀ (model : DataModel) (others : List Placeholder),
      model.Indexes population others → (operations.foldl step model).Indexes population
        (others ++ operations.flatMap Operation.added) from
    kept _ [] (indexes_create population)
  induction operations with
  | nil =>
      intro model others indexes
      simpa using indexes
  | cons operation operations ih =>
      intro model others indexes
      have grown := ih _ _ (indexes_step model population others operation indexes)
      simpa using grown

theorem Indexes.placeholder_eq_ok (model : DataModel) (population : Placeholder)
    (others : List Placeholder) (indexes : model.Indexes population others) (id : Nat)
    (placeholder : Placeholder) :
    model.graph.placeholder id = .ok placeholder ↔
      (population :: others)[id]? = some placeholder := by
  rw [PlaceholderGraph.placeholder_eq_ok, ← indexes.placed, Option.map_eq_some_iff]
  simp

theorem get_eq (model : DataModel) (population : Placeholder) (others : List Placeholder)
    (indexes : model.Indexes population others) (name : String) :
    model.get name =
      if name = "population" ∨ name = population.name then .ok [0]
      else if numbered name others = [] then
        .error (.key s!"No placeholder called '{name}' in the data model.")
      else .ok (numbered name others) := by
  have top : model.graph.placeholder 0 = .ok population :=
    (indexes.placeholder_eq_ok _ _ _ 0 population).mpr rfl
  by_cases standard : name = "population"
  · simp [get, standard, indexes.first]
  · by_cases own : name = population.name
    · simp [get, indexes.first, top, own]
    · by_cases none : numbered name others = []
      · simp [get, standard, own, indexes.first, top, indexes.grouped, none]
      · simp [get, standard, own, indexes.first, top, indexes.grouped, none]

theorem Indexes.get_own (model : DataModel) (population : Placeholder) (others : List Placeholder)
    (indexes : model.Indexes population others) (name : String)
    (own : name = "population" ∨ name = population.name) : model.get name = .ok [0] := by
  rw [get_eq model population others indexes, if_pos own]

theorem Indexes.get_eq_ok (model : DataModel) (population : Placeholder)
    (others : List Placeholder) (indexes : model.Indexes population others) (name : String)
    (other : ¬ (name = "population" ∨ name = population.name)) (ids : List Nat) :
    model.get name = .ok ids ↔ ids = numbered name others ∧ ids ≠ [] := by
  rw [get_eq model population others indexes, if_neg other]
  by_cases none : numbered name others = []
  · simp [none]
  · rw [if_neg none, Except.ok.injEq]
    constructor
    · rintro rfl
      exact ⟨rfl, none⟩
    · rintro ⟨rfl, -⟩
      rfl

theorem Indexes.get_missing (model : DataModel) (population : Placeholder)
    (others : List Placeholder) (indexes : model.Indexes population others) (name : String)
    (other : ¬ (name = "population" ∨ name = population.name))
    (none : numbered name others = []) : ∃ reason, model.get name = .error (.key reason) :=
  ⟨_, by rw [get_eq model population others indexes, if_neg other, if_pos none]⟩

theorem getOne_eq_ok (model : DataModel) (name : String) (id : Nat) :
    model.getOne name = .ok id ↔ model.get name = .ok [id] := by
  rw [getOne, Outcome.bind_eq_ok]
  constructor
  · rintro ⟨ids, found, single⟩
    split at single
    next only =>
      obtain rfl : only = id := Except.ok.inj single
      exact found
    next => cases single
  · intro found
    exact ⟨[id], found, rfl⟩

theorem Indexes.getOne_iff (model : DataModel) (population : Placeholder)
    (others : List Placeholder) (indexes : model.Indexes population others) (name : String)
    (other : ¬ (name = "population" ∨ name = population.name)) (id : Nat) :
    model.getOne name = .ok id ↔ numbered name others = [id] := by
  rw [getOne_eq_ok, indexes.get_eq_ok _ _ _ name other]
  simp [eq_comm]

inductive Describes (model : DataModel) : List Nat → Json → Prop
  | single (id : Nat) (command : Json) (told : model.graph.toCommand id = .ok command) :
      Describes model [id] command
  | several (ids : List Nat) (commands : List Json) (more : ids.length ≠ 1)
      (told : List.Forall₂ (fun id command => model.graph.toCommand id = .ok command) ids
        commands) :
      Describes model ids (.array commands)

theorem exists_toCommand (model : DataModel) (sound : model.Sound) (id : Nat)
    (inside : id < model.graph.size) : ∃ command, model.graph.toCommand id = .ok command :=
  (PlaceholderGraph.walks_end model.graph sound.graph id inside).command

theorem exists_entryCommand (model : DataModel) (sound : model.Sound) (ids : List Nat)
    (inside : ∀ id ∈ ids, id < model.graph.size) :
    ∃ entry, model.entryCommand ids = .ok entry ∧ model.Describes ids entry := by
  by_cases alone : ids.length = 1
  · obtain ⟨id, rfl⟩ := List.length_eq_one_iff.mp alone
    obtain ⟨command, told⟩ := model.exists_toCommand sound id (inside id (by simp))
    exact ⟨command, told, .single id command told⟩
  · obtain ⟨commands, done, told⟩ :=
      Outcome.exists_mapM_forall₂ (fun id command => model.graph.toCommand id = .ok command)
        model.graph.toCommand ids fun id member =>
          (model.exists_toCommand sound id (inside id member)).imp fun _ told => ⟨told, told⟩
    refine ⟨.array commands, ?_, .several ids commands alone told⟩
    unfold entryCommand
    split
    next => exact absurd rfl alone
    next => rw [done]; rfl

theorem Indexes.inside (model : DataModel) (population : Placeholder) (others : List Placeholder)
    (indexes : model.Indexes population others) (group : String × List Nat)
    (member : group ∈ model.peripheral) : ∀ id ∈ group.2, id < model.graph.size := by
  intro id present
  have numbers := indexes.once.mem_iff.mp (List.mem_flatMap.mpr ⟨group, member, present⟩)
  have := List.mem_range'_1.mp numbers
  have := indexes.size_eq
  omega

theorem toCommand_eq (model : DataModel) (population : Placeholder) (others : List Placeholder)
    (sound : model.Sound) (indexes : model.Indexes population others) :
    ∃ (command : Json) (entries : Index Json), model.toCommand = .ok command ∧
      command.field? "peripheral_" = some (.object entries) ∧
      entries.names = model.peripheralNames ∧
      List.Forall₂ (fun group entry => entry.1 = group.1 ∧ model.Describes group.2 entry.2)
        model.peripheral entries := by
  obtain ⟨command, told⟩ := model.exists_toCommand sound _ sound.populated
  obtain ⟨entries, done, described⟩ := Outcome.exists_mapM_forall₂
    (fun group entry => entry.1 = group.1 ∧ model.Describes group.2 entry.2)
    (fun group => do return (group.1, ← model.entryCommand group.2)) model.peripheral
    fun group member => by
      obtain ⟨entry, found, describes⟩ :=
        model.exists_entryCommand sound group.2 (indexes.inside _ _ _ group member)
      exact ⟨(group.1, entry), by simp [found], rfl, describes⟩
  have named : Index.names entries = model.peripheralNames := by
    have pairs : List.Forall₂ Eq (Index.names entries) model.peripheralNames := by
      rw [peripheralNames, Index.names, Index.names, List.forall₂_map_left_iff,
        List.forall₂_map_right_iff]
      exact described.flip.imp fun _ _ same => same.1
    exact List.forall₂_eq_eq_eq ▸ pairs
  have listed : Json.record entries = .object entries := by
    rw [Json.record, Index.ofList_of_ordered]
    rw [Index.Ordered, named]
    exact indexes.ordered
  refine ⟨command.set "peripheral_" (.record entries), entries, ?_, ?_, named, described⟩
  · simp only [toCommand, told, Outcome.ok_bind]
    rw [done]
    rfl
  · rw [Json.field?_set, listed]

/--
Through all additions and joins the names of a data model match its graph. Every placeholder beside
the population stands in the index once, under its name and in the order of addition; a name leads
to exactly the placeholders that were added under it, but for the names of the population; and the
command of the data model holds the commands of all of them under their names.
-/
theorem names_lead_to_placeholders (population : Placeholder) (operations : List Operation) :
    let model := made population operations
    let others := operations.flatMap Operation.added
    model.Indexes population others ∧
    (∀ name, name = "population" ∨ name = population.name →
      model.get name = .ok [0] ∧ model.getOne name = .ok 0) ∧
    (∀ name, name ≠ "population" → name ≠ population.name →
      (∀ ids, model.get name = .ok ids ↔ ids = numbered name others ∧ ids ≠ []) ∧
      (numbered name others = [] → ∃ reason, model.get name = .error (.key reason)) ∧
      ∀ id, model.getOne name = .ok id ↔ numbered name others = [id]) ∧
    ∃ (command : Json) (entries : Index Json), model.toCommand = .ok command ∧
      command.field? "peripheral_" = some (.object entries) ∧
      entries.names = model.peripheralNames ∧
      List.Forall₂ (fun group entry => entry.1 = group.1 ∧ model.Describes group.2 entry.2)
        model.peripheral entries := by
  intro model others
  have indexes : model.Indexes population others := indexes_made population operations
  refine ⟨indexes, ?_, ?_, toCommand_eq model population others (sound_made _ _) indexes⟩
  · intro name own
    have alone := indexes.get_own _ _ _ name own
    exact ⟨alone, (model.getOne_eq_ok name 0).mpr alone⟩
  · intro name standard own
    have other := not_or.mpr ⟨standard, own⟩
    exact ⟨indexes.get_eq_ok _ _ _ name other, indexes.get_missing _ _ _ name other,
      indexes.getOne_iff _ _ _ name other⟩

end RelationalLearning.DataModel
