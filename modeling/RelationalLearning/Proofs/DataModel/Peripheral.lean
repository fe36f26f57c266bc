import RelationalLearning.Pipeline.Blueprint
import RelationalLearning.Proofs.DataModel.Run
import RelationalLearning.Proofs.Index

namespace RelationalLearning

open Relation (ReflTransGen)

namespace DataModel

/-- The joins are sound, and every placeholder beside the population can be found by its name. -/
structure Sound (model : DataModel) : Prop where
  graph : model.graph.Sound
  populated : model.population < model.graph.size
  named : ∀ id placeholder joins, id ≠ model.population →
    model.graph.shape id = some (placeholder, joins) → placeholder.name ∈ model.peripheralNames

theorem sound_create (population : Placeholder) : (create population).Sound := by
  have graph := PlaceholderGraph.sound_add {} population PlaceholderGraph.sound_empty
  refine ⟨graph, by simp [create], ?_⟩
  intro id placeholder joins other found
  have inside : id < (create population).graph.size := by
    rw [← PlaceholderGraph.shape_isSome, found]
    rfl
  have alone : (create population).graph.size = 1 := by
    rw [create, PlaceholderGraph.size_add]
    rfl
  have first : id = 0 := by omega
  exact absurd first other

theorem names_add (model : DataModel) (placeholder : Placeholder) (name : String) :
    name ∈ (model.add placeholder).2.peripheralNames ↔
      name = placeholder.name ∨ name ∈ model.peripheralNames :=
  Index.mem_names_insert _ _ _ _

theorem sound_add (model : DataModel) (placeholder : Placeholder) (sound : model.Sound) :
    (model.add placeholder).2.Sound := by
  refine ⟨PlaceholderGraph.sound_add model.graph placeholder sound.graph, ?_, ?_⟩
  · have := sound.populated
    simp only [add, PlaceholderGraph.size_add]
    omega
  · intro id present joins other found
    rw [names_add]
    simp only [add, PlaceholderGraph.shape_add] at found other
    split at found
    next =>
      obtain ⟨rfl, -⟩ : placeholder = present ∧ [] = joins := by simpa using found
      exact .inl rfl
    next => exact .inr (sound.named id present joins other found)

theorem sound_join (model joined : DataModel) (left right : Nat) (options : JoinOptions)
    (sound : model.Sound) (made : model.join left right options = .ok joined) : joined.Sound := by
  obtain ⟨graph, linked, rfl⟩ := (Outcome.map_eq_ok _ _ _).mp made
  have kept := PlaceholderGraph.sound_join model.graph graph left right options sound.graph linked
  obtain ⟨-, -, -, -, -, -, rfl⟩ := (PlaceholderGraph.join_eq_ok _ _ _ _ _).mp linked
  refine ⟨kept, ?_, ?_⟩
  · rw [PlaceholderGraph.size_link]
    exact sound.populated
  · intro id placeholder joins other found
    rw [PlaceholderGraph.shape_link] at found
    split at found
    next =>
      obtain ⟨⟨present, before⟩, old, same⟩ := Option.map_eq_some_iff.mp found
      obtain ⟨rfl, -⟩ : present = placeholder ∧ before ++ [⟨right, options⟩] = joins := by
        simpa using same
      exact sound.named id present before other old
    next => exact sound.named id placeholder joins other found

theorem names_join (model joined : DataModel) (left right : Nat) (options : JoinOptions)
    (made : model.join left right options = .ok joined) :
    joined.peripheralNames = model.peripheralNames := by
  obtain ⟨graph, -, rfl⟩ := (Outcome.map_eq_ok _ _ _).mp made
  rfl

theorem addAll_names (placeholders : List Placeholder) (model : DataModel)
    (ordered : (model.peripheralNames ++ placeholders.map (·.name)).Pairwise (· < ·)) :
    (model.addAll placeholders).2.peripheralNames =
      model.peripheralNames ++ placeholders.map (·.name) := by
  induction placeholders generalizing model with
  | nil => simp [addAll]
  | cons placeholder placeholders ih =>
      -- names that come in order are inserted at the end
      have last : ∀ other ∈ model.peripheralNames, other < placeholder.name := by
        intro other member
        exact (List.pairwise_append.mp ordered).2.2 other member placeholder.name (by simp)
      have grown : (model.add placeholder).2.peripheralNames =
          model.peripheralNames ++ [placeholder.name] := by
        simp only [add, peripheralNames]
        rw [Index.insert_last _ _ _ last]
        simp [Index.names]
      have rest := ih (model.add placeholder).2 (by simpa [grown] using ordered)
      simp only [addAll]
      rw [rest, grown]
      simp

theorem sound_addAll (placeholders : List Placeholder) (model : DataModel) (sound : model.Sound) :
    (model.addAll placeholders).2.Sound := by
  induction placeholders generalizing model with
  | nil => exact sound
  | cons placeholder placeholders ih => exact ih _ (sound_add model placeholder sound)

inductive Operation where
  | add (placeholder : Placeholder)
  | addAll (placeholders : List Placeholder)
  | join (left right : Nat) (options : JoinOptions)

/-- A refused join leaves the data model as it was. -/
def step (model : DataModel) : Operation → DataModel
  | .add placeholder => (model.add placeholder).2
  | .addAll placeholders => (model.addAll placeholders).2
  | .join left right options =>
    match model.join left right options with
    | .ok joined => joined
    | .error _ => model

def made (population : Placeholder) (operations : List Operation) : DataModel :=
  operations.foldl step (create population)

theorem sound_step (model : DataModel) (operation : Operation) (sound : model.Sound) :
    (step model operation).Sound := by
  cases operation with
  | add placeholder => exact sound_add model placeholder sound
  | addAll placeholders => exact sound_addAll placeholders model sound
  | join left right options =>
      rw [step]
      split
      next joined done => exact sound_join model joined left right options sound done
      next => exact sound

theorem sound_made (population : Placeholder) (operations : List Operation) :
    (made population operations).Sound := by
  suffices kept : ∀ model : DataModel, model.Sound → (operations.foldl step model).Sound from
    kept _ (sound_create population)
  induction operations with
  | nil => exact fun model sound => sound
  | cons operation operations ih =>
      exact fun model sound => ih _ (sound_step model operation sound)

/-- A placeholder of the name is joined into the population, straight or by way of others. -/
def JoinedIn (model : DataModel) (name : String) : Prop :=
  ∃ id placeholder, id ≠ model.population ∧
    ReflTransGen model.graph.Joined model.population id ∧
    model.graph.placeholder id = .ok placeholder ∧ placeholder.name = name

theorem mem_of_joinedIn (model : DataModel) (name : String) (sound : model.Sound)
    (joined : model.JoinedIn name) : name ∈ model.peripheralNames := by
  obtain ⟨id, placeholder, other, -, present, rfl⟩ := joined
  obtain ⟨joins, found⟩ := (model.graph.placeholder_eq_ok id placeholder).mp present
  exact sound.named id placeholder joins other found

end DataModel

namespace Blueprint

theorem joinedNames_eq (model : DataModel) (sound : model.Sound) :
    ∃ names, joinedNames model = .ok names ∧ names.Pairwise (· < ·) ∧
      ∀ name, name ∈ names ↔ model.JoinedIn name := by
  obtain ⟨ids, listed, reached⟩ :=
    (PlaceholderGraph.walks_end model.graph sound.graph _ sound.populated).list
  have others : ∀ id, id ∈ ids.filter (· ≠ model.population) ↔
      id ≠ model.population ∧ ReflTransGen model.graph.Joined model.population id := by
    intro id
    simp [reached, and_comm]
  have named : ∀ id ∈ ids.filter (· ≠ model.population), ∃ name,
      ((·.name) <$> model.graph.placeholder id : Except DataError String) = .ok name ∧ True := by
    intro id member
    obtain ⟨other, path⟩ := (others id).mp member
    have inside : id < model.graph.size := by
      rcases ReflTransGen.cases_tail path with same | ⟨left, -, edge⟩
      · exact absurd same other
      · exact sound.graph.inside left id edge
    obtain ⟨placeholder, joins, found⟩ := model.graph.shape_of_lt id inside
    have present := (model.graph.placeholder_eq_ok id placeholder).mpr ⟨joins, found⟩
    exact ⟨placeholder.name, by rw [present]; rfl, trivial⟩
  obtain ⟨names, found, -⟩ := Outcome.exists_mapM_eq_ok (fun _ => True) _ _ named
  refine ⟨(Index.ofList (names.map fun name => (name, ()))).names, ?_, Index.ordered_ofList _, ?_⟩
  · simp only [joinedNames, listed, Outcome.ok_bind, found, Outcome.pure_eq_ok]
  · intro name
    rw [Index.mem_names_ofList, List.map_map, Function.comp_def, List.map_id',
      Outcome.mem_of_mapM _ _ _ found]
    constructor
    · rintro ⟨id, member, told⟩
      obtain ⟨placeholder, present, same⟩ := (Outcome.map_eq_ok _ _ _).mp told
      obtain ⟨other, path⟩ := (others id).mp member
      exact ⟨id, placeholder, other, path, present, same⟩
    · rintro ⟨id, placeholder, other, path, present, same⟩
      exact ⟨id, (others id).mpr ⟨other, path⟩, (Outcome.map_eq_ok _ _ _).mpr ⟨_, present, same⟩⟩

theorem peripheralNames_eq (blueprint : Blueprint) (sound : blueprint.dataModel.Sound) :
    ∃ names, blueprint.peripheralNames = .ok names ∧
      (∀ placeholders, blueprint.peripheral = some placeholders →
        names = placeholders.map (·.name)) ∧
      (blueprint.peripheral = none → names.Pairwise (· < ·) ∧
        ∀ name, name ∈ names ↔ blueprint.dataModel.JoinedIn name) := by
  unfold peripheralNames placeholders
  cases given : blueprint.peripheral with
  | some placeholders =>
      refine ⟨placeholders.map (·.name), rfl, ?_, by simp⟩
      rintro _ ⟨⟩
      rfl
  | none =>
      obtain ⟨names, joined, ordered, exactly⟩ := joinedNames_eq blueprint.dataModel sound
      refine ⟨names, ?_, by simp, fun _ => ⟨ordered, exactly⟩⟩
      simp [joined, Except.map, PipelineError.ofData, Except.mapError, Function.comp_def]

theorem orderPeripheral_eq_ok (blueprint : Blueprint) (tables : Index Table) (ordered : List Table)
    (names : List String) (needed : blueprint.peripheralNames = .ok names)
    (done : blueprint.orderPeripheral tables = .ok ordered) :
    List.Forall₂ (fun name table => tables.lookup name = some table) names ordered := by
  rw [orderPeripheral, needed, Outcome.ok_bind] at done
  apply ((Outcome.mapM_eq_ok _ _ _).mp done).imp
  intro name table found
  split at found
  next present => rw [present, Except.ok.inj found]
  next => cases found

theorem orderPeripheral_missing (blueprint : Blueprint) (tables : Index Table) (names : List String)
    (needed : blueprint.peripheralNames = .ok names) (name : String) (member : name ∈ names)
    (missing : tables.lookup name = none) :
    ∃ reason, blueprint.orderPeripheral tables = .error (.invalidArgument reason) := by
  cases outcome : blueprint.orderPeripheral tables with
  | ok ordered =>
      rw [orderPeripheral, needed, Outcome.ok_bind] at outcome
      obtain ⟨table, found⟩ := Outcome.exists_of_mapM_eq_ok _ _ _ outcome name member
      rw [missing] at found
      cases found
  | error cause =>
      rw [orderPeripheral, needed, Outcome.ok_bind] at outcome
      obtain ⟨other, -, failed⟩ := Outcome.exists_of_mapM_eq_error _ _ _ outcome
      split at failed
      next => cases failed
      next => exact ⟨_, congrArg _ (Except.error.inj failed).symm⟩

theorem orderPeripheral_isOk (blueprint : Blueprint) (tables : Index Table)
    (sound : blueprint.dataModel.Sound) (derived : blueprint.peripheral = none)
    (same : blueprint.dataModel.peripheralNames = tables.names) :
    ∃ ordered, blueprint.orderPeripheral tables = .ok ordered := by
  obtain ⟨names, needed, -, inferred⟩ := blueprint.peripheralNames_eq sound
  have present : ∀ name ∈ names, ∃ table, tables.lookup name = some table := by
    intro name member
    rw [← Option.isSome_iff_exists, Index.lookup_isSome, ← same]
    exact blueprint.dataModel.mem_of_joinedIn name sound (((inferred derived).2 name).mp member)
  rw [orderPeripheral, needed]
  refine (Outcome.exists_mapM_eq_ok (fun _ => True) _ names fun name member => ?_).imp
    fun _ done => done.1
  obtain ⟨table, found⟩ := present name member
  exact ⟨table, by rw [found], trivial⟩

end Blueprint
end RelationalLearning
