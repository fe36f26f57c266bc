import RelationalLearning.Pipeline.Blueprint
import RelationalLearning.Proofs.Json.Covered
import RelationalLearning.Proofs.Outcome

namespace RelationalLearning

open Json

theorem Hyperparameter.covered_command (kind : String) (settings : List (String × Json))
    (other : kind ≠ "View")
    (each : ∀ setting ∈ settings, setting.1 ≠ "type" ∧ Covered [] setting.2) :
    Covered [] (Hyperparameter.command kind settings) := by
  apply covered_record
  simp only [List.forall_mem_cons, List.forall_mem_map]
  refine ⟨by simp [CoveredField, other], ?_⟩
  intro setting member
  obtain ⟨apart, covered⟩ := each setting member
  refine ⟨covered, fun same => absurd ?_ apart⟩
  exact String.append_left_inj "_" |>.mp same

theorem Preprocessor.covered_toCommand (preprocessor : Preprocessor) (command : Json)
    (described : preprocessor.toCommand = .ok command) : Covered [] command := by
  obtain ⟨_, -, same⟩ := (Outcome.bind_eq_ok _ _ _).mp described
  obtain rfl := Except.ok.inj same
  apply Hyperparameter.covered_command
  · cases preprocessor <;> simp [Preprocessor.kind]
  · cases preprocessor <;> simp [Preprocessor.settings, Hyperparameter.aggregationNames]

theorem Predictor.covered_toCommand (predictor : Predictor) (command : Json)
    (described : predictor.toCommand = .ok command) : Covered [] command := by
  obtain ⟨_, -, same⟩ := (Outcome.bind_eq_ok _ _ _).mp described
  obtain rfl := Except.ok.inj same
  apply Hyperparameter.covered_command
  · cases predictor with
    | linearRegression settings => simp [Predictor.kind]
    | logisticRegression settings => simp [Predictor.kind]
    | xgboost classifier settings => cases classifier <;> simp [Predictor.kind]
    | scaleGBM classifier settings => cases classifier <;> simp [Predictor.kind]
  · cases predictor <;>
      simp [Predictor.fields, RegressionSettings.fields, XGBoost.fields, ScaleGBM.fields]

theorem FastProp.covered_toCommand (learner : FastProp) (fallback : LossFunction) (command : Json)
    (described : learner.toCommand fallback = .ok command) : Covered [] command := by
  obtain ⟨_, -, same⟩ := (Outcome.bind_eq_ok _ _ _).mp described
  obtain rfl := Except.ok.inj same
  apply Hyperparameter.covered_command
  · decide
  · simp [FastProp.settings, Hyperparameter.aggregationNames, Json.option]

theorem Multirel.covered_toCommand (learner : Multirel) (fallback : LossFunction) (command : Json)
    (described : learner.toCommand fallback = .ok command) : Covered [] command := by
  obtain ⟨_, -, described⟩ := (Outcome.bind_eq_ok _ _ _).mp described
  obtain ⟨inner, inside, same⟩ := (Outcome.bind_eq_ok _ _ _).mp described
  obtain rfl := Except.ok.inj same
  have covered := FastProp.covered_toCommand _ _ inner inside
  apply covered_set
  · apply Hyperparameter.covered_command
    · decide
    · simp [Multirel.settings, Hyperparameter.aggregationNames, Json.option]
  · exact ⟨covered, by simp⟩

theorem Learner.covered_toCommand (fallback : LossFunction) (learner : Learner) (command : Json)
    (described : learner.toCommand fallback = .ok command) : Covered [] command := by
  cases learner with
  | fastProp learner => exact learner.covered_toCommand fallback command described
  | multirel learner => exact learner.covered_toCommand fallback command described

theorem Roles.covered_toJson (roles : Roles) : Covered [] roles.toJson := by
  apply covered_record
  intro field member
  obtain ⟨role, -, rfl⟩ := List.mem_map.mp member
  exact ⟨covered_texts _, by simp [Json.texts]⟩

namespace PlaceholderGraph

theorem covered_nodeCommand (node : GraphNode) (joined : List Json)
    (each : ∀ command ∈ joined, Covered [] command) :
    Covered [] (nodeCommand node joined) := by
  apply covered_record
  simp [CoveredField, Roles.covered_toJson, covered_array joined each]

theorem covered_commandFrom (graph : PlaceholderGraph) (fuel id : Nat) (command : Json)
    (described : graph.commandFrom fuel id = .ok command) :
    Covered [] command ∧ ∀ text, command ≠ .string text := by
  induction fuel generalizing id command with
  | zero => cases described
  | succ fuel ih =>
      rw [commandFrom, Outcome.bind_eq_ok] at described
      obtain ⟨node, -, described⟩ := described
      obtain ⟨joined, found, same⟩ := (Outcome.bind_eq_ok _ _ _).mp described
      obtain rfl := Except.ok.inj same
      refine ⟨covered_nodeCommand node joined ?_, fun text => by simp [nodeCommand, Json.record]⟩
      exact Outcome.forall_mem_of_mapM _ _ (fun join result step => (ih _ _ step).1) _ _ found

end PlaceholderGraph

theorem DataModel.covered_entryCommand (model : DataModel) (ids : List Nat) (command : Json)
    (described : model.entryCommand ids = .ok command) :
    Covered [] command ∧ ∀ text, command ≠ .string text := by
  unfold entryCommand at described
  split at described
  next id => exact model.graph.covered_commandFrom _ id command described
  next =>
    obtain ⟨commands, found, same⟩ := (Outcome.bind_eq_ok _ _ _).mp described
    obtain rfl := Except.ok.inj same
    refine ⟨covered_array commands ?_, fun text => by simp⟩
    exact Outcome.forall_mem_of_mapM _ _
      (fun id result step => (model.graph.covered_commandFrom _ id result step).1) _ _ found

theorem DataModel.covered_toCommand (model : DataModel) (command : Json)
    (described : model.toCommand = .ok command) : Covered [] command := by
  rw [toCommand, Outcome.bind_eq_ok] at described
  obtain ⟨top, found, described⟩ := described
  obtain ⟨peripheral, others, same⟩ := (Outcome.bind_eq_ok _ _ _).mp described
  obtain rfl := Except.ok.inj same
  have population := (model.graph.covered_commandFrom _ _ top found).1
  have entries : ∀ entry ∈ peripheral, CoveredField [] entry := by
    refine Outcome.forall_mem_of_mapM _ _ ?_ _ _ others
    rintro ⟨name, ids⟩ entry step
    obtain ⟨value, made, same⟩ := (Outcome.bind_eq_ok _ _ _).mp step
    obtain rfl := Except.ok.inj same
    obtain ⟨covered, object⟩ := model.covered_entryCommand ids value made
    exact ⟨covered, fun _ => object _⟩
  exact covered_set _ _ _ population ⟨covered_record peripheral entries, by simp⟩

theorem Blueprint.covered_toCommand (blueprint : Blueprint) (id : String) (command : Json)
    (described : blueprint.toCommand id = .ok command) : Covered [] command := by
  simp only [toCommand, Outcome.bind_eq_ok] at described
  obtain ⟨placeholders, -, peripheral, tables, preprocessors, first, learners, second, selectors,
    third, predictors, fourth, model, fifth, same⟩ := described
  obtain rfl := Except.ok.inj same
  have tables : ∀ item ∈ peripheral, Covered [] item := by
    refine Outcome.forall_mem_of_mapM _ _ (fun placeholder item step => ?_) _ _ tables
    have unfolded : placeholderCommand placeholder = Except.mapError PipelineError.data
      ((({} : PlaceholderGraph).add placeholder).toCommand 0) := rfl
    rw [unfolded, Outcome.mapError_eq_ok] at step
    exact (PlaceholderGraph.covered_commandFrom _ _ _ item step).1
  have first := Outcome.forall_mem_of_mapM _ _ (Preprocessor.covered_toCommand) _ _ first
  have second := Outcome.forall_mem_of_mapM _ _ (Learner.covered_toCommand _) _ _ second
  have third := Outcome.forall_mem_of_mapM _ _ (Predictor.covered_toCommand) _ _ third
  have fourth := Outcome.forall_mem_of_mapM _ _ (Predictor.covered_toCommand) _ _ fourth
  have fifth :=
    blueprint.dataModel.covered_toCommand model ((Outcome.mapError_eq_ok _ _ _).mp fifth)
  apply covered_record
  simp [CoveredField, covered_array _ tables, covered_array _ first, covered_array _ second,
    covered_array _ third, covered_array _ fourth, fifth]

end RelationalLearning
