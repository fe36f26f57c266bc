import RelationalLearning.Pipeline.Blueprint
import RelationalLearning.Proofs.Json.Field
import RelationalLearning.Proofs.Outcome

namespace RelationalLearning

theorem FastProp.toCommand_eq_ok (learner : FastProp) (fallback : LossFunction) (document : Json)
    (described : learner.toCommand fallback = .ok document) :
    learner.validate = .ok () ∧
      document = Hyperparameter.command "FastProp"
        (settings { learner with lossFunction := some (learner.lossFunction.getD fallback) }) := by
  obtain ⟨⟨⟩, valid, same⟩ := (Outcome.bind_eq_ok _ _ _).mp described
  exact ⟨valid, (Except.ok.inj same).symm⟩

theorem Multirel.toCommand_eq_ok (learner : Multirel) (fallback : LossFunction) (document : Json)
    (described : learner.toCommand fallback = .ok document) :
    learner.validate = .ok () ∧
      ∃ inner, learner.propositionalization.toCommand (learner.lossFunction.getD fallback) =
          .ok inner ∧
        document = (Hyperparameter.command "Multirel"
          (settings { learner with lossFunction := some (learner.lossFunction.getD fallback) })).set
            "propositionalization_" inner := by
  obtain ⟨⟨⟩, valid, described⟩ := (Outcome.bind_eq_ok _ _ _).mp described
  obtain ⟨inner, inside, same⟩ := (Outcome.bind_eq_ok _ _ _).mp described
  exact ⟨valid, inner, inside, (Except.ok.inj same).symm⟩

theorem Predictor.toCommand_eq_ok (predictor : Predictor) (document : Json)
    (described : predictor.toCommand = .ok document) :
    predictor.validate = .ok () ∧
      document = Hyperparameter.command predictor.kind predictor.fields := by
  obtain ⟨⟨⟩, valid, same⟩ := (Outcome.bind_eq_ok _ _ _).mp described
  exact ⟨valid, (Except.ok.inj same).symm⟩

namespace Blueprint

structure Valid (blueprint : Blueprint) (kind : Bool) : Prop where
  share : Hyperparameter.share blueprint.shareSelectedFeatures "share_selected_features" = .ok ()
  learners : ∀ learner ∈ blueprint.learners, learner.validate = .ok ()
  selectors : ∀ selector ∈ blueprint.selectors, selector.validate = .ok ()
  predictors : ∀ predictor ∈ blueprint.predictors, predictor.validate = .ok ()
  kind : blueprint.isClassification = .ok kind

theorem valid_of_validate (blueprint : Blueprint) (passed : blueprint.validate = .ok ()) :
    ∃ kind, blueprint.Valid kind := by
  simp only [validate, Outcome.bind_eq_ok] at passed
  obtain ⟨⟨⟩, share, ⟨⟩, -, ⟨⟩, -, ⟨⟩, learners, ⟨⟩, predictors, kind, agreed, -⟩ := passed
  have learners := (Outcome.forM_eq_ok _ _).mp learners
  have predictors := (Outcome.forM_eq_ok _ _).mp predictors
  rw [List.forall_mem_append] at predictors
  exact ⟨kind, share, learners, predictors.1, predictors.2, agreed⟩

structure Written (blueprint : Blueprint) (command : Json)
    (learners selectors predictors : List Json) : Prop where
  share_field : command.field? "share_selected_features_" =
    some (.number blueprint.shareSelectedFeatures)
  learners_field : command.field? "feature_learners_" = some (.array learners)
  selectors_field : command.field? "feature_selectors_" = some (.array selectors)
  predictors_field : command.field? "predictors_" = some (.array predictors)
  learners : List.Forall₂
    (fun learner document => learner.toCommand blueprint.effectiveLoss = .ok document)
    blueprint.learners learners
  selectors : List.Forall₂ (fun selector document => selector.toCommand = .ok document)
    blueprint.selectors selectors
  predictors : List.Forall₂ (fun predictor document => predictor.toCommand = .ok document)
    blueprint.predictors predictors

theorem written_of_toCommand (blueprint : Blueprint) (id : String) (command : Json)
    (described : blueprint.toCommand id = .ok command) :
    ∃ learners selectors predictors, blueprint.Written command learners selectors predictors := by
  simp only [toCommand, Outcome.bind_eq_ok] at described
  obtain ⟨_, -, _, -, _, -, learners, first, selectors, second, predictors, third, _, -, same⟩ :=
    described
  obtain rfl := Except.ok.inj same
  refine ⟨learners, selectors, predictors, ?_, ?_, ?_, ?_, ?_, ?_, ?_⟩
  · rw [Json.field?_record]
    rfl
  · rw [Json.field?_record]
    rfl
  · rw [Json.field?_record]
    rfl
  · rw [Json.field?_record]
    rfl
  · exact (Outcome.mapM_eq_ok _ _ _).mp first
  · exact (Outcome.mapM_eq_ok _ _ _).mp second
  · exact (Outcome.mapM_eq_ok _ _ _).mp third

end Blueprint
end RelationalLearning
