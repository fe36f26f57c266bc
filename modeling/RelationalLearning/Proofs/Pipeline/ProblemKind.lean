import RelationalLearning.Proofs.Pipeline.Written

/-!
Classification and regression in the command of a pipeline. The algorithms of a pipeline that passes
its checks are all of one kind, but for the learner inside another one: it falls back on the loss
function of the learner around it, and where it sets its own, no check looks at that.
-/

namespace RelationalLearning

def Json.lossKind? (document : Json) : Option Bool := do
  return (← LossFunction.ofJson? (← document.field? "loss_function_")).isClassification

def Json.predictorKind? (document : Json) : Option Bool := do
  return (← Predictor.standard? (← (← document.field? "type_").asString?)).isClassifier

theorem LossFunction.ofJson?_name (loss : LossFunction) :
    ofJson? (.string loss.name) = some loss := by
  cases loss <;> decide

theorem Json.lossKind?_of_field (document : Json) (loss : LossFunction)
    (found : document.field? "loss_function_" = some (.string loss.name)) :
    document.lossKind? = some loss.isClassification := by
  simp [lossKind?, found, LossFunction.ofJson?_name]

theorem FastProp.lossKind_toCommand (learner : FastProp) (fallback : LossFunction)
    (document : Json) (described : learner.toCommand fallback = .ok document) :
    document.lossKind? = some (learner.lossFunction.getD fallback).isClassification := by
  obtain ⟨-, rfl⟩ := learner.toCommand_eq_ok fallback document described
  apply Json.lossKind?_of_field
  rw [Hyperparameter.command, Json.field?_record]
  rfl

theorem Multirel.lossKind_toCommand (learner : Multirel) (fallback : LossFunction)
    (document : Json) (described : learner.toCommand fallback = .ok document) :
    document.lossKind? = some (learner.lossFunction.getD fallback).isClassification ∧
      ∃ inner, document.field? "propositionalization_" = some inner ∧
        inner.lossKind? = some (learner.propositionalization.lossFunction.getD
          (learner.lossFunction.getD fallback)).isClassification := by
  obtain ⟨-, inner, inside, rfl⟩ := learner.toCommand_eq_ok fallback document described
  constructor
  · apply Json.lossKind?_of_field
    rw [Hyperparameter.command, Json.set_record, Json.field?_record]
    rfl
  · refine ⟨inner, ?_, FastProp.lossKind_toCommand _ _ inner inside⟩
    rw [Hyperparameter.command, Json.set_record, Json.field?_record]
    rfl

theorem Predictor.standard_kind (predictor : Predictor) :
    (standard? predictor.kind).map isClassifier = some predictor.isClassifier := by
  cases predictor with
  | linearRegression => rfl
  | logisticRegression => rfl
  | xgboost classifier => cases classifier <;> rfl
  | scaleGBM classifier => cases classifier <;> rfl

theorem Predictor.predictorKind_toCommand (predictor : Predictor) (document : Json)
    (described : predictor.toCommand = .ok document) :
    document.predictorKind? = some predictor.isClassifier := by
  obtain ⟨-, rfl⟩ := predictor.toCommand_eq_ok document described
  have named : (Hyperparameter.command predictor.kind predictor.fields).field? "type_" =
      some (.string predictor.kind) := by
    rw [Hyperparameter.command, Json.field?_record]
    cases predictor <;> rfl
  rw [← predictor.standard_kind, Option.map_eq_bind]
  simp only [Json.predictorKind?, named]
  rfl

theorem Predictor.forall_predictorKind (kind : Bool) (predictors : List Predictor)
    (documents : List Json) (agreed : ∀ predictor ∈ predictors, predictor.isClassifier = kind)
    (written : List.Forall₂ (fun predictor document => predictor.toCommand = .ok document)
      predictors documents) :
    ∀ document ∈ documents, document.predictorKind? = some kind := by
  induction written with
  | nil => simp
  | @cons predictor document predictors documents described _ ih =>
      rw [List.forall_mem_cons] at agreed
      rw [List.forall_mem_cons]
      constructor
      · rw [predictor.predictorKind_toCommand document described, agreed.1]
      · exact ih agreed.2

/--
The loss function in the document of a learner is of the kind; that of a learner inside another
one is so, too, unless a loss function of the other kind is set on the inner learner itself.
-/
def Learner.LossesOf (kind : Bool) (learner : Learner) (document : Json) : Prop :=
  document.lossKind? = some kind ∧
  match learner with
  | .fastProp _ => True
  | .multirel outer => ∃ inner, document.field? "propositionalization_" = some inner ∧
      inner.lossKind? =
        some ((outer.propositionalization.lossFunction.map LossFunction.isClassification).getD kind)

theorem Learner.lossesOf_toCommand (learner : Learner) (fallback : LossFunction) (document : Json)
    (kind : Bool) (agreed : (learner.lossFunction.getD fallback).isClassification = kind)
    (described : learner.toCommand fallback = .ok document) :
    learner.LossesOf kind document := by
  subst agreed
  cases learner with
  | fastProp learner => exact ⟨learner.lossKind_toCommand fallback document described, trivial⟩
  | multirel outer =>
      obtain ⟨own, inner, inside, below⟩ := outer.lossKind_toCommand fallback document described
      refine ⟨own, inner, inside, below.trans ?_⟩
      cases outer.propositionalization.lossFunction <;> rfl

namespace Blueprint

theorem kind_of_isClassification (blueprint : Blueprint) (kind : Bool)
    (agreed : blueprint.isClassification = .ok kind) :
    ∀ algorithm ∈ blueprint.algorithmKinds, algorithm = kind := by
  intro algorithm member
  unfold isClassification at agreed
  split at agreed
  next none => simp [none] at member
  next =>
    split at agreed
    next all =>
      obtain rfl := Except.ok.inj agreed
      exact List.all_eq_true.mp all algorithm member
    next =>
      split at agreed
      next all =>
        obtain rfl := Except.ok.inj agreed
        simpa using List.all_eq_true.mp all algorithm member
      next => cases agreed

/--
In the command of a pipeline that passes its checks all loss functions of learners and all
selectors and predictors are of the kind that the pipeline reports, but for the learners inside
others that set a loss function of their own.
-/
theorem kinds_agree (blueprint : Blueprint) (valid : blueprint.validate = .ok ()) :
    ∃ kind, blueprint.isClassification = .ok kind ∧
      ∀ id command, blueprint.toCommand id = .ok command →
        ∃ learners selectors predictors,
          command.field? "feature_learners_" = some (.array learners) ∧
          command.field? "feature_selectors_" = some (.array selectors) ∧
          command.field? "predictors_" = some (.array predictors) ∧
          List.Forall₂ (Learner.LossesOf kind) blueprint.learners learners ∧
          ∀ document ∈ selectors ++ predictors, document.predictorKind? = some kind := by
  obtain ⟨kind, valid⟩ := blueprint.valid_of_validate valid
  have agree := blueprint.kind_of_isClassification kind valid.kind
  refine ⟨kind, valid.kind, ?_⟩
  intro id command described
  obtain ⟨learners, selectors, predictors, written⟩ :=
    blueprint.written_of_toCommand id command described
  refine ⟨learners, selectors, predictors, written.learners_field, written.selectors_field,
    written.predictors_field, ?_, ?_⟩
  · have losses : ∀ learner ∈ blueprint.learners,
        (learner.lossFunction.getD blueprint.effectiveLoss).isClassification = kind := by
      intro learner member
      apply agree
      exact List.mem_append_left _ (List.mem_map.mpr ⟨learner, member, rfl⟩)
    refine ((List.forall₂_and_left _ _).mpr ⟨losses, written.learners⟩).imp ?_
    rintro learner document ⟨agreed, described⟩
    exact learner.lossesOf_toCommand blueprint.effectiveLoss document kind agreed described
  · have kinds : ∀ predictor ∈ blueprint.selectors ++ blueprint.predictors,
        predictor.isClassifier = kind := by
      intro predictor member
      apply agree
      exact List.mem_append_right _ (List.mem_map.mpr ⟨predictor, member, rfl⟩)
    exact Predictor.forall_predictorKind kind _ _ kinds
      (List.rel_append written.selectors written.predictors)

def around : Multirel := { propositionalization := { lossFunction := some .crossEntropy } }

def mixed : Blueprint :=
  { dataModel := .create ⟨"loans", { joinKey := ["id"], target := ["default"] }⟩,
    learners := [.multirel around], predictors := [.linearRegression {}] }

theorem kinds_agree_mixed : mixed.isClassification = .ok false ∧
    ∃ command learners, mixed.toCommand "loans" = .ok command ∧
      command.field? "feature_learners_" = some (.array learners) ∧
      List.Forall₂ (Learner.LossesOf false) mixed.learners learners := by
  obtain ⟨kind, agreed, written⟩ := kinds_agree mixed rfl
  obtain rfl : false = kind := Except.ok.inj agreed
  obtain ⟨learners, -, -, field, -, -, losses, -⟩ := written "loans" _ rfl
  exact ⟨agreed, _, learners, rfl, field, losses⟩

/-- A pipeline that passes its checks as one of regression can send a loss of classification. -/
theorem inner_loss_mixes : ¬ ∀ (blueprint : Blueprint) kind id command learners learner inner,
    blueprint.validate = .ok () → blueprint.isClassification = .ok kind →
      blueprint.toCommand id = .ok command →
        command.field? "feature_learners_" = some (.array learners) → learner ∈ learners →
          Json.field? "propositionalization_" learner = some inner →
            inner.lossKind? = some kind := by
  intro agree
  obtain ⟨learners, _, _, written⟩ := mixed.written_of_toCommand "loans" _ rfl
  obtain ⟨document, rest, described, -, rfl⟩ := List.forall₂_cons_left_iff.mp written.learners
  obtain ⟨-, inner, inside, sent⟩ :=
    around.lossKind_toCommand mixed.effectiveLoss document described
  have regression := agree mixed false "loans" _ _ document inner rfl rfl rfl
    written.learners_field List.mem_cons_self inside
  rw [sent] at regression
  cases regression

end Blueprint
end RelationalLearning
