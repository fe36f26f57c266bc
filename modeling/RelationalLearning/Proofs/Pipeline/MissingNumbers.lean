import RelationalLearning.Proofs.Binary64.Special
import RelationalLearning.Proofs.Json.Covered
import RelationalLearning.Proofs.Json.Values
import RelationalLearning.Proofs.Pipeline.Written

/-!
Numbers that are missing from the command of a pipeline. A setting that is no finite number is sent
as `null`. The checks of settings refuse most of these, but a share that is no number is neither
below nor above the range of shares, and an endless number is not negative.
-/

namespace RelationalLearning

open Json (Within)

namespace Json

@[simp]
theorem within_null_string (text : String) : ¬ Within .null (.string text) := nofun

@[simp]
theorem within_null_bool (value : Bool) : ¬ Within .null (.bool value) := nofun

@[simp]
theorem within_null_nat (value : Nat) : ¬ Within .null (.nat value) := nofun

@[simp]
theorem within_null_texts (values : List String) : ¬ Within .null (.texts values) := by
  intro within
  cases within with
  | item item _ member within =>
      obtain ⟨text, -, rfl⟩ := List.mem_map.mp member
      exact within_null_string text within

@[simp]
theorem within_null_number (value : Float) :
    Within .null (.number value) ↔ value.isFinite = false := by
  rw [← number_eq_null]
  constructor
  · intro within
    unfold number at *
    split at within
    next => cases within
    next infinite => exact if_neg infinite
  · intro missing
    rw [missing]
    exact .here .null

end Json

inductive Limit where
  | share | nonNegative | positive

structure NumberSetting where
  limit : Limit
  name : String
  value : Float

namespace NumberSetting

def check (setting : NumberSetting) : Except PipelineError Unit :=
  match setting.limit with
  | .share => Hyperparameter.share setting.value setting.name
  | .nonNegative => Hyperparameter.nonNegative setting.value setting.name
  | .positive => Hyperparameter.positive setting.value setting.name

/-- A share that is no number, or another setting that is endless. -/
def Slips (setting : NumberSetting) : Prop :=
  match setting.limit with
  | .share => setting.value.isNaN = true
  | _ => setting.value.isInf = true ∧ 0.0 < setting.value

theorem argument_eq_ok (result : Except String Unit) :
    Hyperparameter.argument result = .ok () ↔ result = .ok () := by
  cases result <;> simp [Hyperparameter.argument]

/-- The missing number is in every range, as it compares with neither bound. -/
theorem slips_share (value : Float) (name : String)
    (passed : Hyperparameter.share value name = .ok ()) :
    value.isFinite = false ↔ value.isNaN = true := by
  rw [Hyperparameter.share, argument_eq_ok, Validation.range] at passed
  split at passed
  next => cases passed
  next inside =>
    simp only [Bool.or_eq_true, decide_eq_true_eq, not_or] at inside
    constructor
    · intro infinite
      exact Binary64.isNaN_of_between value infinite inside.1 inside.2
    · exact Binary64.isFinite_of_isNaN value

theorem slips_nonNegative (value : Float) (name : String)
    (passed : Hyperparameter.nonNegative value name = .ok ()) :
    value.isFinite = false ↔ value.isInf = true ∧ 0.0 < value := by
  rw [Hyperparameter.nonNegative, argument_eq_ok, Validation.nonNegative] at passed
  split at passed
  next => cases passed
  next inside =>
    simp only [Bool.or_eq_true, decide_eq_true_eq, not_or, Bool.not_eq_true] at inside
    constructor
    · intro infinite
      exact Binary64.isInf_of_infinite value infinite inside.1 inside.2
    · intro endless
      exact Binary64.isFinite_of_isInf value endless.1

theorem slips_positive (value : Float) (name : String)
    (passed : Hyperparameter.positive value name = .ok ()) :
    value.isFinite = false ↔ value.isInf = true ∧ 0.0 < value := by
  rw [Hyperparameter.positive, argument_eq_ok, Validation.positive] at passed
  split at passed
  next => cases passed
  next inside =>
    simp only [Bool.or_eq_true, decide_eq_true_eq, not_or, Bool.not_eq_true] at inside
    constructor
    · intro infinite
      have low := Binary64.not_lt_of_not_le value infinite inside.2
      exact Binary64.isInf_of_infinite value infinite inside.1 low
    · intro endless
      exact Binary64.isFinite_of_isInf value endless.1

theorem slips_iff (setting : NumberSetting) (passed : setting.check = .ok ()) :
    setting.value.isFinite = false ↔ setting.Slips := by
  obtain ⟨limit, name, value⟩ := setting
  cases limit with
  | share => exact slips_share value name passed
  | nonNegative => exact slips_nonNegative value name passed
  | positive => exact slips_positive value name passed

theorem exists_slips (settings : List NumberSetting)
    (checked : ∀ setting ∈ settings, setting.check = .ok ()) :
    (∃ setting ∈ settings, setting.value.isFinite = false) ↔
      ∃ setting ∈ settings, setting.Slips := by
  apply exists_congr
  intro setting
  apply and_congr_right
  intro member
  exact setting.slips_iff (checked setting member)

end NumberSetting

def FastProp.numbers (learner : FastProp) : List NumberSetting :=
  [⟨.nonNegative, "delta_t", learner.deltaT⟩,
    ⟨.nonNegative, "sampling_factor", learner.samplingFactor⟩]

def Multirel.numbers (learner : Multirel) : List NumberSetting :=
  [⟨.nonNegative, "delta_t", learner.deltaT⟩, ⟨.positive, "grid_factor", learner.gridFactor⟩,
    ⟨.nonNegative, "regularization", learner.regularization⟩,
    ⟨.nonNegative, "sampling_factor", learner.samplingFactor⟩,
    ⟨.share, "share_aggregations", learner.shareAggregations⟩,
    ⟨.share, "share_conditions", learner.shareConditions⟩,
    ⟨.share, "shrinkage", learner.shrinkage⟩] ++ learner.propositionalization.numbers

def Learner.numbers : Learner → List NumberSetting
  | .fastProp learner => learner.numbers
  | .multirel learner => learner.numbers

def RegressionSettings.numbers (settings : RegressionSettings) : List NumberSetting :=
  [⟨.positive, "learning_rate", settings.learningRate⟩,
    ⟨.nonNegative, "reg_lambda", settings.regLambda⟩]

def XGBoost.numbers (settings : XGBoost) : List NumberSetting :=
  [⟨.share, "colsample_bylevel", settings.colsampleBylevel⟩,
    ⟨.share, "colsample_bytree", settings.colsampleBytree⟩,
    ⟨.nonNegative, "gamma", settings.gamma⟩, ⟨.share, "learning_rate", settings.learningRate⟩,
    ⟨.nonNegative, "max_delta_step", settings.maxDeltaStep⟩,
    ⟨.nonNegative, "min_child_weights", settings.minChildWeights⟩,
    ⟨.share, "rate_drop", settings.rateDrop⟩, ⟨.nonNegative, "reg_alpha", settings.regAlpha⟩,
    ⟨.nonNegative, "reg_lambda", settings.regLambda⟩, ⟨.share, "skip_drop", settings.skipDrop⟩,
    ⟨.share, "subsample", settings.subsample⟩]

def ScaleGBM.numbers (settings : ScaleGBM) : List NumberSetting :=
  [⟨.share, "colsample_bylevel", settings.colsampleBylevel⟩,
    ⟨.share, "colsample_bytree", settings.colsampleBytree⟩,
    ⟨.nonNegative, "gamma", settings.gamma⟩, ⟨.share, "goss_a", settings.gossA⟩,
    ⟨.share, "goss_b", settings.gossB⟩, ⟨.share, "learning_rate", settings.learningRate⟩,
    ⟨.nonNegative, "min_child_weights", settings.minChildWeights⟩,
    ⟨.nonNegative, "reg_lambda", settings.regLambda⟩]

def Predictor.numbers : Predictor → List NumberSetting
  | .linearRegression settings => settings.numbers
  | .logisticRegression settings => settings.numbers
  | .xgboost _ settings => settings.numbers
  | .scaleGBM _ settings => settings.numbers

theorem FastProp.checked (learner : FastProp) (valid : learner.validate = .ok ()) :
    ∀ setting ∈ learner.numbers, setting.check = .ok () := by
  simp only [validate, Outcome.bind_eq_ok] at valid
  obtain ⟨⟨⟩, -, ⟨⟩, deltaT, ⟨⟩, samplingFactor, -⟩ := valid
  simp [numbers, NumberSetting.check, deltaT, samplingFactor]

theorem Multirel.checked (learner : Multirel) (valid : learner.validate = .ok ()) :
    ∀ setting ∈ learner.numbers, setting.check = .ok () := by
  simp only [validate, Outcome.bind_eq_ok] at valid
  obtain ⟨⟨⟩, -, ⟨⟩, deltaT, ⟨⟩, gridFactor, ⟨⟩, regularization, ⟨⟩, samplingFactor,
    ⟨⟩, shareAggregations, ⟨⟩, shareConditions, ⟨⟩, shrinkage, ⟨⟩, -, inner⟩ := valid
  rw [numbers, List.forall_mem_append]
  constructor
  · simp [NumberSetting.check, deltaT, gridFactor, regularization, samplingFactor,
      shareAggregations, shareConditions, shrinkage]
  · exact learner.propositionalization.checked inner

theorem RegressionSettings.checked (settings : RegressionSettings)
    (valid : settings.validate = .ok ()) :
    ∀ setting ∈ settings.numbers, setting.check = .ok () := by
  simp only [validate, Outcome.bind_eq_ok] at valid
  obtain ⟨⟨⟩, learningRate, regLambda⟩ := valid
  simp [numbers, NumberSetting.check, learningRate, regLambda]

theorem XGBoost.checked (classifier : Bool) (settings : XGBoost)
    (valid : settings.validate classifier = .ok ()) :
    ∀ setting ∈ settings.numbers, setting.check = .ok () := by
  simp only [validate, Outcome.bind_eq_ok] at valid
  obtain ⟨⟨⟩, -, ⟨⟩, -, ⟨⟩, -, ⟨⟩, -, ⟨⟩, bylevel, ⟨⟩, bytree, ⟨⟩, gamma, ⟨⟩, learningRate,
    ⟨⟩, maxDeltaStep, ⟨⟩, minChildWeights, ⟨⟩, rateDrop, ⟨⟩, regAlpha, ⟨⟩, regLambda,
    ⟨⟩, skipDrop, ⟨⟩, subsample, -⟩ := valid
  simp [numbers, NumberSetting.check, bylevel, bytree, gamma, learningRate, maxDeltaStep,
    minChildWeights, rateDrop, regAlpha, regLambda, skipDrop, subsample]

theorem ScaleGBM.checked (classifier : Bool) (settings : ScaleGBM)
    (valid : settings.validate classifier = .ok ()) :
    ∀ setting ∈ settings.numbers, setting.check = .ok () := by
  simp only [validate, Outcome.bind_eq_ok] at valid
  obtain ⟨⟨⟩, -, ⟨⟩, bylevel, ⟨⟩, bytree, ⟨⟩, gamma, ⟨⟩, gossA, ⟨⟩, gossB, ⟨⟩, learningRate,
    ⟨⟩, minChildWeights, ⟨⟩, regLambda, -⟩ := valid
  simp [numbers, NumberSetting.check, bylevel, bytree, gamma, gossA, gossB, learningRate,
    minChildWeights, regLambda]

theorem Predictor.checked (predictor : Predictor) (valid : predictor.validate = .ok ()) :
    ∀ setting ∈ predictor.numbers, setting.check = .ok () := by
  cases predictor with
  | linearRegression settings => exact settings.checked valid
  | logisticRegression settings => exact settings.checked valid
  | xgboost classifier settings => exact settings.checked classifier valid
  | scaleGBM classifier settings => exact settings.checked classifier valid

theorem Hyperparameter.within_null_command (kind : String) (settings : List (String × Json))
    (distinct : ("type_" :: settings.map fun setting => setting.1 ++ "_").Nodup) :
    Within .null (command kind settings) ↔ ∃ setting ∈ settings, Within .null setting.2 := by
  rw [command, Json.within_record .null _ nofun (by simpa [Function.comp_def] using distinct)]
  simp

theorem FastProp.within_null_toCommand (learner : FastProp) (fallback : LossFunction)
    (document : Json) (described : learner.toCommand fallback = .ok document) :
    Within .null document ↔ ∃ setting ∈ learner.numbers, setting.Slips := by
  obtain ⟨valid, rfl⟩ := learner.toCommand_eq_ok fallback document described
  rw [← NumberSetting.exists_slips _ (learner.checked valid),
    Hyperparameter.within_null_command _ _ (by simp [settings])]
  simp [settings, numbers, Hyperparameter.aggregationNames, Json.option]

theorem Multirel.within_null_toCommand (learner : Multirel) (fallback : LossFunction)
    (document : Json) (described : learner.toCommand fallback = .ok document) :
    Within .null document ↔ ∃ setting ∈ learner.numbers, setting.Slips := by
  obtain ⟨valid, inner, inside, rfl⟩ := learner.toCommand_eq_ok fallback document described
  have checked := learner.checked valid
  have below := learner.propositionalization.within_null_toCommand _ inner inside
  rw [← NumberSetting.exists_slips _ fun setting member =>
    checked setting (List.mem_append_right _ member)] at below
  rw [← NumberSetting.exists_slips _ checked, Hyperparameter.command, Json.set_record,
    Json.within_record .null _ nofun (by simp [settings])]
  simp [settings, numbers, Hyperparameter.aggregationNames, Json.option, below]

theorem Predictor.within_null_toCommand (predictor : Predictor) (document : Json)
    (described : predictor.toCommand = .ok document) :
    Within .null document ↔ ∃ setting ∈ predictor.numbers, setting.Slips := by
  obtain ⟨valid, rfl⟩ := predictor.toCommand_eq_ok document described
  rw [← NumberSetting.exists_slips _ (predictor.checked valid)]
  cases predictor with
  | linearRegression settings =>
      rw [Hyperparameter.within_null_command _ _ (by simp [fields, RegressionSettings.fields])]
      simp [fields, numbers, RegressionSettings.fields, RegressionSettings.numbers]
  | logisticRegression settings =>
      rw [Hyperparameter.within_null_command _ _ (by simp [fields, RegressionSettings.fields])]
      simp [fields, numbers, RegressionSettings.fields, RegressionSettings.numbers]
  | xgboost classifier settings =>
      rw [Hyperparameter.within_null_command _ _ (by simp [fields, XGBoost.fields])]
      simp [fields, numbers, XGBoost.fields, XGBoost.numbers]
  | scaleGBM classifier settings =>
      rw [Hyperparameter.within_null_command _ _ (by simp [fields, ScaleGBM.fields])]
      simp [fields, numbers, ScaleGBM.fields, ScaleGBM.numbers]

theorem Learner.within_null_toCommand (learner : Learner) (fallback : LossFunction)
    (document : Json) (described : learner.toCommand fallback = .ok document) :
    Within .null document ↔ ∃ setting ∈ learner.numbers, setting.Slips := by
  cases learner with
  | fastProp learner => exact learner.within_null_toCommand fallback document described
  | multirel learner => exact learner.within_null_toCommand fallback document described

namespace Blueprint

/--
In the command of a pipeline that passes its checks a number is missing where a setting slips
through them, and nowhere else: where a share is no number, or another setting is endless.
-/
theorem missing_numbers (blueprint : Blueprint) (id : String) (command : Json)
    (valid : blueprint.validate = .ok ()) (described : blueprint.toCommand id = .ok command) :
    (command.field? "share_selected_features_" = some .null ↔
      blueprint.shareSelectedFeatures.isNaN = true) ∧
    ∃ learners selectors predictors,
      command.field? "feature_learners_" = some (.array learners) ∧
      command.field? "feature_selectors_" = some (.array selectors) ∧
      command.field? "predictors_" = some (.array predictors) ∧
      List.Forall₂ (fun learner document =>
        Within .null document ↔ ∃ setting ∈ learner.numbers, setting.Slips)
        blueprint.learners learners ∧
      List.Forall₂ (fun predictor document =>
        Within .null document ↔ ∃ setting ∈ predictor.numbers, setting.Slips)
        (blueprint.selectors ++ blueprint.predictors) (selectors ++ predictors) := by
  obtain ⟨kind, valid⟩ := blueprint.valid_of_validate valid
  obtain ⟨learners, selectors, predictors, written⟩ :=
    blueprint.written_of_toCommand id command described
  constructor
  · rw [written.share_field, Option.some.injEq, Json.number_eq_null]
    exact NumberSetting.slips_share _ _ valid.share
  · refine ⟨learners, selectors, predictors, written.learners_field, written.selectors_field,
      written.predictors_field, ?_, ?_⟩
    · apply written.learners.imp
      intro learner document
      exact learner.within_null_toCommand blueprint.effectiveLoss document
    · apply (List.rel_append written.selectors written.predictors).imp
      intro predictor document
      exact predictor.within_null_toCommand document

def slippery : Blueprint :=
  { dataModel := .create ⟨"loans", { joinKey := ["id"], target := ["default"] }⟩,
    predictors := [.linearRegression { regLambda := 1.0 / 0.0 }],
    shareSelectedFeatures := 0.0 / 0.0 }

theorem missing_numbers_slippery : ∃ command selectors predictors,
    slippery.toCommand "loans" = .ok command ∧
    command.field? "share_selected_features_" = some .null ∧
    command.field? "feature_selectors_" = some (.array selectors) ∧
    command.field? "predictors_" = some (.array predictors) ∧
    ∃ document ∈ selectors ++ predictors, Within .null document := by
  obtain ⟨share, learners, selectors, predictors, -, first, second, -, others⟩ :=
    missing_numbers slippery "loans" _ rfl rfl
  obtain ⟨document, rest, missing, -, same⟩ := List.forall₂_cons_left_iff.mp others
  have endless : Within .null document :=
    missing.mpr ⟨⟨.nonNegative, "reg_lambda", 1.0 / 0.0⟩, .tail _ (.head _), rfl, by decide +kernel⟩
  refine ⟨_, selectors, predictors, rfl, share.mpr rfl, first, second, document, ?_, endless⟩
  rw [same]
  exact List.mem_cons_self

/-- The check of a share lets the value through that is sent as no number at all. -/
theorem share_goes_missing : ¬ ∀ (blueprint : Blueprint) id command,
    blueprint.validate = .ok () → blueprint.toCommand id = .ok command →
      command.field? "share_selected_features_" ≠ some .null := by
  intro present
  apply present slippery "loans" _ rfl rfl
  obtain ⟨_, _, _, written⟩ := slippery.written_of_toCommand "loans" _ rfl
  exact written.share_field

end Blueprint
end RelationalLearning
