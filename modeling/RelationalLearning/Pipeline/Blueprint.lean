import RelationalLearning.DataModel.Model
import RelationalLearning.Pipeline.Learner
import RelationalLearning.Pipeline.Predictor
import RelationalLearning.Pipeline.Preprocessor
import RelationalLearning.Table.Basic

namespace RelationalLearning

structure Blueprint where
  dataModel : DataModel
  /-- The peripheral tables; left out, they are the names joined into the population. -/
  peripheral : Option (List Placeholder) := none
  preprocessors : List Preprocessor := []
  learners : List Learner := []
  selectors : List Predictor := []
  predictors : List Predictor := []
  /-- Left out, it is that of the first learner that sets one. -/
  lossFunction : Option LossFunction := none
  tags : List String := []
  includeCategorical : Bool := false
  shareSelectedFeatures : Float := 0.5
  deriving BEq, Repr

def PipelineError.ofData {α : Type} (result : Except DataError α) : Except PipelineError α :=
  result.mapError .data

namespace Blueprint

def effectiveLoss (blueprint : Blueprint) : LossFunction :=
  (blueprint.lossFunction <|> blueprint.learners.findSome? Learner.lossFunction).getD .square

def joinedNames (model : DataModel) : Except DataError (List String) := do
  let ids ← model.graph.toList model.population
  let names ← (ids.filter (· ≠ model.population)).mapM fun id => (·.name) <$> model.graph.placeholder id
  return (Index.ofList (names.map fun name => (name, ()))).names

def placeholders (blueprint : Blueprint) : Except PipelineError (List Placeholder) :=
  match blueprint.peripheral with
  | some placeholders => .ok placeholders
  | none =>
    PipelineError.ofData ((joinedNames blueprint.dataModel).map fun names =>
      names.map fun name => ⟨name, .empty⟩)

def peripheralNames (blueprint : Blueprint) : Except PipelineError (List String) :=
  blueprint.placeholders.map fun placeholders => placeholders.map (·.name)

def orderPeripheral (blueprint : Blueprint) (tables : Index Table) : Except PipelineError (List Table) := do
  (← blueprint.peripheralNames).mapM fun name =>
    match tables.lookup name with
    | some table => .ok table
    | none => .error (.invalidArgument s!"No table passed for placeholder '{name}'")

def mixture : PipelineError := .invalidArgument
  ("You are mixing classification and regression algorithms. Feature learners must consistently " ++
    "use classification loss functions (like CrossEntropyLoss) or regression loss functions " ++
    "(like SquareLoss), and feature selectors and predictors must consistently be classifiers " ++
    "(like XGBoostClassifier) or regressors (like LinearRegression).")

def algorithmKinds (blueprint : Blueprint) : List Bool :=
  blueprint.learners.map (fun learner =>
    (learner.lossFunction.getD blueprint.effectiveLoss).isClassification) ++
    (blueprint.selectors ++ blueprint.predictors).map Predictor.isClassifier

/-- Whether the problem is one of classification; all algorithms have to agree on that. -/
def isClassification (blueprint : Blueprint) : Except PipelineError Bool :=
  match blueprint.algorithmKinds with
  | [] => .ok blueprint.effectiveLoss.isClassification
  | kinds =>
    if kinds.all id then .ok true
    else if kinds.all (!·) then .ok false
    else .error mixture

def checkTag (tag : String) : Except PipelineError Unit := Hyperparameter.argument (Validation.name tag "tag")

def validate (blueprint : Blueprint) : Except PipelineError Unit := do
  Hyperparameter.share blueprint.shareSelectedFeatures "share_selected_features"
  blueprint.tags.forM checkTag
  blueprint.preprocessors.forM Preprocessor.validate
  blueprint.learners.forM Learner.validate
  (blueprint.selectors ++ blueprint.predictors).forM Predictor.validate
  let _ ← blueprint.isClassification

def placeholderCommand (placeholder : Placeholder) : Except PipelineError Json :=
  PipelineError.ofData ((({} : PlaceholderGraph).add placeholder).toCommand 0)

def toCommand (blueprint : Blueprint) (id : String) : Except PipelineError Json := do
  let peripheral ← (← blueprint.placeholders).mapM placeholderCommand
  let preprocessors ← blueprint.preprocessors.mapM Preprocessor.toCommand
  let learners ← blueprint.learners.mapM (Learner.toCommand blueprint.effectiveLoss)
  let selectors ← blueprint.selectors.mapM Predictor.toCommand
  let predictors ← blueprint.predictors.mapM Predictor.toCommand
  let model ← PipelineError.ofData blueprint.dataModel.toCommand
  return .record [("type_", .string "Pipeline"), ("name_", .string id), ("data_model_", model),
    ("peripheral_", .array peripheral), ("preprocessors_", .array preprocessors),
    ("feature_learners_", .array learners), ("feature_selectors_", .array selectors),
    ("predictors_", .array predictors), ("loss_function_", .string blueprint.effectiveLoss.name),
    ("tags_", .texts blueprint.tags), ("include_categorical_", .bool blueprint.includeCategorical),
    ("share_selected_features_", .number blueprint.shareSelectedFeatures)]

def lines (blueprint : Blueprint) : List String :=
  let population := match blueprint.dataModel.graph.placeholder blueprint.dataModel.population with
    | .ok placeholder => placeholder.name
    | .error _ => ""
  let peripheral := (blueprint.peripheralNames.toOption).getD []
  let loss := blueprint.effectiveLoss.name
  ["feature_learners=" ++ Text.bracketed (blueprint.learners.map Learner.kind),
    "feature_selectors=" ++ Text.bracketed (blueprint.selectors.map Predictor.kind),
    "include_categorical=" ++ toString blueprint.includeCategorical,
    s!"loss_function={loss}",
    "peripheral=" ++ Text.bracketed peripheral,
    "predictors=" ++ Text.bracketed (blueprint.predictors.map Predictor.kind),
    "preprocessors=" ++ Text.bracketed (blueprint.preprocessors.map Preprocessor.kind),
    "share_selected_features=" ++ Decimal.sentence blueprint.shareSelectedFeatures,
    "tags=" ++ Text.bracketed (blueprint.tags.map Text.quoted)]
    |> fun parts => s!"Pipeline(data_model='{population}'" :: parts.map ("         " ++ ·)

def display (blueprint : Blueprint) : String := Text.join ",\n" blueprint.lines ++ ")"

end Blueprint
end RelationalLearning
