import RelationalLearning.Description.Basic
import RelationalLearning.Pipeline.Blueprint
import RelationalLearning.Pipeline.Feature
import RelationalLearning.Pipeline.Importance

namespace RelationalLearning.Description

inductive Setting where
  | names | loss | lags | count | float | flag | text | inner
  deriving DecidableEq, Repr

def settings : String → List (String × Setting)
  | "FastProp" => [("aggregation", .names), ("loss_function", .loss), ("lags", .lags), ("min_df", .count),
      ("n_most_frequent", .count), ("num_features", .count), ("num_threads", .count),
      ("sampling_factor", .float), ("silent", .flag), ("vocab_size", .count)]
  | "Multirel" => [("aggregation", .names), ("loss_function", .loss), ("max_length", .count),
      ("num_features", .count), ("num_subfeatures", .count), ("num_threads", .count),
      ("propositionalization", .inner), ("regularization", .float), ("sampling_factor", .float),
      ("seed", .count), ("share_aggregations", .float), ("share_conditions", .float), ("shrinkage", .float)]
  | "Mapping" => [("aggregation", .names), ("min_freq", .count)]
  | "LinearRegression" | "LogisticRegression" => [("reg_lambda", .float)]
  | "XGBoostClassifier" | "XGBoostRegressor" | "ScaleGBMClassifier" | "ScaleGBMRegressor" =>
    [("learning_rate", .float), ("max_depth", .count), ("n_estimators", .count), ("n_jobs", .count),
      ("objective", .text), ("reg_lambda", .float)]
  | _ => []

def lossFunction (document : Json) : Result LossFunction := do ofPipeline (LossFunction.parse (← text document))

def overridden (name : String) (value : Json) : Setting → Result (List (String × Json))
  | .names => do
    (← need value.asStrings?).forM fun name => do let _ ← ofPipeline (Aggregation.parse name)
    return [(name, value)]
  | .loss => do let _ ← lossFunction value; return [(name, value)]
  | .lags => do
    let (lag, number) ← pair float count value
    return [("delta_t", .float lag), ("max_lag", .nat number)]
  | .float => do return [(name, .float (← float value))]
  | .count => do return [(name, .nat (← count value))]
  | .flag => .ok [(name, .bool (flag value))]
  | .text => do return [(name, .string (← text value))]
  | .inner => .ok []

def fields (document : Json) : Result (List (String × Json)) :=
  if document.isNull then .ok [] else need document.asObject?

def component {α : Type} (type : String) (standard : α) (override? : Json → α → Option α) (document : Json) :
    Result α := do
  match override? (.record (← field fields "set" document)) standard with
  | none => throw .unfit
  | some start =>
    (← field fields "with" document).foldlM (fun component (name, value) => do
      let overrides ← overridden name value (← need ((settings type).lookup name))
      need (override? (.record overrides) component)) start

def typeOf : Json → Result String := field text "type"

def preprocessor (document : Json) : Result Preprocessor := do
  let type ← typeOf document
  match type, document.field "new" with
  | "Substring", .array [start, length, unit] => return .substring (← count start) (← count length) (← text unit)
  | "CategoryTrimmer", .array [most, least] => return .categoryTrimmer (← count most) (← count least)
  | "Imputation", .array [dummies] => return .imputation (flag dummies)
  | _, .null => component type (← need (Preprocessor.standard? type)) Preprocessor.override? document
  | _, _ => throw .malformed

def learner (document : Json) : Result Learner := do
  let type ← typeOf document
  match ← component type (← need (Learner.standard? type)) Learner.override? document with
  | .multirel learner =>
    match (document.field "with").field "propositionalization" with
    | .null => return .multirel learner
    | inner =>
      return .multirel { learner with propositionalization := ← component "FastProp" {} FastProp.override? inner }
  | other => return other

def predictor (document : Json) : Result Predictor := do
  let type ← typeOf document
  component type (← need (Predictor.standard? type)) Predictor.override? document

def blueprint (dataModel : DataModel) (document : Json) : Result Blueprint := do
  let preprocessors ← field (list preprocessor) "preprocessors" document
  let learners ← field (list learner) "feature_learners" document
  let selectors ← field (list predictor) "feature_selectors" document
  let predictors ← field (list predictor) "predictors" document
  let peripheral ← field (optional (named roles)) "peripheral" document
  return {
    dataModel, preprocessors, learners, selectors, predictors
    peripheral := peripheral.map fun tables => tables.map fun (name, roles) => ⟨name, roles⟩
    tags := ← field strings "tags" document
    includeCategorical := flag (document.field "include_categorical")
    shareSelectedFeatures := (← field (optional float) "share_selected_features" document).getD 0.5
    lossFunction := ← field (optional lossFunction) "loss_function" document }

def figure (document : Json) : Result Figure := do
  if document == .string "-NaN" then return .missing true
  return .ofFloat (← float document)

def feature : Json → Result Feature
  | .array [index, name, target, correlation, importance] => do
    return ⟨← count index, ← text name, ← text target, ← figure correlation, ← figure importance⟩
  | _ => .error .malformed

def importantColumn : Json → Result (ImportantColumn Figure)
  | .array [index, name, marker, table, target, importance] => do
    return ⟨← count index, ← text name, ← text marker, ← text table, ← text target, ← figure importance⟩
  | _ => .error .malformed

end RelationalLearning.Description
