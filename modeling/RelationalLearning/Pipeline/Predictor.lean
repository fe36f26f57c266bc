import RelationalLearning.Pipeline.Hyperparameter

namespace RelationalLearning

open Hyperparameter

structure RegressionSettings where
  learningRate : Float := 0.9
  regLambda : Float := 1e-10
  deriving BEq, Repr

structure XGBoost where
  booster : String := "gbtree"
  colsampleBylevel : Float := 1.0
  colsampleBytree : Float := 1.0
  earlyStoppingRounds : Nat := 10
  externalMemory : Bool := false
  gamma : Float := 0.0
  learningRate : Float := 0.1
  maxDeltaStep : Float := 0.0
  maxDepth : Nat := 3
  minChildWeights : Float := 1.0
  nEstimators : Nat := 100
  nJobs : Nat := 1
  normalizeType : String := "tree"
  numParallelTree : Nat := 1
  objective : String
  oneDrop : Bool := false
  rateDrop : Float := 0.0
  regAlpha : Float := 0.0
  regLambda : Float := 1.0
  sampleType : String := "uniform"
  silent : Bool := true
  skipDrop : Float := 0.0
  subsample : Float := 1.0
  deriving BEq, Repr

structure ScaleGBM where
  colsampleBylevel : Float := 1.0
  colsampleBytree : Float := 1.0
  earlyStoppingRounds : Nat := 10
  gamma : Float := 0.0
  gossA : Float := 1.0
  gossB : Float := 0.0
  learningRate : Float := 0.1
  maxDepth : Nat := 3
  minChildWeights : Float := 1.0
  nEstimators : Nat := 100
  nJobs : Nat := 1
  objective : String
  regLambda : Float := 1.0
  seed : Nat := 5843
  deriving BEq, Repr

inductive Predictor where
  | linearRegression (settings : RegressionSettings)
  | logisticRegression (settings : RegressionSettings)
  | xgboost (classifier : Bool) (settings : XGBoost)
  | scaleGBM (classifier : Bool) (settings : ScaleGBM)
  deriving BEq, Repr

def objectives (classifier : Bool) : List String :=
  if classifier then ["binary:logistic", "binary:logitraw"]
  else ["reg:squarederror", "reg:tweedie", "reg:linear", "reg:logistic"]

def checkObjective (classifier : Bool) (objective : String) : Except PipelineError Unit :=
  let listed := Text.join ", " (objectives classifier)
  oneOf objective (objectives classifier) s!"'objective' must be one of {listed}, got '{objective}'"

namespace RegressionSettings

def fields (settings : RegressionSettings) : List (String × Json) :=
  [("learning_rate", .number settings.learningRate), ("reg_lambda", .number settings.regLambda)]

def override? (overrides : Json) (settings : RegressionSettings) : Option RegressionSettings := do
  return ⟨← float overrides "learning_rate" settings.learningRate,
    ← float overrides "reg_lambda" settings.regLambda⟩

def validate (settings : RegressionSettings) : Except PipelineError Unit := do
  positive settings.learningRate "learning_rate"
  nonNegative settings.regLambda "reg_lambda"

end RegressionSettings

namespace XGBoost

def fields (settings : XGBoost) : List (String × Json) :=
  [("booster", .string settings.booster), ("colsample_bylevel", .number settings.colsampleBylevel),
    ("colsample_bytree", .number settings.colsampleBytree),
    ("early_stopping_rounds", .nat settings.earlyStoppingRounds),
    ("external_memory", .bool settings.externalMemory), ("gamma", .number settings.gamma),
    ("learning_rate", .number settings.learningRate), ("max_delta_step", .number settings.maxDeltaStep),
    ("max_depth", .nat settings.maxDepth), ("min_child_weights", .number settings.minChildWeights),
    ("n_estimators", .nat settings.nEstimators), ("n_jobs", .nat settings.nJobs),
    ("normalize_type", .string settings.normalizeType),
    ("num_parallel_tree", .nat settings.numParallelTree), ("objective", .string settings.objective),
    ("one_drop", .bool settings.oneDrop), ("rate_drop", .number settings.rateDrop),
    ("reg_alpha", .number settings.regAlpha), ("reg_lambda", .number settings.regLambda),
    ("sample_type", .string settings.sampleType), ("silent", .bool settings.silent),
    ("skip_drop", .number settings.skipDrop), ("subsample", .number settings.subsample)]

def override? (overrides : Json) (settings : XGBoost) : Option XGBoost := do
  return {
    booster := ← text overrides "booster" settings.booster
    colsampleBylevel := ← float overrides "colsample_bylevel" settings.colsampleBylevel
    colsampleBytree := ← float overrides "colsample_bytree" settings.colsampleBytree
    earlyStoppingRounds := ← nat overrides "early_stopping_rounds" settings.earlyStoppingRounds
    externalMemory := ← bool overrides "external_memory" settings.externalMemory
    gamma := ← float overrides "gamma" settings.gamma
    learningRate := ← float overrides "learning_rate" settings.learningRate
    maxDeltaStep := ← float overrides "max_delta_step" settings.maxDeltaStep
    maxDepth := ← nat overrides "max_depth" settings.maxDepth
    minChildWeights := ← float overrides "min_child_weights" settings.minChildWeights
    nEstimators := ← nat overrides "n_estimators" settings.nEstimators
    nJobs := ← nat overrides "n_jobs" settings.nJobs
    normalizeType := ← text overrides "normalize_type" settings.normalizeType
    numParallelTree := ← nat overrides "num_parallel_tree" settings.numParallelTree
    objective := ← text overrides "objective" settings.objective
    oneDrop := ← bool overrides "one_drop" settings.oneDrop
    rateDrop := ← float overrides "rate_drop" settings.rateDrop
    regAlpha := ← float overrides "reg_alpha" settings.regAlpha
    regLambda := ← float overrides "reg_lambda" settings.regLambda
    sampleType := ← text overrides "sample_type" settings.sampleType
    silent := ← bool overrides "silent" settings.silent
    skipDrop := ← float overrides "skip_drop" settings.skipDrop
    subsample := ← float overrides "subsample" settings.subsample }

def validate (classifier : Bool) (settings : XGBoost) : Except PipelineError Unit := do
  oneOf settings.booster ["gbtree", "gblinear", "dart"]
    "'booster' must either be 'gbtree', 'gblinear', or 'dart'"
  oneOf settings.normalizeType ["forest", "tree"] "'normalize_type' must either be 'forest' or 'tree'"
  oneOf settings.sampleType ["uniform", "weighted"] "'sample_type' must either be 'uniform' or 'weighted'"
  checkObjective classifier settings.objective
  share settings.colsampleBylevel "colsample_bylevel"
  share settings.colsampleBytree "colsample_bytree"
  nonNegative settings.gamma "gamma"
  share settings.learningRate "learning_rate"
  nonNegative settings.maxDeltaStep "max_delta_step"
  nonNegative settings.minChildWeights "min_child_weights"
  share settings.rateDrop "rate_drop"
  nonNegative settings.regAlpha "reg_alpha"
  nonNegative settings.regLambda "reg_lambda"
  share settings.skipDrop "skip_drop"
  share settings.subsample "subsample"
  atLeastOne settings.nEstimators "n_estimators"

end XGBoost

namespace ScaleGBM

def fields (settings : ScaleGBM) : List (String × Json) :=
  [("colsample_bylevel", .number settings.colsampleBylevel),
    ("colsample_bytree", .number settings.colsampleBytree),
    ("early_stopping_rounds", .nat settings.earlyStoppingRounds), ("gamma", .number settings.gamma),
    ("goss_a", .number settings.gossA), ("goss_b", .number settings.gossB),
    ("learning_rate", .number settings.learningRate), ("max_depth", .nat settings.maxDepth),
    ("min_child_weights", .number settings.minChildWeights),
    ("n_estimators", .nat settings.nEstimators), ("n_jobs", .nat settings.nJobs),
    ("objective", .string settings.objective), ("reg_lambda", .number settings.regLambda),
    ("seed", .nat settings.seed)]

def override? (overrides : Json) (settings : ScaleGBM) : Option ScaleGBM := do
  return {
    colsampleBylevel := ← float overrides "colsample_bylevel" settings.colsampleBylevel
    colsampleBytree := ← float overrides "colsample_bytree" settings.colsampleBytree
    earlyStoppingRounds := ← nat overrides "early_stopping_rounds" settings.earlyStoppingRounds
    gamma := ← float overrides "gamma" settings.gamma
    gossA := ← float overrides "goss_a" settings.gossA
    gossB := ← float overrides "goss_b" settings.gossB
    learningRate := ← float overrides "learning_rate" settings.learningRate
    maxDepth := ← nat overrides "max_depth" settings.maxDepth
    minChildWeights := ← float overrides "min_child_weights" settings.minChildWeights
    nEstimators := ← nat overrides "n_estimators" settings.nEstimators
    nJobs := ← nat overrides "n_jobs" settings.nJobs
    objective := ← text overrides "objective" settings.objective
    regLambda := ← float overrides "reg_lambda" settings.regLambda
    seed := ← nat overrides "seed" settings.seed }

def validate (classifier : Bool) (settings : ScaleGBM) : Except PipelineError Unit := do
  checkObjective classifier settings.objective
  share settings.colsampleBylevel "colsample_bylevel"
  share settings.colsampleBytree "colsample_bytree"
  nonNegative settings.gamma "gamma"
  share settings.gossA "goss_a"
  share settings.gossB "goss_b"
  share settings.learningRate "learning_rate"
  nonNegative settings.minChildWeights "min_child_weights"
  nonNegative settings.regLambda "reg_lambda"
  if settings.gossA + settings.gossB > 1.0 then
    throw (.invalidArgument "'goss_a' and 'goss_b' must not add up to more than 1")
  atLeastOne settings.nEstimators "n_estimators"

end ScaleGBM

namespace Predictor

def kind : Predictor → String
  | .linearRegression _ => "LinearRegression"
  | .logisticRegression _ => "LogisticRegression"
  | .xgboost classifier _ => if classifier then "XGBoostClassifier" else "XGBoostRegressor"
  | .scaleGBM classifier _ => if classifier then "ScaleGBMClassifier" else "ScaleGBMRegressor"

def isClassifier : Predictor → Bool
  | .linearRegression _ => false
  | .logisticRegression _ => true
  | .xgboost classifier _ => classifier
  | .scaleGBM classifier _ => classifier

def standard? : String → Option Predictor
  | "LinearRegression" => some (.linearRegression {})
  | "LogisticRegression" => some (.logisticRegression {})
  | "XGBoostClassifier" => some (.xgboost true { objective := "binary:logistic" })
  | "XGBoostRegressor" => some (.xgboost false { objective := "reg:squarederror" })
  | "ScaleGBMClassifier" => some (.scaleGBM true { objective := "binary:logistic" })
  | "ScaleGBMRegressor" => some (.scaleGBM false { objective := "reg:squarederror" })
  | _ => none

def fields : Predictor → List (String × Json)
  | .linearRegression settings => settings.fields
  | .logisticRegression settings => settings.fields
  | .xgboost _ settings => settings.fields
  | .scaleGBM _ settings => settings.fields

def override? (overrides : Json) : Predictor → Option Predictor
  | .linearRegression settings => (settings.override? overrides).map .linearRegression
  | .logisticRegression settings => (settings.override? overrides).map .logisticRegression
  | .xgboost classifier settings => (settings.override? overrides).map (.xgboost classifier)
  | .scaleGBM classifier settings => (settings.override? overrides).map (.scaleGBM classifier)

def validate : Predictor → Except PipelineError Unit
  | .linearRegression settings => settings.validate
  | .logisticRegression settings => settings.validate
  | .xgboost classifier settings => settings.validate classifier
  | .scaleGBM classifier settings => settings.validate classifier

def toCommand (predictor : Predictor) : Except PipelineError Json := do
  predictor.validate
  return command predictor.kind predictor.fields

end Predictor
end RelationalLearning
