import RelationalLearning.Pipeline.Hyperparameter

namespace RelationalLearning

open Hyperparameter

structure FastProp where
  aggregations : List Aggregation := Aggregation.fastPropStandard
  deltaT : Float := 0.0
  lossFunction : Option LossFunction := none
  maxLag : Nat := 0
  minDf : Nat := 30
  nMostFrequent : Nat := 0
  numFeatures : Nat := 200
  numThreads : Nat := 0
  samplingFactor : Float := 1.0
  silent : Bool := true
  vocabSize : Nat := 500
  deriving BEq, Repr

structure Multirel where
  aggregations : List Aggregation := Aggregation.multirelStandard
  allowSets : Bool := true
  deltaT : Float := 0.0
  gridFactor : Float := 1.0
  lossFunction : Option LossFunction := none
  maxLength : Nat := 4
  minDf : Nat := 30
  minNumSamples : Nat := 1
  numFeatures : Nat := 100
  numSubfeatures : Nat := 5
  numThreads : Nat := 0
  propositionalization : FastProp := {}
  regularization : Float := 0.01
  roundRobin : Bool := false
  samplingFactor : Float := 1.0
  seed : Nat := 5543
  shareAggregations : Float := 0.0
  shareConditions : Float := 1.0
  shrinkage : Float := 0.0
  silent : Bool := true
  vocabSize : Nat := 500
  deriving BEq, Repr

namespace FastProp

def settings (learner : FastProp) : List (String × Json) :=
  [("aggregation", aggregationNames learner.aggregations), ("delta_t", .number learner.deltaT),
    ("loss_function", .option (fun loss => .string loss.name) learner.lossFunction),
    ("max_lag", .nat learner.maxLag), ("min_df", .nat learner.minDf),
    ("n_most_frequent", .nat learner.nMostFrequent), ("num_features", .nat learner.numFeatures),
    ("num_threads", .nat learner.numThreads), ("sampling_factor", .number learner.samplingFactor),
    ("silent", .bool learner.silent), ("vocab_size", .nat learner.vocabSize)]

def override? (overrides : Json) (learner : FastProp) : Option FastProp := do
  return {
    aggregations := ← Hyperparameter.aggregations overrides learner.aggregations
    deltaT := ← float overrides "delta_t" learner.deltaT
    lossFunction := ← Hyperparameter.lossFunction overrides learner.lossFunction
    maxLag := ← nat overrides "max_lag" learner.maxLag
    minDf := ← nat overrides "min_df" learner.minDf
    nMostFrequent := ← nat overrides "n_most_frequent" learner.nMostFrequent
    numFeatures := ← nat overrides "num_features" learner.numFeatures
    numThreads := ← nat overrides "num_threads" learner.numThreads
    samplingFactor := ← float overrides "sampling_factor" learner.samplingFactor
    silent := ← bool overrides "silent" learner.silent
    vocabSize := ← nat overrides "vocab_size" learner.vocabSize }

def validate (learner : FastProp) : Except PipelineError Unit := do
  Aggregation.check learner.aggregations Aggregation.all "FastProp"
  nonNegative learner.deltaT "delta_t"
  nonNegative learner.samplingFactor "sampling_factor"
  atLeastOne learner.numFeatures "num_features"
  if decide (learner.deltaT > 0.0) != decide (learner.maxLag > 0) then
    throw (.invalidArgument ("If you pass a non-zero value to delta_t, you must also pass a " ++
      "non-zero value to max_lag and vice-versa."))

def toCommand (learner : FastProp) (fallback : LossFunction) : Except PipelineError Json := do
  learner.validate
  return command "FastProp"
    (settings { learner with lossFunction := some (learner.lossFunction.getD fallback) })

end FastProp

namespace Multirel

def settings (learner : Multirel) : List (String × Json) :=
  [("aggregation", aggregationNames learner.aggregations), ("allow_sets", .bool learner.allowSets),
    ("delta_t", .number learner.deltaT), ("grid_factor", .number learner.gridFactor),
    ("loss_function", .option (fun loss => .string loss.name) learner.lossFunction),
    ("max_length", .nat learner.maxLength), ("min_df", .nat learner.minDf),
    ("min_num_samples", .nat learner.minNumSamples), ("num_features", .nat learner.numFeatures),
    ("num_subfeatures", .nat learner.numSubfeatures), ("num_threads", .nat learner.numThreads),
    ("regularization", .number learner.regularization), ("round_robin", .bool learner.roundRobin),
    ("sampling_factor", .number learner.samplingFactor), ("seed", .nat learner.seed),
    ("share_aggregations", .number learner.shareAggregations),
    ("share_conditions", .number learner.shareConditions), ("shrinkage", .number learner.shrinkage),
    ("silent", .bool learner.silent), ("vocab_size", .nat learner.vocabSize)]

/-- The learner with some settings overridden; its inner learner is kept. -/
def override? (overrides : Json) (learner : Multirel) : Option Multirel := do
  return {
    aggregations := ← Hyperparameter.aggregations overrides learner.aggregations
    allowSets := ← bool overrides "allow_sets" learner.allowSets
    deltaT := ← float overrides "delta_t" learner.deltaT
    gridFactor := ← float overrides "grid_factor" learner.gridFactor
    lossFunction := ← Hyperparameter.lossFunction overrides learner.lossFunction
    maxLength := ← nat overrides "max_length" learner.maxLength
    minDf := ← nat overrides "min_df" learner.minDf
    minNumSamples := ← nat overrides "min_num_samples" learner.minNumSamples
    numFeatures := ← nat overrides "num_features" learner.numFeatures
    numSubfeatures := ← nat overrides "num_subfeatures" learner.numSubfeatures
    numThreads := ← nat overrides "num_threads" learner.numThreads
    propositionalization := learner.propositionalization
    regularization := ← float overrides "regularization" learner.regularization
    roundRobin := ← bool overrides "round_robin" learner.roundRobin
    samplingFactor := ← float overrides "sampling_factor" learner.samplingFactor
    seed := ← nat overrides "seed" learner.seed
    shareAggregations := ← float overrides "share_aggregations" learner.shareAggregations
    shareConditions := ← float overrides "share_conditions" learner.shareConditions
    shrinkage := ← float overrides "shrinkage" learner.shrinkage
    silent := ← bool overrides "silent" learner.silent
    vocabSize := ← nat overrides "vocab_size" learner.vocabSize }

def validate (learner : Multirel) : Except PipelineError Unit := do
  Aggregation.check learner.aggregations Aggregation.multirelAll "Multirel"
  nonNegative learner.deltaT "delta_t"
  positive learner.gridFactor "grid_factor"
  nonNegative learner.regularization "regularization"
  nonNegative learner.samplingFactor "sampling_factor"
  share learner.shareAggregations "share_aggregations"
  share learner.shareConditions "share_conditions"
  share learner.shrinkage "shrinkage"
  atLeastOne learner.numFeatures "num_features"
  learner.propositionalization.validate

/-- The command, with `fallback` where no loss function is set; the inner learner falls back on the outer one. -/
def toCommand (learner : Multirel) (fallback : LossFunction) : Except PipelineError Json := do
  learner.validate
  let loss := learner.lossFunction.getD fallback
  let inner ← learner.propositionalization.toCommand loss
  return (command "Multirel" (settings { learner with lossFunction := some loss })).set
    "propositionalization_" inner

end Multirel

inductive Learner where
  | fastProp (learner : FastProp)
  | multirel (learner : Multirel)
  deriving BEq, Repr

namespace Learner

def kind : Learner → String
  | .fastProp _ => "FastProp"
  | .multirel _ => "Multirel"

def standard? : String → Option Learner
  | "FastProp" => some (.fastProp {})
  | "Multirel" => some (.multirel {})
  | _ => none

def lossFunction : Learner → Option LossFunction
  | .fastProp learner => learner.lossFunction
  | .multirel learner => learner.lossFunction

def override? (overrides : Json) : Learner → Option Learner
  | .fastProp learner => (learner.override? overrides).map .fastProp
  | .multirel learner => (learner.override? overrides).map .multirel

def validate : Learner → Except PipelineError Unit
  | .fastProp learner => learner.validate
  | .multirel learner => learner.validate

def toCommand (fallback : LossFunction) : Learner → Except PipelineError Json
  | .fastProp learner => learner.toCommand fallback
  | .multirel learner => learner.toCommand fallback

end Learner
end RelationalLearning
