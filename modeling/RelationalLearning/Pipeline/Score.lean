import RelationalLearning.Calendar
import RelationalLearning.Json.Basic
import RelationalLearning.Pipeline.Figure
import RelationalLearning.Pipeline.Hyperparameter

namespace RelationalLearning

inductive Metric where
  | accuracy | auc | crossEntropy | mae | rmse | rsquared
  deriving DecidableEq, Repr

namespace Metric

def all : List Metric := [.accuracy, .auc, .crossEntropy, .mae, .rmse, .rsquared]

def name : Metric → String
  | .accuracy => "accuracy"
  | .auc => "auc"
  | .crossEntropy => "cross_entropy"
  | .mae => "mae"
  | .rmse => "rmse"
  | .rsquared => "rsquared"

def named? (text : String) : Option Metric := all.find? fun metric => metric.name = text

def isClassification : Metric → Bool
  | .accuracy | .auc | .crossEntropy => true
  | _ => false

def isLoss : Metric → Bool
  | .mae | .rmse | .crossEntropy => true
  | _ => false

end Metric

structure Score where
  moment : Moment
  setUsed : String
  target : String
  metric : Metric → Figure

structure Scores where
  entries : List Score
  latest : Metric → List Figure
  isClassification : Bool

namespace Scores

/-- The value of a metric for a target; minus one stands for a missing value. -/
def figureAt (document : Json) (target : Nat) (metric : Metric) : Figure :=
  match ((document.field metric.name).asArray?.bind (·[target]?)).bind Json.asFloat? with
  | some value => if value != -1.0 then .ofFloat value else .missing false
  | none => .missing false

def only (isClassification : Bool) (figures : Metric → Figure) : Metric → Figure := fun metric =>
  if metric.isClassification = isClassification then figures metric else .missing false

def textAt (document : Json) (name : String) : String := (document.field name).asString?.getD ""

def ofRun (targets : List String) (isClassification : Bool) (run : Json) : Except PipelineError (List Score) :=
  let date := textAt run "date_time"
  match Calendar.read? Calendar.plain date with
  | none => .error (.engine (.protocol
      s!"Could not parse score date '{date}': it is not of the form 2024-01-31 10:00:00"))
  | some moment =>
    .ok (targets.zipIdx.map fun (target, index) =>
      ⟨moment, textAt run "set_used", target, only isClassification (figureAt run index)⟩)

def runs (scores : Json) : Except PipelineError (List Json) :=
  match scores.field? "history" with
  | none => .ok []
  | some (.array runs) => .ok runs
  | some _ => .error (.engine (.protocol "'history' of the scores is not a list"))

def isScored (scores : Json) : Bool := scores.asObject?.any fun fields => fields.length > 1

def ofJson (scores : Json) (targets : List String) (isClassification : Bool) : Except PipelineError Scores := do
  let entries ← (← runs scores).mapM (ofRun targets isClassification)
  let figures (target : Nat) : Metric → Figure :=
    if isScored scores then only isClassification (figureAt scores target) else fun _ => .missing false
  return ⟨entries.flatten, fun metric => (List.range targets.length).map fun target => figures target metric,
    isClassification⟩

def filter (scores : Scores) (keep : Score → Bool) : Scores :=
  { scores with entries := scores.entries.filter keep }

def sortBy (scores : Scores) (metric : Metric) : Scores :=
  let key (score : Score) : Int := (score.metric metric).rank
  { scores with entries :=
      if metric.isLoss then Ranking.ascending key scores.entries else Ranking.descending key scores.entries }

/-- Sorts by the metric of a name; no score has a metric of an unknown name, so then all stand equal. -/
def sortByNamed (scores : Scores) (name : String) : Scores :=
  match Metric.named? name with
  | some metric => scores.sortBy metric
  | none => scores

def latestNamed (scores : Scores) (name : String) : List Figure :=
  match Metric.named? name with
  | some metric => scores.latest metric
  | none => []

end Scores
end RelationalLearning
