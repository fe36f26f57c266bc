import RelationalLearning.Engine.Session
import RelationalLearning.Pipeline.Figure

namespace RelationalLearning

namespace TargetReport

def ask (session : Session) (kind pipeline : String) (target : Nat) : Client EngineError Json := do
  let link ← session.askExpecting (Session.command kind pipeline [("target_num_", .nat target)]) success
  match Json.parse? (← Link.receive link) with
  | some report => return report
  | none => throw .json

def list (report : Json) (name : String) : Except EngineError (List Json) :=
  match (report.field name).asArray? with
  | some items => .ok items
  | none => .error (.protocol s!"Reply lacks '{name}'")

def asText : Json → String
  | .string text => text
  | other => other.write

def figures (report : Json) (name : String) : List Figure :=
  ((report.field name).asArray?.getD []).map fun item =>
    match item.asFloat? with
    | some value => .ofFloat value
    | none => .missing false

/-- Figures of things that are numbered from zero on; there are enough for all of them. -/
abbrev FiguresFor (count : Nat) := { figures : List Figure // count ≤ figures.length }

def figuresFor (report : Json) (name : String) (count : Nat) : FiguresFor count :=
  let told := figures report name
  ⟨told ++ List.replicate (count - told.length) (.missing false), by
    rw [List.length_append, List.length_replicate]
    omega⟩

def FiguresFor.figure {count : Nat} (figures : FiguresFor count) (index : Nat) (inside : index < count) : Figure :=
  figures.val.get ⟨index, Nat.lt_of_lt_of_le inside figures.property⟩

end TargetReport

structure Feature where
  index : Nat
  name : String
  target : String
  correlation : Figure
  importance : Figure
  deriving BEq, Repr

abbrev Features := List Feature

namespace Features

def ofReports (target : String) (correlated important : Json) : Except EngineError Features := do
  let names ← TargetReport.list correlated "feature_names_"
  let correlations := TargetReport.figuresFor correlated "feature_correlations_" names.length
  let importances := TargetReport.figuresFor important "feature_importances_" names.length
  return names.mapFinIdx fun index name inside =>
    ⟨index, TargetReport.asText name, target, correlations.figure index inside, importances.figure index inside⟩

def load (session : Session) (pipeline : String) (targets : List String) : Client EngineError Features := do
  let features ← targets.zipIdx.mapM fun (target, index) => do
    let correlated ← TargetReport.ask session "Pipeline.feature_correlations" pipeline index
    let important ← TargetReport.ask session "Pipeline.feature_importances" pipeline index
    Client.ofExcept (ofReports target correlated important)
  return features.flatten

def get? (features : Features) (name : String) : Option Feature :=
  features.find? fun feature => feature.name = name

def names (features : Features) : List String := features.map (·.name)

def sortByImportance (features : Features) : Features :=
  Ranking.descending (fun feature => feature.importance.rank) features

def sortByCorrelation (features : Features) : Features :=
  Ranking.descending (fun feature => feature.correlation.magnitude.rank) features

end Features
end RelationalLearning
