import RelationalLearning.DataModel.Container
import RelationalLearning.Pipeline.Blueprint
import RelationalLearning.Pipeline.Importance
import RelationalLearning.Pipeline.Score
import RelationalLearning.Pipeline.Sql

/-!
Pipelines on the engine. A pipeline exists there under a new id for every fit; all that comes after
a fit is asked under the id of the last one.
-/

namespace RelationalLearning

structure Pipeline where
  blueprint : Blueprint
  id : Option String := none
  /-- The targets it was fitted on, as they were last asked for. -/
  targets : List String := []
  /-- The document of scores as it was last asked for. -/
  scoreReport : Json := .null
  deriving Repr

mutual
/-- The document with one underscore less at the end of every name. -/
def Json.withoutUnderscores : Json → Json
  | .array items => .array (withoutUnderscoresItems items)
  | .object fields => .record (withoutUnderscoresFields fields)
  | leaf => leaf

def Json.withoutUnderscoresItems : List Json → List Json
  | [] => []
  | item :: rest => item.withoutUnderscores :: withoutUnderscoresItems rest

def Json.withoutUnderscoresFields : List (String × Json) → List (String × Json)
  | [] => []
  | (name, value) :: rest =>
    ((Text.before? "_" name).getD name, value.withoutUnderscores) :: withoutUnderscoresFields rest
end

structure RunRequest where
  score : Bool := false
  predict : Bool := false
  frame : String := ""
  table : String := ""
  deriving DecidableEq, Repr

def RunRequest.bringsMatrix (request : RunRequest) : Bool :=
  request.frame.isEmpty && request.table.isEmpty && !request.score

namespace Pipeline

abbrev Step (α : Type) := Client PipelineError α

def deleteById (session : Session) (id : String) (onlyMemory : Bool) : Step Unit :=
  liftM (session.send (Session.command "Pipeline.delete" id [("mem_only_", .bool onlyMemory)]))

def fittedId (pipeline : Pipeline) : Except PipelineError String :=
  match pipeline.id with
  | some id => .ok id
  | none => .error (.notFitted "call fit() first")

def isScored (pipeline : Pipeline) : Bool := Scores.isScored pipeline.scoreReport

def announce (session : Session) (blueprint : Blueprint) : Step String := do
  Client.ofExcept blueprint.validate
  let id ← Client.freshName
  let command ← Client.ofExcept (blueprint.toCommand id)
  liftM (session.send command)
  return id

def dataFields (session : Session) (population : Table) (peripheral : List Table) :
    Step (List (String × Json)) := do
  for table in population :: peripheral do
    let _ ← liftM (table.check session)
  return [("population_df_", population.toCommand), ("peripheral_dfs_", .array (peripheral.map Table.toCommand))]

def checkAnnounced (session : Session) (id : String) (population : Table) (peripheral : List Table) :
    Step Issues := do
  let data ← dataFields session population peripheral
  let issues : Issues ← show Client EngineError Issues from do
    let link ← session.askExpecting (Session.command "Pipeline.check" id data) found
    Client.log .info "Checking data model..."
    let reply ← Link.logLoop link
    if reply ≠ success then throw (.refused reply)
    Link.receiveIssues link
  return issues

/-- Checks the data model against data, under an id that is given up afterwards. -/
def check (session : Session) (blueprint : Blueprint) (population : Table) (peripheral : List Table) :
    Step Issues := do
  let id ← announce session blueprint
  let checked ← Client.attempt (checkAnnounced session id population peripheral)
  let deleted ← Client.attempt (deleteById session id true)
  let issues ← Client.ofExcept checked
  Client.ofExcept deleted
  if issues.isEmpty then Client.log .info "Data model check: OK."
  else Client.log .warn s!"The pipeline check generated {issues.length} issues."
  return issues

def saveById (session : Session) (id : String) : Step Unit :=
  liftM (session.send (Session.command "Pipeline.save" id []))

def askState (session : Session) (id : String) : Step (List String × Json) := do
  let reply : Json ← show Client EngineError Json from do
    Link.receiveJson (← session.ask (Session.command "Pipeline.refresh" id []))
  let targets := ((reply.field "targets").asArray?.getD []).filterMap Json.asString?
  return (targets, (reply.field "scores").withoutUnderscores)

def refresh (session : Session) : Updating Pipeline PipelineError Unit := do
  let pipeline ← Updating.handle
  let id ← Updating.ofExcept pipeline.fittedId
  let (targets, scoreReport) ← Updating.ofClient (askState session id)
  Updating.replace { pipeline with targets, scoreReport }

def train (session : Session) (blueprint : Blueprint) (population : Table) (peripheral : List Table)
    (validation : Option Table) : Step String := do
  let data ← dataFields session population peripheral
  for table in validation.toList do
    let _ ← liftM (table.check session)
  let id ← announce session blueprint
  let held := validation.toList.map fun table => ("validation_df_", table.toCommand)
  let reply : String ← show Client EngineError String from do
    let link ← session.askExpecting (Session.command "Pipeline.fit" id (data ++ held)) found
    Link.logLoop link
  if !Text.contains reply "Trained" then throw (.engine (.refused reply))
  Client.log .info reply
  return id

/-- Fits the pipeline. It has its new id as soon as the engine trained it. -/
def fitUnchecked (session : Session) (population : Table) (peripheral : List Table)
    (validation : Option Table) : Updating Pipeline PipelineError Unit := do
  let pipeline ← Updating.handle
  let id ← Updating.ofClient (train session pipeline.blueprint population peripheral validation)
  Updating.replace { pipeline with id := some id }
  Updating.ofClient (saveById session id)
  refresh session

def fit (session : Session) (population : Table) (peripheral : List Table) (validation : Option Table) :
    Updating Pipeline PipelineError Unit := do
  let pipeline ← Updating.handle
  Updating.ofClient (show Step Unit from do
    for issue in ← check session pipeline.blueprint population peripheral do
      Client.log .warn issue.display)
  fitUnchecked session population peripheral validation

def fitSubset (session : Session) (subset : Subset) (validation : Option Subset) :
    Updating Pipeline PipelineError Unit := do
  let peripheral ← Updating.ofExcept ((← Updating.handle).blueprint.orderPeripheral subset.peripheral)
  fit session subset.population peripheral (validation.map (·.population))

def run (session : Session) (pipeline : Pipeline) (population : Table) (peripheral : List Table)
    (request : RunRequest) : Step (Nat × Option Matrix) := do
  let id ← Client.ofExcept pipeline.fittedId
  Client.ofExcept pipeline.blueprint.validate
  let data ← dataFields session population peripheral
  let answer : Nat × Option Matrix ← show Client EngineError (Nat × Option Matrix) from do
    let link ← session.askExpecting
      (Session.command "Pipeline.transform" id [("http_request_", .bool false)]) found
    Link.sendJson link (Session.command "Pipeline.transform" id (data ++
      [("score_", .bool request.score), ("predict_", .bool request.predict),
        ("df_name_", .string request.frame), ("table_name_", .string request.table)]))
    let reply ← Link.logLoop link
    if reply ≠ success then throw (.refused reply)
    if request.bringsMatrix then return (link, some (← Link.receiveMatrix link))
    else return (link, none)
  return answer

def matrixOf (session : Session) (pipeline : Pipeline) (population : Table) (peripheral : List Table)
    (request : RunRequest) : Step Matrix := do
  match ← run session pipeline population peripheral request with
  | (_, some matrix) => return matrix
  | (_, none) => throw (.engine (.protocol "The engine sent no float matrix"))

def transform (session : Session) (pipeline : Pipeline) (population : Table) (peripheral : List Table) :
    Step Matrix :=
  matrixOf session pipeline population peripheral {}

def predict (session : Session) (pipeline : Pipeline) (population : Table) (peripheral : List Table) :
    Step Matrix :=
  matrixOf session pipeline population peripheral { predict := true }

def checkName (name what : String) : Except PipelineError Unit :=
  Hyperparameter.argument (Validation.name name what)

def transformToFrame (session : Session) (pipeline : Pipeline) (population : Table)
    (peripheral : List Table) (name : String) : Step DataFrame := do
  Client.ofExcept (checkName name "df_name")
  let _ ← run session pipeline population peripheral { frame := name }
  liftM (show Client DataError DataFrame from do
    let frame ← Client.ofExcept (DataFrame.create name .empty)
    (DataFrame.refresh session).finish frame)

def writeTable (session : Session) (pipeline : Pipeline) (population : Table) (peripheral : List Table)
    (name : String) (predict : Bool) : Step Unit := do
  Client.ofExcept (checkName name "table_name")
  let _ ← run session pipeline population peripheral { predict, table := name }

def scores (pipeline : Pipeline) : Except PipelineError Scores := do
  let _ ← pipeline.fittedId
  Scores.ofJson pipeline.scoreReport pipeline.targets (← pipeline.blueprint.isClassification)

def score (session : Session) (population : Table) (peripheral : List Table) :
    Updating Pipeline PipelineError Scores := do
  let pipeline ← Updating.handle
  Updating.ofClient (show Step Unit from do
    let (link, _) ← run session pipeline population peripheral { score := true, predict := true }
    let latest : Json ← show Client EngineError Json from do
      Link.expectSuccess link
      Link.receiveJson link
    let written := latest.write
    Client.log .debug s!"Latest scores: {written}")
  refresh session
  let pipeline ← Updating.handle
  let id ← Updating.ofExcept pipeline.fittedId
  Updating.ofClient (saveById session id)
  Updating.ofExcept pipeline.scores

def scoreSubset (session : Session) (subset : Subset) : Updating Pipeline PipelineError Scores := do
  let peripheral ← Updating.ofExcept ((← Updating.handle).blueprint.orderPeripheral subset.peripheral)
  score session subset.population peripheral

def delete (session : Session) (onlyMemory : Bool) : Updating Pipeline PipelineError Unit := do
  let pipeline ← Updating.handle
  let id ← Updating.ofExcept pipeline.fittedId
  Updating.ofClient (deleteById session id onlyMemory)
  Updating.replace { pipeline with id := none }

def deploy (session : Session) (pipeline : Pipeline) (allowed : Bool) : Step Unit := do
  let id ← Client.ofExcept pipeline.fittedId
  Client.ofExcept pipeline.blueprint.validate
  liftM (session.send (Session.command "Pipeline.deploy" id [("deploy_", .bool allowed)]))
  saveById session id

def features (session : Session) (pipeline : Pipeline) : Step Features := do
  let id ← Client.ofExcept pipeline.fittedId
  liftM (Features.load session id pipeline.targets)

def columns (session : Session) (pipeline : Pipeline) : Step ImportantColumns := do
  let id ← Client.ofExcept pipeline.fittedId
  liftM (ImportantColumns.load session id pipeline.targets)

def tables (session : Session) (pipeline : Pipeline) : Step ImportantTables := do
  return ImportantTable.ofTargets (← pipeline.columns session) pipeline.targets

def toSql (session : Session) (pipeline : Pipeline) (options : SqlOptions) : Step SqlCode := do
  let id ← Client.ofExcept pipeline.fittedId
  liftM (SqlCode.load session id options)

def display (pipeline : Pipeline) : String :=
  pipeline.blueprint.display ++ (pipeline.id.map fun id => s!"\n\nid: {id}").getD ""

end Pipeline
end RelationalLearning
