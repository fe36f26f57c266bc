import RelationalLearning.Pipeline.Fitting
import RelationalLearning.Proofs.Engine.Commands

namespace RelationalLearning.Pipeline

variable {base : Nat} {allowed : Message → Prop}

theorem fittedId_eq_ok (pipeline : Pipeline) (id : String) :
    pipeline.fittedId = .ok id ↔ pipeline.id = some id := by
  unfold fittedId
  split
  next => simp [*]
  next => simp [*]

theorem emits_fittedId (pipeline : Pipeline) :
    Client.Emits base allowed (fun id => pipeline.id = some id)
      (Client.ofExcept pipeline.fittedId) :=
  Client.emits_ofExcept _ _ fun id => (pipeline.fittedId_eq_ok id).mp

def dataOf (population : Table) (peripheral : List Table) : List (String × Json) :=
  [("population_df_", population.toCommand),
    ("peripheral_dfs_", .array (peripheral.map Table.toCommand))]

def checkAll (session : Session) (tables : List Table) : Step PUnit :=
  forIn tables PUnit.unit fun table _ => do
    let _ ← liftM (table.check session)
    return .yield PUnit.unit

theorem emits_checkAll (session : Session) (tables : List Table)
    (asks : ∀ frame : DataFrame, allowed (.command (frame.command "DataFrame.last_change" []))) :
    Client.Emits base allowed (fun _ => True) (checkAll session tables) := by
  refine Client.emits_forIn tables _ ?_
  intro table _
  refine Client.emits_bind (fun _ => True) _ _ _
    (Client.emits_adapt _ _ _ (Table.emits_check session table (asks _))) fun _ _ => ?_
  exact Client.emits_pure _ _ trivial

theorem emits_dataFields (session : Session) (population : Table) (peripheral : List Table)
    (asks : ∀ frame : DataFrame, allowed (.command (frame.command "DataFrame.last_change" []))) :
    Client.Emits base allowed (fun data => data = dataOf population peripheral)
      (dataFields session population peripheral) := by
  refine Client.emits_bind _ _ _ _ (emits_checkAll session _ asks) fun _ _ => ?_
  exact Client.emits_pure _ _ rfl

theorem emits_announce (session : Session) (blueprint : Blueprint)
    (describes : ∀ id command, blueprint.toCommand id = .ok command → allowed (.command command)) :
    Client.Emits base allowed (fun _ => True) (announce session blueprint) := by
  refine Client.emits_bind (fun _ => True) _ _ _ (Client.emits_ofExcept _ _ fun _ _ => trivial)
    fun _ _ => ?_
  refine Client.emits_bind _ _ _ _ Client.emits_freshName fun id _ => ?_
  refine Client.emits_bind _ _ _ _ (Client.emits_ofExcept _ _ (describes id)) fun command fits => ?_
  refine Client.emits_bind _ _ _ _ (Client.emits_adapt _ _ _ (session.emits_send command fits))
    fun _ _ => ?_
  exact Client.emits_pure _ id trivial

def checkOn (session : Session) (id : String) (data : List (String × Json)) : Step Issues :=
  liftM (show Client EngineError Issues from do
    let link ← session.askExpecting (Session.command "Pipeline.check" id data) found
    Client.log .info "Checking data model..."
    let reply ← Link.logLoop link
    if reply ≠ success then throw (.refused reply)
    Link.receiveIssues link)

theorem checkAnnounced_eq (session : Session) (id : String) (population : Table)
    (peripheral : List Table) :
    checkAnnounced session id population peripheral =
      dataFields session population peripheral >>= checkOn session id := rfl

theorem emits_checkOn (session : Session) (id : String) (data : List (String × Json))
    (fits : allowed (.command (Session.command "Pipeline.check" id data))) :
    Client.Emits base allowed (fun _ => True) (checkOn session id data) := by
  refine Client.emits_adapt _ _ _ ?_
  refine Client.emits_bind _ _ _ _ (session.emits_askExpecting _ _ fits) fun link fresh => ?_
  refine Client.emits_bind _ _ _ _ (Client.emits_log _ _) fun _ _ => ?_
  refine Client.emits_bind _ _ _ _ (Link.emits_logLoop link fresh) fun reply _ => ?_
  split
  next => exact Client.emits_bind _ _ _ _ (Client.emits_throw (fun _ => True) _) fun _ _ =>
    Link.emits_receiveIssues link fresh
  next => exact Link.emits_receiveIssues link fresh

def trainOn (session : Session) (blueprint : Blueprint) (data : List (String × Json)) :
    Step String := do
  let id ← announce session blueprint
  let reply : String ← show Client EngineError String from do
    let link ← session.askExpecting (Session.command "Pipeline.fit" id data) found
    Link.logLoop link
  if !Text.contains reply "Trained" then throw (.engine (.refused reply))
  Client.log .info reply
  return id

def heldOut (validation : Option Table) : List (String × Json) :=
  validation.toList.map fun table => ("validation_df_", table.toCommand)

theorem train_eq (session : Session) (blueprint : Blueprint) (population : Table)
    (peripheral : List Table) (validation : Option Table) :
    train session blueprint population peripheral validation =
      (dataFields session population peripheral >>= fun data =>
        checkAll session validation.toList >>= fun _ =>
          trainOn session blueprint (data ++ heldOut validation)) := rfl

theorem emits_trainOn (session : Session) (blueprint : Blueprint) (data : List (String × Json))
    (describes : ∀ id command, blueprint.toCommand id = .ok command → allowed (.command command))
    (fits : ∀ id, allowed (.command (Session.command "Pipeline.fit" id data))) :
    Client.Emits base allowed (fun _ => True) (trainOn session blueprint data) := by
  refine Client.emits_bind _ _ _ _ (emits_announce session blueprint describes) fun id _ => ?_
  refine Client.emits_bind (fun _ => True) _ _ _ (Client.emits_adapt _ _ _ ?_) fun reply _ => ?_
  · refine Client.emits_bind _ _ _ _ (session.emits_askExpecting _ _ (fits id)) fun link fresh => ?_
    exact Link.emits_logLoop link fresh
  have told : Client.Emits base allowed (fun _ => True) (do
      Client.log .info reply
      return id : Step String) :=
    Client.emits_bind _ _ _ _ (Client.emits_log _ _) fun _ _ => Client.emits_pure _ id trivial
  split
  next => exact Client.emits_bind _ _ _ _ (Client.emits_throw (fun _ => True) _) fun _ _ => told
  next => exact told

def runCommand (id : String) (data : List (String × Json)) (request : RunRequest) : Json :=
  Session.command "Pipeline.transform" id (data ++
    [("score_", .bool request.score), ("predict_", .bool request.predict),
      ("df_name_", .string request.frame), ("table_name_", .string request.table)])

def runOn (session : Session) (id : String) (data : List (String × Json)) (request : RunRequest) :
    Step (Nat × Option Matrix) :=
  liftM (show Client EngineError (Nat × Option Matrix) from do
    let link ← session.askExpecting
      (Session.command "Pipeline.transform" id [("http_request_", .bool false)]) found
    Link.sendJson link (runCommand id data request)
    let reply ← Link.logLoop link
    if reply ≠ success then throw (.refused reply)
    if request.bringsMatrix then return (link, some (← Link.receiveMatrix link))
    else return (link, none))

theorem run_eq (session : Session) (pipeline : Pipeline) (population : Table)
    (peripheral : List Table) (request : RunRequest) :
    run session pipeline population peripheral request =
      (Client.ofExcept pipeline.fittedId >>= fun id =>
        Client.ofExcept pipeline.blueprint.validate >>= fun _ =>
          dataFields session population peripheral >>= fun data =>
            runOn session id data request) := rfl

theorem emits_runOn (session : Session) (id : String) (data : List (String × Json))
    (request : RunRequest)
    (opens : allowed (.command
      (Session.command "Pipeline.transform" id [("http_request_", .bool false)])))
    (runs : allowed (.command (runCommand id data request))) :
    Client.Emits base allowed (fun answer => base ≤ answer.1) (runOn session id data request) := by
  refine Client.emits_adapt _ _ _ ?_
  refine Client.emits_bind _ _ _ _ (session.emits_askExpecting _ _ opens) fun link fresh => ?_
  refine Client.emits_bind _ _ _ _ (Link.emits_sendJson link _ fresh runs) fun _ _ => ?_
  refine Client.emits_bind _ _ _ _ (Link.emits_logLoop link fresh) fun reply _ => ?_
  have brought : Client.Emits base allowed (fun answer => base ≤ answer.1) (do
      if request.bringsMatrix then return (link, some (← Link.receiveMatrix link))
      else return (link, none) : Client EngineError (Nat × Option Matrix)) := by
    split
    next =>
      refine Client.emits_bind _ _ _ _ (Link.emits_collect link Frame.matrix .matrix fresh)
        fun matrix _ => ?_
      exact Client.emits_pure _ (link, some matrix) fresh
    next => exact Client.emits_pure _ (link, none) fresh
  by_cases refused : reply ≠ success
  · rw [if_pos refused]
    exact Client.emits_bind _ _ _ _ (Client.emits_throw (fun _ => True) _) fun _ _ => brought
  · rw [if_neg refused]
    exact brought

theorem emits_saveById (session : Session) (id : String)
    (fits : allowed (.command (Session.command "Pipeline.save" id []))) :
    Client.Emits base allowed (fun _ => True) (saveById session id) :=
  Client.emits_adapt _ _ _ (session.emits_send _ fits)

theorem emits_askState (session : Session) (id : String)
    (fits : allowed (.command (Session.command "Pipeline.refresh" id []))) :
    Client.Emits base allowed (fun _ => True) (askState session id) := by
  refine Client.emits_bind (fun _ => True) _ _ _ (Client.emits_adapt _ _ _ ?_) fun reply _ => ?_
  · refine Client.emits_bind _ _ _ _ (session.emits_ask _ fits) fun link fresh => ?_
    exact Link.emits_receiveJson link fresh
  · exact Client.emits_pure _ _ trivial

theorem emits_deploy (session : Session) (pipeline : Pipeline) (open_ : Bool)
    (fits : ∀ id, pipeline.id = some id →
      allowed (.command (Session.command "Pipeline.deploy" id [("deploy_", .bool open_)])) ∧
        allowed (.command (Session.command "Pipeline.save" id []))) :
    Client.Emits base allowed (fun _ => True) (deploy session pipeline open_) := by
  refine Client.emits_bind _ _ _ _ pipeline.emits_fittedId fun id fitted => ?_
  refine Client.emits_bind (fun _ => True) _ _ _ (Client.emits_ofExcept _ _ fun _ _ => trivial)
    fun _ _ => ?_
  refine Client.emits_bind _ _ _ _
    (Client.emits_adapt _ _ _ (session.emits_send _ (fits id fitted).1)) fun _ _ => ?_
  exact emits_saveById session id (fits id fitted).2

theorem emits_report (session : Session) (kind pipeline : String) (target : Nat)
    (fits : allowed (.command (Session.command kind pipeline [("target_num_", .nat target)]))) :
    Client.Emits base allowed (fun _ => True) (TargetReport.ask session kind pipeline target) := by
  refine Client.emits_bind _ _ _ _ (session.emits_askExpecting _ _ fits) fun link fresh => ?_
  refine Client.emits_bind _ _ _ _ (Link.emits_receive link fresh) fun reply _ => ?_
  split
  next => exact Client.emits_pure _ _ trivial
  next => exact Client.emits_throw _ _

def reportKinds : List String :=
  ["Pipeline.feature_correlations", "Pipeline.feature_importances", "Pipeline.column_importances"]

theorem emits_loadFeatures (session : Session) (id : String) (targets : List String)
    (fits : ∀ kind target, kind ∈ reportKinds →
      allowed (.command (Session.command kind id [("target_num_", .nat target)]))) :
    Client.Emits base allowed (fun _ => True) (Features.load session id targets) := by
  refine Client.emits_bind _ _ _ _ (Client.emits_mapM _ _ ?_) fun _ _ =>
    Client.emits_pure _ _ trivial
  rintro ⟨target, index⟩ _
  refine Client.emits_bind _ _ _ _
    (emits_report session _ id index (fits _ index (by decide))) fun _ _ => ?_
  refine Client.emits_bind _ _ _ _
    (emits_report session _ id index (fits _ index (by decide))) fun _ _ => ?_
  exact Client.emits_ofExcept _ _ fun _ _ => trivial

theorem emits_features (session : Session) (pipeline : Pipeline)
    (fits : ∀ id kind target, pipeline.id = some id → kind ∈ reportKinds →
      allowed (.command (Session.command kind id [("target_num_", .nat target)]))) :
    Client.Emits base allowed (fun _ => True) (features session pipeline) :=
  Client.emits_bind _ _ _ _ pipeline.emits_fittedId fun id fitted =>
    Client.emits_adapt _ _ _ (emits_loadFeatures session id _ fun kind target =>
      fits id kind target fitted)

theorem emits_loadColumns (session : Session) (id : String) (targets : List String)
    (fits : ∀ kind target, kind ∈ reportKinds →
      allowed (.command (Session.command kind id [("target_num_", .nat target)]))) :
    Client.Emits base allowed (fun _ => True) (ImportantColumns.load session id targets) := by
  refine Client.emits_bind _ _ _ _ (Client.emits_mapM _ _ ?_) fun _ _ =>
    Client.emits_pure _ _ trivial
  rintro ⟨target, index⟩ _
  refine Client.emits_bind _ _ _ _
    (emits_report session _ id index (fits _ index (by decide))) fun _ _ => ?_
  exact Client.emits_ofExcept _ _ fun _ _ => trivial

theorem emits_columns (session : Session) (pipeline : Pipeline)
    (fits : ∀ id kind target, pipeline.id = some id → kind ∈ reportKinds →
      allowed (.command (Session.command kind id [("target_num_", .nat target)]))) :
    Client.Emits base allowed (fun _ => True) (columns session pipeline) :=
  Client.emits_bind _ _ _ _ pipeline.emits_fittedId fun id fitted =>
    Client.emits_adapt _ _ _ (emits_loadColumns session id _ fun kind target =>
      fits id kind target fitted)

theorem emits_tables (session : Session) (pipeline : Pipeline)
    (fits : ∀ id kind target, pipeline.id = some id → kind ∈ reportKinds →
      allowed (.command (Session.command kind id [("target_num_", .nat target)]))) :
    Client.Emits base allowed (fun _ => True) (tables session pipeline) :=
  Client.emits_bind _ _ _ _ (emits_columns session pipeline fits) fun _ _ =>
    Client.emits_pure _ _ trivial

def sqlFields (options : SqlOptions) : List (String × Json) :=
  options.sizeThreshold.toList.map (fun size => ("size_threshold_", Json.nat size)) ++
    [("targets_", .bool options.targets), ("subfeatures_", .bool options.subfeatures),
      ("dialect_", .string options.dialect), ("schema_", .string options.schema),
      ("nchar_categorical_", .nat options.categoricalWidth),
      ("nchar_join_key_", .nat options.joinKeyWidth), ("nchar_text_", .nat options.textWidth)]

theorem emits_loadSql (session : Session) (id : String) (options : SqlOptions)
    (fits : allowed (.command (Session.command "Pipeline.to_sql" id (sqlFields options)))) :
    Client.Emits base allowed (fun _ => True) (SqlCode.load session id options) := by
  refine Client.emits_bind _ _ _ _ (session.emits_askExpecting _ _ fits) fun link fresh => ?_
  refine Client.emits_bind _ _ _ _ (Link.emits_receive link fresh) fun reply _ => ?_
  exact Client.emits_pure _ _ trivial

theorem emits_toSql (session : Session) (pipeline : Pipeline) (options : SqlOptions)
    (fits : ∀ id, pipeline.id = some id →
      allowed (.command (Session.command "Pipeline.to_sql" id (sqlFields options)))) :
    Client.Emits base allowed (fun _ => True) (toSql session pipeline options) :=
  Client.emits_bind _ _ _ _ pipeline.emits_fittedId fun id fitted =>
    Client.emits_adapt _ _ _ (emits_loadSql session id options (fits id fitted))

end RelationalLearning.Pipeline
