import RelationalLearning.Proofs.Pipeline.Commands

namespace RelationalLearning.Pipeline

variable {base : Nat} {allowed : Message → Prop}

def fittedKinds : List String :=
  ["Pipeline.save", "Pipeline.refresh", "Pipeline.transform", "Pipeline.deploy", "Pipeline.to_sql",
    "Pipeline.feature_correlations", "Pipeline.feature_importances", "Pipeline.column_importances"]

/-- What may be said for a handle: nothing is deleted, only its own pipeline counts as fitted. -/
def Serves (id : Option String) : Message → Prop
  | .command command => ∀ kind, command.field? "type_" = some (.string kind) →
      kind ≠ "Pipeline.delete" ∧
        (kind ∈ fittedKinds → ∃ name, id = some name ∧ command.field? "name_" = some (.string name))
  | _ => False

theorem serves_command (id : Option String) (kind name : String) (fields : List (String × Json))
    (free : ∀ field ∈ fields, field.1 ≠ "type_" ∧ field.1 ≠ "name_")
    (other : kind ≠ "Pipeline.delete") (fitted : kind ∈ fittedKinds → id = some name) :
    Serves id (.command (Session.command kind name fields)) := by
  intro found same
  rw [Session.kind_command kind name fields fun field member => (free field member).1] at same
  obtain rfl : kind = found := by simpa using same
  refine ⟨other, fun member => ⟨name, fitted member, ?_⟩⟩
  exact Session.name_command kind name fields fun field member => (free field member).2

theorem serves_other (id : Option String) (kind name : String) (fields : List (String × Json))
    (free : ∀ field ∈ fields, field.1 ≠ "type_" ∧ field.1 ≠ "name_")
    (other : kind ∉ "Pipeline.delete" :: fittedKinds) :
    Serves id (.command (Session.command kind name fields)) :=
  serves_command id kind name fields free (fun same => other (by simp [same])) fun member =>
    absurd (List.mem_cons_of_mem _ member) other

theorem serves_ask (id : Option String) (frame : DataFrame) :
    Serves id (.command (frame.command "DataFrame.last_change" [])) :=
  serves_other id _ _ _ (by simp) (by decide)

theorem concerns_toCommand (blueprint : Blueprint) (id : String) (command : Json)
    (described : blueprint.toCommand id = .ok command) :
    command.field? "type_" = some (.string "Pipeline") ∧
      command.field? "name_" = some (.string id) := by
  simp only [Blueprint.toCommand, Outcome.bind_eq_ok] at described
  obtain ⟨_, -, _, -, _, -, _, -, _, -, _, -, _, -, same⟩ := described
  obtain rfl := Except.ok.inj same
  constructor
  · rw [Json.field?_record]
    rfl
  · rw [Json.field?_record]
    rfl

theorem serves_describe (id : Option String) (blueprint : Blueprint) (name : String)
    (command : Json) (described : blueprint.toCommand name = .ok command) :
    Serves id (.command command) := by
  intro kind same
  rw [(concerns_toCommand blueprint name command described).1] at same
  obtain rfl : "Pipeline" = kind := by simpa using same
  exact ⟨by decide, fun member => absurd member (by decide)⟩

theorem serves_save (id : String) :
    Serves (some id) (.command (Session.command "Pipeline.save" id [])) :=
  serves_command _ _ _ _ (by simp) (by decide) fun _ => rfl

theorem serves_refresh (id : String) :
    Serves (some id) (.command (Session.command "Pipeline.refresh" id [])) :=
  serves_command _ _ _ _ (by simp) (by decide) fun _ => rfl

theorem emits_checkAnnounced (session : Session) (id : String) (population : Table)
    (peripheral : List Table) :
    Client.Emits base (Serves none) (fun _ => True)
      (checkAnnounced session id population peripheral) := by
  rw [checkAnnounced_eq]
  refine Client.emits_bind _ _ _ _
    (emits_dataFields session population peripheral (serves_ask none)) ?_
  rintro data rfl
  exact emits_checkOn session id _ (serves_other _ _ _ _ (by simp [dataOf]) (by decide))

theorem emits_train (session : Session) (blueprint : Blueprint) (population : Table)
    (peripheral : List Table) (validation : Option Table) :
    Client.Emits base (Serves none) (fun _ => True)
      (train session blueprint population peripheral validation) := by
  rw [train_eq]
  refine Client.emits_bind _ _ _ _
    (emits_dataFields session population peripheral (serves_ask none)) ?_
  rintro data rfl
  refine Client.emits_bind _ _ _ _ (emits_checkAll session _ (serves_ask none)) fun _ _ => ?_
  refine emits_trainOn session blueprint _ (serves_describe none blueprint) fun id => ?_
  exact serves_other _ _ _ _ (by simp [dataOf, heldOut]) (by decide)

theorem emits_run (session : Session) (pipeline : Pipeline) (population : Table)
    (peripheral : List Table) (request : RunRequest) :
    Client.Emits base (Serves pipeline.id) (fun answer => base ≤ answer.1)
      (run session pipeline population peripheral request) := by
  rw [run_eq]
  refine Client.emits_bind _ _ _ _ pipeline.emits_fittedId fun id fitted => ?_
  refine Client.emits_bind (fun _ => True) _ _ _ (Client.emits_ofExcept _ _ fun _ _ => trivial)
    fun _ _ => ?_
  refine Client.emits_bind _ _ _ _
    (emits_dataFields session population peripheral (serves_ask _)) ?_
  rintro data rfl
  refine emits_runOn session id _ request ?_ ?_
  · exact serves_command _ _ _ _ (by simp) (by decide) fun _ => fitted
  · exact serves_command _ _ _ _ (by simp [dataOf]) (by decide) fun _ => fitted

theorem emits_matrixOf (session : Session) (pipeline : Pipeline) (population : Table)
    (peripheral : List Table) (request : RunRequest) :
    Client.Emits base (Serves pipeline.id) (fun _ => True)
      (matrixOf session pipeline population peripheral request) := by
  refine Client.emits_bind _ _ _ _ (emits_run session pipeline population peripheral request) ?_
  rintro ⟨link, _ | matrix⟩ _
  · exact Client.emits_throw _ _
  · exact Client.emits_pure _ matrix trivial

theorem emits_transformToFrame (session : Session) (pipeline : Pipeline) (population : Table)
    (peripheral : List Table) (name : String) :
    Client.Emits base (Serves pipeline.id) (fun _ => True)
      (transformToFrame session pipeline population peripheral name) := by
  refine Client.emits_bind (fun _ => True) _ _ _ (Client.emits_ofExcept _ _ fun _ _ => trivial)
    fun _ _ => ?_
  refine Client.emits_bind _ _ _ _ (emits_run session pipeline population peripheral _)
    fun _ _ => ?_
  refine Client.emits_adapt _ _ _ ?_
  refine Client.emits_bind (fun _ => True) _ _ _ (Client.emits_ofExcept _ _ fun _ _ => trivial)
    fun frame _ => ?_
  refine Updating.emits_finish _ _ frame (DataFrame.emits_refresh session ?_ (serves_ask _))
  exact fun frame => serves_other _ _ _ _ (by simp) (by decide)

theorem emits_writeTable (session : Session) (pipeline : Pipeline) (population : Table)
    (peripheral : List Table) (name : String) (predict : Bool) :
    Client.Emits base (Serves pipeline.id) (fun _ => True)
      (writeTable session pipeline population peripheral name predict) := by
  refine Client.emits_bind (fun _ => True) _ _ _ (Client.emits_ofExcept _ _ fun _ _ => trivial)
    fun _ _ => ?_
  refine Client.emits_bind _ _ _ _ (emits_run session pipeline population peripheral _)
    fun _ _ => ?_
  exact Client.emits_pure _ _ trivial

theorem serves_deploy (pipeline : Pipeline) (open_ : Bool) (id : String)
    (fitted : pipeline.id = some id) :
    Serves pipeline.id
        (.command (Session.command "Pipeline.deploy" id [("deploy_", .bool open_)])) ∧
      Serves pipeline.id (.command (Session.command "Pipeline.save" id [])) := by
  rw [fitted]
  exact ⟨serves_command _ _ _ _ (by simp) (by decide) fun _ => rfl, serves_save id⟩

theorem serves_report (pipeline : Pipeline) (id kind : String) (target : Nat)
    (fitted : pipeline.id = some id) (report : kind ∈ reportKinds) :
    Serves pipeline.id (.command (Session.command kind id [("target_num_", .nat target)])) := by
  refine serves_command _ _ _ _ (by simp) ?_ fun _ => fitted
  rintro rfl
  exact absurd report (by decide)

theorem serves_toSql (pipeline : Pipeline) (options : SqlOptions) (id : String)
    (fitted : pipeline.id = some id) :
    Serves pipeline.id
      (.command (Session.command "Pipeline.to_sql" id (sqlFields options))) :=
  serves_command _ _ _ _ (by simp [sqlFields]; grind) (by decide) fun _ => fitted

end RelationalLearning.Pipeline
