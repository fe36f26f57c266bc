import RelationalLearning.Proofs.Pipeline.Commands
import RelationalLearning.Proofs.Pipeline.Described
import RelationalLearning.Proofs.Pipeline.Operations
import RelationalLearning.Proofs.Table.Checks

namespace RelationalLearning.Pipeline

open Client

variable {frames : List String} (session : Session)

def watched (tables : List Table) : List String := tables.flatMap Table.watched

theorem reports_checkAll (tables : List Table) :
    Client.Reports frames (watched tables ++ frames) (fun _ => True) (checkAll session tables) := by
  induction tables generalizing frames with
  | nil => exact (plain_pure _).reports
  | cons table tables ih =>
      rw [checkAll, List.forIn_cons]
      refine reports_bind (fun step => step = .yield PUnit.unit) _ _ _
        (reports_bind _ _ _ _ (reports_adapt _ _ _ (table.reports_check session)) fun _ _ =>
          Emits.reports (emits_pure _ _ rfl)) ?_
      rintro _ rfl
      refine Reports.forget ih ?_
      intro frame member
      simp only [watched, List.flatMap_cons, List.mem_append] at member ⊢
      tauto

theorem reports_dataFields (population : Table) (peripheral : List Table) :
    Client.Reports frames (watched (population :: peripheral) ++ frames)
      (fun data => data = dataOf population peripheral)
      (dataFields session population peripheral) :=
  reports_bind _ _ _ _ (reports_checkAll session (population :: peripheral)) fun _ _ =>
    Emits.reports (emits_pure _ _ rfl)

theorem covered_dataOf (population : Table) (peripheral : List Table)
    (known : watched (population :: peripheral) ⊆ frames) :
    ∀ field ∈ dataOf population peripheral, Json.CoveredField frames field := by
  have top : Json.Covered frames population.toCommand :=
    population.covered_of_watched fun frame member => known (by simp [watched, member])
  have below : Json.Covered frames (.array (peripheral.map Table.toCommand)) := by
    apply Json.covered_array
    intro item member
    obtain ⟨table, present, rfl⟩ := List.mem_map.mp member
    refine table.covered_of_watched fun frame member => known ?_
    simp only [watched, List.flatMap_cons, List.mem_append, List.mem_flatMap]
    exact .inr ⟨table, present, member⟩
  simp [dataOf, top, below]

theorem covered_describe (blueprint : Blueprint) (id : String) (command : Json)
    (described : blueprint.toCommand id = .ok command) :
    Message.Covered frames (.command command) :=
  .inr ((blueprint.covered_toCommand id command described).mono (List.nil_subset frames))

theorem careful_checkAnnounced (id : String) (population : Table) (peripheral : List Table) :
    Careful frames (checkAnnounced session id population peripheral) := by
  rw [checkAnnounced_eq]
  refine reports_bind _ _ _ _ (reports_dataFields session population peripheral) ?_
  rintro data rfl
  refine Emits.careful (emits_checkOn session id _ (Message.covered_command _ _ _ (by decide) ?_))
  exact covered_dataOf population peripheral (by simp)

theorem careful_train (blueprint : Blueprint) (population : Table) (peripheral : List Table)
    (validation : Option Table) :
    Careful frames (train session blueprint population peripheral validation) := by
  rw [train_eq]
  refine reports_bind _ _ _ _ (reports_dataFields session population peripheral) ?_
  rintro data rfl
  refine reports_bind _ _ _ _ (reports_checkAll session validation.toList) fun _ _ => ?_
  refine Emits.careful (emits_trainOn session blueprint _ (covered_describe blueprint) fun id => ?_)
  apply Message.covered_command _ _ _ (by decide)
  simp only [List.forall_mem_append]
  refine ⟨covered_dataOf population peripheral (by simp), ?_⟩
  cases validation with
  | none => simp [heldOut]
  | some table =>
      have held : Json.Covered (watched [table] ++ (watched (population :: peripheral) ++ frames))
          table.toCommand := table.covered_of_watched (by simp [watched])
      simpa [heldOut] using held

theorem covered_runCommand (id : String) (population : Table) (peripheral : List Table)
    (request : RunRequest) (known : watched (population :: peripheral) ⊆ frames) :
    Message.Covered frames (.command (runCommand id (dataOf population peripheral) request)) := by
  apply Message.covered_command _ _ _ (by decide)
  simp only [List.forall_mem_append]
  exact ⟨covered_dataOf population peripheral known, by simp⟩

theorem reports_run (pipeline : Pipeline) (population : Table) (peripheral : List Table)
    (request : RunRequest) :
    Client.Reports frames (watched (population :: peripheral) ++ frames) (fun _ => True)
      (run session pipeline population peripheral request) := by
  rw [run_eq]
  refine reports_bind _ _ _ _ (plain_ofExcept _).reports fun id _ => ?_
  refine reports_bind _ _ _ _ (plain_ofExcept _).reports fun _ _ => ?_
  refine reports_bind _ _ _ _ (reports_dataFields session population peripheral) ?_
  rintro data rfl
  refine Emits.reports ((emits_runOn session id _ request ?_ ?_).imp fun _ _ => trivial)
  · exact Message.covered_command _ _ _ (by decide) (by simp)
  · exact covered_runCommand id population peripheral request (by simp)

theorem careful_matrixOf (pipeline : Pipeline) (population : Table) (peripheral : List Table)
    (request : RunRequest) :
    Careful frames (matrixOf session pipeline population peripheral request) := by
  refine reports_bind _ _ _ _ (reports_run session pipeline population peripheral request) ?_
  rintro ⟨link, _ | matrix⟩ _
  · exact (plain_throw _).careful
  · exact (plain_pure _).careful

theorem careful_transformToFrame (pipeline : Pipeline) (population : Table)
    (peripheral : List Table) (name : String) :
    Careful frames (transformToFrame session pipeline population peripheral name) := by
  refine reports_bind _ _ _ _ (plain_ofExcept _).reports fun _ _ => ?_
  refine reports_bind _ _ _ _ (reports_run session pipeline population peripheral _) fun _ _ => ?_
  refine Plain.careful ((plain_liftDataPipeline _).mpr ?_)
  exact plain_bind _ _ (by simp) fun frame => by simp

theorem careful_writeTable (pipeline : Pipeline) (population : Table) (peripheral : List Table)
    (name : String) (predict : Bool) :
    Careful frames (writeTable session pipeline population peripheral name predict) := by
  refine reports_bind _ _ _ _ (plain_ofExcept _).reports fun _ _ => ?_
  refine reports_bind _ _ _ _ (reports_run session pipeline population peripheral _) fun _ _ => ?_
  exact (plain_pure _).careful

section

variable (id : String)

@[simp]
theorem plain_deleteById (onlyMemory : Bool) : Plain (deleteById session id onlyMemory) := by
  simp [deleteById]

@[simp]
theorem plain_saveById : Plain (saveById session id) := by
  simp [saveById]

@[simp]
theorem plain_askState : Plain (askState session id) :=
  (emits_askState session id (Message.covered_command _ _ _ (by decide) (by simp))).plain

end

@[simp]
theorem plain_announce (blueprint : Blueprint) : Plain (announce session blueprint) :=
  (emits_announce session blueprint (covered_describe blueprint)).plain

@[simp]
theorem plain_refresh : Updating.Plain (refresh session) := by
  refine Updating.plain_bind _ _ (by simp) fun pipeline => ?_
  refine Updating.plain_bind _ _ (by simp) fun id => ?_
  exact Updating.plain_bind _ _ (by simp) fun _ => by simp

theorem careful_check (blueprint : Blueprint) (population : Table) (peripheral : List Table) :
    Careful frames (check session blueprint population peripheral) := by
  refine reports_bind _ _ _ _ (plain_announce session blueprint).reports fun id _ => ?_
  refine careful_bind _ _
    (careful_attempt _ (careful_checkAnnounced session id population peripheral)) fun checked => ?_
  refine Plain.careful (plain_bind _ _ (by simp) fun deleted => ?_)
  refine plain_bind _ _ (by simp) fun issues => plain_bind _ _ (by simp) fun _ => ?_
  refine plain_ite _ _ _ ?_ ?_
  · exact plain_bind _ _ (by simp) fun _ => by simp
  · exact plain_bind _ _ (by simp) fun _ => by simp

theorem careful_fitUnchecked (population : Table) (peripheral : List Table)
    (validation : Option Table) :
    Updating.Careful frames (fitUnchecked session population peripheral validation) := by
  refine Updating.careful_bind _ _ Updating.plain_handle.careful fun pipeline => ?_
  refine Updating.careful_bind _ _ (Updating.careful_ofClient _
    (careful_train session pipeline.blueprint population peripheral validation)) fun id => ?_
  refine Updating.Plain.careful (Updating.plain_bind _ _ (by simp) fun _ => ?_)
  exact Updating.plain_bind _ _ (by simp) fun _ => by simp

theorem careful_warn (blueprint : Blueprint) (population : Table) (peripheral : List Table) :
    Careful frames (show Step Unit from do
      for issue in ← check session blueprint population peripheral do
        Client.log .warn issue.display) := by
  refine careful_bind _ _ (careful_check session _ population peripheral) fun issues => ?_
  refine Plain.careful (plain_bind _ _ (plain_forIn _ _ fun issue => ?_) fun _ => by simp)
  exact plain_bind _ _ (by simp) fun _ => by simp

theorem careful_fit (population : Table) (peripheral : List Table) (validation : Option Table) :
    Updating.Careful frames (fit session population peripheral validation) := by
  refine Updating.careful_bind _ _ Updating.plain_handle.careful fun pipeline => ?_
  refine Updating.careful_bind _ _ (Updating.careful_ofClient _ ?_) fun _ =>
    careful_fitUnchecked session population peripheral validation
  exact careful_warn session pipeline.blueprint population peripheral

theorem careful_score (population : Table) (peripheral : List Table) :
    Updating.Careful frames (score session population peripheral) := by
  refine Updating.careful_bind _ _ Updating.plain_handle.careful fun pipeline => ?_
  refine Updating.careful_bind _ _ (Updating.careful_ofClient _ ?_) fun _ =>
    Updating.Plain.careful ?_
  · refine reports_bind _ _ _ _ (reports_run session pipeline population peripheral _) ?_
    rintro ⟨link, _⟩ _
    refine Plain.careful (plain_bind _ _ ((plain_liftPipeline _).mpr ?_) fun _ => by simp)
    exact plain_bind _ _ (by simp) fun _ => by simp
  · refine Updating.plain_bind _ _ (by simp) fun _ => Updating.plain_bind _ _ (by simp) fun _ => ?_
    refine Updating.plain_bind _ _ (by simp) fun id => ?_
    exact Updating.plain_bind _ _ (by simp) fun _ => by simp

theorem plain_delete (onlyMemory : Bool) : Updating.Plain (delete session onlyMemory) := by
  refine Updating.plain_bind _ _ (by simp) fun _ => Updating.plain_bind _ _ (by simp) fun id => ?_
  exact Updating.plain_bind _ _ (by simp) fun _ => by simp

section

variable (pipeline : Pipeline)

theorem plain_deploy (open_ : Bool) : Plain (deploy session pipeline open_) :=
  (emits_deploy session pipeline open_ fun id _ =>
    ⟨Message.covered_command _ _ _ (by decide) (by simp),
      Message.covered_command _ _ _ (by decide) (by simp)⟩).plain

theorem covered_report (id kind : String) (target : Nat) (report : kind ∈ reportKinds) :
    Message.Covered [] (.command (Session.command kind id [("target_num_", .nat target)])) := by
  refine Message.covered_command _ _ _ ?_ (by simp)
  rintro rfl
  exact absurd report (by decide)

theorem covered_toSql (id : String) (options : SqlOptions) :
    Message.Covered [] (.command (Session.command "Pipeline.to_sql" id (sqlFields options))) := by
  apply Message.covered_command _ _ _ (by decide)
  simp only [sqlFields, List.forall_mem_append, List.forall_mem_map]
  exact ⟨by simp, by simp⟩

theorem plain_features : Plain (features session pipeline) :=
  (emits_features session pipeline fun id kind target _ => covered_report id kind target).plain

theorem plain_columns : Plain (columns session pipeline) :=
  (emits_columns session pipeline fun id kind target _ => covered_report id kind target).plain

theorem plain_tables : Plain (tables session pipeline) :=
  (emits_tables session pipeline fun id kind target _ => covered_report id kind target).plain

theorem plain_toSql (options : SqlOptions) : Plain (toSql session pipeline options) :=
  (emits_toSql session pipeline options fun id _ => covered_toSql id options).plain

end

theorem careful_asking {α : Type} (action : Pipeline → Step α)
    (careful : ∀ pipeline, Careful [] (action pipeline)) :
    Updating.Careful [] (asking action) := by
  refine Updating.careful_bind _ _ Updating.plain_handle.careful fun pipeline => ?_
  exact Updating.careful_bind _ _ (Updating.careful_ofClient _ (careful pipeline))
    fun _ => (Updating.plain_pure _).careful

theorem careful_action (operation : Operation) :
    Updating.Careful [] (operation.action session) := by
  cases operation with
  | configure blueprint =>
      exact (Updating.plain_bind _ _ (by simp) fun _ => by simp).careful
  | check population peripheral =>
      exact careful_asking _ fun pipeline => careful_check session _ population peripheral
  | fit population peripheral validation =>
      exact careful_fit session population peripheral validation
  | fitSubset subset validation =>
      refine Updating.careful_bind _ _ Updating.plain_handle.careful fun pipeline => ?_
      refine Updating.careful_bind _ _ (Updating.plain_ofExcept _).careful fun _ => ?_
      exact careful_fit session subset.population _ _
  | fitUnchecked population peripheral validation =>
      exact careful_fitUnchecked session population peripheral validation
  | transform population peripheral =>
      exact careful_asking _ fun pipeline =>
        careful_matrixOf session pipeline population peripheral _
  | predict population peripheral =>
      exact careful_asking _ fun pipeline =>
        careful_matrixOf session pipeline population peripheral _
  | transformToFrame population peripheral name =>
      exact careful_asking _ fun pipeline =>
        careful_transformToFrame session pipeline population peripheral name
  | writeTable population peripheral name predicted =>
      exact careful_asking _ fun pipeline =>
        careful_writeTable session pipeline population peripheral name predicted
  | score population peripheral =>
      exact Updating.careful_bind _ _ (careful_score session population peripheral)
        fun _ => (Updating.plain_pure _).careful
  | scoreSubset subset =>
      refine Updating.careful_bind _ _ ?_ fun _ => (Updating.plain_pure _).careful
      refine Updating.careful_bind _ _ Updating.plain_handle.careful fun pipeline => ?_
      refine Updating.careful_bind _ _ (Updating.plain_ofExcept _).careful fun _ => ?_
      exact careful_score session subset.population _
  | refresh => exact (plain_refresh session).careful
  | deploy open_ =>
      exact careful_asking _ fun pipeline => (plain_deploy session pipeline open_).careful
  | features => exact careful_asking _ fun pipeline => (plain_features session pipeline).careful
  | columns => exact careful_asking _ fun pipeline => (plain_columns session pipeline).careful
  | tables => exact careful_asking _ fun pipeline => (plain_tables session pipeline).careful
  | toSql options =>
      exact careful_asking _ fun pipeline => (plain_toSql session pipeline options).careful
  | delete onlyMemory => exact (plain_delete session onlyMemory).careful

end RelationalLearning.Pipeline
