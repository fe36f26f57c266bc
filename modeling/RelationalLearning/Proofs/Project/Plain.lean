import RelationalLearning.CommandLine.Program
import RelationalLearning.Proofs.Pipeline.Checks

namespace RelationalLearning

open Client

variable {α : Type} (session : Session)

@[simp]
theorem Client.plain_liftProject (action : Client EngineError α) :
    Plain (liftM action : Client ProjectError α) ↔ Plain action := plain_adapt _ action

@[simp]
theorem Client.plain_liftDataProject (action : Client DataError α) :
    Plain (liftM action : Client ProjectError α) ↔ Plain action := plain_adapt _ action

@[simp]
theorem Client.plain_liftPipelineProject (action : Client PipelineError α) :
    Plain (liftM action : Client ProjectError α) ↔ Plain action := plain_adapt _ action

namespace Project

theorem plain_askListing (kind : String) (read : Written → Option α) (other : kind ≠ "View") :
    Plain (askListing session kind read) := by
  refine plain_bind _ _ (by simp [other]) fun link => plain_bind _ _ (by simp) fun reply => ?_
  split
  · simp
  · simp

@[simp]
theorem plain_dataFrames : Plain (dataFrames session) := plain_askListing session _ _ (by decide)

@[simp]
theorem plain_pipelines : Plain (pipelines session) := plain_askListing session _ _ (by decide)

@[simp]
theorem plain_existsInMemory (name : String) : Plain (existsInMemory session name) :=
  plain_bind _ _ (by simp) fun _ => by simp

@[simp]
theorem plain_deleteDataFrame (name : String) (onlyMemory : Bool) :
    Plain (deleteDataFrame session name onlyMemory) := by
  refine plain_bind _ _ ((plain_liftDataProject _).mpr ?_) fun _ => by simp
  exact plain_bind _ _ (by simp) fun frame => by simp

@[simp]
theorem plain_loadDataFrame (name : String) : Plain (loadDataFrame session name) := by
  refine (plain_liftDataProject _).mpr ?_
  refine plain_bind _ _ (by simp) fun frame => plain_bind _ _ (by simp) fun present => ?_
  exact plain_ite _ _ _ (by simp) (by simp)

@[simp]
theorem plain_deleteAllPipelines (onlyMemory : Bool) :
    Plain (deleteAllPipelines session onlyMemory) := by
  refine plain_bind _ _ (by simp) fun ids => ?_
  refine plain_bind _ _ (plain_forIn _ _ fun id => ?_) fun _ => by simp
  exact plain_bind _ _ (by simp) fun _ => by simp

@[simp]
theorem plain_expectSuccessAfterLog (link : Nat) : Plain (expectSuccessAfterLog link) :=
  plain_bind _ _ (by simp) fun _ => plain_ite _ _ _ (by simp) (by simp)

@[simp]
theorem plain_receivePort (link : Nat) : Plain (receivePort link) := by
  refine plain_bind _ _ (by simp) fun reply => ?_
  split
  · simp
  · simp

theorem plain_startEngine (kind : String) (body : Json) (other : kind ≠ "View")
    (covered : Json.Covered [] body) : Plain (startEngine session kind body) :=
  plain_bind _ _ (by simp [other, covered]) fun _ => plain_bind _ _ (by simp) fun _ => by simp

theorem plain_askNames (kind : String) (other : kind ≠ "View") : Plain (askNames session kind) :=
  plain_bind _ _ (by simp [other]) fun _ => plain_bind _ _ (by simp) fun _ =>
    plain_bind _ _ (by simp) fun _ => by simp

@[simp]
theorem plain_engineVersion : Plain (engineVersion session) :=
  plain_bind _ _ (by simp) fun _ => by simp

@[simp]
theorem plain_set (name : String) : Plain (set session name) := by
  refine plain_bind _ _ (by simp) fun _ => ?_
  refine plain_bind _ _ ((plain_liftProject _).mpr ?_) fun port => plain_bind _ _ (by simp) fun _ =>
    by simp
  refine plain_bind _ _ (by simp) fun version => plain_bind _ _ (by simp) fun _ => ?_
  exact plain_startEngine session _ _ (by decide) (by simp)

@[simp]
theorem plain_restart (name : String) : Plain (restart session name) := by
  refine plain_bind _ _ (by simp) fun _ => ?_
  refine plain_bind _ _ ((plain_liftProject _).mpr ?_) fun port => plain_bind _ _ (by simp) fun _ =>
    by simp
  exact plain_startEngine session _ _ (by decide) (by simp)

@[simp]
theorem plain_list : Plain (list session) := plain_askNames session _ (by decide)

@[simp]
theorem plain_listRunning : Plain (listRunning session) := plain_askNames session _ (by decide)

@[simp]
theorem plain_suspend (name : String) : Plain (suspend session name) :=
  plain_bind _ _ (by simp) fun _ => by simp

@[simp]
theorem plain_delete (name : String) : Plain (delete session name) := by
  have last : Plain (do
      Link.expectSuccess (← session.askMonitor "deleteproject" (.string name))
      Client.log .info s!"Deleted project '{name}'" : Client EngineError Unit) :=
    plain_bind _ _ (by simp) fun _ => plain_bind _ _ (by simp) fun _ => by simp
  refine plain_bind _ _ (by simp) fun names => plain_ite _ _ _ ?_ last
  exact plain_bind _ _ (by simp) fun _ => last

@[simp]
theorem plain_absolute {ε : Type} (path : String) : Plain (absolute path : Client ε String) :=
  plain_bind _ _ (by simp) fun _ => by simp

@[simp]
theorem plain_save (name : String) (options : BundleOptions) :
    Plain (save session name options) := by
  have last (folder : String) : Plain (do
      let link ← session.askMonitor "saveproject" (.record [("name_", .string name),
        ("file_name_", .string (options.fileName.getD name)), ("target_path_", .string folder),
        ("replace_", .bool options.replace)])
      expectSuccessAfterLog link
      let bundle ← Link.receive link
      Client.log .info s!"Saved project '{name}' to {bundle}"
      return bundle : Client EngineError String) := by
    refine plain_bind _ _ ?_ fun link => plain_bind _ _ (by simp) fun _ => ?_
    · exact session.plain_askMonitor _ _ (by decide) (Json.covered_record _ (by simp))
    · exact plain_bind _ _ (by simp) fun _ => plain_bind _ _ (by simp) fun _ => by simp
  unfold save
  dsimp only
  split
  · exact plain_bind _ _ (by simp) last
  · exact plain_bind _ _ (by simp) fun _ => plain_bind _ _ (by simp) last

@[simp]
theorem plain_load (bundle name : String) : Plain (load session bundle name) := by
  refine plain_bind _ _ (by simp) fun bundle => plain_bind _ _ ⟨.refl⟩ fun world => ?_
  refine plain_unless _ _ _ (plain_bind _ _ ((plain_liftProject _).mpr ?_) fun port =>
    plain_bind _ _ (by simp) fun _ => by simp)
  exact plain_startEngine session _ _ (by decide) (Json.covered_record _ (by simp))

theorem plain_awaitEnd (rounds : Nat) : Plain (awaitEnd session rounds) := by
  induction rounds with
  | zero => exact plain_throw _
  | succ rounds ih => exact plain_bind _ _ (by simp) fun _ => plain_ite _ _ _ ih (by simp)

@[simp]
theorem plain_shutdown : Plain (shutdown session) :=
  plain_bind _ _ (by simp) fun _ => plain_awaitEnd session 100

end Project

namespace CommandLine

@[simp]
theorem plain_liftFailure (action : Client EngineError α) :
    Plain (liftM action : Client Failure α) ↔ Plain action := plain_adapt _ action

@[simp]
theorem plain_liftDataFailure (action : Client DataError α) :
    Plain (liftM action : Client Failure α) ↔ Plain action := plain_adapt _ action

@[simp]
theorem plain_liftProjectFailure (action : Client ProjectError α) :
    Plain (liftM action : Client Failure α) ↔ Plain action := plain_adapt _ action

theorem plain_lines (subcommand : Subcommand) : Plain (lines session subcommand) := by
  cases subcommand with
  | ping =>
      refine plain_bind _ _ (by simp) fun alive => plain_unless _ _ _ ?_
      exact plain_bind _ _ (by simp) fun _ => by simp
  | projects running => exact (plain_liftFailure _).mpr (plain_ite _ _ _ (by simp) (by simp))
  | setProject name => exact plain_bind _ _ (by simp) fun _ => by simp
  | dataFrames => exact plain_bind _ _ (by simp) fun _ => by simp
  | pipelines => exact (plain_liftFailure _).mpr (by simp)
  | rows name => exact plain_bind _ _ (by simp) fun _ => plain_bind _ _ (by simp) fun _ => by simp
  | describe name =>
      exact plain_bind _ _ (by simp) fun _ => plain_bind _ _ (by simp) fun _ => by simp

theorem plain_run (configuration : Configuration) (settings : List (Setting × String))
    (subcommand : Option Subcommand) : Plain (run configuration settings subcommand) := by
  refine plain_bind _ _ (by simp) fun session => ?_
  extract_lets goOn
  have last (session : Session) : Plain (goOn session) := by
    cases subcommand with
    | none => exact plain_pure _
    | some subcommand => exact plain_lines session subcommand
  cases configuration.project with
  | none => exact plain_bind _ _ (plain_pure _) last
  | some name => exact plain_bind _ _ (by simp) fun _ => plain_bind _ _ (by simp) last

theorem printed_world (client : Client Failure (List String)) (world : World) :
    ((do
      match ← client.run with
      | .ok output => return { code := 0, output }
      | .error failure => return { code := 1, errors := [s!"Error: {failure.message}"] } :
        StateM World Outcome) world).2 = (client world).2 := by
  have unfolded : (do
      match ← client.run with
      | .ok output => return { code := 0, output }
      | .error failure => return { code := 1, errors := [s!"Error: {failure.message}"] } :
        StateM World Outcome) world = (match (client world).1 with
      | .ok output => pure { code := 0, output }
      | .error failure => pure { code := 1, errors := [s!"Error: {failure.message}"] } :
        StateM World Outcome) (client world).2 := rfl
  rw [unfolded]
  cases (client world).1 with
  | ok output => rfl
  | error failure => rfl

theorem grows_perform (words : List String)
    (content : String → Except ConfigurationError Configuration) (world : World) :
    world.Grows 0 (Message.Covered []) (perform words content world).2 := by
  unfold perform
  rcases read? words with _ | _ | _ | ⟨settings, subcommand⟩
  · exact .refl world
  · exact .refl world
  · exact .refl world
  · have plain : Plain (do
        let configuration ← Client.ofExcept (configurationOf settings content)
        Client.log .debug s!"Using engine at {configuration.host}:{configuration.port}"
        run configuration settings subcommand) :=
      plain_bind _ _ (by simp) fun configuration => plain_bind _ _ (by simp) fun _ =>
        plain_run configuration settings subcommand
    have grows := plain.grows world
    rw [← printed_world] at grows
    exact grows

end CommandLine

end RelationalLearning
