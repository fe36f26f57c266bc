import RelationalLearning.DataModel.StarSchema
import RelationalLearning.Proofs.Pipeline.Lifetime

namespace RelationalLearning.Pipeline

open Relation (ReflTransGen)

variable {start : List Event} {α β : Type}

theorem announce_eq_ok (session : Session) (blueprint : Blueprint) (world last : World)
    (id : String) (done : announce session blueprint world = (.ok id, last)) :
    id = Client.madeUpName world.names ∧ last.names = world.names + 1 ∧
      ∃ link command, blueprint.toCommand id = .ok command ∧
        last.trace = world.trace ++ Session.exchanged link session.port command [success] := by
  simp only [announce, Client.bind_eq_ok, Client.ofExcept_eq_ok, Client.pure_eq_ok,
    Client.freshName_eq] at done
  obtain ⟨⟨⟩, _, ⟨-, rfl⟩, _, _, ⟨⟩, command, _, ⟨described, rfl⟩, ⟨⟩, _, sent, rfl, rfl⟩ := done
  have exchange := session.send_eq_ok _ _ _ _
    ((Client.adapt_eq_ok PipelineError.engine _ _ _ _).mp sent)
  exact ⟨rfl, exchange.names, _, command, described, exchange.recorded⟩

theorem answered_fit (session : Session) (id reply : String) (fields : List (String × Json))
    (world last : World) (free : ∀ field ∈ fields, field.1 ≠ "type_" ∧ field.1 ≠ "name_")
    (done : (session.askExpecting (Session.command "Pipeline.fit" id fields) found >>=
      Link.logLoop) world = (.ok reply, last)) (trained : Text.contains reply "Trained" = true) :
    world.names ≤ last.names ∧
      ∃ events, last.trace = world.trace ++ events ∧ Answered "Pipeline.fit" id Trained events := by
  obtain ⟨port, later, lines, followed, replies, marks, ends, names⟩ :=
    session.follow_eq_ok _ _ _ _ _ done
  refine ⟨names, _, followed, [_], _, _, later, rfl, ?_, ?_, ?_⟩
  · exact Session.kind_command _ _ _ fun field member => (free field member).1
  · exact Session.name_command _ _ _ fun field member => (free field member).2
  · exact ⟨lines, reply, [], replies, marks, ends, trained⟩

theorem train_eq_ok (session : Session) (blueprint : Blueprint) (population : Table)
    (peripheral : List Table) (validation : Option Table) (world last : World) (id : String)
    (done : train session blueprint population peripheral validation world = (.ok id, last)) :
    ∃ number events, id = Client.madeUpName number ∧ world.names ≤ number ∧ number < last.names ∧
      last.trace = world.trace ++ events ∧ Fitted id events := by
  rw [train, Client.bind_eq_ok] at done
  obtain ⟨data, first, taken, done⟩ := done
  obtain ⟨looked, rfl⟩ := (emits_dataFields session population peripheral
    (serves_ask none)).ran (Nat.zero_le _) taken
  rw [Client.bind_eq_ok] at done
  obtain ⟨⟨⟩, second, checked, done⟩ := done
  obtain ⟨further, -⟩ :=
    (emits_checkAll session _ (serves_ask none)).ran (Nat.zero_le _) checked
  rw [Client.bind_eq_ok] at done
  obtain ⟨name, third, announced, done⟩ := done
  obtain ⟨made, counted, link, command, described, recorded⟩ :=
    announce_eq_ok session blueprint second third name announced
  dsimp only at done
  rw [Client.bind_eq_ok] at done
  obtain ⟨reply, fourth, replied, done⟩ := done
  have replied := (Client.adapt_eq_ok PipelineError.engine _ _ _ _).mp replied
  split at done
  next refused =>
    rw [Client.bind_eq_ok] at done
    obtain ⟨_, _, thrown, -⟩ := done
    exact absurd thrown (Client.throw_ne_ok _ _ _ _)
  next trained =>
    obtain ⟨⟨⟩, _, ⟨⟩, ended⟩ := (Client.bind_eq_ok _ _ _ _ _).mp done
    obtain ⟨rfl, rfl⟩ := (Client.pure_eq_ok _ _ _ _).mp ended
    obtain ⟨most, fitting, followed, fitted⟩ := answered_fit session name reply _ third fourth
      (by simp [dataOf]) replied (by simpa using trained)
    obtain ⟨before, earlier, -⟩ := (looked.trans further).recorded
    obtain ⟨of_kind, of_name⟩ := concerns_toCommand blueprint name command described
    have announced : Answered "Pipeline" name Succeeded
        (Session.exchanged link session.port command [success]) :=
      Session.answered_exchanged link _ command _ _ _ _ of_kind of_name rfl
    have fitted := fitted.append Trained.append
      (before ++ Session.exchanged link session.port command [success])
      [.logged ⟨.info, false, reply⟩]
    rw [List.append_assoc] at fitted
    refine ⟨second.names, _, made, (looked.trans further).names, ?_, ?_,
      announced.append Succeeded.append before _, fitted⟩
    · exact Nat.lt_of_lt_of_le (counted ▸ Nat.lt_succ_self _) most
    · rw [World.record, followed, recorded, earlier]
      simp only [List.append_assoc]

theorem Held.fresh {id : Option String} {world : World} (held : Held start id world) :
    id ≠ some (Client.madeUpName world.names) := by
  rintro rfl
  obtain ⟨events, -, tracked⟩ := held
  obtain ⟨number, below, same⟩ := (tracked.alive _ rfl).old
  exact absurd (Client.madeUpName_injective _ _ same) (Nat.ne_of_gt below)

theorem not_deleted_of_fresh {id : Option String} {world : World} {number base : Nat}
    {events more : List Event} (orderly : Orderly world events) (fresh : world.names ≤ number)
    (fits : ∀ event ∈ more, event.Fits base (Serves id)) :
    ¬ Deleted (Client.madeUpName number) (events ++ more) := by
  rintro ⟨earlier, link, command, later, same, of_kind, of_name, -⟩
  have member : .sent link (.command command) ∈ events ++ more := by simp [same]
  rcases List.mem_append.mp member with old | new
  · obtain ⟨-, other, below, named⟩ := orderly.deletions link command old of_kind
    rw [of_name] at named
    obtain rfl := Client.madeUpName_injective number other (by simpa using named)
    exact absurd fresh (Nat.not_le_of_lt below)
  · exact serves_not_deletion id command (fits _ new).2 of_kind

theorem held_train (session : Session) (blueprint : Blueprint) (population : Table)
    (peripheral : List Table) (validation : Option Table) (held : Option String)
    (world last : World) (id : String) (before : Held start held world)
    (done : train session blueprint population peripheral validation world = (.ok id, last)) :
    Held start (some id) last := by
  obtain ⟨number, fitting, rfl, fresh, below, followed, fitted⟩ :=
    train_eq_ok session blueprint population peripheral validation world last id done
  have training : Client.Emits world.links.length (Serves none) (fun _ => True)
      (train session blueprint population peripheral validation) := emits_train _ _ _ _ _
  obtain ⟨grows, -⟩ := training.ran (Nat.le_refl _) done
  obtain ⟨more, recorded, fits⟩ := grows.recorded
  obtain rfl : fitting = more := List.append_cancel_left (followed.symm.trans recorded)
  -- the pipeline held before is given up, whatever became of it
  obtain ⟨events, earlier, tracked⟩ := before.forget
  refine ⟨events ++ fitting, by rw [recorded, earlier, List.append_assoc],
    (tracked.append grows.links grows.names fits).orderly, ?_⟩
  rintro _ ⟨⟩
  refine ⟨?_, not_deleted_of_fresh tracked.orderly fresh fits, number, below, rfl⟩
  have fitted := fitted.append events []
  rwa [List.append_nil] at fitted

theorem held_check (session : Session) (blueprint : Blueprint) (population : Table)
    (peripheral : List Table) (id : Option String) (world : World) (held : Held start id world) :
    Held start id (check session blueprint population peripheral world).2 := by
  refine (held.emits _ (emits_announce session blueprint (serves_describe id blueprint))).bind ?_
  intro name first announced known
  obtain ⟨rfl, counted, -⟩ := announce_eq_ok session blueprint world first name announced
  have checking : Client.Emits first.links.length (Serves id) (fun _ => True)
      (checkAnnounced session (Client.madeUpName world.names) population peripheral) :=
    (emits_checkAnnounced session _ population peripheral).mono (serves_none id)
  refine (known.emits _ (Client.emits_attempt _ _ checking)).bind ?_
  intro checked second attempted checkedHeld
  have grows := ((Client.emits_attempt _ _ checking).ran (Nat.le_refl _) attempted).1
  have made : ∃ number < second.names,
      Client.madeUpName world.names = Client.madeUpName number := by
    refine ⟨world.names, Nat.lt_of_lt_of_le ?_ grows.names, rfl⟩
    rw [counted]
    exact Nat.lt_succ_self _
  have deleted : Held start id (Client.attempt (deleteById session
      (Client.madeUpName world.names) true : Step Unit) second).2 := by
    rcases held_deleteById session id (Client.madeUpName world.names) true second checkedHeld made
      with ⟨last, done, kept, -⟩ | ⟨cause, last, failed, kept⟩
    · -- the check deletes the name it made up, which is not that of the handle
      rw [Client.attempt, done]
      exact kept held.fresh
    · rw [Client.attempt, failed]
      exact kept
  refine deleted.bind fun outcome third _ kept => kept.emits (fun _ : Issues => True) ?_
  refine Client.emits_bind (fun _ => True) _ _ _ (Client.emits_ofExcept _ _ fun _ _ => trivial)
    fun issues _ => ?_
  refine Client.emits_bind (fun _ => True) _ _ _ (Client.emits_ofExcept _ _ fun _ _ => trivial)
    fun _ _ => ?_
  split
  all_goals exact Client.emits_bind _ _ _ _ (Client.emits_log _ _) fun _ _ =>
    Client.emits_pure _ _ trivial

/-- Whether it succeeds or fails, the operation leaves a record that the handle can rely on. -/
def Continues (start : List Event) (action : Updating Pipeline PipelineError α)
    (pipeline : Pipeline) (world : World) : Prop :=
  Held start (action.runOn pipeline world).1.2.id (action.runOn pipeline world).2

variable {pipeline : Pipeline} {world : World}

theorem continues_bind (action : Updating Pipeline PipelineError α)
    (next : α → Updating Pipeline PipelineError β) (first : Continues start action pipeline world)
    (second : ∀ value changed later, Held start changed.id later →
      Continues start (next value) changed later) :
    Continues start (action >>= next) pipeline world := by
  rw [Continues] at first
  rw [Continues, Updating.runOn_bind]
  split
  next value changed later ran =>
    rw [ran] at first
    exact second value changed later first
  next cause changed later ran =>
    rw [ran] at first
    exact first

theorem continues_handle (next : Pipeline → Updating Pipeline PipelineError β)
    (second : Continues start (next pipeline) pipeline world) :
    Continues start (Updating.handle >>= next) pipeline world := second

theorem continues_replace (changed : Pipeline) (next : Unit → Updating Pipeline PipelineError β)
    (second : Continues start (next ()) changed world) :
    Continues start (Updating.replace changed >>= next) pipeline world := second

theorem continues_ofExcept (outcome : Except PipelineError α)
    (next : α → Updating Pipeline PipelineError β) (held : Held start pipeline.id world)
    (second : ∀ value, outcome = .ok value → Continues start (next value) pipeline world) :
    Continues start (Updating.ofExcept outcome >>= next) pipeline world := by
  cases outcome with
  | ok value => exact second value rfl
  | error cause => exact held

theorem continues_ofClient (action : Step α) (next : α → Updating Pipeline PipelineError β)
    (held : Held start pipeline.id (action world).2)
    (second : ∀ value later, action world = (.ok value, later) → Held start pipeline.id later →
      Continues start (next value) pipeline later) :
    Continues start (Updating.ofClient action >>= next) pipeline world := by
  rw [Continues, Updating.runOn_ofClient_bind]
  generalize reached : action world = after at held
  obtain ⟨outcome, later⟩ := after
  cases outcome with
  | ok value => exact second value later reached held
  | error cause => exact held

theorem continues_refresh (session : Session) (held : Held start pipeline.id world) :
    Continues start (refresh session) pipeline world := by
  refine continues_handle _ (continues_ofExcept _ _ held fun id fitted => ?_)
  have named := (pipeline.fittedId_eq_ok id).mp fitted
  refine continues_ofClient _ _
    (held.emits _ (named ▸ emits_askState session id (serves_refresh id))) ?_
  rintro ⟨targets, report⟩ later _ kept
  exact kept

theorem continues_fitUnchecked (session : Session) (population : Table) (peripheral : List Table)
    (validation : Option Table) (held : Held start pipeline.id world) :
    Continues start (fitUnchecked session population peripheral validation) pipeline world := by
  have training : Client.Emits world.links.length (Serves none) (fun _ => True)
      (train session pipeline.blueprint population peripheral validation) := emits_train _ _ _ _ _
  refine continues_handle _
    (continues_ofClient _ _ (held.emits _ (training.mono (serves_none _))) ?_)
  intro id later trained _
  -- the handle takes its new name only now that it has a pipeline of that name
  have kept : Held start (some id) later := held_train session _ _ _ _ _ _ _ _ held trained
  refine continues_replace _ _ (continues_ofClient _ _
    (kept.emits _ (emits_saveById session id (serves_save id))) fun _ last _ saved => ?_)
  exact continues_refresh session saved

theorem continues_fit (session : Session) (population : Table) (peripheral : List Table)
    (validation : Option Table) (held : Held start pipeline.id world) :
    Continues start (fit session population peripheral validation) pipeline world := by
  refine continues_handle _ (continues_ofClient _ _ ?_ fun _ later _ kept =>
    continues_fitUnchecked session population peripheral validation kept)
  refine (held_check session _ population peripheral _ world held).bind
    fun issues later _ kept => kept.emits (fun _ => True) ?_
  refine Client.emits_bind _ _ _ _ (Client.emits_forIn issues _ fun issue _ => ?_) fun _ _ =>
    Client.emits_pure _ _ trivial
  exact Client.emits_bind _ _ _ _ (Client.emits_log _ _) fun _ _ => Client.emits_pure _ _ trivial

theorem continues_score (session : Session) (population : Table) (peripheral : List Table)
    (held : Held start pipeline.id world) :
    Continues start (score session population peripheral) pipeline world := by
  refine continues_handle _ (continues_ofClient _ _ (held.emits (fun _ => True) ?_) ?_)
  · refine Client.emits_bind _ _ _ _ (emits_run session pipeline population peripheral _) ?_
    rintro ⟨link, _⟩ fresh
    refine Client.emits_bind (fun _ => True) _ _ _ (Client.emits_adapt _ _ _ ?_) fun latest _ => ?_
    · exact Client.emits_bind _ _ _ _ (Link.emits_expect link _ fresh) fun _ _ =>
        Link.emits_receiveJson link fresh
    · exact Client.emits_log _ _
  intro _ later _ kept
  refine continues_bind _ _ (continues_refresh session kept) fun _ changed last same => ?_
  refine continues_handle _ (continues_ofExcept _ _ same fun id fitted => ?_)
  have named := (changed.fittedId_eq_ok id).mp fitted
  exact continues_ofClient _ _ (same.emits _ (named ▸ emits_saveById session id (serves_save id)))
    fun _ _ _ saved => saved

theorem continues_delete (session : Session) (onlyMemory : Bool)
    (held : Held start pipeline.id world) :
    Continues start (delete session onlyMemory) pipeline world := by
  refine continues_handle _ (continues_ofExcept _ _ held fun id fitted => ?_)
  have named := (pipeline.fittedId_eq_ok id).mp fitted
  have made : ∃ number < world.names, id = Client.madeUpName number := by
    obtain ⟨events, -, tracked⟩ := held
    exact (tracked.alive id named).old
  rw [Continues, Updating.runOn_bind, Updating.runOn, Updating.ofClient]
  rcases held_deleteById session pipeline.id id onlyMemory world held made with
    ⟨last, done, -, forgotten⟩ | ⟨cause, last, failed, kept⟩
  · rw [done]
    exact forgotten
  · rw [failed]
    exact kept

inductive Operation where
  | configure (blueprint : Blueprint)
  | check (population : Table) (peripheral : List Table)
  | fit (population : Table) (peripheral : List Table) (validation : Option Table)
  | fitSubset (subset : Subset) (validation : Option Subset)
  | fitUnchecked (population : Table) (peripheral : List Table) (validation : Option Table)
  | transform (population : Table) (peripheral : List Table)
  | predict (population : Table) (peripheral : List Table)
  | transformToFrame (population : Table) (peripheral : List Table) (name : String)
  | writeTable (population : Table) (peripheral : List Table) (name : String) (predicted : Bool)
  | score (population : Table) (peripheral : List Table)
  | scoreSubset (subset : Subset)
  | refresh
  | deploy (open_ : Bool)
  | features
  | columns
  | tables
  | toSql (options : SqlOptions)
  | delete (onlyMemory : Bool)

def asking (action : Pipeline → Step α) : Updating Pipeline PipelineError Unit := do
  let _ ← Updating.ofClient (action (← Updating.handle))

def Operation.action (session : Session) : Operation → Updating Pipeline PipelineError Unit
  | .configure blueprint => do Updating.replace { ← Updating.handle with blueprint }
  | .check population peripheral =>
    asking fun pipeline => Pipeline.check session pipeline.blueprint population peripheral
  | .fit population peripheral validation => Pipeline.fit session population peripheral validation
  | .fitSubset subset validation => Pipeline.fitSubset session subset validation
  | .fitUnchecked population peripheral validation =>
    Pipeline.fitUnchecked session population peripheral validation
  | .transform population peripheral =>
    asking fun pipeline => Pipeline.transform session pipeline population peripheral
  | .predict population peripheral =>
    asking fun pipeline => Pipeline.predict session pipeline population peripheral
  | .transformToFrame population peripheral name =>
    asking fun pipeline => Pipeline.transformToFrame session pipeline population peripheral name
  | .writeTable population peripheral name predicted =>
    asking fun pipeline => Pipeline.writeTable session pipeline population peripheral name predicted
  | .score population peripheral => do let _ ← Pipeline.score session population peripheral
  | .scoreSubset subset => do let _ ← Pipeline.scoreSubset session subset
  | .refresh => Pipeline.refresh session
  | .deploy open_ => asking fun pipeline => Pipeline.deploy session pipeline open_
  | .features => asking (Pipeline.features session)
  | .columns => asking (Pipeline.columns session)
  | .tables => asking (Pipeline.tables session)
  | .toSql options => asking fun pipeline => Pipeline.toSql session pipeline options
  | .delete onlyMemory => Pipeline.delete session onlyMemory

/-- One operation, whether it succeeds or fails, on the handle and on all that is outside. -/
def Turn (before after : Pipeline × World) : Prop :=
  ∃ (session : Session) (operation : Operation),
    ((operation.action session).runOn before.1 before.2).1.2 = after.1 ∧
      ((operation.action session).runOn before.1 before.2).2 = after.2

theorem continues_asking (action : Pipeline → Step α)
    (held : Held start pipeline.id (action pipeline world).2) :
    Continues start (asking action) pipeline world :=
  continues_handle _ (continues_ofClient _ _ held fun _ _ _ kept => kept)

theorem continues_action (session : Session) (operation : Operation)
    (held : Held start pipeline.id world) :
    Continues start (operation.action session) pipeline world := by
  cases operation with
  | configure blueprint => exact held
  | check population peripheral =>
      exact continues_asking _ (held_check session _ population peripheral _ world held)
  | fit population peripheral validation =>
      exact continues_fit session population peripheral validation held
  | fitSubset subset validation =>
      exact continues_handle _ (continues_ofExcept _ _ held fun peripheral _ =>
        continues_fit session subset.population peripheral _ held)
  | fitUnchecked population peripheral validation =>
      exact continues_fitUnchecked session population peripheral validation held
  | transform population peripheral =>
      exact continues_asking _
        (held.emits _ (emits_matrixOf session pipeline population peripheral _))
  | predict population peripheral =>
      exact continues_asking _
        (held.emits _ (emits_matrixOf session pipeline population peripheral _))
  | transformToFrame population peripheral name =>
      exact continues_asking _
        (held.emits _ (emits_transformToFrame session pipeline population peripheral name))
  | writeTable population peripheral name predicted =>
      exact continues_asking _
        (held.emits _ (emits_writeTable session pipeline population peripheral name predicted))
  | score population peripheral =>
      exact continues_bind _ _ (continues_score session population peripheral held)
        fun _ _ _ kept => kept
  | scoreSubset subset =>
      refine continues_bind _ _ ?_ fun _ _ _ kept => kept
      exact continues_handle _ (continues_ofExcept _ _ held fun peripheral _ =>
        continues_score session subset.population peripheral held)
  | refresh => exact continues_refresh session held
  | deploy open_ =>
      exact continues_asking _
        (held.emits _ (emits_deploy session pipeline open_ (serves_deploy pipeline open_)))
  | features =>
      exact continues_asking _
        (held.emits _ (emits_features session pipeline (serves_report pipeline)))
  | columns =>
      exact continues_asking _
        (held.emits _ (emits_columns session pipeline (serves_report pipeline)))
  | tables =>
      exact continues_asking _
        (held.emits _ (emits_tables session pipeline (serves_report pipeline)))
  | toSql options =>
      exact continues_asking _
        (held.emits _ (emits_toSql session pipeline options (serves_toSql pipeline options)))
  | delete onlyMemory => exact continues_delete session onlyMemory held

theorem held_of_turns (before after : Pipeline × World) (turns : ReflTransGen Turn before after)
    (held : Held start before.1.id before.2) : Held start after.1.id after.2 := by
  induction turns with
  | refl => exact held
  | @tail middle last _ turn ih =>
      obtain ⟨session, operation, handle, outside⟩ := turn
      rw [← handle, ← outside]
      exact continues_action session operation ih

/--
Whatever the engine answers, all that a handle has ever sent are commands, and those that need a
fitted pipeline name one that was announced and trained before, and that was not deleted since.
-/
theorem named_pipelines_are_fitted (start last : World) (pipeline reached : Pipeline)
    (unfitted : pipeline.id = none) (turns : ReflTransGen Turn (pipeline, start) (reached, last)) :
    ∃ events, last.trace = start.trace ++ events ∧
      (∀ link message, .sent link message ∈ events → ∃ command, message = .command command) ∧
      ∀ earlier link command kind later,
        events = earlier ++ .sent link (.command command) :: later →
        command.field? "type_" = some (.string kind) → kind ∈ fittedKinds →
          ∃ name, command.field? "name_" = some (.string name) ∧ Fitted name earlier ∧
            ¬ Deleted name earlier := by
  have held : Held start.trace pipeline.id start := by
    refine ⟨[], (List.append_nil _).symm, ⟨?_, by simp, by simp⟩, by simp [unfitted]⟩
    intro earlier link command kind later same
    simp at same
  obtain ⟨events, recorded, tracked⟩ := held_of_turns _ _ turns held
  exact ⟨events, recorded, tracked.orderly.spoken, tracked.orderly.justified⟩

def after (operations : List Operation) (state : Pipeline × World) : Pipeline × World :=
  operations.foldl (fun state operation =>
    let ((_, pipeline), world) := (operation.action {}).runOn state.1 state.2
    (pipeline, world)) state

theorem turns_after (operations : List Operation) (state : Pipeline × World) :
    ReflTransGen Turn state ((after operations state).1, (after operations state).2) := by
  induction operations generalizing state with
  | nil => exact .refl
  | cons operation operations ih => exact .head ⟨{}, operation, rfl, rfl⟩ (ih _)

/-- An engine that gives each of the commands its replies. -/
def answering (answers : List (List String)) : World :=
  { listening := [1708]
    scripts := answers.map fun replies =>
      ⟨replies.flatMap fun reply => (Frame.ofText reply).toOption.getD [], true, []⟩ }

def sentKind? : Event → Option String
  | .sent _ (.command command) => (command.field? "type_").bind Json.asString?
  | _ => none

theorem exists_sent (kind : String) (events : List Event)
    (member : kind ∈ events.filterMap sentKind?) :
    ∃ link command, .sent link (.command command) ∈ events ∧
      command.field? "type_" = some (.string kind) := by
  obtain ⟨event, sent, same⟩ := List.mem_filterMap.mp member
  unfold sentKind? at same
  split at same
  next link command =>
    obtain ⟨value, found, text⟩ := Option.bind_eq_some_iff.mp same
    cases value with
    | string word =>
        obtain rfl := Option.some.inj text
        exact ⟨link, command, sent, found⟩
    | _ => cases text
  next => cases same

def labelled : DataFrame where
  name := "loans"
  roles := { target := ["default"] }

def written : Pipeline × World :=
  after [.fitUnchecked (.frame labelled) [] none, .toSql {}, .delete true, .toSql {}]
    ({ blueprint := { dataModel := .create ((Table.frame labelled).placeholder none) } },
      answering [["Success!"], ["Found!", "log: Training...", "Trained pipeline."], ["Success!"],
        ["\x7b\x7d"], ["Found!", "SELECT 1;"], ["Success!"]])

theorem named_pipelines_are_fitted_written :
    written.2.trace.filterMap sentKind? = ["Pipeline", "Pipeline.fit", "Pipeline.save",
      "Pipeline.refresh", "Pipeline.to_sql", "Pipeline.delete"] ∧
    ∀ earlier link command later,
      written.2.trace = earlier ++ .sent link (.command command) :: later →
      command.field? "type_" = some (.string "Pipeline.to_sql") →
        ∃ name, command.field? "name_" = some (.string name) ∧ Fitted name earlier ∧
          ¬ Deleted name earlier := by
  refine ⟨by decide +kernel, ?_⟩
  intro earlier link command later same of_kind
  obtain ⟨events, recorded, -, justified⟩ :=
    named_pipelines_are_fitted _ written.2 _ written.1 rfl (turns_after _ _)
  exact justified earlier link command _ later (recorded.symm.trans same) of_kind (by decide)

end RelationalLearning.Pipeline
