import RelationalLearning.Proofs.Engine.Listening
import RelationalLearning.Proofs.Json.Size
import RelationalLearning.Proofs.Pipeline.PeripheralOrder

/-!
A check of a data model gives up the pipeline that was announced for it, whatever happens in
between. Only where the engine is gone by then, nobody is told to delete it.
-/

namespace RelationalLearning

open Text (size)

theorem Frame.ofText_of_size_le (first second : String) (frame : Text.Bytes)
    (shorter : size first ≤ size second) (fits : ofText second = .ok frame) :
    ∃ frame, ofText first = .ok frame := by
  unfold ofText at *
  dsimp only at *
  split at fits
  next small => exact ⟨_, if_pos (Nat.lt_of_le_of_lt shorter small)⟩
  next => cases fits

def Event.message? : Event → Option Message
  | .sent _ message => some message
  | _ => none

theorem Event.allowed_of_fits {base : Nat} {allowed : Message → Prop} (events : List Event)
    (fits : ∀ event ∈ events, event.Fits base allowed) (message : Message)
    (member : message ∈ events.filterMap Event.message?) : allowed message := by
  obtain ⟨event, present, same⟩ := List.mem_filterMap.mp member
  cases event with
  | sent link other =>
      obtain rfl := Option.some.inj same
      exact (fits _ present).2
  | opened link port => cases same
  | received link reply => cases same
  | delivered link delivery => cases same
  | logged line => cases same

theorem Session.messages_exchanged (link port : Nat) (command : Json) (replies : List String) :
    (exchanged link port command replies).filterMap Event.message? = [.command command] := by
  have silent : (replies.map (Event.received link)).filterMap Event.message? = [] := by
    simp [Event.message?]
  have said : Event.message? (.sent link (.command command)) = some (.command command) := rfl
  rw [exchanged, List.filterMap_cons_none rfl, List.filterMap_cons_some said, silent]

theorem Answered.prepend {kind name : String} {good : List String → Prop} {events : List Event}
    (answered : Answered kind name good events) (before : List Event) :
    Answered kind name good (before ++ events) := by
  obtain ⟨earlier, link, command, later, rfl, known⟩ := answered
  exact ⟨before ++ earlier, link, command, later, by simp, known⟩

namespace Pipeline

/-- The command by which the pipeline of a check is given up. -/
def deletion (id : String) : Json :=
  Session.command "Pipeline.delete" id [("mem_only_", .bool true)]

theorem size_deletion_le (blueprint : Blueprint) (id : String) (command : Json)
    (described : blueprint.toCommand id = .ok command) :
    size (deletion id).write ≤ size command.write := by
  simp only [Blueprint.toCommand, Outcome.bind_eq_ok] at described
  obtain ⟨_, -, _, -, _, -, _, -, _, -, _, -, model, -, same⟩ := described
  obtain rfl := Except.ok.inj same
  have word : size (Json.string "Pipeline.delete").write = 17 := by decide +kernel
  have mark : size (Json.quote "mem_only_") = 11 := by decide +kernel
  have value : size (Json.bool true).write = 4 := by decide +kernel
  have model : size (Json.quote "data_model_") = 13 := by decide +kernel
  have learners : size (Json.quote "feature_learners_") = 19 := by decide +kernel
  rw [deletion, Session.command, Json.size_record _ (by simp) (by simp),
    Json.size_record _ (by simp) (by simp)]
  simp only [Json.weight, word, mark, value, model, learners]
  omega

def Checking (message : Message) : Prop :=
  ∃ command kind, message = .command command ∧ command.field? "type_" = some (.string kind) ∧
    kind ∈ ["DataFrame.last_change", "Pipeline.check"]

theorem emits_checking {base : Nat} (session : Session) (id : String) (population : Table)
    (peripheral : List Table) :
    Client.Emits base Checking (fun _ => True)
      (checkAnnounced session id population peripheral) := by
  have fits (kind name : String) (fields : List (String × Json))
      (free : ∀ field ∈ fields, field.1 ≠ "type_")
      (known : kind ∈ ["DataFrame.last_change", "Pipeline.check"]) :
      Checking (.command (Session.command kind name fields)) :=
    ⟨_, kind, rfl, Session.kind_command kind name fields free, known⟩
  rw [checkAnnounced_eq]
  refine Client.emits_bind _ _ _ _ (emits_dataFields session population peripheral fun frame =>
    fits _ _ _ (by simp) (by simp)) ?_
  rintro data rfl
  exact emits_checkOn session id _ (fits _ _ _ (by simp [dataOf]) (by simp))

theorem keeps_checkAnnounced {kept : World → Prop} (lasting : World.Lasting kept)
    (session : Session) (id : String) (population : Table) (peripheral : List Table) :
    Client.Keeps kept (checkAnnounced session id population peripheral) := by
  rw [checkAnnounced_eq]
  refine Client.keeps_bind _ _ (Client.keeps_bind _ _ (Client.keeps_forIn _ _ fun table => ?_)
    fun _ => Client.keeps_pure _) fun data => Client.keeps_adapt _ _ ?_
  · exact Client.keeps_bind _ _ (Client.keeps_adapt _ _ (table.keeps_check lasting session))
      fun _ => Client.keeps_pure _
  refine Client.keeps_bind _ _ (session.keeps_askExpecting lasting _ _) fun link => ?_
  refine Client.keeps_bind _ _ (Client.keeps_log lasting _ _) fun _ => ?_
  refine Client.keeps_bind _ _ (Link.keeps_logLoop lasting link) fun reply => ?_
  split
  next => exact Client.keeps_bind _ _ (Client.keeps_throw _) fun _ =>
    Link.keeps_receiveIssues lasting link
  next => exact Link.keeps_receiveIssues lasting link

def Checked (issues : Issues) (replies : List String) : Prop :=
  ∃ lines body more, replies = found :: lines ++ success :: body :: more ∧
    (∀ line ∈ lines, Text.startsWith line Link.logMark = true) ∧ Issues.parse body = .ok issues

theorem Checked.append {issues : Issues} (replies more : List String)
    (checked : Checked issues replies) : Checked issues (replies ++ more) := by
  obtain ⟨lines, body, further, rfl, known⟩ := checked
  exact ⟨lines, body, further ++ more, by simp, known⟩

def heedCheck (link : Nat) : Client EngineError Issues := do
  Client.log .info "Checking data model..."
  let reply ← Link.logLoop link
  if reply ≠ success then throw (.refused reply)
  Link.receiveIssues link

theorem checkOn_eq (session : Session) (id : String) (data : List (String × Json)) :
    checkOn session id data = ExceptT.adapt PipelineError.engine
      (session.askExpecting (Session.command "Pipeline.check" id data) found >>= heedCheck) := rfl

theorem heedCheck_eq_ok (link : Nat) (world last : World) (issues : Issues)
    (done : heedCheck link world = (.ok issues, last)) :
    ∃ events lines body, last.trace = world.trace ++ events ∧
      repliesTo link events = lines ++ [success, body] ∧
      (∀ line ∈ lines, Text.startsWith line Link.logMark = true) ∧
      Issues.parse body = .ok issues := by
  obtain ⟨⟨⟩, first, ⟨⟩, done⟩ := (Client.bind_eq_ok _ _ _ _ _).mp done
  obtain ⟨reply, second, followed, done⟩ := (Client.bind_eq_ok _ _ _ _ _).mp done
  obtain ⟨events, lines, recorded, replies, marks, -⟩ :=
    Link.followLog_eq_ok _ _ none _ second reply followed
  by_cases refused : reply ≠ success
  · rw [if_pos refused] at done
    obtain ⟨_, _, thrown, -⟩ := (Client.bind_eq_ok _ _ _ _ _).mp done
    exact absurd thrown (Client.throw_ne_ok _ _ _ _)
  · rw [if_neg refused] at done
    obtain ⟨body, third, received, done⟩ := (Client.bind_eq_ok _ _ _ _ _).mp done
    obtain ⟨parsed, rfl⟩ := (Client.ofExcept_eq_ok _ _ _ _).mp done
    have told := (Link.receive_eq_ok _ _ _ _ received).recorded
    refine ⟨.logged ⟨.info, false, "Checking data model..."⟩ :: events ++ [.received link body],
      lines, body, ?_, ?_, marks, parsed⟩
    · rw [told, recorded]
      simp [World.record]
    · rw [List.cons_append, repliesTo, replies, not_not.mp refused, repliesTo, if_pos rfl]
      rfl

theorem checkOn_eq_ok (session : Session) (id : String) (data : List (String × Json))
    (world last : World) (issues : Issues)
    (free : ∀ field ∈ data, field.1 ≠ "type_" ∧ field.1 ≠ "name_")
    (done : checkOn session id data world = (.ok issues, last)) :
    ∃ events, last.trace = world.trace ++ events ∧
      Answered "Pipeline.check" id (Checked issues) events := by
  rw [checkOn_eq, Client.adapt_eq_ok] at done
  obtain ⟨link, middle, asked, heeded⟩ := (Client.bind_eq_ok _ _ _ _ _).mp done
  obtain ⟨rfl, exchange⟩ := session.askExpecting_eq_ok _ _ world middle link asked
  obtain ⟨events, lines, body, recorded, replies, marks, parsed⟩ :=
    heedCheck_eq_ok _ middle last issues heeded
  refine ⟨Session.exchanged world.links.length session.port _ [found] ++ events,
    by rw [recorded, exchange.recorded, List.append_assoc], [.opened _ _], world.links.length, _,
    .received _ found :: events, rfl,
    Session.kind_command _ _ _ fun field member => (free field member).1,
    Session.name_command _ _ _ fun field member => (free field member).2, lines, body, [], ?_,
    marks, parsed⟩
  rw [repliesTo, if_pos rfl, replies]
  rfl

theorem checkAnnounced_eq_ok (session : Session) (id : String) (population : Table)
    (peripheral : List Table) (world last : World) (issues : Issues)
    (done : checkAnnounced session id population peripheral world = (.ok issues, last)) :
    ∃ events, last.trace = world.trace ++ events ∧
      Answered "Pipeline.check" id (Checked issues) events := by
  rw [checkAnnounced_eq, Client.bind_eq_ok] at done
  obtain ⟨data, middle, looked, checked⟩ := done
  have looking : Client.Emits 0 (fun _ => True) (fun data => data = dataOf population peripheral)
      (dataFields session population peripheral) := emits_dataFields _ _ _ fun _ => trivial
  obtain ⟨grows, rfl⟩ := looking.ran (Nat.zero_le _) looked
  obtain ⟨before, recorded, -⟩ := grows.recorded
  obtain ⟨events, followed, answered⟩ :=
    checkOn_eq_ok session id _ middle last issues (by simp [dataOf]) checked
  exact ⟨before ++ events, by rw [followed, recorded, List.append_assoc], answered.prepend before⟩

theorem announce_cases (session : Session) (blueprint : Blueprint) (world : World) :
    (∃ cause last, announce session blueprint world = (.error cause, last) ∧
      last.trace = world.trace) ∨
    ∃ command, blueprint.toCommand (Client.madeUpName world.names) = .ok command ∧
      announce session blueprint world =
        match session.send command { world with names := world.names + 1 } with
        | (.ok (), last) => (.ok (Client.madeUpName world.names), last)
        | (.error cause, last) => (.error (.engine cause), last) := by
  simp only [announce, Outcome.run_bind, Client.ofExcept, Client.freshName_eq]
  cases blueprint.validate with
  | error cause => exact .inl ⟨cause, world, rfl, rfl⟩
  | ok valid =>
      dsimp only
      cases blueprint.toCommand (Client.madeUpName world.names) with
      | error cause => exact .inl ⟨cause, _, rfl, rfl⟩
      | ok command =>
          refine .inr ⟨command, rfl, ?_⟩
          have adapted (world : World) : (liftM (session.send command) : Step Unit) world =
              ((session.send command world).1.mapError .engine,
                (session.send command world).2) := rfl
          dsimp only
          rw [adapted]
          rcases session.send command { world with names := world.names + 1 } with ⟨_ | ⟨⟩, last⟩
          · rfl
          · rfl

/-- The outcome of a check: that of the check itself comes before that of the deletion. -/
def verdict (checked : Except PipelineError Issues) (deleted : Except PipelineError Unit) :
    Except PipelineError Issues := do
  let issues ← checked
  deleted
  return issues

theorem verdict_eq_ok (checked : Except PipelineError Issues) (deleted : Except PipelineError Unit)
    (issues : Issues) :
    verdict checked deleted = .ok issues ↔ checked = .ok issues ∧ deleted = .ok () := by
  cases checked with
  | error cause => simp [verdict]
  | ok found => cases deleted <;> simp [verdict]

/-- Behind the deletion nothing but a line of the log follows. -/
theorem checkUnder_eq (session : Session) (id : String) (population : Table)
    (peripheral : List Table) (world middle later : World) (checked : Except PipelineError Issues)
    (deleted : Except PipelineError Unit)
    (checking : checkAnnounced session id population peripheral world = (checked, middle))
    (deleting : deleteById session id true middle = (deleted, later)) :
    ∃ (noted : List LogRecord) (last : World), checkUnder session population peripheral id world =
        (verdict checked deleted, last) ∧ last.trace = later.trace ++ noted.map .logged := by
  simp only [checkUnder, Outcome.run_bind, Client.attempt, checking, deleting, Client.ofExcept]
  cases checked with
  | error cause => exact ⟨[], later, rfl, (List.append_nil _).symm⟩
  | ok issues =>
      cases deleted with
      | error cause => exact ⟨[], later, rfl, (List.append_nil _).symm⟩
      | ok done =>
          dsimp only
          split
          next => exact ⟨[_], _, rfl, rfl⟩
          next => exact ⟨[_], _, rfl, rfl⟩

/--
The pipeline of a check was announced under a name, and the last command deletes it. It is at most
one command that deletes it, and the command is sent if no reply closes the port of the engine.
-/
structure CleansUp (session : Session) (id : String) (before : World)
    (outcome : Except PipelineError Issues) (events : List Event) : Prop where
  announced : Answered "Pipeline" id Succeeded events
  commands : ∃ announcement between deletions,
    announcement.field? "type_" = some (.string "Pipeline") ∧
      (∀ message ∈ between, Checking message) ∧
      events.filterMap Event.message? = .command announcement :: between ++ deletions ∧
      deletions.Sublist [.command (deletion id)] ∧
      ((∀ script ∈ before.scripts, session.port ∉ script.closes) →
        deletions = [.command (deletion id)])
  succeeded : ∀ issues, outcome = .ok issues →
    Answered "Pipeline.check" id (Checked issues) events ∧
      Answered "Pipeline.delete" id Succeeded events

theorem deleteById_cases (session : Session) (id : String) (frame : Text.Bytes) (world : World)
    (fits : Frame.ofText (deletion id).write = .ok frame) :
    ∃ deleted last events, deleteById session id true world = (deleted, last) ∧
      last.trace = world.trace ++ events ∧
      (events.filterMap Event.message? = [.command (deletion id)] ∨
        session.port ∉ world.listening ∧ last = world ∧ events = []) ∧
      (deleted = .ok () → Answered "Pipeline.delete" id Succeeded events) := by
  have adapted : deleteById session id true world =
      ((session.send (deletion id) world).1.mapError .engine,
        (session.send (deletion id) world).2) := rfl
  by_cases listening : session.port ∈ world.listening
  · obtain ⟨outcome, replies, last, done, exchange, told⟩ :=
      session.send_of_listening (deletion id) frame world listening fits
    rw [adapted, done]
    refine ⟨_, last, _, rfl, exchange.recorded, .inl (Session.messages_exchanged _ _ _ _), ?_⟩
    intro succeeded
    rw [told ((Outcome.mapError_eq_ok _ _ _).mp succeeded)]
    exact Session.answered_command _ _ _ _ _ _ _ (by simp) rfl
  · -- without a connection there is nothing on record, not even the attempt
    obtain ⟨cause, failed⟩ := session.send_of_silent (deletion id) world listening
    rw [adapted, failed]
    refine ⟨_, world, [], rfl, (List.append_nil _).symm, .inr ⟨listening, rfl, rfl⟩, ?_⟩
    rintro ⟨⟩

theorem attended_checkAnnounced (session : Session) (id : String) (command : Json)
    (population : Table) (peripheral : List Table) (world announced : World)
    (listening : session.port ∈ world.listening)
    (sent : session.send command world = (.ok (), announced))
    (unclosed : ∀ script ∈ world.scripts, session.port ∉ script.closes) :
    (checkAnnounced session id population peripheral announced).2.Attended session.port := by
  have lasting := World.lasting_attended session.port
  have kept := session.keeps_send lasting command world ⟨listening, unclosed⟩
  rw [sent] at kept
  exact keeps_checkAnnounced lasting session id population peripheral announced kept

/-- The record in stages: what follows an announcement that was answered gives the pipeline up. -/
theorem cleansUp_of_stages (session : Session) (id : String) (command : Json) (link base : Nat)
    (before : World) (outcome : Except PipelineError Issues) (between given : List Event)
    (noted : List LogRecord) (of_kind : command.field? "type_" = some (.string "Pipeline"))
    (of_name : command.field? "name_" = some (.string id))
    (allowed : ∀ event ∈ between, event.Fits base Checking)
    (said : given.filterMap Event.message? = [.command (deletion id)] ∨
      given = [] ∧ ¬ ∀ script ∈ before.scripts, session.port ∉ script.closes)
    (succeeded : ∀ issues, outcome = .ok issues →
      Answered "Pipeline.check" id (Checked issues) between ∧
        Answered "Pipeline.delete" id Succeeded given) :
    CleansUp session id before outcome (Session.exchanged link session.port command [success] ++
      (between ++ (given ++ noted.map .logged))) := by
  have silent : (noted.map Event.logged).filterMap Event.message? = [] := by
    simp [Event.message?]
  have first : Answered "Pipeline" id Succeeded (Session.exchanged link session.port command [success]) :=
    Session.answered_exchanged link _ command _ _ _ _ of_kind of_name rfl
  refine ⟨first.append Succeeded.append [] _, ?_, ?_⟩
  · refine ⟨command, between.filterMap Event.message?, given.filterMap Event.message?, of_kind,
      Event.allowed_of_fits between allowed, ?_, ?_, ?_⟩
    · simp only [List.filterMap_append, Session.messages_exchanged, silent, List.append_nil,
        List.cons_append, List.nil_append]
    · rcases said with said | ⟨rfl, -⟩
      · rw [said]
      · exact List.nil_sublist _
    · intro unclosed
      rcases said with said | ⟨-, closed⟩
      · exact said
      · exact absurd unclosed closed
  · intro issues done
    obtain ⟨told, gone⟩ := succeeded issues done
    refine ⟨told.append Checked.append _ _, ?_⟩
    rw [← List.append_assoc]
    exact gone.append Succeeded.append _ _

theorem announced_check (session : Session) (blueprint : Blueprint) (id : String) (command : Json)
    (population : Table) (peripheral : List Table) (world announced : World)
    (described : blueprint.toCommand id = .ok command)
    (sent : session.send command world = (.ok (), announced)) :
    ∃ last events, checkUnder session population peripheral id announced =
        (verdict (checkAnnounced session id population peripheral announced).1
          (deleteById session id true
            (checkAnnounced session id population peripheral announced).2).1, last) ∧
      last.trace = world.trace ++ events ∧
      CleansUp session id world (checkUnder session population peripheral id announced).1
        events := by
  obtain ⟨listening, frame, fits⟩ := session.sendable_of_send command world announced sent
  obtain ⟨of_kind, of_name⟩ := concerns_toCommand blueprint id command described
  have exchange := session.send_eq_ok command world announced () sent
  have emitted := (emits_checking session id population peripheral announced
    (Nat.le_refl announced.links.length)).1
  have attended := attended_checkAnnounced session id command population peripheral world announced
    listening sent
  rcases checking : checkAnnounced session id population peripheral announced with ⟨checked, middle⟩
  rw [checking] at attended emitted
  obtain ⟨between, recorded, allowed⟩ := emitted.recorded
  -- a deletion is shorter than the announcement that was sent, so it is never too long
  obtain ⟨fitting, short⟩ := Frame.ofText_of_size_le _ _ frame
    (size_deletion_le blueprint id command described) fits
  obtain ⟨deleted, later, given, deleting, followed, said, answered⟩ :=
    deleteById_cases session id fitting middle short
  obtain ⟨noted, last, ran, ended⟩ :=
    checkUnder_eq session id population peripheral announced middle later checked deleted checking
      deleting
  rw [ran, deleting]
  refine ⟨last, Session.exchanged world.links.length session.port command [success] ++
    (between ++ (given ++ noted.map .logged)), rfl, ?_, ?_⟩
  · rw [ended, followed, recorded, exchange.recorded]
    simp only [List.append_assoc]
  · apply cleansUp_of_stages session id command _ _ world _ between given noted of_kind of_name allowed
    · rcases said with said | ⟨closed, -, rfl⟩
      · exact .inl said
      · exact .inr ⟨rfl, fun unclosed => closed (attended unclosed).listening⟩
    · intro issues succeeded
      obtain ⟨rfl, rfl⟩ := (verdict_eq_ok checked deleted issues).mp succeeded
      obtain ⟨events, same, told⟩ :=
        checkAnnounced_eq_ok session id population peripheral announced middle issues checking
      obtain rfl := List.append_cancel_left (recorded.symm.trans same)
      exact ⟨told, answered rfl⟩

theorem refused_announcement (session : Session) (command : Json) (cause : EngineError)
    (world last : World) (failed : session.send command world = (.error cause, last)) :
    ∃ events, last.trace = world.trace ++ events ∧
      (∀ id, ¬ Answered "Pipeline" id Succeeded events) ∧
      ∀ message ∈ events.filterMap Event.message?, message = .command command := by
  rcases session.send_cases 0 command world with ⟨later, sent, -⟩ | ⟨reason, later, sent, told⟩
  · rw [sent] at failed
    cases failed
  obtain ⟨-, rfl⟩ := Prod.mk.inj (sent.symm.trans failed)
  rcases told with quiet | ⟨replies, exchange, other⟩
  · obtain ⟨events, recorded, silent⟩ := quiet.recorded
    refine ⟨events, recorded, ?_, ?_⟩
    · rintro id ⟨earlier, link, other, later, rfl, -⟩
      have fits := silent (.sent link (.command other)) (by simp)
      exact fits.2
    · exact fun message member => (Event.allowed_of_fits events silent message member).elim
  · refine ⟨_, exchange.recorded, ?_, ?_⟩
    · rintro id ⟨earlier, link, again, later, same, -, -, succeeded⟩
      obtain ⟨rfl, -, rfl⟩ := Session.sent_in_exchange _ _ _ _ _ _ _ _ same
      exact other succeeded
    · simp [Session.messages_exchanged]

theorem check_of_announce (session : Session) (blueprint : Blueprint) (population : Table)
    (peripheral : List Table) (world announced : World) (id : String)
    (done : announce session blueprint world = (.ok id, announced)) :
    ∃ outcome last events,
      check session blueprint population peripheral world = (outcome, last) ∧
      last.trace = world.trace ++ events ∧ CleansUp session id world outcome events ∧
      outcome = verdict (checkAnnounced session id population peripheral announced).1
        (deleteById session id true
          (checkAnnounced session id population peripheral announced).2).1 := by
  have parts : check session blueprint population peripheral world =
      checkUnder session population peripheral id announced := by
    have unfolded : check session blueprint population peripheral world =
        (announce session blueprint >>= checkUnder session population peripheral) world := rfl
    rw [unfolded, Outcome.run_bind, done]
  rcases announce_cases session blueprint world with
    ⟨cause, last, failed, -⟩ | ⟨command, described, announcing⟩
  · rw [failed] at done
    cases done
  · rw [announcing] at done
    rcases sent : session.send command { world with names := world.names + 1 } with
      ⟨cause | ⟨⟩, later⟩
    · rw [sent] at done
      cases done
    · rw [sent] at done
      obtain ⟨named, rfl⟩ := Prod.mk.inj done
      obtain rfl := Except.ok.inj named
      obtain ⟨last, events, checked, recorded, cleansUp⟩ := announced_check session blueprint _
        command population peripheral _ later described sent
      rw [checked] at cleansUp
      exact ⟨_, last, events, parts.trans checked, recorded,
        ⟨cleansUp.announced, cleansUp.commands, cleansUp.succeeded⟩, rfl⟩

theorem check_of_refused (session : Session) (blueprint : Blueprint) (population : Table)
    (peripheral : List Table) (world refused : World) (cause : PipelineError)
    (failed : announce session blueprint world = (.error cause, refused)) :
    check session blueprint population peripheral world = (.error cause, refused) ∧
      ∃ events, refused.trace = world.trace ++ events ∧
        (∀ id, ¬ Answered "Pipeline" id Succeeded events) ∧
        ∀ message ∈ events.filterMap Event.message?, ∃ command, message = .command command ∧
          command.field? "type_" = some (.string "Pipeline") := by
  have parts : check session blueprint population peripheral world =
      (announce session blueprint >>= checkUnder session population peripheral) world := rfl
  rw [parts, Outcome.run_bind, failed]
  refine ⟨rfl, ?_⟩
  rcases announce_cases session blueprint world with
    ⟨reason, last, stopped, silent⟩ | ⟨command, described, announcing⟩
  · obtain ⟨-, rfl⟩ := Prod.mk.inj (stopped.symm.trans failed)
    refine ⟨[], silent.trans (List.append_nil _).symm, ?_, by simp⟩
    rintro id ⟨earlier, link, command, later, nothing, -⟩
    simp at nothing
  · obtain ⟨of_kind, -⟩ := concerns_toCommand blueprint _ command described
    rw [announcing] at failed
    rcases sent : session.send command { world with names := world.names + 1 } with
      ⟨reason | ⟨⟩, later⟩
    · rw [sent] at failed
      obtain ⟨-, rfl⟩ := Prod.mk.inj failed
      obtain ⟨events, recorded, unanswered, said⟩ :=
        refused_announcement session command reason _ later sent
      exact ⟨events, recorded, unanswered,
        fun message member => ⟨command, said message member, of_kind⟩⟩
    · rw [sent] at failed
      cases failed

/--
If the pipeline of a check is announced, it is deleted by the last command as long as the engine
listens, whatever happens in between; otherwise it is neither checked nor deleted. The check
succeeds only if the deletion does, and fails as the check itself did if both fail.
-/
theorem checks_clean_up (session : Session) (blueprint : Blueprint) (population : Table)
    (peripheral : List Table) (world : World) :
    ∃ outcome last events,
      check session blueprint population peripheral world = (outcome, last) ∧
      last.trace = world.trace ++ events ∧
      ((∃ id announced, announce session blueprint world = (.ok id, announced) ∧
          CleansUp session id world outcome events ∧
          outcome = verdict (checkAnnounced session id population peripheral announced).1
            (deleteById session id true
              (checkAnnounced session id population peripheral announced).2).1) ∨
        (∀ id, ¬ Answered "Pipeline" id Succeeded events) ∧
          (∀ message ∈ events.filterMap Event.message?, ∃ command, message = .command command ∧
            command.field? "type_" = some (.string "Pipeline")) ∧
          ∃ cause, outcome = .error cause) := by
  rcases done : announce session blueprint world with ⟨cause | id, announced⟩
  · obtain ⟨checked, events, recorded, unanswered, said⟩ :=
      check_of_refused session blueprint population peripheral world announced cause done
    exact ⟨_, announced, events, checked, recorded, .inr ⟨unanswered, said, cause, rfl⟩⟩
  · obtain ⟨outcome, last, events, checked, recorded, cleansUp, same⟩ :=
      check_of_announce session blueprint population peripheral world announced id done
    exact ⟨outcome, last, events, checked, recorded, .inl ⟨id, announced, rfl, cleansUp, same⟩⟩

def loansOnly : Blueprint := { dataModel := .create ⟨"loans", {}⟩ }

def loansHeld : Table := (subsetOf []).population

def cutShort : World := answering [["Success!"], ["Found!", "log: Checking..."], ["Success!"]]

def interrupted : Except PipelineError Issues × World := check {} loansOnly loansHeld [] cutShort

theorem checks_clean_up_interrupted :
    interrupted.2.trace.filterMap sentKind? = ["Pipeline", "Pipeline.check", "Pipeline.delete"] ∧
      (∀ script ∈ cutShort.scripts, 1708 ∉ script.closes) ∧
      ∃ id events cause, interrupted.1 = .error cause ∧
        CleansUp {} id cutShort (.error cause) events := by
  -- One evaluation for both, since the whole run is computed each time.
  obtain ⟨kinds, refused⟩ : interrupted.2.trace.filterMap sentKind? =
      ["Pipeline", "Pipeline.check", "Pipeline.delete"] ∧ interrupted.1.isOk = false := by
    decide +kernel
  obtain ⟨cause, failed⟩ := Outcome.exists_error interrupted.1 refused
  refine ⟨kinds, by simp [cutShort, answering], ?_⟩
  obtain ⟨outcome, last, events, ran, recorded, told⟩ :=
    checks_clean_up {} loansOnly loansHeld [] cutShort
  rw [← interrupted] at ran
  obtain ⟨rfl, rfl⟩ : interrupted.1 = outcome ∧ interrupted.2 = last := by
    rw [ran]
    exact ⟨rfl, rfl⟩
  rcases told with ⟨id, announced, -, cleansUp, -⟩ | ⟨-, only, -⟩
  · exact ⟨id, events, cause, failed, failed ▸ cleansUp⟩
  · have start : cutShort.trace = [] := rfl
    rw [recorded, start, List.nil_append] at kinds
    obtain ⟨link, command, sent, of_kind⟩ :=
      exists_sent "Pipeline.check" events (by rw [kinds]; decide)
    obtain ⟨_, ⟨⟩, announces⟩ := only (.command command) (List.mem_filterMap.mpr ⟨_, sent, rfl⟩)
    rw [of_kind] at announces
    simp at announces

/-- An engine that is gone once it took a pipeline on. -/
def leaving : World where
  listening := [1708]
  scripts := (answering [["Success!"]]).scripts.map fun script => { script with closes := [1708] }

/-- Where the engine is gone before the deletion, the pipeline of a check is never deleted. -/
theorem deserted_pipelines_stay : ¬ ∀ session blueprint population peripheral (world : World) id
    events, (check session blueprint population peripheral world).2.trace = world.trace ++ events →
      Answered "Pipeline" id Succeeded events →
        .command (deletion id) ∈ events.filterMap Event.message? := by
  intro deletes
  obtain ⟨kinds, taken⟩ : (check {} loansOnly loansHeld [] leaving).2.trace.filterMap sentKind? =
      ["Pipeline"] ∧ (announce {} loansOnly leaving).1.isOk = true := by
    decide +kernel
  rcases done : announce {} loansOnly leaving with ⟨cause | id, announced⟩
  · rw [done] at taken
    cases taken
  obtain ⟨outcome, last, events, checked, recorded, cleansUp, -⟩ :=
    check_of_announce {} loansOnly loansHeld [] leaving announced id done
  have trace : (check {} loansOnly loansHeld [] leaving).2.trace = leaving.trace ++ events := by
    rw [checked, recorded]
  obtain ⟨event, member, said⟩ := List.mem_filterMap.mp
    (deletes {} loansOnly loansHeld [] leaving id events trace cleansUp.announced)
  have kind : sentKind? event = some "Pipeline.delete" := by
    cases event with
    | sent link message =>
        obtain rfl := Option.some.inj said
        rfl
    | _ => cases said
  have start : leaving.trace = [] := rfl
  have among : "Pipeline.delete" ∈ events.filterMap sentKind? :=
    List.mem_filterMap.mpr ⟨event, member, kind⟩
  rw [trace, start, List.nil_append] at kinds
  rw [kinds] at among
  simp at among

end Pipeline
end RelationalLearning
