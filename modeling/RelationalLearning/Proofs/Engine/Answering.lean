import RelationalLearning.Proofs.Engine.Frames
import RelationalLearning.Proofs.Engine.Listening

/-!
Operations against an engine that answers every command in its own way. Where the connections to
come bring these answers, it is known how an operation ends and which commands it sends.
-/

namespace RelationalLearning

open Text (Bytes)

variable {ε ε' α β : Type}

/-- An engine, by the replies that it gives to a command. -/
abbrev Engine := Json → List String

theorem Frame.ofText_eq_ok (content : String) (frame : Bytes)
    (fits : Frame.ofText content = .ok frame) :
    (Text.encode content).length < Nat.pow 2 31 ∧
      frame = toBigEndian 4 (Text.encode content).length ++ Text.encode content := by
  unfold ofText at fits
  dsimp only at fits
  split at fits
  next short => exact ⟨short, (Except.ok.inj fits).symm⟩
  next => cases fits

inductive Framed : List String → Bytes → Prop
  | none (bytes : Bytes) : Framed [] bytes
  | reply (first : String) (frame : Bytes) (replies : List String) (bytes : Bytes)
    (fits : Frame.ofText first = .ok frame) (behind : Framed replies bytes) :
    Framed (first :: replies) (frame ++ bytes)

/-- The connections to come bring what the engine replies to the commands, one command each. -/
def Engine.Scripted (engine : Engine) : List Json → List Replies → Prop
  | [], _ => True
  | _ :: _, [] => False
  | command :: commands, script :: scripts =>
      Framed (engine command) script.bytes ∧ engine.Scripted commands scripts

theorem Engine.scripted_append (engine : Engine) (first second : List Json)
    (scripts : List Replies) : engine.Scripted (first ++ second) scripts ↔
      engine.Scripted first scripts ∧ engine.Scripted second (scripts.drop first.length) := by
  induction first generalizing scripts with
  | nil => simp [Scripted]
  | cons command commands ih =>
      cases scripts with
      | nil => simp [Scripted]
      | cons script scripts => simp [Scripted, ih, and_assoc]

def Event.command? : Event → Option Json
  | .sent _ (.command command) => some command
  | _ => none

namespace World

structure Answers (port : Nat) (engine : Engine) (commands : List Json) (world : World) : Prop where
  attended : world.Attended port
  sendable : ∀ command ∈ commands, ∃ frame, Frame.ofText command.write = .ok frame
  scripted : engine.Scripted commands world.scripts

structure Quiet (before after : World) : Prop where
  recorded : ∃ events, after.trace = before.trace ++ events ∧ events.filterMap Event.command? = []
  scripts : after.scripts = before.scripts
  listening : after.listening = before.listening

theorem Quiet.refl (world : World) : Quiet world world :=
  ⟨⟨[], (List.append_nil _).symm, rfl⟩, rfl, rfl⟩

theorem Quiet.trans {first second third : World} (one : Quiet first second)
    (two : Quiet second third) : Quiet first third := by
  obtain ⟨events, recorded, silent⟩ := one.recorded
  obtain ⟨more, later, still⟩ := two.recorded
  refine ⟨⟨events ++ more, ?_, ?_⟩, two.scripts.trans one.scripts,
    two.listening.trans one.listening⟩
  · rw [later, recorded, List.append_assoc]
  · rw [List.filterMap_append, silent, still, List.append_nil]

theorem Quiet.attended {before after : World} (quiet : Quiet before after) (port : Nat)
    (attended : before.Attended port) : after.Attended port :=
  ⟨quiet.listening ▸ attended.listening, quiet.scripts ▸ attended.unclosed⟩

theorem quiet_record (world : World) (event : Event) (silent : event.command? = none) :
    Quiet world (world.record event) :=
  ⟨⟨[event], rfl, by simp [silent]⟩, rfl, rfl⟩

end World

namespace Link

/-- Reading on the connection ends in the given way, with `rest` still to be read. -/
def Hears (link : Nat) (replies rest : List String) (outcome : Except ε α) (action : Client ε α) :
    Prop :=
  ∀ world : World, Framed replies (world.unread link).bytes →
    ∃ last, action world = (outcome, last) ∧ world.Quiet last ∧
      Framed rest (last.unread link).bytes

variable {link : Nat} {replies rest last : List String}

theorem hears_ofExcept (outcome : Except ε α) :
    Hears link replies replies outcome (Client.ofExcept outcome) :=
  fun world framed => ⟨world, rfl, .refl world, framed⟩

theorem hears_pure (value : α) :
    Hears link replies replies (.ok value) (pure value : Client ε α) :=
  hears_ofExcept (.ok value)

theorem hears_bind (action : Client ε α) (next : α → Client ε β) (value : α)
    (outcome : Except ε β) (first : Hears link replies rest (.ok value) action)
    (second : Hears link rest last outcome (next value)) :
    Hears link replies last outcome (action >>= next) := by
  intro world framed
  obtain ⟨middle, done, quiet, behind⟩ := first world framed
  obtain ⟨later, ended, still, left⟩ := second middle behind
  refine ⟨later, ?_, quiet.trans still, left⟩
  rw [Outcome.run_bind, done]
  exact ended

theorem hears_adapt (change : ε → ε') (action : Client ε α) (outcome : Except ε α)
    (heard : Hears link replies rest outcome action) :
    Hears link replies rest (outcome.mapError change)
      (ExceptT.adapt change action : Client ε' α) := by
  intro world framed
  obtain ⟨later, done, quiet, behind⟩ := heard world framed
  exact ⟨later, by rw [Client.run_adapt, done], quiet, behind⟩

/-- A frame is never empty, so one that is read came on a connection that was served. -/
theorem exists_served (world : World) (reply : String) (framed : Framed (reply :: replies)
    (world.unread link).bytes) :
    ∃ port script, world.links[link]? = some ⟨port, some script⟩ ∧
      Framed (reply :: replies) script.bytes := by
  have nonempty : ¬ Framed (reply :: replies) [] := by
    intro framed
    generalize same : ([] : Bytes) = bytes at framed
    cases framed with
    | reply _ frame _ behind fits _ =>
        obtain ⟨rfl, -⟩ := List.nil_eq_append_iff.mp same
        have counted := congrArg List.length (Frame.ofText_eq_ok reply [] fits).2
        simp only [List.length_nil, List.length_append, Frame.length_toBigEndian] at counted
        omega
  unfold World.unread at framed
  split at framed
  next port script served => exact ⟨port, script, served, framed⟩
  next => exact absurd framed nonempty

theorem hears_receive (reply : String) :
    Hears link (reply :: replies) replies (.ok reply) (receive link) := by
  intro world framed
  obtain ⟨port, script, served, framed⟩ := exists_served world reply framed
  obtain ⟨bytes, final, closes⟩ := script
  cases framed with
  | reply _ frame _ behind fits framed =>
      obtain ⟨short, rfl⟩ := Frame.ofText_eq_ok reply frame fits
      -- the frame is taken off the front, and the connection keeps what is behind it
      have found := (Frame.frames_text reply short).2.whole behind
      let reached : World :=
        { world with links := world.links.set link ⟨port, some ⟨behind, final, closes⟩⟩ }
      have ran : Frame.text.run.run (world.unread link).bytes = (.ok reply, behind) := by
        rw [World.unread, served]
        exact found
      have read : world.read link Frame.text = (.ok reply, reached) := by
        rw [World.read, ran, served]
      refine ⟨reached.record (.received link reply), ?_, ?_, ?_⟩
      · rw [receive, Outcome.run_bind, Link.read, read]
        rfl
      · exact ⟨⟨[.received link reply], rfl, rfl⟩, rfl, rfl⟩
      · obtain ⟨inside, -⟩ := List.getElem?_eq_some_iff.mp served
        have left : (reached.record (.received link reply)).unread link =
            ⟨behind, final, closes⟩ := by
          simp [World.unread, World.record, reached, inside]
        rw [left]
        exact framed

theorem hears_expect (token : String) :
    Hears link (token :: replies) replies (.ok ()) (expect link token) :=
  hears_bind _ _ token _ (hears_receive token) (by simpa using hears_pure ())

def objectOf (reply : String) : Except EngineError Json :=
  if Text.startsWith reply "\x7b" then
    match Json.parse? reply with
    | some document => .ok document
    | none => .error .json
  else .error (.refused reply)

theorem receiveJson_eq (link : Nat) :
    receiveJson link = receive link >>= fun reply => Client.ofExcept (objectOf reply) := by
  unfold receiveJson objectOf
  refine congrArg (receive link >>= ·) (funext fun reply => ?_)
  split
  next => cases Json.parse? reply <;> rfl
  next => rfl

theorem hears_receiveJson (reply : String) :
    Hears link (reply :: replies) replies (objectOf reply) (receiveJson link) := by
  rw [receiveJson_eq]
  exact hears_bind _ _ reply _ (hears_receive reply) (hears_ofExcept _)

end Link

def Roles.ofReply (reply : String) : Except DataError Roles := do
  ofJson (← (Link.objectOf reply).mapError .engine)

namespace Client

/--
Against the engine the operation ends in the given way: it sends the commands, one on a connection
each, and leaves the connections behind these to whoever comes next.
-/
def Converses (port : Nat) (engine : Engine) (commands : List Json) (outcome : Except ε α)
    (action : Client ε α) : Prop :=
  ∀ world : World, world.Answers port engine commands →
    ∃ last events, action world = (outcome, last) ∧ last.trace = world.trace ++ events ∧
      events.filterMap Event.command? = commands ∧
      last.scripts = world.scripts.drop commands.length ∧ last.Attended port

variable {port : Nat} {engine : Engine}

theorem converses_quiet (outcome : Except ε α) (action : Client ε α)
    (ends : ∀ world, ∃ last, action world = (outcome, last) ∧ world.Quiet last) :
    Converses port engine [] outcome action := by
  intro world answers
  obtain ⟨last, done, quiet⟩ := ends world
  obtain ⟨events, recorded, silent⟩ := quiet.recorded
  exact ⟨last, events, done, recorded, silent, quiet.scripts, quiet.attended port answers.attended⟩

theorem converses_ofExcept (outcome : Except ε α) :
    Converses port engine [] outcome (ofExcept outcome) :=
  converses_quiet _ _ fun world => ⟨world, rfl, .refl world⟩

theorem converses_pure (value : α) :
    Converses port engine [] (.ok value) (pure value : Client ε α) := converses_ofExcept (.ok value)

theorem converses_throw (cause : ε) :
    Converses port engine [] (.error cause) (throw cause : Client ε α) :=
  converses_ofExcept (.error cause)

theorem converses_log (level : Level) (text : String) :
    Converses port engine [] (.ok ()) (log level text : Client ε Unit) :=
  converses_quiet _ _ fun world => ⟨_, rfl, world.quiet_record _ rfl⟩

theorem converses_bind (action : Client ε α) (next : α → Client ε β) (first second : List Json)
    (value : α) (outcome : Except ε β) (early : Converses port engine first (.ok value) action)
    (late : Converses port engine second outcome (next value)) :
    Converses port engine (first ++ second) outcome (action >>= next) := by
  intro world answers
  obtain ⟨ready, behind⟩ := (engine.scripted_append _ _ _).mp answers.scripted
  have sendable := List.forall_mem_append.mp answers.sendable
  obtain ⟨middle, events, done, recorded, said, left, attended⟩ :=
    early world ⟨answers.attended, sendable.1, ready⟩
  obtain ⟨last, more, ended, further, told, rest, still⟩ :=
    late middle ⟨attended, sendable.2, left ▸ behind⟩
  refine ⟨last, events ++ more, ?_, ?_, ?_, ?_, still⟩
  · rw [Outcome.run_bind, done]
    exact ended
  · rw [further, recorded, List.append_assoc]
  · rw [List.filterMap_append, said, told]
  · rw [rest, left, List.drop_drop, List.length_append]

theorem converses_failed_bind (action : Client ε α) (next : α → Client ε β) (commands : List Json)
    (cause : ε) (failed : Converses port engine commands (.error cause) action) :
    Converses port engine commands (.error cause) (action >>= next) := by
  intro world answers
  obtain ⟨last, events, done, rest⟩ := failed world answers
  exact ⟨last, events, by rw [Outcome.run_bind, done], rest⟩

theorem converses_map (action : Client ε α) (change : α → β) (commands : List Json)
    (outcome : Except ε α) (ends : Converses port engine commands outcome action) :
    Converses port engine commands (outcome.map change)
      (action >>= fun value => pure (change value)) := by
  cases outcome with
  | ok value =>
      have both := converses_bind _ (fun value => pure (change value)) _ [] _ _ ends
        (converses_pure (change value))
      rwa [List.append_nil] at both
  | error cause => exact converses_failed_bind _ _ _ _ ends

theorem converses_mapM (port : Nat) (engine : Engine) (good : α → β → Prop)
    (commands : α → List Json) (action : α → Client ε β) (items : List α)
    (each : ∀ item ∈ items, ∃ result,
      Converses port engine (commands item) (.ok result) (action item) ∧ good item result) :
    ∃ results, Converses port engine (items.flatMap commands) (.ok results) (items.mapM action) ∧
      List.Forall₂ good items results := by
  induction items with
  | nil => exact ⟨[], converses_pure [], .nil⟩
  | cons item items ih =>
      obtain ⟨⟨result, first, fits⟩, others⟩ := List.forall_mem_cons.mp each
      obtain ⟨results, rest, all⟩ := ih others
      refine ⟨result :: results, ?_, .cons fits all⟩
      rw [List.mapM_cons, List.flatMap_cons]
      exact converses_bind _ _ _ _ result _ first
        (converses_map _ (fun results => result :: results) _ _ rest)

end Client

namespace Session

theorem ask_of_answers (session : Session) (engine : Engine) (command : Json)
    (commands : List Json) (world : World)
    (answers : world.Answers session.port engine (command :: commands)) :
    ∃ link middle events, session.ask command world = (.ok link, middle) ∧
      middle.trace = world.trace ++ events ∧ events.filterMap Event.command? = [command] ∧
      Framed (engine command) (middle.unread link).bytes ∧
      middle.scripts = world.scripts.drop 1 ∧ middle.Attended session.port := by
  obtain ⟨attended, sendable, scripted⟩ := answers
  obtain ⟨frame, fits⟩ := sendable command List.mem_cons_self
  let opened : World := world.record (.opened world.links.length session.port)
  let dialled : World := { opened with links := world.links ++ [⟨session.port, none⟩] }
  have dials : world.dial session.port = (some world.links.length, dialled) :=
    if_pos (by simpa using attended.listening)
  have lasting := World.lasting_attended session.port
  have between : dialled.Attended session.port := ⟨attended.listening, attended.unclosed⟩
  cases scripts : world.scripts with
  | nil =>
      rw [scripts] at scripted
      exact scripted.elim
  | cons script later =>
      rw [scripts] at scripted
      have last : (dialled.links)[world.links.length]? = some ⟨session.port, none⟩ := by
        simp [dialled]
      have served : dialled.serve = (script, { dialled with
          scripts := later
          listening := dialled.listening.filter fun port => !script.closes.contains port }) := by
        simp only [World.serve, dialled, opened, World.record, scripts]
      have sent : (dialled.send world.links.length (.command command)).links =
            dialled.links.set world.links.length ⟨session.port, some script⟩ ∧
          (dialled.send world.links.length (.command command)).scripts = later := by
        simp only [World.send, last, served, World.record, and_self]
      refine ⟨world.links.length, dialled.send world.links.length (.command command),
        [.opened world.links.length session.port, .sent world.links.length (.command command)],
        ?_, ?_, rfl, ?_, ?_, lasting.send _ _ _ between⟩
      · rw [ask_eq, dials, fits]
      · rw [(dialled.send_shape _ _).1]
        exact List.append_assoc _ _ _
      · rw [World.unread, sent.1]
        simpa [dialled] using scripted.1
      · exact sent.2

theorem converses_ask (session : Session) (engine : Engine) (command : Json)
    (change : EngineError → ε) (next : Nat → Client ε α) (rest : List String)
    (outcome : Except ε α)
    (heard : ∀ link, Link.Hears link (engine command) rest outcome (next link)) :
    Client.Converses session.port engine [command] outcome
      ((ExceptT.adapt change (session.ask command) : Client ε Nat) >>= next) := by
  intro world answers
  obtain ⟨link, middle, events, asked, recorded, said, framed, left, attended⟩ :=
    session.ask_of_answers engine command [] world answers
  obtain ⟨last, ended, quiet, -⟩ := heard link middle framed
  obtain ⟨more, further, silent⟩ := quiet.recorded
  refine ⟨last, events ++ more, ?_, ?_, ?_, quiet.scripts.trans left, quiet.attended _ attended⟩
  · rw [Outcome.run_bind, Client.run_adapt, asked]
    exact ended
  · rw [further, recorded, List.append_assoc]
  · rw [List.filterMap_append, said, silent, List.append_nil]

theorem converses_askExpecting (session : Session) (engine : Engine) (command : Json)
    (token : String) (change : EngineError → ε) (next : Nat → Client ε α)
    (replies rest : List String) (outcome : Except ε α)
    (announced : engine command = token :: replies)
    (heard : ∀ link, Link.Hears link replies rest outcome (next link)) :
    Client.Converses session.port engine [command] outcome
      ((ExceptT.adapt change (session.askExpecting command token) : Client ε Nat) >>= next) := by
  have asking :
      (ExceptT.adapt change (session.askExpecting command token) : Client ε Nat) >>= next =
      (ExceptT.adapt change (session.ask command) : Client ε Nat) >>= fun link =>
        (ExceptT.adapt change (Link.expect link token) : Client ε Unit) >>= fun _ => next link := by
    funext world
    simp only [Outcome.run_bind, Client.run_adapt, askExpecting]
    rcases session.ask command world with ⟨cause | link, middle⟩
    · rfl
    dsimp only [Except.mapError]
    rcases Link.expect link token middle with ⟨cause | ⟨⟩, last⟩
    · rfl
    · rfl
  rw [asking]
  refine session.converses_ask engine command change _ rest outcome fun link => ?_
  rw [announced]
  exact Link.hears_bind _ _ () _ (Link.hears_adapt change _ _ (Link.hears_expect token))
    (heard link)

end Session

end RelationalLearning
