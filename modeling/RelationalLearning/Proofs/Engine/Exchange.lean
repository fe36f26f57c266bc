import RelationalLearning.Proofs.Engine.Conversation
import RelationalLearning.Proofs.Engine.Commands
import RelationalLearning.Proofs.Text.Pieces

namespace RelationalLearning

namespace Link

structure Heard (link : Nat) (replies : List String) (before after : World) : Prop where
  recorded : after.trace = before.trace ++ replies.map (.received link)
  links : after.links.length = before.links.length
  names : after.names = before.names

theorem receive_cases (link : Nat) (world : World) :
    (∃ cause last, receive link world = (.error cause, last) ∧ Heard link [] world last) ∨
    ∃ reply last, receive link world = (.ok reply, last) ∧ Heard link [reply] world last := by
  have unfolded : receive link world = (read link Frame.text >>= fun reply => do
      modify (World.record (.received link reply))
      return reply) world := rfl
  obtain ⟨recorded, links, names⟩ := world.read_shape link Frame.text
  rw [unfolded, Outcome.run_bind, read]
  generalize world.read link Frame.text = reached at recorded links names
  rcases reached with ⟨cause | reply, last⟩
  · exact .inl ⟨cause, last, rfl, recorded.trans (List.append_nil _).symm, links, names⟩
  · refine .inr ⟨reply, _, rfl, ?_, links, names⟩
    exact congrArg (· ++ [Event.received link reply]) recorded

theorem startsWith_eq (text start : String) :
    Text.startsWith text start = (Text.after? start text).isSome := by
  simp [Text.startsWith, Text.after?]

theorem receive_eq_ok (link : Nat) (world last : World) (reply : String)
    (done : receive link world = (.ok reply, last)) : Heard link [reply] world last := by
  rcases receive_cases link world with ⟨cause, later, failed, -⟩ | ⟨other, later, received, heard⟩
  · rw [failed] at done
    cases done
  · rw [received] at done
    cases done
    exact heard

theorem expect_eq_ok (link : Nat) (token : String) (world last : World)
    (done : expect link token world = (.ok (), last)) : Heard link [token] world last := by
  rw [expect, Outcome.run_bind] at done
  rcases receive_cases link world with ⟨cause, later, failed, -⟩ | ⟨reply, later, received, heard⟩
  · rw [failed] at done
    cases done
  · rw [received] at done
    dsimp only at done
    split at done
    next same =>
      cases done
      exact same ▸ heard
    next => cases done

/-- What a line adds to the log; `before` is the percentage of the line right before it. -/
def record? (before : Option Nat) (line : String) : Option LogRecord :=
  match progressOf? line with
  | none => some ⟨.info, true, line⟩
  | some percent => if before = some percent then none else some ⟨.debug, true, s!"{percent}%"⟩

theorem followLog_line (link : Nat) (before : Option Nat) (line : String) (world middle : World)
    (received : receive link world = (.ok (logMark ++ line), middle)) :
    ∃ next, (∀ fuel, followLog link (fuel + 1) before world =
        followLog link fuel (progressOf? line) next) ∧
      next.unread link = middle.unread link ∧
      next.trace = middle.trace ++ (record? before line).toList.map .logged := by
  have marked := Text.after?_append logMark line
  unfold record?
  cases told : progressOf? line with
  | none =>
      refine ⟨middle.record (.logged ⟨.info, true, line⟩), fun fuel => ?_, rfl, rfl⟩
      rw [followLog, Outcome.run_bind, received]
      simp only [marked, told]
      rfl
  | some percent =>
      by_cases same : before = some percent
      · subst same
        refine ⟨middle, fun fuel => ?_, rfl, by simp⟩
        rw [followLog, Outcome.run_bind, received]
        simp only [marked, told, if_pos]
      · refine ⟨middle.record (.logged ⟨.debug, true, s!"{percent}%"⟩), fun fuel => ?_, rfl, ?_⟩
        · rw [followLog, Outcome.run_bind, received]
          simp only [marked, told, if_neg same]
          rfl
        · dsimp only
          rw [if_neg same]
          rfl

theorem repliesTo_logged (link : Nat) (record : Option LogRecord) (events : List Event) :
    repliesTo link (record.toList.map .logged ++ events) = repliesTo link events := by
  cases record <;> rfl

/-- The reply that ends a log stands behind its lines, and none of the lines could have ended it. -/
theorem followLog_eq_ok (link fuel : Nat) (last : Option Nat) (world later : World) (reply : String)
    (done : followLog link fuel last world = (.ok reply, later)) :
    ∃ events lines, later.trace = world.trace ++ events ∧
      (∀ more, repliesTo link (events ++ more) = lines ++ reply :: repliesTo link more) ∧
      (∀ line ∈ lines, Text.startsWith line logMark = true) ∧
      Text.startsWith reply logMark = false := by
  induction fuel generalizing last world with
  | zero => cases done
  | succ fuel ih =>
      have ran := done
      rw [followLog, Client.bind_eq_ok] at done
      obtain ⟨first, middle, received, rest⟩ := done
      have heard := (receive_eq_ok link world middle first received).recorded
      cases marked : Text.after? logMark first with
      | none =>
          rw [marked] at rest
          obtain ⟨rfl, rfl⟩ := (Client.pure_eq_ok _ _ _ _).mp rest
          refine ⟨[.received link first], [], heard, ?_, by simp, ?_⟩
          · intro more
            simp [repliesTo]
          · rw [startsWith_eq, marked]
            rfl
      | some line =>
          obtain rfl := (Text.after?_eq_some logMark first line).mp marked
          obtain ⟨next, goes, -, logged⟩ := followLog_line link last line world middle received
          rw [goes] at ran
          obtain ⟨events, lines, recorded, replies, marks, ends⟩ := ih (progressOf? line) next ran
          refine ⟨.received link (logMark ++ line) ::
            (record? last line).toList.map .logged ++ events, (logMark ++ line) :: lines,
            ?_, ?_, ?_, ends⟩
          · rw [recorded, logged, heard]
            simp
          · intro more
            rw [List.append_assoc, List.cons_append, repliesTo, if_pos rfl, repliesTo_logged, replies]
            rfl
          · intro other member
            rcases List.mem_cons.mp member with rfl | behind
            · rw [startsWith_eq, marked]
              rfl
            · exact marks other behind

end Link

namespace Session

def exchanged (link port : Nat) (command : Json) (replies : List String) : List Event :=
  .opened link port :: .sent link (.command command) :: replies.map (.received link)

structure Exchange (session : Session) (command : Json) (replies : List String)
    (before after : World) : Prop where
  recorded : after.trace =
    before.trace ++ exchanged before.links.length session.port command replies
  links : after.links.length = before.links.length + 1
  names : after.names = before.names

theorem sent_in_exchange (link port other : Nat) (command : Json) (message : Message)
    (replies : List String) (earlier later : List Event)
    (same : exchanged link port command replies = earlier ++ .sent other message :: later) :
    other = link ∧ message = .command command ∧ repliesTo link later = replies := by
  rw [exchanged] at same
  match earlier with
  | [] => cases same
  | [first] =>
      obtain ⟨-, ⟨rfl, rfl⟩, rfl⟩ : .opened link port = first ∧
          (link = other ∧ .command command = message) ∧
            replies.map (.received link) = later := by simpa using same
      exact ⟨rfl, rfl, repliesTo_received _ replies⟩
  | first :: second :: rest =>
      obtain ⟨-, -, behind⟩ : .opened link port = first ∧ .sent link (.command command) = second ∧
          replies.map (.received link) = rest ++ .sent other message :: later := by
        simpa using same
      have member : .sent other message ∈ replies.map (Event.received link) := by simp [behind]
      simp at member

theorem answered_exchanged (link port : Nat) (command : Json) (kind name : String)
    (replies : List String) (good : List String → Prop)
    (of_kind : command.field? "type_" = some (.string kind))
    (of_name : command.field? "name_" = some (.string name)) (fine : good replies) :
    Answered kind name good (exchanged link port command replies) :=
  ⟨[.opened link port], link, command, _, rfl, of_kind, of_name,
    (repliesTo_received link replies).symm ▸ fine⟩

theorem answered_command (link port : Nat) (kind name : String) (fields : List (String × Json))
    (replies : List String) (good : List String → Prop)
    (free : ∀ field ∈ fields, field.1 ≠ "type_" ∧ field.1 ≠ "name_") (fine : good replies) :
    Answered kind name good (exchanged link port (command kind name fields) replies) :=
  answered_exchanged link port _ kind name replies good
    (kind_command kind name fields fun field member => (free field member).1)
    (name_command kind name fields fun field member => (free field member).2) fine

theorem received_in_exchange (link port other : Nat) (command : Json) (replies : List String)
    (reply : String) (member : .received other reply ∈ exchanged link port command replies) :
    other = link := by
  obtain ⟨-, same⟩ : reply ∈ replies ∧ link = other := by simpa [exchanged] using member
  exact same.symm

theorem Exchange.heard {session : Session} {command : Json} {replies more : List String}
    {before middle after : World} (exchange : session.Exchange command replies before middle)
    (heard : Link.Heard before.links.length more middle after) :
    session.Exchange command (replies ++ more) before after := by
  refine ⟨?_, heard.links.trans exchange.links, heard.names.trans exchange.names⟩
  rw [heard.recorded, exchange.recorded]
  simp [exchanged]

theorem ask_eq (session : Session) (command : Json) (world : World) :
    session.ask command world =
      match world.dial session.port with
      | (none, _) => (.error (.unreachable s!"{session.host}:{session.port}"), world)
      | (some link, middle) =>
        match Frame.ofText command.write with
        | .ok _ => (.ok link, middle.send link (.command command))
        | .error cause => (.error cause, middle) := by
  rw [ask, Outcome.run_bind, dial_eq]
  rcases world.dial session.port with ⟨_ | link, middle⟩
  · rfl
  have sending : Link.sendJson link command middle =
      match Frame.ofText command.write with
      | .ok _ => (.ok (), middle.send link (.command command))
      | .error cause => (.error cause, middle) := by
    rw [Link.sendJson]
    cases Frame.ofText command.write with
    | ok frame => rfl
    | error cause => rfl
  dsimp only
  rw [Outcome.run_bind, sending]
  cases Frame.ofText command.write with
  | ok frame => rfl
  | error cause => rfl

theorem exchange_of_dial (session : Session) (command : Json) (world middle : World) (link : Nat)
    (dialled : world.dial session.port = (some link, middle)) :
    link = world.links.length ∧
      session.Exchange command [] world (middle.send link (.command command)) := by
  obtain ⟨rfl, recorded, links, names⟩ := world.dial_shape session.port middle link dialled
  obtain ⟨sent, kept, same⟩ := middle.send_shape world.links.length (.command command)
  refine ⟨rfl, ?_, kept.trans links, same.trans names⟩
  rw [sent, recorded, List.append_assoc]
  rfl

/-- Without a connection, or with a command that is too long, nothing is sent. -/
theorem ask_cases (session : Session) (base : Nat) (command : Json) (world : World) :
    (∃ cause last, session.ask command world = (.error cause, last) ∧
      world.Grows base (fun _ => False) last) ∨
    ∃ last, session.ask command world = (.ok world.links.length, last) ∧
      session.Exchange command [] world last := by
  rw [ask_eq]
  rcases dialled : world.dial session.port with ⟨_ | link, middle⟩
  · exact .inl ⟨_, _, rfl, .refl world⟩
  obtain ⟨rfl, said⟩ := session.exchange_of_dial command world middle link dialled
  obtain ⟨-, recorded, links, names⟩ := world.dial_shape session.port middle _ dialled
  dsimp only
  cases Frame.ofText command.write with
  | error cause =>
      have opened : world.Grows base (fun _ => False) middle :=
        World.grows_record world middle _ (by omega) names.symm recorded trivial
      exact .inl ⟨cause, middle, rfl, opened⟩
  | ok frame => exact .inr ⟨_, rfl, said⟩

theorem askExpecting_of_ask (session : Session) (command : Json) (token : String)
    (world middle : World) (asked : session.ask command world = (.ok world.links.length, middle))
    (said : session.Exchange command [] world middle) :
    ∃ outcome replies last, session.askExpecting command token world = (outcome, last) ∧
      session.Exchange command replies world last ∧
      (outcome = .ok world.links.length ∧ replies = [token] ∨
        (∃ cause, outcome = .error cause) ∧ replies.head? ≠ some token) := by
  rw [askExpecting, Outcome.run_bind, asked]
  dsimp only
  rw [Outcome.run_bind, Link.expect, Outcome.run_bind]
  rcases Link.receive_cases world.links.length middle with
    ⟨cause, last, failed, same⟩ | ⟨reply, last, received, same⟩
  · rw [failed]
    exact ⟨.error cause, [], last, rfl, said.heard same, .inr ⟨⟨cause, rfl⟩, by simp⟩⟩
  rw [received]
  by_cases expected : reply = token
  · refine ⟨.ok _, [reply], last, ?_, said.heard same, .inl ⟨rfl, by rw [expected]⟩⟩
    dsimp only
    rw [if_pos expected]
    rfl
  · refine ⟨.error (.refused reply), [reply], last, ?_, said.heard same,
      .inr ⟨⟨_, rfl⟩, by simpa using expected⟩⟩
    dsimp only
    rw [if_neg expected]
    rfl

theorem askExpecting_cases (session : Session) (base : Nat) (command : Json) (token : String)
    (world : World) :
    (∃ cause last, session.askExpecting command token world = (.error cause, last) ∧
      world.Grows base (fun _ => False) last) ∨
    ∃ outcome replies last, session.askExpecting command token world = (outcome, last) ∧
      session.Exchange command replies world last ∧
      (outcome = .ok world.links.length ∧ replies = [token] ∨
        (∃ cause, outcome = .error cause) ∧ replies.head? ≠ some token) := by
  rcases session.ask_cases base command world with
    ⟨cause, last, failed, quiet⟩ | ⟨middle, asked, said⟩
  · rw [askExpecting, Outcome.run_bind, failed]
    exact .inl ⟨cause, last, rfl, quiet⟩
  · exact .inr (session.askExpecting_of_ask command token world middle asked said)

theorem send_cases (session : Session) (base : Nat) (command : Json) (world : World) :
    (∃ last, session.send command world = (.ok (), last) ∧
      session.Exchange command [success] world last) ∨
    ∃ cause last, session.send command world = (.error cause, last) ∧
      (world.Grows base (fun _ => False) last ∨
        ∃ replies, session.Exchange command replies world last ∧ replies.head? ≠ some success) := by
  rw [send, Outcome.run_bind]
  rcases session.askExpecting_cases base command success world with
    ⟨cause, last, failed, quiet⟩ | ⟨outcome, replies, last, asked, exchange, told⟩
  · rw [failed]
    exact .inr ⟨cause, last, rfl, .inl quiet⟩
  rw [asked]
  rcases told with ⟨rfl, rfl⟩ | ⟨⟨cause, rfl⟩, other⟩
  · exact .inl ⟨last, rfl, exchange⟩
  · exact .inr ⟨cause, last, rfl, .inr ⟨replies, exchange, other⟩⟩

theorem ask_eq_ok (session : Session) (command : Json) (world last : World) (link : Nat)
    (done : session.ask command world = (.ok link, last)) :
    link = world.links.length ∧ session.Exchange command [] world last := by
  rcases session.ask_cases 0 command world with ⟨cause, later, failed, -⟩ | ⟨later, asked, said⟩
  · rw [failed] at done
    cases done
  · rw [asked] at done
    cases done
    exact ⟨rfl, said⟩

theorem askExpecting_eq_ok (session : Session) (command : Json) (token : String)
    (world last : World) (link : Nat)
    (done : session.askExpecting command token world = (.ok link, last)) :
    link = world.links.length ∧ session.Exchange command [token] world last := by
  rcases session.askExpecting_cases 0 command token world with
    ⟨cause, later, failed, -⟩ | ⟨outcome, replies, later, asked, exchange, told⟩
  · rw [failed] at done
    cases done
  · rw [asked] at done
    obtain ⟨rfl, rfl⟩ := Prod.mk.inj done
    rcases told with ⟨same, rfl⟩ | ⟨⟨cause, other⟩, -⟩
    · exact ⟨Except.ok.inj same, exchange⟩
    · cases other

theorem send_eq_ok (session : Session) (command : Json) (world last : World) (result : Unit)
    (done : session.send command world = (.ok result, last)) :
    session.Exchange command [success] world last := by
  rcases session.send_cases 0 command world with
    ⟨later, sent, exchange⟩ | ⟨cause, later, failed, -⟩
  · rw [sent] at done
    cases done
    exact exchange
  · rw [failed] at done
    cases done

/-- A command whose log was followed to its end was answered by the lines of the log and the end. -/
theorem follow_eq_ok (session : Session) (command : Json) (token reply : String)
    (world last : World)
    (done : (session.askExpecting command token >>= Link.logLoop) world = (.ok reply, last)) :
    ∃ port later lines, last.trace = world.trace ++
        .opened world.links.length port :: .sent world.links.length (.command command) :: later ∧
      repliesTo world.links.length later = token :: lines ++ [reply] ∧
      (∀ line ∈ lines, Text.startsWith line Link.logMark = true) ∧
      Text.startsWith reply Link.logMark = false ∧ world.names ≤ last.names := by
  rw [Client.bind_eq_ok] at done
  obtain ⟨link, middle, asked, follows⟩ := done
  obtain ⟨rfl, exchange⟩ := session.askExpecting_eq_ok command token world middle link asked
  obtain ⟨events, lines, recorded, replies, marks, ends⟩ :=
    Link.followLog_eq_ok _ _ none middle last reply follows
  have logs : Client.Emits 0 (fun _ => True) (fun _ => True) (Link.logLoop world.links.length) :=
    Link.emits_logLoop _ (Nat.zero_le _)
  obtain ⟨grows, -⟩ := logs.ran (Nat.zero_le _) follows
  refine ⟨session.port, .received world.links.length token :: events, lines, ?_, ?_, marks, ends,
    exchange.names ▸ grows.names⟩
  · rw [recorded, exchange.recorded]
    simp [exchanged]
  · have replies := replies []
    rw [List.append_nil] at replies
    rw [repliesTo, if_pos rfl, replies]
    rfl

end Session

end RelationalLearning
