import RelationalLearning.Proofs.Engine.Exchange
import RelationalLearning.Table.View

namespace RelationalLearning

variable {ε ε' α β : Type}

structure World.Lasting (kept : World → Prop) : Prop where
  record : ∀ event world, kept world → kept (world.record event)
  dial : ∀ port world, kept world → kept (world.dial port).2
  send : ∀ link message world, kept world → kept (world.send link message)
  read : ∀ {α : Type} link (reader : Reader α) world, kept world → kept (world.read link reader).2

namespace Client

def Keeps (kept : World → Prop) (action : Client ε α) : Prop :=
  ∀ world, kept world → kept (action world).2

variable {kept : World → Prop}

theorem keeps_pure (value : α) : Keeps kept (pure value : Client ε α) := fun _ before => before

theorem keeps_throw (cause : ε) : Keeps kept (throw cause : Client ε α) := fun _ before => before

theorem keeps_ofExcept (outcome : Except ε α) : Keeps kept (ofExcept outcome) :=
  fun _ before => before

theorem keeps_bind (action : Client ε α) (next : α → Client ε β) (first : Keeps kept action)
    (second : ∀ value, Keeps kept (next value)) : Keeps kept (action >>= next) := by
  intro world before
  have between := first world before
  rw [Outcome.run_bind]
  generalize action world = reached at between
  obtain ⟨outcome, middle⟩ := reached
  cases outcome with
  | ok value => exact second value middle between
  | error cause => exact between

theorem keeps_adapt (change : ε → ε') (action : Client ε α) (same : Keeps kept action) :
    Keeps kept (ExceptT.adapt change action : Client ε' α) := same

theorem keeps_forIn (items : List α) (step : α → Unit → Client ε (ForInStep Unit))
    (each : ∀ item, Keeps kept (step item ())) : Keeps kept (forIn items () step) := by
  induction items with
  | nil => exact keeps_pure ()
  | cons item items ih =>
      rw [List.forIn_cons]
      refine keeps_bind _ _ (each item) fun next => ?_
      cases next with
      | done _ => exact keeps_pure ()
      | yield _ => exact ih

variable (lasting : World.Lasting kept)

include lasting

theorem keeps_record (event : Event) :
    Keeps kept (modify (World.record event) : Client ε Unit) := lasting.record event

theorem keeps_log (level : Level) (text : String) : Keeps kept (log level text : Client ε Unit) :=
  keeps_record lasting _

theorem keeps_logProgress (level : Level) (text : String) :
    Keeps kept (logProgress level text : Client ε Unit) := keeps_record lasting _

end Client

section

open Client

variable {kept : World → Prop} (lasting : World.Lasting kept)

include lasting

namespace Link

theorem keeps_receive (link : Nat) : Keeps kept (receive link) :=
  keeps_bind _ _ (lasting.read link Frame.text) fun reply =>
    keeps_bind _ _ (keeps_record lasting _) fun _ => keeps_pure reply

theorem keeps_sendJson (link : Nat) (document : Json) : Keeps kept (sendJson link document) :=
  keeps_bind _ _ (keeps_ofExcept _) fun _ => lasting.send link (.command document)

theorem keeps_expect (link : Nat) (token : String) : Keeps kept (expect link token) := by
  refine keeps_bind _ _ (keeps_receive lasting link) fun reply => ?_
  split
  next => exact keeps_pure _
  next => exact keeps_throw _

theorem keeps_receiveIssues (link : Nat) : Keeps kept (receiveIssues link) :=
  keeps_bind _ _ (keeps_receive lasting link) fun _ => keeps_ofExcept _

theorem keeps_followLog (link fuel : Nat) (last : Option Nat) :
    Keeps kept (followLog link fuel last) := by
  induction fuel generalizing last with
  | zero => exact keeps_throw _
  | succ fuel ih =>
      rw [followLog]
      refine keeps_bind _ _ (keeps_receive lasting link) fun reply => ?_
      split
      next => exact keeps_pure _
      next line _ =>
        split
        next percent _ =>
          split
          next => exact ih last
          next => exact keeps_bind _ _ (keeps_logProgress lasting _ _) fun _ => ih _
        next => exact keeps_bind _ _ (keeps_logProgress lasting _ _) fun _ => ih _

theorem keeps_logLoop (link : Nat) : Keeps kept (logLoop link) :=
  fun world before => keeps_followLog lasting link _ none world before

end Link

namespace Session

theorem keeps_dial (session : Session) (port : Nat) : Keeps kept (session.dial port) := by
  intro world before
  have after := lasting.dial port world before
  rw [dial_eq]
  generalize world.dial port = reached at after
  rcases reached with ⟨_ | link, last⟩
  · exact before
  · exact after

theorem keeps_ask (session : Session) (command : Json) : Keeps kept (session.ask command) :=
  keeps_bind _ _ (keeps_dial lasting session _) fun link =>
    keeps_bind _ _ (Link.keeps_sendJson lasting link command) fun _ => keeps_pure link

theorem keeps_askExpecting (session : Session) (command : Json) (token : String) :
    Keeps kept (session.askExpecting command token) :=
  keeps_bind _ _ (keeps_ask lasting session command) fun link =>
    keeps_bind _ _ (Link.keeps_expect lasting link token) fun _ => keeps_pure link

theorem keeps_send (session : Session) (command : Json) : Keeps kept (session.send command) :=
  keeps_bind _ _ (keeps_askExpecting lasting session command success) fun _ => keeps_pure ()

end Session

theorem DataFrame.keeps_askLastChange (session : Session) (frame : DataFrame) :
    Keeps kept (frame.askLastChange session) :=
  keeps_bind _ _ (keeps_adapt _ _ (session.keeps_ask lasting _)) fun link =>
    keeps_bind _ _ (keeps_adapt _ _ (Link.keeps_expect lasting link _)) fun _ =>
      keeps_adapt _ _ (Link.keeps_receive lasting link)

theorem View.keeps_check (session : Session) (view : View) : Keeps kept (view.check session) := by
  refine keeps_bind _ _ (DataFrame.keeps_askLastChange lasting session _) fun change => ?_
  split
  next => exact keeps_pure _
  next => exact keeps_bind _ _ (keeps_log lasting _ _) fun _ => keeps_pure _

theorem Table.keeps_check (session : Session) (table : Table) :
    Keeps kept (table.check session) := by
  cases table with
  | frame data => exact keeps_pure _
  | view base layer => exact View.keeps_check lasting session ⟨base, layer⟩

end

namespace World

variable {port : Nat} {world : World}

/-- Somebody listens on the port, and no reply to come closes it. -/
structure Attended (port : Nat) (world : World) : Prop where
  listening : port ∈ world.listening
  unclosed : ∀ script ∈ world.scripts, port ∉ script.closes

theorem Attended.serve (attended : world.Attended port) : world.serve.2.Attended port := by
  obtain ⟨listening, unclosed⟩ := attended
  unfold World.serve
  split
  next => exact ⟨listening, unclosed⟩
  next script rest told =>
    rw [told] at unclosed
    refine ⟨?_, fun other member => unclosed other (List.mem_cons_of_mem _ member)⟩
    simpa using ⟨listening, unclosed script (by simp)⟩

theorem lasting_attended (port : Nat) : Lasting (Attended port) where
  record := fun _ _ attended => ⟨attended.listening, attended.unclosed⟩
  dial := by
    intro other world attended
    unfold dial
    split
    next => exact ⟨attended.listening, attended.unclosed⟩
    next => exact attended
  send := by
    intro link message world attended
    unfold send
    dsimp only
    split
    next other found =>
      have served := attended.serve
      exact ⟨served.listening, served.unclosed⟩
    next => exact ⟨attended.listening, attended.unclosed⟩
  read := fun _ _ _ attended => ⟨attended.listening, attended.unclosed⟩

theorem dial_of_listening (listening : port ∈ world.listening) :
    ∃ middle, world.dial port = (some world.links.length, middle) :=
  ⟨_, if_pos (by simpa using listening)⟩

theorem dial_of_silent (silent : port ∉ world.listening) : world.dial port = (none, world) :=
  if_neg (by simpa using silent)

end World

namespace Session

theorem sendable_of_send (session : Session) (command : Json) (world last : World)
    (done : session.send command world = (.ok (), last)) :
    session.port ∈ world.listening ∧ ∃ frame, Frame.ofText command.write = .ok frame := by
  simp only [send, askExpecting, Client.bind_eq_ok] at done
  obtain ⟨_, _, ⟨_, _, asked, -⟩, -⟩ := done
  rw [ask_eq] at asked
  by_cases listening : session.port ∈ world.listening
  · refine ⟨listening, ?_⟩
    obtain ⟨middle, dialled⟩ := World.dial_of_listening listening
    rw [dialled] at asked
    cases fits : Frame.ofText command.write with
    | ok frame => exact ⟨frame, rfl⟩
    | error cause =>
        rw [fits] at asked
        cases asked
  · rw [World.dial_of_silent listening] at asked
    cases asked

/-- Where somebody listens, a command that fits is sent, whatever comes back. -/
theorem send_of_listening (session : Session) (command : Json) (frame : Text.Bytes) (world : World)
    (listening : session.port ∈ world.listening) (fits : Frame.ofText command.write = .ok frame) :
    ∃ outcome replies last, session.send command world = (outcome, last) ∧
      session.Exchange command replies world last ∧ (outcome = .ok () → replies = [success]) := by
  obtain ⟨middle, dialled⟩ := World.dial_of_listening listening
  obtain ⟨-, said⟩ := session.exchange_of_dial command world middle _ dialled
  have asked : session.ask command world =
      (.ok world.links.length, middle.send world.links.length (.command command)) := by
    rw [ask_eq, dialled, fits]
  obtain ⟨outcome, replies, last, done, exchange, told⟩ :=
    session.askExpecting_of_ask command success world _ asked said
  rw [send, Outcome.run_bind, done]
  rcases told with ⟨rfl, rfl⟩ | ⟨⟨cause, rfl⟩, -⟩
  · exact ⟨.ok (), _, last, rfl, exchange, fun _ => rfl⟩
  · refine ⟨.error cause, replies, last, rfl, exchange, ?_⟩
    rintro ⟨⟩

theorem send_of_silent (session : Session) (command : Json) (world : World)
    (silent : session.port ∉ world.listening) :
    ∃ cause, session.send command world = (.error cause, world) := by
  rw [send, Outcome.run_bind, askExpecting, Outcome.run_bind, ask_eq, World.dial_of_silent silent]
  exact ⟨_, rfl⟩

end Session

end RelationalLearning
