import RelationalLearning.Engine.Issue
import RelationalLearning.Engine.World
import RelationalLearning.Json.Printer
import RelationalLearning.Text.Blank

/-!
Talking to the engine. Every command opens a connection of its own, sends one document, and reads
the replies that belong to it.
-/

namespace RelationalLearning

structure Session where
  host : String := "localhost"
  port : Nat := 1708
  monitorPort : Nat := 1711
  /-- In seconds. -/
  timeout : Option Nat := none
  deriving DecidableEq, Repr

def success : String := "Success!"

def found : String := "Found!"

namespace Link

def sendText (link : Nat) (content : String) : Client EngineError Unit := do
  let _ ← Client.ofExcept (Frame.ofText content)
  modify (World.send link (.text content))

def sendJson (link : Nat) (document : Json) : Client EngineError Unit := do
  let _ ← Client.ofExcept (Frame.ofText document.write)
  modify (World.send link (.command document))

def sendTable (link : Nat) (table : Arrow.Table) : Client EngineError Unit :=
  modify (World.send link (.table table))

def read {α : Type} (link : Nat) (reader : Reader α) : Client EngineError α :=
  fun world => World.read link reader world

def receive (link : Nat) : Client EngineError String := do
  let reply ← read link Frame.text
  modify (World.record (.received link reply))
  return reply

/-- Reads what is no text. -/
def collect {α : Type} (link : Nat) (reader : Reader α) (delivery : α → Delivery) :
    Client EngineError α := do
  let content ← read link reader
  modify (World.record (.delivered link (delivery content)))
  return content

def receiveBytes (link : Nat) : Client EngineError Text.Bytes := collect link Frame.byteString .bytes

def receiveColumn (link : Nat) : Client EngineError (List String) := collect link Frame.textColumn .column

def receiveMatrix (link : Nat) : Client EngineError Matrix := collect link Frame.matrix .matrix

/-- A reply that is an object; any other reply is a failure in the engine's own words. -/
def receiveJson (link : Nat) : Client EngineError Json := do
  let reply ← receive link
  if Text.startsWith reply "\x7b" then
    match Json.parse? reply with
    | some document => return document
    | none => throw .json
  else throw (.refused reply)

def receiveIssues (link : Nat) : Client EngineError Issues := do
  let reply ← receive link
  Client.ofExcept (Issues.parse reply)

def expect (link : Nat) (token : String) : Client EngineError Unit := do
  let reply ← receive link
  if reply = token then return else throw (.refused reply)

def expectSuccess (link : Nat) : Client EngineError Unit := expect link success

def expectFound (link : Nat) : Client EngineError Unit := expect link found

/-- The percentage of a line `… Progress: N% …`. -/
def progressOf? (line : String) : Option Nat := do
  let (_, rest) ← Text.cut? "Progress: " line
  let (number, _) ← Text.cut? "%" rest
  Decimal.readWord? 32 (Text.trim number)

def logMark : String := "log: "

/-- Passes lines on to the log until another reply comes; a percentage right after itself is not repeated. -/
def followLog (link : Nat) : Nat → Option Nat → Client EngineError String
  | 0, _ => throw .endOfStream
  | fuel + 1, last => do
    let reply ← receive link
    match Text.after? logMark reply with
    | none => return reply
    | some line =>
      match progressOf? line with
      | some percent =>
        if last = some percent then followLog link fuel last
        else do
          Client.logProgress .debug s!"{percent}%"
          followLog link fuel (some percent)
      | none => do
        Client.logProgress .info line
        followLog link fuel none

/-- Logs the lines that the engine streams, and returns the first reply that is none. -/
def logLoop (link : Nat) : Client EngineError String := do
  followLog link ((← get).unread link |>.bytes.length.succ) none

end Link

namespace Session

def withPort (session : Session) (port : Nat) : Session := { session with port }

def dial (session : Session) (port : Nat) : Client EngineError Nat := do
  let world ← get
  match world.dial port with
  | (some link, world) => do
    set world
    return link
  | (none, _) => throw (.unreachable s!"{session.host}:{port}")

def ask (session : Session) (command : Json) : Client EngineError Nat := do
  let link ← session.dial session.port
  Link.sendJson link command
  return link

def askExpecting (session : Session) (command : Json) (token : String) : Client EngineError Nat := do
  let link ← session.ask command
  Link.expect link token
  return link

def send (session : Session) (command : Json) : Client EngineError Unit := do
  let _ ← session.askExpecting command success

def askMonitor (session : Session) (kind : String) (body : Json) : Client EngineError Nat := do
  let link ← session.dial session.monitorPort
  Link.sendJson link (.record [("type_", .string kind), ("body_", body)])
  return link

def command (kind name : String) (fields : List (String × Json)) : Json :=
  .record (("type_", .string kind) :: ("name_", .string name) :: fields)

def canDial (session : Session) (port : Nat) : Client EngineError Bool := do
  tryCatch (do let _ ← session.dial port; return true) fun _ => return false

def isAlive (session : Session) : Client EngineError Bool := session.canDial session.port

def isMonitorAlive (session : Session) : Client EngineError Bool := session.canDial session.monitorPort

def projectName (session : Session) : Client EngineError String := do
  Link.receive (← session.ask (command "project_name" "" []))

def monitorUrl (session : Session) : Client EngineError (Option String) := do
  let url ← Link.receive (← session.ask (command "monitor_url" "" []))
  return if url.isEmpty then none else some url

end Session
end RelationalLearning
