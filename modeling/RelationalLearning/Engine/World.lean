import RelationalLearning.Arrow.Table
import RelationalLearning.Engine.Frame
import RelationalLearning.Json.Basic

/-!
What lies outside the client: what the engine and its monitor will answer, the connections made so
far, the local files, and the record of all that was sent, received and logged. An operation of the
client is a function on this state, so that a run can be replayed and reasoned about.
-/

namespace RelationalLearning

open Text (Bytes)

inductive Level where
  | debug | info | warn | error
  deriving DecidableEq, Repr

def Level.name : Level → String
  | .debug => "debug"
  | .info => "info"
  | .warn => "warn"
  | .error => "error"

structure LogRecord where
  level : Level
  progress : Bool
  text : String
  deriving DecidableEq, Repr

inductive Message where
  | command (document : Json)
  | text (content : String)
  | table (content : Arrow.Table)
  deriving Repr, BEq

/-- What the client reads off a connection that is no text. -/
inductive Delivery where
  | bytes (content : Bytes)
  | column (entries : List String)
  | matrix (content : Matrix)
  | table (content : Arrow.Table)
  deriving Repr, BEq

inductive Event where
  | opened (link : Nat) (port : Nat)
  | sent (link : Nat) (message : Message)
  | received (link : Nat) (reply : String)
  | delivered (link : Nat) (delivery : Delivery)
  | logged (record : LogRecord)
  deriving Repr, BEq

/-- All that one connection answers; `last` when no more will come, and the ports that close once it is served. -/
structure Replies where
  bytes : Bytes
  last : Bool
  closes : List Nat
  deriving Repr, BEq

/-- An open connection. It has no replies before the first message is sent. -/
structure Link where
  port : Nat
  incoming : Option Replies
  deriving Repr, BEq

structure World where
  listening : List Nat := []
  /-- The replies of the connections to come, in the order of their first messages. -/
  scripts : List Replies := []
  /-- Whether `scripts` is all that will ever be answered. -/
  complete : Bool := true
  links : List Link := []
  trace : List Event := []
  /-- The connection on which a reader first ran out of replies that are still to come, and how long
  the trace was then. -/
  starved : Option (Nat × Nat) := none
  names : Nat := 0
  files : List (String × Bytes) := []
  folders : List String := ["/"]
  directory : String := "."
  deriving Repr

abbrev Client (ε : Type) := ExceptT ε (StateM World)

instance : MonadLift (Client EngineError) (Client DataError) :=
  ⟨fun action => ExceptT.adapt DataError.engine action⟩

instance (priority := low) : MonadLift (Client DataError) (Client PipelineError) :=
  ⟨fun action => ExceptT.adapt PipelineError.data action⟩

instance : MonadLift (Client EngineError) (Client PipelineError) :=
  ⟨fun action => ExceptT.adapt PipelineError.engine action⟩

namespace World

def record (event : Event) (world : World) : World := { world with trace := world.trace ++ [event] }

def dial (port : Nat) (world : World) : Option Nat × World :=
  if world.listening.contains port then
    let link := world.links.length
    (some link, record (.opened link port) { world with links := world.links ++ [⟨port, none⟩] })
  else (none, world)

def serve (world : World) : Replies × World :=
  match world.scripts with
  | [] => (⟨[], world.complete, []⟩, world)
  | script :: rest =>
    (script, { world with
      scripts := rest
      listening := world.listening.filter fun port => !script.closes.contains port })

/-- Sends a message; the first one on a connection settles what the connection answers. -/
def send (link : Nat) (message : Message) (world : World) : World :=
  let world :=
    match world.links[link]? with
    | some ⟨port, none⟩ =>
      let (script, served) := world.serve
      { served with links := served.links.set link ⟨port, some script⟩ }
    | _ => world
  world.record (.sent link message)

def unread (link : Nat) (world : World) : Replies :=
  match world.links[link]? with
  | some ⟨_, some replies⟩ => replies
  | _ => ⟨[], true, []⟩

/-- Whether a failed reader might have succeeded on a longer reply. -/
def wantsMore : EngineError → Bool
  | .io _ => true
  | .protocol breach => Text.startsWith breach "The engine closed the connection after "
  | _ => false

def read {α : Type} (link : Nat) (reader : Reader α) (world : World) : Except EngineError α × World :=
  let replies := world.unread link
  let (result, rest) := reader.run.run replies.bytes
  let starved :=
    match result, world.starved with
    | .error cause, none => if !replies.last && wantsMore cause then some (link, world.trace.length) else none
    | _, earlier => earlier
  let links :=
    match world.links[link]? with
    | some ⟨port, some replies⟩ => world.links.set link ⟨port, some { replies with bytes := rest }⟩
    | _ => world.links
  (result, { world with links, starved })

def steps (path : String) : List String :=
  ((Text.splitOn path "/").foldl (fun taken step =>
    if step.isEmpty || step = "." then taken
    else if step = ".." then taken.drop 1
    else step :: taken) []).reverse

def hasPath (path : String) (world : World) : Bool :=
  (world.files.any fun file => steps file.1 = steps path) || world.folders.any fun folder => steps folder = steps path

end World

namespace Client

variable {ε : Type}

def ofExcept {α : Type} (result : Except ε α) : Client ε α := fun world => (result, world)

def attempt {α : Type} (action : Client ε α) : Client ε (Except ε α) := fun world =>
  let (result, world) := action world
  (.ok result, world)

def log (level : Level) (text : String) : Client ε Unit :=
  modify (World.record (.logged ⟨level, false, text⟩))

def logProgress (level : Level) (text : String) : Client ε Unit :=
  modify (World.record (.logged ⟨level, true, text⟩))

def freshName : Client ε String := do
  let world ← get
  set { world with names := world.names + 1 }
  let digits := toString world.names
  return "id" ++ String.ofList (List.replicate (4 - digits.length) '0') ++ digits

def fileBytes (path : String) : Client DataError Bytes := do
  match (← get).files.lookup path with
  | some bytes => return bytes
  | none => throw (.io "No such file or directory (os error 2)")

end Client
end RelationalLearning
