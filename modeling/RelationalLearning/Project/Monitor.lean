import RelationalLearning.Project.Listing

namespace RelationalLearning

structure BundleOptions where
  /-- The name of the file; left out, it is that of the project. -/
  fileName : Option String := none
  /-- The folder of the file; left out, it is the working directory. -/
  folder : Option String := none
  replace : Bool := true
  deriving DecidableEq, Repr

namespace Project

def expectSuccessAfterLog (link : Nat) : Client EngineError Unit := do
  let reply ← Link.logLoop link
  if reply ≠ success then throw (.refused reply)

def receivePort (link : Nat) : Client EngineError Nat := do
  let reply ← Link.receive link
  match Decimal.readWord? 16 (Text.trim reply) with
  | some port => return port
  | none => throw (.protocol s!"Invalid engine port '{reply}'")

def startEngine (session : Session) (kind : String) (body : Json) : Client EngineError Nat := do
  let link ← session.askMonitor kind body
  expectSuccessAfterLog link
  receivePort link

def askNames (session : Session) (kind : String) : Client EngineError (List String) := do
  let link ← session.askMonitor kind (.string "")
  Link.expectSuccess link
  let reply ← Link.receiveJson link
  return ((reply.field "projects").asArray?.getD []).filterMap Json.asString?

def engineVersion (session : Session) : Client EngineError String := do
  Link.receive (← session.askMonitor "getversion" (.string ""))

def checkName (name : String) : Except ProjectError Unit :=
  match Validation.name name "project name" with
  | .ok () => .ok ()
  | .error reason => .error (.invalidArgument reason)

def set (session : Session) (name : String) : Client ProjectError Session := do
  Client.ofExcept (checkName name)
  let port : Nat ← show Client EngineError Nat from do
    let version ← engineVersion session
    Client.log .debug s!"Engine version: {version}"
    startEngine session "setproject" (.string name)
  Client.log .info s!"Connected to project '{name}' on port {port}"
  return session.withPort port

def restart (session : Session) (name : String) : Client ProjectError Session := do
  Client.ofExcept (checkName name)
  let port ← liftM (startEngine session "restartproject" (.string name))
  Client.log .info s!"Restarted project '{name}' on port {port}"
  return session.withPort port

def list (session : Session) : Client EngineError (List String) := askNames session "listallprojects"

def listRunning (session : Session) : Client EngineError (List String) :=
  askNames session "listrunningprojects"

def suspend (session : Session) (name : String) : Client EngineError Unit := do
  Link.expectSuccess (← session.askMonitor "suspendproject" (.string name))

def delete (session : Session) (name : String) : Client EngineError Unit := do
  if (← listRunning session).contains name then suspend session name
  Link.expectSuccess (← session.askMonitor "deleteproject" (.string name))
  Client.log .info s!"Deleted project '{name}'"

def absolute {ε : Type} (path : String) : Client ε String := do
  let directory := (← get).directory
  return if Text.startsWith path "/" then path else s!"{directory}/{path}"

def save (session : Session) (name : String) (options : BundleOptions) : Client EngineError String := do
  let folder ← match options.folder with
    | some folder => absolute folder
    | none => pure (← get).directory
  let link ← session.askMonitor "saveproject" (.record [("name_", .string name),
    ("file_name_", .string (options.fileName.getD name)), ("target_path_", .string folder),
    ("replace_", .bool options.replace)])
  expectSuccessAfterLog link
  let bundle ← Link.receive link
  Client.log .info s!"Saved project '{name}' to {bundle}"
  return bundle

/-- Loads a project from a single file; without a name it keeps the one stored there. -/
def load (session : Session) (bundle name : String) : Client ProjectError Session := do
  let bundle ← absolute bundle
  if !(← get).hasPath bundle then throw (.invalidArgument s!"No project bundle at '{bundle}'")
  let port ← liftM (startEngine session "loadproject"
    (.record [("bundle_", .string bundle), ("name_", .string name)]))
  Client.log .info s!"Loaded project from {bundle} on port {port}"
  return session.withPort port

/-- Waits until the monitor is gone; `rounds` bounds how often it is looked for. -/
def awaitEnd (session : Session) : Nat → Client EngineError Unit
  | 0 => throw (.protocol "The monitor is still running after the shutdown command")
  | rounds + 1 => do
    if ← session.isMonitorAlive then awaitEnd session rounds
    else Client.log .info "The engine has been shut down"

def shutdown (session : Session) : Client EngineError Unit := do
  let _ ← session.askMonitor "shutdownlocal" (.string "")
  awaitEnd session 100

end Project
end RelationalLearning
