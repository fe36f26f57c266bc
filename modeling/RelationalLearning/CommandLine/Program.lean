import RelationalLearning.CommandLine.Arguments
import RelationalLearning.Configuration
import RelationalLearning.Project.Monitor

namespace RelationalLearning.CommandLine

inductive Failure where
  | configuration (path : String)
  | invalidPort (text : String)
  | noEngine (host : String) (port : Nat)
  | engine (cause : EngineError)
  | data (cause : DataError)
  | project (cause : ProjectError)
  deriving DecidableEq, Repr

def Failure.message : Failure → String
  | .configuration path => s!"Error loading config file '{path}'"
  | .invalidPort text => s!"Invalid port '{text}'"
  | .noEngine host port => s!"No engine answers at {host}:{port}"
  | .engine cause => cause.message
  | .data cause => cause.message
  | .project cause => cause.message

instance : MonadLift (Client EngineError) (Client Failure) := ⟨fun action => ExceptT.adapt Failure.engine action⟩

instance (priority := mid) : MonadLift (Client DataError) (Client Failure) := ⟨fun action => ExceptT.adapt Failure.data action⟩

instance (priority := low) : MonadLift (Client ProjectError) (Client Failure) := ⟨fun action => ExceptT.adapt Failure.project action⟩

/-- The session of a configuration; settings of the command line go before it. -/
def sessionOf (configuration : Configuration) (settings : List (Setting × String)) : Except Failure Session := do
  let session := configuration.session
  let session := { session with host := (settings.lookup .host).getD session.host }
  match settings.lookup .port with
  | none => return session
  | some text =>
    match Decimal.readWord? 16 text with
    | some port => return session.withPort port
    | none => throw (.invalidPort text)

def lines (session : Session) : Subcommand → Client Failure (List String)
  | .ping => do
    if !(← liftM session.isAlive) then throw (.noEngine session.host session.port)
    let name ← liftM session.projectName
    return [s!"Engine is alive, project: {name}"]
  | .projects running => liftM (if running then Project.listRunning session else Project.list session)
  | .setProject name => do
    let session ← liftM (Project.set session name)
    return [toString session.port]
  | .dataFrames => do
    let listing ← liftM (Project.dataFrames session)
    return ["In memory: " ++ Text.join ", " listing.inMemory, "On disk:   " ++ Text.join ", " listing.onDisk]
  | .pipelines => liftM (Project.pipelines session)
  | .rows name => do
    let frame ← Client.ofExcept ((DataFrame.create name .empty).mapError .data)
    let rows ← liftM (frame.rows session)
    return [toString rows]
  | .describe name => do
    let frame ← Client.ofExcept ((DataFrame.create name .empty).mapError .data)
    let frame ← liftM ((DataFrame.refresh session).finish frame)
    return [frame.roles.toJson.pretty]

def run (configuration : Configuration) (settings : List (Setting × String)) (subcommand : Option Subcommand) :
    Client Failure (List String) := do
  let session ← Client.ofExcept (sessionOf configuration settings)
  let session ← match configuration.project with
    | none => pure session
    | some name => do
      Client.log .info s!"Connecting to project '{name}'"
      liftM (Project.set session name)
  match subcommand with
  | some subcommand => lines session subcommand
  | none => return ["No subcommand specified. Use --help for usage information."]

def version : String := "getml-client 0.1.0"

structure Outcome where
  code : Nat
  output : List String := []
  errors : List String := []
  deriving DecidableEq, Repr

def configurationOf (settings : List (Setting × String))
    (content : String → Except ConfigurationError Configuration) : Except Failure Configuration :=
  match settings.lookup .config with
  | none => .ok {}
  | some path => (content path).mapError fun _ => .configuration path

def perform (words : List String) (content : String → Except ConfigurationError Configuration) :
    StateM World Outcome := do
  match read? words with
  | none => return { code := 2, errors := ["error: the words are no proper use of the program"] }
  | some .showVersion => return { code := 0, output := [version] }
  | some .showHelp => return { code := 0, output := ["Inspect and manage a getML engine"] }
  | some (.run settings subcommand) =>
    let client : Client Failure (List String) := do
      let configuration ← Client.ofExcept (configurationOf settings content)
      Client.log .debug s!"Using engine at {configuration.host}:{configuration.port}"
      run configuration settings subcommand
    match ← client.run with
    | .ok output => return { code := 0, output }
    | .error failure => return { code := 1, errors := [s!"Error: {failure.message}"] }

end RelationalLearning.CommandLine
