import RelationalLearning.Engine.Session
import RelationalLearning.Yaml.Reader

namespace RelationalLearning

structure Configuration where
  host : String := "localhost"
  port : Nat := 1708
  monitorPort : Nat := 1711
  /-- In seconds. -/
  timeout : Option Nat := none
  project : Option String := none
  logLevel : String := "info"
  logFile : Option String := none
  deriving DecidableEq, Repr

inductive ConfigurationError where
  | unreadable
  | malformed
  | unsupportedFormat (ending : String)
  deriving DecidableEq, Repr

def ConfigurationError.message : ConfigurationError → String
  | .unreadable => "IO error: the file cannot be read"
  | .malformed => "Configuration error: the file is not a configuration"
  | .unsupportedFormat ending => s!"Configuration error: Unsupported config file format: '{ending}'"

inductive LogLevel where
  | off | error | warn | info | debug | trace
  deriving DecidableEq, Repr

def LogLevel.all : List LogLevel := [.off, .error, .warn, .info, .debug, .trace]

def LogLevel.name : LogLevel → String
  | .off => "off"
  | .error => "error"
  | .warn => "warn"
  | .info => "info"
  | .debug => "debug"
  | .trace => "trace"

namespace Configuration

/-- The level of the log; a word that names none stands for `info`. -/
def level (configuration : Configuration) : LogLevel :=
  (LogLevel.all.find? fun level => level.name = configuration.logLevel.toLower).getD .info

def session (configuration : Configuration) : Session :=
  ⟨configuration.host, configuration.port, configuration.monitorPort, configuration.timeout⟩

def word? (bits : Nat) (document : Json) : Option Nat := do
  let value ← document.asNat?
  if value < Nat.pow 2 bits then some value else none

def sectionAt (present : Option Written) : Written := present.getD (.object [])

def shape : Yaml.Shape :=
  .record [("engine", .record [("host", .text), ("port", .plain), ("monitor_port", .plain),
      ("timeout_secs", .plain)]),
    ("project", .record [("name", .optionalText)]),
    ("logging", .record [("level", .text), ("file", .optionalText)])]

def ofWritten? (written : Written) : Option Configuration := do
  let standard : Configuration := {}
  let [engine, project, logging] ← written.fields? [.optional "engine", .optional "project", .optional "logging"]
    | none
  let [host, port, monitorPort, timeout] ← (sectionAt engine).fields?
    [.optional "host", .optional "port", .optional "monitor_port", .optional "timeout_secs"] | none
  let [name] ← (sectionAt project).fields? [.named "name"] | none
  let [level, file] ← (sectionAt logging).fields? [.optional "level", .optional "file"] | none
  return {
    host := ← Written.orElse? Json.asString? standard.host host
    port := ← Written.orElse? (word? 16) standard.port port
    monitorPort := ← Written.orElse? (word? 16) standard.monitorPort monitorPort
    timeout := ← Written.nullable? (word? 64) timeout
    project := ← Written.nullable? Json.asString? name
    logLevel := ← Written.orElse? Json.asString? standard.logLevel level
    logFile := ← Written.nullable? Json.asString? file }

/-- What stands behind the last point of the last step of a path, unless the step begins with that point. -/
def ending (path : String) : String :=
  let last := ((Text.splitOn path "/").filter (!·.isEmpty)).getLast?.getD ""
  match (Text.splitOn last ".").reverse with
  | ending :: stem => if stem = [] || stem = [""] then "" else ending.toLower
  | [] => ""

def read (path : String) (content : Option Text.Bytes) : Except ConfigurationError Configuration :=
  match content.bind Text.decode? with
  | none => .error .unreadable
  | some text =>
    let found : Except ConfigurationError (Option Configuration) := match ending path with
      | "json" => .ok ((Json.written? text).bind ofWritten?)
      | "yaml" | "yml" => .ok ((Yaml.read? text).bind fun document => ofWritten? (document.along shape))
      | other => .error (.unsupportedFormat other)
    match found with
    | .ok (some configuration) => .ok configuration
    | .ok none => .error .malformed
    | .error cause => .error cause

def toJson (configuration : Configuration) : Json :=
  .record [("engine", .record [("host", .string configuration.host), ("port", .nat configuration.port),
      ("monitor_port", .nat configuration.monitorPort),
      ("timeout_secs", .option .nat configuration.timeout)]),
    ("project", .record [("name", .option .string configuration.project)]),
    ("logging", .record [("level", .string configuration.logLevel),
      ("file", .option .string configuration.logFile)])]

end Configuration
end RelationalLearning
