import RelationalLearning.Arrow.Stream
import RelationalLearning.Engine.Session
import RelationalLearning.Overview.Value
import RelationalLearning.Project.Listing

namespace RelationalLearning

def Session.overview (session : Session) : Json :=
  .record [("host", .string session.host), ("port", .nat session.port),
    ("monitor_port", .nat session.monitorPort), ("timeout", .option .nat session.timeout)]

def Session.address (session : Session) : Json :=
  .record [("host", .string session.host), ("port", .nat session.port)]

def Frame.overviewOf? : String → Option (Reader Json)
  | "string" => some (Json.string <$> Frame.text)
  | "bytestring" => some ((fun bytes => .string (Text.toHex bytes)) <$> Frame.byteString)
  | "string_column" => some (Json.texts <$> Frame.textColumn)
  | "float_matrix" => some (Matrix.overview <$> Frame.matrix)
  | "ipc_stream" => some ((fun bytes => .string (Text.toHex bytes)) <$> Arrow.readStream)
  | _ => none

def Frame.overviews (total : Nat) : List (Reader Json) → Text.Bytes → List Json
  | [], _ => []
  | reader :: readers, bytes =>
    match reader.run.run bytes with
    | (.ok value, rest) =>
      .record [("ok", value), ("pos", .nat (total - rest.length))] :: Frame.overviews total readers rest
    | (.error cause, _) => [report cause]

def FrameListing.overview (listing : FrameListing) (name : Option String) : Json :=
  .record ([("in_memory", .texts listing.inMemory), ("on_disk", .texts listing.onDisk),
    ("not_loaded", .texts listing.notLoaded)] ++ name.toList.map fun name =>
      ("exists", .array [.bool (listing.inMemory.contains name), .bool (listing.onDisk.contains name)]))

def Configuration.overview (configuration : Configuration) : Json :=
  .record [("config", configuration.toJson), ("level", .string configuration.level.name.toUpper),
    ("session", configuration.session.overview)]

def Link.overviewOf (link : Nat) (kind : String) : Client EngineError Json :=
  match kind with
  | "json" => Link.receiveJson link
  | "bytestring" => do return .string (Text.toHex (← Link.receiveBytes link))
  | "string_column" => do return .texts (← Link.receiveColumn link)
  | "float_matrix" => do return (← Link.receiveMatrix link).overview
  | "issues" => do return (← Link.receiveIssues link).overview
  | "log_loop" => do return .string (← Link.logLoop link)
  | "expect_success" => do Link.expectSuccess link; return .string "ok"
  | "expect_found" => do Link.expectFound link; return .string "ok"
  | "arrow" => do return (← Link.receiveTable link).overview
  | other =>
    match Text.after? "expect:" other with
    | some token => do Link.expect link token; return .string "ok"
    | none => do return .string (← Link.receive link)

def Link.overviews (link : Nat) : List String → Client EngineError (List Json)
  | [] => return []
  | kind :: kinds => do
    match ← Client.attempt (Link.overviewOf link kind) with
    | .ok value => return .record [("ok", value)] :: (← Link.overviews link kinds)
    | .error cause => return [report cause]

end RelationalLearning
