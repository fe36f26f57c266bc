import RelationalLearning.Configuration
import RelationalLearning.Description.Basic
import RelationalLearning.Project.Listing

namespace RelationalLearning

class Reported (ε : Type) where
  report : ε → Json

export Reported (report)

namespace Failure

def behindFirst (mark text : String) : String :=
  match Text.cut? mark text with
  | some (before, _) => before ++ mark
  | none => text

def behindLast (mark text : String) : String :=
  match (Text.splitOn text mark).reverse with
  | _ :: first :: rest => Text.join mark (first :: rest).reverse ++ mark
  | _ => text

def wording? (sentence : String) : Option String :=
  if Text.startsWith sentence "Parse error: CSV" || Text.contains sentence "(os error" then none
  else if Text.contains sentence "Could not parse score date '" then some (behindLast "': " sentence)
  else if Text.startsWith sentence "Parse error: '" then some (behindFirst "': " sentence)
  else some (behindFirst "Invalid Arrow message: " sentence)

def document (kind : String) (sentence : Option String) (notes : List (String × Json)) : Json :=
  .record ([("error", .string kind), ("message", .option .string sentence)] ++ notes)

end Failure

def EngineError.kind : EngineError → String
  | .io _ => "Comm.Io"
  | .json => "Comm.Json"
  | .protocol _ => "Comm.Protocol"
  | .refused _ => "Comm.Engine"
  | .unreachable _ => "Comm.Connection"
  | .arrow => "Comm.Arrow"

def EngineError.wording? (cause : EngineError) : Option String :=
  match cause with
  | .json | .arrow => none
  | other => Failure.wording? other.message

def EngineError.notes (cause : EngineError) : List (String × Json) :=
  if cause.isRefusal then [("engine", .bool true)] else []

def DataError.kind : DataError → String
  | .engine cause => cause.kind
  | .type _ => "Type"
  | .value _ => "Value"
  | .index _ => "Index"
  | .key _ => "Key"
  | .io _ => "Io"
  | .parse _ => "Parse"
  | .notSupported _ => "NotSupported"

def DataError.wording? : DataError → Option String
  | .engine cause => cause.wording?
  | other => Failure.wording? other.message

def DataError.notes : DataError → List (String × Json)
  | .engine cause => cause.notes
  | _ => []

instance : Reported EngineError :=
  ⟨fun cause => Failure.document cause.kind cause.wording? cause.notes⟩

instance : Reported DataError :=
  ⟨fun cause => Failure.document ("Data." ++ cause.kind) cause.wording?
    (("local", .bool cause.isLocal) :: cause.notes)⟩

instance : Reported PipelineError where
  report
    | .engine cause => Failure.document ("Pipeline." ++ cause.kind) cause.wording? cause.notes
    | .data cause => Failure.document ("Pipeline.Data." ++ cause.kind) cause.wording? cause.notes
    | .invalidArgument reason =>
      Failure.document "Pipeline.InvalidArgument" (PipelineError.invalidArgument reason).message []
    | .notFitted name => Failure.document "Pipeline.NotFitted" (PipelineError.notFitted name).message []

instance : Reported ProjectError where
  report
    | .engine cause => Failure.document ("Project." ++ cause.kind) cause.wording? cause.notes
    | .invalidArgument reason =>
      Failure.document "Project.InvalidArgument" (ProjectError.invalidArgument reason).message []

instance : Reported ConfigurationError where
  report
    | .unreadable => Failure.document "Io" none []
    | .malformed => Failure.document "Config" none []
    | other => Failure.document "Config" other.message []

instance : Reported DescriptionError where
  report
    | .malformed => Failure.document "BadInput" none []
    | .unfit => Failure.document "Json" none []
    | .data cause => report cause
    | .pipeline cause => report cause

def Json.checked {ε α : Type} [Reported ε] (write : α → Json) : Except ε α → Json
  | .ok value => write value
  | .error cause => report cause

def Json.accepted {ε : Type} [Reported ε] : Except ε Unit → Json := Json.checked fun _ => .string "ok"

end RelationalLearning
