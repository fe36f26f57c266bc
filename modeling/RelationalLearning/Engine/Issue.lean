import RelationalLearning.Error
import RelationalLearning.Json.Parser
import RelationalLearning.Text.Pieces

namespace RelationalLearning

structure Issue where
  message : String
  label : String
  kind : String
  deriving DecidableEq, Repr

abbrev Issues := List Issue

def Issue.display (issue : Issue) : String := s!"{issue.kind} [{issue.label}] {issue.message}"

def Issue.toJson (issue : Issue) : Json :=
  .record [("message_", .string issue.message), ("label_", .string issue.label),
    ("warning_type_", .string issue.kind)]

def Issue.ofWritten? (written : Written) : Option Issue := do
  match ← written.fields? [.required "message_", .optional "label_", .optional "warning_type_"] with
  | [some message, label, kind] =>
    return ⟨← message.value? Json.asString?, ← Written.orElse? Json.asString? "" label,
      ← Written.orElse? Json.asString? "" kind⟩
  | _ => none

namespace Issues

def ofWritten? (written : Written) : Option Issues := do
  match ← written.fields? [.optional "warnings_"] with
  | [none] => return []
  | [some warnings] => (← warnings.items?).mapM Issue.ofWritten?
  | _ => none

/-- Reads the engine's reply; one that is not an object is a failure in the engine's own words. -/
def parse (reply : String) : Except EngineError Issues :=
  if Text.startsWith reply "\x7b" then
    match (Json.written? reply).bind ofWritten? with
    | some issues => .ok issues
    | none => .error .json
  else .error (.refused reply)

def ofKind (issues : Issues) (kind : String) : Issues := issues.filter fun issue => issue.kind = kind

def display (issues : Issues) : String := Text.join "\n" (issues.map Issue.display)

end Issues
end RelationalLearning
