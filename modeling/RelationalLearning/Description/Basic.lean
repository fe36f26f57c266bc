import RelationalLearning.Json.Basic
import RelationalLearning.Roles

/-!
Values described by documents, the way those who use the client from outside write them down. An
overview of a value goes the other way.
-/

namespace RelationalLearning

inductive DescriptionError where
  | malformed
  | unfit
  | data (cause : DataError)
  | pipeline (cause : PipelineError)
  deriving DecidableEq, Repr

namespace Description

abbrev Result (α : Type) := Except DescriptionError α

variable {α β : Type}

def ofData (result : Except DataError α) : Result α := result.mapError .data

def ofPipeline (result : Except PipelineError α) : Result α := result.mapError .pipeline

def need (value : Option α) : Result α :=
  match value with
  | some value => .ok value
  | none => .error .malformed

def text (document : Json) : Result String := need document.asString?

def count (document : Json) : Result Nat := need document.asNat?

def whole (document : Json) : Result Int :=
  need (document.asInt?.filter fun value => -(Nat.pow 2 63 : Nat) ≤ value && value < (Nat.pow 2 63 : Nat))

def float? : Json → Option Float
  | .string "NaN" | .string "-NaN" => some (0.0 / 0.0)
  | .string "inf" => some (1.0 / 0.0)
  | .string "-inf" => some (-1.0 / 0.0)
  | other => other.asFloat?

def float (document : Json) : Result Float := need (float? document)

def flag (document : Json) : Bool := document.asBool?.getD false

def optional (read : Json → Result α) (document : Json) : Result (Option α) :=
  if document.isNull then .ok none else some <$> read document

def list (read : Json → Result α) (document : Json) : Result (List α) :=
  match document with
  | .null => .ok []
  | other => do (← need other.asArray?).mapM read

def items (read : Json → Result α) (document : Json) : Result (List α) := do
  (← need document.asArray?).mapM read

def strings : Json → Result (List String) := list text

def pair (first : Json → Result α) (second : Json → Result β) : Json → Result (α × β)
  | .array [a, b] => do return (← first a, ← second b)
  | _ => .error .malformed

def named (read : Json → Result α) : Json → Result (List (String × α)) := list (pair text read)

def field (read : Json → Result α) (name : String) (document : Json) : Result α := read (document.field name)

def role (document : Json) : Result Role := do ofData (Role.parse (← text document))

def roles (document : Json) : Result Roles := do
  (← need document.asObject?).foldlM (fun roles (name, columns) => do
    let role ← ofData (Role.parse name)
    return roles.add role (← strings columns)) Roles.empty

end Description
end RelationalLearning
