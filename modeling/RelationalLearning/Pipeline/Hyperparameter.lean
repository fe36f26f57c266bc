import RelationalLearning.Json.Basic
import RelationalLearning.Pipeline.Aggregation
import RelationalLearning.Text.Pieces
import RelationalLearning.Validation

namespace RelationalLearning

def PipelineError.message : PipelineError → String
  | .engine cause => cause.message
  | .data cause => cause.message
  | .invalidArgument reason => s!"Invalid argument: {reason}"
  | .notFitted name => s!"Pipeline has not been fitted: {name}"

inductive LossFunction where
  | crossEntropy | square
  deriving DecidableEq, Repr

namespace LossFunction

def all : List LossFunction := [.crossEntropy, .square]

def name : LossFunction → String
  | .crossEntropy => "CrossEntropyLoss"
  | .square => "SquareLoss"

def isClassification : LossFunction → Bool
  | .crossEntropy => true
  | .square => false

def named? (text : String) : Option LossFunction := all.find? fun loss => loss.name = text

def parse (text : String) : Except PipelineError LossFunction :=
  match named? text with
  | some loss => .ok loss
  | none => .error (.invalidArgument
      s!"'loss_function' must be 'CrossEntropyLoss' or 'SquareLoss', got '{text}'")

def ofJson? : Json → Option LossFunction
  | .string text => named? text
  | .object [(text, .null)] => named? text
  | _ => none

end LossFunction

namespace Hyperparameter

def argument (result : Except String Unit) : Except PipelineError Unit :=
  match result with
  | .ok () => .ok ()
  | .error reason => .error (.invalidArgument reason)

def nonNegative (value : Float) (what : String) : Except PipelineError Unit :=
  argument (Validation.nonNegative value what)

def positive (value : Float) (what : String) : Except PipelineError Unit :=
  argument (Validation.positive value what)

def share (value : Float) (what : String) : Except PipelineError Unit :=
  argument (Validation.range value 0.0 1.0 what)

def atLeastOne (value : Nat) (what : String) : Except PipelineError Unit :=
  if value = 0 then .error (.invalidArgument s!"'{what}' must be at least 1") else .ok ()

def oneOf (value : String) (words : List String) (sentence : String) : Except PipelineError Unit :=
  if words.contains value then .ok () else .error (.invalidArgument sentence)

def command (kind : String) (settings : List (String × Json)) : Json :=
  .record (("type_", .string kind) :: settings.map fun (name, value) => (name ++ "_", value))

def setting {α : Type} (overrides : Json) (name : String) (read : Json → Option α) (standard : α) : Option α :=
  match overrides.field? name with
  | none => some standard
  | some value => read value

def float (overrides : Json) (name : String) (standard : Float) : Option Float :=
  setting overrides name Json.asFloat? standard

def nat (overrides : Json) (name : String) (standard : Nat) : Option Nat :=
  setting overrides name Json.asNat? standard

def bool (overrides : Json) (name : String) (standard : Bool) : Option Bool :=
  setting overrides name Json.asBool? standard

def text (overrides : Json) (name : String) (standard : String) : Option String :=
  setting overrides name Json.asString? standard

def aggregations (overrides : Json) (standard : List Aggregation) : Option (List Aggregation) :=
  setting overrides "aggregation" (fun value => do
    (← value.asStrings?).mapM fun name => (Aggregation.parse name).toOption) standard

def lossFunction (overrides : Json) (standard : Option LossFunction) : Option (Option LossFunction) :=
  setting overrides "loss_function" (fun
    | .null => some none
    | value => (LossFunction.ofJson? value).map some) standard

def aggregationNames (aggregations : List Aggregation) : Json := .texts (aggregations.map Aggregation.name)

end Hyperparameter
end RelationalLearning
