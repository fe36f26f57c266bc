import RelationalLearning.Pipeline.Hyperparameter

namespace RelationalLearning

inductive Preprocessor where
  | categoryTrimmer (maxNumCategories minFreq : Nat)
  | emailDomain
  | imputation (addDummies : Bool)
  | mapping (aggregations : List Aggregation) (minFreq : Nat) (multithreading : Bool)
  | seasonal (disableYear disableMonth disableWeekday disableHour disableMinute : Bool)
  | substring (start length : Nat) (unit : String)
  | textFieldSplitter
  deriving DecidableEq, Repr

namespace Preprocessor

open Hyperparameter

def kind : Preprocessor → String
  | .categoryTrimmer .. => "CategoryTrimmer"
  | .emailDomain => "EmailDomain"
  | .imputation _ => "Imputation"
  | .mapping .. => "Mapping"
  | .seasonal .. => "Seasonal"
  | .substring .. => "Substring"
  | .textFieldSplitter => "TextFieldSplitter"

/-- The preprocessor of a kind as it is unless told otherwise; a substring has no such form. -/
def standard? : String → Option Preprocessor
  | "CategoryTrimmer" => some (.categoryTrimmer 999 30)
  | "EmailDomain" => some .emailDomain
  | "Imputation" => some (.imputation false)
  | "Mapping" => some (.mapping Aggregation.mappingStandard 30 true)
  | "Seasonal" => some (.seasonal false false false false false)
  | "TextFieldSplitter" => some .textFieldSplitter
  | _ => none

def settings : Preprocessor → List (String × Json)
  | .categoryTrimmer maxNumCategories minFreq =>
    [("max_num_categories", .nat maxNumCategories), ("min_freq", .nat minFreq)]
  | .emailDomain => []
  | .imputation addDummies => [("add_dummies", .bool addDummies)]
  | .mapping aggregations minFreq multithreading =>
    [("aggregation", aggregationNames aggregations), ("min_freq", .nat minFreq),
      ("multithreading", .bool multithreading)]
  | .seasonal year month weekday hour minute =>
    [("disable_year", .bool year), ("disable_month", .bool month), ("disable_weekday", .bool weekday),
      ("disable_hour", .bool hour), ("disable_minute", .bool minute)]
  | .substring start length unit =>
    [("begin", .nat start), ("length", .nat length), ("unit", .string unit)]
  | .textFieldSplitter => []

def override? (overrides : Json) : Preprocessor → Option Preprocessor
  | .categoryTrimmer maxNumCategories minFreq => do
    return .categoryTrimmer (← nat overrides "max_num_categories" maxNumCategories)
      (← nat overrides "min_freq" minFreq)
  | .emailDomain => some .emailDomain
  | .imputation addDummies => do return .imputation (← bool overrides "add_dummies" addDummies)
  | .mapping present minFreq multithreading => do
    return .mapping (← aggregations overrides present) (← nat overrides "min_freq" minFreq)
      (← bool overrides "multithreading" multithreading)
  | .seasonal year month weekday hour minute => do
    return .seasonal (← bool overrides "disable_year" year) (← bool overrides "disable_month" month)
      (← bool overrides "disable_weekday" weekday) (← bool overrides "disable_hour" hour)
      (← bool overrides "disable_minute" minute)
  | .substring start length unit => do
    return .substring (← nat overrides "begin" start) (← nat overrides "length" length)
      (← text overrides "unit" unit)
  | .textFieldSplitter => some .textFieldSplitter

def validate : Preprocessor → Except PipelineError Unit
  | .categoryTrimmer maxNumCategories _ => atLeastOne maxNumCategories "max_num_categories"
  | .mapping aggregations _ _ => Aggregation.check aggregations Aggregation.mappingAll "Mapping"
  | .substring _ length _ =>
    if length = 0 then .error (.invalidArgument "'length' of a substring must be at least 1") else .ok ()
  | _ => .ok ()

def toCommand (preprocessor : Preprocessor) : Except PipelineError Json := do
  preprocessor.validate
  return command preprocessor.kind preprocessor.settings

end Preprocessor
end RelationalLearning
