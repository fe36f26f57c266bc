import RelationalLearning.Literal

namespace RelationalLearning

inductive Operator where
  | abs | acos | asin | atan | cbrt | ceil | cos | erf | exp | floor | tgamma | lgamma | log | round
  | sin | sqrt | tan
  | year | month | day | hour | minute | second | weekday | yearday
  | plus | minus | multiplies | divides | fmod | pow
  | numEqualTo | numNotEqualTo | greater | greaterEqual | less | lessEqual | isInf | isNan
  | asStr | asNum | asTs | booleanAsNum
  | concat | contains | substr | strEqualTo | strNotEqualTo | isNull
  | boolEqualTo | boolNotEqualTo | and | or | xor | not
  | numUpdate | strUpdate
  | numWithSubroles | strWithSubroles | numWithUnit | strWithUnit
  | numSubselection | strSubselection | boolSubselection
  | const | arange | rowid | random
  deriving DecidableEq, Repr

namespace Operator

def name : Operator → String
  | .abs => "abs"
  | .acos => "acos"
  | .asin => "asin"
  | .atan => "atan"
  | .cbrt => "cbrt"
  | .ceil => "ceil"
  | .cos => "cos"
  | .erf => "erf"
  | .exp => "exp"
  | .floor => "floor"
  | .tgamma => "tgamma"
  | .lgamma => "lgamma"
  | .log => "log"
  | .round => "round"
  | .sin => "sin"
  | .sqrt => "sqrt"
  | .tan => "tan"
  | .year => "year"
  | .month => "month"
  | .day => "day"
  | .hour => "hour"
  | .minute => "minute"
  | .second => "second"
  | .weekday => "weekday"
  | .yearday => "yearday"
  | .plus => "plus"
  | .minus => "minus"
  | .multiplies => "multiplies"
  | .divides => "divides"
  | .fmod => "fmod"
  | .pow => "pow"
  | .numEqualTo => "num_equal_to"
  | .numNotEqualTo => "num_not_equal_to"
  | .greater => "greater"
  | .greaterEqual => "greater_equal"
  | .less => "less"
  | .lessEqual => "less_equal"
  | .isInf => "is_inf"
  | .isNan => "is_nan"
  | .asStr => "as_str"
  | .asNum => "as_num"
  | .asTs => "as_ts"
  | .booleanAsNum => "boolean_as_num"
  | .concat => "concat"
  | .contains => "contains"
  | .substr => "substr"
  | .strEqualTo => "str_equal_to"
  | .strNotEqualTo => "str_not_equal_to"
  | .isNull => "is_null"
  | .boolEqualTo => "bool_equal_to"
  | .boolNotEqualTo => "bool_not_equal_to"
  | .and => "and"
  | .or => "or"
  | .xor => "xor"
  | .not => "not"
  | .numUpdate => "num_update"
  | .strUpdate => "str_update"
  | .numWithSubroles => "num_with_subroles"
  | .strWithSubroles => "str_with_subroles"
  | .numWithUnit => "num_with_unit"
  | .strWithUnit => "str_with_unit"
  | .numSubselection => "num_subselection"
  | .strSubselection => "str_subselection"
  | .boolSubselection => "bool_subselection"
  | .const => "const"
  | .arange => "arange"
  | .rowid => "rowid"
  | .random => "random"

def functions : List Operator :=
  [.abs, .acos, .asin, .atan, .cbrt, .ceil, .cos, .erf, .exp, .floor, .tgamma, .lgamma, .log, .round,
    .sin, .sqrt, .tan, .year, .month, .day, .hour, .minute, .second, .weekday, .yearday]

def arithmetic : List Operator := [.plus, .minus, .multiplies, .divides, .fmod, .pow]

def orderings : List Operator := [.greater, .greaterEqual, .less, .lessEqual]

def named? (operators : List Operator) (name : String) : Option Operator :=
  operators.find? fun operator => operator.name = name

def equality : Family → Operator
  | .float => .numEqualTo
  | .string => .strEqualTo
  | .boolean => .boolEqualTo

def inequality : Family → Operator
  | .float => .numNotEqualTo
  | .string => .strNotEqualTo
  | .boolean => .boolNotEqualTo

def subselection : Family → Operator
  | .float => .numSubselection
  | .string => .strSubselection
  | .boolean => .boolSubselection

end Operator
end RelationalLearning
