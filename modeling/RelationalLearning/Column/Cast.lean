import RelationalLearning.Column.Basic
import RelationalLearning.Subrole

namespace RelationalLearning

def standardTimeFormats : List String := ["%Y-%m-%dT%H:%M:%s%z", "%Y-%m-%d %H:%M:%S", "%Y-%m-%d"]

namespace Column

def asText (column : Column) : Column :=
  match column.family with
  | .string => column
  | _ => apply .string .asStr column

def asNumber (column : Column) : Column :=
  match column.family with
  | .float => column
  | .string => apply .float .asNum column
  | .boolean => apply .float .booleanAsNum column

def asMoments (column : Column) (formats : List String) : Column :=
  .view .float .asTs (.one (.column column))
    (.formats (if formats.isEmpty then standardTimeFormats else formats))

def castFor (column : Column) (role : Role) (formats : List String) : Column :=
  if role.isCategorical then column.asText
  else
    match column.family with
    | .string => if role = .timeStamp then column.asMoments formats else column.asNumber
    | _ => column.asNumber

def withUnit (column : Column) (unit : String) : Column :=
  match column.family with
  | .float => .view .float .numWithUnit (.one (.column column)) (.unit unit)
  | .string => .view .string .strWithUnit (.one (.column column)) (.unit unit)
  | .boolean => column

def withSubroles (column : Column) (subroles : List String) : Except DataError Column := do
  match column.family with
  | .float =>
    Subrole.validate subroles
    return .view .float .numWithSubroles (.one (.column column)) (.subroles subroles)
  | .string =>
    Subrole.validate subroles
    return .view .string .strWithSubroles (.one (.column column)) (.subroles subroles)
  | .boolean => return column

def subselect (column : Column) (rows : Operand) : Column :=
  combine column.family (.subselection column.family) column rows

def update (column condition : Column) (values : Operand) : Column :=
  let operator : Operator := if column.family = .string then .strUpdate else .numUpdate
  .view column.family operator (.two (.column column) values) (.condition condition)

def substring (column : Column) (start length : Nat) : Column :=
  .view .string .substr (.one (.column column)) (.substring start length)

def negation (column : Column) : Column := apply .boolean .not column

end Column
end RelationalLearning
