import RelationalLearning.Column.Operator
import RelationalLearning.Roles

/-!
Column expressions. A column is stored in a data frame on the engine, or it is a view: an operation
on literals and other columns, which the engine evaluates when it is asked to.
-/

namespace RelationalLearning

structure StoredColumn where
  textual : Bool
  name : String
  role : Role
  frame : String
  deriving DecidableEq, Repr

mutual
inductive Column where
  | stored (column : StoredColumn)
  | view (family : Family) (operator : Operator) (operands : Operands) (detail : Detail)

inductive Operands where
  | none
  | one (first : Operand)
  | two (first second : Operand)

inductive Operand where
  | literal (value : Literal)
  | column (column : Column)

inductive Detail where
  | none
  | substring (start length : Nat)
  | formats (formats : List String)
  | condition (condition : Column)
  | subroles (subroles : List String)
  | unit (unit : String)
  | range (start stop step : Float)
  | seed (seed : Nat)
  | constant (value : Literal)
end

deriving instance BEq, Repr for Column, Operands, Operand, Detail

namespace StoredColumn

def kind (column : StoredColumn) : ColumnKind := if column.textual then .stringColumn else .floatColumn

/-- A handle; one without a name is called after its kind and its number among the handles of the kind. -/
def create (number : Nat) (textual : Bool) (name : String) (role : Role) (frame : String) : StoredColumn :=
  let kind : ColumnKind := if textual then .stringColumn else .floatColumn
  ⟨textual, if name.isEmpty then s!"{kind.name} {number}" else name, role, frame⟩

def toCommand (column : StoredColumn) : Json :=
  .record [("operator_", .string column.kind.name), ("df_name_", .string column.frame),
    ("name_", .string column.name), ("role_", .string column.role.name),
    ("type_", .string column.kind.name)]

end StoredColumn

namespace Column

def kind : Column → ColumnKind
  | .stored column => column.kind
  | .view family _ _ _ => family.view

def family (column : Column) : Family := column.kind.family

def floatColumn (name : String) (role : Role) (frame : String) : Column :=
  .stored (.create 0 false name role frame)

def stringColumn (name : String) (role : Role) (frame : String) : Column :=
  .stored (.create 0 true name role frame)

def name? : Column → Option String
  | .stored column => some column.name
  | .view .. => none

def operator? : Column → Option Operator
  | .stored _ => none
  | .view _ operator _ _ => some operator

end Column

namespace Operand

def kind : Operand → ColumnKind
  | .literal value => value.kind
  | .column inner => inner.kind

def family (operand : Operand) : Family := operand.kind.family

end Operand

mutual
def Column.toCommand : Column → Json
  | .stored column => column.toCommand
  | .view family operator operands detail =>
    .record (("type_", .string family.view.name) :: ("operator_", .string operator.name) ::
      (operands.fields ++ detail.fields))

def Operands.fields : Operands → List (String × Json)
  | .none => []
  | .one first => [("operand1_", first.toCommand)]
  | .two first second => [("operand1_", first.toCommand), ("operand2_", second.toCommand)]

def Operand.toCommand : Operand → Json
  | .literal value => value.toCommand
  | .column column => column.toCommand

def Detail.fields : Detail → List (String × Json)
  | .none => []
  | .substring start length => [("begin_", .nat start), ("len_", .nat length)]
  | .formats formats => [("time_formats_", .texts formats)]
  | .condition condition => [("condition_", condition.toCommand)]
  | .subroles subroles => [("subroles_", .texts subroles)]
  | .unit unit => [("unit_", .string unit)]
  | .range start stop step =>
    [("start_", .number start), ("stop_", .number stop), ("step_", .number step)]
  | .seed seed => [("seed_", .nat seed)]
  | .constant value => [("value_", value.toJson)]
end

/-- Of two names with their depths the nearer one; the first wins between equals. -/
def nearer : Option (Nat × String) → Option (Nat × String) → Option (Nat × String)
  | none, second => second
  | first, none => first
  | some first, some second => some (if first.1 ≤ second.1 then first else second)

mutual
def Column.nearest? : Column → Option (Nat × String)
  | .stored column => some (0, column.name)
  | .view _ _ operands _ => operands.nearest?.map fun (depth, name) => (depth + 1, name)

def Operands.nearest? : Operands → Option (Nat × String)
  | .none => Option.none
  | .one first => first.nearest?
  | .two first second => nearer first.nearest? second.nearest?

def Operand.nearest? : Operand → Option (Nat × String)
  | .literal _ => none
  | .column column => column.nearest?
end

namespace Column

/-- The name that messages use: that of the nearest stored column, or the operation. -/
def inferName (column : Column) : String :=
  match column.nearest? with
  | some (_, name) => name
  | none =>
    match column.operator? with
    | some operator => s!"{column.kind.name}.{operator.name}"
    | none => column.kind.name

def display (column : Column) : String :=
  match column.name? with
  | some name => s!"{column.kind.name} '{name}'"
  | none => s!"{column.kind.name} ({column.inferName})"

def apply (family : Family) (operator : Operator) (operand : Column) : Column :=
  .view family operator (.one (.column operand)) .none

def combine (family : Family) (operator : Operator) (left : Column) (right : Operand) : Column :=
  .view family operator (.two (.column left) right) .none

def ofLiteral (value : Literal) : Column := .view value.family .const .none (.constant value)

def arange (start stop step : Float) : Column := .view .float .arange .none (.range start stop step)

def rowid : Column := .view .float .rowid .none .none

def random (seed : Nat) : Column := .view .float .random .none (.seed seed)

def arangeLength (start stop step : Float) : Nat :=
  if step == 0.0 || !step.isFinite then 0
  else
    let count := (stop - start) / step
    if count.isFinite && count > 0.0 then min (Decimal.ceiling count) (Nat.pow 2 64 - 1) else 0

def rangeLength? : Column → Option Nat
  | .view .float _ _ (.range start stop step) => some (arangeLength start stop step)
  | _ => none

end Column
end RelationalLearning
