import RelationalLearning.Column.Checked
import RelationalLearning.Column.Numeric
import RelationalLearning.Column.Selection
import RelationalLearning.Description.Basic

namespace RelationalLearning

structure ExpressionScope where
  column? : String → Option Column
  tableColumn? : String → Option (String → Except DataError Column)

namespace Expression

open Description

def literal? : Json → Option Literal
  | .bool value => some (.truth value)
  | .string value => some (.text value)
  | .int value => some (.number (Float.ofInt value))
  | .float value => some (.number value)
  | .object [("ts", .string value)] => (Calendar.read? Calendar.standard value).map .moment
  | .object [("f", value)] => (float? value).map .number
  | _ => none

def only (family : Family) (column : Column) : Result Column :=
  if column.family = family then .ok column else .error .malformed

def onlyOperand (family : Family) (operand : Operand) : Result Operand :=
  match operand with
  | .literal _ => .ok operand
  | .column column => if column.family = family then .ok operand else .error .malformed

def textOperand (operand : Operand) : Result Operand :=
  if operand.family = .string then .ok operand else .error .malformed

def joinOperand (operand : Operand) : Result Operand :=
  match operand with
  | .column column => .ok (.column column.asText)
  | .literal _ => textOperand operand

def function? : String → Option Operator
  | "gamma" => some .tgamma
  | name => (Operator.named? Operator.functions name).filter (· ≠ .tgamma)

def arithmetic? : String → Option Operator
  | "add" => some .plus
  | "sub" => some .minus
  | "mul" => some .multiplies
  | "div" => some .divides
  | "rem" => some .fmod
  | _ => none

def numeric? : String → Option (NumericColumn → NumericOperand → Column)
  | "add" => some fun column operand => (column.add operand).column
  | "sub" => some fun column operand => (column.subtract operand).column
  | "mul" => some fun column operand => (column.multiply operand).column
  | "div" => some fun column operand => (column.divide operand).column
  | "rem" => some fun column operand => (column.remainder operand).column
  | "pow" => some fun column operand => (column.power operand).column
  | "equal_to" => some NumericColumn.equalTo
  | "not_equal_to" => some NumericColumn.notEqualTo
  | "greater" => some NumericColumn.greater
  | "greater_equal" => some NumericColumn.greaterEqual
  | "less" => some NumericColumn.less
  | "less_equal" => some NumericColumn.lessEqual
  | _ => none

def connective? : String → Option Operator
  | "and" | "bitand" => some .and
  | "or" | "bitor" => some .or
  | "xor" | "bitxor" => some .xor
  | _ => none

def unary (name : String) (column : Column) : Result Column :=
  match name, column.family with
  | "neg", .float => .ok (.combine .float .multiplies column (.literal (.number (-1.0))))
  | "bang", .boolean | "is_false", .boolean => .ok column.negation
  | "try_not", _ => ofData column.complement
  | "column_as_str", _ => .ok column.asText
  | "column_as_num", _ => .ok column.asNumber
  | "as_str", .float | "as_str", .boolean => .ok column.asText
  | "as_num", .string | "as_num", .boolean => .ok column.asNumber
  | "is_nan", .float | "is_null", .float => .ok (.apply .boolean .isNan column)
  | "is_inf", .float => .ok (.apply .boolean .isInf column)
  | "is_null", .string => .ok (.apply .boolean .isNull column)
  | name, .float => do
    return .apply .float (← need (function? name)) column
  | _, _ => .error .malformed

def binary (name : String) (column : Column) (operand : Operand) : Result Column :=
  match name, column.family with
  | "try_equal_to", _ => ofData (column.equalTo operand)
  | "try_not_equal_to", _ => ofData (column.notEqualTo operand)
  | "try_add", _ => ofData (column.add operand)
  | "try_and", _ => ofData (column.conjunction operand)
  | "try_or", _ => ofData (column.disjunction operand)
  | "try_xor", _ => ofData (column.exclusion operand)
  | "column_and", _ => do ofData (column.conjunction (.column (← operandColumn operand)))
  | "column_or", _ => do ofData (column.disjunction (.column (← operandColumn operand)))
  | "column_xor", _ => do ofData (column.exclusion (.column (← operandColumn operand)))
  | "subselect", _ => .ok (column.subselect operand)
  | name, .float => do
    let build ← need (numeric? name)
    return build (← need (NumericColumn.of? column)) (← need (NumericOperand.of? operand))
  | "add", .string | "concat", .string => do
    return .combine .string .concat column (← joinOperand operand)
  | "contains", .string => do return .combine .boolean .contains column (← textOperand operand)
  | "equal_to", family => do return .combine .boolean (.equality family) column (← fitting family operand)
  | "not_equal_to", family => do
    return .combine .boolean (.inequality family) column (← fitting family operand)
  | name, .boolean => do
    let operator ← need (connective? name)
    return .combine .boolean operator column (.column (← only .boolean (← operandColumn operand)))
  | _, _ => .error .malformed
where
  operandColumn : Operand → Result Column
    | .column column => .ok column
    | .literal _ => .error .malformed
  fitting (family : Family) (operand : Operand) : Result Operand :=
    if operand.family = family then .ok operand else .error .malformed

def reversed (name : String) (value : Literal) (column : Column) : Result Column :=
  match value, column.family with
  | .number _, .float => do
    return .view .float (← need (arithmetic? name)) (.two (.literal value) (.column column)) .none
  | .text _, .string =>
    if name = "add" then .ok (.view .string .concat (.two (.literal value) (.column column)) .none)
    else .error .malformed
  | _, _ => .error .malformed

def modified (name : String) (column : Column) (values : List Json) : Result Column :=
  match name, column.family, values with
  | "with_subroles", .float, [subroles] | "with_subroles", .string, [subroles]
  | "column_with_subroles", _, [subroles] => do ofData (column.withSubroles (← strings subroles))
  | "with_unit", .float, [unit] | "with_unit", .string, [unit] | "column_with_unit", _, [unit] => do
    return column.withUnit (← need unit.asString?)
  | "as_ts", .string, [formats] => do return column.asMoments (← strings formats)
  | "substr", .string, [start, length] => do
    return column.substring (← need start.asNat?) (← need length.asNat?)
  | "cast_for_role", _, [name, formats] => do
    return column.castFor (← role name) (← strings formats)
  | _, _, _ => .error .malformed

def modifiers : List String :=
  ["with_subroles", "column_with_subroles", "with_unit", "column_with_unit", "as_ts", "substr", "cast_for_role"]

def source (scope : ExpressionScope) (name : String) (values : List Json) : Option (Result Column) :=
  match name, values with
  | "float", [name, bucket, frame] => some do
    return .floatColumn (← need name.asString?) (← role bucket) (← need frame.asString?)
  | "string", [name, bucket, frame] => some do
    return .stringColumn (← need name.asString?) (← role bucket) (← need frame.asString?)
  | "const", [value] => some do return .ofLiteral (← need (literal? value))
  | "arange", [start, stop, step] => some do
    return .arange (← need (float? start)) (← need (float? stop)) (← need (float? step))
  | "rowid", [] => some (.ok .rowid)
  | "random", [seed] => some do return .random ((← need seed.asNat?) % Nat.pow 2 32)
  | "var", [name] => some do need (scope.column? (← need name.asString?))
  | "column", [table, name] => some do
    let column ← need (scope.tableColumn? (← need table.asString?))
    ofData (column (← need name.asString?))
  | _, _ => none

def length? : Json → Option Length
  | .string "infinite" => some .infinite
  | .string "unknown" => some .unknown
  | other => other.asNat?.map .finite

def bound? : Json → Option (Option Int)
  | .null => some none
  | .int value => some (some value)
  | _ => none

def slice? : Json → Option Slice
  | .array [start, stop, step] => do return ⟨← bound? start, ← bound? stop, ← bound? step⟩
  | _ => none

def plainSelection? : Json → Option Selection
  | .object [("index", .int index)] => some (.row index)
  | .object [("slice", bounds)] => (slice? bounds).map .slice
  | .object [("range", .array [.int start, .int stop])] => some (.slice ⟨some start, some stop, none⟩)
  | .object [("from", .int start)] => some (.slice ⟨some start, none, none⟩)
  | .object [("to", .int stop)] => some (.slice ⟨none, some stop, none⟩)
  | .object [("all", _)] => some (.slice {})
  | _ => none

def iterate (apply : Column → Result Column) : Nat → Column → Result Column
  | 0, column => .ok column
  | times + 1, column => do iterate apply times (← apply column)

mutual
def column (scope : ExpressionScope) : Json → Result Column
  | .array (.string name :: arguments) => operation scope name arguments
  | _ => .error .malformed

def operand (scope : ExpressionScope) : Json → Result Operand
  | .array (.string name :: arguments) => return .column (← operation scope name arguments)
  | document => do return .literal (← need (literal? document))

def selection (scope : ExpressionScope) : Json → Result Selection
  | .object [("mask", mask)] => do return .mask (← only .boolean (← column scope mask))
  | .object [("numeric", numbers)] => return .numbers (← column scope numbers)
  | other => need (plainSelection? other)

def operation (scope : ExpressionScope) (name : String) (arguments : List Json) : Result Column :=
  match source scope name arguments with
  | some result => result
  | none =>
    match name, arguments with
    | "repeat", .int times :: .string name :: first :: rest => do
      if times < 0 then throw .malformed
      iterate (fun before => applied scope name before rest) times.toNat (← column scope first)
    | name, .array (.string inner :: deeper) :: rest => do
      applied scope name (← operation scope inner deeper) rest
    | name, [value, right] => do
      reversed name (← need (literal? value)) (← column scope right)
    | _, _ => .error .malformed

def applied (scope : ExpressionScope) (name : String) (before : Column) (rest : List Json) : Result Column :=
  if modifiers.contains name then modified name before rest
  else
    match name, rest with
    | name, [] => unary name before
    | "try_compare", [operator, right] => do
      let operator ← need operator.asString?
      ofData (before.ordered operator (← operand scope right))
    | "try_arithmetic", [operator, right] => do
      let operator ← need operator.asString?
      ofData (before.arithmetic operator (← operand scope right))
    | "select_with_length", [rows, length] => do
      let rows ← selection scope rows
      ofData (before.selectWithLength rows (← need (length? length)))
    | "update", [condition, values] => do
      let condition ← only .boolean (← column scope condition)
      let values ← operand scope values
      match before.family with
      | .float => return before.update condition (← onlyOperand .float values)
      | .string => return before.update condition (← textOperand values)
      | .boolean => throw .malformed
    | name, [right] => do binary name before (← operand scope right)
    | _, _ => .error .malformed
end

end Expression
end RelationalLearning
