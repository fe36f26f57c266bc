import RelationalLearning.Column.Basic

/-!
Operations on columns that are known to hold numbers before the program runs. No operand is checked
when such an operation is built: the kinds of operands that there are decide what can stand in one.
-/

namespace RelationalLearning

structure NumericColumn where
  column : Column
  numeric : column.family = .float

inductive NumericOperand where
  | number (value : Float)
  | whole (value : Int)
  | moment (value : Moment)
  | column (column : NumericColumn)
  | literal (value : Literal)

namespace NumericOperand

def toOperand : NumericOperand → Operand
  | .number value => .literal (.number value)
  | .whole value => .literal (.number (Float.ofInt value))
  | .moment value => .literal (.moment value)
  | .column inner => .column inner.column
  | .literal value => .literal value

end NumericOperand

namespace NumericColumn

def of? (column : Column) : Option NumericColumn :=
  if numeric : column.family = .float then some ⟨column, numeric⟩ else none

def compute (operator : Operator) (column : NumericColumn) (operand : NumericOperand) : NumericColumn :=
  ⟨.combine .float operator column.column operand.toOperand, rfl⟩

def compare (operator : Operator) (column : NumericColumn) (operand : NumericOperand) : Column :=
  .combine .boolean operator column.column operand.toOperand

def add := compute .plus

def subtract := compute .minus

def multiply := compute .multiplies

def divide := compute .divides

def remainder := compute .fmod

def power := compute .pow

def equalTo := compare .numEqualTo

def notEqualTo := compare .numNotEqualTo

def greater := compare .greater

def greaterEqual := compare .greaterEqual

def less := compare .less

def lessEqual := compare .lessEqual

end NumericColumn

def NumericOperand.of? : Operand → Option NumericOperand
  | .literal value => some (.literal value)
  | .column inner => (NumericColumn.of? inner).map .column

end RelationalLearning
