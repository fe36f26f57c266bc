import RelationalLearning.Column.Cast

/-!
Expressions built from columns whose kinds are only known when the program runs. Each operation
checks its operands and fails with a type error when they do not fit.
-/

namespace RelationalLearning

def checkOperand (family : Family) (operator : Operator) (operand : ColumnKind) : Except DataError Unit :=
  let require (fits : Bool) (expected : String) : Except DataError Unit :=
    if fits then .ok () else .error (.type s!"This operator can only be applied to a {expected}!")
  match family, operator with
  | .float, .numSubselection => .ok ()
  | .float, .asNum | .float, .asTs => require (operand.family = .string) "StringColumn"
  | .float, .booleanAsNum => require (operand.family = .boolean) "BooleanColumn"
  | .float, _ => require (operand.family = .float) "FloatColumn"
  | .string, .strSubselection => .ok ()
  | .string, .asStr => require (operand.family ≠ .string) "FloatColumn or a BooleanColumn"
  | .string, _ => require (operand.family = .string) "StringColumn"
  | .boolean, .and | .boolean, .or | .boolean, .xor | .boolean, .not =>
    require (operand.family = .boolean) "BooleanColumn"
  | .boolean, _ => .ok ()

namespace Column

def checked (family : Family) (operator : Operator) (left : Column) (right : Operand) :
    Except DataError Column := do
  checkOperand family operator left.kind
  checkOperand family operator right.kind
  return combine family operator left right

def comparable : Family → String
  | .float => "float, FloatColumn, FloatColumnView"
  | .string => "str, StringColumn, StringColumnView"
  | .boolean => "bool, BooleanColumnView"

def mismatch (kind : ColumnKind) (allowed : String) : String :=
  s!"Can only compare {kind.name} with: {allowed}. You can explicitly cast columns via `.as_num()` or `.as_str()`."

/-- Stored keys are texts, which surprises those who compare them with numbers. -/
def keyHint : Column → String
  | .stored column =>
    if column.textual && column.role = .joinKey then
      " Hint: join_keys are always StringColumn(View)s."
    else ""
  | _ => ""

def compare (operator : Family → Operator) (left : Column) (right : Operand) : Except DataError Column :=
  if left.family = right.family then .ok (combine .boolean (operator left.family) left right)
  else .error (.type (mismatch left.kind (comparable left.family) ++ left.keyHint))

def equalTo (left : Column) (right : Operand) : Except DataError Column :=
  compare .equality left right

def notEqualTo (left : Column) (right : Operand) : Except DataError Column :=
  compare .inequality left right

def ordered (left : Column) (name : String) (right : Operand) : Except DataError Column :=
  match Operator.named? Operator.orderings name with
  | none => .error (.value s!"Unknown comparison: '{name}'")
  | some operator =>
    if left.family = .float && right.family = .float then .ok (combine .boolean operator left right)
    else .error (.type (mismatch left.kind (comparable .float)))

def arithmetic (left : Column) (name : String) (right : Operand) : Except DataError Column :=
  match Operator.named? Operator.arithmetic name with
  | none => .error (.value s!"Unknown arithmetic operator: '{name}'")
  | some operator => checked .float operator left right

def add (left : Column) (right : Operand) : Except DataError Column :=
  if left.family = .float && right.family = .float then left.arithmetic "plus" right
  else if left.family = .string || right.family = .string then
    match right with
    | .column column => checked .string .concat left.asText (.column column.asText)
    | .literal (.text value) => checked .string .concat left.asText (.literal (.text value))
    | .literal value =>
      .error (.type s!"Cannot concatenate {left.kind.name} with a literal of type {value.kind.name}")
  else .error (.type s!"Cannot add {left.kind.name} and {right.kind.name}.")

def connect (operator : Operator) (left : Column) (right : Operand) : Except DataError Column :=
  if left.family = .boolean && right.family = .boolean then .ok (combine .boolean operator left right)
  else .error (.type
    s!"Boolean operators require two BooleanColumnViews, got {left.kind.name} and {right.kind.name}.")

def conjunction (left : Column) (right : Operand) : Except DataError Column := connect .and left right

def disjunction (left : Column) (right : Operand) : Except DataError Column := connect .or left right

def exclusion (left : Column) (right : Operand) : Except DataError Column := connect .xor left right

def complement (column : Column) : Except DataError Column :=
  if column.family = .boolean then .ok column.negation
  else .error (.type s!"Boolean operators require a BooleanColumnView, got {column.kind.name}.")

end Column
end RelationalLearning
