import RelationalLearning.Calendar
import RelationalLearning.Json.Basic

namespace RelationalLearning

inductive Family where
  | float | string | boolean
  deriving DecidableEq, Repr

inductive ColumnKind where
  | floatColumn | floatView | stringColumn | stringView | booleanView
  deriving DecidableEq, Repr

namespace ColumnKind

def name : ColumnKind → String
  | .floatColumn => "FloatColumn"
  | .floatView => "FloatColumnView"
  | .stringColumn => "StringColumn"
  | .stringView => "StringColumnView"
  | .booleanView => "BooleanColumnView"

def family : ColumnKind → Family
  | .floatColumn | .floatView => .float
  | .stringColumn | .stringView => .string
  | .booleanView => .boolean

end ColumnKind

namespace Family

def view : Family → ColumnKind
  | .float => .floatView
  | .string => .stringView
  | .boolean => .booleanView

def command : Family → String
  | .float => "FloatColumn"
  | .string => "StringColumn"
  | .boolean => "BooleanColumn"

end Family

inductive Literal where
  | number (value : Float)
  | text (value : String)
  | truth (value : Bool)
  | moment (value : Moment)
  deriving BEq, Repr

namespace Literal

def family : Literal → Family
  | .number _ | .moment _ => .float
  | .text _ => .string
  | .truth _ => .boolean

def kind (literal : Literal) : ColumnKind := literal.family.view

/-- The value as commands hold it; moments are sent as seconds. -/
def toJson : Literal → Json
  | .number value => .number value
  | .text value => .string value
  | .truth value => .bool value
  | .moment value => .number value.seconds

def toCommand (literal : Literal) : Json :=
  .record [("operator_", .string "const"), ("value_", literal.toJson), ("type_", .string literal.kind.name)]

end Literal
end RelationalLearning
