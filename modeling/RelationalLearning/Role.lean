import RelationalLearning.Error
import RelationalLearning.Text.Pieces

namespace RelationalLearning

inductive Role where
  | categorical | joinKey | numerical | target | text | timeStamp | unusedFloat | unusedString
  deriving DecidableEq, Repr

namespace Role

def all : List Role :=
  [.categorical, .joinKey, .numerical, .target, .text, .timeStamp, .unusedFloat, .unusedString]

/-- All roles, in the order in which tables present their columns. -/
def presented : List Role :=
  [.timeStamp, .joinKey, .target, .categorical, .numerical, .text, .unusedFloat, .unusedString]

def name : Role → String
  | .categorical => "categorical"
  | .joinKey => "join_key"
  | .numerical => "numerical"
  | .target => "target"
  | .text => "text"
  | .timeStamp => "time_stamp"
  | .unusedFloat => "unused_float"
  | .unusedString => "unused_string"

def isCategorical : Role → Bool
  | .categorical | .joinKey | .text | .unusedString => true
  | _ => false

def isNumerical (role : Role) : Bool := !role.isCategorical

def parse (text : String) : Except DataError Role :=
  match all.find? fun role => role.name = text with
  | some role => .ok role
  | none =>
    let valid := Text.join ", " (all.map name)
    .error (.value s!"'{text}' is not a proper role. Valid roles are: {valid}")

theorem mem_all (role : Role) : role ∈ all := by cases role <;> decide

theorem mem_presented (role : Role) : role ∈ presented := by cases role <;> decide

end Role
end RelationalLearning
