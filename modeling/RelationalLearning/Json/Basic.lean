import RelationalLearning.Decimal.Layout
import RelationalLearning.Index

namespace RelationalLearning

inductive Json where
  | null
  | bool (value : Bool)
  | int (value : Int)
  | float (value : Float)
  | string (value : String)
  | array (items : List Json)
  | object (fields : List (String × Json))
  deriving BEq, Repr, Inhabited

namespace Json

def record (fields : List (String × Json)) : Json := .object (Index.ofList fields)

mutual
def depth : Json → Nat
  | .array items => depthItems items + 1
  | .object fields => depthFields fields + 1
  | _ => 0

def depthItems : List Json → Nat
  | [] => 0
  | item :: rest => max item.depth (depthItems rest)

def depthFields : List (String × Json) → Nat
  | [] => 0
  | (_, value) :: rest => max value.depth (depthFields rest)
end

/-- A number; there is no text for infinity or a missing number, so these become `null`. -/
def number (value : Float) : Json := if value.isFinite then .float value else .null

def nat (value : Nat) : Json := .int value

def texts (values : List String) : Json := .array (values.map .string)

def numbers (values : List Float) : Json := .array (values.map number)

def option {α : Type} (write : α → Json) : Option α → Json
  | none => .null
  | some value => write value

def field? (name : String) : Json → Option Json
  | .object fields => fields.lookup name
  | _ => none

def field (document : Json) (name : String) : Json := (document.field? name).getD .null

def set (document : Json) (name : String) (value : Json) : Json :=
  match document with
  | .object fields => .object (Index.insert name value fields)
  | _ => record [(name, value)]

def asString? : Json → Option String
  | .string value => some value
  | _ => none

def asBool? : Json → Option Bool
  | .bool value => some value
  | _ => none

def asInt? : Json → Option Int
  | .int value => some value
  | _ => none

def asNat? : Json → Option Nat
  | .int value => if value < 0 then none else some value.toNat
  | _ => none

def asFloat? : Json → Option Float
  | .int value => some (Float.ofInt value)
  | .float value => some value
  | _ => none

def asArray? : Json → Option (List Json)
  | .array items => some items
  | _ => none

def asObject? : Json → Option (List (String × Json))
  | .object fields => some fields
  | _ => none

def asStrings? (document : Json) : Option (List String) := do
  (← document.asArray?).mapM asString?

def isNull : Json → Bool
  | .null => true
  | _ => false

end Json
end RelationalLearning
