import RelationalLearning.Json.Basic

/-!
Documents read into records whose fields are fixed. Unknown fields are passed over, a known field
may stand only once, and a list of the values in the order of the fields is taken as well.
-/

namespace RelationalLearning.Json

structure FieldRule where
  name : String
  fromObject : Bool
  fromList : Bool

def FieldRule.required (name : String) : FieldRule := ⟨name, false, false⟩

def FieldRule.optional (name : String) : FieldRule := ⟨name, true, true⟩

/-- A field that an object may be without, but not a list. -/
def FieldRule.named (name : String) : FieldRule := ⟨name, true, false⟩

variable {α : Type}

def valuesOf (name : String) (fields : List (String × α)) : List α :=
  (fields.filter fun field => field.1 = name).map (·.2)

/-- The value of one field among those of an object; `none` when it is repeated or missing. -/
def FieldRule.among? (rule : FieldRule) (fields : List (String × α)) : Option (Option α) :=
  match valuesOf rule.name fields with
  | [] => if rule.fromObject then some none else none
  | [value] => some (some value)
  | _ => none

def alongList? : List FieldRule → List α → Option (List (Option α))
  | [], [] => some []
  | [], _ :: _ => none
  | rule :: rules, [] => if rule.fromList then (alongList? rules []).map (none :: ·) else none
  | _ :: rules, value :: values => (alongList? rules values).map (some value :: ·)

def fields? (rules : List FieldRule) : Json → Option (List (Option Json))
  | .object fields => rules.mapM fun rule => rule.among? fields
  | .array values => alongList? rules values
  | _ => none

def orElse? (read : Json → Option α) (standard : α) : Option Json → Option α
  | none => some standard
  | some value => read value

end RelationalLearning.Json
