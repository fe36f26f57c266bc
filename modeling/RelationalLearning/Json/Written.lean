import RelationalLearning.Json.Record

/-!
A document as a text spells it. A part that no field of a record asks for may hold what has no
value, such as a number that is too large; only a part that is used has to be `settled`.
-/

namespace RelationalLearning

inductive Written where
  /-- A leaf, or nothing where its text stands for no value. -/
  | leaf (value : Option Json)
  | array (items : List Written)
  | object (fields : List (Option String × Written))
  deriving Inhabited

namespace Written

mutual
/-- The document of a part that is used: every leaf has a value, and less than `levels` levels are nested. -/
def settled? : Nat → Written → Option Json
  | _, .leaf value => value
  | levels, .array items => if levels ≤ 1 then none else (settledItems? (levels - 1) items).map .array
  | levels, .object fields => if levels ≤ 1 then none else (settledFields? (levels - 1) fields).map Json.record

def settledItems? : Nat → List Written → Option (List Json)
  | _, [] => some []
  | levels, item :: rest => do return (← settled? levels item) :: (← settledItems? levels rest)

def settledFields? : Nat → List (Option String × Written) → Option (List (String × Json))
  | _, [] => some []
  | levels, (name, value) :: rest => do
    return (← name, ← settled? levels value) :: (← settledFields? levels rest)
end

def levelBound : Nat := 128

def document? (written : Written) : Option Json := written.settled? levelBound

def items? : Written → Option (List Written)
  | .array items => some items
  | _ => none

def fields? (rules : List Json.FieldRule) : Written → Option (List (Option Written))
  | .object fields => do
    let named ← fields.mapM fun (name, value) => name.map (·, value)
    rules.mapM fun rule => rule.among? named
  | .array values => Json.alongList? rules values
  | .leaf _ => none

variable {α : Type}

def value? (read : Json → Option α) (written : Written) : Option α := written.document?.bind read

def orElse? (read : Json → Option α) (standard : α) : Option Written → Option α
  | none => some standard
  | some written => written.value? read

def nullable? (read : Json → Option α) : Option Written → Option (Option α)
  | none => some none
  | some written => written.value? fun document => if document.isNull then some none else (read document).map some

end Written
end RelationalLearning
