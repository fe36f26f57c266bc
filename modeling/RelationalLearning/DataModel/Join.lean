import RelationalLearning.Decimal.Layout
import RelationalLearning.Roles
import RelationalLearning.Text.Quoted
import RelationalLearning.Validation

namespace RelationalLearning

structure Placeholder where
  name : String
  roles : Roles
  deriving DecidableEq, Repr

def Placeholder.get (placeholder : Placeholder) (column : String) : Except DataError String :=
  if placeholder.roles.contains column then .ok column
  else .error (.key s!"No column with name '{column}' on the Placeholder's signature.")

inductive Relationship where
  | manyToMany | manyToOne | oneToMany | oneToOne
  /-- Features are always made by plain aggregation. -/
  | propositionalization
  deriving DecidableEq, Repr

namespace Relationship

def all : List Relationship := [.manyToMany, .manyToOne, .oneToMany, .oneToOne, .propositionalization]

def name : Relationship → String
  | .manyToMany => "many-to-many"
  | .manyToOne => "many-to-one"
  | .oneToMany => "one-to-many"
  | .oneToOne => "one-to-one"
  | .propositionalization => "propositionalization"

def quoted : Relationship → String
  | .manyToMany => "ManyToMany"
  | .manyToOne => "ManyToOne"
  | .oneToMany => "OneToMany"
  | .oneToOne => "OneToOne"
  | .propositionalization => "Propositionalization"

def parse (text : String) : Except DataError Relationship :=
  match all.find? fun relationship => relationship.name = text with
  | some relationship => .ok relationship
  | none => .error (.value s!"Unknown relationship '{text}'.")

end Relationship

/-- What a join is made on; the first of each pair belongs to the table joined to, the second to the table joined. -/
structure JoinOptions where
  /-- Pairs of keys; without any, everything is joined to everything. -/
  on : List (String × String) := []
  timeStamps : Option (String × String) := none
  upperTimeStamp : Option String := none
  relationship : Relationship := .manyToMany
  /-- How far to look back, in seconds. -/
  memory : Option Float := none
  /-- How far ahead the prediction reaches, in seconds. -/
  horizon : Option Float := none
  laggedTargets : Bool := false
  deriving BEq, Repr

namespace JoinOptions

def quotedPair (pair : String × String) : String :=
  "(" ++ Text.quoted pair.1 ++ ", " ++ Text.quoted pair.2 ++ ")"

def quoted (options : JoinOptions) : String :=
  "JoinOptions \x7b on: " ++ Text.bracketed (options.on.map quotedPair) ++
    ", time_stamps: " ++ Text.optional quotedPair options.timeStamps ++
    ", upper_time_stamp: " ++ Text.optional Text.quoted options.upperTimeStamp ++
    ", relationship: " ++ options.relationship.quoted ++
    ", memory: " ++ Text.optional Decimal.quoted options.memory ++
    ", horizon: " ++ Text.optional Decimal.quoted options.horizon ++
    ", lagged_targets: " ++ (if options.laggedTargets then "true" else "false") ++ " \x7d"

def restricts (span : Option Float) : Bool := span.any fun seconds => seconds != 0.0

def checkSpan (span : Option Float) (what : String) : Except DataError Unit :=
  match span with
  | none => .ok ()
  | some seconds =>
    match Validation.nonNegative seconds what with
    | .ok () => .ok ()
    | .error reason => .error (.value reason)

def checkSide (roles : Roles) (keys : List String) (timeStamp : Option String) : Except DataError Unit := do
  if !roles.joinKey.isEmpty && !keys.isEmpty then
    match keys.filter fun key => !roles.joinKey.contains key with
    | [] => pure ()
    | wrong =>
      let listed := Text.join ", " wrong
      throw (.value s!"Not a join key: {listed}.")
  match timeStamp with
  | none => pure ()
  | some name =>
    if !roles.timeStamp.isEmpty && !roles.timeStamp.contains name then
      throw (.value s!"Not a time stamp: {name}.")

def checkSpans (options : JoinOptions) : Except DataError Unit := do
  if options.laggedTargets && !restricts options.horizon then
    throw (.value ("If you allow lagged targets, then you must also set a horizon > 0.0. " ++
      "This is to avoid 'easter eggs'."))
  if restricts options.horizon && options.timeStamps.isNone then
    throw (.value "Setting 'horizon' (i.e. a relative look-back window) requires a 'time_stamp'.")
  if restricts options.memory && options.timeStamps.isNone then
    throw (.value "Setting 'memory' (i.e. a relative look-back window) requires a 'time_stamp'.")

end JoinOptions

namespace JoinKeys

def none : String := "$GETML_NO_JOIN_KEY"

def opening : String := "$GETML_MULTIPLE_JOIN_KEYS_BEGIN"

def separator : String := "$GETML_JOIN_KEY_SEP"

def closing : String := "$GETML_MULTIPLE_JOIN_KEYS_END"

def encodeSide : List String → String
  | [] => none
  | [key] => key
  | keys => opening ++ Text.join separator keys ++ closing

def encode (on : List (String × String)) : String × String :=
  (encodeSide (on.map (·.1)), encodeSide (on.map (·.2)))

def decodeSide (encoded : String) : List String :=
  if encoded.isEmpty || encoded = none then []
  else
    match (Text.after? opening encoded).bind (Text.before? closing) with
    | some inner => Text.splitOn inner separator
    | Option.none => [encoded]

def decode (left right : String) : Except DataError (List (String × String)) :=
  let lefts := decodeSide left
  let rights := decodeSide right
  if lefts.length = rights.length then .ok (lefts.zip rights)
  else .error (.parse s!"Join uses {lefts.length} keys on the left and {rights.length} on the right")

end JoinKeys
end RelationalLearning
