import RelationalLearning.Json.Record
import RelationalLearning.Role

/-!
Column names in eight buckets, one per role. Within a bucket the names keep their order. The
buckets are disjoint when `Roles.validate` accepts them, and then they are a map from names to roles.
-/

namespace RelationalLearning

structure Roles where
  categorical : List String := []
  joinKey : List String := []
  numerical : List String := []
  target : List String := []
  text : List String := []
  timeStamp : List String := []
  unusedFloat : List String := []
  unusedString : List String := []
  deriving DecidableEq, Repr

namespace Roles

def names (roles : Roles) : Role → List String
  | .categorical => roles.categorical
  | .joinKey => roles.joinKey
  | .numerical => roles.numerical
  | .target => roles.target
  | .text => roles.text
  | .timeStamp => roles.timeStamp
  | .unusedFloat => roles.unusedFloat
  | .unusedString => roles.unusedString

def ofBuckets (bucket : Role → List String) : Roles :=
  ⟨bucket .categorical, bucket .joinKey, bucket .numerical, bucket .target, bucket .text,
    bucket .timeStamp, bucket .unusedFloat, bucket .unusedString⟩

@[simp]
theorem names_ofBuckets (bucket : Role → List String) (role : Role) :
    (ofBuckets bucket).names role = bucket role := by cases role <;> rfl

@[simp]
theorem ofBuckets_names (roles : Roles) : ofBuckets roles.names = roles := rfl

def empty : Roles := {}

def add (roles : Roles) (role : Role) (added : List String) : Roles :=
  ofBuckets fun other => if other = role then roles.names other ++ added else roles.names other

def assignments (roles : Roles) : List (String × Role) :=
  Role.all.flatMap fun role => (roles.names role).map fun name => (name, role)

/-- The sentences about names that occur again; `seen` holds the names so far, the latest first. -/
def repetitions : List (String × Role) → List (String × Role) → List String
  | _, [] => []
  | seen, (name, role) :: rest =>
    let later := repetitions ((name, role) :: seen) rest
    match seen.lookup name with
    | some first => s!"'{name}' ({first.name} and {role.name})" :: later
    | none => later

def validate (roles : Roles) : Except DataError Unit :=
  match repetitions [] roles.assignments with
  | [] => .ok ()
  | found =>
    let listed := Text.join ", " found
    .error (.value s!"Column names must be unique across all roles. Found duplicate roles set for column(s): {listed}.")

def checked (roles : Roles) : Except DataError Roles := do
  roles.validate
  return roles

def ofMapping (mapping : List (Role × List String)) : Except DataError Roles :=
  (mapping.foldl (fun roles (role, added) => roles.add role added) empty).checked

def ofPairs (pairs : List (String × Role)) : Except DataError Roles :=
  (pairs.foldl (fun roles (name, role) => roles.add role [name]) empty).checked

def rules : List Json.FieldRule := Role.all.map fun role => .optional role.name

def ofJson (document : Json) : Except DataError Roles :=
  let buckets := do (← document.fields? rules).mapM (Json.orElse? Json.asStrings? [])
  match buckets with
  | some [categorical, joinKey, numerical, target, text, timeStamp, unusedFloat, unusedString] =>
    checked ⟨categorical, joinKey, numerical, target, text, timeStamp, unusedFloat, unusedString⟩
  | _ => .error (.engine .json)

theorem validate_of_checked (buckets roles : Roles) (accepted : buckets.checked = .ok roles) :
    roles.validate = .ok () := by
  unfold checked at accepted
  cases valid : buckets.validate with
  | ok =>
      rw [valid] at accepted
      obtain rfl := Except.ok.inj accepted
      exact valid
  | error cause =>
      rw [valid] at accepted
      cases accepted

theorem validate_of_ofJson (document : Json) (roles : Roles) (read : ofJson document = .ok roles) :
    roles.validate = .ok () := by
  unfold ofJson at read
  dsimp only at read
  split at read
  next => exact validate_of_checked _ roles read
  next => cases read

def toJson (roles : Roles) : Json :=
  .record (Role.all.map fun role => (role.name, .texts (roles.names role)))

def role? (roles : Roles) (name : String) : Option Role :=
  Role.all.find? fun role => (roles.names role).contains name

def contains (roles : Roles) (name : String) : Bool := (roles.role? name).isSome

def columns (roles : Roles) : List String := Role.all.flatMap roles.names

def presented (roles : Roles) : List String := Role.presented.flatMap roles.names

def toList (roles : Roles) : List Role :=
  Role.all.flatMap fun role => List.replicate (roles.names role).length role

def toMapping (roles : Roles) : Index Role := .ofList roles.assignments

/-- Both containers in one; where both name a column the second wins. -/
def update (roles other : Roles) : Roles :=
  ofBuckets fun role => ((roles.names role).filter fun name => !other.contains name) ++ other.names role

def unused (roles : Roles) : List String := roles.unusedFloat ++ roles.unusedString

def size (roles : Roles) : Nat := Role.all.foldr (fun role count => (roles.names role).length + count) 0

def isEmpty (roles : Roles) : Bool := roles.size = 0

def without (roles : Roles) (removed : List String) : Roles :=
  ofBuckets fun role => (roles.names role).filter fun name => !removed.contains name

/-- A copy in which a column has the given role; a new one comes last in its bucket. -/
def withColumn (roles : Roles) (name : String) (role : Role) : Roles :=
  ofBuckets fun other =>
    if other = role then
      if (roles.names role).contains name then roles.names role else roles.names role ++ [name]
    else (roles.names other).filter fun column => column ≠ name

def display (roles : Roles) : String :=
  Text.join "\n" (Role.all.filterMap fun role =>
    match roles.names role with
    | [] => none
    | names => some (s!"{role.name}:" ++ String.join (names.map fun name => s!"\n  - {name}")))

end Roles
end RelationalLearning
