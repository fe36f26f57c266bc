namespace RelationalLearning

abbrev Index (α : Type) := List (String × α)

namespace Index

variable {α : Type}

def insert (name : String) (value : α) : Index α → Index α
  | [] => [(name, value)]
  | (other, old) :: rest =>
    if name = other then (name, value) :: rest
    else if name < other then (name, value) :: (other, old) :: rest
    else (other, old) :: insert name value rest

/-- Sorts values by their names; of values with the same name the last is kept. -/
def ofList (entries : List (String × α)) : Index α :=
  entries.foldl (fun index (name, value) => insert name value index) []

def names (index : Index α) : List String := index.map (·.1)

def has (index : Index α) (name : String) : Bool := (index.lookup name).isSome

end Index
end RelationalLearning
