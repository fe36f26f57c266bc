import RelationalLearning.Pipeline.Feature

namespace RelationalLearning

structure ImportantColumn (α : Type) where
  index : Nat
  name : String
  marker : String
  table : String
  target : String
  importance : α
  deriving BEq, Repr

def ImportantColumn.description {α : Type} (column : ImportantColumn α) : String :=
  s!"{column.marker} {column.table}.{column.name}"

structure ImportantTable (α : Type) where
  name : String
  importance : α
  target : String
  marker : String
  deriving BEq, Repr

abbrev ImportantColumns := List (ImportantColumn Figure)

namespace ImportantColumns

def ofReport (target : String) (report : Json) : Except EngineError ImportantColumns := do
  let descriptions ← TargetReport.list report "column_descriptions_"
  let importances := TargetReport.figuresFor report "column_importances_" descriptions.length
  let textAt (description : Json) (name : String) : String := (description.field name).asString?.getD ""
  return descriptions.mapFinIdx fun index description inside =>
    ⟨index, textAt description "name_", textAt description "marker_", textAt description "table_", target,
      importances.figure index inside⟩

def load (session : Session) (pipeline : String) (targets : List String) :
    Client EngineError ImportantColumns := do
  let columns ← targets.zipIdx.mapM fun (target, index) => do
    let report ← TargetReport.ask session "Pipeline.column_importances" pipeline index
    Client.ofExcept (ofReport target report)
  return columns.flatten

def sortByImportance (columns : ImportantColumns) : ImportantColumns :=
  Ranking.descending (fun column => column.importance.rank) columns

end ImportantColumns

namespace ImportantTable

variable {α : Type}

/-- Adds a column to the entry of its table; the marker is that of the last column. -/
def sumInto [Add α] (column : ImportantColumn α) : List (ImportantTable α) → List (ImportantTable α)
  | [] => [⟨column.table, column.importance, column.target, column.marker⟩]
  | table :: rest =>
    if table.name = column.table then
      { table with importance := table.importance + column.importance, marker := column.marker } :: rest
    else table :: sumInto column rest

def ofColumns [Add α] (columns : List (ImportantColumn α)) : List (ImportantTable α) :=
  columns.foldl (fun tables column => sumInto column tables) []

def ofTargets [Add α] (columns : List (ImportantColumn α)) (targets : List String) : List (ImportantTable α) :=
  targets.flatMap fun target => ofColumns (columns.filter fun column => column.target = target)

end ImportantTable

abbrev ImportantTables := List (ImportantTable Figure)

def ImportantTables.sortByImportance (tables : ImportantTables) : ImportantTables :=
  Ranking.descending (fun table => table.importance.rank) tables

end RelationalLearning
