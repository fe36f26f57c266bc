import RelationalLearning.Decimal.Read
import RelationalLearning.Json.Printer
import RelationalLearning.Roles
import RelationalLearning.Text.Blank

namespace RelationalLearning

inductive LocalColumn where
  | float (cells : List (Option Float))
  | string (cells : List (Option String))
  deriving BEq, Repr

namespace LocalColumn

def readCell? : Option String → Option (Option Float)
  | none => some none
  | some text => (Decimal.readFloat? (Text.trim text)).map some

/-- A column of numbers if there is a cell and all cells are numbers, else a column of texts. -/
def infer (cells : List (Option String)) : LocalColumn :=
  match cells.mapM readCell? with
  | some numbers => if cells.any Option.isSome then .float numbers else .string cells
  | none => .string cells

def length : LocalColumn → Nat
  | .float cells => cells.length
  | .string cells => cells.length

def standardRole : LocalColumn → Role
  | .float _ => .unusedFloat
  | .string _ => .unusedString

def toJson : LocalColumn → Json
  | .float cells => .array (cells.map (Json.option Json.number))
  | .string cells => .array (cells.map (Json.option .string))

end LocalColumn

structure LocalTable where
  columns : List (String × LocalColumn) := []
  deriving BEq, Repr

namespace LocalTable

/-- Adds a column, whose name must be new and whose length must be that of the others. -/
def push (table : LocalTable) (name : String) (column : LocalColumn) : Except DataError LocalTable :=
  if table.columns.any fun other => other.1 = name then
    .error (.value s!"Duplicate column name '{name}'.")
  else
    let grown : LocalTable := ⟨table.columns ++ [(name, column)]⟩
    match table.columns with
    | [] => .ok grown
    | (first, present) :: _ =>
      if present.length = column.length then .ok grown
      else .error (.value
        s!"Column '{name}' has {column.length} rows, but column '{first}' has {present.length}.")

def ofColumns (columns : List (String × LocalColumn)) : Except DataError LocalTable :=
  columns.foldlM (fun table (name, column) => table.push name column) {}

def rows (table : LocalTable) : Nat :=
  match table.columns with
  | [] => 0
  | (_, column) :: _ => column.length

def sniffedRoles (table : LocalTable) : Roles :=
  table.columns.foldl (fun roles (name, column) => roles.withColumn name column.standardRole) .empty

def toJson (table : LocalTable) : Json :=
  .record (table.columns.map fun (name, column) => (name, column.toJson))

end LocalTable
end RelationalLearning
