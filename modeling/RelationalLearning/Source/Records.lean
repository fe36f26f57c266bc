import RelationalLearning.Json.Parser
import RelationalLearning.Source.LocalTable
import RelationalLearning.Text.Utf8

namespace RelationalLearning.Records

def isNumeric : Json → Bool
  | .int _ | .float _ | .bool _ | .null => true
  | _ => false

/-- The number in a cell; true is one and false zero. -/
def number? : Json → Option Float
  | .bool value => some (if value then 1.0 else 0.0)
  | other => other.asFloat?

def text? : Json → Option String
  | .null => none
  | .string text => some text
  | other => some other.write

/-- A column of numbers if there is a cell and all cells are numbers or truth values, else a column of texts. -/
def column (cells : List Json) : LocalColumn :=
  if cells.all isNumeric && cells.any (fun cell => !cell.isNull) then .float (cells.map number?)
  else .string (cells.map text?)

abbrev Record := List (String × Json)

def names (records : List Record) : List String :=
  records.foldl (fun seen record =>
    record.foldl (fun seen (name, _) => if seen.contains name then seen else seen ++ [name]) seen) []

def cells (records : List Record) (name : String) : List Json :=
  records.map fun record => (record.lookup name).getD .null

def table (records : List Record) : Except DataError LocalTable :=
  LocalTable.ofColumns ((names records).map fun name => (name, column (cells records name)))

def tableOfColumns (columns : Record) : Except DataError LocalTable :=
  columns.foldlM (fun table (name, values) =>
    match values with
    | .array cells => table.push name (column cells)
    | _ => .error (.parse s!"Column '{name}' is not an array")) {}

def tableOfJson : Json → Except DataError LocalTable
  | .array items => do
    let records ← items.mapM fun item =>
      match item with
      | .object fields => .ok fields
      | other =>
        let written := other.write
        .error (.parse s!"Expected a JSON object, got {written}")
    table records
  | .object columns => tableOfColumns columns
  | _ => .error (.parse "Expected a JSON array of records or an object of columns")

def read (content : Except DataError Text.Bytes) : Except DataError LocalTable := do
  match (Text.decode? (← content)).bind Json.parse? with
  | some document => tableOfJson document
  | none => throw (.engine .json)

end RelationalLearning.Records
