import RelationalLearning.Arrow.Table
import RelationalLearning.Column.Selection
import RelationalLearning.Engine.Issue
import RelationalLearning.Engine.Matrix
import RelationalLearning.Overview.Failure
import RelationalLearning.Pipeline.Figure
import RelationalLearning.Source.LocalTable

/-!
Overviews: documents that say all about a value, for those who look at it from outside. Numbers
without digits are words here.
-/

namespace RelationalLearning

def Json.figure (value : Float) : Json :=
  if value.isNaN then .string "NaN"
  else if value.isFinite then .float value
  else if value < 0.0 then .string "-inf"
  else .string "inf"

def Json.figures (values : List Float) : Json := .array (values.map figure)

def Json.nats (values : List Nat) : Json := .array (values.map nat)

def Json.ints (values : List Int) : Json := .array (values.map int)

def Json.listOf {α : Type} (write : α → Json) (values : List α) : Json := .array (values.map write)

def Json.extent {α : Type} (values : List α) : List (String × Json) :=
  [("len", .nat values.length), ("is_empty", .bool values.isEmpty)]

def Figure.overview (figure : Figure) : Json := .figure figure.value

def Matrix.overview (matrix : Matrix) : Json :=
  .record [("shape", .nats [matrix.rows, matrix.columns]), ("data", .figures matrix.entries),
    ("is_empty", .bool matrix.isEmpty)]

def Length.overview : Length → Json
  | .finite rows => .nat rows
  | other => .string other.display

def Length.account (length : Length) : Json :=
  .record [("length", length.overview), ("finite", .option .nat length.finite?),
    ("infinite", .bool (length = .infinite))]

def Matrix.lines (matrix : Matrix) (row column : Nat) : Json :=
  .record [("shape", .nats [matrix.rows, matrix.columns]), ("is_empty", .bool matrix.isEmpty),
    ("row", .option .figures (matrix.row? row)), ("column", .option .figures (matrix.column? column))]

def Slice.overview (slice : Slice) : Json :=
  Json.listOf (Json.option .int) [slice.start, slice.stop, slice.step]

def Slice.account (slice : Slice) (rows : Nat) : Except DataError Json := do
  let (start, stop, step) ← slice.indices rows
  return .record [("indices", .ints [start, stop, step]), ("needs_length", .bool slice.needsLength)]

def Issue.overview (issue : Issue) : Json := .texts [issue.kind, issue.label, issue.message]

def Issues.overview (issues : Issues) : Json :=
  .record (Json.extent issues ++
    [("display", .string issues.display), ("items", Json.listOf Issue.overview issues)])

def Issues.account (issues : Issues) (kind : Option String) : Json :=
  let all := issues.overview.set "iterated" (Json.listOf Issue.toJson issues)
  match kind with
  | none => all
  | some kind => all.set "of_type" (.texts ((issues.ofKind kind).map (·.message)))

def Role.overview (role : Role) : Json :=
  .record [("name", .string role.name), ("categorical", .bool role.isCategorical),
    ("numerical", .bool role.isNumerical)]

def Roles.account (roles : Roles) (name : String) : Json :=
  .record [("role", .option (fun role => .string role.name) (roles.role? name)),
    ("contains", .bool (roles.contains name))]

def Roles.overview (roles : Roles) : Json :=
  .record [("json", roles.toJson), ("columns", .texts roles.columns), ("colnames", .texts roles.presented),
    ("list", .texts (roles.toList.map Role.name)),
    ("mapping", .record (roles.toMapping.map fun (name, role) => (name, .string role.name))),
    ("unused", .texts roles.unused), ("len", .nat roles.size), ("is_empty", .bool roles.isEmpty),
    ("display", .string roles.display),
    ("valid", Json.checked (fun _ => .bool true) roles.validate)]

def LocalColumn.overview : LocalColumn → Json
  | .float cells => .record [("float", Json.listOf (Json.option .figure) cells)]
  | .string cells => .record [("string", Json.listOf (Json.option .string) cells)]

def LocalTable.overview (table : LocalTable) : Json :=
  let line (name : String) (column : LocalColumn) : Json :=
    .array [.string name, column.overview, .string column.standardRole.name, .nat column.length,
      .bool (column.length = 0)]
  .record [("nrows", .nat table.rows), ("ncols", .nat table.columns.length),
    ("columns", Json.listOf (fun column => line column.1 column.2) table.columns),
    ("sniffed", table.sniffedRoles.toJson), ("json", .string table.toJson.write)]

def LocalTable.pushes (columns : List (String × LocalColumn)) : Json :=
  let (pushed, table) := columns.foldl (fun (answers, table) (name, column) =>
    let pushed := LocalTable.push table name column
    (answers ++ [Json.checked (fun _ => .string "ok") pushed], pushed.toOption.getD table))
    (([], {}) : List Json × LocalTable)
  .record [("pushed", .array pushed), ("table", table.overview)]

namespace Arrow

def Cell.overview (type : DataType) (cell : Cell) : Json :=
  match type, cell with
  | _, .missing => .null
  | .float64, .float value => .figure value
  | .boolean, .bool value => .bool value
  | .int64, .int value => .int value
  | .utf8, .text value => .string value
  | other, _ => .string s!"<{other.name}>"

def Table.overview (table : Table) : Json :=
  let column (type : DataType) (cells : List Cell) : Json := Json.listOf (Cell.overview type) cells
  .record [
    ("schema", Json.listOf (fun (name, type) => .texts [name, type.name]) table.schema),
    ("batches", Json.listOf (fun batch =>
      .array ((table.schema.zip batch).map fun ((_, type), cells) => column type cells)) table.batches)]

end Arrow
end RelationalLearning
