import RelationalLearning.Arrow.Stream
import RelationalLearning.Column.Selection
import RelationalLearning.Engine.Session

namespace RelationalLearning

def Length.parse (reply : String) : Except EngineError Length :=
  if reply = "infinite" then .ok .infinite
  else if reply = "unknown" then .ok .unknown
  else
    match Decimal.readWord? 64 (Text.trim reply) with
    | some rows => .ok (.finite rows)
    | none => .error (.protocol s!"Unexpected number of rows: '{reply}'")

def Length.receive (link : Nat) : Client EngineError Length := do
  let reply ← Link.receive link
  Client.ofExcept (Length.parse reply)

structure ColumnContent where
  total : Nat
  entries : List String
  deriving DecidableEq, Repr

namespace ColumnContent

def ofWritten? (written : Written) : Option ColumnContent := do
  match ← written.fields? [.required "recordsTotal", .required "data"] with
  | [some total, some data] =>
    let total ← total.value? Json.asNat?
    let rows ← (← data.items?).mapM fun row => row.items?.bind fun entries => entries.mapM Written.document?
    let entries := rows.filterMap fun row => row.head?.map fun entry =>
      match entry with
      | .string text => text
      | other => other.write
    return ⟨total, entries⟩
  | _ => none

/-- Reads the engine's reply; one that is not an object is a failure in the engine's own words. -/
def parse (reply : String) : Except EngineError ColumnContent :=
  if Text.startsWith reply "\x7b" then
    match (Json.written? reply).bind ofWritten? with
    | some content => .ok content
    | none => .error .json
  else .error (.refused reply)

def receive (link : Nat) : Client EngineError ColumnContent := do
  let reply ← Link.receive link
  Client.ofExcept (parse reply)

end ColumnContent

inductive Aggregate where
  | assertEqual | avg | count | countCategorical | countDistinct | max | median | min | stddev | sum | var
  deriving DecidableEq, Repr

namespace Aggregate

def all : List Aggregate :=
  [.assertEqual, .avg, .count, .countCategorical, .countDistinct, .max, .median, .min, .stddev, .sum, .var]

def name : Aggregate → String
  | .assertEqual => "assert_equal"
  | .avg => "avg"
  | .count => "count"
  | .countCategorical => "count_categorical"
  | .countDistinct => "count_distinct"
  | .max => "max"
  | .median => "median"
  | .min => "min"
  | .stddev => "stddev"
  | .sum => "sum"
  | .var => "var"

def named? (name : String) : Option Aggregate := all.find? fun aggregate => aggregate.name = name

def numerical : List Aggregate := [.assertEqual, .avg, .count, .max, .median, .min, .stddev, .sum, .var]

def ofFamily : Family → List Aggregate
  | .float => numerical
  | .string => [.count, .countDistinct]
  | .boolean => []

end Aggregate

namespace Column

def command (column : Column) (suffix : String) (fields : List (String × Json)) : Json :=
  Session.command s!"{column.family.command}.{suffix}" "" (("col_", column.toCommand) :: fields)

def aggregateCommand (column : Column) (aggregate : Aggregate) (label : String) : Json :=
  Session.command s!"{column.family.command}.aggregate" ""
    [("aggregation_", .record [("type_", .string aggregate.name), ("col_", column.toCommand),
      ("as_", .string label)])]

def rows (session : Session) (column : Column) : Client DataError Length := do
  let link ← session.askExpecting (column.command "nrows" []) found
  Length.receive link

def content (session : Session) (column : Column) (start length : Nat) : Client DataError ColumnContent := do
  let link ← session.ask (column.command "get_content"
    [("draw_", .int 1), ("start_", .nat start), ("length_", .nat length)])
  ColumnContent.receive link

/-- One entry as text; negative numbers count from the end. -/
def entry (session : Session) (column : Column) (index : Int) : Client DataError String := do
  let index ←
    if index < 0 then
      match ← column.rows session with
      | .finite length => pure (wrapped (index + length))
      | _ => throw (.index "Negative indices require a column of known length.")
    else pure index
  if index < 0 then throw outOfBounds
  let content ← column.content session index.toNat 1
  if content.total ≤ index.toNat && content.total > 0 then throw outOfBounds
  match content.entries with
  | entry :: _ => return entry
  | [] => throw outOfBounds

def batches (session : Session) (column : Column) : Client DataError Arrow.Table := do
  let link ← session.ask (column.command "get" [])
  Link.expectSuccess link
  let table ← Link.receiveTable link
  if column.family = .float then Link.expectSuccess link
  return table

/-- A batch column as numbers; moments become seconds, and missing entries are not a number. -/
def floatCells (type : Arrow.DataType) (cells : List Arrow.Cell) : Except DataError (List Float) :=
  match type with
  | .float64 => .ok (cells.map fun
      | .float value => value
      | _ => 0.0 / 0.0)
  | .timestampNs => .ok (cells.map fun
      | .int ticks => Float.ofInt ticks / 1e9
      | _ => 0.0 / 0.0)
  | other => .error (.type s!"Expected a numerical column, got {other.name}")

def textCells (type : Arrow.DataType) (cells : List Arrow.Cell) : Except DataError (List (Option String)) :=
  match type with
  | .utf8 | .largeUtf8 => .ok (cells.map fun
      | .text value => some value
      | _ => none)
  | other => .error (.type s!"Expected a string column, got {other.name}")

def truthCells (type : Arrow.DataType) (cells : List Arrow.Cell) : Except DataError (List Bool) :=
  match type with
  | .boolean => .ok (cells.map fun
      | .bool value => value
      | _ => false)
  | other => .error (.type s!"Expected a boolean column, got {other.name}")

/-- The entries of the first column of all batches; the first batch that does not fit decides. -/
def gather {α : Type} (read : Arrow.DataType → List Arrow.Cell → Except DataError (List α))
    (table : Arrow.Table) : Except DataError (List α) := do
  let parts ← table.batches.mapM fun batch => do
    match table.schema, batch with
    | (_, type) :: _, cells :: _ => read type cells
    | _, _ => .error (.engine (.protocol "The engine sent a batch without columns"))
  return parts.flatten

def floatEntries (session : Session) (column : Column) : Client DataError (List Float) := do
  let table ← column.batches session
  Client.ofExcept (gather floatCells table)

def textEntries (session : Session) (column : Column) : Client DataError (List (Option String)) := do
  let table ← column.batches session
  Client.ofExcept (gather textCells table)

def truthEntries (session : Session) (column : Column) : Client DataError (List Bool) := do
  let table ← column.batches session
  Client.ofExcept (gather truthCells table)

def uniqueFloats (session : Session) (column : Column) : Client DataError (List Float) := do
  let link ← session.ask (column.command "unique" [])
  Link.expectSuccess link
  let table ← Link.receiveTable link
  Link.expectSuccess link
  Client.ofExcept (gather floatCells table)

def uniqueTexts (session : Session) (column : Column) : Client DataError (List String) := do
  let link ← session.ask (column.command "unique" [])
  Link.expectSuccess link
  let table ← Link.receiveTable link
  return (← Client.ofExcept (gather textCells table)).filterMap id

def subroles (session : Session) (column : Column) : Client DataError (List String) := do
  if column.family = .boolean then return []
  let link ← session.ask (column.command "get_subroles" [])
  Link.expectSuccess link
  Link.receiveColumn link

def unit (session : Session) (column : Column) : Client DataError String := do
  if column.family = .boolean then return ""
  let link ← session.ask (column.command "get_unit" [])
  Link.expectSuccess link
  Link.receive link

def withAppendedSubroles (session : Session) (column : Column) (added : List String) : Client DataError Column := do
  Client.ofExcept (Subrole.validate added)
  let present ← column.subroles session
  Client.ofExcept (column.withSubroles (present ++ added))

def aggregate (session : Session) (column : Column) (aggregate : Aggregate) (label : String) :
    Client DataError Float := do
  let link ← session.ask (column.aggregateCommand aggregate label)
  Link.expectSuccess link
  let matrix ← Link.receiveMatrix link
  match matrix.entries with
  | value :: _ => return value
  | [] => throw (.engine (.protocol s!"Aggregation '{aggregate.name}' returned no value"))

def rowsForSelection (session : Session) (column : Column) : Client DataError Length := do
  Client.log .debug s!"Fetching the length of {column.kind.name} to resolve an index"
  column.rows session

/-- The chosen rows of a column; a row number out of bounds is found by asking for its view. -/
def select (session : Session) (column : Column) (selection : Selection) : Client DataError Column := do
  let rows ← selection.resolve (column.rowsForSelection session)
  let selected := column.subselect (.column rows.column)
  match selection with
  | .row _ => if (← selected.rows session) = .finite 0 then throw outOfBounds else return selected
  | _ => return selected

end Column

namespace StoredColumn

def setField (session : Session) (column : StoredColumn) (suffix field : String) (value : Json) :
    Client DataError Unit :=
  liftM (session.send (.record [("type_", .string s!"{column.kind.name}.{suffix}"),
    ("df_name_", .string column.frame), ("name_", .string column.name),
    ("role_", .string column.role.name), (field, value)]))

def setSubroles (session : Session) (column : StoredColumn) (subroles : List String) : Client DataError Unit := do
  Client.ofExcept (Subrole.validate subroles)
  column.setField session "set_subroles" "subroles_" (.texts subroles)

def setUnit (session : Session) (column : StoredColumn) (unit : String) : Client DataError Unit :=
  column.setField session "set_unit" "unit_" (.string unit)

end StoredColumn
end RelationalLearning
