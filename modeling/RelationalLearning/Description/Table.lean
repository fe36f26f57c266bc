import RelationalLearning.Arrow.Table
import RelationalLearning.DataModel.Join
import RelationalLearning.Description.Expression
import RelationalLearning.Source.Csv
import RelationalLearning.Source.Records
import RelationalLearning.Table.Basic

namespace RelationalLearning.Description

def csvOptions (document : Json) : Result CsvOptions := do
  let standard : CsvOptions := {}
  let texts (name : String) (otherwise : String) : Result String := do
    return (← field (optional text) name document).getD otherwise
  let counts (name : String) : Result Nat := do return (← field (optional count) name document).getD 0
  return {
    separator := ← texts "sep" standard.separator
    quote := ← texts "quotechar" standard.quote
    skip := ← counts "skip"
    limit := ← counts "num_lines_read"
    names := ← field (optional strings) "colnames" document
    timeFormats := ← field strings "time_formats" document
    batchSize := ← counts "batch_size" }

def records : Json → Result (List Records.Record) := items fun item => need item.asObject?

def cells {α : Type} (read : Json → Result α) : Json → Result (List (Option α)) := items (optional read)

def localColumn : Json → Result LocalColumn
  | .object [("float", numbers)] => do return .float (← cells float numbers)
  | .object [("string", texts)] => do return .string (← cells text texts)
  | _ => .error .malformed

def storedType? : String → Option Arrow.DataType
  | "f64" => some .float64
  | "f32" => some .float32
  | "i64" => some .int64
  | "i32" => some .int32
  | "u8" => some .uint8
  | "bool" => some .boolean
  | "utf8" => some .utf8
  | "large_utf8" => some .largeUtf8
  | "ts_ns" => some .timestampNs
  | "ts_s" => some .timestampS
  | "date32" => some .date32
  | "date64" => some .date64
  | "time32" => some .time32
  | "binary" => some .binary
  | "null" => some .null
  | _ => none

def schema : Json → Result Arrow.Schema :=
  items (pair text fun type => do need (storedType? (← text type)))

/-- A cell of a type; one of another kind is missing. -/
def storedCell (type : Arrow.DataType) (cell : Json) : Arrow.Cell :=
  match type with
  | .float64 | .float32 => ((float? cell).map .float).getD .missing
  | .boolean => (cell.asBool?.map .bool).getD .missing
  | .utf8 | .largeUtf8 => (cell.asString?.map .text).getD .missing
  | _ => (cell.asInt?.map .int).getD .missing

def stored (document : Json) : Result Arrow.Table := do
  let schema ← field schema "schema" document
  let batch (columns : Json) : Result (List (List Arrow.Cell)) := do
    (schema.zip (← need columns.asArray?)).mapM fun ((_, type), cells) => do
      return (← need cells.asArray?).map (storedCell type)
  return ⟨schema, ← field (list batch) "batches" document⟩

def newColumn (scope : ExpressionScope) (document : Json) : Result NewColumn := do
  return ⟨← field (Expression.column scope) "col" document, ← field text "name" document,
    ← field (optional role) "role" document, ← field strings "subroles" document,
    (← field (optional text) "unit" document).getD "", ← field strings "time_formats" document⟩

def joinKey : Json → Result (String × String)
  | .string name => .ok (name, name)
  | other => pair text text other

def joinOptions (document : Json) : Result JoinOptions := do
  let on ← field (list joinKey) "on" document
  let timeStamps ← field (optional joinKey) "time_stamps" document
  let upperTimeStamp ← field (optional text) "upper_time_stamp" document
  let relationship ← match ← field (optional text) "relationship" document with
    | none => pure Relationship.manyToMany
    | some name => ofData (Relationship.parse name)
  return ⟨on, timeStamps, upperTimeStamp, relationship, ← field (optional float) "memory" document,
    ← field (optional float) "horizon" document, flag (document.field "lagged_targets")⟩

end RelationalLearning.Description
