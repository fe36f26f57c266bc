import RelationalLearning.Source.LocalTable
import RelationalLearning.Text.Utf8

/-!
Tables from comma-separated lines. A record ends with a line; lines without any character are
passed over. A field may stand between quotes, and then holds separators and line ends; a quote in
it is written twice.
-/

namespace RelationalLearning

open Text (Bytes)

structure CsvOptions where
  separator : String := ","
  quote : String := "\""
  skip : Nat := 0
  /-- How many lines are read at most; zero means all of them. -/
  limit : Nat := 0
  /-- The names of the columns, when no line of the file holds them. -/
  names : Option (List String) := none
  timeFormats : List String := []
  /-- How many lines a written file has at most; zero means a single file. -/
  batchSize : Nat := 0
  deriving DecidableEq, Repr

namespace Csv

inductive State where
  | start
  | field
  | plain
  | quoted
  /-- Behind a quote inside a quoted field, which may be the first of two or the closing one. -/
  | afterQuote
  deriving DecidableEq, Repr

structure Dialect where
  separator : UInt8
  quote : UInt8
  deriving DecidableEq, Repr

def isLineEnd (byte : UInt8) : Bool := byte = 10 || byte = 13

inductive Action where
  | drop (next : State)
  | copy (next : State)
  | endField
  | endRecord
  deriving DecidableEq, Repr

def between (dialect : Dialect) (byte : UInt8) : Action :=
  if byte = dialect.separator then .endField
  else if isLineEnd byte then .endRecord
  else .copy .plain

def action (dialect : Dialect) (byte : UInt8) : State → Action
  | .start =>
    if isLineEnd byte then .drop .start
    else if byte = dialect.quote then .drop .quoted
    else between dialect byte
  | .field => if byte = dialect.quote then .drop .quoted else between dialect byte
  | .plain => between dialect byte
  | .quoted => if byte = dialect.quote then .drop .afterQuote else .copy .quoted
  | .afterQuote => if byte = dialect.quote then .copy .quoted else between dialect byte

/-- Splits bytes into records. `current` holds the field that is being read, reversed, and `fields` those before it, reversed. -/
def split (dialect : Dialect) : State → Bytes → List Bytes → Bytes → List (List Bytes)
  | .start, _, _, [] => []
  | _, current, fields, [] => [(current.reverse :: fields).reverse]
  | state, current, fields, byte :: rest =>
    match action dialect byte state with
    | .drop next => split dialect next current fields rest
    | .copy next => split dialect next (byte :: current) fields rest
    | .endField => split dialect .field [] (current.reverse :: fields) rest
    | .endRecord => (current.reverse :: fields).reverse :: split dialect .start [] [] rest

def withoutMark : Bytes → Bytes
  | 0xEF :: 0xBB :: 0xBF :: rest => rest
  | bytes => bytes

def texts (record : List Bytes) : Except DataError (List String) :=
  match record.mapM Text.decode? with
  | some fields => .ok fields
  | none => .error (.parse "CSV parse error: a record is not valid UTF-8")

def singleByte (value what : String) : Except DataError UInt8 :=
  match Text.encode value with
  | [byte] => .ok byte
  | _ => .error (.value s!"'{what}' must be a single character.")

def dialect (options : CsvOptions) : Except DataError Dialect := do
  let separator ← singleByte options.separator "sep"
  let quote ← singleByte options.quote "quotechar"
  return ⟨separator, quote⟩

def cell (field : String) : Option String := if field.isEmpty then none else some field

def header (path : String) (options : CsvOptions) (records : List (List Bytes)) :
    Except DataError (List String × List (List Bytes)) :=
  match options.names with
  | some names => .ok (names, records)
  | none =>
    match records with
    | [] => .error (.parse s!"'{path}' is empty")
    | first :: rest => return (← texts first, rest)

/-- The fields of a record that must have as many as there are columns; `line` counts the records from zero. -/
def arity (path : String) (width : Nat) (line : Nat) (record : List Bytes) : Except DataError (List String) := do
  let fields ← texts record
  if fields.length = width then return fields
  else throw (.parse s!"Line {line + 1} of '{path}' has {fields.length} fields, expected {width}")

def window {α : Type} (limit : Nat) (records : List α) : List α :=
  if limit = 0 then records else records.take limit

def columnAt (rows : List (List String)) (index : Nat) : List (Option String) :=
  rows.map fun row => cell (row[index]?.getD "")

def tableOf (path : String) (options : CsvOptions) (records : List (List Bytes)) : Except DataError LocalTable := do
  let (names, body) ← header path options (records.drop options.skip)
  let rows ← (window options.limit body).zipIdx.mapM fun (record, line) => arity path names.length line record
  LocalTable.ofColumns (names.zipIdx.map fun (name, index) => (name, .infer (columnAt rows index)))

def read (path : String) (options : CsvOptions) (content : Except DataError Bytes) : Except DataError LocalTable := do
  let dialect ← dialect options
  let bytes ← content
  tableOf path options (split dialect .start [] [] (withoutMark bytes))

end Csv
end RelationalLearning
