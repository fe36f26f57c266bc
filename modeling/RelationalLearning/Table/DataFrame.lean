import RelationalLearning.Column.Remote
import RelationalLearning.Engine.Updating
import RelationalLearning.Source.Csv
import RelationalLearning.Source.Records
import RelationalLearning.Table.Basic

namespace RelationalLearning

inductive Freshness where
  | fresh | stale
  deriving DecidableEq, Repr

namespace NewColumn

/-- Takes the subroles and the unit that are left open from the column as the engine knows it. -/
def inheritMetadata (session : Session) (new : NewColumn) : Client DataError NewColumn := do
  if new.column.family = .boolean then return new
  let subroles ← if new.subroles.isEmpty then new.column.subroles session else pure new.subroles
  let unit ← if new.unit.isEmpty then new.column.unit session else pure new.unit
  return { new with subroles, unit }

end NewColumn

def unitFor (unit : String) (forComparison : Bool) : String :=
  if forComparison then unit ++ comparisonOnly else unit

def Column.movedTo (session : Session) (column : Column) (name : String) (role : Role)
    (timeFormats : List String) : Client DataError AddedColumn := do
  let unit ←
    if role = .timeStamp then pure (unitFor timeStampUnit true)
    else column.unit session
  let subroles ← column.subroles session
  Client.ofExcept (NewColumn.resolve ⟨column, name, role, subroles, unit, timeFormats⟩)

namespace DataFrame

def command (frame : DataFrame) (kind : String) (fields : List (String × Json)) : Json :=
  Session.command kind frame.name fields

def ingestion (frame : DataFrame) (kind : String) (append : Bool) (fields : List (String × Json)) :
    Except DataError Json :=
  if frame.roles.isEmpty then
    .error (.value (s!"Reading data is only possible in a data frame with more than zero columns. " ++
      s!"Define the roles of '{frame.name}' first or use one of the from_* constructors."))
  else
    let roles := frame.roles
    .ok (frame.command kind ([("append_", .bool append), ("categorical_", .texts roles.categorical),
      ("join_keys_", .texts roles.joinKey), ("numerical_", .texts roles.numerical),
      ("targets_", .texts roles.target), ("text_", .texts roles.text),
      ("time_stamps_", .texts roles.timeStamp), ("unused_floats_", .texts roles.unusedFloat),
      ("unused_strings_", .texts roles.unusedString)] ++ fields))

def askNumber (session : Session) (frame : DataFrame) (kind what : String) : Client DataError Nat := do
  let link ← session.askExpecting (frame.command kind []) found
  let reply ← Link.receive link
  match Decimal.readWord? 64 (Text.trim reply) with
  | some value => return value
  | none => throw (.engine (.protocol s!"Invalid {what} count '{reply}'"))

def rows (session : Session) (frame : DataFrame) : Client DataError Nat :=
  frame.askNumber session "DataFrame.nrows" "row"

def bytes (session : Session) (frame : DataFrame) : Client DataError Nat :=
  frame.askNumber session "DataFrame.nbytes" "byte"

def askLastChange (session : Session) (frame : DataFrame) : Client DataError String := do
  let link ← session.ask (frame.command "DataFrame.last_change" [])
  Link.expectSuccess link
  Link.receive link

/-- Asks for the roles and then for the last change; the new roles stay when the second fails. -/
def refresh (session : Session) : Updating DataFrame DataError Unit := do
  let frame ← Updating.handle
  let reply : Json ← show Client DataError Json from do
    Link.receiveJson (← session.ask (frame.command "DataFrame.refresh" []))
  let frame ← Updating.ofExcept (frame.withReply reply)
  Updating.replace frame
  let lastChange ← frame.askLastChange session
  Updating.replace { frame with lastChange }
  Updating.ofClient
    (Client.log .debug s!"Refreshed data frame '{frame.name}' ({frame.roles.size} columns)")

def addResolved (session : Session) (added : AddedColumn) : Updating DataFrame DataError Issues := do
  let frame ← Updating.handle
  let kind :=
    if added.column.family = .string then "DataFrame.add_categorical_column" else "DataFrame.add_column"
  let issues : Issues ← show Client DataError Issues from do
    let link ← session.ask (Session.command kind added.name
      [("col_", added.column.toCommand), ("df_name_", .string frame.name),
        ("role_", .string added.role.name), ("subroles_", .texts added.subroles),
        ("unit_", .string added.unit)])
    let issues ← Link.receiveIssues link
    Link.expectSuccess link
    for issue in issues do
      Client.log .warn issue.display
    return issues
  refresh session
  return issues

def add (session : Session) (new : NewColumn) : Updating DataFrame DataError Issues := do
  let added : AddedColumn ← show Client DataError AddedColumn from do
    let new ← new.inheritMetadata session
    Client.ofExcept new.resolve
  addResolved session added

def checkNames (frame : DataFrame) (names : List String) : Except DataError Unit :=
  match names with
  | [] => .error (.value "At least one column name is required.")
  | names =>
    match names.find? fun name => !frame.roles.contains name with
    | none => .ok ()
    | some name => .error (.value s!"No column called '{name}' found.")

def setRoleOf (session : Session) (role : Role) (timeFormats : List String) :
    List String → Updating DataFrame DataError Issues
  | [] => return []
  | name :: names => do
    let frame ← Updating.handle
    let added : AddedColumn ← show Client DataError AddedColumn from do
      let column ← Client.ofExcept (frame.column name)
      column.movedTo session name role timeFormats
    let issues ← addResolved session added
    return issues ++ (← setRoleOf session role timeFormats names)

def setRole (session : Session) (names : List String) (role : Role) (timeFormats : List String) :
    Updating DataFrame DataError Issues := do
  let frame ← Updating.handle
  Updating.ofExcept (frame.checkNames names)
  setRoleOf session role timeFormats names

def storedColumn (frame : DataFrame) (name : String) : Except DataError StoredColumn :=
  match frame.roles.role? name with
  | none => .error (frame.noColumn name)
  | some role => .ok (.create 0 role.isCategorical name role frame.name)

def setSubroles (session : Session) (frame : DataFrame) (names subroles : List String) (append : Bool) :
    Client DataError Unit := do
  Client.ofExcept (Subrole.validate subroles)
  Client.ofExcept (frame.checkNames names)
  for name in names do
    let column ← Client.ofExcept (frame.storedColumn name)
    let subroles ←
      if append then pure (View.includeNew (← (Column.stored column).subroles session) subroles)
      else pure subroles
    column.setSubroles session subroles

def setUnit (session : Session) (frame : DataFrame) (names : List String) (unit : String)
    (forComparison : Bool) : Client DataError Unit := do
  Client.ofExcept (frame.checkNames names)
  for name in names do
    let column ← Client.ofExcept (frame.storedColumn name)
    column.setUnit session (unitFor unit forComparison)

def change (session : Session) (command : Json) : Updating DataFrame DataError Unit := do
  Updating.ofClient (session.send command)
  refresh session

def removeColumn (session : Session) (name : String) : Updating DataFrame DataError Unit := do
  let frame ← Updating.handle
  if !frame.roles.contains name then throw (frame.noColumn name)
  change session (Session.command "DataFrame.remove_column" name [("df_name_", .string frame.name)])

def delete (session : Session) (frame : DataFrame) (onlyMemory : Bool) : Client DataError Unit :=
  liftM (session.send (frame.command "DataFrame.delete" [("mem_only_", .bool onlyMemory)]))

def save (session : Session) (frame : DataFrame) : Client DataError Unit :=
  liftM (session.send (frame.command "DataFrame.save" []))

def load (session : Session) : Updating DataFrame DataError Unit := do
  change session ((← Updating.handle).command "DataFrame.load" [])

def freeze (session : Session) (frame : DataFrame) : Client DataError Unit :=
  liftM (session.send (frame.command "DataFrame.freeze" []))

def concat (session : Session) (name : String) (tables : List Table) : Client DataError DataFrame := do
  match Validation.name name "name" with
  | .error reason => throw (.value reason)
  | .ok () => pure ()
  if tables.isEmpty then throw (.value "'tables' must not be empty.")
  liftM (session.send (Session.command "DataFrame.concat" name
    [("data_frames_", .array (tables.map Table.toCommand))]))
  let frame ← Client.ofExcept (create name .empty)
  (refresh session).finish frame

def copy (session : Session) (frame : DataFrame) (name : String) : Client DataError DataFrame :=
  concat session name [.frame frame]

def formatsOr (formats : List String) : List String :=
  if formats.isEmpty then standardTimeFormats else formats

def ingest (kind : String) (append : Bool) (fields : List (String × Json)) :
    Updating DataFrame DataError Json := do
  let frame ← Updating.handle
  Updating.ofExcept (frame.ingestion kind append fields)

def readCsv (session : Session) (paths : List String) (append : Bool) (options : CsvOptions) :
    Updating DataFrame DataError Unit := do
  let names := options.names.toList.map fun names => ("colnames_", Json.texts names)
  let command ← ingest "DataFrame.read_csv" append (names ++
    [("fnames_", .texts paths), ("num_lines_read_", .nat options.limit),
      ("quotechar_", .string options.quote), ("sep_", .string options.separator),
      ("skip_", .nat options.skip), ("time_formats_", .texts (formatsOr options.timeFormats))])
  change session command

def readJson (session : Session) (document : String) (append : Bool) (timeFormats : List String) :
    Updating DataFrame DataError Unit := do
  let command ← ingest "DataFrame.from_json" append [("time_formats_", .texts (formatsOr timeFormats))]
  Updating.ofClient (show Client DataError Unit from do
    let link ← session.ask command
    Link.sendText link document
    Link.expectSuccess link)
  refresh session

def readParquet (session : Session) (path : String) (append : Bool) : Updating DataFrame DataError Unit := do
  change session (← ingest "DataFrame.read_parquet" append [("fname_", .string path)])

def readArrow (session : Session) (table : Arrow.Table) (append : Bool) : Updating DataFrame DataError Unit := do
  let command ← ingest "DataFrame.from_arrow" append []
  Updating.ofClient (show Client DataError Unit from do
    let link ← session.ask command
    Link.sendTable link table
    Link.expectSuccess link)
  refresh session

/-- The roles found in the data, overridden by those given; with `only` the given ones alone. -/
def mergeRoles (sniffed : Roles) (roles : Option Roles) (only : Bool) : Roles :=
  match roles with
  | none => sniffed
  | some roles => if only then roles else sniffed.update roles

def ofLocalTable (session : Session) (name source : String) (table : LocalTable) (roles : Option Roles)
    (only : Bool) : Client DataError DataFrame := do
  Client.log .debug s!"Read {table.rows} rows from '{source}'"
  let frame ← Client.ofExcept (create name (mergeRoles table.sniffedRoles roles only))
  (readJson session table.toJson.write false []).finish frame

def ofCsvFile (session : Session) (name path : String) (options : CsvOptions) (roles : Option Roles) :
    Client DataError DataFrame := do
  let content ← Client.attempt (Client.fileBytes path)
  let table ← Client.ofExcept (Csv.read path options content)
  ofLocalTable session name path table roles false

def ofRecords (session : Session) (name : String) (records : List Records.Record) (roles : Option Roles)
    (only : Bool) : Client DataError DataFrame := do
  let table ← Client.ofExcept (Records.table records)
  ofLocalTable session name "records" table roles only

def sniffedRoles (schema : Arrow.Schema) : Roles :=
  schema.foldl (fun roles (name, type) =>
    roles.withColumn name (if type.isNumeric then .unusedFloat else .unusedString)) .empty

def storedColumns (path : String) (stored : Option Arrow.Table) : Except DataError Arrow.Table :=
  match stored with
  | some table => .ok table
  | none => .error (.parse s!"'{path}': it is not a file of stored columns")

def ofArrow (session : Session) (name : String) (table : Arrow.Table) (roles : Option Roles) (only : Bool) :
    Client DataError DataFrame := do
  let frame ← Client.ofExcept (create name (mergeRoles (sniffedRoles table.schema) roles only))
  (readArrow session table false).finish frame

end DataFrame
end RelationalLearning
