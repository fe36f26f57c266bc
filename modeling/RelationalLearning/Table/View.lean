import RelationalLearning.Table.DataFrame

namespace RelationalLearning

/-- The length in a reply; whatever else the reply says, the length is unknown. -/
def Length.ofReply (reply : Json) : Length :=
  match reply.field? "recordsTotal" with
  | some (.int rows) => if rows < 0 then .unknown else .finite rows.toNat
  | some (.string text) =>
    match Decimal.readWord? 64 text with
    | some rows => .finite rows
    | none => .unknown
  | _ => .unknown

namespace View

def check (session : Session) (view : View) : Client DataError Freshness := do
  let lastChange ← view.base.root.askLastChange session
  if lastChange = view.layer.initialLastChange then return .fresh
  Client.log .warn (s!"The data frame underlying view '{view.name}' was last changed at {lastChange}, " ++
    "which was after the creation of the view. This might lead to unexpected results. You might " ++
    "want to recreate the view.")
  return .stale

/-- How many rows a view has; unless `force` is set, the engine need not count them. -/
def rows (session : Session) (view : View) (force : Bool) : Client DataError Length := do
  let _ ← view.check session
  let columns ← Client.ofExcept (view.table.columnNames.mapM view.table.column)
  let link ← session.ask (Session.command "View.get_nrows" ""
    [("cols_", .array (columns.map Column.toCommand)), ("force_", .bool force)])
  let reply ← Link.receiveJson link
  return Length.ofReply reply

def toCsv (session : Session) (view : View) (path : String) (options : CsvOptions) : Client DataError Unit := do
  let _ ← view.check session
  session.send (Session.command "View.to_csv" view.name
    [("view_", view.table.toCommand), ("fname_", .string path), ("quotechar_", .string options.quote),
      ("sep_", .string options.separator), ("batch_size_", .nat options.batchSize)])

end View

namespace DataFrame

def readView (session : Session) (view : View) (append : Bool) : Updating DataFrame DataError Unit := do
  let _ ← view.check session
  let frame ← Updating.handle
  change session (frame.command "DataFrame.from_view"
    [("view_", view.table.toCommand), ("append_", .bool append)])

def ofView (session : Session) (name : String) (view : View) : Client DataError DataFrame := do
  let frame ← Client.ofExcept (create name .empty)
  (readView session view false).finish frame

def toCsv (session : Session) (frame : DataFrame) (path : String) (options : CsvOptions) : Client DataError Unit :=
  liftM (session.send (frame.command "DataFrame.to_csv"
    [("fname_", .string path), ("quotechar_", .string options.quote),
      ("sep_", .string options.separator), ("batch_size_", .nat options.batchSize)]))

end DataFrame

namespace Table

def check (session : Session) : Table → Client DataError Freshness
  | .frame _ => return .fresh
  | .view base layer => (View.mk base layer).check session

def rows (session : Session) : Table → Client DataError Length
  | .frame data => return .finite (← data.rows session)
  | .view base layer => (View.mk base layer).rows session true

def refresh (session : Session) : Updating Table DataError Unit :=
  (DataFrame.refresh session).onPart root withRoot

def toCsv (session : Session) (table : Table) (path : String) (options : CsvOptions) : Client DataError Unit :=
  match table with
  | .frame data => data.toCsv session path options
  | .view base layer => (View.mk base layer).toCsv session path options

/-- A view of some rows; a row number out of bounds is found by counting its view. -/
def select (session : Session) (table : Table) (selection : Selection) : Client DataError View := do
  let rows ← selection.resolve (table.rows session)
  let view := (View.ofTable table).subselected rows.column
  match selection with
  | .row _ => if (← view.rows session true) = .finite 0 then throw outOfBounds else return view
  | _ => return view

/-- Adds one column after another, each on top of the view before it. -/
def addEach (make : Table → String → Client DataError AddedColumn) :
    View → List String → Client DataError View
  | done, [] => return done
  | below, name :: names => do
    let added ← make below.table name
    addEach make ((View.ofTable below.table).adding added) names

def foldColumns (table : Table) (names : List String) (make : Table → String → Client DataError AddedColumn) :
    Client DataError View :=
  match names with
  | [] => throw (.value "At least one column name is required.")
  | first :: names => do
    let added ← make table first
    addEach make ((View.ofTable table).adding added) names

def withRole (session : Session) (table : Table) (names : List String) (role : Role)
    (timeFormats : List String) : Client DataError View := do
  Client.ofExcept (table.checkNames names)
  table.foldColumns names fun table name => do
    let column ← Client.ofExcept (table.column name)
    column.movedTo session name role timeFormats

def withSubroles (session : Session) (table : Table) (names subroles : List String) (append : Bool) :
    Client DataError View := do
  Client.ofExcept (Subrole.validate subroles)
  Client.ofExcept (table.checkNames names)
  table.foldColumns names fun table name => do
    let column ← Client.ofExcept (table.column name)
    let unit ← column.unit session
    let subroles ←
      if append then pure (View.includeNew (← column.subroles session) subroles)
      else pure subroles
    Client.ofExcept (NewColumn.resolve ⟨column, name, table.roles.role? name, subroles, unit, []⟩)

def withUnit (session : Session) (table : Table) (names : List String) (unit : String) (forComparison : Bool) :
    Client DataError View := do
  Client.ofExcept (table.checkNames names)
  table.foldColumns names fun table name => do
    let column ← Client.ofExcept (table.column name)
    let subroles ← column.subroles session
    Client.ofExcept (NewColumn.resolve
      ⟨column, name, table.roles.role? name, subroles, unitFor unit forComparison, []⟩)

def labels (session : Session) (name : String) (column : Column) : Client DataError (List Literal) :=
  match column.family with
  | .float => return (← column.uniqueFloats session).map .number
  | .string => return (← column.uniqueTexts session).map .text
  | .boolean => throw (.type s!"'{name}' is a boolean column. Use it as a target directly.")

def labelText : Literal → String
  | .text value => value
  | other => other.toJson.write

def addTargets (name : String) (column : Column) : Table → List Literal → Except DataError Table
  | table, [] => .ok table
  | table, label :: labels => do
    let target ← column.equalTo (.literal label)
    let written := labelText label
    let view ← table.withColumn ⟨target.asNumber, s!"{name}={written}", some .target, [], "", []⟩
    addTargets name column view.table labels

/-- One target of zeros and ones for every distinct entry of a column, instead of the column. -/
def makeTargetColumns (session : Session) (table : Table) (name : String) : Client DataError View := do
  let column ← Client.ofExcept (table.column name)
  let labels ← labels session name column
  if labels.length > 10 then
    Client.log .warn s!"'{name}' has {labels.length} distinct values. Every value becomes a target column."
  Client.ofExcept (do (← addTargets name column table labels).drop [name])

end Table
end RelationalLearning
