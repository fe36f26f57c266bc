import RelationalLearning.Column.Checked
import RelationalLearning.Validation

/-!
Tables: data frames, which the engine holds, and views on them. A view lays one change over its
base, an added column, dropped columns or a choice of rows; longer chains are views of views.
-/

namespace RelationalLearning

def timeStampUnit : String := "time stamp"

def comparisonOnly : String := ", comparison only"

/-- A data frame on the engine, with its columns and its last change as they were last asked for. -/
structure DataFrame where
  name : String
  roles : Roles
  lastChange : String := ""
  valid : roles.validate = .ok () := by rfl
  deriving DecidableEq, Repr

structure AddedColumn where
  column : Column
  name : String
  role : Role
  subroles : List String
  unit : String
  deriving Repr

structure Layer where
  name : Option String := none
  subselection : Option Column := none
  added : Option AddedColumn := none
  dropped : List String := []
  /-- The last change of the data frame when the first view on it was made. -/
  initialLastChange : String
  deriving Repr

inductive Table where
  | frame (frame : DataFrame)
  | view (base : Table) (layer : Layer)
  deriving Repr

structure View where
  base : Table
  layer : Layer
  deriving Repr

namespace DataFrame

def create (name : String) (roles : Roles) : Except DataError DataFrame := do
  match Validation.name name "name" with
  | .error reason => throw (.value reason)
  | .ok () => pure ()
  match valid : roles.validate with
  | .error cause => throw cause
  | .ok () => return { name, roles, valid }

def withReply (frame : DataFrame) (reply : Json) : Except DataError DataFrame :=
  match read : Roles.ofJson reply with
  | .error cause => .error cause
  | .ok roles => .ok { frame with roles, valid := Roles.validate_of_ofJson reply roles read }

def noColumn (frame : DataFrame) (name : String) : DataError :=
  .key s!"Column named '{name}' not found in data frame '{frame.name}'."

def column (frame : DataFrame) (name : String) : Except DataError Column :=
  match frame.roles.role? name with
  | none => .error (frame.noColumn name)
  | some role =>
    .ok (if role.isNumerical then .floatColumn name role frame.name else .stringColumn name role frame.name)

def toCommand (frame : DataFrame) : Json :=
  .record [("type_", .string "DataFrame"), ("name_", .string frame.name)]

end DataFrame

def AddedColumn.toCommand (added : AddedColumn) (lastChange : String) : Json :=
  .record [("col_", added.column.toCommand.set "last_change_" (.string lastChange)),
    ("name_", .string added.name), ("role_", .string added.role.name),
    ("subroles_", .texts added.subroles), ("unit_", .string added.unit)]

namespace Layer

def visible (layer : Layer) (role : Role) (names : List String) : List String :=
  let kept := names.filter fun name => !layer.dropped.contains name
  match layer.added with
  | none => kept
  | some added =>
    if added.role ≠ role then kept.filter fun name => name ≠ added.name
    else if kept.contains added.name then kept
    else kept ++ [added.name]

def roles (layer : Layer) (base : Roles) : Roles := .ofBuckets fun role => layer.visible role (base.names role)

def restrict (layer : Layer) (column : Column) : Column :=
  match layer.subselection with
  | some rows => column.subselect (.column rows)
  | none => column

end Layer

namespace Table

def name : Table → String
  | .frame data => data.name
  | .view base layer => layer.name.getD base.name

def roles : Table → Roles
  | .frame data => data.roles
  | .view base layer => layer.roles base.roles

def columnNames (table : Table) : List String := table.roles.presented

def column (table : Table) (name : String) : Except DataError Column :=
  match table with
  | .frame data => data.column name
  | .view base layer => do
    if layer.dropped.contains name then
      throw (.key s!"Cannot retrieve column '{name}'. It has been dropped.")
    match layer.added.filter fun added => added.name = name with
    | some added =>
      let column ← added.column.withSubroles added.subroles
      return layer.restrict (column.withUnit added.unit)
    | none => return layer.restrict (← base.column name)

def root : Table → DataFrame
  | .frame data => data
  | .view base _ => base.root

def withRoot (root : DataFrame) : Table → Table
  | .frame _ => .frame root
  | .view base layer => .view (base.withRoot root) layer

def lastChange (table : Table) : String := table.root.lastChange

def toCommand : Table → Json
  | .frame data => data.toCommand
  | .view base layer =>
    let lastChange := base.lastChange
    let added := layer.added.toList.map fun added => ("added_", added.toCommand lastChange)
    let rows := layer.subselection.toList.map fun rows =>
      ("subselection_", rows.toCommand.set "last_change_" (.string lastChange))
    .record (added ++ rows ++
      [("type_", .string "View"), ("base_", base.toCommand), ("dropped_", .texts layer.dropped),
        ("name_", .string (layer.name.getD base.name)), ("last_change_", .string lastChange)])

def initialLastChange : Table → String
  | .frame data => data.lastChange
  | .view _ layer => layer.initialLastChange

end Table

namespace View

def table (view : View) : Table := .view view.base view.layer

def ofTable (base : Table) : View := ⟨base, { initialLastChange := base.initialLastChange }⟩

def named (view : View) (name : String) : View := { view with layer.name := some name }

def subselected (view : View) (rows : Column) : View := { view with layer.subselection := some rows }

def adding (view : View) (added : AddedColumn) : View := { view with layer.added := some added }

def includeNew (present added : List String) : List String :=
  added.foldl (fun names name => if names.contains name then names else names ++ [name]) present

def dropping (view : View) (names : List String) : View :=
  { view with layer.dropped := includeNew view.layer.dropped names }

def name (view : View) : String := view.table.name

def roles (view : View) : Roles := view.table.roles

def selectColumns (view : View) (names : List String) : Except DataError View :=
  let present := view.table.columnNames
  match names.filter fun name => !present.contains name with
  | [] => .ok ((ofTable view.table).dropping (present.filter fun name => !names.contains name))
  | missing => .error (.key (Text.bracketed (missing.map Text.quoted) ++ " not found."))

end View

structure NewColumn where
  column : Column
  name : String
  role : Option Role := none
  subroles : List String := []
  unit : String := ""
  timeFormats : List String := []

def Family.standardRole : Family → Role
  | .float => .unusedFloat
  | _ => .unusedString

/-- Checks a new column, and casts it into the form in which its role is stored. -/
def NewColumn.resolve (new : NewColumn) : Except DataError AddedColumn := do
  match Validation.name new.name "name" with
  | .error reason => throw (.type reason)
  | .ok () => pure ()
  Subrole.validate new.subroles
  let role := new.role.getD new.column.family.standardRole
  return ⟨new.column.castFor role new.timeFormats, new.name, role, new.subroles, new.unit⟩

def Table.checkNames (table : Table) (names : List String) : Except DataError Unit :=
  match names.find? fun name => !table.columnNames.contains name with
  | none => .ok ()
  | some name => .error (.value s!"No column called '{name}' found.")

namespace Table

def withColumn (table : Table) (new : NewColumn) : Except DataError View :=
  new.resolve.map (View.ofTable table).adding

def drop (table : Table) (names : List String) : Except DataError View := do
  table.checkNames names
  return (View.ofTable table).dropping names

end Table
end RelationalLearning
