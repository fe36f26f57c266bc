import RelationalLearning.DataModel.StarSchema
import RelationalLearning.Overview.Value

namespace RelationalLearning

def Column.overview (column : Column) : Json :=
  .record [("type", .string column.kind.name), ("cmd", column.toCommand), ("display", .string column.display),
    ("infer_name", .string column.inferName),
    ("name", .option .string column.name?),
    ("operator", .option (fun operator => .string operator.name) column.operator?),
    ("range_len", .option .nat column.rangeLength?)]

def Operand.overview (operand : Operand) : Json :=
  .record [("type", .string operand.kind.name), ("cmd", operand.toCommand)]

def Column.trials (column : Column) (operand : Operand) : Json :=
  let shown : Except DataError Column → Json :=
    Json.checked fun column => .option (fun operator => .string operator.name) column.operator?
  .record [("equal", shown (column.equalTo operand)), ("not_equal", shown (column.notEqualTo operand)),
    ("greater", shown (column.ordered "greater" operand)), ("add", shown (column.add operand)),
    ("minus", shown (column.arithmetic "minus" operand)), ("and", shown (column.conjunction operand)),
    ("or", shown (column.disjunction operand)), ("xor", shown (column.exclusion operand)),
    ("not", shown column.complement)]

def Subselection.kind : Subselection → String
  | .range .. => "range"
  | .mask _ => "mask"
  | .numbers _ => "numeric"

def Subselection.overview (rows : Subselection) : Json :=
  .record [("kind", .string rows.kind), ("cmd", rows.column.toCommand),
    ("range_len", .option .nat rows.rangeLength?), ("column", .string rows.column.display)]

def Selection.resolution (selection : Selection) (length : Option Length) : Json :=
  let rows : ExceptT DataError (StateM Nat) Length := do
    modify (· + 1)
    match length with
    | some length => return length
    | none => throw (.notSupported "no length")
  let (result, asked) := (selection.resolve rows).run.run 0
  .record [("asked", .nat asked), ("result", Json.checked Subselection.overview result)]

def AddedColumn.overview (added : AddedColumn) : Json :=
  .record [("name", .string added.name), ("role", .string added.role.name), ("subroles", .texts added.subroles),
    ("unit", .string added.unit), ("cmd", added.toCommand "LC")]

def DataFrame.overview (frame : DataFrame) : Json :=
  .record [("name", .string frame.name), ("roles", frame.roles.toJson),
    ("colnames", .texts frame.roles.presented), ("ncols", .nat frame.roles.presented.length),
    ("last_change", .string frame.lastChange), ("cmd", frame.toCommand)]

def View.overview (view : View) : Json :=
  let names := view.table.columnNames
  .record [("name", .string view.name), ("roles", view.roles.toJson), ("colnames", .texts names),
    ("ncols", .nat names.length), ("dropped", .texts view.layer.dropped),
    ("added", .option (fun added => .string added.name) view.layer.added),
    ("subselection", .option (fun rows => .string rows.display) view.layer.subselection),
    ("last_change", .string view.table.lastChange),
    ("initial_last_change", .string view.layer.initialLastChange), ("cmd", view.table.toCommand)]

def Placeholder.overview (placeholder : Placeholder) : Json :=
  .record [("name", .string placeholder.name), ("roles", placeholder.roles.toJson),
    ("columns", .texts placeholder.roles.columns)]

def Placeholder.account (placeholder : Placeholder) (name : String) (others : Option Roles) : Json :=
  let after := others.toList.map fun roles => ("after", { placeholder with roles }.overview)
  .record ([("info", placeholder.overview), ("get", Json.checked .string (placeholder.get name))] ++ after)

def Table.overview (table : Table) : Json :=
  .record [("name", .string table.name), ("roles", table.roles.toJson),
    ("colnames", .texts table.columnNames), ("cmd", table.toCommand),
    ("last_change", .string table.lastChange), ("root", .string table.root.name),
    ("placeholder", (table.placeholder none).overview)]

def Freshness.name : Freshness → String
  | .fresh => "Fresh"
  | .stale => "Stale"

def JoinOptions.overview (options : JoinOptions) : Json :=
  let pair (names : String × String) : Json := .texts [names.1, names.2]
  .record [("on", Json.listOf pair options.on), ("time_stamps", .option pair options.timeStamps),
    ("upper_time_stamp", .option .string options.upperTimeStamp),
    ("relationship", .string options.relationship.name), ("memory", .option .figure options.memory),
    ("horizon", .option .figure options.horizon), ("lagged_targets", .bool options.laggedTargets)]

def JoinKeys.overview (on : List (String × String)) : Json := Json.listOf (fun (a, b) => .texts [a, b]) on

def JoinKeys.account (on : List (String × String)) : Json :=
  let (left, right) := JoinKeys.encode on
  .record [("left", .string left), ("right", .string right),
    ("decoded", Json.checked JoinKeys.overview (JoinKeys.decode left right))]

def Join.overview (join : Join) : Json := .array [.nat join.right, join.options.overview]

def PlaceholderGraph.overview (graph : PlaceholderGraph) (id : Nat) : Json :=
  let shown {α : Type} (write : α → Json) : Except DataError α → Json := Json.checked write
  .record [("placeholder", shown Placeholder.overview (graph.placeholder id)),
    ("joins", shown (Json.listOf Join.overview) (graph.joins id)),
    ("parent", shown (Json.option .nat) (graph.parent id)), ("population", shown .nat (graph.population id)),
    ("list", shown .nats (graph.toList id)), ("children", shown .nats (graph.children id)),
    ("cmd", shown (fun command => command) (graph.toCommand id)),
    ("describe", shown .string (graph.describe id)), ("len", .nat graph.size),
    ("is_empty", .bool (graph.size = 0))]

def PlaceholderGraph.summary (graph : PlaceholderGraph) (root : Nat) : Json :=
  let shown {α : Type} (write : α → Json) : Except DataError α → Json := Json.checked write
  .record [("len", .nat graph.size), ("root", .nat root), ("list", shown .nats (graph.toList root)),
    ("cmd", shown (fun command => command) (graph.toCommand root)),
    ("describe", shown .string (graph.describe root)),
    ("joins", shown (Json.listOf Join.overview) (graph.joins root))]

def DataModel.overview (model : DataModel) : Json :=
  .record [("names", .texts model.names), ("peripheral_names", .texts model.peripheralNames),
    ("population", .nat model.population),
    ("cmd", Json.checked (fun command => command) model.toCommand),
    ("display", Json.checked .string model.display)]

def Container.overview (container : Container) : Json :=
  .record [("display", .string container.display), ("id_len", .nat container.id.length),
    ("frozen", .bool container.frozen),
    ("population", .option (fun table => .string (Table.name table)) container.population),
    ("peripheral", Json.listOf (fun (name, table) => .texts [name, Table.name table]) container.peripheral),
    ("subsets", .texts container.subsets.names)]

def Subset.overview (subset : Subset) : Json :=
  .record [("name", .string subset.name), ("container", .string subset.container),
    ("population", subset.population.toCommand),
    ("peripheral", Json.listOf (fun (name, table) => .array [.string name, Table.toCommand table])
      subset.peripheral)]

def StarSchema.overview (star : StarSchema) : Json :=
  .record [("data_model", star.model.overview), ("container", star.container.overview)]

end RelationalLearning
