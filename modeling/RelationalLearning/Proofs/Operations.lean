import RelationalLearning.CommandLine.Program
import RelationalLearning.Proofs.DataModel.InStep
import RelationalLearning.Proofs.Pipeline.Operations

namespace RelationalLearning

variable {ε σ α : Type}

def Client.after (action : Client ε α) (world : World) : World := (action world).2

def Updating.after (action : Updating σ ε α) (handle : σ) (world : World) : World :=
  (action.runOn handle world).2

inductive Session.Operation where
  | isAlive
  | isMonitorAlive
  | projectName
  | monitorUrl

def Session.Operation.after (session : Session) : Operation → World → World
  | .isAlive => session.isAlive.after
  | .isMonitorAlive => session.isMonitorAlive.after
  | .projectName => session.projectName.after
  | .monitorUrl => session.monitorUrl.after

inductive Column.Operation where
  | rows
  | content (start length : Nat)
  | entry (index : Int)
  | batches
  | floatEntries
  | textEntries
  | truthEntries
  | uniqueFloats
  | uniqueTexts
  | subroles
  | unit
  | withAppendedSubroles (added : List String)
  | aggregate (aggregate : Aggregate) (label : String)
  | select (selection : Selection)

def Column.Operation.after (session : Session) (column : Column) : Operation → World → World
  | .rows => (column.rows session).after
  | .content start length => (column.content session start length).after
  | .entry index => (column.entry session index).after
  | .batches => (column.batches session).after
  | .floatEntries => (column.floatEntries session).after
  | .textEntries => (column.textEntries session).after
  | .truthEntries => (column.truthEntries session).after
  | .uniqueFloats => (column.uniqueFloats session).after
  | .uniqueTexts => (column.uniqueTexts session).after
  | .subroles => (column.subroles session).after
  | .unit => (column.unit session).after
  | .withAppendedSubroles added => (column.withAppendedSubroles session added).after
  | .aggregate function label => (column.aggregate session function label).after
  | .select selection => (column.select session selection).after

inductive StoredColumn.Operation where
  | setSubroles (subroles : List String)
  | setUnit (unit : String)

def StoredColumn.Operation.after (session : Session) (column : StoredColumn) :
    Operation → World → World
  | .setSubroles subroles => (column.setSubroles session subroles).after
  | .setUnit unit => (column.setUnit session unit).after

namespace DataFrame

inductive Operation where
  | rows
  | bytes
  | askLastChange
  | refresh
  | add (new : NewColumn)
  | setRole (names : List String) (role : Role) (timeFormats : List String)
  | setSubroles (names subroles : List String) (append : Bool)
  | setUnit (names : List String) (unit : String) (forComparison : Bool)
  | removeColumn (name : String)
  | delete (onlyMemory : Bool)
  | save
  | load
  | freeze
  | copy (name : String)
  | readCsv (paths : List String) (append : Bool) (options : CsvOptions)
  | readJson (document : String) (append : Bool) (timeFormats : List String)
  | readParquet (path : String) (append : Bool)
  | readArrow (table : Arrow.Table) (append : Bool)
  | readView (view : View) (append : Bool)
  | toCsv (path : String) (options : CsvOptions)

def Operation.after (session : Session) (frame : DataFrame) : Operation → World → World
  | .rows => (frame.rows session).after
  | .bytes => (frame.bytes session).after
  | .askLastChange => (frame.askLastChange session).after
  | .refresh => (DataFrame.refresh session).after frame
  | .add new => (DataFrame.add session new).after frame
  | .setRole names role timeFormats =>
    (DataFrame.setRole session names role timeFormats).after frame
  | .setSubroles names subroles append => (frame.setSubroles session names subroles append).after
  | .setUnit names unit forComparison => (frame.setUnit session names unit forComparison).after
  | .removeColumn name => (DataFrame.removeColumn session name).after frame
  | .delete onlyMemory => (frame.delete session onlyMemory).after
  | .save => (frame.save session).after
  | .load => (DataFrame.load session).after frame
  | .freeze => (frame.freeze session).after
  | .copy name => (frame.copy session name).after
  | .readCsv paths append options => (DataFrame.readCsv session paths append options).after frame
  | .readJson document append timeFormats =>
    (DataFrame.readJson session document append timeFormats).after frame
  | .readParquet path append => (DataFrame.readParquet session path append).after frame
  | .readArrow table append => (DataFrame.readArrow session table append).after frame
  | .readView view append => (DataFrame.readView session view append).after frame
  | .toCsv path options => (frame.toCsv session path options).after

inductive Source where
  | concat (tables : List Table)
  | view (view : View)
  | localTable (source : String) (table : LocalTable) (roles : Option Roles) (only : Bool)
  | csvFile (path : String) (options : CsvOptions) (roles : Option Roles)
  | records (records : List Records.Record) (roles : Option Roles) (only : Bool)
  | arrow (table : Arrow.Table) (roles : Option Roles) (only : Bool)

def Source.after (session : Session) (name : String) : Source → World → World
  | .concat tables => (DataFrame.concat session name tables).after
  | .view shown => (DataFrame.ofView session name shown).after
  | .localTable source table roles only =>
    (DataFrame.ofLocalTable session name source table roles only).after
  | .csvFile path options roles => (DataFrame.ofCsvFile session name path options roles).after
  | .records entries roles only => (DataFrame.ofRecords session name entries roles only).after
  | .arrow table roles only => (DataFrame.ofArrow session name table roles only).after

end DataFrame

inductive Table.Operation where
  | check
  | rows
  | refresh
  | toCsv (path : String) (options : CsvOptions)
  | select (selection : Selection)
  | withRole (names : List String) (role : Role) (timeFormats : List String)
  | withSubroles (names subroles : List String) (append : Bool)
  | withUnit (names : List String) (unit : String) (forComparison : Bool)
  | makeTargetColumns (name : String)

def Table.Operation.after (session : Session) (table : Table) : Operation → World → World
  | .check => (table.check session).after
  | .rows => (table.rows session).after
  | .refresh => (Table.refresh session).after table
  | .toCsv path options => (table.toCsv session path options).after
  | .select selection => (table.select session selection).after
  | .withRole names role timeFormats => (table.withRole session names role timeFormats).after
  | .withSubroles names subroles append => (table.withSubroles session names subroles append).after
  | .withUnit names unit forComparison => (table.withUnit session names unit forComparison).after
  | .makeTargetColumns name => (table.makeTargetColumns session name).after

inductive Pipeline.Report where
  | features (targets : List String)
  | columns (targets : List String)
  | sql (options : SqlOptions)

def Pipeline.Report.after (session : Session) (id : String) : Report → World → World
  | .features targets => (Features.load session id targets).after
  | .columns targets => (ImportantColumns.load session id targets).after
  | .sql options => (SqlCode.load session id options).after

inductive Project.Operation where
  | dataFrames
  | pipelines
  | existsInMemory (name : String)
  | deleteDataFrame (name : String) (onlyMemory : Bool)
  | loadDataFrame (name : String)
  | deletePipeline (id : String) (onlyMemory : Bool)
  | deleteAllPipelines (onlyMemory : Bool)
  | engineVersion
  | set (name : String)
  | restart (name : String)
  | list
  | listRunning
  | suspend (name : String)
  | delete (name : String)
  | save (name : String) (options : BundleOptions)
  | load (bundle name : String)
  | shutdown

def Project.Operation.after (session : Session) : Operation → World → World
  | .dataFrames => (Project.dataFrames session).after
  | .pipelines => (Project.pipelines session).after
  | .existsInMemory name => (Project.existsInMemory session name).after
  | .deleteDataFrame name onlyMemory => (Project.deleteDataFrame session name onlyMemory).after
  | .loadDataFrame name => (Project.loadDataFrame session name).after
  | .deletePipeline id onlyMemory => (Pipeline.deleteById session id onlyMemory).after
  | .deleteAllPipelines onlyMemory => (Project.deleteAllPipelines session onlyMemory).after
  | .engineVersion => (Project.engineVersion session).after
  | .set name => (Project.set session name).after
  | .restart name => (Project.restart session name).after
  | .list => (Project.list session).after
  | .listRunning => (Project.listRunning session).after
  | .suspend name => (Project.suspend session name).after
  | .delete name => (Project.delete session name).after
  | .save name options => (Project.save session name options).after
  | .load bundle name => (Project.load session bundle name).after
  | .shutdown => (Project.shutdown session).after

/-- Everything the library does for its user; documents of the user's own making are not sent. -/
inductive Operation where
  | session (operation : Session.Operation)
  | column (column : Column) (operation : Column.Operation)
  | storedColumn (column : StoredColumn) (operation : StoredColumn.Operation)
  | inheritMetadata (new : NewColumn)
  | frame (frame : DataFrame) (operation : DataFrame.Operation)
  | make (name : String) (source : DataFrame.Source)
  | table (table : Table) (operation : Table.Operation)
  | viewRows (view : View) (force : Bool)
  | container (population : Option Table)
  | randomSplit (container : Container) (fractions : List (String × Float)) (seed : Nat)
  | starSchema (population : Table) (name : Option String)
  | onStarSchema (star : StarSchema) (operation : StarSchema.Operation)
  | timeSeries (population : Table) (name : Option String) (options : JoinOptions)
  | pipeline (pipeline : Pipeline) (operation : Pipeline.Operation)
  | pipelineReport (id : String) (report : Pipeline.Report)
  | project (operation : Project.Operation)
  | program (words : List String)
    (content : String → Except ConfigurationError Configuration)

def Operation.after (session : Session) : Operation → World → World
  | .session operation => operation.after session
  | .column handle operation => operation.after session handle
  | .storedColumn handle operation => operation.after session handle
  | .inheritMetadata new => (new.inheritMetadata session).after
  | .frame handle operation => operation.after session handle
  | .make name source => source.after session name
  | .table handle operation => operation.after session handle
  | .viewRows view force => (view.rows session force).after
  | .container population => (Container.create population : Client DataError Container).after
  | .randomSplit handle fractions seed => (Container.randomSplit fractions seed).after handle
  | .starSchema population name =>
    (StarSchema.create population name : Client DataError StarSchema).after
  | .onStarSchema star operation => operation.action.after star
  | .timeSeries population name options => (TimeSeries.create population name options).after
  | .pipeline handle operation => (operation.action session).after handle
  | .pipelineReport id report => report.after session id
  | .project operation => operation.after session
  | .program words content => fun world => (CommandLine.perform words content world).2

end RelationalLearning
