import RelationalLearning.Description.Pipeline
import RelationalLearning.Overview.Value
import RelationalLearning.Pipeline.Fitting

namespace RelationalLearning

def Aggregation.overview (aggregation : Aggregation) : Json :=
  .record [("name", .string aggregation.name), ("multirel", .bool (multirelAll.contains aggregation)),
    ("mapping", .bool (mappingAll.contains aggregation)), ("json", .string aggregation.name)]

def Aggregation.lists : Json :=
  let names (list : List Aggregation) : Json := .texts (list.map Aggregation.name)
  .record [("ALL", names all), ("FASTPROP_DEFAULT", names fastPropStandard),
    ("FASTPROP_MINIMAL", names fastPropMinimal), ("MULTIREL_ALL", names multirelAll),
    ("MULTIREL_DEFAULT", names multirelStandard), ("MULTIREL_MINIMAL", names multirelMinimal),
    ("MAPPING_ALL", names mappingAll), ("MAPPING_DEFAULT", names mappingStandard)]

def LossFunction.overview (loss : LossFunction) : Json :=
  .record [("name", .string loss.name), ("classification", .bool loss.isClassification)]

def Preprocessor.overview (preprocessor : Preprocessor) : Json :=
  .record [("type_name", .string preprocessor.kind), ("validate", Json.accepted preprocessor.validate),
    ("cmd", Json.checked (fun command => command) preprocessor.toCommand)]

def Learner.overview (fallback : LossFunction) (learner : Learner) : Json :=
  .record [("type_name", .string learner.kind),
    ("loss_function", .option (fun loss => .string (LossFunction.name loss)) learner.lossFunction),
    ("validate", Json.accepted learner.validate),
    ("cmd", Json.checked (fun command => command) (learner.toCommand fallback))]

def Predictor.overview (predictor : Predictor) : Json :=
  .record [("type_name", .string predictor.kind), ("validate", Json.accepted predictor.validate),
    ("cmd", Json.checked (fun command => command) predictor.toCommand),
    ("is_classifier", .bool predictor.isClassifier)]

def Description.componentOverview (document : Json) : Result Json := do
  let type ← typeOf document
  if (Learner.standard? type).isSome then
    let fallback := (← field (optional lossFunction) "fallback" document).getD .square
    return (← learner document).overview fallback
  else if (Predictor.standard? type).isSome then return (← predictor document).overview
  else return (← preprocessor document).overview

def Pipeline.stateOverview (pipeline : Pipeline) : Json :=
  .record [("id", .option .string pipeline.id), ("fitted", .bool pipeline.id.isSome),
    ("scored", .bool pipeline.isScored), ("targets", .texts pipeline.targets)]

def Pipeline.overview (pipeline : Pipeline) : Json :=
  let blueprint := pipeline.blueprint
  .record [("cmd", Json.checked (fun command => command) (blueprint.toCommand "some_id")),
    ("validate", Json.accepted blueprint.validate),
    ("is_classification", Json.checked .bool blueprint.isClassification),
    ("loss_function", .string blueprint.effectiveLoss.name),
    ("peripheral", Json.checked .texts blueprint.peripheralNames), ("tags", .texts blueprint.tags),
    ("population", .nat blueprint.dataModel.population), ("display", .string pipeline.display),
    ("state", pipeline.stateOverview)]

def Metric.each (write : Metric → Json) : Json :=
  .record (all.map fun metric => (metric.name, write metric))

def Score.overview (score : Score) : Json :=
  .record [("date_time", .string score.moment.plain), ("set_used", .string score.setUsed),
    ("target", .string score.target), ("metrics", Metric.each fun metric => (score.metric metric).overview)]

def Scores.fields (scores : Scores) : List (String × Json) :=
  Json.extent scores.entries ++
    [("is_classification", .bool scores.isClassification),
      ("items", Json.listOf Score.overview scores.entries),
      ("last", .option Score.overview scores.entries.getLast?),
      ("latest", Metric.each fun metric => Json.listOf Figure.overview (scores.latest metric))]

def Scores.overview (scores : Scores) (set metric : Option String) : Json :=
  let filtered := set.toList.map fun set =>
    ("filtered", Json.record (scores.filter fun score => score.setUsed = set).fields)
  let sorted := metric.toList.flatMap fun metric =>
    [("sorted", Json.listOf Score.overview (scores.sortByNamed metric).entries),
      ("latest_metric", Json.listOf Figure.overview (scores.latestNamed metric))]
  .record (scores.fields ++ filtered ++ sorted)

/-- What is kept of a list of results: those for which `value` stands under `key`, else those that matter. -/
def Ranking.chosen {α : Type} (field : α → String) (importance : α → Figure) (known : String)
    (key value : String) (entries : List α) : List α :=
  entries.filter fun entry => if key = known then field entry = value else (importance entry).exceeds 0.25

def Feature.overview (feature : Feature) : Json :=
  .array [.nat feature.index, .string feature.name, .string feature.target, feature.correlation.overview,
    feature.importance.overview]

def Features.overview (features : Features) (key value : String) : Json :=
  .record (Json.extent features ++
    [("items", Json.listOf Feature.overview features), ("names", .texts features.names),
      ("correlations", Json.listOf (fun feature => feature.correlation.overview) features),
      ("importances", Json.listOf (fun feature => feature.importance.overview) features),
      ("by_importance", .texts features.sortByImportance.names),
      ("by_correlation", .texts features.sortByCorrelation.names),
      ("filtered", Json.listOf Feature.overview
        (Ranking.chosen (·.target) (·.importance) "target" key value features)),
      ("get", .option (fun feature => .nat (Feature.index feature)) (features.get? value))])

def ImportantColumn.overview (column : ImportantColumn Figure) : Json :=
  .array [.nat column.index, .string column.name, .string column.marker, .string column.table,
    .string column.target, column.importance.overview, .string column.description]

def ImportantColumns.overview (columns : ImportantColumns) (key value : String) : Json :=
  .record (Json.extent columns ++
    [("items", Json.listOf ImportantColumn.overview columns), ("names", .texts (columns.map (·.name))),
      ("importances", Json.listOf (fun column => column.importance.overview) columns),
      ("by_importance", .texts (columns.sortByImportance.map (·.name))),
      ("filtered", Json.listOf ImportantColumn.overview
        (Ranking.chosen (·.marker) (·.importance) "marker" key value columns))])

def ImportantTable.overview (table : ImportantTable Figure) : Json :=
  .array [.string table.name, table.importance.overview, .string table.target, .string table.marker]

def ImportantTables.overview (tables : ImportantTables) (key value : String) : Json :=
  .record (Json.extent tables ++
    [("items", Json.listOf ImportantTable.overview tables), ("names", .texts (tables.map (·.name))),
      ("importances", Json.listOf (fun table => table.importance.overview) tables),
      ("targets", .texts (tables.map (·.target))),
      ("by_importance", Json.listOf ImportantTable.overview tables.sortByImportance),
      ("filtered", Json.listOf ImportantTable.overview
        (Ranking.chosen (·.target) (·.importance) "target" key value tables))])

def SqlCode.overview (code : SqlCode) : Json :=
  .record [("code", .texts code.statements), ("dialect", .string code.dialect), ("display", .string code.display)]

end RelationalLearning
