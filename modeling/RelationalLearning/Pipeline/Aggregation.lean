import RelationalLearning.Error
import RelationalLearning.Text.Pieces

namespace RelationalLearning

inductive Aggregation where
  | avg | count | countDistinct | countDistinctOverCount | countMinusCountDistinct | ewma1S
  | ewma1M | ewma1H | ewma1D | ewma7D | ewma30D | ewma90D | ewma365D | ewmaTrend1S | ewmaTrend1M
  | ewmaTrend1H | ewmaTrend1D | ewmaTrend7D | ewmaTrend30D | ewmaTrend90D | ewmaTrend365D | first
  | kurtosis | last | max | median | min | mode | numMax | numMin | q1 | q5 | q10 | q25 | q75
  | q90 | q95 | q99 | skew | stddev | sum | timeSinceFirstMaximum | timeSinceFirstMinimum
  | timeSinceLastMaximum | timeSinceLastMinimum | trend | var | variationCoefficient
  deriving DecidableEq, Repr

namespace Aggregation

def name : Aggregation → String
  | .avg => "AVG"
  | .count => "COUNT"
  | .countDistinct => "COUNT DISTINCT"
  | .countDistinctOverCount => "COUNT DISTINCT OVER COUNT"
  | .countMinusCountDistinct => "COUNT MINUS COUNT DISTINCT"
  | .ewma1S => "EWMA_1S"
  | .ewma1M => "EWMA_1M"
  | .ewma1H => "EWMA_1H"
  | .ewma1D => "EWMA_1D"
  | .ewma7D => "EWMA_7D"
  | .ewma30D => "EWMA_30D"
  | .ewma90D => "EWMA_90D"
  | .ewma365D => "EWMA_365D"
  | .ewmaTrend1S => "EWMA_TREND_1S"
  | .ewmaTrend1M => "EWMA_TREND_1M"
  | .ewmaTrend1H => "EWMA_TREND_1H"
  | .ewmaTrend1D => "EWMA_TREND_1D"
  | .ewmaTrend7D => "EWMA_TREND_7D"
  | .ewmaTrend30D => "EWMA_TREND_30D"
  | .ewmaTrend90D => "EWMA_TREND_90D"
  | .ewmaTrend365D => "EWMA_TREND_365D"
  | .first => "FIRST"
  | .kurtosis => "KURTOSIS"
  | .last => "LAST"
  | .max => "MAX"
  | .median => "MEDIAN"
  | .min => "MIN"
  | .mode => "MODE"
  | .numMax => "NUM MAX"
  | .numMin => "NUM MIN"
  | .q1 => "Q1"
  | .q5 => "Q5"
  | .q10 => "Q10"
  | .q25 => "Q25"
  | .q75 => "Q75"
  | .q90 => "Q90"
  | .q95 => "Q95"
  | .q99 => "Q99"
  | .skew => "SKEW"
  | .stddev => "STDDEV"
  | .sum => "SUM"
  | .timeSinceFirstMaximum => "TIME SINCE FIRST MAXIMUM"
  | .timeSinceFirstMinimum => "TIME SINCE FIRST MINIMUM"
  | .timeSinceLastMaximum => "TIME SINCE LAST MAXIMUM"
  | .timeSinceLastMinimum => "TIME SINCE LAST MINIMUM"
  | .trend => "TREND"
  | .var => "VAR"
  | .variationCoefficient => "VARIATION COEFFICIENT"

def all : List Aggregation :=
  [.avg, .count, .countDistinct, .countDistinctOverCount, .countMinusCountDistinct, .ewma1S,
    .ewma1M, .ewma1H, .ewma1D, .ewma7D, .ewma30D, .ewma90D, .ewma365D, .ewmaTrend1S,
    .ewmaTrend1M, .ewmaTrend1H, .ewmaTrend1D, .ewmaTrend7D, .ewmaTrend30D, .ewmaTrend90D,
    .ewmaTrend365D, .first, .kurtosis, .last, .max, .median, .min, .mode, .numMax, .numMin, .q1,
    .q5, .q10, .q25, .q75, .q90, .q95, .q99, .skew, .stddev, .sum, .timeSinceFirstMaximum,
    .timeSinceFirstMinimum, .timeSinceLastMaximum, .timeSinceLastMinimum, .trend, .var,
    .variationCoefficient]

def fastPropStandard : List Aggregation :=
  [.avg, .count, .countDistinct, .countMinusCountDistinct, .first, .last, .max, .median, .min,
    .mode, .stddev, .sum, .trend]

def fastPropMinimal : List Aggregation :=
  [.avg, .count, .max, .min, .sum]

def multirelAll : List Aggregation :=
  [.avg, .count, .countDistinct, .countMinusCountDistinct, .first, .last, .max, .median, .min,
    .stddev, .sum, .var]

def multirelStandard : List Aggregation :=
  [.avg, .count, .max, .min, .sum]

def multirelMinimal : List Aggregation :=
  [.avg, .count, .sum]

def mappingAll : List Aggregation :=
  [.avg, .count, .countDistinct, .countDistinctOverCount, .countMinusCountDistinct, .kurtosis,
    .max, .median, .min, .mode, .numMax, .numMin, .q1, .q5, .q10, .q25, .q75, .q90, .q95, .q99,
    .skew, .stddev, .sum, .var, .variationCoefficient]

def mappingStandard : List Aggregation :=
  [.avg]

def parse (text : String) : Except PipelineError Aggregation :=
  match all.find? fun aggregation => aggregation.name = text with
  | some aggregation => .ok aggregation
  | none => .error (.invalidArgument s!"Unknown aggregation: '{text}'")

def check (aggregations supported : List Aggregation) (owner : String) : Except PipelineError Unit :=
  if aggregations.isEmpty then
    .error (.invalidArgument s!"'aggregation' of {owner} must not be empty")
  else
    match aggregations.filter fun aggregation => !supported.contains aggregation with
    | [] => .ok ()
    | unsupported =>
      let listed := Text.join ", " (unsupported.map name)
      .error (.invalidArgument s!"{owner} does not support these aggregations: {listed}")

end Aggregation
end RelationalLearning
