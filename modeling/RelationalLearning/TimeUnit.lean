namespace RelationalLearning

inductive TimeUnit where
  | milliseconds | seconds | minutes | hours | days | weeks
  deriving DecidableEq, Repr

namespace TimeUnit

def named? : String → Option TimeUnit
  | "milliseconds" => some .milliseconds
  | "seconds" => some .seconds
  | "minutes" => some .minutes
  | "hours" => some .hours
  | "days" => some .days
  | "weeks" => some .weeks
  | _ => none

def toSeconds (count : Float) : TimeUnit → Float
  | .milliseconds => count / 1000.0
  | .seconds => count
  | .minutes => count * 60.0
  | .hours => count * 3600.0
  | .days => count * 86400.0
  | .weeks => count * 604800.0

end TimeUnit
end RelationalLearning
