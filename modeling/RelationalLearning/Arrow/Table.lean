import RelationalLearning.Json.Basic

namespace RelationalLearning.Arrow

inductive DataType where
  | float64 | float32 | int64 | int32 | uint8
  | boolean
  | utf8 | largeUtf8
  | timestampNs | timestampS
  | date32 | date64 | time32
  | binary | null
  deriving DecidableEq, Repr

def DataType.name : DataType → String
  | .float64 => "Float64"
  | .float32 => "Float32"
  | .int64 => "Int64"
  | .int32 => "Int32"
  | .uint8 => "UInt8"
  | .boolean => "Boolean"
  | .utf8 => "Utf8"
  | .largeUtf8 => "LargeUtf8"
  | .timestampNs => "Timestamp(Nanosecond, None)"
  | .timestampS => "Timestamp(Second, None)"
  | .date32 => "Date32"
  | .date64 => "Date64"
  | .time32 => "Time32(Second)"
  | .binary => "Binary"
  | .null => "Null"

def DataType.isNumeric : DataType → Bool
  | .float64 | .float32 | .int64 | .int32 | .uint8 => true
  | .boolean | .timestampNs | .timestampS | .date32 | .date64 => true
  | .utf8 | .largeUtf8 | .time32 | .binary | .null => false

inductive Cell where
  | missing
  | float (value : Float)
  | int (value : Int)
  | bool (value : Bool)
  | text (value : String)
  deriving Repr, BEq

abbrev Schema := List (String × DataType)

abbrev Batch := List (List Cell)

structure Table where
  schema : Schema
  batches : List Batch
  deriving Repr, BEq

def Batch.rows : Batch → Nat
  | [] => 0
  | column :: _ => column.length

end RelationalLearning.Arrow
