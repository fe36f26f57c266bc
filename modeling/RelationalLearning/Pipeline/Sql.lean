import RelationalLearning.Engine.Session

namespace RelationalLearning

structure SqlOptions where
  targets : Bool := true
  subfeatures : Bool := true
  dialect : String := "sqlite3"
  schema : String := ""
  categoricalWidth : Nat := 128
  joinKeyWidth : Nat := 128
  textWidth : Nat := 4096
  sizeThreshold : Option Nat := some 50000
  deriving DecidableEq, Repr

structure SqlCode where
  statements : List String
  dialect : String
  deriving DecidableEq, Repr

namespace SqlCode

def separator : String := "\n\n\n"

def ofText (text dialect : String) : SqlCode := ⟨Text.splitOn text separator, dialect⟩

def display (code : SqlCode) : String := Text.join separator code.statements

def load (session : Session) (pipeline : String) (options : SqlOptions) : Client EngineError SqlCode := do
  let threshold := options.sizeThreshold.toList.map fun size => ("size_threshold_", Json.nat size)
  let link ← session.askExpecting (Session.command "Pipeline.to_sql" pipeline (threshold ++
    [("targets_", .bool options.targets), ("subfeatures_", .bool options.subfeatures),
      ("dialect_", .string options.dialect), ("schema_", .string options.schema),
      ("nchar_categorical_", .nat options.categoricalWidth),
      ("nchar_join_key_", .nat options.joinKeyWidth), ("nchar_text_", .nat options.textWidth)])) found
  return ofText (← Link.receive link) options.dialect

end SqlCode
end RelationalLearning
