import RelationalLearning.Decimal.Layout
import RelationalLearning.Text.Hex
import RelationalLearning.Text.Unprintable

namespace RelationalLearning.Text

def quoteChar (c : Char) : String :=
  if c.toNat = 0 then "\\0"
  else if c = '\t' then "\\t"
  else if c = '\n' then "\\n"
  else if c = '\r' then "\\r"
  else if c = '"' then "\\\""
  else if c = '\\' then "\\\\"
  else if isUnprintable c then "\\u\x7b" ++ hexNumber c.toNat ++ "\x7d"
  else c.toString

/-- A text between double quotes; what cannot be seen is written as an escape. -/
def quoted (text : String) : String :=
  "\"" ++ String.join (text.toList.map quoteChar) ++ "\""

def bracketed (items : List String) : String := "[" ++ ", ".intercalate items ++ "]"

def optional {α : Type} (write : α → String) : Option α → String
  | none => "None"
  | some value => "Some(" ++ write value ++ ")"

end RelationalLearning.Text
