import RelationalLearning.Decimal.Layout
import RelationalLearning.Text.Blank
import RelationalLearning.Text.Pieces

namespace RelationalLearning.Validation

def reserved : String := "$GETML"

def name (name what : String) : Except String Unit :=
  if (Text.trim name).isEmpty then .error s!"'{what}' cannot be empty"
  else if Text.contains name reserved then
    .error s!"'{what}' must not contain the reserved sequence '{reserved}'"
  else .ok ()

def nonNegative (value : Float) (what : String) : Except String Unit :=
  if value.isNaN || value < 0.0 then
    .error (s!"'{what}' must be non-negative, got " ++ Decimal.sentence value)
  else .ok ()

def positive (value : Float) (what : String) : Except String Unit :=
  if value.isNaN || value ≤ 0.0 then
    .error (s!"'{what}' must be positive, got " ++ Decimal.sentence value)
  else .ok ()

def range (value low high : Float) (what : String) : Except String Unit :=
  if value < low || high < value then
    .error (s!"'{what}' must be between " ++ Decimal.sentence low ++ " and " ++ Decimal.sentence high)
  else .ok ()

def intRange (value low high : Int) (what : String) : Except String Unit :=
  if value < low || high < value then .error s!"'{what}' must be between {low} and {high}"
  else .ok ()

end RelationalLearning.Validation
