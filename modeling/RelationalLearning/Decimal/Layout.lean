import RelationalLearning.Decimal.Shortest

namespace RelationalLearning.Decimal

structure Layout where
  /-- The positions of the point, counted from the first digit, that need no exponent. -/
  positional : Int → Bool
  wholePoint : Bool
  signedExponent : Bool

/-- Numbers in commands: a point or an exponent is always there. -/
def Layout.command : Layout := ⟨fun point => -5 < point && point ≤ 16, true, true⟩

/-- Numbers in sentences: never an exponent, and whole numbers stand alone. -/
def Layout.sentence : Layout := ⟨fun _ => true, false, false⟩

def Layout.quoted : Layout := ⟨fun point => -4 < point && point ≤ 16, true, false⟩

def zeros (count : Nat) : String := String.ofList (List.replicate count '0')

def Layout.magnitude (layout : Layout) (number : Digits) : String :=
  let digits := toString number.digits
  let point : Int := if number.digits = 0 then 1 else digits.length + number.exponent
  if layout.positional point then
    if point ≤ 0 then "0." ++ zeros point.natAbs ++ digits
    else if digits.length ≤ point.toNat then
      digits ++ zeros (point.toNat - digits.length) ++ (if layout.wholePoint then ".0" else "")
    else
      String.ofList (digits.toList.take point.toNat) ++ "." ++
        String.ofList (digits.toList.drop point.toNat)
  else
    let mantissa :=
      match digits.toList with
      | [] => ""
      | [single] => single.toString
      | first :: others => first.toString ++ "." ++ String.ofList others
    let sign := if layout.signedExponent && 0 < point then "+" else ""
    mantissa ++ "e" ++ sign ++ toString (point - 1)

def Layout.write (layout : Layout) (value : Float) : String :=
  if value.isNaN then "NaN"
  else
    let sign := if isNegative value then "-" else ""
    if value.isFinite then sign ++ layout.magnitude (shortest value) else sign ++ "inf"

def sentence (value : Float) : String := Layout.sentence.write value

def quoted (value : Float) : String := Layout.quoted.write value

end RelationalLearning.Decimal
