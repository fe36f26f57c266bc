namespace RelationalLearning.Decimal

def isDigit (c : Char) : Bool := '0' ≤ c && c ≤ '9'

def digitValue (c : Char) : Nat := c.toNat - '0'.toNat

def ofDigits (digits : List Char) : Nat :=
  digits.foldl (fun value c => 10 * value + digitValue c) 0

def splitSign : List Char → Bool × List Char
  | '-' :: rest => (true, rest)
  | '+' :: rest => (false, rest)
  | text => (false, text)

def readInt? (text : String) : Option Int :=
  let (negative, digits) := splitSign text.toList
  if digits.isEmpty || !digits.all isDigit then none
  else some (if negative then -(ofDigits digits : Int) else ofDigits digits)

def readNat? (text : String) : Option Nat :=
  let digits := match text.toList with
    | '+' :: rest => rest
    | all => all
  if digits.isEmpty || !digits.all isDigit then none else some (ofDigits digits)

def readWord? (bits : Nat) (text : String) : Option Nat :=
  (readNat? text).filter (· < Nat.pow 2 bits)

/-- `mantissa · 10 ^ exponent`, correctly rounded; far exponents are cut where the result no longer changes. -/
def compose (mantissa : Nat) (exponent : Int) : Float :=
  if mantissa = 0 then 0.0
  else
    let size : Int := (Nat.toDigits 10 mantissa).length
    if exponent + size > 400 then 1.0 / 0.0
    else if exponent + size < -400 then 0.0
    else if exponent < 0 then Float.ofScientific mantissa true exponent.natAbs
    else Float.ofScientific mantissa false exponent.natAbs

def readExponent? : List Char → Option Int
  | [] => some 0
  | mark :: rest =>
    if mark = 'e' || mark = 'E' then
      let (negative, digits) := splitSign rest
      if digits.isEmpty || !digits.all isDigit then none
      else some (if negative then -(ofDigits digits : Int) else ofDigits digits)
    else none

def readMagnitude? (text : List Char) : Option Float :=
  let whole := text.takeWhile isDigit
  let rest := text.dropWhile isDigit
  let (fraction, rest) := match rest with
    | '.' :: after => (after.takeWhile isDigit, after.dropWhile isDigit)
    | other => ([], other)
  if whole.isEmpty && fraction.isEmpty then none
  else (readExponent? rest).map fun exponent =>
    compose (ofDigits (whole ++ fraction)) (exponent - fraction.length)

/-- A number, also `inf`, `infinity` and `nan` in any case. -/
def readFloat? (text : String) : Option Float :=
  let (negative, body) := splitSign text.toList
  let magnitude :=
    match String.ofList (body.map Char.toLower) with
    | "inf" | "infinity" => some (1.0 / 0.0)
    | "nan" => some (0.0 / 0.0)
    | _ => readMagnitude? body
  magnitude.map fun value => if negative then -value else value

end RelationalLearning.Decimal
