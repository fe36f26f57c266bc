import RelationalLearning.Json.Written
import RelationalLearning.Decimal.Read
import RelationalLearning.Text.Hex

/-!
Reading a document from text. Whole numbers of 64 bits stay whole; other numbers become floating
point, and one too large for that has no value, nor has a text with half of a surrogate pair.
-/

namespace RelationalLearning.Json

def isSpace (c : Char) : Bool := c = ' ' || c = '\n' || c = '\t' || c = '\r'

def skipSpace (text : List Char) : List Char := text.dropWhile isSpace

def readUnit? : List Char → Option (Nat × List Char)
  | a :: b :: c :: d :: rest => do
    let digits ← [a, b, c, d].mapM Text.hexValue?
    return (digits.foldl (16 * · + ·) 0, rest)
  | _ => none

/-- The character of a `\u` escape; a high surrogate needs its low half right after it to be one. -/
def readEscapedUnit? (text : List Char) : Option (Option Char × List Char) := do
  let (unit, rest) ← readUnit? text
  if 0xDC00 ≤ unit && unit ≤ 0xDFFF then return (none, rest)
  else if 0xD800 ≤ unit && unit ≤ 0xDBFF then
    match rest with
    | '\\' :: 'u' :: after => do
      let (low, behind) ← readUnit? after
      if 0xDC00 ≤ low && low ≤ 0xDFFF then
        return (some (Char.ofNat (0x10000 + (unit - 0xD800) * 1024 + (low - 0xDC00))), behind)
      else return (none, rest)
    | _ => return (none, rest)
  else return (some (Char.ofNat unit), rest)

def simpleEscape? (c : Char) : Option Char :=
  match c with
  | '"' => some '"'
  | '\\' => some '\\'
  | '/' => some '/'
  | 'b' => some (Char.ofNat 8)
  | 'f' => some (Char.ofNat 12)
  | 'n' => some '\n'
  | 'r' => some '\r'
  | 't' => some '\t'
  | _ => none

/-- The rest of a quoted text, after its opening quote; there may be no text that it stands for. -/
def readQuoted? : Nat → List Char → Option (Option (List Char) × List Char)
  | 0, _ => none
  | _, [] => none
  | fuel + 1, c :: rest =>
    if c = '"' then some (some [], rest)
    else if c = '\\' then
      match rest with
      | 'u' :: rest => do
        let (char, rest) ← readEscapedUnit? rest
        let (chars, rest) ← readQuoted? fuel rest
        return (do return (← char) :: (← chars), rest)
      | escape :: rest => do
        let char ← simpleEscape? escape
        let (chars, rest) ← readQuoted? fuel rest
        return (chars.map (char :: ·), rest)
      | [] => none
    else if c.toNat < 32 then none
    else do
      let (chars, rest) ← readQuoted? fuel rest
      return (chars.map (c :: ·), rest)

/-- The largest significand that is kept; further digits are dropped. -/
def significandBound : Nat := Nat.pow 2 64

def takeDigits : Nat → Nat → List Char → Nat × Nat × Nat
  | significand, taken, [] => (significand, taken, 0)
  | significand, taken, c :: rest =>
    let next := 10 * significand + Decimal.digitValue c
    if next < significandBound then takeDigits next (taken + 1) rest
    else (significand, taken, rest.length + 1)

/-- `value · 10 ^ exponent` by one multiplication or by divisions; `none` when it is too large. -/
def scale? : Nat → Float → Int → Option Float
  | 0, _, _ => some 0.0
  | fuel + 1, value, exponent =>
    if exponent.natAbs ≤ 308 then
      let power := Float.ofScientific 1 false exponent.natAbs
      if 0 ≤ exponent then
        let scaled := value * power
        if scaled.isFinite then some scaled else none
      else some (value / power)
    else if value == 0.0 then some value
    else if 0 ≤ exponent then none
    else scale? fuel (value / Float.ofScientific 1 false 308) (exponent + 308)

def readExponent? : List Char → Option (Int × List Char)
  | [] => some (0, [])
  | mark :: rest =>
    if mark = 'e' || mark = 'E' then
      let (negative, rest) := Decimal.splitSign rest
      let digits := rest.takeWhile Decimal.isDigit
      if digits.isEmpty then none
      else
        let value : Int := Decimal.ofDigits digits
        some (if negative then -value else value, rest.dropWhile Decimal.isDigit)
    else some (0, mark :: rest)

def signed (negative : Bool) (value : Float) : Float := if negative then -value else value

def finishFloat? (negative : Bool) (significand : Nat) (exponent : Int) (rest : List Char) :
    Option (Option Json × List Char) := do
  let (power, rest) ← readExponent? rest
  let total := exponent + power
  if total > 100000 && significand ≠ 0 then return (none, rest)
  else
    let value := scale? 400 (Float.ofNat significand) (max total (-100000))
    return (value.map fun value => .float (signed negative value), rest)

def finishWhole (negative : Bool) (significand dropped : Nat) (rest : List Char) :
    Option Json × List Char :=
  if dropped > 0 then
    ((scale? 400 (Float.ofNat significand) dropped).map fun value => .float (signed negative value), rest)
  else if !negative then (some (.int significand), rest)
  else if significand = 0 then (some (.float (-0.0)), rest)
  else if significand ≤ Nat.pow 2 63 then (some (.int (-significand)), rest)
  else (some (.float (-Float.ofNat significand)), rest)

def readNumber? (text : List Char) : Option (Option Json × List Char) :=
  let negative := text.head? = some '-'
  let body := if negative then text.drop 1 else text
  let whole := body.takeWhile Decimal.isDigit
  let rest := body.dropWhile Decimal.isDigit
  if whole.isEmpty || (whole.head? = some '0' && whole.length > 1) then none
  else
    let (significand, _, dropped) := takeDigits 0 0 whole
    match rest with
    | '.' :: after =>
      let fraction := after.takeWhile Decimal.isDigit
      if fraction.isEmpty then none
      else
        let (significand, taken, _) := takeDigits significand 0 fraction
        finishFloat? negative significand (dropped - taken) (after.dropWhile Decimal.isDigit)
    | mark :: _ =>
      if mark = 'e' || mark = 'E' then finishFloat? negative significand dropped rest
      else some (finishWhole negative significand dropped rest)
    | [] => some (finishWhole negative significand dropped rest)

mutual
def readValue? : Nat → List Char → Option (Written × List Char)
  | 0, _ => none
  | fuel + 1, text =>
    match skipSpace text with
    | 'n' :: 'u' :: 'l' :: 'l' :: rest => some (.leaf (some .null), rest)
    | 't' :: 'r' :: 'u' :: 'e' :: rest => some (.leaf (some (.bool true)), rest)
    | 'f' :: 'a' :: 'l' :: 's' :: 'e' :: rest => some (.leaf (some (.bool false)), rest)
    | '"' :: rest => (readQuoted? (rest.length + 1) rest).map fun (chars, rest) =>
        (.leaf (chars.map fun chars => .string (String.ofList chars)), rest)
    | '[' :: rest =>
      match skipSpace rest with
      | ']' :: rest => some (.array [], rest)
      | rest => (readItems? fuel rest).map fun (items, rest) => (.array items, rest)
    | c :: rest =>
      if c = '\x7b' then
        match skipSpace rest with
        | [] => none
        | close :: after =>
          if close = '\x7d' then some (.object [], after)
          else (readFields? fuel (close :: after)).map fun (fields, rest) => (.object fields, rest)
      else (readNumber? (c :: rest)).map fun (number, rest) => (.leaf number, rest)
    | [] => none

def readItems? : Nat → List Char → Option (List Written × List Char)
  | 0, _ => none
  | fuel + 1, text => do
    let (item, rest) ← readValue? fuel text
    match skipSpace rest with
    | ',' :: rest => do
      let (items, rest) ← readItems? fuel rest
      return (item :: items, rest)
    | ']' :: rest => return ([item], rest)
    | _ => none

def readFields? : Nat → List Char → Option (List (Option String × Written) × List Char)
  | 0, _ => none
  | fuel + 1, text =>
    match skipSpace text with
    | '"' :: rest => do
      let (name, rest) ← readQuoted? (rest.length + 1) rest
      let name := name.map String.ofList
      match skipSpace rest with
      | ':' :: rest => do
        let (value, rest) ← readValue? fuel rest
        match skipSpace rest with
        | ',' :: rest => do
          let (fields, rest) ← readFields? fuel rest
          return ((name, value) :: fields, rest)
        | close :: rest => if close = '\x7d' then return ([(name, value)], rest) else none
        | [] => none
      | _ => none
    | _ => none
end

def written? (text : String) : Option Written := do
  let chars := text.toList
  let (written, rest) ← readValue? (2 * chars.length + 2) chars
  if (skipSpace rest).isEmpty then some written else none

def parse? (text : String) : Option Json := (written? text).bind Written.document?

end RelationalLearning.Json
