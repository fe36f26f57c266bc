import RelationalLearning.Decimal.Read
import RelationalLearning.Text.Blank

namespace RelationalLearning

/-- A moment of the proleptic Gregorian calendar; second 60 is a leap second. -/
structure Moment where
  year : Int
  month : Nat
  day : Nat
  hour : Nat
  minute : Nat
  second : Nat
  nanosecond : Nat
  deriving DecidableEq, Repr

namespace Calendar

def isLeap (year : Int) : Bool :=
  year.emod 4 = 0 && (year.emod 100 ≠ 0 || year.emod 400 = 0)

def daysIn (year : Int) (month : Nat) : Nat :=
  match month with
  | 2 => if isLeap year then 29 else 28
  | 4 | 6 | 9 | 11 => 30
  | _ => 31

/-- Days from the first of January 1970; years begin in March so that the leap day comes last. -/
def dayNumber (year : Int) (month day : Nat) : Int :=
  let shifted : Int := if month ≤ 2 then year - 1 else year
  let era := shifted.fdiv 400
  let yearOfEra := shifted - era * 400
  let monthFromMarch : Int := ((month + 9) % 12 : Nat)
  let dayOfYear := (153 * monthFromMarch + 2).fdiv 5 + day - 1
  let dayOfEra := yearOfEra * 365 + yearOfEra.fdiv 4 - yearOfEra.fdiv 100 + dayOfYear
  era * 146097 + dayOfEra - 719468

inductive Part where
  | year | month | day | hour | minute | second
  | fraction
  | blank
  | mark (c : Char)

structure Fields where
  year : Int := 0
  month : Nat := 0
  day : Nat := 0
  hour : Nat := 0
  minute : Nat := 0
  second : Nat := 0
  nanosecond : Nat := 0

def digits? (width : Nat) (text : List Char) : Option (Nat × List Char) :=
  let text := Text.trimStart text
  let digits := (text.take width).takeWhile Decimal.isDigit
  if digits.isEmpty then none else some (Decimal.ofDigits digits, text.drop digits.length)

def year? (text : List Char) : Option (Int × List Char) :=
  match Text.trimStart text with
  | '-' :: rest => (digits? rest.length rest).bind fun (value, left) =>
      if rest.head?.all Decimal.isDigit then some (-(value : Int), left) else none
  | '+' :: rest => (digits? rest.length rest).bind fun (value, left) =>
      if rest.head?.all Decimal.isDigit then some ((value : Int), left) else none
  | rest => (digits? 4 rest).map fun (value, left) => ((value : Int), left)

/-- The fraction as nanoseconds; digits after the ninth do not count. -/
def fraction? (text : List Char) : Option (Nat × List Char) :=
  match text with
  | '.' :: rest =>
    let digits := rest.takeWhile Decimal.isDigit
    if digits.isEmpty then none
    else
      let counted := digits.take 9
      some (Decimal.ofDigits counted * Nat.pow 10 (9 - counted.length), rest.dropWhile Decimal.isDigit)
  | rest => some (0, rest)

def readPart? (fields : Fields) (text : List Char) : Part → Option (Fields × List Char)
  | .year => (year? text).map fun (year, rest) => ({ fields with year }, rest)
  | .month => (digits? 2 text).map fun (month, rest) => ({ fields with month }, rest)
  | .day => (digits? 2 text).map fun (day, rest) => ({ fields with day }, rest)
  | .hour => (digits? 2 text).map fun (hour, rest) => ({ fields with hour }, rest)
  | .minute => (digits? 2 text).map fun (minute, rest) => ({ fields with minute }, rest)
  | .second => (digits? 2 text).map fun (second, rest) => ({ fields with second }, rest)
  | .fraction => (fraction? text).map fun (nanosecond, rest) => ({ fields with nanosecond }, rest)
  | .blank => some (fields, Text.trimStart text)
  | .mark c => match text with
    | first :: rest => if first = c then some (fields, rest) else none
    | [] => none

def readParts? : List Part → Fields → List Char → Option (Fields × List Char)
  | [], fields, text => some (fields, text)
  | part :: parts, fields, text => do
    let (fields, rest) ← readPart? fields text part
    readParts? parts fields rest

def Fields.moment? (fields : Fields) : Option Moment :=
  if 1 ≤ fields.month && fields.month ≤ 12 && 1 ≤ fields.day &&
      fields.day ≤ daysIn fields.year fields.month && fields.hour < 24 && fields.minute < 60 &&
      fields.second ≤ 60 && -262143 ≤ fields.year && fields.year ≤ 262142 then
    some ⟨fields.year, fields.month, fields.day, fields.hour, fields.minute, fields.second,
      fields.nanosecond⟩
  else none

def read? (parts : List Part) (text : String) : Option Moment := do
  let (fields, rest) ← readParts? parts {} text.toList
  if rest.isEmpty then fields.moment? else none

def plain : List Part :=
  [.year, .mark '-', .month, .mark '-', .day, .blank, .hour, .mark ':', .minute, .mark ':', .second]

def standard : List Part :=
  [.year, .blank, .mark '-', .month, .blank, .mark '-', .day, .blank, .mark 'T', .hour, .blank,
    .mark ':', .minute, .blank, .mark ':', .second, .fraction, .blank]

def padded (width value : Nat) : String :=
  let digits := toString value
  String.ofList (List.replicate (width - digits.length) '0') ++ digits

end Calendar

namespace Moment

/-- Whole seconds since 1970; a leap second counts as the one before it. -/
def wholeSeconds (moment : Moment) : Int :=
  Calendar.dayNumber moment.year moment.month moment.day * 86400 + moment.hour * 3600 +
    moment.minute * 60 + (min moment.second 59 : Nat)

def restNanoseconds (moment : Moment) : Nat :=
  moment.nanosecond + if moment.second = 60 then 1000000000 else 0

def seconds (moment : Moment) : Float :=
  Float.ofInt moment.wholeSeconds + Float.ofNat moment.restNanoseconds / 1e9

def plain (moment : Moment) : String :=
  let year :=
    if 0 ≤ moment.year && moment.year ≤ 9999 then Calendar.padded 4 moment.year.toNat
    else (if moment.year < 0 then "-" else "+") ++ Calendar.padded 4 moment.year.natAbs
  let two := Calendar.padded 2
  s!"{year}-{two moment.month}-{two moment.day} {two moment.hour}:{two moment.minute}:{two moment.second}"

end Moment
end RelationalLearning
