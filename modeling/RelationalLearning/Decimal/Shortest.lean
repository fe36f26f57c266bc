/-!
The decimal digits of a floating-point number: the fewest that still read back as the same
number, and of those the nearest. The grid of numbers with `n` digits is searched for
`n = 1, 2, …, 17`, by exact arithmetic on the number's two neighbours in the grid.
-/

namespace RelationalLearning.Decimal

structure Digits where
  digits : Nat
  exponent : Int
  deriving DecidableEq, Repr

/-- A positive binary number `significand · 2 ^ exponent`; `narrow` when the gap below it is half the gap above. -/
structure Binary where
  significand : Nat
  exponent : Int
  narrow : Bool
  deriving DecidableEq, Repr

def Binary.ofFloat? (value : Float) : Option Binary :=
  let bits := value.toBits.toNat
  let fraction : Nat := bits % Nat.pow 2 52
  let biased : Nat := bits / Nat.pow 2 52 % Nat.pow 2 11
  if biased = 0 then
    if fraction = 0 then none else some ⟨fraction, -1074, false⟩
  else
    some ⟨fraction + Nat.pow 2 52, (biased : Int) - 1075, fraction = 0 && biased > 1⟩

/-- The least whole number that is not below a positive number; zero for all others. -/
def ceiling (value : Float) : Nat :=
  match Binary.ofFloat? value with
  | none => 0
  | some number =>
    if value < 0.0 then 0
    else if number.exponent < 0 then
      let unit := Nat.pow 2 number.exponent.natAbs
      (number.significand + unit - 1) / unit
    else number.significand * Nat.pow 2 number.exponent.natAbs

def Binary.quarters (number : Binary) : Nat × Nat :=
  if number.exponent < 0 then (4 * number.significand, Nat.pow 2 number.exponent.natAbs)
  else (4 * number.significand * Nat.pow 2 number.exponent.natAbs, 1)

/-- How many digits stand before the point; zero or negative when the number is below one. -/
def integerDigits (numerator denominator : Nat) : Int :=
  if denominator ≤ numerator then (Nat.toDigits 10 (numerator / denominator)).length
  else
    let below := (Nat.toDigits 10 (denominator / numerator)).length
    if denominator ≤ numerator * Nat.pow 10 (below - 1) then 2 - (below : Int) else 1 - (below : Int)

def scaled (numerator denominator : Nat) (exponent : Int) : Nat × Nat :=
  if exponent < 0 then (numerator * Nat.pow 10 exponent.natAbs, denominator)
  else (numerator, denominator * Nat.pow 10 exponent.natAbs)

/-- The nearest point of the grid of step `10 ^ exponent` that reads back, if one does. -/
def gridPoint? (number : Binary) (exponent : Int) : Option Nat :=
  let (quarters, unit) := number.quarters
  let gap := if number.exponent < 0 then 1 else Nat.pow 2 number.exponent.natAbs
  let (value, denominator) := scaled quarters (4 * unit) exponent
  let (low, _) := scaled (quarters - (if number.narrow then gap else 2 * gap)) (4 * unit) exponent
  let (high, _) := scaled (quarters + 2 * gap) (4 * unit) exponent
  let closed := number.significand % 2 = 0
  let inside (point : Nat) : Bool :=
    let place := point * denominator
    if closed then low ≤ place && place ≤ high else low < place && place < high
  let below := value / denominator
  let rest := value % denominator
  match inside below && below > 0, inside (below + 1) with
  | true, true =>
    if 2 * rest < denominator || (2 * rest = denominator && below % 2 = 0) then some below
    else some (below + 1)
  | true, false => some below
  | false, true => some (below + 1)
  | false, false => none

def Digits.strip : Nat → Digits → Digits
  | 0, number => number
  | fuel + 1, number =>
    if number.digits % 10 = 0 && number.digits > 0 then
      Digits.strip fuel ⟨number.digits / 10, number.exponent + 1⟩
    else number

def searchGrids (number : Binary) (integer : Int) : Nat → Nat → Digits
  | 0, _ => ⟨0, 0⟩
  | fuel + 1, count =>
    match gridPoint? number (integer - count) with
    | some point => Digits.strip 20 ⟨point, integer - count⟩
    | none => searchGrids number integer fuel (count + 1)

/-- The shortest digits of the magnitude of a finite number; zero is `0 · 10 ^ 0`. -/
def shortest (value : Float) : Digits :=
  match Binary.ofFloat? value with
  | none => ⟨0, 0⟩
  | some number =>
    let (quarters, unit) := number.quarters
    searchGrids number (integerDigits quarters (4 * unit)) 17 1

def isNegative (value : Float) : Bool := value.toBits.toNat / Nat.pow 2 63 = 1

end RelationalLearning.Decimal
