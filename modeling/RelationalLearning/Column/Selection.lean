import RelationalLearning.Column.Cast
import RelationalLearning.Text.Quoted

/-!
Choosing rows by number, by a slice, by a mask, or by a column of row numbers. A slice is resolved
into an even spacing of row numbers; how many rows there are is only asked for when the answer
depends on it.
-/

namespace RelationalLearning

inductive Length where
  | finite (rows : Nat)
  | infinite
  | unknown
  deriving DecidableEq, Repr

namespace Length

def display : Length → String
  | .finite rows => toString rows
  | .infinite => "infinite"
  | .unknown => "unknown"

def finite? : Length → Option Nat
  | .finite rows => some rows
  | _ => none

end Length

/-- A whole number as 64 bits hold it, with its sign. -/
def wrapped (number : Int) : Int := number.bmod (Nat.pow 2 64)

/-- Every `step`-th row from `start` on, before `stop`; negative bounds count from the end. -/
structure Slice where
  start : Option Int := none
  stop : Option Int := none
  step : Option Int := none
  deriving DecidableEq, Repr

namespace Slice

def quoted (slice : Slice) : String :=
  let bound := Text.optional (toString : Int → String)
  "SliceSpec \x7b start: " ++ bound slice.start ++ ", stop: " ++ bound slice.stop ++ ", step: " ++
    bound slice.step ++ " \x7d"

def nonzeroStep (slice : Slice) : Except DataError Int :=
  match slice.step.getD 1 with
  | 0 => .error (.value "slice step cannot be zero")
  | step => .ok step

def clamp (low high : Int) (length : Nat) (standard : Int) : Option Int → Int
  | none => standard
  | some bound => max low (min high (if bound < 0 then bound + length else bound))

def indices (slice : Slice) (length : Nat) : Except DataError (Int × Int × Int) := do
  let step ← slice.nonzeroStep
  let low : Int := if step < 0 then -1 else 0
  let high : Int := if step < 0 then length - 1 else length
  let start := clamp low high length (if step < 0 then high else low) slice.start
  let stop := clamp low high length (if step < 0 then low else high) slice.stop
  return (start, stop, step)

def needsLength (slice : Slice) : Bool :=
  slice.step.any (· < 0) || slice.start.any (· < 0) || slice.stop.all (· < 0)

end Slice

inductive Selection where
  | row (index : Int)
  | slice (slice : Slice)
  | mask (mask : Column)
  | numbers (numbers : Column)

inductive Subselection where
  | range (start stop step : Int)
  | mask (mask : Column)
  | numbers (numbers : Column)

namespace Subselection

def column : Subselection → Column
  | .range start stop step => .arange (Float.ofInt start) (Float.ofInt stop) (Float.ofInt step)
  | .mask rows => rows
  | .numbers rows => rows

def single (row : Int) : Subselection := .range row (wrapped (row + 1)) 1

def rangeLength? : Subselection → Option Nat
  | .range start stop step => (column (.range start stop step)).rangeLength?
  | _ => none

end Subselection

def everyRowFrom (start step : Int) : Column :=
  let number (value : Int) : Operand := .literal (.number (Float.ofInt value))
  let late := Column.combine .boolean .greaterEqual .rowid (number start)
  let distance := Column.combine .float .minus .rowid (number start)
  let rest := Column.combine .float .fmod distance (number step)
  let hit := Column.combine .boolean .numEqualTo rest (number 0)
  .combine .boolean .and late (.column hit)

section

variable {m : Type → Type} [Monad m]

/-- Resolves a slice; `rows` is asked at most once. -/
def Slice.resolve (slice : Slice) (rows : ExceptT DataError m Length) : ExceptT DataError m Subselection := do
  let step ← liftM (m := Except DataError) slice.nonzeroStep
  if !slice.needsLength then
    let start := slice.start.getD 0
    return .range start (max (slice.stop.getD start) start) step
  else
    match ← rows with
    | .finite length =>
      let (start, stop, step) ← liftM (m := Except DataError) (slice.indices length)
      return .range start stop step
    | length =>
      if length = .infinite && step > 0 && slice.stop.isNone && slice.start.all (0 ≤ ·) then
        return .mask (everyRowFrom (slice.start.getD 0) step)
      else
        throw (.index s!"Cannot resolve the slice {slice.quoted} on a column of {length.display} length.")

def outOfBounds : DataError := .index "Index out of bounds."

/-- Resolves a row number, which counts from the end when it is negative. -/
def resolveRow (index : Int) (rows : ExceptT DataError m Length) : ExceptT DataError m Subselection := do
  let index ←
    if index < 0 then
      match ← rows with
      | .finite length => pure (wrapped (index + length))
      | length => throw (.index s!"Negative indices require a finite length, got {length.display}.")
    else pure index
  if index < 0 then throw outOfBounds
  else return .single index

def Selection.resolve (rows : ExceptT DataError m Length) : Selection → ExceptT DataError m Subselection
  | .row index => resolveRow index rows
  | .slice bounds => bounds.resolve rows
  | .mask column => return .mask column
  | .numbers column =>
    if column.family = .float then return .numbers column
    else throw (.type s!"Only numerical columns can select rows by number, got {column.kind.name}.")

end

def Column.selectWithLength (column : Column) (selection : Selection) (length : Length) :
    Except DataError Column :=
  (selection.resolve (m := Id) (pure length)).run.map fun rows => column.subselect (.column rows.column)

end RelationalLearning
