import RelationalLearning.Column.Selection
import RelationalLearning.Proofs.Binary64.Whole

namespace RelationalLearning

def truncated (quotient : ℚ) : Int := if 0 ≤ quotient then ⌊quotient⌋ else ⌈quotient⌉

theorem truncated_intCast (whole : Int) : truncated whole = whole := by
  simp [truncated]

theorem remainder_eq_zero (dividend divisor : Int) (nonzero : divisor ≠ 0) :
    (dividend : ℚ) - divisor * truncated (dividend / divisor) = 0 ↔ divisor ∣ dividend := by
  have present : (divisor : ℚ) ≠ 0 := by exact_mod_cast nonzero
  constructor
  · intro none
    refine ⟨truncated (dividend / divisor), ?_⟩
    exact_mod_cast sub_eq_zero.mp none
  · rintro ⟨quotient, rfl⟩
    have whole : ((divisor * quotient : Int) : ℚ) / divisor = quotient := by
      push_cast
      field_simp
    rw [whole, truncated_intCast]
    push_cast
    ring

namespace Operator

/-- The operations of arithmetic; a remainder takes its sign from the dividend. -/
def calculate (operator : Operator) (left right : ℚ) : Option ℚ :=
  match operator with
  | .plus => some (left + right)
  | .minus => some (left - right)
  | .multiplies => some (left * right)
  | .divides => if right = 0 then none else some (left / right)
  | .fmod => if right = 0 then none else some (left - right * truncated (left / right))
  | _ => none

def compare (operator : Operator) (left right : ℚ) : Option Bool :=
  match operator with
  | .numEqualTo => some (left = right)
  | .numNotEqualTo => some (left ≠ right)
  | .greater => some (left > right)
  | .greaterEqual => some (left ≥ right)
  | .less => some (left < right)
  | .lessEqual => some (left ≤ right)
  | _ => none

def connective? : Operator → Option (Bool → Bool → Bool)
  | .and => some Bool.and
  | .or => some Bool.or
  | .xor => some Bool.xor
  | _ => none

end Operator

section

-- The numbers of the columns that have no operands.
variable (held : Column → Option ℚ)

mutual
def Column.number? : Column → Option ℚ
  | .view _ operator (.two left right) .none => do
    operator.calculate (← left.number?) (← right.number?)
  | column => held column

def Operand.number? : Operand → Option ℚ
  | .literal (.number value) => Binary64.number? value
  | .literal _ => none
  | .column column => column.number?
end

mutual
def Column.truth? : Column → Option Bool
  | .view _ operator (.two left right) .none =>
    match operator.connective? with
    | some connect => do return connect (← left.truth?) (← right.truth?)
    | none => do operator.compare (← left.number? held) (← right.number? held)
  | .view _ .not (.one operand) .none => do return !(← operand.truth?)
  | _ => none

def Operand.truth? : Operand → Option Bool
  | .literal (.truth value) => some value
  | .literal _ => none
  | .column column => column.truth?
end

variable (family : Family) (operator : Operator) (left : Column) (right : Operand)

theorem number?_combine (first second : ℚ) (isFirst : left.number? held = some first)
    (isSecond : right.number? held = some second) :
    (Column.combine family operator left right).number? held = operator.calculate first second := by
  simp [Column.combine, Column.number?, Operand.number?, isFirst, isSecond]

theorem truth?_compare (first second : ℚ) (compares : operator.connective? = none)
    (isFirst : left.number? held = some first) (isSecond : right.number? held = some second) :
    (Column.combine family operator left right).truth? held = operator.compare first second := by
  simp [Column.combine, Column.truth?, Operand.number?, compares, isFirst, isSecond]

theorem truth?_connect (other : Column) (connect : Bool → Bool → Bool) (first second : Bool)
    (connects : operator.connective? = some connect)
    (isFirst : left.truth? held = some first) (isSecond : other.truth? held = some second) :
    (Column.combine family operator left (.column other)).truth? held =
      some (connect first second) := by
  simp [Column.combine, Column.truth?, Operand.truth?, connects, isFirst, isSecond]

end

/-- What is known at a row is its number. -/
def Column.atRow (row : Nat) : Column → Option ℚ
  | .view .float .rowid .none .none => some row
  | _ => none

theorem truth?_everyRowFrom (row : Nat) (start step : Int) (nonzero : step ≠ 0)
    (starts : start.natAbs ≤ 2 ^ 53) (steps : step.natAbs ≤ 2 ^ 53) :
    (everyRowFrom start step).truth? (Column.atRow row) =
      some (decide (start ≤ row ∧ step ∣ row - start)) := by
  have present : (step : ℚ) ≠ 0 := by exact_mod_cast nonzero
  have remainder := remainder_eq_zero (row - start) step nonzero
  push_cast at remainder
  have number : Column.rowid.number? (Column.atRow row) = some (row : ℚ) := rfl
  have written (whole : Int) (small : whole.natAbs ≤ 2 ^ 53) :
      (Operand.literal (.number (Float.ofInt whole))).number? (Column.atRow row) =
        some (whole : ℚ) := Binary64.number?_ofInt whole small
  have distance := number?_combine (Column.atRow row) .float .minus _ _ _ _ number
    (written start starts)
  have rest := number?_combine (Column.atRow row) .float .fmod _ _ _ _ distance (written step steps)
  simp only [Operator.calculate, if_neg present] at rest
  have late := truth?_compare (Column.atRow row) .boolean .greaterEqual _ _ _ _ rfl number
    (written start starts)
  have hit := truth?_compare (Column.atRow row) .boolean .numEqualTo _ _ _ _ rfl rest
    (written 0 (by decide))
  simp only [Operator.compare] at late hit
  have whole : ((row : ℚ) ≥ start) ↔ start ≤ row := by exact_mod_cast Iff.rfl
  refine (truth?_connect (Column.atRow row) .boolean .and _ _ _ _ _ rfl late hit).trans ?_
  simp [remainder, whole]

end RelationalLearning
