/-!
Figures that the engine reports and that may be missing, and lists sorted by them. Sorting keeps
the order of entries that stand equal.
-/

namespace RelationalLearning

/-- A number, or none, which then stands below or above all numbers. -/
inductive Figure where
  | number (value : Float)
  | missing (below : Bool)
  deriving BEq, Repr, Inhabited

namespace Figure

def ofFloat (value : Float) : Figure := if value.isNaN then .missing false else .number value

def value : Figure → Float
  | .number value => value
  | .missing _ => 0.0 / 0.0

def magnitude : Figure → Figure
  | .number value => .number value.abs
  | .missing _ => .missing false

/-- Opposite infinities leave no figure; what is missing stays missing. -/
def add : Figure → Figure → Figure
  | .number first, .number second =>
    let sum := first + second
    if sum.isNaN then .missing true else .number sum
  | .missing below, _ => .missing below
  | .number _, .missing below => .missing below

instance : Add Figure := ⟨add⟩

def exceeds (figure : Figure) (bound : Float) : Bool :=
  match figure with
  | .number value => bound < value
  | .missing _ => false

/-- Numbers in their order, zero with a minus sign before zero, and missing figures around them. -/
def rank : Figure → Int
  | .number value =>
    let bits := value.toBits.toNat
    if bits < Nat.pow 2 63 then bits else (Nat.pow 2 63 : Nat) - 1 - (bits : Int)
  | .missing true => -(Nat.pow 2 64 : Nat)
  | .missing false => (Nat.pow 2 64 : Nat)

end Figure

namespace Ranking

variable {α : Type}

/-- Puts an entry before the first one whose key is not less. -/
def insert (key : α → Int) (entry : α) : List α → List α
  | [] => [entry]
  | first :: rest => if key entry ≤ key first then entry :: first :: rest else first :: insert key entry rest

def ascending (key : α → Int) (entries : List α) : List α := entries.foldr (insert key) []

def descending (key : α → Int) (entries : List α) : List α := ascending (fun entry => -key entry) entries

end Ranking
end RelationalLearning
