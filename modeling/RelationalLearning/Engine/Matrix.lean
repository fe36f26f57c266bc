namespace RelationalLearning

structure Matrix where
  rows : Nat
  columns : Nat
  bits : List UInt64
  deriving DecidableEq, Repr

namespace Matrix

def entries (matrix : Matrix) : List Float := matrix.bits.map Float.ofBits

def row? (matrix : Matrix) (index : Nat) : Option (List Float) :=
  if matrix.rows ≤ index then none
  else some ((matrix.entries.drop (index * matrix.columns)).take matrix.columns)

def column? (matrix : Matrix) (index : Nat) : Option (List Float) :=
  if matrix.columns ≤ index then none
  else (List.range matrix.rows).mapM fun row => matrix.entries[row * matrix.columns + index]?

def isEmpty (matrix : Matrix) : Bool := matrix.entries.isEmpty

end Matrix
end RelationalLearning
