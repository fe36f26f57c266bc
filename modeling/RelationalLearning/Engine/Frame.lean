import RelationalLearning.Engine.Matrix
import RelationalLearning.Error
import RelationalLearning.Text.Pieces
import RelationalLearning.Text.Utf8

/-!
How values travel. A text is its length in four bytes, then its bytes; a byte string has eight
bytes of length; a text column is a byte string whose entries stand between separators; a matrix
is its shape, then its entries row by row. A reader takes a value off the front of the bytes and
leaves the rest.
-/

namespace RelationalLearning

open Text (Bytes)

/-- Takes a value off the front of the bytes, and says what is left also when it fails. -/
abbrev Reader (α : Type) := ExceptT EngineError (StateM Bytes) α

namespace Frame

def separator : String := "$GETML_SEP"

def bigEndian (bytes : Bytes) : Nat := bytes.foldl (fun value byte => 256 * value + byte.toNat) 0

def littleEndian (bytes : Bytes) : Nat := bigEndian bytes.reverse

/-- The last `count` digits to base 256, the most significant first. -/
def toBigEndian (count value : Nat) : Bytes :=
  ((List.range count).map fun place => UInt8.ofNat (value / Nat.pow 256 place)).reverse

def signed32 (value : Nat) : Int := if value < Nat.pow 2 31 then value else (value : Int) - (Nat.pow 2 32 : Nat)

def signed64 (value : Nat) : Int := if value < Nat.pow 2 63 then value else (value : Int) - (Nat.pow 2 64 : Nat)

def header (count : Nat) : Reader Bytes := do
  let bytes ← get
  set (bytes.drop count)
  if bytes.length < count then throw .endOfStream else return bytes.take count

def payload (count : Nat) : Reader Bytes := do
  let bytes ← get
  set (bytes.drop count)
  if bytes.length < count then
    throw (.protocol s!"The engine closed the connection after {bytes.length} of {count} bytes")
  else return bytes.take count

/-- The frame of a text, whose length has to fit in 31 bits. -/
def ofText (text : String) : Except EngineError Bytes :=
  let bytes := Text.encode text
  if bytes.length < Nat.pow 2 31 then .ok (toBigEndian 4 bytes.length ++ bytes)
  else .error (.protocol s!"String of {bytes.length} bytes is too long")

def text : Reader String := do
  let size := signed32 (bigEndian (← header 4))
  if size < 0 then throw (.protocol s!"Negative string length: {size}")
  else return Text.decodeLossy (← payload size.toNat)

def ofByteString (bytes : Bytes) : Bytes := toBigEndian 8 bytes.length ++ bytes

def byteString : Reader Bytes := do payload (bigEndian (← header 8))

def ofTextColumn (entries : List String) : Bytes :=
  ofByteString (Text.encode (Text.join separator entries))

def textColumn : Reader (List String) := do
  let bytes ← byteString
  if bytes.isEmpty then return []
  else return Text.splitOn (Text.decodeLossy bytes) separator

def ofMatrix (matrix : Matrix) : Bytes :=
  toBigEndian 4 matrix.rows ++ toBigEndian 4 matrix.columns ++
    matrix.bits.flatMap fun bits => toBigEndian 8 bits.toNat

def wordsOf (bytes : Bytes) : List UInt64 :=
  (List.range (bytes.length / 8)).map fun index =>
    UInt64.ofNat (bigEndian ((bytes.drop (8 * index)).take 8))

def matrix : Reader Matrix := do
  let shape ← header 8
  let rows := signed32 (bigEndian (shape.take 4))
  let columns := signed32 (bigEndian (shape.drop 4))
  if rows < 0 || columns < 0 then
    throw (.protocol s!"Invalid matrix shape: ({rows}, {columns})")
  let size := rows.toNat * columns.toNat * 8
  if Nat.pow 2 64 ≤ size then
    throw (.protocol s!"Matrix shape ({rows}, {columns}) is too large")
  return ⟨rows.toNat, columns.toNat, wordsOf (← payload size)⟩

end Frame
end RelationalLearning
