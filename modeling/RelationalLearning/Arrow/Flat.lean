import RelationalLearning.Engine.Frame

/-!
Records in a flat buffer. A record starts with the distance back to its list of slots; each slot
says where in the record a field stands, or that it is left out. Longer parts of a record stand
behind it, at a distance that the field holds. All numbers have their least significant byte first.
-/

namespace RelationalLearning.Arrow.Flat

open Text (Bytes)

abbrev Buffer := Array UInt8

def unsigned? (buffer : Buffer) (place count : Nat) : Option Nat :=
  if place + count ≤ buffer.size then
    some (Frame.littleEndian (buffer.extract place (place + count)).toList)
  else none

def signed? (buffer : Buffer) (place count : Nat) : Option Int :=
  (unsigned? buffer place count).map fun value =>
    if value < Nat.pow 2 (8 * count - 1) then (value : Int) else (value : Int) - (Nat.pow 2 (8 * count) : Nat)

def aligned? (buffer : Buffer) (place count : Nat) : Option Nat :=
  if place % count = 0 then unsigned? buffer place count else none

def follow? (buffer : Buffer) (place : Nat) : Option Nat := (aligned? buffer place 4).map (place + ·)

def root? (buffer : Buffer) : Option Nat := follow? buffer 0

def slots? (buffer : Buffer) (record : Nat) : Option (Nat × Nat) := do
  let _ ← aligned? buffer record 4
  let back ← signed? buffer record 4
  let place := (record : Int) - back
  if place < 0 || (buffer.size : Int) ≤ place then none
  else
    let size ← aligned? buffer place.toNat 2
    if size % 2 = 0 && place.toNat + size ≤ buffer.size then some (place.toNat, size) else none

/-- Where a field of the record stands; `some none` when it is left out, `none` when the record is broken. -/
def slot? (buffer : Buffer) (record index : Nat) : Option (Option Nat) := do
  let (slots, size) ← slots? buffer record
  if size ≤ 4 + 2 * index then some none
  else
    let offset ← aligned? buffer (slots + 4 + 2 * index) 2
    if offset = 0 then some none else some (some (record + offset))

def intField? (buffer : Buffer) (record index count : Nat) (standard : Int) : Option Int := do
  match ← slot? buffer record index with
  | none => some standard
  | some place => do
    let _ ← aligned? buffer place count
    signed? buffer place count

def partField? (buffer : Buffer) (record index : Nat) : Option (Option Nat) := do
  match ← slot? buffer record index with
  | none => some none
  | some place => (follow? buffer place).map some

def textField? (buffer : Buffer) (record index : Nat) : Option String := do
  match ← partField? buffer record index with
  | none => some ""
  | some place =>
    let size ← unsigned? buffer place 4
    if place + 4 + size ≤ buffer.size then
      Text.decode? (buffer.extract (place + 4) (place + 4 + size)).toList
    else none

def recordsField? (buffer : Buffer) (record index : Nat) : Option (List Nat) := do
  match ← partField? buffer record index with
  | none => some []
  | some place =>
    let count ← unsigned? buffer place 4
    if buffer.size < place + 4 + 4 * count then none
    else (List.range count).mapM fun item => follow? buffer (place + 4 + 4 * item)

def pairsField? (buffer : Buffer) (record index : Nat) : Option (List (Nat × Nat)) := do
  match ← partField? buffer record index with
  | none => some []
  | some place =>
    let count ← unsigned? buffer place 4
    if buffer.size < place + 4 + 16 * count then none
    else (List.range count).mapM fun item => do
      let first ← unsigned? buffer (place + 4 + 16 * item) 8
      let second ← unsigned? buffer (place + 12 + 16 * item) 8
      return (first, second)

def number (count : Nat) (value : Int) : Bytes :=
  (Frame.toBigEndian count (value.emod (Nat.pow 2 (8 * count) : Nat)).toNat).reverse

inductive Part where
  | record (fields : List Part)
  | absent
  | scalar (bytes : Bytes)
  | text (content : String)
  | records (items : List Part)
  | pairs (items : List (Nat × Nat))

def gap (place : Nat) : Nat := (8 - place % 8) % 8

def padding (count : Nat) : Bytes := List.replicate count 0

mutual
/-- The bytes of a part that starts at `start`, a multiple of eight, and the place where it is found. -/
def Part.write (start : Nat) : Part → Nat × Bytes
  | .absent => (start, [])
  | .scalar bytes => (start, bytes)
  | .text content =>
    let bytes := Text.encode content
    let whole := number 4 bytes.length ++ bytes ++ [0]
    (start, whole ++ padding (gap whole.length))
  | .pairs items =>
    let whole := padding 4 ++ number 4 items.length ++
      items.flatMap fun (first, second) => number 8 first ++ number 8 second
    (start + 4, whole ++ padding (gap whole.length))
  | .records items =>
    let heading := 4 + 4 * items.length
    let size := heading + gap heading
    let (places, bytes) := writeItems (start + size) items
    let offsets := (List.range items.length).flatMap fun item =>
      number 4 (((places[item]?.getD 0 : Nat) : Int) - (start + 4 + 4 * item : Nat))
    (start, number 4 items.length ++ offsets ++ padding (gap heading) ++ bytes)
  | .record fields =>
    let slots := 4 + 2 * fields.length
    let head := slots + gap slots
    let record := start + head
    let size := 8 + 8 * fields.length
    let (entries, bytes) := writeFields record 8 (record + size) fields
    let offsets := (List.range fields.length).flatMap fun index =>
      number 2 (match fields[index]? with
        | some .absent => 0
        | _ => 8 + 8 * index)
    (record, number 2 slots ++ number 2 size ++ offsets ++ padding (gap slots) ++
      number 4 head ++ padding 4 ++ entries ++ bytes)

def writeItems (start : Nat) : List Part → List Nat × Bytes
  | [] => ([], [])
  | item :: rest =>
    let (place, bytes) := item.write start
    let (places, others) := writeItems (start + bytes.length) rest
    (place :: places, bytes ++ others)

def writeFields (record offset behind : Nat) : List Part → Bytes × Bytes
  | [] => ([], [])
  | field :: rest =>
    match field with
    | .absent =>
      let (entries, bytes) := writeFields record (offset + 8) behind rest
      (padding 8 ++ entries, bytes)
    | .scalar content =>
      let (entries, bytes) := writeFields record (offset + 8) behind rest
      (content ++ padding (8 - content.length) ++ entries, bytes)
    | part =>
      let (place, own) := part.write behind
      let (entries, bytes) := writeFields record (offset + 8) (behind + own.length) rest
      (number 4 ((place : Int) - (record + offset : Nat)) ++ padding 4 ++ entries, own ++ bytes)
end

def buffer (record : Part) : Bytes :=
  let (place, bytes) := record.write 8
  number 4 place ++ padding 4 ++ bytes

end RelationalLearning.Arrow.Flat
