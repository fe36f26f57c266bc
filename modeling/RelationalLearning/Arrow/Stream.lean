import RelationalLearning.Arrow.Flat
import RelationalLearning.Engine.Session

/-!
Tables as a stream of messages. A message is a mark, the length of its description, the
description, and a body whose length the description tells; a description of length zero ends the
stream. The first message describes the columns, every further one holds a batch.
-/

namespace RelationalLearning.Arrow

open Text (Bytes)

/-- The mark before the length of a description, which older streams leave out. -/
def continuation : Bytes := [0xff, 0xff, 0xff, 0xff]

def fits? (buffer : Flat.Buffer) (record : Nat) : Option Unit := do
  match ← Flat.slot? buffer record 1, ← Flat.slot? buffer record 2 with
  | none, none => return
  | some tag, some content =>
    let tag ← Flat.unsigned? buffer tag 1
    if 1 ≤ tag && tag ≤ 5 then
      let _ ← Flat.slots? buffer (← Flat.follow? buffer content)
  | _, _ => none

def bodyLength? (description : Bytes) : Option Int := do
  let buffer := description.toArray
  let record ← Flat.root? buffer
  let _ ← Flat.intField? buffer record 0 2 0
  fits? buffer record
  let _ ← Flat.recordsField? buffer record 4
  Flat.intField? buffer record 3 8 0

def descriptionLength : Reader (Int × Bytes) := do
  let start ← Frame.header 4
  if start = continuation then
    let size ← Frame.header 4
    return (Frame.signed32 (Frame.littleEndian size), start ++ size)
  else return (Frame.signed32 (Frame.littleEndian start), start)

def readBody (size : Int) : Reader Bytes := if 0 < size then Frame.payload size.toNat else pure []

/--
The next message as it stands, and whether it is the end of the stream. `told` says what is a
description and how long the body is that it announces.
-/
def readMessage (told : Bytes → Option Int) : Reader (Bytes × Bool) := do
  let (length, start) ← descriptionLength
  if length = 0 then return (start, true)
  else if length < 0 then throw (.protocol s!"Invalid Arrow metadata length: {length}")
  else
    let description ← Frame.payload length.toNat
    match told description with
    | none => throw (.protocol "Invalid Arrow message: ")
    | some size => return (start ++ description ++ (← readBody size), false)

def readMessages (told : Bytes → Option Int) : Nat → Reader Bytes
  | 0 => throw .endOfStream
  | fuel + 1 => do
    let (message, ends) ← readMessage told
    if ends then return message else return message ++ (← readMessages told fuel)

def readStreamOf (told : Bytes → Option Int) : Reader Bytes := do
  readMessages told ((← get).length + 1)

def readStream : Reader Bytes := readStreamOf bodyLength?

def DataType.ofFlat? (buffer : Flat.Buffer) (tag : Int) (record : Option Nat) : Option DataType := do
  let field (index count : Nat) (standard : Int) : Option Int :=
    match record with
    | none => some standard
    | some place => Flat.intField? buffer place index count standard
  match tag with
  | 1 => return .null
  | 2 =>
    match ← field 0 4 0, ← field 1 1 0 with
    | 64, 1 => return .int64
    | 32, 1 => return .int32
    | 8, 0 => return .uint8
    | _, _ => none
  | 3 =>
    match ← field 0 2 0 with
    | 1 => return .float32
    | 2 => return .float64
    | _ => none
  | 4 => return .binary
  | 5 => return .utf8
  | 6 => return .boolean
  | 8 => if (← field 0 2 1) = 0 then return .date32 else return .date64
  | 9 => return .time32
  | 10 =>
    match ← field 0 2 0 with
    | 0 => return .timestampS
    | 3 => return .timestampNs
    | _ => none
  | 20 => return .largeUtf8
  | _ => none

def DataType.toFlat : DataType → Nat × Flat.Part
  | .null => (1, .record [])
  | .int64 => (2, .record [.scalar (Flat.number 4 64), .scalar [1]])
  | .int32 => (2, .record [.scalar (Flat.number 4 32), .scalar [1]])
  | .uint8 => (2, .record [.scalar (Flat.number 4 8), .scalar [0]])
  | .float32 => (3, .record [.scalar (Flat.number 2 1)])
  | .float64 => (3, .record [.scalar (Flat.number 2 2)])
  | .binary => (4, .record [])
  | .utf8 => (5, .record [])
  | .boolean => (6, .record [])
  | .date32 => (8, .record [.scalar (Flat.number 2 0)])
  | .date64 => (8, .record [.scalar (Flat.number 2 1)])
  | .time32 => (9, .record [.scalar (Flat.number 2 0), .scalar (Flat.number 4 32)])
  | .timestampS => (10, .record [.scalar (Flat.number 2 0)])
  | .timestampNs => (10, .record [.scalar (Flat.number 2 3)])
  | .largeUtf8 => (20, .record [])

def message (tag : Nat) (content : Flat.Part) (body : Bytes) : Bytes :=
  let description := Flat.buffer (.record
    [.scalar (Flat.number 2 4), .scalar (Flat.number 1 tag), content, .scalar (Flat.number 8 body.length)])
  let filled := description ++ Flat.padding (Flat.gap description.length)
  continuation ++ Flat.number 4 filled.length ++ filled ++ body

def schemaMessage (schema : Schema) : Bytes :=
  let field (name : String) (type : DataType) : Flat.Part :=
    let (tag, description) := type.toFlat
    .record [.text name, .scalar [1], .scalar (Flat.number 1 tag), description, .absent, .records []]
  message 1 (.record [.scalar (Flat.number 2 0), .records (schema.map fun (name, type) => field name type)]) []

def packBits : List Bool → Bytes
  | [] => []
  | flags@(_ :: _) =>
    let byte := (flags.take 8).foldr (fun flag higher => 2 * higher + if flag then 1 else 0) 0
    UInt8.ofNat byte :: packBits (flags.drop 8)
termination_by flags => flags.length

def Cell.isMissing : Cell → Bool
  | .missing => true
  | _ => false

def Cell.toInt : Cell → Int
  | .int value => value
  | _ => 0

def Cell.toFloat : Cell → Float
  | .float value => value
  | _ => 0.0

def Cell.toText : Cell → String
  | .text value => value
  | _ => ""

def Cell.toBool : Cell → Bool
  | .bool value => value
  | _ => false

def offsets (start : Nat) : List Bytes → List Nat
  | [] => [start]
  | bytes :: rest => start :: offsets (start + bytes.length) rest

def DataType.buffers (type : DataType) (cells : List Cell) : List Bytes :=
  let whole (count : Nat) : List Bytes := [cells.flatMap fun cell => Flat.number count cell.toInt]
  let texts (count : Nat) : List Bytes :=
    let contents := cells.map fun cell => Text.encode cell.toText
    [(offsets 0 contents).flatMap fun place => Flat.number count (place : Nat), contents.flatten]
  match type with
  | .float64 => [cells.flatMap fun cell => Flat.number 8 cell.toFloat.toBits.toNat]
  | .float32 => [cells.flatMap fun cell => Flat.number 4 cell.toFloat.toFloat32.toBits.toNat]
  | .int64 | .timestampNs | .timestampS | .date64 => whole 8
  | .int32 | .date32 | .time32 => whole 4
  | .uint8 => whole 1
  | .boolean => [packBits (cells.map Cell.toBool)]
  | .utf8 | .binary => texts 4
  | .largeUtf8 => texts 8
  | .null => []

def columnBuffers (type : DataType) (cells : List Cell) : List Bytes :=
  match type with
  | .null => []
  | _ => packBits (cells.map fun cell => !cell.isMissing) :: type.buffers cells

/-- Buffers one after another, each filled up to a multiple of eight; with their places and lengths. -/
def layOut (start : Nat) : List Bytes → List (Nat × Nat) × Bytes
  | [] => ([], [])
  | bytes :: rest =>
    let filled := bytes ++ Flat.padding (Flat.gap bytes.length)
    let (places, others) := layOut (start + filled.length) rest
    ((start, bytes.length) :: places, filled ++ others)

def batchMessage (schema : Schema) (batch : Batch) : Bytes :=
  let columns := schema.zip batch
  let nodes := columns.map fun (_, cells) => (cells.length, (cells.filter Cell.isMissing).length)
  let (places, body) := layOut 0 (columns.flatMap fun ((_, type), cells) => columnBuffers type cells)
  message 3 (.record [.scalar (Flat.number 8 batch.rows), .pairs nodes, .pairs places]) body

def encode (table : Table) : Bytes :=
  schemaMessage table.schema ++ table.batches.flatMap (batchMessage table.schema) ++
    continuation ++ Flat.number 4 0

def splitMessages : Nat → Reader (List (Int × Flat.Buffer × Nat × Flat.Buffer))
  | 0 => throw .arrow
  | fuel + 1 => do
    let (length, _) ← descriptionLength
    if length ≤ 0 then return []
    let description := (← Frame.payload length.toNat).toArray
    let header := do
      let record ← Flat.root? description
      let tag ← Flat.intField? description record 1 1 0
      let content ← Flat.partField? description record 2
      let size ← Flat.intField? description record 3 8 0
      return (tag, ← content, size)
    match header with
    | none => throw .arrow
    | some (tag, content, size) => do
      let body ← readBody size
      return (tag, description, content, body.toArray) :: (← splitMessages fuel)

def schemaOf? (buffer : Flat.Buffer) (record : Nat) : Option Schema := do
  (← Flat.recordsField? buffer record 1).mapM fun field => do
    let name ← Flat.textField? buffer field 0
    let tag ← Flat.intField? buffer field 2 1 0
    let type ← DataType.ofFlat? buffer tag (← Flat.partField? buffer field 3)
    return (name, type)

def bit? (bits : Flat.Buffer) (start index : Nat) : Option Bool :=
  bits[start + index / 8]?.map fun byte => byte.toNat / Nat.pow 2 (index % 8) % 2 = 1

def cell? (type : DataType) (body : Flat.Buffer) (places : List (Nat × Nat)) (index : Nat) : Option Cell := do
  let start (buffer : Nat) : Option Nat := (places[buffer]?).map (·.1)
  let whole (count : Nat) : Option Cell := do
    return .int (← Flat.signed? body ((← start 0) + count * index) count)
  let text (count : Nat) : Option Cell := do
    let first ← Flat.unsigned? body ((← start 0) + count * index) count
    let last ← Flat.unsigned? body ((← start 0) + count * (index + 1)) count
    let base ← start 1
    if body.size < base + last || last < first then none
    else return .text (Text.decodeLossy (body.extract (base + first) (base + last)).toList)
  match type with
  | .float64 =>
    let bits ← Flat.unsigned? body ((← start 0) + 8 * index) 8
    return .float (Float.ofBits (UInt64.ofNat bits))
  | .float32 =>
    let bits ← Flat.unsigned? body ((← start 0) + 4 * index) 4
    return .float (Float32.ofBits (UInt32.ofNat bits)).toFloat
  | .int64 | .timestampNs | .timestampS | .date64 => whole 8
  | .int32 | .date32 | .time32 => whole 4
  | .uint8 => return .int (← Flat.unsigned? body ((← start 0) + index) 1)
  | .boolean => return .bool (← bit? body (← start 0) index)
  | .utf8 | .binary => text 4
  | .largeUtf8 => text 8
  | .null => return .missing

def DataType.bufferCount : DataType → Nat
  | .utf8 | .largeUtf8 | .binary => 2
  | .null => 0
  | _ => 1

def column? (type : DataType) (body : Flat.Buffer) (rows missing : Nat) (places : List (Nat × Nat)) :
    Option (List Cell) :=
  match type, places with
  | .null, _ => some (List.replicate rows .missing)
  | _, (present, size) :: data =>
    (List.range rows).mapM fun index => do
      let there ← if missing = 0 || size = 0 then some true else bit? body present index
      if there then cell? type body data index else return .missing
  | _, [] => none

def columns? (body : Flat.Buffer) : Schema → List (Nat × Nat) → List (Nat × Nat) → Option Batch
  | [], _, _ => some []
  | (_, type) :: schema, (rows, missing) :: nodes, places => do
    let count := if type = .null then 0 else type.bufferCount + 1
    if places.length < count then none
    else
      let column ← column? type body rows missing (places.take count)
      return column :: (← columns? body schema nodes (places.drop count))
  | _ :: _, [], _ => none

def batchOf? (schema : Schema) (buffer : Flat.Buffer) (record : Nat) (body : Flat.Buffer) : Option Batch := do
  columns? body schema (← Flat.pairsField? buffer record 1) (← Flat.pairsField? buffer record 2)

def decode (stream : Bytes) : Except EngineError Table :=
  match ((splitMessages (stream.length + 1)).run.run stream).1 with
  | .ok ((1, description, record, _) :: batches) =>
    let table := do
      let schema ← schemaOf? description record
      let batches ← batches.mapM fun (tag, description, record, body) =>
        if tag = 3 then batchOf? schema description record body else none
      return ⟨schema, batches⟩
    match table with
    | some table => .ok table
    | none => .error .arrow
  | _ => .error .arrow

end RelationalLearning.Arrow

namespace RelationalLearning

def Link.receiveTable (link : Nat) : Client EngineError Arrow.Table := do
  let stream ← Link.read link Arrow.readStream
  let table ← Client.ofExcept (Arrow.decode stream)
  modify (World.record (.delivered link (.table table)))
  return table

end RelationalLearning
