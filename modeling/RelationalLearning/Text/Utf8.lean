namespace RelationalLearning.Text

abbrev Bytes := List UInt8

/-- How many continuation bytes follow a leading byte, and the range of the first of them. -/
def continuation? (lead : UInt8) : Option (Nat × Nat × Nat) :=
  let byte := lead.toNat
  if 0xC2 ≤ byte && byte ≤ 0xDF then some (1, 0x80, 0xBF)
  else if byte = 0xE0 then some (2, 0xA0, 0xBF)
  else if byte = 0xED then some (2, 0x80, 0x9F)
  else if 0xE1 ≤ byte && byte ≤ 0xEF then some (2, 0x80, 0xBF)
  else if byte = 0xF0 then some (3, 0x90, 0xBF)
  else if byte = 0xF4 then some (3, 0x80, 0x8F)
  else if 0xF1 ≤ byte && byte ≤ 0xF3 then some (3, 0x80, 0xBF)
  else none

def leadBits (count : Nat) (lead : UInt8) : Nat :=
  lead.toNat % (if count = 1 then 32 else if count = 2 then 16 else 8)

/-- Takes `count` continuation bytes; the first lies in `low … high`. `none` beside the bytes left when one is missing. -/
def takeContinuation : Nat → Nat → Nat → Nat → Bytes → Option Nat × Bytes
  | 0, _, _, code, rest => (some code, rest)
  | _ + 1, _, _, _, [] => (none, [])
  | count + 1, low, high, code, byte :: rest =>
    if low ≤ byte.toNat && byte.toNat ≤ high then
      takeContinuation count 0x80 0xBF (code * 64 + byte.toNat % 64) rest
    else (none, byte :: rest)

theorem length_takeContinuation (count low high code : Nat) (bytes : Bytes) :
    (takeContinuation count low high code bytes).2.length ≤ bytes.length := by
  induction bytes generalizing count low high code with
  | nil => cases count <;> simp [takeContinuation]
  | cons byte rest ih =>
    cases count with
    | zero => simp [takeContinuation]
    | succ count =>
      simp only [takeContinuation]
      split
      · have := ih count 0x80 0xBF (code * 64 + byte.toNat % 64)
        simp; omega
      · simp

/-- The characters of a byte string; the flag tells whether all of it was well formed. -/
def decodeChars : Bytes → List Char × Bool
  | [] => ([], true)
  | lead :: rest =>
    if lead.toNat < 0x80 then
      let (chars, valid) := decodeChars rest
      (Char.ofNat lead.toNat :: chars, valid)
    else
      match continuation? lead with
      | none => ('\uFFFD' :: (decodeChars rest).1, false)
      | some (count, low, high) =>
        match h : takeContinuation count low high (leadBits count lead) rest with
        | (some code, left) =>
          have : left.length ≤ rest.length := by
            have := length_takeContinuation count low high (leadBits count lead) rest
            rw [h] at this; exact this
          let (chars, valid) := decodeChars left
          (Char.ofNat code :: chars, valid)
        | (none, left) =>
          have : left.length ≤ rest.length := by
            have := length_takeContinuation count low high (leadBits count lead) rest
            rw [h] at this; exact this
          ('\uFFFD' :: (decodeChars left).1, false)
termination_by bytes => bytes.length

def decodeLossy (bytes : Bytes) : String := String.ofList (decodeChars bytes).1

def decode? (bytes : Bytes) : Option String :=
  let (chars, valid) := decodeChars bytes
  if valid then some (String.ofList chars) else none

def encode (text : String) : Bytes := text.toUTF8.toList

end RelationalLearning.Text
