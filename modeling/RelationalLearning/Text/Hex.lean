import RelationalLearning.Text.Utf8

namespace RelationalLearning.Text

def hexDigit (value : Nat) : Char :=
  if value < 10 then Char.ofNat ('0'.toNat + value) else Char.ofNat ('a'.toNat + value - 10)

def hexValue? (c : Char) : Option Nat :=
  if '0' ≤ c && c ≤ '9' then some (c.toNat - '0'.toNat)
  else if 'a' ≤ c && c ≤ 'f' then some (c.toNat - 'a'.toNat + 10)
  else if 'A' ≤ c && c ≤ 'F' then some (c.toNat - 'A'.toNat + 10)
  else none

def toHexChars : Bytes → List Char
  | [] => []
  | byte :: rest => hexDigit (byte.toNat / 16) :: hexDigit (byte.toNat % 16) :: toHexChars rest

def toHex (bytes : Bytes) : String := String.ofList (toHexChars bytes)

def ofHexChars? : List Char → Option Bytes
  | [] => some []
  | [_] => none
  | high :: low :: rest => do
    let h ← hexValue? high
    let l ← hexValue? low
    let bytes ← ofHexChars? rest
    return UInt8.ofNat (16 * h + l) :: bytes

def ofHex? (text : String) : Option Bytes := ofHexChars? text.toList

def hexNumber (value : Nat) : String := String.ofList (Nat.toDigits 16 value)

end RelationalLearning.Text
