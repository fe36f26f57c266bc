import Mathlib.Data.List.Basic
import RelationalLearning.Text.Utf8

namespace RelationalLearning.Text

theorem toList_loop (bytes : ByteArray) (index : Nat) (before : Bytes) :
    ByteArray.toList.loop bytes index before = before.reverse ++ bytes.data.toList.drop index := by
  induction index, before using ByteArray.toList.loop.induct bytes with
  | case1 index before inside ih =>
      have next : bytes.data.toList.drop index =
          bytes.data[index] :: bytes.data.toList.drop (index + 1) := by
        rw [List.drop_eq_getElem_cons (by simpa using inside)]
        rfl
      rw [ByteArray.toList.loop, if_pos inside, ih, next]
      simp [ByteArray.get!, inside]
  | case2 index before outside =>
      have done : bytes.data.toList.drop index = [] :=
        List.drop_of_length_le (by simpa using outside)
      rw [ByteArray.toList.loop, if_neg outside, done, List.append_nil]

theorem encode_ofList (chars : List Char) :
    encode (String.ofList chars) = chars.flatMap String.utf8EncodeChar := by
  rw [encode, String.toUTF8, String.toByteArray_ofList, ByteArray.toList, toList_loop,
    List.utf8Encode, List.data_toByteArray]
  rfl

theorem encode_append (first second : String) :
    encode (first ++ second) = encode first ++ encode second := by
  rw [← String.ofList_toList (s := first ++ second), String.toList_append, encode_ofList,
    List.flatMap_append, ← encode_ofList, ← encode_ofList, String.ofList_toList,
    String.ofList_toList]

theorem decodeChars_lead (lead : UInt8) (count low high code : Nat) (bytes rest : Bytes)
    (long : 0x80 ≤ lead.toNat) (range : continuation? lead = some (count, low, high))
    (taken : takeContinuation count low high (leadBits count lead) bytes = (some code, rest)) :
    decodeChars (lead :: bytes) = (Char.ofNat code :: (decodeChars rest).1, (decodeChars rest).2) := by
  rw [decodeChars, if_neg (Nat.not_lt_of_le long), range]
  dsimp only
  split
  next other left same =>
    obtain ⟨rfl, rfl⟩ : other = code ∧ left = rest := by simpa [taken] using same.symm
    rfl
  next left same => simp [taken] at same

theorem toNat_byte (value : Nat) (small : value < 256) : (UInt8.ofNat value).toNat = value := by
  simp [Nat.mod_eq_of_lt small]

theorem takeContinuation_succ (count low high code next : Nat) (rest : Bytes) (here : low ≤ next)
    (below : next ≤ high) (small : next < 256) :
    takeContinuation (count + 1) low high code (UInt8.ofNat next :: rest) =
      takeContinuation count 0x80 0xBF (code * 64 + next % 64) rest := by
  rw [takeContinuation, toNat_byte next small, if_pos (by simp [here, below])]

theorem decodeChars_one (code : Nat) (rest : Bytes) (short : code ≤ 0x7F) :
    decodeChars (UInt8.ofNat code :: rest) =
      (Char.ofNat code :: (decodeChars rest).1, (decodeChars rest).2) := by
  have same := toNat_byte code (by omega)
  rw [decodeChars, same, if_pos (by omega)]

theorem decodeChars_two (code : Nat) (rest : Bytes) (low : 0x7F < code) (high : code ≤ 0x7FF) :
    decodeChars (UInt8.ofNat (code / 64 % 32 + 192) :: UInt8.ofNat (code % 64 + 128) :: rest) =
      (Char.ofNat code :: (decodeChars rest).1, (decodeChars rest).2) := by
  have lead := toNat_byte (code / 64 % 32 + 192) (by omega)
  refine decodeChars_lead _ 1 0x80 0xBF code _ rest (by omega) ?_ ?_
  · rw [continuation?, lead, if_pos (by simp; omega)]
  · rw [takeContinuation_succ 0 _ _ _ _ _ (by omega) (by omega) (by omega), takeContinuation,
      leadBits, lead]
    congr 2
    simp
    omega

theorem decodeChars_three (code : Nat) (rest : Bytes) (low : 0x7FF < code) (high : code ≤ 0xFFFF)
    (proper : code < 0xD800 ∨ 0xDFFF < code) :
    decodeChars (UInt8.ofNat (code / 4096 % 16 + 224) :: UInt8.ofNat (code / 64 % 64 + 128) ::
        UInt8.ofNat (code % 64 + 128) :: rest) =
      (Char.ofNat code :: (decodeChars rest).1, (decodeChars rest).2) := by
  have lead := toNat_byte (code / 4096 % 16 + 224) (by omega)
  obtain ⟨least, greatest, range, above, below⟩ : ∃ least greatest,
      continuation? (UInt8.ofNat (code / 4096 % 16 + 224)) = some (2, least, greatest) ∧
        least ≤ code / 64 % 64 + 128 ∧ code / 64 % 64 + 128 ≤ greatest := by
    rw [continuation?, lead, if_neg (by simp)]
    by_cases first : code / 4096 % 16 + 224 = 0xE0
    · exact ⟨0xA0, 0xBF, if_pos first, by omega, by omega⟩
    · rw [if_neg first]
      by_cases surrogates : code / 4096 % 16 + 224 = 0xED
      · exact ⟨0x80, 0x9F, if_pos surrogates, by omega, by omega⟩
      · exact ⟨0x80, 0xBF, by rw [if_neg surrogates, if_pos (by simp; omega)], by omega, by omega⟩
  refine decodeChars_lead _ 2 least greatest code _ rest (by omega) range ?_
  rw [takeContinuation_succ 1 _ _ _ _ _ above below (by omega),
    takeContinuation_succ 0 _ _ _ _ _ (by omega) (by omega) (by omega), takeContinuation,
    leadBits, lead]
  congr 2
  simp
  omega

theorem decodeChars_four (code : Nat) (rest : Bytes) (low : 0xFFFF < code)
    (high : code < 0x110000) :
    decodeChars (UInt8.ofNat (code / 262144 % 8 + 240) :: UInt8.ofNat (code / 4096 % 64 + 128) ::
        UInt8.ofNat (code / 64 % 64 + 128) :: UInt8.ofNat (code % 64 + 128) :: rest) =
      (Char.ofNat code :: (decodeChars rest).1, (decodeChars rest).2) := by
  have lead := toNat_byte (code / 262144 % 8 + 240) (by omega)
  obtain ⟨least, greatest, range, above, below⟩ : ∃ least greatest,
      continuation? (UInt8.ofNat (code / 262144 % 8 + 240)) = some (3, least, greatest) ∧
        least ≤ code / 4096 % 64 + 128 ∧ code / 4096 % 64 + 128 ≤ greatest := by
    rw [continuation?, lead, if_neg (by simp), if_neg (by omega), if_neg (by omega),
      if_neg (by simp)]
    by_cases first : code / 262144 % 8 + 240 = 0xF0
    · exact ⟨0x90, 0xBF, if_pos first, by omega, by omega⟩
    · rw [if_neg first]
      by_cases last : code / 262144 % 8 + 240 = 0xF4
      · exact ⟨0x80, 0x8F, if_pos last, by omega, by omega⟩
      · exact ⟨0x80, 0xBF, by rw [if_neg last, if_pos (by simp; omega)], by omega, by omega⟩
  refine decodeChars_lead _ 3 least greatest code _ rest (by omega) range ?_
  rw [takeContinuation_succ 2 _ _ _ _ _ above below (by omega),
    takeContinuation_succ 1 _ _ _ _ _ (by omega) (by omega) (by omega),
    takeContinuation_succ 0 _ _ _ _ _ (by omega) (by omega) (by omega), takeContinuation,
    leadBits, lead]
  congr 2
  simp
  omega

theorem decodeChars_char (char : Char) (rest : Bytes) :
    decodeChars (String.utf8EncodeChar char ++ rest) =
      (char :: (decodeChars rest).1, (decodeChars rest).2) := by
  have valid : char.toNat < 0xD800 ∨ 0xDFFF < char.toNat ∧ char.toNat < 0x110000 := char.valid
  have same := Char.ofNat_toNat char
  rw [String.utf8EncodeChar, Char.toNat_val]
  split_ifs with one two three
  · exact (decodeChars_one char.toNat rest one).trans (by rw [same])
  · exact (decodeChars_two char.toNat rest (by omega) two).trans (by rw [same])
  · exact (decodeChars_three char.toNat rest (by omega) three (by omega)).trans (by rw [same])
  · exact (decodeChars_four char.toNat rest (by omega) (by omega)).trans (by rw [same])

theorem decodeChars_chars (chars : List Char) :
    decodeChars (chars.flatMap String.utf8EncodeChar) = (chars, true) := by
  induction chars with
  | nil => rw [List.flatMap_nil, decodeChars]
  | cons char chars ih => rw [List.flatMap_cons, decodeChars_char, ih]

theorem decode_encode (text : String) :
    decodeLossy (encode text) = text ∧ decode? (encode text) = some text := by
  have chars : decodeChars (encode text) = (text.toList, true) := by
    rw [← String.ofList_toList (s := text), encode_ofList, decodeChars_chars, String.toList_ofList]
  simp [decodeLossy, decode?, chars]

theorem encode_eq_nil (text : String) : encode text = [] ↔ text = "" := by
  have empty : encode "" = [] := by simpa using encode_ofList []
  constructor
  · intro none
    have same := (decode_encode text).1
    rw [none, ← empty, (decode_encode "").1] at same
    exact same.symm
  · rintro rfl
    exact empty

end RelationalLearning.Text
