import RelationalLearning.Engine.Session
import RelationalLearning.Proofs.Outcome
import RelationalLearning.Proofs.Text.Pieces
import RelationalLearning.Proofs.Text.Utf8

namespace RelationalLearning

open Text (Bytes)

variable {α β : Type}

/-- The reader finds the value in its frame, whatever follows it, and in no beginning of it. -/
structure Frames (reader : Reader α) (frame : Bytes) (value : α) : Prop where
  whole : ∀ rest, reader (frame ++ rest) = (.ok value, rest)
  cut : ∀ part, part <+: frame → part ≠ frame →
    ∃ cause rest, reader part = (.error cause, rest)

namespace Frames

theorem pure (value : α) : Frames (Pure.pure value) [] value := by
  refine ⟨fun rest => rfl, ?_⟩
  intro part start shorter
  exact absurd (List.prefix_nil.mp start) shorter

theorem bind (reader : Reader α) (next : α → Reader β) (front back : Bytes) (value : α)
    (result : β) (first : Frames reader front value) (second : Frames (next value) back result) :
    Frames (reader >>= next) (front ++ back) result := by
  refine ⟨?_, ?_⟩
  · intro rest
    rw [Outcome.run_bind, List.append_assoc, first.whole]
    exact second.whole rest
  · intro part start shorter
    rw [Outcome.run_bind]
    rcases List.prefix_or_prefix_of_prefix start (List.prefix_append front back) with within | past
    · by_cases all : part = front
      · -- cut right between the two, so the second reader finds nothing of its frame
        subst all
        have none : [] ≠ back := by
          rintro rfl
          exact shorter (List.append_nil part).symm
        have read := first.whole []
        rw [List.append_nil] at read
        rw [read]
        exact second.cut [] List.nil_prefix none
      · obtain ⟨cause, rest, failed⟩ := first.cut part within all
        exact ⟨cause, rest, by rw [failed]⟩
    · obtain ⟨more, rfl⟩ := past
      rw [first.whole]
      apply second.cut more ((List.prefix_append_right_inj front).mp start)
      rintro rfl
      exact shorter rfl

theorem map (reader : Reader α) (change : α → β) (frame : Bytes) (value : α)
    (read : Frames reader frame value) :
    Frames (do return change (← reader)) frame (change value) := by
  have both := bind reader (fun value => Pure.pure (change value)) frame [] value _ read (pure _)
  rwa [List.append_nil] at both

end Frames

namespace Frame

theorem frames_taken (bytes : Bytes) (reader : Reader Bytes) (cause : Bytes → EngineError)
    (taken : ∀ given, reader given =
      (if given.length < bytes.length then (throw (cause given) : Reader Bytes)
        else pure (given.take bytes.length)) (given.drop bytes.length)) :
    Frames reader bytes bytes := by
  refine ⟨?_, ?_⟩
  · intro rest
    rw [taken, if_neg (by simp), List.take_left, List.drop_left]
    rfl
  · intro part start shorter
    have short : part.length < bytes.length := by
      by_contra long
      exact shorter (start.eq_of_length_le (Nat.le_of_not_lt long))
    exact ⟨cause part, part.drop bytes.length, by rw [taken, if_pos short]; rfl⟩

theorem frames_header (bytes : Bytes) : Frames (header bytes.length) bytes bytes :=
  frames_taken bytes _ _ fun _ => rfl

theorem frames_payload (bytes : Bytes) : Frames (payload bytes.length) bytes bytes :=
  frames_taken bytes _ _ fun _ => rfl

@[simp]
theorem length_toBigEndian (count value : Nat) : (toBigEndian count value).length = count := by
  simp [toBigEndian]

theorem toBigEndian_succ (count value : Nat) :
    toBigEndian (count + 1) value = toBigEndian count (value / 256) ++ [UInt8.ofNat value] := by
  have digit (place : Nat) : value / Nat.pow 256 (place + 1) = value / 256 / Nat.pow 256 place := by
    rw [Nat.div_div_eq_div_mul, Nat.mul_comm]
    rfl
  simp only [toBigEndian, List.range_succ_eq_map, List.map_cons, List.map_map, Function.comp_def,
    Nat.succ_eq_add_one, digit, List.reverse_cons]
  simp

theorem bigEndian_append (bytes : Bytes) (last : UInt8) :
    bigEndian (bytes ++ [last]) = 256 * bigEndian bytes + last.toNat := by
  simp [bigEndian]

theorem bigEndian_toBigEndian (count value : Nat) (fits : value < Nat.pow 256 count) :
    bigEndian (toBigEndian count value) = value := by
  induction count generalizing value with
  | zero =>
      obtain rfl : value = 0 := Nat.lt_one_iff.mp fits
      rfl
  | succ count ih =>
      have smaller : value / 256 < Nat.pow 256 count :=
        Nat.div_lt_of_lt_mul (by rwa [Nat.mul_comm])
      have last : (UInt8.ofNat value).toNat = value % 256 := by simp
      rw [toBigEndian_succ, bigEndian_append, ih _ smaller, last]
      exact Nat.div_add_mod value 256

theorem frames_digits (count value : Nat) :
    Frames (header count) (toBigEndian count value) (toBigEndian count value) := by
  have taken := frames_header (toBigEndian count value)
  rwa [length_toBigEndian] at taken

theorem signed32_of_lt (value : Nat) (fits : value < Nat.pow 2 31) : signed32 value = value :=
  if_pos fits

/-- The frame of a reply. Bytes that are no text stand for characters that replace them. -/
def Carries (frame : Bytes) (reply : String) : Prop :=
  ∃ payload : Bytes, payload.length < Nat.pow 2 31 ∧
    frame = toBigEndian 4 payload.length ++ payload ∧ reply = Text.decodeLossy payload

theorem Carries.frames {frame : Bytes} {reply : String} (carries : Carries frame reply) :
    Frames text frame reply := by
  obtain ⟨payload, fits, rfl, rfl⟩ := carries
  have wide : payload.length < Nat.pow 256 4 := Nat.lt_trans fits (by decide)
  refine Frames.bind _ _ _ _ _ _ (frames_digits 4 _) ?_
  rw [bigEndian_toBigEndian 4 _ wide, signed32_of_lt _ fits, if_neg (Int.not_lt.mpr (by simp))]
  exact Frames.map _ Text.decodeLossy _ _ (frames_payload payload)

def ofReply (reply : String) : Bytes :=
  toBigEndian 4 (Text.encode reply).length ++ Text.encode reply

theorem carries_ofReply (reply : String) (fits : (Text.encode reply).length < Nat.pow 2 31) :
    Carries (ofReply reply) reply :=
  ⟨Text.encode reply, fits, rfl, (Text.decode_encode reply).1.symm⟩

theorem frames_text (content : String) (fits : (Text.encode content).length < Nat.pow 2 31) :
    ofText content = .ok (ofReply content) ∧ Frames text (ofReply content) content :=
  ⟨if_pos fits, (carries_ofReply content fits).frames⟩

theorem frames_byteString (bytes : Bytes) (fits : bytes.length < Nat.pow 2 64) :
    Frames byteString (ofByteString bytes) bytes := by
  refine Frames.bind _ _ _ _ _ bytes (frames_digits 8 _) ?_
  rw [bigEndian_toBigEndian 8 _ fits]
  exact frames_payload bytes

theorem splitOn_joined (entries : List String)
    (whole : ∀ entry ∈ entries, Text.contains entry separator = false) (some : entries ≠ []) :
    Text.splitOn (Text.join separator entries) separator = entries :=
  Text.splitOn_join separator '$' "GETML_SEP".toList (by decide) (by decide) entries some whole

/-- No bytes at all are no entries, so a single entry has to show. -/
theorem frames_textColumn (entries : List String)
    (whole : ∀ entry ∈ entries, Text.contains entry separator = false) (visible : entries ≠ [""])
    (fits : (Text.encode (Text.join separator entries)).length < Nat.pow 2 64) :
    Frames textColumn (ofTextColumn entries) entries := by
  rw [← List.append_nil (ofTextColumn entries)]
  refine Frames.bind _ _ _ [] _ entries (frames_byteString _ fits) ?_
  by_cases empty : entries = []
  · subst empty
    have none : Text.encode (Text.join separator []) = [] := (Text.encode_eq_nil _).mpr rfl
    rw [none]
    exact Frames.pure []
  · have some : Text.encode (Text.join separator entries) ≠ [] := by
      intro none
      have joined : Text.join separator entries = Text.join separator [""] :=
        (Text.encode_eq_nil _).mp none
      -- what is joined to nothing is split into a single empty entry
      have single := splitOn_joined [""] (by decide) (by simp)
      rw [← joined, splitOn_joined entries whole empty] at single
      exact visible single
    rw [if_neg (by simpa using some), (Text.decode_encode _).1, splitOn_joined entries whole empty]
    exact Frames.pure entries

theorem wordsOf_append (word : UInt64) (bytes : Bytes) :
    wordsOf (toBigEndian 8 word.toNat ++ bytes) = word :: wordsOf bytes := by
  have digits := length_toBigEndian 8 word.toNat
  have places : (toBigEndian 8 word.toNat ++ bytes).length / 8 = bytes.length / 8 + 1 := by
    rw [List.length_append, digits]
    omega
  have first : UInt64.ofNat (bigEndian (toBigEndian 8 word.toNat)) = word := by
    rw [bigEndian_toBigEndian 8 _ word.toNat_lt]
    simp
  have later (index : Nat) : (toBigEndian 8 word.toNat ++ bytes).drop (8 * (index + 1)) =
      bytes.drop (8 * index) := by
    rw [List.drop_append, digits, List.drop_of_length_le (by rw [digits]; omega)]
    congr 1
  simp only [wordsOf, places, List.range_succ_eq_map, List.map_cons, List.map_map,
    Function.comp_def, Nat.succ_eq_add_one, later]
  rw [Nat.mul_zero, List.drop_zero, List.take_left' digits, first]

theorem wordsOf_words (words : List UInt64) :
    wordsOf (words.flatMap fun word => toBigEndian 8 word.toNat) = words := by
  induction words with
  | nil => rfl
  | cons word words ih => rw [List.flatMap_cons, wordsOf_append, ih]

theorem length_words (words : List UInt64) :
    (words.flatMap fun word => toBigEndian 8 word.toNat).length = words.length * 8 := by
  simp [List.length_flatMap]

theorem frames_matrix (content : Matrix) (rows : content.rows < Nat.pow 2 31)
    (columns : content.columns < Nat.pow 2 31)
    (full : content.bits.length = content.rows * content.columns)
    (fits : content.rows * content.columns * 8 < Nat.pow 2 64) :
    Frames matrix (ofMatrix content) content := by
  let words := content.bits.flatMap fun word => toBigEndian 8 word.toNat
  have size : words.length = content.rows * content.columns * 8 := by rw [length_words, full]
  -- one header holds both dimensions
  have shape := frames_header (toBigEndian 4 content.rows ++ toBigEndian 4 content.columns)
  rw [List.length_append, length_toBigEndian, length_toBigEndian] at shape
  refine Frames.bind _ _ _ words _ content shape ?_
  have wide : Nat.pow 2 31 < Nat.pow 256 4 := by decide
  have read := Frames.map _ (fun bytes => (⟨content.rows, content.columns, wordsOf bytes⟩ : Matrix))
    _ _ (frames_payload words)
  rw [wordsOf_words, size] at read
  rw [List.take_left' (length_toBigEndian 4 _), List.drop_left' (length_toBigEndian 4 _),
    bigEndian_toBigEndian 4 _ (Nat.lt_trans rows wide),
    bigEndian_toBigEndian 4 _ (Nat.lt_trans columns wide), signed32_of_lt _ rows,
    signed32_of_lt _ columns]
  rw [if_neg (by simp), Int.toNat_natCast, Int.toNat_natCast, if_neg (Nat.not_le_of_lt fits)]
  exact read

theorem sendText_long (content : String) (long : Nat.pow 2 31 ≤ (Text.encode content).length)
    (link : Nat) (world : World) : Link.sendText link content world =
      (.error (.protocol s!"String of {(Text.encode content).length} bytes is too long"), world) := by
  rw [Link.sendText, ofText, if_neg (Nat.not_lt_of_le long)]
  rfl

/--
Whatever fits in a frame is read back from it, with nothing taken of what follows, and nothing is
read from a frame that is cut off.
-/
theorem frames_lossless :
    (∀ content : String, (Text.encode content).length < Nat.pow 2 31 →
      ∃ frame, ofText content = .ok frame ∧ Frames text frame content) ∧
    (∀ bytes : Bytes, bytes.length < Nat.pow 2 64 →
      Frames byteString (ofByteString bytes) bytes) ∧
    (∀ entries : List String, entries ≠ [""] →
      (∀ entry ∈ entries, Text.contains entry separator = false) →
      (Text.encode (Text.join separator entries)).length < Nat.pow 2 64 →
        Frames textColumn (ofTextColumn entries) entries) ∧
    (∀ content : Matrix, content.rows < Nat.pow 2 31 → content.columns < Nat.pow 2 31 →
      content.bits.length = content.rows * content.columns →
      content.rows * content.columns * 8 < Nat.pow 2 64 →
        Frames matrix (ofMatrix content) content) ∧
    ∀ (content : String) (link : Nat) (world : World),
      Nat.pow 2 31 ≤ (Text.encode content).length → Link.sendText link content world =
        (.error (.protocol s!"String of {(Text.encode content).length} bytes is too long"), world) := by
  refine ⟨?_, frames_byteString, ?_, frames_matrix, ?_⟩
  · intro content fits
    exact ⟨_, frames_text content fits⟩
  · intro entries visible whole fits
    exact frames_textColumn entries whole visible fits
  · intro content link world long
    exact sendText_long content long link world

theorem frames_lossless_euro :
    (∃ frame, ofText "€5" = .ok frame ∧ Frames text frame "€5") ∧
    Frames byteString (ofByteString [0, 255]) [0, 255] ∧
    Frames textColumn (ofTextColumn ["$GETML_", "", "€5"]) ["$GETML_", "", "€5"] ∧
    Frames matrix (ofMatrix ⟨1, 2, [0x7FF0000000000001, 0x8000000000000000]⟩)
      ⟨1, 2, [0x7FF0000000000001, 0x8000000000000000]⟩ ∧
    ∃ cause, Link.sendText 0 (String.ofList (List.replicate (Nat.pow 2 31) 'a')) {} =
      (.error cause, {}) := by
  obtain ⟨texts, byteStrings, columns, matrices, long⟩ := frames_lossless
  have size (chars : List Char) : (Text.encode (String.ofList chars)).length =
      (chars.flatMap String.utf8EncodeChar).length := by rw [Text.encode_ofList]
  have letters (count : Nat) :
      (Text.encode (String.ofList (List.replicate count 'a'))).length = count := by
    rw [size, List.length_flatMap, List.map_replicate, List.sum_replicate_nat]
    exact Nat.mul_one count
  refine ⟨texts "€5" ?_, byteStrings [0, 255] (by decide), columns _ (by decide) (by decide) ?_,
    matrices _ (by decide) (by decide) rfl (by decide), _, long _ 0 {} (letters _).ge⟩
  · exact (size ['€', '5']).trans_lt (by decide)
  · exact (size "$GETML_$GETML_SEP$GETML_SEP€5".toList).trans_lt (by decide)

end Frame
end RelationalLearning
