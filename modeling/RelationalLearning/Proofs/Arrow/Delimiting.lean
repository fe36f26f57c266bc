import RelationalLearning.Arrow.Stream
import RelationalLearning.Proofs.Engine.Matrices

/-!
Streams of tables on a connection on which the engine goes on talking. Reading takes exactly one
stream off the front, whatever follows it, and what it takes is always a stream.
-/

namespace RelationalLearning.Arrow

open Text (Bytes)

def opening (marked : Bool) (length : Nat) : Bytes :=
  (if marked then continuation else []) ++ Flat.number 4 length

structure Message where
  marked : Bool
  description : Bytes
  body : Bytes

namespace Message

def bytes (message : Message) : Bytes :=
  opening message.marked message.description.length ++ message.description ++ message.body

/-- The description is one that is known, and the body is as long as it announces. -/
structure Announced (told : Bytes → Option Int) (message : Message) : Prop where
  described : 0 < message.description.length
  fits : message.description.length < Nat.pow 2 31
  sized : ∃ size, told message.description = some size ∧ message.body.length = size.toNat

end Message

def written (messages : List Message) (marked : Bool) : Bytes :=
  messages.flatMap Message.bytes ++ opening marked 0

def IsStream (told : Bytes → Option Int) (stream : Bytes) : Prop :=
  ∃ messages marked, (∀ message ∈ messages, message.Announced told) ∧
    stream = written messages marked

theorem number_eq (length : Nat) (fits : length < Nat.pow 2 31) :
    Flat.number 4 length = (Frame.toBigEndian 4 length).reverse := by
  have wide : (length : Int) < (Nat.pow 2 (8 * 4) : Nat) :=
    Int.ofNat_lt.mpr (Nat.lt_trans fits (by decide))
  have same : (length : Int).emod (Nat.pow 2 (8 * 4) : Nat) = length :=
    Int.emod_eq_of_lt (Int.natCast_nonneg length) wide
  rw [Flat.number, same, Int.toNat_natCast]

theorem length_number (length : Nat) : (Flat.number 4 length).length = 4 := by
  rw [Flat.number, List.length_reverse, Frame.length_toBigEndian]

theorem signed32_number (length : Nat) (fits : length < Nat.pow 2 31) :
    Frame.signed32 (Frame.littleEndian (Flat.number 4 length)) = length := by
  have wide : length < Nat.pow 256 4 := Nat.lt_trans fits (by decide)
  rw [number_eq length fits, Frame.littleEndian, List.reverse_reverse,
    Frame.bigEndian_toBigEndian 4 length wide, Frame.signed32_of_lt length fits]

theorem number_of_signed32 (bytes : Bytes) (four : bytes.length = 4) (length : Nat)
    (read : Frame.signed32 (Frame.littleEndian bytes) = length) :
    length < Nat.pow 2 31 ∧ bytes = Flat.number 4 length := by
  have reversed : bytes.reverse.length = 4 := by rw [List.length_reverse, four]
  obtain ⟨fits, digits⟩ := Frame.toBigEndian_of_signed32 bytes.reverse reversed length read
  refine ⟨fits, ?_⟩
  rw [number_eq length fits, digits, List.reverse_reverse]

/-- The mark would be a negative length. -/
theorem number_ne_continuation (length : Nat) (fits : length < Nat.pow 2 31) :
    Flat.number 4 length ≠ continuation := by
  intro same
  have read := signed32_number length fits
  have negative : Frame.signed32 (Frame.littleEndian continuation) = -1 := by decide
  rw [same, negative] at read
  omega

section

variable (marked : Bool) (length : Nat)

theorem length_opening : 4 ≤ (opening marked length).length := by
  rw [opening, List.length_append, length_number]
  exact Nat.le_add_left 4 _

theorem frames_opening (fits : length < Nat.pow 2 31) :
    Frames descriptionLength (opening marked length) (length, opening marked length) := by
  have digits : Frames (Frame.header 4) (Flat.number 4 length) (Flat.number 4 length) := by
    have taken := Frame.frames_header (Flat.number 4 length)
    rwa [length_number] at taken
  have read := signed32_number length fits
  cases marked with
  | true =>
      refine Frames.bind _ _ continuation (Flat.number 4 length) continuation _
        (Frame.frames_header continuation) ?_
      rw [if_pos rfl]
      have pair := Frames.map _ (fun size => (Frame.signed32 (Frame.littleEndian size),
        continuation ++ size)) _ _ digits
      rw [read] at pair
      exact pair
  | false =>
      rw [← List.append_nil (opening false length)]
      refine Frames.bind _ _ (Flat.number 4 length) [] (Flat.number 4 length) _ digits ?_
      rw [if_neg (number_ne_continuation length fits), read]
      exact Frames.pure _

theorem opening_of_read (size : Int) (same : size = length) (bytes start rest : Bytes)
    (read : descriptionLength bytes = (.ok (size, start), rest)) :
    length < Nat.pow 2 31 ∧ bytes = start ++ rest ∧ ∃ marked, start = opening marked length := by
  rw [descriptionLength, Outcome.run_bind_eq_ok] at read
  obtain ⟨front, behind, first, read⟩ := read
  obtain ⟨long, rfl, rfl⟩ := Frame.header_eq_ok 4 bytes behind front first
  split at read
  next mark =>
    obtain ⟨digits, behind, second, read⟩ := (Outcome.run_bind_eq_ok _ _ _ _ _).mp read
    obtain ⟨more, rfl, rfl⟩ := Frame.header_eq_ok 4 (bytes.drop 4) behind digits second
    cases read
    obtain ⟨fits, digits⟩ := number_of_signed32 ((bytes.drop 4).take 4)
      (List.length_take_of_le more) length same
    refine ⟨fits, ?_, true, ?_⟩
    · rw [List.append_assoc, List.take_append_drop, List.take_append_drop]
    · rw [mark, digits]
      rfl
  next other =>
    cases read
    obtain ⟨fits, digits⟩ := number_of_signed32 (bytes.take 4) (List.length_take_of_le long)
      length same
    refine ⟨fits, (List.take_append_drop 4 bytes).symm, false, ?_⟩
    rw [digits]
    rfl

end

section

variable (told : Bytes → Option Int)

theorem frames_end (marked : Bool) :
    Frames (readMessage told) (opening marked 0) (opening marked 0, true) := by
  rw [← List.append_nil (opening marked 0)]
  refine Frames.bind _ _ _ [] _ _ (frames_opening marked 0 (by decide)) ?_
  rw [List.append_nil]
  exact Frames.pure _

theorem frames_body (size : Int) (body : Bytes) (sized : body.length = size.toNat) :
    Frames (readBody size) body body := by
  unfold readBody
  split
  next some =>
    rw [← sized]
    exact Frame.frames_payload body
  next none =>
    have empty : body = [] := by
      rw [← List.length_eq_zero_iff, sized]
      omega
    rw [empty]
    exact Frames.pure []

theorem frames_message (message : Message) (announced : message.Announced told) :
    Frames (readMessage told) message.bytes (message.bytes, false) := by
  obtain ⟨described, fits, size, known, sized⟩ := announced
  have positive : (message.description.length : Int) ≠ 0 := by omega
  have natural : ¬ (message.description.length : Int) < 0 := by omega
  have behind := Frames.map _ (fun body =>
    (opening message.marked message.description.length ++ message.description ++ body, false))
    _ _ (frames_body size message.body sized)
  have whole : message.bytes = opening message.marked message.description.length ++
      (message.description ++ message.body) := List.append_assoc _ _ _
  nth_rewrite 1 [whole]
  refine Frames.bind _ _ _ _ _ _ (frames_opening message.marked _ fits) ?_
  dsimp only
  rw [if_neg positive, if_neg natural, Int.toNat_natCast]
  refine Frames.bind _ _ message.description message.body _ _
    (Frame.frames_payload message.description) ?_
  rw [known]
  exact behind

theorem body_of_read (size : Int) (bytes body rest : Bytes)
    (read : readBody size bytes = (.ok body, rest)) :
    bytes = body ++ rest ∧ body.length = size.toNat := by
  unfold readBody at read
  split at read
  next some =>
    obtain ⟨there, rfl, rfl⟩ := Frame.payload_eq_ok size.toNat bytes rest body read
    exact ⟨(List.take_append_drop _ bytes).symm, List.length_take_of_le there⟩
  next none =>
    cases read
    refine ⟨rfl, ?_⟩
    rw [List.length_nil]
    omega

theorem message_of_read (bytes piece rest : Bytes) (ends : Bool)
    (read : readMessage told bytes = (.ok (piece, ends), rest)) :
    bytes = piece ++ rest ∧ 4 ≤ piece.length ∧
      (ends = true ∧ (∃ marked, piece = opening marked 0) ∨
        ends = false ∧ ∃ message : Message, message.Announced told ∧ piece = message.bytes) := by
  rw [readMessage, Outcome.run_bind_eq_ok] at read
  obtain ⟨⟨size, start⟩, behind, first, read⟩ := read
  dsimp only at read
  split at read
  next zero =>
    cases read
    obtain ⟨-, whole, marked, rfl⟩ := opening_of_read 0 size zero bytes piece rest first
    exact ⟨whole, length_opening marked 0, .inl ⟨rfl, marked, rfl⟩⟩
  next some =>
  split at read
  next negative => cases read
  next natural =>
    have same : size = size.toNat := (Int.toNat_of_nonneg (Int.not_lt.mp natural)).symm
    obtain ⟨fits, rfl, marked, rfl⟩ := opening_of_read _ size same bytes start behind first
    obtain ⟨description, after, second, read⟩ := (Outcome.run_bind_eq_ok _ _ _ _ _).mp read
    obtain ⟨there, rfl, rfl⟩ := Frame.payload_eq_ok _ behind after description second
    have counted := List.length_take_of_le there
    cases known : told (behind.take size.toNat) with
    | none =>
      simp only [known] at read
      cases read
    | some announced =>
      simp only [known] at read
      obtain ⟨body, last, third, read⟩ := (Outcome.run_bind_eq_ok _ _ _ _ _).mp read
      obtain ⟨left, sized⟩ := body_of_read announced _ body last third
      cases read
      let message : Message := ⟨marked, behind.take size.toNat, body⟩
      have written : opening marked size.toNat ++ behind.take size.toNat ++ body =
          message.bytes := by
        rw [Message.bytes, counted]
      have long := length_opening marked size.toNat
      refine ⟨?_, ?_, .inr ⟨rfl, message, ⟨?_, ?_, announced, known, sized⟩, written⟩⟩
      · rw [List.append_assoc, List.append_assoc, ← left, List.take_append_drop]
      · rw [List.append_assoc, List.length_append]
        omega
      · change 0 < (behind.take size.toNat).length
        omega
      · change (behind.take size.toNat).length < Nat.pow 2 31
        rw [counted]
        exact fits

/-- All that one more round can do: end the stream, fail, or go on behind a message. -/
theorem readMessages_succ (fuel : Nat) (bytes : Bytes) :
    readMessages told (fuel + 1) bytes =
      match readMessage told bytes with
      | (.error cause, rest) => (.error cause, rest)
      | (.ok (piece, true), rest) => (.ok piece, rest)
      | (.ok (piece, false), rest) =>
        match readMessages told fuel rest with
        | (.ok behind, last) => (.ok (piece ++ behind), last)
        | (.error cause, last) => (.error cause, last) := by
  rw [readMessages, Outcome.run_bind]
  rcases readMessage told bytes with ⟨cause | ⟨piece, ends⟩, rest⟩
  · rfl
  cases ends with
  | true => rfl
  | false =>
      dsimp only
      rw [if_neg Bool.false_ne_true, Outcome.run_bind]
      rcases readMessages told fuel rest with ⟨cause | behind, last⟩ <;> rfl

theorem frames_messages (messages : List Message) (marked : Bool)
    (each : ∀ message ∈ messages, message.Announced told) (fuel : Nat)
    (enough : messages.length < fuel) :
    Frames (readMessages told fuel) (written messages marked) (written messages marked) := by
  induction messages generalizing fuel with
  | nil =>
      obtain ⟨fuel, rfl⟩ := Nat.exists_eq_succ_of_ne_zero (Nat.ne_of_gt enough)
      have none : written [] marked = opening marked 0 ++ [] := (List.append_nil _).symm
      nth_rewrite 1 [none]
      exact Frames.bind _ _ _ [] _ _ (frames_end told marked) (Frames.pure _)
  | cons message messages ih =>
      obtain ⟨fuel, rfl⟩ := Nat.exists_eq_succ_of_ne_zero (Nat.ne_zero_of_lt enough)
      obtain ⟨first, others⟩ := List.forall_mem_cons.mp each
      have whole : written (message :: messages) marked =
          message.bytes ++ written messages marked := by
        rw [written, List.flatMap_cons, List.append_assoc]
        rfl
      have rest := ih others fuel (Nat.lt_of_succ_lt_succ enough)
      rw [whole]
      exact Frames.bind _ _ _ _ _ _ (frames_message told message first)
        (Frames.map _ (message.bytes ++ ·) _ _ rest)

theorem stream_of_read (fuel : Nat) (bytes found rest : Bytes)
    (read : readMessages told fuel bytes = (.ok found, rest)) :
    bytes = found ++ rest ∧ IsStream told found := by
  induction fuel generalizing bytes found with
  | zero => cases read
  | succ fuel ih =>
      rw [readMessages_succ] at read
      generalize first : readMessage told bytes = taken at read
      rcases taken with ⟨cause | ⟨piece, ends⟩, behind⟩
      · cases read
      obtain ⟨whole, -, told⟩ := message_of_read told bytes piece behind ends first
      rcases told with ⟨rfl, marked, rfl⟩ | ⟨rfl, message, announced, rfl⟩
      · cases read
        exact ⟨whole, [], marked, by simp, rfl⟩
      · dsimp only at read
        generalize second : readMessages told fuel behind = taken at read
        rcases taken with ⟨cause | later, last⟩
        · cases read
        cases read
        obtain ⟨left, messages, marked, each, rfl⟩ := ih behind later second
        refine ⟨?_, message :: messages, marked, List.forall_mem_cons.mpr ⟨announced, each⟩, ?_⟩
        · rw [whole, left, List.append_assoc]
        · rw [written, written, List.flatMap_cons, List.append_assoc]

/-- Every message takes bytes away, so the loop ends before as many rounds as there are bytes. -/
theorem readMessages_congr (fuel more : Nat) (bytes : Bytes) (enough : bytes.length < fuel)
    (also : bytes.length < more) :
    readMessages told fuel bytes = readMessages told more bytes := by
  induction fuel generalizing more bytes with
  | zero => exact absurd enough (Nat.not_lt_zero _)
  | succ fuel ih =>
      obtain ⟨more, rfl⟩ := Nat.exists_eq_succ_of_ne_zero (Nat.ne_zero_of_lt also)
      rw [readMessages_succ, readMessages_succ]
      generalize first : readMessage told bytes = taken
      rcases taken with ⟨cause | ⟨piece, ends⟩, behind⟩
      · rfl
      cases ends with
      | true => rfl
      | false =>
          obtain ⟨rfl, long, -⟩ := message_of_read told bytes piece behind false first
          rw [List.length_append] at enough also
          dsimp only
          rw [ih more behind (by omega) (by omega)]

theorem readStreamOf_eq (fuel : Nat) (bytes : Bytes) (enough : bytes.length < fuel) :
    readStreamOf told bytes = readMessages told fuel bytes :=
  readMessages_congr told (bytes.length + 1) fuel bytes (Nat.lt_succ_self _) enough

/--
Whatever is told to be a description: exactly the streams are read, each with nothing of what
follows it and none from a beginning that is cut off, and the number of rounds never matters.
-/
theorem streams_are_delimited (told : Bytes → Option Int) :
    (∀ stream, IsStream told stream → Frames (readStreamOf told) stream stream) ∧
    (∀ bytes found rest, readStreamOf told bytes = (.ok found, rest) →
      bytes = found ++ rest ∧ IsStream told found) ∧
    ∀ bytes fuel, bytes.length < fuel → readMessages told fuel bytes = readStreamOf told bytes := by
  refine ⟨?_, ?_, ?_⟩
  · rintro stream ⟨messages, marked, each, rfl⟩
    -- a beginning that is cut off may have fewer bytes than the stream has messages
    have rounds (bytes : Bytes) : ∃ fuel, readStreamOf told bytes = readMessages told fuel bytes ∧
        Frames (readMessages told fuel) (written messages marked) (written messages marked) :=
      ⟨messages.length + bytes.length + 1, readStreamOf_eq told _ bytes (by omega),
        frames_messages told messages marked each _ (by omega)⟩
    refine ⟨?_, ?_⟩
    · intro rest
      obtain ⟨fuel, same, framed⟩ := rounds (written messages marked ++ rest)
      rw [same, framed.whole]
    · intro part start shorter
      obtain ⟨fuel, same, framed⟩ := rounds part
      rw [same]
      exact framed.cut part start shorter
  · intro bytes found rest read
    exact stream_of_read told (bytes.length + 1) bytes found rest read
  · intro bytes fuel enough
    exact (readStreamOf_eq told fuel bytes enough).symm

end

def amounts : Table := ⟨[("amount", .int64)], [[[.int 5, .missing]]]⟩

/-- The bytes that a table is written as are a stream, and the byte behind them is left alone. -/
theorem streams_are_delimited_amounts :
    IsStream bodyLength? (encode amounts) ∧
      readStream (encode amounts ++ [7]) = (.ok (encode amounts), [7]) ∧
      (∃ cause rest, readStream (encode amounts).dropLast = (.error cause, rest)) ∧
      IsStream bodyLength? [0, 0, 0, 0] ∧
      readMessages bodyLength? 9 [0, 0, 0, 0, 7] = (.ok [0, 0, 0, 0], [7]) := by
  obtain ⟨framed, taken, rounds⟩ := streams_are_delimited bodyLength?
  have stream : IsStream bodyLength? (encode amounts) := by
    refine ⟨[⟨true, (schemaMessage amounts.schema).drop 8, []⟩,
      ⟨true, ((batchMessage amounts.schema [[.int 5, .missing]]).drop 8).take 176,
        (batchMessage amounts.schema [[.int 5, .missing]]).drop 184⟩], true, ?_, by decide +kernel⟩
    rw [List.forall_mem_cons, List.forall_mem_singleton]
    exact ⟨⟨by decide +kernel, by decide +kernel, 0, by decide +kernel, rfl⟩,
      by decide +kernel, by decide +kernel, 24, by decide +kernel, by decide +kernel⟩
  have ended : readStreamOf bodyLength? [0, 0, 0, 0, 7] = (.ok [0, 0, 0, 0], [7]) := rfl
  have shorter : (encode amounts).dropLast ≠ encode amounts := by decide +kernel
  have cut := (framed _ stream).cut _ (List.dropLast_prefix _) shorter
  exact ⟨stream, (framed _ stream).whole [7], cut, (taken _ _ _ ended).2,
    (rounds _ 9 (by decide)).trans ended⟩

end RelationalLearning.Arrow
