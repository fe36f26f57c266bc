import Mathlib.Data.List.GetD
import RelationalLearning.Proofs.Engine.Frames

namespace RelationalLearning

open Text (Bytes)

namespace Matrix

variable (matrix : Matrix)

/-- Every row and every column is there with all its numbers, and they agree where they cross. -/
structure Regular : Prop where
  whole : matrix.entries.length = matrix.rows * matrix.columns
  row_within : ∀ row < matrix.rows, (row + 1) * matrix.columns ≤ matrix.entries.length
  place_within : ∀ row < matrix.rows, ∀ column < matrix.columns,
    row * matrix.columns + column < matrix.entries.length
  row_iff : ∀ row, (∃ across, matrix.row? row = some across) ↔ row < matrix.rows
  length_row : ∀ row across, matrix.row? row = some across → across.length = matrix.columns
  column_iff : ∀ column, (∃ down, matrix.column? column = some down) ↔ column < matrix.columns
  length_column : ∀ column down, matrix.column? column = some down → down.length = matrix.rows
  crossing : ∀ row column across down, matrix.row? row = some across →
    matrix.column? column = some down → ∃ number, across[column]? = some number ∧
      down[row]? = some number ∧ matrix.entries[row * matrix.columns + column]? = some number

variable {matrix : Matrix}

theorem row?_eq_some (row : Nat) (across : List Float) :
    matrix.row? row = some across ↔ row < matrix.rows ∧
      (matrix.entries.drop (row * matrix.columns)).take matrix.columns = across := by
  unfold row?
  split
  next behind => simp [Nat.not_lt.mpr behind]
  next inside => simp [Nat.lt_of_not_le inside]

theorem mapM_getElem? (entries : List Float) (place : Nat → Nat) (rows : List Nat)
    (there : ∀ row ∈ rows, place row < entries.length) :
    rows.mapM (fun row => entries[place row]?) =
      some (rows.map fun row => entries.getD (place row) 0) := by
  induction rows with
  | nil => rfl
  | cons row rows ih =>
      have first := there row List.mem_cons_self
      have rest := ih fun other member => there other (List.mem_cons_of_mem _ member)
      rw [List.mapM_cons, rest, List.getElem?_eq_getElem first, List.map_cons,
        List.getD_eq_getElem _ _ first]
      rfl

section

variable (whole : matrix.entries.length = matrix.rows * matrix.columns)

include whole

theorem row_within (row : Nat) (inside : row < matrix.rows) :
    (row + 1) * matrix.columns ≤ matrix.entries.length := by
  rw [whole]
  exact Nat.mul_le_mul_right _ inside

theorem place_within (row column : Nat) (inside : row < matrix.rows)
    (among : column < matrix.columns) :
    row * matrix.columns + column < matrix.entries.length := by
  have within := row_within whole row inside
  rw [Nat.succ_mul] at within
  omega

theorem column?_eq_some (column : Nat) (down : List Float) :
    matrix.column? column = some down ↔ column < matrix.columns ∧
      (List.range matrix.rows).map
        (fun row => matrix.entries.getD (row * matrix.columns + column) 0) = down := by
  unfold column?
  split
  next behind => simp [Nat.not_lt.mpr behind]
  next inside =>
    have among := Nat.lt_of_not_le inside
    rw [mapM_getElem? matrix.entries (fun row => row * matrix.columns + column)]
    · simp [among]
    · intro row member
      exact place_within whole row column (List.mem_range.mp member) among

theorem regular_of_whole : matrix.Regular where
  whole := whole
  row_within := row_within whole
  place_within := fun row inside column among => place_within whole row column inside among
  row_iff := fun row => by simp [row?_eq_some]
  length_row := by
    intro row across found
    obtain ⟨inside, rfl⟩ := (row?_eq_some row across).mp found
    have within := row_within whole row inside
    rw [Nat.succ_mul] at within
    rw [List.length_take, List.length_drop]
    omega
  column_iff := fun column => by simp [column?_eq_some whole]
  length_column := by
    intro column down found
    obtain ⟨among, rfl⟩ := (column?_eq_some whole column down).mp found
    simp
  crossing := by
    intro row column across down inRow inColumn
    obtain ⟨inside, rfl⟩ := (row?_eq_some row across).mp inRow
    obtain ⟨among, rfl⟩ := (column?_eq_some whole column down).mp inColumn
    have place := place_within whole row column inside among
    refine ⟨matrix.entries[row * matrix.columns + column], ?_, ?_, List.getElem?_eq_getElem place⟩
    · rw [List.getElem?_take_of_lt among, List.getElem?_drop, List.getElem?_eq_getElem place]
    · rw [List.getElem?_map, List.getElem?_range inside, Option.map_some,
        List.getD_eq_getElem _ _ place]

end

end Matrix

namespace Frame

theorem bigEndian_lt (bytes : Bytes) : bigEndian bytes < Nat.pow 256 bytes.length := by
  induction bytes using List.reverseRecOn with
  | nil => decide
  | append_singleton bytes last ih =>
      have small := last.toNat_lt
      have wider : Nat.pow 256 (bytes.length + 1) = 256 * Nat.pow 256 bytes.length :=
        Nat.pow_succ'
      rw [bigEndian_append, List.length_append, List.length_singleton, wider]
      omega

theorem toBigEndian_bigEndian (bytes : Bytes) :
    toBigEndian bytes.length (bigEndian bytes) = bytes := by
  induction bytes using List.reverseRecOn with
  | nil => rfl
  | append_singleton bytes last ih =>
      have small := last.toNat_lt
      have above : (256 * bigEndian bytes + last.toNat) / 256 = bigEndian bytes := by omega
      have below : UInt8.ofNat (256 * bigEndian bytes + last.toNat) = last := by
        apply UInt8.toNat_inj.mp
        simp
      rw [bigEndian_append, List.length_append, List.length_singleton, toBigEndian_succ, above,
        below, ih]

theorem words_wordsOf (count : Nat) (bytes : Bytes) (size : bytes.length = count * 8) :
    (wordsOf bytes).length = count ∧
      (wordsOf bytes).flatMap (fun word => toBigEndian 8 word.toNat) = bytes := by
  induction count generalizing bytes with
  | zero =>
      obtain rfl : bytes = [] := List.length_eq_zero_iff.mp (by simpa using size)
      exact ⟨rfl, rfl⟩
  | succ count ih =>
      have eight : (bytes.take 8).length = 8 := by
        rw [List.length_take]
        omega
      have small : bigEndian (bytes.take 8) < 2 ^ 64 := by
        have bound := bigEndian_lt (bytes.take 8)
        rwa [eight] at bound
      have first : toBigEndian 8 (UInt64.ofNat (bigEndian (bytes.take 8))).toNat =
          bytes.take 8 := by
        have digits := toBigEndian_bigEndian (bytes.take 8)
        rw [eight] at digits
        rw [UInt64.toNat_ofNat', Nat.mod_eq_of_lt small, digits]
      obtain ⟨counted, written⟩ := ih (bytes.drop 8) (by rw [List.length_drop]; omega)
      have split := wordsOf_append (UInt64.ofNat (bigEndian (bytes.take 8))) (bytes.drop 8)
      rw [first, List.take_append_drop] at split
      rw [split, List.length_cons, counted, List.flatMap_cons, first, written,
        List.take_append_drop]
      exact ⟨rfl, rfl⟩

/-- The bytes begin with a shape whose numbers can be counted, and all these numbers follow. -/
structure Complete (bytes : Bytes) (rows columns : Nat) : Prop where
  shape : 8 ≤ bytes.length
  height : signed32 (bigEndian (bytes.take 4)) = rows
  width : signed32 (bigEndian ((bytes.drop 4).take 4)) = columns
  size : rows * columns * 8 < Nat.pow 2 64
  numbers : 8 + rows * columns * 8 ≤ bytes.length

theorem toBigEndian_of_signed32 (bytes : Bytes) (four : bytes.length = 4) (dimension : Nat)
    (read : signed32 (bigEndian bytes) = dimension) :
    dimension < Nat.pow 2 31 ∧ toBigEndian 4 dimension = bytes := by
  have bound := bigEndian_lt bytes
  have digits := toBigEndian_bigEndian bytes
  rw [four] at bound digits
  have wide : Nat.pow 256 4 = 4294967296 := rfl
  have half : Nat.pow 2 31 = 2147483648 := rfl
  have full : Nat.pow 2 32 = 4294967296 := rfl
  unfold signed32 at read
  split at read
  next small =>
    obtain rfl : bigEndian bytes = dimension := by exact_mod_cast read
    exact ⟨small, digits⟩
  next large => omega

theorem exists_of_complete (bytes : Bytes) (rows columns : Nat)
    (complete : Complete bytes rows columns) :
    ∃ content : Matrix, content.rows = rows ∧ content.columns = columns ∧
      content.bits.length = rows * columns ∧ rows < Nat.pow 2 31 ∧ columns < Nat.pow 2 31 ∧
      bytes = ofMatrix content ++ bytes.drop (8 + rows * columns * 8) := by
  obtain ⟨shape, readRows, readColumns, -, numbers⟩ := complete
  obtain ⟨fewRows, writtenRows⟩ := toBigEndian_of_signed32 (bytes.take 4)
    (by rw [List.length_take]; omega) rows readRows
  obtain ⟨fewColumns, writtenColumns⟩ := toBigEndian_of_signed32 ((bytes.drop 4).take 4)
    (by rw [List.length_take, List.length_drop]; omega) columns readColumns
  obtain ⟨counted, written⟩ := words_wordsOf (rows * columns)
    ((bytes.drop 8).take (rows * columns * 8)) (by rw [List.length_take, List.length_drop]; omega)
  refine ⟨⟨rows, columns, wordsOf ((bytes.drop 8).take (rows * columns * 8))⟩, rfl, rfl, counted,
    fewRows, fewColumns, ?_⟩
  rw [ofMatrix, writtenRows, writtenColumns, written, ← List.drop_drop, List.append_assoc,
    List.take_append_drop, List.append_assoc, ← List.drop_drop (i := 4) (j := 4),
    List.take_append_drop, List.take_append_drop]

theorem taken_eq_ok (count : Nat) (reader : Reader Bytes) (cause : Bytes → EngineError)
    (taken : ∀ given, reader given =
      (if given.length < count then (throw (cause given) : Reader Bytes)
        else pure (given.take count)) (given.drop count))
    (bytes rest found : Bytes) (done : reader bytes = (.ok found, rest)) :
    count ≤ bytes.length ∧ found = bytes.take count ∧ rest = bytes.drop count := by
  rw [taken] at done
  split at done
  next short => cases done
  next long =>
    cases done
    exact ⟨Nat.le_of_not_lt long, rfl, rfl⟩

theorem header_eq_ok (count : Nat) (bytes rest found : Bytes)
    (done : header count bytes = (.ok found, rest)) :
    count ≤ bytes.length ∧ found = bytes.take count ∧ rest = bytes.drop count :=
  taken_eq_ok count (header count) _ (fun _ => rfl) bytes rest found done

theorem payload_eq_ok (count : Nat) (bytes rest found : Bytes)
    (done : payload count bytes = (.ok found, rest)) :
    count ≤ bytes.length ∧ found = bytes.take count ∧ rest = bytes.drop count :=
  taken_eq_ok count (payload count) _ (fun _ => rfl) bytes rest found done

theorem complete_of_read (bytes rest : Bytes) (content : Matrix)
    (read : matrix bytes = (.ok content, rest)) :
    Complete bytes content.rows content.columns := by
  rw [matrix, Outcome.run_bind_eq_ok] at read
  obtain ⟨shape, behind, first, read⟩ := read
  obtain ⟨eight, rfl, rfl⟩ := header_eq_ok 8 bytes behind shape first
  have height : (bytes.take 8).take 4 = bytes.take 4 := List.take_take
  have width : (bytes.take 8).drop 4 = (bytes.drop 4).take 4 := List.drop_take
  dsimp only at read
  rw [height, width] at read
  split at read
  next negative => cases read
  next positive =>
  split at read
  next large => cases read
  next fits =>
    simp only [Bool.or_eq_true, decide_eq_true_eq, not_or] at positive
    obtain ⟨numbers, last, second, read⟩ := (Outcome.run_bind_eq_ok _ _ _ _ _).mp read
    -- that the numbers were read says that all of them are there
    obtain ⟨follow, -⟩ := payload_eq_ok _ _ _ _ second
    rw [List.length_drop] at follow
    cases read
    refine ⟨eight, ?_, ?_, Nat.lt_of_not_le fits, ?_⟩
    · exact (Int.toNat_of_nonneg (Int.not_lt.mp positive.1)).symm
    · exact (Int.toNat_of_nonneg (Int.not_lt.mp positive.2)).symm
    · dsimp only
      omega

theorem read_of_complete (bytes : Bytes) (rows columns : Nat)
    (complete : Complete bytes rows columns) :
    ∃ content : Matrix, content.rows = rows ∧ content.columns = columns ∧
      content.bits.length = rows * columns ∧
      bytes = ofMatrix content ++ bytes.drop (8 + rows * columns * 8) ∧
      matrix bytes = (.ok content, bytes.drop (8 + rows * columns * 8)) := by
  obtain ⟨content, rfl, rfl, full, fewRows, fewColumns, written⟩ :=
    exists_of_complete bytes rows columns complete
  have framed := frames_matrix content fewRows fewColumns full complete.size
  refine ⟨content, rfl, rfl, full, written, ?_⟩
  conv_lhs => rw [written]
  exact framed.whole _

/--
Whatever bytes come: a matrix that is read has all its numbers and was taken byte for byte off the
front, so that its rows and columns can be looked at everywhere. Nothing is read, and the reader
fails, just where the bytes do not hold a whole matrix.
-/
theorem read_matrices_are_whole (bytes : Bytes) :
    (∀ content rest, matrix bytes = (.ok content, rest) →
      Complete bytes content.rows content.columns ∧ bytes = ofMatrix content ++ rest ∧
        bytes.length = 8 + 8 * content.rows * content.columns + rest.length ∧ content.Regular) ∧
    ((∃ cause rest, matrix bytes = (.error cause, rest)) ↔
      ∀ rows columns, ¬ Complete bytes rows columns) := by
  constructor
  · intro content rest read
    have complete := complete_of_read bytes rest content read
    obtain ⟨other, -, -, full, written, same⟩ := read_of_complete bytes _ _ complete
    rw [read] at same
    obtain ⟨⟨⟩, rfl⟩ := Prod.mk.inj same
    have whole : content.entries.length = content.rows * content.columns := by
      rw [Matrix.entries, List.length_map, full]
    refine ⟨complete, written, ?_, Matrix.regular_of_whole whole⟩
    have size : content.rows * content.columns * 8 = 8 * content.rows * content.columns := by
      rw [Nat.mul_comm, Nat.mul_assoc]
    have numbers := complete.numbers
    rw [List.length_drop]
    omega
  · constructor
    · rintro ⟨cause, rest, failed⟩ rows columns complete
      obtain ⟨content, -, -, -, -, read⟩ := read_of_complete bytes rows columns complete
      rw [read] at failed
      cases failed
    · intro incomplete
      generalize ran : matrix bytes = outcome
      rcases outcome with ⟨cause | content, rest⟩
      · exact ⟨cause, rest, rfl⟩
      · exact absurd (complete_of_read bytes rest content ran) (incomplete _ _)

/-- A row of two numbers before another byte, a matrix without rows, and one that is cut off. -/
theorem read_matrices_are_whole_row :
    (∃ content, matrix (ofMatrix ⟨1, 2, [0x3FF0000000000000, 0x8000000000000000]⟩ ++ [7]) =
        (.ok content, [7]) ∧ content.Regular ∧ content.rows = 1 ∧ content.columns = 2) ∧
      (∃ content, matrix (ofMatrix ⟨0, 3, []⟩) = (.ok content, []) ∧ content.Regular ∧
        ∃ down, content.column? 2 = some down ∧ down.length = 0) ∧
      ∃ cause rest, matrix (ofMatrix ⟨1, 1, []⟩) = (.error cause, rest) := by
  refine ⟨?_, ?_, ?_⟩
  · have read : matrix (ofMatrix ⟨1, 2, [0x3FF0000000000000, 0x8000000000000000]⟩ ++ [7]) =
        (.ok ⟨1, 2, [0x3FF0000000000000, 0x8000000000000000]⟩, [7]) := rfl
    exact ⟨_, read, ((read_matrices_are_whole _).1 _ _ read).2.2.2, rfl, rfl⟩
  · have read : matrix (ofMatrix ⟨0, 3, []⟩) = (.ok ⟨0, 3, []⟩, []) := rfl
    have regular := ((read_matrices_are_whole _).1 _ _ read).2.2.2
    obtain ⟨down, found⟩ := (regular.column_iff 2).mpr (by decide)
    exact ⟨_, read, regular, down, found, regular.length_column 2 down found⟩
  · refine (read_matrices_are_whole _).2.mpr ?_
    rintro rows columns ⟨-, height, width, -, numbers⟩
    have one : signed32 (bigEndian ((ofMatrix ⟨1, 1, []⟩).take 4)) = 1 := rfl
    have same : signed32 (bigEndian (((ofMatrix ⟨1, 1, []⟩).drop 4).take 4)) = 1 := rfl
    have short : (ofMatrix ⟨1, 1, []⟩).length = 8 := rfl
    obtain rfl : rows = 1 := by exact_mod_cast height.symm.trans one
    obtain rfl : columns = 1 := by exact_mod_cast width.symm.trans same
    omega

end Frame
end RelationalLearning
