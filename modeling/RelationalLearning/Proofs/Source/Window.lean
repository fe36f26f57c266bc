import Mathlib.Data.List.Forall2
import RelationalLearning.Proofs.Source.LocalTable
import RelationalLearning.Proofs.Text.Utf8
import RelationalLearning.Source.Csv

namespace RelationalLearning

namespace LocalColumn

structure Numerical (cells : List (Option String)) : Prop where
  present : ∃ text, some text ∈ cells
  numbers : ∀ text, some text ∈ cells → (Decimal.readFloat? (Text.trim text)).isSome

/-- A column holds cells as numbers if they are numerical, else as texts. -/
inductive Inferred (cells : List (Option String)) : LocalColumn → Prop
  | float (numbers : List (Option Float)) (numerical : Numerical cells)
    (same : List.Forall₂ (Option.Rel fun text number =>
      Decimal.readFloat? (Text.trim text) = some number) cells numbers) :
    Inferred cells (.float numbers)
  | string (other : ¬ Numerical cells) : Inferred cells (.string cells)

theorem Inferred.length_eq (cells : List (Option String)) (column : LocalColumn)
    (inferred : Inferred cells column) : column.length = cells.length := by
  cases inferred with
  | float numbers numerical same => exact same.length_eq.symm
  | string other => rfl

theorem readCell?_eq_some (cell : Option String) (number : Option Float) :
    readCell? cell = some number ↔
      Option.Rel (fun text number => Decimal.readFloat? (Text.trim text) = some number) cell
        number := by
  cases cell with
  | none => cases number <;> simp [readCell?]
  | some text => cases number <;> simp [readCell?]

theorem mapM_readCell? (cells : List (Option String)) (numbers : List (Option Float)) :
    cells.mapM readCell? = some numbers ↔
      List.Forall₂ (Option.Rel fun text number =>
        Decimal.readFloat? (Text.trim text) = some number) cells numbers := by
  induction cells generalizing numbers with
  | nil => cases numbers <;> simp
  | cons cell cells ih =>
      cases numbers with
      | nil => simp [List.mapM_cons, Option.bind_eq_some_iff]
      | cons number numbers =>
          simp only [List.mapM_cons, Option.bind_eq_bind, Option.bind_eq_some_iff,
            readCell?_eq_some]
          simp [← ih]

theorem isSome_mapM_readCell? (cells : List (Option String)) :
    (cells.mapM readCell?).isSome ↔
      ∀ text, some text ∈ cells → (Decimal.readFloat? (Text.trim text)).isSome := by
  induction cells with
  | nil => simp
  | cons cell cells ih =>
      have both : ((cell :: cells).mapM readCell?).isSome ↔
          (readCell? cell).isSome ∧ (cells.mapM readCell?).isSome := by
        cases read : readCell? cell <;> cases rest : cells.mapM readCell? <;>
          simp [List.mapM_cons, read, rest]
      rw [both, ih]
      cases cell with
      | none => simp [readCell?]
      | some text => simp [readCell?]

theorem inferred_infer (cells : List (Option String)) : Inferred cells (infer cells) := by
  have present : (cells.any Option.isSome) = true ↔ ∃ text, some text ∈ cells := by
    simp [Option.isSome_iff_exists]
  unfold infer
  split
  next numbers read =>
    have readable := (isSome_mapM_readCell? cells).mp (by simp [read])
    split
    next cell =>
      exact .float numbers ⟨present.mp cell, readable⟩ ((mapM_readCell? cells numbers).mp read)
    next empty => exact .string fun numerical => empty (present.mpr numerical.present)
  next unread =>
    refine .string fun numerical => ?_
    have readable := (isSome_mapM_readCell? cells).mpr numerical.numbers
    rw [unread] at readable
    cases readable

end LocalColumn

namespace Csv

open Text (Bytes)

def headers? (options : CsvOptions) (lines : List (List String)) : Option (List String) :=
  options.names.or lines[options.skip]?

/-- The records asked for: those behind what is passed over and the header, up to the limit. -/
def asked {α : Type} (options : CsvOptions) (records : List α) : List α :=
  let behind := records.drop (options.skip + if options.names.isSome then 0 else 1)
  if options.limit = 0 then behind else behind.take options.limit

def field? (row : List String) (index : Nat) : Option String :=
  row[index]?.filter fun field => field ≠ ""

def Spells (records : List (List Bytes)) (lines : List (List String)) : Prop :=
  List.Forall₂ (fun record line => texts record = .ok line) records lines

theorem spells_encode (lines : List (List String)) :
    Spells (lines.map fun line => line.map Text.encode) lines := by
  have told (line : List String) : (line.map Text.encode).mapM Text.decode? = some line := by
    induction line with
    | nil => rfl
    | cons field line ih => simp [ih, (Text.decode_encode field).2]
  rw [Spells, List.forall₂_map_left_iff, List.forall₂_same]
  intro line _
  rw [texts, told]

def named (path : String) (options : CsvOptions) (first : Option (List Bytes)) :
    Except DataError (List String) :=
  match options.names, first with
  | some names, _ => .ok names
  | none, some record => texts record
  | none, none => .error (.parse s!"'{path}' is empty")

theorem tableOf_eq (path : String) (options : CsvOptions) (records : List (List Bytes)) :
    tableOf path options records = (do
      let names ← named path options records[options.skip]?
      let rows ← (asked options records).zipIdx.mapM fun (record, line) =>
        arity path names.length line record
      LocalTable.ofColumns
        (names.zipIdx.map fun (name, index) => (name, .infer (columnAt rows index)))) := by
  unfold tableOf header named asked window
  cases options.names with
  | some names => rfl
  | none =>
      rw [← List.head?_drop]
      have behind : records.drop (options.skip + 1) = (records.drop options.skip).tail := by simp
      simp only [Option.isSome_none, Bool.false_eq_true, if_false, behind]
      cases records.drop options.skip with
      | nil => rfl
      | cons first rest =>
          cases read : texts first <;> simp [read]

theorem arity_eq_ok (path : String) (width line : Nat) (record : List Bytes)
    (fields row : List String) (spelled : texts record = .ok fields) :
    arity path width line record = .ok row ↔ row = fields ∧ fields.length = width := by
  rw [arity, spelled, Outcome.ok_bind]
  by_cases wide : fields.length = width
  · simp [wide, eq_comm]
  · simp [wide]

theorem rows_eq_ok (path : String) (width : Nat) (records : List (List Bytes))
    (lines rows : List (List String)) (spelled : Spells records lines) :
    (records.zipIdx.mapM fun (record, line) => arity path width line record) = .ok rows ↔
      rows = lines ∧ ∀ row ∈ lines, row.length = width := by
  -- the lines are only counted for the reasons of refusals, so counting may start anywhere
  generalize 0 = start
  induction spelled generalizing start rows with
  | nil => simp [eq_comm]
  | cons first _ ih =>
      rw [List.zipIdx_cons, List.mapM_cons, Outcome.bind_eq_ok]
      simp only [arity_eq_ok path width _ _ _ _ first, Outcome.bind_eq_ok, ih]
      constructor
      · rintro ⟨_, ⟨rfl, wide⟩, _, ⟨rfl, all⟩, same⟩
        exact ⟨(Except.ok.inj same).symm, List.forall_mem_cons.mpr ⟨wide, all⟩⟩
      · rintro ⟨rfl, all⟩
        obtain ⟨wide, all⟩ := List.forall_mem_cons.mp all
        exact ⟨_, ⟨rfl, wide⟩, _, ⟨rfl, all⟩, rfl⟩

theorem spells_asked (options : CsvOptions) (records : List (List Bytes))
    (lines : List (List String)) (spelled : Spells records lines) :
    Spells (asked options records) (asked options lines) := by
  have behind (count : Nat) : Spells (records.drop count) (lines.drop count) :=
    List.forall₂_drop count spelled
  have front (count : Nat) : Spells ((records.drop count).take options.limit)
      ((lines.drop count).take options.limit) := List.forall₂_take options.limit (behind count)
  by_cases unbounded : options.limit = 0
  · simpa [asked, unbounded] using behind _
  · simpa [asked, unbounded] using front _

theorem named_eq_ok (path : String) (options : CsvOptions) (records : List (List Bytes))
    (lines : List (List String)) (spelled : Spells records lines) (names : List String) :
    named path options records[options.skip]? = .ok names ↔
      headers? options lines = some names := by
  unfold named headers?
  cases options.names with
  | some given => simp
  | none =>
      rw [← List.head?_drop, ← List.head?_drop, Option.none_or]
      have behind := List.forall₂_drop options.skip spelled
      generalize records.drop options.skip = front, lines.drop options.skip = told at behind
      cases behind with
      | nil => simp
      | cons first rest => simp [first]

theorem columnAt_eq (rows : List (List String)) (index : Nat) :
    columnAt rows index = rows.map fun row => field? row index := by
  refine List.map_congr_left fun row _ => ?_
  cases found : row[index]? with
  | none => simp [cell, field?, found]
  | some field =>
      by_cases empty : field = "" <;> simp [cell, field?, found, Option.filter_some, empty]

theorem read_eq_ok (path : String) (options : CsvOptions) (bytes : Bytes) (separator quote : UInt8)
    (byteSeparator : Text.encode options.separator = [separator])
    (byteQuote : Text.encode options.quote = [quote]) :
    read path options (.ok bytes) =
      tableOf path options (split ⟨separator, quote⟩ .start [] [] (withoutMark bytes)) := by
  simp [read, dialect, singleByte, byteSeparator, byteQuote]

def columnsOf (names : List String) (rows : List (List String)) : List (String × LocalColumn) :=
  names.zipIdx.map fun entry => (entry.1, .infer (rows.map fun row => field? row entry.2))

theorem names_columnsOf (names : List String) (rows : List (List String)) :
    (columnsOf names rows).map (·.1) = names := by
  simp [columnsOf, Function.comp_def]

theorem inferred_columnsOf (names : List String) (rows : List (List String)) (index : Nat)
    (name : String) (column : LocalColumn)
    (found : (columnsOf names rows)[index]? = some (name, column)) :
    LocalColumn.Inferred (rows.map fun row => field? row index) column := by
  rw [columnsOf, List.getElem?_map, List.getElem?_zipIdx, Nat.zero_add] at found
  obtain ⟨entry, listed, same⟩ := Option.map_eq_some_iff.mp found
  obtain ⟨present, -, rfl⟩ := Option.map_eq_some_iff.mp listed
  obtain ⟨-, rfl⟩ := Prod.mk.inj same
  exact LocalColumn.inferred_infer _

theorem fit_columnsOf (names : List String) (rows : List (List String)) :
    LocalTable.Fit (columnsOf names rows) ↔ names.Nodup := by
  have listed := names_columnsOf names rows
  refine ⟨fun fit => listed ▸ fit.distinct, fun distinct => ⟨listed.symm ▸ distinct, ?_⟩⟩
  have even : ∀ entry ∈ columnsOf names rows, entry.2.length = rows.length := by
    intro entry member
    obtain ⟨named, -, rfl⟩ := List.mem_map.mp member
    rw [(LocalColumn.inferred_infer _).length_eq, List.length_map]
  intro first one second other
  rw [even first one, even second other]

theorem tableOf_eq_ok (path : String) (options : CsvOptions) (records : List (List Bytes))
    (lines : List (List String)) (spelled : Spells records lines) (table : LocalTable) :
    tableOf path options records = .ok table ↔
      ∃ names, headers? options lines = some names ∧ names.Nodup ∧
        (∀ row ∈ asked options lines, row.length = names.length) ∧
        table = ⟨columnsOf names (asked options lines)⟩ := by
  have columns (names : List String) (rows : List (List String)) :
      (names.zipIdx.map fun (name, index) => (name, .infer (columnAt rows index))) =
        columnsOf names rows := by
    simp only [columnAt_eq]
    rfl
  simp only [tableOf_eq, Outcome.bind_eq_ok, named_eq_ok path options records lines spelled,
    rows_eq_ok path _ _ _ _ (spells_asked options records lines spelled), columns,
    LocalTable.ofColumns_eq_ok, fit_columnsOf]
  constructor
  · rintro ⟨names, header, rows, ⟨rfl, wide⟩, distinct, same⟩
    exact ⟨names, header, distinct, wide, same⟩
  · rintro ⟨names, header, distinct, wide, same⟩
    exact ⟨names, header, _, ⟨rfl, wide⟩, distinct, same⟩

theorem tableOf_congr (path : String) (options : CsvOptions) (records others : List (List Bytes))
    (header : options.names = none → others[options.skip]? = records[options.skip]?)
    (window : asked options others = asked options records) :
    tableOf path options others = tableOf path options records := by
  have same : named path options others[options.skip]? =
      named path options records[options.skip]? := by
    cases given : options.names with
    | some names => simp [named, given]
    | none => rw [header given]
  rw [tableOf_eq, tableOf_eq, same, window]

/--
Exactly the records asked for are read, if there is a header, its names differ and every record
asked for has as many fields. Each name becomes a column, with a cell for every record asked for;
and what the other records hold makes no difference.
-/
theorem reads_window (path : String) (options : CsvOptions) (bytes : Bytes)
    (lines : List (List String)) (separator quote : UInt8)
    (byteSeparator : Text.encode options.separator = [separator])
    (byteQuote : Text.encode options.quote = [quote])
    (spelled : Spells (split ⟨separator, quote⟩ .start [] [] (withoutMark bytes)) lines) :
    ((∃ table, read path options (.ok bytes) = .ok table) ↔
      ∃ names, headers? options lines = some names ∧ names.Nodup ∧
        ∀ row ∈ asked options lines, row.length = names.length) ∧
    (∀ table, read path options (.ok bytes) = .ok table →
      headers? options lines = some (table.columns.map (·.1)) ∧
      ∀ index name column, table.columns[index]? = some (name, column) →
        column.length = (asked options lines).length ∧
        LocalColumn.Inferred ((asked options lines).map fun row => field? row index) column) ∧
    ∀ other : Bytes,
      let records := split ⟨separator, quote⟩ .start [] [] (withoutMark bytes)
      let others := split ⟨separator, quote⟩ .start [] [] (withoutMark other)
      (options.names = none → others[options.skip]? = records[options.skip]?) →
      asked options others = asked options records →
      read path options (.ok other) = read path options (.ok bytes) := by
  have made := tableOf_eq_ok path options _ lines spelled
  rw [← read_eq_ok path options bytes separator quote byteSeparator byteQuote] at made
  refine ⟨?_, ?_, ?_⟩
  · constructor
    · rintro ⟨table, done⟩
      obtain ⟨names, header, distinct, wide, -⟩ := (made table).mp done
      exact ⟨names, header, distinct, wide⟩
    · rintro ⟨names, header, distinct, wide⟩
      exact ⟨_, (made _).mpr ⟨names, header, distinct, wide, rfl⟩⟩
  · intro table done
    obtain ⟨names, header, -, -, rfl⟩ := (made table).mp done
    refine ⟨header.trans (congrArg some (names_columnsOf names _).symm), ?_⟩
    intro index name column found
    have inferred := inferred_columnsOf names _ index name column found
    exact ⟨by rw [inferred.length_eq, List.length_map], inferred⟩
  · intro other records others header window
    rw [read_eq_ok path options other separator quote byteSeparator byteQuote,
      read_eq_ok path options bytes separator quote byteSeparator byteQuote]
    exact tableOf_congr path options records others header window

def exported : Bytes := Text.encode "# orders\nn;s\n1;x\n 2 ;\n3;y;z\n"

def twoRows : CsvOptions := { separator := ";", skip := 1, limit := 2 }

theorem reads_window_exported :
    let lines := [["# orders"], ["n", "s"], ["1", "x"], [" 2 ", ""], ["3", "y", "z"]]
    Spells (split ⟨59, 34⟩ .start [] [] (withoutMark exported)) lines ∧
    asked twoRows lines = [["1", "x"], [" 2 ", ""]] ∧
    ∃ table, read "orders.csv" twoRows (.ok exported) = .ok table ∧
      table.columns.map (·.1) = ["n", "s"] ∧
      table.columns[1]? = some ("s", .string [some "x", none]) := by
  intro lines
  have spelled : Spells (split ⟨59, 34⟩ .start [] [] (withoutMark exported)) lines := by
    have records : split ⟨59, 34⟩ .start [] [] (withoutMark exported) =
        lines.map fun line => line.map Text.encode := by decide +kernel
    exact records ▸ spells_encode lines
  obtain ⟨succeeds, columns, -⟩ := reads_window "orders.csv" twoRows exported lines 59 34
    (by decide +kernel) (by decide +kernel) spelled
  obtain ⟨table, done⟩ := succeeds.mpr ⟨["n", "s"], by decide, by decide, by decide⟩
  obtain ⟨header, each⟩ := columns table done
  have named : table.columns.map (·.1) = ["n", "s"] := (Option.some.inj header).symm
  refine ⟨spelled, by decide, table, done, named, ?_⟩
  have second : (table.columns.map (·.1))[1]? = some "s" := by rw [named]; rfl
  rw [List.getElem?_map] at second
  obtain ⟨⟨name, column⟩, found, rfl⟩ := Option.map_eq_some_iff.mp second
  obtain ⟨-, inferred⟩ := each 1 _ column found
  change LocalColumn.Inferred [some "x", none] column at inferred
  cases inferred with
  | float numbers numerical same =>
      have letter : (Decimal.readFloat? (Text.trim "x")).isSome = false := by decide +kernel
      rw [numerical.numbers "x" (by simp)] at letter
      cases letter
  | string other => exact found

end Csv

end RelationalLearning
