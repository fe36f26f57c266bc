import RelationalLearning.Proofs.Column.KnownLength
import RelationalLearning.Proofs.Table.Upfront

namespace RelationalLearning

open Client (Converses)

variable (session : Session) {engine : Engine}

namespace DataFrame

def Counted (frame : DataFrame) (engine : Engine) (rows : Nat) : Prop :=
  ∃ reply more, engine (frame.command "DataFrame.nrows" []) = found :: reply :: more ∧
    Decimal.readWord? 64 (Text.trim reply) = some rows

theorem converses_rows (frame : DataFrame) (rows : Nat) (counted : frame.Counted engine rows) :
    Converses session.port engine [frame.command "DataFrame.nrows" []] (.ok rows)
      (frame.rows session) := by
  obtain ⟨reply, more, replies, read⟩ := counted
  refine session.converses_askExpecting engine _ found DataError.engine _ _ more _ replies
    fun link => ?_
  have received : Link.Hears link (reply :: more) more (.ok reply) (Link.receive link) :=
    Link.hears_receive reply
  refine Link.hears_bind _ _ reply _ (Link.hears_adapt DataError.engine _ _ received) ?_
  rw [read]
  exact Link.hears_pure rows

def Dated (frame : DataFrame) (engine : Engine) : Prop :=
  ∃ change more, engine (frame.command "DataFrame.last_change" []) = success :: change :: more

theorem converses_askLastChange (frame : DataFrame) (change : String) (more : List String)
    (replies : engine (frame.command "DataFrame.last_change" []) = success :: change :: more) :
    Converses session.port engine [frame.command "DataFrame.last_change" []] (.ok change)
      (frame.askLastChange session) := by
  refine session.converses_ask engine _ DataError.engine _ more _ fun link => ?_
  rw [replies]
  exact Link.hears_bind _ _ () _ (Link.hears_adapt DataError.engine _ _ (Link.hears_expect success))
    (Link.hears_adapt DataError.engine _ _ (Link.hears_receive change))

end DataFrame

namespace Table

def visible (table : Table) : List Column :=
  table.columnNames.filterMap fun name => (table.column name).toOption

theorem mapM_column (table : Table) (proper : table.Proper) :
    table.columnNames.mapM table.column = .ok table.visible :=
  Outcome.mapM_eq_filterMap _ _ fun name member => (table.column_isOk proper name).mpr member

end Table

namespace View

def countCommands (view : View) : List Json :=
  [view.base.root.command "DataFrame.last_change" [], Session.command "View.get_nrows" ""
    [("cols_", .array (view.table.visible.map Column.toCommand)), ("force_", .bool true)]]

structure Counted (view : View) (engine : Engine) (rows : Nat) : Prop where
  dated : view.base.root.Dated engine
  rows : ∃ reply more document, engine (Session.command "View.get_nrows" ""
      [("cols_", .array (view.table.visible.map Column.toCommand)), ("force_", .bool true)]) =
        reply :: more ∧
    Link.objectOf reply = .ok document ∧ Length.ofReply document = .finite rows

theorem converses_check (view : View) (dated : view.base.root.Dated engine) :
    ∃ freshness, Converses session.port engine [view.base.root.command "DataFrame.last_change" []]
      (.ok freshness) (view.check session) := by
  obtain ⟨change, more, replies⟩ := dated
  have asked := view.base.root.converses_askLastChange session change more replies
  by_cases same : change = view.layer.initialLastChange
  · refine ⟨.fresh, Client.converses_bind _ _ _ [] _ _ asked ?_⟩
    rw [if_pos same]
    exact Client.converses_pure _
  · refine ⟨.stale, Client.converses_bind _ _ _ [] _ _ asked ?_⟩
    rw [if_neg same]
    exact Client.converses_bind _ _ [] [] () _ (Client.converses_log _ _) (Client.converses_pure _)

theorem converses_rows (view : View) (rows : Nat) (proper : view.table.Proper)
    (counted : view.Counted engine rows) :
    Converses session.port engine view.countCommands (.ok (.finite rows))
      (view.rows session true) := by
  obtain ⟨freshness, checked⟩ := view.converses_check session counted.dated
  obtain ⟨reply, more, document, replies, read, told⟩ := counted.rows
  refine Client.converses_bind _ _ _ _ _ _ checked ?_
  rw [view.table.mapM_column proper]
  refine Client.converses_bind _ _ [] _ _ _ (Client.converses_ofExcept (.ok view.table.visible)) ?_
  refine session.converses_ask engine _ DataError.engine _ more _ fun link => ?_
  have received : Link.Hears link (reply :: more) more (Link.objectOf reply)
      (Link.receiveJson link) := Link.hears_receiveJson reply
  rw [read] at received
  rw [replies, ← told]
  exact Link.hears_bind _ _ document _ (Link.hears_adapt DataError.engine _ _ received)
    (Link.hears_pure _)

end View

namespace Table

def countCommands : Table → List Json
  | .frame data => [data.command "DataFrame.nrows" []]
  | .view base layer => (View.mk base layer).countCommands

def CountedAs (engine : Engine) (rows : Nat) : Table → Prop
  | .frame data => data.Counted engine rows
  | .view base layer => (View.mk base layer).Counted engine rows

def rowAt (table : Table) (row : Nat) : View :=
  (View.ofTable table).subselected (Subselection.single row).column

def rowCommands (table : Table) (length : Nat) (index : Int) : List Json :=
  (if index < 0 then table.countCommands else []) ++
    if 0 ≤ Slice.placed length index then
      (table.rowAt (Slice.placed length index).toNat).countCommands
    else []

structure Counted (table : Table) (engine : Engine) (length row : Nat) : Prop where
  rows : table.CountedAs engine length
  row : ∀ picked, (Subselection.single row).rows? length = some picked →
    (table.rowAt row).Counted engine picked.length

theorem converses_rows (table : Table) (rows : Nat) (proper : table.Proper)
    (counted : table.CountedAs engine rows) :
    Converses session.port engine table.countCommands (.ok (.finite rows))
      (table.rows session) := by
  cases table with
  | frame data =>
      exact Client.converses_map _ Length.finite _ _ (data.converses_rows session rows counted)
  | view base layer => exact View.converses_rows session ⟨base, layer⟩ rows proper counted

theorem converses_select_row (table : Table) (length : Nat) (index : Int) (proper : table.Proper)
    (fits : Signed length) (signed : Signed index)
    (distinct : Distinct length (Slice.placed length index).toNat)
    (counted : table.Counted engine length (Slice.placed length index).toNat) :
    Converses session.port engine (table.rowCommands length index)
      (reach ((rowNumbered? length index).map table.rowAt))
      (table.select session (.row index)) := by
  refine Selection.converses_row length index table.rowAt _
    (fun row => (table.rowAt row).countCommands) _ _ fits signed
    (table.converses_rows session length proper counted.rows) ?_
  have picked := rows?_single length _ distinct (Slice.placed_lt length index fits signed)
  intro row placed
  rw [placed, Int.toNat_natCast] at counted picked
  exact Selection.converses_probe length row _ _ _
    ((table.rowAt row).converses_rows session _ (proper_subselected table _ proper)
      (counted.row _ picked))

end Table

/--
An index reaches its row from the start, or from the end if it is negative, and every other index is
out of bounds. That holds of columns, of tables and of single entries; rows of columns and tables are
numbered by doubles, which have to tell them apart.
-/
theorem indices_reach_their_rows (length : Nat) (index : Int) (fits : Signed length)
    (signed : Signed index) :
    (Distinct length (Slice.placed length index).toNat →
      (∀ column : Column, column.Counted engine length (Slice.placed length index).toNat →
        Converses session.port engine (column.rowCommands length index)
          (reach ((rowNumbered? length index).map column.rowAt))
          (column.select session (.row index))) ∧
      (∀ table : Table, table.Proper →
        table.Counted engine length (Slice.placed length index).toNat →
        Converses session.port engine (table.rowCommands length index)
          (reach ((rowNumbered? length index).map table.rowAt))
          (table.select session (.row index))) ∧
      ∀ row, rowNumbered? length index = some row →
        (Subselection.range row (row + 1) 1).rows? length = some [row]) ∧
    ∀ (column : Column) (entries : List String), entries.length = length →
      column.Shown engine entries (Slice.placed length index).toNat →
      Converses session.port engine (column.entryCommands length index)
        (reach ((rowNumbered? length index).bind fun row => entries[row]?))
        (column.entry session index) := by
  refine ⟨fun distinct => ⟨?_, ?_, ?_⟩, ?_⟩
  · intro column counted
    exact column.converses_select_row session length index fits signed distinct counted
  · intro table proper counted
    exact table.converses_select_row session length index proper fits signed distinct counted
  · intro row numbered
    obtain ⟨inside, placed⟩ := rowNumbered?_eq_some length index row numbered
    have last : row + 1 < 2 ^ 63 := by
      unfold Signed at fits
      omega
    rw [placed, Int.toNat_natCast] at distinct
    rw [← single_eq row last, rows?_single length row distinct (by omega), onlyRow, if_pos inside]
  · rintro column entries rfl shown
    exact column.converses_entry session entries index fits signed shown

def oneRow : String := "\x7b\"recordsTotal\": 1\x7d"

def lastAmount : String := "\x7b\"recordsTotal\": 3, \"data\": [[\"1500\"]]\x7d"

def clerk : Engine := fun command =>
  match command.field? "type_" with
  | some (.string "DataFrame.last_change") => ["Success!", ""]
  | some (.string "View.get_nrows") => [oneRow]
  | some (.string "FloatColumn.get_content") => [lastAmount]
  | _ => Column.lender command

theorem indices_reach_their_rows_last :
    (∃ last, Table.amount.select {} (.row (-1))
      (Pipeline.answering [["Found!", "3"], ["Found!", "1"]]) =
        (.ok (Table.amount.rowAt 2), last)) ∧
    (∃ last, (Table.frame Table.loans).select {} (.row 2)
      (Pipeline.answering [["Success!", ""], [oneRow]]) =
        (.ok ((Table.frame Table.loans).rowAt 2), last)) ∧
    ∃ last, Table.amount.entry {} (-1) (Pipeline.answering [["Found!", "3"], [lastAmount]]) =
      (.ok "1500", last) := by
  have distinct : Distinct 3 2 := .inl (by decide)
  have only (picked : List Nat) (same : (Subselection.single 2).rows? 3 = some picked) :
      picked = [2] :=
    Option.some.inj (same.symm.trans (rows?_single 3 2 distinct (by decide)))
  have counted : Table.amount.Counted clerk 3 2 := by
    refine ⟨⟨"3", [], by decide +kernel, by decide +kernel⟩, fun picked same => ?_⟩
    obtain rfl := only picked same
    exact ⟨"1", [], by decide +kernel, by decide +kernel⟩
  have viewed : (Table.frame Table.loans).Counted clerk 3 2 := by
    refine ⟨⟨"3", [], by decide +kernel, by decide +kernel⟩, fun picked same => ?_⟩
    obtain rfl := only picked same
    have read : (Link.objectOf oneRow).map Length.ofReply = .ok (.finite 1) := by decide +kernel
    obtain ⟨document, object, rows⟩ := (Outcome.map_eq_ok _ _ _).mp read
    exact ⟨⟨"", [], by decide +kernel⟩, oneRow, [], document, by decide +kernel, object, rows⟩
  have shown : Table.amount.Shown clerk ["500", "800", "1500"] 2 :=
    ⟨counted.rows, lastAmount, [], by decide +kernel, by decide +kernel⟩
  have proper : (Table.frame Table.loans).Proper := trivial
  have reached := @indices_reach_their_rows {} clerk 3
  have fromEnd : (Slice.placed 3 (-1)).toNat = 2 := by decide
  have fromStart : (Slice.placed 3 2).toNat = 2 := by decide
  obtain ⟨numbered, listed⟩ := reached (-1) (by decide) (by decide)
  obtain ⟨inFront, -⟩ := reached 2 (by decide) (by decide)
  rw [fromEnd] at numbered listed
  rw [fromStart] at inFront
  obtain ⟨first, -, selected, -⟩ := (numbered distinct).1 Table.amount counted _
    (Pipeline.answers_answering clerk _ (by decide +kernel) (by decide +kernel))
  obtain ⟨second, -, seen, -⟩ := (inFront distinct).2.1 (.frame Table.loans) proper viewed _
    (Pipeline.answers_answering clerk _ (by decide +kernel) (by decide +kernel))
  obtain ⟨third, -, told, -⟩ := listed Table.amount ["500", "800", "1500"] rfl shown _
    (Pipeline.answers_answering clerk _ (by decide +kernel) (by decide +kernel))
  exact ⟨⟨first, selected⟩, ⟨second, seen⟩, third, told⟩

/-- An engine that holds more rows of a column than doubles tell apart. -/
def crowded : Engine := fun command =>
  match (command.field? "col_").bind Column.firstRow? with
  | none => ["Found!", "9007199254740993"]
  | some _ => ["Found!", "0"]

/-- Between some whole numbers and their successors doubles leave no room. -/
theorem rows?_roomless (length row : Nat) (picked : List Nat)
    (roomless : Column.arangeLength (.ofInt row) (.ofInt (wrapped (row + 1))) (.ofInt 1) = 0)
    (same : (Subselection.single row).rows? length = some picked) : picked = [] := by
  simp only [Subselection.single, Subselection.rows?, Subselection.column, Column.arange,
    Column.spaced?, roomless,
    Option.map_eq_some_iff, Option.bind_eq_bind, Option.bind_eq_some_iff] at same
  obtain ⟨numbers, ⟨first, -, distance, -, spaced⟩, rfl⟩ := same
  obtain rfl : [] = numbers := Option.some.inj spaced
  rfl

/-- The last row of these is not reached by its number. -/
theorem crowded_row_is_not_reached :
    ¬ ∀ (session : Session) (engine : Engine) (column : Column) (length : Nat) (index : Int),
      index + 1 < 2 ^ 63 → column.Counted engine length (Slice.placed length index).toNat →
      Converses session.port engine (column.rowCommands length index)
        (reach ((rowNumbered? length index).map column.rowAt))
        (column.select session (.row index)) := by
  intro claim
  have placed : (Slice.placed (2 ^ 53 + 1) (2 ^ 53)).toNat = 2 ^ 53 := by decide +kernel
  have counted : Table.amount.Counted crowded (2 ^ 53 + 1) (2 ^ 53) := by
    refine ⟨⟨"9007199254740993", [], by decide +kernel, by decide +kernel⟩, fun picked same => ?_⟩
    -- the double behind the row is the row itself, so the filter ends where it begins
    obtain rfl := rows?_roomless _ _ _ (by decide +kernel) same
    exact ⟨"0", [], by decide +kernel, by decide +kernel⟩
  obtain ⟨_, -, agreed, -⟩ := claim {} crowded Table.amount (2 ^ 53 + 1) (2 ^ 53) (by decide)
    (placed ▸ counted) _
    (Pipeline.answers_answering crowded _ (by decide +kernel) (by decide +kernel))
  have asked : (Table.amount.rowCommands (2 ^ 53 + 1) (2 ^ 53)).map crowded =
      [["Found!", "0"]] := by decide +kernel
  have refused : (Table.amount.select {} (.row (2 ^ 53))
      (Pipeline.answering [["Found!", "0"]])).1.isOk = false := by decide +kernel
  have there :
      (reach ((rowNumbered? (2 ^ 53 + 1) (2 ^ 53)).map Table.amount.rowAt)).isOk = true := by
    decide +kernel
  rw [asked] at agreed
  rw [agreed, there] at refused
  cases refused

end RelationalLearning
