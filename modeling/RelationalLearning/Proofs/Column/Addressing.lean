import RelationalLearning.Proofs.Binary64.Large
import RelationalLearning.Proofs.Column.Resolution
import RelationalLearning.Proofs.Engine.Answering

/-!
Rows by their number. A number is resolved as for a known number of rows, which is asked for when
the number counts from the end. Whether there is such a row shows when the row is counted.
-/

namespace RelationalLearning

open Client (Converses)

variable {port : Nat} {engine : Engine}

def Signed (number : Int) : Prop := -2 ^ 63 ≤ number ∧ number < 2 ^ 63

instance (number : Int) : Decidable (Signed number) := inferInstanceAs (Decidable (_ ∧ _))

theorem wrapped_of_signed (number : Int) (signed : Signed number) : wrapped number = number := by
  obtain ⟨low, high⟩ := signed
  have size : Nat.pow 2 64 = 2 ^ 64 := rfl
  rw [wrapped, size]
  exact Int.bmod_eq_of_le (by omega) (by omega)

theorem Slice.signed_placed (length : Nat) (index : Int) (rows : Signed length)
    (signed : Signed index) : Signed (placed length index) := by
  unfold Signed placed at *
  split <;> omega

theorem Slice.placed_lt (length : Nat) (index : Int) (rows : Signed length)
    (signed : Signed index) : (placed length index).toNat < 2 ^ 63 := by
  have within := signed_placed length index rows signed
  unfold Signed at within
  omega

def onlyRow (length row : Nat) : List Nat := if row < length then [row] else []

/-- Doubles tell the row from all others, or it lies behind all rows that they tell apart. -/
def Distinct (length row : Nat) : Prop := length ≤ 2 ^ 53 ∨ row < 2 ^ 53

theorem rowsWithin_one (length row : Nat) :
    rowsWithin length row (row + 1) 1 = onlyRow length row := by
  have next : spacing row (row + 1) 1 = [(row : Int)] := by
    rw [spacing, if_pos (.inl ⟨by decide, by omega⟩), spacing, if_neg (by unfold Before; omega)]
  simp only [rowsWithin, next, onlyRow, List.filterMap_cons, List.filterMap_nil]
  by_cases inside : row < length
  · have found : rowOf? length ((row : Int) : ℚ) = some row :=
      (rowOf?_eq_some _ _ _).mpr ⟨inside, rfl⟩
    rw [found, if_pos inside]
  · have missing : rowOf? length ((row : Int) : ℚ) = none := by
      refine Option.eq_none_iff_forall_ne_some.mpr fun other found => ?_
      obtain ⟨within, same⟩ := (rowOf?_eq_some _ _ _).mp found
      omega
    rw [missing, if_neg inside]

/-- From where doubles no longer tell rows apart no spacing goes up to one of the first `2 ^ 53`. -/
theorem rows?_large (length row : Nat) (stop : Int) (large : 2 ^ 53 ≤ row) (fits : row < 2 ^ 64)
    (few : length ≤ 2 ^ 53) : (Subselection.range row stop 1).rows? length = some [] := by
  obtain ⟨first, held, late⟩ := Binary64.number?_ofNat_large row large fits
  have one : Binary64.number? (Float.ofInt 1) = some (1 : ℚ) := by
    exact_mod_cast Binary64.number?_ofInt 1 (by decide)
  have begins : Binary64.number? (Float.ofInt row) = some first := held
  have missing (place : Nat) : rowOf? length (first + place * 1) = none := by
    rw [rowOf?, List.find?_eq_none]
    intro other inside same
    have same : (other : ℚ) = first + place * 1 := by simpa using same
    have early : (other : ℚ) < 2 ^ 53 := by
      exact_mod_cast Nat.lt_of_lt_of_le (List.mem_range.mp inside) few
    have : (0 : ℚ) ≤ place := Nat.cast_nonneg place
    linarith
  simp only [Subselection.rows?, Subselection.column, Column.arange, Column.spaced?, begins, one]
  refine congrArg some (List.filterMap_eq_nil_iff.mpr ?_)
  rintro number held
  obtain ⟨place, -, rfl⟩ := List.mem_map.mp held
  exact missing place

/-- Only behind the last row that can be numbered there is no next number. -/
theorem single_eq (row : Nat) (fits : row + 1 < 2 ^ 63) :
    Subselection.single row = .range row (row + 1) 1 := by
  have next : wrapped (row + 1) = row + 1 := by
    apply wrapped_of_signed
    unfold Signed
    omega
  rw [Subselection.single, next]

theorem rows?_single (length row : Nat) (distinct : Distinct length row) (fits : row < 2 ^ 63) :
    (Subselection.single row).rows? length = some (onlyRow length row) := by
  rcases Nat.lt_or_ge row (2 ^ 53) with small | large
  · rw [single_eq row (by omega),
      rows?_range length row (row + 1) 1 (by decide) (by omega) (by omega) (by decide) (by omega),
      rowsWithin_one]
  · have few : length ≤ 2 ^ 53 := by
      unfold Distinct at distinct
      omega
    rw [Subselection.single, rows?_large length row _ large (by omega) few, onlyRow,
      if_neg (by omega)]

theorem throw_bind {m : Type → Type} [Monad m] [LawfulMonad m] {ε α β : Type} (cause : ε)
    (next : α → ExceptT ε m β) : (throw cause >>= next) = (throw cause : ExceptT ε m β) :=
  ExceptT.ext (by simp)

def countedBack (index : Int) : Length → Except DataError Subselection
  | .finite length =>
      if wrapped (index + length) < 0 then .error outOfBounds
      else .ok (.single (wrapped (index + length)))
  | length => .error (.index s!"Negative indices require a finite length, got {length.display}.")

section

variable {m : Type → Type} [Monad m] [LawfulMonad m] (index : Int)
  (rows : ExceptT DataError m Length)

theorem resolveRow_of_nonneg (forward : 0 ≤ index) :
    resolveRow index rows = pure (.single index) := by
  have inside : ¬ index < 0 := Int.not_lt.mpr forward
  rw [resolveRow, if_neg inside, pure_bind]
  exact if_neg inside

theorem resolveRow_of_negative (backward : index < 0) :
    resolveRow index rows = rows >>= fun length => liftM (countedBack index length) := by
  rw [resolveRow, if_pos backward]
  refine congrArg (rows >>= ·) (funext fun length => ?_)
  cases length with
  | finite length =>
      dsimp only
      rw [pure_bind, countedBack]
      split <;> rfl
  | infinite => exact throw_bind _ _
  | unknown => exact throw_bind _ _

end

namespace Selection

def known (selection : Selection) (length : Length) : Except DataError Subselection :=
  (selection.resolve (m := Id) (pure length)).run

def asks : Selection → Bool
  | .row index => index < 0
  | .slice bounds => bounds.stride ≠ 0 && bounds.needsLength
  | _ => false

section

variable {m : Type → Type} [Monad m] [LawfulMonad m] (rows : ExceptT DataError m Length)

/-- Either the number of rows is all that is missing, or nothing is. -/
theorem resolve_eq (selection : Selection) :
    if selection.asks then
      selection.resolve rows = rows >>= fun length => liftM (selection.known length)
    else ∀ length, selection.resolve rows = liftM (selection.known length) := by
  cases selection with
  | row index =>
      by_cases backward : index < 0
      · have known (length : Length) : (row index).known length = countedBack index length :=
          congrArg ExceptT.run (resolveRow_of_negative (m := Id) index (pure length) backward)
        simp only [asks, backward, decide_true, if_true, known]
        exact resolveRow_of_negative index rows backward
      · have forward := Int.not_lt.mp backward
        have known (length : Length) : (row index).known length = .ok (.single index) :=
          congrArg ExceptT.run (resolveRow_of_nonneg (m := Id) index (pure length) forward)
        simp only [asks, backward, decide_false, Bool.false_eq_true, if_false, known]
        exact fun _ => resolveRow_of_nonneg index rows forward
  | slice bounds =>
      by_cases zero : bounds.stride = 0
      · have known (length : Length) : (slice bounds).known length = .error Slice.zeroStep :=
          congrArg ExceptT.run (Slice.resolve_zeroStep (m := Id) bounds zero (pure length))
        simp only [asks, zero, ne_eq, not_true, decide_false, Bool.false_and, Bool.false_eq_true,
          if_false, known]
        exact fun _ => Slice.resolve_zeroStep bounds zero rows
      by_cases opened : bounds.needsLength
      · have known (length : Length) : (slice bounds).known length = bounds.answer length :=
          congrArg ExceptT.run (Slice.resolve_open (m := Id) (pure length) bounds zero opened)
        simp only [asks, zero, opened, ne_eq, not_false_eq_true, decide_true, Bool.and_self,
          if_true, known]
        exact Slice.resolve_open rows bounds zero opened
      · have closed : bounds.needsLength = false := by simpa using opened
        have known (length : Length) := congrArg ExceptT.run
          (Slice.resolve_closed (m := Id) (pure length) bounds zero closed)
        have same (length : Length) : (slice bounds).known length = _ := known length
        simp only [asks, closed, Bool.and_false, Bool.false_eq_true, if_false, same]
        exact fun _ => Slice.resolve_closed rows bounds zero closed
  | mask column => exact fun _ => rfl
  | numbers column =>
      intro length
      unfold known resolve
      by_cases numerical : column.family = .float
      · simp only [numerical, if_true]
        rfl
      · simp only [numerical, if_false]
        rfl

end

theorem known_row (index : Int) (length : Nat) (rows : Signed length) (signed : Signed index) :
    (row index).known (.finite length) =
      if Slice.placed length index < 0 then .error outOfBounds
      else .ok (.single (Slice.placed length index)) := by
  have within := Slice.signed_placed length index rows signed
  by_cases backward : index < 0
  · have placed : Slice.placed length index = index + length := if_pos backward
    rw [placed] at within ⊢
    have resolved := congrArg ExceptT.run
      (resolveRow_of_negative (m := Id) index (pure (.finite length)) backward)
    have known : (row index).known (.finite length) = countedBack index (.finite length) := resolved
    rw [known, countedBack, wrapped_of_signed _ within]
  · rw [Slice.placed, if_neg backward, if_neg backward]
    exact congrArg ExceptT.run
      (resolveRow_of_nonneg (m := Id) index _ (Int.not_lt.mp backward))

/-- What a selection comes to does not depend on whether the length was known or asked for. -/
theorem converses_resolve (selection : Selection) (length : Length) (commands : List Json)
    (rows : Client DataError Length) (told : Converses port engine commands (.ok length) rows) :
    Converses port engine (if selection.asks then commands else []) (selection.known length)
      (selection.resolve rows) := by
  have resolved := selection.resolve_eq rows
  have ends : Converses port engine [] (selection.known length)
      (liftM (selection.known length) : Client DataError Subselection) :=
    Client.converses_ofExcept _
  split at resolved
  next asks =>
    have both := Client.converses_bind _ (fun length => liftM (selection.known length)) _ _ _ _
      told ends
    rw [if_pos asks, resolved]
    rwa [List.append_nil] at both
  next silent =>
    rw [if_neg silent, resolved length]
    exact ends

end Selection

def Engine.Counts (engine : Engine) (column : Column) (rows : Nat) : Prop :=
  ∃ reply more, engine (column.command "nrows" []) = found :: reply :: more ∧
    Length.parse reply = .ok (.finite rows)

/-- The row with a number, which counts from the end if it is negative; Python's rule. -/
def rowNumbered? (length : Nat) (index : Int) : Option Nat :=
  if -(length : Int) ≤ index ∧ index < length then some (Slice.placed length index).toNat else none

theorem rowNumbered?_of_placed (length : Nat) (index : Int) (row : Nat)
    (placed : Slice.placed length index = row) :
    rowNumbered? length index = if row < length then some row else none := by
  unfold rowNumbered?
  rw [placed, Int.toNat_natCast]
  unfold Slice.placed at placed
  split at placed
  next negative =>
    have : -(length : Int) ≤ index ∧ index < length ↔ row < length := by omega
    simp only [this]
  next =>
    have : -(length : Int) ≤ index ∧ index < length ↔ row < length := by omega
    simp only [this]

theorem rowNumbered?_eq_some (length : Nat) (index : Int) (row : Nat)
    (numbered : rowNumbered? length index = some row) :
    row < length ∧ Slice.placed length index = row := by
  unfold rowNumbered? at numbered
  split at numbered
  next inside =>
    have same := Option.some.inj numbered
    unfold Slice.placed at same ⊢
    split at same <;> omega
  next => cases numbered

theorem rowNumbered?_of_before (length : Nat) (index : Int)
    (before : Slice.placed length index < 0) : rowNumbered? length index = none := by
  unfold Slice.placed at before
  refine if_neg fun inside => ?_
  split at before <;> omega

def reach {α : Type} (row : Option α) : Except DataError α :=
  match row with
  | some row => .ok row
  | none => .error outOfBounds

namespace Selection

theorem converses_probe {α : Type} (length row : Nat) (found : α) (commands : List Json)
    (count : Client DataError Length)
    (told : Converses port engine commands (.ok (.finite (onlyRow length row).length)) count) :
    Converses port engine commands (reach ((onlyRow length row).head?.map fun _ => found))
      (do if (← count) = .finite 0 then throw outOfBounds else return found) := by
  have both := Client.converses_bind _ (fun counted =>
      if counted = .finite 0 then throw outOfBounds else pure found) _ [] _
    (reach ((onlyRow length row).head?.map fun _ => found)) told ?_
  · rwa [List.append_nil] at both
  unfold onlyRow
  by_cases inside : row < length
  · rw [if_pos inside]
    exact Client.converses_pure _
  · rw [if_neg inside]
    exact Client.converses_throw _

/-- A row number is resolved first, which may take the number of rows; then its row is probed. -/
theorem converses_row {α : Type} (length : Nat) (index : Int) (rowAt : Nat → α)
    (counting : List Json) (probing : Nat → List Json) (rows : Client DataError Length)
    (probe : Subselection → Client DataError α) (fits : Signed length) (signed : Signed index)
    (told : Converses port engine counting (.ok (.finite length)) rows)
    (probed : ∀ row : Nat, Slice.placed length index = row →
      Converses port engine (probing row)
        (reach ((onlyRow length row).head?.map fun _ => rowAt row))
        (probe (.single row))) :
    Converses port engine
      ((if index < 0 then counting else []) ++
        if 0 ≤ Slice.placed length index then probing (Slice.placed length index).toNat else [])
      (reach ((rowNumbered? length index).map rowAt))
      (Selection.resolve rows (.row index) >>= probe) := by
  have resolved := converses_resolve (.row index) (.finite length) _ _ told
  simp only [asks, decide_eq_true_eq, known_row index length fits signed] at resolved
  by_cases before : Slice.placed length index < 0
  · rw [if_pos before] at resolved
    rw [if_neg (Int.not_le.mpr before), rowNumbered?_of_before length index before, List.append_nil]
    exact Client.converses_failed_bind _ _ _ _ resolved
  -- a number behind the last row is resolved as well, only its probe comes to nothing
  rw [if_neg before] at resolved
  have reached := Int.not_lt.mp before
  obtain ⟨row, placed⟩ := Int.eq_ofNat_of_zero_le reached
  have same : (rowNumbered? length index).map rowAt =
      (onlyRow length row).head?.map fun _ => rowAt row := by
    rw [rowNumbered?_of_placed length index row placed, onlyRow]
    split <;> rfl
  rw [if_pos reached, same, placed, Int.toNat_natCast]
  rw [placed] at resolved
  exact Client.converses_bind _ _ _ _ _ _ resolved (probed row placed)

end Selection

namespace Column

variable (session : Session) {engine : Engine} (column : Column)

def rowAt (row : Nat) : Column :=
  column.subselect (.column (Subselection.single row).column)

theorem converses_rows (rows : Nat) (counts : engine.Counts column rows) :
    Converses session.port engine [column.command "nrows" []] (.ok (.finite rows))
      (column.rows session) := by
  obtain ⟨reply, more, replies, parsed⟩ := counts
  refine session.converses_askExpecting engine _ found DataError.engine _ _ more _ replies
    fun link => ?_
  have received : Link.Hears link (reply :: more) more (Length.parse reply) (Length.receive link) :=
    Link.hears_bind _ _ reply _ (Link.hears_receive reply) (Link.hears_ofExcept _)
  have read := Link.hears_adapt DataError.engine _ _ received
  rwa [parsed] at read

theorem converses_rowsForSelection (rows : Nat) (counts : engine.Counts column rows) :
    Converses session.port engine [column.command "nrows" []] (.ok (.finite rows))
      (column.rowsForSelection session) :=
  Client.converses_bind _ _ [] _ () _ (Client.converses_log _ _)
    (column.converses_rows session rows counts)

def rowCommands (length : Nat) (index : Int) : List Json :=
  (if index < 0 then [column.command "nrows" []] else []) ++
    if 0 ≤ Slice.placed length index then
      [(column.rowAt (Slice.placed length index).toNat).command "nrows" []]
    else []

structure Counted (engine : Engine) (length row : Nat) : Prop where
  rows : engine.Counts column length
  row : ∀ picked, (Subselection.single row).rows? length = some picked →
    engine.Counts (column.rowAt row) picked.length

theorem converses_select_row (length : Nat) (index : Int) (fits : Signed length)
    (signed : Signed index) (distinct : Distinct length (Slice.placed length index).toNat)
    (counted : column.Counted engine length (Slice.placed length index).toNat) :
    Converses session.port engine (column.rowCommands length index)
      (reach ((rowNumbered? length index).map column.rowAt))
      (column.select session (.row index)) := by
  refine Selection.converses_row length index column.rowAt _
    (fun row => [(column.rowAt row).command "nrows" []]) _ _ fits signed
    (column.converses_rowsForSelection session length counted.rows) ?_
  have picked := rows?_single length _ distinct
    (Slice.placed_lt length index fits signed)
  intro row placed
  rw [placed, Int.toNat_natCast] at counted picked
  exact Selection.converses_probe length row _ _ _
    ((column.rowAt row).converses_rows session _ (counted.row _ picked))

def entryCommand (row : Nat) : Json :=
  column.command "get_content" [("draw_", .int 1), ("start_", .nat row), ("length_", .nat 1)]

def entryCommands (length : Nat) (index : Int) : List Json :=
  (if index < 0 then [column.command "nrows" []] else []) ++
    if 0 ≤ Slice.placed length index then
      [column.entryCommand (Slice.placed length index).toNat]
    else []

structure Shown (engine : Engine) (entries : List String) (row : Nat) : Prop where
  rows : engine.Counts column entries.length
  entry : ∃ reply more, engine (column.entryCommand row) = reply :: more ∧
    ColumnContent.parse reply = .ok ⟨entries.length, entries[row]?.toList⟩

theorem converses_content (start length : Nat) (content : ColumnContent) (reply : String)
    (more : List String) (replies : engine (column.command "get_content"
      [("draw_", .int 1), ("start_", .nat start), ("length_", .nat length)]) = reply :: more)
    (parsed : ColumnContent.parse reply = .ok content) :
    Converses session.port engine [column.command "get_content"
      [("draw_", .int 1), ("start_", .nat start), ("length_", .nat length)]]
      (.ok content) (column.content session start length) := by
  refine session.converses_ask engine _ DataError.engine _ more _ fun link => ?_
  have received : Link.Hears link (reply :: more) more (ColumnContent.parse reply)
      (ColumnContent.receive link) :=
    Link.hears_bind _ _ reply _ (Link.hears_receive reply) (Link.hears_ofExcept _)
  have read := Link.hears_adapt DataError.engine _ _ received
  rw [replies]
  rwa [parsed] at read

def entryAt (row : Nat) : Client DataError String := do
  let content ← column.content session row 1
  if content.total ≤ row && content.total > 0 then throw outOfBounds
  match content.entries with
  | entry :: _ => return entry
  | [] => throw outOfBounds

theorem entry_of_nonneg (index : Int) (forward : 0 ≤ index) :
    column.entry session index = column.entryAt session index.toNat := by
  have inside : ¬ index < 0 := Int.not_lt.mpr forward
  rw [entry, if_neg inside, pure_bind]
  exact if_neg inside

theorem entry_of_negative (index : Int) (backward : index < 0) :
    column.entry session index = column.rows session >>= fun
      | .finite length =>
          if wrapped (index + length) < 0 then throw outOfBounds
          else column.entryAt session (wrapped (index + length)).toNat
      | _ => throw (.index "Negative indices require a column of known length.") := by
  rw [entry, if_pos backward]
  refine congrArg (column.rows session >>= ·) (funext fun length => ?_)
  cases length with
  | finite length => exact pure_bind _ _
  | infinite => exact throw_bind _ _
  | unknown => exact throw_bind _ _

/-- A page with nothing on it shows that there is no such entry, and so does its total. -/
theorem converses_entryAt (entries : List String) (row : Nat)
    (shown : column.Shown engine entries row) :
    Converses session.port engine [column.entryCommand row] (reach entries[row]?)
      (column.entryAt session row) := by
  obtain ⟨reply, more, replies, parsed⟩ := shown.entry
  have told := column.converses_content session row 1 _ reply more replies parsed
  refine Client.converses_bind _ _ _ [] _ _ told ?_
  by_cases inside : row < entries.length
  · have short : ¬ (entries.length ≤ row && entries.length > 0) := by
      simp only [Bool.and_eq_true, decide_eq_true_eq]
      omega
    rw [if_neg short, List.getElem?_eq_getElem inside]
    exact Client.converses_pure _
  · have missing : entries[row]? = none := List.getElem?_eq_none (Nat.le_of_not_lt inside)
    rw [missing]
    dsimp only [Option.toList]
    split
    next =>
      rw [throw_bind]
      exact Client.converses_throw _
    next => exact Client.converses_throw _

theorem converses_entry (entries : List String) (index : Int) (fits : Signed entries.length)
    (signed : Signed index)
    (shown : column.Shown engine entries (Slice.placed entries.length index).toNat) :
    Converses session.port engine (column.entryCommands entries.length index)
      (reach ((rowNumbered? entries.length index).bind fun row => entries[row]?))
      (column.entry session index) := by
  have counting := column.converses_rows session entries.length shown.rows
  have showing := column.converses_entryAt session entries _ shown
  unfold entryCommands
  have outcome : 0 ≤ Slice.placed entries.length index →
      (rowNumbered? entries.length index).bind (fun row => entries[row]?) =
        entries[(Slice.placed entries.length index).toNat]? := by
    intro reached
    obtain ⟨row, placed⟩ := Int.eq_ofNat_of_zero_le reached
    rw [rowNumbered?_of_placed entries.length index row placed, placed, Int.toNat_natCast]
    split
    next => rfl
    next outside => exact (List.getElem?_eq_none (Nat.le_of_not_lt outside)).symm
  by_cases backward : index < 0
  · have placed : Slice.placed entries.length index = index + entries.length := if_pos backward
    have within := Slice.signed_placed entries.length index fits signed
    rw [placed] at within
    rw [entry_of_negative session column index backward, if_pos backward]
    refine Client.converses_bind _ _ _ _ _ _ counting ?_
    dsimp only
    rw [wrapped_of_signed _ within]
    by_cases before : index + entries.length < 0
    · rw [rowNumbered?_of_before entries.length index (placed ▸ before), placed,
        if_neg (Int.not_le.mpr before), if_pos before]
      exact Client.converses_throw _
    · have reached := Int.not_lt.mp before
      rw [placed] at showing outcome ⊢
      rw [if_neg before, if_pos reached, outcome reached]
      exact showing
  · have forward := Int.not_lt.mp backward
    have placed : Slice.placed entries.length index = index := if_neg backward
    rw [placed] at showing outcome ⊢
    rw [entry_of_nonneg session column index forward, if_neg backward, if_pos forward,
      outcome forward]
    exact showing

end Column

end RelationalLearning
