import RelationalLearning.Proofs.Column.Addressing
import RelationalLearning.Proofs.Pipeline.Operations
import RelationalLearning.Proofs.Table.Changes

/-!
Selections from a column whose length is known, and from one whose length the engine knows. Both
come to the same, but for a row number behind the last row: only the engine notices that there is no
such row.
-/

namespace RelationalLearning

open Client (Converses)

theorem Pipeline.answers_answering (engine : Engine) (commands : List Json)
    (sendable : ∀ command ∈ commands, (Frame.ofText command.write).isOk = true)
    (readable : ∀ command ∈ commands, ∀ reply ∈ engine command, (Frame.ofText reply).isOk = true) :
    (answering (commands.map engine)).Answers 1708 engine commands := by
  have framed : ∀ replies : List String, (∀ reply ∈ replies, (Frame.ofText reply).isOk = true) →
      Framed replies (replies.flatMap fun reply => (Frame.ofText reply).toOption.getD []) := by
    intro replies fit
    induction replies with
    | nil => exact .none _
    | cons reply replies ih =>
        obtain ⟨first, rest⟩ := List.forall_mem_cons.mp fit
        cases fits : Frame.ofText reply with
        | ok frame =>
            rw [List.flatMap_cons, fits]
            exact .reply reply frame replies _ fits (ih rest)
        | error cause =>
            rw [fits] at first
            cases first
  refine ⟨⟨by simp [answering], ?_⟩, ?_, ?_⟩
  · intro script member
    obtain ⟨replies, -, rfl⟩ := List.mem_map.mp member
    simp
  · intro command member
    cases fits : Frame.ofText command.write with
    | ok frame => exact ⟨frame, rfl⟩
    | error cause =>
        have sent := sendable command member
        rw [fits] at sent
        cases sent
  · unfold answering
    dsimp only
    clear sendable
    induction commands with
    | nil => trivial
    | cons command commands ih =>
        obtain ⟨first, rest⟩ := List.forall_mem_cons.mp readable
        exact ⟨framed _ first, ih rest⟩

namespace Selection

/-- The numbers of rows in a selection are such as 64 bits hold with their signs. -/
def Held : Selection → Prop
  | .row index => Signed index
  | .slice bounds => ∀ bound ∈ [bounds.start, bounds.stop, bounds.step].reduceOption, Signed bound
  | _ => True

def Beyond (length : Nat) : Selection → Prop
  | .row index => length ≤ index
  | _ => False

instance (length : Nat) (selection : Selection) : Decidable (selection.Beyond length) := by
  unfold Beyond
  split <;> infer_instance

end Selection

namespace Column

open Table (amount)

variable (session : Session) {engine : Engine} (column : Column)

def selectCommands (length : Nat) : Selection → List Json
  | .row index => column.rowCommands length index
  | selection => if selection.asks then [column.command "nrows" []] else []

structure Truthful (engine : Engine) (length : Nat) (selection : Selection) : Prop where
  fits : Signed length
  held : selection.Held
  rows : engine.Counts column length
  row : ∀ index, selection = .row index →
    Distinct length (Slice.placed length index).toNat ∧
      column.Counted engine length (Slice.placed length index).toNat

theorem selectWithLength_row (index : Int) (length : Nat) (fits : Signed length)
    (signed : Signed index) :
    column.selectWithLength (.row index) (.finite length) =
      if Slice.placed length index < 0 then .error outOfBounds
      else .ok (column.rowAt (Slice.placed length index).toNat) := by
  change ((Selection.row index).known (.finite length)).map
    (fun rows => column.subselect (.column rows.column)) = _
  rw [Selection.known_row index length fits signed]
  by_cases before : Slice.placed length index < 0
  · rw [if_pos before, if_pos before]
    rfl
  · rw [if_neg before, if_neg before, rowAt, Int.toNat_of_nonneg (Int.not_lt.mp before)]
    rfl

/-- The row that can be reached is the one that is selected, but for numbers behind the last row. -/
theorem reach_row (index : Int) (length : Nat) (fits : Signed length) (signed : Signed index) :
    reach ((rowNumbered? length index).map column.rowAt) =
      if length ≤ index then .error outOfBounds
      else column.selectWithLength (.row index) (.finite length) := by
  rw [selectWithLength_row column index length fits signed]
  by_cases before : Slice.placed length index < 0
  · have early : ¬ (length : Int) ≤ index := by
      unfold Slice.placed at before
      split at before <;> omega
    rw [rowNumbered?_of_before length index before, if_neg early, if_pos before]
    rfl
  · obtain ⟨row, placed⟩ := Int.eq_ofNat_of_zero_le (Int.not_lt.mp before)
    have late : (length : Int) ≤ index ↔ ¬ row < length := by
      unfold Slice.placed at placed
      split at placed <;> omega
    rw [rowNumbered?_of_placed length index row placed, if_neg before, placed, Int.toNat_natCast]
    by_cases inside : row < length
    · rw [if_pos inside, if_neg (by simpa [late] using inside)]
      rfl
    · rw [if_neg inside, if_pos (late.mpr inside)]
      rfl

theorem converses_select_other (length : Nat) (selection : Selection)
    (counts : engine.Counts column length) (other : ∀ index, selection ≠ .row index) :
    Converses session.port engine (column.selectCommands length selection)
      (column.selectWithLength selection (.finite length)) (column.select session selection) := by
  have resolved := selection.converses_resolve (.finite length) _ _
    (column.converses_rowsForSelection session length counts)
  have chosen :=
    Client.converses_map _ (fun rows => column.subselect (.column rows.column)) _ _ resolved
  cases selection with
  | row index => exact absurd rfl (other index)
  | slice bounds => exact chosen
  | mask mask => exact chosen
  | numbers numbers => exact chosen

/--
Against an engine that counts truthfully, a selection comes to the same column or the same error as
it does without asking, unless it is a row number behind the last row. Then the engine shows that
there is no such row, but nothing shows it where the length is known beforehand.
-/
theorem selections_agree_within (length : Nat) (selection : Selection)
    (truthful : column.Truthful engine length selection) :
    Converses session.port engine (column.selectCommands length selection)
      (if selection.Beyond length then .error outOfBounds
        else column.selectWithLength selection (.finite length))
      (column.select session selection) ∧
    ∀ index, selection = .row index →
      ((∃ chosen, column.selectWithLength selection (.finite length) = .ok chosen) ↔
        -(length : Int) ≤ index) ∧
      (length ≤ index → column.selectWithLength selection (.finite length) =
        .ok (column.rowAt index.toNat)) := by
  by_cases numbered : ∃ index, selection = .row index
  · obtain ⟨index, rfl⟩ := numbered
    have signed : Signed index := truthful.held
    obtain ⟨distinct, counted⟩ := truthful.row index rfl
    have selected :=
      column.converses_select_row session length index truthful.fits signed distinct counted
    rw [reach_row column index length truthful.fits signed] at selected
    refine ⟨selected, ?_⟩
    rintro _ ⟨⟩
    rw [selectWithLength_row column index length truthful.fits signed]
    have placed : Slice.placed length index < 0 ↔ ¬ -(length : Int) ≤ index := by
      unfold Slice.placed
      split <;> omega
    refine ⟨?_, ?_⟩
    · simp only [placed]
      split <;> simp_all
    · intro behind
      have forward : ¬ index < 0 := by omega
      rw [Slice.placed, if_neg forward, if_neg forward]
  · have other : ∀ index, selection ≠ .row index := fun index same => numbered ⟨index, same⟩
    have inside : ¬ selection.Beyond length := by
      cases selection with
      | row index => exact absurd rfl (other index)
      | _ => exact id
    rw [if_neg inside]
    exact ⟨column.converses_select_other session length selection truthful.rows other,
      fun index same => absurd same (other index)⟩

def firstRow? (column : Json) : Option Float := do
  match ← (← column.field? "operand2_").field? "start_" with
  | .float start => start
  | _ => none

def lender : Engine := fun command =>
  match (command.field? "col_").bind firstRow? with
  | none => ["Found!", "3"]
  | some start => ["Found!", if start < 3 then "1" else "0"]

theorem counted_lender (row : Nat) (fits : row < 2 ^ 63)
    (told : lender ((amount.rowAt row).command "nrows" []) =
      ["Found!", toString (onlyRow 3 row).length]) :
    amount.Counted lender 3 row := by
  refine ⟨⟨"3", [], by decide +kernel, by decide +kernel⟩, ?_⟩
  intro picked same
  rw [rows?_single 3 row (.inl (by decide)) fits] at same
  obtain rfl := Option.some.inj same
  refine ⟨_, [], told, ?_⟩
  unfold onlyRow
  split
  next =>
    change Length.parse (toString 1) = .ok (.finite 1)
    decide +kernel
  next => decide +kernel

theorem selections_agree_within_last :
    amount.Truthful lender 3 (.row (-1)) ∧
    (∃ last, amount.select {} (.row (-1)) (Pipeline.answering [["Found!", "3"], ["Found!", "1"]]) =
      (amount.selectWithLength (.row (-1)) (.finite 3), last)) ∧
    ∃ chosen, amount.selectWithLength (.row (-1)) (.finite 3) = .ok chosen := by
  have truthful : amount.Truthful lender 3 (.row (-1)) := by
    have counted := counted_lender 2 (by decide) (by decide +kernel)
    refine ⟨by decide, show Signed (-1) by decide, counted.rows, ?_⟩
    rintro _ ⟨⟩
    exact ⟨.inl (by decide), counted⟩
  obtain ⟨converses, reached⟩ := selections_agree_within {} amount 3 (.row (-1)) truthful
  obtain ⟨last, events, done, -⟩ := converses _
    (Pipeline.answers_answering lender _ (by decide +kernel) (by decide +kernel))
  have asked : (amount.selectCommands 3 (.row (-1))).map lender =
      [["Found!", "3"], ["Found!", "1"]] := by decide +kernel
  rw [asked] at done
  exact ⟨truthful, ⟨last, done⟩, (reached (-1) rfl).1.mpr (by decide)⟩

/-- The sixth of three rows is selected where the length is known, but not where it is asked for. -/
theorem known_length_goes_unchecked :
    ¬ ∀ (session : Session) (engine : Engine) (column : Column) (length : Nat)
      (selection : Selection), column.Truthful engine length selection →
        Converses session.port engine (column.selectCommands length selection)
          (column.selectWithLength selection (.finite length))
          (column.select session selection) := by
  intro claim
  have counted := counted_lender 5 (by decide) (by decide +kernel)
  have signed : Signed 3 ∧ Signed 5 := by decide
  have truthful : amount.Truthful lender 3 (.row 5) := by
    refine ⟨signed.1, signed.2, counted.rows, ?_⟩
    rintro _ ⟨⟩
    exact ⟨.inl (by decide), counted⟩
  have answers := Pipeline.answers_answering lender (amount.selectCommands 3 (.row 5))
    (by decide +kernel) (by decide +kernel)
  obtain ⟨_, -, agreed, -⟩ := claim {} lender amount 3 (.row 5) truthful _ answers
  obtain ⟨_, -, done, -⟩ :=
    amount.converses_select_row {} 3 5 signed.1 signed.2 (.inl (by decide)) counted _ answers
  rw [agreed] at done
  cases done

end Column

end RelationalLearning
