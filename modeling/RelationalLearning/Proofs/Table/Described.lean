import RelationalLearning.Proofs.Json.Covered
import RelationalLearning.Table.View

namespace RelationalLearning

open Json

variable {frames : List String}

theorem ColumnKind.name_ne_view (kind : ColumnKind) : kind.name ≠ "View" := by
  cases kind <;> decide

@[simp]
theorem Literal.covered_toJson (literal : Literal) : Covered frames literal.toJson := by
  cases literal <;> simp [Literal.toJson]

theorem Literal.covered_toCommand (literal : Literal) : Covered frames literal.toCommand := by
  apply covered_record
  simp [CoveredField, ColumnKind.name_ne_view]

theorem StoredColumn.covered_toCommand (column : StoredColumn) :
    Covered frames column.toCommand := by
  apply covered_record
  simp [CoveredField, ColumnKind.name_ne_view]

mutual
theorem Column.covered_toCommand (column : Column) : Covered frames column.toCommand := by
  cases column with
  | stored column => exact column.covered_toCommand
  | view family operator operands detail =>
      rw [Column.toCommand]
      apply covered_record
      have first := operands.covered_fields
      have second := detail.covered_fields
      simp only [List.forall_mem_cons, List.forall_mem_append]
      exact ⟨by simp [CoveredField, ColumnKind.name_ne_view], by simp [CoveredField], first, second⟩

theorem Operands.covered_fields (operands : Operands) :
    ∀ field ∈ operands.fields, CoveredField frames field := by
  cases operands with
  | none => simp [Operands.fields]
  | one first => simp [Operands.fields, CoveredField, first.covered_toCommand]
  | two first second =>
      simp [Operands.fields, CoveredField, first.covered_toCommand, second.covered_toCommand]

theorem Operand.covered_toCommand (operand : Operand) : Covered frames operand.toCommand := by
  cases operand with
  | literal value => exact value.covered_toCommand
  | column inner => exact inner.covered_toCommand

theorem Detail.covered_fields (detail : Detail) :
    ∀ field ∈ detail.fields, CoveredField frames field := by
  cases detail with
  | condition condition => simp [Detail.fields, CoveredField, condition.covered_toCommand]
  | _ => simp [Detail.fields, CoveredField]
end

theorem Column.covered_dated (column : Column) (lastChange : String) :
    Covered frames (column.toCommand.set "last_change_" (.string lastChange)) := by
  have plain : Covered [] (column.toCommand.set "last_change_" (.string lastChange)) :=
    covered_set _ _ _ column.covered_toCommand (by simp [CoveredField])
  exact plain.mono (List.nil_subset frames)

theorem AddedColumn.covered_toCommand (added : AddedColumn) (lastChange : String) :
    Covered frames (added.toCommand lastChange) := by
  apply covered_record
  simp [CoveredField, Column.covered_dated]

theorem DataFrame.rootOf_toCommand (frame : DataFrame) : RootOf frame.toCommand frame.name :=
  .frame _ _ (by rw [DataFrame.toCommand, field?_record]; rfl)
    (by rw [DataFrame.toCommand, field?_record]; rfl)

theorem DataFrame.covered_toCommand (frame : DataFrame) : Covered frames frame.toCommand := by
  apply covered_record
  simp [CoveredField]

namespace Table

theorem kind_toCommand (base : Table) (layer : Layer) :
    (Table.view base layer).toCommand.field? "type_" = some (.string "View") :=
  field?_record_append _ _ _ _ rfl

theorem rootOf_toCommand (table : Table) : RootOf table.toCommand table.root.name := by
  induction table with
  | frame data => exact data.rootOf_toCommand
  | view base layer ih =>
      exact .view _ base.toCommand _ (kind_toCommand base layer)
        (field?_record_append _ _ _ _ rfl) ih

theorem covered_toCommand (table : Table)
    (member : ∀ base layer, table = .view base layer → table.root.name ∈ frames) :
    Covered frames table.toCommand := by
  induction table with
  | frame data => exact data.covered_toCommand
  | view base layer ih =>
      have known : base.root.name ∈ frames := member base layer rfl
      have below : Covered frames base.toCommand := ih fun _ _ _ => known
      refine covered_view _ _ known (Table.view base layer).rootOf_toCommand ?_
      simp only [List.forall_mem_append, List.forall_mem_map]
      refine ⟨⟨?_, ?_⟩, by simp [below]⟩
      · intro added _
        exact added.covered_toCommand _
      · intro rows _
        exact rows.covered_dated _

end Table

end RelationalLearning
