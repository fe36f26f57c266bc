import RelationalLearning.Proofs.Engine.Plain
import RelationalLearning.Proofs.Table.Described

namespace RelationalLearning

open Client

variable (session : Session)

theorem dotted_ne_view (front back : String) : s!"{front}.{back}" ≠ "View" := by
  intro same
  have mark : '.' ∈ "View".toList := by
    rw [← same]
    simp [toString]
  simp at mark

@[simp]
theorem Length.plain_receive (link : Nat) : Plain (Length.receive link) :=
  plain_bind _ _ (by simp) fun _ => by simp

@[simp]
theorem ColumnContent.plain_receive (link : Nat) : Plain (ColumnContent.receive link) :=
  plain_bind _ _ (by simp) fun _ => by simp

namespace Column

variable (column : Column)

theorem covered_command (suffix : String) (fields : List (String × Json))
    (each : ∀ field ∈ fields, Json.CoveredField [] field) :
    Message.Covered [] (.command (column.command suffix fields)) :=
  Message.covered_command _ _ _ (dotted_ne_view _ _)
    (List.forall_mem_cons.mpr ⟨⟨column.covered_toCommand, by simp⟩, each⟩)

@[simp]
theorem plain_ask (suffix : String) (fields : List (String × Json))
    (each : ∀ field ∈ fields, Json.CoveredField [] field) :
    Plain (session.ask (column.command suffix fields)) :=
  (session.emits_ask _ (column.covered_command suffix fields each)).plain

@[simp]
theorem plain_rows : Plain (column.rows session) := by
  refine plain_bind _ _ ?_ fun link => by simp
  have asks := column.covered_command "nrows" [] (by simp)
  simpa using (session.emits_askExpecting _ found asks).plain

@[simp]
theorem plain_content (start length : Nat) : Plain (column.content session start length) :=
  plain_bind _ _ (by simp) fun _ => by simp

theorem plain_entryAt (index : Int) : Plain (do
    if index < 0 then throw outOfBounds
    let content ← column.content session index.toNat 1
    if content.total ≤ index.toNat && content.total > 0 then throw outOfBounds
    match content.entries with
    | entry :: _ => return entry
    | [] => throw outOfBounds : Client DataError String) := by
  refine plain_unless _ _ _ (plain_bind _ _ (by simp) fun content => ?_)
  split
  · exact plain_unless _ _ _ (plain_pure _)
  · exact plain_unless _ _ _ (plain_throw _)

@[simp]
theorem plain_entry (index : Int) : Plain (column.entry session index) := by
  unfold entry
  dsimp only
  split
  · refine plain_bind _ _ (by simp) fun rows => ?_
    split
    · exact plain_bind _ _ (plain_pure _) fun index => column.plain_entryAt session index
    · exact plain_bind _ _ (plain_throw _) fun index => column.plain_entryAt session index
  · exact plain_bind _ _ (plain_pure _) fun index => column.plain_entryAt session index

@[simp]
theorem plain_batches : Plain (column.batches session) := by
  refine plain_bind _ _ (by simp) fun link => plain_bind _ _ (by simp) fun _ => ?_
  refine plain_bind _ _ (by simp) fun table => ?_
  split
  · exact plain_bind _ _ (by simp) fun _ => by simp
  · simp

@[simp]
theorem plain_floatEntries : Plain (column.floatEntries session) :=
  plain_bind _ _ (by simp) fun _ => by simp

@[simp]
theorem plain_textEntries : Plain (column.textEntries session) :=
  plain_bind _ _ (by simp) fun _ => by simp

@[simp]
theorem plain_truthEntries : Plain (column.truthEntries session) :=
  plain_bind _ _ (by simp) fun _ => by simp

@[simp]
theorem plain_uniqueFloats : Plain (column.uniqueFloats session) :=
  plain_bind _ _ (by simp) fun _ => plain_bind _ _ (by simp) fun _ =>
    plain_bind _ _ (by simp) fun _ => plain_bind _ _ (by simp) fun _ => by simp

@[simp]
theorem plain_uniqueTexts : Plain (column.uniqueTexts session) :=
  plain_bind _ _ (by simp) fun _ => plain_bind _ _ (by simp) fun _ =>
    plain_bind _ _ (by simp) fun _ => plain_bind _ _ (by simp) fun _ => by simp

@[simp]
theorem plain_subroles : Plain (column.subroles session) := by
  unfold subroles
  split
  · simp
  · exact plain_bind _ _ (by simp) fun _ => plain_bind _ _ (by simp) fun _ => by simp

@[simp]
theorem plain_unit : Plain (column.unit session) := by
  unfold unit
  split
  · simp
  · exact plain_bind _ _ (by simp) fun _ => plain_bind _ _ (by simp) fun _ => by simp

@[simp]
theorem plain_withAppendedSubroles (added : List String) :
    Plain (column.withAppendedSubroles session added) :=
  plain_bind _ _ (by simp) fun _ => plain_bind _ _ (by simp) fun _ => by simp

@[simp]
theorem plain_aggregate (aggregate : Aggregate) (label : String) :
    Plain (column.aggregate session aggregate label) := by
  refine plain_bind _ _ ?_ fun link => plain_bind _ _ (by simp) fun _ => ?_
  · have inner : Json.Covered [] (.record [("type_", .string aggregate.name),
        ("col_", column.toCommand), ("as_", .string label)]) := by
      apply Json.covered_record
      cases aggregate <;> simp [Aggregate.name, column.covered_toCommand]
    have other : s!"{column.family.command}.aggregate" ≠ "View" := by
      cases column.family <;> decide
    have asks : Plain (session.ask (column.aggregateCommand aggregate label)) :=
      session.plain_ask _ "" _ other (by simpa using inner)
    simpa using asks
  · refine plain_bind _ _ (by simp) fun matrix => ?_
    split
    · simp
    · simp

end Column

section

variable (rows : Client DataError Length)

theorem plain_liftExcept {ε α : Type} (outcome : Except ε α) :
    Plain (liftM outcome : Client ε α) := by
  cases outcome with
  | ok value => exact plain_pure value
  | error cause => exact plain_throw cause

theorem Slice.plain_resolve (slice : Slice) (plain : Plain rows) : Plain (slice.resolve rows) := by
  refine plain_bind _ _ (plain_liftExcept _) fun step => ?_
  split
  · simp
  · refine plain_bind _ _ plain fun length => ?_
    split
    · exact plain_bind _ _ (plain_liftExcept _) fun _ => by simp
    · exact plain_ite _ _ _ (by simp) (by simp)

theorem plain_resolveRow (index : Int) (plain : Plain rows) : Plain (resolveRow index rows) := by
  have rest (index : Int) : Plain (if index < 0 then throw outOfBounds
      else return .single index : Client DataError Subselection) :=
    plain_ite _ _ _ (by simp) (by simp)
  unfold resolveRow
  dsimp only
  split
  · refine plain_bind _ _ plain fun length => ?_
    split
    · exact plain_bind _ _ (plain_pure _) rest
    · exact plain_bind _ _ (plain_throw _) rest
  · exact plain_bind _ _ (plain_pure _) rest

theorem Selection.plain_resolve (selection : Selection) (plain : Plain rows) :
    Plain (selection.resolve rows) := by
  cases selection with
  | row index => exact plain_resolveRow rows index plain
  | slice bounds => exact bounds.plain_resolve rows plain
  | mask column => exact plain_pure _
  | numbers column => exact plain_ite _ _ _ (by simp) (by simp)

end

@[simp]
theorem Column.plain_select (column : Column) (selection : Selection) :
    Plain (column.select session selection) := by
  have asks : Plain (column.rowsForSelection session) := plain_bind _ _ (by simp) fun _ => by simp
  refine plain_bind _ _ (selection.plain_resolve _ asks) fun rows => ?_
  split
  · exact plain_bind _ _ (by simp) fun length => plain_ite _ _ _ (by simp) (by simp)
  · simp

namespace StoredColumn

variable (column : StoredColumn)

@[simp]
theorem plain_setField (suffix field : String) (value : Json)
    (covered : Json.CoveredField [] (field, value)) :
    Plain (column.setField session suffix field value) := by
  have described : Json.Covered [] (.record [("type_", .string s!"{column.kind.name}.{suffix}"),
      ("df_name_", .string column.frame), ("name_", .string column.name),
      ("role_", .string column.role.name), (field, value)]) := by
    apply Json.covered_record
    have other := dotted_ne_view column.kind.name suffix
    simp only [List.forall_mem_cons]
    exact ⟨by simpa using other, by simp, by simp, by simp, covered, by simp⟩
  have sends := (session.emits_send _ (.inr described)).plain
  simpa [setField] using sends

@[simp]
theorem plain_setSubroles (subroles : List String) :
    Plain (column.setSubroles session subroles) :=
  plain_bind _ _ (by simp) fun _ => by simp

@[simp]
theorem plain_setUnit (unit : String) : Plain (column.setUnit session unit) :=
  column.plain_setField session _ _ _ (by simp)

end StoredColumn

end RelationalLearning
