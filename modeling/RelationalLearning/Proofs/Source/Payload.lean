import RelationalLearning.Proofs.Json.RoundTrip
import RelationalLearning.Proofs.Source.LocalTable
import RelationalLearning.Source.Records

namespace RelationalLearning

namespace LocalColumn

/-- A column of numbers has a number, and all of them are finite and read as they are written. -/
inductive Exact : LocalColumn → Prop
  | float (cells : List (Option Float)) (present : ∃ value, some value ∈ cells)
    (finite : ∀ value, some value ∈ cells → value.isFinite = true)
    (read : ∀ value, some value ∈ cells →
      Json.parse? (Json.write (.float value)) = some (.float value)) : Exact (.float cells)
  | string (cells : List (Option String)) : Exact (.string cells)

theorem column_numbers (cells : List (Option Float)) (present : ∃ value, some value ∈ cells)
    (finite : ∀ value, some value ∈ cells → value.isFinite = true) :
    Records.column (cells.map (Json.option Json.number)) = .float cells := by
  have shown (value : Float) (member : some value ∈ cells) : Json.number value = .float value :=
    if_pos (finite value member)
  have numeric : (cells.map (Json.option Json.number)).all Records.isNumeric = true := by
    rw [List.all_map, List.all_eq_true]
    intro cell member
    cases cell with
    | none => rfl
    | some value => simp [Json.option, shown value member, Records.isNumeric]
  have filled : (cells.map (Json.option Json.number)).any (fun cell => !cell.isNull) = true := by
    obtain ⟨value, member⟩ := present
    rw [List.any_map, List.any_eq_true]
    exact ⟨some value, member, by simp [Json.option, shown value member, Json.isNull]⟩
  have same : (cells.map (Json.option Json.number)).map Records.number? = cells := by
    rw [List.map_map]
    refine (List.map_congr_left fun cell member => ?_).trans (List.map_id cells)
    cases cell with
    | none => rfl
    | some value => simp [Json.option, shown value member, Records.number?, Json.asFloat?]
  rw [Records.column, numeric, filled, same]
  rfl

theorem column_texts (cells : List (Option String)) :
    Records.column (cells.map (Json.option .string)) = .string cells := by
  have same : (cells.map (Json.option .string)).map Records.text? = cells := by
    rw [List.map_map]
    refine (List.map_congr_left fun cell _ => ?_).trans (List.map_id cells)
    cases cell <;> rfl
  rw [Records.column, if_neg, same]
  -- a text is no number, even one that looks like a number
  rw [Bool.and_eq_true, List.all_map, List.any_map, List.all_eq_true, List.any_eq_true]
  rintro ⟨numeric, cell, member, filled⟩
  have numeric := numeric cell member
  cases cell with
  | none => cases filled
  | some text => cases numeric

theorem column_toJson (column : LocalColumn) (exact : column.Exact) :
    ∃ cells, column.toJson = .array cells ∧ Records.column cells = column := by
  cases exact with
  | float cells present finite _ => exact ⟨_, rfl, column_numbers cells present finite⟩
  | string cells => exact ⟨_, rfl, column_texts cells⟩

theorem legible_toJson (column : LocalColumn) (exact : column.Exact) :
    Json.Legible column.toJson := by
  cases exact with
  | float cells _ finite read =>
      refine Json.legible_array _ fun item member => ?_
      obtain ⟨cell, present, rfl⟩ := List.mem_map.mp member
      cases cell with
      | none => exact Json.legible_null
      | some value =>
          have finite := finite value present
          rw [Json.option, Json.number, if_pos finite]
          exact Json.legible_float value (read value present)
  | string cells =>
      refine Json.legible_array _ fun item member => ?_
      obtain ⟨cell, -, rfl⟩ := List.mem_map.mp member
      cases cell with
      | none => exact Json.legible_null
      | some text => exact Json.legible_string text

theorem depth_toJson (column : LocalColumn) : column.toJson.depth ≤ 1 := by
  cases column with
  | float cells =>
      refine Nat.succ_le_succ (Json.depthItems_le _ 0 fun item member => ?_)
      obtain ⟨cell, -, rfl⟩ := List.mem_map.mp member
      cases cell with
      | none => rfl
      | some value =>
          rw [Json.option, Json.number]
          split <;> rfl
  | string cells =>
      refine Nat.succ_le_succ (Json.depthItems_le _ 0 fun item member => ?_)
      obtain ⟨cell, -, rfl⟩ := List.mem_map.mp member
      cases cell <;> rfl

end LocalColumn

namespace LocalTable

theorem parse?_toJson (table : LocalTable) (exact : ∀ entry ∈ table.columns, entry.2.Exact) :
    Json.parse? table.toJson.write = some table.toJson := by
  apply Json.parse?_write
  · refine Json.legible_record _ fun field member => ?_
    obtain ⟨entry, present, rfl⟩ := List.mem_map.mp member
    exact entry.2.legible_toJson (exact entry present)
  · have shallow := Json.depth_record_le
      (table.columns.map (Prod.map id LocalColumn.toJson)) 1 fun field member => by
        obtain ⟨entry, -, rfl⟩ := List.mem_map.mp member
        exact entry.2.depth_toJson
    exact Nat.lt_of_le_of_lt shallow (by decide)

theorem toJson_eq (table : LocalTable) :
    table.toJson = .object ((Index.ofList table.columns).map (Prod.map id LocalColumn.toJson)) :=
  congrArg Json.object (Index.ofList_map LocalColumn.toJson table.columns)

theorem tableOfColumns_toJson (columns : List (String × LocalColumn))
    (exact : ∀ entry ∈ columns, entry.2.Exact) :
    Records.tableOfColumns (columns.map (Prod.map id LocalColumn.toJson)) = ofColumns columns := by
  rw [Records.tableOfColumns, ofColumns, List.foldlM_map]
  generalize ({} : LocalTable) = table
  induction columns generalizing table with
  | nil => rfl
  | cons entry columns ih =>
      obtain ⟨first, others⟩ := List.forall_mem_cons.mp exact
      obtain ⟨cells, shown, same⟩ := entry.2.column_toJson first
      simp only [List.foldlM_cons, Prod.map, shown, same, id_eq]
      exact congrArg _ (funext fun grown => ih others grown)

theorem Fit.perm (columns others : List (String × LocalColumn)) (fit : Fit columns)
    (same : others.Perm columns) : Fit others := by
  refine ⟨(same.map _).nodup_iff.mpr fit.distinct, ?_⟩
  intro first one second other
  exact fit.even first (same.mem_iff.mp one) second (same.mem_iff.mp other)

/--
What is sent of a table is read as the same table with its columns sorted by their names: the same
kinds, and the same cells in the same order.
-/
theorem payload_reads_back (columns : List (String × LocalColumn)) (table : LocalTable)
    (built : ofColumns columns = .ok table) (exact : ∀ entry ∈ table.columns, entry.2.Exact) :
    ∃ fields back, Json.parse? table.toJson.write = some (.object fields) ∧
      Records.tableOfColumns fields = .ok back ∧
      back.columns.Perm table.columns ∧
      (back.columns.map (·.1)).Pairwise (· < ·) := by
  obtain ⟨fit, rfl⟩ := (ofColumns_eq_ok columns table).mp built
  have sorted := Index.perm_ofList columns fit.distinct
  have text := (parse?_toJson ⟨columns⟩ exact).trans (congrArg some (toJson_eq _))
  refine ⟨_, ⟨Index.ofList columns⟩, text, ?_, sorted, Index.ordered_ofList columns⟩
  · rw [tableOfColumns_toJson _ fun entry member => exact entry (sorted.mem_iff.mp member)]
    exact (ofColumns_eq_ok _ _).mpr ⟨fit.perm _ _ sorted, rfl⟩

def amounts : List (String × LocalColumn) :=
  [("text", .string [some "1.5", none]), ("amount", .float [some 1.5, none]),
    ("note", .string [none, none])]

theorem payload_reads_back_amounts :
    ofColumns amounts = .ok ⟨amounts⟩ ∧ (∀ entry ∈ amounts, entry.2.Exact) ∧
    ∃ fields back, Json.parse? (toJson ⟨amounts⟩).write = some (.object fields) ∧
      Records.tableOfColumns fields = .ok back ∧ back.columns.Perm amounts ∧
      (back.columns.map (·.1)).Pairwise (· < ·) := by
  have built : ofColumns amounts = .ok ⟨amounts⟩ := rfl
  have number : Json.parse? (Json.write (.float 1.5)) = some (.float 1.5) :=
    Json.parse?_of_asFloat? _ _ (by decide +kernel) (by decide +kernel)
  have exact : ∀ entry ∈ amounts, entry.2.Exact := by
    simp only [amounts, List.forall_mem_cons, List.not_mem_nil, false_implies, implies_true,
      and_true]
    refine ⟨.string _, .float _ ⟨1.5, by simp⟩ ?_ ?_, .string _⟩
    · intro value member
      obtain rfl : value = 1.5 := by simpa using member
      decide +kernel
    · intro value member
      obtain rfl : value = 1.5 := by simpa using member
      exact number
  exact ⟨built, exact, payload_reads_back amounts ⟨amounts⟩ built exact⟩

end LocalTable
end RelationalLearning
