import Mathlib.Data.List.Nodup
import RelationalLearning.Proofs.Outcome
import RelationalLearning.Source.LocalTable

namespace RelationalLearning.LocalTable

structure Fit (columns : List (String × LocalColumn)) : Prop where
  distinct : (columns.map (·.1)).Nodup
  even : ∀ first ∈ columns, ∀ second ∈ columns, first.2.length = second.2.length

theorem Fit.of_append (front back : List (String × LocalColumn)) (fit : Fit (front ++ back)) :
    Fit front := by
  refine ⟨?_, ?_⟩
  · have distinct := fit.distinct
    rw [List.map_append] at distinct
    exact distinct.of_append_left
  · intro first one second other
    exact fit.even first (List.mem_append_left back one) second (List.mem_append_left back other)

theorem fit_concat (columns : List (String × LocalColumn)) (name : String) (column : LocalColumn)
    (fit : Fit columns) :
    Fit (columns ++ [(name, column)]) ↔
      name ∉ columns.map (·.1) ∧ ∀ entry ∈ columns, entry.2.length = column.length := by
  constructor
  · rintro ⟨distinct, even⟩
    rw [List.map_append, List.nodup_append] at distinct
    refine ⟨fun present => distinct.2.2 name present name (by simp) rfl, ?_⟩
    intro entry member
    exact even entry (by simp [member]) (name, column) (by simp)
  · rintro ⟨fresh, same⟩
    refine ⟨?_, ?_⟩
    · rw [List.map_append]
      refine fit.distinct.append (List.nodup_singleton name) ?_
      simpa using fresh
    · have each : ∀ entry ∈ columns ++ [(name, column)], entry.2.length = column.length := by
        simpa [or_imp, forall_and] using same
      intro first one second other
      rw [each first one, each second other]

theorem push_eq_ok (table grown : LocalTable) (name : String) (column : LocalColumn)
    (fit : Fit table.columns) :
    table.push name column = .ok grown ↔
      Fit (table.columns ++ [(name, column)]) ∧ grown = ⟨table.columns ++ [(name, column)]⟩ := by
  have taken : (table.columns.any fun other => other.1 = name) = true ↔
      name ∈ table.columns.map (·.1) := by simp
  rw [fit_concat _ _ _ fit, push, Outcome.refused_eq_ok, taken, and_assoc]
  refine and_congr_right fun _ => ?_
  cases columns : table.columns with
  | nil => simp [eq_comm]
  | cons first rest =>
      -- the first column stands for all, because they are equally long
      have same : (∀ entry ∈ first :: rest, entry.2.length = column.length) ↔
          first.2.length = column.length := by
        refine ⟨fun each => each first (by simp), fun same entry member => ?_⟩
        rw [← columns] at member
        rw [fit.even entry member first (by simp [columns]), same]
      rw [same]
      by_cases even : first.2.length = column.length <;> simp [even, eq_comm]

theorem foldlM_push (columns : List (String × LocalColumn)) (table last : LocalTable)
    (fit : Fit table.columns) :
    columns.foldlM (fun table (entry : String × LocalColumn) => table.push entry.1 entry.2) table =
        .ok last ↔
      Fit (table.columns ++ columns) ∧ last = ⟨table.columns ++ columns⟩ := by
  induction columns generalizing table with
  | nil => simp [fit, eq_comm]
  | cons entry columns ih =>
      have whole : table.columns ++ entry :: columns = table.columns ++ [entry] ++ columns := by
        simp
      rw [List.foldlM_cons, Outcome.bind_eq_ok, whole]
      constructor
      · rintro ⟨grown, pushed, rest⟩
        obtain ⟨fits, rfl⟩ := (push_eq_ok table grown entry.1 entry.2 fit).mp pushed
        exact (ih _ fits).mp rest
      · rintro ⟨fits, rfl⟩
        have next := fits.of_append
        exact ⟨_, (push_eq_ok table _ entry.1 entry.2 fit).mpr ⟨next, rfl⟩,
          (ih _ next).mpr ⟨fits, rfl⟩⟩

theorem ofColumns_eq_ok (columns : List (String × LocalColumn)) (table : LocalTable) :
    ofColumns columns = .ok table ↔ Fit columns ∧ table = ⟨columns⟩ :=
  foldlM_push columns {} table ⟨List.nodup_nil, by simp⟩

theorem ofColumns_of_even (columns : List (String × LocalColumn)) (rows : Nat)
    (distinct : (columns.map (·.1)).Nodup) (even : ∀ entry ∈ columns, entry.2.length = rows) :
    ofColumns columns = .ok ⟨columns⟩ := by
  refine (ofColumns_eq_ok columns _).mpr ⟨⟨distinct, ?_⟩, rfl⟩
  intro first one second other
  rw [even first one, even second other]

end RelationalLearning.LocalTable
