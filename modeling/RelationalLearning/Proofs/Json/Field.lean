import RelationalLearning.Json.Basic

namespace RelationalLearning

section

variable {α : Type}

theorem Index.lookup_cons (name present : String) (value : α) (index : Index α) :
    List.lookup name ((present, value) :: index) =
      if name = present then some value else index.lookup name := by
  rw [List.lookup_cons]
  by_cases same : name = present
  · simp [same]
  · rw [beq_false_of_ne same, if_neg same]

theorem Index.lookup_insert (name other : String) (value : α) (index : Index α) :
    (Index.insert name value index).lookup other =
      if other = name then some value else index.lookup other := by
  induction index with
  | nil => exact Index.lookup_cons other name value []
  | cons entry index ih =>
      obtain ⟨present, old⟩ := entry
      rw [Index.insert]
      split
      next here =>
        subst here
        simp only [Index.lookup_cons]
        split <;> rfl
      next elsewhere =>
        split
        next => rw [Index.lookup_cons]
        next =>
          simp only [Index.lookup_cons, ih]
          by_cases same : other = name
          · have apart : other ≠ present := by
              rintro rfl
              exact elsewhere same.symm
            rw [if_neg apart, if_pos same, if_pos same]
          · rw [if_neg same, if_neg same]

theorem Index.lookup_ofList (name : String) (entries : List (String × α)) :
    (Index.ofList entries).lookup name = entries.reverse.lookup name := by
  suffices grown : ∀ index : Index α,
      (entries.foldl (fun index entry => Index.insert entry.1 entry.2 index) index).lookup name =
        (entries.reverse ++ index).lookup name by
    simpa [Index.ofList] using grown []
  induction entries with
  | nil => exact fun index => rfl
  | cons entry entries ih =>
      intro index
      obtain ⟨present, value⟩ := entry
      rw [List.foldl_cons, ih, List.reverse_cons, List.append_assoc]
      simp only [List.lookup_append, List.singleton_append, Index.lookup_insert, Index.lookup_cons]

end

namespace Json

theorem field?_record (fields : List (String × Json)) (name : String) :
    (record fields).field? name = fields.reverse.lookup name := Index.lookup_ofList name fields

theorem field?_record_append (front fields : List (String × Json)) (name : String) (value : Json)
    (found : fields.reverse.lookup name = some value) :
    (record (front ++ fields)).field? name = some value := by
  rw [field?_record, List.reverse_append, List.lookup_append, found]
  rfl

theorem set_record (fields : List (String × Json)) (name : String) (value : Json) :
    (record fields).set name value = record (fields ++ [(name, value)]) := by
  simp [record, set, Index.ofList]

theorem depth_le_depthFields (fields : List (String × Json)) (name : String) (value : Json)
    (found : fields.lookup name = some value) : value.depth ≤ depthFields fields := by
  induction fields with
  | nil => exact absurd found (by simp)
  | cons entry fields ih =>
      obtain ⟨present, first⟩ := entry
      rw [Index.lookup_cons] at found
      split at found
      next =>
        obtain rfl := Option.some.inj found
        exact Nat.le_max_left _ _
      next => exact Nat.le_trans (ih found) (Nat.le_max_right _ _)

theorem depth_lt_of_field? (document : Json) (name : String) (value : Json)
    (found : document.field? name = some value) : value.depth < document.depth := by
  cases document with
  | object fields => exact Nat.lt_succ_of_le (depth_le_depthFields fields name value found)
  | _ => exact absurd found (by simp [field?])

theorem depthItems_le (items : List Json) (bound : Nat)
    (each : ∀ item ∈ items, item.depth ≤ bound) : depthItems items ≤ bound := by
  induction items with
  | nil => exact Nat.zero_le _
  | cons item items ih =>
      simp only [List.mem_cons, forall_eq_or_imp] at each
      exact Nat.max_le.mpr ⟨each.1, ih each.2⟩

theorem depthFields_le (fields : List (String × Json)) (bound : Nat)
    (each : ∀ field ∈ fields, field.2.depth ≤ bound) : depthFields fields ≤ bound := by
  induction fields with
  | nil => exact Nat.zero_le _
  | cons field fields ih =>
      simp only [List.mem_cons, forall_eq_or_imp] at each
      exact Nat.max_le.mpr ⟨each.1, ih each.2⟩

end Json
end RelationalLearning
