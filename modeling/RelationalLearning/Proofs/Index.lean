import Mathlib.Data.List.Induction
import Mathlib.Tactic.SplitIfs
import RelationalLearning.Proofs.Json.Field

namespace RelationalLearning.Index

variable {α β : Type}

def Ordered (index : Index α) : Prop := index.names.Pairwise (· < ·)

@[simp]
theorem names_nil : names ([] : Index α) = [] := rfl

@[simp]
theorem names_cons (name : String) (value : α) (index : Index α) :
    names ((name, value) :: index) = name :: names index := rfl

theorem lookup_isSome (name : String) (index : Index α) :
    (index.lookup name).isSome ↔ name ∈ index.names := by
  induction index with
  | nil => simp
  | cons entry index ih =>
      obtain ⟨present, value⟩ := entry
      rw [lookup_cons, names_cons, List.mem_cons, ← ih]
      by_cases same : name = present <;> simp [same]

theorem mem_names_insert (name other : String) (value : α) (index : Index α) :
    other ∈ (insert name value index).names ↔ other = name ∨ other ∈ index.names := by
  rw [← lookup_isSome, lookup_insert, ← lookup_isSome]
  by_cases same : other = name <;> simp [same]

theorem mem_names_ofList (name : String) (entries : List (String × α)) :
    name ∈ (ofList entries).names ↔ name ∈ entries.map (·.1) := by
  rw [← lookup_isSome, lookup_ofList, lookup_isSome]
  simp [names]

theorem names_insert_congr (name : String) (first : α) (second : β) (left : Index α)
    (right : Index β) (same : left.names = right.names) :
    (insert name first left).names = (insert name second right).names := by
  induction left generalizing right with
  | nil =>
      cases right with
      | nil => rfl
      | cons other right => cases same
  | cons entry left ih =>
      cases right with
      | nil => cases same
      | cons other right =>
          obtain ⟨present, old⟩ := entry
          obtain ⟨place, new⟩ := other
          obtain ⟨rfl, rest⟩ : present = place ∧ names left = names right := by simpa using same
          simp only [insert]
          split
          · simp [rest]
          · split <;> simp [rest, ih right rest]

theorem ordered_insert (name : String) (value : α) (index : Index α) (ordered : index.Ordered) :
    (insert name value index).Ordered := by
  induction index with
  | nil => simp [Ordered, insert]
  | cons entry index ih =>
      obtain ⟨present, old⟩ := entry
      obtain ⟨before, rest⟩ : (∀ other ∈ names index, present < other) ∧ Ordered index :=
        List.pairwise_cons.mp ordered
      rw [insert]
      split
      next here =>
        subst here
        exact List.pairwise_cons.mpr ⟨before, rest⟩
      next elsewhere =>
        split
        next smaller =>
          refine List.pairwise_cons.mpr ⟨?_, ordered⟩
          intro other member
          rcases List.mem_cons.mp member with rfl | later
          · exact smaller
          · exact String.lt_trans smaller (before other later)
        next larger =>
          have above : present < name := Std.lt_of_le_of_ne larger fun same => elsewhere same.symm
          refine List.pairwise_cons.mpr ⟨?_, ih rest⟩
          intro other member
          rcases (mem_names_insert name other value index).mp member with rfl | later
          · exact above
          · exact before other later

theorem ordered_ofList (entries : List (String × α)) : (ofList entries).Ordered := by
  suffices grown : ∀ index : Index α, index.Ordered →
      Ordered (entries.foldl (fun index entry => insert entry.1 entry.2 index) index) from
    grown [] List.Pairwise.nil
  induction entries with
  | nil => exact fun index ordered => ordered
  | cons entry entries ih =>
      exact fun index ordered => ih _ (ordered_insert entry.1 entry.2 index ordered)

theorem insert_last (name : String) (value : α) (index : Index α)
    (last : ∀ other ∈ index.names, other < name) :
    insert name value index = index ++ [(name, value)] := by
  induction index with
  | nil => rfl
  | cons entry index ih =>
      obtain ⟨present, old⟩ := entry
      have above : present < name := last present (by simp)
      have other : name ≠ present := by
        rintro rfl
        exact String.lt_irrefl _ above
      have back : ¬ name < present := fun below => String.lt_irrefl _ (String.lt_trans above below)
      have rest := ih fun later member => last later (by simp [member])
      rw [insert, if_neg other, if_neg back, rest]
      rfl

theorem ofList_concat (entries : List (String × α)) (entry : String × α) :
    ofList (entries ++ [entry]) = insert entry.1 entry.2 (ofList entries) := by
  simp [ofList]

theorem ofList_of_ordered (index : Index α) (ordered : index.Ordered) : ofList index = index := by
  induction index using List.reverseRecOn with
  | nil => rfl
  | append_singleton index entry ih =>
      have parts : (names index ++ [entry.1]).Pairwise (· < ·) := by
        simpa [Ordered, names] using ordered
      obtain ⟨before, -, behind⟩ := List.pairwise_append.mp parts
      rw [ofList_concat, ih before]
      exact insert_last _ _ index fun other member => behind other member entry.1 (by simp)

theorem perm_insert (name : String) (value : α) (index : Index α) (new : name ∉ index.names) :
    (insert name value index).Perm ((name, value) :: index) := by
  induction index with
  | nil => rfl
  | cons entry index ih =>
      obtain ⟨other, old⟩ := entry
      rw [names_cons, List.mem_cons, not_or] at new
      rw [insert, if_neg new.1]
      split
      next => rfl
      next => exact ((ih new.2).cons _).trans (.swap _ _ _)

theorem perm_ofList (entries : List (String × α)) (distinct : (entries.map (·.1)).Nodup) :
    (ofList entries).Perm entries := by
  induction entries using List.reverseRecOn with
  | nil => rfl
  | append_singleton entries entry ih =>
      rw [List.map_append, List.nodup_append] at distinct
      have new : entry.1 ∉ (ofList entries).names := by
        rw [mem_names_ofList]
        exact fun present => distinct.2.2 entry.1 present entry.1 (by simp) rfl
      rw [ofList_concat]
      calc
        List.Perm (insert entry.1 entry.2 (ofList entries)) (entry :: ofList entries) :=
          perm_insert _ _ _ new
        List.Perm _ (entry :: entries) := (ih distinct.1).cons entry
        List.Perm _ (entries ++ [entry]) := (List.perm_append_singleton entry entries).symm

theorem insert_map (change : α → β) (name : String) (value : α) (index : Index α) :
    insert name (change value) (index.map (Prod.map id change)) =
      (insert name value index).map (Prod.map id change) := by
  induction index with
  | nil => rfl
  | cons entry index ih =>
      simp only [List.map_cons, Prod.map, id_eq] at ih ⊢
      simp only [insert, ih]
      split_ifs <;> rfl

theorem ofList_map (change : α → β) (entries : List (String × α)) :
    ofList (entries.map (Prod.map id change)) = (ofList entries).map (Prod.map id change) := by
  induction entries using List.reverseRecOn with
  | nil => rfl
  | append_singleton entries entry ih =>
      rw [List.map_append, List.map_singleton, ofList_concat, ofList_concat, ih]
      exact insert_map change entry.1 entry.2 _

end RelationalLearning.Index
