import Mathlib.Data.List.Nodup
import RelationalLearning.Proofs.Json.Field

namespace RelationalLearning

section

variable {α : Type}

theorem Index.mem_insert (name : String) (value : α) (index : Index α) (entry : String × α)
    (member : entry ∈ Index.insert name value index) : entry = (name, value) ∨ entry ∈ index := by
  induction index with
  | nil => exact .inl (by simpa [Index.insert] using member)
  | cons first index ih =>
      obtain ⟨present, old⟩ := first
      rw [Index.insert] at member
      split at member
      · rcases List.mem_cons.mp member with same | later
        · exact .inl same
        · exact .inr (List.mem_cons_of_mem _ later)
      · split at member
        · exact List.mem_cons.mp member
        · rcases List.mem_cons.mp member with same | later
          · exact .inr (by simp [same])
          · rcases ih later with same | older
            · exact .inl same
            · exact .inr (List.mem_cons_of_mem _ older)

theorem Index.mem_of_mem_ofList (entries : List (String × α)) (entry : String × α)
    (member : entry ∈ Index.ofList entries) : entry ∈ entries := by
  suffices grown : ∀ index : Index α,
      entry ∈ entries.foldl (fun index entry => Index.insert entry.1 entry.2 index) index →
        entry ∈ index ∨ entry ∈ entries by
    rcases grown [] member with old | new
    · cases old
    · exact new
  clear member
  induction entries with
  | nil => exact fun index member => .inl member
  | cons first entries ih =>
      intro index member
      rcases ih _ member with inserted | later
      · rcases Index.mem_insert first.1 first.2 index entry inserted with same | old
        · exact .inr (by simp [same])
        · exact .inl old
      · exact .inr (List.mem_cons_of_mem _ later)

theorem Index.mem_of_lookup (name : String) (value : α) (index : Index α)
    (found : index.lookup name = some value) : (name, value) ∈ index := by
  induction index with
  | nil => cases found
  | cons entry index ih =>
      rw [Index.lookup_cons] at found
      split at found
      next same =>
        obtain rfl := Option.some.inj found
        simp [same]
      next => exact List.mem_cons_of_mem _ (ih found)

theorem Index.lookup_of_mem (name : String) (value : α) (index : Index α)
    (distinct : index.names.Nodup) (member : (name, value) ∈ index) :
    index.lookup name = some value := by
  induction index with
  | nil => cases member
  | cons entry index ih =>
      obtain ⟨present, first⟩ := entry
      obtain ⟨absent, rest⟩ := List.nodup_cons.mp distinct
      rw [Index.lookup_cons]
      rcases List.mem_cons.mp member with same | later
      · obtain ⟨rfl, rfl⟩ := Prod.mk.inj same
        exact if_pos rfl
      · have other : name ≠ present := by
          rintro rfl
          exact absent (List.mem_map.mpr ⟨(name, value), later, rfl⟩)
        rw [if_neg other, ih rest later]

end

namespace Json

inductive Within : Json → Json → Prop
  | here (document : Json) : Within document document
  | item (inner item : Json) (items : List Json) (member : item ∈ items)
      (within : Within inner item) : Within inner (.array items)
  | field (inner : Json) (entry : String × Json) (fields : List (String × Json))
      (member : entry ∈ fields) (within : Within inner entry.2) : Within inner (.object fields)

theorem Within.trans (inner middle outer : Json) (first : Within inner middle)
    (second : Within middle outer) : Within inner outer := by
  induction second with
  | here => exact first
  | item item items member _ ih => exact .item inner item items member ih
  | field entry fields member _ ih => exact .field inner entry fields member ih

theorem within_field (inner document value : Json) (name : String)
    (found : document.field? name = some value) (within : Within inner value) :
    Within inner document := by
  cases document with
  | object fields =>
      exact .field inner _ fields (Index.mem_of_lookup name value fields found) within
  | _ => cases found

theorem field?_record_of_mem (fields : List (String × Json)) (name : String) (value : Json)
    (distinct : (fields.map (·.1)).Nodup) (member : (name, value) ∈ fields) :
    (record fields).field? name = some value := by
  rw [field?_record]
  apply Index.lookup_of_mem
  · rw [Index.names, List.map_reverse]
    exact List.nodup_reverse.mpr distinct
  · exact List.mem_reverse.mpr member

theorem within_record (inner : Json) (fields : List (String × Json))
    (plain : ∀ entries, inner ≠ .object entries) (distinct : (fields.map (·.1)).Nodup) :
    Within inner (record fields) ↔ ∃ field ∈ fields, Within inner field.2 := by
  constructor
  · intro within
    cases within with
    | here => exact absurd rfl (plain _)
    | field entry _ member within =>
        exact ⟨entry, Index.mem_of_mem_ofList fields entry member, within⟩
  · rintro ⟨⟨name, value⟩, member, within⟩
    exact within_field inner _ value name (field?_record_of_mem fields name value distinct member)
      within

theorem depth_record_le (fields : List (String × Json)) (bound : Nat)
    (each : ∀ field ∈ fields, field.2.depth ≤ bound) : (record fields).depth ≤ bound + 1 :=
  Nat.succ_le_succ (depthFields_le _ bound fun field member =>
    each field (Index.mem_of_mem_ofList fields field member))

/-- The name of the data frame under all views that a description lays over it. -/
inductive RootOf : Json → String → Prop
  | frame (description : Json) (name : String)
      (of_kind : description.field? "type_" = some (.string "DataFrame"))
      (of_name : description.field? "name_" = some (.string name)) : RootOf description name
  | view (description base : Json) (name : String)
      (of_kind : description.field? "type_" = some (.string "View"))
      (below : description.field? "base_" = some base) (root : RootOf base name) :
      RootOf description name

/-- Every view that is described in the document is one on the given data frames. -/
def Covered (frames : List String) (document : Json) : Prop :=
  ∀ description, Within description document →
    description.field? "type_" = some (.string "View") → ∃ root ∈ frames, RootOf description root

def CoveredField (frames : List String) (field : String × Json) : Prop :=
  Covered frames field.2 ∧ (field.1 = "type_" → field.2 ≠ .string "View")

variable {frames : List String}

theorem Covered.mono {more : List String} {document : Json} (covered : Covered frames document)
    (wider : frames ⊆ more) : Covered more document := by
  intro description within of_kind
  obtain ⟨root, member, found⟩ := covered description within of_kind
  exact ⟨root, wider member, found⟩

theorem covered_leaf (document : Json) (leaf : ∀ name, document.field? name = none)
    (alone : ∀ inner, Within inner document → inner = document) : Covered frames document := by
  intro description within of_kind
  obtain rfl := alone description within
  rw [leaf] at of_kind
  cases of_kind

@[simp]
theorem covered_null : Covered frames .null :=
  covered_leaf _ (fun _ => rfl) fun inner within => by cases within; rfl

@[simp]
theorem covered_bool (value : Bool) : Covered frames (.bool value) :=
  covered_leaf _ (fun _ => rfl) fun inner within => by cases within; rfl

@[simp]
theorem covered_int (value : Int) : Covered frames (.int value) :=
  covered_leaf _ (fun _ => rfl) fun inner within => by cases within; rfl

@[simp]
theorem covered_float (value : Float) : Covered frames (.float value) :=
  covered_leaf _ (fun _ => rfl) fun inner within => by cases within; rfl

@[simp]
theorem covered_string (value : String) : Covered frames (.string value) :=
  covered_leaf _ (fun _ => rfl) fun inner within => by cases within; rfl

@[simp]
theorem covered_nat (value : Nat) : Covered frames (.nat value) := covered_int _

@[simp]
theorem covered_number (value : Float) : Covered frames (.number value) := by
  rw [number]
  split
  · exact covered_float value
  · exact covered_null

theorem covered_array (items : List Json) (each : ∀ item ∈ items, Covered frames item) :
    Covered frames (.array items) := by
  intro description within of_kind
  cases within with
  | here => cases of_kind
  | item item _ member within => exact each item member description within of_kind

@[simp]
theorem covered_map {α : Type} (write : α → Json) (values : List α)
    (each : ∀ value, Covered frames (write value)) :
    Covered frames (.array (values.map write)) := by
  apply covered_array
  intro item member
  obtain ⟨value, -, rfl⟩ := List.mem_map.mp member
  exact each value

@[simp]
theorem covered_texts (values : List String) : Covered frames (.texts values) :=
  covered_map _ values covered_string

theorem covered_object (fields : List (String × Json))
    (each : ∀ field ∈ fields, CoveredField frames field) : Covered frames (.object fields) := by
  intro description within of_kind
  cases within with
  | here =>
      have member := Index.mem_of_lookup "type_" _ fields of_kind
      exact absurd rfl ((each _ member).2 rfl)
  | field entry _ member within => exact (each entry member).1 description within of_kind

theorem covered_record (fields : List (String × Json))
    (each : ∀ field ∈ fields, CoveredField frames field) : Covered frames (.record fields) := by
  apply covered_object
  intro field member
  exact each field (Index.mem_of_mem_ofList fields field member)

theorem covered_view (fields : List (String × Json)) (root : String) (member : root ∈ frames)
    (found : RootOf (.record fields) root) (each : ∀ field ∈ fields, Covered frames field.2) :
    Covered frames (.record fields) := by
  intro description within of_kind
  cases within with
  | here => exact ⟨root, member, found⟩
  | field entry _ inside within =>
      exact each entry (Index.mem_of_mem_ofList fields entry inside) description within of_kind

theorem covered_set (document value : Json) (name : String) (plain : Covered [] document)
    (field : CoveredField [] (name, value)) : Covered [] (document.set name value) := by
  cases document with
  | object fields =>
      intro description within of_kind
      cases within with
      | here =>
          have found : (Index.insert name value fields).lookup "type_" = some (.string "View") :=
            of_kind
          rw [Index.lookup_insert] at found
          split at found
          next same => exact absurd (Option.some.inj found) (field.2 same.symm)
          next =>
            obtain ⟨root, member, -⟩ := plain (.object fields) (.here _) found
            cases member
      | field entry _ member within =>
          rcases Index.mem_insert name value fields entry member with rfl | old
          · exact field.1 description within of_kind
          · exact plain description (.field description entry fields old within) of_kind
  | _ =>
      apply covered_record
      simpa using field

end Json
end RelationalLearning
