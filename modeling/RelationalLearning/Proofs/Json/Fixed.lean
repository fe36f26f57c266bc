import RelationalLearning.Proofs.Json.Covered

namespace RelationalLearning.Json

/-- Every field of the name, anywhere in the document, has the value. -/
def Fixes (name : String) (value document : Json) : Prop :=
  ∀ inner, Within inner document → ∀ present, inner.field? name = some present → present = value

def FixedField (name : String) (value : Json) (field : String × Json) : Prop :=
  Fixes name value field.2 ∧ (field.1 = name → field.2 = value)

variable {name : String} {value : Json}

theorem fixes_leaf (document : Json) (flat : ∀ items, document ≠ .array items)
    (plain : ∀ fields, document ≠ .object fields) : Fixes name value document := by
  intro inner within present found
  cases within with
  | here =>
      cases document with
      | object fields => exact absurd rfl (plain fields)
      | _ => cases found
  | item _ items => exact absurd rfl (flat items)
  | field _ fields => exact absurd rfl (plain fields)

@[simp]
theorem fixes_null : Fixes name value .null := fixes_leaf _ (by simp) (by simp)

@[simp]
theorem fixes_bool (truth : Bool) : Fixes name value (.bool truth) := fixes_leaf _ (by simp) (by simp)

@[simp]
theorem fixes_string (text : String) : Fixes name value (.string text) :=
  fixes_leaf _ (by simp) (by simp)

@[simp]
theorem fixes_nat (number : Nat) : Fixes name value (.nat number) :=
  fixes_leaf _ (by simp [nat]) (by simp [nat])

@[simp]
theorem fixes_number (number : Float) : Fixes name value (.number number) := by
  unfold Json.number
  split
  · exact fixes_leaf _ (by simp) (by simp)
  · exact fixes_null

@[simp]
theorem fixes_texts (texts : List String) : Fixes name value (.texts texts) := by
  intro inner within present found
  cases within with
  | here => cases found
  | item item _ member within =>
      obtain ⟨text, -, rfl⟩ := List.mem_map.mp member
      exact fixes_string text inner within present found

theorem fixes_object (fields : List (String × Json))
    (each : ∀ field ∈ fields, FixedField name value field) : Fixes name value (.object fields) := by
  intro inner within present found
  cases within with
  | here => exact (each _ (Index.mem_of_lookup name present fields found)).2 rfl
  | field entry _ member within => exact (each entry member).1 inner within present found

theorem fixes_record (fields : List (String × Json))
    (each : ∀ field ∈ fields, FixedField name value field) : Fixes name value (.record fields) :=
  fixes_object _ fun field member => each field (Index.mem_of_mem_ofList fields field member)

theorem field?_set (document value : Json) (name : String) :
    (document.set name value).field? name = some value := by
  cases document with
  | object fields => exact (Index.lookup_insert name name value fields).trans (if_pos rfl)
  | _ => simp [set, field?_record]

theorem fixes_set (document : Json) (fixed : Fixes name value document)
    (alone : Fixes name value value) : Fixes name value (document.set name value) := by
  cases document with
  | object fields =>
      intro inner within present found
      cases within with
      | here => exact Option.some.inj (found.symm.trans (field?_set (.object fields) value name))
      | field entry _ member within =>
          rcases Index.mem_insert name value fields entry member with rfl | old
          · exact alone inner within present found
          · exact fixed inner (.field inner entry fields old within) present found
  | _ => exact fixes_record _ (by simpa [FixedField] using alone)

end RelationalLearning.Json
