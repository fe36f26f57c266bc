import RelationalLearning.Json.Printer
import RelationalLearning.Proofs.Index
import RelationalLearning.Proofs.Text.Utf8

namespace RelationalLearning

def Text.size (text : String) : Nat := (encode text).length

@[simp]
theorem Text.size_append (first second : String) :
    size (first ++ second) = size first + size second := by
  simp [size, encode_append]

namespace Json

open Text (size)

def weight : List (String × Json) → Nat
  | [] => 0
  | (name, value) :: rest => size (quote name) + size value.write + 2 + weight rest

theorem size_intercalate (first : String × Json) (rest : List (String × Json)) :
    size (",".intercalate (writeFields (first :: rest))) + 1 = weight (first :: rest) := by
  have colon : size ":" = 1 := by decide +kernel
  have comma : size "," = 1 := by decide +kernel
  induction rest generalizing first with
  | nil =>
      simp only [writeFields, weight, String.intercalate_singleton, Text.size_append, colon]
      omega
  | cons second rest ih =>
      have joined : ",".intercalate (writeFields (first :: second :: rest)) =
          quote first.1 ++ ":" ++ first.2.write ++ "," ++
            ",".intercalate (writeFields (second :: rest)) := by
        simp [writeFields, String.intercalate_cons_cons]
      rw [joined, weight, ← ih second]
      simp only [Text.size_append, colon, comma]
      omega

theorem size_object (fields : List (String × Json)) (some : fields ≠ []) :
    size (write (.object fields)) = weight fields + 1 := by
  have opening : size "\x7b" = 1 := by decide +kernel
  have closing : size "\x7d" = 1 := by decide +kernel
  cases fields with
  | nil => exact absurd rfl some
  | cons first rest =>
      rw [write, ← size_intercalate]
      simp only [Text.size_append, opening, closing]
      omega

theorem weight_perm (fields others : List (String × Json)) (same : fields.Perm others) :
    weight fields = weight others := by
  induction same with
  | nil => rfl
  | cons field _ ih => rw [weight, weight, ih]
  | swap first second fields =>
      simp only [weight]
      omega
  | trans _ _ first second => exact first.trans second

theorem size_record (fields : List (String × Json)) (some : fields ≠ [])
    (distinct : (fields.map (·.1)).Nodup) :
    size (write (record fields)) = weight fields + 1 := by
  rw [record, size_object, weight_perm _ _ (Index.perm_ofList fields distinct)]
  intro none
  obtain ⟨field, rest, rfl⟩ := List.exists_cons_of_ne_nil some
  have member := (Index.mem_names_ofList field.1 (field :: rest)).mpr (by simp)
  simp [none] at member

end Json

end RelationalLearning
