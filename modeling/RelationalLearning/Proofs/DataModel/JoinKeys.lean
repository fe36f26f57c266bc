import RelationalLearning.DataModel.Join
import RelationalLearning.Proofs.Text.Pieces

namespace RelationalLearning.JoinKeys

def Clean (key : String) : Prop := Text.contains key Validation.reserved = false

instance (key : String) : Decidable (Clean key) := inferInstanceAs (Decidable (_ = false))

theorem Clean.without (key mark : String) (clean : Clean key)
    (marked : Validation.reserved.toList <:+: mark.toList) : ¬ mark.toList <:+: key.toList := by
  intro within
  exact (Text.contains_eq_false key Validation.reserved).mp clean (marked.trans within)

theorem reserved_in_none : Validation.reserved.toList <:+: none.toList := by decide

theorem reserved_in_opening : Validation.reserved.toList <:+: opening.toList := by decide

theorem reserved_in_separator : Validation.reserved.toList <:+: separator.toList := by decide

def Tellable : List String → Prop
  | [] => True
  | [key] => key ≠ "" ∧ key ≠ none ∧ ∀ inner, key ≠ opening ++ inner ++ closing
  | first :: second :: rest =>
    ∀ key ∈ first :: second :: rest, Text.contains key separator = false

theorem decodeSide_enclosed (inner : String) :
    decodeSide (opening ++ inner ++ closing) = Text.splitOn inner separator := by
  have opened : Text.after? opening (opening ++ inner ++ closing) = some (inner ++ closing) := by
    rw [String.append_assoc]
    exact Text.after?_append opening _
  have marked : ∀ text, Text.after? opening text = Option.none →
      opening ++ inner ++ closing ≠ text := by
    intro text plain same
    rw [same, plain] at opened
    exact absurd opened (by simp)
  have other := marked none (by decide)
  have nonempty := marked "" (by decide)
  simp [decodeSide, nonempty, other, opened, Text.before?_append]

theorem decodeSide_plain (key : String) (nonempty : key ≠ "") (other : key ≠ none)
    (plain : ∀ inner, key ≠ opening ++ inner ++ closing) : decodeSide key = [key] := by
  have unopened : (Text.after? opening key).bind (Text.before? closing) = Option.none := by
    rw [Option.eq_none_iff_forall_ne_some]
    intro inner found
    obtain ⟨rest, start, stop⟩ := Option.bind_eq_some_iff.mp found
    apply plain inner
    rw [(Text.after?_eq_some opening key rest).mp start,
      (Text.before?_eq_some closing rest inner).mp stop, String.append_assoc]
  simp [decodeSide, nonempty, other, unopened]

theorem decodeSide_key_iff (key : String) : decodeSide key = [key] ↔ Tellable [key] := by
  constructor
  · intro read
    refine ⟨?_, ?_, fun inner same => ?_⟩
    · rintro rfl
      exact absurd read (by decide)
    · rintro rfl
      exact absurd read (by decide)
    · -- the pieces joined again are the inner text, so the key would enclose itself
      have cut : Text.splitOn inner separator = [key] := by
        rw [← decodeSide_enclosed, ← same, read]
      have whole : key = inner := by
        simpa [cut, Text.join] using Text.join_splitOn separator inner
      have lengths := congrArg String.length same
      have opened : 0 < opening.length := by decide
      simp only [whole, String.length_append] at lengths
      omega
  · rintro ⟨nonempty, other, plain⟩
    exact decodeSide_plain key nonempty other plain

theorem decodeSide_encodeSide_iff (keys : List String) :
    decodeSide (encodeSide keys) = keys ↔ Tellable keys := by
  match keys with
  | [] => exact iff_of_true (by decide) trivial
  | [key] => exact decodeSide_key_iff key
  | first :: second :: rest =>
      have enclosed : encodeSide (first :: second :: rest) =
          opening ++ Text.join separator (first :: second :: rest) ++ closing := rfl
      rw [enclosed, decodeSide_enclosed]
      exact Text.splitOn_join_iff separator '$' "GETML_JOIN_KEY_SEP".toList (by decide)
        (by decide) (first :: second :: rest) (by simp)

/-- A single key must not be empty; among several it may be. -/
theorem tellable_iff_of_clean (keys : List String) (clean : ∀ key ∈ keys, Clean key) :
    Tellable keys ↔ ∀ key, keys = [key] → key ≠ "" := by
  match keys with
  | [] => exact iff_of_true trivial (by simp)
  | [key] =>
      have own : Clean key := clean key (by simp)
      have other : key ≠ none := by
        rintro rfl
        exact own.without none none reserved_in_none (List.infix_refl _)
      have plain : ∀ inner, key ≠ opening ++ inner ++ closing := by
        rintro inner rfl
        apply own.without _ opening reserved_in_opening
        rw [String.append_assoc, String.toList_append]
        exact (List.prefix_append _ _).isInfix
      simp [Tellable, other, plain]
  | first :: second :: rest =>
      refine iff_of_true (fun key member => ?_) (by simp)
      exact (Text.contains_eq_false key separator).mpr
        ((clean key member).without key separator reserved_in_separator)

theorem decodeSide_encodeSide (keys : List String) (clean : ∀ key ∈ keys, Clean key)
    (single : ∀ key, keys = [key] → key ≠ "") : decodeSide (encodeSide keys) = keys :=
  (decodeSide_encodeSide_iff keys).mpr ((tellable_iff_of_clean keys clean).mpr single)

theorem encodeSide_eq_empty (keys : List String) (empty : encodeSide keys = "") : keys = [""] := by
  match keys with
  | [] => exact absurd empty (by decide)
  | [key] => exact congrArg (fun key => [key]) empty
  | first :: second :: rest =>
      have opened : opening.toList ++
          (Text.join separator (first :: second :: rest) ++ closing).toList = [] := by
        rw [← String.toList_append, ← String.append_assoc]
        exact congrArg String.toList empty
      exact absurd (List.append_eq_nil_iff.mp opened).1 (by decide)

theorem encodeSide_injective (first second : List String) (clean : ∀ key ∈ first, Clean key)
    (others : ∀ key ∈ second, Clean key) (same : encodeSide first = encodeSide second) :
    first = second := by
  by_cases empty : encodeSide second = ""
  · rw [encodeSide_eq_empty first (same.trans empty), encodeSide_eq_empty second empty]
  · have single (keys : List String) (told : encodeSide keys ≠ "") (key : String)
        (only : keys = [key]) : key ≠ "" := by
      rintro rfl
      exact told (congrArg encodeSide only)
    calc first
        = decodeSide (encodeSide first) :=
          (decodeSide_encodeSide first clean (single first (same ▸ empty))).symm
      _ = decodeSide (encodeSide second) := congrArg decodeSide same
      _ = second := decodeSide_encodeSide second others (single second empty)

theorem encode_injective (first second : List (String × String))
    (clean : ∀ pair ∈ first, Clean pair.1 ∧ Clean pair.2)
    (others : ∀ pair ∈ second, Clean pair.1 ∧ Clean pair.2)
    (same : encode first = encode second) : first = second := by
  obtain ⟨lefts, rights⟩ := Prod.mk.inj same
  have lefts : first.map (·.1) = second.map (·.1) :=
    encodeSide_injective _ _ (by simpa using fun a b member => (clean (a, b) member).1)
      (by simpa using fun a b member => (others (a, b) member).1) lefts
  have rights : first.map (·.2) = second.map (·.2) :=
    encodeSide_injective _ _ (by simpa using fun a b member => (clean (b, a) member).2)
      (by simpa using fun a b member => (others (b, a) member).2) rights
  calc first
      = (first.map (·.1)).zip (first.map (·.2)) := by rw [List.zip_map']; simp
    _ = (second.map (·.1)).zip (second.map (·.2)) := by rw [lefts, rights]
    _ = second := by rw [List.zip_map']; simp

theorem decode_eq_ok_iff (left right : String) (on : List (String × String)) :
    decode left right = .ok on ↔
      decodeSide left = on.map (·.1) ∧ decodeSide right = on.map (·.2) := by
  constructor
  · intro read
    simp only [decode] at read
    split at read
    next same =>
      obtain rfl := Except.ok.inj read
      exact ⟨(List.map_fst_zip same.le).symm, (List.map_snd_zip same.ge).symm⟩
    next => exact absurd read (by simp)
  · rintro ⟨lefts, rights⟩
    simp only [decode, lefts, rights, List.length_map, List.zip_map']
    simp

theorem decode_encode_iff (on : List (String × String)) :
    decode (encode on).1 (encode on).2 = .ok on ↔
      Tellable (on.map (·.1)) ∧ Tellable (on.map (·.2)) := by
  rw [decode_eq_ok_iff]
  exact and_congr (decodeSide_encodeSide_iff _) (decodeSide_encodeSide_iff _)

theorem tellable_map_iff (pick : String × String → String) (on : List (String × String))
    (clean : ∀ pair ∈ on, Clean (pick pair)) :
    Tellable (on.map pick) ↔ ∀ pair, on = [pair] → pick pair ≠ "" := by
  rw [tellable_iff_of_clean (on.map pick) (List.forall_mem_map.mpr clean)]
  constructor
  · rintro single pair rfl
    exact single (pick pair) rfl
  · intro single key same
    obtain ⟨pair, rest, rfl, rfl, more⟩ := List.map_eq_cons_iff.mp same
    exact single pair (by rw [List.map_eq_nil_iff.mp more])

/-- Clean pairs are read back, however many they are; only one that stands alone must not have an
empty name. -/
theorem clean_pairs_read_back (on : List (String × String))
    (clean : ∀ pair ∈ on, Clean pair.1 ∧ Clean pair.2) :
    decode (encode on).1 (encode on).2 = .ok on ↔
      ∀ pair, on = [pair] → pair.1 ≠ "" ∧ pair.2 ≠ "" := by
  have lefts := tellable_map_iff (·.1) on fun pair member => (clean pair member).1
  have rights := tellable_map_iff (·.2) on fun pair member => (clean pair member).2
  simp only [decode_encode_iff, lefts, rights, ← forall_and]

def dollars : List (String × String) :=
  [("$", ""), ("", "id$GETM"), ("GETML_JOIN_KEY_SEP", "$$"), ("account$", "GETML_")]

theorem clean_pairs_read_back_dollars :
    (∀ pair ∈ dollars, Clean pair.1 ∧ Clean pair.2) ∧
      decode (encode dollars).1 (encode dollars).2 = .ok dollars := by
  have clean : ∀ pair ∈ dollars, Clean pair.1 ∧ Clean pair.2 := by decide
  exact ⟨clean, (clean_pairs_read_back dollars clean).mpr (by simp [dollars])⟩

end RelationalLearning.JoinKeys
