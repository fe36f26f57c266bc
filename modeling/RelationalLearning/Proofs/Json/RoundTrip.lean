import Mathlib.Data.List.DropRight
import Mathlib.Data.List.TakeWhile
import RelationalLearning.Proofs.Index
import RelationalLearning.Proofs.Json.Covered
import RelationalLearning.Proofs.Json.Lexeme

namespace RelationalLearning.Json

@[simp]
theorem skipSpace_skipSpace (text : List Char) : skipSpace (skipSpace text) = skipSpace text :=
  List.dropWhile_idempotent _ _

theorem readValue?_skipSpace (fuel : Nat) (text : List Char) :
    readValue? fuel (skipSpace text) = readValue? fuel text := by
  cases fuel with
  | zero => rfl
  | succ fuel =>
      unfold readValue?
      rw [skipSpace_skipSpace]

theorem readItems?_skipSpace (fuel : Nat) (text : List Char) :
    readItems? fuel (skipSpace text) = readItems? fuel text := by
  cases fuel with
  | zero => rfl
  | succ fuel => simp only [readItems?, readValue?_skipSpace]

theorem skipSpace_append (blank : List Char) (spaces : ∀ c ∈ blank, isSpace c = true) (c : Char)
    (other : isSpace c = false) (rest : List Char) :
    skipSpace (blank ++ c :: rest) = c :: rest := by
  rw [skipSpace, List.dropWhile_append_of_pos spaces]
  simp [other]

/-- What is written is the document, wherever so many levels may be nested. -/
def Stands (document : Json) (written : Written) : Prop :=
  ∀ levels, document.depth < levels → written.settled? levels = some document

/--
A text is read as a document, whatever stands behind it and does not continue it; blanks at its end
may be left.
-/
def Reads (text : List Char) (document : Json) : Prop :=
  ∃ written blank, (∀ c ∈ blank, isSpace c = true) ∧ Stands document written ∧
    ∀ fuel rest, 2 * text.length ≤ fuel → Stops rest →
      readValue? fuel (text ++ rest) = some (written, blank ++ rest)

theorem parse?_of_reads (text : String) (document : Json)
    (shallow : document.depth < Written.levelBound) (reads : Reads text.toList document) :
    parse? text = some document := by
  obtain ⟨written, blank, spaces, settled, read⟩ := reads
  have whole := read (2 * text.toList.length + 2) [] (by omega) stops_nil
  rw [List.append_nil, List.append_nil] at whole
  have nothing : skipSpace blank = [] := List.dropWhile_eq_nil_iff.mpr spaces
  simp [parse?, written?, whole, nothing, Written.document?, settled _ shallow]

/-- Where nothing behind a text plays a part, it is enough to read it in front of everything. -/
theorem reads_exactly (opening : Char) (text : List Char) (document : Json) (written : Written)
    (settled : Stands document written)
    (read : ∀ fuel rest, 2 * text.length ≤ fuel →
      readValue? (fuel + 1) (opening :: (text ++ rest)) = some (written, rest)) :
    Reads (opening :: text) document := by
  refine ⟨written, [], by simp, settled, ?_⟩
  intro fuel rest enough _
  rw [List.length_cons] at enough
  obtain ⟨fuel, rfl⟩ := Nat.exists_eq_succ_of_ne_zero (n := fuel) (by omega)
  exact read fuel rest (by omega)

theorem reads_null : Reads (write .null).toList .null :=
  reads_exactly 'n' ['u', 'l', 'l'] _ (.leaf (some .null)) (fun _ _ => rfl) fun _ _ _ => rfl

theorem reads_bool (value : Bool) : Reads (write (.bool value)).toList (.bool value) := by
  cases value with
  | true =>
      exact reads_exactly 't' ['r', 'u', 'e'] _ (.leaf (some (.bool true))) (fun _ _ => rfl)
        fun _ _ _ => rfl
  | false =>
      exact reads_exactly 'f' ['a', 'l', 's', 'e'] _ (.leaf (some (.bool false))) (fun _ _ => rfl)
        fun _ _ _ => rfl

theorem reads_string (text : String) : Reads (write (.string text)).toList (.string text) := by
  rw [write, toList_quote]
  refine reads_exactly '"' _ _ (.leaf (some (.string text))) (fun _ _ => rfl) ?_
  intro fuel rest _
  obtain ⟨behind, split, read⟩ := readQuoted?_quote text rest
  have skipped : skipSpace ('"' :: behind) = '"' :: behind := rfl
  rw [toList_quote, List.cons_append] at split
  rw [split, readValue?, skipped]
  simp [read]

theorem reads_number (text : String) (value : Json) (numeral : value.asFloat?.isSome)
    (exact : parse? text = some value) : Reads text.toList value := by
  obtain ⟨written, found, settled⟩ := Option.bind_eq_some_iff.mp exact
  obtain rfl := leaf_of_numeral written value settled numeral
  obtain ⟨⟨other, blank⟩, read, closed⟩ := Option.bind_eq_some_iff.mp found
  obtain ⟨empty, rfl⟩ : skipSpace blank = [] ∧ other = .leaf (some value) := by
    simpa [Option.ite_none_right_eq_some] using closed
  -- alone the text is read up to blanks, and these stay in front of what follows
  have number := number_of_readValue? _ text.toList blank value read numeral
  obtain ⟨c, more, skipped, start⟩ := start_of_readNumber? _ _ number
  refine ⟨.leaf (some value), blank, List.dropWhile_eq_nil_iff.mp empty, fun _ _ => rfl, ?_⟩
  intro fuel rest enough stops
  have some : text.toList ≠ [] := by
    intro none
    simp [none, skipSpace] at skipped
  have long := List.length_pos_of_ne_nil some
  obtain ⟨fuel, rfl⟩ := Nat.exists_eq_succ_of_ne_zero (n := fuel) (by omega)
  have extended : skipSpace (text.toList ++ rest) = c :: (more ++ rest) := by
    rw [skipSpace] at skipped ⊢
    rw [List.dropWhile_append, skipped]
    rfl
  rw [skipped] at number
  have whole := readNumber?_append _ rest blank _ stops number
  rw [readValue?_number fuel _ c (more ++ rest) extended start]
  simp only [List.cons_append] at whole
  rw [whole]
  rfl

def joined (closing : Char) : List (List Char) → List Char
  | [] => [closing]
  | [text] => text ++ [closing]
  | text :: next :: rest => text ++ ',' :: joined closing (next :: rest)

theorem toList_intercalate (closing : Char) (texts : List String) :
    (",".intercalate texts).toList ++ [closing] = joined closing (texts.map String.toList) := by
  match texts with
  | [] => rfl
  | [text] => simp [joined]
  | text :: next :: rest =>
      have further := toList_intercalate closing (next :: rest)
      rw [String.intercalate_cons_cons, List.map_cons, List.map_cons, joined, ← List.map_cons,
        ← further]
      simp

theorem stops_joined (mark : Char) (rest : List Char)
    (closing : mark = ',' ∨ mark = ']' ∨ mark = '\x7d') : Stops (mark :: rest) := by
  apply stops_cons
  rcases closing with rfl | rfl | rfl <;> decide

/-- Texts between commas are read together, if each is read up to the mark behind it. -/
theorem read_joined {α β : Type} (closing : Char) (text : α → List Char)
    (read : Nat → List Char → Option (List β × List Char)) (stands : α → β → Prop)
    (items : List α) (filled : items ≠ [])
    (each : ∀ item ∈ items, ∃ written, stands item written ∧
      ∀ fuel rest, 2 * (text item).length ≤ fuel →
        read (fuel + 1) (text item ++ closing :: rest) = some ([written], rest) ∧
        read (fuel + 1) (text item ++ ',' :: rest) =
          (read fuel rest).map fun (others, behind) => (written :: others, behind)) :
    ∃ writtens, List.Forall₂ stands items writtens ∧
      ∀ fuel rest, 2 * (joined closing (items.map text)).length ≤ fuel →
        read fuel (joined closing (items.map text) ++ rest) = some (writtens, rest) := by
  -- the last item is told from the others by the mark behind it
  induction items with
  | nil => exact absurd rfl filled
  | cons item items ih =>
      obtain ⟨⟨written, same, first⟩, others⟩ := List.forall_mem_cons.mp each
      cases items with
      | nil =>
          refine ⟨[written], .cons same .nil, ?_⟩
          intro fuel rest enough
          simp only [List.map_cons, List.map_nil, joined, List.length_append,
            List.length_singleton] at enough
          obtain ⟨fuel, rfl⟩ := Nat.exists_eq_succ_of_ne_zero (n := fuel) (by omega)
          simpa [joined] using (first fuel rest (by omega)).1
      | cons next items =>
          obtain ⟨writtens, pairs, further⟩ := ih (by simp) others
          refine ⟨written :: writtens, .cons same pairs, ?_⟩
          intro fuel rest enough
          simp only [List.map_cons, joined, List.length_append, List.length_cons] at enough
          obtain ⟨fuel, rfl⟩ := Nat.exists_eq_succ_of_ne_zero (n := fuel) (by omega)
          have second := further fuel rest (by simp only [List.map_cons]; omega)
          have whole :=
            (first fuel (joined closing ((next :: items).map text) ++ rest) (by omega)).2
          rw [second] at whole
          simpa [joined] using whole

theorem settledItems?_eq (items : List Json) (writtens : List Written)
    (pairs : List.Forall₂ Stands items writtens) (levels : Nat)
    (deep : depthItems items < levels) : Written.settledItems? levels writtens = some items := by
  induction pairs with
  | nil => rfl
  | cons first _ ih =>
      obtain ⟨low, lower⟩ := Nat.max_lt.mp deep
      simp [Written.settledItems?, first levels low, ih lower]

theorem settledFields?_eq (fields : List (String × Json))
    (writtens : List (Option String × Written))
    (pairs : List.Forall₂ (fun field written => written.1 = some field.1 ∧ Stands field.2 written.2)
      fields writtens) (levels : Nat) (deep : depthFields fields < levels) :
    Written.settledFields? levels writtens = some fields := by
  induction pairs with
  | nil => rfl
  | cons first _ ih =>
      obtain ⟨low, lower⟩ := Nat.max_lt.mp deep
      simp [Written.settledFields?, first.1, first.2 levels low, ih lower]

theorem stands_array (items : List Json) (writtens : List Written)
    (pairs : List.Forall₂ Stands items writtens) : Stands (.array items) (.array writtens) := by
  intro levels deep
  rw [depth] at deep
  rw [Written.settled?, if_neg (by omega), settledItems?_eq items writtens pairs _ (by omega)]
  rfl

theorem stands_object (fields : List (String × Json)) (writtens : List (Option String × Written))
    (ordered : Index.Ordered fields)
    (pairs : List.Forall₂ (fun field written => written.1 = some field.1 ∧ Stands field.2 written.2)
      fields writtens) : Stands (.object fields) (.object writtens) := by
  intro levels deep
  rw [depth] at deep
  rw [Written.settled?, if_neg (by omega), settledFields?_eq fields writtens pairs _ (by omega),
    Option.map_some, record, Index.ofList_of_ordered fields ordered]

theorem readItems?_joined (items : List Json) (filled : items ≠ [])
    (each : ∀ item ∈ items, Reads item.write.toList item) :
    ∃ writtens, List.Forall₂ Stands items writtens ∧
      ∀ fuel rest, 2 * (joined ']' (items.map fun item => item.write.toList)).length ≤ fuel →
        readItems? fuel (joined ']' (items.map fun item => item.write.toList) ++ rest) =
          some (writtens, rest) := by
  refine read_joined ']' _ readItems? Stands items filled fun item member => ?_
  obtain ⟨written, blank, spaces, stands, read⟩ := each item member
  refine ⟨written, stands, fun fuel rest enough => ?_⟩
  have behind (mark : Char) (plain : isSpace mark = false) :=
    skipSpace_append blank spaces mark plain rest
  constructor
  · have first := read fuel (']' :: rest) enough (stops_joined _ _ (by simp))
    simp [readItems?, first, behind ']' (by decide)]
  · have first := read fuel (',' :: rest) enough (stops_joined _ _ (by simp))
    simp only [readItems?, first, behind ',' (by decide), Option.bind_eq_bind, Option.bind_some]
    cases readItems? fuel rest <;> rfl

def writeField (field : String × Json) : List Char :=
  (quote field.1).toList ++ ':' :: field.2.write.toList

theorem readFields?_quote (fuel : Nat) (name : String) (text after rest : List Char)
    (written : Written) (read : readValue? fuel text = some (written, after)) :
    (skipSpace after = '\x7d' :: rest →
      readFields? (fuel + 1) ((quote name).toList ++ ':' :: text) =
        some ([(some name, written)], rest)) ∧
    (skipSpace after = ',' :: rest →
      readFields? (fuel + 1) ((quote name).toList ++ ':' :: text) =
        (readFields? fuel rest).map fun (others, behind) =>
          ((some name, written) :: others, behind)) := by
  obtain ⟨behind, split, named⟩ := readQuoted?_quote name (':' :: text)
  have quoted : skipSpace ('"' :: behind) = '"' :: behind := rfl
  have colon : skipSpace (':' :: text) = ':' :: text := rfl
  simp only [split, readFields?, quoted, named, colon, read, Option.bind_eq_bind, Option.bind_some,
    Option.map_some, String.ofList_toList]
  constructor
  · intro closed
    rw [closed]
    rfl
  · intro comma
    simp only [comma]
    cases readFields? fuel rest <;> rfl

theorem readFields?_joined (fields : List (String × Json)) (filled : fields ≠ [])
    (each : ∀ field ∈ fields, Reads field.2.write.toList field.2) :
    ∃ writtens, List.Forall₂
        (fun field written => written.1 = some field.1 ∧ Stands field.2 written.2) fields writtens ∧
      ∀ fuel rest, 2 * (joined '\x7d' (fields.map writeField)).length ≤ fuel →
        readFields? fuel (joined '\x7d' (fields.map writeField) ++ rest) =
          some (writtens, rest) := by
  refine read_joined '\x7d' writeField readFields? _ fields filled fun field member => ?_
  obtain ⟨written, blank, spaces, stands, read⟩ := each field member
  refine ⟨(some field.1, written), ⟨rfl, stands⟩, fun fuel rest enough => ?_⟩
  have shorter : 2 * field.2.write.toList.length ≤ fuel := by
    simp only [writeField, List.length_append, List.length_cons] at enough
    omega
  have behind (mark : Char) (plain : isSpace mark = false) :=
    skipSpace_append blank spaces mark plain rest
  rw [writeField, List.append_assoc, List.append_assoc, List.cons_append, List.cons_append]
  constructor
  · have first := read fuel ('\x7d' :: rest) shorter (stops_joined _ _ (by simp))
    exact (readFields?_quote fuel _ _ _ rest written first).1 (behind _ (by decide))
  · have first := read fuel (',' :: rest) shorter (stops_joined _ _ (by simp))
    exact (readFields?_quote fuel _ _ _ rest written first).2 (behind _ (by decide))

theorem writeItems_eq (items : List Json) : writeItems items = items.map write := by
  induction items with
  | nil => rfl
  | cons item items ih => rw [writeItems, ih, List.map_cons]

theorem writeFields_eq (fields : List (String × Json)) :
    (writeFields fields).map String.toList = fields.map writeField := by
  induction fields with
  | nil => rfl
  | cons field fields ih => simp [writeFields, writeField, ih]

theorem toList_write_array (items : List Json) :
    (write (.array items)).toList =
      '[' :: joined ']' (items.map fun item => item.write.toList) := by
  have texts := toList_intercalate ']' (writeItems items)
  rw [writeItems_eq, List.map_map] at texts
  simp only [write, String.toList_append, writeItems_eq]
  simpa [Function.comp_def] using texts

theorem toList_write_object (fields : List (String × Json)) :
    (write (.object fields)).toList = '\x7b' :: joined '\x7d' (fields.map writeField) := by
  have texts := toList_intercalate '\x7d' (writeFields fields)
  rw [writeFields_eq] at texts
  simpa [write] using texts

theorem readFields?_skipSpace (fuel : Nat) (text : List Char) :
    readFields? fuel (skipSpace text) = readFields? fuel text := by
  cases fuel with
  | zero => rfl
  | succ fuel => simp only [readFields?, skipSpace_skipSpace]

theorem readFields?_nil (fuel : Nat) : readFields? fuel [] = none := by
  cases fuel <;> rfl

theorem readFields?_brace (fuel : Nat) (rest : List Char) :
    readFields? fuel ('\x7d' :: rest) = none := by
  cases fuel <;> rfl

theorem readItems?_bracket (fuel : Nat) (rest : List Char) :
    readItems? fuel (']' :: rest) = none := by
  rcases fuel with _ | _ | fuel
  · rfl
  · rfl
  · have bracket : skipSpace (']' :: rest) = ']' :: rest := rfl
    have number : readNumber? (']' :: rest) = none := rfl
    simp [readItems?, readValue?, bracket, number]

theorem readValue?_bracket (fuel : Nat) (text rest : List Char) (items : List Written)
    (read : readItems? fuel text = some (items, rest)) :
    readValue? (fuel + 1) ('[' :: text) = some (.array items, rest) := by
  have bracket : skipSpace ('[' :: text) = '[' :: text := rfl
  rw [← readItems?_skipSpace] at read
  simp only [readValue?, bracket]
  split
  next further empty =>
    rw [empty, readItems?_bracket] at read
    cases read
  next => rw [read]; rfl

theorem reads_array (items : List Json) (each : ∀ item ∈ items, Reads item.write.toList item) :
    Reads (write (.array items)).toList (.array items) := by
  rw [toList_write_array]
  cases items with
  | nil =>
      exact reads_exactly '[' [']'] _ (.array []) (stands_array [] [] .nil) fun _ _ _ => rfl
  | cons item items =>
      obtain ⟨writtens, pairs, read⟩ := readItems?_joined (item :: items) (by simp) each
      refine reads_exactly '[' _ _ (.array writtens) (stands_array _ writtens pairs) ?_
      intro fuel rest enough
      exact readValue?_bracket fuel _ rest writtens (read fuel rest enough)

theorem readValue?_brace (fuel : Nat) (text rest : List Char)
    (fields : List (Option String × Written))
    (read : readFields? fuel text = some (fields, rest)) :
    readValue? (fuel + 1) ('\x7b' :: text) = some (.object fields, rest) := by
  have brace : skipSpace ('\x7b' :: text) = '\x7b' :: text := rfl
  rw [← readFields?_skipSpace] at read
  cases skipped : skipSpace text with
  | nil =>
      rw [skipped, readFields?_nil] at read
      cases read
  | cons mark behind =>
      have field : mark ≠ '\x7d' := by
        rintro rfl
        rw [skipped, readFields?_brace] at read
        cases read
      rw [skipped] at read
      simp [readValue?, brace, skipped, field, read]

theorem reads_object (fields : List (String × Json)) (ordered : Index.Ordered fields)
    (each : ∀ field ∈ fields, Reads field.2.write.toList field.2) :
    Reads (write (.object fields)).toList (.object fields) := by
  rw [toList_write_object]
  cases fields with
  | nil =>
      exact reads_exactly '\x7b' ['\x7d'] _ (.object []) (stands_object [] [] ordered .nil)
        fun _ _ _ => rfl
  | cons field fields =>
      obtain ⟨writtens, pairs, read⟩ := readFields?_joined (field :: fields) (by simp) each
      refine reads_exactly '\x7b' _ _ (.object writtens)
        (stands_object _ writtens ordered pairs) ?_
      intro fuel rest enough
      exact readValue?_brace fuel _ rest writtens (read fuel rest enough)

/-- Every number in a document is read back from its own text, and the fields stand in order. -/
structure Legible (document : Json) : Prop where
  exact : ∀ inner, Within inner document → inner.asFloat?.isSome →
    parse? inner.write = some inner
  ordered : ∀ fields, Within (.object fields) document → Index.Ordered fields

theorem Legible.within (inner document : Json) (legible : Legible document)
    (within : Within inner document) : Legible inner :=
  ⟨fun number deeper => legible.exact number (deeper.trans _ _ _ within),
    fun fields deeper => legible.ordered fields (deeper.trans _ _ _ within)⟩

theorem legible_leaf (document : Json) (alone : ∀ inner, Within inner document → inner = document)
    (plain : ∀ fields, document ≠ .object fields)
    (exact : document.asFloat?.isSome → parse? document.write = some document) :
    Legible document := by
  constructor
  · intro inner within
    rw [alone inner within]
    exact exact
  · intro fields within
    exact absurd (alone _ within).symm (plain fields)

theorem legible_null : Legible .null :=
  legible_leaf _ (fun _ within => by cases within; rfl) (by simp) (by simp [asFloat?])

theorem legible_string (text : String) : Legible (.string text) :=
  legible_leaf _ (fun _ within => by cases within; rfl) (by simp) (by simp [asFloat?])

theorem legible_float (value : Float)
    (exact : parse? (write (.float value)) = some (.float value)) : Legible (.float value) :=
  legible_leaf _ (fun _ within => by cases within; rfl) (by simp) fun _ => exact

theorem legible_array (items : List Json) (each : ∀ item ∈ items, Legible item) :
    Legible (.array items) := by
  constructor
  · intro inner within numeral
    cases within with
    | here => cases numeral
    | item item _ member within => exact (each item member).exact inner within numeral
  · intro fields within
    cases within with
    | item item _ member within => exact (each item member).ordered fields within

theorem legible_record (fields : List (String × Json))
    (each : ∀ field ∈ fields, Legible field.2) : Legible (.record fields) := by
  constructor
  · intro inner within numeral
    cases within with
    | here => cases numeral
    | field entry _ member within =>
        exact (each entry (Index.mem_of_mem_ofList _ _ member)).exact inner within numeral
  · intro inner within
    cases within with
    | here => exact Index.ordered_ofList fields
    | field entry _ member within =>
        exact (each entry (Index.mem_of_mem_ofList _ _ member)).ordered inner within

mutual
theorem reads_write : ∀ document : Json, Legible document → Reads document.write.toList document
  | .null, _ => reads_null
  | .bool value, _ => reads_bool value
  | .int _, legible => reads_number _ _ rfl (legible.exact _ (.here _) rfl)
  | .float _, legible => reads_number _ _ rfl (legible.exact _ (.here _) rfl)
  | .string text, _ => reads_string text
  | .array items, legible => reads_array items (reads_items items fun item member =>
      legible.within item _ (.item item item items member (.here item)))
  | .object fields, legible => reads_object fields (legible.ordered fields (.here _))
      (reads_fields fields fun field member =>
        legible.within field.2 _ (.field field.2 field fields member (.here field.2)))

theorem reads_items : ∀ items : List Json, (∀ item ∈ items, Legible item) →
    ∀ item ∈ items, Reads item.write.toList item
  | [], _ => by simp
  | item :: items, legible => by
      obtain ⟨first, others⟩ := List.forall_mem_cons.mp legible
      exact List.forall_mem_cons.mpr ⟨reads_write item first, reads_items items others⟩

theorem reads_fields : ∀ fields : List (String × Json), (∀ field ∈ fields, Legible field.2) →
    ∀ field ∈ fields, Reads field.2.write.toList field.2
  | [], _ => by simp
  | field :: fields, legible => by
      obtain ⟨first, others⟩ := List.forall_mem_cons.mp legible
      exact List.forall_mem_cons.mpr ⟨reads_write field.2 first, reads_fields fields others⟩
end

/-- A legible document that is not nested too deep is read back from its text. -/
theorem parse?_write (document : Json) (legible : Legible document)
    (shallow : document.depth < Written.levelBound) : parse? document.write = some document :=
  parse?_of_reads _ document shallow (reads_write document legible)

theorem parse?_of_asFloat? (text : String) (value : Float)
    (number : (parse? text).bind asFloat? = some value)
    (broken : (parse? text).bind asInt? = none) : parse? text = some (.float value) := by
  obtain ⟨document, read, found⟩ := Option.bind_eq_some_iff.mp number
  rw [read] at broken ⊢
  cases document with
  | float other => exact congrArg _ (congrArg _ (Option.some.inj found))
  | int _ => cases broken
  | _ => cases found

end RelationalLearning.Json
