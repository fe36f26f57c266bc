import Mathlib.Data.List.Forall2
import RelationalLearning.Proofs.Appearance
import RelationalLearning.Proofs.Index
import RelationalLearning.Proofs.Source.LocalTable
import RelationalLearning.Source.Records

namespace RelationalLearning

namespace Records

def value? (record : Record) (name : String) : Option Json :=
  (record.lookup name).filter fun value => !value.isNull

inductive Counts : Json → Float → Prop
  | whole (value : Int) : Counts (.int value) (Float.ofInt value)
  | number (value : Float) : Counts (.float value) value
  | yes : Counts (.bool true) 1.0
  | no : Counts (.bool false) 0.0

inductive Spells : Json → String → Prop
  | text (value : String) : Spells (.string value) value
  | written (value : Json) (other : ∀ text, value ≠ .string text) : Spells value value.write

structure Numeric (records : List Record) (name : String) : Prop where
  present : ∃ record ∈ records, (value? record name).isSome
  numbers : ∀ record ∈ records, ∀ value ∈ value? record name, ∃ number, Counts value number

/-- A column holds what the records have under a name, one cell for every record. -/
inductive Transposed (records : List Record) (name : String) : LocalColumn → Prop
  | float (cells : List (Option Float)) (numeric : Numeric records name)
    (same : List.Forall₂ (fun record => Option.Rel Counts (value? record name)) records cells) :
    Transposed records name (.float cells)
  | string (cells : List (Option String)) (other : ¬ Numeric records name)
    (same : List.Forall₂ (fun record => Option.Rel Spells (value? record name)) records cells) :
    Transposed records name (.string cells)

theorem Transposed.length_eq {records : List Record} {name : String} {column : LocalColumn}
    (transposed : Transposed records name column) : column.length = records.length := by
  cases transposed with
  | float cells numeric same => exact same.length_eq.symm
  | string cells other same => exact same.length_eq.symm

theorem lookup_eq (record : Record) (name : String) :
    (record.lookup name).getD .null = (value? record name).getD .null := by
  unfold value?
  cases record.lookup name with
  | none => rfl
  | some value =>
      cases value <;> rfl

theorem not_null (record : Record) (name : String) (value : Json)
    (present : value? record name = some value) : value ≠ .null := by
  rintro rfl
  simp [value?, Option.filter_eq_some_iff, Json.isNull] at present

theorem isNumeric_iff (value : Json) :
    isNumeric value = true ↔ value = .null ∨ ∃ number, Counts value number := by
  cases value with
  | null => simp [isNumeric]
  | int value => exact ⟨fun _ => .inr ⟨_, .whole value⟩, fun _ => rfl⟩
  | float value => exact ⟨fun _ => .inr ⟨_, .number value⟩, fun _ => rfl⟩
  | bool value =>
      refine ⟨fun _ => .inr ?_, fun _ => rfl⟩
      cases value with
      | true => exact ⟨_, .yes⟩
      | false => exact ⟨_, .no⟩
  | string _ | array _ | object _ =>
      refine ⟨fun numeric => (Bool.false_ne_true numeric).elim, ?_⟩
      rintro (⟨⟨⟩⟩ | ⟨_, ⟨⟩⟩)

theorem counts_number? (value : Json) (number : Float) (counts : Counts value number) :
    number? value = some number := by
  cases counts <;> rfl

theorem spells_text? (value : Json) (present : value ≠ .null) :
    ∃ text, text? value = some text ∧ Spells value text := by
  cases value with
  | null => exact absurd rfl present
  | string text => exact ⟨text, rfl, .text text⟩
  | bool _ | int _ | float _ | array _ | object _ => exact ⟨_, rfl, .written _ (by rintro _ ⟨⟩)⟩

theorem numeric_iff (records : List Record) (name : String) :
    ((cells records name).all isNumeric && (cells records name).any fun cell => !cell.isNull) = true ↔
      Numeric records name := by
  rw [cells, List.all_map, List.any_map, Bool.and_eq_true, List.all_eq_true, List.any_eq_true]
  simp only [Function.comp_apply, lookup_eq]
  constructor
  · rintro ⟨numbers, record, member, present⟩
    refine ⟨⟨record, member, ?_⟩, ?_⟩
    · cases found : value? record name with
      | none => simp [found, Json.isNull] at present
      | some value => rfl
    · intro record member value found
      have fits := numbers record member
      rw [found, Option.getD_some, isNumeric_iff] at fits
      exact fits.resolve_left (not_null record name value found)
  · rintro ⟨⟨record, member, present⟩, numbers⟩
    refine ⟨?_, record, member, ?_⟩
    · intro record member
      cases found : value? record name with
      | none => rfl
      | some value => exact (isNumeric_iff value).mpr (.inr (numbers record member value found))
    · obtain ⟨value, found⟩ := Option.isSome_iff_exists.mp present
      have real := not_null record name value found
      rw [found, Option.getD_some]
      cases value <;> simp_all [Json.isNull]

theorem transposed_column (records : List Record) (name : String) :
    Transposed records name (column (cells records name)) := by
  unfold column
  split
  next numeric =>
    have numeric := (numeric_iff records name).mp numeric
    refine .float _ numeric ?_
    rw [cells, List.map_map, List.forall₂_map_right_iff, List.forall₂_same]
    intro record member
    rw [Function.comp_apply, lookup_eq]
    cases found : value? record name with
    | none => exact .none
    | some value =>
        obtain ⟨number, counts⟩ := numeric.numbers record member value found
        rw [Option.getD_some, counts_number? value number counts]
        exact .some counts
  next other =>
    refine .string _ (fun numeric => other ((numeric_iff records name).mpr numeric)) ?_
    rw [cells, List.map_map, List.forall₂_map_right_iff, List.forall₂_same]
    intro record member
    rw [Function.comp_apply, lookup_eq]
    cases found : value? record name with
    | none => exact .none
    | some value =>
        obtain ⟨text, told, spells⟩ := spells_text? value (not_null record name value found)
        rw [Option.getD_some, told]
        exact .some spells

theorem names_eq (records : List Record) :
    names records = (records.flatMap Index.names).eraseDups := by
  rw [← Appearance.foldl_eq_eraseDups, List.foldl_flatMap, names]
  refine congrArg (fun step => records.foldl step []) (funext fun seen => funext fun record => ?_)
  rw [Index.names, List.foldl_map]

/-- Sorting the names of records changes nothing, because records are kept in order. -/
theorem names_sorted (records : List Record) (ordered : ∀ record ∈ records, Index.Ordered record) :
    records.flatMap (fun record => (Index.names record).mergeSort) =
      records.flatMap Index.names := by
  refine List.flatMap_congr fun record member => List.mergeSort_of_pairwise ?_
  refine (ordered record member).imp ?_
  intro first second less
  exact decide_eq_true (Std.le_of_lt less)

/--
Records are turned into columns without loss. The names of all records become columns, each once,
in the order in which they first appear, where the names of a record are in order; and a column has
one cell for every record, with the number or the text that the record has under the name.
-/
theorem records_are_transposed (records : List Record)
    (ordered : ∀ record ∈ records, Index.Ordered record) :
    ∃ made : LocalTable, table records = .ok made ∧
      made.columns.map (·.1) =
        (records.flatMap fun record => (Index.names record).mergeSort).eraseDups ∧
      ∀ name column, (name, column) ∈ made.columns →
        column.length = records.length ∧ Transposed records name column := by
  let columns := (names records).map fun name => (name, column (cells records name))
  have listed : columns.map (·.1) = names records := by
    simp [columns, Function.comp_def]
  have distinct : (columns.map (·.1)).Nodup := by
    rw [listed, names_eq]
    exact Appearance.nodup_eraseDups _
  have even : ∀ entry ∈ columns, entry.2.length = records.length := by
    intro entry member
    obtain ⟨name, -, rfl⟩ := List.mem_map.mp member
    exact (transposed_column records name).length_eq
  refine ⟨⟨columns⟩, LocalTable.ofColumns_of_even columns records.length distinct even, ?_, ?_⟩
  · rw [names_sorted records ordered, listed, names_eq]
  · intro name column member
    obtain ⟨name, -, ⟨⟩⟩ := List.mem_map.mp member
    exact ⟨(transposed_column records name).length_eq, transposed_column records name⟩

def orders : List Record :=
  [[("amount", .int 1), ("id", .string "a")], [("flag", .bool true), ("id", .string "b")]]

theorem records_are_transposed_orders : (∀ record ∈ orders, Index.Ordered record) ∧
    ∃ made : LocalTable, table orders = .ok made ∧
      made.columns.map (·.1) = ["amount", "id", "flag"] ∧
      ("flag", .float [none, some 1.0]) ∈ made.columns := by
  have ordered : ∀ record ∈ orders, Index.Ordered record := by
    unfold Index.Ordered
    decide
  obtain ⟨made, done, listed, columns⟩ := records_are_transposed orders ordered
  rw [names_sorted orders ordered] at listed
  have named : made.columns.map (·.1) = ["amount", "id", "flag"] := listed.trans (by decide)
  refine ⟨ordered, made, done, named, ?_⟩
  have shown : "flag" ∈ made.columns.map (·.1) := by simp [named]
  obtain ⟨⟨name, column⟩, member, rfl⟩ := List.mem_map.mp shown
  obtain ⟨-, transposed⟩ := columns _ column member
  cases transposed with
  | string cells other => exact absurd ((numeric_iff orders "flag").mp rfl) other
  | float cells numeric same =>
      obtain ⟨first, others, absent, behind, rfl⟩ := List.forall₂_cons_left_iff.mp same
      obtain ⟨second, rest, present, none, rfl⟩ := List.forall₂_cons_left_iff.mp behind
      obtain rfl := List.forall₂_nil_left_iff.mp none
      change Option.Rel Counts Option.none first at absent
      change Option.Rel Counts (some (.bool true)) second at present
      cases absent
      obtain ⟨⟨⟩⟩ := present
      exact member

end Records
end RelationalLearning
