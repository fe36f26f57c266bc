import RelationalLearning.Column.Basic
import RelationalLearning.Proofs.Calendar
import RelationalLearning.Proofs.Column.Named
import RelationalLearning.Proofs.Json.Field
import RelationalLearning.Proofs.Json.Values

namespace RelationalLearning

/-- A literal as commands tell it: moments are numbers of seconds. -/
def Literal.told : Literal → Literal
  | .moment value => .number value.seconds
  | value => value

mutual
/-- An expression as commands tell it: literals are constant columns. -/
def Column.told : Column → Column
  | .stored column => .stored column
  | .view family operator operands detail => .view family operator operands.told detail.told

def Operands.told : Operands → Operands
  | .none => .none
  | .one first => .one first.told
  | .two first second => .two first.told second.told

def Operand.told : Operand → Operand
  | .literal value => .column (.ofLiteral value.told)
  | .column inner => .column inner.told

def Detail.told : Detail → Detail
  | .condition condition => .condition condition.told
  | .constant value => .constant value.told
  | detail => detail
end

def Literal.Finite : Literal → Prop
  | .number value => value.isFinite = true
  | .moment value => value.OnCalendar
  | _ => True

mutual
def Column.Finite : Column → Prop
  | .stored _ => True
  | .view _ _ operands detail => operands.Finite ∧ detail.Finite

def Operands.Finite : Operands → Prop
  | .none => True
  | .one first => first.Finite
  | .two first second => first.Finite ∧ second.Finite

def Operand.Finite : Operand → Prop
  | .literal value => value.Finite
  | .column inner => inner.Finite

def Detail.Finite : Detail → Prop
  | .condition condition => condition.Finite
  | .range start stop step =>
    start.isFinite = true ∧ stop.isFinite = true ∧ step.isFinite = true
  | .constant value => value.Finite
  | _ => True
end

namespace Literal

@[simp]
theorem family_told (value : Literal) : value.told.family = value.family := by cases value <;> rfl

@[simp]
theorem toJson_told (value : Literal) : value.told.toJson = value.toJson := by cases value <;> rfl

theorem toCommand_told (value : Literal) : value.told.toCommand = value.toCommand := by
  rw [toCommand, toCommand, toJson_told, kind, kind, family_told]

def ofJson? : Json → Option Literal
  | .float value => some (.number value)
  | .string value => some (.text value)
  | .bool value => some (.truth value)
  | _ => none

theorem ofJson?_number (value : Float) (finite : value.isFinite = true) :
    ofJson? (Json.number value) = some (.number value) := by
  rw [Json.number, if_pos finite]
  rfl

theorem ofJson?_toJson (value : Literal) (finite : value.Finite) :
    ofJson? value.toJson = some value.told := by
  cases value with
  | number value => exact ofJson?_number value finite
  | moment value => exact ofJson?_number value.seconds (value.isFinite_seconds finite)
  | text value => rfl
  | truth value => rfl

theorem told_of_ofJson? (value read : Literal) (found : ofJson? value.toJson = some read) :
    value.told = read := by
  have number (value : Float) (found : ofJson? (Json.number value) = some read) :
      .number value = read := by
    by_cases finite : value.isFinite = true
    · rw [ofJson?_number value finite] at found
      exact Option.some.inj found
    · rw [Json.number, if_neg finite] at found
      cases found
  cases value with
  | number value => exact number value found
  | moment value => exact number value.seconds found
  | text value => exact Option.some.inj found
  | truth value => exact Option.some.inj found

theorem told_eq_of_toJson (left right : Literal) (finite : left.Finite)
    (same : left.toJson = right.toJson) : left.told = right.told := by
  have read : ofJson? right.toJson = some left.told := by rw [← same, ofJson?_toJson left finite]
  exact (right.told_of_ofJson? left.told read).symm

end Literal

theorem Column.toCommand_ofLiteral (value : Literal) :
    (Column.ofLiteral value).toCommand = value.toCommand := rfl

def Operands.found (operands : Operands) (name : String) : Option Json :=
  operands.fields.reverse.lookup name

def Detail.found (detail : Detail) (name : String) : Option Json := detail.fields.reverse.lookup name

namespace Column

theorem field?_view (family : Family) (operator : Operator) (operands : Operands) (detail : Detail)
    (name : String) :
    (Column.view family operator operands detail).toCommand.field? name =
      (detail.found name).or ((operands.found name).or
        (if name = "operator_" then some (.string operator.name)
          else if name = "type_" then some (.string family.view.name) else none)) := by
  rw [Column.toCommand, Json.field?_record, Detail.found, Operands.found]
  simp only [List.reverse_cons, List.reverse_append, List.lookup_append, List.append_assoc,
    List.singleton_append, Index.lookup_cons, List.lookup_nil]

end Column

theorem Operands.found_other (operands : Operands) (name : String) (other : name ≠ "operand1_")
    (another : name ≠ "operand2_") : operands.found name = Option.none := by
  cases operands <;> simp [found, fields, Index.lookup_cons, other, another]

def Column.Reserved (name : String) : Prop :=
  name = "type_" ∨ name = "operator_" ∨ name = "operand1_" ∨ name = "operand2_"

theorem Detail.found_reserved (detail : Detail) (name : String) (reserved : Column.Reserved name) :
    detail.found name = Option.none := by
  rcases reserved with rfl | rfl | rfl | rfl <;> cases detail <;>
    simp [found, fields, Index.lookup_cons]

namespace Column

theorem view_of_toCommand (family family' : Family) (operator operator' : Operator)
    (operands operands' : Operands) (detail detail' : Detail)
    (same : (Column.view family operator operands detail).toCommand =
      (Column.view family' operator' operands' detail').toCommand) :
    family = family' ∧ operator = operator' ∧
      (∀ name, operands.found name = operands'.found name) ∧
      ∀ name, detail.found name = detail'.found name := by
  have fields (name : String) := congrArg (Json.field? name) same
  simp only [field?_view] at fields
  have types : family.view.name = family'.view.name := by
    simpa [Detail.found_reserved _ "type_" (.inl rfl), Operands.found_other] using fields "type_"
  have operators : operator.name = operator'.name := by
    simpa [Detail.found_reserved _ "operator_" (.inr (.inl rfl)), Operands.found_other] using fields "operator_"
  have operands (name : String) : operands.found name = operands'.found name := by
    by_cases operand : name = "operand1_" ∨ name = "operand2_"
    · have others : name ≠ "operator_" ∧ name ≠ "type_" := by
        rcases operand with rfl | rfl <;> decide
      simpa [Detail.found_reserved _ name (.inr (.inr operand)), others] using fields name
    · obtain ⟨other, another⟩ := not_or.mp operand
      rw [operands.found_other name other another, operands'.found_other name other another]
  have details (name : String) : detail.found name = detail'.found name := by
    by_cases reserved : Reserved name
    · rw [detail.found_reserved name reserved, detail'.found_reserved name reserved]
    · simp only [Reserved, not_or] at reserved
      simpa [Operands.found_other, reserved] using fields name
  exact ⟨Family.view_injective family family' (ColumnKind.name_injective _ _ types),
    Operator.name_injective operator operator' operators, operands, details⟩

theorem toCommand_stored_ne (column : StoredColumn) (family : Family) (operator : Operator)
    (operands : Operands) (detail : Detail) :
    (Column.stored column).toCommand ≠ (Column.view family operator operands detail).toCommand := by
  intro same
  have types := congrArg (Json.field? "type_") same
  rw [field?_view, detail.found_reserved "type_" (.inl rfl)] at types
  have kinds : column.kind.name = family.view.name := by
    simpa [Operands.found_other, toCommand, StoredColumn.toCommand,
      Json.field?_record, Index.lookup_cons] using types
  have kind : column.kind = family.view := ColumnKind.name_injective _ _ kinds
  unfold StoredColumn.kind at kind
  cases family <;> split at kind <;> cases kind

end Column

theorem StoredColumn.toCommand_injective (left right : StoredColumn)
    (same : left.toCommand = right.toCommand) : left = right := by
  have fields (name : String) := congrArg (Json.field? name) same
  simp only [toCommand, Json.field?_record, List.reverse_cons, List.reverse_nil, List.nil_append,
    List.cons_append, Index.lookup_cons] at fields
  have kinds : left.kind = right.kind :=
    ColumnKind.name_injective _ _ (by simpa using fields "type_")
  have frames : left.frame = right.frame := by simpa using fields "df_name_"
  have names : left.name = right.name := by simpa using fields "name_"
  have roles : left.role = right.role := Role.name_injective _ _ (by simpa using fields "role_")
  obtain ⟨textual, name, role, frame⟩ := left
  obtain ⟨textual', name', role', frame'⟩ := right
  have texts : textual = textual' := by
    cases textual <;> cases textual' <;> first | rfl | cases kinds
  dsimp only at frames names roles
  rw [texts, frames, names, roles]

def Detail.key? : Detail → Option String
  | .none => Option.none
  | .substring .. => some "begin_"
  | .formats _ => some "time_formats_"
  | .condition _ => some "condition_"
  | .subroles _ => some "subroles_"
  | .unit _ => some "unit_"
  | .range .. => some "start_"
  | .seed _ => some "seed_"
  | .constant _ => some "value_"

theorem Detail.find?_key (detail : Detail) :
    (["begin_", "time_formats_", "condition_", "subroles_", "unit_", "start_", "seed_",
      "value_"].find? fun name => (detail.found name).isSome) = detail.key? := by
  cases detail <;> rfl

theorem Detail.key?_eq (first second : Detail) (same : ∀ name, first.found name = second.found name) :
    first.key? = second.key? := by
  rw [← first.find?_key, ← second.find?_key, funext same]

theorem Detail.told_of_found (first second : Detail) (finite : first.Finite)
    (same : ∀ name, first.found name = second.found name)
    (conditions : ∀ condition other : Column, first = .condition condition →
      condition.toCommand = other.toCommand → condition.told = other.told) :
    first.told = second.told := by
  have keys := key?_eq first second same
  cases first with
  | none =>
      cases second with
      | none => rfl
      | _ => cases keys
  | substring start length =>
      cases second with
      | substring start' length' =>
          have starts : start = start' := Json.nat_injective _ _ (Option.some.inj (same "begin_"))
          have lengths : length = length' := Json.nat_injective _ _ (Option.some.inj (same "len_"))
          rw [starts, lengths]
      | _ => simp [key?] at keys
  | formats formats =>
      cases second with
      | formats formats' =>
          rw [Json.texts_injective _ _ (Option.some.inj (same "time_formats_"))]
      | _ => simp [key?] at keys
  | condition condition =>
      cases second with
      | condition other =>
          have commands : condition.toCommand = other.toCommand :=
            Option.some.inj (same "condition_")
          rw [told, told, conditions condition other rfl commands]
      | _ => simp [key?] at keys
  | subroles subroles =>
      cases second with
      | subroles subroles' =>
          rw [Json.texts_injective _ _ (Option.some.inj (same "subroles_"))]
      | _ => simp [key?] at keys
  | unit unit =>
      cases second with
      | unit unit' => rw [Json.string.inj (Option.some.inj (same "unit_"))]
      | _ => simp [key?] at keys
  | range start stop step =>
      obtain ⟨startFinite, stopFinite, stepFinite⟩ := finite
      cases second with
      | range start' stop' step' =>
          have starts := Json.number_injective _ _ startFinite (Option.some.inj (same "start_"))
          have stops := Json.number_injective _ _ stopFinite (Option.some.inj (same "stop_"))
          have steps := Json.number_injective _ _ stepFinite (Option.some.inj (same "step_"))
          rw [starts, stops, steps]
      | _ => simp [key?] at keys
  | seed seed =>
      cases second with
      | seed seed' => rw [Json.nat_injective _ _ (Option.some.inj (same "seed_"))]
      | _ => simp [key?] at keys
  | constant value =>
      cases second with
      | constant value' =>
          rw [told, told, value.told_eq_of_toJson value' finite (Option.some.inj (same "value_"))]
      | _ => simp [key?] at keys

namespace Column

theorem told_ofLiteral (value : Literal) : (ofLiteral value).told = ofLiteral value.told := by
  rw [ofLiteral, ofLiteral, value.family_told]
  rfl

theorem told_eq_ofLiteral (value : Literal) (finite : value.Finite) (column : Column)
    (same : value.toCommand = column.toCommand) : (ofLiteral value).told = column.told := by
  rw [← toCommand_ofLiteral] at same
  cases column with
  | stored column => exact absurd same.symm (toCommand_stored_ne column _ _ _ _)
  | view family operator operands detail =>
      obtain ⟨families, operators, found, details⟩ := view_of_toCommand _ _ _ _ _ _ _ _ same
      have constants : (Detail.constant value).told = detail.told :=
        Detail.told_of_found _ detail finite details (fun _ _ other => by cases other)
      have none : operands = .none := by
        cases operands with
        | none => rfl
        | one first => cases found "operand1_"
        | two first second => cases found "operand1_"
      rw [ofLiteral, told, told, families, operators, none, constants]

end Column

mutual
theorem Column.told_of_toCommand (first second : Column) (finite : first.Finite)
    (same : first.toCommand = second.toCommand) : first.told = second.told := by
  cases first with
  | stored column =>
      cases second with
      | stored other => rw [StoredColumn.toCommand_injective column other same]
      | view => exact absurd same (Column.toCommand_stored_ne column _ _ _ _)
  | view family operator operands detail =>
      cases second with
      | stored other => exact absurd same.symm (Column.toCommand_stored_ne other _ _ _ _)
      | view family' operator' operands' detail' =>
          obtain ⟨families, operators, found, details⟩ :=
            Column.view_of_toCommand _ _ _ _ _ _ _ _ same
          have parts : operands.told = operands'.told :=
            operands.told_of_found operands' finite.1 found
          have extras : detail.told = detail'.told := detail.told_of_same detail' finite.2 details
          rw [Column.told, Column.told, families, operators, parts, extras]
termination_by structural first

theorem Operands.told_of_found (first second : Operands) (finite : first.Finite)
    (same : ∀ name, first.found name = second.found name) : first.told = second.told := by
  cases first with
  | none =>
      cases second with
      | none => rfl
      | one other => cases same "operand1_"
      | two other another => cases same "operand1_"
  | one operand =>
      cases second with
      | none => cases same "operand1_"
      | one other =>
          rw [Operands.told, Operands.told,
            operand.told_of_toCommand other finite (Option.some.inj (same "operand1_"))]
      | two other another => cases same "operand2_"
  | two left right =>
      cases second with
      | none => cases same "operand1_"
      | one other => cases same "operand2_"
      | two left' right' =>
          rw [Operands.told, Operands.told,
            left.told_of_toCommand left' finite.1 (Option.some.inj (same "operand1_")),
            right.told_of_toCommand right' finite.2 (Option.some.inj (same "operand2_"))]
termination_by structural first

theorem Operand.told_of_toCommand (first second : Operand) (finite : first.Finite)
    (same : first.toCommand = second.toCommand) : first.told = second.told := by
  cases first with
  | literal value =>
      have constant := Column.told_eq_ofLiteral value finite
      cases second with
      | literal other =>
          rw [Operand.told, Operand.told, ← Column.told_ofLiteral, ← Column.told_ofLiteral,
            constant (.ofLiteral other) same]
      | column inner => rw [Operand.told, Operand.told, ← Column.told_ofLiteral, constant inner same]
  | column inner =>
      cases second with
      | literal value =>
          rw [Operand.told, Operand.told, ← Column.told_ofLiteral,
            inner.told_of_toCommand (.ofLiteral value) finite same]
      | column other => rw [Operand.told, Operand.told, inner.told_of_toCommand other finite same]
termination_by structural first

theorem Detail.told_of_same (first second : Detail) (finite : first.Finite)
    (same : ∀ name, first.found name = second.found name) : first.told = second.told := by
  apply first.told_of_found second finite same
  intro condition other here commands
  cases first with
  | condition inner =>
      obtain rfl := Detail.condition.inj here
      exact inner.told_of_toCommand other finite commands
  | _ => cases here
termination_by structural first
end

mutual
theorem Column.toCommand_told (column : Column) : column.told.toCommand = column.toCommand := by
  cases column with
  | stored column => rfl
  | view family operator operands detail =>
      rw [Column.told, Column.toCommand, Column.toCommand, operands.fields_told, detail.fields_told]

theorem Operands.fields_told (operands : Operands) : operands.told.fields = operands.fields := by
  cases operands with
  | none => rfl
  | one first => rw [Operands.told, Operands.fields, Operands.fields, first.toCommand_told]
  | two first second =>
      rw [Operands.told, Operands.fields, Operands.fields, first.toCommand_told,
        second.toCommand_told]

theorem Operand.toCommand_told (operand : Operand) : operand.told.toCommand = operand.toCommand := by
  cases operand with
  | literal value =>
      rw [Operand.told, Operand.toCommand, Operand.toCommand, Column.toCommand_ofLiteral,
        value.toCommand_told]
  | column inner => rw [Operand.told, Operand.toCommand, Operand.toCommand, inner.toCommand_told]

theorem Detail.fields_told (detail : Detail) : detail.told.fields = detail.fields := by
  cases detail with
  | condition condition =>
      rw [Detail.told, Detail.fields, Detail.fields, condition.toCommand_told]
  | constant value => rw [Detail.told, Detail.fields, Detail.fields, value.toJson_told]
  | _ => rfl
end

/--
Commands lose nothing: columns with finite numbers have one command only if they are the same, but
for literals that stand for constant columns and moments that stand for seconds.
-/
theorem Column.toCommand_eq_iff (first second : Column) (finite : first.Finite) :
    first.toCommand = second.toCommand ↔ first.told = second.told := by
  constructor
  · exact first.told_of_toCommand second finite
  · intro same
    calc first.toCommand
        = first.told.toCommand := first.toCommand_told.symm
      _ = second.told.toCommand := congrArg Column.toCommand same
      _ = second.toCommand := second.toCommand_told

/-- A sum with midnight in 1970 is written as the sum with the constant column of zero. -/
theorem Column.toCommand_eq_iff_epoch :
    let amount := Column.floatColumn "amount" .numerical "loans"
    let midnight := amount.combine .float .plus (.literal (.moment ⟨1970, 1, 1, 0, 0, 0, 0⟩))
    let zero := amount.combine .float .plus (.column (.ofLiteral (.number 0.0)))
    midnight.Finite ∧ midnight.toCommand = zero.toCommand := by
  intro amount midnight zero
  have finite : midnight.Finite :=
    ⟨⟨trivial, by constructor <;> decide⟩, trivial⟩
  have seconds : Moment.seconds ⟨1970, 1, 1, 0, 0, 0, 0⟩ = 0.0 := by decide +kernel
  have told : midnight.told = zero.told := by
    change amount.combine .float .plus
      (.column (.ofLiteral (.number (Moment.seconds ⟨1970, 1, 1, 0, 0, 0, 0⟩)))) = zero
    rw [seconds]
  exact ⟨finite, (toCommand_eq_iff midnight zero finite).mpr told⟩

end RelationalLearning
