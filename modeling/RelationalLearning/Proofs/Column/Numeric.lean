import RelationalLearning.Column.Numeric
import RelationalLearning.Proofs.Column.Typed

namespace RelationalLearning

/-- An operation on columns of numbers, as it is built unchecked and as it is built with a check. -/
structure NumericSurface where
  unchecked : NumericColumn → NumericOperand → Column
  checked : Column → Operand → Except DataError Column

namespace NumericSurface

def arithmetic (name : String) (build : NumericColumn → NumericOperand → NumericColumn) :
    NumericSurface :=
  ⟨fun column operand => (build column operand).column,
    fun left right => left.arithmetic name right⟩

def ordered (name : String) (build : NumericColumn → NumericOperand → Column) : NumericSurface :=
  ⟨build, fun left right => left.ordered name right⟩

def all : List NumericSurface :=
  [arithmetic "plus" .add, arithmetic "minus" .subtract, arithmetic "multiplies" .multiply,
    arithmetic "divides" .divide, arithmetic "fmod" .remainder, arithmetic "pow" .power,
    ordered "greater" NumericColumn.greater, ordered "greater_equal" NumericColumn.greaterEqual,
    ordered "less" NumericColumn.less, ordered "less_equal" NumericColumn.lessEqual,
    ⟨NumericColumn.equalTo, Column.equalTo⟩, ⟨NumericColumn.notEqualTo, Column.notEqualTo⟩]

/-- Both build the same column, or the check refuses the operand, exactly where it is no number. -/
def AgreesOn (surface : NumericSurface) (column : NumericColumn) (operand : NumericOperand) :
    Prop :=
  (operand.toOperand.family = .float →
    surface.checked column.column operand.toOperand = .ok (surface.unchecked column operand)) ∧
  (operand.toOperand.family ≠ .float →
    ∃ text, surface.checked column.column operand.toOperand = .error (.type text))

variable (column : NumericColumn) (operand : NumericOperand)

theorem arithmetic_agreesOn (operator : Operator) (present : operator ∈ Operator.arithmetic) :
    AgreesOn (arithmetic operator.name (NumericColumn.compute operator)) column operand := by
  have taken (kind : ColumnKind) := checkOperand_arithmetic operator present kind
  have first : checkOperand .float operator column.column.kind = .ok () :=
    (taken _).mpr column.numeric
  have outcome : column.column.arithmetic operator.name operand.toOperand = (do
      checkOperand .float operator operand.toOperand.kind
      return (column.compute operator operand).column) := by
    rw [Column.arithmetic_eq _ _ operator present, Column.checked, first]
    rfl
  constructor
  · intro number
    rw [(taken _).mpr number] at outcome
    exact outcome
  · intro other
    cases second : checkOperand .float operator operand.toOperand.kind with
    | ok => exact absurd ((taken _).mp second) other
    | error cause =>
        obtain ⟨text, rfl⟩ := checkOperand_error .float operator _ cause second
        rw [second] at outcome
        exact ⟨text, outcome⟩

theorem ordered_agreesOn (operator : Operator) (present : operator ∈ Operator.orderings) :
    AgreesOn (ordered operator.name (NumericColumn.compare operator)) column operand := by
  have outcome := column.column.ordered_eq operand.toOperand operator present
  constructor
  · intro number
    exact outcome.trans (if_pos ⟨column.numeric, number⟩)
  · intro other
    exact ⟨_, outcome.trans (if_neg fun both => other both.2)⟩

theorem compare_agreesOn (operator : Family → Operator) :
    AgreesOn ⟨NumericColumn.compare (operator .float), Column.compare operator⟩ column operand := by
  constructor
  · intro number
    have same := column.numeric.trans number.symm
    dsimp only
    rw [Column.compare, if_pos same, column.numeric]
    rfl
  · intro other
    have apart : column.column.family ≠ operand.toOperand.family := by
      rw [column.numeric]
      exact other.symm
    exact ⟨_, if_neg apart⟩

end NumericSurface

namespace NumericOperand

theorem family_toOperand (operand : NumericOperand) :
    operand.toOperand.family = .float ↔
      ∀ value, operand = .literal value → value.family = .float := by
  cases operand with
  | number value | whole value | moment value => exact iff_of_true rfl nofun
  | column inner => exact iff_of_true inner.numeric nofun
  | literal value =>
      rw [toOperand, Operand.family_literal]
      constructor
      · rintro number other ⟨⟩
        exact number
      · intro number
        exact number value rfl

end NumericOperand

/--
Where an operand is a number, building an operation unchecked is building it with a check. Only a
literal can be something else; it is built into the operation unchecked, and a check refuses it.
-/
theorem numeric_surfaces_agree (column : NumericColumn) (operand : NumericOperand) :
    (operand.toOperand.family = .float ↔
      ∀ value, operand = .literal value → value.family = .float) ∧
    ∀ surface ∈ NumericSurface.all, surface.AgreesOn column operand := by
  refine ⟨operand.family_toOperand, ?_⟩
  simp only [NumericSurface.all, List.forall_mem_cons]
  refine ⟨?_, ?_, ?_, ?_, ?_, ?_, ?_, ?_, ?_, ?_, ?_, ?_, ?_⟩
  · exact NumericSurface.arithmetic_agreesOn column operand .plus (by decide)
  · exact NumericSurface.arithmetic_agreesOn column operand .minus (by decide)
  · exact NumericSurface.arithmetic_agreesOn column operand .multiplies (by decide)
  · exact NumericSurface.arithmetic_agreesOn column operand .divides (by decide)
  · exact NumericSurface.arithmetic_agreesOn column operand .fmod (by decide)
  · exact NumericSurface.arithmetic_agreesOn column operand .pow (by decide)
  · exact NumericSurface.ordered_agreesOn column operand .greater (by decide)
  · exact NumericSurface.ordered_agreesOn column operand .greaterEqual (by decide)
  · exact NumericSurface.ordered_agreesOn column operand .less (by decide)
  · exact NumericSurface.ordered_agreesOn column operand .lessEqual (by decide)
  · exact NumericSurface.compare_agreesOn column operand .equality
  · exact NumericSurface.compare_agreesOn column operand .inequality
  · exact nofun

def NumericColumn.amount : NumericColumn := ⟨.floatColumn "amount" .numerical "loans", rfl⟩

open NumericColumn (amount)

theorem numeric_surfaces_agree_amount :
    amount.column.arithmetic "pow" (.literal (.number 2.0)) =
        .ok (amount.power (.number 2.0)).column ∧
      amount.column.equalTo (.column amount.column) = .ok (amount.equalTo (.column amount)) ∧
        ∃ text, amount.column.ordered "less" (.literal (.text "two")) = .error (.type text) := by
  obtain ⟨-, onNumber⟩ := numeric_surfaces_agree amount (.number 2.0)
  obtain ⟨-, onColumn⟩ := numeric_surfaces_agree amount (.column amount)
  obtain ⟨-, onText⟩ := numeric_surfaces_agree amount (.literal (.text "two"))
  have power : NumericSurface.arithmetic "pow" .power ∈ NumericSurface.all := by
    simp [NumericSurface.all]
  have equal : ⟨NumericColumn.equalTo, Column.equalTo⟩ ∈ NumericSurface.all := by
    simp [NumericSurface.all]
  have less : NumericSurface.ordered "less" NumericColumn.less ∈ NumericSurface.all := by
    simp [NumericSurface.all]
  exact ⟨(onNumber _ power).1 rfl, (onColumn _ equal).1 rfl, (onText _ less).2 nofun⟩

/-- Raising numbers to a text is built unchecked, and refused where it is checked. -/
theorem text_raises_unchecked :
    ¬ ∀ (column : NumericColumn) (operand : NumericOperand),
      column.column.arithmetic "pow" operand.toOperand = .ok (column.power operand).column := by
  intro agree
  have refused : amount.column.arithmetic "pow" (.literal (.text "two")) =
      .error (.type "This operator can only be applied to a FloatColumn!") := rfl
  cases refused.symm.trans (agree amount (.literal (.text "two")))

end RelationalLearning
