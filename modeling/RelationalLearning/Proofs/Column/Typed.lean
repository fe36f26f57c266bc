import RelationalLearning.Column.Checked
import RelationalLearning.Proofs.Column.Family
import RelationalLearning.Proofs.Column.Named
import RelationalLearning.Proofs.Outcome

namespace RelationalLearning

namespace Operator

def compares : Operator → Bool
  | .numEqualTo | .numNotEqualTo | .strEqualTo | .strNotEqualTo | .boolEqualTo | .boolNotEqualTo
  | .greater | .greaterEqual | .less | .lessEqual => true
  | _ => false

end Operator

mutual
def Column.WellTyped : Column → Prop
  | .stored _ => True
  | .view family operator operands detail =>
    operands.WellTyped family operator ∧ detail.WellTyped

def Operands.WellTyped (family : Family) (operator : Operator) : Operands → Prop
  | .none => True
  | .one first => first.WellTyped ∧ checkOperand family operator first.kind = .ok ()
  | .two first second =>
    (first.WellTyped ∧ checkOperand family operator first.kind = .ok ()) ∧
      (second.WellTyped ∧ checkOperand family operator second.kind = .ok ()) ∧
      (operator.compares = true → first.family = second.family)

def Operand.WellTyped : Operand → Prop
  | .literal _ => True
  | .column column => column.WellTyped

def Detail.WellTyped : Detail → Prop
  | .condition condition => condition.WellTyped ∧ condition.family = .boolean
  | _ => True
end

theorem checkOperand_error (family : Family) (operator : Operator) (kind : ColumnKind)
    (cause : DataError) (refused : checkOperand family operator kind = .error cause) :
    ∃ text, cause = .type text := by
  have require (fits : Bool) (text : String)
      (failed : (if fits then Except.ok () else Except.error (DataError.type text)) =
        Except.error cause) : ∃ text, cause = .type text := by
    cases fits with
    | true => exact absurd failed (by simp)
    | false => exact ⟨text, (Except.error.inj failed).symm⟩
  unfold checkOperand at refused
  split at refused
  all_goals
    first
    | exact require _ _ refused
    | cases refused

theorem checkOperand_arithmetic (operator : Operator) (present : operator ∈ Operator.arithmetic)
    (kind : ColumnKind) :
    checkOperand .float operator kind = .ok () ↔ kind.family = .float := by
  simp only [Operator.arithmetic, List.mem_cons, List.not_mem_nil, or_false] at present
  rcases present with rfl | rfl | rfl | rfl | rfl | rfl <;> simp [checkOperand]

theorem checkOperand_concat (kind : ColumnKind) :
    checkOperand .string .concat kind = .ok () ↔ kind.family = .string := by
  simp [checkOperand]

def Operand.asText : Operand → Operand
  | .literal value => .literal value
  | .column inner => .column inner.asText

theorem Operand.family_literal (value : Literal) : (Operand.literal value).family = value.family := by
  cases value <;> rfl

def Operand.Joinable : Operand → Prop
  | .column _ => True
  | .literal value => value.family = .string

/--
The outcome of building an expression: the expected one, of operations that take their operands, if
the operands fit, and a type error if they do not.
-/
structure TypeChecked (outcome : Except DataError Column) (fits : Prop) (expected : Column) : Prop where
  succeeds : (∃ column, outcome = .ok column) ↔ fits
  built : ∀ column, outcome = .ok column → column = expected ∧ column.WellTyped
  fails : ∀ cause, outcome = .error cause → ∃ text, cause = .type text

namespace TypeChecked

theorem accepted (fits : Prop) (expected : Column) (fit : fits) (typed : expected.WellTyped) :
    TypeChecked (.ok expected) fits expected where
  succeeds := iff_of_true ⟨expected, rfl⟩ fit
  built := by
    intro column same
    obtain rfl := Except.ok.inj same
    exact ⟨rfl, typed⟩
  fails := by
    intro cause same
    cases same

theorem refused (fits : Prop) (expected : Column) (text : String) (unfit : ¬fits) :
    TypeChecked (.error (.type text)) fits expected where
  succeeds := iff_of_false (by simp) unfit
  built := by
    intro column same
    cases same
  fails := by
    intro cause same
    exact ⟨text, (Except.error.inj same).symm⟩

theorem congr {outcome : Except DataError Column} {fits fits' : Prop} {expected : Column}
    (checks : TypeChecked outcome fits expected) (same : fits ↔ fits') :
    TypeChecked outcome fits' expected := propext same ▸ checks

end TypeChecked

namespace Column

variable (left : Column) (right : Operand)

theorem wellTyped_apply (family : Family) (operator : Operator) (typed : left.WellTyped)
    (taken : checkOperand family operator left.kind = .ok ()) :
    (apply family operator left).WellTyped := ⟨⟨typed, taken⟩, trivial⟩

theorem wellTyped_combine (family : Family) (operator : Operator) (typed : left.WellTyped)
    (others : right.WellTyped) (taken : checkOperand family operator left.kind = .ok ())
    (taken' : checkOperand family operator right.kind = .ok ())
    (same : operator.compares = true → left.family = right.family) :
    (combine family operator left right).WellTyped :=
  ⟨⟨⟨typed, taken⟩, ⟨others, taken'⟩, same⟩, trivial⟩

theorem checked_typeChecked (family : Family) (operator : Operator)
    (plain : operator.compares = false) (typed : left.WellTyped) (others : right.WellTyped) :
    TypeChecked (checked family operator left right)
      (checkOperand family operator left.kind = .ok () ∧
        checkOperand family operator right.kind = .ok ())
      (combine family operator left right) := by
  unfold checked
  cases first : checkOperand family operator left.kind with
  | error cause =>
      obtain ⟨text, rfl⟩ := checkOperand_error family operator left.kind cause first
      exact TypeChecked.refused _ _ text (by simp)
  | ok =>
      cases second : checkOperand family operator right.kind with
      | error cause =>
          obtain ⟨text, rfl⟩ := checkOperand_error family operator right.kind cause second
          exact TypeChecked.refused _ _ text (by simp)
      | ok =>
          have typed' : (combine family operator left right).WellTyped :=
            left.wellTyped_combine right family operator typed others first second (by simp [plain])
          exact TypeChecked.accepted _ _ ⟨rfl, rfl⟩ typed'

theorem compare_typeChecked (operator : Family → Operator)
    (free : ∀ family kind, checkOperand .boolean (operator family) kind = .ok ())
    (typed : left.WellTyped) (others : right.WellTyped) :
    TypeChecked (compare operator left right) (left.family = right.family)
      (combine .boolean (operator left.family) left right) := by
  unfold compare
  split
  next same =>
    have typed' : (combine .boolean (operator left.family) left right).WellTyped :=
      left.wellTyped_combine right .boolean _ typed others (free _ _) (free _ _) fun _ => same
    exact TypeChecked.accepted _ _ same typed'
  next differ => exact TypeChecked.refused _ _ _ differ

theorem ordered_eq (operator : Operator) (present : operator ∈ Operator.orderings) :
    left.ordered operator.name right =
      if left.family = .float ∧ right.family = .float then .ok (combine .boolean operator left right)
      else .error (.type (mismatch left.kind (comparable .float))) := by
  rw [ordered, Operator.named?_of_mem Operator.orderings operator present]
  simp

theorem arithmetic_eq (operator : Operator) (present : operator ∈ Operator.arithmetic) :
    left.arithmetic operator.name right = checked .float operator left right := by
  rw [arithmetic, Operator.named?_of_mem Operator.arithmetic operator present]

theorem ordered_typeChecked (operator : Operator) (present : operator ∈ Operator.orderings)
    (typed : left.WellTyped) (others : right.WellTyped) :
    TypeChecked (left.ordered operator.name right) (left.family = .float ∧ right.family = .float)
      (combine .boolean operator left right) := by
  have free (kind : ColumnKind) : checkOperand .boolean operator kind = .ok () := by
    simp only [Operator.orderings, List.mem_cons, List.not_mem_nil, or_false] at present
    rcases present with rfl | rfl | rfl | rfl <;> rfl
  rw [left.ordered_eq right operator present]
  split
  next floats =>
    have typed' : (combine .boolean operator left right).WellTyped :=
      left.wellTyped_combine right .boolean operator typed others (free _) (free _)
        fun _ => floats.1.trans floats.2.symm
    exact TypeChecked.accepted _ _ floats typed'
  next neither => exact TypeChecked.refused _ _ _ neither

theorem arithmetic_typeChecked (operator : Operator) (present : operator ∈ Operator.arithmetic)
    (typed : left.WellTyped) (others : right.WellTyped) :
    TypeChecked (left.arithmetic operator.name right)
      (left.family = .float ∧ right.family = .float) (combine .float operator left right) := by
  have plain : operator.compares = false := by
    simp only [Operator.arithmetic, List.mem_cons, List.not_mem_nil, or_false] at present
    rcases present with rfl | rfl | rfl | rfl | rfl | rfl <;> rfl
  have checks := left.checked_typeChecked right .float operator plain typed others
  rw [checkOperand_arithmetic operator present, checkOperand_arithmetic operator present] at checks
  rw [left.arithmetic_eq right operator present]
  exact checks

theorem connect_typeChecked (operator : Operator)
    (present : operator ∈ [Operator.and, .or, .xor])
    (typed : left.WellTyped) (others : right.WellTyped) :
    TypeChecked (connect operator left right) (left.family = .boolean ∧ right.family = .boolean)
      (combine .boolean operator left right) := by
  simp only [List.mem_cons, List.not_mem_nil, or_false] at present
  have taken (kind : ColumnKind) (boolean : kind.family = .boolean) :
      checkOperand .boolean operator kind = .ok () := by
    rcases present with rfl | rfl | rfl <;> simp [checkOperand, boolean]
  have plain : operator.compares = false := by
    rcases present with rfl | rfl | rfl <;> rfl
  unfold connect
  split
  next both =>
    have booleans : left.family = .boolean ∧ right.family = .boolean := by simpa using both
    have typed' : (combine .boolean operator left right).WellTyped :=
      left.wellTyped_combine right .boolean operator typed others (taken _ booleans.1)
        (taken _ booleans.2) (by simp [plain])
    exact TypeChecked.accepted _ _ booleans typed'
  next neither => exact TypeChecked.refused _ _ _ (by simpa using neither)

theorem complement_typeChecked (typed : left.WellTyped) :
    TypeChecked left.complement (left.family = .boolean) (apply .boolean .not left) := by
  unfold complement
  split
  next boolean =>
    have taken : checkOperand .boolean .not left.kind = .ok () := by
      simpa [checkOperand, family] using boolean
    exact TypeChecked.accepted _ _ boolean (left.wellTyped_apply .boolean .not typed taken)
  next other => exact TypeChecked.refused _ _ _ other

theorem wellTyped_asText (typed : left.WellTyped) : left.asText.WellTyped := by
  unfold asText
  split
  next => exact typed
  next other =>
    have taken : checkOperand .string .asStr left.kind = .ok () := by
      simpa [checkOperand, family] using other
    exact left.wellTyped_apply .string .asStr typed taken

theorem wellTyped_asNumber (typed : left.WellTyped) : left.asNumber.WellTyped := by
  unfold asNumber
  split
  next => exact typed
  next text =>
    have taken : checkOperand .float .asNum left.kind = .ok () := by
      simpa [checkOperand, family] using text
    exact left.wellTyped_apply .float .asNum typed taken
  next truth =>
    have taken : checkOperand .float .booleanAsNum left.kind = .ok () := by
      simpa [checkOperand, family] using truth
    exact left.wellTyped_apply .float .booleanAsNum typed taken

theorem wellTyped_asMoments (formats : List String) (typed : left.WellTyped)
    (text : left.family = .string) : (left.asMoments formats).WellTyped := by
  have taken : checkOperand .float .asTs left.kind = .ok () := by
    simpa [checkOperand, family] using text
  exact ⟨⟨typed, taken⟩, trivial⟩

theorem wellTyped_castFor (role : Role) (formats : List String) (typed : left.WellTyped) :
    (left.castFor role formats).WellTyped := by
  unfold castFor
  split
  next => exact left.wellTyped_asText typed
  next =>
    split
    next text =>
      split
      next => exact left.wellTyped_asMoments formats typed text
      next => exact left.wellTyped_asNumber typed
    next => exact left.wellTyped_asNumber typed

theorem wellTyped_subselect (typed : left.WellTyped) (others : right.WellTyped) :
    (left.subselect right).WellTyped := by
  have free (family : Family) (kind : ColumnKind) :
      checkOperand family (.subselection family) kind = .ok () := by
    cases family <;> rfl
  have plain : (Operator.subselection left.family).compares = false := by
    cases left.family <;> rfl
  exact left.wellTyped_combine right left.family _ typed others (free _ _) (free _ _)
    (by simp [plain])

theorem wellTyped_withUnit (unit : String) (typed : left.WellTyped) :
    (left.withUnit unit).WellTyped := by
  unfold withUnit
  split
  next number =>
    have taken : checkOperand .float .numWithUnit left.kind = .ok () := by
      simpa [checkOperand, family] using number
    exact ⟨⟨typed, taken⟩, trivial⟩
  next text =>
    have taken : checkOperand .string .strWithUnit left.kind = .ok () := by
      simpa [checkOperand, family] using text
    exact ⟨⟨typed, taken⟩, trivial⟩
  next => exact typed

theorem wellTyped_withSubroles (subroles : List String) (marked : Column) (typed : left.WellTyped)
    (done : left.withSubroles subroles = .ok marked) : marked.WellTyped := by
  unfold withSubroles at done
  split at done
  next number =>
    obtain ⟨-, -, done⟩ := (Outcome.bind_eq_ok _ _ _).mp done
    have taken : checkOperand .float .numWithSubroles left.kind = .ok () := by
      simpa [checkOperand, family] using number
    obtain rfl := Except.ok.inj done
    exact ⟨⟨typed, taken⟩, trivial⟩
  next text =>
    obtain ⟨-, -, done⟩ := (Outcome.bind_eq_ok _ _ _).mp done
    have taken : checkOperand .string .strWithSubroles left.kind = .ok () := by
      simpa [checkOperand, family] using text
    obtain rfl := Except.ok.inj done
    exact ⟨⟨typed, taken⟩, trivial⟩
  next =>
    obtain rfl := Except.ok.inj done
    exact typed

def sum : Column :=
  if left.family = .float ∧ right.family = .float then combine .float .plus left right
  else combine .string .concat left.asText right.asText

theorem concat_typeChecked (typed : left.WellTyped) (others : right.WellTyped)
    (joinable : right.Joinable) :
    TypeChecked (checked .string .concat left.asText right.asText) True
      (combine .string .concat left.asText right.asText) := by
  have texts : right.asText.family = .string := by
    cases right with
    | literal value => exact (Operand.family_literal value).trans joinable
    | column column => exact column.family_asText
  have typed' : right.asText.WellTyped := by
    cases right with
    | literal value => trivial
    | column column => exact column.wellTyped_asText others
  have checks := checked_typeChecked left.asText right.asText .string .concat rfl
    (left.wellTyped_asText typed) typed'
  rw [checkOperand_concat, checkOperand_concat] at checks
  have both : left.asText.kind.family = .string ∧ right.asText.kind.family = .string :=
    ⟨left.family_asText, texts⟩
  rwa [iff_true_intro both] at checks

theorem add_typeChecked (typed : left.WellTyped) (others : right.WellTyped) :
    TypeChecked (left.add right)
      (left.family = .float ∧ right.family = .float ∨
        (left.family = .string ∨ right.family = .string) ∧ right.Joinable)
      (left.sum right) := by
  have sums := left.arithmetic_typeChecked right .plus (by decide) typed others
  have joins := left.concat_typeChecked right typed others
  unfold add sum
  split
  next both =>
    have floats : left.family = .float ∧ right.family = .float := by simpa using both
    rw [if_pos floats]
    exact sums.congr (by simp [floats])
  next apart =>
    have apart : ¬(left.family = .float ∧ right.family = .float) := by simpa using apart
    rw [if_neg apart]
    split
    next either =>
      have either : left.family = .string ∨ right.family = .string := by simpa using either
      cases right with
      | column inner => exact (joins trivial).congr (by simp [apart, either, Operand.Joinable])
      | literal value =>
          have unfit (other : value.family ≠ .string) :
              ¬(left.family = .float ∧ (Operand.literal value).family = .float ∨
                (left.family = .string ∨ (Operand.literal value).family = .string) ∧
                  (Operand.literal value).Joinable) := by
            simp [apart, Operand.Joinable, other]
          cases value with
          | text value =>
              exact (joins rfl).congr (by simp [apart, either, Operand.Joinable, Literal.family])
          | number value => exact TypeChecked.refused _ _ _ (unfit (by simp [Literal.family]))
          | truth value => exact TypeChecked.refused _ _ _ (unfit (by simp [Literal.family]))
          | moment value => exact TypeChecked.refused _ _ _ (unfit (by simp [Literal.family]))
    next neither =>
      have neither : ¬(left.family = .string ∨ right.family = .string) := by simpa using neither
      exact TypeChecked.refused _ _ _ (by simp [apart, neither])

/--
Each operation on a column and an operand succeeds exactly for the families it is made for, and what
it builds is well typed; so is what casts, marks and selections of the column give.
-/
structure TypeSound (left : Column) (right : Operand) : Prop where
  equalTo : TypeChecked (left.equalTo right) (left.family = right.family)
    (combine .boolean (.equality left.family) left right)
  notEqualTo : TypeChecked (left.notEqualTo right) (left.family = right.family)
    (combine .boolean (.inequality left.family) left right)
  ordered : ∀ operator ∈ Operator.orderings,
    TypeChecked (left.ordered operator.name right) (left.family = .float ∧ right.family = .float)
      (combine .boolean operator left right)
  arithmetic : ∀ operator ∈ Operator.arithmetic,
    TypeChecked (left.arithmetic operator.name right)
      (left.family = .float ∧ right.family = .float) (combine .float operator left right)
  conjunction : TypeChecked (left.conjunction right)
    (left.family = .boolean ∧ right.family = .boolean) (combine .boolean .and left right)
  disjunction : TypeChecked (left.disjunction right)
    (left.family = .boolean ∧ right.family = .boolean) (combine .boolean .or left right)
  exclusion : TypeChecked (left.exclusion right)
    (left.family = .boolean ∧ right.family = .boolean) (combine .boolean .xor left right)
  complement : TypeChecked left.complement (left.family = .boolean) (apply .boolean .not left)
  add : TypeChecked (left.add right)
    (left.family = .float ∧ right.family = .float ∨
      (left.family = .string ∨ right.family = .string) ∧ right.Joinable)
    (left.sum right)
  asText : left.asText.WellTyped
  asNumber : left.asNumber.WellTyped
  castFor : ∀ role formats, (left.castFor role formats).WellTyped
  subselect : (left.subselect right).WellTyped
  withUnit : ∀ unit, (left.withUnit unit).WellTyped
  withSubroles : ∀ subroles marked, left.withSubroles subroles = .ok marked → marked.WellTyped

theorem typeSound (left : Column) (right : Operand) (typed : left.WellTyped)
    (others : right.WellTyped) : left.TypeSound right where
  equalTo :=
    left.compare_typeChecked right .equality (fun family _ => by cases family <;> rfl) typed others
  notEqualTo :=
    left.compare_typeChecked right .inequality (fun family _ => by cases family <;> rfl) typed others
  ordered operator present := left.ordered_typeChecked right operator present typed others
  arithmetic operator present := left.arithmetic_typeChecked right operator present typed others
  conjunction := left.connect_typeChecked right .and (by decide) typed others
  disjunction := left.connect_typeChecked right .or (by decide) typed others
  exclusion := left.connect_typeChecked right .xor (by decide) typed others
  complement := left.complement_typeChecked typed
  add := left.add_typeChecked right typed others
  asText := left.wellTyped_asText typed
  asNumber := left.wellTyped_asNumber typed
  castFor role formats := left.wellTyped_castFor role formats typed
  subselect := left.wellTyped_subselect right typed others
  withUnit unit := left.wellTyped_withUnit unit typed
  withSubroles subroles marked done := left.wellTyped_withSubroles subroles marked typed done

theorem typeSound_raised :
    ((floatColumn "amount" .numerical "loans").combine .float .plus
        (.literal (.number 1.0))).WellTyped ∧
      (Operand.literal (.text " euro")).WellTyped ∧
      ((floatColumn "amount" .numerical "loans").combine .float .plus
        (.literal (.number 1.0))).TypeSound (.literal (.text " euro")) := by
  have typed : ((floatColumn "amount" .numerical "loans").combine .float .plus
      (.literal (.number 1.0))).WellTyped :=
    wellTyped_combine _ _ .float .plus trivial trivial rfl rfl (by decide)
  exact ⟨typed, trivial, typeSound _ _ typed trivial⟩

end Column
end RelationalLearning
