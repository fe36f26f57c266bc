import RelationalLearning.Column.Selection
import RelationalLearning.Proofs.Column.Spacing

namespace RelationalLearning

/-- Whether `row` comes before `stop` when going by `step`. -/
def Before (step row stop : Int) : Prop := 0 < step ∧ row < stop ∨ step < 0 ∧ stop < row

instance (step row stop : Int) : Decidable (Before step row stop) :=
  inferInstanceAs (Decidable (0 < step ∧ row < stop ∨ step < 0 ∧ stop < row))

def spacing (start stop step : Int) : List Int :=
  if Before step start stop then start :: spacing (start + step) stop step else []
termination_by if 0 < step then (stop - start).toNat else (start - stop).toNat
decreasing_by
  rename_i before
  rcases before with ⟨forward, below⟩ | ⟨backward, above⟩
  · simp only [forward, if_true]
    omega
  · simp only [not_lt.mpr backward.le, if_false]
    omega

namespace Before

theorem irrefl (step row : Int) : ¬ Before step row row := by
  unfold Before
  omega

theorem add_step (step row : Int) (nonzero : step ≠ 0) : Before step row (row + step) := by
  unfold Before
  omega

theorem trans (step first second third : Int) (left : Before step first second)
    (right : Before step second third) : Before step first third := by
  unfold Before at *
  omega

theorem nonzero (step row stop : Int) (before : Before step row stop) : step ≠ 0 := by
  unfold Before at before
  omega

theorem lt (step row stop : Int) (before : Before step row stop) (forward : 0 < step) :
    row < stop := by
  unfold Before at before
  omega

theorem gt (step row stop : Int) (before : Before step row stop) (backward : step < 0) :
    row > stop := by
  unfold Before at before
  omega

theorem add_step_of_dvd (step start row : Int) (late : ¬ Before step row start)
    (reached : step ∣ row - start) : row = start ∨ ¬ Before step row (start + step) := by
  by_cases same : row = start
  · exact .inl same
  · right
    intro early
    unfold Before at late early
    rcases early with ⟨forward, below⟩ | ⟨backward, above⟩
    · have := Int.le_of_dvd (by omega) reached
      omega
    · have : -step ∣ start - row := by
        rw [← neg_sub row start, neg_dvd, dvd_neg]
        exact reached
      have := Int.le_of_dvd (by omega) this
      omega

end Before

theorem mem_spacing (start stop step row : Int) :
    row ∈ spacing start stop step ↔
      Before step row stop ∧ ¬ Before step row start ∧ step ∣ row - start := by
  fun_induction spacing start stop step with
  | case1 start before ih =>
      have nonzero := before.nonzero
      have shift : row - start = row - (start + step) + step := by omega
      rw [List.mem_cons, ih]
      constructor
      · rintro (same | ⟨early, late, reached⟩)
        · subst same
          exact ⟨before, Before.irrefl step row, by simp⟩
        · have next := Before.add_step step start nonzero
          refine ⟨early, fun sooner => late (Before.trans _ _ _ _ sooner next), ?_⟩
          rw [shift]
          exact Int.dvd_add reached (Int.dvd_refl step)
      · rintro ⟨early, late, reached⟩
        rcases Before.add_step_of_dvd step start row late reached with same | later
        · exact .inl same
        · rw [shift] at reached
          exact .inr ⟨early, later, (Int.dvd_add_left (Int.dvd_refl step)).mp reached⟩
  | case2 start over_stop =>
      have empty : ¬ (Before step row stop ∧ ¬ Before step row start ∧ step ∣ row - start) := by
        unfold Before at *
        omega
      simpa using empty

theorem spacing_ordered (start stop step : Int) :
    (spacing start stop step).Pairwise (Before step) := by
  fun_induction spacing start stop step with
  | case1 start before ih =>
      refine List.pairwise_cons.mpr ⟨?_, ih⟩
      intro row found
      have late := ((mem_spacing (start + step) stop step row).mp found).2.1
      have next := Before.add_step step start before.nonzero
      unfold Before at *
      omega
  | case2 => exact List.Pairwise.nil

theorem length_spacing (start stop step : Int) :
    (spacing start stop step).length = ⌈((stop - start : Int) : ℚ) / step⌉.toNat := by
  fun_induction spacing start stop step with
  | case1 start before ih =>
      have divisor : (step : ℚ) ≠ 0 := by exact_mod_cast before.nonzero
      have shift : ((stop - (start + step) : Int) : ℚ) / step =
          ((stop - start : Int) : ℚ) / step - 1 := by
        push_cast
        field_simp
        ring
      have positive : 0 < ((stop - start : Int) : ℚ) / step := by
        rcases before with ⟨forward, below⟩ | ⟨backward, above⟩
        · exact div_pos (by exact_mod_cast Int.sub_pos.mpr below) (by exact_mod_cast forward)
        · exact div_pos_of_neg_of_neg (by exact_mod_cast Int.sub_neg_of_lt above)
            (by exact_mod_cast backward)
      have some_left := Int.ceil_pos.mpr positive
      rw [List.length_cons, ih, shift, Int.ceil_sub_one]
      omega
  | case2 start reached =>
      have empty : ((stop - start : Int) : ℚ) / step ≤ 0 := by
        unfold Before at reached
        rcases lt_trichotomy step 0 with backward | rfl | forward
        · have ahead : 0 ≤ stop - start := by omega
          exact div_nonpos_of_nonneg_of_nonpos (by exact_mod_cast ahead)
            (by exact_mod_cast backward.le)
        · simp
        · have behind : stop - start ≤ 0 := by omega
          exact div_nonpos_of_nonpos_of_nonneg (by exact_mod_cast behind)
            (by exact_mod_cast forward.le)
      have none_left : ⌈((stop - start : Int) : ℚ) / step⌉ ≤ 0 :=
        Int.ceil_le.mpr (by exact_mod_cast empty)
      rw [List.length_nil]
      omega

namespace Slice

def stride (slice : Slice) : Int := slice.step.getD 1

def placed (length : Nat) (bound : Int) : Int := if bound < 0 then bound + length else bound

def first (slice : Slice) (length : Nat) : Int :=
  (slice.start.map (placed length)).getD (if 0 < slice.stride then 0 else length - 1)

def last (slice : Slice) (length : Nat) : Int :=
  (slice.stop.map (placed length)).getD (if 0 < slice.stride then length else -1)

def origin (slice : Slice) (length : Nat) : Int :=
  if 0 < slice.stride then max (slice.first length) 0 else min (slice.first length) (length - 1)

structure Picks (slice : Slice) (length : Nat) (row : Int) : Prop where
  nonneg : 0 ≤ row
  lt_length : row < length
  from_first : ¬ Before slice.stride row (slice.first length)
  before_last : Before slice.stride row (slice.last length)
  whole_steps : slice.stride ∣ row - slice.origin length

def zeroStep : DataError := .value "slice step cannot be zero"

theorem nonzeroStep_ok (slice : Slice) (nonzero : slice.stride ≠ 0) :
    slice.nonzeroStep = .ok slice.stride := by
  unfold nonzeroStep
  unfold stride at *
  split
  next zero => exact absurd zero nonzero
  next => rfl

theorem nonzeroStep_error (slice : Slice) (zero : slice.stride = 0) :
    slice.nonzeroStep = .error zeroStep := by
  unfold nonzeroStep
  unfold stride at zero
  rw [zero]
  rfl

/-- The place next to `bound` where going by the steps of the slice can begin or stop. -/
def confine (slice : Slice) (length : Nat) (bound : Int) : Int :=
  if 0 < slice.stride then max 0 (min length bound) else max (-1) (min (length - 1) bound)

theorem clamp_eq (low high : Int) (length : Nat) (standard : Int) (bound : Option Int)
    (within : max low (min high standard) = standard) :
    clamp low high length standard bound =
      max low (min high ((bound.map (placed length)).getD standard)) := by
  cases bound with
  | none => exact within.symm
  | some bound => rfl

theorem indices_ok (slice : Slice) (length : Nat) (nonzero : slice.stride ≠ 0) :
    slice.indices length =
      .ok (slice.confine length (slice.first length), slice.confine length (slice.last length),
        slice.stride) := by
  unfold indices
  rw [nonzeroStep_ok slice nonzero]
  simp only [bind, Except.bind, pure, Except.pure]
  unfold confine first last
  by_cases forward : 0 < slice.stride
  · have backward : ¬ slice.stride < 0 := not_lt.mpr forward.le
    simp only [backward, forward, if_false, if_true]
    rw [← clamp_eq 0 length length 0 slice.start (by omega),
      ← clamp_eq 0 length length length slice.stop (by omega)]
  · have backward : slice.stride < 0 := by omega
    simp only [backward, forward, if_false, if_true]
    rw [← clamp_eq (-1) (length - 1) length (length - 1) slice.start (by omega),
      ← clamp_eq (-1) (length - 1) length (-1) slice.stop (by omega)]

theorem indices_error (slice : Slice) (length : Nat) (zero : slice.stride = 0) :
    slice.indices length = .error zeroStep := by
  unfold indices
  rw [nonzeroStep_error slice zero]
  rfl

theorem confine_first (slice : Slice) (length : Nat) (row : Int) (nonneg : 0 ≤ row)
    (lt_length : row < length) (started : ¬ Before slice.stride row (slice.first length))
    (nonzero : slice.stride ≠ 0) :
    slice.confine length (slice.first length) = slice.origin length := by
  unfold Before at started
  unfold confine origin
  split <;> omega

theorem before_confine (slice : Slice) (length : Nat) (row bound : Int) (nonneg : 0 ≤ row)
    (lt_length : row < length) :
    Before slice.stride row (slice.confine length bound) ↔ Before slice.stride row bound := by
  unfold Before confine
  split <;> omega

theorem inside_of_confine (slice : Slice) (length : Nat) (row : Int)
    (late : ¬ Before slice.stride row (slice.confine length (slice.first length)))
    (early : Before slice.stride row (slice.confine length (slice.last length))) :
    0 ≤ row ∧ row < length := by
  unfold Before confine at early late
  by_cases forward : 0 < slice.stride
  · rw [if_pos forward] at early late
    omega
  · rw [if_neg forward] at early late
    omega

theorem mem_rows (slice : Slice) (length : Nat) (row : Int) :
    row ∈ spacing (slice.confine length (slice.first length))
      (slice.confine length (slice.last length)) slice.stride ↔
      slice.Picks length row := by
  rw [mem_spacing]
  constructor
  · rintro ⟨early, late, reached⟩
    obtain ⟨nonneg, lt_length⟩ := inside_of_confine slice length row late early
    rw [before_confine slice length row _ nonneg lt_length] at early late
    rw [confine_first slice length row nonneg lt_length late early.nonzero] at reached
    exact ⟨nonneg, lt_length, late, early, reached⟩
  · rintro ⟨nonneg, lt_length, late, early, reached⟩
    rw [before_confine slice length row _ nonneg lt_length,
      before_confine slice length row _ nonneg lt_length,
      confine_first slice length row nonneg lt_length late early.nonzero]
    exact ⟨early, late, reached⟩

theorem rangeLength_confine (slice : Slice) (length : Nat) (nonzero : slice.stride ≠ 0)
    (few : length ≤ 2 ^ 53) (small : slice.stride.natAbs ≤ 2 ^ 53) (first last : Int) :
    (Subselection.range (slice.confine length first)
      (slice.confine length last) slice.stride).rangeLength? =
      some (spacing (slice.confine length first)
        (slice.confine length last) slice.stride).length := by
  have inside (bound : Int) : (slice.confine length bound).natAbs ≤ 2 ^ 53 := by
    unfold confine
    split <;> omega
  have apart : (slice.confine length last - slice.confine length first).natAbs ≤ 2 ^ 53 := by
    unfold confine
    split <;> omega
  rw [length_spacing]
  exact congrArg some
    (Column.arangeLength_ofInt _ _ _ nonzero (inside first) (inside last) small apart)

theorem resolve_zeroStep {m : Type → Type} [Monad m] [LawfulMonad m] (slice : Slice)
    (zero : slice.stride = 0) (rows : ExceptT DataError m Length) :
    slice.resolve rows = throw zeroStep := by
  unfold resolve
  rw [nonzeroStep_error slice zero]
  exact ExceptT.ext (pure_bind _ _)

/-- Which rows a slice picks, in which order, and how many they are. -/
theorem rows_of_indices (slice : Slice) :
    (∀ length : Nat, slice.stride ≠ 0 → length ≤ 2 ^ 53 → slice.stride.natAbs ≤ 2 ^ 53 →
      ∃ start stop : Int,
        slice.indices length = .ok (start, stop, slice.stride) ∧
          (∀ row : Int, row ∈ spacing start stop slice.stride ↔ slice.Picks length row) ∧
          (0 < slice.stride → (spacing start stop slice.stride).Pairwise (· < ·)) ∧
          (slice.stride < 0 → (spacing start stop slice.stride).Pairwise (· > ·)) ∧
          (Subselection.range start stop slice.stride).rangeLength? =
            some (spacing start stop slice.stride).length) ∧
      (slice.stride = 0 →
        (∀ length : Nat, slice.indices length = .error zeroStep) ∧
          ∀ (m : Type → Type) [Monad m] [LawfulMonad m] (rows : ExceptT DataError m Length),
            slice.resolve rows = throw zeroStep) := by
  constructor
  · intro length nonzero few small
    have ordered := spacing_ordered (slice.confine length (slice.first length))
      (slice.confine length (slice.last length)) slice.stride
    refine ⟨_, _, indices_ok slice length nonzero, mem_rows slice length, ?_, ?_,
      rangeLength_confine slice length nonzero few small _ _⟩
    · intro forward
      exact ordered.imp fun before => Before.lt _ _ _ before forward
    · intro backward
      exact ordered.imp fun before => Before.gt _ _ _ before backward
  · intro zero
    exact ⟨fun length => indices_error slice length zero,
      fun m _ _ rows => resolve_zeroStep slice zero rows⟩

/-- Every third row from the end on, and a step that leads nowhere. -/
theorem rows_of_indices_backward :
    (({ step := some (-3) } : Slice).indices 10 = .ok (9, -1, -3) ∧
      (∀ row : Int, row ∈ spacing 9 (-1) (-3) ↔ ({ step := some (-3) } : Slice).Picks 10 row) ∧
      (spacing 9 (-1) (-3)).Pairwise (· > ·) ∧
      (Subselection.range 9 (-1) (-3)).rangeLength? = some 4) ∧
      ∀ rows : ExceptT DataError (StateM Nat) Length,
        ({ step := some 0 } : Slice).resolve rows = throw zeroStep := by
  constructor
  · obtain ⟨start, stop, found, picks, _, descending, counted⟩ :=
      (rows_of_indices { step := some (-3) }).1 10 (by decide) (by decide) (by decide)
    cases found
    have four : ⌈((-1 - 9 : Int) : ℚ) / (-3 : Int)⌉ = 4 := by norm_num
    refine ⟨rfl, picks, descending (by decide), counted.trans ?_⟩
    exact congrArg some ((length_spacing 9 (-1) (-3)).trans (congrArg Int.toNat four))
  · exact ((rows_of_indices { step := some 0 }).2 rfl).2 (StateM Nat)

end Slice

end RelationalLearning
