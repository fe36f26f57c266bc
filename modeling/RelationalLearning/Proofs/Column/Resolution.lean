import Mathlib.Data.List.Sort
import RelationalLearning.Proofs.Column.Reading
import RelationalLearning.Proofs.Column.Slicing

/-!
A slice is resolved in three ways: without knowing how many rows there are, for a known number of
rows, and for rows without end. All three pick the same rows, in the same order.
-/

namespace RelationalLearning

def rowOf? (length : Nat) (number : ℚ) : Option Nat :=
  (List.range length).find? fun row => (row : ℚ) = number

theorem rowOf?_eq_some (length : Nat) (number : Int) (row : Nat) :
    rowOf? length number = some row ↔ row < length ∧ (row : Int) = number := by
  have cast (other : Nat) : ((other : ℚ) = number) ↔ (other : Int) = number := by
    exact_mod_cast Iff.rfl
  simp only [rowOf?, List.find?_range_eq_some, decide_eq_true_eq, List.mem_range, cast]
  constructor
  · rintro ⟨same, inside, -⟩
    exact ⟨inside, same⟩
  · rintro ⟨inside, same⟩
    refine ⟨same, inside, ?_⟩
    intro other before
    have : (other : Int) ≠ number := by omega
    simp [this]

def Column.spaced? : Column → Option (List ℚ)
  | .view .float .arange .none (.range start stop step) => do
    let first ← Binary64.number? start
    let distance ← Binary64.number? step
    return (List.range (arangeLength start stop step)).map fun place : Nat => first + place * distance
  | _ => none

/-- The rows that a filter picks of `length` rows, in the order in which it picks them. -/
def Subselection.rows? (length : Nat) : Subselection → Option (List Nat)
  | .range start stop step =>
    (column (.range start stop step)).spaced?.map (List.filterMap (rowOf? length))
  | .mask chosen =>
    some ((List.range length).filter fun row => chosen.truth? (Column.atRow row) = some true)
  | .numbers _ => none

theorem spacing_eq_map (start stop step : Int) :
    spacing start stop step =
      (List.range (spacing start stop step).length).map fun place : Nat => start + place * step := by
  fun_induction spacing start stop step with
  | case1 start before ih =>
      rw [List.length_cons, List.range_succ_eq_map, List.map_cons, List.map_map]
      refine congrArg₂ _ (by simp) (ih.trans ?_)
      refine List.map_congr_left fun place _ => ?_
      simp only [Function.comp_apply, Nat.cast_succ]
      ring
  | case2 => rfl

/-- Going by whole numbers that are not too large, nothing is rounded. -/
theorem spaced?_range (start stop step : Int) (nonzero : step ≠ 0)
    (starts : start.natAbs ≤ 2 ^ 53) (stops : stop.natAbs ≤ 2 ^ 53) (steps : step.natAbs ≤ 2 ^ 53)
    (apart : (stop - start).natAbs ≤ 2 ^ 53) :
    (Subselection.range start stop step).column.spaced? =
      some ((spacing start stop step).map fun number : Int => (number : ℚ)) := by
  have count := Column.arangeLength_ofInt start stop step nonzero starts stops steps apart
  rw [← length_spacing] at count
  rw [spacing_eq_map, List.map_map]
  simp only [Subselection.column, Column.arange, Column.spaced?, Binary64.number?_ofInt start starts,
    Binary64.number?_ofInt step steps, count]
  refine congrArg some (List.map_congr_left fun place _ => ?_)
  simp

def rowsWithin (length : Nat) (start stop step : Int) : List Nat :=
  (spacing start stop step).filterMap fun number : Int => rowOf? length number

theorem rows?_range (length : Nat) (start stop step : Int) (nonzero : step ≠ 0)
    (starts : start.natAbs ≤ 2 ^ 53) (stops : stop.natAbs ≤ 2 ^ 53) (steps : step.natAbs ≤ 2 ^ 53)
    (apart : (stop - start).natAbs ≤ 2 ^ 53) :
    (Subselection.range start stop step).rows? length = some (rowsWithin length start stop step) := by
  rw [Subselection.rows?, spaced?_range start stop step nonzero starts stops steps apart]
  simp [rowsWithin, List.filterMap_map]

theorem mem_rowsWithin (length : Nat) (start stop step : Int) (row : Nat) :
    row ∈ rowsWithin length start stop step ↔ row < length ∧ (row : Int) ∈ spacing start stop step := by
  simp only [rowsWithin, List.mem_filterMap, rowOf?_eq_some]
  constructor
  · rintro ⟨number, found, inside, rfl⟩
    exact ⟨inside, found⟩
  · rintro ⟨inside, found⟩
    exact ⟨row, found, inside, rfl⟩

theorem rowsWithin_increasing (length : Nat) (start stop step : Int) (forward : 0 < step) :
    (rowsWithin length start stop step).Pairwise (· < ·) := by
  refine (spacing_ordered start stop step).filterMap _ ?_
  intro first second before row isRow other isOther
  obtain ⟨-, rfl⟩ := (rowOf?_eq_some _ _ _).mp isRow
  obtain ⟨-, rfl⟩ := (rowOf?_eq_some _ _ _).mp isOther
  exact_mod_cast Before.lt _ _ _ before forward

namespace Slice

structure Exact (slice : Slice) (length : Nat) : Prop where
  start : ∀ bound, slice.start = some bound → bound.natAbs ≤ 2 ^ 53
  stop : ∀ bound, slice.stop = some bound → bound.natAbs ≤ 2 ^ 53
  stride : slice.stride.natAbs ≤ 2 ^ 53
  length : length ≤ 2 ^ 53

/-- A filter picks the rows that the slice has for a known number of rows, in the same order. -/
def Agrees (slice : Slice) (length : Nat) (chosen : Subselection) : Prop :=
  ∃ start stop rows, slice.indices length = .ok (start, stop, slice.stride) ∧
    (Subselection.range start stop slice.stride).rows? length = some rows ∧
      chosen.rows? length = some rows

theorem rows?_indices (slice : Slice) (length : Nat) (nonzero : slice.stride ≠ 0)
    (exact : slice.Exact length) :
    (Subselection.range (slice.confine length (slice.first length))
        (slice.confine length (slice.last length)) slice.stride).rows? length =
      some (rowsWithin length (slice.confine length (slice.first length))
        (slice.confine length (slice.last length)) slice.stride) := by
  have few := exact.length
  refine rows?_range _ _ _ _ nonzero ?_ ?_ exact.stride ?_
  all_goals
    unfold confine
    split <;> omega

theorem agrees_of_mem (slice : Slice) (length : Nat) (forward : 0 < slice.stride)
    (exact : slice.Exact length) (chosen : Subselection) (rows : List Nat)
    (told : chosen.rows? length = some rows) (increasing : rows.Pairwise (· < ·))
    (same : ∀ row, row ∈ rows ↔ row < length ∧ slice.Picks length row) :
    slice.Agrees length chosen := by
  have nonzero := forward.ne'
  refine ⟨_, _, rows, indices_ok slice length nonzero, ?_, told⟩
  rw [rows?_indices slice length nonzero exact]
  refine congrArg some ((rowsWithin_increasing _ _ _ _ forward).eq_of_mem_iff increasing ?_)
  intro row
  rw [mem_rowsWithin, mem_rows, same]

/-- A slice without an end of rows without end, going forward from a row that is known. -/
def Endless (slice : Slice) : Prop :=
  0 < slice.stride ∧ slice.stop = none ∧ ∀ bound ∈ slice.start, 0 ≤ bound

instance (slice : Slice) : Decidable slice.Endless :=
  inferInstanceAs (Decidable (_ ∧ _ ∧ _))

def answer (slice : Slice) : Length → Except DataError Subselection
  | .finite length => (slice.indices length).map fun (start, stop, step) => .range start stop step
  | length =>
    if length = .infinite ∧ slice.Endless then
      .ok (.mask (everyRowFrom (slice.start.getD 0) slice.stride))
    else
      .error (.index s!"Cannot resolve the slice {slice.quoted} on a column of {length.display} length.")

section

variable {m : Type → Type} [Monad m]

theorem liftM_ok {ε α : Type} (value : α) :
    (liftM (Except.ok value : Except ε α) : ExceptT ε m α) = pure value := rfl

variable [LawfulMonad m] (rows : ExceptT DataError m Length)

theorem resolve_closed (slice : Slice) (nonzero : slice.stride ≠ 0)
    (closed : slice.needsLength = false) :
    slice.resolve rows =
      pure (.range (slice.start.getD 0) (max (slice.stop.getD (slice.start.getD 0))
        (slice.start.getD 0)) slice.stride) := by
  rw [resolve, nonzeroStep_ok slice nonzero, liftM_ok, pure_bind, closed]
  rfl

theorem resolve_open (slice : Slice) (nonzero : slice.stride ≠ 0)
    (opened : slice.needsLength = true) :
    slice.resolve rows = rows >>= fun length => liftM (slice.answer length) := by
  have condition : (Length.infinite = .infinite && slice.stride > 0 && slice.stop.isNone &&
      slice.start.all (0 ≤ ·)) = true ↔ slice.Endless := by
    simp [Endless, and_assoc, Option.all_eq_true]
  rw [resolve, nonzeroStep_ok slice nonzero, liftM_ok, pure_bind, opened]
  refine congrArg (rows >>= ·) (funext fun length => ?_)
  cases length with
  | finite length =>
      simp only [answer, indices_ok slice length nonzero, liftM_ok, pure_bind, Except.map]
  | infinite =>
      change _ = liftM (if Length.infinite = .infinite ∧ slice.Endless then _ else _)
      by_cases endless : slice.Endless
      · rw [if_pos ⟨rfl, endless⟩]
        exact if_pos (condition.mpr endless)
      · rw [if_neg fun both => endless both.2]
        exact if_neg fun both => endless (condition.mp both)
  | unknown => rfl

end

theorem known_of_closed (slice : Slice) (nonzero : slice.stride ≠ 0)
    (closed : slice.needsLength = false) :
    0 < slice.stride ∧ (∀ bound, slice.start = some bound → 0 ≤ bound) ∧
      ∃ bound, slice.stop = some bound ∧ 0 ≤ bound := by
  simp only [needsLength, Bool.or_eq_false_iff, Option.any_eq_false, Option.all_eq_false,
    decide_eq_false_iff_not, not_lt] at closed
  obtain ⟨⟨forward, start⟩, stop⟩ := closed
  refine ⟨?_, start, stop⟩
  unfold stride at *
  cases given : slice.step with
  | none => decide
  | some step =>
      rw [given] at nonzero
      exact lt_of_le_of_ne (forward step given) nonzero.symm

theorem placed_of_nonneg (length : Nat) (bound : Int) (nonneg : 0 ≤ bound) :
    placed length bound = bound := if_neg (not_lt.mpr nonneg)

section

variable (slice : Slice) (length : Nat) (forward : 0 < slice.stride)
  (starts : ∀ bound, slice.start = some bound → 0 ≤ bound)

include starts in
theorem start_nonneg : 0 ≤ slice.start.getD 0 := by
  cases given : slice.start with
  | none => exact le_refl 0
  | some start => exact starts start given

theorem Exact.start_small (exact : slice.Exact length) :
    (slice.start.getD 0).natAbs ≤ 2 ^ 53 := by
  cases given : slice.start with
  | none => decide
  | some start => exact exact.start start given

include forward starts in
theorem first_eq : slice.first length = slice.start.getD 0 := by
  unfold first
  cases given : slice.start with
  | none => exact if_pos forward
  | some start => exact placed_of_nonneg length start (starts start given)

include forward starts in
theorem picks_iff (row : Nat) :
    row < length ∧ slice.Picks length row ↔
      row < length ∧ slice.start.getD 0 ≤ row ∧ row < slice.last length ∧
        slice.stride ∣ row - slice.start.getD 0 := by
  have begins := slice.first_eq length forward starts
  have positive := slice.start_nonneg starts
  have counted : slice.origin length = slice.start.getD 0 := by
    rw [origin, if_pos forward, begins, max_eq_left positive]
  constructor
  · rintro ⟨inside, -, -, late, early, reached⟩
    rw [begins] at late
    rw [counted] at reached
    unfold Before at late early
    exact ⟨inside, by omega, by omega, reached⟩
  · rintro ⟨inside, late, early, reached⟩
    refine ⟨inside, by omega, by omega, ?_, .inl ⟨forward, early⟩, by rwa [counted]⟩
    rw [begins]
    unfold Before
    omega

end

theorem agrees_closed (slice : Slice) (length : Nat) (nonzero : slice.stride ≠ 0)
    (closed : slice.needsLength = false) (exact : slice.Exact length) :
    slice.Agrees length (.range (slice.start.getD 0) (max (slice.stop.getD (slice.start.getD 0))
      (slice.start.getD 0)) slice.stride) := by
  obtain ⟨forward, starts, stop, stops, positive⟩ := slice.known_of_closed nonzero closed
  have ends : slice.last length = stop := by
    rw [last, stops]
    exact placed_of_nonneg length stop positive
  have begins := slice.start_nonneg starts
  have low := exact.start_small
  have high := exact.stop stop stops
  rw [stops, Option.getD_some]
  refine slice.agrees_of_mem length forward exact _ _
    (rows?_range length _ _ _ nonzero low (by omega) exact.stride (by omega))
    (rowsWithin_increasing length _ _ _ forward) ?_
  intro row
  rw [mem_rowsWithin, mem_spacing, slice.picks_iff length forward starts, ends]
  constructor
  · rintro ⟨inside, early, late, reached⟩
    unfold Before at early late
    exact ⟨inside, by omega, by omega, reached⟩
  · rintro ⟨inside, late, early, reached⟩
    refine ⟨inside, .inl ⟨forward, by omega⟩, ?_, reached⟩
    unfold Before
    omega

theorem agrees_endless (slice : Slice) (length : Nat) (endless : slice.Endless)
    (exact : slice.Exact length) :
    slice.Agrees length (.mask (everyRowFrom (slice.start.getD 0) slice.stride)) := by
  obtain ⟨forward, unstopped, starts⟩ := endless
  have ends : slice.last length = length := by
    rw [last, unstopped]
    exact if_pos forward
  refine slice.agrees_of_mem length forward exact _ _ rfl
    (List.pairwise_lt_range.filter _) ?_
  intro row
  rw [slice.picks_iff length forward starts, ends, List.mem_filter, List.mem_range,
    truth?_everyRowFrom row _ _ forward.ne' exact.start_small exact.stride]
  simp only [Option.some.injEq, decide_eq_true_eq]
  constructor
  · rintro ⟨inside, late, reached⟩
    exact ⟨inside, late, by exact_mod_cast inside, reached⟩
  · rintro ⟨inside, late, -, reached⟩
    exact ⟨inside, late, reached⟩

/--
However a slice is resolved, the rows are those for a known number of rows. How many rows there are
is asked once if the answer depends on it, and otherwise never.
-/
theorem answers_agree (slice : Slice) :
    (slice.stride = 0 →
      ∀ (m : Type → Type) [Monad m] [LawfulMonad m] (rows : ExceptT DataError m Length),
        slice.resolve rows = throw zeroStep) ∧
    (slice.stride ≠ 0 → slice.needsLength = false →
      ∃ start stop,
        (∀ (m : Type → Type) [Monad m] [LawfulMonad m] (rows : ExceptT DataError m Length),
          slice.resolve rows = pure (.range start stop slice.stride)) ∧
        ∀ length, slice.Exact length → slice.Agrees length (.range start stop slice.stride)) ∧
    (slice.stride ≠ 0 → slice.needsLength = true →
      (∀ (m : Type → Type) [Monad m] [LawfulMonad m] (rows : ExceptT DataError m Length),
        slice.resolve rows = rows >>= fun length => liftM (slice.answer length)) ∧
      (∀ length : Nat, ∃ start stop, slice.indices length = .ok (start, stop, slice.stride) ∧
        slice.answer (.finite length) = .ok (.range start stop slice.stride)) ∧
      (slice.Endless → ∃ mask, slice.answer .infinite = .ok (.mask mask) ∧
        ∀ length, slice.Exact length → slice.Agrees length (.mask mask)) ∧
      ∀ length : Length, length.finite? = none → ¬ (length = .infinite ∧ slice.Endless) →
        ∃ reason, slice.answer length = .error (.index reason)) := by
  refine ⟨fun zero m _ _ rows => resolve_zeroStep slice zero rows, ?_, ?_⟩
  · intro nonzero closed
    exact ⟨_, _, fun m _ _ rows => resolve_closed rows slice nonzero closed,
      fun length exact => agrees_closed slice length nonzero closed exact⟩
  · intro nonzero opened
    refine ⟨fun m _ _ rows => resolve_open rows slice nonzero opened, ?_, ?_, ?_⟩
    · intro length
      refine ⟨_, _, indices_ok slice length nonzero, ?_⟩
      rw [answer, indices_ok slice length nonzero]
      rfl
    · intro endless
      exact ⟨_, if_pos ⟨rfl, endless⟩, fun length exact => agrees_endless slice length endless exact⟩
    · intro length unknown other
      cases length with
      | finite length => cases unknown
      | infinite => exact ⟨_, if_neg other⟩
      | unknown => exact ⟨_, rfl⟩

/-- Every third row from the second on is picked by a mask where there is no last row. -/
theorem answers_agree_endless :
    ({ start := some 2, step := some 3 } : Slice).needsLength = true ∧
      (∃ mask, ({ start := some 2, step := some 3 } : Slice).answer .infinite = .ok (.mask mask) ∧
        ({ start := some 2, step := some 3 } : Slice).Agrees 10 (.mask mask)) ∧
      ∃ start stop, ({ start := some 2, stop := some 90, step := some 3 } : Slice).Agrees 10
        (.range start stop 3) := by
  refine ⟨rfl, ?_, ?_⟩
  · obtain ⟨mask, answered, agrees⟩ :=
      ((answers_agree { start := some 2, step := some 3 }).2.2 (by decide) rfl).2.2.1 (by decide)
    exact ⟨mask, answered, agrees 10 ⟨by simp, by simp, by decide, by decide⟩⟩
  · obtain ⟨start, stop, -, agrees⟩ :=
      (answers_agree { start := some 2, stop := some 90, step := some 3 }).2.1 (by decide) rfl
    exact ⟨start, stop, agrees 10 ⟨by simp, by simp, by decide, by decide⟩⟩

end Slice

end RelationalLearning
