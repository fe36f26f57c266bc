import RelationalLearning.Calendar
import RelationalLearning.Proofs.Binary64.Sum

namespace RelationalLearning

structure Moment.OnCalendar (moment : Moment) : Prop where
  year : -262143 ≤ moment.year ∧ moment.year ≤ 262142
  month : 1 ≤ moment.month ∧ moment.month ≤ 12
  day : 1 ≤ moment.day ∧ moment.day ≤ Calendar.daysIn moment.year moment.month
  hour : moment.hour < 24
  minute : moment.minute < 60
  second : moment.second ≤ 60
  nanosecond : moment.nanosecond < 1000000000

theorem Calendar.daysIn_le (year : Int) (month : Nat) : daysIn year month ≤ 31 := by
  unfold daysIn
  split
  · split <;> decide
  all_goals decide

theorem Calendar.dayNumber_le (year : Int) (month day : Nat) (low : -999999 ≤ year)
    (high : year ≤ 999999) (within : day ≤ 31) : (dayNumber year month day).natAbs ≤ 999999999 := by
  unfold dayNumber
  simp only [Int.fdiv_eq_ediv_of_nonneg _ (by decide : (0 : Int) ≤ 400),
    Int.fdiv_eq_ediv_of_nonneg _ (by decide : (0 : Int) ≤ 5),
    Int.fdiv_eq_ediv_of_nonneg _ (by decide : (0 : Int) ≤ 4),
    Int.fdiv_eq_ediv_of_nonneg _ (by decide : (0 : Int) ≤ 100)]
  omega

namespace Moment

theorem wholeSeconds_le (moment : Moment) (real : moment.OnCalendar) :
    moment.wholeSeconds.natAbs ≤ 2 ^ 53 := by
  have days : moment.day ≤ 31 := le_trans real.day.2 (Calendar.daysIn_le _ _)
  have number := Calendar.dayNumber_le moment.year moment.month moment.day
    (by have := real.year.1; omega) (by have := real.year.2; omega) days
  have hour := real.hour
  have minute := real.minute
  unfold wholeSeconds
  omega

theorem isFinite_seconds (moment : Moment) (real : moment.OnCalendar) :
    moment.seconds.isFinite = true := by
  have whole := moment.wholeSeconds_le real
  have rest : moment.restNanoseconds ≤ 2 ^ 53 := by
    have := real.nanosecond
    unfold restNanoseconds
    split <;> omega
  have numerator : Binary64.Holds (Float.ofNat moment.restNanoseconds)
      ((moment.restNanoseconds : Int) : ℚ) := by
    rw [Int.cast_natCast]
    exact Binary64.holds_ofNat _ rest
  have denominator : Binary64.Holds 1e9 ((1000000000 : Int) : ℚ) := by
    have same : (1e9 : Float) = Float.ofInt 1000000000 := by decide +kernel
    rw [same]
    exact Binary64.holds_ofInt 1000000000 (by decide)
  obtain ⟨fraction, held, moderate⟩ :=
    Binary64.moderate_quotient _ _ _ _ numerator denominator (by decide) rest (by decide)
  have wholes := Binary64.holds_ofInt _ whole
  exact Binary64.isFinite_add _ _ _ _ wholes held (Binary64.moderate_whole _ whole) moderate

end Moment
end RelationalLearning
