import Mathlib.Algebra.Order.Ring.Int

/-! # Calendar days at a fixed offset

Instants are integers on one time line. A zone with a fixed offset divides the line into days of equal
length, and an instant is determined there by its day and by its time of day.
-/

namespace CivilDays

variable (dayLength offset : ℤ)

/-- The day of an instant. -/
def dayOf (instant : ℤ) : ℤ := (instant + offset) / dayLength

/-- The time of day of an instant. -/
def clockOf (instant : ℤ) : ℤ := (instant + offset) % dayLength

/-- A time of day, on the day after an instant's. -/
def nextDayAt (clock instant : ℤ) : ℤ := (dayOf dayLength offset instant + 1) * dayLength + clock - offset

variable {dayLength offset} {clock : ℤ}

theorem dayOf_mul_add_clockOf (instant : ℤ) :
    dayOf dayLength offset instant * dayLength + clockOf dayLength offset instant = instant + offset := by
  rw [mul_comm]
  exact Int.mul_ediv_add_emod _ _

section Days

variable (long : 0 < dayLength)

include long

theorem dayOf_le_dayOf {first second : ℤ} (order : first ≤ second) :
    dayOf dayLength offset first ≤ dayOf dayLength offset second :=
  Int.ediv_le_ediv long (Int.add_le_add_right order offset)

theorem nextDayAt_le_nextDayAt_iff {first second : ℤ} :
    nextDayAt dayLength offset clock first ≤ nextDayAt dayLength offset clock second ↔
      dayOf dayLength offset first ≤ dayOf dayLength offset second := by
  have scaled : (dayOf dayLength offset first + 1) * dayLength ≤ (dayOf dayLength offset second + 1) * dayLength ↔
      dayOf dayLength offset first + 1 ≤ dayOf dayLength offset second + 1 := mul_le_mul_iff_left₀ long
  unfold nextDayAt
  omega

theorem nextDayAt_le_nextDayAt {first second : ℤ} (order : first ≤ second) :
    nextDayAt dayLength offset clock first ≤ nextDayAt dayLength offset clock second :=
  (nextDayAt_le_nextDayAt_iff long).mpr (dayOf_le_dayOf long order)

/-- The time of day on the next day is less than a day and the time of day away. -/
theorem nextDayAt_sub_bounds (instant : ℤ) :
    clock < nextDayAt dayLength offset clock instant - instant ∧
      nextDayAt dayLength offset clock instant - instant ≤ clock + dayLength := by
  have split := @dayOf_mul_add_clockOf dayLength offset instant
  have lower : 0 ≤ clockOf dayLength offset instant := Int.emod_nonneg _ long.ne'
  have upper : clockOf dayLength offset instant < dayLength := Int.emod_lt_of_pos _ long
  unfold nextDayAt
  rw [add_mul, one_mul]
  omega

variable (nonneg : 0 ≤ clock) (within : clock < dayLength)

include nonneg within

/-- The only instant with that time of day on the next day. -/
theorem eq_nextDayAt_iff {instant other : ℤ} :
    other = nextDayAt dayLength offset clock instant ↔
      dayOf dayLength offset other = dayOf dayLength offset instant + 1 ∧ clockOf dayLength offset other = clock := by
  constructor
  · rintro rfl
    unfold dayOf clockOf nextDayAt
    rw [sub_add_cancel, add_comm _ clock, Int.add_mul_ediv_right _ _ long.ne', Int.add_mul_emod_self_right,
      Int.ediv_eq_zero_of_lt nonneg within, Int.emod_eq_of_lt nonneg within]
    exact ⟨zero_add _, rfl⟩
  · rintro ⟨day, time⟩
    have split := @dayOf_mul_add_clockOf dayLength offset other
    rw [day, time] at split
    unfold nextDayAt
    omega

end Days

end CivilDays
