import PortfolioManager.Domain.Temporal

/-! # Times as a zone writes them

A zone gives an offset to each wall-clock reading, which may depend on `fold` where the clock is set
back or forward. Values of one zone are compared by their readings; across zones the instants are
compared, and a value whose offset depends on `fold` equals nothing. Only on UTC values are these
comparisons those of the instants.
-/

namespace PortfolioManager.Domain

open PortfolioManager.Python Checked

/-- The instant that a reading denotes, if it is aware and has a UTC value. -/
def Datetime.instant? (value : Datetime) : Option Instant :=
  match value.utcoffset with
  | none => none
  | some offset => if inRange : InDatetimeRange (value.wall - offset) then some ⟨value.wall - offset, inRange⟩ else none

theorem asUtc_eq_ok_iff_instant? {value : Datetime} {fieldName : String} {time : Instant} :
    asUtc value fieldName = .ok time ↔ value.instant? = some time := by
  cases zone : value.utcoffset with
  | none => simp [asUtc, Datetime.instant?, zone]
  | some offset =>
    simp only [asUtc, Datetime.instant?, zone]
    split_ifs with inRange
    · rw [check_of _ inRange, ok_bind, pure_eq_ok_iff, Option.some.injEq]
    · rw [check_of_not _ inRange, error_bind]
      simp

@[simp] theorem Instant.instant?_toDatetime (time : Instant) : time.toDatetime.instant? = some time :=
  asUtc_eq_ok_iff_instant?.mp (asUtc_toDatetime time "timestamp")

/-- The readings have the same UTC value, or are refused with the same error. -/
def SameTime (reading reading' : Datetime) : Prop := ∀ fieldName, asUtc reading fieldName = asUtc reading' fieldName

/-- Readings of one instant have the same UTC value. -/
theorem SameTime.of_instant? {reading reading' : Datetime} (same : reading.instant? = reading'.instant?)
    (denotes : reading.instant?.isSome = true) : SameTime reading reading' := by
  obtain ⟨time, found⟩ := Option.isSome_iff_exists.mp denotes
  intro fieldName
  rw [asUtc_eq_ok_iff_instant?.mpr found, asUtc_eq_ok_iff_instant?.mpr (same ▸ found)]

/-- A `tzinfo` object, with the `utcoffset` it gives to a wall-clock reading and its `fold`. -/
structure Zone where
  identity : ℕ
  utcoffset : ℤ → Bool → Option ℤ
  bounded : ∀ wall fold, ∀ offset ∈ utcoffset wall fold, -microsPerDay < offset ∧ offset < microsPerDay

def Zone.utc : Zone where
  identity := 0
  utcoffset _ _ := some 0
  bounded := by simp [microsPerDay]

structure LocalTime where
  wall : ℤ
  fold : Bool
  tzinfo : Option Zone
  inRange : InDatetimeRange wall

namespace LocalTime

variable {time other : LocalTime}

def utcoffset (time : LocalTime) : Option ℤ := time.tzinfo.bind (·.utcoffset time.wall time.fold)

/-- What a conversion to UTC reads of a time. -/
def reading (time : LocalTime) : Datetime where
  wall := time.wall
  utcoffset := time.utcoffset
  inRange := time.inRange
  offsetBound := by
    rintro offset found
    obtain ⟨zone, _, found⟩ := Option.bind_eq_some_iff.mp found
    exact zone.bounded _ _ offset found

/-- The instant that a time denotes, if it is aware and has a UTC value. -/
def instant? (time : LocalTime) : Option Instant := time.reading.instant?

/-- The offset depends on `fold`: the time is repeated or skipped. -/
def Ambiguous (time : LocalTime) : Prop :=
  time.tzinfo.bind (·.utcoffset time.wall time.fold) ≠ time.tzinfo.bind (·.utcoffset time.wall !time.fold)

open scoped Classical in
/-- `==` on `datetime` values. -/
def Equals (time other : LocalTime) : Prop :=
  if time.tzinfo = other.tzinfo then time.wall = other.wall
  else
    ¬time.Ambiguous ∧ ¬other.Ambiguous ∧
      match time.utcoffset, other.utcoffset with
      | some offset, some offset' => time.wall - offset = other.wall - offset'
      | none, none => time.wall = other.wall
      | _, _ => False

open scoped Classical in
/-- `<` on `datetime` values, where it does not raise. -/
def Precedes (time other : LocalTime) : Prop :=
  if time.tzinfo = other.tzinfo then time.wall < other.wall
  else
    match time.utcoffset, other.utcoffset with
    | some offset, some offset' => time.wall - offset < other.wall - offset'
    | none, none => time.wall < other.wall
    | _, _ => False

end LocalTime

/-- The UTC value of an instant. -/
def Instant.toLocal (time : Instant) : LocalTime where
  wall := time.micros
  fold := false
  tzinfo := some Zone.utc
  inRange := time.inRange

namespace Instant

variable {time other : Instant}

theorem reading_toLocal (time : Instant) : time.toLocal.reading = time.toDatetime := rfl

theorem tzinfo_toLocal (time other : Instant) : time.toLocal.tzinfo = other.toLocal.tzinfo := rfl

/-- On UTC values, `==` is equality of instants. -/
theorem equals_toLocal_iff : time.toLocal.Equals other.toLocal ↔ time = other := by
  rw [LocalTime.Equals, if_pos (tzinfo_toLocal time other)]
  exact micros_injective.eq_iff

/-- On UTC values, `<` is the order of instants. -/
theorem precedes_toLocal_iff : time.toLocal.Precedes other.toLocal ↔ time < other := by
  rw [LocalTime.Precedes, if_pos (tzinfo_toLocal time other)]
  rfl

end Instant

end PortfolioManager.Domain
