import PortfolioManager.Library.Checked
import PortfolioManager.Python.Text
import Mathlib.Order.Lattice

/-! # Time primitives that preserve explicit UTC instants

A `Datetime` is a wall-clock reading with the value of its `utcoffset()`, absent for naive
values. Both are counted in microseconds from the first representable midnight. `asUtc` is the
only way from a reading to an `Instant`, and it fails on naive readings and on readings whose
UTC value leaves the representable range.
-/

namespace PortfolioManager.Domain

open PortfolioManager.Python Checked

/-- Microseconds in one day. -/
def microsPerDay : ℤ := 86400000000

/-- Microseconds between `datetime.min` and the end of year 9999. -/
def datetimeSpan : ℤ := 3652059 * microsPerDay

def InDatetimeRange (micros : ℤ) : Prop := 0 ≤ micros ∧ micros < datetimeSpan

instance (micros : ℤ) : Decidable (InDatetimeRange micros) := inferInstanceAs (Decidable (_ ∧ _))

structure Datetime where
  wall : ℤ
  utcoffset : Option ℤ
  inRange : InDatetimeRange wall := by decide
  offsetBound : ∀ offset ∈ utcoffset, -microsPerDay < offset ∧ offset < microsPerDay := by decide
deriving DecidableEq

/-- A UTC value: an aware `datetime` whose offset is zero. -/
structure Instant where
  micros : ℤ
  inRange : InDatetimeRange micros := by decide
deriving DecidableEq

namespace Instant

theorem micros_injective : Function.Injective Instant.micros := by
  rintro ⟨first, _⟩ ⟨second, _⟩ same
  cases same
  rfl

instance : LinearOrder Instant := LinearOrder.lift' Instant.micros micros_injective

/-- `datetime + timedelta`, with the delta in microseconds. -/
def add (time : Instant) (delta : ℤ) : Except Builtin Instant := do
  let ⟨inRange⟩ ← check (InDatetimeRange (time.micros + delta)) (.overflowError "date value out of range")
  return ⟨time.micros + delta, inRange⟩

theorem add_eq_ok_iff {time result : Instant} {delta : ℤ} :
    time.add delta = .ok result ↔ result.micros = time.micros + delta := by
  simp only [add, check_bind_eq_ok_iff, pure_eq_ok_iff]
  constructor
  · rintro ⟨_, rfl⟩
    rfl
  · intro same
    exact ⟨same ▸ result.inRange, micros_injective same.symm⟩

/-- The aware reading that denotes the instant directly. -/
def toDatetime (time : Instant) : Datetime where
  wall := time.micros
  utcoffset := some 0
  inRange := time.inRange
  offsetBound := by simp [microsPerDay]

end Instant

/-- A `date`, by its proleptic ordinal. -/
structure Date where
  ordinal : ℕ
  inRange : 1 ≤ ordinal ∧ ordinal ≤ 3652059 := by decide
deriving DecidableEq

theorem Date.ordinal_injective : Function.Injective Date.ordinal := by
  rintro ⟨first, _⟩ ⟨second, _⟩ same
  cases same
  rfl

instance : LinearOrder Date := LinearOrder.lift' Date.ordinal Date.ordinal_injective

namespace Datetime

/-- A reading is aware when its zone yields an offset. -/
def Aware (value : Datetime) : Prop := value.utcoffset.isSome = true

/-- Readings that denote an instant in range. -/
def Convertible (value : Datetime) : Prop :=
  ∃ offset, value.utcoffset = some offset ∧ InDatetimeRange (value.wall - offset)

end Datetime

def asUtc (value : Datetime) (fieldName : String) : Except Builtin Instant :=
  match value.utcoffset with
  | none => .error (.valueError s!"{fieldName} must be timezone-aware")
  | some offset => do
      let ⟨inRange⟩ ← check (InDatetimeRange (value.wall - offset)) (.overflowError "date value out of range")
      return ⟨value.wall - offset, inRange⟩

theorem asUtc_eq_ok_iff {value : Datetime} {fieldName : String} {time : Instant} :
    asUtc value fieldName = .ok time ↔ ∃ offset, value.utcoffset = some offset ∧ time.micros = value.wall - offset := by
  cases zone : value.utcoffset with
  | none => simp [asUtc, zone]
  | some offset =>
    simp only [asUtc, zone, check_bind_eq_ok_iff, pure_eq_ok_iff, Option.some.injEq, exists_eq_left']
    constructor
    · rintro ⟨_, rfl⟩
      rfl
    · intro same
      exact ⟨same ▸ time.inRange, Instant.micros_injective same.symm⟩

/-- Conversion succeeds exactly on aware readings whose UTC value is representable. -/
theorem exists_asUtc_iff {value : Datetime} (fieldName : String) :
    (∃ time, asUtc value fieldName = .ok time) ↔ value.Convertible := by
  constructor
  · rintro ⟨time, converted⟩
    obtain ⟨offset, zone, same⟩ := asUtc_eq_ok_iff.mp converted
    exact ⟨offset, zone, same ▸ time.inRange⟩
  · rintro ⟨offset, zone, inRange⟩
    exact ⟨⟨_, inRange⟩, asUtc_eq_ok_iff.mpr ⟨offset, zone, rfl⟩⟩

/-- The arguments of `TimeRange`. -/
structure TimeRangeFields (Time : Type) where
  start : Time
  end_ : Time
deriving DecidableEq

structure TimeRange extends TimeRangeFields Instant where
  ordered : start ≤ end_
deriving DecidableEq

def TimeRange.new (fields : TimeRangeFields Datetime) : Except Builtin TimeRange := do
  let start ← asUtc fields.start "range start"
  let end_ ← asUtc fields.end_ "range end"
  let ⟨ordered⟩ ← check (start ≤ end_) (.valueError "range end cannot precede range start")
  return ⟨⟨start, end_⟩, ordered⟩

theorem TimeRange.new_eq_ok_iff {fields : TimeRangeFields Datetime} {range : TimeRange} :
    TimeRange.new fields = .ok range ↔
      asUtc fields.start "range start" = .ok range.start ∧ asUtc fields.end_ "range end" = .ok range.end_ := by
  simp only [TimeRange.new, bind_eq_ok_iff, pure_eq_ok_iff]
  constructor
  · rintro ⟨start, started, end_, ended, _, _, rfl⟩
    exact ⟨started, ended⟩
  · rintro ⟨started, ended⟩
    exact ⟨range.start, started, range.end_, ended, ⟨range.ordered⟩, check_of _ range.ordered, rfl⟩

@[simp] theorem asUtc_toDatetime (time : Instant) (fieldName : String) :
    asUtc time.toDatetime fieldName = .ok time :=
  asUtc_eq_ok_iff.mpr ⟨0, rfl, by simp [Instant.toDatetime]⟩

end PortfolioManager.Domain
