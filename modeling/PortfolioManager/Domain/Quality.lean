import PortfolioManager.Domain.Temporal
import Mathlib.Data.List.Nodup

/-! # Structured source-quality and freshness primitives

The coverage of a quality is a range that was built before it, so its arguments come in two layers: a
constructor takes the finished range, and a draft has the arguments of the range in its place.
-/

namespace PortfolioManager.Domain

open PortfolioManager.Python Checked

inductive Authority where
  | authoritative
  | reconstructed
  | estimated
deriving DecidableEq, Repr

inductive Completeness where
  | complete
  | partly
  | unknown
deriving DecidableEq, Repr

inductive SettlementState where
  | notApplicable
  | pending
  | settled
  | unknown
deriving DecidableEq, Repr

structure QualityIssue where
  code : String
  stable : isStableIdentifier code = true
deriving DecidableEq

def QualityIssue.new (code : String) : Except Builtin QualityIssue := do
  let ⟨stable⟩ ← check (isStableIdentifier code = true)
    (.valueError "quality issue code must be a stable lowercase identifier")
  return ⟨code, stable⟩

/-- The arguments of `DataQuality`, on ranges or their arguments. -/
structure DataQualityFields (Time Range : Type) where
  authority : Authority
  completeness : Completeness
  observedAt : Time
  dataThrough : Option Time
  coverage : Option Range
  settlement : SettlementState
  issues : List QualityIssue
deriving DecidableEq

structure DataQuality extends DataQualityFields Instant TimeRange where
  distinct : issues.Nodup
deriving DecidableEq

def DataQuality.new (fields : DataQualityFields Datetime TimeRange) : Except Builtin DataQuality := do
  let observedAt ← asUtc fields.observedAt "observed_at"
  let dataThrough ← whenPresent (asUtc · "data_through") fields.dataThrough
  let ⟨distinct⟩ ← check fields.issues.Nodup (.valueError "quality issue codes must not be duplicated")
  return { fields with observedAt, dataThrough, distinct }

/-- A draft has the arguments of its coverage. -/
abbrev DataQualityDraft (Time : Type) := DataQualityFields Time (TimeRangeFields Time)

/-- Build the coverage, then the quality. -/
def DataQuality.build (draft : DataQualityDraft Datetime) : Except Builtin DataQuality := do
  let coverage ← whenPresent TimeRange.new draft.coverage
  DataQuality.new { draft with coverage }

theorem DataQuality.toDataQualityFields_injective : Function.Injective DataQuality.toDataQualityFields := by
  rintro ⟨first, _⟩ ⟨second, _⟩ same
  cases same
  rfl

theorem DataQuality.new_eq_ok_iff {fields : DataQualityFields Datetime TimeRange} {quality : DataQuality} :
    DataQuality.new fields = .ok quality ↔
      asUtc fields.observedAt "observed_at" = .ok quality.observedAt ∧
        whenPresent (asUtc · "data_through") fields.dataThrough = .ok quality.dataThrough ∧
          quality.toDataQualityFields =
            { fields with observedAt := quality.observedAt, dataThrough := quality.dataThrough } := by
  simp only [DataQuality.new, bind_eq_ok_iff, pure_eq_ok_iff]
  constructor
  · rintro ⟨observedAt, observed, dataThrough, through, _, _, rfl⟩
    exact ⟨observed, through, rfl⟩
  · rintro ⟨observed, through, same⟩
    have distinct := quality.distinct
    rw [same] at distinct
    exact ⟨_, observed, _, through, ⟨distinct⟩, check_of _ distinct, toDataQualityFields_injective same.symm⟩

end PortfolioManager.Domain
