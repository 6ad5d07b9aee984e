import PortfolioManager.Domain.Identifiers
import PortfolioManager.Domain.Numeric
import PortfolioManager.Domain.Quality

/-! # Immutable claims about portfolio state at a point in time

An observation has one of eight kinds of value, some of which check themselves, and a quality whose
time must be the instant the observation is about.
-/

namespace PortfolioManager.Domain

open PortfolioManager.Python Checked

inductive TaxLotAuthority where
  | brokerReported
  | derived
deriving DecidableEq, Repr

inductive AccountMetricKind where
  | totalCash
  | settledCash
  | netLiquidationValue
  | accruedInterest
  | dividendAccrual
deriving DecidableEq, Repr

inductive AccrualKind where
  | interest
  | dividend
deriving DecidableEq, Repr

structure PositionValue where
  brokerAccountId : BrokerAccountId
  instrumentId : InstrumentId
  quantity : Quantity
deriving DecidableEq

structure CashBalanceValue where
  accountId : BrokerAccountId ⊕ ExternalCashAccountId
  balance : Money
deriving DecidableEq

structure PriceValue where
  listingId : ListingId
  price : Price
deriving DecidableEq

structure FxRateValue where
  rate : FxRate
deriving DecidableEq

/-- A valuation has at least one metric. -/
structure PositionValuationValue where
  brokerAccountId : BrokerAccountId
  instrumentId : InstrumentId
  markPrice : Option Price
  marketValue : Option Money
  costBasis : Option Money
  realizedPnl : Option Money
  unrealizedPnl : Option Money
  measured : markPrice ≠ none ∨ marketValue ≠ none ∨ costBasis ≠ none ∨ realizedPnl ≠ none ∨ unrealizedPnl ≠ none
deriving DecidableEq

def PositionValuationValue.new (brokerAccountId : BrokerAccountId) (instrumentId : InstrumentId) (markPrice : Option Price)
    (marketValue costBasis realizedPnl unrealizedPnl : Option Money) : Except Builtin PositionValuationValue := do
  let ⟨measured⟩ ← check
    (markPrice ≠ none ∨ marketValue ≠ none ∨ costBasis ≠ none ∨ realizedPnl ≠ none ∨ unrealizedPnl ≠ none)
    (.valueError "position valuation requires at least one metric")
  return ⟨brokerAccountId, instrumentId, markPrice, marketValue, costBasis, realizedPnl, unrealizedPnl, measured⟩

structure AccountMetricValue where
  brokerAccountId : BrokerAccountId
  kind : AccountMetricKind
  value : Money
deriving DecidableEq

structure AccrualValue where
  brokerAccountId : BrokerAccountId
  kind : AccrualKind
  amount : Money
  instrumentId : Option InstrumentId
  expectedOn : Option Date
deriving DecidableEq

/-- A derived lot names its policy, and a reported one has none. -/
structure TaxLotValue where
  brokerAccountId : BrokerAccountId
  instrumentId : InstrumentId
  quantity : Quantity
  totalCost : Money
  acquisitionDate : Date
  authority : TaxLotAuthority
  policyVersion : Option String
  versioned : authority = .derived ↔ policyVersion.isSome = true
  versionTrimmed : policyVersion.all isTrimmed = true
deriving DecidableEq

def TaxLotValue.new (brokerAccountId : BrokerAccountId) (instrumentId : InstrumentId) (quantity : Quantity)
    (totalCost : Money) (acquisitionDate : Date) (authority : TaxLotAuthority) (policyVersion : Option String) :
    Except Builtin TaxLotValue := do
  let ⟨versioned⟩ ← check (authority = .derived ↔ policyVersion.isSome = true)
    (.valueError (if authority = .derived then "derived tax lot requires a policy version"
      else "broker-reported tax lot cannot have a policy version"))
  let ⟨versionTrimmed⟩ ← check (policyVersion.all isTrimmed = true)
    (.valueError "policy version must be non-empty and trimmed")
  return ⟨brokerAccountId, instrumentId, quantity, totalCost, acquisitionDate, authority, policyVersion, versioned,
    versionTrimmed⟩

inductive ObservationValue where
  | position (value : PositionValue)
  | cashBalance (value : CashBalanceValue)
  | price (value : PriceValue)
  | fxRate (value : FxRateValue)
  | positionValuation (value : PositionValuationValue)
  | accountMetric (value : AccountMetricValue)
  | accrual (value : AccrualValue)
  | taxLot (value : TaxLotValue)
deriving DecidableEq

/-- The arguments of `Observation`, on qualities or their drafts. -/
structure ObservationFields (Time Quality : Type) where
  id : ObservationId
  tenantId : TenantId
  sourceRecordId : SourceRecordId
  value : ObservationValue
  asOf : Time
  ingestedAt : Time
  quality : Quality
  supersedesId : Option ObservationId
deriving DecidableEq

structure Observation extends ObservationFields Instant DataQuality where
  supersedesOther : supersedesId ≠ some id
  observed : quality.observedAt = asOf
deriving DecidableEq

def Observation.new (fields : ObservationFields Datetime DataQuality) : Except Builtin Observation := do
  let ⟨supersedesOther⟩ ← check (fields.supersedesId ≠ some fields.id) (.valueError "observation cannot supersede itself")
  let asOf ← asUtc fields.asOf "as_of"
  let ingestedAt ← asUtc fields.ingestedAt "ingested_at"
  let ⟨observed⟩ ← check (fields.quality.observedAt = asOf) (.valueError "quality observed_at must equal observation as_of")
  return { fields with asOf, ingestedAt, supersedesOther, observed }

/-- A draft has the draft of its quality. -/
abbrev ObservationDraft (Time : Type) := ObservationFields Time (DataQualityDraft Time)

/-- Build the quality, then the observation. -/
def Observation.build (draft : ObservationDraft Datetime) : Except Builtin Observation := do
  let quality ← DataQuality.build draft.quality
  Observation.new { draft with quality }

theorem Observation.toObservationFields_injective : Function.Injective Observation.toObservationFields := by
  rintro ⟨first, _⟩ ⟨second, _⟩ same
  cases same
  rfl

theorem Observation.new_eq_ok_iff {fields : ObservationFields Datetime DataQuality} {observation : Observation} :
    Observation.new fields = .ok observation ↔
      asUtc fields.asOf "as_of" = .ok observation.asOf ∧ asUtc fields.ingestedAt "ingested_at" = .ok observation.ingestedAt ∧
        observation.toObservationFields =
          { fields with asOf := observation.asOf, ingestedAt := observation.ingestedAt } := by
  simp only [Observation.new, check_bind_eq_ok_iff]
  simp only [bind_eq_ok_iff, pure_eq_ok_iff]
  constructor
  · rintro ⟨_, asOf, converted, ingestedAt, ingested, _, _, rfl⟩
    exact ⟨converted, ingested, rfl⟩
  · rintro ⟨converted, ingested, same⟩
    have supersedesOther := observation.supersedesOther
    have observed := observation.observed
    rw [same] at supersedesOther observed
    exact ⟨supersedesOther, _, converted, _, ingested, ⟨observed⟩, check_of _ observed, toObservationFields_injective same.symm⟩

end PortfolioManager.Domain
