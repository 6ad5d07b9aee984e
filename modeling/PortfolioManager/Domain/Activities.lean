import PortfolioManager.Domain.Identifiers
import PortfolioManager.Domain.Numeric
import PortfolioManager.Domain.Temporal
import PortfolioManager.Library.Requirement
import Mathlib.Data.List.Dedup

/-! # Immutable economic activities and typed legs

The fields of an activity are its constructor's arguments with the times as they were given; an
activity has instants in their place and carries what the constructor checked. The checks on the legs
are a chain of guards by kind, which comes to a requirement on the collection of legs.
-/

namespace PortfolioManager.Domain

open PortfolioManager.Python Checked Requirement

inductive ActivityKind where
  | trade
  | deposit
  | withdrawal
  | dividend
  | interest
  | fee
  | tax
  | transfer
  | fxConversion
  | corporateAction
deriving DecidableEq, Repr

inductive InstrumentLegRole where
  | position
  | corporateAction
  | transfer
deriving DecidableEq, Repr

inductive CashLegRole where
  | principal
  | income
  | fee
  | tax
  | transfer
deriving DecidableEq, Repr

inductive FeeCategory where
  | brokerage
  | platform
  | exchange
  | regulatory
  | depository
  | bank
  | fx
  | accountMaintenance
  | interest
  | other
deriving DecidableEq, Repr

inductive TaxCategory where
  | securitiesTransaction
  | commoditiesTransaction
  | gstVat
  | stampDuty
  | domesticWithholding
  | foreignWithholding
  | tcs
  | otherTransaction
  | other
deriving DecidableEq, Repr

inductive TransferDirection where
  | inbound
  | outbound
deriving DecidableEq, Repr

inductive TransferMethod where
  | acats
  | brokerToBroker
  | bank
  | other
deriving DecidableEq, Repr

inductive CorporateActionType where
  | split
  | merger
  | spinOff
  | exercise
  | assignment
  | expiration
  | cashSettlement
  | other
deriving DecidableEq, Repr

structure InstrumentLeg where
  instrumentId : InstrumentId
  quantity : Quantity
  role : InstrumentLegRole
  executionPrice : Option Price
deriving DecidableEq

/-- The country codes of tax jurisdictions. -/
def isCountryCode (code : String) : Bool :=
  code.length = 2 && isAscii code && isAlpha code && code = upper code

structure CashLeg where
  money : Money
  role : CashLegRole
  feeCategory : Option FeeCategory
  taxCategory : Option TaxCategory
  taxJurisdiction : Option String
  sourceLabel : Option String
  feeCategorised : role = .fee ↔ feeCategory.isSome = true
  taxCategorised : role = .tax ↔ taxCategory.isSome = true
  jurisdictionTaxed : taxJurisdiction.isSome = true → role = .tax
  jurisdictionShape : ∀ code ∈ taxJurisdiction, isCountryCode code = true
  labelTrimmed : ∀ label ∈ sourceLabel, isTrimmed label = true
deriving DecidableEq

def CashLeg.new (money : Money) (role : CashLegRole) (feeCategory : Option FeeCategory) (taxCategory : Option TaxCategory)
    (taxJurisdiction sourceLabel : Option String) : Except Builtin CashLeg := do
  let ⟨feeCategorised⟩ ← check (role = .fee ↔ feeCategory.isSome = true)
    (.valueError "fee category is required only for fee legs")
  let ⟨taxCategorised⟩ ← check (role = .tax ↔ taxCategory.isSome = true)
    (.valueError "tax category is required only for tax legs")
  let ⟨jurisdictionTaxed⟩ ← check (taxJurisdiction.isSome = true → role = .tax)
    (.valueError "tax jurisdiction is allowed only for tax legs")
  let ⟨jurisdictionShape⟩ ← check (∀ code ∈ taxJurisdiction, isCountryCode code = true)
    (.valueError "tax jurisdiction must be a two-letter uppercase country code")
  let ⟨labelTrimmed⟩ ← check (∀ label ∈ sourceLabel, isTrimmed label = true)
    (.valueError "source label must be non-empty and trimmed")
  return ⟨money, role, feeCategory, taxCategory, taxJurisdiction, sourceLabel, feeCategorised, taxCategorised,
    jurisdictionTaxed, jurisdictionShape, labelTrimmed⟩

inductive ActivityLeg where
  | instrument (leg : InstrumentLeg)
  | cash (leg : CashLeg)
deriving DecidableEq

namespace ActivityLeg

def instrument? : ActivityLeg → Option InstrumentLeg
  | instrument leg => some leg
  | cash _ => none

def cash? : ActivityLeg → Option CashLeg
  | instrument _ => none
  | cash leg => some leg

end ActivityLeg

/-- The arguments of `Activity`. -/
structure ActivityFields (Time : Type) where
  id : ActivityId
  tenantId : TenantId
  brokerAccountId : BrokerAccountId
  sourceRecordId : SourceRecordId
  kind : ActivityKind
  legs : List ActivityLeg
  effectiveAt : Time
  ingestedAt : Time
  tradeDate : Option Date
  settlementDate : Option Date
  supersedesId : Option ActivityId
  transferId : Option TransferId
  transferDirection : Option TransferDirection
  transferMethod : Option TransferMethod
  corporateActionType : Option CorporateActionType
deriving DecidableEq

namespace ActivityFields

variable {Time Time' : Type} (fields : ActivityFields Time)

def withTimes (effectiveAt ingestedAt : Time') : ActivityFields Time' :=
  { fields with effectiveAt := effectiveAt, ingestedAt := ingestedAt }

def instrumentLegs : List InstrumentLeg := fields.legs.filterMap ActivityLeg.instrument?

def cashLegs : List CashLeg := fields.legs.filterMap ActivityLeg.cash?

/-- The roles of the cash legs. -/
def roles : List CashLegRole := fields.cashLegs.map (·.role)

/-- `_validate_leg_shape` on the metadata of a transfer. -/
def validateTransfer : Except Builtin Unit :=
  if fields.kind = .transfer then do
    let ⟨_⟩ ← check (¬(fields.transferId = none ∨ fields.transferDirection = none ∨ fields.transferMethod = none))
      (.valueError "transfer requires identity, direction, and method")
    let hasCash := decide (.transfer ∈ fields.roles)
    let hasInstrument := fields.instrumentLegs.any (·.role = .transfer)
    let ⟨_⟩ ← check (¬(hasCash = false ∧ hasInstrument = false)) (.valueError "transfer requires a transfer leg")
    return ()
  else do
    let ⟨_⟩ ← check (¬(fields.transferId ≠ none ∨ fields.transferDirection ≠ none ∨ fields.transferMethod ≠ none))
      (.valueError "transfer metadata is allowed only for transfer activities")
    return ()

/-- `_validate_leg_shape` on the subtype of a corporate action. -/
def validateCorporateAction : Except Builtin Unit :=
  if fields.kind = .corporateAction then do
    let ⟨_⟩ ← check (fields.instrumentLegs ≠ []) (.valueError "corporate action requires an instrument leg")
    let ⟨_⟩ ← check (fields.corporateActionType ≠ none) (.valueError "corporate action requires a subtype")
    return ()
  else do
    let ⟨_⟩ ← check (fields.corporateActionType = none)
      (.valueError "corporate action subtype is allowed only for corporate actions")
    return ()

/-- `_validate_leg_shape` on the currencies of a conversion. -/
def validateConversion : Except Builtin Unit :=
  if fields.kind = .fxConversion then do
    let currencies := (fields.cashLegs.map (·.money.currency)).dedup
    let ⟨_⟩ ← check (¬(fields.cashLegs.length < 2 ∨ currencies.length < 2))
      (.valueError "FX conversion requires cash legs in at least two currencies")
    return ()
  else .ok ()

/-- `_validate_leg_shape`. -/
def validateLegShape : Except Builtin Unit := do
  let ⟨_⟩ ← check (¬(fields.kind = .trade ∧ (fields.instrumentLegs = [] ∨ fields.cashLegs = [])))
    (.valueError "trade requires instrument and cash legs")
  let ⟨_⟩ ← check (¬((fields.kind = .dividend ∨ fields.kind = .interest) ∧ .income ∉ fields.roles))
    (.valueError "income activity requires an income leg")
  let ⟨_⟩ ← check (¬(fields.kind = .fee ∧ .fee ∉ fields.roles)) (.valueError "fee activity requires a fee leg")
  let ⟨_⟩ ← check (¬(fields.kind = .tax ∧ .tax ∉ fields.roles)) (.valueError "tax activity requires a tax leg")
  let ⟨_⟩ ← check (¬((fields.kind = .deposit ∨ fields.kind = .withdrawal) ∧ .principal ∉ fields.roles))
    (.valueError "cash movement requires a principal leg")
  fields.validateTransfer
  fields.validateCorporateAction
  fields.validateConversion

end ActivityFields

structure Activity extends ActivityFields Instant where
  nonempty : legs ≠ []
  supersedesOther : supersedesId ≠ some id
  datesOrdered : ∀ settlement ∈ settlementDate, ∀ trade ∈ tradeDate, trade ≤ settlement
  shaped : toActivityFields.validateLegShape = .ok ()

def Activity.new (fields : ActivityFields Datetime) : Except Builtin Activity := do
  let ⟨nonempty⟩ ← check (fields.legs ≠ []) (.valueError "activity requires at least one leg")
  let ⟨supersedesOther⟩ ← check (fields.supersedesId ≠ some fields.id) (.valueError "activity cannot supersede itself")
  let ⟨datesOrdered⟩ ← check (∀ settlement ∈ fields.settlementDate, ∀ trade ∈ fields.tradeDate, trade ≤ settlement)
    (.valueError "settlement date cannot precede trade date")
  let effectiveAt ← asUtc fields.effectiveAt "effective_at"
  let ingestedAt ← asUtc fields.ingestedAt "ingested_at"
  let ⟨shaped⟩ ← passing (fields.withTimes effectiveAt ingestedAt).validateLegShape
  return { fields.withTimes effectiveAt ingestedAt with nonempty, supersedesOther, datesOrdered, shaped }

/-! ## What the constructors accept -/

/-- A country code is two letters from `A` to `Z`. -/
theorem isCountryCode_iff {code : String} :
    isCountryCode code = true ↔ code.length = 2 ∧ ∀ character ∈ code.toList, 65 ≤ character.toNat ∧ character.toNat ≤ 90 := by
  simp only [isCountryCode, Bool.and_eq_true, decide_eq_true_eq]
  constructor
  · rintro ⟨⟨⟨length, ascii⟩, alpha⟩, uppercase⟩
    exact ⟨length, (isUpperAlpha_iff length).mp ⟨ascii, alpha, uppercase⟩⟩
  · rintro ⟨length, letters⟩
    obtain ⟨ascii, alpha, uppercase⟩ := (isUpperAlpha_iff length).mpr letters
    exact ⟨⟨⟨length, ascii⟩, alpha⟩, uppercase⟩

namespace CashLeg

variable {money : Money} {role : CashLegRole} {feeCategory : Option FeeCategory} {taxCategory : Option TaxCategory}
  {taxJurisdiction sourceLabel : Option String}

theorem new_eq_ok_iff {leg : CashLeg} :
    CashLeg.new money role feeCategory taxCategory taxJurisdiction sourceLabel = .ok leg ↔
      leg.money = money ∧ leg.role = role ∧ leg.feeCategory = feeCategory ∧ leg.taxCategory = taxCategory ∧
        leg.taxJurisdiction = taxJurisdiction ∧ leg.sourceLabel = sourceLabel := by
  simp only [CashLeg.new, check_bind_eq_ok_iff, pure_eq_ok_iff]
  constructor
  · rintro ⟨_, _, _, _, _, rfl⟩
    exact ⟨rfl, rfl, rfl, rfl, rfl, rfl⟩
  · rintro ⟨rfl, rfl, rfl, rfl, rfl, rfl⟩
    exact ⟨leg.feeCategorised, leg.taxCategorised, leg.jurisdictionTaxed, leg.jurisdictionShape, leg.labelTrimmed, rfl⟩

/-- What the constructor of a cash leg asks of its arguments. -/
structure Acceptable (role : CashLegRole) (feeCategory : Option FeeCategory) (taxCategory : Option TaxCategory)
    (taxJurisdiction sourceLabel : Option String) : Prop where
  feeCategorised : role = .fee ↔ feeCategory ≠ none
  taxCategorised : role = .tax ↔ taxCategory ≠ none
  jurisdictionTaxed : taxJurisdiction ≠ none → role = .tax
  jurisdictionShape : ∀ code ∈ taxJurisdiction,
    code.length = 2 ∧ ∀ character ∈ code.toList, 65 ≤ character.toNat ∧ character.toNat ≤ 90
  labelTrimmed : ∀ label ∈ sourceLabel, label ≠ "" ∧ label = strip label

theorem exists_new_iff :
    (∃ leg, CashLeg.new money role feeCategory taxCategory taxJurisdiction sourceLabel = .ok leg) ↔
      Acceptable role feeCategory taxCategory taxJurisdiction sourceLabel := by
  constructor
  · rintro ⟨leg, accepted⟩
    obtain ⟨_, rfl, rfl, rfl, rfl, rfl⟩ := new_eq_ok_iff.mp accepted
    exact {
      feeCategorised := leg.feeCategorised.trans Option.ne_none_iff_isSome.symm
      taxCategorised := leg.taxCategorised.trans Option.ne_none_iff_isSome.symm
      jurisdictionTaxed := fun present => leg.jurisdictionTaxed (Option.ne_none_iff_isSome.mp present)
      jurisdictionShape := fun code member => isCountryCode_iff.mp (leg.jurisdictionShape code member)
      labelTrimmed := fun label member => isTrimmed_iff.mp (leg.labelTrimmed label member) }
  · intro acceptable
    let leg : CashLeg := {
      money, role, feeCategory, taxCategory, taxJurisdiction, sourceLabel
      feeCategorised := acceptable.feeCategorised.trans Option.ne_none_iff_isSome
      taxCategorised := acceptable.taxCategorised.trans Option.ne_none_iff_isSome
      jurisdictionTaxed := fun present => acceptable.jurisdictionTaxed (Option.ne_none_iff_isSome.mpr present)
      jurisdictionShape := fun code member => isCountryCode_iff.mpr (acceptable.jurisdictionShape code member)
      labelTrimmed := fun label member => isTrimmed_iff.mpr (acceptable.labelTrimmed label member) }
    exact ⟨leg, new_eq_ok_iff.mpr ⟨rfl, rfl, rfl, rfl, rfl, rfl⟩⟩

end CashLeg

namespace Activity

variable {fields : ActivityFields Datetime} {activity : Activity}

theorem toActivityFields_injective : Function.Injective Activity.toActivityFields := by
  rintro ⟨first, _⟩ ⟨second, _⟩ same
  cases same
  rfl

/-- An accepted activity has the given fields, with the instants of the two times. -/
theorem new_eq_ok_iff :
    Activity.new fields = .ok activity ↔
      asUtc fields.effectiveAt "effective_at" = .ok activity.effectiveAt ∧
        asUtc fields.ingestedAt "ingested_at" = .ok activity.ingestedAt ∧
          activity.toActivityFields = fields.withTimes activity.effectiveAt activity.ingestedAt := by
  simp only [Activity.new, check_bind_eq_ok_iff]
  simp only [bind_eq_ok_iff, pure_eq_ok_iff]
  constructor
  · rintro ⟨_, _, _, effectiveAt, effective, ingestedAt, ingested, _, _, rfl⟩
    exact ⟨effective, ingested, rfl⟩
  · rintro ⟨effective, ingested, same⟩
    have nonempty := activity.nonempty
    have supersedesOther := activity.supersedesOther
    have datesOrdered := activity.datesOrdered
    have shaped := activity.shaped
    rw [same] at nonempty supersedesOther datesOrdered shaped
    exact ⟨nonempty, supersedesOther, datesOrdered, _, effective, _, ingested, ⟨shaped⟩, passing_of shaped,
      toActivityFields_injective same.symm⟩

end Activity

end PortfolioManager.Domain
