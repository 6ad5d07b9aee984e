import PortfolioManager.Domain.Numeric
import PortfolioManager.Domain.Ownership

/-! # Tenants, their accounts, and instruments

The entities that tenants own and the instruments they hold. Texts are trimmed and have a maximum length; only options
have the terms of an option, and they have all of them. A constructor keeps its arguments as they are, but for times.
-/

namespace PortfolioManager.Domain

open PortfolioManager.Python Checked

inductive MembershipRole where
  | owner
  | admin
  | viewer
deriving DecidableEq, Repr

inductive AssetClass where
  | cash
  | equity
  | etf
  | mutualFund
  | bond
  | option
  | future
  | commodity
  | currency
  | cfd
  | warrant
  | structuredProduct
  | other
deriving DecidableEq, Repr

inductive OptionRight where
  | call
  | put
deriving DecidableEq, Repr

/-! ## Tenants and users -/

/-- The arguments of `Tenant`. -/
structure TenantFields (Time : Type) where
  id : TenantId
  name : String
  createdAt : Time

structure Tenant extends TenantFields Instant where
  named : isTrimmed name = true ∧ name.length ≤ 120

def Tenant.new (fields : TenantFields Datetime) : Except Builtin Tenant := do
  let ⟨named⟩ ← requireText fields.name "tenant name" 120
  let createdAt ← asUtc fields.createdAt "created_at"
  return { fields with createdAt, named }

structure User where
  id : UserId
  displayName : Option String
  named : ∀ name ∈ displayName, isTrimmed name = true ∧ name.length ≤ 120

def User.new (id : UserId) (displayName : Option String) : Except Builtin User :=
  match displayName with
  | none => return ⟨id, none, by simp⟩
  | some name => do
      let ⟨named⟩ ← requireText name "display name" 120
      return ⟨id, some name, by simpa using named⟩

/-- The arguments of `TenantMembership`, which checks its time only. -/
structure TenantMembershipFields (Time : Type) where
  tenantId : TenantId
  userId : UserId
  role : MembershipRole
  createdAt : Time

abbrev TenantMembership := TenantMembershipFields Instant

def TenantMembership.new (fields : TenantMembershipFields Datetime) : Except Builtin TenantMembership := do
  let createdAt ← asUtc fields.createdAt "created_at"
  return { fields with createdAt }

/-! ## Institutions, connections and accounts -/

structure Institution where
  id : InstitutionId
  key : String
  name : String
  keyed : isStableIdentifier key = true
  named : isTrimmed name = true ∧ name.length ≤ 120

def Institution.new (id : InstitutionId) (key name : String) : Except Builtin Institution := do
  let ⟨keyed⟩ ← requireKey key "institution key"
  let ⟨named⟩ ← requireText name "institution name" 120
  return ⟨id, key, name, keyed, named⟩

/-- The arguments of `BrokerConnection`. -/
structure BrokerConnectionFields (Time : Type) where
  id : BrokerConnectionId
  tenantId : TenantId
  institutionId : InstitutionId
  label : String
  createdAt : Time

structure BrokerConnection extends BrokerConnectionFields Instant where
  labelled : isTrimmed label = true ∧ label.length ≤ 120

def BrokerConnection.new (fields : BrokerConnectionFields Datetime) : Except Builtin BrokerConnection := do
  let ⟨labelled⟩ ← requireText fields.label "broker connection label" 120
  let createdAt ← asUtc fields.createdAt "created_at"
  return { fields with createdAt, labelled }

structure BrokerAccount where
  id : BrokerAccountId
  tenantId : TenantId
  connectionId : BrokerConnectionId
  externalId : ExternalIdentifier
  label : String
  baseCurrency : Option Currency
  labelled : isTrimmed label = true ∧ label.length ≤ 120

def BrokerAccount.new (id : BrokerAccountId) (tenantId : TenantId) (connectionId : BrokerConnectionId)
    (externalId : ExternalIdentifier) (label : String) (baseCurrency : Option Currency) : Except Builtin BrokerAccount := do
  let ⟨labelled⟩ ← requireText label "broker account label" 120
  return ⟨id, tenantId, connectionId, externalId, label, baseCurrency, labelled⟩

structure ExternalCashAccount where
  id : ExternalCashAccountId
  tenantId : TenantId
  institutionId : InstitutionId
  label : String
  currency : Currency
  maskedHint : Option String
  labelled : isTrimmed label = true ∧ label.length ≤ 120
  hinted : ∀ hint ∈ maskedHint, isTrimmed hint = true ∧ hint.length ≤ 32

def ExternalCashAccount.new (id : ExternalCashAccountId) (tenantId : TenantId) (institutionId : InstitutionId) (label : String)
    (currency : Currency) (maskedHint : Option String) : Except Builtin ExternalCashAccount := do
  let ⟨labelled⟩ ← requireText label "cash account label" 120
  match maskedHint with
  | none => return ⟨id, tenantId, institutionId, label, currency, none, labelled, by simp⟩
  | some hint => do
      let ⟨hinted⟩ ← requireText hint "masked account hint" 32
      return ⟨id, tenantId, institutionId, label, currency, some hint, labelled, by simpa using hinted⟩

/-! ## Instruments and listings -/

/-- The arguments of `Instrument`. -/
structure InstrumentFields where
  id : InstrumentId
  name : String
  assetClass : AssetClass
  multiplier : Option Quantity
  underlyingId : Option InstrumentId
  expiry : Option Date
  strike : Option Price
  optionRight : Option OptionRight

/-- An option has all its terms, and nothing else has one. -/
def InstrumentFields.Termed (fields : InstrumentFields) : Prop :=
  if fields.assetClass = .option then fields.expiry ≠ none ∧ fields.strike ≠ none ∧ fields.optionRight ≠ none
  else fields.expiry = none ∧ fields.strike = none ∧ fields.optionRight = none

instance (fields : InstrumentFields) : Decidable fields.Termed :=
  inferInstanceAs (Decidable (if fields.assetClass = .option
    then fields.expiry ≠ none ∧ fields.strike ≠ none ∧ fields.optionRight ≠ none
    else fields.expiry = none ∧ fields.strike = none ∧ fields.optionRight = none))

structure Instrument extends InstrumentFields where
  named : isTrimmed name = true ∧ name.length ≤ 240
  scaled : ∀ quantity ∈ multiplier, ¬quantity.value.isNonPositive = true
  apart : underlyingId ≠ some id
  termed : toInstrumentFields.Termed

def Instrument.new (fields : InstrumentFields) : Except Builtin Instrument := do
  let ⟨named⟩ ← requireText fields.name "instrument name" 240
  let ⟨scaled⟩ ← check (∀ quantity ∈ fields.multiplier, ¬quantity.value.isNonPositive = true)
    (.valueError "instrument multiplier must be positive")
  let ⟨apart⟩ ← check (fields.underlyingId ≠ some fields.id) (.valueError "instrument cannot be its own underlying")
  let ⟨termed⟩ ← check fields.Termed (.valueError (
    if fields.assetClass = .option then "option requires expiry, strike, and option right"
    else "option terms are allowed only for options"))
  return { fields with named, scaled, apart, termed }

/-- The arguments of `Listing`. -/
structure ListingFields where
  id : ListingId
  instrumentId : InstrumentId
  symbol : String
  venue : String
  currency : Currency
  validFrom : Option Date
  validTo : Option Date

structure Listing extends ListingFields where
  symbolled : isTrimmed symbol = true ∧ symbol.length ≤ 64
  placed : isTrimmed venue = true ∧ venue.length ≤ 64
  ordered : ∀ first ∈ validFrom, ∀ last ∈ validTo, first ≤ last

def Listing.new (fields : ListingFields) : Except Builtin Listing := do
  let ⟨symbolled⟩ ← requireText fields.symbol "listing symbol" 64
  let ⟨placed⟩ ← requireText fields.venue "listing venue" 64
  let ⟨ordered⟩ ← check (∀ first ∈ fields.validFrom, ∀ last ∈ fields.validTo, first ≤ last)
    (.valueError "listing validity end cannot precede start")
  return { fields with symbolled, placed, ordered }

/-! ## What the constructors accept -/

theorem requireText_eq_ok_iff {value fieldName : String} {maximum : ℕ}
    {proof : PLift (isTrimmed value = true ∧ value.length ≤ maximum)} :
    requireText value fieldName maximum = .ok proof ↔ isTrimmed value = true ∧ value.length ≤ maximum := by
  constructor
  · exact fun _ => proof.down
  · rintro ⟨trimmed, short⟩
    rw [requireText, check_of _ trimmed, ok_bind, check_of _ short]
    rfl

theorem Tenant.toFields_injective : Function.Injective Tenant.toTenantFields := by
  rintro ⟨first, _⟩ ⟨second, _⟩ same
  cases same
  rfl

theorem BrokerConnection.toFields_injective : Function.Injective BrokerConnection.toBrokerConnectionFields := by
  rintro ⟨first, _⟩ ⟨second, _⟩ same
  cases same
  rfl

theorem Tenant.new_eq_ok_iff {fields : TenantFields Datetime} {tenant : Tenant} :
    Tenant.new fields = .ok tenant ↔ asUtc fields.createdAt "created_at" = .ok tenant.createdAt ∧
      tenant.toTenantFields = { fields with createdAt := tenant.createdAt } := by
  simp only [Tenant.new, bind_eq_ok_iff, requireText_eq_ok_iff, pure_eq_ok_iff]
  constructor
  · rintro ⟨_, _, createdAt, created, rfl⟩
    exact ⟨created, rfl⟩
  · rintro ⟨created, same⟩
    have name := congrArg TenantFields.name same
    exact ⟨⟨name ▸ tenant.named⟩, name ▸ tenant.named, _, created, toFields_injective same.symm⟩

theorem TenantMembership.new_eq_ok_iff {fields : TenantMembershipFields Datetime} {membership : TenantMembership} :
    TenantMembership.new fields = .ok membership ↔ asUtc fields.createdAt "created_at" = .ok membership.createdAt ∧
      membership = { fields with createdAt := membership.createdAt } := by
  simp only [TenantMembership.new, bind_eq_ok_iff, pure_eq_ok_iff]
  constructor
  · rintro ⟨createdAt, created, rfl⟩
    exact ⟨created, rfl⟩
  · rintro ⟨created, same⟩
    exact ⟨_, created, same.symm⟩

theorem BrokerConnection.new_eq_ok_iff {fields : BrokerConnectionFields Datetime} {connection : BrokerConnection} :
    BrokerConnection.new fields = .ok connection ↔ asUtc fields.createdAt "created_at" = .ok connection.createdAt ∧
      connection.toBrokerConnectionFields = { fields with createdAt := connection.createdAt } := by
  simp only [BrokerConnection.new, bind_eq_ok_iff, requireText_eq_ok_iff, pure_eq_ok_iff]
  constructor
  · rintro ⟨_, _, createdAt, created, rfl⟩
    exact ⟨created, rfl⟩
  · rintro ⟨created, same⟩
    have label := congrArg BrokerConnectionFields.label same
    exact ⟨⟨label ▸ connection.labelled⟩, label ▸ connection.labelled, _, created, toFields_injective same.symm⟩

/-- An instrument is accepted as it is given. -/
theorem Instrument.new_eq_ok_iff {fields : InstrumentFields} {instrument : Instrument} :
    Instrument.new fields = .ok instrument ↔ instrument.toInstrumentFields = fields := by
  simp only [Instrument.new, bind_eq_ok_iff, requireText_eq_ok_iff, pure_eq_ok_iff]
  constructor
  · rintro ⟨_, _, _, _, _, _, _, _, rfl⟩
    rfl
  · rintro rfl
    exact ⟨⟨instrument.named⟩, instrument.named, ⟨instrument.scaled⟩, check_of _ instrument.scaled, ⟨instrument.apart⟩,
      check_of _ instrument.apart, ⟨instrument.termed⟩, check_of _ instrument.termed, rfl⟩

theorem Listing.new_eq_ok_iff {fields : ListingFields} {listing : Listing} :
    Listing.new fields = .ok listing ↔ listing.toListingFields = fields := by
  simp only [Listing.new, bind_eq_ok_iff, requireText_eq_ok_iff, pure_eq_ok_iff]
  constructor
  · rintro ⟨_, _, _, _, _, _, rfl⟩
    rfl
  · rintro rfl
    exact ⟨⟨listing.symbolled⟩, listing.symbolled, ⟨listing.placed⟩, listing.placed, ⟨listing.ordered⟩,
      check_of _ listing.ordered, rfl⟩

end PortfolioManager.Domain
