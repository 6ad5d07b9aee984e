import Mathlib.Tactic.Common

/-! # Opaque identifiers for broker-neutral domain entities

An identifier is a UUID tagged by the entity it names, so identifiers of different entities
cannot be exchanged for one another.
-/

namespace PortfolioManager.Domain

/-- A UUID is its 128-bit value. -/
structure Uuid where
  value : BitVec 128
deriving DecidableEq, Repr

inductive TenantTag
deriving DecidableEq, Repr

inductive UserTag
deriving DecidableEq, Repr

inductive BrokerConnectionTag
deriving DecidableEq, Repr

inductive BrokerAccountTag
deriving DecidableEq, Repr

inductive ExternalCashAccountTag
deriving DecidableEq, Repr

inductive InstitutionTag
deriving DecidableEq, Repr

inductive InstrumentTag
deriving DecidableEq, Repr

inductive ListingTag
deriving DecidableEq, Repr

inductive SourceRecordTag
deriving DecidableEq, Repr

inductive ActivityTag
deriving DecidableEq, Repr

inductive TransferTag
deriving DecidableEq, Repr

inductive ObservationTag
deriving DecidableEq, Repr

structure Identifier (EntityTag : Type) where
  value : Uuid
deriving DecidableEq, Repr

abbrev TenantId := Identifier TenantTag
abbrev UserId := Identifier UserTag
abbrev BrokerConnectionId := Identifier BrokerConnectionTag
abbrev BrokerAccountId := Identifier BrokerAccountTag
abbrev ExternalCashAccountId := Identifier ExternalCashAccountTag
abbrev InstitutionId := Identifier InstitutionTag
abbrev InstrumentId := Identifier InstrumentTag
abbrev ListingId := Identifier ListingTag
abbrev SourceRecordId := Identifier SourceRecordTag
abbrev ActivityId := Identifier ActivityTag
abbrev TransferId := Identifier TransferTag
abbrev ObservationId := Identifier ObservationTag

end PortfolioManager.Domain
