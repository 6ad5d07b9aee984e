import PortfolioManager.Domain.Identifiers
import PortfolioManager.Domain.Temporal

/-! # Instrument identity at brokers

A broker's own identifier of an instrument, in its namespace, is mapped to a listing for a time.
-/

namespace PortfolioManager.Domain

open PortfolioManager.Python Checked

/-- `_require_text`. -/
def requireText (value fieldName : String) (maximum : ℕ) :
    Except Builtin (PLift (isTrimmed value = true ∧ value.length ≤ maximum)) := do
  let ⟨trimmed⟩ ← check (isTrimmed value = true) (.valueError s!"{fieldName} must be non-empty and trimmed")
  let ⟨short⟩ ← check (value.length ≤ maximum) (.valueError s!"{fieldName} exceeds {maximum} characters")
  return ⟨trimmed, short⟩

/-- `_require_key`. -/
def requireKey (value fieldName : String) : Except Builtin (PLift (isStableIdentifier value = true)) :=
  check (isStableIdentifier value = true) (.valueError s!"{fieldName} must be a stable lowercase identifier")

structure ExternalIdentifier where
  namespace_ : String
  value : String
  stable : isStableIdentifier namespace_ = true
  bounded : isTrimmed value = true ∧ value.length ≤ 512

def ExternalIdentifier.new (namespace_ value : String) : Except Builtin ExternalIdentifier := do
  let ⟨stable⟩ ← requireKey namespace_ "external identifier namespace"
  let ⟨bounded⟩ ← requireText value "external identifier value" 512
  return ⟨namespace_, value, stable, bounded⟩

/-- The arguments of `BrokerInstrumentMapping`. -/
structure BrokerInstrumentMappingFields (Time : Type) where
  tenantId : TenantId
  connectionId : BrokerConnectionId
  listingId : ListingId
  externalId : ExternalIdentifier
  validFrom : Time
  validTo : Option Time

structure BrokerInstrumentMapping extends BrokerInstrumentMappingFields Instant where
  ordered : ∀ last ∈ validTo, validFrom ≤ last

def BrokerInstrumentMapping.new (fields : BrokerInstrumentMappingFields Datetime) : Except Builtin BrokerInstrumentMapping := do
  let validFrom ← asUtc fields.validFrom "valid_from"
  let validTo ← whenPresent (asUtc · "valid_to") fields.validTo
  let ⟨ordered⟩ ← check (∀ last ∈ validTo, validFrom ≤ last) (.valueError "mapping validity end cannot precede start")
  return { fields with validFrom, validTo, ordered }

theorem BrokerInstrumentMapping.toFields_injective :
    Function.Injective BrokerInstrumentMapping.toBrokerInstrumentMappingFields := by
  rintro ⟨first, _⟩ ⟨second, _⟩ same
  cases same
  rfl

theorem BrokerInstrumentMapping.new_eq_ok_iff {fields : BrokerInstrumentMappingFields Datetime}
    {mapping : BrokerInstrumentMapping} :
    BrokerInstrumentMapping.new fields = .ok mapping ↔
      asUtc fields.validFrom "valid_from" = .ok mapping.validFrom ∧
        whenPresent (asUtc · "valid_to") fields.validTo = .ok mapping.validTo ∧
          mapping.toBrokerInstrumentMappingFields =
            { fields with validFrom := mapping.validFrom, validTo := mapping.validTo } := by
  simp only [BrokerInstrumentMapping.new, bind_eq_ok_iff, pure_eq_ok_iff]
  constructor
  · rintro ⟨validFrom, from_, validTo, to_, _, _, rfl⟩
    exact ⟨from_, to_, rfl⟩
  · rintro ⟨from_, to_, same⟩
    exact ⟨_, from_, _, to_, ⟨mapping.ordered⟩, check_of _ mapping.ordered, toFields_injective same.symm⟩

end PortfolioManager.Domain
