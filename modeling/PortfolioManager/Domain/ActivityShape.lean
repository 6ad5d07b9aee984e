import PortfolioManager.Domain.Activities
import Mathlib.Data.Finset.Card

/-! # What the shape of an activity asks for

The guards of the validator come to one requirement on the legs for each kind, all-or-none metadata,
and ordered dates. A requirement on a collection ignores the order of the legs and is kept when legs
are added, and so are the accepted activities. What a requirement leaves open is the role of the legs
that meet it: a charge in a second currency can stand in for the other side of a conversion.
-/

namespace PortfolioManager.Domain

open PortfolioManager.Python Checked Requirement

namespace ActivityLeg

def instrumentRole (leg : ActivityLeg) : Option InstrumentLegRole := leg.instrument?.map (·.role)

def cashRole (leg : ActivityLeg) : Option CashLegRole := leg.cash?.map (·.role)

/-- The currency of a cash leg. -/
def currency (leg : ActivityLeg) : Option Currency := leg.cash?.map (·.money.currency)

@[simp] theorem instrumentRole_instrument (leg : InstrumentLeg) : (instrument leg).instrumentRole = some leg.role := rfl

@[simp] theorem instrumentRole_cash (leg : CashLeg) : (cash leg).instrumentRole = none := rfl

@[simp] theorem cashRole_instrument (leg : InstrumentLeg) : (instrument leg).cashRole = none := rfl

@[simp] theorem cashRole_cash (leg : CashLeg) : (cash leg).cashRole = some leg.role := rfl

@[simp] theorem currency_cash (leg : CashLeg) : (cash leg).currency = some leg.money.currency := rfl

end ActivityLeg

/-- The legs that an activity of the kind must have. -/
def ActivityKind.requirement : ActivityKind → Requirement ActivityLeg
  | trade => includes (·.instrumentRole.isSome = true) ⊔ includes (·.cashRole.isSome = true)
  | deposit | withdrawal => includes (·.cashRole = some .principal)
  | dividend | interest => includes (·.cashRole = some .income)
  | fee => includes (·.cashRole = some .fee)
  | tax => includes (·.cashRole = some .tax)
  | transfer => includes fun leg => leg.cashRole = some .transfer ∨ leg.instrumentRole = some .transfer
  | fxConversion => differ ActivityLeg.currency
  | corporateAction => includes (·.instrumentRole.isSome = true)

/-- Something that was picked out of a list has the property when it was picked from an item. -/
theorem exists_picked_iff {α β : Type} {pick : α → Option β} {p : β → Prop} {items : List α} :
    (∃ found ∈ items.filterMap pick, p found) ↔ ∃ item ∈ items, ∃ found, pick item = some found ∧ p found := by
  simp only [List.mem_filterMap]
  constructor
  · rintro ⟨found, ⟨item, member, same⟩, holds⟩
    exact ⟨item, member, found, same, holds⟩
  · rintro ⟨item, member, found, same, holds⟩
    exact ⟨found, ⟨item, member, same⟩, holds⟩

theorem picked_ne_nil_iff {α β : Type} {pick : α → Option β} {items : List α} :
    items.filterMap pick ≠ [] ↔ ∃ item ∈ items, (pick item).isSome = true := by
  simp [Option.ne_none_iff_isSome]

namespace ActivityFields

variable {Time : Type} {fields : ActivityFields Time}

theorem instrumentLegs_ne_nil_iff : fields.instrumentLegs ≠ [] ↔ Meets fields.legs (includes (·.instrumentRole.isSome = true)) := by
  simp only [instrumentLegs, picked_ne_nil_iff, meets_includes, ActivityLeg.instrumentRole, Option.isSome_map]

theorem cashLegs_ne_nil_iff : fields.cashLegs ≠ [] ↔ Meets fields.legs (includes (·.cashRole.isSome = true)) := by
  simp only [cashLegs, picked_ne_nil_iff, meets_includes, ActivityLeg.cashRole, Option.isSome_map]

theorem mem_roles_iff {role : CashLegRole} : role ∈ fields.roles ↔ Meets fields.legs (includes (·.cashRole = some role)) := by
  simp only [roles, List.mem_map, cashLegs, exists_picked_iff, meets_includes, ActivityLeg.cashRole, Option.map_eq_some_iff]

theorem any_instrumentLegs_iff {role : InstrumentLegRole} :
    fields.instrumentLegs.any (·.role = role) = true ↔ Meets fields.legs (includes (·.instrumentRole = some role)) := by
  simp only [List.any_eq_true, decide_eq_true_eq, instrumentLegs, exists_picked_iff, meets_includes,
    ActivityLeg.instrumentRole, Option.map_eq_some_iff]

theorem two_le_length_dedup_iff {α : Type} [DecidableEq α] {items : List α} :
    2 ≤ items.dedup.length ↔ ∃ first ∈ items, ∃ second ∈ items, first ≠ second := by
  have card := @Finset.one_lt_card α items.toFinset
  simp only [List.card_toFinset, List.mem_toFinset] at card
  exact card

/-- The currencies of the cash legs differ when those of two legs do. -/
theorem two_le_currencies_iff :
    2 ≤ (fields.cashLegs.map (·.money.currency)).dedup.length ↔ Meets fields.legs (differ ActivityLeg.currency) := by
  rw [two_le_length_dedup_iff, meets_differ]
  simp only [List.mem_map, cashLegs, List.mem_filterMap, ActivityLeg.currency, Option.map_eq_some_iff]
  constructor
  · rintro ⟨c, ⟨_, ⟨first, member, cash⟩, rfl⟩, d, ⟨_, ⟨second, member', cash'⟩, rfl⟩, distinct⟩
    exact ⟨first, member, second, member', _, _, ⟨_, cash, rfl⟩, ⟨_, cash', rfl⟩, distinct⟩
  · rintro ⟨first, member, second, member', c, d, ⟨_, cash, rfl⟩, ⟨_, cash', rfl⟩, distinct⟩
    exact ⟨_, ⟨_, ⟨first, member, cash⟩, rfl⟩, _, ⟨_, ⟨second, member', cash'⟩, rfl⟩, distinct⟩

/-- The metadata of a transfer is there as a whole, or not at all. -/
def TransferDescribed (fields : ActivityFields Time) : Prop :=
  if fields.kind = .transfer then
    fields.transferId ≠ none ∧ fields.transferDirection ≠ none ∧ fields.transferMethod ≠ none
  else fields.transferId = none ∧ fields.transferDirection = none ∧ fields.transferMethod = none

theorem validateTransfer_eq_ok_iff :
    fields.validateTransfer = .ok () ↔
      fields.TransferDescribed ∧ (fields.kind = .transfer → Meets fields.legs (ActivityKind.requirement .transfer)) := by
  unfold validateTransfer TransferDescribed
  split_ifs with moves
  · simp only [check_bind_eq_ok_iff, pure_eq_ok_iff, exists_prop, and_true, moves, true_implies, not_or]
    refine and_congr_right fun _ => ?_
    rw [ActivityKind.requirement, meets_includes, not_and_or, Bool.not_eq_false, Bool.not_eq_false, decide_eq_true_eq,
      mem_roles_iff, any_instrumentLegs_iff, meets_includes, meets_includes]
    simp only [and_or_left, exists_or]
  · simp only [check_bind_eq_ok_iff, pure_eq_ok_iff, exists_prop, and_true, moves, false_implies, not_or, not_not]

theorem validateCorporateAction_eq_ok_iff :
    fields.validateCorporateAction = .ok () ↔
      (fields.kind = .corporateAction ↔ fields.corporateActionType ≠ none) ∧
        (fields.kind = .corporateAction → Meets fields.legs (ActivityKind.requirement .corporateAction)) := by
  unfold validateCorporateAction
  split_ifs with action
  · simp only [check_bind_eq_ok_iff, pure_eq_ok_iff, exists_prop, and_true, action, true_iff, true_implies]
    rw [instrumentLegs_ne_nil_iff, and_comm]
    rfl
  · simp only [check_bind_eq_ok_iff, pure_eq_ok_iff, exists_prop, and_true, action, false_iff, not_not, false_implies]

theorem validateConversion_eq_ok_iff :
    fields.validateConversion = .ok () ↔
      (fields.kind = .fxConversion → Meets fields.legs (ActivityKind.requirement .fxConversion)) := by
  unfold validateConversion
  split_ifs with converts
  · simp only [check_bind_eq_ok_iff, pure_eq_ok_iff, exists_prop, and_true, converts, true_implies, not_or, not_lt]
    rw [two_le_currencies_iff]
    refine ⟨And.right, fun different => ⟨?_, different⟩⟩
    have bound := two_le_currencies_iff.mpr different
    exact bound.trans ((List.dedup_sublist _).length_le.trans_eq (List.length_map _))
  · exact iff_of_true rfl fun same => absurd same converts

/-- The guards come to a requirement on the legs, all-or-none metadata and a subtype. -/
theorem validateLegShape_eq_ok_iff :
    fields.validateLegShape = .ok () ↔
      Meets fields.legs fields.kind.requirement ∧ fields.TransferDescribed ∧
        (fields.kind = .corporateAction ↔ fields.corporateActionType ≠ none) := by
  simp only [validateLegShape, check_bind_eq_ok_iff, exists_prop]
  simp only [unit_bind_eq_ok_iff, validateTransfer_eq_ok_iff, validateCorporateAction_eq_ok_iff, validateConversion_eq_ok_iff,
    mem_roles_iff, not_and_or, not_or, not_not, instrumentLegs_ne_nil_iff, cashLegs_ne_nil_iff]
  cases fields.kind
  all_goals
    simp only [ActivityKind.requirement, meets_sup, reduceCtorEq, true_implies, false_implies, not_true_eq_false,
      not_false_eq_true, true_or, false_or, true_and, and_true]
  case transfer => tauto
  case fxConversion => tauto
  case corporateAction => tauto

/-- What the constructor of an activity asks of its arguments apart from the times. -/
structure Acceptable (fields : ActivityFields Time) : Prop where
  nonempty : fields.legs ≠ []
  supersedesOther : fields.supersedesId ≠ some fields.id
  datesOrdered : ∀ settlement ∈ fields.settlementDate, ∀ trade ∈ fields.tradeDate, trade ≤ settlement
  transferDescribed : fields.TransferDescribed
  subtyped : fields.kind = .corporateAction ↔ fields.corporateActionType ≠ none
  required : Meets fields.legs fields.kind.requirement

/-- Whether the arguments are acceptable does not depend on the times. -/
theorem acceptable_withTimes {Time' : Type} {effectiveAt ingestedAt : Time'} :
    (fields.withTimes effectiveAt ingestedAt).Acceptable ↔ fields.Acceptable := by
  constructor
  · rintro ⟨nonempty, supersedesOther, datesOrdered, transferDescribed, subtyped, required⟩
    exact ⟨nonempty, supersedesOther, datesOrdered, transferDescribed, subtyped, required⟩
  · rintro ⟨nonempty, supersedesOther, datesOrdered, transferDescribed, subtyped, required⟩
    exact ⟨nonempty, supersedesOther, datesOrdered, transferDescribed, subtyped, required⟩

/-- The acceptable arguments stay acceptable when legs are added, in any order. -/
theorem Acceptable.mono (acceptable : fields.Acceptable) {legs : List ActivityLeg} (subset : fields.legs ⊆ legs) :
    ({ fields with legs } : ActivityFields Time).Acceptable where
  nonempty := by
    rintro rfl
    exact acceptable.nonempty (List.subset_nil.mp subset)
  supersedesOther := acceptable.supersedesOther
  datesOrdered := acceptable.datesOrdered
  transferDescribed := acceptable.transferDescribed
  subtyped := acceptable.subtyped
  required := acceptable.required.mono subset

end ActivityFields

namespace Activity

variable {fields : ActivityFields Datetime} {activity : Activity}

theorem acceptable (activity : Activity) : activity.toActivityFields.Acceptable where
  nonempty := activity.nonempty
  supersedesOther := activity.supersedesOther
  datesOrdered := activity.datesOrdered
  transferDescribed := (ActivityFields.validateLegShape_eq_ok_iff.mp activity.shaped).2.1
  subtyped := (ActivityFields.validateLegShape_eq_ok_iff.mp activity.shaped).2.2
  required := (ActivityFields.validateLegShape_eq_ok_iff.mp activity.shaped).1

/-- The arguments that are accepted are the acceptable ones whose times have UTC values. -/
theorem exists_new_iff :
    (∃ activity, Activity.new fields = .ok activity) ↔
      fields.effectiveAt.Convertible ∧ fields.ingestedAt.Convertible ∧ fields.Acceptable := by
  constructor
  · rintro ⟨activity, accepted⟩
    obtain ⟨effective, ingested, same⟩ := new_eq_ok_iff.mp accepted
    have acceptable := activity.acceptable
    rw [same] at acceptable
    exact ⟨(exists_asUtc_iff _).mp ⟨_, effective⟩, (exists_asUtc_iff _).mp ⟨_, ingested⟩, ActivityFields.acceptable_withTimes.mp acceptable⟩
  · rintro ⟨effective, ingested, acceptable⟩
    obtain ⟨effectiveAt, effective⟩ := (exists_asUtc_iff "effective_at").mpr effective
    obtain ⟨ingestedAt, ingested⟩ := (exists_asUtc_iff "ingested_at").mpr ingested
    have shaped := ActivityFields.validateLegShape_eq_ok_iff.mpr ⟨acceptable.required, acceptable.transferDescribed, acceptable.subtyped⟩
    exact ⟨⟨fields.withTimes effectiveAt ingestedAt, acceptable.nonempty, acceptable.supersedesOther,
      acceptable.datesOrdered, shaped⟩, new_eq_ok_iff.mpr ⟨effective, ingested, rfl⟩⟩

/-- A cash leg is accepted by its own rules, and an activity exactly when its arguments are acceptable and its
times have UTC values, whatever the order of its legs; adding legs keeps it accepted. -/
theorem new_accepts :
    (∀ money role feeCategory taxCategory taxJurisdiction sourceLabel,
        (∃ leg, CashLeg.new money role feeCategory taxCategory taxJurisdiction sourceLabel = .ok leg) ↔
          CashLeg.Acceptable role feeCategory taxCategory taxJurisdiction sourceLabel) ∧
      (∀ fields : ActivityFields Datetime, (∃ activity, Activity.new fields = .ok activity) ↔
        fields.effectiveAt.Convertible ∧ fields.ingestedAt.Convertible ∧ fields.Acceptable) ∧
      (∀ (fields : ActivityFields Datetime) (legs : List ActivityLeg), fields.legs.Perm legs →
        ((∃ activity, Activity.new fields = .ok activity) ↔ ∃ activity, Activity.new { fields with legs } = .ok activity)) ∧
      ∀ (fields : ActivityFields Datetime) (legs : List ActivityLeg), fields.legs ⊆ legs →
        (∃ activity, Activity.new fields = .ok activity) → ∃ activity, Activity.new { fields with legs } = .ok activity := by
  have added (fields : ActivityFields Datetime) (legs : List ActivityLeg) (subset : fields.legs ⊆ legs)
      (accepted : ∃ activity, Activity.new fields = .ok activity) :
      ∃ activity, Activity.new { fields with legs } = .ok activity := by
    obtain ⟨effective, ingested, acceptable⟩ := exists_new_iff.mp accepted
    exact exists_new_iff.mpr ⟨effective, ingested, acceptable.mono subset⟩
  refine ⟨fun _ _ _ _ _ _ => CashLeg.exists_new_iff, fun _ => exists_new_iff, fun fields legs same => ?_, added⟩
  exact ⟨added fields legs same.subset, added { fields with legs } fields.legs same.symm.subset⟩

end Activity

/-! ## Times without a UTC value -/

def inr : Currency where
  code := "INR"
  threeLetters := by decide
  uppercase := by decide

def usd : Currency where
  code := "USD"
  threeLetters := by decide
  uppercase := by decide

/-- A cash leg that is no tax, of a hundred units. -/
def plainLeg (currency : Currency) (role : CashLegRole) (feeCategory : Option FeeCategory)
    (feeCategorised : role = .fee ↔ feeCategory.isSome = true) (untaxed : role ≠ .tax) : CashLeg where
  money := ⟨.finite false 100 0, currency, rfl⟩
  role := role
  feeCategory := feeCategory
  taxCategory := none
  taxJurisdiction := none
  sourceLabel := none
  feeCategorised := feeCategorised
  taxCategorised := iff_of_false untaxed Bool.false_ne_true
  jurisdictionTaxed := fun present => absurd present Bool.false_ne_true
  jurisdictionShape := nofun
  labelTrimmed := nofun

def principalLeg (currency : Currency) : CashLeg := plainLeg currency .principal none (by decide) (by decide)

def feeLeg (currency : Currency) : CashLeg := plainLeg currency .fee (some .bank) (by decide) (by decide)

/-- The arguments of an activity without dates, transfer or predecessor. -/
def plainFields {Time : Type} (kind : ActivityKind) (legs : List ActivityLeg) (corporateActionType : Option CorporateActionType)
    (time : Time) : ActivityFields Time where
  id := ⟨⟨1⟩⟩
  tenantId := ⟨⟨2⟩⟩
  brokerAccountId := ⟨⟨3⟩⟩
  sourceRecordId := ⟨⟨4⟩⟩
  kind := kind
  legs := legs
  effectiveAt := time
  ingestedAt := time
  tradeDate := none
  settlementDate := none
  supersedesId := none
  transferId := none
  transferDirection := none
  transferMethod := none
  corporateActionType := corporateActionType

theorem plainFields_acceptable {Time : Type} {kind : ActivityKind} {legs : List ActivityLeg}
    {corporateActionType : Option CorporateActionType} {time : Time} (other : kind ≠ .transfer) (nonempty : legs ≠ [])
    (subtyped : kind = .corporateAction ↔ corporateActionType ≠ none) (required : Meets legs kind.requirement) :
    (plainFields kind legs corporateActionType time).Acceptable where
  nonempty := nonempty
  supersedesOther := nofun
  datesOrdered := nofun
  transferDescribed := by
    unfold ActivityFields.TransferDescribed
    split
    · next moves => exact absurd moves other
    · exact ⟨rfl, rfl, rfl⟩
  subtyped := subtyped
  required := required

/-- The last wall-clock second that a `datetime` can hold, in a zone one hour behind UTC. -/
def lastSecond : Datetime where
  wall := 315537897599000000
  utcoffset := some (-3600000000)

/-- A deposit is acceptable and its times are aware, but converting them to UTC overflows. -/
theorem lastSecond_overflows :
    lastSecond.Aware ∧ (plainFields .deposit [.cash (principalLeg inr)] none lastSecond).Acceptable ∧
      Activity.new (plainFields .deposit [.cash (principalLeg inr)] none lastSecond) =
        .error (.overflowError "date value out of range") := by
  have principal : Meets [.cash (principalLeg inr)] (ActivityKind.requirement .deposit) := ⟨_, List.mem_singleton_self _, rfl⟩
  exact ⟨rfl, plainFields_acceptable (by decide) (by decide) (by decide) principal, rfl⟩

end PortfolioManager.Domain
