import PortfolioManager.Domain.ActivityShape

/-! # The legs that carry the effect of an activity

An activity should have legs in the roles of its kind: both sides of a conversion, the position and
the principal of a trade, the instrument of a corporate action. The validator looks at the roles for
most kinds, and for these three at less, so a leg in another role can stand in for one that is missing.
-/

namespace PortfolioManager.Domain

open PortfolioManager.Python Checked Requirement

/-- The currency of a principal amount. -/
def ActivityLeg.principalCurrency (leg : ActivityLeg) : Option Currency :=
  if leg.cashRole = some .principal then leg.currency else none

namespace ActivityKind

/-- The legs that carry the economic effect of an activity of the kind. -/
def effect : ActivityKind → Requirement ActivityLeg
  | trade => includes (·.instrumentRole = some .position) ⊔ includes (·.cashRole = some .principal)
  | deposit | withdrawal => includes (·.cashRole = some .principal)
  | dividend | interest => includes (·.cashRole = some .income)
  | fee => includes fun leg => ∃ charge, leg = .cash charge ∧ charge.role = .fee ∧ charge.feeCategory ≠ none
  | tax => includes fun leg => ∃ charge, leg = .cash charge ∧ charge.role = .tax ∧ charge.taxCategory ≠ none
  | transfer => includes fun leg => leg.cashRole = some .transfer ∨ leg.instrumentRole = some .transfer
  | fxConversion => differ ActivityLeg.principalCurrency
  | corporateAction => includes (·.instrumentRole = some .corporateAction)

/-- A leg has the role of its kind, where the validator takes one in any role. -/
def InRole (kind : ActivityKind) (leg : ActivityLeg) : Prop :=
  match kind with
  | trade => (∀ role ∈ leg.instrumentRole, role = .position) ∧ ∀ role ∈ leg.cashRole, role = .principal
  | fxConversion => ∀ role ∈ leg.cashRole, role = .principal
  | corporateAction => ∀ role ∈ leg.instrumentRole, role = .corporateAction
  | _ => True

end ActivityKind

namespace ActivityLeg

variable {leg : ActivityLeg}

@[simp] theorem principalCurrency_cash (leg : CashLeg) :
    (cash leg).principalCurrency = if leg.role = .principal then some leg.money.currency else none := by
  simp [principalCurrency]

theorem cashRole_eq_some_iff {role : CashLegRole} : leg.cashRole = some role ↔ ∃ charge, leg = .cash charge ∧ charge.role = role := by
  cases leg with
  | instrument leg => simp
  | cash leg => simp

/-- A fee leg carries its category. -/
theorem fee_categorised (leg : ActivityLeg) :
    leg.cashRole = some .fee ↔ ∃ charge, leg = .cash charge ∧ charge.role = .fee ∧ charge.feeCategory ≠ none := by
  rw [cashRole_eq_some_iff]
  refine exists_congr fun charge => and_congr_right fun _ => ?_
  exact (and_iff_left_of_imp fun fee => Option.ne_none_iff_isSome.mpr (charge.feeCategorised.mp fee)).symm

theorem tax_categorised (leg : ActivityLeg) :
    leg.cashRole = some .tax ↔ ∃ charge, leg = .cash charge ∧ charge.role = .tax ∧ charge.taxCategory ≠ none := by
  rw [cashRole_eq_some_iff]
  refine exists_congr fun charge => and_congr_right fun _ => ?_
  exact (and_iff_left_of_imp fun tax => Option.ne_none_iff_isSome.mpr (charge.taxCategorised.mp tax)).symm

end ActivityLeg

/-- A role that is there and can only be one role is that role. -/
theorem eq_some_of_only {α : Type} {role : Option α} {expected : α} (present : role.isSome = true)
    (only : ∀ found ∈ role, found = expected) : role = some expected := by
  obtain ⟨found, same⟩ := Option.isSome_iff_exists.mp present
  rw [same, only found same]

namespace ActivityKind

variable {kind : ActivityKind} {legs : List ActivityLeg}

/-- Legs that are all in role carry the effect of a kind when they meet its requirement. -/
theorem meets_effect (required : Meets legs kind.requirement) (inRole : ∀ leg ∈ legs, kind.InRole leg) : Meets legs kind.effect := by
  cases kind with
  | trade =>
    obtain ⟨instrument, cash⟩ := meets_sup.mp required
    refine meets_sup.mpr ⟨instrument.includes_imp fun leg member present => ?_, cash.includes_imp fun leg member present => ?_⟩
    · exact eq_some_of_only present (inRole leg member).1
    · exact eq_some_of_only present (inRole leg member).2
  | fxConversion =>
    refine required.differ_imp fun leg member currency same => ?_
    cases leg with
    | instrument leg => cases same
    | cash leg =>
      rw [ActivityLeg.principalCurrency_cash, if_pos (inRole _ member leg.role rfl)]
      exact same
  | corporateAction => exact required.includes_imp fun leg member present => eq_some_of_only present (inRole leg member)
  | fee => exact required.includes_imp fun leg _ => leg.fee_categorised.mp
  | tax => exact required.includes_imp fun leg _ => leg.tax_categorised.mp
  | _ => exact required

/-- Only three kinds have legs out of role. -/
theorem inRole_of_other (noTrade : kind ≠ .trade) (noConversion : kind ≠ .fxConversion) (noAction : kind ≠ .corporateAction)
    (leg : ActivityLeg) : kind.InRole leg := by
  cases kind with
  | trade => contradiction
  | fxConversion => contradiction
  | corporateAction => contradiction
  | _ => trivial

end ActivityKind

/-! ## What the constructor misses -/

/-- A position of ten units. -/
def positionLeg : InstrumentLeg where
  instrumentId := ⟨⟨5⟩⟩
  quantity := ⟨.finite false 10 0, rfl⟩
  role := .position
  executionPrice := none

def sampleTime : Datetime := ({ micros := 63921960000000000 } : Instant).toDatetime

/-- Acceptable legs are accepted at the sample time. -/
theorem exists_plain {kind : ActivityKind} {legs : List ActivityLeg} {corporateActionType : Option CorporateActionType}
    (acceptable : (plainFields kind legs corporateActionType sampleTime).Acceptable) :
    ∃ activity, Activity.new (plainFields kind legs corporateActionType sampleTime) = .ok activity ∧
      activity.legs = legs ∧ activity.kind = kind := by
  have convertible : sampleTime.Convertible := (exists_asUtc_iff "timestamp").mp ⟨_, asUtc_toDatetime _ _⟩
  obtain ⟨activity, accepted⟩ := Activity.exists_new_iff.mpr ⟨convertible, convertible, acceptable⟩
  obtain ⟨_, _, same⟩ := Activity.new_eq_ok_iff.mp accepted
  exact ⟨activity, accepted, by rw [same]; rfl, by rw [same]; rfl⟩

/-- The arguments of a conversion between two principal amounts. -/
def conversionFields : ActivityFields Datetime :=
  plainFields .fxConversion [.cash (principalLeg inr), .cash (principalLeg usd)] none sampleTime

theorem conversion_meets {first second : CashLeg} (different : first.money.currency ≠ second.money.currency) :
    Meets [.cash first, .cash second] (ActivityKind.requirement .fxConversion) :=
  ⟨.cash first, List.mem_cons_self .., .cash second, by simp, _, _, rfl, rfl, different⟩

theorem conversionFields_acceptable : conversionFields.Acceptable :=
  plainFields_acceptable (by decide) (by decide) (by decide) (conversion_meets (by decide))

theorem exists_without_effect {kind : ActivityKind} {legs : List ActivityLeg} {corporateActionType : Option CorporateActionType}
    (acceptable : (plainFields kind legs corporateActionType sampleTime).Acceptable) (missing : ¬Meets legs kind.effect) :
    ∃ activity, Activity.new (plainFields kind legs corporateActionType sampleTime) = .ok activity ∧
      ¬Meets activity.legs activity.kind.effect := by
  obtain ⟨activity, accepted, rfl, rfl⟩ := exists_plain acceptable
  exact ⟨activity, accepted, missing⟩

theorem exists_other_currency (c : Currency) : ∃ other : Currency, c ≠ other := by
  by_cases same : c = inr
  · exact ⟨usd, by rw [same]; decide⟩
  · exact ⟨inr, same⟩

/-- Beside a leg out of role, legs in role can meet the requirement of the kind and miss the effect. -/
theorem exists_stand_in {kind : ActivityKind} {leg : ActivityLeg} (out : ¬kind.InRole leg) :
    ∃ (others : List ActivityLeg) (corporateActionType : Option CorporateActionType), (∀ other ∈ others, kind.InRole other) ∧
      (kind = .corporateAction ↔ corporateActionType ≠ none) ∧
        Meets (leg :: others) kind.requirement ∧ ¬Meets (leg :: others) kind.effect := by
  cases kind with
  | trade =>
    cases leg with
    | instrument leg =>
      -- the other side is there, so the only instrument leg is the one out of role
      have other : leg.role ≠ .position := fun same => out ⟨by simp [same], by simp⟩
      refine ⟨[.cash (principalLeg inr)], none, ?_, by decide, ?_, fun met => ?_⟩
      · simp [ActivityKind.InRole, principalLeg, plainLeg]
      · exact meets_sup.mpr ⟨⟨_, List.mem_cons_self .., rfl⟩, ⟨.cash (principalLeg inr), by simp, rfl⟩⟩
      · simpa [other] using (meets_sup.mp met).1
    | cash leg =>
      have other : leg.role ≠ .principal := fun same => out ⟨by simp, by simp [same]⟩
      refine ⟨[.instrument positionLeg], none, ?_, by decide, ?_, fun met => ?_⟩
      · simp [ActivityKind.InRole, positionLeg]
      · exact meets_sup.mpr ⟨⟨.instrument positionLeg, by simp, rfl⟩, ⟨_, List.mem_cons_self .., rfl⟩⟩
      · simpa [other] using (meets_sup.mp met).2
  | fxConversion =>
    cases leg with
    | instrument leg => exact (out (by simp [ActivityKind.InRole])).elim
    | cash leg =>
      have other : leg.role ≠ .principal := fun same => out (by simp [ActivityKind.InRole, same])
      obtain ⟨c, different⟩ := exists_other_currency leg.money.currency
      refine ⟨[.cash (principalLeg c)], none, ?_, by decide, conversion_meets different, ?_⟩
      · simp [ActivityKind.InRole, principalLeg, plainLeg]
      · refine @not_meets_differ _ _ _ ActivityLeg.principalCurrency c ?_
        simp [other, principalLeg, plainLeg]
  | corporateAction =>
    cases leg with
    | instrument leg =>
      have other : leg.role ≠ .corporateAction := fun same => out (by simp [ActivityKind.InRole, same])
      refine ⟨[], some .split, by simp, by decide, ⟨_, List.mem_singleton_self _, rfl⟩, fun met => ?_⟩
      simpa [other] using meets_includes.mp met
    | cash leg => exact (out (by simp [ActivityKind.InRole])).elim
  | _ => exact (out trivial).elim

/-- A leg out of role can be completed by legs in role to an accepted activity without the effect. -/
theorem exists_without_effect_of_not_inRole {kind : ActivityKind} {leg : ActivityLeg} (out : ¬kind.InRole leg) :
    ∃ others, (∀ other ∈ others, kind.InRole other) ∧ ∃ fields activity, Activity.new fields = .ok activity ∧
      activity.kind = kind ∧ activity.legs = leg :: others ∧ ¬Meets activity.legs activity.kind.effect := by
  obtain ⟨others, corporateActionType, inRole, subtyped, required, missing⟩ := exists_stand_in out
  have noTransfer : kind ≠ .transfer := by
    rintro rfl
    exact out trivial
  obtain ⟨activity, accepted, legs, rfl⟩ :=
    exists_plain (plainFields_acceptable noTransfer (List.cons_ne_nil leg others) subtyped required)
  exact ⟨others, inRole, _, activity, accepted, rfl, legs, by rwa [legs]⟩

namespace Activity

variable {fields : ActivityFields Datetime} {activity : Activity}

theorem meets_effect (accepted : Activity.new fields = .ok activity) (inRole : ∀ leg ∈ fields.legs, fields.kind.InRole leg) :
    Meets activity.legs activity.kind.effect := by
  obtain ⟨_, _, same⟩ := new_eq_ok_iff.mp accepted
  have required := activity.acceptable.required
  rw [same] at required ⊢
  exact ActivityKind.meets_effect required inRole

/-- An accepted activity carries its effect when all its legs are in role, and for seven kinds it always does;
a single leg out of role is enough for an accepted activity of the kind without its effect. -/
theorem carries_effect_of_inRole (accepted : Activity.new fields = .ok activity) :
    ((∀ leg ∈ fields.legs, fields.kind.InRole leg) → Meets activity.legs activity.kind.effect) ∧
      (fields.kind ≠ .trade → fields.kind ≠ .fxConversion → fields.kind ≠ .corporateAction →
        Meets activity.legs activity.kind.effect) ∧
      ∀ leg, ¬fields.kind.InRole leg → ∃ others, (∀ other ∈ others, fields.kind.InRole other) ∧
        ∃ fields' activity', Activity.new fields' = .ok activity' ∧ activity'.kind = fields.kind ∧
          activity'.legs = leg :: others ∧ ¬Meets activity'.legs activity'.kind.effect := by
  refine ⟨meets_effect accepted, fun noTrade noConversion noAction => ?_, fun _ => exists_without_effect_of_not_inRole⟩
  exact meets_effect accepted fun leg _ => ActivityKind.inRole_of_other noTrade noConversion noAction leg

end Activity

theorem carries_effect_conversion :
    ∃ activity, Activity.new conversionFields = .ok activity ∧ Meets activity.legs activity.kind.effect := by
  obtain ⟨activity, accepted, _⟩ := exists_plain conversionFields_acceptable
  refine ⟨activity, accepted, (Activity.carries_effect_of_inRole accepted).1 ?_⟩
  intro leg member
  rcases List.mem_pair.mp member with rfl | rfl
  · rintro _ ⟨⟩
    rfl
  · rintro _ ⟨⟩
    rfl

/-- A bank charge stands in for the other side of a conversion and for the payment of a trade, and a plain
position for the instrument of a corporate action. -/
theorem charge_stands_in :
    (∃ activity, Activity.new (plainFields .fxConversion [.cash (principalLeg inr), .cash (feeLeg usd)] none sampleTime) =
        .ok activity ∧ ¬Meets activity.legs activity.kind.effect) ∧
      (∃ activity, Activity.new (plainFields .trade [.instrument positionLeg, .cash (feeLeg inr)] none sampleTime) =
        .ok activity ∧ ¬Meets activity.legs activity.kind.effect) ∧
      ∃ activity, Activity.new (plainFields .corporateAction [.instrument positionLeg] (some .split) sampleTime) =
        .ok activity ∧ ¬Meets activity.legs activity.kind.effect := by
  refine ⟨?_, ?_, ?_⟩
  · refine exists_without_effect (plainFields_acceptable (by decide) (by decide) (by decide) ?_) ?_
    · exact conversion_meets (by decide)
    · refine @not_meets_differ _ _ _ ActivityLeg.principalCurrency inr ?_
      decide
  · refine exists_without_effect (plainFields_acceptable (by decide) (by decide) (by decide) ?_) ?_
    · exact meets_sup.mpr ⟨⟨_, List.mem_cons_self .., rfl⟩, ⟨.cash (feeLeg inr), by simp, rfl⟩⟩
    · intro met
      obtain ⟨leg, member, principal⟩ := meets_includes.mp (meets_sup.mp met).2
      revert leg
      decide
  · refine exists_without_effect (plainFields_acceptable (by decide) (by decide) (by decide) ?_) ?_
    · exact ⟨_, List.mem_singleton_self _, rfl⟩
    · intro met
      obtain ⟨leg, member, role⟩ := meets_includes.mp met
      revert leg
      decide

end PortfolioManager.Domain
