import PortfolioManager.Library.Numeral
import PortfolioManager.Python.Numbers
import PortfolioManager.Domain.Numeric
import Mathlib.Data.Nat.Log

/-! # Amounts from text

`Decimal` on a text drops the white space around it and underscores anywhere in it, and takes the decimal digits of every
script. It is the number that is spelled, unrounded and at the scale it is spelled with, or it is refused. The infinities
and the NaNs can be spelled as well, and no amount takes them.
-/

namespace PortfolioManager.Domain

open PortfolioManager.Python Checked

/-- What an alternative constructor raises: `decimal.InvalidOperation`, or an exception of the constructor. -/
inductive NumericError where
  | invalidOperation
  | builtin (error : Builtin)
deriving DecidableEq, Repr

namespace Decimal

/-- `decimal.MAX_PREC`. -/
def maxPrecision : ℕ := 999999999999999999

/-- `decimal.MAX_EMAX`. -/
def maxExponent : ℤ := 999999999999999999

/-- `decimal.MIN_ETINY`. -/
def minScale : ℤ := -1999999999999999997

/-- One character of a spelling, in ASCII. -/
def asciiOf (character : Char) : Option Char :=
  if 0 < character.toNat ∧ character.toNat < 128 then some character
  else if isSpace character then some ' '
  else (decimalValue character).map fun digit => Char.ofNat (48 + digit)

/-- The ASCII characters that a text comes to. -/
def spelling (text : String) : Option (List Char) := ((strip text).toList.filter (· ≠ '_')).mapM asciiOf

/-- The digits after the word `nan`. -/
def isPayload (text : List Char) : Bool := text.all Char.isDigit && (text.dropWhile (· = '0')).length ≤ maxPrecision

/-- The numerals that are decimals as they stand, under the widest context. -/
def Representable (numeral : Numeral) : Prop :=
  Nat.log 10 numeral.coefficient < maxPrecision ∧ (numeral.fraction.getD []).length ≤ maxPrecision ∧
    numeral.scale + Nat.log 10 numeral.coefficient ≤ maxExponent ∧ minScale ≤ numeral.scale

instance : DecidablePred Representable := fun _ => inferInstanceAs (Decidable (_ ∧ _ ∧ _ ∧ _))

def ofNumeral (numeral : Numeral) : Decimal := .finite (numeral.sign = some true) numeral.coefficient numeral.scale

def ofSpelling (text : List Char) : Option Decimal :=
  match (Numeral.readSign text).2.map Char.toLower with
  | 'n' :: 'a' :: 'n' :: payload => if isPayload payload then some (.nan false) else none
  | 's' :: 'n' :: 'a' :: 'n' :: payload => if isPayload payload then some (.nan true) else none
  | 'i' :: 'n' :: 'f' :: ending =>
      if ending = [] ∨ ending = ['i', 'n', 'i', 't', 'y'] then some (.infinity ((Numeral.readSign text).1 = some true)) else none
  | _ => do
      let numeral ← Numeral.read text
      if Representable numeral then some (ofNumeral numeral) else none

/-- `Decimal` on a text. -/
def ofText (text : String) : Except NumericError Decimal :=
  match (spelling text).bind ofSpelling with
  | some value => .ok value
  | none => .error .invalidOperation

end Decimal

def Money.fromText (amount : String) (currency : Currency) : Except NumericError Money := do
  let amount ← Decimal.ofText amount
  (Money.new amount currency).mapError .builtin

def Quantity.fromText (value : String) : Except NumericError Quantity := do
  let value ← Decimal.ofText value
  (Quantity.new value).mapError .builtin

def Price.fromText (value : String) (currency : Currency) : Except NumericError Price := do
  let value ← Decimal.ofText value
  (Price.new value currency).mapError .builtin

def FxRate.fromText (value : String) (baseCurrency quoteCurrency : Currency) : Except NumericError FxRate := do
  let value ← Decimal.ofText value
  (FxRate.new value baseCurrency quoteCurrency).mapError .builtin

example : Decimal.ofText " -1_2.50\n" = .ok (.finite true 1250 (-2)) := by decide

namespace Decimal

/-! ## What is spelled -/

variable {text : String} {characters : List Char} {numeral : Numeral} {value : Decimal}

/-- A text spells a numeral, and the numeral is a decimal as it stands. -/
structure Spells (text : String) (numeral : Numeral) : Prop where
  wellFormed : numeral.WellFormed
  spelling : spelling text = some numeral.render
  representable : Representable numeral

theorem digit_lower (digit : Digit) : digit.char.toLower ≠ 'n' ∧ digit.char.toLower ≠ 's' ∧ digit.char.toLower ≠ 'i' := by
  revert digit
  decide

/-- A number does not start like a word. -/
theorem ofSpelling_render (wellFormed : numeral.WellFormed) :
    ofSpelling numeral.render = if Representable numeral then some (ofNumeral numeral) else none := by
  obtain ⟨character, rest, shape, plain⟩ := wellFormed.head
  have unworded : character.toLower ≠ 'n' ∧ character.toLower ≠ 's' ∧ character.toLower ≠ 'i' := by
    rcases plain with ⟨digit, rfl⟩ | rfl
    · exact digit_lower digit
    · decide
  have body : (Numeral.readSign numeral.render).2 = character :: rest := by
    rw [Numeral.render, Numeral.readSign_append _ wellFormed.unsigned, shape]
  unfold ofSpelling
  rw [body, List.map_cons]
  split
  · next same => exact absurd (List.cons.inj same).1 unworded.1
  · next same => exact absurd (List.cons.inj same).1 unworded.2.1
  · next same => exact absurd (List.cons.inj same).1 unworded.2.2
  · rw [Numeral.read_render wellFormed]
    rfl

theorem ofSpelling_eq_finite (accepted : ofSpelling characters = some value) (finite : value.isFinite = true) :
    ∃ numeral : Numeral, numeral.WellFormed ∧ characters = numeral.render ∧ Representable numeral ∧ value = ofNumeral numeral := by
  unfold ofSpelling at accepted
  split at accepted
  · split_ifs at accepted
    cases accepted
    contradiction
  · split_ifs at accepted
    cases accepted
    contradiction
  · split_ifs at accepted
    cases accepted
    contradiction
  · obtain ⟨numeral, read, found⟩ := Option.bind_eq_some_iff.mp accepted
    obtain ⟨wellFormed, same⟩ := Numeral.read_eq_some_iff.mp read
    split_ifs at found with representable
    exact ⟨numeral, wellFormed, same, representable, (Option.some.inj found).symm⟩

/-- The finite decimals are those of the numerals spelled. -/
theorem ofText_finite_iff : ofText text = .ok value ∧ value.isFinite = true ↔ ∃ numeral, Spells text numeral ∧ value = ofNumeral numeral := by
  constructor
  · rintro ⟨read, finite⟩
    unfold ofText at read
    split at read
    · next found =>
      cases read
      obtain ⟨characters, spelled, accepted⟩ := Option.bind_eq_some_iff.mp found
      obtain ⟨numeral, wellFormed, rfl, representable, same⟩ := ofSpelling_eq_finite accepted finite
      exact ⟨numeral, ⟨wellFormed, spelled, representable⟩, same⟩
    · cases read
  · rintro ⟨numeral, spells, rfl⟩
    refine ⟨?_, rfl⟩
    rw [ofText, spells.spelling, Option.bind_some, ofSpelling_render spells.wellFormed, if_pos spells.representable]

/-! ## The numbers -/

/-- The number that a finite decimal is. -/
def number : Decimal → Option ℚ
  | finite negative coefficient exponent => some ((if negative then -1 else 1) * coefficient * 10 ^ exponent)
  | _ => none

theorem number_ofNumeral (numeral : Numeral) : (ofNumeral numeral).number = some numeral.value := by
  rw [Numeral.value_eq]
  rcases sign : numeral.sign with _ | _ | _ <;> simp [ofNumeral, number, sign, Numeral.signed]

theorem isNegative_iff {number : ℚ} (is : value.number = some number) : value.isNegative = true ↔ number < 0 := by
  cases value with
  | infinity negative => contradiction
  | nan signaling => contradiction
  | finite negative coefficient exponent =>
    cases is
    have scale : (0 : ℚ) < 10 ^ exponent := by positivity
    have magnitude : (0 : ℚ) ≤ coefficient * 10 ^ exponent := by positivity
    cases negative with
    | false => simpa [isNegative] using magnitude
    | true =>
      simp [isNegative, Nat.pos_iff_ne_zero, scale]

theorem isNonPositive_iff {number : ℚ} (is : value.number = some number) : value.isNonPositive = true ↔ number ≤ 0 := by
  cases value with
  | infinity negative => contradiction
  | nan signaling => contradiction
  | finite negative coefficient exponent =>
    cases is
    have scale : (0 : ℚ) < 10 ^ exponent := by positivity
    have magnitude : (0 : ℚ) ≤ coefficient * 10 ^ exponent := by positivity
    cases negative with
    | false => simp [isNonPositive, mul_nonpos_iff, scale.le, scale.not_ge]
    | true => simpa [isNonPositive] using magnitude

end Decimal

/-! ## The alternative constructors -/

open Decimal

variable {text : String} {numeral : Numeral} {value : Decimal} {currency baseCurrency quoteCurrency : Currency}

theorem Decimal.ofText_of_spells (spells : Spells text numeral) : ofText text = .ok (ofNumeral numeral) :=
  (ofText_finite_iff.mpr ⟨numeral, spells, rfl⟩).1

theorem Price.fromText_of_spells (spells : Spells text numeral) :
    if 0 ≤ numeral.value then ∃ price, Price.fromText text currency = .ok price ∧ price.value = ofNumeral numeral ∧ price.currency = currency
    else Price.fromText text currency = .error (.builtin (.valueError "price cannot be negative")) := by
  have sign := isNegative_iff (number_ofNumeral numeral)
  rw [Price.fromText, ofText_of_spells spells, ok_bind]
  split
  · next nonnegative =>
    have unsigned := sign.not.mpr (not_lt.mpr nonnegative)
    refine ⟨⟨ofNumeral numeral, currency, rfl, unsigned⟩, ?_, rfl, rfl⟩
    exact mapError_eq_ok_iff.mpr (Price.new_eq_ok_iff.mpr ⟨rfl, rfl⟩)
  · next negative =>
    have finite : (ofNumeral numeral).isFinite = true := rfl
    have signed := not_not.mpr (sign.mpr (not_le.mp negative))
    rw [Price.new, requireFinite, check_of _ finite, ok_bind, check_of_not _ signed]
    rfl

theorem FxRate.fromText_of_spells (spells : Spells text numeral) :
    if 0 < numeral.value then ∃ rate, FxRate.fromText text baseCurrency quoteCurrency = .ok rate ∧ rate.value = ofNumeral numeral ∧
      rate.baseCurrency = baseCurrency ∧ rate.quoteCurrency = quoteCurrency
    else FxRate.fromText text baseCurrency quoteCurrency = .error (.builtin (.valueError "FX rate must be positive")) := by
  have sign := isNonPositive_iff (number_ofNumeral numeral)
  rw [FxRate.fromText, ofText_of_spells spells, ok_bind]
  split
  · next positive =>
    have unsigned := sign.not.mpr (not_le.mpr positive)
    refine ⟨⟨ofNumeral numeral, baseCurrency, quoteCurrency, rfl, unsigned⟩, ?_, rfl, rfl, rfl⟩
    exact mapError_eq_ok_iff.mpr (FxRate.new_eq_ok_iff.mpr ⟨rfl, rfl, rfl⟩)
  · next nonpositive =>
    have finite : (ofNumeral numeral).isFinite = true := rfl
    have signed := not_not.mpr (sign.mpr (not_lt.mp nonpositive))
    rw [FxRate.new, requireFinite, check_of _ finite, ok_bind, check_of_not _ signed]
    rfl

/-- All four constructors refuse a text, each with the error for its field. -/
structure RefusedBy (error : String → NumericError) (text : String) (currency baseCurrency quoteCurrency : Currency) : Prop where
  money : Money.fromText text currency = .error (error "money amount")
  quantity : Quantity.fromText text = .error (error "quantity")
  price : Price.fromText text currency = .error (error "price")
  rate : FxRate.fromText text baseCurrency quoteCurrency = .error (error "FX rate")

/-- The error for a value that is not finite. -/
def notFinite (fieldName : String) : NumericError := .builtin (.valueError s!"{fieldName} must be finite")

theorem refusedBy_invalidOperation (failed : ofText text = .error .invalidOperation) :
    RefusedBy (fun _ => .invalidOperation) text currency baseCurrency quoteCurrency where
  money := by rw [Money.fromText, failed, error_bind]
  quantity := by rw [Quantity.fromText, failed, error_bind]
  price := by rw [Price.fromText, failed, error_bind]
  rate := by rw [FxRate.fromText, failed, error_bind]

theorem refusedBy_notFinite (read : ofText text = .ok value) (infinite : ¬value.isFinite = true) :
    RefusedBy notFinite text currency baseCurrency quoteCurrency where
  money := by
    rw [Money.fromText, read, ok_bind, Money.new, requireFinite, check_of_not _ infinite]
    rfl
  quantity := by
    rw [Quantity.fromText, read, ok_bind, Quantity.new, requireFinite, check_of_not _ infinite]
    rfl
  price := by
    rw [Price.fromText, read, ok_bind, Price.new, requireFinite, check_of_not _ infinite]
    rfl
  rate := by
    rw [FxRate.fromText, read, ok_bind, FxRate.new, requireFinite, check_of_not _ infinite]
    rfl

/-- An amount, a quantity, a price or a rate from a text is the number spelled, at the scale it is spelled with, and a
text that spells none is refused by all of them alike. -/
theorem fromText_exact (text : String) (currency baseCurrency quoteCurrency : Currency) :
    (∃ numeral, Spells text numeral ∧ (ofNumeral numeral).number = some numeral.value ∧
      (∃ money, Money.fromText text currency = .ok money ∧ money.amount = ofNumeral numeral ∧ money.currency = currency) ∧
      (∃ quantity, Quantity.fromText text = .ok quantity ∧ quantity.value = ofNumeral numeral) ∧
      (if 0 ≤ numeral.value then
        ∃ price, Price.fromText text currency = .ok price ∧ price.value = ofNumeral numeral ∧ price.currency = currency
      else Price.fromText text currency = .error (.builtin (.valueError "price cannot be negative"))) ∧
      (if 0 < numeral.value then
        ∃ rate, FxRate.fromText text baseCurrency quoteCurrency = .ok rate ∧ rate.value = ofNumeral numeral ∧
          rate.baseCurrency = baseCurrency ∧ rate.quoteCurrency = quoteCurrency
      else FxRate.fromText text baseCurrency quoteCurrency = .error (.builtin (.valueError "FX rate must be positive")))) ∨
    (∀ numeral, ¬Spells text numeral) ∧
      (RefusedBy (fun _ => .invalidOperation) text currency baseCurrency quoteCurrency ∨
        RefusedBy notFinite text currency baseCurrency quoteCurrency) := by
  by_cases spelled : ∃ numeral, Spells text numeral
  · obtain ⟨numeral, spells⟩ := spelled
    have read := ofText_of_spells spells
    refine .inl ⟨numeral, spells, number_ofNumeral numeral, ?_, ?_, Price.fromText_of_spells spells, FxRate.fromText_of_spells spells⟩
    · refine ⟨⟨ofNumeral numeral, currency, rfl⟩, ?_, rfl, rfl⟩
      rw [Money.fromText, read, ok_bind]
      exact mapError_eq_ok_iff.mpr (Money.new_eq_ok_iff.mpr ⟨rfl, rfl⟩)
    · refine ⟨⟨ofNumeral numeral, rfl⟩, ?_, rfl⟩
      rw [Quantity.fromText, read, ok_bind]
      exact mapError_eq_ok_iff.mpr (Quantity.new_eq_ok_iff.mpr rfl)
  · refine .inr ⟨not_exists.mp spelled, ?_⟩
    cases read : ofText text with
    | ok value =>
      refine .inr (refusedBy_notFinite read fun finite => spelled ?_)
      obtain ⟨numeral, spells, _⟩ := ofText_finite_iff.mp ⟨read, finite⟩
      exact ⟨numeral, spells⟩
    | error error =>
      cases error with
      | invalidOperation => exact .inl (refusedBy_invalidOperation read)
      | builtin error =>
        unfold ofText at read
        split at read
        · cases read
        · cases Except.error.inj read

end PortfolioManager.Domain
