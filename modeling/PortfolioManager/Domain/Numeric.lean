import PortfolioManager.Library.Checked
import PortfolioManager.Python.Text

/-! # Exact numeric primitives

A decimal is kept as it is written, with its sign, digits and exponent; the infinities and the values
that are not numbers exist as well, and only the finite ones become amounts, quantities, prices and
rates. Two decimals can denote the same number without being written alike.
-/

namespace PortfolioManager.Domain

open PortfolioManager.Python Checked

inductive Decimal where
  | finite (negative : Bool) (coefficient : ℕ) (exponent : ℤ)
  | infinity (negative : Bool)
  | nan (signaling : Bool)
deriving DecidableEq, Repr

namespace Decimal

/-- `Decimal.is_finite`. -/
def isFinite : Decimal → Bool
  | finite _ _ _ => true
  | _ => false

/-- `value < 0` on a finite value. -/
def isNegative : Decimal → Bool
  | finite negative coefficient _ => negative && coefficient ≠ 0
  | _ => false

/-- `value <= 0` on a finite value. -/
def isNonPositive : Decimal → Bool
  | finite negative coefficient _ => negative || coefficient = 0
  | _ => false

end Decimal

/-- `_require_finite`. -/
def requireFinite (value : Decimal) (fieldName : String) : Except Builtin (PLift (value.isFinite = true)) :=
  check (value.isFinite = true) (.valueError s!"{fieldName} must be finite")

structure Currency where
  code : String
  threeLetters : code.length = 3 ∧ isAscii code = true ∧ isAlpha code = true
  uppercase : code = upper code
deriving DecidableEq

def Currency.new (code : String) : Except Builtin Currency := do
  let ⟨threeLetters⟩ ← check (code.length = 3 ∧ isAscii code = true ∧ isAlpha code = true)
    (.valueError "currency code must contain three ASCII letters")
  let ⟨uppercase⟩ ← check (code = upper code) (.valueError "currency code must be uppercase")
  return ⟨code, threeLetters, uppercase⟩

structure Money where
  amount : Decimal
  currency : Currency
  finite : amount.isFinite = true
deriving DecidableEq

def Money.new (amount : Decimal) (currency : Currency) : Except Builtin Money := do
  let ⟨finite⟩ ← requireFinite amount "money amount"
  return ⟨amount, currency, finite⟩

structure Quantity where
  value : Decimal
  finite : value.isFinite = true
deriving DecidableEq

def Quantity.new (value : Decimal) : Except Builtin Quantity := do
  let ⟨finite⟩ ← requireFinite value "quantity"
  return ⟨value, finite⟩

structure Price where
  value : Decimal
  currency : Currency
  finite : value.isFinite = true
  nonnegative : ¬value.isNegative = true
deriving DecidableEq

def Price.new (value : Decimal) (currency : Currency) : Except Builtin Price := do
  let ⟨finite⟩ ← requireFinite value "price"
  let ⟨nonnegative⟩ ← check (¬value.isNegative = true) (.valueError "price cannot be negative")
  return ⟨value, currency, finite, nonnegative⟩

structure FxRate where
  value : Decimal
  baseCurrency : Currency
  quoteCurrency : Currency
  finite : value.isFinite = true
  positive : ¬value.isNonPositive = true
deriving DecidableEq

def FxRate.new (value : Decimal) (baseCurrency quoteCurrency : Currency) : Except Builtin FxRate := do
  let ⟨finite⟩ ← requireFinite value "FX rate"
  let ⟨positive⟩ ← check (¬value.isNonPositive = true) (.valueError "FX rate must be positive")
  return ⟨value, baseCurrency, quoteCurrency, finite, positive⟩

/-! ## What the constructors accept -/

theorem Currency.new_eq_ok_iff {code : String} {currency : Currency} : Currency.new code = .ok currency ↔ currency.code = code := by
  simp only [Currency.new, check_bind_eq_ok_iff, pure_eq_ok_iff]
  constructor
  · rintro ⟨_, _, rfl⟩
    rfl
  · rintro rfl
    exact ⟨currency.threeLetters, currency.uppercase, rfl⟩

/-- The currency codes are three letters from `A` to `Z`. -/
theorem Currency.exists_new_iff {code : String} :
    (∃ currency, Currency.new code = .ok currency) ↔
      code.length = 3 ∧ ∀ character ∈ code.toList, 65 ≤ character.toNat ∧ character.toNat ≤ 90 := by
  constructor
  · rintro ⟨currency, accepted⟩
    cases Currency.new_eq_ok_iff.mp accepted
    obtain ⟨length, ascii, alpha⟩ := currency.threeLetters
    exact ⟨length, (isUpperAlpha_iff length).mp ⟨ascii, alpha, currency.uppercase⟩⟩
  · rintro ⟨length, letters⟩
    obtain ⟨ascii, alpha, uppercase⟩ := (isUpperAlpha_iff length).mpr letters
    exact ⟨⟨code, ⟨length, ascii, alpha⟩, uppercase⟩, Currency.new_eq_ok_iff.mpr rfl⟩

theorem Money.new_eq_ok_iff {amount : Decimal} {currency : Currency} {money : Money} :
    Money.new amount currency = .ok money ↔ money.amount = amount ∧ money.currency = currency := by
  simp only [Money.new, requireFinite, check_bind_eq_ok_iff, pure_eq_ok_iff]
  constructor
  · rintro ⟨_, rfl⟩
    exact ⟨rfl, rfl⟩
  · rintro ⟨rfl, rfl⟩
    exact ⟨money.finite, rfl⟩

theorem Quantity.new_eq_ok_iff {value : Decimal} {quantity : Quantity} :
    Quantity.new value = .ok quantity ↔ quantity.value = value := by
  simp only [Quantity.new, requireFinite, check_bind_eq_ok_iff, pure_eq_ok_iff]
  constructor
  · rintro ⟨_, rfl⟩
    rfl
  · rintro rfl
    exact ⟨quantity.finite, rfl⟩

theorem Price.new_eq_ok_iff {value : Decimal} {currency : Currency} {price : Price} :
    Price.new value currency = .ok price ↔ price.value = value ∧ price.currency = currency := by
  simp only [Price.new, requireFinite, check_bind_eq_ok_iff, pure_eq_ok_iff]
  constructor
  · rintro ⟨_, _, rfl⟩
    exact ⟨rfl, rfl⟩
  · rintro ⟨rfl, rfl⟩
    exact ⟨price.finite, price.nonnegative, rfl⟩

theorem FxRate.new_eq_ok_iff {value : Decimal} {baseCurrency quoteCurrency : Currency} {rate : FxRate} :
    FxRate.new value baseCurrency quoteCurrency = .ok rate ↔
      rate.value = value ∧ rate.baseCurrency = baseCurrency ∧ rate.quoteCurrency = quoteCurrency := by
  simp only [FxRate.new, requireFinite, check_bind_eq_ok_iff, pure_eq_ok_iff]
  constructor
  · rintro ⟨_, _, rfl⟩
    exact ⟨rfl, rfl, rfl⟩
  · rintro ⟨rfl, rfl, rfl⟩
    exact ⟨rate.finite, rate.positive, rfl⟩

end PortfolioManager.Domain
