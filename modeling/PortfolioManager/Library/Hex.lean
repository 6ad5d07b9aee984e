import Mathlib.Data.List.GetD
import Mathlib.Tactic.Ring

/-! # Hexadecimal digits

Writing gives lowercase digits; reading accepts both cases.
-/

namespace Hex

def hexDigits : List Char :=
  ['0', '1', '2', '3', '4', '5', '6', '7', '8', '9', 'a', 'b', 'c', 'd', 'e', 'f']

def hexDigit (nibble : ℕ) : Char := hexDigits.getD (nibble % 16) '0'

/-- The `width` low hexadecimal digits of a natural number, most significant first. -/
def hexOf (value : ℕ) : ℕ → List Char
  | 0 => []
  | width + 1 => hexDigit (value / 16 ^ width) :: hexOf value width

/-- The value of a digit of either case. -/
def digitValue (character : Char) : Option ℕ :=
  if '0' ≤ character && character ≤ '9' then some (character.toNat - '0'.toNat)
  else if 'a' ≤ character && character ≤ 'f' then some (character.toNat - 'a'.toNat + 10)
  else if 'A' ≤ character && character ≤ 'F' then some (character.toNat - 'A'.toNat + 10)
  else none

theorem hexDigit_mem (nibble : ℕ) : hexDigit nibble ∈ hexDigits := by
  have bound : nibble % 16 < hexDigits.length := Nat.mod_lt _ (by decide)
  rw [hexDigit, List.getD_eq_getElem _ _ bound]
  exact List.getElem_mem bound

theorem hexOf_length (value width : ℕ) : (hexOf value width).length = width := by
  induction width with
  | zero => rfl
  | succ width ih => simp only [hexOf, List.length_cons, ih]

theorem hexOf_mem {value width : ℕ} {digit : Char} (member : digit ∈ hexOf value width) :
    digit ∈ hexDigits := by
  induction width with
  | zero => simp [hexOf] at member
  | succ width ih =>
    rcases List.mem_cons.mp member with rfl | later
    · exact hexDigit_mem _
    · exact ih later

theorem digitValue_hexDigit (nibble : ℕ) : digitValue (hexDigit nibble) = some (nibble % 16) := by
  have bound : nibble % 16 < 16 := Nat.mod_lt _ (by decide)
  have each : ∀ value : Fin 16, digitValue (hexDigits.getD value '0') = some value.val := by decide
  exact each ⟨nibble % 16, bound⟩

theorem digitValue_bounds {character : Char} {digit : ℕ} (value : digitValue character = some digit) :
    48 ≤ character.toNat ∧ character.toNat ≤ 102 ∧ digit < 16 := by
  have order (low high : Char) : low ≤ high ↔ low.toNat ≤ high.toNat := Iff.rfl
  simp only [digitValue, Bool.and_eq_true, decide_eq_true_eq, order, Char.reduceToNat] at value
  split_ifs at value <;> cases value <;> omega

/-- Reading one more digit of a number extends the quotient read so far. -/
theorem quotient_step (value width : ℕ) :
    value / 16 ^ (width + 1) * 16 + value / 16 ^ width % 16 = value / 16 ^ width := by
  rw [Nat.pow_succ, ← Nat.div_div_eq_div_mul]
  exact Nat.div_add_mod' _ _

/-! ## Order -/

theorem hexDigit_lt_iff {first second : ℕ} : hexDigit first < hexDigit second ↔ first % 16 < second % 16 := by
  have each : ∀ low high : Fin 16, hexDigits.getD low '0' < hexDigits.getD high '0' ↔ low.val < high.val := by decide
  exact each ⟨first % 16, Nat.mod_lt _ (by decide)⟩ ⟨second % 16, Nat.mod_lt _ (by decide)⟩

theorem hexDigit_eq_iff {first second : ℕ} : hexDigit first = hexDigit second ↔ first % 16 = second % 16 := by
  constructor
  · intro same
    have values := congrArg digitValue same
    rw [digitValue_hexDigit, digitValue_hexDigit] at values
    exact Option.some.inj values
  · intro same
    rw [hexDigit, hexDigit, same]

/-- Texts that are ordered as the numbers they show, of which they show the low `width` digits. -/
def Orders (shown : ℕ → List Char) (width : ℕ) : Prop :=
  ∀ first second, shown first < shown second ↔ first % 16 ^ width < second % 16 ^ width

theorem orders_nil : Orders (fun _ => []) 0 := by
  intro first second
  simp [Nat.mod_one]

/-- Texts that go on with the same character are ordered by what follows it. -/
theorem Orders.separator {shown : ℕ → List Char} {width : ℕ} (orders : Orders shown width) (character : Char) :
    Orders (fun value => character :: shown value) width := by
  intro first second
  rw [List.cons_lt_cons_self]
  exact orders first second

/-- Numbers in a positional system are ordered by their high part first. -/
theorem positional_lt_iff {base low low' high high' : ℕ} (bound : low < base) (bound' : low' < base) :
    low + base * high < low' + base * high' ↔ high < high' ∨ high = high' ∧ low < low' := by
  rcases Nat.lt_trichotomy high high' with less | rfl | more
  · have gap := Nat.mul_le_mul_left base (Nat.succ_le_of_lt less)
    rw [Nat.mul_succ] at gap
    omega
  · omega
  · have gap := Nat.mul_le_mul_left base (Nat.succ_le_of_lt more)
    rw [Nat.mul_succ] at gap
    omega

/-- A digit more in front. -/
theorem Orders.digit {shown : ℕ → List Char} {width : ℕ} (orders : Orders shown width) :
    Orders (fun value => hexDigit (value / 16 ^ width) :: shown value) (width + 1) := by
  intro first second
  have low : first % 16 ^ width < 16 ^ width := Nat.mod_lt _ (Nat.pow_pos (by decide))
  have low' : second % 16 ^ width < 16 ^ width := Nat.mod_lt _ (Nat.pow_pos (by decide))
  rw [List.cons_lt_cons_iff, hexDigit_lt_iff, hexDigit_eq_iff, orders first second, Nat.pow_succ, Nat.mod_mul, Nat.mod_mul,
    positional_lt_iff low low']

/-- A group of digits more in front. -/
theorem Orders.group {shown : ℕ → List Char} {width : ℕ} (orders : Orders shown width) (count : ℕ) :
    Orders (fun value => hexOf (value / 16 ^ width) count ++ shown value) (width + count) := by
  induction count with
  | zero => exact orders
  | succ count ih =>
    have next := ih.digit
    simp only [Nat.pow_add, ← Nat.div_div_eq_div_mul] at next
    exact next

end Hex
