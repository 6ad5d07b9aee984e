import PortfolioManager.Library.Hex

/-! # UUIDs as text

`render` is the canonical form with hyphens. `parse` reads what a database accepts for its `uuid`
type: eight groups of four hexadecimal digits of either case, each followed by an optional hyphen
except the last, optionally in braces.
-/

namespace UuidText

open Hex

def render (value : BitVec 128) : String :=
  String.ofList (hexOf (value.toNat / 16 ^ 24) 8 ++ '-' :: hexOf (value.toNat / 16 ^ 20) 4 ++
    '-' :: hexOf (value.toNat / 16 ^ 16) 4 ++ '-' :: hexOf (value.toNat / 16 ^ 12) 4 ++ '-' :: hexOf value.toNat 12)

/-- Read four digits onto a value. -/
def readDigits : ℕ → ℕ → List Char → Option (ℕ × List Char)
  | 0, value, rest => some (value, rest)
  | _ + 1, _, [] => none
  | count + 1, value, character :: rest => do
      let digit ← digitValue character
      readDigits count (value * 16 + digit) rest

def skipHyphen : List Char → List Char
  | '-' :: rest => rest
  | rest => rest

def readGroups : ℕ → ℕ → List Char → Option (ℕ × List Char)
  | 0, value, rest => some (value, rest)
  | groups + 1, value, text => do
      let (value, rest) ← readDigits 4 value text
      readGroups groups value (if groups = 0 then rest else skipHyphen rest)

def parse (text : String) : Option (BitVec 128) :=
  match text.toList with
  | '{' :: body =>
      match readGroups 8 0 body with
      | some (value, ['}']) => some (BitVec.ofNat 128 value)
      | _ => none
  | body =>
      match readGroups 8 0 body with
      | some (value, []) => some (BitVec.ofNat 128 value)
      | _ => none

/-- Reading back the low digits of a number extends its higher digits. -/
theorem readDigits_hexOf (value count : ℕ) (rest : List Char) :
    readDigits count (value / 16 ^ count) (hexOf value count ++ rest) = some (value, rest) := by
  induction count with
  | zero => simp [readDigits, hexOf]
  | succ count ih =>
    rw [hexOf, List.cons_append, readDigits, digitValue_hexDigit, Option.bind_eq_bind, Option.bind_some,
      quotient_step, ih]

theorem hexDigit_ne_hyphen (nibble : ℕ) : hexDigit nibble ≠ '-' := by
  intro same
  have member := hexDigit_mem nibble
  rw [same] at member
  exact absurd member (by decide)

@[simp] theorem skipHyphen_hyphen (rest : List Char) : skipHyphen ('-' :: rest) = rest := rfl

theorem skipHyphen_hexOf (value count : ℕ) (rest : List Char) :
    skipHyphen (hexOf value (count + 1) ++ rest) = hexOf value (count + 1) ++ rest := by
  rw [hexOf, List.cons_append]
  unfold skipHyphen
  split
  · next same => exact absurd (List.cons.inj same).1 (hexDigit_ne_hyphen _)
  · rfl

theorem hexOf_add (value high low : ℕ) : hexOf value (high + low) = hexOf (value / 16 ^ low) high ++ hexOf value low := by
  induction high with
  | zero => simp [hexOf]
  | succ high ih =>
    rw [Nat.succ_add, hexOf, ih, hexOf, List.cons_append, Nat.div_div_eq_div_mul, ← Nat.pow_add, Nat.add_comm low high]

/-- One group of four digits, read onto the digits above it. -/
theorem readGroups_hexOf (groups value : ℕ) (rest : List Char) :
    readGroups (groups + 1) (value / 16 ^ 4) (hexOf value 4 ++ rest) =
      readGroups groups value (if groups = 0 then rest else skipHyphen rest) := by
  rw [readGroups, readDigits_hexOf]
  rfl

/-- The canonical text of a UUID is read back as that UUID. -/
theorem parse_render (value : BitVec 128) : parse (render value) = some value := by
  have groups : readGroups 8 0 (render value).toList = some (value.toNat, []) := by
    have top : 0 = value.toNat / 16 ^ 28 / 16 ^ 4 := by
      rw [Nat.div_div_eq_div_mul, ← Nat.pow_add, Nat.div_eq_of_lt value.isLt]
    have shift (high : ℕ) : value.toNat / 16 ^ (high + 4) = value.toNat / 16 ^ high / 16 ^ 4 := by
      rw [Nat.div_div_eq_div_mul, ← Nat.pow_add]
    have second := hexOf_add (value.toNat / 16 ^ 24) 4 4
    have last := hexOf_add value.toNat 8 4
    have middle := hexOf_add (value.toNat / 16 ^ 4) 4 4
    rw [← shift 24] at second
    rw [← shift 4] at middle
    rw [render, String.toList_ofList, second, last, middle]
    simp only [List.append_assoc, List.cons_append]
    rw [top, readGroups_hexOf, if_neg (by decide), skipHyphen_hexOf]
    rw [shift 24, readGroups_hexOf, if_neg (by decide), skipHyphen_hyphen]
    rw [shift 20, readGroups_hexOf, if_neg (by decide), skipHyphen_hyphen]
    rw [shift 16, readGroups_hexOf, if_neg (by decide), skipHyphen_hyphen]
    rw [shift 12, readGroups_hexOf, if_neg (by decide), skipHyphen_hyphen]
    rw [shift 8, readGroups_hexOf, if_neg (by decide), skipHyphen_hexOf]
    rw [shift 4, readGroups_hexOf, if_neg (by decide), ← List.append_nil (hexOf value.toNat 4), skipHyphen_hexOf]
    rw [readGroups_hexOf, if_pos rfl]
    rfl
  have opening : ∃ nibble rest, (render value).toList = hexDigit nibble :: rest := ⟨_, _, String.toList_ofList⟩
  obtain ⟨nibble, rest, text⟩ := opening
  rw [text] at groups
  have digit : hexDigit nibble ≠ '{' := by
    intro same
    have member := hexDigit_mem nibble
    rw [same] at member
    exact absurd member (by decide)
  rw [parse, text]
  split
  · next same => exact absurd (List.cons.inj same).1 digit
  · simp only [groups, BitVec.ofNat_toNat, BitVec.setWidth_eq]

theorem hexOf_filter (value count : ℕ) : (hexOf value count).filter (· ≠ '-') = hexOf value count := by
  refine List.filter_eq_self.mpr fun character member => ?_
  have absent : '-' ∉ hexDigits := by decide
  simpa using fun same : character = '-' => absent (same ▸ hexOf_mem member)

/-- The digits of a UUID without the hyphens. -/
theorem filter_render (value : BitVec 128) : (render value).toList.filter (· ≠ '-') = hexOf value.toNat 32 := by
  have shift (high low : ℕ) : value.toNat / 16 ^ low / 16 ^ high = value.toNat / 16 ^ (low + high) := by
    rw [Nat.div_div_eq_div_mul, ← Nat.pow_add]
  rw [hexOf_add value.toNat 20 12, hexOf_add _ 16 4, hexOf_add _ 12 4, hexOf_add _ 8 4, shift 4, shift 4, shift 4, render,
    String.toList_ofList]
  simp only [List.filter_append, List.filter_cons, hexOf_filter, ne_eq, not_true_eq_false, decide_false, Bool.false_eq_true,
    if_false, List.append_assoc]

/-- The texts of UUIDs are ordered as the UUIDs. -/
theorem render_lt_iff {first second : BitVec 128} : render first < render second ↔ first < second := by
  have last := orders_nil.group 12
  have fourth := (last.separator '-').group 4
  have third := (fourth.separator '-').group 4
  have next := (third.separator '-').group 4
  have whole := (next.separator '-').group 8 first.toNat second.toNat
  have size (value : BitVec 128) : value.toNat % 16 ^ 32 = value.toNat := Nat.mod_eq_of_lt value.isLt
  simp only [Nat.zero_add, Nat.reduceAdd, pow_zero, Nat.div_one, List.append_nil, size] at whole
  rw [String.lt_iff, render, render, String.toList_ofList, String.toList_ofList, BitVec.lt_def, ← whole]
  simp only [List.append_assoc, List.cons_append]

end UuidText
