import Mathlib.Algebra.Order.Field.Power
import Mathlib.Algebra.Order.Field.Rat
import Mathlib.Data.Nat.Digits.Defs
import Mathlib.Tactic.FieldSimp

/-! # Decimal numerals

A numeral is an optional sign, digits with an optional point among them, and an optional exponent with a sign of its
own. It keeps how it is written, so reading and writing are inverse to each other; the number it denotes is a rational.
-/

abbrev Digit := Fin 10

namespace Digit

def char (digit : Digit) : Char := Char.ofNat (48 + digit.val)

def ofChar? (character : Char) : Option Digit :=
  if bounds : 48 ≤ character.toNat ∧ character.toNat ≤ 57 then some ⟨character.toNat - 48, by omega⟩ else none

theorem ofChar?_char (digit : Digit) : ofChar? digit.char = some digit := by
  revert digit
  decide

theorem char_of_ofChar? {character : Char} {digit : Digit} (read : ofChar? character = some digit) : character = digit.char := by
  unfold ofChar? at read
  split_ifs at read with bounds
  cases read
  have code : 48 + (character.toNat - 48) = character.toNat := by omega
  rw [char, code, Char.ofNat_toNat]

end Digit

structure Exponent where
  marker : Char
  sign : Option Bool
  digits : List Digit
deriving DecidableEq

def Exponent.Marked (exponent : Exponent) : Prop := (exponent.marker = 'e' ∨ exponent.marker = 'E') ∧ exponent.digits ≠ []

structure Numeral where
  sign : Option Bool
  whole : List Digit
  fraction : Option (List Digit)
  exponent : Option Exponent
deriving DecidableEq

namespace Numeral

/-! ## Writing -/

def signText : Option Bool → List Char
  | none => []
  | some negative => [if negative then '-' else '+']

def fractionText : Option (List Digit) → List Char
  | none => []
  | some digits => '.' :: digits.map Digit.char

def exponentText : Option Exponent → List Char
  | none => []
  | some exponent => exponent.marker :: (signText exponent.sign ++ exponent.digits.map Digit.char)

def render (numeral : Numeral) : List Char :=
  signText numeral.sign ++ (numeral.whole.map Digit.char ++ (fractionText numeral.fraction ++ exponentText numeral.exponent))

/-- There is a digit, and an exponent is marked by `e` and has digits. -/
structure WellFormed (numeral : Numeral) : Prop where
  digits : numeral.whole ≠ [] ∨ numeral.fraction.getD [] ≠ []
  marked : ∀ exponent ∈ numeral.exponent, exponent.Marked

/-! ## Reading -/

def readSign : List Char → Option Bool × List Char
  | '-' :: rest => (some true, rest)
  | '+' :: rest => (some false, rest)
  | rest => (none, rest)

/-- The digits that a text begins with. -/
def run : List Char → List Digit × List Char
  | [] => ([], [])
  | character :: rest =>
      match Digit.ofChar? character with
      | some digit => (digit :: (run rest).1, (run rest).2)
      | none => ([], character :: rest)

def readFraction : List Char → Option (List Digit) × List Char
  | '.' :: rest => (some (run rest).1, (run rest).2)
  | rest => (none, rest)

/-- An exponent, or nothing, up to the end of the text. -/
def readExponent : List Char → Option (Option Exponent)
  | [] => some none
  | marker :: rest =>
      if marker = 'e' ∨ marker = 'E' then
        let (sign, rest) := readSign rest
        match run rest with
        | (digit :: digits, []) => some (some ⟨marker, sign, digit :: digits⟩)
        | _ => none
      else none

def read (text : List Char) : Option Numeral :=
  let (sign, rest) := readSign text
  let (whole, rest) := run rest
  let (fraction, rest) := readFraction rest
  if whole = [] ∧ fraction.getD [] = [] then none
  else (readExponent rest).map fun exponent => ⟨sign, whole, fraction, exponent⟩

/-! ## Reading what was written -/

/-- A text that goes on with something else than a digit. -/
def Stops (text : List Char) : Prop := ∀ character ∈ text.head?, Digit.ofChar? character = none

theorem run_append (digits : List Digit) {rest : List Char} (stops : Stops rest) :
    run (digits.map Digit.char ++ rest) = (digits, rest) := by
  induction digits with
  | nil =>
    cases rest with
    | nil => rfl
    | cons character rest =>
      have other := stops character rfl
      simp [run, other]
  | cons digit digits ih =>
    rw [List.map_cons, List.cons_append, run, Digit.ofChar?_char, ih]

theorem run_eq (text : List Char) : text = (run text).1.map Digit.char ++ (run text).2 ∧ Stops (run text).2 := by
  induction text with
  | nil => exact ⟨rfl, by simp [Stops, run]⟩
  | cons character rest ih =>
    rw [run]
    cases here : Digit.ofChar? character with
    | none => exact ⟨rfl, by simp [Stops, here]⟩
    | some digit => exact ⟨congrArg₂ List.cons (Digit.char_of_ofChar? here) ih.1, ih.2⟩

theorem readSign_append (sign : Option Bool) {rest : List Char}
    (unsigned : ∀ character ∈ rest.head?, character ≠ '-' ∧ character ≠ '+') : readSign (signText sign ++ rest) = (sign, rest) := by
  rcases sign with _ | _ | _
  · cases rest with
    | nil => rfl
    | cons character rest =>
      obtain ⟨minus, plus⟩ := unsigned character rfl
      simp [signText, readSign, minus, plus]
  · rfl
  · rfl

theorem readSign_eq (text : List Char) : text = signText (readSign text).1 ++ (readSign text).2 := by
  unfold readSign
  split <;> rfl

theorem readFraction_append (fraction : Option (List Digit)) {rest : List Char} (stops : Stops rest) (pointless : rest.head? ≠ some '.') :
    readFraction (fractionText fraction ++ rest) = (fraction, rest) := by
  cases fraction with
  | none =>
    cases rest with
    | nil => rfl
    | cons character rest =>
      have other : character ≠ '.' := fun same => pointless (congrArg some same)
      simp [fractionText, readFraction, other]
  | some digits =>
    change (some (run (digits.map Digit.char ++ rest)).1, (run (digits.map Digit.char ++ rest)).2) = _
    rw [run_append digits stops]

theorem readFraction_eq (text : List Char) : text = fractionText (readFraction text).1 ++ (readFraction text).2 := by
  unfold readFraction
  split
  · next rest => exact congrArg ('.' :: ·) (run_eq rest).1
  · rfl

theorem digit_plain (digit : Digit) : digit.char ≠ '-' ∧ digit.char ≠ '+' ∧ digit.char ≠ '.' := by
  revert digit
  decide

theorem digits_unsigned {digits : List Digit} {rest : List Char} (present : digits ≠ []) :
    ∀ character ∈ (digits.map Digit.char ++ rest).head?, character ≠ '-' ∧ character ≠ '+' := by
  obtain ⟨digit, digits, rfl⟩ := List.exists_cons_of_ne_nil present
  rintro character ⟨⟩
  exact ⟨(digit_plain digit).1, (digit_plain digit).2.1⟩

theorem readExponent_exponentText {written : Option Exponent} (marked : ∀ exponent ∈ written, exponent.Marked) :
    readExponent (exponentText written) = some written := by
  cases written with
  | none => rfl
  | some exponent =>
    obtain ⟨marker, sign, digits⟩ := exponent
    obtain ⟨mark, present⟩ := marked _ rfl
    have unsigned := @digits_unsigned digits [] present
    have ended := @run_append digits [] (by simp [Stops])
    rw [List.append_nil] at ended unsigned
    rw [exponentText, readExponent, if_pos mark]
    simp only [readSign_append sign unsigned, ended]
    obtain ⟨digit, digits, rfl⟩ := List.exists_cons_of_ne_nil present
    rfl

theorem eq_exponentText_of_readExponent {text : List Char} {written : Option Exponent}
    (accepted : readExponent text = some written) : text = exponentText written ∧ ∀ exponent ∈ written, exponent.Marked := by
  cases text with
  | nil =>
    cases accepted
    exact ⟨rfl, by simp⟩
  | cons marker text =>
    rw [readExponent] at accepted
    split_ifs at accepted with mark
    have sign := readSign_eq text
    have digits := (run_eq (readSign text).2).1
    dsimp only at accepted
    split at accepted
    · next digit rest found =>
      cases accepted
      rw [found, List.append_nil] at digits
      rw [digits] at sign
      constructor
      · exact congrArg (marker :: ·) sign
      · intro exponent member
        cases Option.mem_some_iff.mp member
        exact ⟨mark, List.cons_ne_nil _ _⟩
    · contradiction

/-- What comes after the digits of a well-formed numeral starts with the mark of its exponent. -/
theorem exponentText_stops {written : Option Exponent} (marked : ∀ exponent ∈ written, exponent.Marked) :
    Stops (exponentText written) ∧ (exponentText written).head? ≠ some '.' := by
  cases written with
  | none => exact ⟨by simp [Stops, exponentText], by simp [exponentText]⟩
  | some exponent =>
    have mark := (marked exponent rfl).1
    have head : (exponentText (some exponent)).head? = some exponent.marker := rfl
    constructor
    · intro character member
      rw [head, Option.mem_some_iff] at member
      rcases mark with same | same <;>
        · rw [← member, same]
          decide
    · rw [head]
      rcases mark with same | same <;>
        · rw [same]
          decide

variable {numeral : Numeral} {text : List Char}

theorem WellFormed.fraction_stops (wellFormed : numeral.WellFormed) :
    Stops (fractionText numeral.fraction ++ exponentText numeral.exponent) := by
  cases fraction : numeral.fraction with
  | none => exact (exponentText_stops wellFormed.marked).1
  | some digits =>
    intro character member
    cases Option.mem_some_iff.mp member
    decide

/-- The first character after the sign is a digit or the point. -/
theorem WellFormed.head (wellFormed : numeral.WellFormed) :
    ∃ character rest, numeral.whole.map Digit.char ++ (fractionText numeral.fraction ++ exponentText numeral.exponent) =
      character :: rest ∧ ((∃ digit : Digit, character = digit.char) ∨ character = '.') := by
  cases whole : numeral.whole with
  | cons digit digits => exact ⟨_, _, rfl, .inl ⟨digit, rfl⟩⟩
  | nil =>
    cases fraction : numeral.fraction with
    | some digits => exact ⟨_, _, rfl, .inr rfl⟩
    | none =>
      have digits := wellFormed.digits
      rw [whole, fraction] at digits
      simp at digits

theorem WellFormed.unsigned (wellFormed : numeral.WellFormed) :
    ∀ first ∈ (numeral.whole.map Digit.char ++ (fractionText numeral.fraction ++ exponentText numeral.exponent)).head?,
      first ≠ '-' ∧ first ≠ '+' := by
  obtain ⟨character, rest, shape, plain⟩ := wellFormed.head
  rw [shape]
  rintro first ⟨⟩
  rcases plain with ⟨digit, rfl⟩ | rfl
  · exact ⟨(digit_plain digit).1, (digit_plain digit).2.1⟩
  · decide

theorem read_render (wellFormed : numeral.WellFormed) : read numeral.render = some numeral := by
  have ending := exponentText_stops wellFormed.marked
  have digits : ¬(numeral.whole = [] ∧ numeral.fraction.getD [] = []) := not_and_or.mpr wellFormed.digits
  rw [read, render, readSign_append _ wellFormed.unsigned]
  simp only [run_append _ wellFormed.fraction_stops, readFraction_append _ ending.1 ending.2,
    readExponent_exponentText wellFormed.marked, digits, if_false, Option.map_some]

theorem eq_render_of_read (accepted : read text = some numeral) : numeral.WellFormed ∧ text = numeral.render := by
  have signed := readSign_eq text
  have whole := (run_eq (readSign text).2).1
  have fraction := readFraction_eq (run (readSign text).2).2
  simp only [read] at accepted
  split_ifs at accepted with empty
  obtain ⟨exponent, ended, rfl⟩ := Option.map_eq_some_iff.mp accepted
  obtain ⟨written, marked⟩ := eq_exponentText_of_readExponent ended
  refine ⟨⟨not_and_or.mp empty, marked⟩, ?_⟩
  rw [render, ← written, ← fraction, ← whole, ← signed]

/-- The texts that are read are those that well-formed numerals are written as. -/
theorem read_eq_some_iff : read text = some numeral ↔ numeral.WellFormed ∧ text = numeral.render := by
  constructor
  · exact eq_render_of_read
  · rintro ⟨wellFormed, rfl⟩
    exact read_render wellFormed

/-! ## The number -/

/-- The natural number that digits denote, most significant first. -/
def natural (digits : List Digit) : ℕ := Nat.ofDigits 10 (digits.reverse.map Fin.val)

def signed : Option Bool → ℤ → ℤ
  | some true, magnitude => -magnitude
  | _, magnitude => magnitude

def exponentValue : Option Exponent → ℤ
  | none => 0
  | some exponent => signed exponent.sign (natural exponent.digits)

/-- The number a numeral denotes: its whole and its fractional part, shifted by its exponent. -/
def value (numeral : Numeral) : ℚ :=
  signed numeral.sign 1 * (natural numeral.whole + natural (numeral.fraction.getD []) / 10 ^ (numeral.fraction.getD []).length) *
    10 ^ exponentValue numeral.exponent

/-- The number that all the digits denote without the point. -/
def coefficient (numeral : Numeral) : ℕ := natural (numeral.whole ++ numeral.fraction.getD [])

/-- The exponent of the last digit. -/
def scale (numeral : Numeral) : ℤ := exponentValue numeral.exponent - (numeral.fraction.getD []).length

theorem natural_append (first second : List Digit) : natural (first ++ second) = natural first * 10 ^ second.length + natural second := by
  rw [natural, List.reverse_append, List.map_append, Nat.ofDigits_append, List.length_map, List.length_reverse, Nat.add_comm,
    Nat.mul_comm]
  rfl

/-- The digits without the point, at the exponent of the last of them. -/
theorem value_eq (numeral : Numeral) : numeral.value = signed numeral.sign 1 * numeral.coefficient * 10 ^ numeral.scale := by
  have ten : (10 : ℚ) ≠ 0 := by norm_num
  rw [value, coefficient, natural_append, scale, zpow_sub₀ ten, zpow_natCast]
  push_cast
  field_simp

end Numeral
