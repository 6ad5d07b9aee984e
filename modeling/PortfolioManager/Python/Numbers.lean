import PortfolioManager.Library.Checked
import PortfolioManager.Python.Text
import Mathlib.Data.Nat.Digits.Defs

/-! # Integers in text

`int` on a text: white space around it is skipped, a sign may come first, and single underscores may
stand between the digits, which can be the decimal digits of any script. Texts with more than 4300
digits are refused.
-/

namespace PortfolioManager.Python

open Checked

/-- The zeros of the scripts that have decimal digits; the other nine follow each of them. -/
def decimalZeros : List ℕ :=
  [0x30, 0x660, 0x6f0, 0x7c0, 0x966, 0x9e6, 0xa66, 0xae6, 0xb66, 0xbe6, 0xc66, 0xce6, 0xd66, 0xde6, 0xe50, 0xed0, 0xf20,
    0x1040, 0x1090, 0x17e0, 0x1810, 0x1946, 0x19d0, 0x1a80, 0x1a90, 0x1b50, 0x1bb0, 0x1c40, 0x1c50, 0xa620, 0xa8d0, 0xa900,
    0xa9d0, 0xa9f0, 0xaa50, 0xabf0, 0xff10, 0x104a0, 0x10d30, 0x11066, 0x110f0, 0x11136, 0x111d0, 0x112f0, 0x11450, 0x114d0,
    0x11650, 0x116c0, 0x11730, 0x118e0, 0x11950, 0x11c50, 0x11d50, 0x11da0, 0x11f50, 0x16a60, 0x16ac0, 0x16b50, 0x1d7ce,
    0x1d7d8, 0x1d7e2, 0x1d7ec, 0x1d7f6, 0x1e140, 0x1e2f0, 0x1e4f0, 0x1e950, 0x1fbf0]

/-- The value of a decimal digit. -/
def decimalValue (character : Char) : Option ℕ :=
  (decimalZeros.find? fun base => base ≤ character.toNat && character.toNat < base + 10).map (character.toNat - ·)

/-- `str.isdecimal`. -/
def isDecimal (text : String) : Bool := text ≠ "" && text.toList.all fun character => (decimalValue character).isSome

/-- The white space that `int` skips; unlike `strip` it leaves the ASCII separators alone. -/
def isNumberSpace (character : Char) : Bool :=
  isSpace character && !(0x1c ≤ character.toNat && character.toNat ≤ 0x1f)

/-- The digits of a number, with single underscores between them; the flag says whether a digit must come next. -/
def digitRun : Bool → List Char → Option (List ℕ)
  | expected, [] => if expected then none else some []
  | expected, character :: rest =>
      match decimalValue character with
      | some digit => (digitRun false rest).map (digit :: ·)
      | none => if character = '_' ∧ expected = false then digitRun true rest else none

/-- A number without white space around it: its sign and its digits. -/
def signedDigits : List Char → Bool × Option (List ℕ)
  | '-' :: rest => (true, digitRun true rest)
  | '+' :: rest => (false, digitRun true rest)
  | characters => (false, digitRun true characters)

/-- The characters of a number without the white space around it. -/
def trimNumber (text : String) : List Char :=
  ((text.toList.dropWhile isNumberSpace).reverse.dropWhile isNumberSpace).reverse

/-- `sys.get_int_max_str_digits()`. -/
def maxDigits : ℕ := 4300

/-- `int` on a text. -/
def toInt (text : String) : Except Builtin ℤ :=
  match signedDigits (trimNumber text) with
  | (_, none) => .error (.valueError s!"invalid literal for int() with base 10: '{text}'")
  | (negative, some digits) => do
      let ⟨_⟩ ← check (digits.length ≤ maxDigits) (.valueError
        s!"Exceeds the limit (4300 digits) for integer string conversion: value has {digits.length} digits")
      let magnitude : ℕ := digits.foldl (fun value digit => 10 * value + digit) 0
      return if negative then -magnitude else magnitude

example : toInt " +1_000\n" = .ok 1000 := by decide

/-! ## ASCII decimals -/

/-- A text of the digits `0` to `9`. -/
def IsDigits (text : String) : Prop :=
  text ≠ "" ∧ ∀ character ∈ text.toList, 48 ≤ character.toNat ∧ character.toNat ≤ 57

/-- The number that ASCII digits denote. -/
def denoted (text : String) : ℕ := Nat.ofDigits 10 (text.toList.reverse.map fun character => character.toNat - 48)

/-- The decimal digits of ASCII are `0` to `9`. -/
theorem digit_bounds {character : Char} (low : character.toNat < 128) (digit : (decimalValue character).isSome = true) :
    48 ≤ character.toNat ∧ character.toNat ≤ 57 := by
  rw [decimalValue, Option.isSome_map, List.find?_isSome] at digit
  obtain ⟨base, member, above⟩ := digit
  have ascii : ∀ base ∈ decimalZeros, base < 128 → base = 48 := by decide
  simp only [Bool.and_eq_true, decide_eq_true_eq] at above
  have same := ascii base member (by omega)
  omega

theorem decimalValue_lt {character : Char} {digit : ℕ} (value : decimalValue character = some digit) : digit < 10 := by
  obtain ⟨base, found, rfl⟩ := Option.map_eq_some_iff.mp value
  have within := List.find?_some found
  simp only [Bool.and_eq_true, decide_eq_true_eq] at within
  omega

theorem decimalValue_of_bounds {character : Char} (bounds : 48 ≤ character.toNat ∧ character.toNat ≤ 57) :
    decimalValue character = some (character.toNat - 48) := by
  have first : (48 ≤ character.toNat && character.toNat < 48 + 10) = true := by
    simp only [Bool.and_eq_true, decide_eq_true_eq]
    omega
  have zeros : decimalZeros = 48 :: decimalZeros.tail := rfl
  rw [decimalValue, zeros]
  simp only [List.find?_cons, first, Option.map_some]

/-- The texts that are ASCII and decimal are those of digits. -/
theorem isDigits_iff {text : String} : isAscii text = true ∧ isDecimal text = true ↔ IsDigits text := by
  simp only [isAscii_iff, isDecimal, Bool.and_eq_true, decide_eq_true_eq, List.all_eq_true, IsDigits]
  constructor
  · rintro ⟨ascii, nonempty, digits⟩
    exact ⟨nonempty, fun character member => digit_bounds (ascii character member) (digits character member)⟩
  · rintro ⟨nonempty, bounds⟩
    refine ⟨fun character member => ?_, nonempty, fun character member => ?_⟩
    · have upper := (bounds character member).2
      omega
    · rw [decimalValue_of_bounds (bounds character member)]
      rfl

theorem digitRun_of_digits {characters : List Char} {expected : Bool}
    (digits : ∀ character ∈ characters, 48 ≤ character.toNat ∧ character.toNat ≤ 57)
    (enough : expected = true → characters ≠ []) :
    digitRun expected characters = some (characters.map fun character => character.toNat - 48) := by
  induction characters generalizing expected with
  | nil =>
    cases expected with
    | false => rfl
    | true => exact absurd rfl (enough rfl)
  | cons character rest ih =>
    rw [List.forall_mem_cons] at digits
    rw [digitRun, decimalValue_of_bounds digits.1, List.map_cons]
    dsimp only
    rw [@ih false digits.2 nofun, Option.map_some]

/-- A digit is neither white space nor a sign. -/
theorem digit_plain {character : Char} (bounds : 48 ≤ character.toNat ∧ character.toNat ≤ 57) :
    isNumberSpace character = false ∧ character ≠ '-' ∧ character ≠ '+' := by
  refine ⟨?_, ?_, ?_⟩
  · rw [Bool.eq_false_iff]
    intro space
    simp only [isNumberSpace, isSpace, Bool.and_eq_true, Bool.or_eq_true, decide_eq_true_eq, List.contains_eq_mem,
      List.mem_cons, List.not_mem_nil, or_false] at space
    omega
  · rintro rfl
    revert bounds
    decide
  · rintro rfl
    revert bounds
    decide

theorem dropWhile_eq_self {characters : List Char} (plain : ∀ character ∈ characters, isNumberSpace character = false) :
    characters.dropWhile isNumberSpace = characters := by
  cases characters with
  | nil => rfl
  | cons character rest => exact List.dropWhile_cons_of_neg (by simp [plain character (List.mem_cons_self ..)])

theorem signedDigits_of_unsigned {characters : List Char} (unsigned : ∀ character ∈ characters, character ≠ '-' ∧ character ≠ '+') :
    signedDigits characters = (false, digitRun true characters) := by
  unfold signedDigits
  split
  · exact absurd rfl (unsigned '-' (List.mem_cons_self ..)).1
  · exact absurd rfl (unsigned '+' (List.mem_cons_self ..)).2
  · rfl

/-- The digits of a number from the first to the last, and from the last to the first. -/
theorem foldl_digits (digits : List ℕ) :
    digits.foldl (fun value digit => 10 * value + digit) 0 = Nat.ofDigits 10 digits.reverse := by
  rw [Nat.ofDigits_eq_foldr, List.foldr_reverse]
  congr 1
  funext value digit
  simp [Nat.add_comm]

/-- A text of ASCII digits is the integer it denotes, unless it has too many of them. -/
theorem toInt_of_digits {text : String} (digits : IsDigits text) :
    if text.length ≤ maxDigits then toInt text = .ok (denoted text)
    else ∃ message, toInt text = .error (.valueError message) := by
  obtain ⟨nonempty, bounds⟩ := digits
  have plain := fun character member => digit_plain (bounds character member)
  have trimmed : trimNumber text = text.toList := by
    rw [trimNumber, dropWhile_eq_self fun character member => (plain character member).1,
      dropWhile_eq_self fun character member => (plain character (List.mem_reverse.mp member)).1, List.reverse_reverse]
  have present : text.toList ≠ [] := by simpa using nonempty
  have signed := signedDigits_of_unsigned fun character member => (plain character member).2
  rw [@digitRun_of_digits text.toList true bounds fun _ => present] at signed
  have length : (text.toList.map fun character => character.toNat - 48).length = text.length := by
    rw [List.length_map, String.length_toList]
  split
  · next short =>
    simp only [toInt, trimmed, signed]
    rw [check_of _ (length.trans_le short), foldl_digits, ← List.map_reverse]
    rfl
  · next long =>
    simp only [toInt, trimmed, signed]
    rw [check_of_not _ (by omega)]
    exact ⟨_, rfl⟩

end PortfolioManager.Python
