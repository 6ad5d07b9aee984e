import PortfolioManager.Library.Checked
import PortfolioManager.Library.UuidText
import PortfolioManager.Python.Numbers

/-! # `UUID` on a text

The constructor drops `urn:` and `uuid:` wherever they stand, braces at the ends and every hyphen, and hands the 32
characters that must be left to `int` with base 16. That function takes more than digits: white space around them, a sign,
`0x`, single underscores and the decimal digits of every script.
-/

namespace PortfolioManager.Python

open Checked Hex

/-! ## Integers to the base 16 -/

/-- A character of an integer in ASCII, unless it keeps the text from being one. -/
def integerAscii (character : Char) : Option Char :=
  if character.toNat < 128 then some character
  else if isSpace character then some ' '
  else (decimalValue character).map fun digit => Char.ofNat (48 + digit)

/-- The white space of ASCII. -/
def isAsciiSpace (character : Char) : Bool := character = ' ' || (0x09 ≤ character.toNat && character.toNat ≤ 0x0d)

/-- The digits of a number to the base 16, as `digitRun` for the base 10. -/
def hexRun : Bool → List Char → Option (List ℕ)
  | expected, [] => if expected then none else some []
  | expected, character :: rest =>
      match digitValue character with
      | some digit => (hexRun false rest).map (digit :: ·)
      | none => if character = '_' ∧ expected = false then hexRun true rest else none

/-- The characters after `0x`, which an underscore may follow. -/
def unprefixed : List Char → List Char
  | '0' :: 'x' :: '_' :: rest | '0' :: 'X' :: '_' :: rest => rest
  | '0' :: 'x' :: rest | '0' :: 'X' :: rest => rest
  | rest => rest

/-- The number of digits to the base 16, most significant first. -/
def hexNumber (digits : List ℕ) : ℕ := digits.foldl (fun value digit => 16 * value + digit) 0

/-- A number with an optional sign and an optional `0x`. -/
def signedHex : List Char → Option ℤ
  | '-' :: rest => (hexRun true (unprefixed rest)).map fun digits => -(hexNumber digits : ℤ)
  | '+' :: rest => (hexRun true (unprefixed rest)).map fun digits => (hexNumber digits : ℤ)
  | rest => (hexRun true (unprefixed rest)).map fun digits => (hexNumber digits : ℤ)

/-- `int(text, 16)`, if it is one. -/
def toInt16 (text : List Char) : Option ℤ := do
  let ascii ← text.mapM integerAscii
  signedHex ((ascii.dropWhile isAsciiSpace).reverse.dropWhile isAsciiSpace).reverse

/-! ## The constructor -/

/-- `str.replace(pattern, "")`, with a count of characters that an occurrence still covers. -/
def removeAll (pattern : List Char) : ℕ → List Char → List Char
  | _, [] => []
  | covered + 1, _ :: rest => removeAll pattern covered rest
  | 0, character :: rest =>
      if pattern.isPrefixOf (character :: rest) then removeAll pattern (pattern.length - 1) rest
      else character :: removeAll pattern 0 rest

def isBrace (character : Char) : Bool := character = '{' || character = '}'

/-- The characters that the constructor takes for digits. -/
def uuidDigits (text : List Char) : List Char :=
  let hex := removeAll ['u', 'u', 'i', 'd', ':'] 0 (removeAll ['u', 'r', 'n', ':'] 0 text)
  ((hex.dropWhile isBrace).reverse.dropWhile isBrace).reverse.filter (· ≠ '-')

/-- `UUID` on a text. -/
def uuidOf (text : String) : Except Builtin (BitVec 128) := do
  let hex := uuidDigits text.toList
  let ⟨_⟩ ← check (hex.length = 32) (.valueError "badly formed hexadecimal UUID string")
  match toInt16 hex with
  | none => .error (.valueError s!"invalid literal for int() with base 16: '{String.ofList hex}'")
  | some value => do
      let ⟨_⟩ ← check (0 ≤ value ∧ value < 2 ^ 128) (.valueError "int is out of range (need a 128-bit value)")
      return BitVec.ofInt 128 value

example : uuidOf "\x7b0x345678-1234-5678-1234-567812345678\x7d" = .ok 0x345678123456781234567812345678#128 := by
  decide

/-! ## Numbers below a power of 16 -/

theorem hexRun_bounds {text : List Char} {expected : Bool} {digits : List ℕ} (read : hexRun expected text = some digits) :
    digits.length ≤ text.length ∧ ∀ digit ∈ digits, digit < 16 := by
  induction text generalizing expected digits with
  | nil =>
    rw [hexRun] at read
    split_ifs at read
    cases read
    exact ⟨le_rfl, by simp⟩
  | cons character text ih =>
    rw [hexRun] at read
    split at read
    · next digit value =>
      obtain ⟨rest, later, rfl⟩ := Option.map_eq_some_iff.mp read
      obtain ⟨length, below⟩ := ih later
      exact ⟨Nat.succ_le_succ length, List.forall_mem_cons.mpr ⟨(digitValue_bounds value).2.2, below⟩⟩
    · split_ifs at read
      obtain ⟨length, below⟩ := ih read
      exact ⟨length.trans (Nat.le_succ _), below⟩

theorem foldl_hex_lt {digits : List ℕ} (below : ∀ digit ∈ digits, digit < 16) (value : ℕ) :
    digits.foldl (fun value digit => 16 * value + digit) value < 16 ^ digits.length * (value + 1) := by
  induction digits generalizing value with
  | nil => simp
  | cons digit digits ih =>
    rw [List.forall_mem_cons] at below
    have step : 16 * value + digit + 1 ≤ 16 * (value + 1) := by omega
    calc digits.foldl (fun value digit => 16 * value + digit) (16 * value + digit)
      _ < 16 ^ digits.length * (16 * value + digit + 1) := ih below.2 _
      _ ≤ 16 ^ digits.length * (16 * (value + 1)) := Nat.mul_le_mul_left _ step
      _ = 16 ^ (digits.length + 1) * (value + 1) := by rw [Nat.pow_succ, Nat.mul_assoc]

theorem unprefixed_suffix (text : List Char) : unprefixed text <:+ text := by
  unfold unprefixed
  split
  · exact ⟨['0', 'x', '_'], rfl⟩
  · exact ⟨['0', 'X', '_'], rfl⟩
  · exact ⟨['0', 'x'], rfl⟩
  · exact ⟨['0', 'X'], rfl⟩
  · exact List.suffix_refl _

theorem hexNumber_lt {text : List Char} {digits : List ℕ} (read : hexRun true (unprefixed text) = some digits) :
    hexNumber digits < 16 ^ text.length := by
  obtain ⟨length, below⟩ := hexRun_bounds read
  have bound := foldl_hex_lt below 0
  rw [Nat.zero_add, Nat.mul_one] at bound
  exact bound.trans_le (Nat.pow_le_pow_right (by decide) (length.trans (unprefixed_suffix text).length_le))

theorem signedHex_bounds {text : List Char} {value : ℤ} (unsigned : '-' ∉ text) (read : signedHex text = some value) :
    0 ≤ value ∧ value < 16 ^ text.length := by
  unfold signedHex at read
  split at read
  · exact absurd (List.mem_cons_self ..) unsigned
  · next rest =>
    obtain ⟨digits, shown, rfl⟩ := Option.map_eq_some_iff.mp read
    have bound := (hexNumber_lt shown).trans (Nat.pow_lt_pow_right (by decide) (Nat.lt_succ_self rest.length))
    exact ⟨Int.natCast_nonneg _, by exact_mod_cast bound⟩
  · obtain ⟨digits, shown, rfl⟩ := Option.map_eq_some_iff.mp read
    exact ⟨Int.natCast_nonneg _, by exact_mod_cast hexNumber_lt shown⟩

theorem integerAscii_eq_hyphen {character : Char} (same : integerAscii character = some '-') : character = '-' := by
  unfold integerAscii at same
  split_ifs at same with ascii space
  · exact Option.some.inj same
  · exact absurd (Option.some.inj same) (by decide)
  · obtain ⟨digit, value, shown⟩ := Option.map_eq_some_iff.mp same
    have digits : ∀ digit : Fin 10, Char.ofNat (48 + digit) ≠ '-' := by decide
    exact absurd shown (digits ⟨digit, decimalValue_lt value⟩)

theorem unsigned_ascii {text ascii : List Char}
    (translated : List.Forall₂ (fun character shown => integerAscii character = some shown) text ascii) (unsigned : '-' ∉ text) :
    '-' ∉ ascii := by
  induction translated with
  | nil => exact unsigned
  | cons here _ ih =>
    simp only [List.mem_cons, not_or] at unsigned ⊢
    refine ⟨?_, ih unsigned.2⟩
    rintro rfl
    exact unsigned.1 (integerAscii_eq_hyphen here).symm

/-- A text without the characters dropped at its ends. -/
theorem trim_sublist (drops : Char → Bool) (text : List Char) :
    List.Sublist ((text.dropWhile drops).reverse.dropWhile drops).reverse text := by
  have inner := (@List.dropWhile_sublist _ (text.dropWhile drops).reverse drops).reverse
  rw [List.reverse_reverse] at inner
  exact inner.trans (List.dropWhile_sublist drops)

/-- A number without a minus sign is below the power of 16 for its length. -/
theorem toInt16_bounds {text : List Char} {value : ℤ} (unsigned : '-' ∉ text) (read : toInt16 text = some value) :
    0 ≤ value ∧ value < 16 ^ text.length := by
  obtain ⟨ascii, translated, shown⟩ := Option.bind_eq_some_iff.mp read
  have pairs := mapM_eq_some_iff.mp translated
  have trimmed := trim_sublist isAsciiSpace ascii
  obtain ⟨nonnegative, below⟩ := signedHex_bounds (fun member => unsigned_ascii pairs unsigned (trimmed.subset member)) shown
  have length := trimmed.length_le.trans pairs.length_eq.ge
  refine ⟨nonnegative, below.trans_le ?_⟩
  exact_mod_cast Nat.pow_le_pow_right (show 0 < 16 by decide) length

/-- What the constructor raises. -/
theorem uuidOf_error {text : String} {error : Builtin} (raised : uuidOf text = .error error) :
    error = .valueError "badly formed hexadecimal UUID string" ∨
      error = .valueError s!"invalid literal for int() with base 16: '{String.ofList (uuidDigits text.toList)}'" := by
  unfold uuidOf at raised
  dsimp only at raised
  by_cases length : (uuidDigits text.toList).length = 32
  · rw [check_of _ length, ok_bind] at raised
    cases read : toInt16 (uuidDigits text.toList) with
    | none =>
      rw [read] at raised
      exact .inr (Except.error.inj raised).symm
    | some value =>
      have unsigned : '-' ∉ uuidDigits text.toList := by simp [uuidDigits]
      have bounds := toInt16_bounds unsigned read
      rw [length] at bounds
      have inRange : 0 ≤ value ∧ value < 2 ^ 128 := bounds
      rw [read] at raised
      dsimp only at raised
      rw [check_of _ inRange] at raised
      cases raised
  · rw [check_of_not _ length] at raised
    exact .inl (Except.error.inj raised).symm

/-! ## Spellings -/

/-- The digits of a value, and what they add up to on top of its higher digits. -/
theorem exists_digits (value width : ℕ) : ∃ digits : List ℕ, (hexOf value width).map digitValue = digits.map some ∧
    digits.foldl (fun value digit => 16 * value + digit) (value / 16 ^ width) = value := by
  induction width with
  | zero => exact ⟨[], rfl, by simp⟩
  | succ width ih =>
    obtain ⟨digits, shown, sum⟩ := ih
    refine ⟨value / 16 ^ width % 16 :: digits, ?_, ?_⟩
    · rw [hexOf, List.map_cons, digitValue_hexDigit, shown, List.map_cons]
    · rw [List.foldl_cons, Nat.mul_comm 16, quotient_step, sum]

theorem hexRun_of_digits {text : List Char} {digits : List ℕ} (shown : text.map digitValue = digits.map some) {expected : Bool}
    (enough : expected = true → text ≠ []) : hexRun expected text = some digits := by
  induction text generalizing digits expected with
  | nil =>
    rw [List.map_nil, eq_comm, List.map_eq_nil_iff] at shown
    have optional : ¬expected = true := fun must => enough must rfl
    rw [hexRun, if_neg optional, shown]
  | cons character text ih =>
    cases digits with
    | nil => simp at shown
    | cons digit digits =>
      simp only [List.map_cons, List.cons.injEq] at shown
      rw [hexRun, shown.1]
      dsimp only
      rw [ih shown.2 (by simp), Option.map_some]

/-- Trimming drops what stands around a solid text. -/
theorem trim_append {drops : Char → Bool} {before body after : List Char} (dropped : ∀ character ∈ before, drops character = true)
    (solid : ∀ character ∈ body, drops character = false) (dropped' : ∀ character ∈ after, drops character = true) :
    (((before ++ (body ++ after)).dropWhile drops).reverse.dropWhile drops).reverse = body := by
  rw [List.dropWhile_append_of_pos dropped]
  cases body with
  | nil =>
    have all := List.dropWhile_eq_nil_iff.mpr dropped'
    simp only [List.nil_append, all, List.reverse_nil, List.dropWhile_nil]
  | cons character rest =>
    have head : ¬drops character = true := by simp [solid character (List.mem_cons_self ..)]
    have kept : (character :: rest).reverse.dropWhile drops = (character :: rest).reverse := by
      rw [List.dropWhile_eq_self_iff]
      intro present
      exact Bool.not_eq_true _ ▸ solid _ (List.mem_reverse.mp (List.getElem_mem present))
    rw [List.cons_append, List.dropWhile_cons_of_neg head, ← List.cons_append, List.reverse_append,
      List.dropWhile_append_of_pos fun character member => dropped' character (List.mem_reverse.mp member), kept,
      List.reverse_reverse]

/-- What a digit is not taken for. -/
structure IsDigit (character : Char) : Prop where
  ascii : integerAscii character = some character
  space : isAsciiSpace character = false
  brace : isBrace character = false
  bare : character ∉ ['-', '+', 'x', 'X', 'u']

theorem isDigit_of_digitValue {character : Char} {digit : ℕ} (value : digitValue character = some digit) : IsDigit character := by
  obtain ⟨above, below, _⟩ := digitValue_bounds value
  have blank : ' '.toNat = 32 := rfl
  have opening : digitValue '{' = none := rfl
  have closing : digitValue '}' = none := rfl
  constructor
  case ascii => exact if_pos (by omega)
  case space =>
    rw [Bool.eq_false_iff]
    intro space
    simp only [isAsciiSpace, Bool.or_eq_true, Bool.and_eq_true, decide_eq_true_eq] at space
    rcases space with rfl | space <;> omega
  case brace =>
    rw [Bool.eq_false_iff]
    intro brace
    simp only [isBrace, Bool.or_eq_true, decide_eq_true_eq] at brace
    rcases brace with rfl | rfl
    · rw [opening] at value
      contradiction
    · rw [closing] at value
      contradiction
  case bare =>
    intro member
    simp only [List.mem_cons, List.not_mem_nil, or_false] at member
    rcases member with rfl | rfl | rfl | rfl | rfl <;> simp [digitValue] at value

theorem unprefixed_of_digits {text : List Char} (digits : ∀ character ∈ text, IsDigit character) : unprefixed text = text := by
  have foreign {character : Char} (member : character ∈ text) (mark : character = 'x' ∨ character = 'X') : False := by
    have bare := (digits character member).bare
    rcases mark with rfl | rfl <;> simp at bare
  unfold unprefixed
  split
  · exact (foreign (by simp) (.inl rfl)).elim
  · exact (foreign (by simp) (.inr rfl)).elim
  · exact (foreign (by simp) (.inl rfl)).elim
  · exact (foreign (by simp) (.inr rfl)).elim
  · rfl

theorem isDigit_of_shown {text : List Char} {digits : List ℕ} (shown : text.map digitValue = digits.map some) :
    ∀ character ∈ text, IsDigit character := by
  intro character member
  have value : digitValue character ∈ digits.map some := shown ▸ List.mem_map_of_mem member
  obtain ⟨digit, _, same⟩ := List.mem_map.mp value
  exact isDigit_of_digitValue same.symm

theorem toInt16_of_digits {text : List Char} {digits : List ℕ} (shown : text.map digitValue = digits.map some)
    (present : text ≠ []) : toInt16 text = some (hexNumber digits : ℤ) := by
  have bare := isDigit_of_shown shown
  have ascii : text.mapM integerAscii = some text :=
    mapM_eq_some_iff.mpr (List.forall₂_same.mpr fun character member => (bare character member).ascii)
  have run := @hexRun_of_digits text digits shown true fun _ => present
  rw [toInt16, ascii]
  change signedHex _ = _
  have trimmed := @trim_append isAsciiSpace [] text [] (by simp) (fun character member => (bare character member).space) (by simp)
  rw [List.nil_append, List.append_nil] at trimmed
  rw [trimmed]
  unfold signedHex
  split
  · exact absurd (List.mem_cons_self ..) (bare '-' (List.mem_cons_self ..)).bare
  · exact absurd (by simp) (bare '+' (List.mem_cons_self ..)).bare
  · rw [unprefixed_of_digits bare, run, Option.map_some]

/-- A body with the digits of a value, of either case, and hyphens anywhere. -/
def Shows (body : List Char) (value : BitVec 128) : Prop :=
  (body.filter (· ≠ '-')).map digitValue = (hexOf value.toNat 32).map digitValue

/-- A pattern is not found where its first character is not. -/
theorem removeAll_of_absent {first : Char} {pattern text : List Char} (absent : first ∉ text) :
    removeAll (first :: pattern) 0 text = text := by
  induction text with
  | nil => rfl
  | cons character text ih =>
    simp only [List.mem_cons, not_or] at absent
    have apart : (first :: pattern).isPrefixOf (character :: text) = false := by simp [List.isPrefixOf, absent.1]
    rw [removeAll, apart, if_neg Bool.false_ne_true, ih absent.2]

/-- The schemes that a text can start with. -/
theorem removeAll_scheme {scheme : String} (known : scheme ∈ ["", "urn:", "uuid:", "urn:uuid:"]) {rest : List Char} (absent : 'u' ∉ rest) :
    removeAll ['u', 'u', 'i', 'd', ':'] 0 (removeAll ['u', 'r', 'n', ':'] 0 (scheme.toList ++ rest)) = rest := by
  have urn : removeAll ['u', 'r', 'n', ':'] 0 rest = rest := removeAll_of_absent absent
  have uuid : removeAll ['u', 'u', 'i', 'd', ':'] 0 rest = rest := removeAll_of_absent absent
  simp only [List.mem_cons, List.not_mem_nil, or_false] at known
  rcases known with rfl | rfl | rfl | rfl <;>
    · change removeAll _ 0 (removeAll _ 0 rest) = rest
      rw [urn, uuid]

/-- What can stand at the ends of a spelling. -/
theorem brace_side {side : String} (known : side ∈ ["", "\x7b"] ∨ side ∈ ["", "\x7d"]) :
    (∀ character ∈ side.toList, isBrace character = true) ∧ 'u' ∉ side.toList := by
  simp only [List.mem_cons, List.not_mem_nil, or_false] at known
  rcases known with (rfl | rfl) | (rfl | rfl) <;> simp [isBrace]

/-- Every spelling of a UUID is read as that UUID. -/
theorem uuidOf_spelled {value : BitVec 128} {body : List Char} (spelled : Shows body value) {scheme opening closing : String}
    (known : scheme ∈ ["", "urn:", "uuid:", "urn:uuid:"]) (left : opening ∈ ["", "\x7b"]) (right : closing ∈ ["", "\x7d"]) :
    uuidOf (scheme ++ opening ++ String.ofList body ++ closing) = .ok value := by
  obtain ⟨digits, shown, sum⟩ := exists_digits value.toNat 32
  have shown : (body.filter (· ≠ '-')).map digitValue = digits.map some := spelled.trans shown
  have length : (body.filter (· ≠ '-')).length = 32 := by
    rw [← List.length_map digitValue, spelled, List.length_map, hexOf_length]
  have plain {character : Char} (member : character ∈ body) : isBrace character = false ∧ character ≠ 'u' := by
    by_cases hyphen : character = '-'
    · subst hyphen
      decide
    · have digit := isDigit_of_shown shown character (List.mem_filter.mpr ⟨member, by simpa using hyphen⟩)
      refine ⟨digit.brace, ?_⟩
      rintro rfl
      exact digit.bare (by simp)
  have before := brace_side (.inl left)
  have after := brace_side (.inr right)
  have absent : 'u' ∉ opening.toList ++ (body ++ closing.toList) := by
    simp only [List.mem_append, not_or]
    exact ⟨before.2, fun member => (plain member).2 rfl, after.2⟩
  have hex : uuidDigits (scheme ++ opening ++ String.ofList body ++ closing).toList = body.filter (· ≠ '-') := by
    simp only [String.toList_append, String.toList_ofList, List.append_assoc]
    rw [uuidDigits, removeAll_scheme known absent, trim_append before.1 (fun character member => (plain member).1) after.1]
  have present : body.filter (· ≠ '-') ≠ [] := by
    rw [← List.length_pos_iff, length]
    decide
  have top : value.toNat / 16 ^ 32 = 0 := Nat.div_eq_of_lt value.isLt
  rw [top] at sum
  have inRange : (0 : ℤ) ≤ hexNumber digits ∧ (hexNumber digits : ℤ) < 2 ^ 128 := by
    rw [hexNumber, sum]
    exact ⟨Int.natCast_nonneg _, by exact_mod_cast value.isLt⟩
  have width : (uuidDigits (scheme ++ opening ++ String.ofList body ++ closing).toList).length = 32 := hex ▸ length
  rw [uuidOf]
  dsimp only
  rw [check_of _ width, ok_bind, hex, toInt16_of_digits shown present]
  dsimp only
  rw [check_of _ inRange, ok_bind]
  change Except.ok (BitVec.ofInt 128 (hexNumber digits)) = _
  rw [hexNumber, sum, BitVec.ofInt_natCast, BitVec.ofNat_toNat, BitVec.setWidth_eq]

/-- The canonical text of a UUID is one of its spellings. -/
theorem shows_render (value : BitVec 128) : Shows (UuidText.render value).toList value :=
  congrArg (List.map digitValue) (UuidText.filter_render value)

end PortfolioManager.Python
