import Mathlib.Data.List.Forall2
import Mathlib.Data.List.TakeWhile
import Mathlib.Data.String.Basic

/-! # Text and exceptions of the host language

Strings are Lean strings; the predicates below are the `str` methods the sources call. Methods
that Unicode makes subtle are only ever consulted by the sources next to `isascii`, so their
ASCII meaning decides the outcome; `strip` follows the full Unicode white-space table.
-/

namespace PortfolioManager.Python

/-- Built-in exceptions the modelled code raises or lets through, with their messages. -/
inductive Builtin where
  | valueError (message : String)
  | overflowError (message : String)
  | typeError (message : String)
deriving DecidableEq, Repr

abbrev Bytes := List UInt8

/-- `str.isspace` on one character. -/
def isSpace (character : Char) : Bool :=
  (0x09 ≤ character.toNat && character.toNat ≤ 0x0d) || (0x1c ≤ character.toNat && character.toNat ≤ 0x20) ||
    (0x2000 ≤ character.toNat && character.toNat ≤ 0x200a) ||
    [0x85, 0xa0, 0x1680, 0x2028, 0x2029, 0x202f, 0x205f, 0x3000].contains character.toNat

/-- `str.strip`. -/
def strip (text : String) : String :=
  String.ofList (((text.toList.dropWhile isSpace).reverse.dropWhile isSpace).reverse)

/-- The recurring check that a text is non-empty and equal to its stripped form. -/
def isTrimmed (text : String) : Bool := text ≠ "" && text = strip text

/-- `str.isascii`. -/
def isAscii (text : String) : Bool := text.toList.all fun character => character.toNat < 128

/-- `str.isalnum` on one ASCII character. -/
def isAlnum (character : Char) : Bool := character.isAlphanum

/-- Visible ASCII, the character class of credentials and header values. -/
def isVisible (character : Char) : Bool := 33 ≤ character.toNat && character.toNat ≤ 126

/-- `str.encode()`: UTF-8. -/
def encode (text : String) : Bytes := text.toUTF8.data.toList

/-- `bytes.decode()`, if the bytes are UTF-8. -/
def decode (bytes : Bytes) : Option String := String.fromUTF8? ⟨bytes.toArray⟩

/-- `str.encode("ascii")` on a text already known to be ASCII. -/
def encodeAscii (text : String) : Bytes := text.toList.map fun character => UInt8.ofNat character.toNat

/-- `str.isalpha` on an ASCII text. -/
def isAlpha (text : String) : Bool := text ≠ "" && text.toList.all Char.isAlpha

/-- `str.upper` on an ASCII text. -/
def upper (text : String) : String := String.ofList (text.toList.map Char.toUpper)

/-- `^[a-z][a-z0-9_.-]{0,63}$` matched against the whole text. -/
def isStableIdentifier (text : String) : Bool :=
  match text.toList with
  | [] => false
  | first :: rest =>
      first.isLower && rest.length ≤ 63 &&
        rest.all fun character => character.isLower || character.isDigit || ['_', '.', '-'].contains character

/-- `str.startswith`. -/
def startsWith (text start : String) : Bool := start.toList.isPrefixOf text.toList

theorem decode_encode (text : String) : decode (encode text) = some text := by
  have bytes : (⟨(encode text).toArray⟩ : ByteArray) = text.toByteArray := by
    rw [encode, Array.toArray_toList, String.toUTF8_eq_toByteArray]
  rw [decode, bytes, String.fromUTF8?, dif_pos text.isValidUTF8]
  rfl

theorem isAscii_iff {text : String} : isAscii text = true ↔ ∀ character ∈ text.toList, character.toNat < 128 := by
  simp [isAscii]

theorem startsWith_iff {text start : String} : startsWith text start = true ↔ start.toList <+: text.toList :=
  List.isPrefixOf_iff_prefix

/-- A text without white space is its own stripped form. -/
theorem strip_of_solid {text : String} (solid : ∀ character ∈ text.toList, isSpace character = false) : strip text = text := by
  have kept {characters : List Char} (solid : ∀ character ∈ characters, isSpace character = false) :
      characters.dropWhile isSpace = characters := by
    rw [List.dropWhile_eq_self_iff]
    intro present
    exact Bool.not_eq_true _ ▸ solid _ (List.getElem_mem present)
  rw [strip, kept solid, kept fun character member => solid character (List.mem_reverse.mp member), List.reverse_reverse,
    String.ofList_toList]

theorem isSpace_of_isVisible {character : Char} (visible : isVisible character = true) : isSpace character = false := by
  simp only [isVisible, Bool.and_eq_true, decide_eq_true_eq] at visible
  simp [isSpace]
  omega

theorem isLower_iff {character : Char} : character.isLower = true ↔ 'a'.val ≤ character.val ∧ character.val ≤ 'z'.val := by
  change (decide _ && decide _) = true ↔ _
  rw [Bool.and_eq_true, decide_eq_true_eq, decide_eq_true_eq]

theorem toUpper_eq_self_iff {character : Char} : character.toUpper = character ↔ character.isLower = false := by
  delta Char.toUpper
  rw [Bool.eq_false_iff, Ne, isLower_iff]
  split
  · next lower =>
    refine iff_of_false (fun same => ?_) (not_not_intro lower)
    have value := congrArg Char.val same
    exact absurd (UInt32.add_eq_left.mp value) (by decide)
  · next other => exact iff_of_true rfl other

/-- The ASCII letters that `upper` leaves as they are. -/
theorem isUpper_iff {character : Char} :
    character.isAlpha = true ∧ character.toUpper = character ↔ 65 ≤ character.toNat ∧ character.toNat ≤ 90 := by
  have alpha : character.isAlpha = (character.isUpper || character.isLower) := rfl
  have upper : character.isUpper = true ↔ 65 ≤ character.toNat ∧ character.toNat ≤ 90 := decide_eq_true_iff
  have lower : character.isLower = true ↔ 97 ≤ character.toNat ∧ character.toNat ≤ 122 := isLower_iff
  rw [toUpper_eq_self_iff, alpha, Bool.or_eq_true, Bool.eq_false_iff, Ne, upper, lower]
  omega

theorem eq_upper_iff {text : String} : text = upper text ↔ ∀ character ∈ text.toList, character.toUpper = character := by
  rw [upper, ← String.toList_inj, String.toList_ofList, eq_comm, ← List.map_inj_left, List.map_id']

/-- The texts of `A` to `Z`, by the methods that recognise them. -/
theorem isUpperAlpha_iff {text : String} {n : ℕ} (length : text.length = n + 1) :
    isAscii text = true ∧ isAlpha text = true ∧ text = upper text ↔
      ∀ character ∈ text.toList, 65 ≤ character.toNat ∧ character.toNat ≤ 90 := by
  have nonempty : text ≠ "" := by
    rintro rfl
    exact absurd length (by simp)
  simp only [isAscii_iff, isAlpha, Bool.and_eq_true, decide_eq_true_eq, List.all_eq_true, eq_upper_iff, ne_eq, nonempty,
    not_false_eq_true, true_and]
  constructor
  · rintro ⟨_, alpha, fixed⟩ character member
    exact isUpper_iff.mp ⟨alpha character member, fixed character member⟩
  · intro bounds
    have letters := fun character member => isUpper_iff.mpr (bounds character member)
    refine ⟨fun character member => ?_, fun character member => (letters character member).1,
      fun character member => (letters character member).2⟩
    have upper := (bounds character member).2
    omega

theorem isTrimmed_iff {text : String} : isTrimmed text = true ↔ text ≠ "" ∧ text = strip text := by
  simp only [isTrimmed, Bool.and_eq_true, decide_eq_true_eq]

private theorem charByte_injOn {first second : Char} (low : first.toNat < 128) (low' : second.toNat < 128)
    (same : UInt8.ofNat first.toNat = UInt8.ofNat second.toNat) : first = second := by
  have bytes := congrArg UInt8.toNat same
  rw [UInt8.toNat_ofNat', UInt8.toNat_ofNat', Nat.mod_eq_of_lt (by omega), Nat.mod_eq_of_lt (by omega)] at bytes
  exact Char.toNat_inj.mp bytes

/-- ASCII texts are determined by their encoding. -/
theorem encodeAscii_injOn {first second : String} (ascii : isAscii first = true) (ascii' : isAscii second = true)
    (same : encodeAscii first = encodeAscii second) : first = second := by
  rw [isAscii_iff] at ascii ascii'
  rw [← String.toList_inj]
  simp only [encodeAscii] at same
  generalize first.toList = left at ascii same
  generalize second.toList = right at ascii' same
  induction left generalizing right with
  | nil => exact (List.map_eq_nil_iff.mp same.symm).symm
  | cons head tail ih =>
    cases right with
    | nil => simp at same
    | cons head' tail' =>
      simp only [List.map_cons, List.cons.injEq] at same
      simp only [List.mem_cons, forall_eq_or_imp] at ascii ascii'
      rw [charByte_injOn ascii.1 ascii'.1 same.1, ih ascii.2 tail' ascii'.2 same.2]

/-- An ASCII encoding holds a byte only if the text holds the character. -/
theorem mem_of_mem_encodeAscii {text : String} (ascii : isAscii text = true) {character : Char}
    (low : character.toNat < 128) (member : UInt8.ofNat character.toNat ∈ encodeAscii text) :
    character ∈ text.toList := by
  rw [isAscii_iff] at ascii
  obtain ⟨other, present, same⟩ := List.mem_map.mp member
  exact charByte_injOn (ascii other present) low same ▸ present

/-- A text translated character by character. -/
theorem mapM_eq_some_iff {translate : Char → Option Char} {text translated : List Char} :
    text.mapM translate = some translated ↔ List.Forall₂ (fun character shown => translate character = some shown) text translated := by
  induction text generalizing translated with
  | nil => simp [eq_comm]
  | cons character text ih =>
    rw [List.mapM_cons, List.forall₂_cons_left_iff]
    simp only [Option.bind_eq_bind, Option.bind_eq_some_iff, Option.pure_def, Option.some.injEq]
    constructor
    · rintro ⟨shown, here, rest, later, rfl⟩
      exact ⟨shown, rest, here, ih.mp later, rfl⟩
    · rintro ⟨shown, rest, here, later, rfl⟩
      exact ⟨shown, here, rest, ih.mpr later, rfl⟩

end PortfolioManager.Python
