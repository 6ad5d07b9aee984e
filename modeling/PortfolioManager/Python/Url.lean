import PortfolioManager.Library.Hex
import PortfolioManager.Python.Text

/-! # Query strings

`quote_plus` and `urlencode` of `urllib.parse` with their default safe characters: the UTF-8
bytes of a text are kept when unreserved, a space becomes a plus sign, and every other byte is
escaped with upper-case hexadecimal digits. `parse_qs` reads them back; a query whose bytes are not
UTF-8, where it puts replacement characters, has no reading here.
-/

namespace PortfolioManager.Python

open Hex

def isUnreserved (byte : UInt8) : Bool :=
  (0x30 ≤ byte && byte ≤ 0x39) || (0x41 ≤ byte && byte ≤ 0x5a) || (0x61 ≤ byte && byte ≤ 0x7a) ||
    [0x5f, 0x2e, 0x2d, 0x7e].contains byte

def upperHexDigits : List Char := "0123456789ABCDEF".toList

def upperHexDigit (value : UInt8) : Char := upperHexDigits.getD value.toNat '0'

/-- The characters one byte is quoted as. -/
def quoteByte (byte : UInt8) : List Char :=
  if isUnreserved byte then [Char.ofNat byte.toNat]
  else if byte = 0x20 then ['+']
  else ['%', upperHexDigit (byte >>> 4), upperHexDigit (byte &&& 0x0f)]

def quotePlus (text : String) : String := String.ofList ((encode text).flatMap quoteByte)

def urlencode (pairs : List (String × String)) : String :=
  "&".intercalate (pairs.map fun pair => quotePlus pair.1 ++ "=" ++ quotePlus pair.2)

/-! ## Reading a query -/

/-- `unquote_to_bytes`: an escape is one byte, and every other character is encoded. -/
def unquoteToBytes : List Char → Bytes
  | [] => []
  | '%' :: high :: low :: rest =>
      match digitValue high, digitValue low with
      | some upper, some lower => UInt8.ofNat (16 * upper + lower) :: unquoteToBytes rest
      | _, _ => 0x25 :: unquoteToBytes (high :: low :: rest)
  | character :: rest => String.utf8EncodeChar character ++ unquoteToBytes rest

def plusToSpace (character : Char) : Char := if character = '+' then ' ' else character

/-- `unquote` on a text whose plus signs are spaces. -/
def unquotePlus (text : List Char) : Option String := decode (unquoteToBytes (text.map plusToSpace))

/-- `str.partition` at the first equals sign: what stands before and after it. -/
def partitionEquals (field : List Char) : List Char × List Char :=
  (field.takeWhile (· ≠ '='), (field.dropWhile (· ≠ '=')).drop 1)

def unquoteField (field : List Char × List Char) : Option (String × String) := do
  let name ← unquotePlus field.1
  let value ← unquotePlus field.2
  return (name, value)

/-- `parse_qsl`: fields without a value are left out. -/
def parseQsl (query : String) : Option (List (String × String)) :=
  (((query.toList.splitOn '&').map partitionEquals).filter fun field => field.2 ≠ []).mapM unquoteField

/-- One more value of a name. -/
def addValue : List (String × List String) → String × String → List (String × List String)
  | [], (name, value) => [(name, [value])]
  | (known, values) :: rest, (name, value) =>
      if known = name then (known, values ++ [value]) :: rest else (known, values) :: addValue rest (name, value)

/-- `parse_qs`: every name with its values, in the order of their first appearance. -/
def parseQs (query : String) : Option (List (String × List String)) :=
  (parseQsl query).map fun pairs => pairs.foldl addValue []

/-- `urlparse(url).query`: from the first question mark to the fragment. -/
def urlQuery (url : String) : String :=
  String.ofList (((url.toList.takeWhile (· ≠ '#')).dropWhile (· ≠ '?')).drop 1)

/-! ## A quoted text is read back -/

/-- The characters that structure a URL and its query. -/
def isDelimiter (character : Char) : Bool := ['&', '=', '#', '?'].contains character

theorem digitValue_upperHexDigit {nibble : UInt8} (small : nibble.toNat < 16) :
    digitValue (upperHexDigit nibble) = some nibble.toNat := by
  have each : ∀ value : Fin 16, digitValue (upperHexDigits.getD value.val '0') = some value.val := by decide
  exact each ⟨nibble.toNat, small⟩

theorem upperHexDigit_mem (nibble : UInt8) : upperHexDigit nibble ∈ upperHexDigits := by
  rw [upperHexDigit]
  rcases lt_or_ge nibble.toNat upperHexDigits.length with inside | outside
  · rw [List.getD_eq_getElem _ _ inside]
    exact List.getElem_mem inside
  · rw [List.getD_eq_default _ _ outside]
    decide

/-- An unreserved byte is an ASCII character without a meaning in a query. -/
theorem unreserved_plain {byte : UInt8} (unreserved : isUnreserved byte = true) :
    (Char.ofNat byte.toNat ≠ '%' ∧ plusToSpace (Char.ofNat byte.toNat) = Char.ofNat byte.toNat) ∧
      isDelimiter (Char.ofNat byte.toNat) = false ∧ String.utf8EncodeChar (Char.ofNat byte.toNat) = [byte] := by
  have each : ∀ value : Fin 256, isUnreserved (UInt8.ofNat value.val) = true →
      (Char.ofNat value.val ≠ '%' ∧ plusToSpace (Char.ofNat value.val) = Char.ofNat value.val) ∧
        isDelimiter (Char.ofNat value.val) = false ∧ String.utf8EncodeChar (Char.ofNat value.val) = [UInt8.ofNat value.val] := by
    decide +kernel
  have found := each ⟨byte.toNat, byte.toNat_lt⟩
  simp only [UInt8.ofNat_toNat] at found
  exact found unreserved

theorem isDelimiter_upperHexDigit (nibble : UInt8) :
    isDelimiter (upperHexDigit nibble) = false ∧ plusToSpace (upperHexDigit nibble) = upperHexDigit nibble := by
  have each : (upperHexDigits.all fun character => isDelimiter character = false ∧ plusToSpace character = character) := by
    decide
  exact of_decide_eq_true (List.all_eq_true.mp each _ (upperHexDigit_mem nibble))

theorem isDelimiter_of_mem_quoteByte {byte : UInt8} {character : Char} (member : character ∈ quoteByte byte) :
    isDelimiter character = false := by
  unfold quoteByte at member
  split_ifs at member with unreserved space
  · obtain rfl := List.mem_singleton.mp member
    exact (unreserved_plain unreserved).2.1
  · obtain rfl := List.mem_singleton.mp member
    rfl
  · simp only [List.mem_cons, List.not_mem_nil, or_false] at member
    rcases member with rfl | rfl | rfl
    · rfl
    · exact (isDelimiter_upperHexDigit _).1
    · exact (isDelimiter_upperHexDigit _).1

/-- A quoted text has no delimiters of its own. -/
theorem isDelimiter_of_mem_quotePlus {text : String} {character : Char} (member : character ∈ (quotePlus text).toList) :
    isDelimiter character = false := by
  rw [quotePlus, String.toList_ofList, List.mem_flatMap] at member
  obtain ⟨byte, _, quoted⟩ := member
  exact isDelimiter_of_mem_quoteByte quoted

theorem unquoteToBytes_cons_of_ne {character : Char} (plain : character ≠ '%') (rest : List Char) :
    unquoteToBytes (character :: rest) = String.utf8EncodeChar character ++ unquoteToBytes rest := by
  rw [unquoteToBytes]
  intro _ _ _ escape
  contradiction

/-- The two digits of an escape give back the byte. -/
theorem byte_of_nibbles (byte : UInt8) : UInt8.ofNat (16 * (byte >>> 4).toNat + (byte &&& 0x0f).toNat) = byte := by
  have high : (byte >>> 4).toNat = byte.toNat / 16 := by
    rw [UInt8.toNat_shiftRight]
    exact Nat.shiftRight_eq_div_pow _ 4
  have low : (byte &&& 0x0f).toNat = byte.toNat % 16 := by
    rw [UInt8.toNat_and]
    exact Nat.and_two_pow_sub_one_eq_mod _ 4
  rw [high, low, Nat.div_add_mod, UInt8.ofNat_toNat]

/-- One quoted byte is read back, whatever follows it. -/
theorem unquoteToBytes_quoteByte (byte : UInt8) (rest : List Char) :
    unquoteToBytes ((quoteByte byte).map plusToSpace ++ rest) = byte :: unquoteToBytes rest := by
  unfold quoteByte
  split_ifs with unreserved space
  · obtain ⟨⟨plain, kept⟩, _, encoded⟩ := unreserved_plain unreserved
    rw [List.map_singleton, kept, List.singleton_append, unquoteToBytes_cons_of_ne plain, encoded, List.singleton_append]
  · subst space
    exact unquoteToBytes_cons_of_ne (by decide) rest
  · have high : (byte >>> 4).toNat < 16 := by
      rw [UInt8.toNat_shiftRight]
      have bound := byte.toNat_lt
      exact (Nat.shiftRight_eq_div_pow _ 4).trans_lt (by omega)
    have low : (byte &&& 0x0f).toNat < 16 := by
      rw [UInt8.toNat_and]
      exact Nat.lt_of_le_of_lt Nat.and_le_right (by decide)
    have escape : plusToSpace '%' = '%' := rfl
    simp only [List.map_cons, List.map_nil, List.cons_append, List.nil_append, (isDelimiter_upperHexDigit _).2, escape,
      unquoteToBytes, digitValue_upperHexDigit high, digitValue_upperHexDigit low, byte_of_nibbles]

/-- A quoted text is read back as that text. -/
theorem unquotePlus_quotePlus (text : String) : unquotePlus (quotePlus text).toList = some text := by
  have bytes (quoted : Bytes) : unquoteToBytes ((quoted.flatMap quoteByte).map plusToSpace) = quoted := by
    induction quoted with
    | nil => rfl
    | cons byte rest ih => rw [List.flatMap_cons, List.map_append, unquoteToBytes_quoteByte, ih]
  rw [unquotePlus, quotePlus, String.toList_ofList, bytes, decode_encode]

/-! ## An encoded query is read back -/

/-- The characters a pair is encoded as. -/
def encodedPair (pair : String × String) : List Char := (quotePlus pair.1).toList ++ '=' :: (quotePlus pair.2).toList

theorem toList_urlencode (pairs : List (String × String)) : (urlencode pairs).toList = ['&'].intercalate (pairs.map encodedPair) := by
  rw [urlencode, String.toList_intercalate, List.map_map]
  congr 1
  refine List.map_congr_left fun pair _ => ?_
  simp [encodedPair]

theorem not_mem_quotePlus {text : String} {delimiter : Char} (delimits : isDelimiter delimiter = true) :
    delimiter ∉ (quotePlus text).toList := by
  intro member
  rw [isDelimiter_of_mem_quotePlus member] at delimits
  contradiction

/-- Of the delimiters only the equals sign stands in an encoded pair. -/
theorem not_mem_encodedPair {pair : String × String} {delimiter : Char} (delimits : isDelimiter delimiter = true)
    (other : delimiter ≠ '=') : delimiter ∉ encodedPair pair := by
  simp only [encodedPair, List.mem_append, List.mem_cons, not_or]
  exact ⟨not_mem_quotePlus delimits, other, not_mem_quotePlus delimits⟩

theorem partitionEquals_encodedPair (pair : String × String) :
    partitionEquals (encodedPair pair) = ((quotePlus pair.1).toList, (quotePlus pair.2).toList) := by
  have plain : ∀ character ∈ (quotePlus pair.1).toList, decide (character ≠ '=') = true := by
    intro character member
    refine decide_eq_true ?_
    rintro rfl
    exact not_mem_quotePlus (by decide) member
  rw [partitionEquals, encodedPair, List.takeWhile_append_of_pos plain, List.dropWhile_append_of_pos plain,
    List.takeWhile_cons_of_neg (by simp), List.dropWhile_cons_of_neg (by simp), List.append_nil]
  rfl

theorem toList_quotePlus_eq_nil_iff {text : String} : (quotePlus text).toList = [] ↔ text = "" := by
  constructor
  · intro empty
    have back := unquotePlus_quotePlus text
    rw [empty] at back
    exact (Option.some.inj (back.symm.trans (unquotePlus_quotePlus "")))
  · rintro rfl
    rfl

/-- The two parts of the fields of an encoded query, read back without the empty values. -/
theorem mapM_unquoteField (pairs : List (String × String)) :
    ((pairs.map fun pair => ((quotePlus pair.1).toList, (quotePlus pair.2).toList)).filter fun field => field.2 ≠ []).mapM
      unquoteField = some (pairs.filter fun pair => pair.2 ≠ "") := by
  induction pairs with
  | nil => rfl
  | cons pair rest ih =>
    rw [List.map_cons, List.filter_cons, List.filter_cons]
    simp only [toList_quotePlus_eq_nil_iff, ne_eq, decide_not] at ih ⊢
    split_ifs with present
    · have read : unquoteField ((quotePlus pair.1).toList, (quotePlus pair.2).toList) = some pair := by
        simp only [unquoteField, unquotePlus_quotePlus]
        rfl
      rw [List.mapM_cons, read, ih]
      rfl
    · exact ih

/-- Reading an encoded query gives its pairs, but for those without a value. -/
theorem parseQsl_urlencode (pairs : List (String × String)) :
    parseQsl (urlencode pairs) = some (pairs.filter fun pair => pair.2 ≠ "") := by
  cases pairs with
  | nil => rfl
  | cons pair rest =>
    have whole : ∀ field ∈ (pair :: rest).map encodedPair, '&' ∉ field := by
      intro field member
      obtain ⟨encoded, _, rfl⟩ := List.mem_map.mp member
      exact not_mem_encodedPair (by decide) (by decide)
    rw [parseQsl, toList_urlencode, List.splitOn_intercalate '&' whole (by simp), List.map_map, ← mapM_unquoteField]
    simp only [Function.comp_def, partitionEquals_encodedPair]

theorem addValue_of_new {known : List (String × List String)} {pair : String × String}
    (new : ∀ entry ∈ known, entry.1 ≠ pair.1) : addValue known pair = known ++ [(pair.1, [pair.2])] := by
  induction known with
  | nil => rfl
  | cons entry rest ih =>
    rw [List.forall_mem_cons] at new
    rw [addValue, if_neg new.1, ih new.2, List.cons_append]

theorem foldl_addValue {known : List (String × List String)} {pairs : List (String × String)}
    (distinct : (known.map Prod.fst ++ pairs.map Prod.fst).Nodup) :
    pairs.foldl addValue known = known ++ pairs.map fun pair => (pair.1, [pair.2]) := by
  induction pairs generalizing known with
  | nil => simp
  | cons pair rest ih =>
    have new : ∀ entry ∈ known, entry.1 ≠ pair.1 := by
      rintro entry member same
      exact (List.nodup_append.mp distinct).2.2 entry.1 (List.mem_map_of_mem member) pair.1 (by simp) same
    rw [List.foldl_cons, addValue_of_new new, ih, List.append_assoc, List.singleton_append, List.map_cons]
    simpa using distinct

/-- Distinct names with values are read back as they were encoded, one value each. -/
theorem parseQs_urlencode {pairs : List (String × String)} (distinct : (pairs.map Prod.fst).Nodup)
    (present : ∀ pair ∈ pairs, pair.2 ≠ "") :
    parseQs (urlencode pairs) = some (pairs.map fun pair => (pair.1, [pair.2])) := by
  have kept : (pairs.filter fun pair => pair.2 ≠ "") = pairs := List.filter_eq_self.mpr (by simpa using present)
  rw [parseQs, parseQsl_urlencode, kept, Option.map_some, foldl_addValue (by simpa using distinct), List.nil_append]

/-- An encoded query has no fragment of its own. -/
theorem hash_not_mem_urlencode (pairs : List (String × String)) : '#' ∉ (urlencode pairs).toList := by
  rw [toList_urlencode]
  induction pairs with
  | nil => simp
  | cons pair rest ih =>
    cases rest with
    | nil =>
      rw [List.map_singleton, List.intercalate_singleton]
      exact not_mem_encodedPair (by decide) (by decide)
    | cons next others =>
      rw [List.map_cons, List.map_cons, List.intercalate_cons_cons, ← List.map_cons]
      simp only [List.mem_append, List.mem_singleton, not_or]
      exact ⟨⟨not_mem_encodedPair (by decide) (by decide), by decide⟩, ih⟩

/-- The query of a URL that ends in it. -/
theorem urlQuery_append {base query : String} (plain : ∀ character ∈ base.toList, character ≠ '#' ∧ character ≠ '?')
    (whole : '#' ∉ query.toList) : urlQuery (base ++ "?" ++ query) = query := by
  have all : ∀ character ∈ base.toList ++ '?' :: query.toList, decide (character ≠ '#') = true := by
    simp only [List.mem_append, List.mem_cons, decide_eq_true_eq]
    rintro character (early | rfl | late)
    · exact (plain character early).1
    · decide
    · rintro rfl
      exact whole late
  have early : ∀ character ∈ base.toList, decide (character ≠ '?') = true :=
    fun character member => decide_eq_true (plain character member).2
  have characters : (base ++ "?" ++ query).toList = base.toList ++ '?' :: query.toList := by simp
  rw [urlQuery, characters, List.takeWhile_eq_self_iff.mpr all, List.dropWhile_append_of_pos early,
    List.dropWhile_cons_of_neg (by simp)]
  simp

end PortfolioManager.Python
