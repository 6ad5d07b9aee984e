import PortfolioManager.Domain.Identifiers
import PortfolioManager.Python.Uuid

/-! # Identifiers as text

An identifier is written as the canonical text of its UUID. That text is read back as the identifier, and so is every
other spelling of the UUID; texts and identifiers sort alike.
-/

namespace PortfolioManager.Domain

open PortfolioManager.Python Checked

variable {EntityTag : Type}

namespace Identifier

/-- `Identifier.parse`. -/
def parse (value : String) : Except Builtin (Identifier EntityTag) := do
  let uuid ← uuidOf value
  return ⟨⟨uuid⟩⟩

/-- `str` of an identifier. -/
def str (identifier : Identifier EntityTag) : String := UuidText.render identifier.value.value

/-- Identifiers are ordered by their UUIDs, and those as integers. -/
instance : LT (Identifier EntityTag) := ⟨fun first second => first.value.value < second.value.value⟩

theorem parse_spelled {identifier : Identifier EntityTag} {body : List Char} (spelled : Shows body identifier.value.value)
    {scheme opening closing : String} (known : scheme ∈ ["", "urn:", "uuid:", "urn:uuid:"]) (left : opening ∈ ["", "\x7b"])
    (right : closing ∈ ["", "\x7d"]) : parse (scheme ++ opening ++ String.ofList body ++ closing) = .ok identifier := by
  rw [parse, uuidOf_spelled spelled known left right]
  rfl

theorem parse_str (identifier : Identifier EntityTag) : parse identifier.str = .ok identifier := by
  have plain := @parse_spelled _ identifier _ (shows_render identifier.value.value) "" "" "" (by simp) (by simp) (by simp)
  rw [String.ofList_toList, String.empty_append, String.empty_append, String.append_empty] at plain
  exact plain

theorem parse_error {text : String} {error : Builtin} (raised : (parse text : Except Builtin (Identifier EntityTag)) = .error error) :
    error = .valueError "badly formed hexadecimal UUID string" ∨
      error = .valueError s!"invalid literal for int() with base 16: '{String.ofList (uuidDigits text.toList)}'" := by
  refine uuidOf_error ?_
  rw [parse] at raised
  cases read : uuidOf text with
  | ok uuid =>
    rw [read] at raised
    contradiction
  | error other =>
    rw [read] at raised
    exact congrArg Except.error (Except.error.inj raised)

/-- Reading undoes writing, reads every spelling of a UUID and fails with a `ValueError` about the text only; writing keeps
the order. -/
theorem text_faithful :
    (∀ identifier : Identifier EntityTag, parse identifier.str = .ok identifier) ∧
      (∀ (identifier : Identifier EntityTag) body, Shows body identifier.value.value →
        ∀ scheme ∈ ["", "urn:", "uuid:", "urn:uuid:"], ∀ opening ∈ ["", "\x7b"], ∀ closing ∈ ["", "\x7d"],
          parse (scheme ++ opening ++ String.ofList body ++ closing) = .ok identifier) ∧
      (∀ first second : Identifier EntityTag, first.str < second.str ↔ first < second) ∧
      ∀ text error, (parse text : Except Builtin (Identifier EntityTag)) = .error error →
        error = .valueError "badly formed hexadecimal UUID string" ∨
          error = .valueError s!"invalid literal for int() with base 16: '{String.ofList (uuidDigits text.toList)}'" :=
  ⟨parse_str, fun _ _ spelled _ known _ left _ right => parse_spelled spelled known left right,
    fun _ _ => UuidText.render_lt_iff, fun _ _ => parse_error⟩

end Identifier

end PortfolioManager.Domain
