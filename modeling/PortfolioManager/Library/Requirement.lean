import Mathlib.Order.UpperLower.CompleteLattice

/-! # Requirements on collections

A requirement is an upward-closed family of sets: what meets it still does when more is added. On
lists it ignores order and repetition. The ones here ask for an item of a kind, or for two items of
different colours.
-/

abbrev Requirement (α : Type*) := UpperSet (Set α)

namespace Requirement

variable {α κ : Type*}

/-- A list meets a requirement when the set of its items does. -/
def Meets (items : List α) (needs : Requirement α) : Prop := {item | item ∈ items} ∈ needs

/-- There is an item that satisfies the predicate. -/
def includes (p : α → Prop) : Requirement α where
  carrier := {items | ∃ item ∈ items, p item}
  upper' := by
    rintro smaller larger subset ⟨item, member, holds⟩
    exact ⟨item, subset member, holds⟩

/-- There are two items of different colours. -/
def differ (colour : α → Option κ) : Requirement α where
  carrier := {items | ∃ first ∈ items, ∃ second ∈ items, ∃ c d, colour first = some c ∧ colour second = some d ∧ c ≠ d}
  upper' := by
    rintro smaller larger subset ⟨first, member, second, member', colours⟩
    exact ⟨first, subset member, second, subset member', colours⟩

variable {items items' : List α} {needs other : Requirement α} {p q : α → Prop}

/-- Adding items never breaks a requirement. -/
theorem Meets.mono (met : Meets items needs) (subset : items ⊆ items') : Meets items' needs :=
  needs.upper (fun _ member => subset member) met

@[simp] theorem meets_includes : Meets items (includes p) ↔ ∃ item ∈ items, p item := Iff.rfl

@[simp] theorem meets_differ {colour : α → Option κ} :
    Meets items (differ colour) ↔
      ∃ first ∈ items, ∃ second ∈ items, ∃ c d, colour first = some c ∧ colour second = some d ∧ c ≠ d := Iff.rfl

/-- Items of one colour do not differ. -/
theorem not_meets_differ {colour : α → Option κ} {c : κ} (constant : ∀ item ∈ items, ∀ d ∈ colour item, d = c) :
    ¬Meets items (differ colour) := by
  rintro ⟨first, member, second, member', d, d', colour₁, colour₂, distinct⟩
  exact distinct ((constant first member d colour₁).trans (constant second member' d' colour₂).symm)

@[simp] theorem meets_sup : Meets items (needs ⊔ other) ↔ Meets items needs ∧ Meets items other := UpperSet.mem_sup_iff

/-- When every item of the one kind is of the other, an item of the one kind will do. -/
theorem Meets.includes_imp (met : Meets items (includes p)) (imp : ∀ item ∈ items, p item → q item) : Meets items (includes q) := by
  obtain ⟨item, member, holds⟩ := met
  exact ⟨item, member, imp item member holds⟩

/-- When every item keeps its colour in the other colouring, two items that differ still do. -/
theorem Meets.differ_imp {colour colour' : α → Option κ} (met : Meets items (differ colour))
    (kept : ∀ item ∈ items, ∀ c ∈ colour item, colour' item = some c) : Meets items (differ colour') := by
  obtain ⟨first, member, second, member', c, d, colour₁, colour₂, distinct⟩ := met
  exact ⟨first, member, second, member', c, d, kept first member c colour₁, kept second member' d colour₂, distinct⟩

end Requirement
