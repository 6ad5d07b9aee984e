import PortfolioManager.Library.Transcript

/-! # Buffers with a limit

A buffer keeps the items offered to it while their total weight stays within a limit, and refuses the
first that goes beyond. Filling it from a source is a conversation that a refusal ends, so what has
been pulled from the source is the queries of its transcript, and what is kept the state at its end.
-/

open Transcript

/-- The weight of all items. -/
def totalWeight {α : Type*} (weight : α → ℕ) : List α → ℕ
  | [] => 0
  | item :: rest => weight item + totalWeight weight rest

@[simp] theorem totalWeight_nil {α : Type*} (weight : α → ℕ) : totalWeight weight [] = 0 := rfl

@[simp] theorem totalWeight_cons {α : Type*} (weight : α → ℕ) (item : α) (rest : List α) :
    totalWeight weight (item :: rest) = weight item + totalWeight weight rest := rfl

@[simp] theorem totalWeight_append {α : Type*} (weight : α → ℕ) (first second : List α) :
    totalWeight weight (first ++ second) = totalWeight weight first + totalWeight weight second := by
  induction first with
  | nil => simp
  | cons item rest ih => simp [ih, Nat.add_assoc]

/-- Items in the order they were taken, whose total weight is within the limit. -/
structure BoundedBuffer {α : Type*} (weight : α → ℕ) (limit : ℕ) where
  items : List α
  size : ℕ
  sized : size = totalWeight weight items
  within : size ≤ limit

namespace BoundedBuffer

variable {α : Type*} {weight : α → ℕ} {limit : ℕ}

def empty : BoundedBuffer weight limit := ⟨[], 0, rfl, Nat.zero_le limit⟩

/-- Offer an item; the answer is whether it is refused. -/
def offer : Oracle (BoundedBuffer weight limit) α Bool := fun buffer item =>
  if within : buffer.size + weight item ≤ limit then
    (false, ⟨buffer.items ++ [item], buffer.size + weight item, by simp [buffer.sized], within⟩)
  else (true, buffer)

/-- Offer the items of a source until one is refused. -/
def fill (buffer : BoundedBuffer weight limit) (source : List α) : List (α × Bool) × BoundedBuffer weight limit :=
  converse offer id source buffer

/-- The items pulled from the source, the refused one included. -/
def pulled (buffer : BoundedBuffer weight limit) (source : List α) : List α := (buffer.fill source).1.map Prod.fst

/-- An item of the source is refused. -/
def refuses (buffer : BoundedBuffer weight limit) (source : List α) : Bool := (buffer.fill source).1.any Prod.snd

variable {buffer : BoundedBuffer weight limit} {item : α}

theorem offer_of_within (within : buffer.size + weight item ≤ limit) :
    (offer buffer item).1 = false ∧ (offer buffer item).2.items = buffer.items ++ [item] ∧
      (offer buffer item).2.size = buffer.size + weight item := by
  simp only [offer, dif_pos within, and_self]

theorem offer_of_beyond (beyond : limit < buffer.size + weight item) : offer buffer item = (true, buffer) :=
  dif_neg (not_le.mpr beyond)

theorem fill_cons_of_within (within : buffer.size + weight item ≤ limit) (rest : List α) :
    buffer.fill (item :: rest) =
      ((item, false) :: ((offer buffer item).2.fill rest).1, ((offer buffer item).2.fill rest).2) := by
  have accepted := (offer_of_within within).1
  rw [fill, converse_cons_of_not_stops accepted, accepted]
  rfl

theorem fill_cons_of_beyond (beyond : limit < buffer.size + weight item) (rest : List α) :
    buffer.fill (item :: rest) = ([(item, true)], buffer) := by
  have refused := offer_of_beyond beyond
  rw [fill, converse_cons_of_stops (by rw [refused, id]), refused]

/-- The whole source is kept, or everything before the first item that takes the total beyond the limit. -/
theorem fill_cases (buffer : BoundedBuffer weight limit) (source : List α) :
    (buffer.size + totalWeight weight source ≤ limit ∧ buffer.refuses source = false ∧ buffer.pulled source = source ∧
        (buffer.fill source).2.items = buffer.items ++ source) ∨
      ∃ taken item later, source = taken ++ item :: later ∧ buffer.size + totalWeight weight taken ≤ limit ∧
        limit < buffer.size + totalWeight weight (taken ++ [item]) ∧ buffer.refuses source = true ∧
        buffer.pulled source = taken ++ [item] ∧ (buffer.fill source).2.items = buffer.items ++ taken := by
  induction source generalizing buffer with
  | nil => exact .inl ⟨by simpa using buffer.within, rfl, rfl, (List.append_nil _).symm⟩
  | cons item rest ih =>
    simp only [refuses, pulled] at ih ⊢
    rcases le_or_gt (buffer.size + weight item) limit with within | beyond
    · obtain ⟨_, items, size⟩ := offer_of_within within
      rw [fill_cons_of_within within]
      simp only [List.any_cons, List.map_cons, Bool.false_or, totalWeight_cons]
      rcases ih (offer buffer item).2 with ⟨total, goes, all, kept⟩ | ⟨taken, last, later, split, before, after, stops, some, kept⟩
      · refine .inl ⟨by omega, goes, by rw [all], ?_⟩
        rw [kept, items, List.append_assoc, List.singleton_append]
      · refine .inr ⟨item :: taken, last, later, by rw [split, List.cons_append], ?_, ?_, stops, by rw [some, List.cons_append], ?_⟩
        · rw [totalWeight_cons]
          omega
        · rw [List.cons_append, totalWeight_cons]
          omega
        · rw [kept, items, List.append_assoc, List.singleton_append]
    · rw [fill_cons_of_beyond beyond]
      exact .inr ⟨[], item, rest, rfl, by simpa using buffer.within, by simpa using beyond, rfl, rfl, (List.append_nil _).symm⟩

theorem refuses_eq_false_iff {source : List α} :
    buffer.refuses source = false ↔ buffer.size + totalWeight weight source ≤ limit := by
  rcases buffer.fill_cases source with ⟨total, goes, _⟩ | ⟨taken, item, later, split, _, beyond, stops, _⟩
  · exact iff_of_true goes total
  · refine iff_of_false (ne_false_of_eq_true stops) ?_
    simp only [split, totalWeight_append, totalWeight_cons, totalWeight_nil] at beyond ⊢
    omega

/-- What comes after a refused item is never looked at. -/
theorem fill_append_of_refuses {source : List α} (refused : buffer.refuses source = true) (later : List α) :
    buffer.fill (source ++ later) = buffer.fill source := by
  obtain ⟨entry, member, stop⟩ := List.any_eq_true.mp refused
  exact converse_append_of_stops ⟨entry, member, stop⟩

end BoundedBuffer
