import PortfolioManager.Library.Canonical

/-! # Records by the part that holds their entries

The entries of a record often lie in one part of it, in a shape of their own: a single entry, an entry that may be
absent, a pair. The part can be read and replaced, and this alone makes the record one with entries. A record then
reads as another exactly when its part does and the rest of the two is the same.
-/

namespace Record

/-- A part of a record, by its reader and its writer. -/
structure Selection (F T : Type → Type) where
  get {A : Type} : F A → T A
  set {A B : Type} : F A → T B → F B
  set_get {A : Type} (record : F A) : set record (get record) = record
  get_set {A B : Type} (record : F A) (part : T B) : get (set record part) = part
  set_set {A B C : Type} (record : F A) (part : T B) (part' : T C) : set (set record part) part' = set record part'

instance : Record Id where
  map f entry := f entry
  id_map _ := rfl
  comp_map _ _ _ := rfl
  map_const := rfl
  entries entry := [entry]
  entries_map _ _ := rfl

instance : Record Option where
  entries := Option.toList
  entries_map _ entry := by cases entry <;> rfl

namespace Selection

variable {F T : Type → Type} [Record T]

/-- The record whose entries are those of the part. -/
abbrev record (selection : Selection F T) : Record F where
  map f record := selection.set record (f <$> selection.get record)
  id_map record := by rw [id_map, selection.set_get]
  comp_map f g record := by rw [selection.get_set, selection.set_set, comp_map]
  map_const := rfl
  entries record := entries (selection.get record)
  entries_map f record := by rw [selection.get_set, entries_map]

variable {A B : Type} {read : A → Option B} {written : F A} {canonical : F B}

/-- A record reads as another exactly when its part does and the rest is the same. -/
theorem reads_iff (selection : Selection F T) :
    @Reads F selection.record A B read written canonical ↔
      Reads read (selection.get written) (selection.get canonical) ∧
        selection.set written (selection.get canonical) = canonical := by
  change selection.set written (read <$> selection.get written) =
    selection.set canonical (some <$> selection.get canonical) ↔ _
  constructor
  · intro reads
    have part := congrArg selection.get reads
    rw [selection.get_set, selection.get_set] at part
    have rest := congrArg (selection.set · (selection.get canonical)) reads
    rw [selection.set_set, selection.set_set, selection.set_get] at rest
    exact ⟨part, rest⟩
  · rintro ⟨part, rest⟩
    calc
      selection.set written (read <$> selection.get written)
        = selection.set written (some <$> selection.get canonical) := by rw [part]
      _ = selection.set (selection.set written (selection.get canonical)) (some <$> selection.get canonical) :=
        (selection.set_set ..).symm
      _ = selection.set canonical (some <$> selection.get canonical) := by rw [rest]

variable {E R : Type} {new : F A → Except E R} {stored : R → F B}

/-- A constructor that reads the part and keeps the rest as it is given is canonical. -/
theorem canonical_of_accepts (selection : Selection F T)
    (accepts : ∀ written object, new written = .ok object ↔
      Reads read (selection.get written) (selection.get (stored object)) ∧
        stored object = selection.set written (selection.get (stored object))) :
    @Canonical F selection.record A B E R read new stored := by
  intro written object
  rw [accepts, reads_iff, eq_comm (a := stored object)]

end Selection

end Record
