import Mathlib.Control.Functor

/-! # Constructors that normalise what they are given

The arguments of a constructor are a record with entries that can be written in several ways. A
canonical constructor reads the entries, and whether it accepts and what it builds depends on what it
read alone; the object keeps the record of what was read. Writing these entries down again in any way
that reads as they do rebuilds the object.
-/

/-- A record with entries of a given type. -/
class Record (F : Type → Type) extends Functor F, LawfulFunctor F where
  entries {A : Type} : F A → List A
  entries_map {A B : Type} (f : A → B) (record : F A) : entries (f <$> record) = (entries record).map f

namespace Record

variable {F : Type → Type} [Record F] {A B E R : Type}

/-- The entries of a record read as those of another. -/
def Reads (read : A → Option B) (written : F A) (canonical : F B) : Prop := read <$> written = some <$> canonical

variable {read : A → Option B} {written written' : F A} {canonical : F B}

/-- Every entry of a record that reads as another can be read. -/
theorem Reads.isSome (reads : Reads read written canonical) : ∀ entry ∈ entries written, (read entry).isSome = true := by
  intro entry member
  have mapped := congrArg entries reads
  rw [entries_map, entries_map] at mapped
  have found : read entry ∈ (entries canonical).map some := mapped ▸ List.mem_map_of_mem member
  obtain ⟨_, _, same⟩ := List.mem_map.mp found
  rw [← same]
  rfl

/-- What is written by a right inverse of the reading reads as it was. -/
theorem reads_map {write : B → A} (inverse : ∀ entry, read (write entry) = some entry) (canonical : F B) :
    Reads read (write <$> canonical) canonical := by
  rw [Reads, ← comp_map]
  congr 1
  funext entry
  exact inverse entry

/-- The constructor accepts a record exactly when it reads as the one its object keeps. -/
def Canonical (read : A → Option B) (new : F A → Except E R) (stored : R → F B) : Prop :=
  ∀ written object, new written = .ok object ↔ Reads read written (stored object)

variable {new : F A → Except E R} {stored : R → F B} {object : R}

namespace Canonical

/-- Records that read alike are accepted alike, with equal objects. -/
theorem same (canonical : Canonical read new stored) (alike : read <$> written = read <$> written') :
    new written = .ok object ↔ new written' = .ok object := by
  rw [canonical, canonical, Reads, Reads, alike]

theorem isSome (canonical : Canonical read new stored) (accepted : new written = .ok object) :
    ∀ entry ∈ entries written, (read entry).isSome = true :=
  ((canonical written object).mp accepted).isSome

/-- An object is rebuilt from the entries it keeps. -/
theorem rebuild (canonical : Canonical read new stored) {write : B → A} (inverse : ∀ entry, read (write entry) = some entry)
    (object : R) : new (write <$> stored object) = .ok object :=
  (canonical _ object).mpr (reads_map inverse (stored object))

/-- A constructor is canonical for a finer way of writing when it is for a coarser one. -/
theorem comap {A' : Type} (canonical : Canonical read new stored) (coarsen : A' → A) :
    Canonical (fun entry => read (coarsen entry)) (fun written => new (coarsen <$> written)) stored := by
  intro written object
  rw [canonical, Reads, Reads, ← comp_map]
  rfl

end Canonical

end Record
