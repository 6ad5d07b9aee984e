import PortfolioManager.Library.Mvcc
import Mathlib.Data.List.Nodup

/-! # Transactions one at a time

While no other transaction is open, a statement never waits, and what an open transaction sees is a plain list
of values: an INSERT appends to it, and a DELETE takes a key out of it. A commit turns that list into what
everybody sees from then on, and a rollback goes back to what they saw before.
-/

namespace Mvcc

variable {K V : Type*} {table : Table K V} {txn : TxnId}

namespace Table

/-- What a transaction sees. -/
def view (table : Table K V) (txn : TxnId) : List (Version K V) := table.versions.filter (table.sees txn)

/-- What committed transactions have left. -/
def lasts (table : Table K V) (version : Version K V) : Bool :=
  table.fate version.insertedBy = .committed && version.deletedBy.all fun other => table.fate other ≠ .committed

/-- The values that committed transactions have left. -/
def settledValues (table : Table K V) : List V := (table.versions.filter table.lasts).map (·.value)

def Closed (fate : Fate) : Prop := fate = .committed ∨ fate = .aborted

/-- Only the transaction itself may still be open. -/
def Alone (table : Table K V) (txn : TxnId) : Prop :=
  ∀ version ∈ table.versions, ∀ other, other = version.insertedBy ∨ other ∈ version.deletedBy →
    other = txn ∨ Closed (table.fate other)

/-- No transaction is open. -/
def Rests (table : Table K V) : Prop :=
  ∀ version ∈ table.versions, ∀ other, other = version.insertedBy ∨ other ∈ version.deletedBy → Closed (table.fate other)

theorem Alone.authored (alone : table.Alone txn) (opened : table.fate txn = .active) : table.Authored := by
  intro version member unborn
  rcases alone version member version.insertedBy (.inl rfl) with own | closed
  · rw [own, opened] at unborn
    contradiction
  · rw [unborn] at closed
    rcases closed with committed | aborted <;> contradiction

theorem not_active_of_closed {fate : Fate} (closed : Closed fate) : fate ≠ .active := by
  rintro rfl
  rcases closed with committed | aborted <;> contradiction

theorem Alone.unlocked (alone : table.Alone txn) {version : Version K V} (member : version ∈ table.versions) :
    table.locked txn version = false := by
  rw [locked, Option.any_eq_false]
  intro other deleter
  rcases alone version member other (.inr deleter) with own | closed
  · simp [own]
  · simp [not_active_of_closed closed]

theorem Alone.settled [DecidableEq K] (alone : table.Alone txn) (key : K) : table.keyState txn key ≠ .wait := by
  have clear : (table.rivals txn key).any (table.inDoubt txn) = false := by
    refine List.any_eq_false.mpr fun version rival => ?_
    have member := (List.mem_filter.mp rival).1
    rw [inDoubt, alone.unlocked member, Bool.or_false, Bool.and_eq_true, decide_eq_true_eq, decide_eq_true_eq, not_and]
    intro foreign active
    rcases alone version member version.insertedBy (.inl rfl) with own | closed
    · exact foreign own
    · exact not_active_of_closed closed active
  unfold keyState
  rw [clear, if_neg Bool.false_ne_true]
  split_ifs
  · exact KeyState.noConfusion
  · exact KeyState.noConfusion

/-! ## Statements -/

@[simp] theorem sees_insert (key : K) (value : V) : (table.insert txn key value).sees = table.sees := rfl

@[simp] theorem lasts_insert (key : K) (value : V) : (table.insert txn key value).lasts = table.lasts := rfl

@[simp] theorem sees_deleteAt (position : ℕ) : (table.deleteAt txn position).sees = table.sees := rfl

@[simp] theorem lasts_deleteAt (position : ℕ) : (table.deleteAt txn position).lasts = table.lasts := rfl

theorem view_insert (key : K) (value : V) :
    (table.insert txn key value).view txn = table.view txn ++ [⟨key, value, txn, none⟩] := by
  have own : table.sees txn ⟨key, value, txn, none⟩ = true := by simp [sees]
  rw [view, sees_insert, insert, List.filter_append, List.filter_singleton, own]
  rfl

theorem settledValues_insert (opened : table.fate txn = .active) (key : K) (value : V) :
    (table.insert txn key value).settledValues = table.settledValues := by
  have fresh : table.lasts ⟨key, value, txn, none⟩ = false := by simp [lasts, opened]
  rw [settledValues, lasts_insert, insert, List.filter_append, List.filter_singleton, fresh]
  exact congrArg _ (List.append_nil _)

theorem Alone.insert (alone : table.Alone txn) (key : K) (value : V) : (table.insert txn key value).Alone txn := by
  intro version member other touched
  rcases List.mem_append.mp member with old | new
  · exact alone version old other touched
  · rw [List.mem_singleton.mp new] at touched
    exact .inl (touched.resolve_right (by simp))

/-- What is visible of a table whose keys are told apart, without the version that is deleted. -/
theorem view_deleteAt [DecidableEq K] (distinct : ((table.view txn).map (·.key)).Nodup) {position : ℕ} {version : Version K V}
    (present : table.versions[position]? = some version) (seen : table.sees txn version = true) :
    (table.deleteAt txn position).view txn = (table.view txn).filter (·.key ≠ version.key) := by
  obtain ⟨before, after, split, deleted⟩ := @deleteAt_split K V table txn position version present
  have hidden : table.sees txn { version with deletedBy := some txn } = false := by simp [sees]
  rw [view, split, List.filter_append, List.filter_cons_of_pos seen, List.map_append, List.map_cons,
    List.nodup_middle, List.nodup_cons, List.mem_append, not_or] at distinct
  have kept {versions : List (Version K V)} (absent : version.key ∉ (versions.filter (table.sees txn)).map (·.key)) :
      (versions.filter (table.sees txn)).filter (·.key ≠ version.key) = versions.filter (table.sees txn) := by
    refine List.filter_eq_self.mpr fun other member => decide_eq_true fun same => absent ?_
    exact same ▸ List.mem_map_of_mem member
  rw [view, sees_deleteAt, deleted, List.filter_append, List.filter_cons_of_neg (by simp [hidden]), view, split,
    List.filter_append, List.filter_cons_of_pos seen, List.filter_append, List.filter_cons_of_neg (by simp),
    kept distinct.1.1, kept distinct.1.2]

theorem settledValues_deleteAt (opened : table.fate txn = .active) {position : ℕ} {version : Version K V}
    (present : table.versions[position]? = some version) (seen : table.sees txn version = true) :
    (table.deleteAt txn position).settledValues = table.settledValues := by
  obtain ⟨before, after, split, deleted⟩ := @deleteAt_split K V table txn position version present
  have undeleted : (version.deletedBy.all fun other => table.fate other ≠ .committed) = true := by
    rw [sees, Bool.and_eq_true] at seen
    rw [Option.all_eq_true] at seen ⊢
    intro other deleter
    have kept := seen.2 other deleter
    rw [Bool.and_eq_true] at kept
    exact kept.2
  have same : table.lasts { version with deletedBy := some txn } = table.lasts version := by
    rw [lasts, lasts, undeleted]
    simp [opened]
  rw [settledValues, lasts_deleteAt, deleted, settledValues, split]
  simp only [List.filter_append, List.filter_cons, same]
  split_ifs <;> simp

theorem Alone.deleteAt (alone : table.Alone txn) (position : ℕ) : (table.deleteAt txn position).Alone txn := by
  intro version member other touched
  obtain ⟨index, found⟩ := List.mem_iff_getElem?.mp member
  rw [deleteAt_getElem?] at found
  obtain ⟨old, present, changed⟩ := Option.map_eq_some_iff.mp found
  have inside := List.mem_of_getElem? present
  split_ifs at changed
  · subst changed
    rcases touched with rfl | deleter
    · exact alone old inside _ (.inl rfl)
    · exact .inl (Option.mem_some_iff.mp deleter).symm
  · subst changed
    exact alone old inside other touched

/-! ## Beginning and ending -/

theorem Rests.begin (rests : table.Rests) (fate : Fate) : (table.resolve txn fate).Alone txn := by
  intro version member other touched
  by_cases own : other = txn
  · exact .inl own
  · exact .inr (by simpa [resolve, Function.update_of_ne own] using rests version member other touched)

theorem Alone.finish (alone : table.Alone txn) {fate : Fate} (closed : Closed fate) : (table.resolve txn fate).Rests := by
  intro version member other touched
  by_cases own : other = txn
  · simpa [resolve, own] using closed
  · simpa [resolve, Function.update_of_ne own] using (alone version member other touched).resolve_left own

theorem resolve_committed_iff {fate : Fate} (other : TxnId) :
    (table.resolve txn fate).fate other = .committed ↔ if other = txn then fate = .committed else table.fate other = .committed := by
  by_cases own : other = txn
  · simp [resolve, own]
  · simp [resolve, own]

/-- A transaction that has just begun sees what committed transactions have left. -/
theorem view_begin (rests : table.Rests) (unborn : table.fate txn = .unborn) :
    ((table.resolve txn .active).view txn).map (·.value) = table.settledValues := by
  have foreign {other : TxnId} (closed : Closed (table.fate other)) : other ≠ txn := by
    rintro rfl
    rw [unborn] at closed
    rcases closed with committed | aborted <;> contradiction
  refine congrArg _ (List.filter_congr fun version member => ?_)
  have writer := foreign (rests version member version.insertedBy (.inl rfl))
  have deleter {other : TxnId} (deleted : other ∈ version.deletedBy) := foreign (rests version member other (.inr deleted))
  rw [Bool.eq_iff_iff, sees, lasts]
  simp only [Bool.and_eq_true, Bool.or_eq_true, decide_eq_true_eq, Option.all_eq_true, resolve_committed_iff, writer,
    false_or, if_false, ne_eq]
  refine and_congr Iff.rfl (forall_congr' fun other => forall_congr' fun deleted => ?_)
  rw [if_neg (deleter deleted)]
  exact and_iff_right (deleter deleted)

/-- A commit leaves what the transaction saw. -/
theorem settledValues_commit : (table.resolve txn .committed).settledValues = (table.view txn).map (·.value) := by
  refine congrArg _ (List.filter_congr fun version _ => ?_)
  rw [Bool.eq_iff_iff, sees, lasts]
  simp only [Bool.and_eq_true, Bool.or_eq_true, decide_eq_true_eq, Option.all_eq_true, resolve_committed_iff, ne_eq]
  refine and_congr (by by_cases own : version.insertedBy = txn <;> simp [own])
    (forall_congr' fun other => forall_congr' fun _ => ?_)
  by_cases own : other = txn <;> simp [own]

/-- A transaction that does not commit changes nothing. -/
theorem settledValues_resolve (uncommitted : table.fate txn ≠ .committed) {fate : Fate} (stays : fate ≠ .committed) :
    (table.resolve txn fate).settledValues = table.settledValues := by
  have same (other : TxnId) : (table.resolve txn fate).fate other = .committed ↔ table.fate other = .committed := by
    rw [resolve_committed_iff]
    by_cases own : other = txn <;> simp [own, uncommitted, stays]
  refine congrArg (List.map fun version : Version K V => version.value) (List.filter_congr fun version _ => ?_)
  rw [Bool.eq_iff_iff, lasts, lasts]
  simp only [Bool.and_eq_true, decide_eq_true_eq, Option.all_eq_true, same, ne_eq]

end Table

end Mvcc
