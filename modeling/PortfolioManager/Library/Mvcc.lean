import PortfolioManager.Library.SingleUse
import Mathlib.Data.List.Basic
import Mathlib.Data.List.Pairwise
import Mathlib.Logic.Function.Basic

/-! # Row versions under READ COMMITTED

A table keeps every version of every row together with the transaction that inserted it and the
last one that deleted it. What a statement sees depends on the fates of those transactions, so a
deletion takes effect for others when its transaction commits and is forgotten when it aborts.
While no deleting transaction aborts, the table is an ordinary map from keys to values.
-/

namespace Mvcc

abbrev TxnId := ℕ

inductive Fate where
  | unborn
  | active
  | committed
  | aborted
deriving DecidableEq, Repr

structure Version (K V : Type*) where
  key : K
  value : V
  insertedBy : TxnId
  deletedBy : Option TxnId

structure Table (K V : Type*) where
  versions : List (Version K V)
  fate : TxnId → Fate

variable {K V : Type*}

namespace Table

/-- A statement of a transaction sees versions that are its own or committed and that neither it
nor a committed transaction has deleted. -/
def sees (table : Table K V) (txn : TxnId) (version : Version K V) : Bool :=
  (version.insertedBy = txn || table.fate version.insertedBy = .committed) &&
    version.deletedBy.all fun other => other ≠ txn && table.fate other ≠ .committed

/-- Another open transaction has deleted the version. -/
def locked (table : Table K V) (txn : TxnId) (version : Version K V) : Bool :=
  version.deletedBy.any fun other => other ≠ txn && table.fate other = .active

/-- The version can never again conflict with an insert of the transaction. -/
def dead (table : Table K V) (txn : TxnId) (version : Version K V) : Bool :=
  table.fate version.insertedBy = .aborted ||
    version.deletedBy.any fun other => other = txn || table.fate other = .committed

/-- Whether the version conflicts depends on a transaction that is still open. -/
def inDoubt (table : Table K V) (txn : TxnId) (version : Version K V) : Bool :=
  version.insertedBy ≠ txn && table.fate version.insertedBy = .active || table.locked txn version

/-- What a unique index says about inserting a key: wait for another transaction, refuse, or accept. -/
inductive KeyState where
  | wait
  | present
  | free
deriving DecidableEq

/-- The versions an insert of the key has to reckon with. -/
def rivals [DecidableEq K] (table : Table K V) (txn : TxnId) (key : K) : List (Version K V) :=
  table.versions.filter fun version => version.key = key && !table.dead txn version

def keyState [DecidableEq K] (table : Table K V) (txn : TxnId) (key : K) : KeyState :=
  if (table.rivals txn key).any (table.inDoubt txn) then .wait
  else if table.rivals txn key = [] then .free
  else .present

def insert (table : Table K V) (txn : TxnId) (key : K) (value : V) : Table K V :=
  { table with versions := table.versions ++ [⟨key, value, txn, none⟩] }

def deleteAt (table : Table K V) (txn : TxnId) (position : ℕ) : Table K V :=
  { table with versions := table.versions.modify position fun version => { version with deletedBy := some txn } }

def resolve (table : Table K V) (txn : TxnId) (fate : Fate) : Table K V :=
  { table with fate := Function.update table.fate txn fate }

@[simp] theorem deleteAt_fate (table : Table K V) (txn : TxnId) (position : ℕ) :
    (table.deleteAt txn position).fate = table.fate := rfl

@[simp] theorem resolve_versions (table : Table K V) (txn : TxnId) (fate : Fate) :
    (table.resolve txn fate).versions = table.versions := rfl

theorem keyState_eq_free_iff [DecidableEq K] {table : Table K V} {txn : TxnId} {key : K} :
    table.keyState txn key = .free ↔ ∀ version ∈ table.versions, version.key = key → table.dead txn version = true := by
  have empty : table.keyState txn key = .free ↔ table.rivals txn key = [] := by
    unfold keyState
    by_cases none : table.rivals txn key = []
    · simp [none]
    · simp only [none, ↓reduceIte, iff_false]
      split <;> simp
  rw [empty, rivals, List.filter_eq_nil_iff]
  simp

/-- Every version was inserted by a transaction that has begun. -/
def Authored (table : Table K V) : Prop := ∀ version ∈ table.versions, table.fate version.insertedBy ≠ .unborn

/-- Neither the transaction nor a committed one has deleted the version. -/
theorem undeleted_iff {table : Table K V} {txn : TxnId} {version : Version K V} :
    (version.deletedBy.all fun other => other ≠ txn && table.fate other ≠ .committed) = true ↔
      (version.deletedBy.any fun other => other = txn || table.fate other = .committed) = false := by
  cases version.deletedBy <;> simp

/-- What an open transaction sees still conflicts with its inserts. -/
theorem not_dead_of_sees {table : Table K V} {txn : TxnId} {version : Version K V} (opened : table.fate txn = .active)
    (seen : table.sees txn version = true) : table.dead txn version = false := by
  rw [sees, Bool.and_eq_true, undeleted_iff, Bool.or_eq_true, decide_eq_true_eq, decide_eq_true_eq] at seen
  rw [dead, Bool.or_eq_false_iff, decide_eq_false_iff_not]
  refine ⟨?_, seen.2⟩
  rcases seen.1 with own | done
  · rw [own, opened]
    decide
  · rw [done]
    decide

/-- A version that conflicts, with nothing left to wait for, is seen. -/
theorem sees_of_settled {table : Table K V} {txn : TxnId} {version : Version K V}
    (begun : table.fate version.insertedBy ≠ .unborn) (settled : table.inDoubt txn version = false)
    (alive : table.dead txn version = false) : table.sees txn version = true := by
  simp only [inDoubt, Bool.or_eq_false_iff, Bool.and_eq_false_iff, decide_eq_false_iff_not, not_not] at settled
  rw [dead, Bool.or_eq_false_iff, decide_eq_false_iff_not] at alive
  rw [sees, Bool.and_eq_true, undeleted_iff, Bool.or_eq_true, decide_eq_true_eq, decide_eq_true_eq]
  refine ⟨settled.1.imp_right fun closed => ?_, alive.2⟩
  cases fate : table.fate version.insertedBy with
  | unborn => exact absurd fate begun
  | active => exact absurd fate closed
  | committed => rfl
  | aborted => exact absurd fate alive.1

/-- Once nothing is left to wait for, a key is present exactly when the transaction sees a version of it. -/
theorem keyState_eq_present_iff [DecidableEq K] {table : Table K V} {txn : TxnId} {key : K} (opened : table.fate txn = .active)
    (authored : table.Authored) (settled : table.keyState txn key ≠ .wait) :
    table.keyState txn key = .present ↔ ∃ version ∈ table.versions, version.key = key ∧ table.sees txn version = true := by
  have clear : (table.rivals txn key).any (table.inDoubt txn) = false := by
    unfold keyState at settled
    split_ifs at settled with doubt
    · exact absurd rfl settled
    · exact Bool.eq_false_iff.mpr doubt
    · exact Bool.eq_false_iff.mpr doubt
  rw [keyState, clear]
  simp only [Bool.false_eq_true, ↓reduceIte, ite_eq_right_iff, reduceCtorEq, imp_false]
  constructor
  · intro present
    obtain ⟨version, rival⟩ := List.exists_mem_of_ne_nil _ present
    have doubtless := List.any_eq_false.mp clear version rival
    simp only [rivals, List.mem_filter, Bool.and_eq_true, decide_eq_true_eq, Bool.not_eq_true'] at rival
    exact ⟨version, rival.1, rival.2.1,
      sees_of_settled (authored version rival.1) (Bool.eq_false_iff.mpr doubtless) rival.2.2⟩
  · rintro ⟨version, member, named, seen⟩
    have rival : version ∈ table.rivals txn key := by
      simp only [rivals, List.mem_filter, Bool.and_eq_true, decide_eq_true_eq, Bool.not_eq_true']
      exact ⟨member, named, not_dead_of_sees opened seen⟩
    exact List.ne_nil_of_mem rival

/-- Deleting marks one version and leaves every value in place. -/
theorem deleteAt_getElem? (table : Table K V) (txn : TxnId) (position other : ℕ) :
    (table.deleteAt txn position).versions[other]? =
      table.versions[other]?.map fun version =>
        if position = other then { version with deletedBy := some txn } else version := by
  rw [deleteAt, List.getElem?_modify]
  by_cases same : position = other <;> simp [same]

/-- The versions of a table around one position, before and after its deletion. -/
theorem deleteAt_split {table : Table K V} {txn : TxnId} {position : ℕ} {version : Version K V}
    (present : table.versions[position]? = some version) :
    ∃ before after, table.versions = before ++ version :: after ∧
      (table.deleteAt txn position).versions = before ++ { version with deletedBy := some txn } :: after := by
  obtain ⟨inside, rfl⟩ := List.getElem?_eq_some_iff.mp present
  refine ⟨table.versions.take position, table.versions.drop (position + 1), ?_, ?_⟩
  · rw [List.getElem_cons_drop, List.take_append_drop]
  · exact List.modify_eq_take_cons_drop inside

/-- Every version stays at its position with its key and value, though it may come to be deleted. -/
def Kept (table next : Table K V) : Prop :=
  ∀ (position : ℕ) (version : Version K V), table.versions[position]? = some version →
    ∃ deleter, next.versions[position]? = some { version with deletedBy := deleter }

theorem Kept.refl (table : Table K V) : table.Kept table := fun _ version present => ⟨version.deletedBy, present⟩

theorem insert_kept (table : Table K V) (txn : TxnId) (key : K) (value : V) : table.Kept (table.insert txn key value) :=
  fun _ version present => ⟨version.deletedBy, List.getElem?_append_left (List.getElem?_eq_some_iff.mp present).1 ▸ present⟩

theorem resolve_kept (table : Table K V) (txn : TxnId) (fate : Fate) : table.Kept (table.resolve txn fate) :=
  fun _ version present => ⟨version.deletedBy, present⟩

theorem deleteAt_kept (table : Table K V) (txn : TxnId) (position : ℕ) : table.Kept (table.deleteAt txn position) := by
  intro other version present
  rw [deleteAt_getElem?, present]
  by_cases same : position = other
  · exact ⟨some txn, by simp [same]⟩
  · exact ⟨version.deletedBy, by simp [same]⟩

end Table

/-! ## The map behind a table -/

/-- The version cannot be seen any more: it was deleted, or its insertion was undone. -/
def Version.gone (fate : TxnId → Fate) (version : Version K V) : Bool :=
  version.deletedBy.isSome || fate version.insertedBy = .aborted

/-- The value a key maps to while no deletion is undone. -/
def Table.entry [DecidableEq K] (table : Table K V) (key : K) : Option V :=
  (table.versions.find? fun version => version.key = key && !version.gone table.fate).map (·.value)

/-- No deletion was undone unless the insertion was too, and a key has at most one version that is not gone. -/
structure Table.Solid (table : Table K V) : Prop where
  kept : ∀ version ∈ table.versions, ∀ txn ∈ version.deletedBy,
    table.fate txn = .active ∨ table.fate txn = .committed ∨ table.fate version.insertedBy = .aborted
  single : table.versions.Pairwise fun first second => first.key = second.key →
    first.gone table.fate = true ∨ second.gone table.fate = true

namespace Table.Solid

variable [DecidableEq K] {table : Table K V} {txn : TxnId}

omit [DecidableEq K] in
theorem same_value (solid : table.Solid) {first second : Version K V} (here : first ∈ table.versions)
    (there : second ∈ table.versions) (key : first.key = second.key) (live : first.gone table.fate = false)
    (live' : second.gone table.fate = false) : first = second := by
  by_contra different
  have symmetric : Std.Symm fun first second : Version K V => first.key = second.key →
      first.gone table.fate = true ∨ second.gone table.fate = true :=
    ⟨fun _ _ related key => (related key.symm).symm⟩
  rcases solid.single.forall here there different key with gone | gone
  · exact Bool.noConfusion (live.symm.trans gone)
  · exact Bool.noConfusion (live'.symm.trans gone)

theorem entry_eq_some_iff (solid : table.Solid) {key : K} {value : V} :
    table.entry key = some value ↔
      ∃ version ∈ table.versions, version.key = key ∧ version.gone table.fate = false ∧ version.value = value := by
  rw [entry, Option.map_eq_some_iff]
  constructor
  · rintro ⟨version, found, same⟩
    have holds := List.find?_some found
    simp only [Bool.and_eq_true, decide_eq_true_eq, Bool.not_eq_true'] at holds
    exact ⟨version, List.mem_of_find?_eq_some found, holds.1, holds.2, same⟩
  · rintro ⟨version, member, key_eq, live, same⟩
    obtain ⟨found, search⟩ : ∃ found, (table.versions.find? fun version =>
        version.key = key && !version.gone table.fate) = some found := by
      rw [← Option.isSome_iff_exists, List.find?_isSome]
      exact ⟨version, member, by simp [key_eq, live]⟩
    have holds := List.find?_some search
    simp only [Bool.and_eq_true, decide_eq_true_eq, Bool.not_eq_true'] at holds
    have only := solid.same_value (List.mem_of_find?_eq_some search) member (holds.1.trans key_eq.symm) holds.2 live
    exact ⟨found, search, only ▸ same⟩

theorem entry_eq_none_iff {key : K} :
    table.entry key = none ↔ ∀ version ∈ table.versions, version.key = key → version.gone table.fate = true := by
  rw [entry, Option.map_eq_none_iff, List.find?_eq_none]
  simp

omit [DecidableEq K] in
theorem gone_of_dead {version : Version K V} (finished : table.dead txn version = true) :
    version.gone table.fate = true := by
  rw [dead, Bool.or_eq_true] at finished
  rw [Version.gone, Bool.or_eq_true]
  rcases finished with undone | deleted
  · exact .inr undone
  · cases deleter : version.deletedBy with
    | none => simp [deleter] at deleted
    | some other => exact .inl rfl

/-- Under a free key an open transaction inserts the key's only entry. -/
theorem after_insert (solid : table.Solid) {key : K} (free : table.keyState txn key = .free)
    (opened : table.fate txn = .active) (value : V) :
    (table.insert txn key value).Solid ∧
      table.entry key = none ∧ (table.insert txn key value).entry = Function.update table.entry key (some value) := by
  have gone : ∀ version ∈ table.versions, version.key = key → version.gone table.fate = true :=
    fun version member same => gone_of_dead (keyState_eq_free_iff.mp free version member same)
  have fresh : table.entry key = none := entry_eq_none_iff.mpr gone
  have live : (⟨key, value, txn, none⟩ : Version K V).gone table.fate = false := by simp [Version.gone, opened]
  have next : (table.insert txn key value).Solid := by
    refine ⟨?_, ?_⟩
    · intro version member other deleter
      rcases List.mem_append.mp member with old | new
      · exact solid.kept version old other deleter
      · rw [List.mem_singleton.mp new] at deleter
        cases deleter
    · refine List.pairwise_append.mpr ⟨solid.single, List.pairwise_singleton .., ?_⟩
      intro version old latest new same
      rw [List.mem_singleton.mp new] at same
      exact .inl (gone version old same)
  refine ⟨next, fresh, ?_⟩
  funext other
  by_cases same : other = key
  · subst same
    rw [Function.update_self]
    exact next.entry_eq_some_iff.mpr ⟨_, List.mem_append_right _ (List.mem_singleton_self _), rfl, live, rfl⟩
  · rw [Function.update_of_ne same, entry, entry, insert, List.find?_append]
    simp [Ne.symm same]

omit [DecidableEq K] in
/-- What an open transaction sees and nobody has locked is not gone. -/
theorem live_of_sees (solid : table.Solid) {version : Version K V} (member : version ∈ table.versions)
    (opened : table.fate txn = .active) (seen : table.sees txn version = true)
    (unlocked : table.locked txn version = false) : version.gone table.fate = false := by
  simp only [sees, Bool.and_eq_true, Bool.or_eq_true, decide_eq_true_eq] at seen
  have inserted : table.fate version.insertedBy ≠ .aborted := by
    rcases seen.1 with own | done
    · rw [own, opened]
      decide
    · rw [done]
      decide
  have undeleted : version.deletedBy = none := by
    cases deleter : version.deletedBy with
    | none => rfl
    | some other =>
      have kept := solid.kept version member other deleter
      simp only [deleter, Option.all_some, Bool.and_eq_true, decide_eq_true_eq] at seen
      simp [locked, deleter, seen.2.1] at unlocked
      exact absurd kept (by simp [unlocked, seen.2.2, inserted])
  simp [Version.gone, undeleted, inserted]

omit [DecidableEq K] in
/-- An open transaction can delete any version. -/
theorem solid_deleteAt (solid : table.Solid) {position : ℕ} {version : Version K V}
    (present : table.versions[position]? = some version) (opened : table.fate txn = .active) :
    (table.deleteAt txn position).Solid := by
  obtain ⟨before, after, whole, deleted⟩ := @deleteAt_split _ _ table txn position version present
  have gone : ({ version with deletedBy := some txn } : Version K V).gone table.fate = true := rfl
  refine ⟨?_, ?_⟩
  · intro other found deleter named
    rw [deleted] at found
    rcases List.mem_append.mp found with early | late
    · exact solid.kept other (whole ▸ List.mem_append_left _ early) deleter named
    · rcases List.mem_cons.mp late with rfl | later
      · cases named
        exact .inl opened
      · exact solid.kept other (whole ▸ List.mem_append_right _ (List.mem_cons_of_mem _ later)) deleter named
  · have single := solid.single
    rw [whole, List.pairwise_append, List.pairwise_cons] at single
    rw [deleted, List.pairwise_append, List.pairwise_cons]
    refine ⟨single.1, ⟨fun _ _ _ => .inl gone, single.2.1.2⟩, fun early inside late found => ?_⟩
    rcases List.mem_cons.mp found with rfl | later
    · exact fun _ => .inr gone
    · exact single.2.2 early inside late (List.mem_cons_of_mem _ later)

/-- Deleting a version that is not gone empties its key. -/
theorem after_deleteAt (solid : table.Solid) {position : ℕ} {version : Version K V}
    (present : table.versions[position]? = some version) (live : version.gone table.fate = false)
    (opened : table.fate txn = .active) :
    (table.deleteAt txn position).Solid ∧ table.entry version.key = some version.value ∧
      (table.deleteAt txn position).entry = Function.update table.entry version.key none := by
  obtain ⟨before, after, whole, deleted⟩ := @deleteAt_split _ _ table txn position version present
  have member : version ∈ table.versions := List.mem_of_getElem? present
  have gone : ({ version with deletedBy := some txn } : Version K V).gone table.fate = true := rfl
  have next := solid_deleteAt solid present opened
  refine ⟨next, solid.entry_eq_some_iff.mpr ⟨version, member, rfl, live, rfl⟩, ?_⟩
  funext key
  by_cases same : key = version.key
  · rw [same, Function.update_self, entry_eq_none_iff, deleted]
    intro other found named
    have single := solid.single
    rw [whole, List.pairwise_append, List.pairwise_cons] at single
    rcases List.mem_append.mp found with early | late
    · exact (single.2.2 other early version (List.mem_cons_self ..) named).resolve_right (by simp [live])
    · rcases List.mem_cons.mp late with rfl | later
      · exact gone
      · exact (single.2.1.1 other later named.symm).resolve_left (by simp [live])
  · rw [Function.update_of_ne same]
    apply Option.ext
    intro value
    rw [next.entry_eq_some_iff, solid.entry_eq_some_iff, deleted, whole]
    have foreign : ∀ other : Version K V, other.key = key → other.key ≠ version.key := fun _ named => named ▸ same
    simp only [List.mem_append, List.mem_cons, deleteAt_fate]
    constructor
    · rintro ⟨other, found | rfl | found, named, rest⟩
      · exact ⟨other, .inl found, named, rest⟩
      · exact absurd rfl (foreign _ named)
      · exact ⟨other, .inr (.inr found), named, rest⟩
    · rintro ⟨other, found | rfl | found, named, rest⟩
      · exact ⟨other, .inl found, named, rest⟩
      · exact absurd rfl (foreign _ named)
      · exact ⟨other, .inr (.inr found), named, rest⟩

omit [DecidableEq K] in
/-- Only an abort changes what is gone. -/
theorem gone_resolve (opened : table.fate txn ≠ .aborted) {fate : Fate} (survives : fate ≠ .aborted)
    (version : Version K V) : version.gone (table.resolve txn fate).fate = version.gone table.fate := by
  by_cases own : version.insertedBy = txn
  · simp [Version.gone, resolve, own, opened, survives]
  · simp [Version.gone, resolve, Function.update_of_ne own]

omit [DecidableEq K] in
theorem gone_abort {version : Version K V} (gone : version.gone table.fate = true) :
    version.gone (table.resolve txn .aborted).fate = true := by
  by_cases own : version.insertedBy = txn
  · simp [Version.gone, resolve, own]
  · simpa [Version.gone, resolve, Function.update_of_ne own] using gone

omit [DecidableEq K] in
/-- The deletions of other transactions stay what they were. -/
theorem kept_of_ne (solid : table.Solid) {fate : Fate} (mild : table.fate txn ≠ .aborted ∨ fate = .aborted)
    {version : Version K V} (member : version ∈ table.versions) {deleter : TxnId} (named : deleter ∈ version.deletedBy)
    (other : deleter ≠ txn) :
    (table.resolve txn fate).fate deleter = .active ∨ (table.resolve txn fate).fate deleter = .committed ∨
      (table.resolve txn fate).fate version.insertedBy = .aborted := by
  have same : (table.resolve txn fate).fate deleter = table.fate deleter := Function.update_of_ne other ..
  rw [same]
  refine (solid.kept version member deleter named).imp_right (Or.imp_right fun undone => ?_)
  by_cases own : version.insertedBy = txn
  · rw [own] at undone ⊢
    exact (Function.update_self ..).trans (mild.resolve_left (not_not.mpr undone))
  · exact (Function.update_of_ne own ..).trans undone

/-- Beginning or committing a transaction changes no entry. -/
theorem after_resolve (solid : table.Solid) (opened : table.fate txn ≠ .aborted) {fate : Fate}
    (going : fate = .active ∨ fate = .committed) :
    (table.resolve txn fate).Solid ∧ (table.resolve txn fate).entry = table.entry := by
  have survives : fate ≠ .aborted := by rcases going with rfl | rfl <;> decide
  refine ⟨⟨fun version member deleter named => ?_, ?_⟩, ?_⟩
  · by_cases own : deleter = txn
    · have now : (table.resolve txn fate).fate deleter = fate := own ▸ Function.update_self ..
      rw [now]
      exact going.imp_right .inl
    · exact solid.kept_of_ne (.inl opened) member named own
  · simpa only [gone_resolve opened survives, resolve_versions] using solid.single
  · funext key
    simp only [entry, gone_resolve opened survives, resolve_versions]

/-- Aborting a transaction that deleted nothing but its own versions only loses the entries it inserted. -/
theorem after_abort (solid : table.Solid)
    (innocent : ∀ version ∈ table.versions, version.deletedBy = some txn → version.insertedBy = txn) :
    (table.resolve txn .aborted).Solid ∧
      ∀ key, (table.resolve txn .aborted).entry key = table.entry key ∨ (table.resolve txn .aborted).entry key = none := by
  have next : (table.resolve txn .aborted).Solid := by
    refine ⟨fun version member deleter named => ?_, ?_⟩
    · by_cases own : deleter = txn
      · have inserted := innocent version member (own ▸ named)
        exact .inr (.inr (inserted ▸ Function.update_self ..))
      · exact solid.kept_of_ne (.inr rfl) member named own
    · exact solid.single.imp fun related same => (related same).imp gone_abort gone_abort
  refine ⟨next, fun key => ?_⟩
  cases found : (table.resolve txn .aborted).entry key with
  | none => exact .inr rfl
  | some value =>
    obtain ⟨version, member, named, live, same⟩ := next.entry_eq_some_iff.mp found
    refine .inl (solid.entry_eq_some_iff.mpr ⟨version, member, named, ?_, same⟩).symm
    by_contra gone
    rw [Bool.not_eq_false] at gone
    exact Bool.noConfusion (live.symm.trans (gone_abort gone))

end Table.Solid

/-! ## Clean steps -/

open SingleUse

/-- What transactions do to a table when none that deleted something aborts, with the operation on
the map behind it. -/
inductive Table.CleanStep [DecidableEq K] : Table K V → Option (Op K V) → Table K V → Prop where
  | rest {table : Table K V} : CleanStep table none table
  | insert {table : Table K V} {txn : TxnId} {key : K} {value : V} :
      table.fate txn = .active → table.keyState txn key = .free →
      CleanStep table (some (.put key value)) (table.insert txn key value)
  | delete {table : Table K V} {txn : TxnId} {position : ℕ} {version : Version K V} :
      table.fate txn = .active → table.versions[position]? = some version → table.sees txn version = true →
      table.locked txn version = false →
      CleanStep table (some (.take version.key version.value)) (table.deleteAt txn position)
  | resolve {table : Table K V} {txn : TxnId} {fate : Fate} :
      table.fate txn ≠ .aborted → fate = .active ∨ fate = .committed → CleanStep table none (table.resolve txn fate)
  | abort {table : Table K V} {txn : TxnId} :
      (∀ version ∈ table.versions, version.deletedBy = some txn → version.insertedBy = txn) →
      CleanStep table none (table.resolve txn .aborted)

/-- Clean steps act on the map behind the table as the operations they perform. -/
theorem Table.Solid.history [DecidableEq K] {E : Type*} {op : E → Option (Op K V)} {initial : K → Option V}
    {events : List E} {event : E} {table next : Table K V} (solid : table.Solid)
    (history : History op initial events table.entry) (step : CleanStep table (op event) next) :
    next.Solid ∧ History op initial (events ++ [event]) next.entry := by
  generalize performed : op event = operation at step
  cases step with
  | rest => exact ⟨solid, history.skip performed⟩
  | insert opened free =>
    obtain ⟨kept, fresh, entries⟩ := solid.after_insert free opened _
    exact ⟨kept, entries ▸ history.put performed fresh⟩
  | delete opened present seen unlocked =>
    have live := solid.live_of_sees (List.mem_of_getElem? present) opened seen unlocked
    obtain ⟨kept, found, entries⟩ := solid.after_deleteAt present live opened
    exact ⟨kept, entries ▸ history.take performed found⟩
  | resolve opened going =>
    obtain ⟨kept, entries⟩ := solid.after_resolve opened going
    exact ⟨kept, entries ▸ history.skip performed⟩
  | abort innocent =>
    obtain ⟨kept, entries⟩ := solid.after_abort innocent
    exact ⟨kept, history.lose performed entries⟩

end Mvcc
