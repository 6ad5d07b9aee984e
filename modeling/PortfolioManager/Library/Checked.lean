import Mathlib.Tactic.Common

/-! # Validators that return their evidence

A constructor that validates its arguments is a chain of checks in `Except`. Each check returns
the proof it established, so the value at the end of the chain can carry its invariant as a
field. The rewriting rules below peel such a chain from either end.
-/

namespace Checked

universe u v

variable {ε : Type u} {α β : Type v}

/-- Succeed with evidence for the proposition, or raise. -/
def check (p : Prop) [Decidable p] (error : ε) : Except ε (PLift p) :=
  if holds : p then .ok ⟨holds⟩ else .error error

theorem check_of {p : Prop} [Decidable p] (error : ε) (holds : p) : check p error = .ok ⟨holds⟩ :=
  dif_pos holds

theorem check_of_not {p : Prop} [Decidable p] (error : ε) (fails : ¬p) : check p error = .error error :=
  dif_neg fails

@[simp] theorem ok_bind (value : α) (next : α → Except ε β) : (Except.ok value >>= next) = next value := rfl

@[simp] theorem error_bind (raised : ε) (next : α → Except ε β) :
    ((Except.error raised : Except ε α) >>= next) = .error raised := rfl

/-- A chain succeeds exactly when its first link does and the rest succeeds on its result. -/
theorem bind_eq_ok_iff {first : Except ε α} {next : α → Except ε β} {result : β} :
    (first >>= next) = .ok result ↔ ∃ value, first = .ok value ∧ next value = .ok result := by
  cases first with
  | error raised => simp
  | ok value => simp

/-- A chain that starts with a check succeeds exactly when the check holds and the rest succeeds. -/
theorem check_bind_eq_ok_iff {p : Prop} [Decidable p] {γ : Type} {error : ε} {next : PLift p → Except ε γ}
    {result : γ} :
    (check p error >>= next) = .ok result ↔ ∃ holds : p, next ⟨holds⟩ = .ok result := by
  by_cases holds : p
  · rw [check_of error holds, ok_bind]
    exact ⟨fun accepted => ⟨holds, accepted⟩, fun ⟨_, accepted⟩ => accepted⟩
  · rw [check_of_not error holds, error_bind]
    exact ⟨nofun, fun ⟨holds', _⟩ => absurd holds' holds⟩

@[simp] theorem pure_eq_ok_iff {value result : α} :
    (pure value : Except ε α) = .ok result ↔ value = result := by
  simp [pure, Except.pure]

theorem mapError_eq_ok_iff {translate : ε → δ} {computation : Except ε α} {value : α} :
    computation.mapError translate = .ok value ↔ computation = .ok value := by
  cases computation with
  | error error => exact iff_of_false nofun nofun
  | ok result => simp [Except.mapError]

/-- A chain that starts with a validation succeeds exactly when it passes and the rest succeeds. -/
theorem unit_bind_eq_ok_iff {γ : Type} {validation : Except ε Unit} {next : Unit → Except ε γ} {result : γ} :
    (validation >>= next) = .ok result ↔ validation = .ok () ∧ next () = .ok result := by
  cases validation with
  | error error => exact iff_of_false nofun fun passed => nomatch passed.1
  | ok _ => exact ⟨fun accepted => ⟨rfl, accepted⟩, And.right⟩

/-- Run a validation and keep the fact that it passed. -/
def passing (validation : Except ε Unit) : Except ε (PLift (validation = .ok ())) :=
  match validation with
  | .ok () => .ok ⟨rfl⟩
  | .error error => .error error

theorem passing_of {validation : Except ε Unit} (passed : validation = .ok ()) : passing validation = .ok ⟨passed⟩ := by
  subst passed
  rfl

/-- A loop of validations succeeds exactly when each of them does. -/
theorem forM_eq_ok_iff {action : α → Except ε PUnit} {items : List α} :
    items.forM action = .ok () ↔ ∀ item ∈ items, action item = .ok () := by
  induction items with
  | nil => simp [pure, Except.pure]
  | cons item rest ih =>
    change (action item >>= fun _ => rest.forM action) = .ok () ↔ _
    rw [bind_eq_ok_iff, List.forall_mem_cons, ← ih]
    exact ⟨fun ⟨_, first, others⟩ => ⟨first, others⟩, fun ⟨first, others⟩ => ⟨(), first, others⟩⟩

/-- Every error the computation can end in is an allowed one. -/
def Raises (computation : Except ε α) (allowed : ε → Prop) : Prop := ∀ raised, computation = .error raised → allowed raised

section Raises

variable {allowed : ε → Prop}

@[simp] theorem raises_ok (value : α) : Raises (.ok value) allowed := nofun

@[simp] theorem raises_pure (value : α) : Raises (pure value) allowed := raises_ok value

@[simp] theorem raises_error_iff {error : ε} : Raises (.error error : Except ε α) allowed ↔ allowed error := by
  constructor
  · exact fun raises => raises error rfl
  · rintro permitted raised failed
    cases failed
    exact permitted

theorem raises_check {p : Prop} [Decidable p] {error : ε} (permitted : allowed error) : Raises (check p error) allowed := by
  by_cases holds : p
  · rw [check_of error holds]
    exact raises_ok _
  · rw [check_of_not error holds]
    exact raises_error_iff.mpr permitted

/-- A chain raises what its first link raises, or the rest after it. -/
theorem raises_bind_iff {first : Except ε α} {next : α → Except ε β} :
    Raises (first >>= next) allowed ↔ Raises first allowed ∧ ∀ value, first = .ok value → Raises (next value) allowed := by
  cases first with
  | error error => simp
  | ok value => simp

theorem Raises.bind {first : Except ε α} {next : α → Except ε β} (head : Raises first allowed)
    (tail : ∀ value, first = .ok value → Raises (next value) allowed) : Raises (first >>= next) allowed :=
  raises_bind_iff.mpr ⟨head, tail⟩

theorem raises_foldlM {items : List α} {next : β → α → Except ε β}
    (each : ∀ item ∈ items, ∀ value, Raises (next value item) allowed) (value : β) :
    Raises (items.foldlM next value) allowed := by
  induction items generalizing value with
  | nil => exact raises_ok value
  | cons item rest ih =>
    rw [List.forall_mem_cons] at each
    rw [List.foldlM_cons]
    exact Raises.bind (each.1 value) fun value _ => ih each.2 value

theorem raises_forM {items : List α} {action : α → Except ε PUnit}
    (each : ∀ item ∈ items, Raises (action item) allowed) : Raises (items.forM action) allowed := by
  induction items with
  | nil => exact raises_ok PUnit.unit
  | cons item rest ih =>
    rw [List.forall_mem_cons] at each
    exact Raises.bind each.1 fun _ _ => ih each.2

end Raises

/-- Validate a value that may be absent. -/
def whenPresent (validate : α → Except ε β) : Option α → Except ε (Option β)
  | none => .ok none
  | some value => (validate value).map some

theorem whenPresent_some_eq_ok_iff {validate : α → Except ε β} {value : α} {result : Option β} :
    whenPresent validate (some value) = .ok result ↔ ∃ valid, validate value = .ok valid ∧ some valid = result := by
  cases validated : validate value with
  | error raised => simp [whenPresent, validated, Except.map]
  | ok valid => simp [whenPresent, validated, Except.map]

/-- A validation that relates two views of its argument and its result does so where both may be absent. -/
theorem whenPresent_eq_ok_iff {γ : Type*} {validate : α → Except ε β} {given : α → γ} {kept : β → γ}
    (each : ∀ value valid, validate value = .ok valid ↔ given value = kept valid) {value : Option α} {result : Option β} :
    whenPresent validate value = .ok result ↔ value.map given = result.map kept := by
  cases value with
  | none => cases result <;> simp [whenPresent]
  | some value =>
    rw [whenPresent_some_eq_ok_iff, Option.map_some, eq_comm, Option.map_eq_some_iff]
    constructor
    · rintro ⟨valid, validated, rfl⟩
      exact ⟨valid, rfl, ((each value valid).mp validated).symm⟩
    · rintro ⟨valid, rfl, same⟩
      exact ⟨valid, (each value valid).mpr same.symm, rfl⟩

end Checked
