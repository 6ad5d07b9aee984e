import Mathlib.Data.List.Induction
import Mathlib.Tactic.Common

/-! # Labelled runs

A run is a list of labels, oldest first, together with the state it leads to. Statements about
whole runs are proved by naming what one step preserves; statements about two moments of one run
split its labels at the earlier moment.
-/

namespace Runs

universe u v

variable {S : Type u} {L : Type v} {step : S → L → S → Prop} {initial : S}

inductive Run (step : S → L → S → Prop) (initial : S) : List L → S → Prop where
  | start : Run step initial [] initial
  | snoc {labels : List L} {state next : S} {label : L} :
      Run step initial labels state → step state label next → Run step initial (labels ++ [label]) next

namespace Run

/-- What holds at the start and survives every step of a run holds at its end. -/
theorem invariant {I : List L → S → Prop} (base : I [] initial)
    (preserved : ∀ labels state label next, Run step initial labels state → I labels state →
      step state label next → I (labels ++ [label]) next)
    {labels : List L} {state : S} (run : Run step initial labels state) : I labels state := by
  induction run with
  | start => exact base
  | snoc run move ih => exact preserved _ _ _ _ run ih move

theorem nil_iff {state : S} : Run step initial [] state ↔ state = initial := by
  constructor
  · intro run
    generalize empty : ([] : List L) = labels at run
    cases run with
    | start => rfl
    | snoc => simp at empty
  · rintro rfl
    exact .start

theorem concat_iff {labels : List L} {label : L} {next : S} :
    Run step initial (labels ++ [label]) next ↔ ∃ state, Run step initial labels state ∧ step state label next := by
  constructor
  · intro run
    generalize whole : labels ++ [label] = labels' at run
    cases run with
    | start => simp at whole
    | snoc earlier move =>
      obtain ⟨rfl, same⟩ := List.append_inj' whole rfl
      cases same
      exact ⟨_, earlier, move⟩
  · rintro ⟨state, run, move⟩
    exact run.snoc move

/-- Steps that leave no choice lead every run of the same labels to the same state. -/
theorem unique (determined : ∀ state label next next', step state label next → step state label next' → next = next')
    {labels : List L} {state state' : S} (run : Run step initial labels state) (run' : Run step initial labels state') :
    state = state' := by
  induction run generalizing state' with
  | start => exact (nil_iff.mp run').symm
  | snoc run move ih =>
    obtain ⟨before, earlier, move'⟩ := concat_iff.mp run'
    obtain rfl := ih earlier
    exact determined _ _ _ _ move move'

/-- Runs compose at the state they share, and every run can be cut at each of its moments. -/
theorem append_iff {before after : List L} {last : S} :
    Run step initial (before ++ after) last ↔
      ∃ middle, Run step initial before middle ∧ Run step middle after last := by
  induction after using List.reverseRecOn generalizing last with
  | nil => simp [nil_iff]
  | append_singleton labels label ih =>
    rw [← List.append_assoc, concat_iff]
    constructor
    · rintro ⟨state, run, move⟩
      obtain ⟨middle, first, rest⟩ := ih.mp run
      exact ⟨middle, first, rest.snoc move⟩
    · rintro ⟨middle, first, rest⟩
      obtain ⟨state, rest, move⟩ := concat_iff.mp rest
      exact ⟨state, ih.mpr ⟨middle, first, rest⟩, move⟩

theorem cons_iff {label : L} {labels : List L} {last : S} :
    Run step initial (label :: labels) last ↔ ∃ next, step initial label next ∧ Run step next labels last := by
  rw [← List.singleton_append, append_iff]
  constructor
  · rintro ⟨next, first, rest⟩
    obtain ⟨state, empty, move⟩ := concat_iff.mp (List.nil_append [label] ▸ first)
    obtain rfl := nil_iff.mp empty
    exact ⟨next, move, rest⟩
  · rintro ⟨next, move, rest⟩
    exact ⟨next, Run.start.snoc move, rest⟩

/-- The moment just before a label of a run, and the rest of the run after it. -/
theorem split {before after : List L} {label : L} {last : S}
    (run : Run step initial (before ++ label :: after) last) :
    ∃ state next, Run step initial before state ∧ step state label next ∧ Run step next after last := by
  obtain ⟨state, earlier, later⟩ := append_iff.mp run
  obtain ⟨next, move, rest⟩ := cons_iff.mp later
  exact ⟨state, next, earlier, move, rest⟩

end Run

end Runs
