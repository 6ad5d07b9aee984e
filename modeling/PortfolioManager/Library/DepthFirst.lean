import Mathlib.Data.Finset.Card
import Mathlib.Data.List.Chain
import Mathlib.Logic.Relation

/-! # Depth-first search with an open path

A depth-first search for cycles keeps two sets: the vertices on the path it is on, and those it is
done with. Whatever the order of its visits and however it stores the sets, it is correct if each
move is one of the rules below: a vertex is entered along an edge, left once all its successors
are done, and a vertex met again on the open path closes a cycle.
-/

namespace DepthFirst

open Relation

variable {V : Type*} {edge : V → V → Prop} {path : List V} {done : Set V} {vertex : V}

/-- The open path is a walk without repetition, and what is done can reach neither the path nor a cycle. -/
structure Frontier (edge : V → V → Prop) (path : List V) (done : Set V) : Prop where
  walk : path.IsChain edge
  single : path.Nodup
  apart : ∀ vertex ∈ path, vertex ∉ done
  closed : ∀ vertex ∈ done, ∀ next, edge vertex next → next ∈ done
  acyclic : ∀ vertex ∈ done, ¬TransGen edge vertex vertex

/-- The vertex can be visited from the open path: an edge leads to it from the path's end, if there is one. -/
def Linked (edge : V → V → Prop) (path : List V) (vertex : V) : Prop := ∀ last ∈ path.getLast?, edge last vertex

/-- A walk whose last vertex occurs in it before. -/
structure Closes (edge : V → V → Prop) (walk : List V) : Prop where
  chained : walk.IsChain edge
  revisits : ∃ before last, walk = before ++ [last] ∧ last ∈ before

theorem isChain_concat (walk : path.IsChain edge) (linked : Linked edge path vertex) : (path ++ [vertex]).IsChain edge := by
  apply walk.append (List.isChain_singleton vertex)
  intro last isLast first isFirst
  cases isFirst
  exact linked last isLast

/-- A chain relates each of its elements to all later ones through the transitive closure. -/
theorem transGen_of_isChain {walk : List V} (walks : walk.IsChain edge) : walk.Pairwise (TransGen edge) := by
  rw [← List.isChain_iff_pairwise]
  exact walks.imp fun _ _ step => .single step

theorem Closes.exists_cycle {walk : List V} (closes : Closes edge walk) : ∃ vertex, TransGen edge vertex vertex := by
  obtain ⟨before, last, rfl, again⟩ := closes.revisits
  have later := (List.pairwise_append.mp (transGen_of_isChain closes.chained)).2.2
  exact ⟨last, later last again last (List.mem_singleton_self last)⟩

/-- What can be reached from a closed set lies in it. -/
theorem mem_of_transGen {vertex last : V} (closed : ∀ vertex ∈ done, ∀ next, edge vertex next → next ∈ done)
    (member : vertex ∈ done) (reached : TransGen edge vertex last) : last ∈ done := by
  induction reached with
  | single step => exact closed vertex member _ step
  | tail _ step ih => exact closed _ ih _ step

open Classical in
/-- A finite graph without cycles has layers: every edge leads to a lower one. -/
theorem exists_rank (vertices : Finset V) (within : ∀ vertex next, edge vertex next → next ∈ vertices)
    (acyclic : ∀ vertex, ¬TransGen edge vertex vertex) :
    ∃ rank : V → ℕ, (∀ vertex next, edge vertex next → rank next < rank vertex) ∧
      ∀ vertex ∈ vertices, rank vertex < vertices.card := by
  refine ⟨fun vertex => (vertices.filter (TransGen edge vertex)).card, fun vertex next step => ?_, fun vertex member => ?_⟩
  · apply Finset.card_lt_card
    rw [Finset.ssubset_iff_of_subset]
    · exact ⟨next, Finset.mem_filter.mpr ⟨within vertex next step, .single step⟩, fun again =>
        acyclic next (Finset.mem_filter.mp again).2⟩
    · intro last reached
      obtain ⟨inside, path⟩ := Finset.mem_filter.mp reached
      exact Finset.mem_filter.mpr ⟨inside, .head step path⟩
  · apply Finset.card_lt_card
    rw [Finset.ssubset_iff_of_subset (Finset.filter_subset ..)]
    exact ⟨vertex, member, fun again => acyclic vertex (Finset.mem_filter.mp again).2⟩

namespace Frontier

theorem start : Frontier edge [] ∅ where
  walk := .nil
  single := .nil
  apart := by simp
  closed := by simp
  acyclic := by simp

/-- A new vertex is put on the path. -/
theorem enter (frontier : Frontier edge path done) (linked : Linked edge path vertex) (fresh : vertex ∉ path)
    (undone : vertex ∉ done) : Frontier edge (path ++ [vertex]) done where
  walk := isChain_concat frontier.walk linked
  single := List.nodup_append.mpr ⟨frontier.single, List.nodup_singleton vertex, by
    rintro first member last singleton rfl
    rw [List.mem_singleton.mp singleton] at member
    exact fresh member⟩
  apart := by
    intro other member
    rcases List.mem_append.mp member with old | new
    · exact frontier.apart other old
    · rw [List.mem_singleton.mp new]
      exact undone
  closed := frontier.closed
  acyclic := frontier.acyclic

/-- The last vertex of the path is done when all its successors are. -/
theorem leave (frontier : Frontier edge (path ++ [vertex]) done) (finished : ∀ next, edge vertex next → next ∈ done) :
    Frontier edge path (insert vertex done) where
  walk := frontier.walk.left_of_append
  single := (List.nodup_append.mp frontier.single).1
  apart := by
    intro other member
    have different := (List.nodup_append.mp frontier.single).2.2 other member vertex (List.mem_singleton_self vertex)
    have undone := frontier.apart other (List.mem_append_left _ member)
    simp [different, undone]
  closed := by
    rintro other (rfl | member) next step
    · exact .inr (finished next step)
    · exact .inr (frontier.closed other member next step)
  acyclic := by
    rintro other (rfl | member) cycle
    · obtain ⟨next, step, reached⟩ := TransGen.head'_iff.mp cycle
      have undone := frontier.apart other (List.mem_append_right _ (List.mem_singleton_self other))
      rcases reflTransGen_iff_eq_or_transGen.mp reached with rfl | reached
      · exact undone (finished _ step)
      · exact undone (mem_of_transGen frontier.closed (finished next step) reached)
    · exact frontier.acyclic other member cycle

/-- A vertex met again on the path closes a cycle. -/
theorem closes (frontier : Frontier edge path done) (linked : Linked edge path vertex) (again : vertex ∈ path) :
    Closes edge (path ++ [vertex]) :=
  ⟨isChain_concat frontier.walk linked, path, vertex, rfl, again⟩

/-- Once every vertex with a successor is done, there is no cycle anywhere. -/
theorem acyclic_of_done (frontier : Frontier edge path done) (all : ∀ vertex next, edge vertex next → vertex ∈ done)
    (vertex : V) : ¬TransGen edge vertex vertex := by
  intro cycle
  obtain ⟨next, step, _⟩ := TransGen.head'_iff.mp cycle
  exact frontier.acyclic vertex (all vertex next step) cycle

/-- The path is no longer than the graph is large. -/
theorem length_le [DecidableEq V] (frontier : Frontier edge path done) {vertices : Finset V}
    (within : ∀ vertex ∈ path, vertex ∈ vertices) : path.length ≤ vertices.card := by
  rw [← List.toFinset_card_of_nodup frontier.single]
  apply Finset.card_le_card
  intro vertex member
  exact within vertex (List.mem_toFinset.mp member)

end Frontier

end DepthFirst
