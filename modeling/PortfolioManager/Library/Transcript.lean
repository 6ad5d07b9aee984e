import Mathlib.Data.List.Infix
import Mathlib.Data.List.Nodup

/-! # Conversations with a stateful peer

An oracle answers each query from a hidden state, so an answer may depend on every earlier
query. `converse` asks a list of queries in order and stops after the first answer that tells
it to. The transcript of such a conversation is determined by the oracle and the queries alone,
which makes it the reference against which a loop that interleaves its own bookkeeping with the
queries can be compared.
-/

namespace Transcript

variable {σ Q R : Type*}

abbrev Oracle (σ Q R : Type*) := σ → Q → R × σ

/-- The peer's state together with every exchange so far, oldest first. -/
structure Log (σ Q R : Type*) where
  state : σ
  entries : List (Q × R)

/-- Ask one query and record the exchange. -/
def Log.ask (log : Log σ Q R) (oracle : Oracle σ Q R) (query : Q) : R × Log σ Q R :=
  ((oracle log.state query).1, ⟨(oracle log.state query).2, log.entries ++ [(query, (oracle log.state query).1)]⟩)

/-- Extend a log by a finished conversation. -/
def Log.extend (log : Log σ Q R) (talk : List (Q × R) × σ) : Log σ Q R := ⟨talk.2, log.entries ++ talk.1⟩

/-- Ask the queries in order, up to and including the first answer that stops. -/
def converse (oracle : Oracle σ Q R) (stops : R → Bool) : List Q → σ → List (Q × R) × σ
  | [], state => ([], state)
  | query :: rest, state =>
      let (answer, next) := oracle state query
      if stops answer then ([(query, answer)], next)
      else
        let (entries, last) := converse oracle stops rest next
        ((query, answer) :: entries, last)

variable {oracle : Oracle σ Q R} {stops : R → Bool}

@[simp] theorem converse_nil (state : σ) : converse oracle stops [] state = ([], state) := rfl

theorem converse_cons_of_stops {query : Q} {rest : List Q} {state : σ}
    (stop : stops (oracle state query).1 = true) :
    converse oracle stops (query :: rest) state =
      ([(query, (oracle state query).1)], (oracle state query).2) := by
  simp only [converse, stop, ↓reduceIte]

theorem converse_cons_of_not_stops {query : Q} {rest : List Q} {state : σ}
    (goes : stops (oracle state query).1 = false) :
    converse oracle stops (query :: rest) state =
      ((query, (oracle state query).1) :: (converse oracle stops rest (oracle state query).2).1,
        (converse oracle stops rest (oracle state query).2).2) := by
  simp only [converse, goes, Bool.false_eq_true, ↓reduceIte]

/-- Nothing is asked out of order and nothing is skipped. -/
theorem converse_queries_isPrefix (queries : List Q) (state : σ) :
    ((converse oracle stops queries state).1.map Prod.fst) <+: queries := by
  induction queries generalizing state with
  | nil => simp
  | cons query rest ih =>
    cases stop : stops (oracle state query).1 with
    | true => simp [converse_cons_of_stops stop]
    | false => simpa [converse_cons_of_not_stops stop] using ih _

/-- Every recorded answer is the oracle's, from the state it was asked in. -/
theorem converse_answers {queries : List Q} {state : σ} {entry : Q × R}
    (member : entry ∈ (converse oracle stops queries state).1) :
    ∃ reached, entry.2 = (oracle reached entry.1).1 := by
  induction queries generalizing state with
  | nil => simp at member
  | cons query rest ih =>
    cases head : stops (oracle state query).1 with
    | true =>
      rw [converse_cons_of_stops head] at member
      rw [List.mem_singleton.mp member]
      exact ⟨state, rfl⟩
    | false =>
      rw [converse_cons_of_not_stops head] at member
      rcases List.mem_cons.mp member with rfl | later
      · exact ⟨state, rfl⟩
      · exact ih later

/-- An answer that stops is the last of its conversation. -/
theorem converse_stop_last {queries : List Q} {state : σ} {before after : List (Q × R)} {entry : Q × R}
    (split : (converse oracle stops queries state).1 = before ++ entry :: after)
    (stop : stops entry.2 = true) : after = [] := by
  induction queries generalizing state before with
  | nil => simp at split
  | cons query rest ih =>
    cases head : stops (oracle state query).1 with
    | true =>
      rw [converse_cons_of_stops head] at split
      cases before with
      | nil => exact (List.cons.inj split).2.symm
      | cons other before => simp at split
    | false =>
      rw [converse_cons_of_not_stops head] at split
      cases before with
      | nil =>
        have same := (List.cons.inj split).1
        rw [← same, head] at stop
        contradiction
      | cons other before => exact ih (List.cons.inj split).2

/-- A conversation without a stopping answer asks everything. -/
theorem converse_complete {queries : List Q} {state : σ}
    (goes : ∀ entry ∈ (converse oracle stops queries state).1, stops entry.2 = false) :
    (converse oracle stops queries state).1.map Prod.fst = queries := by
  induction queries generalizing state with
  | nil => rfl
  | cons query rest ih =>
    cases head : stops (oracle state query).1 with
    | true =>
      rw [converse_cons_of_stops head] at goes
      have contra := goes _ (List.mem_singleton_self _)
      rw [head] at contra
      contradiction
    | false =>
      rw [converse_cons_of_not_stops head] at goes ⊢
      rw [List.map_cons, ih (fun entry member => goes entry (List.mem_cons_of_mem _ member))]

/-- A conversation over two lists continues into the second exactly when the first never stopped. -/
theorem converse_append_of_goes {first second : List Q} {state : σ}
    (goes : ∀ entry ∈ (converse oracle stops first state).1, stops entry.2 = false) :
    converse oracle stops (first ++ second) state =
      ((converse oracle stops first state).1 ++
          (converse oracle stops second (converse oracle stops first state).2).1,
        (converse oracle stops second (converse oracle stops first state).2).2) := by
  induction first generalizing state with
  | nil => simp
  | cons query rest ih =>
    cases head : stops (oracle state query).1 with
    | true =>
      rw [converse_cons_of_stops head] at goes
      have contra := goes _ (List.mem_singleton_self _)
      rw [head] at contra
      contradiction
    | false =>
      rw [converse_cons_of_not_stops head] at goes
      rw [List.cons_append, converse_cons_of_not_stops head, converse_cons_of_not_stops head,
        ih (fun entry member => goes entry (List.mem_cons_of_mem _ member))]
      rfl

theorem converse_append_of_stops {first second : List Q} {state : σ}
    (stopped : ∃ entry ∈ (converse oracle stops first state).1, stops entry.2 = true) :
    converse oracle stops (first ++ second) state = converse oracle stops first state := by
  induction first generalizing state with
  | nil => simp at stopped
  | cons query rest ih =>
    cases head : stops (oracle state query).1 with
    | true => rw [List.cons_append, converse_cons_of_stops head, converse_cons_of_stops head]
    | false =>
      rw [converse_cons_of_not_stops head] at stopped
      obtain ⟨entry, member, stop⟩ := stopped
      rcases List.mem_cons.mp member with rfl | later
      · rw [head] at stop
        contradiction
      · rw [List.cons_append, converse_cons_of_not_stops head, converse_cons_of_not_stops head,
          ih ⟨entry, later, stop⟩]

/-- A conversation goes on in the same way under a test that agrees on its answers. -/
theorem converse_congr {other : R → Bool} {queries : List Q} {state : σ}
    (same : ∀ entry ∈ (converse oracle stops queries state).1, other entry.2 = stops entry.2) :
    converse oracle other queries state = converse oracle stops queries state := by
  induction queries generalizing state with
  | nil => rfl
  | cons query rest ih =>
    cases head : stops (oracle state query).1 with
    | true =>
      rw [converse_cons_of_stops head] at same
      have first := same _ (List.mem_singleton_self _)
      rw [converse_cons_of_stops head, converse_cons_of_stops (first.trans head)]
    | false =>
      rw [converse_cons_of_not_stops head] at same
      have first := same _ (List.mem_cons_self ..)
      rw [converse_cons_of_not_stops head, converse_cons_of_not_stops (first.trans head),
        ih fun entry member => same entry (List.mem_cons_of_mem _ member)]

/-- An oracle is stateless when its answers depend on the query alone. -/
def Stateless (oracle : Oracle σ Q R) (answer : Q → R) : Prop :=
  ∀ state query, (oracle state query).1 = answer query

/-- Keep a list up to and including its first element that satisfies the predicate. -/
def takeThrough (p : Q → Bool) : List Q → List Q
  | [] => []
  | query :: rest => if p query then [query] else query :: takeThrough p rest

/-- The transcript of a stateless oracle is read off the queries. -/
theorem converse_stateless {answer : Q → R} (stateless : Stateless oracle answer)
    (queries : List Q) (state : σ) :
    (converse oracle stops queries state).1 =
      (takeThrough (fun query => stops (answer query)) queries).map fun query => (query, answer query) := by
  induction queries generalizing state with
  | nil => rfl
  | cons query rest ih =>
    have same := stateless state query
    cases head : stops (answer query) with
    | true => simp [converse_cons_of_stops (same ▸ head), takeThrough, head, same]
    | false => simp [converse_cons_of_not_stops (same ▸ head), takeThrough, head, same, ih]

/-- Among the kept elements only the last can be a hit. -/
theorem filterMap_takeThrough {p : Q → Bool} {f : Q → Option R} (agree : ∀ query, (f query).isSome = p query)
    (queries : List Q) : (takeThrough p queries).filterMap f = (queries.findSome? f).toList := by
  induction queries with
  | nil => rfl
  | cons query rest ih =>
    have same := agree query
    cases found : f query with
    | none =>
      rw [found, Option.isSome_none] at same
      simp [takeThrough, ← same, found, ih]
    | some value =>
      rw [found, Option.isSome_some] at same
      simp [takeThrough, ← same, found]

theorem mem_of_mem_takeThrough {p : Q → Bool} {queries : List Q} {query : Q}
    (member : query ∈ takeThrough p queries) : query ∈ queries := by
  induction queries with
  | nil => exact member
  | cons head rest ih =>
    rw [takeThrough] at member
    split at member
    · exact List.mem_cons.mpr (Or.inl (List.mem_singleton.mp member))
    · exact List.mem_cons.mpr ((List.mem_cons.mp member).imp id ih)

end Transcript
