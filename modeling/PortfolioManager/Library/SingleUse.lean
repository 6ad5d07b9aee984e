import Mathlib.Data.Set.Function
import Mathlib.Logic.Function.Basic

/-! # Keyed entries that can be used once

A history puts entries under free keys and takes them away again, among other events. Every
take can be traced back to the put of the entry it took, and no put answers two takes: the
entry is gone until its key is put again.
-/

namespace SingleUse

universe u v w

variable {E : Type u} {K : Type v} {V : Type w}

inductive Op (K : Type v) (V : Type w) where
  | put (key : K) (value : V)
  | take (key : K) (value : V)

variable [DecidableEq K]

/-- Histories whose puts find their key free and whose takes find their entry, with the entries
before and after. Events outside `op` may lose entries but never add one. -/
inductive History (op : E → Option (Op K V)) (initial : K → Option V) : List E → (K → Option V) → Prop where
  | empty : History op initial [] initial
  | lose {events : List E} {entries next : K → Option V} {event : E} :
      History op initial events entries → op event = none → (∀ key, next key = entries key ∨ next key = none) →
      History op initial (events ++ [event]) next
  | put {events : List E} {entries : K → Option V} {event : E} {key : K} {value : V} :
      History op initial events entries → op event = some (.put key value) → entries key = none →
      History op initial (events ++ [event]) (Function.update entries key (some value))
  | take {events : List E} {entries : K → Option V} {event : E} {key : K} {value : V} :
      History op initial events entries → op event = some (.take key value) → entries key = some value →
      History op initial (events ++ [event]) (Function.update entries key none)

theorem History.skip {op : E → Option (Op K V)} {initial : K → Option V} {events : List E} {entries : K → Option V}
    {event : E} (history : History op initial events entries) (ignored : op event = none) :
    History op initial (events ++ [event]) entries :=
  history.lose ignored fun _ => .inl rfl

variable {op : E → Option (Op K V)}

/-- The operation at a position of a history. -/
def opAt (op : E → Option (Op K V)) (events : List E) (position : ℕ) : Option (Op K V) :=
  events[position]?.bind op

def Takes (op : E → Option (Op K V)) (events : List E) : Set ℕ :=
  {position | ∃ key value, opAt op events position = some (.take key value)}

omit [DecidableEq K] in
theorem opAt_lt {events : List E} {position : ℕ} {found : Op K V} (at_position : opAt op events position = some found) :
    position < events.length := by
  obtain ⟨_, present, _⟩ := Option.bind_eq_some_iff.mp at_position
  exact (List.getElem?_eq_some_iff.mp present).1

omit [DecidableEq K] in
theorem opAt_append_of_lt {events : List E} (event : E) {position : ℕ} (inside : position < events.length) :
    opAt op (events ++ [event]) position = opAt op events position := by
  rw [opAt, opAt, List.getElem?_append_left inside]

omit [DecidableEq K] in
/-- An operation stays where it is when the history goes on. -/
theorem opAt_append_of_eq_some {events : List E} (event : E) {position : ℕ} {found : Op K V}
    (at_position : opAt op events position = some found) : opAt op (events ++ [event]) position = some found :=
  (opAt_append_of_lt event (opAt_lt at_position)).trans at_position

omit [DecidableEq K] in
theorem opAt_append_self (events : List E) (event : E) : opAt op (events ++ [event]) events.length = op event := by
  rw [opAt, List.getElem?_concat_length, Option.bind_some]

omit [DecidableEq K] in
/-- An operation of an extended history is an old one or the new one. -/
theorem opAt_append_cases {events : List E} {event : E} {position : ℕ} {found : Op K V}
    (at_position : opAt op (events ++ [event]) position = some found) :
    opAt op events position = some found ∨ position = events.length ∧ op event = some found := by
  have inside := opAt_lt at_position
  rw [List.length_append, List.length_singleton] at inside
  rcases Nat.lt_succ_iff_lt_or_eq.mp inside with old | rfl
  · exact .inl (opAt_append_of_lt event old ▸ at_position)
  · exact .inr ⟨rfl, (opAt_append_self events event).symm.trans at_position⟩

/-- A pairing of takes with earlier puts that leaves the puts of present entries unused. -/
structure Pairing (op : E → Option (Op K V)) (events : List E) (entries : K → Option V) (origin : ℕ → ℕ) : Prop where
  matched : ∀ position key value, opAt op events position = some (.take key value) →
    origin position < position ∧ opAt op events (origin position) = some (.put key value)
  injective : Set.InjOn origin (Takes op events)
  unused : ∀ key value, entries key = some value → ∃ position, opAt op events position = some (.put key value) ∧
    ∀ other ∈ Takes op events, origin other ≠ position

omit [DecidableEq K] in
/-- An event that is no take leaves the pairing as it is. -/
theorem Pairing.extend {events : List E} {entries : K → Option V} {origin : ℕ → ℕ}
    (pairing : Pairing op events entries origin) (event : E) (quiet : ∀ key value, op event ≠ some (.take key value)) :
    Pairing op (events ++ [event]) entries origin := by
  have old {position : ℕ} {key : K} {value : V}
      (taken : opAt op (events ++ [event]) position = some (.take key value)) :
      opAt op events position = some (.take key value) := by
    rcases opAt_append_cases taken with old | ⟨_, new⟩
    · exact old
    · exact absurd new (quiet key value)
  have takes : Takes op (events ++ [event]) ⊆ Takes op events := fun _ ⟨key, value, taken⟩ => ⟨key, value, old taken⟩
  refine ⟨fun position key value taken => ?_, pairing.injective.mono takes, fun key value present => ?_⟩
  · obtain ⟨earlier, put⟩ := pairing.matched position key value (old taken)
    exact ⟨earlier, opAt_append_of_eq_some event put⟩
  · obtain ⟨position, put, free⟩ := pairing.unused key value present
    exact ⟨position, opAt_append_of_eq_some event put, fun other taken => free other (takes taken)⟩

/-- A put under a free key adds an unused put. -/
theorem Pairing.put {events : List E} {entries : K → Option V} {origin : ℕ → ℕ} (pairing : Pairing op events entries origin)
    {event : E} {key : K} {value : V} (named : op event = some (.put key value)) :
    Pairing op (events ++ [event]) (Function.update entries key (some value)) origin := by
  have extended := pairing.extend event (by simp [named])
  refine ⟨extended.matched, extended.injective, fun other found present => ?_⟩
  by_cases same : other = key
  · subst same
    rw [Function.update_self] at present
    cases present
    refine ⟨events.length, (opAt_append_self events event).trans named, ?_⟩
    rintro position ⟨_, _, taken⟩ reached
    have earlier := (extended.matched _ _ _ taken).1
    rcases opAt_append_cases taken with old | ⟨_, new⟩
    · exact absurd (opAt_lt old) (by omega)
    · rw [named] at new
      cases new
  · rw [Function.update_of_ne same] at present
    exact extended.unused other found present

omit [DecidableEq K] in
theorem takes_append_cases {events : List E} {event : E} {position : ℕ} (taken : position ∈ Takes op (events ++ [event])) :
    position ∈ Takes op events ∧ position < events.length ∨ position = events.length := by
  obtain ⟨_, _, taken⟩ := taken
  rcases opAt_append_cases taken with old | ⟨new, _⟩
  · exact .inl ⟨⟨_, _, old⟩, opAt_lt old⟩
  · exact .inr new

/-- A take is paired with an unused put of its entry. -/
theorem Pairing.take {events : List E} {entries : K → Option V} {origin : ℕ → ℕ} (pairing : Pairing op events entries origin)
    {event : E} {key : K} {value : V} {source : ℕ} (named : op event = some (.take key value))
    (put : opAt op events source = some (.put key value)) (free : ∀ other ∈ Takes op events, origin other ≠ source) :
    Pairing op (events ++ [event]) (Function.update entries key none) (Function.update origin events.length source) := by
  refine ⟨?_, ?_, ?_⟩
  · intro position other found taken
    rcases opAt_append_cases taken with old | ⟨rfl, new⟩
    · have inside := opAt_lt old
      rw [Function.update_of_ne (by omega)]
      obtain ⟨earlier, matched⟩ := pairing.matched _ _ _ old
      exact ⟨earlier, opAt_append_of_eq_some event matched⟩
    · rw [named] at new
      cases new
      rw [Function.update_self]
      exact ⟨opAt_lt put, opAt_append_of_eq_some event put⟩
  · intro first first_taken second second_taken same
    rcases takes_append_cases first_taken with ⟨first_old, first_inside⟩ | rfl <;>
      rcases takes_append_cases second_taken with ⟨second_old, second_inside⟩ | rfl
    · rw [Function.update_of_ne first_inside.ne, Function.update_of_ne second_inside.ne] at same
      exact pairing.injective first_old second_old same
    · rw [Function.update_of_ne first_inside.ne, Function.update_self] at same
      exact absurd same (free first first_old)
    · rw [Function.update_of_ne second_inside.ne, Function.update_self] at same
      exact absurd same.symm (free second second_old)
    · rfl
  · intro other found left
    have different : other ≠ key := by
      rintro rfl
      rw [Function.update_self] at left
      contradiction
    rw [Function.update_of_ne different] at left
    obtain ⟨position, put', free'⟩ := pairing.unused other found left
    refine ⟨position, opAt_append_of_eq_some event put', fun taken member => ?_⟩
    rcases takes_append_cases member with ⟨taken_old, inside⟩ | rfl
    · rw [Function.update_of_ne (by omega)]
      exact free' taken taken_old
    · rw [Function.update_self]
      rintro rfl
      rw [put] at put'
      cases put'
      exact different rfl

/-- Every take of a history that starts empty has its own earlier put of the same key and value. -/
theorem History.exists_pairing {events : List E} {entries : K → Option V}
    (history : History op (fun _ => none) events entries) : ∃ origin, Pairing op events entries origin := by
  induction history with
  | empty =>
    refine ⟨id, ?_, ?_, ?_⟩
    · intro position key value taken
      simp [opAt] at taken
    · rintro position ⟨key, value, taken⟩
      simp [opAt] at taken
    · intro key value present
      contradiction
  | @lose _ _ _ event _ ignored kept ih =>
    obtain ⟨origin, pairing⟩ := ih
    have extended := pairing.extend event (by simp [ignored])
    refine ⟨origin, extended.matched, extended.injective, fun key value present => ?_⟩
    rcases kept key with same | lost
    · exact extended.unused key value (same ▸ present)
    · rw [lost] at present
      contradiction
  | put _ named fresh ih =>
    obtain ⟨origin, pairing⟩ := ih
    exact ⟨origin, pairing.put named⟩
  | take _ named present ih =>
    obtain ⟨origin, pairing⟩ := ih
    obtain ⟨source, put, free⟩ := pairing.unused _ _ present
    exact ⟨_, pairing.take named put free⟩

/-- After a take, the key stays free until the next put of it. -/
theorem History.free_after_take {initial : K → Option V} {events : List E} {entries : K → Option V}
    (history : History op initial events entries) {first : ℕ} {key : K} {value : V}
    (taken : opAt op events first = some (.take key value))
    (quiet : ∀ position value, first < position → opAt op events position ≠ some (.put key value)) :
    entries key = none := by
  induction history with
  | empty => simp [opAt] at taken
  | @lose events entries next event _ ignored kept ih =>
    rcases opAt_append_cases taken with old | ⟨_, new⟩
    · have free := ih old fun position value later put => quiet position value later (opAt_append_of_eq_some event put)
      rcases kept key with same | lost
      · exact same.trans free
      · exact lost
    · rw [ignored] at new
      contradiction
  | @put events entries event other found _ named fresh ih =>
    rcases opAt_append_cases taken with old | ⟨_, new⟩
    · have free := ih old fun position value later put => quiet position value later (opAt_append_of_eq_some event put)
      by_cases same : key = other
      · exact absurd ((opAt_append_self events event).trans (same ▸ named)) (quiet _ _ (opAt_lt old))
      · rw [Function.update_of_ne same]
        exact free
    · rw [named] at new
      cases new
  | @take events entries event other found _ named present ih =>
    rcases opAt_append_cases taken with old | ⟨_, new⟩
    · have free := ih old fun position value later put => quiet position value later (opAt_append_of_eq_some event put)
      by_cases same : key = other
      · rw [same, Function.update_self]
      · rw [Function.update_of_ne same]
        exact free
    · rw [named] at new
      cases new
      rw [Function.update_self]

/-- A put of the key lies strictly between two positions. -/
def PutBetween (op : E → Option (Op K V)) (events : List E) (key : K) (first second : ℕ) : Prop :=
  ∃ between value, first < between ∧ between < second ∧ opAt op events between = some (.put key value)

omit [DecidableEq K] in
theorem PutBetween.extend {events : List E} {key : K} {first second : ℕ} (found : PutBetween op events key first second)
    (event : E) : PutBetween op (events ++ [event]) key first second := by
  obtain ⟨between, value, after, before, put⟩ := found
  exact ⟨between, value, after, before, opAt_append_of_eq_some event put⟩

/-- Between two takes of one key lies a put of it. -/
theorem History.put_between {initial : K → Option V} {events : List E} {entries : K → Option V}
    (history : History op initial events entries) {first second : ℕ} {key : K} {value value' : V}
    (order : first < second) (taken : opAt op events first = some (.take key value))
    (again : opAt op events second = some (.take key value')) : PutBetween op events key first second := by
  induction history with
  | empty => simp [opAt] at taken
  | @lose events _ _ event _ ignored _ ih =>
    rcases opAt_append_cases again with old | ⟨_, new⟩
    · rw [opAt_append_of_lt event (order.trans (opAt_lt old))] at taken
      exact (ih taken old).extend event
    · rw [ignored] at new
      contradiction
  | @put events _ event _ _ _ named _ ih =>
    rcases opAt_append_cases again with old | ⟨_, new⟩
    · rw [opAt_append_of_lt event (order.trans (opAt_lt old))] at taken
      exact (ih taken old).extend event
    · rw [named] at new
      cases new
  | @take events _ event _ _ history named present ih =>
    rcases opAt_append_cases again with old | ⟨rfl, new⟩
    · rw [opAt_append_of_lt event (order.trans (opAt_lt old))] at taken
      exact (ih taken old).extend event
    · rw [named] at new
      cases new
      rw [opAt_append_of_lt event order] at taken
      by_contra none
      have free := history.free_after_take taken fun position value later put =>
        none ⟨position, value, later, opAt_lt put, opAt_append_of_eq_some event put⟩
      rw [free] at present
      contradiction

end SingleUse
