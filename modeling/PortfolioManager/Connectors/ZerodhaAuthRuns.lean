import PortfolioManager.Connectors.ZerodhaAuth
import PortfolioManager.Library.Runs
import PortfolioManager.Library.SingleUse

/-! # Concurrent logins

Any number of `start` and `complete` calls share one nonce store, and a scheduler interleaves
their segments. A step performs one segment of one call and labels the run with what that
segment did, so a run is the list of everything that happened, in order. Clock readings, nonces
and exchange outcomes are arbitrary at every step.
-/

namespace PortfolioManager.Connectors.Zerodha.KiteAuthorizationService

open PortfolioManager.Python PortfolioManager.Domain PortfolioManager.Application Checked Runs SingleUse

abbrev CallId := ℕ

/-- Where a call stands: before its first segment, between two segments with the data it holds, or done. -/
inductive Phase where
  | idle
  | starting (request : StartRequest)
  | issuing (request : StartRequest) (now : Instant) (authorization : PendingKiteAuthorization)
  | completing (request : CompleteRequest)
  | checking (request : CompleteRequest) (authorization : PendingKiteAuthorization)
  | exchanging (request : CompleteRequest) (authorization : PendingKiteAuthorization)
  | ended

/-- What one segment of a call read of its clock and did. -/
inductive Event where
  | startValidated (call : CallId) (request : StartRequest) (outcome : Except Raised Unit)
  | startTimed (call : CallId) (request : StartRequest) (reading : Datetime)
      (outcome : Except Raised (Instant × PendingKiteAuthorization))
  | issued (call : CallId) (request : StartRequest) (now : Instant) (authorization : PendingKiteAuthorization)
      (outcome : Except Raised Unit)
  | completeValidated (call : CallId) (request : CompleteRequest) (outcome : Except Raised Unit)
  | consumed (call : CallId) (request : CompleteRequest) (found : Option PendingKiteAuthorization)
  | expiryChecked (call : CallId) (request : CompleteRequest) (reading : Datetime) (outcome : Except Raised Instant)
  | exchanged (call : CallId) (request : CompleteRequest) (outcome : Except Raised KiteAuthorizationResult)

structure World (S : Type*) where
  store : S
  phase : CallId → Phase

variable {S : Type*} {store : KiteNonceStore S}

def World.enter (world : World S) (call : CallId) (phase : Phase) : World S :=
  { world with phase := Function.update world.phase call phase }

/-- A call goes on with the value of a segment, or ends with what it raised. -/
def Phase.after {α : Type} (outcome : Except Raised α) (next : α → Phase) : Phase :=
  match outcome with
  | .ok value => next value
  | .error _ => .ended

/-- One segment of one call. -/
inductive Step (store : KiteNonceStore S) : World S → Event → World S → Prop where
  | startValidated {world : World S} {call : CallId} (request : StartRequest) :
      world.phase call = .idle →
      Step store world (.startValidated call request (validateStart request))
        (world.enter call (.after (validateStart request) fun _ => .starting request))
  | startTimed {world : World S} {call : CallId} {request : StartRequest} (reading : Datetime) :
      world.phase call = .starting request →
      Step store world (.startTimed call request reading (authorize request reading))
        (world.enter call (.after (authorize request reading) fun timed => .issuing request timed.1 timed.2))
  | issued {world : World S} {call : CallId} {request : StartRequest} {now : Instant}
      {authorization : PendingKiteAuthorization} :
      world.phase call = .issuing request now authorization →
      Step store world (.issued call request now authorization (store.issue authorization world.store).1)
        (World.enter { world with store := (store.issue authorization world.store).2 } call .ended)
  | completeValidated {world : World S} {call : CallId} (request : CompleteRequest) :
      world.phase call = .idle →
      Step store world (.completeValidated call request (validateComplete request))
        (world.enter call (.after (validateComplete request) fun _ => .completing request))
  | consumed {world : World S} {call : CallId} {request : CompleteRequest} :
      world.phase call = .completing request →
      Step store world (.consumed call request (store.consume (digest request.state) world.store).1)
        (World.enter { world with store := (store.consume (digest request.state) world.store).2 } call
          (.after (acceptConsumed (store.consume (digest request.state) world.store).1) (.checking request)))
  | expiryChecked {world : World S} {call : CallId} {request : CompleteRequest}
      {authorization : PendingKiteAuthorization} (reading : Datetime) :
      world.phase call = .checking request authorization →
      Step store world (.expiryChecked call request reading (checkExpiry authorization reading))
        (world.enter call (.after (checkExpiry authorization reading) fun _ => .exchanging request authorization))
  | exchanged {world : World S} {call : CallId} {request : CompleteRequest}
      {authorization : PendingKiteAuthorization} (outcome : Except Raised KiteSession) :
      world.phase call = .exchanging request authorization →
      Step store world (.exchanged call request (outcome.map (resultOf authorization))) (world.enter call .ended)

namespace Event

def call : Event → CallId
  | startValidated call .. | startTimed call .. | issued call .. | completeValidated call ..
  | consumed call .. | expiryChecked call .. | exchanged call .. => call

/-- How far into its call an event lies. -/
def stage : Event → ℕ
  | startValidated .. | completeValidated .. => 0
  | startTimed .. | consumed .. => 1
  | issued .. | expiryChecked .. => 2
  | exchanged .. => 3

/-- The store operation an event performed on the pending entries. -/
def op : Event → Option (Op String PendingKiteAuthorization)
  | issued _ _ _ authorization (.ok _) => some (.put authorization.nonceDigest authorization)
  | consumed _ request (some authorization) => some (.take (digest request.state) authorization)
  | _ => none

end Event

/-- The stage of the next event of a call. -/
def Phase.stage : Phase → ℕ
  | idle => 0
  | starting _ | completing _ => 1
  | issuing .. | checking .. => 2
  | exchanging .. => 3
  | ended => 4

@[simp] theorem enter_store (world : World S) (call : CallId) (phase : Phase) :
    (world.enter call phase).store = world.store := rfl

@[simp] theorem enter_phase_self (world : World S) (call : CallId) (phase : Phase) :
    (world.enter call phase).phase call = phase := Function.update_self ..

@[simp] theorem enter_phase_of_ne {call other : CallId} (different : other ≠ call) (world : World S) (phase : Phase) :
    (world.enter call phase).phase other = world.phase other := Function.update_of_ne different ..

theorem after_stage_lt {α : Type} {outcome : Except Raised α} {next : α → Phase} {bound : ℕ}
    (early : bound < 4) (later : ∀ value, bound < (next value).stage) : bound < (Phase.after outcome next).stage := by
  cases outcome with
  | ok value => exact later value
  | error raised => exact early

/-- A call that enters a later phase through one of its events, whatever happens to the store. -/
private theorem enter_stage {world touched : World S} {event : Event} {phase next : Phase}
    (untouched : touched.phase = world.phase) (held : world.phase event.call = phase) (here : event.stage = phase.stage)
    (later : event.stage < next.stage) :
    event.stage = (world.phase event.call).stage ∧
      event.stage < ((touched.enter event.call next).phase event.call).stage ∧
      ∀ call ≠ event.call, (touched.enter event.call next).phase call = world.phase call := by
  rw [held, enter_phase_self, ← untouched]
  exact ⟨here, later, fun call other => enter_phase_of_ne other ..⟩

/-- A step is the next event of its call and leaves the other calls alone. -/
theorem step_stage {world next : World S} {event : Event} (step : Step store world event next) :
    event.stage = (world.phase event.call).stage ∧ event.stage < (next.phase event.call).stage ∧
      ∀ call ≠ event.call, next.phase call = world.phase call := by
  cases step with
  | startValidated _ idle =>
    apply enter_stage rfl idle rfl
    exact after_stage_lt (by simp [Event.stage]) fun _ => Nat.one_pos
  | startTimed _ held =>
    apply enter_stage rfl held rfl
    exact after_stage_lt (by simp [Event.stage]) fun _ => Nat.one_lt_two
  | issued held =>
    apply enter_stage rfl held rfl
    simp [Event.stage, Phase.stage]
  | completeValidated _ idle =>
    apply enter_stage rfl idle rfl
    exact after_stage_lt (by simp [Event.stage]) fun _ => Nat.one_pos
  | consumed held =>
    apply enter_stage rfl held rfl
    exact after_stage_lt (by simp [Event.stage]) fun _ => Nat.one_lt_two
  | expiryChecked _ held =>
    apply enter_stage rfl held rfl
    exact after_stage_lt (by simp [Event.stage]) fun _ => Nat.lt_succ_self 2
  | exchanged _ held =>
    apply enter_stage rfl held rfl
    simp [Event.stage, Phase.stage]

/-! ## Runs -/

/-- No call has begun. -/
def World.initial (state : S) : World S := ⟨state, fun _ => .idle⟩

/-- The events of each call come in the order of its segments, and its phase is past them. -/
structure Ordered (events : List Event) (world : World S) : Prop where
  ascending : events.Pairwise fun earlier later => earlier.call = later.call → earlier.stage < later.stage
  past : ∀ event ∈ events, event.stage < (world.phase event.call).stage

theorem run_ordered {state : S} {events : List Event} {world : World S}
    (run : Run (Step store) (World.initial state) events world) : Ordered events world := by
  refine Run.invariant (I := Ordered) ⟨.nil, by simp⟩ ?_ run
  intro events world event next _ ordered step
  obtain ⟨here, later, others⟩ := step_stage step
  refine ⟨List.pairwise_append.mpr ⟨ordered.ascending, List.pairwise_singleton .., ?_⟩, ?_⟩
  · intro earlier member latest singleton same
    rw [List.mem_singleton.mp singleton] at same ⊢
    rw [here, ← same]
    exact ordered.past earlier member
  · intro other member
    rcases List.mem_append.mp member with old | new
    · by_cases same : other.call = event.call
      · have earlier := ordered.past other old
        rw [same] at earlier ⊢
        omega
      · rw [others _ same]
        exact ordered.past other old
    · rw [List.mem_singleton.mp new]
      exact later

/-- Two events of one call and one stage are the same moment of the run. -/
theorem Ordered.position_unique {events : List Event} {world : World S} (ordered : Ordered events world)
    {first second : ℕ} {event other : Event} (here : events[first]? = some event) (there : events[second]? = some other)
    (call : event.call = other.call) (stage : event.stage = other.stage) : first = second := by
  have before {left right : ℕ} {event other : Event} (here : events[left]? = some event)
      (there : events[right]? = some other) (call : event.call = other.call) (stage : event.stage = other.stage) :
      ¬left < right := by
    intro earlier
    obtain ⟨inside, rfl⟩ := List.getElem?_eq_some_iff.mp here
    obtain ⟨inside', rfl⟩ := List.getElem?_eq_some_iff.mp there
    have ascending := List.pairwise_iff_getElem.mp ordered.ascending left right inside inside' earlier call
    omega
  have forward := before here there call stage
  have backward := before there here call.symm stage.symm
  omega

/-- What an entry records of the start that issued it. -/
structure Authorizes (request : StartRequest) (now : Instant) (authorization : PendingKiteAuthorization) : Prop where
  tenant : authorization.tenantId = request.tenantId
  connection : authorization.connectionId = request.connectionId
  nonce : authorization.nonceDigest = digest request.nonce
  expiry : authorization.expiresAt.micros = now.micros + nonceTtl

/-- A start builds its entry exactly when the clock dates it. -/
theorem authorize_eq_ok_iff {request : StartRequest} {reading : Datetime} {now : Instant}
    {authorization : PendingKiteAuthorization} :
    authorize request reading = .ok (now, authorization) ↔
      asUtc reading "clock value" = .ok now ∧ Authorizes request now authorization := by
  constructor
  · intro made
    rw [authorize, lift_eq_ok_iff] at made
    obtain ⟨_, read, made⟩ := bind_eq_ok_iff.mp made
    obtain ⟨expiresAt, added, made⟩ := bind_eq_ok_iff.mp made
    obtain ⟨_, built, made⟩ := bind_eq_ok_iff.mp made
    cases pure_eq_ok_iff.mp made
    obtain ⟨tenant, connection, nonce, expiry⟩ := PendingKiteAuthorization.new_eq_ok built
    rw [asUtc_toDatetime, Except.ok.injEq] at expiry
    exact ⟨read, tenant, connection, nonce, expiry ▸ Instant.add_eq_ok_iff.mp added⟩
  · rintro ⟨read, tenant, connection, nonce, expiry⟩
    rw [authorize_of_reading read (Instant.add_eq_ok_iff.mpr expiry)]
    obtain ⟨_, _, _, _, _⟩ := authorization
    subst tenant connection nonce
    rfl

theorem checkExpiry_eq_ok_iff {authorization : PendingKiteAuthorization} {reading : Datetime} {now : Instant} :
    checkExpiry authorization reading = .ok now ↔
      asUtc reading "clock value" = .ok now ∧ now < authorization.expiresAt := by
  simp only [checkExpiry, bind_eq_ok_iff, lift_eq_ok_iff]
  constructor
  · rintro ⟨time, read, decided⟩
    split_ifs at decided with late
    · exact absurd decided raiseConnectorError_ne_ok
    · cases pure_eq_ok_iff.mp decided
      exact ⟨read, not_le.mp late⟩
  · rintro ⟨read, early⟩
    refine ⟨now, read, ?_⟩
    rw [if_neg (not_le.mpr early)]
    rfl

/-- The data a phase holds comes from the call's own earlier segments. -/
def Phase.Evidenced (events : List Event) (call : CallId) : Phase → Prop
  | issuing request now authorization => ∃ reading, .startTimed call request reading (.ok (now, authorization)) ∈ events
  | checking request authorization => .consumed call request (some authorization) ∈ events
  | exchanging request authorization => .consumed call request (some authorization) ∈ events
  | _ => True

theorem Phase.Evidenced.mono {events : List Event} {call : CallId} {phase : Phase} (evidenced : phase.Evidenced events call)
    (event : Event) : phase.Evidenced (events ++ [event]) call := by
  cases phase with
  | issuing =>
    obtain ⟨reading, member⟩ := evidenced
    exact ⟨reading, List.mem_append_left _ member⟩
  | checking => exact List.mem_append_left _ evidenced
  | exchanging => exact List.mem_append_left _ evidenced
  | _ => trivial

theorem step_evidenced {events : List Event} {world next : World S} {event : Event}
    (step : Step store world event next) (evidenced : (world.phase event.call).Evidenced events event.call) :
    (next.phase event.call).Evidenced (events ++ [event]) event.call := by
  cases step with
  | @startValidated call request idle =>
    rw [Event.call, enter_phase_self]
    cases validateStart request <;> trivial
  | @startTimed call request reading held =>
    rw [Event.call, enter_phase_self]
    cases made : authorize request reading with
    | error raised => trivial
    | ok timed => exact ⟨reading, List.mem_append_right _ (List.mem_singleton_self _)⟩
  | issued held =>
    rw [Event.call, enter_phase_self]
    trivial
  | @completeValidated call request idle =>
    rw [Event.call, enter_phase_self]
    cases validateComplete request <;> trivial
  | @consumed call request held =>
    rw [Event.call, enter_phase_self]
    cases found : (store.consume (digest request.state) world.store).1 with
    | none => trivial
    | some authorization => exact List.mem_append_right _ (List.mem_singleton_self _)
  | @expiryChecked call request authorization reading held =>
    rw [Event.call, held] at evidenced
    rw [Event.call, enter_phase_self]
    cases checkExpiry authorization reading with
    | error raised => trivial
    | ok now => exact List.mem_append_left _ evidenced
  | exchanged _ held =>
    rw [Event.call, enter_phase_self]
    trivial

theorem run_evidenced {state : S} {events : List Event} {world : World S}
    (run : Run (Step store) (World.initial state) events world) (call : CallId) :
    (world.phase call).Evidenced events call := by
  induction run with
  | start => trivial
  | @snoc events world next event _ step ih =>
    by_cases same : call = event.call
    · exact same ▸ step_evidenced step (same ▸ ih)
    · rw [(step_stage step).2.2 call same]
      exact ih.mono event

/-- The pending entries of a run are those its events put and did not take. -/
theorem run_history {pending : S → String → Option PendingKiteAuthorization} (contract : store.Contract pending)
    {state : S} (empty : pending state = fun _ => none) {events : List Event} {world : World S}
    (run : Run (Step store) (World.initial state) events world) : History Event.op (fun _ => none) events (pending world.store) := by
  induction run with
  | start => exact empty ▸ .empty
  | @snoc events world next event _ step ih =>
    cases step with
    | startValidated => exact ih.skip rfl
    | startTimed => exact ih.skip rfl
    | @issued call request now authorization held =>
      cases outcome : (store.issue authorization world.store).1 with
      | ok value =>
        obtain ⟨free, added⟩ := contract.issued authorization world.store outcome
        exact added ▸ ih.put rfl free
      | error raised =>
        exact (contract.refused authorization world.store raised outcome) ▸ ih.skip rfl
    | completeValidated => exact ih.skip rfl
    | @consumed call request held =>
      obtain ⟨found, removed⟩ := contract.consumed (digest request.state) world.store
      cases entry : (store.consume (digest request.state) world.store).1 with
      | none =>
        have unchanged : Function.update (pending world.store) (digest request.state) none = pending world.store := by
          rw [Function.update_eq_self_iff, ← found, entry]
        rw [World.enter, removed, unchanged]
        exact ih.skip rfl
      | some authorization => exact removed ▸ ih.take rfl (found ▸ entry)
    | expiryChecked => exact ih.skip rfl
    | exchanged => exact ih.skip rfl

/-! ## What each event tells -/

theorem step_startTimed {world next : World S} {call : CallId} {request : StartRequest} {reading : Datetime}
    {outcome : Except Raised (Instant × PendingKiteAuthorization)}
    (step : Step store world (.startTimed call request reading outcome) next) : authorize request reading = outcome := by
  cases step with
  | startTimed _ held => rfl

theorem step_issued {world next : World S} {call : CallId} {request : StartRequest} {now : Instant}
    {authorization : PendingKiteAuthorization} {outcome : Except Raised Unit}
    (step : Step store world (.issued call request now authorization outcome) next) :
    world.phase call = .issuing request now authorization := by
  cases step with
  | issued held => exact held

theorem step_expiryChecked {world next : World S} {call : CallId} {request : CompleteRequest} {reading : Datetime}
    {now : Instant} (step : Step store world (.expiryChecked call request reading (.ok now)) next) :
    ∃ authorization, world.phase call = .checking request authorization ∧
      asUtc reading "clock value" = .ok now ∧ now < authorization.expiresAt := by
  generalize same : Event.expiryChecked call request reading (.ok now) = event at step
  cases step with
  | expiryChecked _ held =>
    obtain ⟨rfl, rfl, rfl, fresh⟩ := Event.expiryChecked.inj same
    exact ⟨_, held, checkExpiry_eq_ok_iff.mp fresh.symm⟩
  | _ => cases same

theorem step_exchanged {world next : World S} {call : CallId} {request : CompleteRequest}
    {result : KiteAuthorizationResult} (step : Step store world (.exchanged call request (.ok result)) next) :
    ∃ authorization session, world.phase call = .exchanging request authorization ∧
      result = resultOf authorization session := by
  generalize same : Event.exchanged call request (.ok result) = event at step
  cases step with
  | @exchanged _ _ authorization outcome held =>
    obtain ⟨rfl, rfl, returned⟩ := Event.exchanged.inj same
    cases outcome with
    | error raised => cases returned
    | ok session => exact ⟨authorization, session, held, Except.ok.inj returned⟩
  | _ => cases same

variable {state : S} {events : List Event} {world : World S}

/-- A call that issues an entry built it before, from a reading of its clock. -/
theorem issued_timed (run : Run (Step store) (World.initial state) events world) {call : CallId} {request : StartRequest}
    {now : Instant} {authorization : PendingKiteAuthorization} {outcome : Except Raised Unit}
    (member : .issued call request now authorization outcome ∈ events) :
    ∃ reading, .startTimed call request reading (.ok (now, authorization)) ∈ events ∧
      asUtc reading "clock value" = .ok now ∧ Authorizes request now authorization := by
  obtain ⟨before, after, rfl⟩ := List.append_of_mem member
  obtain ⟨_, _, earlier, step, _⟩ := run.split
  have evidenced := run_evidenced earlier call
  rw [step_issued step] at evidenced
  obtain ⟨reading, timed⟩ := evidenced
  obtain ⟨first, rest, rfl⟩ := List.append_of_mem timed
  obtain ⟨_, _, _, step', _⟩ := earlier.split
  exact ⟨reading, List.mem_append_left _ timed, authorize_eq_ok_iff.mp (step_startTimed step')⟩

theorem issued_authorizes (run : Run (Step store) (World.initial state) events world) {call : CallId}
    {request : StartRequest} {now : Instant} {authorization : PendingKiteAuthorization} {outcome : Except Raised Unit}
    (member : .issued call request now authorization outcome ∈ events) : Authorizes request now authorization := by
  obtain ⟨_, _, _, authorizes⟩ := issued_timed run member
  exact authorizes

/-- A call that reaches the exchange consumed an entry before, and read its clock before the entry's expiry. -/
theorem expiryChecked_consumed {before after : List Event} {call : CallId} {request : CompleteRequest} {reading : Datetime}
    {now : Instant}
    (run : Run (Step store) (World.initial state) (before ++ .expiryChecked call request reading (.ok now) :: after) world) :
    ∃ authorization, .consumed call request (some authorization) ∈ before ∧
      asUtc reading "clock value" = .ok now ∧ now < authorization.expiresAt := by
  obtain ⟨reached, next, earlier, step, _⟩ := run.split
  obtain ⟨authorization, held, read, early⟩ := step_expiryChecked step
  have evidenced := run_evidenced earlier call
  rw [held] at evidenced
  exact ⟨authorization, evidenced, read, early⟩

/-- A returned result is scoped by the entry its call consumed before. -/
theorem exchanged_consumed {before after : List Event} {call : CallId} {request : CompleteRequest}
    {result : KiteAuthorizationResult}
    (run : Run (Step store) (World.initial state) (before ++ .exchanged call request (.ok result) :: after) world) :
    ∃ authorization session, .consumed call request (some authorization) ∈ before ∧
      result = resultOf authorization session := by
  obtain ⟨reached, next, earlier, step, _⟩ := run.split
  obtain ⟨authorization, session, held, same⟩ := step_exchanged step
  have evidenced := run_evidenced earlier call
  rw [held] at evidenced
  exact ⟨authorization, session, evidenced, same⟩

/-! ## Consumed entries and their starts -/

/-- The nonce an event hashes for the store. -/
def Event.nonce? : Event → Option String
  | issued _ request _ _ _ => some request.nonce
  | consumed _ request _ => some request.state
  | _ => none

/-- SHA-256 does not collide on the nonces of a run. -/
def CollisionFree (events : List Event) : Prop := Set.InjOn digest {nonce | ∃ event ∈ events, event.nonce? = some nonce}

theorem op_eq_put {event : Event} {key : String} {authorization : PendingKiteAuthorization}
    (put : event.op = some (.put key authorization)) :
    ∃ call request now value, event = .issued call request now authorization (.ok value) ∧
      key = authorization.nonceDigest := by
  unfold Event.op at put
  split at put
  · cases put
    exact ⟨_, _, _, _, rfl, rfl⟩
  · cases put
  · cases put

theorem opAt_consumed {position : ℕ} {call : CallId} {request : CompleteRequest} {authorization : PendingKiteAuthorization}
    (present : events[position]? = some (.consumed call request (some authorization))) :
    opAt Event.op events position = some (.take (digest request.state) authorization) := by
  rw [opAt, present]
  rfl

/-- The start whose entry a consumption took. -/
structure Issuer (events : List Event) (position : ℕ) (request : CompleteRequest)
    (authorization : PendingKiteAuthorization) (starter : CallId) (source : StartRequest) (issuedAt : Instant) : Prop where
  issued : events[position]? = some (.issued starter source issuedAt authorization (.ok ()))
  nonce : source.nonce = request.state
  authorizes : Authorizes source issuedAt authorization

/-- Consumptions that found an entry are paired with the successful starts before them. -/
theorem consumed_pairing {pending : S → String → Option PendingKiteAuthorization} (contract : store.Contract pending)
    (empty : pending state = fun _ => none) (run : Run (Step store) (World.initial state) events world)
    (collisionFree : CollisionFree events) :
    ∃ origin : ℕ → ℕ, Set.InjOn origin (Takes Event.op events) ∧
      ∀ position call request authorization, events[position]? = some (.consumed call request (some authorization)) →
        origin position < position ∧
          ∃ starter source issuedAt, Issuer events (origin position) request authorization starter source issuedAt := by
  obtain ⟨origin, pairing⟩ := (run_history contract empty run).exists_pairing
  refine ⟨origin, pairing.injective, fun position call request authorization present => ?_⟩
  obtain ⟨earlier, put⟩ := pairing.matched _ _ _ (opAt_consumed present)
  refine ⟨earlier, ?_⟩
  obtain ⟨event, found, named⟩ := Option.bind_eq_some_iff.mp put
  obtain ⟨starter, source, issuedAt, value, rfl, key⟩ := op_eq_put named
  have authorizes := issued_authorizes run (List.mem_of_getElem? found)
  refine ⟨starter, source, issuedAt, found, collisionFree ?_ ?_ (authorizes.nonce.symm.trans key.symm), authorizes⟩
  · exact ⟨_, List.mem_of_getElem? found, rfl⟩
  · exact ⟨_, List.mem_of_getElem? present, rfl⟩

/-! ## Calls without interruption -/

/-- The segments of a `start` that succeeds, one after the other. -/
theorem run_start (run : Run (Step store) (World.initial state) events world) {call : CallId}
    (idle : world.phase call = .idle) {reading : Datetime} {request : StartRequest} {now : Instant}
    {authorization : PendingKiteAuthorization} {last : S} (valid : validateStart request = .ok ())
    (made : authorize request reading = .ok (now, authorization))
    (issued : store.issue authorization world.store = (.ok (), last)) :
    Run (Step store) (World.initial state)
      (events ++ [.startValidated call request (.ok ()), .startTimed call request reading (.ok (now, authorization)),
        .issued call request now authorization (.ok ())])
      (World.enter { world with store := last } call .ended) := by
  have first := run.snoc (.startValidated request idle)
  have second := first.snoc (.startTimed reading (by rw [valid]; exact enter_phase_self ..))
  have third := second.snoc (.issued (by rw [made]; exact enter_phase_self ..))
  simp only [valid, made, Phase.after, World.enter, Function.update_idem, issued, List.append_assoc,
    List.cons_append, List.nil_append] at third
  exact third

/-- The segments of a `complete` that succeeds, one after the other. -/
theorem run_complete (run : Run (Step store) (World.initial state) events world) {call : CallId}
    (idle : world.phase call = .idle) {reading : Datetime} {request : CompleteRequest} {now : Instant}
    {authorization : PendingKiteAuthorization} {last : S} (valid : validateComplete request = .ok ())
    (consumed : store.consume (digest request.state) world.store = (some authorization, last))
    (fresh : checkExpiry authorization reading = .ok now) (session : KiteSession) :
    Run (Step store) (World.initial state)
      (events ++ [.completeValidated call request (.ok ()), .consumed call request (some authorization),
        .expiryChecked call request reading (.ok now), .exchanged call request (.ok (resultOf authorization session))])
      (World.enter { world with store := last } call .ended) := by
  have first := run.snoc (.completeValidated request idle)
  have second := first.snoc (.consumed (by rw [valid]; exact enter_phase_self ..))
  simp only [valid, Phase.after, World.enter, Function.update_idem, consumed, acceptConsumed] at second
  have third := second.snoc (.expiryChecked reading (Function.update_self ..))
  simp only [fresh, Phase.after, World.enter, Function.update_idem] at third
  have fourth := third.snoc (.exchanged (.ok session) (Function.update_self ..))
  simp only [World.enter, Function.update_idem, List.append_assoc, List.cons_append, List.nil_append] at fourth
  exact fourth

/-- A `start` that returns is a run of its own segments. -/
theorem run_of_start (run : Run (Step store) (World.initial state) events world) {call : CallId}
    (idle : world.phase call = .idle) {reading : Datetime} {request : StartRequest} {begun : KiteAuthorizationStart}
    {last : S} (returned : start store reading request world.store = (.ok begun, last)) :
    ∃ later, (∀ event ∈ later, event.call = call) ∧
      (∃ now authorization, .issued call request now authorization (.ok ()) ∈ later) ∧
      Run (Step store) (World.initial state) (events ++ later) (World.enter { world with store := last } call .ended) := by
  obtain ⟨valid, now, authorization, made, issued, _⟩ := start_eq_ok returned
  exact ⟨_, by simp [Event.call], ⟨now, authorization, by simp⟩, run_start run idle valid made issued⟩

/-- A `complete` that returns is a run of its own segments. -/
theorem run_of_complete {τ : Type*} (run : Run (Step store) (World.initial state) events world) {call : CallId}
    (idle : world.phase call = .idle) {exchanger : KiteTokenExchanger τ} {reading : Datetime} {request : CompleteRequest}
    {log log' : ExchangeLog τ} {result : KiteAuthorizationResult} {last : S}
    (returned : complete store exchanger reading request world.store log = (.ok result, last, log')) :
    ∃ later, (∀ event ∈ later, event.call = call) ∧ .exchanged call request (.ok result) ∈ later ∧
      Run (Step store) (World.initial state) (events ++ later) (World.enter { world with store := last } call .ended) := by
  obtain ⟨valid, authorization, now, session, consumed, fresh, _, rfl⟩ := complete_eq_ok returned
  exact ⟨_, by simp [Event.call], by simp, run_complete run idle valid consumed fresh session⟩

end PortfolioManager.Connectors.Zerodha.KiteAuthorizationService
