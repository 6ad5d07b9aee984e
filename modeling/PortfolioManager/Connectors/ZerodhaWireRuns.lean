import PortfolioManager.Connectors.ZerodhaWire

/-! # Runs of the connector over its HTTP transport

A run is a conversation with the broker about the endpoints of the plan: every request in it was let
through at the gate, and a refusal at the gate or a reply that nothing absorbs is its end.
-/

namespace PortfolioManager.Connectors.Zerodha.HttpxKiteTransport

open PortfolioManager.Python PortfolioManager.Domain PortfolioManager.Application Checked Transcript ZerodhaConnector

variable {κ β : Type*} {world : World κ β} {session : KiteSession} {wire : Wire κ β} {retrievedAt : Datetime}

/-! ## Which replies end a session -/

/-- The broker denies the session. -/
def Denied (outcome : HttpOutcome) : Prop := ∃ response, outcome = .ok response ∧ (response.statusCode = 401 ∨ response.statusCode = 403)

/-- Anything but a failure of authentication. -/
def Spares (raised : HttpRaised) : Prop := ∀ error, raised = .own (.connector error) → error.kind ≠ .authentication

theorem spares_raiseHttp {α : Type} {kind : ConnectorFailureKind} {reasonCode : String} (reasonKey : isKey reasonCode = true)
    (other : kind ≠ .authentication) : Raises (raiseHttp kind reasonCode : Except HttpRaised α) Spares := by
  rw [raiseHttp_eq_error kind reasonKey, raises_error_iff]
  rintro error same
  cases same
  exact other

theorem spares_translate {α : Type} {computation : Except HttpRaised α} (spares : Raises computation Spares) :
    Raises (translate computation) Spares := by
  rcases computation with (raised | error) | value
  · exact spares
  · cases error with
    | timeout => exact spares_raiseHttp (by decide) nofun
    | network => exact spares_raiseHttp (by decide) nofun
    | _ => exact spares
  · exact spares

theorem spares_mapError_own {α : Type} {result : Except Raised α}
    (spares : Raises result fun raised => ∀ error, raised = .connector error → error.kind ≠ .authentication) :
    Raises (result.mapError HttpRaised.own) Spares := by
  cases result with
  | ok value => exact raises_ok value
  | error raised =>
    refine raises_error_iff.mpr fun error same => ?_
    cases same
    exact spares _ rfl error rfl

theorem spares_lift {α : Type} (result : Except Builtin α) :
    Raises (lift result) fun raised => ∀ error, raised = .connector error → error.kind ≠ .authentication := by
  cases result with
  | ok value => exact raises_ok value
  | error raised => exact raises_error_iff.mpr nofun

theorem spares_raiseForStatus {response : HttpResponse} (admitted : ¬(response.statusCode = 401 ∨ response.statusCode = 403)) :
    Raises (raiseForStatus response) Spares := by
  unfold raiseForStatus
  dsimp only
  split_ifs
  · exact raises_ok ()
  · refine (spares_mapError_own (spares_lift _)).bind fun delay _ => spares_mapError_own ?_
    unfold raiseConnectorError ConnectorError.new
    refine Raises.bind ((raises_check nofun).bind fun _ _ => (raises_check nofun).bind fun _ _ => raises_pure _) fun built found => ?_
    refine raises_error_iff.mpr ?_
    rintro error same
    cases same
    simp only [check_bind_eq_ok_iff, pure_eq_ok_iff] at found
    obtain ⟨_, _, rfl⟩ := found
    exact nofun
  all_goals exact spares_raiseHttp (by decide) nofun

/-- A reply fails authentication exactly when the broker denies the session. -/
theorem receive_authentication_iff {endpoint : KiteEndpoint} {outcome : HttpOutcome} :
    (∃ error, receive endpoint outcome = .error (.own (.connector error)) ∧ error.kind = .authentication) ↔ Denied outcome := by
  constructor
  · rintro ⟨error, failed, authentication⟩
    by_contra admitted
    refine absurd authentication ?_
    have spares : Raises (receive endpoint outcome) Spares := by
      refine (spares_translate ?_).bind fun read _ => ?_
      · cases outcome with
        | error error => exact raises_error_iff.mpr nofun
        | ok response =>
          refine (raises_ok response).bind fun _ same => ?_
          cases same
          refine (spares_raiseForStatus fun denied => admitted ⟨response, rfl, denied⟩).bind fun _ _ => Raises.bind ?_ fun _ _ => raises_pure _
          refine Raises.bind ?_ fun _ _ => ?_
          · unfold checkDeclaredLength
            split
            · exact raises_ok ()
            · split
              · exact spares_raiseHttp (by decide) nofun
              · split
                · exact spares_raiseHttp (by decide) nofun
                · exact raises_ok ()
          · rw [readChunks_eq (Nat.zero_le _)]
            split
            · exact spares_raiseHttp (by decide) nofun
            · split
              · exact raises_ok _
              · exact raises_error_iff.mpr nofun
      · obtain ⟨body, media⟩ := read
        dsimp only
        split
        · exact spares_raiseHttp (by decide) nofun
        · exact spares_mapError_own (spares_lift _)
    exact spares _ failed error rfl
  · rintro ⟨response, rfl, denied⟩
    have failed : raiseForStatus response = raiseHttp .authentication "session.expired" := by
      unfold raiseForStatus
      dsimp only
      rw [if_neg (by omega), if_pos denied]
    have key : isKey "session.expired" = true := by decide
    rw [raiseHttp_eq_error _ key] at failed
    refine ⟨⟨.authentication, "session.expired", none, key, by simp⟩, ?_, rfl⟩
    change (translate (raiseForStatus response >>= _) >>= _) = _
    rw [failed, error_bind]
    rfl

theorem authFails_replyOf_iff {endpoint : KiteEndpoint} {outcome : HttpOutcome} :
    authFails (replyOf (receive endpoint outcome)) = true ↔ Denied outcome := by
  rw [← @receive_authentication_iff endpoint outcome]
  rcases receive endpoint outcome with (raised | error) | payload
  · cases raised <;> simp [replyOf, authFails]
  · simp [replyOf, uncaught, authFails]
  · simp [replyOf, authFails]

/-! ## The calls of a run -/

/-- A fetch that was let through: its endpoint and its exchange with the broker. -/
abbrev Call := KiteEndpoint × HttpExchange

/-- The exchange of the connector's loop that a call makes. -/
def Call.exchange (call : Call) : Exchange := (call.1, replyOf (receive call.1 call.2.outcome))

def Call.escape (call : Call) : Option RequestError := escapeOf (receive call.1 call.2.outcome)

structure Call.Gated (session : KiteSession) (call : Call) : Prop where
  live : Live session call.2.reading
  asked : ∃ accessToken, session.accessToken = some accessToken ∧ call.2.request = request session accessToken call.1

/-- A fetch that was not let through. -/
def Refused (session : KiteSession) (exchange : Exchange) : Prop :=
  (∃ raised, exchange.2 = .error raised) ∧ ∃ reading, ¬Live session reading

/-- A conversation of the connector's loop, told by its calls and by the refusal it may end in. -/
structure Traced (world : World κ β) (session : KiteSession) (wire : Wire κ β) (talk : List Exchange × Wire κ β)
    (calls : List Call) (refused : List Exchange) : Prop where
  entries : talk.1 = calls.map Call.exchange ++ refused
  sent : talk.2.exchanges = wire.exchanges ++ calls.map Prod.snd
  gated : ∀ call ∈ calls, call.Gated session
  refusal : ∀ exchange ∈ refused, Refused session exchange
  answered : (converse world.broker (fun _ => false) (calls.map (·.2.request)) wire.broker).1 =
    calls.map fun call => (call.2.request, call.2.outcome)
  escaped : talk.2.escaped = (calls.findSome? Call.escape).or wire.escaped

theorem halts_of_escape {call : Call} {error : RequestError} (escape : call.escape = some error) :
    halts retrievedAt call.exchange.2 = true := by
  unfold Call.escape at escape
  unfold Call.exchange
  cases fetched : receive call.1 call.2.outcome with
  | ok payload => simp [fetched, escapeOf] at escape
  | error raised =>
    cases raised with
    | own raised => simp [fetched, escapeOf] at escape
    | request error => exact halts_of_not_absorbable id

/-- Every conversation of the connector's loop can be told so. -/
theorem exists_traced (queries : List KiteEndpoint) (wire : Wire κ β) :
    ∃ calls refused, Traced world session wire (converse (relay world session) (halts retrievedAt) queries wire) calls refused := by
  induction queries generalizing wire with
  | nil => exact ⟨[], [], by constructor <;> simp⟩
  | cons query rest ih =>
    by_cases live : Live session (readClock world session wire).1
    · obtain ⟨exchange, passed, reply, sent, broker, escaped⟩ := @relay_of_live _ _ world session wire query live
      have exchanged : (query, (relay world session wire query).1) = Call.exchange (query, exchange) := by rw [reply, Call.exchange]
      cases stop : halts retrievedAt (relay world session wire query).1 with
      | true =>
        refine ⟨[(query, exchange)], [], ?_⟩
        rw [converse_cons_of_stops stop]
        constructor
        case entries => rw [exchanged]; rfl
        case sent => exact sent
        case gated => exact List.forall_mem_singleton.mpr ⟨passed.live, passed.asked⟩
        case refusal => simp
        case answered => simp [converse, passed.answered]
        case escaped => rw [escaped, List.findSome?_singleton]; rfl
      | false =>
        obtain ⟨calls, refused, traced⟩ := ih (relay world session wire query).2
        have kept : Call.escape (query, exchange) = none := by
          cases escape : Call.escape (query, exchange) with
          | none => rfl
          | some error =>
            have halted := @halts_of_escape retrievedAt _ _ escape
            rw [← exchanged, stop] at halted
            contradiction
        refine ⟨(query, exchange) :: calls, refused, ?_⟩
        rw [converse_cons_of_not_stops stop]
        constructor
        case entries => rw [exchanged, traced.entries]; rfl
        case sent => rw [traced.sent, sent, List.append_assoc]; rfl
        case gated => exact List.forall_mem_cons.mpr ⟨⟨passed.live, passed.asked⟩, traced.gated⟩
        case refusal => exact traced.refusal
        case answered =>
          have later := traced.answered
          rw [broker] at later
          rw [List.map_cons, converse_cons_of_not_stops rfl, later, ← passed.answered]
          rfl
        case escaped =>
          rw [traced.escaped, escaped, List.findSome?_cons, kept]
          rw [show escapeOf (receive query exchange.outcome) = none from kept, Option.none_or]
    · obtain ⟨raised, stop, after⟩ := @relay_of_not_live _ _ world session wire retrievedAt query live
      refine ⟨[], [(query, (relay world session wire query).1)], ?_⟩
      rw [converse_cons_of_stops stop, after]
      constructor
      case entries => rfl
      case sent => simp
      case gated => simp
      case refusal => exact List.forall_mem_singleton.mpr ⟨raised, _, live⟩
      case answered => rfl
      case escaped => simp

/-! ## Runs -/

section Runs

variable {request : CollectionRequest} {clock : κ} {broker : β}

/-- The wire after the run's first look at the session. -/
def gatedWire (world : World κ β) (session : KiteSession) (clock : κ) (broker : β) : Wire κ β :=
  (readClock world session (start clock broker)).2

/-- The transport of a run that starts in session. -/
def liveTransport (world : World κ β) (session : KiteSession) (clock : κ) (broker : β) : KiteTransport (Wire κ β) :=
  ⟨fun _ => (readyState session, gatedWire world session clock broker), relay world session⟩

/-- The gate reports ready for a live session only. -/
theorem live_of_ready {reading : Datetime} {authentication : AuthenticationState}
    (gate : authenticationState session reading = .ok authentication) (ready : authentication.status = .ready) :
    Live session reading := by
  rcases gate_cases session reading with
    live | missing | ⟨present, expiresAt, expiry, ⟨now, read, late⟩ | ⟨error, unread⟩⟩
  · exact live
  · simp only [authenticationState, missing, Except.ok.injEq] at gate
    rw [← gate] at ready
    contradiction
  · rw [authenticationState_of_expired present expiry read late, Except.ok.injEq] at gate
    rw [← gate] at ready
    contradiction
  · rw [authenticationState_of_unreadable present expiry unread] at gate
    contradiction

theorem collectOver_of_live (live : Live session (world.clock clock).1) :
    collectOver world session retrievedAt request clock broker =
      match collect (liveTransport world session clock broker) retrievedAt request (gatedWire world session clock broker) with
      | (.ok result, log) => (.ok result, log.state)
      | (.error raised, log) => (.error (log.state.escaped.elim (.own raised) .request), log.state) := by
  have gate : authenticationState session (readClock world session (start clock broker)).1 = .ok (readyState session) :=
    authenticationState_of_live live
  simp only [collectOver, gate]
  rfl

/-- A run that starts out of session raises without an exchange. -/
theorem collectOver_of_not_live (dead : ¬Live session (world.clock clock).1) :
    (∃ raised, (collectOver world session retrievedAt request clock broker).1 = .error (.own raised)) ∧
      (collectOver world session retrievedAt request clock broker).2 = gatedWire world session clock broker := by
  have fresh : (readClock world session (start clock broker)).2.escaped = none := readClock_escaped
  unfold collectOver
  cases gate : authenticationState session (readClock world session (start clock broker)).1 with
  | error error =>
    simp only [gate]
    exact ⟨⟨_, rfl⟩, rfl⟩
  | ok authentication =>
    have notReady : authentication.status ≠ .ready := mt (live_of_ready gate) dead
    have stopped := @collect_of_not_ready _ ⟨fun _ => (authentication, (readClock world session (start clock broker)).2), relay world session⟩
      retrievedAt request (readClock world session (start clock broker)).2 notReady
    simp only [gate, stopped]
    cases failed : (raiseConnectorError .authentication (authentication.reasonCode.getD "session.not_ready") none :
        Except Raised CollectionResult) with
    | ok result => exact absurd failed raiseConnectorError_ne_ok
    | error raised =>
      simp only [fresh]
      exact ⟨⟨raised, rfl⟩, rfl⟩

/-- The fetches of a run that starts in session. -/
def talkOf (world : World κ β) (session : KiteSession) (retrievedAt : Datetime) (request : CollectionRequest)
    (clock : κ) (broker : β) : List Exchange × Wire κ β :=
  converse (relay world session) (halts retrievedAt) (plan request.sortedCapabilities) (gatedWire world session clock broker)

theorem liveTransport_ready (wire : Wire κ β) : Ready (liveTransport world session clock broker) wire := rfl

theorem talkOf_entries :
    (collect (liveTransport world session clock broker) retrievedAt request (gatedWire world session clock broker)).2.entries =
      (talkOf world session retrievedAt request clock broker).1 :=
  congrArg Log.entries (collect_log (liveTransport_ready _))

theorem talkOf_wire :
    (collect (liveTransport world session clock broker) retrievedAt request (gatedWire world session clock broker)).2.state =
      (talkOf world session retrievedAt request clock broker).2 :=
  congrArg Log.state (collect_log (liveTransport_ready _))

/-- The wire at the end of a run that starts in session is that of its fetches. -/
theorem collectOver_wire (live : Live session (world.clock clock).1) :
    (collectOver world session retrievedAt request clock broker).2 = (talkOf world session retrievedAt request clock broker).2 := by
  rw [collectOver_of_live live, ← talkOf_wire]
  split
  · next ended => rw [ended]
  · next ended => rw [ended]

/-- Every exchange of a run was let through at the gate. -/
theorem exists_gated {exchange : HttpExchange}
    (sent : exchange ∈ (collectOver world session retrievedAt request clock broker).2.exchanges) :
    ∃ endpoint, Call.Gated session (endpoint, exchange) := by
  have empty : (gatedWire world session clock broker).exchanges = [] := readClock_exchanges
  by_cases live : Live session (world.clock clock).1
  · obtain ⟨calls, refused, traced⟩ : ∃ calls refused, Traced world session (gatedWire world session clock broker)
      (talkOf world session retrievedAt request clock broker) calls refused := exists_traced _ _
    rw [collectOver_wire live, traced.sent, empty, List.nil_append] at sent
    obtain ⟨call, member, rfl⟩ := List.mem_map.mp sent
    exact ⟨call.1, traced.gated call member⟩
  · rw [(collectOver_of_not_live live).2, empty] at sent
    contradiction

/-- How a run uses the broker: it asks along its plan, each request once and let through at the gate, and
not again after a reply that denies the session or raises what nothing catches. -/
structure Disciplined (world : World κ β) (session : KiteSession) (request : CollectionRequest) (broker : β)
    (calls : List Call) : Prop where
  planned : calls.map Prod.fst <+: plan request.sortedCapabilities
  once : (calls.map (·.2.request)).Nodup
  gated : ∀ call ∈ calls, call.Gated session
  answered : (converse world.broker (fun _ => false) (calls.map (·.2.request)) broker).1 =
    calls.map fun call => (call.2.request, call.2.outcome)
  denied : ∀ before call after, calls = before ++ call :: after → Denied call.2.outcome → after = []
  uncaught : ∀ before call after raised, calls = before ++ call :: after →
    receive call.1 call.2.outcome = .error raised → raised.isTyped = false → after = []

theorem path_injective : Function.Injective path := by
  intro first second same
  cases first <;> cases second <;> first | rfl | exact absurd same (by decide)

/-- Gated calls of different endpoints send different requests. -/
theorem nodup_requests {calls : List Call} (gated : ∀ call ∈ calls, call.Gated session) (distinct : (calls.map Prod.fst).Nodup) :
    (calls.map (·.2.request)).Nodup := by
  have paths : (calls.map (·.2.request)).map (·.path) = (calls.map Prod.fst).map path := by
    rw [List.map_map, List.map_map]
    refine List.map_congr_left fun call member => ?_
    obtain ⟨token, _, asked⟩ := (gated call member).asked
    rw [Function.comp_apply, asked]
    rfl
  exact List.Nodup.of_map _ (paths ▸ distinct.map path_injective)

theorem halts_of_denied {call : Call} (denied : Denied call.2.outcome) : halts retrievedAt call.exchange.2 = true := by
  have fails : authFails call.exchange.2 = true := authFails_replyOf_iff.mpr denied
  rw [halts, fails, Bool.true_or]

theorem not_absorbable_of_uncaught {call : Call} {raised : HttpRaised} (failed : receive call.1 call.2.outcome = .error raised)
    (untyped : raised.isTyped = false) : ¬Absorbable retrievedAt call.exchange.2 := by
  rw [Call.exchange, failed]
  rcases raised with (error | error) | error
  · exact id
  · contradiction
  · exact id

theorem Traced.disciplined {calls : List Call} {refused : List Exchange}
    (traced : Traced world session wire
      (converse (relay world session) (halts retrievedAt) (plan request.sortedCapabilities) wire) calls refused) :
    Disciplined world session request wire.broker calls := by
  have entries := traced.entries
  have planned : calls.map Prod.fst <+: plan request.sortedCapabilities := by
    have asked := @converse_queries_isPrefix _ _ _ (relay world session) (halts retrievedAt) (plan request.sortedCapabilities) wire
    rw [entries, List.map_append, List.map_map] at asked
    exact (List.prefix_append _ _).trans asked
  have last {before after : List Call} {call : Call} (split : calls = before ++ call :: after)
      (halted : halts retrievedAt call.exchange.2 = true) : after = [] := by
    rw [split, List.map_append, List.map_cons, List.append_assoc, List.cons_append] at entries
    have nothing := converse_stop_last entries halted
    exact List.map_eq_nil_iff.mp (List.append_eq_nil_iff.mp nothing).1
  constructor
  case planned => exact planned
  case once => exact nodup_requests traced.gated (planned.sublist.nodup (plan_nodup (Finset.sort_nodup _ _)))
  case gated => exact traced.gated
  case answered => exact traced.answered
  case denied => exact fun before call after split denied => last split (halts_of_denied denied)
  case uncaught =>
    exact fun before call after raised split failed untyped =>
      last split (halts_of_not_absorbable (not_absorbable_of_uncaught failed untyped))

theorem Call.escape_eq_some_iff {call : Call} {error : RequestError} :
    call.escape = some error ↔ receive call.1 call.2.outcome = .error (.request error) := by
  unfold Call.escape
  rcases receive call.1 call.2.outcome with (raised | other) | payload <;> simp [escapeOf]

/-- What escapes a disciplined run is what its last call raised. -/
theorem Disciplined.findSome_escape {calls : List Call} (disciplined : Disciplined world session request broker calls)
    {error : RequestError} :
    calls.findSome? Call.escape = some error ↔ ∃ call ∈ calls, receive call.1 call.2.outcome = .error (.request error) := by
  constructor
  · intro found
    obtain ⟨call, member, escape⟩ := List.exists_of_findSome?_eq_some found
    exact ⟨call, member, Call.escape_eq_some_iff.mp escape⟩
  · rintro ⟨call, member, failed⟩
    obtain ⟨other, found⟩ : ∃ other, calls.findSome? Call.escape = some other := by
      rw [← Option.isSome_iff_exists, List.findSome?_isSome_iff]
      exact ⟨call, member, by rw [Call.escape_eq_some_iff.mpr failed]; rfl⟩
    obtain ⟨before, first, after, rfl, escape, none_before⟩ := List.findSome?_eq_some_iff.mp found
    have nothing := disciplined.uncaught before first after _ rfl (Call.escape_eq_some_iff.mp escape) rfl
    subst nothing
    rcases List.mem_append.mp member with earlier | last
    · have silent := none_before call earlier
      rw [Call.escape_eq_some_iff.mpr failed] at silent
      contradiction
    · rw [List.mem_singleton.mp last] at failed
      rw [Call.escape_eq_some_iff.mpr failed] at escape
      rw [found, escape]

section Returned

variable {calls : List Call} {refused : List Exchange} {result : CollectionResult} {log : FetchLog (Wire κ β)}

/-- A run that returns absorbed the reply to each of its calls. -/
theorem Traced.absorbable
    (traced : Traced world session (gatedWire world session clock broker)
      (talkOf world session retrievedAt request clock broker) calls refused)
    (returned : collect (liveTransport world session clock broker) retrievedAt request (gatedWire world session clock broker) =
      (.ok result, log)) {call : Call} (member : call ∈ calls) : Absorbable retrievedAt call.exchange.2 := by
  obtain ⟨_, absorbable, entries, _⟩ := collect_eq_ok returned
  have told : log.entries = calls.map Call.exchange ++ refused := by
    rw [← traced.entries, ← talkOf_entries, returned]
  refine absorbable call.exchange ?_
  rw [← entries, told]
  exact List.mem_append_left _ (List.mem_map_of_mem member)

/-- A returned run that no reply and no gate stopped asked for everything. -/
theorem Traced.complete
    (traced : Traced world session (gatedWire world session clock broker)
      (talkOf world session retrievedAt request clock broker) calls refused)
    (returned : collect (liveTransport world session clock broker) retrievedAt request (gatedWire world session clock broker) =
      (.ok result, log))
    (always : ∀ reading, Live session reading) (admitted : ∀ call ∈ calls, ¬Denied call.2.outcome) :
    calls.map Prod.fst = plan request.sortedCapabilities := by
  have entries := traced.entries
  have opened : refused = [] := by
    refine List.eq_nil_iff_forall_not_mem.mpr fun exchange member => ?_
    obtain ⟨_, reading, dead⟩ := traced.refusal exchange member
    exact dead (always reading)
  rw [opened, List.append_nil] at entries
  have goes : ∀ exchange ∈ (talkOf world session retrievedAt request clock broker).1, halts retrievedAt exchange.2 = false := by
    rw [entries]
    rintro _ member
    obtain ⟨call, present, rfl⟩ := List.mem_map.mp member
    rw [halts_of_absorbable (traced.absorbable returned present), ← Bool.not_eq_true]
    exact fun fails => admitted call present (authFails_replyOf_iff.mp fails)
  have asked := converse_complete goes
  rw [← asked]
  change _ = (talkOf world session retrievedAt request clock broker).1.map _
  rw [entries, List.map_map]
  rfl

end Returned

/-- In every run, whatever the clock shows and the broker answers, the connector uses the broker as it should,
raises an exception of the HTTP library exactly when one of its calls does, and asks for everything it
planned when it returns and no reply denied a session that does not expire. -/
theorem collectOver_disciplined (world : World κ β) (session : KiteSession) (retrievedAt : Datetime) (request : CollectionRequest)
    (clock : κ) (broker : β) :
    ∃ calls, (collectOver world session retrievedAt request clock broker).2.exchanges = calls.map Prod.snd ∧
      Disciplined world session request broker calls ∧
      (∀ error, (collectOver world session retrievedAt request clock broker).1 = .error (.request error) ↔
        ∃ call ∈ calls, receive call.1 call.2.outcome = .error (.request error)) ∧
      ∀ result, (collectOver world session retrievedAt request clock broker).1 = .ok result → session.expiresAt = none →
        (∀ call ∈ calls, ¬Denied call.2.outcome) → calls.map Prod.fst = plan request.sortedCapabilities := by
  by_cases live : Live session (world.clock clock).1
  · obtain ⟨calls, refused, traced⟩ : ∃ calls refused, Traced world session (gatedWire world session clock broker)
      (talkOf world session retrievedAt request clock broker) calls refused := exists_traced _ _
    have disciplined := traced.disciplined
    have kept : (gatedWire world session clock broker).broker = broker := readClock_broker
    have fresh : (gatedWire world session clock broker).escaped = none := readClock_escaped
    have empty : (gatedWire world session clock broker).exchanges = [] := readClock_exchanges
    have escaped := traced.escaped
    have sent := traced.sent
    rw [fresh, Option.or_none] at escaped
    rw [empty, List.nil_append] at sent
    rw [kept] at disciplined
    refine ⟨calls, (congrArg Wire.exchanges (collectOver_wire live)).trans sent, disciplined, ?_⟩
    rw [collectOver_of_live live]
    constructor
    · intro error
      rw [← disciplined.findSome_escape]
      split
      · next result log' returned =>
        refine iff_of_false nofun fun escape => ?_
        obtain ⟨call, member, failed⟩ := disciplined.findSome_escape.mp escape
        exact not_absorbable_of_uncaught failed rfl (traced.absorbable returned member)
      · next raised log' ended =>
        rw [← talkOf_wire, ended] at escaped
        rw [← escaped]
        cases log'.state.escaped <;> simp
    · intro result
      split
      · next result' log' returned =>
        rintro - unlimited admitted
        exact traced.complete returned (fun reading => ⟨live.1, by simp [unlimited]⟩) admitted
      · exact nofun
  · obtain ⟨⟨raised, failed⟩, last⟩ := @collectOver_of_not_live _ _ world session retrievedAt request clock broker live
    have empty : (gatedWire world session clock broker).exchanges = [] := readClock_exchanges
    refine ⟨[], ?_, ?_, ?_, ?_⟩
    · rw [last, empty]
      rfl
    · constructor <;> simp
    · simp [failed]
    · simp [failed]

end Runs

end PortfolioManager.Connectors.Zerodha.HttpxKiteTransport
