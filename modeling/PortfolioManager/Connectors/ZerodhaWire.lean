import PortfolioManager.Connectors.ZerodhaFetches
import PortfolioManager.Connectors.ZerodhaHttpFailures

/-! # The connector over its HTTP transport

The transport of a session reads a clock and talks to a broker, and both may answer differently every
time. An exception of the HTTP library that no handler of the transport translates is caught nowhere in
the connector either: the connector's loop sees it as an exception that is no `ConnectorError`, the wire
remembers which one it was, and it is what the run raises.
-/

namespace PortfolioManager.Connectors.Zerodha

open PortfolioManager.Python PortfolioManager.Domain PortfolioManager.Application Checked Transcript

/-- The clock a transport is given, and the broker behind its HTTP client. -/
structure World (κ β : Type*) where
  clock : κ → Datetime × κ
  broker : Oracle β HttpRequest HttpOutcome

/-- An exchange with the broker, and what the clock showed when its request was let through. -/
structure HttpExchange where
  reading : Datetime
  request : HttpRequest
  outcome : HttpOutcome

structure Wire (κ β : Type*) where
  clock : κ
  broker : β
  exchanges : List HttpExchange
  escaped : Option RequestError

namespace HttpxKiteTransport

open ZerodhaConnector

variable {κ β : Type*} {world : World κ β} {session : KiteSession} {wire : Wire κ β} {retrievedAt : Datetime}
  {endpoint : KiteEndpoint}

/-- The clock's reading at the gate; only a session with a token that expires takes it. -/
def readClock (world : World κ β) (session : KiteSession) (wire : Wire κ β) : Datetime × Wire κ β :=
  ((world.clock wire.clock).1,
    if session.accessToken.isSome && session.expiresAt.isSome then { wire with clock := (world.clock wire.clock).2 } else wire)

/-- Send a request that was let through at the reading. -/
def send (world : World κ β) (reading : Datetime) (request : HttpRequest) (wire : Wire κ β) : HttpOutcome × Wire κ β :=
  let (outcome, broker) := world.broker wire.broker request
  (outcome, { wire with broker := broker, exchanges := wire.exchanges ++ [⟨reading, request, outcome⟩] })

/-- `HttpxKiteTransport.fetch` in its world. -/
def fetchOver (world : World κ β) (session : KiteSession) (wire : Wire κ β) (endpoint : KiteEndpoint) :
    Except HttpRaised KitePayload × Wire κ β :=
  let (reading, wire) := readClock world session wire
  match authenticationState session reading with
  | .error error => (.error (.own (.builtin error)), wire)
  | .ok authentication =>
      if authentication.status ≠ .ready then
        (raiseHttp .authentication (authentication.reasonCode.getD "session.not_ready"), wire)
      else
        match headers session with
        | .error raised => (.error raised, wire)
        | .ok headers =>
            let (outcome, wire) := send world reading ⟨"GET", path endpoint, headers, []⟩ wire
            (receive endpoint outcome, wire)

/-- An exception of the HTTP library, as the connector's loop sees it. -/
def uncaught : Raised := .builtin (.typeError "httpx.RequestError")

def replyOf : Except HttpRaised KitePayload → Reply
  | .ok payload => .ok payload
  | .error (.own raised) => .error raised
  | .error (.request _) => .error uncaught

def escapeOf : Except HttpRaised KitePayload → Option RequestError
  | .error (.request error) => some error
  | _ => none

/-- The connector's fetch. -/
def relay (world : World κ β) (session : KiteSession) : Oracle (Wire κ β) KiteEndpoint Reply := fun wire endpoint =>
  let (fetched, wire) := fetchOver world session wire endpoint
  (replyOf fetched, { wire with escaped := (escapeOf fetched).or wire.escaped })

def start (clock : κ) (broker : β) : Wire κ β := ⟨clock, broker, [], none⟩

/-- `ZerodhaConnector.collect` over the transport; its first step is the transport's `authentication_state`. -/
def collectOver (world : World κ β) (session : KiteSession) (retrievedAt : Datetime) (request : CollectionRequest)
    (clock : κ) (broker : β) : Except HttpRaised CollectionResult × Wire κ β :=
  let (reading, gated) := readClock world session (start clock broker)
  match authenticationState session reading with
  | .error error => (.error (.own (.builtin error)), gated)
  | .ok authentication =>
      match collect ⟨fun _ => (authentication, gated), relay world session⟩ retrievedAt request gated with
      | (.ok result, log) => (.ok result, log.state)
      | (.error raised, log) => (.error (log.state.escaped.elim (.own raised) .request), log.state)

/-! ## One fetch -/

@[simp] theorem readClock_exchanges : (readClock world session wire).2.exchanges = wire.exchanges := by
  unfold readClock
  split <;> rfl

@[simp] theorem readClock_broker : (readClock world session wire).2.broker = wire.broker := by
  unfold readClock
  split <;> rfl

@[simp] theorem readClock_escaped : (readClock world session wire).2.escaped = wire.escaped := by
  unfold readClock
  split <;> rfl

theorem fetchOver_of_live (live : Live session (readClock world session wire).1) :
    ∃ accessToken, session.accessToken = some accessToken ∧
      fetchOver world session wire endpoint =
        (receive endpoint (world.broker wire.broker (request session accessToken endpoint)).1,
          (send world (readClock world session wire).1 (request session accessToken endpoint) (readClock world session wire).2).2) := by
  obtain ⟨token, found⟩ := Option.ne_none_iff_exists'.mp live.1
  refine ⟨token, found, ?_⟩
  simp only [fetchOver, authenticationState_of_live live, readyState, headers, found, send, readClock_broker]
  rfl

/-- Without a live session nothing is sent, whatever an exchange would come to. -/
theorem fetchOver_of_not_live (dead : ¬Live session (readClock world session wire).1) (outcome : HttpOutcome) :
    fetchOver world session wire endpoint =
      ((fetch session (readClock world session wire).1 endpoint outcome).1, (readClock world session wire).2) := by
  rcases gate_cases session (readClock world session wire).1 with
    live | missing | ⟨present, expiresAt, expiry, ⟨now, read, late⟩ | ⟨error, unread⟩⟩
  · exact absurd live dead
  · rw [fetch_of_missing missing]
    simp only [fetchOver, authenticationState, missing]
    rfl
  · rw [fetch_of_expired present expiry read late]
    simp only [fetchOver, authenticationState_of_expired present expiry read late]
    rfl
  · rw [fetch_of_unreadable present expiry unread]
    simp only [fetchOver, authenticationState_of_unreadable present expiry unread]

/-! ## One fetch of the connector -/

/-- The exchange of a fetch that is let through. -/
structure Passed (world : World κ β) (session : KiteSession) (wire : Wire κ β) (endpoint : KiteEndpoint)
    (exchange : HttpExchange) : Prop where
  live : Live session exchange.reading
  asked : ∃ accessToken, session.accessToken = some accessToken ∧ exchange.request = request session accessToken endpoint
  answered : exchange.outcome = (world.broker wire.broker exchange.request).1

theorem relay_of_live (live : Live session (readClock world session wire).1) :
    ∃ exchange, Passed world session wire endpoint exchange ∧
      (relay world session wire endpoint).1 = replyOf (receive endpoint exchange.outcome) ∧
      (relay world session wire endpoint).2.exchanges = wire.exchanges ++ [exchange] ∧
      (relay world session wire endpoint).2.broker = (world.broker wire.broker exchange.request).2 ∧
      (relay world session wire endpoint).2.escaped = (escapeOf (receive endpoint exchange.outcome)).or wire.escaped := by
  obtain ⟨token, found, fetched⟩ := @fetchOver_of_live _ _ world session wire endpoint live
  refine ⟨⟨_, request session token endpoint, (world.broker wire.broker (request session token endpoint)).1⟩,
    ⟨live, ⟨token, found, rfl⟩, rfl⟩, ?_⟩
  simp [relay, fetched, send]

/-- A refusal at the gate is a failure of authentication, or an exception nothing catches. -/
theorem relay_of_not_live (dead : ¬Live session (readClock world session wire).1) :
    (∃ raised, (relay world session wire endpoint).1 = .error raised) ∧
      halts retrievedAt (relay world session wire endpoint).1 = true ∧
      (relay world session wire endpoint).2 = (readClock world session wire).2 := by
  have fetched := @fetchOver_of_not_live _ _ world session wire endpoint dead (.error .timeout)
  simp only [relay, fetched]
  rcases gate_cases session (readClock world session wire).1 with
    live | missing | ⟨present, expiresAt, expiry, ⟨now, read, late⟩ | ⟨error, unread⟩⟩
  · exact absurd live dead
  · rw [fetch_of_missing missing, raiseHttp_eq_error _ (by decide)]
    exact ⟨⟨_, rfl⟩, rfl, rfl⟩
  · rw [fetch_of_expired present expiry read late, raiseHttp_eq_error _ (by decide)]
    exact ⟨⟨_, rfl⟩, rfl, rfl⟩
  · rw [fetch_of_unreadable present expiry unread]
    exact ⟨⟨_, rfl⟩, halts_of_not_absorbable id, rfl⟩

end HttpxKiteTransport

end PortfolioManager.Connectors.Zerodha
