import PortfolioManager.Connectors.ZerodhaLogin
import PortfolioManager.Connectors.ZerodhaWireSecrecy
import PortfolioManager.Domain.LocalTime

/-! # Clocks of any zone

The authorization service, the token exchanger, the transport and the connector each have a clock, and a
clock may show its times in any zone. Logins and collections whose clocks show the same times do the same.
-/

namespace PortfolioManager.Connectors.Zerodha

open PortfolioManager.Python PortfolioManager.Domain PortfolioManager.Application Checked Transcript

/-! ## The connector's clock -/

namespace ZerodhaConnector

variable {σ : Type*} {transport : KiteTransport σ} {retrievedAt retrievedAt' : Datetime}

theorem handleReply_sameTime (same : SameTime retrievedAt retrievedAt') : handleReply retrievedAt = handleReply retrievedAt' := by
  have artifact : toArtifact retrievedAt = toArtifact retrievedAt' := by
    funext endpoint payload
    simp only [toArtifact, RawArtifact.fromPayload, RawArtifact.new, same "retrieved_at"]
  funext endpoint reply loop
  simp only [handleReply, artifact]

theorem collectEndpoints_sameTime (same : SameTime retrievedAt retrievedAt') (queries : List KiteEndpoint) (loop : EndpointLoop)
    (log : FetchLog σ) :
    collectEndpoints transport retrievedAt queries loop log = collectEndpoints transport retrievedAt' queries loop log := by
  induction queries generalizing loop log with
  | nil => rfl
  | cons query rest ih => simp only [collectEndpoints, handleReply_sameTime same, ih]

theorem collectCapabilities_sameTime (same : SameTime retrievedAt retrievedAt') (capabilities : List Capability)
    (collection : Collection) (log : FetchLog σ) :
    collectCapabilities transport retrievedAt capabilities collection log =
      collectCapabilities transport retrievedAt' capabilities collection log := by
  induction capabilities generalizing collection log with
  | nil => rfl
  | cons capability rest ih =>
    simp only [collectCapabilities, collectCapability, collectEndpoints_sameTime same, ih]

theorem collect_sameTime (same : SameTime retrievedAt retrievedAt') :
    collect transport retrievedAt = collect transport retrievedAt' := by
  funext request state
  simp only [collect, collectCapabilities_sameTime same]

end ZerodhaConnector

/-! ## The transport's clock -/

/-- Related states of two clocks show the same time and stay related. -/
structure SameClock {κ κ' : Type*} (C : κ → κ' → Prop) (clock : κ → Datetime × κ) (clock' : κ' → Datetime × κ') : Prop where
  shows : ∀ {c c'}, C c c' → SameTime (clock c).1 (clock' c').1
  stays : ∀ {c c'}, C c c' → C (clock c).2 (clock' c').2

namespace HttpxKiteTransport

open ZerodhaConnector

variable {κ κ' β : Type*} {C : κ → κ' → Prop} {clock : κ → Datetime × κ} {clock' : κ' → Datetime × κ'}
  {broker : Oracle β HttpRequest HttpOutcome} {session : KiteSession}

/-- Exchanges that differ in the zone of their readings at most. -/
def SameBarZone (left right : HttpExchange) : Prop :=
  SameTime left.reading right.reading ∧ left.request = right.request ∧ left.outcome = right.outcome

structure InStep (C : κ → κ' → Prop) (left : Wire κ β) (right : Wire κ' β) : Prop where
  clock : C left.clock right.clock
  broker : left.broker = right.broker
  exchanges : List.Forall₂ SameBarZone left.exchanges right.exchanges
  escaped : left.escaped = right.escaped

theorem authenticationState_sameTime {reading reading' : Datetime} (same : SameTime reading reading') :
    authenticationState session reading = authenticationState session reading' := by
  simp only [authenticationState, same "clock value"]

theorem readClock_inStep (clocks : SameClock C clock clock') {left : Wire κ β} {right : Wire κ' β} (inStep : InStep C left right) :
    SameTime (readClock ⟨clock, broker⟩ session left).1 (readClock ⟨clock', broker⟩ session right).1 ∧
      InStep C (readClock ⟨clock, broker⟩ session left).2 (readClock ⟨clock', broker⟩ session right).2 := by
  refine ⟨clocks.shows inStep.clock, ?_⟩
  unfold readClock
  dsimp only
  split
  · exact ⟨clocks.stays inStep.clock, inStep.broker, inStep.exchanges, inStep.escaped⟩
  · exact inStep

theorem fetchOver_inStep (clocks : SameClock C clock clock') {left : Wire κ β} {right : Wire κ' β} (inStep : InStep C left right)
    (endpoint : KiteEndpoint) :
    (fetchOver ⟨clock, broker⟩ session left endpoint).1 = (fetchOver ⟨clock', broker⟩ session right endpoint).1 ∧
      InStep C (fetchOver ⟨clock, broker⟩ session left endpoint).2 (fetchOver ⟨clock', broker⟩ session right endpoint).2 := by
  obtain ⟨same, gated⟩ := @readClock_inStep _ _ _ _ _ _ broker session clocks _ _ inStep
  simp only [fetchOver, authenticationState_sameTime same]
  cases authenticationState session (readClock ⟨clock', broker⟩ session right).1 with
  | error error => exact ⟨rfl, gated⟩
  | ok authentication =>
    dsimp only
    split
    · exact ⟨rfl, gated⟩
    · cases headers session with
      | error raised => exact ⟨rfl, gated⟩
      | ok headers =>
        dsimp only [send]
        rw [gated.broker]
        refine ⟨rfl, gated.clock, rfl, ?_, gated.escaped⟩
        exact List.rel_append gated.exchanges (.cons ⟨same, rfl, rfl⟩ .nil)

theorem relay_inStep (clocks : SameClock C clock clock') {left : Wire κ β} {right : Wire κ' β} (inStep : InStep C left right)
    (endpoint : KiteEndpoint) :
    (relay ⟨clock, broker⟩ session left endpoint).1 = (relay ⟨clock', broker⟩ session right endpoint).1 ∧
      InStep C (relay ⟨clock, broker⟩ session left endpoint).2 (relay ⟨clock', broker⟩ session right endpoint).2 := by
  obtain ⟨fetched, ticked, answered, exchanges, escaped⟩ :=
    @fetchOver_inStep _ _ _ _ _ _ broker session clocks _ _ inStep endpoint
  refine ⟨congrArg replyOf fetched, ticked, answered, exchanges, ?_⟩
  simp only [relay, fetched, escaped]

/-- Collections whose clocks show the same times end alike and send the same requests. -/
theorem collectOver_inStep (clocks : SameClock C clock clock') {retrievedAt retrievedAt' : Datetime}
    (retrieved : SameTime retrievedAt retrievedAt') (request : CollectionRequest) {c : κ} {c' : κ'} (related : C c c') (b : β) :
    (collectOver ⟨clock, broker⟩ session retrievedAt request c b).1 =
        (collectOver ⟨clock', broker⟩ session retrievedAt' request c' b).1 ∧
      InStep C (collectOver ⟨clock, broker⟩ session retrievedAt request c b).2
        (collectOver ⟨clock', broker⟩ session retrievedAt' request c' b).2 := by
  have begun : InStep C (start c b) (start c' b) := ⟨related, rfl, .nil, rfl⟩
  obtain ⟨same, gated⟩ := @readClock_inStep _ _ _ _ _ _ broker session clocks _ _ begun
  have dated : collectOver ⟨clock', broker⟩ session retrievedAt' request c' b =
      collectOver ⟨clock', broker⟩ session retrievedAt request c' b := by
    simp only [collectOver, collect_sameTime retrieved]
  rw [dated]
  exact collectOver_related InStep.escaped (authenticationState_sameTime same) gated (relay_inStep clocks) retrievedAt request

end HttpxKiteTransport

/-! ## The clocks of a login -/

/-- Peers that answer alike and whose clocks show the same times. -/
structure SamePeer {τ : Type*} (peer peer' : TokenPeer τ) : Prop where
  answer : peer.answer = peer'.answer
  shows : ∀ state, SameTime (peer.clock state) (peer'.clock state)
  next : peer.next = peer'.next

theorem httpxExchanger_samePeer {τ : Type*} {peer peer' : TokenPeer τ} (peers : SamePeer peer peer')
    (validate : EnvelopeValidator) : httpxExchanger validate peer = httpxExchanger validate peer' := by
  funext state asked
  simp only [httpxExchanger, HttpxKiteTokenExchanger.exchange, HttpxKiteTokenExchanger.accept,
    HttpxKiteTokenExchanger.openSession, peers.shows state "clock value", peers.answer, peers.next]

namespace KiteAuthorizationService

variable {S τ : Type*} {store : KiteNonceStore S} {reading reading' : Datetime}

theorem start_sameTime (same : SameTime reading reading') (store : KiteNonceStore S) : start store reading = start store reading' := by
  funext request state
  simp only [start, authorize, same "clock value"]

theorem complete_sameTime (same : SameTime reading reading') (store : KiteNonceStore S) (exchanger : KiteTokenExchanger τ) :
    complete store exchanger reading = complete store exchanger reading' := by
  funext request state log
  simp only [complete, checkExpiry, same "clock value"]

end KiteAuthorizationService

/-- The zones of the clocks decide nothing: logins over peers and collections over transports whose clocks show the
same times, in any zones, end alike, with the same requests and the same states of store, peer and broker. -/
theorem runs_of_any_zone {S τ κ κ' β : Type*} {peer peer' : TokenPeer τ} {C : κ → κ' → Prop} {clock : κ → Datetime × κ}
    {clock' : κ' → Datetime × κ'} {started started' completed completed' retrievedAt retrievedAt' : Datetime}
    (starts : SameTime started started') (completes : SameTime completed completed') (peers : SamePeer peer peer')
    (clocks : SameClock C clock clock') (retrieved : SameTime retrievedAt retrievedAt') (store : KiteNonceStore S)
    (validate : EnvelopeValidator) (broker : Oracle β HttpRequest HttpOutcome) :
    (∀ request state, KiteAuthorizationService.start store started request state =
      KiteAuthorizationService.start store started' request state) ∧
    (∀ request state log, KiteAuthorizationService.complete store (httpxExchanger validate peer) completed request state log =
      KiteAuthorizationService.complete store (httpxExchanger validate peer') completed' request state log) ∧
    ∀ session request c c' b, C c c' →
      (HttpxKiteTransport.collectOver ⟨clock, broker⟩ session retrievedAt request c b).1 =
          (HttpxKiteTransport.collectOver ⟨clock', broker⟩ session retrievedAt' request c' b).1 ∧
        HttpxKiteTransport.InStep C (HttpxKiteTransport.collectOver ⟨clock, broker⟩ session retrievedAt request c b).2
          (HttpxKiteTransport.collectOver ⟨clock', broker⟩ session retrievedAt' request c' b).2 := by
  refine ⟨fun request state => ?_, fun request state log => ?_, fun session request c c' b related => ?_⟩
  · rw [KiteAuthorizationService.start_sameTime starts]
  · rw [KiteAuthorizationService.complete_sameTime completes, httpxExchanger_samePeer peers]
  · exact HttpxKiteTransport.collectOver_inStep clocks retrieved request related b

section Sample

open KiteAuthorizationService HttpxKiteTokenExchanger ZerodhaConnector

/-- The sample midnight, as a clock in Tokyo shows it. -/
def tokyoMidnight : Datetime where
  wall := 63921843000000000
  utcoffset := some 32400000000

theorem midnight_sameTime : SameTime midnight tokyoMidnight := SameTime.of_instant? (by decide) (by decide)

/-- The sample login and a collection of its session, with every clock in Tokyo. -/
theorem runs_of_any_zone_sample :
    complete memoryStore (httpxExchanger (sampleValidate "exchange-api-key" "granted-token") midnightPeer) midnight
        midnightComplete (Function.update (fun _ => none) (digest midnightComplete.state) (some sampleAuthorization)) ⟨(), []⟩ =
      complete memoryStore (httpxExchanger (sampleValidate "exchange-api-key" "granted-token")
        { midnightPeer with clock := fun _ => tokyoMidnight }) tokyoMidnight midnightComplete
        (Function.update (fun _ => none) (digest midnightComplete.state) (some sampleAuthorization)) ⟨(), []⟩ ∧
      (HttpxKiteTransport.collectOver ⟨fun _ => (midnight, ()), HttpxKiteTransport.sampleWorld.broker⟩ midnightSession midnight
          sampleRequest () ()).1 =
        (HttpxKiteTransport.collectOver ⟨fun _ => (tokyoMidnight, ()), HttpxKiteTransport.sampleWorld.broker⟩ midnightSession
          tokyoMidnight sampleRequest () ()).1 := by
  have peers : SamePeer midnightPeer { midnightPeer with clock := fun _ => tokyoMidnight } :=
    ⟨rfl, fun _ => midnight_sameTime, rfl⟩
  have clocks : SameClock (fun _ _ => True) (fun _ : Unit => (midnight, ())) (fun _ : Unit => (tokyoMidnight, ())) :=
    ⟨fun _ => midnight_sameTime, fun _ => trivial⟩
  obtain ⟨_, completed, collected⟩ := runs_of_any_zone midnight_sameTime midnight_sameTime peers clocks midnight_sameTime
    memoryStore (sampleValidate "exchange-api-key" "granted-token") HttpxKiteTransport.sampleWorld.broker
  exact ⟨completed _ _ _, (collected _ _ () () () trivial).1⟩

end Sample

end PortfolioManager.Connectors.Zerodha
