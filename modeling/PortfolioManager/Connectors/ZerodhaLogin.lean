import PortfolioManager.Connectors.ZerodhaAuthSafety
import PortfolioManager.Connectors.ZerodhaExpiry
import PortfolioManager.Connectors.ZerodhaWireRuns

/-! # From a login to a collection

A login ends with a session, and a transport on that session is what a connector collects with afterwards. Who the
requests speak for and how long they can be sent is settled by the exchange: the key of the credentials, the token of the
broker's envelope, and the clock of the exchanger.
-/

namespace PortfolioManager.Connectors.Zerodha

open PortfolioManager.Python PortfolioManager.Domain PortfolioManager.Application Checked Transcript

/-- What a token exchanger talks to: the broker's answer to its request, and its clock once the answer is there. -/
structure TokenPeer (τ : Type*) where
  answer : τ → HttpRequest → HttpOutcome
  clock : τ → Datetime
  next : τ → τ

/-- An exchange as the authorization service sees it: what no handler translates passes through. -/
def exchangeOf : Except HttpRaised KiteSession → Except Raised KiteSession
  | .ok session => .ok session
  | .error (.own raised) => .error raised
  | .error (.request _) => .error HttpxKiteTransport.uncaught

/-- `HttpxKiteTokenExchanger` as the exchanger of the authorization service. -/
def httpxExchanger {τ : Type*} (validate : EnvelopeValidator) (peer : TokenPeer τ) :
    KiteAuthorizationService.KiteTokenExchanger τ := fun state asked =>
  (exchangeOf (HttpxKiteTokenExchanger.exchange validate (peer.clock state) asked.1 asked.2
    (peer.answer state (HttpxKiteTokenExchanger.request asked.1 asked.2))).1, peer.next state)

theorem exchangeOf_eq_ok_iff {outcome : Except HttpRaised KiteSession} {session : KiteSession} :
    exchangeOf outcome = .ok session ↔ outcome = .ok session := by
  rcases outcome with (raised | error) | other <;> simp [exchangeOf]

/-- The session of an exchange is live exactly before the broker's expiry of a token issued at the exchanger's reading. -/
theorem live_iff_of_returned {validate : EnvelopeValidator} {reading : Datetime} {credentials : KiteApiCredentials}
    {requestToken : String} {outcome : HttpOutcome} {session : KiteSession} {readAt : Instant}
    (returned : (HttpxKiteTokenExchanger.exchange validate reading credentials requestToken outcome).1 = .ok session)
    (read : asUtc reading "clock value" = .ok readAt) {later : Datetime} :
    HttpxKiteTransport.Live session later ↔ ∃ now, asUtc later "clock value" = .ok now ∧ now.micros < brokerExpiry readAt := by
  obtain ⟨present, expiresAt, expiry, dated⟩ := exists_expiry_of_returned returned read
  rw [← sessionExpiry_eq_ok_iff_brokerExpiry.mp dated]
  constructor
  · rintro ⟨_, early⟩
    exact early expiresAt expiry
  · rintro ⟨now, shown, early⟩
    refine ⟨present, fun expiresAt' expiry' => ⟨now, shown, ?_⟩⟩
    cases expiry.symm.trans expiry'
    exact early

/-- What a collection sends after a login: requests in the name of the credentials that completed it, with the token the
broker answered its exchange with, and none from six o'clock on in Kolkata on the day after the exchange. -/
theorem collection_after_login {S τ : Type*} {store : KiteNonceStore S} {validate : EnvelopeValidator} {peer : TokenPeer τ}
    {reading : Datetime} {request : KiteAuthorizationService.CompleteRequest} {state last : S}
    {log log' : KiteAuthorizationService.ExchangeLog τ} {result : KiteAuthorizationResult}
    (returned : KiteAuthorizationService.complete store (httpxExchanger validate peer) reading request state log =
      (.ok result, last, log')) :
    ∃ authorization response envelope readAt,
      (store.consume (KiteAuthorizationService.digest request.state) state = (some authorization, last) ∧
        result.tenantId = authorization.tenantId ∧ result.connectionId = authorization.connectionId) ∧
      (peer.answer log.state (HttpxKiteTokenExchanger.request request.credentials request.requestToken) = .ok response ∧
        response.Succeeds ∧ validate response.body = some envelope ∧ envelope.data.apiKey = request.credentials.apiKey) ∧
      asUtc (peer.clock log.state) "clock value" = .ok readAt ∧
      (∀ later, HttpxKiteTransport.Live result.session later ↔
        ∃ now, asUtc later "clock value" = .ok now ∧ now.micros < brokerExpiry readAt) ∧
      ∀ (κ β : Type) (world : World κ β) retrievedAt collection clock broker,
        ∀ exchange ∈ (HttpxKiteTransport.collectOver world result.session retrievedAt collection clock broker).2.exchanges,
          (∃ endpoint, exchange.request = ⟨"GET", HttpxKiteTransport.path endpoint,
            [("Authorization", s!"token {request.credentials.apiKey}:{envelope.data.accessToken}"), ("X-Kite-Version", "3"),
              ("Accept", "application/json, text/csv")], []⟩) ∧
          ∃ now, asUtc exchange.reading "clock value" = .ok now ∧ now.micros < brokerExpiry readAt := by
  obtain ⟨_, authorization, _, session, consumed, _, exchanged, rfl⟩ := KiteAuthorizationService.complete_eq_ok returned
  have granted := exchangeOf_eq_ok_iff.mp exchanged
  obtain ⟨_, response, answered, success, _, _, envelope, validated, same, opened⟩ :=
    HttpxKiteTokenExchanger.exchange_eq_ok_iff.mp granted
  obtain ⟨apiKey, token, readAt, _, read, _, _⟩ := HttpxKiteTokenExchanger.openSession_eq_ok_iff.mp opened
  have live (later : Datetime) := @live_iff_of_returned _ _ _ _ _ _ _ granted read later
  refine ⟨authorization, response, envelope, readAt, ⟨consumed, rfl, rfl⟩, ⟨answered, success, validated, same⟩, read, live, ?_⟩
  intro κ β world retrievedAt collection clock broker exchange sent
  obtain ⟨endpoint, gated⟩ := HttpxKiteTransport.exists_gated sent
  obtain ⟨accessToken, found, asked⟩ := gated.asked
  refine ⟨⟨endpoint, ?_⟩, (live _).mp gated.live⟩
  cases token.symm.trans found
  rw [asked, HttpxKiteTransport.request]
  change HttpRequest.mk _ _ [("Authorization", s!"token {session.apiKey}:{envelope.data.accessToken}"), _, _] _ = _
  rw [apiKey]

section Sample

open KiteAuthorizationService HttpxKiteTokenExchanger

/-- A broker that grants one token, and a clock that stands at midnight. -/
def midnightPeer : TokenPeer Unit where
  answer _ _ := .ok (sampleGrant "exchange-api-key" "granted-token")
  clock _ := midnight
  next := id

def midnightComplete : CompleteRequest where
  state := sampleStart.nonce
  requestToken := "request-token"
  credentials := sampleApplication

/-- The sample login, completed with that peer. -/
theorem collection_after_login_sample :
    ∃ result readAt, asUtc midnight "clock value" = .ok readAt ∧
      ∀ later, HttpxKiteTransport.Live result later ↔ ∃ now, asUtc later "clock value" = .ok now ∧ now.micros < brokerExpiry readAt := by
  have valid : validateComplete midnightComplete = .ok () := by decide
  have read : asUtc sampleReading "clock value" = .ok sampleNow := rfl
  have fresh : checkExpiry sampleAuthorization
      sampleReading = .ok sampleNow := by
    have early : ¬sampleAuthorization.expiresAt ≤ sampleNow := by decide
    simp only [checkExpiry, lift_eq_ok_iff.mpr read, ok_bind, if_neg early]
    rfl
  have granted : (httpxExchanger (sampleValidate "exchange-api-key" "granted-token") midnightPeer ()
      (midnightComplete.credentials, midnightComplete.requestToken)).1 = .ok midnightSession :=
    exchangeOf_eq_ok_iff.mpr midnightSession_returned
  have returned : ∃ last log', complete memoryStore
      (httpxExchanger (sampleValidate "exchange-api-key" "granted-token") midnightPeer) sampleReading
      midnightComplete (Function.update (fun _ => none) (digest midnightComplete.state)
        (some sampleAuthorization)) ⟨(), []⟩ =
      (.ok (resultOf sampleAuthorization midnightSession), last, log') := by
    simp only [complete, valid, memoryStore, Function.update_self,
      acceptConsumed, ok_bind, fresh, Log.ask, granted]
    exact ⟨_, _, rfl⟩
  obtain ⟨last, log', returned⟩ := returned
  obtain ⟨_, _, _, readAt, _, _, read, live, _⟩ := collection_after_login returned
  exact ⟨_, readAt, read, live⟩

end Sample

end PortfolioManager.Connectors.Zerodha
