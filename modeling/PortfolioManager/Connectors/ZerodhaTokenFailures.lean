import PortfolioManager.Connectors.ZerodhaToken

/-! # Failures of the token exchange

An exchange is meant to return a session of the credentials it was given, exactly on the responses that
grant one, and to raise a `ConnectorError` on every other. What gets past is the `TypeError` of the
constant-time comparison, on a key outside ASCII, the `OverflowError` of a clock without a session expiry, and
what breaks off a body other than a timeout or a network error.
-/

namespace PortfolioManager.Connectors.Zerodha.HttpxKiteTokenExchanger

open PortfolioManager.Python PortfolioManager.Domain PortfolioManager.Application Checked

variable {validate : EnvelopeValidator} {reading : Datetime} {credentials : KiteApiCredentials} {requestToken : String}
  {response : HttpResponse}

/-- The response arrives whole and grants an access token to the credentials. -/
def Grants (validate : EnvelopeValidator) (credentials : KiteApiCredentials) (response : HttpResponse) (accessToken : String) :
    Prop :=
  response.Succeeds ∧ response.body.length ≤ maxAuthResponseBytes ∧ response.interruption = none ∧
    (∃ envelope, validate response.body = some envelope ∧ envelope.data.apiKey = credentials.apiKey ∧
      envelope.data.accessToken = accessToken) ∧
    accessToken ≠ "" ∧ ∀ character ∈ accessToken.toList, isVisible character = true

/-- What an exchange owes its caller. -/
structure Faithful (validate : EnvelopeValidator) (reading : Datetime) (credentials : KiteApiCredentials)
    (requestToken : String) (response : HttpResponse) : Prop where
  returned : ∀ session, (exchange validate reading credentials requestToken (.ok response)).1 = .ok session →
    session.apiKey = credentials.apiKey ∧
      ∃ accessToken, session.accessToken = some accessToken ∧ Grants validate credentials response accessToken
  granted : ∀ accessToken, Grants validate credentials response accessToken →
    ∃ session, (exchange validate reading credentials requestToken (.ok response)).1 = .ok session ∧
      session.accessToken = some accessToken
  typed : ∀ raised, (exchange validate reading credentials requestToken (.ok response)).1 = .error raised →
    ∃ error, raised = .own (.connector error)

theorem grants_of_returned {session : KiteSession}
    (returned : (exchange validate reading credentials requestToken (.ok response)).1 = .ok session) :
    session.apiKey = credentials.apiKey ∧
      ∃ accessToken, session.accessToken = some accessToken ∧ Grants validate credentials response accessToken := by
  obtain ⟨_, response', received, success, short, whole, envelope, validated, sameKey, opened⟩ :=
    exchange_eq_ok_iff.mp returned
  cases received
  obtain ⟨apiKey, token, _⟩ := openSession_eq_ok_iff.mp opened
  have shaped := isHeaderValue_iff.mp (session.tokenShape _ token)
  exact ⟨apiKey, _, token, success, short, whole, ⟨envelope, validated, sameKey, rfl⟩, shaped⟩

/-- A grant is taken up when its session can be dated. -/
theorem exists_session_of_grants (valid : isCredential requestToken = true) (dates : DatesSession reading)
    {accessToken : String} (grants : Grants validate credentials response accessToken) :
    ∃ session, (exchange validate reading credentials requestToken (.ok response)).1 = .ok session ∧
      session.accessToken = some accessToken := by
  obtain ⟨success, short, whole, ⟨envelope, validated, sameKey, rfl⟩, shaped⟩ := grants
  obtain ⟨offset, zone, inRange, next⟩ := dates
  have read : asUtc reading "clock value" = .ok ⟨reading.wall - offset, inRange⟩ := asUtc_eq_ok_iff.mpr ⟨offset, zone, rfl⟩
  rcases sessionExpiry_cases ⟨reading.wall - offset, inRange⟩ with ⟨_, expiresAt, computed, _⟩ | ⟨missing, _⟩
  · have keyed : isHeaderValue credentials.apiKey = true := (Bool.and_eq_true _ _ ▸ credentials.apiKeyed).1
    have tokenShape : ∀ token ∈ some envelope.data.accessToken, isHeaderValue token = true := by
      rintro token ⟨rfl⟩
      exact isHeaderValue_iff.mpr shaped
    let session : KiteSession := ⟨credentials.apiKey, some envelope.data.accessToken, some expiresAt, keyed, tokenShape⟩
    refine ⟨session, exchange_eq_ok_iff.mpr ⟨valid, response, rfl, success, short, whole, envelope, validated, sameKey, ?_⟩, rfl⟩
    exact openSession_eq_ok_iff.mpr ⟨rfl, rfl, _, expiresAt, read, computed, rfl⟩
  · exact absurd next missing

theorem typed_iff {computation : Except HttpRaised KiteSession} :
    Raises computation (fun raised => raised.isTyped = true) ↔
      ∀ raised, computation = .error raised → ∃ error, raised = .own (.connector error) :=
  forall₂_congr fun _ _ => HttpRaised.isTyped_iff

/-- An exchange is faithful exactly when a short body of success breaks off, if it does, by a timeout or a
network error, and one that arrives whole as an envelope has an ASCII key and, when that key is the one of the
credentials, comes at a moment that dates a session. -/
theorem exchange_faithful_iff (aware : reading.Aware) (valid : isCredential requestToken = true) :
    Faithful validate reading credentials requestToken response ↔
      (response.Succeeds → response.body.length ≤ maxAuthResponseBytes →
        (∀ error ∈ response.interruption, (HttpRaised.request error).isHandled = true) ∧
          (response.interruption = none → ∀ envelope, validate response.body = some envelope →
            isAscii envelope.data.apiKey = true ∧ (envelope.data.apiKey = credentials.apiKey → DatesSession reading))) := by
  rw [← raises_exchange_iff aware valid]
  constructor
  · exact fun faithful => typed_iff.mpr faithful.typed
  · intro raises
    have conditions := (raises_exchange_iff aware valid).mp raises
    refine ⟨fun session => grants_of_returned, fun accessToken grants => ?_, typed_iff.mp raises⟩
    have dates : DatesSession reading := by
      obtain ⟨success, short, whole, ⟨envelope, validated, sameKey, _⟩, _⟩ := grants
      exact ((conditions success short).2 whole envelope validated).2 sameKey
    exact exists_session_of_grants valid dates grants

/-! ## A body with a given key and token -/

def sampleApplication : KiteApiCredentials where
  apiKey := "exchange-api-key"
  apiSecret := "exchange-api-secret"
  apiKeyed := by decide
  secretShape := by decide

def sampleMoment : Datetime := ({ micros := 63921880900000000 } : Instant).toDatetime

def sampleBody (apiKey accessToken : String) : Bytes :=
  encode ("\x7b\"status\":\"success\",\"data\":\x7b\"api_key\":\"" ++ apiKey ++ "\",\"access_token\":\"" ++ accessToken ++
    "\"\x7d\x7d")

/-- The validation, as far as that body is concerned. -/
def sampleValidate (apiKey accessToken : String) : EnvelopeValidator := fun content =>
  if content = sampleBody apiKey accessToken then some ⟨⟨apiKey, accessToken⟩⟩ else none

def sampleGrant (apiKey accessToken : String) : HttpResponse where
  statusCode := 200
  header _ := none
  chunks := [sampleBody apiKey accessToken]
  interruption := none

theorem sampleValidate_body (apiKey accessToken : String) :
    sampleValidate apiKey accessToken (sampleGrant apiKey accessToken).body = some ⟨⟨apiKey, accessToken⟩⟩ := by
  simp [sampleValidate, sampleGrant, HttpResponse.body]

theorem sampleMoment_aware : sampleMoment.Aware := rfl

theorem exchange_faithful_iff_sample :
    Faithful (sampleValidate "exchange-api-key" "granted-token") sampleMoment sampleApplication "request-token"
      (sampleGrant "exchange-api-key" "granted-token") := by
  refine (exchange_faithful_iff sampleMoment_aware (by decide)).mpr fun _ _ => ⟨nofun, ?_⟩
  intro _ envelope validated
  rw [sampleValidate_body, Option.some.injEq] at validated
  subst validated
  exact ⟨by decide, fun _ => ⟨0, rfl, by decide, by decide⟩⟩

/-- A key outside ASCII gets past the handlers. -/
theorem exchange_escapes :
    (exchange (sampleValidate "ключ" "granted-token") sampleMoment sampleApplication "request-token"
        (.ok (sampleGrant "ключ" "granted-token"))).1 =
      .error (.own (.builtin (.typeError "comparing strings with non-ASCII characters is not supported"))) ∧
    ¬Faithful (sampleValidate "ключ" "granted-token") sampleMoment sampleApplication "request-token"
      (sampleGrant "ключ" "granted-token") := by
  have escapes : (exchange (sampleValidate "ключ" "granted-token") sampleMoment sampleApplication "request-token"
      (.ok (sampleGrant "ключ" "granted-token"))).1 =
      .error (.own (.builtin (.typeError "comparing strings with non-ASCII characters is not supported"))) := by
    rfl
  refine ⟨escapes, fun faithful => ?_⟩
  obtain ⟨error, typed⟩ := faithful.typed _ escapes
  cases typed

end PortfolioManager.Connectors.Zerodha.HttpxKiteTokenExchanger
