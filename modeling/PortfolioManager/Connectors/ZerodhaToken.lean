import PortfolioManager.Connectors.ZerodhaAuth

/-! # Exchanging a request token for a session

The response passes the status check, the bounded reading and the validation of its JSON, which is a
parameter here. The session is then built from the key of the credentials, the token in the body and
an expiry computed from a clock reading; only a `ValueError` of that last step is translated.
-/

namespace PortfolioManager.Connectors.Zerodha

open PortfolioManager.Python PortfolioManager.Domain PortfolioManager.Application Checked KiteAuthorizationService

/-- `_MAX_AUTH_RESPONSE_BYTES`. -/
def maxAuthResponseBytes : ℕ := 1024 * 1024

/-- `_TokenData`. -/
structure TokenData where
  apiKey : String
  accessToken : String

/-- `_TokenEnvelope`, whose status can only be `success`. -/
structure TokenEnvelope where
  data : TokenData

/-- `_TokenEnvelope.model_validate_json`; it fails with a `ValidationError` only. -/
abbrev EnvelopeValidator := Bytes → Option TokenEnvelope

/-- `hmac.compare_digest` on texts. -/
def compareDigest (first second : String) : Except Builtin Bool :=
  if isAscii first && isAscii second then .ok (first = second)
  else .error (.typeError "comparing strings with non-ASCII characters is not supported")

namespace HttpxKiteTokenExchanger

/-- `_KOLKATA`: UTC+05:30, in microseconds. -/
def kolkataOffset : ℤ := 19800000000

/-- `time(6)`. -/
def sixHours : ℤ := 21600000000

/-- The number of days a `date` can denote. -/
def calendarDays : ℤ := 3652059

/-- The calendar day in Kolkata, counted from the first. -/
def kolkataDay (micros : ℤ) : ℤ := (micros + kolkataOffset) / microsPerDay

/-- `_session_expiry`: to Kolkata, one day on, to six o'clock there, and back to UTC. -/
def sessionExpiry (observedAt : Instant) : Except Builtin Instant := do
  let ⟨_⟩ ← check (InDatetimeRange (observedAt.micros + kolkataOffset)) (.overflowError "date value out of range")
  let localDate := kolkataDay observedAt.micros + 1
  let ⟨_⟩ ← check (localDate < calendarDays) (.overflowError "date value out of range")
  let wall := localDate * microsPerDay + sixHours
  let ⟨inRange⟩ ← check (InDatetimeRange (wall - kolkataOffset)) (.overflowError "date value out of range")
  return ⟨wall - kolkataOffset, inRange⟩

/-- `_raise_for_status`. -/
def raiseForStatus (response : HttpResponse) : Except HttpRaised Unit :=
  let status := response.statusCode
  if 200 ≤ status ∧ status < 300 then .ok ()
  else if status = 400 ∨ status = 403 then raiseHttp .authentication "auth.exchange_rejected"
  else if status = 429 then raiseHttp .rateLimit "provider.rate_limit"
  else if 500 ≤ status ∧ status < 600 then raiseHttp .transient "provider.unavailable"
  else raiseHttp .permanent "provider.exchange_failed"

/-- The request of an exchange: its checksum takes the place of the API secret. -/
def request (credentials : KiteApiCredentials) (requestToken : String) : HttpRequest where
  method := "POST"
  path := "/session/token"
  headers := [("X-Kite-Version", "3")]
  form := [("api_key", credentials.apiKey), ("request_token", requestToken),
    ("checksum", Sha256.hexdigest (encode (credentials.apiKey ++ requestToken ++ credentials.apiSecret)))]

/-- `_read_bounded`. -/
def readBounded (response : HttpResponse) : Except HttpRaised Bytes :=
  readChunks maxAuthResponseBytes response.interruption 0 [] response.chunks

/-- `exchange` inside its handlers: the body. -/
def download (outcome : HttpOutcome) : Except HttpRaised Bytes := do
  let response ← outcome.mapError .request
  raiseForStatus response
  readBounded response

/-- The session of a token, on the clock reading that dates it. -/
def openSession (credentials : KiteApiCredentials) (reading : Datetime) (accessToken : String) : Except Builtin KiteSession := do
  let now ← asUtc reading "clock value"
  let expiresAt ← sessionExpiry now
  KiteSession.new credentials.apiKey (some accessToken) (some expiresAt.toDatetime)

/-- `exchange` on the body. -/
def accept (validate : EnvelopeValidator) (reading : Datetime) (credentials : KiteApiCredentials) (content : Bytes) :
    Except HttpRaised KiteSession :=
  match validate content with
  | none => raiseHttp .validation "provider.invalid_response"
  | some envelope => do
      let same ← (lift (compareDigest envelope.data.apiKey credentials.apiKey)).mapError .own
      if same then
        match openSession credentials reading envelope.data.accessToken with
        | .error (.valueError _) => raiseHttp .validation "provider.invalid_response"
        | other => (lift other).mapError .own
      else raiseHttp .validation "provider.api_key_mismatch"

/-- `HttpxKiteTokenExchanger.exchange`, with its clock reading, the outcome of its HTTP exchange and the
requests it sends. -/
def exchange (validate : EnvelopeValidator) (reading : Datetime) (credentials : KiteApiCredentials) (requestToken : String)
    (outcome : HttpOutcome) : Except HttpRaised KiteSession × List HttpRequest :=
  match validateCredential requestToken "request token" with
  | .error raised => (.error (.own raised), [])
  | .ok _ =>
      (do
        let content ← translate (download outcome)
        accept validate reading credentials content, [request credentials requestToken])

/-! ## The session of a token -/

/-- The session of a token can be dated: the clock reading has a UTC value, and Kolkata a next day. -/
def DatesSession (reading : Datetime) : Prop :=
  ∃ offset, reading.utcoffset = some offset ∧ InDatetimeRange (reading.wall - offset) ∧
    kolkataDay (reading.wall - offset) + 1 < calendarDays

/-- Only the next day in Kolkata can be missing: everything else stays in range. -/
theorem sessionExpiry_cases (observedAt : Instant) :
    (kolkataDay observedAt.micros + 1 < calendarDays ∧ ∃ expiresAt, sessionExpiry observedAt = .ok expiresAt ∧
        expiresAt.micros = (kolkataDay observedAt.micros + 1) * microsPerDay + sixHours - kolkataOffset) ∨
      (¬kolkataDay observedAt.micros + 1 < calendarDays ∧ ∃ message, sessionExpiry observedAt = .error (.overflowError message)) := by
  have observed := observedAt.inRange
  unfold sessionExpiry
  dsimp only
  by_cases next : kolkataDay observedAt.micros + 1 < calendarDays
  · have shifted : InDatetimeRange (observedAt.micros + kolkataOffset) := by
      simp only [InDatetimeRange, datetimeSpan, microsPerDay, kolkataDay, kolkataOffset, calendarDays] at *
      omega
    have dated : InDatetimeRange ((kolkataDay observedAt.micros + 1) * microsPerDay + sixHours - kolkataOffset) := by
      simp only [InDatetimeRange, datetimeSpan, microsPerDay, kolkataDay, kolkataOffset, sixHours, calendarDays] at *
      omega
    refine .inl ⟨next, ⟨_, dated⟩, ?_, rfl⟩
    simp only [check_of _ shifted, check_of _ next, check_of _ dated, ok_bind]
    rfl
  · refine .inr ⟨next, "date value out of range", ?_⟩
    by_cases shifted : InDatetimeRange (observedAt.micros + kolkataOffset)
    · simp only [check_of _ shifted, check_of_not _ next, ok_bind, error_bind]
    · simp only [check_of_not _ shifted, error_bind]

theorem sessionExpiry_eq_ok_iff {observedAt expiresAt : Instant} :
    sessionExpiry observedAt = .ok expiresAt ↔ kolkataDay observedAt.micros + 1 < calendarDays ∧
      expiresAt.micros = (kolkataDay observedAt.micros + 1) * microsPerDay + sixHours - kolkataOffset := by
  rcases sessionExpiry_cases observedAt with ⟨next, found, computed, value⟩ | ⟨missing, message, failed⟩
  · rw [computed, Except.ok.injEq]
    constructor
    · rintro rfl
      exact ⟨next, value⟩
    · rintro ⟨_, same⟩
      exact Instant.micros_injective (value.trans same.symm)
  · exact iff_of_false (failed ▸ nofun) fun dated => missing dated.1

/-- A timezone-aware reading dates the session, or its conversions overflow. -/
theorem openSession_cases {credentials : KiteApiCredentials} {reading : Datetime} (aware : reading.Aware) (accessToken : String) :
    (DatesSession reading ∧ ∃ now expiresAt, asUtc reading "clock value" = .ok now ∧ sessionExpiry now = .ok expiresAt ∧
        openSession credentials reading accessToken =
          KiteSession.new credentials.apiKey (some accessToken) (some expiresAt.toDatetime)) ∨
      (¬DatesSession reading ∧ ∃ message, openSession credentials reading accessToken = .error (.overflowError message)) := by
  obtain ⟨offset, zone⟩ := Option.isSome_iff_exists.mp aware
  by_cases inRange : InDatetimeRange (reading.wall - offset)
  · have read : asUtc reading "clock value" = .ok ⟨reading.wall - offset, inRange⟩ := asUtc_eq_ok_iff.mpr ⟨offset, zone, rfl⟩
    rcases sessionExpiry_cases ⟨reading.wall - offset, inRange⟩ with ⟨next, expiresAt, computed, _⟩ | ⟨missing, message, failed⟩
    · refine .inl ⟨⟨offset, zone, inRange, next⟩, _, expiresAt, read, computed, ?_⟩
      simp only [openSession, read, computed, ok_bind]
    · refine .inr ⟨?_, message, ?_⟩
      · rintro ⟨offset', zone', _, next⟩
        cases zone.symm.trans zone'
        exact missing next
      · simp only [openSession, read, failed, ok_bind, error_bind]
  · refine .inr ⟨?_, "date value out of range", ?_⟩
    · rintro ⟨offset', zone', inRange', _⟩
      cases zone.symm.trans zone'
      exact inRange inRange'
    · simp only [openSession, asUtc, zone, check_of_not _ inRange, error_bind]

theorem openSession_eq_ok_iff {credentials : KiteApiCredentials} {reading : Datetime} {accessToken : String}
    {session : KiteSession} :
    openSession credentials reading accessToken = .ok session ↔
      session.apiKey = credentials.apiKey ∧ session.accessToken = some accessToken ∧
        ∃ now expiresAt, asUtc reading "clock value" = .ok now ∧ sessionExpiry now = .ok expiresAt ∧
          session.expiresAt = some expiresAt := by
  simp only [openSession, bind_eq_ok_iff, KiteSession.new_eq_ok_iff, whenPresent_some_eq_ok_iff, asUtc_toDatetime,
    Except.ok.injEq, exists_eq_left']
  constructor
  · rintro ⟨now, read, expiresAt, dated, apiKey, token, expiry⟩
    exact ⟨apiKey, token, now, expiresAt, read, dated, expiry.symm⟩
  · rintro ⟨apiKey, token, now, expiresAt, read, dated, expiry⟩
    exact ⟨now, read, expiresAt, dated, apiKey, token, expiry.symm⟩

/-! ## The response -/

variable {validate : EnvelopeValidator} {reading : Datetime} {credentials : KiteApiCredentials} {requestToken : String}

theorem compareDigest_of_ascii {first second : String} (ascii : isAscii first = true) (ascii' : isAscii second = true) :
    compareDigest first second = .ok (decide (first = second)) := by
  rw [compareDigest, ascii, ascii']
  rfl

theorem compareDigest_eq_ok_iff {first second : String} {same : Bool} :
    compareDigest first second = .ok same ↔ (isAscii first = true ∧ isAscii second = true) ∧ decide (first = second) = same := by
  unfold compareDigest
  split_ifs with ascii
  · rw [Bool.and_eq_true] at ascii
    simp [ascii]
  · rw [Bool.and_eq_true] at ascii
    simp [ascii]

/-- A valid credential is ASCII. -/
theorem isAscii_of_isCredential {value : String} (valid : isCredential value = true) : isAscii value = true := by
  simp only [isCredential, isHeaderValue, Bool.and_eq_true] at valid
  exact valid.1.1.2

/-- A body is accepted when it is an envelope with the key of the credentials and a token a session takes. -/
theorem accept_eq_ok_iff {content : Bytes} {session : KiteSession} :
    accept validate reading credentials content = .ok session ↔
      ∃ envelope, validate content = some envelope ∧ envelope.data.apiKey = credentials.apiKey ∧
        openSession credentials reading envelope.data.accessToken = .ok session := by
  unfold accept
  cases validated : validate content with
  | none =>
    exact iff_of_false raiseHttp_ne_ok (by simp)
  | some envelope =>
    simp only [bind_eq_ok_iff, mapError_own_eq_ok_iff, lift_eq_ok_iff, compareDigest_eq_ok_iff,
      isAscii_of_isCredential credentials.apiKeyed, and_true, Option.some.injEq, exists_eq_left']
    constructor
    · rintro ⟨same, ⟨_, rfl⟩, opened⟩
      split_ifs at opened with equal
      · refine ⟨of_decide_eq_true equal, ?_⟩
        split at opened
        · exact absurd opened raiseHttp_ne_ok
        · exact lift_eq_ok_iff.mp (mapError_own_eq_ok_iff.mp opened)
      · exact absurd opened raiseHttp_ne_ok
    · rintro ⟨same, opened⟩
      refine ⟨true, ⟨same ▸ isAscii_of_isCredential credentials.apiKeyed, decide_eq_true same⟩, ?_⟩
      simp only [if_true, opened]
      rfl

/-- A body raises `ConnectorError`s only, unless its key cannot be compared or its session cannot be dated. -/
theorem raises_accept_iff (aware : reading.Aware) {content : Bytes} :
    Raises (accept validate reading credentials content) (fun raised => raised.isTyped = true) ↔
      ∀ envelope, validate content = some envelope →
        isAscii envelope.data.apiKey = true ∧ (envelope.data.apiKey = credentials.apiKey → DatesSession reading) := by
  unfold accept
  cases validated : validate content with
  | none => exact iff_of_true (raises_raiseHttp (by decide) fun _ => rfl) nofun
  | some envelope =>
    simp only [Option.some.injEq, forall_eq']
    by_cases ascii : isAscii envelope.data.apiKey = true
    · rw [compareDigest_of_ascii ascii (isAscii_of_isCredential credentials.apiKeyed)]
      change Raises (if decide _ = true then _ else _) _ ↔ _
      split_ifs with same
      · rw [decide_eq_true_eq] at same
        rcases openSession_cases aware envelope.data.accessToken with ⟨dates, now, expiresAt, _, _, opened⟩ | ⟨undated, message, failed⟩
        · refine iff_of_true ?_ ⟨ascii, fun _ => dates⟩
          rw [opened]
          cases built : KiteSession.new credentials.apiKey (some envelope.data.accessToken) (some expiresAt.toDatetime) with
          | ok session => exact raises_ok session
          | error raised =>
            obtain ⟨message, rfl⟩ := KiteSession.raises_new raised built
            exact raises_raiseHttp (by decide) fun _ => rfl
        · rw [failed]
          exact iff_of_false (fun raises => Bool.false_ne_true (raises _ rfl)) fun conditions => undated (conditions.2 same)
      · refine iff_of_true (raises_raiseHttp (by decide) fun _ => rfl) ⟨ascii, fun equal => ?_⟩
        exact absurd (decide_eq_true equal) same
    · have refused : compareDigest envelope.data.apiKey credentials.apiKey =
          .error (.typeError "comparing strings with non-ASCII characters is not supported") := by
        simp [compareDigest, ascii]
      rw [refused]
      exact iff_of_false (fun raises => Bool.false_ne_true (raises _ rfl)) fun conditions => ascii conditions.1

/-! ## The exchange -/

theorem raiseForStatus_cases (response : HttpResponse) :
    (response.Succeeds ∧ raiseForStatus response = .ok ()) ∨
      (¬response.Succeeds ∧ ∃ error, raiseForStatus response = .error (.own (.connector error))) := by
  unfold raiseForStatus HttpResponse.Succeeds
  dsimp only
  split_ifs with success
  · exact .inl ⟨success, rfl⟩
  all_goals exact .inr ⟨success, exists_raiseHttp (by decide)⟩

theorem download_eq_ok_iff {outcome : HttpOutcome} {content : Bytes} :
    download outcome = .ok content ↔ ∃ response, outcome = .ok response ∧ response.Succeeds ∧
      response.body.length ≤ maxAuthResponseBytes ∧ response.interruption = none ∧ content = response.body := by
  cases outcome with
  | error error => exact iff_of_false nofun (by simp)
  | ok response =>
    simp only [Except.ok.injEq, exists_eq_left']
    change (raiseForStatus response >>= fun _ =>
      readChunks maxAuthResponseBytes response.interruption 0 [] response.chunks) = _ ↔ _
    rw [bind_eq_ok_iff]
    simp only [readChunks_eq_ok_iff]
    rcases raiseForStatus_cases response with ⟨success, outcome⟩ | ⟨failure, error, outcome⟩
    · simp [outcome, success]
    · simp [outcome, failure]

/-- Reading a response raises only what the handlers handle, unless its body breaks off within the limit otherwise. -/
theorem raises_download_iff {response : HttpResponse} :
    Raises (download (.ok response)) (fun raised => raised.isHandled = true) ↔
      (response.Succeeds → response.body.length ≤ maxAuthResponseBytes →
        ∀ error ∈ response.interruption, (HttpRaised.request error).isHandled = true) := by
  change Raises (raiseForStatus response >>= fun _ =>
    readChunks maxAuthResponseBytes response.interruption 0 [] response.chunks) _ ↔ _
  rw [raises_bind_iff]
  simp only [raises_readChunks_iff]
  rcases raiseForStatus_cases response with ⟨success, outcome⟩ | ⟨failure, error, outcome⟩
  · simp [outcome, success]
  · rw [outcome, raises_error_iff]
    exact iff_of_true ⟨rfl, nofun⟩ fun success => absurd success failure

/-- What an exchange that returns a session went through. -/
theorem exchange_eq_ok_iff {outcome : HttpOutcome} {session : KiteSession} :
    (exchange validate reading credentials requestToken outcome).1 = .ok session ↔
      isCredential requestToken = true ∧ ∃ response, outcome = .ok response ∧ response.Succeeds ∧
        response.body.length ≤ maxAuthResponseBytes ∧ response.interruption = none ∧
        ∃ envelope, validate response.body = some envelope ∧ envelope.data.apiKey = credentials.apiKey ∧
          openSession credentials reading envelope.data.accessToken = .ok session := by
  unfold exchange validateCredential
  by_cases valid : isCredential requestToken = true
  · rw [check_of _ valid]
    change (translate (download outcome) >>= accept validate reading credentials) = _ ↔ _
    simp only [bind_eq_ok_iff, translate_eq_ok_iff, download_eq_ok_iff, accept_eq_ok_iff, valid, true_and]
    constructor
    · rintro ⟨content, ⟨response, received, success, short, whole, rfl⟩, accepted⟩
      exact ⟨response, received, success, short, whole, accepted⟩
    · rintro ⟨response, received, success, short, whole, accepted⟩
      exact ⟨response.body, ⟨response, received, success, short, whole, rfl⟩, accepted⟩
  · rw [check_of_not _ valid]
    exact iff_of_false nofun fun returned => valid returned.1

theorem raises_exchange_iff (aware : reading.Aware) (valid : isCredential requestToken = true) {response : HttpResponse} :
    Raises (exchange validate reading credentials requestToken (.ok response)).1 (fun raised => raised.isTyped = true) ↔
      (response.Succeeds → response.body.length ≤ maxAuthResponseBytes →
        (∀ error ∈ response.interruption, (HttpRaised.request error).isHandled = true) ∧
          (response.interruption = none → ∀ envelope, validate response.body = some envelope →
            isAscii envelope.data.apiKey = true ∧ (envelope.data.apiKey = credentials.apiKey → DatesSession reading))) := by
  unfold exchange validateCredential
  rw [check_of _ valid]
  change Raises (translate (download (.ok response)) >>= accept validate reading credentials) _ ↔ _
  simp only [raises_bind_iff, raises_translate_iff, raises_download_iff, translate_eq_ok_iff, download_eq_ok_iff,
    raises_accept_iff aware, Except.ok.injEq, exists_eq_left']
  constructor
  · rintro ⟨broken, read⟩ success short
    exact ⟨broken success short, fun whole => read response.body ⟨success, short, whole, rfl⟩⟩
  · intro each
    refine ⟨fun success short => (each success short).1, ?_⟩
    rintro content ⟨success, short, whole, rfl⟩
    exact (each success short).2 whole

end HttpxKiteTokenExchanger

end PortfolioManager.Connectors.Zerodha
