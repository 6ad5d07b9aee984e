import PortfolioManager.Connectors.Zerodha
import PortfolioManager.Python.Httpx
import PortfolioManager.Python.Numbers

/-! # Allowlisted HTTP transport for Kite Connect

A fetch reads the clock if its session expires, sends at most one request, and turns the outcome of
the exchange into a payload or an exception. Only timeouts and network errors of the HTTP library are
translated; what `int` and the constructors raise outside a handler leaves the transport as it is.
-/

namespace PortfolioManager.Connectors.Zerodha

open PortfolioManager.Python PortfolioManager.Domain PortfolioManager.Application Checked

/-- The texts `_validate_secret` lets through. -/
def isHeaderValue (value : String) : Bool := isTrimmed value && isAscii value && value.toList.all isVisible

/-- What the checks of `_validate_secret` come to: a non-empty text of visible ASCII. -/
theorem isHeaderValue_iff {value : String} :
    isHeaderValue value = true ↔ value ≠ "" ∧ ∀ character ∈ value.toList, isVisible character = true := by
  simp only [isHeaderValue, isTrimmed, Bool.and_eq_true, decide_eq_true_eq, isAscii_iff, List.all_eq_true]
  constructor
  · rintro ⟨⟨⟨nonempty, _⟩, _⟩, visible⟩
    exact ⟨nonempty, visible⟩
  · rintro ⟨nonempty, visible⟩
    refine ⟨⟨⟨nonempty, ?_⟩, fun character member => ?_⟩, visible⟩
    · exact (strip_of_solid fun character member => isSpace_of_isVisible (visible character member)).symm
    · have bounds := visible character member
      simp only [isVisible, Bool.and_eq_true, decide_eq_true_eq] at bounds
      omega

structure KiteSession where
  apiKey : String
  accessToken : Option String
  expiresAt : Option Instant
  apiKeyed : isHeaderValue apiKey = true
  tokenShape : ∀ token ∈ accessToken, isHeaderValue token = true
deriving DecidableEq

/-- The error `_validate_secret` raises for a field. -/
def secretError (fieldName : String) : Builtin :=
  .valueError s!"Kite {fieldName} must be a valid non-empty ASCII header value"

def KiteSession.new (apiKey : String) (accessToken : Option String) (expiresAt : Option Datetime) :
    Except Builtin KiteSession := do
  let ⟨apiKeyed⟩ ← check (isHeaderValue apiKey = true) (secretError "API key")
  let ⟨tokenShape⟩ ← check (∀ token ∈ accessToken, isHeaderValue token = true) (secretError "access token")
  let expiry ← whenPresent (asUtc · "expires_at") expiresAt
  return ⟨apiKey, accessToken, expiry, apiKeyed, tokenShape⟩

theorem KiteSession.new_eq_ok_iff {apiKey : String} {accessToken : Option String} {expiresAt : Option Datetime}
    {session : KiteSession} :
    KiteSession.new apiKey accessToken expiresAt = .ok session ↔
      session.apiKey = apiKey ∧ session.accessToken = accessToken ∧
        whenPresent (asUtc · "expires_at") expiresAt = .ok session.expiresAt := by
  simp only [KiteSession.new, check_bind_eq_ok_iff]
  simp only [bind_eq_ok_iff, pure_eq_ok_iff]
  constructor
  · rintro ⟨_, _, expiry, converted, rfl⟩
    exact ⟨rfl, rfl, converted⟩
  · rintro ⟨rfl, rfl, converted⟩
    exact ⟨session.apiKeyed, session.tokenShape, session.expiresAt, converted, rfl⟩

/-- On a UTC expiry only the secrets can be refused, with a `ValueError`. -/
theorem KiteSession.raises_new {apiKey : String} {accessToken : Option String} {expiresAt : Instant} :
    Raises (KiteSession.new apiKey accessToken (some expiresAt.toDatetime)) fun raised =>
      ∃ message, raised = .valueError message := by
  refine (raises_check ⟨_, rfl⟩).bind fun _ _ => (raises_check ⟨_, rfl⟩).bind fun _ _ => ?_
  simp only [whenPresent, asUtc_toDatetime]
  exact raises_ok _

/-- What code around an HTTP exchange can raise: its own exceptions, or those of the HTTP library. -/
inductive HttpRaised where
  | own (raised : Raised)
  | request (error : RequestError)
deriving DecidableEq

/-- The exception is a `ConnectorError`. -/
def HttpRaised.isTyped : HttpRaised → Bool
  | own (.connector _) => true
  | _ => false

/-- `raise ConnectorError(kind, reason_code)` around an HTTP exchange. -/
def raiseHttp {α : Type} (kind : ConnectorFailureKind) (reasonCode : String) : Except HttpRaised α :=
  (raiseConnectorError kind reasonCode none).mapError .own

/-- The handlers around an exchange, for `httpx.TimeoutException` and `httpx.NetworkError`. -/
def translate {α : Type} : Except HttpRaised α → Except HttpRaised α
  | .error (.request .timeout) => raiseHttp .transient "provider.timeout"
  | .error (.request .network) => raiseHttp .transient "provider.network_error"
  | other => other

/-- The loop over the chunks of a body: it stops at the first that takes the size beyond the limit. -/
def readChunks (limit : ℕ) (interruption : Option RequestError) : ℕ → List Bytes → List Bytes → Except HttpRaised Bytes
  | _, chunks, [] =>
      match interruption with
      | none => .ok chunks.flatten
      | some error => .error (.request error)
  | size, chunks, chunk :: rest =>
      if limit < size + chunk.length then raiseHttp .permanent "provider.response_too_large"
      else readChunks limit interruption (size + chunk.length) (chunks ++ [chunk]) rest

/-! ## Raising around an exchange -/

/-- The handlers around an exchange turn the exception into a `ConnectorError`, or it is one. -/
def HttpRaised.isHandled : HttpRaised → Bool
  | own (.connector _) => true
  | request .timeout => true
  | request .network => true
  | _ => false

theorem mapError_own_eq_ok_iff {α : Type} {result : Except Raised α} {value : α} :
    result.mapError HttpRaised.own = .ok value ↔ result = .ok value := by
  cases result <;> simp [Except.mapError]

theorem raiseHttp_eq_error {α : Type} {reasonCode : String} (kind : ConnectorFailureKind) (reasonKey : isKey reasonCode = true) :
    (raiseHttp kind reasonCode : Except HttpRaised α) =
      .error (.own (.connector ⟨kind, reasonCode, none, reasonKey, by simp⟩)) := by
  rw [raiseHttp, raiseConnectorError_of_key reasonKey]
  rfl

theorem exists_raiseHttp {α : Type} {kind : ConnectorFailureKind} {reasonCode : String} (reasonKey : isKey reasonCode = true) :
    ∃ error, (raiseHttp kind reasonCode : Except HttpRaised α) = .error (.own (.connector error)) :=
  ⟨_, raiseHttp_eq_error kind reasonKey⟩

theorem raiseHttp_ne_ok {α : Type} {kind : ConnectorFailureKind} {reasonCode : String} {value : α} :
    raiseHttp kind reasonCode ≠ .ok value := by
  intro returned
  exact raiseConnectorError_ne_ok (mapError_own_eq_ok_iff.mp returned)

theorem HttpRaised.isTyped_iff {raised : HttpRaised} : raised.isTyped = true ↔ ∃ error, raised = .own (.connector error) := by
  rcases raised with (_ | error) | error <;> simp [HttpRaised.isTyped]

theorem raises_raiseHttp {α : Type} {kind : ConnectorFailureKind} {reasonCode : String} {allowed : HttpRaised → Prop}
    (reasonKey : isKey reasonCode = true) (permitted : ∀ error, allowed (.own (.connector error))) :
    Raises (raiseHttp kind reasonCode : Except HttpRaised α) allowed := by
  rw [raiseHttp_eq_error kind reasonKey]
  exact raises_error_iff.mpr (permitted _)

/-- After the handlers, what raises a `ConnectorError` is what they handle. -/
theorem raises_translate_iff {α : Type} {computation : Except HttpRaised α} :
    Raises (translate computation) (fun raised => raised.isTyped = true) ↔
      Raises computation fun raised => raised.isHandled = true := by
  have typed {reasonCode : String} (reasonKey : isKey reasonCode = true) :
      Raises (raiseHttp .transient reasonCode : Except HttpRaised α) fun raised => raised.isTyped = true :=
    raises_raiseHttp reasonKey fun _ => rfl
  cases computation with
  | ok value => simp [translate]
  | error raised =>
    cases raised with
    | own raised => cases raised <;> simp [translate, HttpRaised.isTyped, HttpRaised.isHandled]
    | request error =>
      cases error with
      | timeout => exact ⟨fun _ => raises_error_iff.mpr rfl, fun _ => typed (by decide)⟩
      | network => exact ⟨fun _ => raises_error_iff.mpr rfl, fun _ => typed (by decide)⟩
      | _ => simp [translate, HttpRaised.isTyped, HttpRaised.isHandled]

theorem translate_eq_ok_iff {α : Type} {computation : Except HttpRaised α} {value : α} :
    translate computation = .ok value ↔ computation = .ok value := by
  cases computation with
  | ok value => rfl
  | error error =>
    rcases error with _ | error
    · rfl
    · cases error with
      | timeout => exact iff_of_false raiseHttp_ne_ok nofun
      | network => exact iff_of_false raiseHttp_ne_ok nofun
      | _ => rfl

variable {limit : ℕ} {interruption : Option RequestError}

/-- The loop over the chunks looks at their total size first and at the end of the stream then. -/
theorem readChunks_eq {size : ℕ} (within : size ≤ limit) (chunks rest : List Bytes) :
    readChunks limit interruption size chunks rest =
      if limit < size + rest.flatten.length then raiseHttp .permanent "provider.response_too_large"
      else
        match interruption with
        | none => .ok (chunks ++ rest).flatten
        | some error => .error (.request error) := by
  induction rest generalizing size chunks with
  | nil =>
    have stays : ¬limit < size + ([] : List Bytes).flatten.length := by simpa using within
    rw [if_neg stays, List.append_nil]
    cases interruption <;> rfl
  | cons chunk rest ih =>
    rw [readChunks, List.flatten_cons, List.length_append]
    split_ifs with beyond later later
    · rfl
    · omega
    · rw [ih (by omega), if_pos (by omega)]
    · rw [ih (by omega), if_neg (by omega), List.append_assoc, List.singleton_append]

/-- Reading a body raises what the handlers handle, unless the stream breaks off within the limit otherwise. -/
theorem raises_readChunks_iff {response : HttpResponse} :
    Raises (readChunks limit response.interruption 0 [] response.chunks) (fun raised => raised.isHandled = true) ↔
      (response.body.length ≤ limit → ∀ error ∈ response.interruption, (HttpRaised.request error).isHandled = true) := by
  rw [readChunks_eq (Nat.zero_le limit), Nat.zero_add, ← HttpResponse.body]
  split_ifs with beyond
  · have rejected : Raises (raiseHttp .permanent "provider.response_too_large" : Except HttpRaised Bytes)
        fun raised => raised.isHandled = true := raises_raiseHttp (by decide) fun _ => rfl
    exact iff_of_true rejected fun short => absurd beyond (not_lt.mpr short)
  · cases ending : response.interruption with
    | none => simp
    | some error => simp [not_lt.mp beyond]

theorem readChunks_eq_ok_iff {response : HttpResponse} {body : Bytes} :
    readChunks limit response.interruption 0 [] response.chunks = .ok body ↔
      response.body.length ≤ limit ∧ response.interruption = none ∧ body = response.body := by
  rw [readChunks_eq (Nat.zero_le limit), Nat.zero_add, List.nil_append, ← HttpResponse.body]
  split_ifs with beyond
  · exact iff_of_false raiseHttp_ne_ok fun fits => absurd beyond (not_lt.mpr fits.1)
  · cases ending : response.interruption with
    | none => simp [not_lt.mp beyond, eq_comm]
    | some error => simp

/-! ## The transport -/

namespace HttpxKiteTransport

/-- `_PATHS`. -/
def path : KiteEndpoint → String
  | .holdings => "/portfolio/holdings"
  | .positions => "/portfolio/positions"
  | .funds => "/user/margins"
  | .orders => "/orders"
  | .trades => "/trades"
  | .instruments => "/instruments"

/-- `_max_bytes`. -/
def maxBytes : KiteEndpoint → ℕ
  | .instruments => 64 * 1024 * 1024
  | _ => 16 * 1024 * 1024

/-- A ready state has no reason, and the code of its reason is as it should be. -/
theorem reasonAbsent_of_ready : AuthenticationStatus.ready = .ready → (none : Option String) = none := fun _ => rfl

theorem reasonPresent_of_ready : AuthenticationStatus.ready ≠ .ready → (none : Option String) ≠ none :=
  fun other => absurd rfl other

theorem reasonKey_of_ready : ∀ code ∈ (none : Option String), isKey code = true := by simp

def authenticationState (session : KiteSession) (reading : Datetime) : Except Builtin AuthenticationState :=
  match session.accessToken with
  | none => .ok ⟨.actionRequired, some "session.missing", none, by simp, by simp, by decide⟩
  | some _ =>
      match session.expiresAt with
      | none => .ok ⟨.ready, none, none, reasonAbsent_of_ready, reasonPresent_of_ready, reasonKey_of_ready⟩
      | some expiresAt => do
          let now ← asUtc reading "clock value"
          if expiresAt ≤ now then return ⟨.expired, some "session.expired", some expiresAt, by simp, by simp, by decide⟩
          else return ⟨.ready, none, some expiresAt, reasonAbsent_of_ready, reasonPresent_of_ready, reasonKey_of_ready⟩

/-- `_headers`. -/
def headers (session : KiteSession) : Except HttpRaised (List (String × String)) :=
  match session.accessToken with
  | none => raiseHttp .authentication "session.missing"
  | some accessToken =>
      .ok [("Authorization", s!"token {session.apiKey}:{accessToken}"), ("X-Kite-Version", "3"),
        ("Accept", "application/json, text/csv")]

/-- `_retry_after`, in microseconds. -/
def retryAfter (response : HttpResponse) : Except Builtin (Option ℤ) :=
  match response.header "retry-after" with
  | none => .ok none
  | some value =>
      if isAscii value && isDecimal value then do
        let seconds ← toInt value
        if seconds ≤ 0 ∨ 86400 < seconds then return none
        else return some (seconds * 1000000)
      else .ok none

/-- `_raise_for_status`. -/
def raiseForStatus (response : HttpResponse) : Except HttpRaised Unit :=
  let status := response.statusCode
  if 200 ≤ status ∧ status < 300 then .ok ()
  else if status = 401 ∨ status = 403 then raiseHttp .authentication "session.expired"
  else if status = 429 then do
    let delay ← (lift (retryAfter response)).mapError .own
    (raiseConnectorError .rateLimit "provider.rate_limit" delay).mapError .own
  else if status = 400 then raiseHttp .validation "provider.invalid_request"
  else if status = 404 ∨ status = 405 ∨ status = 410 then raiseHttp .permanent "provider.endpoint_unavailable"
  else if 500 ≤ status ∧ status < 600 then raiseHttp .transient "provider.unavailable"
  else raiseHttp .permission "provider.request_denied"

/-- `_read_bounded` on the declared length. -/
def checkDeclaredLength (response : HttpResponse) (limit : ℕ) : Except HttpRaised Unit :=
  match response.header "content-length" with
  | none => .ok ()
  | some contentLength =>
      match toInt contentLength with
      | .error _ => raiseHttp .validation "provider.invalid_content_length"
      | .ok declaredLength =>
          if declaredLength < 0 ∨ (limit : ℤ) < declaredLength then raiseHttp .permanent "provider.response_too_large"
          else .ok ()

/-- `_read_bounded`. -/
def readBounded (response : HttpResponse) (limit : ℕ) : Except HttpRaised Bytes := do
  checkDeclaredLength response limit
  readChunks limit response.interruption 0 [] response.chunks

/-- The media type of a response. -/
def mediaType (response : HttpResponse) : String := (response.header "content-type").getD "application/octet-stream"

/-- `fetch` inside its handlers: the body and the media type. -/
def download (endpoint : KiteEndpoint) (outcome : HttpOutcome) : Except HttpRaised (Bytes × String) := do
  let response ← outcome.mapError .request
  raiseForStatus response
  let body ← readBounded response (maxBytes endpoint)
  return (body, mediaType response)

/-- `fetch` on the outcome of its exchange. -/
def receive (endpoint : KiteEndpoint) (outcome : HttpOutcome) : Except HttpRaised KitePayload := do
  let (body, mediaType) ← translate (download endpoint outcome)
  if body = [] then raiseHttp .validation "provider.empty_response"
  else (lift (KitePayload.new body mediaType none)).mapError .own

/-- `HttpxKiteTransport.fetch`, with its clock reading, the outcome of its exchange and the requests it sends. -/
def fetch (session : KiteSession) (reading : Datetime) (endpoint : KiteEndpoint) (outcome : HttpOutcome) :
    Except HttpRaised KitePayload × List HttpRequest :=
  match authenticationState session reading with
  | .error error => (.error (.own (.builtin error)), [])
  | .ok authentication =>
      if authentication.status ≠ .ready then
        (raiseHttp .authentication (authentication.reasonCode.getD "session.not_ready"), [])
      else
        match headers session with
        | .error raised => (.error raised, [])
        | .ok headers => (receive endpoint outcome, [⟨"GET", path endpoint, headers, []⟩])

/-! ## The request gate -/

variable {session : KiteSession} {reading : Datetime} {endpoint : KiteEndpoint} {outcome : HttpOutcome}

/-- The state of a session that may be used. -/
def readyState (session : KiteSession) : AuthenticationState :=
  ⟨.ready, none, session.expiresAt, reasonAbsent_of_ready, reasonPresent_of_ready, reasonKey_of_ready⟩

/-- The session has a token, and the clock shows a time before it expires. -/
def Live (session : KiteSession) (reading : Datetime) : Prop :=
  session.accessToken ≠ none ∧ ∀ expiresAt ∈ session.expiresAt, ∃ now, asUtc reading "clock value" = .ok now ∧ now < expiresAt

/-- The request of a fetch. -/
def request (session : KiteSession) (accessToken : String) (endpoint : KiteEndpoint) : HttpRequest where
  method := "GET"
  path := path endpoint
  headers := [("Authorization", s!"token {session.apiKey}:{accessToken}"), ("X-Kite-Version", "3"),
    ("Accept", "application/json, text/csv")]
  form := []

theorem authenticationState_of_live (live : Live session reading) :
    authenticationState session reading = .ok (readyState session) := by
  obtain ⟨present, early⟩ := live
  obtain ⟨token, found⟩ := Option.ne_none_iff_exists'.mp present
  cases expiry : session.expiresAt with
  | none => simp [authenticationState, readyState, found, expiry]
  | some expiresAt =>
    obtain ⟨now, read, before⟩ := early expiresAt expiry
    simp only [authenticationState, found, expiry, read, ok_bind, if_neg (not_le.mpr before), readyState]
    rfl

theorem authenticationState_of_expired {expiresAt now : Instant} (present : session.accessToken ≠ none)
    (expiry : session.expiresAt = some expiresAt) (read : asUtc reading "clock value" = .ok now) (late : expiresAt ≤ now) :
    authenticationState session reading =
      .ok ⟨.expired, some "session.expired", some expiresAt, by simp, by simp, by decide⟩ := by
  obtain ⟨token, found⟩ := Option.ne_none_iff_exists'.mp present
  simp only [authenticationState, found, expiry, read, ok_bind, if_pos late]
  rfl

theorem authenticationState_of_unreadable {expiresAt : Instant} {error : Builtin} (present : session.accessToken ≠ none)
    (expiry : session.expiresAt = some expiresAt) (unread : asUtc reading "clock value" = .error error) :
    authenticationState session reading = .error error := by
  obtain ⟨token, found⟩ := Option.ne_none_iff_exists'.mp present
  simp only [authenticationState, found, expiry, unread, error_bind]

/-- A session is live, lacks a token, or has an expiry that has passed or cannot be compared with the clock. -/
theorem gate_cases (session : KiteSession) (reading : Datetime) :
    Live session reading ∨ session.accessToken = none ∨
      session.accessToken ≠ none ∧ ∃ expiresAt, session.expiresAt = some expiresAt ∧
        ((∃ now, asUtc reading "clock value" = .ok now ∧ expiresAt ≤ now) ∨ ∃ error, asUtc reading "clock value" = .error error) := by
  cases token : session.accessToken with
  | none => exact .inr (.inl rfl)
  | some accessToken =>
    have present : session.accessToken ≠ none := by simp [token]
    cases expiry : session.expiresAt with
    | none => exact .inl ⟨present, by simp [expiry]⟩
    | some expiresAt =>
      cases read : asUtc reading "clock value" with
      | error error => exact .inr (.inr ⟨nofun, expiresAt, rfl, .inr ⟨error, rfl⟩⟩)
      | ok now =>
        rcases lt_or_ge now expiresAt with early | late
        · exact .inl ⟨present, by simpa [expiry, read] using early⟩
        · exact .inr (.inr ⟨nofun, expiresAt, rfl, .inl ⟨now, rfl, late⟩⟩)

/-- A live session sends one request and goes by its outcome. -/
theorem fetch_of_live (live : Live session reading) :
    ∃ accessToken, session.accessToken = some accessToken ∧
      fetch session reading endpoint outcome = (receive endpoint outcome, [request session accessToken endpoint]) := by
  obtain ⟨token, found⟩ := Option.ne_none_iff_exists'.mp live.1
  refine ⟨token, found, ?_⟩
  simp only [fetch, authenticationState_of_live live, readyState, headers, found]
  rfl

theorem fetch_of_expired {expiresAt now : Instant} (present : session.accessToken ≠ none)
    (expiry : session.expiresAt = some expiresAt) (read : asUtc reading "clock value" = .ok now) (late : expiresAt ≤ now) :
    fetch session reading endpoint outcome = (raiseHttp .authentication "session.expired", []) := by
  simp only [fetch, authenticationState_of_expired present expiry read late]
  rfl

theorem fetch_of_missing (missing : session.accessToken = none) :
    fetch session reading endpoint outcome = (raiseHttp .authentication "session.missing", []) := by
  simp only [fetch, authenticationState, missing]
  rfl

theorem fetch_of_unreadable {expiresAt : Instant} {error : Builtin} (present : session.accessToken ≠ none)
    (expiry : session.expiresAt = some expiresAt) (unread : asUtc reading "clock value" = .error error) :
    fetch session reading endpoint outcome = (.error (.own (.builtin error)), []) := by
  simp only [fetch, authenticationState_of_unreadable present expiry unread]

end HttpxKiteTransport

end PortfolioManager.Connectors.Zerodha
