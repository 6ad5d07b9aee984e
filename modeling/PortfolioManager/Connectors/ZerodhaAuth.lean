import PortfolioManager.Application.Connectors
import PortfolioManager.Connectors.ZerodhaHttp
import PortfolioManager.Library.Transcript
import PortfolioManager.Python.Url
import Mathlib.Logic.Function.Basic

/-! # Interactive Kite authorization with single-use callback state

`start` and `complete` are cut where the source awaits or reads the clock, so that the same
segments serve the sequential functions here and the interleaved calls of the next module. The
nonce store is a port: any state with an atomic `issue` and `consume`.
-/

namespace PortfolioManager.Connectors.Zerodha

open PortfolioManager.Python PortfolioManager.Domain PortfolioManager.Application Checked Transcript

/-- `_NONCE_TTL`, five minutes in microseconds. -/
def nonceTtl : ℤ := 300000000

/-- The texts `_validate_credential` lets through. -/
def isCredential (value : String) : Bool := isHeaderValue value && value.length ≤ 512

/-- `_validate_credential`. -/
def validateCredential (value name : String) : Except Raised Unit := do
  let ⟨_⟩ ← check (isCredential value = true)
    (.builtin (.valueError s!"Kite {name} must be a valid non-empty ASCII value"))
  return ()

structure KiteApiCredentials where
  apiKey : String
  apiSecret : String
  apiKeyed : isCredential apiKey = true
  secretShape : isCredential apiSecret = true
deriving DecidableEq

def KiteApiCredentials.new (apiKey apiSecret : String) : Except Raised KiteApiCredentials := do
  let ⟨apiKeyed⟩ ← check (isCredential apiKey = true)
    (.builtin (.valueError "Kite API key must be a valid non-empty ASCII value"))
  let ⟨secretShape⟩ ← check (isCredential apiSecret = true)
    (.builtin (.valueError "Kite API secret must be a valid non-empty ASCII value"))
  return ⟨apiKey, apiSecret, apiKeyed, secretShape⟩

structure PendingKiteAuthorization where
  tenantId : TenantId
  connectionId : BrokerConnectionId
  nonceDigest : String
  expiresAt : Instant
  digestShape : isDigest nonceDigest = true

def PendingKiteAuthorization.new (tenantId : TenantId) (connectionId : BrokerConnectionId) (nonceDigest : String)
    (expiresAt : Datetime) : Except Builtin PendingKiteAuthorization := do
  let ⟨digestShape⟩ ← check (isDigest nonceDigest = true)
    (.valueError "authorization nonce digest must be lowercase SHA-256")
  let expiry ← asUtc expiresAt "expires_at"
  return ⟨tenantId, connectionId, nonceDigest, expiry, digestShape⟩

theorem PendingKiteAuthorization.new_eq_ok {tenantId : TenantId} {connectionId : BrokerConnectionId} {nonceDigest : String}
    {expiresAt : Datetime} {authorization : PendingKiteAuthorization}
    (built : PendingKiteAuthorization.new tenantId connectionId nonceDigest expiresAt = .ok authorization) :
    authorization.tenantId = tenantId ∧ authorization.connectionId = connectionId ∧
      authorization.nonceDigest = nonceDigest ∧ asUtc expiresAt "expires_at" = .ok authorization.expiresAt := by
  simp only [PendingKiteAuthorization.new, check_bind_eq_ok_iff] at built
  simp only [bind_eq_ok_iff, pure_eq_ok_iff] at built
  obtain ⟨_, expiry, converted, rfl⟩ := built
  exact ⟨rfl, rfl, rfl, converted⟩

theorem PendingKiteAuthorization.new_toDatetime {tenantId : TenantId} {connectionId : BrokerConnectionId}
    {nonceDigest : String} (digestShape : isDigest nonceDigest = true) (expiresAt : Instant) :
    PendingKiteAuthorization.new tenantId connectionId nonceDigest expiresAt.toDatetime =
      .ok ⟨tenantId, connectionId, nonceDigest, expiresAt, digestShape⟩ := by
  simp only [PendingKiteAuthorization.new, check_of _ digestShape, ok_bind, asUtc_toDatetime]
  rfl

structure KiteAuthorizationStart where
  loginUrl : String
  expiresAt : Instant
deriving DecidableEq

def KiteAuthorizationStart.new (loginUrl : String) (expiresAt : Datetime) : Except Builtin KiteAuthorizationStart := do
  let expiry ← asUtc expiresAt "expires_at"
  return ⟨loginUrl, expiry⟩

structure KiteAuthorizationResult where
  tenantId : TenantId
  connectionId : BrokerConnectionId
  session : KiteSession
deriving DecidableEq

/-- Store hashed state and atomically remove it on consumption. -/
structure KiteNonceStore (S : Type*) where
  issue : PendingKiteAuthorization → S → Except Raised Unit × S
  consume : String → S → Option PendingKiteAuthorization × S

/-- What the port promises, in terms of the entries pending in a state: `issue` adds an entry whose
digest is not pending and changes nothing otherwise, `consume` removes and returns. -/
structure KiteNonceStore.Contract {S : Type*} (store : KiteNonceStore S)
    (pending : S → String → Option PendingKiteAuthorization) : Prop where
  issued : ∀ authorization state, (store.issue authorization state).1 = .ok () →
    pending state authorization.nonceDigest = none ∧
    pending (store.issue authorization state).2 =
      Function.update (pending state) authorization.nonceDigest (some authorization)
  refused : ∀ authorization state raised, (store.issue authorization state).1 = .error raised →
    pending (store.issue authorization state).2 = pending state
  consumed : ∀ digest state, (store.consume digest state).1 = pending state digest ∧
    pending (store.consume digest state).2 = Function.update (pending state) digest none

namespace KiteAuthorizationService

/-- `_digest`. -/
def digest (nonce : String) : String := Sha256.hexdigest (encode nonce)

def isNonceCharacter (character : Char) : Bool := isAlnum character || ['-', '_'].contains character

/-- The texts `_validate_nonce` lets through. -/
def isNonce (nonce : String) : Bool :=
  32 ≤ nonce.length && nonce.length ≤ 128 && isAscii nonce && nonce.toList.all isNonceCharacter

/-- `_validate_nonce`. -/
def validateNonce (nonce : String) : Except Raised Unit :=
  if isNonce nonce then .ok () else raiseConnectorError .validation "auth.state_invalid" none

/-- The arguments of `start`, with the nonce its factory returns. -/
structure StartRequest where
  tenantId : TenantId
  connectionId : BrokerConnectionId
  apiKey : String
  nonce : String
deriving DecidableEq

/-- The arguments of `complete`. -/
structure CompleteRequest where
  state : String
  requestToken : String
  credentials : KiteApiCredentials
deriving DecidableEq

/-- `start` before it reads the clock. -/
def validateStart (request : StartRequest) : Except Raised Unit := do
  validateCredential request.apiKey "API key"
  validateNonce request.nonce

/-- `start` from its clock reading to the entry it issues: the instant read and the entry. -/
def authorize (request : StartRequest) (reading : Datetime) : Except Raised (Instant × PendingKiteAuthorization) :=
  lift do
    let now ← asUtc reading "clock value"
    let expiresAt ← now.add nonceTtl
    let authorization ← PendingKiteAuthorization.new request.tenantId request.connectionId (digest request.nonce)
      expiresAt.toDatetime
    return (now, authorization)

/-- Only the clock can keep a validated start from building its entry. -/
theorem authorize_of_reading {request : StartRequest} {reading : Datetime} {now expiresAt : Instant}
    (read : asUtc reading "clock value" = .ok now) (added : now.add nonceTtl = .ok expiresAt) :
    authorize request reading =
      .ok (now, ⟨request.tenantId, request.connectionId, digest request.nonce, expiresAt, isDigest_hexdigest _⟩) := by
  simp only [authorize, read, ok_bind, added, PendingKiteAuthorization.new_toDatetime (isDigest_hexdigest _), digest]
  rfl

/-- The login URL of an issued nonce. -/
def loginUrl (apiKey nonce : String) : String :=
  "https://kite.zerodha.com/connect/login?" ++
    urlencode [("v", "3"), ("api_key", apiKey), ("redirect_params", urlencode [("state", nonce)])]

/-- `complete` before it consumes the state. -/
def validateComplete (request : CompleteRequest) : Except Raised Unit := do
  validateNonce request.state
  validateCredential request.requestToken "request token"

/-- `complete` on what the store returned. -/
def acceptConsumed : Option PendingKiteAuthorization → Except Raised PendingKiteAuthorization
  | none => raiseConnectorError .validation "auth.state_invalid" none
  | some authorization => .ok authorization

/-- `complete` on its clock reading: the instant read, unless the entry has expired. -/
def checkExpiry (authorization : PendingKiteAuthorization) (reading : Datetime) : Except Raised Instant := do
  let now ← lift (asUtc reading "clock value")
  if authorization.expiresAt ≤ now then raiseConnectorError .validation "auth.state_expired" none
  else return now

/-- `complete` on the outcome of the token exchange. -/
def resultOf (authorization : PendingKiteAuthorization) (session : KiteSession) : KiteAuthorizationResult :=
  ⟨authorization.tenantId, authorization.connectionId, session⟩

/-- `KiteAuthorizationService.start`, with the nonce its factory returns and its clock reading. -/
def start {S : Type*} (store : KiteNonceStore S) (reading : Datetime) (request : StartRequest) (state : S) :
    Except Raised KiteAuthorizationStart × S :=
  match validateStart request with
  | .error raised => (.error raised, state)
  | .ok _ =>
      match authorize request reading with
      | .error raised => (.error raised, state)
      | .ok (_, authorization) =>
          match store.issue authorization state with
          | (.error raised, state) => (.error raised, state)
          | (.ok _, state) => (.ok ⟨loginUrl request.apiKey request.nonce, authorization.expiresAt⟩, state)

/-- The token exchanger: a stateful peer asked with credentials and a request token. -/
abbrev KiteTokenExchanger (τ : Type*) := Oracle τ (KiteApiCredentials × String) (Except Raised KiteSession)

abbrev ExchangeLog (τ : Type*) := Log τ (KiteApiCredentials × String) (Except Raised KiteSession)

/-- `KiteAuthorizationService.complete`, with its clock reading and the log of its exchange calls. -/
def complete {S τ : Type*} (store : KiteNonceStore S) (exchanger : KiteTokenExchanger τ) (reading : Datetime)
    (request : CompleteRequest) (state : S) (log : ExchangeLog τ) :
    Except Raised KiteAuthorizationResult × S × ExchangeLog τ :=
  match validateComplete request with
  | .error raised => (.error raised, state, log)
  | .ok _ =>
      let (found, state) := store.consume (digest request.state) state
      match (do let authorization ← acceptConsumed found
                let _ ← checkExpiry authorization reading
                return authorization : Except Raised PendingKiteAuthorization) with
      | .error raised => (.error raised, state, log)
      | .ok authorization =>
          let (outcome, log) := log.ask exchanger (request.credentials, request.requestToken)
          (outcome.map (resultOf authorization), state, log)

theorem acceptConsumed_eq_ok_iff {found : Option PendingKiteAuthorization} {authorization : PendingKiteAuthorization} :
    acceptConsumed found = .ok authorization ↔ found = some authorization := by
  cases found with
  | none => simp [acceptConsumed, raiseConnectorError_ne_ok]
  | some entry => simp [acceptConsumed]

/-- What a `start` that returns did. -/
theorem start_eq_ok {S : Type*} {store : KiteNonceStore S} {reading : Datetime} {request : StartRequest} {state last : S}
    {begun : KiteAuthorizationStart} (returned : start store reading request state = (.ok begun, last)) :
    validateStart request = .ok () ∧ ∃ now authorization, authorize request reading = .ok (now, authorization) ∧
      store.issue authorization state = (.ok (), last) ∧
      begun = ⟨loginUrl request.apiKey request.nonce, authorization.expiresAt⟩ := by
  unfold start at returned
  split at returned
  · cases returned
  next validated =>
    split at returned
    · cases returned
    next now authorization made =>
      split at returned
      · cases returned
      next stored issued =>
        cases returned
        exact ⟨validated, now, authorization, made, issued, rfl⟩

/-- What a `complete` that returns did. -/
theorem complete_eq_ok {S τ : Type*} {store : KiteNonceStore S} {exchanger : KiteTokenExchanger τ} {reading : Datetime}
    {request : CompleteRequest} {state last : S} {log log' : ExchangeLog τ} {result : KiteAuthorizationResult}
    (returned : complete store exchanger reading request state log = (.ok result, last, log')) :
    validateComplete request = .ok () ∧ ∃ authorization now session,
      store.consume (digest request.state) state = (some authorization, last) ∧
      checkExpiry authorization reading = .ok now ∧
      (exchanger log.state (request.credentials, request.requestToken)).1 = .ok session ∧
      result = resultOf authorization session := by
  unfold complete at returned
  split at returned
  · cases returned
  next validated =>
    simp only at returned
    split at returned
    · cases returned
    next authorization checked =>
      simp only [bind_eq_ok_iff, acceptConsumed_eq_ok_iff, pure_eq_ok_iff] at checked
      obtain ⟨entry, found, now, fresh, rfl⟩ := checked
      simp only [Log.ask, Prod.mk.injEq] at returned
      obtain ⟨outcome, rfl, _⟩ := returned
      cases exchanged : (exchanger log.state (request.credentials, request.requestToken)).1 with
      | error raised => simp [exchanged, Except.map] at outcome
      | ok session =>
        simp only [exchanged, Except.map, Except.ok.injEq] at outcome
        exact ⟨validated, entry, now, session, Prod.ext found rfl, fresh, rfl, outcome.symm⟩

end KiteAuthorizationService

end PortfolioManager.Connectors.Zerodha
