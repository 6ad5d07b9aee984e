import PortfolioManager.Domain.Identifiers
import PortfolioManager.Domain.Temporal
import PortfolioManager.Library.Sha256
import Mathlib.Data.Finset.Sort
import Mathlib.Order.Lattice

/-! # Broker-neutral connector application port

Every dataclass is a structure whose fields include the facts its constructor checks, and every
constructor is the chain of those checks in the order of the source, with the source's messages.
A value of one of these types is therefore a value the source would have accepted.
-/

namespace PortfolioManager.Application

open PortfolioManager.Python PortfolioManager.Domain Checked

/-- `_KEY.fullmatch(value) is not None`. -/
def isKey (value : String) : Bool := isStableIdentifier value

/-- `_DIGEST.fullmatch(value) is not None`. -/
def isDigest (value : String) : Bool :=
  value.toList.length = 64 && value.toList.all fun character => Hex.hexDigits.contains character

/-- The error `_require_key` raises for a field. -/
def keyError (fieldName : String) : Builtin :=
  .valueError s!"{fieldName} must be a stable lowercase identifier"

inductive Capability where
  | accounts
  | holdings
  | positions
  | balances
  | activities
  | instruments
  | prices
  | taxLots
deriving DecidableEq, Repr

def Capability.value : Capability → String
  | .accounts => "accounts"
  | .holdings => "holdings"
  | .positions => "positions"
  | .balances => "balances"
  | .activities => "activities"
  | .instruments => "instruments"
  | .prices => "prices"
  | .taxLots => "tax_lots"

theorem Capability.value_injective : Function.Injective Capability.value := by
  intro first second same
  cases first <;> cases second <;> first | rfl | exact absurd same (by decide)

/-- The order of `sorted(..., key=lambda item: item.value)`. -/
instance : LinearOrder Capability := LinearOrder.lift' Capability.value Capability.value_injective

structure ConnectorDescriptor where
  key : String
  schemaVersion : String
  capabilities : Finset Capability
  keyed : isKey key = true
  versioned : isKey schemaVersion = true
  capable : capabilities ≠ ∅

def ConnectorDescriptor.new (key schemaVersion : String) (capabilities : Finset Capability) :
    Except Builtin ConnectorDescriptor := do
  let ⟨keyed⟩ ← check (isKey key = true) (keyError "connector key")
  let ⟨versioned⟩ ← check (isKey schemaVersion = true) (keyError "connector schema version")
  let ⟨capable⟩ ← check (capabilities ≠ ∅) (.valueError "connector requires at least one capability")
  return ⟨key, schemaVersion, capabilities, keyed, versioned, capable⟩

inductive AuthenticationStatus where
  | ready
  | actionRequired
  | expired
  | revoked
  | unavailable
deriving DecidableEq, Repr

/-- A ready state has no failure reason; every other state names one. -/
structure AuthenticationState where
  status : AuthenticationStatus
  reasonCode : Option String
  expiresAt : Option Instant
  reasonAbsent : status = .ready → reasonCode = none
  reasonPresent : status ≠ .ready → reasonCode ≠ none
  reasonKey : ∀ code ∈ reasonCode, isKey code = true
deriving DecidableEq

def AuthenticationState.new (status : AuthenticationStatus) (reasonCode : Option String) (expiresAt : Option Datetime) :
    Except Builtin AuthenticationState := do
  let ⟨reasonAbsent⟩ ← check (status = .ready → reasonCode = none)
    (.valueError "ready authentication cannot have a failure reason")
  let ⟨reasonPresent⟩ ← check (status ≠ .ready → reasonCode ≠ none)
    (.valueError "non-ready authentication requires a safe reason code")
  let ⟨reasonKey⟩ ← check (∀ code ∈ reasonCode, isKey code = true) (keyError "authentication reason code")
  let expiry ← whenPresent (asUtc · "expires_at") expiresAt
  return ⟨status, reasonCode, expiry, reasonAbsent, reasonPresent, reasonKey⟩

structure CollectionRequest where
  tenantId : TenantId
  connectionId : BrokerConnectionId
  capabilities : Finset Capability
  idempotencyKey : String
  requested : capabilities ≠ ∅
  trimmed : isTrimmed idempotencyKey = true
  short : idempotencyKey.length ≤ 200
deriving DecidableEq

def CollectionRequest.new (tenantId : TenantId) (connectionId : BrokerConnectionId) (capabilities : Finset Capability)
    (idempotencyKey : String) : Except Builtin CollectionRequest := do
  let ⟨requested⟩ ← check (capabilities ≠ ∅) (.valueError "collection request requires at least one capability")
  let ⟨trimmed⟩ ← check (isTrimmed idempotencyKey = true) (.valueError "idempotency key must be non-empty and trimmed")
  let ⟨short⟩ ← check (idempotencyKey.length ≤ 200) (.valueError "idempotency key exceeds 200 characters")
  return ⟨tenantId, connectionId, capabilities, idempotencyKey, requested, trimmed, short⟩

/-- `sorted(request.capabilities)`. -/
abbrev CollectionRequest.sortedCapabilities (request : CollectionRequest) : List Capability :=
  request.capabilities.sort (· ≤ ·)

inductive ConnectorFailureKind where
  | authentication
  | permission
  | rateLimit
  | transient
  | validation
  | unsupported
  | permanent
deriving DecidableEq, Repr

/-- A typed failure; `retryAfter` is in microseconds. -/
structure ConnectorError where
  kind : ConnectorFailureKind
  reasonCode : String
  retryAfter : Option ℤ
  reasonKey : isKey reasonCode = true
  positive : ∀ delay ∈ retryAfter, 0 < delay
deriving DecidableEq

/-- What modelled code can raise: a built-in exception or a typed connector error. -/
inductive Raised where
  | builtin (error : Builtin)
  | connector (error : ConnectorError)
deriving DecidableEq

def ConnectorError.new (kind : ConnectorFailureKind) (reasonCode : String) (retryAfter : Option ℤ) :
    Except Raised ConnectorError := do
  let ⟨reasonKey⟩ ← check (isKey reasonCode = true) (.builtin (keyError "connector error reason code"))
  let ⟨positive⟩ ← check (∀ delay ∈ retryAfter, 0 < delay) (.builtin (.valueError "retry_after must be positive"))
  return ⟨kind, reasonCode, retryAfter, reasonKey, positive⟩

/-- `raise ConnectorError(kind, reason_code)`, including the constructor's own failures. -/
def raiseConnectorError {α : Type} (kind : ConnectorFailureKind) (reasonCode : String)
    (retryAfter : Option ℤ) : Except Raised α := do
  let error ← ConnectorError.new kind reasonCode retryAfter
  throw (.connector error)

theorem raiseConnectorError_ne_ok {α : Type} {kind : ConnectorFailureKind} {reasonCode : String}
    {retryAfter : Option ℤ} {value : α} : raiseConnectorError kind reasonCode retryAfter ≠ .ok value := by
  intro returned
  obtain ⟨_, _, raised⟩ := bind_eq_ok_iff.mp returned
  contradiction

theorem raiseConnectorError_eq {α : Type} {kind : ConnectorFailureKind} {reasonCode : String} {retryAfter : Option ℤ}
    (reasonKey : isKey reasonCode = true) (positive : ∀ delay ∈ retryAfter, 0 < delay) :
    (raiseConnectorError kind reasonCode retryAfter : Except Raised α) =
      .error (.connector ⟨kind, reasonCode, retryAfter, reasonKey, positive⟩) := by
  simp only [raiseConnectorError, ConnectorError.new, check_of _ reasonKey, check_of _ positive, ok_bind]
  rfl

theorem raiseConnectorError_of_key {α : Type} {kind : ConnectorFailureKind} {reasonCode : String}
    (reasonKey : isKey reasonCode = true) :
    (raiseConnectorError kind reasonCode none : Except Raised α) =
      .error (.connector ⟨kind, reasonCode, none, reasonKey, by simp⟩) :=
  raiseConnectorError_eq reasonKey (by simp)

/-- Bytes as retrieved, with their provenance. -/
structure RawArtifact where
  payload : Bytes
  mediaType : String
  retrievedAt : Instant
  connectorKey : String
  schemaVersion : String
  contentDigest : String
  sourceAt : Option Instant
  nonempty : payload ≠ []
  trimmed : isTrimmed mediaType = true
  connectorKeyed : isKey connectorKey = true
  schemaKeyed : isKey schemaVersion = true
  digestShape : isDigest contentDigest = true
  digestMatches : contentDigest = Sha256.hexdigest payload
deriving DecidableEq

/-- Constructors raise built-in errors only; `lift` embeds them. -/
def lift {α : Type} (result : Except Builtin α) : Except Raised α := result.mapError .builtin

theorem lift_eq_ok_iff {α : Type} {result : Except Builtin α} {value : α} : lift result = .ok value ↔ result = .ok value := by
  cases result <;> simp [lift, Except.mapError]

def RawArtifact.new (payload : Bytes) (mediaType : String) (retrievedAt : Datetime)
    (connectorKey schemaVersion contentDigest : String) (sourceAt : Option Datetime) :
    Except Builtin RawArtifact := do
  let ⟨nonempty⟩ ← check (payload ≠ []) (.valueError "raw artifact payload cannot be empty")
  let ⟨trimmed⟩ ← check (isTrimmed mediaType = true) (.valueError "media type must be non-empty and trimmed")
  let ⟨connectorKeyed⟩ ← check (isKey connectorKey = true) (keyError "connector key")
  let ⟨schemaKeyed⟩ ← check (isKey schemaVersion = true) (keyError "connector schema version")
  let ⟨digestShape⟩ ← check (isDigest contentDigest = true)
    (.valueError "content digest must be a lowercase SHA-256 digest")
  let ⟨digestMatches⟩ ← check (contentDigest = Sha256.hexdigest payload)
    (.valueError "content digest does not match raw artifact payload")
  let retrieved ← asUtc retrievedAt "retrieved_at"
  let source ← whenPresent (asUtc · "source_at") sourceAt
  return ⟨payload, mediaType, retrieved, connectorKey, schemaVersion, contentDigest, source,
    nonempty, trimmed, connectorKeyed, schemaKeyed, digestShape, digestMatches⟩

def RawArtifact.fromPayload (payload : Bytes) (mediaType : String) (retrievedAt : Datetime)
    (connectorKey schemaVersion : String) (sourceAt : Option Datetime) : Except Builtin RawArtifact :=
  RawArtifact.new payload mediaType retrievedAt connectorKey schemaVersion (Sha256.hexdigest payload) sourceAt

/-- A computed digest always has the shape the constructor asks for. -/
theorem isDigest_hexdigest (payload : Bytes) : isDigest (Sha256.hexdigest payload) = true := by
  simp only [isDigest, Sha256.hexdigest_length, decide_true, Bool.true_and, List.all_eq_true,
    List.contains_eq_mem, decide_eq_true_eq]
  exact fun _ member => Sha256.hexdigest_mem member

inductive OutcomeStatus where
  | succeeded
  | partly
  | failed
  | unsupported
deriving DecidableEq, Repr

structure ConnectorIssue where
  code : String
  codeKey : isKey code = true
deriving DecidableEq

def ConnectorIssue.new (code : String) : Except Raised ConnectorIssue := do
  let ⟨codeKey⟩ ← check (isKey code = true) (.builtin (keyError "connector issue code"))
  return ⟨code, codeKey⟩

/-- The issue a typed failure is reported as; its code was checked when the failure was built. -/
def ConnectorError.issue (error : ConnectorError) : ConnectorIssue := ⟨error.reasonCode, error.reasonKey⟩

theorem ConnectorIssue.new_reasonCode (error : ConnectorError) :
    ConnectorIssue.new error.reasonCode = .ok error.issue := by
  simp only [ConnectorIssue.new, check_of _ error.reasonKey, ok_bind]
  rfl

/-- A success has no issue, everything else has at least one, and no issue is repeated. -/
structure CapabilityOutcome where
  capability : Capability
  status : OutcomeStatus
  issues : List ConnectorIssue
  successClean : status = .succeeded → issues = []
  failureExplained : status ≠ .succeeded → issues ≠ []
  distinct : issues.Nodup
deriving DecidableEq

def CapabilityOutcome.new (capability : Capability) (status : OutcomeStatus) (issues : List ConnectorIssue) :
    Except Raised CapabilityOutcome := do
  let ⟨successClean⟩ ← check (status = .succeeded → issues = [])
    (.builtin (.valueError "successful capability outcome cannot have issues"))
  let ⟨failureExplained⟩ ← check (status ≠ .succeeded → issues ≠ [])
    (.builtin (.valueError "non-successful capability outcome requires an issue"))
  let ⟨distinct⟩ ← check issues.Nodup (.builtin (.valueError "capability issues must not be duplicated"))
  return ⟨capability, status, issues, successClean, failureExplained, distinct⟩

theorem CapabilityOutcome.new_eq_ok_iff {capability : Capability} {status : OutcomeStatus}
    {issues : List ConnectorIssue} {outcome : CapabilityOutcome} :
    CapabilityOutcome.new capability status issues = .ok outcome ↔
      outcome.capability = capability ∧ outcome.status = status ∧ outcome.issues = issues := by
  simp only [CapabilityOutcome.new, check_bind_eq_ok_iff, pure_eq_ok_iff]
  constructor
  · rintro ⟨_, _, _, rfl⟩
    exact ⟨rfl, rfl, rfl⟩
  · rintro ⟨rfl, rfl, rfl⟩
    exact ⟨outcome.successClean, outcome.failureExplained, outcome.distinct, rfl⟩

@[ext] structure CollectionResult where
  artifacts : List RawArtifact
  outcomes : List CapabilityOutcome
  nonempty : outcomes ≠ []
  distinct : (outcomes.map (·.capability)).Nodup
deriving DecidableEq

def CollectionResult.new (artifacts : List RawArtifact) (outcomes : List CapabilityOutcome) :
    Except Raised CollectionResult := do
  let ⟨nonempty⟩ ← check (outcomes ≠ [])
    (.builtin (.valueError "collection result requires at least one capability outcome"))
  let ⟨distinct⟩ ← check (outcomes.map (·.capability)).Nodup
    (.builtin (.valueError "collection result cannot repeat capability outcomes"))
  return ⟨artifacts, outcomes, nonempty, distinct⟩

theorem CollectionResult.new_eq_ok_iff {artifacts : List RawArtifact} {outcomes : List CapabilityOutcome}
    {result : CollectionResult} :
    CollectionResult.new artifacts outcomes = .ok result ↔
      result.artifacts = artifacts ∧ result.outcomes = outcomes := by
  simp only [CollectionResult.new, check_bind_eq_ok_iff, pure_eq_ok_iff]
  constructor
  · rintro ⟨_, _, rfl⟩
    exact ⟨rfl, rfl⟩
  · rintro ⟨rfl, rfl⟩
    exact ⟨result.nonempty, result.distinct, rfl⟩

end PortfolioManager.Application
