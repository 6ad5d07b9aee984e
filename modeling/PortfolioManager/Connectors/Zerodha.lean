import PortfolioManager.Application.Connectors
import PortfolioManager.Library.Transcript

/-! # Read-only Zerodha adapter for the broker-neutral connector port

The transport is a stateful peer: every fetch may depend on all earlier ones. `collect` threads
the transport's state together with the log of its fetches, and returns both whether it returns
a result or raises. The two nested loops are recursions over the sorted capabilities and over
the endpoints of one capability; `break` is `ForInStep.done`.
-/

namespace PortfolioManager.Connectors.Zerodha

open PortfolioManager.Python PortfolioManager.Domain PortfolioManager.Application Checked Transcript

inductive KiteEndpoint where
  | holdings
  | positions
  | funds
  | orders
  | trades
  | instruments
deriving DecidableEq, Repr

def KiteEndpoint.value : KiteEndpoint → String
  | .holdings => "holdings"
  | .positions => "positions"
  | .funds => "funds"
  | .orders => "orders"
  | .trades => "trades"
  | .instruments => "instruments"

/-- `f"{endpoint.value}.v1"`, the schema version stamped on an endpoint's artifacts. -/
def KiteEndpoint.schemaVersion (endpoint : KiteEndpoint) : String := endpoint.value ++ ".v1"

structure KitePayload where
  body : Bytes
  mediaType : String
  sourceAt : Option Datetime
  nonempty : body ≠ []
  trimmed : isTrimmed mediaType = true

def KitePayload.new (body : Bytes) (mediaType : String) (sourceAt : Option Datetime) :
    Except Builtin KitePayload := do
  let ⟨nonempty⟩ ← check (body ≠ []) (.valueError "Kite payload cannot be empty")
  let ⟨trimmed⟩ ← check (isTrimmed mediaType = true)
    (.valueError "Kite payload media type must be non-empty and trimmed")
  return ⟨body, mediaType, sourceAt, nonempty, trimmed⟩

abbrev Reply := Except Raised KitePayload

structure KiteTransport (σ : Type*) where
  authenticationState : σ → AuthenticationState × σ
  fetch : Oracle σ KiteEndpoint Reply

abbrev FetchLog (σ : Type*) := Log σ KiteEndpoint Reply

/-- `_ENDPOINTS.get`. -/
def endpoints : Capability → Option (List KiteEndpoint)
  | .holdings => some [.holdings]
  | .positions => some [.positions]
  | .balances => some [.funds]
  | .activities => some [.orders, .trades]
  | .instruments => some [.instruments]
  | .accounts => none
  | .prices => none
  | .taxLots => none

namespace ZerodhaConnector

def key : String := "zerodha.kite"

def schemaVersion : String := "v1"

/-- `ZerodhaConnector.describe`; the capabilities are the keys of `_ENDPOINTS`. -/
def describe : Except Builtin ConnectorDescriptor :=
  ConnectorDescriptor.new key schemaVersion {.holdings, .positions, .balances, .activities, .instruments}

/-- The locals of one capability's endpoint loop, with the artifacts shared by all of them. -/
structure EndpointLoop where
  artifacts : List RawArtifact
  successfulEndpoints : ℕ
  issues : List ConnectorIssue
  authenticationIssue : Option ConnectorIssue

/-- The locals of the capability loop. -/
structure Collection where
  artifacts : List RawArtifact
  outcomes : List CapabilityOutcome
  authenticationIssue : Option ConnectorIssue

def toArtifact (retrievedAt : Datetime) (endpoint : KiteEndpoint) (payload : KitePayload) :
    Except Builtin RawArtifact :=
  RawArtifact.fromPayload payload.body payload.mediaType retrievedAt key endpoint.schemaVersion payload.sourceAt

/-- `if issue not in issues: issues.append(issue)`. -/
def addIssue (issues : List ConnectorIssue) (issue : ConnectorIssue) : List ConnectorIssue :=
  if issue ∈ issues then issues else issues ++ [issue]

/-- The body of the endpoint loop after the fetch: only `ConnectorError` is caught, so what
`RawArtifact.from_payload` raises about a fetched payload leaves the loop. -/
def handleReply (retrievedAt : Datetime) (endpoint : KiteEndpoint) (reply : Reply) (loop : EndpointLoop) :
    Except Raised (ForInStep EndpointLoop) :=
  match reply.bind fun payload => lift (toArtifact retrievedAt endpoint payload) with
  | .ok artifact =>
      .ok (.yield { loop with
        artifacts := loop.artifacts ++ [artifact]
        successfulEndpoints := loop.successfulEndpoints + 1 })
  | .error (.connector error) => do
      let issue ← ConnectorIssue.new error.reasonCode
      let issues := addIssue loop.issues issue
      if error.kind = .authentication then
        return .done { loop with issues := issues, authenticationIssue := some issue }
      else
        return .yield { loop with issues := issues }
  | .error (.builtin error) => .error (.builtin error)

variable {σ : Type*}

def collectEndpoints (transport : KiteTransport σ) (retrievedAt : Datetime) :
    List KiteEndpoint → EndpointLoop → FetchLog σ → Except Raised EndpointLoop × FetchLog σ
  | [], loop, log => (.ok loop, log)
  | endpoint :: rest, loop, log =>
      let (reply, log) := log.ask transport.fetch endpoint
      match handleReply retrievedAt endpoint reply loop with
      | .error raised => (.error raised, log)
      | .ok (.done loop) => (.ok loop, log)
      | .ok (.yield loop) => collectEndpoints transport retrievedAt rest loop log

/-- The status a capability earns from its finished endpoint loop. -/
def EndpointLoop.status (loop : EndpointLoop) : OutcomeStatus :=
  if loop.issues = [] then .succeeded
  else if loop.successfulEndpoints ≠ 0 then .partly
  else .failed

/-- Append the outcome of one capability. -/
def Collection.record (collection : Collection) (capability : Capability) (status : OutcomeStatus)
    (issues : List ConnectorIssue) : Except Raised Collection := do
  let outcome ← CapabilityOutcome.new capability status issues
  return { collection with outcomes := collection.outcomes ++ [outcome] }

/-- One iteration of the capability loop: unsupported first, then the authentication latch. -/
def collectCapability (transport : KiteTransport σ) (retrievedAt : Datetime) (capability : Capability)
    (collection : Collection) (log : FetchLog σ) : Except Raised Collection × FetchLog σ :=
  match endpoints capability with
  | none =>
      (do let issue ← ConnectorIssue.new "capability.unsupported"
          collection.record capability .unsupported [issue], log)
  | some endpoints =>
      match collection.authenticationIssue with
      | some issue => (collection.record capability .failed [issue], log)
      | none =>
          let (ended, log) := collectEndpoints transport retrievedAt endpoints ⟨collection.artifacts, 0, [], none⟩ log
          (do let loop ← ended
              let next : Collection := ⟨loop.artifacts, collection.outcomes, loop.authenticationIssue⟩
              next.record capability loop.status loop.issues, log)

def collectCapabilities (transport : KiteTransport σ) (retrievedAt : Datetime) :
    List Capability → Collection → FetchLog σ → Except Raised Collection × FetchLog σ
  | [], collection, log => (.ok collection, log)
  | capability :: rest, collection, log =>
      match collectCapability transport retrievedAt capability collection log with
      | (.error raised, log) => (.error raised, log)
      | (.ok collection, log) => collectCapabilities transport retrievedAt rest collection log

/-- `ZerodhaConnector.collect`: the outcome of the call and the log of its fetches. -/
def collect (transport : KiteTransport σ) (clock : Datetime) (request : CollectionRequest) (state : σ) :
    Except Raised CollectionResult × FetchLog σ :=
  let (authentication, state) := transport.authenticationState state
  if authentication.status ≠ .ready then
    (raiseConnectorError .authentication (authentication.reasonCode.getD "session.not_ready") none, ⟨state, []⟩)
  else
    match collectCapabilities transport clock request.sortedCapabilities ⟨[], [], none⟩ ⟨state, []⟩ with
    | (.error raised, log) => (.error raised, log)
    | (.ok collection, log) => (CollectionResult.new collection.artifacts collection.outcomes, log)

end ZerodhaConnector

end PortfolioManager.Connectors.Zerodha
