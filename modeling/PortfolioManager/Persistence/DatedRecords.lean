import PortfolioManager.Connectors.ZerodhaAuth
import PortfolioManager.Domain.Normalisation
import PortfolioManager.Domain.Tenancy
import PortfolioManager.Library.Selection
import PortfolioManager.Persistence.NonceStore

/-! # Records with a date, from tenants to stored nonces

Outside the observations and activities, each dated type has one or two times and keeps the rest of its arguments as
they are. Its constructor is canonical for the instants of these times.
-/

namespace PortfolioManager.Persistence

open PortfolioManager.Python PortfolioManager.Domain PortfolioManager.Application PortfolioManager.Connectors.Zerodha Checked
  Record

/-! ## Tenants, memberships and connections -/

def tenantTime : Selection TenantFields Id where
  get fields := fields.createdAt
  set fields createdAt := { fields with createdAt }
  set_get _ := rfl
  get_set _ _ := rfl
  set_set _ _ _ := rfl

instance : Record TenantFields := tenantTime.record

theorem tenant_canonical : Canonical Datetime.instant? Tenant.new Tenant.toTenantFields :=
  tenantTime.canonical_of_accepts fun _ _ => Tenant.new_eq_ok_iff.trans (and_congr_left' asUtc_eq_ok_iff_instant?)

def membershipTime : Selection TenantMembershipFields Id where
  get fields := fields.createdAt
  set fields createdAt := { fields with createdAt }
  set_get _ := rfl
  get_set _ _ := rfl
  set_set _ _ _ := rfl

instance : Record TenantMembershipFields := membershipTime.record

theorem tenantMembership_canonical : Canonical Datetime.instant? TenantMembership.new (id : TenantMembership → _) :=
  membershipTime.canonical_of_accepts fun _ _ =>
    TenantMembership.new_eq_ok_iff.trans (and_congr_left' asUtc_eq_ok_iff_instant?)

def connectionTime : Selection BrokerConnectionFields Id where
  get fields := fields.createdAt
  set fields createdAt := { fields with createdAt }
  set_get _ := rfl
  get_set _ _ := rfl
  set_set _ _ _ := rfl

instance : Record BrokerConnectionFields := connectionTime.record

theorem brokerConnection_canonical :
    Canonical Datetime.instant? BrokerConnection.new BrokerConnection.toBrokerConnectionFields :=
  connectionTime.canonical_of_accepts fun _ _ =>
    BrokerConnection.new_eq_ok_iff.trans (and_congr_left' asUtc_eq_ok_iff_instant?)

/-! ## Artifacts and the state of a connection -/

/-- The arguments of `RawArtifact`. -/
structure RawArtifactFields (Time : Type) where
  payload : Bytes
  mediaType : String
  retrievedAt : Time
  connectorKey : String
  schemaVersion : String
  contentDigest : String
  sourceAt : Option Time

/-- The times of an artifact. -/
structure ArtifactTimes (Time : Type) where
  retrievedAt : Time
  sourceAt : Option Time

instance : Record ArtifactTimes where
  map f times := ⟨f times.retrievedAt, times.sourceAt.map f⟩
  id_map _ := by simp
  comp_map _ _ _ := by simp
  map_const := rfl
  entries times := times.retrievedAt :: times.sourceAt.toList
  entries_map _ times := by cases times.sourceAt <;> rfl

def artifactTimes : Selection RawArtifactFields ArtifactTimes where
  get fields := ⟨fields.retrievedAt, fields.sourceAt⟩
  set fields times := { fields with retrievedAt := times.retrievedAt, sourceAt := times.sourceAt }
  set_get _ := rfl
  get_set _ _ := rfl
  set_set _ _ _ := rfl

instance : Record RawArtifactFields := artifactTimes.record

def RawArtifactFields.build (fields : RawArtifactFields Datetime) : Except Builtin RawArtifact :=
  RawArtifact.new fields.payload fields.mediaType fields.retrievedAt fields.connectorKey fields.schemaVersion
    fields.contentDigest fields.sourceAt

def artifactFields (artifact : RawArtifact) : RawArtifactFields Instant := { artifact with }

theorem RawArtifactFields.build_eq_ok_iff {fields : RawArtifactFields Datetime} {artifact : RawArtifact} :
    fields.build = .ok artifact ↔
      (asUtc fields.retrievedAt "retrieved_at" = .ok artifact.retrievedAt ∧
        whenPresent (asUtc · "source_at") fields.sourceAt = .ok artifact.sourceAt) ∧
      artifactFields artifact = { fields with retrievedAt := artifact.retrievedAt, sourceAt := artifact.sourceAt } := by
  simp only [build, RawArtifact.new, check_bind_eq_ok_iff]
  simp only [bind_eq_ok_iff, pure_eq_ok_iff]
  constructor
  · rintro ⟨_, _, _, _, _, _, retrieved, retrieves, source, sources, rfl⟩
    exact ⟨⟨retrieves, sources⟩, rfl⟩
  · rintro ⟨⟨retrieves, sources⟩, same⟩
    obtain ⟨payload, mediaType, retrievedAt, connectorKey, schemaVersion, contentDigest, sourceAt⟩ := fields
    cases same
    exact ⟨artifact.nonempty, artifact.trimmed, artifact.connectorKeyed, artifact.schemaKeyed, artifact.digestShape,
      artifact.digestMatches, _, retrieves, _, sources, rfl⟩

theorem rawArtifact_canonical : Canonical Datetime.instant? RawArtifactFields.build artifactFields := by
  refine artifactTimes.canonical_of_accepts fun written artifact => ?_
  rw [RawArtifactFields.build_eq_ok_iff, asUtc_eq_ok_iff_instant?, whenPresent_asUtc_iff]
  exact and_congr_left' (ArtifactTimes.mk.injEq ..).symm.to_iff

/-- The arguments of `AuthenticationState`. -/
structure AuthenticationStateFields (Time : Type) where
  status : AuthenticationStatus
  reasonCode : Option String
  expiresAt : Option Time

def authenticationTime : Selection AuthenticationStateFields Option where
  get fields := fields.expiresAt
  set fields expiresAt := { fields with expiresAt }
  set_get _ := rfl
  get_set _ _ := rfl
  set_set _ _ _ := rfl

instance : Record AuthenticationStateFields := authenticationTime.record

def AuthenticationStateFields.build (fields : AuthenticationStateFields Datetime) : Except Builtin AuthenticationState :=
  AuthenticationState.new fields.status fields.reasonCode fields.expiresAt

def authenticationFields (state : AuthenticationState) : AuthenticationStateFields Instant := { state with }

theorem AuthenticationStateFields.build_eq_ok_iff {fields : AuthenticationStateFields Datetime} {state : AuthenticationState} :
    fields.build = .ok state ↔ whenPresent (asUtc · "expires_at") fields.expiresAt = .ok state.expiresAt ∧
      authenticationFields state = { fields with expiresAt := state.expiresAt } := by
  simp only [build, AuthenticationState.new, check_bind_eq_ok_iff]
  simp only [bind_eq_ok_iff, pure_eq_ok_iff]
  constructor
  · rintro ⟨_, _, _, expiry, expires, rfl⟩
    exact ⟨expires, rfl⟩
  · rintro ⟨expires, same⟩
    obtain ⟨status, reasonCode, expiresAt⟩ := fields
    cases same
    exact ⟨state.reasonAbsent, state.reasonPresent, state.reasonKey, _, expires, rfl⟩

theorem authenticationState_canonical :
    Canonical Datetime.instant? AuthenticationStateFields.build authenticationFields :=
  authenticationTime.canonical_of_accepts fun _ _ =>
    AuthenticationStateFields.build_eq_ok_iff.trans (and_congr_left' whenPresent_asUtc_iff)

/-! ## Sessions and authorizations -/

/-- The arguments of `KiteSession`. -/
structure KiteSessionFields (Time : Type) where
  apiKey : String
  accessToken : Option String
  expiresAt : Option Time

def sessionTime : Selection KiteSessionFields Option where
  get fields := fields.expiresAt
  set fields expiresAt := { fields with expiresAt }
  set_get _ := rfl
  get_set _ _ := rfl
  set_set _ _ _ := rfl

instance : Record KiteSessionFields := sessionTime.record

def KiteSessionFields.build (fields : KiteSessionFields Datetime) : Except Builtin KiteSession :=
  KiteSession.new fields.apiKey fields.accessToken fields.expiresAt

def sessionFields (session : KiteSession) : KiteSessionFields Instant := { session with }

theorem kiteSession_canonical : Canonical Datetime.instant? KiteSessionFields.build sessionFields := by
  refine sessionTime.canonical_of_accepts fun written session => ?_
  rw [KiteSessionFields.build, KiteSession.new_eq_ok_iff, whenPresent_asUtc_iff]
  constructor
  · rintro ⟨apiKey, accessToken, expires⟩
    exact ⟨expires, by simp only [sessionFields, sessionTime, apiKey, accessToken]⟩
  · rintro ⟨expires, same⟩
    exact ⟨congrArg KiteSessionFields.apiKey same, congrArg KiteSessionFields.accessToken same, expires⟩

/-- The arguments of `KiteAuthorizationStart`. -/
structure KiteAuthorizationStartFields (Time : Type) where
  loginUrl : String
  expiresAt : Time

def startTime : Selection KiteAuthorizationStartFields Id where
  get fields := fields.expiresAt
  set fields expiresAt := { fields with expiresAt }
  set_get _ := rfl
  get_set _ _ := rfl
  set_set _ _ _ := rfl

instance : Record KiteAuthorizationStartFields := startTime.record

def KiteAuthorizationStartFields.build (fields : KiteAuthorizationStartFields Datetime) :
    Except Builtin KiteAuthorizationStart :=
  KiteAuthorizationStart.new fields.loginUrl fields.expiresAt

def startFields (start : KiteAuthorizationStart) : KiteAuthorizationStartFields Instant := { start with }

theorem kiteAuthorizationStart_canonical :
    Canonical Datetime.instant? KiteAuthorizationStartFields.build startFields := by
  refine startTime.canonical_of_accepts fun written start => ?_
  simp only [KiteAuthorizationStartFields.build, KiteAuthorizationStart.new, bind_eq_ok_iff, pure_eq_ok_iff]
  constructor
  · rintro ⟨expiry, expires, rfl⟩
    exact ⟨asUtc_eq_ok_iff_instant?.mp expires, rfl⟩
  · rintro ⟨expires, same⟩
    obtain ⟨loginUrl, expiresAt⟩ := written
    cases same
    exact ⟨_, asUtc_eq_ok_iff_instant?.mpr expires, rfl⟩

/-- The arguments of `PendingKiteAuthorization`. -/
structure PendingKiteAuthorizationFields (Time : Type) where
  tenantId : TenantId
  connectionId : BrokerConnectionId
  nonceDigest : String
  expiresAt : Time

def pendingTime : Selection PendingKiteAuthorizationFields Id where
  get fields := fields.expiresAt
  set fields expiresAt := { fields with expiresAt }
  set_get _ := rfl
  get_set _ _ := rfl
  set_set _ _ _ := rfl

instance : Record PendingKiteAuthorizationFields := pendingTime.record

def PendingKiteAuthorizationFields.build (fields : PendingKiteAuthorizationFields Datetime) :
    Except Builtin PendingKiteAuthorization :=
  PendingKiteAuthorization.new fields.tenantId fields.connectionId fields.nonceDigest fields.expiresAt

def pendingFields (authorization : PendingKiteAuthorization) : PendingKiteAuthorizationFields Instant :=
  { authorization with }

theorem pendingKiteAuthorization_canonical :
    Canonical Datetime.instant? PendingKiteAuthorizationFields.build pendingFields := by
  refine pendingTime.canonical_of_accepts fun written authorization => ?_
  simp only [PendingKiteAuthorizationFields.build, PendingKiteAuthorization.new, check_bind_eq_ok_iff]
  simp only [bind_eq_ok_iff, pure_eq_ok_iff]
  constructor
  · rintro ⟨_, expiry, expires, rfl⟩
    exact ⟨asUtc_eq_ok_iff_instant?.mp expires, rfl⟩
  · rintro ⟨expires, same⟩
    obtain ⟨tenantId, connectionId, nonceDigest, expiresAt⟩ := written
    cases same
    exact ⟨authorization.digestShape, _, asUtc_eq_ok_iff_instant?.mpr expires, rfl⟩

/-- The arguments of `StoredAuthorizationNonce`. -/
structure StoredAuthorizationNonceFields (Time : Type) where
  tenantId : TenantId
  connectionId : BrokerConnectionId
  digest : String
  expiresAt : Time
  createdAt : Time

/-- The times of a stored nonce. -/
structure NonceTimes (Time : Type) where
  expiresAt : Time
  createdAt : Time

instance : Record NonceTimes where
  map f times := ⟨f times.expiresAt, f times.createdAt⟩
  id_map _ := rfl
  comp_map _ _ _ := rfl
  map_const := rfl
  entries times := [times.expiresAt, times.createdAt]
  entries_map _ _ := rfl

def nonceTimes : Selection StoredAuthorizationNonceFields NonceTimes where
  get fields := ⟨fields.expiresAt, fields.createdAt⟩
  set fields times := { fields with expiresAt := times.expiresAt, createdAt := times.createdAt }
  set_get _ := rfl
  get_set _ _ := rfl
  set_set _ _ _ := rfl

instance : Record StoredAuthorizationNonceFields := nonceTimes.record

def StoredAuthorizationNonceFields.build (fields : StoredAuthorizationNonceFields Datetime) :
    Except Builtin StoredAuthorizationNonce :=
  StoredAuthorizationNonce.new fields.tenantId fields.connectionId fields.digest fields.expiresAt fields.createdAt

def nonceFields (nonce : StoredAuthorizationNonce) : StoredAuthorizationNonceFields Instant := { nonce with }

theorem storedAuthorizationNonce_canonical :
    Canonical Datetime.instant? StoredAuthorizationNonceFields.build nonceFields := by
  refine nonceTimes.canonical_of_accepts fun written nonce => ?_
  simp only [StoredAuthorizationNonceFields.build, StoredAuthorizationNonce.new, check_bind_eq_ok_iff]
  simp only [bind_eq_ok_iff, pure_eq_ok_iff, asUtc_eq_ok_iff_instant?]
  constructor
  · rintro ⟨_, expiry, expires, created, creates, rfl⟩
    exact ⟨congrArg₂ NonceTimes.mk expires creates, rfl⟩
  · rintro ⟨times, same⟩
    obtain ⟨tenantId, connectionId, digest, expiresAt, createdAt⟩ := written
    cases same
    exact ⟨nonce.digestShape, _, congrArg NonceTimes.expiresAt times, _, congrArg NonceTimes.createdAt times, rfl⟩

/-- The other dated types depend on instants only, too. -/
theorem dated_records_depend_on_instants :
    DependsOnInstants Tenant.new Tenant.toTenantFields ∧
      DependsOnInstants TenantMembership.new (id : TenantMembership → TenantMembershipFields Instant) ∧
      DependsOnInstants BrokerConnection.new BrokerConnection.toBrokerConnectionFields ∧
      DependsOnInstants RawArtifactFields.build artifactFields ∧
      DependsOnInstants AuthenticationStateFields.build authenticationFields ∧
      DependsOnInstants KiteSessionFields.build sessionFields ∧
      DependsOnInstants KiteAuthorizationStartFields.build startFields ∧
      DependsOnInstants PendingKiteAuthorizationFields.build pendingFields ∧
      DependsOnInstants StoredAuthorizationNonceFields.build nonceFields :=
  ⟨.of_canonical tenant_canonical, .of_canonical tenantMembership_canonical, .of_canonical brokerConnection_canonical,
    .of_canonical rawArtifact_canonical, .of_canonical authenticationState_canonical, .of_canonical kiteSession_canonical,
    .of_canonical kiteAuthorizationStart_canonical, .of_canonical pendingKiteAuthorization_canonical,
    .of_canonical storedAuthorizationNonce_canonical⟩

end PortfolioManager.Persistence
