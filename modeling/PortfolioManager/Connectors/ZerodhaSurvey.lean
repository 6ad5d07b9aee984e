import PortfolioManager.Connectors.Zerodha

/-! # What one collection run reports

A survey walks the requested capabilities in order and records, for each, the exchanges made
for it and the authentication issue known when it was reached. It has no counters, no issue
lists and no results: status, issues and artifacts of a capability are functions of its segment.
`collect` returns exactly the report of the survey as long as the loop can absorb every reply,
and raises otherwise.
-/

namespace PortfolioManager.Connectors.Zerodha.ZerodhaConnector

open PortfolioManager.Python PortfolioManager.Domain PortfolioManager.Application Checked Transcript

abbrev Exchange := KiteEndpoint × Reply

/-- The fetch failed with kind `AUTHENTICATION`. -/
def authFails : Reply → Bool
  | .error (.connector error) => error.kind = .authentication
  | _ => false

/-- The issue a failed fetch is reported as. -/
def issue? : Reply → Option ConnectorIssue
  | .error (.connector error) => some error.issue
  | _ => none

def authIssue? (reply : Reply) : Option ConnectorIssue := if authFails reply then issue? reply else none

/-- The authentication issues of a list of exchanges, in order. -/
def authIssues (exchanges : List Exchange) : List ConnectorIssue := exchanges.filterMap (authIssue? ·.2)

/-- The artifact a successful fetch contributes. -/
def artifact? (retrievedAt : Datetime) (exchange : Exchange) : Option RawArtifact :=
  exchange.2.toOption.bind fun payload => (toArtifact retrievedAt exchange.1 payload).toOption

/-- Replies the endpoint loop survives: typed failures, and payloads whose artifact can be built. -/
def Absorbable (retrievedAt : Datetime) : Reply → Prop
  | .ok payload => retrievedAt.Convertible ∧ ∀ source ∈ payload.sourceAt, source.Convertible
  | .error (.connector _) => True
  | .error (.builtin _) => False

theorem key_isKey : isKey key = true := by decide

theorem KiteEndpoint.schemaVersion_isKey (endpoint : KiteEndpoint) : isKey endpoint.schemaVersion = true := by
  cases endpoint <;> decide

theorem KiteEndpoint.schemaVersion_injective : Function.Injective KiteEndpoint.schemaVersion := by
  intro first second same
  cases first <;> cases second <;> first | rfl | exact absurd same (by decide)

private theorem exists_sourceAt_iff {source : Option Datetime} :
    (∃ converted, whenPresent (asUtc · "source_at") source = .ok converted) ↔
      ∀ value ∈ source, value.Convertible := by
  cases source with
  | none => simp [whenPresent]
  | some value => simp [whenPresent_some_eq_ok_iff, ← exists_asUtc_iff "source_at"]

/-- Of all the checks an artifact passes, only the two conversions can fail on a fetched payload. -/
theorem exists_toArtifact_iff {retrievedAt : Datetime} (endpoint : KiteEndpoint) {payload : KitePayload} :
    (∃ artifact, toArtifact retrievedAt endpoint payload = .ok artifact) ↔ Absorbable retrievedAt (.ok payload) := by
  simp only [toArtifact, RawArtifact.fromPayload, RawArtifact.new, check_of _ payload.nonempty,
    check_of _ payload.trimmed, check_of _ key_isKey, check_of _ (KiteEndpoint.schemaVersion_isKey endpoint),
    check_of _ (isDigest_hexdigest payload.body), check_of _ (Eq.refl (Sha256.hexdigest payload.body)),
    ok_bind, bind_eq_ok_iff, pure_eq_ok_iff]
  rw [Absorbable, ← exists_sourceAt_iff, ← exists_asUtc_iff "retrieved_at"]
  constructor
  · rintro ⟨_, retrieved, converted, source, sourced, _⟩
    exact ⟨⟨retrieved, converted⟩, source, sourced⟩
  · rintro ⟨⟨retrieved, converted⟩, source, sourced⟩
    exact ⟨_, retrieved, converted, source, sourced, rfl⟩

/-- A source time that does not convert is what building the artifact raises. -/
theorem toArtifact_of_source_error {retrievedAt : Datetime} (converted : retrievedAt.Convertible)
    (endpoint : KiteEndpoint) {payload : KitePayload} {error : Builtin}
    (refused : whenPresent (asUtc · "source_at") payload.sourceAt = .error error) :
    toArtifact retrievedAt endpoint payload = .error error := by
  obtain ⟨time, converted⟩ := (exists_asUtc_iff "retrieved_at").mpr converted
  simp only [toArtifact, RawArtifact.fromPayload, RawArtifact.new, check_of _ payload.nonempty,
    check_of _ payload.trimmed, check_of _ key_isKey, check_of _ (KiteEndpoint.schemaVersion_isKey endpoint),
    check_of _ (isDigest_hexdigest payload.body), check_of _ (Eq.refl (Sha256.hexdigest payload.body)),
    ok_bind, converted, refused, error_bind]

/-- An artifact carries its payload's bytes and media type and its endpoint's schema version. -/
theorem toArtifact_fields {retrievedAt : Datetime} {endpoint : KiteEndpoint} {payload : KitePayload}
    {artifact : RawArtifact} (built : toArtifact retrievedAt endpoint payload = .ok artifact) :
    artifact.payload = payload.body ∧ artifact.mediaType = payload.mediaType ∧
      artifact.schemaVersion = endpoint.schemaVersion ∧ artifact.connectorKey = key := by
  simp only [toArtifact, RawArtifact.fromPayload, RawArtifact.new, check_bind_eq_ok_iff] at built
  simp only [bind_eq_ok_iff, pure_eq_ok_iff] at built
  obtain ⟨_, _, _, _, _, _, _, _, _, _, rfl⟩ := built
  exact ⟨rfl, rfl, rfl, rfl⟩

theorem artifact?_error (retrievedAt : Datetime) (endpoint : KiteEndpoint) (raised : Raised) :
    artifact? retrievedAt (endpoint, .error raised) = none := rfl

theorem artifact?_eq_some_iff {retrievedAt : Datetime} {exchange : Exchange} {artifact : RawArtifact} :
    artifact? retrievedAt exchange = some artifact ↔
      ∃ payload, exchange.2 = .ok payload ∧ toArtifact retrievedAt exchange.1 payload = .ok artifact := by
  obtain ⟨endpoint, reply⟩ := exchange
  cases reply with
  | error raised => simp [artifact?_error]
  | ok payload =>
    cases built : toArtifact retrievedAt endpoint payload <;>
      simp [artifact?, built, Except.toOption]

/-- An absorbable success contributes an artifact of its endpoint. -/
theorem exists_artifact?_of_ok {retrievedAt : Datetime} (endpoint : KiteEndpoint) {payload : KitePayload}
    (absorbable : Absorbable retrievedAt (.ok payload)) :
    ∃ artifact, artifact? retrievedAt (endpoint, .ok payload) = some artifact ∧
      artifact.payload = payload.body ∧ artifact.schemaVersion = endpoint.schemaVersion := by
  obtain ⟨artifact, built⟩ := (exists_toArtifact_iff endpoint).mpr absorbable
  have fields := toArtifact_fields built
  exact ⟨artifact, artifact?_eq_some_iff.mpr ⟨payload, rfl, built⟩, fields.1, fields.2.2.1⟩

/-- What one absorbed exchange does to the locals of the endpoint loop. -/
def EndpointLoop.absorb (retrievedAt : Datetime) (loop : EndpointLoop) (exchange : Exchange) : EndpointLoop where
  artifacts := loop.artifacts ++ (artifact? retrievedAt exchange).toList
  successfulEndpoints := loop.successfulEndpoints + (artifact? retrievedAt exchange).toList.length
  issues := (issue? exchange.2).toList.foldl addIssue loop.issues
  authenticationIssue := (authIssue? exchange.2).or loop.authenticationIssue

theorem handleReply_of_absorbable {retrievedAt : Datetime} {endpoint : KiteEndpoint} {reply : Reply}
    (absorbable : Absorbable retrievedAt reply) (loop : EndpointLoop) :
    handleReply retrievedAt endpoint reply loop =
      .ok (if authFails reply then .done (loop.absorb retrievedAt (endpoint, reply))
        else .yield (loop.absorb retrievedAt (endpoint, reply))) := by
  cases reply with
  | ok payload =>
    obtain ⟨artifact, built⟩ := (exists_toArtifact_iff endpoint).mpr absorbable
    have contributed : artifact? retrievedAt (endpoint, .ok payload) = some artifact :=
      artifact?_eq_some_iff.mpr ⟨payload, rfl, built⟩
    simp [handleReply, Except.bind, built, lift, Except.mapError, authFails, EndpointLoop.absorb, contributed,
      issue?, authIssue?]
  | error raised =>
    cases raised with
    | builtin error => exact absorbable.elim
    | connector error =>
      by_cases revoked : error.kind = .authentication
      · simp [handleReply, Except.bind, ConnectorIssue.new_reasonCode, revoked, authFails, EndpointLoop.absorb,
          artifact?_error, issue?, authIssue?, pure, Except.pure]
      · simp [handleReply, Except.bind, ConnectorIssue.new_reasonCode, revoked, authFails, EndpointLoop.absorb,
          artifact?_error, issue?, authIssue?, pure, Except.pure]

/-- A payload without an artifact ends the loop with the error of its construction. -/
theorem handleReply_of_refused {retrievedAt : Datetime} {endpoint : KiteEndpoint} {payload : KitePayload} {error : Builtin}
    (refused : toArtifact retrievedAt endpoint payload = .error error) (loop : EndpointLoop) :
    handleReply retrievedAt endpoint (.ok payload) loop = .error (.builtin error) := by
  simp [handleReply, Except.bind, refused, lift, Except.mapError]

theorem handleReply_of_not_absorbable {retrievedAt : Datetime} {reply : Reply}
    (fatal : ¬Absorbable retrievedAt reply) (endpoint : KiteEndpoint) (loop : EndpointLoop) :
    ∃ error, handleReply retrievedAt endpoint reply loop = .error (.builtin error) := by
  cases reply with
  | ok payload =>
    cases built : toArtifact retrievedAt endpoint payload with
    | ok artifact => exact absurd ((exists_toArtifact_iff endpoint).mp ⟨artifact, built⟩) fatal
    | error error => exact ⟨error, handleReply_of_refused built loop⟩
  | error raised =>
    cases raised with
    | builtin error => exact ⟨error, rfl⟩
    | connector error => exact absurd trivial fatal

variable {σ : Type*} {transport : KiteTransport σ} {retrievedAt : Datetime}

/-- The endpoint loop is a conversation that ends at an authentication failure, absorbed in order. -/
theorem collectEndpoints_of_absorbable {queries : List KiteEndpoint} {log : FetchLog σ}
    (absorbable : ∀ exchange ∈ (converse transport.fetch authFails queries log.state).1,
      Absorbable retrievedAt exchange.2) (loop : EndpointLoop) :
    collectEndpoints transport retrievedAt queries loop log =
      (.ok ((converse transport.fetch authFails queries log.state).1.foldl
          (EndpointLoop.absorb retrievedAt) loop),
        log.extend (converse transport.fetch authFails queries log.state)) := by
  induction queries generalizing loop log with
  | nil => simp [collectEndpoints, Log.extend]
  | cons query rest ih =>
    cases stop : authFails (transport.fetch log.state query).1 with
    | true =>
      rw [converse_cons_of_stops stop] at absorbable ⊢
      have first := absorbable _ (List.mem_singleton_self _)
      simp [collectEndpoints, Log.ask, handleReply_of_absorbable first, stop, Log.extend]
    | false =>
      rw [converse_cons_of_not_stops stop] at absorbable ⊢
      have first := absorbable _ (List.mem_cons_self ..)
      have later := @ih (log.ask transport.fetch query).2
        (fun exchange member => absorbable exchange (List.mem_cons_of_mem _ member))
      simp only [collectEndpoints, Log.ask, handleReply_of_absorbable first, stop, Bool.false_eq_true, ↓reduceIte]
      simp only [Log.ask] at later
      rw [later]
      simp [Log.extend]

/-- A reply that cannot be absorbed makes the endpoint loop raise. -/
theorem collectEndpoints_of_fatal {queries : List KiteEndpoint} {log : FetchLog σ}
    (fatal : ¬∀ exchange ∈ (converse transport.fetch authFails queries log.state).1,
      Absorbable retrievedAt exchange.2) (loop : EndpointLoop) :
    ∃ error, (collectEndpoints transport retrievedAt queries loop log).1 = .error (.builtin error) := by
  induction queries generalizing loop log with
  | nil => simp at fatal
  | cons query rest ih =>
    by_cases first : Absorbable retrievedAt (transport.fetch log.state query).1
    · cases stop : authFails (transport.fetch log.state query).1 with
      | true =>
        rw [converse_cons_of_stops stop] at fatal
        exact absurd (fun exchange member => (List.mem_singleton.mp member) ▸ first) fatal
      | false =>
        rw [converse_cons_of_not_stops stop] at fatal
        simp only [collectEndpoints, Log.ask, handleReply_of_absorbable first, stop, Bool.false_eq_true, ↓reduceIte]
        refine @ih (log.ask transport.fetch query).2 ?_ _
        intro later
        exact fatal (List.forall_mem_cons.mpr ⟨first, later⟩)
    · obtain ⟨error, raised⟩ := handleReply_of_not_absorbable first query loop
      exact ⟨error, by simp [collectEndpoints, Log.ask, raised]⟩

/-! ## The closed form of an absorbed endpoint loop -/

theorem foldl_addIssue_eq_eraseDups (issues : List ConnectorIssue) : issues.foldl addIssue [] = issues.eraseDups := by
  induction issues using List.reverseRecOn with
  | nil => rfl
  | append_singleton issues issue ih =>
    rw [List.foldl_append, ih, List.eraseDups_append]
    by_cases known : issue ∈ issues <;> simp [addIssue, known, List.removeAll, List.eraseDups_cons]

theorem eraseDups_nodup (issues : List ConnectorIssue) : issues.eraseDups.Nodup := by
  rw [← foldl_addIssue_eq_eraseDups]
  induction issues using List.reverseRecOn with
  | nil => exact List.nodup_nil
  | append_singleton issues issue ih =>
    rw [List.foldl_append]
    by_cases known : issue ∈ issues.foldl addIssue []
    · simpa [addIssue, known] using ih
    · rw [List.foldl_cons, List.foldl_nil, addIssue, if_neg known]
      exact List.nodup_append.mpr ⟨ih, List.nodup_singleton _, fun other present last singleton same =>
        known (List.mem_singleton.mp singleton ▸ same ▸ present)⟩

theorem foldl_absorb (loop : EndpointLoop) (exchanges : List Exchange) :
    exchanges.foldl (EndpointLoop.absorb retrievedAt) loop =
      { artifacts := loop.artifacts ++ exchanges.filterMap (artifact? retrievedAt)
        successfulEndpoints := loop.successfulEndpoints + (exchanges.filterMap (artifact? retrievedAt)).length
        issues := (exchanges.filterMap (issue? ·.2)).foldl addIssue loop.issues
        authenticationIssue := (authIssues exchanges).getLast?.or loop.authenticationIssue } := by
  induction exchanges generalizing loop with
  | nil => simp [authIssues]
  | cons exchange rest ih =>
    rw [List.foldl_cons, ih]
    cases contributed : artifact? retrievedAt exchange <;> cases reported : issue? exchange.2 <;>
      cases revoked : authIssue? exchange.2 <;>
      simp [EndpointLoop.absorb, authIssues, contributed, reported, revoked, List.getLast?_cons, Nat.add_assoc,
        Nat.add_comm 1]

/-! ## Segments of a survey -/

/-- One requested capability: the exchanges made for it and the authentication issue known when
it was reached. -/
structure Segment where
  capability : Capability
  exchanges : List Exchange
  latch : Option ConnectorIssue

theorem unsupported_isKey : isKey "capability.unsupported" = true := by decide

def unsupportedIssue : ConnectorIssue := ⟨"capability.unsupported", unsupported_isKey⟩

namespace Segment

def artifacts (segment : Segment) (retrievedAt : Datetime) : List RawArtifact :=
  segment.exchanges.filterMap (artifact? retrievedAt)

def issues (segment : Segment) : List ConnectorIssue :=
  match endpoints segment.capability, segment.latch with
  | none, _ => [unsupportedIssue]
  | some _, some issue => [issue]
  | some _, none => (segment.exchanges.filterMap (issue? ·.2)).eraseDups

def status (segment : Segment) (retrievedAt : Datetime) : OutcomeStatus :=
  match endpoints segment.capability with
  | none => .unsupported
  | some _ =>
      if segment.issues = [] then .succeeded
      else if (segment.artifacts retrievedAt).length ≠ 0 then .partly
      else .failed

/-- The authentication issue known after the segment. -/
def latchAfter (segment : Segment) : Option ConnectorIssue :=
  (authIssues segment.exchanges).getLast?.or segment.latch

theorem issues_of_supported {segment : Segment} {queries : List KiteEndpoint}
    (supported : endpoints segment.capability = some queries) (unlatched : segment.latch = none) :
    segment.issues = (segment.exchanges.filterMap (issue? ·.2)).eraseDups := by
  simp only [issues, supported, unlatched]

theorem issues_of_latched {segment : Segment} {queries : List KiteEndpoint} {issue : ConnectorIssue}
    (supported : endpoints segment.capability = some queries) (latched : segment.latch = some issue) :
    segment.issues = [issue] := by
  simp only [issues, supported, latched]

theorem status_of_supported {segment : Segment} {queries : List KiteEndpoint}
    (supported : endpoints segment.capability = some queries) :
    segment.status retrievedAt =
      if segment.issues = [] then .succeeded
      else if (segment.artifacts retrievedAt).length ≠ 0 then .partly
      else .failed := by
  rw [status, supported]

theorem issues_nodup (segment : Segment) : segment.issues.Nodup := by
  unfold issues
  split
  · exact List.nodup_singleton _
  · exact List.nodup_singleton _
  · exact eraseDups_nodup _

theorem issues_ne_nil_of_unsupported {segment : Segment} (unsupported : endpoints segment.capability = none) :
    segment.issues = [unsupportedIssue] := by
  simp [issues, unsupported]

theorem status_succeeded_iff {segment : Segment} :
    segment.status retrievedAt = .succeeded ↔ segment.issues = [] := by
  unfold status
  cases supported : endpoints segment.capability with
  | none => simp [issues_ne_nil_of_unsupported supported]
  | some queries =>
    by_cases clean : segment.issues = []
    · simp [clean]
    · by_cases evidence : segment.artifacts retrievedAt = [] <;> simp [clean, evidence]

/-- The outcome a segment reports; its fields satisfy the constructor's checks by construction. -/
def outcome (segment : Segment) (retrievedAt : Datetime) : CapabilityOutcome where
  capability := segment.capability
  status := segment.status retrievedAt
  issues := segment.issues
  successClean := status_succeeded_iff.mp
  failureExplained := mt status_succeeded_iff.mpr
  distinct := segment.issues_nodup

end Segment

/-- The exchanges made for one capability: none when it is unsupported or the latch is set. -/
def visit (transport : KiteTransport σ) (capability : Capability) (latch : Option ConnectorIssue) (state : σ) :
    List Exchange × σ :=
  match endpoints capability, latch with
  | some queries, none => converse transport.fetch authFails queries state
  | _, _ => ([], state)

/-- Visit the capabilities in order, passing the authentication latch along. -/
def survey (transport : KiteTransport σ) :
    List Capability → Option ConnectorIssue → σ → List Segment × σ
  | [], _, state => ([], state)
  | capability :: rest, latch, state =>
      let (exchanges, next) := visit transport capability latch state
      let segment : Segment := ⟨capability, exchanges, latch⟩
      let (segments, last) := survey transport rest segment.latchAfter next
      (segment :: segments, last)

/-- Every exchange a survey made, oldest first. -/
def exchangesOf (segments : List Segment) : List Exchange := segments.flatMap (·.exchanges)

@[simp] theorem exchangesOf_cons (segment : Segment) (segments : List Segment) :
    exchangesOf (segment :: segments) = segment.exchanges ++ exchangesOf segments := rfl

/-- The capability loop's locals after one segment. -/
def Collection.add (collection : Collection) (retrievedAt : Datetime) (segment : Segment) : Collection where
  artifacts := collection.artifacts ++ segment.artifacts retrievedAt
  outcomes := collection.outcomes ++ [segment.outcome retrievedAt]
  authenticationIssue := segment.latchAfter

theorem Collection.record_outcome {collection : Collection} {segment : Segment} :
    collection.record segment.capability (segment.status retrievedAt) segment.issues =
      .ok { collection with outcomes := collection.outcomes ++ [segment.outcome retrievedAt] } := by
  have built : CapabilityOutcome.new segment.capability (segment.status retrievedAt) segment.issues =
      .ok (segment.outcome retrievedAt) := CapabilityOutcome.new_eq_ok_iff.mpr ⟨rfl, rfl, rfl⟩
  simp only [Collection.record, built, ok_bind]
  rfl

/-- One iteration of the capability loop adds exactly the segment of its visit. -/
theorem collectCapability_of_absorbable {capability : Capability} {collection : Collection} {log : FetchLog σ}
    (absorbable : ∀ exchange ∈ (visit transport capability collection.authenticationIssue log.state).1,
      Absorbable retrievedAt exchange.2) :
    collectCapability transport retrievedAt capability collection log =
      (.ok (collection.add retrievedAt
          ⟨capability, (visit transport capability collection.authenticationIssue log.state).1,
            collection.authenticationIssue⟩),
        log.extend (visit transport capability collection.authenticationIssue log.state)) := by
  obtain ⟨artifacts, outcomes, latch⟩ := collection
  cases supported : endpoints capability with
  | none =>
    have recorded := @Collection.record_outcome retrievedAt ⟨artifacts, outcomes, latch⟩ ⟨capability, [], latch⟩
    have issue : ConnectorIssue.new "capability.unsupported" = .ok unsupportedIssue := rfl
    simp only [Segment.status, supported, Segment.issues] at recorded
    simp [collectCapability, supported, visit, issue, recorded, Collection.add, Log.extend, Segment.artifacts,
      Segment.latchAfter, authIssues]
  | some queries =>
    cases latch with
    | some issue =>
      have recorded := @Collection.record_outcome retrievedAt ⟨artifacts, outcomes, some issue⟩
        ⟨capability, [], some issue⟩
      simp only [Segment.status, supported, Segment.issues, Segment.artifacts, List.filterMap_nil] at recorded
      simp at recorded
      simp [collectCapability, supported, visit, recorded, Collection.add, Log.extend, Segment.artifacts,
        Segment.latchAfter, authIssues]
    | none =>
      simp only [visit, supported] at absorbable ⊢
      have walked := collectEndpoints_of_absorbable absorbable ⟨artifacts, 0, [], none⟩
      generalize converse transport.fetch authFails queries log.state = talk at walked
      have recorded := @Collection.record_outcome retrievedAt
        ⟨artifacts ++ talk.1.filterMap (artifact? retrievedAt), outcomes,
          (authIssues talk.1).getLast?⟩ ⟨capability, talk.1, none⟩
      have status (shared : List RawArtifact) (latch : Option ConnectorIssue) :
          EndpointLoop.status ⟨shared, (talk.1.filterMap (artifact? retrievedAt)).length,
            (talk.1.filterMap (issue? ·.2)).eraseDups, latch⟩ =
          Segment.status ⟨capability, talk.1, none⟩ retrievedAt := by
        rw [Segment.status_of_supported supported, Segment.issues_of_supported supported rfl]
        rfl
      rw [Segment.issues_of_supported supported rfl] at recorded
      simp only [collectCapability, supported, walked, foldl_absorb, ok_bind, foldl_addIssue_eq_eraseDups,
        Nat.zero_add, Option.or_none, status, recorded, Collection.add, Segment.artifacts, Segment.latchAfter]

/-! ## What an endpoint loop raises ends the run -/

theorem collectEndpoints_of_refused {endpoint : KiteEndpoint} {payload : KitePayload} {error : Builtin}
    (refused : toArtifact retrievedAt endpoint payload = .error error) {log : FetchLog σ}
    (answered : (transport.fetch log.state endpoint).1 = .ok payload) (rest : List KiteEndpoint) (loop : EndpointLoop) :
    collectEndpoints transport retrievedAt (endpoint :: rest) loop log =
      (.error (.builtin error), (log.ask transport.fetch endpoint).2) := by
  rw [collectEndpoints, Log.ask, answered]
  simp only [handleReply_of_refused refused]

theorem collectCapability_of_raised {capability : Capability} {queries : List KiteEndpoint} {collection : Collection}
    {log last : FetchLog σ} {raised : Raised} (supported : endpoints capability = some queries)
    (unlatched : collection.authenticationIssue = none)
    (ended : collectEndpoints transport retrievedAt queries ⟨collection.artifacts, 0, [], none⟩ log = (.error raised, last)) :
    collectCapability transport retrievedAt capability collection log = (.error raised, last) := by
  simp only [collectCapability, supported, unlatched, ended]
  rfl

theorem collectCapabilities_of_returned {capability : Capability} {collection next : Collection} {log last : FetchLog σ}
    (returned : collectCapability transport retrievedAt capability collection log = (.ok next, last)) (rest : List Capability) :
    collectCapabilities transport retrievedAt (capability :: rest) collection log =
      collectCapabilities transport retrievedAt rest next last := by
  simp only [collectCapabilities, returned]

theorem collectCapabilities_of_raised {capability : Capability} {collection : Collection} {log last : FetchLog σ}
    {raised : Raised} (ended : collectCapability transport retrievedAt capability collection log = (.error raised, last))
    (rest : List Capability) :
    collectCapabilities transport retrievedAt (capability :: rest) collection log = (.error raised, last) := by
  simp only [collectCapabilities, ended]

/-- A reply that cannot be absorbed makes the capability raise. -/
theorem collectCapability_of_fatal {capability : Capability} {collection : Collection} {log : FetchLog σ}
    (fatal : ¬∀ exchange ∈ (visit transport capability collection.authenticationIssue log.state).1,
      Absorbable retrievedAt exchange.2) :
    ∃ error, (collectCapability transport retrievedAt capability collection log).1 = .error (.builtin error) := by
  obtain ⟨artifacts, outcomes, latch⟩ := collection
  cases supported : endpoints capability with
  | none => simp [visit, supported] at fatal
  | some queries =>
    cases latch with
    | some issue => simp [visit, supported] at fatal
    | none =>
      simp only [visit, supported] at fatal
      obtain ⟨error, raised⟩ := collectEndpoints_of_fatal fatal ⟨artifacts, 0, [], none⟩
      exact ⟨error, congrArg Prod.fst (collectCapability_of_raised supported rfl (Prod.ext raised rfl))⟩

theorem survey_cons (capability : Capability) (rest : List Capability) (latch : Option ConnectorIssue) (state : σ) :
    survey transport (capability :: rest) latch state =
      (⟨capability, (visit transport capability latch state).1, latch⟩ ::
          (survey transport rest (Segment.latchAfter ⟨capability, (visit transport capability latch state).1, latch⟩)
            (visit transport capability latch state).2).1,
        (survey transport rest (Segment.latchAfter ⟨capability, (visit transport capability latch state).1, latch⟩)
            (visit transport capability latch state).2).2) := rfl

/-- The capability loop adds the segments of its survey in order. -/
theorem collectCapabilities_of_absorbable {capabilities : List Capability} {collection : Collection}
    {log : FetchLog σ}
    (absorbable : ∀ exchange ∈ exchangesOf (survey transport capabilities collection.authenticationIssue log.state).1,
      Absorbable retrievedAt exchange.2) :
    collectCapabilities transport retrievedAt capabilities collection log =
      (.ok ((survey transport capabilities collection.authenticationIssue log.state).1.foldl
          (Collection.add · retrievedAt) collection),
        log.extend (exchangesOf (survey transport capabilities collection.authenticationIssue log.state).1,
          (survey transport capabilities collection.authenticationIssue log.state).2)) := by
  induction capabilities generalizing collection log with
  | nil => simp [collectCapabilities, survey, exchangesOf, Log.extend]
  | cons capability rest ih =>
    rw [survey_cons, exchangesOf_cons] at absorbable
    have first := collectCapability_of_absorbable fun exchange member =>
      absorbable exchange (List.mem_append_left _ member)
    have later := @ih (collection.add retrievedAt _) (log.extend _) fun exchange member =>
      absorbable exchange (List.mem_append_right _ member)
    rw [collectCapabilities_of_returned first, later, survey_cons, List.foldl_cons, exchangesOf_cons]
    simp [Log.extend, Collection.add]

theorem collectCapabilities_of_fatal {capabilities : List Capability} {collection : Collection} {log : FetchLog σ}
    (fatal : ¬∀ exchange ∈ exchangesOf (survey transport capabilities collection.authenticationIssue log.state).1,
      Absorbable retrievedAt exchange.2) :
    ∃ error, (collectCapabilities transport retrievedAt capabilities collection log).1 = .error (.builtin error) := by
  induction capabilities generalizing collection log with
  | nil => simp [survey, exchangesOf] at fatal
  | cons capability rest ih =>
    rw [survey_cons, exchangesOf_cons] at fatal
    by_cases first : ∀ exchange ∈ (visit transport capability collection.authenticationIssue log.state).1,
        Absorbable retrievedAt exchange.2
    · rw [collectCapabilities_of_returned (collectCapability_of_absorbable first)]
      refine @ih (collection.add retrievedAt _) (log.extend _) fun later => fatal fun exchange member => ?_
      rcases List.mem_append.mp member with here | there
      · exact first exchange here
      · exact later exchange there
    · obtain ⟨error, raised⟩ := collectCapability_of_fatal first
      exact ⟨error, congrArg Prod.fst (collectCapabilities_of_raised (Prod.ext raised rfl) rest)⟩

theorem foldl_add (segments : List Segment) (collection : Collection) :
    (segments.foldl (Collection.add · retrievedAt) collection).artifacts =
        collection.artifacts ++ segments.flatMap (·.artifacts retrievedAt) ∧
      (segments.foldl (Collection.add · retrievedAt) collection).outcomes =
        collection.outcomes ++ segments.map (·.outcome retrievedAt) := by
  induction segments generalizing collection with
  | nil => simp
  | cons segment rest ih => simp [List.foldl_cons, ih, Collection.add]

theorem survey_capabilities (capabilities : List Capability) (latch : Option ConnectorIssue) (state : σ) :
    (survey transport capabilities latch state).1.map (·.capability) = capabilities := by
  induction capabilities generalizing latch state with
  | nil => rfl
  | cons capability rest ih => rw [survey_cons, List.map_cons, ih]

/-! ## The report of a whole run -/

/-- The survey a request leads to once the transport reported ready. -/
def surveyOf (transport : KiteTransport σ) (request : CollectionRequest) (state : σ) : List Segment × σ :=
  survey transport request.sortedCapabilities none (transport.authenticationState state).2

def Ready (transport : KiteTransport σ) (state : σ) : Prop :=
  (transport.authenticationState state).1.status = .ready

theorem collect_of_not_ready {request : CollectionRequest} {state : σ} (notReady : ¬Ready transport state) :
    collect transport retrievedAt request state =
      (raiseConnectorError .authentication
          ((transport.authenticationState state).1.reasonCode.getD "session.not_ready") none,
        ⟨(transport.authenticationState state).2, []⟩) := by
  unfold Ready at notReady
  simp [collect, notReady]

theorem collect_of_raised {request : CollectionRequest} {state : σ} (ready : Ready transport state) {raised : Raised}
    {last : FetchLog σ} (ended : collectCapabilities transport retrievedAt request.sortedCapabilities ⟨[], [], none⟩
      ⟨(transport.authenticationState state).2, []⟩ = (.error raised, last)) :
    collect transport retrievedAt request state = (.error raised, last) := by
  unfold Ready at ready
  simp only [collect, ready, ended, ne_eq, not_true_eq_false, ↓reduceIte]

/-- A run whose replies can all be absorbed returns exactly the report of its survey. -/
theorem collect_of_absorbable {request : CollectionRequest} {state : σ} (ready : Ready transport state)
    (absorbable : ∀ exchange ∈ exchangesOf (surveyOf transport request state).1, Absorbable retrievedAt exchange.2) :
    ∃ result : CollectionResult,
      collect transport retrievedAt request state =
        (.ok result, ⟨(surveyOf transport request state).2, exchangesOf (surveyOf transport request state).1⟩) ∧
      result.artifacts = (surveyOf transport request state).1.flatMap (·.artifacts retrievedAt) ∧
      result.outcomes = (surveyOf transport request state).1.map (·.outcome retrievedAt) := by
  have walked := @collectCapabilities_of_absorbable _ transport retrievedAt (request.capabilities.sort (· ≤ ·)) ⟨[], [], none⟩
    ⟨(transport.authenticationState state).2, []⟩ absorbable
  have capabilities := @survey_capabilities _ transport (request.capabilities.sort (· ≤ ·)) none
    (transport.authenticationState state).2
  change (surveyOf transport request state).1.map (·.capability) = _ at capabilities
  have nonempty : (surveyOf transport request state).1.map (·.outcome retrievedAt) ≠ [] := by
    intro empty
    rw [List.map_eq_nil_iff] at empty
    rw [empty, List.map_nil] at capabilities
    exact request.requested (Finset.ext fun capability => by
      rw [← Finset.mem_sort (· ≤ ·), ← capabilities]
      simp)
  have distinct : (((surveyOf transport request state).1.map (·.outcome retrievedAt)).map (·.capability)).Nodup := by
    rw [List.map_map]
    change ((surveyOf transport request state).1.map (·.capability)).Nodup
    rw [capabilities]
    exact request.capabilities.sort_nodup _
  refine ⟨⟨_, _, nonempty, distinct⟩, ?_, rfl, rfl⟩
  unfold Ready at ready
  have report := @foldl_add retrievedAt (surveyOf transport request state).1 ⟨[], [], none⟩
  simp only [List.nil_append] at report
  simp only [collect, ready, ne_eq, not_true_eq_false, ↓reduceIte, walked]
  rw [Prod.mk.injEq]
  refine ⟨CollectionResult.new_eq_ok_iff.mpr ⟨report.1.symm, report.2.symm⟩, ?_⟩
  simp [Log.extend, surveyOf]

/-- A reply that cannot be absorbed makes the run raise a built-in exception. -/
theorem collect_of_fatal {request : CollectionRequest} {state : σ} (ready : Ready transport state)
    (fatal : ¬∀ exchange ∈ exchangesOf (surveyOf transport request state).1, Absorbable retrievedAt exchange.2) :
    ∃ error, (collect transport retrievedAt request state).1 = .error (.builtin error) := by
  obtain ⟨error, raised⟩ := @collectCapabilities_of_fatal _ transport retrievedAt
    (request.capabilities.sort (· ≤ ·)) ⟨[], [], none⟩ ⟨(transport.authenticationState state).2, []⟩ fatal
  exact ⟨error, congrArg Prod.fst (collect_of_raised ready (Prod.ext raised rfl))⟩

/-- Whenever `collect` returns, it returned the report of the survey and logged its exchanges. -/
theorem collect_eq_ok {request : CollectionRequest} {state : σ} {result : CollectionResult} {log : FetchLog σ}
    (returned : collect transport retrievedAt request state = (.ok result, log)) :
    Ready transport state ∧
      (∀ exchange ∈ exchangesOf (surveyOf transport request state).1, Absorbable retrievedAt exchange.2) ∧
      log.entries = exchangesOf (surveyOf transport request state).1 ∧
      result.artifacts = (surveyOf transport request state).1.flatMap (·.artifacts retrievedAt) ∧
      result.outcomes = (surveyOf transport request state).1.map (·.outcome retrievedAt) := by
  have ready : Ready transport state := by
    by_contra notReady
    rw [collect_of_not_ready notReady] at returned
    simp only [raiseConnectorError, Prod.mk.injEq, bind_eq_ok_iff] at returned
    obtain ⟨⟨_, _, raised⟩, _⟩ := returned
    contradiction
  by_cases absorbable : ∀ exchange ∈ exchangesOf (surveyOf transport request state).1, Absorbable retrievedAt exchange.2
  · obtain ⟨report, returned', artifacts, outcomes⟩ := collect_of_absorbable ready absorbable
    rw [returned', Prod.mk.injEq, Except.ok.injEq] at returned
    obtain ⟨rfl, rfl⟩ := returned
    exact ⟨ready, absorbable, rfl, artifacts, outcomes⟩
  · obtain ⟨error, raised⟩ := collect_of_fatal ready absorbable
    rw [returned] at raised
    contradiction

end PortfolioManager.Connectors.Zerodha.ZerodhaConnector
