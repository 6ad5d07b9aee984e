import PortfolioManager.Connectors.ZerodhaReport

/-! # Outcomes agree with evidence, and authentication failure stops the run

The first half says what a returned result tells about the fetches of its run; the second half
says which fetches a run makes at all. Transports are arbitrary stateful peers throughout.
-/

namespace PortfolioManager.Connectors.Zerodha.ZerodhaConnector

open PortfolioManager.Python PortfolioManager.Domain PortfolioManager.Application Checked Transcript

variable {σ : Type*} {transport : KiteTransport σ} {retrievedAt : Datetime}

/-- Bytes and schema version of every successful fetch, in fetch order. -/
def evidence (exchanges : List Exchange) : List (Bytes × String) :=
  exchanges.filterMap fun exchange =>
    exchange.2.toOption.map fun payload => (payload.body, exchange.1.schemaVersion)

def reasonCode? : Reply → Option String
  | .error (.connector error) => some error.reasonCode
  | _ => none

/-- Reason codes of one capability's failed fetches, in fetch order. -/
def reasonCodes (exchanges : List Exchange) (capability : Capability) : List String :=
  (exchanges.filter fun exchange => exchange.1 ∈ endpointsOf capability).filterMap (reasonCode? ·.2)

/-- The fetches are what the transport answered to the plan of the request. Outcomes account for every
requested capability, artifacts for every successful fetch, and the status and issues of a capability
for what its own endpoints contributed. -/
structure Accounts (transport : KiteTransport σ) (request : CollectionRequest) (state : σ) (exchanges : List Exchange)
    (result : CollectionResult) : Prop where
  answered : exchanges = (converse transport.fetch authFails (plan request.capabilities.sort)
    (transport.authenticationState state).2).1
  oneEach : ∀ capability, (result.outcomes.map (·.capability)).count capability =
    if capability ∈ request.capabilities then 1 else 0
  ascending : (result.outcomes.map (·.capability.value)).Pairwise (· < ·)
  artifacts : result.artifacts.map (fun artifact => (artifact.payload, artifact.schemaVersion)) = evidence exchanges
  succeeded : ∀ outcome ∈ result.outcomes, outcome.status = .succeeded ↔
    ∃ queries, endpoints outcome.capability = some queries ∧ ∀ endpoint ∈ queries, Contributed result endpoint
  partly : ∀ outcome ∈ result.outcomes, outcome.status = .partly ↔
    ∃ queries, endpoints outcome.capability = some queries ∧
      (∃ endpoint ∈ queries, Contributed result endpoint) ∧ ∃ endpoint ∈ queries, ¬Contributed result endpoint
  failed : ∀ outcome ∈ result.outcomes, outcome.status = .failed ↔
    ∃ queries, endpoints outcome.capability = some queries ∧ ∀ endpoint ∈ queries, ¬Contributed result endpoint
  unsupported : ∀ outcome ∈ result.outcomes, outcome.status = .unsupported ↔ endpoints outcome.capability = none
  issues : ∀ outcome ∈ result.outcomes,
    (outcome.status = .partly ∨
      outcome.status = .failed ∧ ∃ exchange ∈ exchanges, exchange.1 ∈ endpointsOf outcome.capability) →
    outcome.issues.map (·.code) = (reasonCodes exchanges outcome.capability).eraseDups

private theorem map_eraseDups {α β : Type} [DecidableEq α] [DecidableEq β] {f : α → β}
    (injective : Function.Injective f) (items : List α) : items.eraseDups.map f = (items.map f).eraseDups := by
  induction items using List.reverseRecOn with
  | nil => rfl
  | append_singleton items item ih =>
    rw [List.eraseDups_append, List.map_append, ih, List.map_append, List.eraseDups_append]
    by_cases known : item ∈ items
    · simp [List.removeAll, known, injective.eq_iff]
    · simp [List.removeAll, known, injective.eq_iff, List.eraseDups_cons]

private theorem reasonCodes_eq (exchanges : List Exchange) :
    exchanges.filterMap (reasonCode? ·.2) = (exchanges.filterMap (issue? ·.2)).map (·.code) := by
  rw [List.map_filterMap]
  congr 1
  funext exchange
  cases exchange.2 with
  | ok payload => rfl
  | error raised => cases raised <;> rfl

private theorem evidence_eq {exchanges : List Exchange}
    (absorbable : ∀ exchange ∈ exchanges, Absorbable retrievedAt exchange.2) :
    (exchanges.filterMap (artifact? retrievedAt)).map (fun artifact => (artifact.payload, artifact.schemaVersion)) =
      evidence exchanges := by
  rw [List.map_filterMap]
  apply List.filterMap_congr
  rintro ⟨endpoint, reply⟩ member
  cases reply with
  | error raised => rfl
  | ok payload =>
    obtain ⟨artifact, contributed, body, schema⟩ := exists_artifact?_of_ok endpoint (absorbable _ member)
    simp [contributed, body, schema, Except.toOption]

theorem artifacts_flatMap (segments : List Segment) :
    segments.flatMap (·.artifacts retrievedAt) = (exchangesOf segments).filterMap (artifact? retrievedAt) := by
  rw [exchangesOf, List.filterMap_flatMap]
  rfl

namespace Reported

variable {segments : List Segment} {result : CollectionResult} {segment : Segment}

/-- The four status rules for the outcome of one segment. -/
theorem status_iff (report : Reported retrievedAt segments result) (member : segment ∈ segments) :
    (segment.status retrievedAt = .succeeded ↔
      ∃ queries, endpoints segment.capability = some queries ∧ ∀ endpoint ∈ queries, Contributed result endpoint) ∧
    (segment.status retrievedAt = .partly ↔
      ∃ queries, endpoints segment.capability = some queries ∧
        (∃ endpoint ∈ queries, Contributed result endpoint) ∧ ∃ endpoint ∈ queries, ¬Contributed result endpoint) ∧
    (segment.status retrievedAt = .failed ↔
      ∃ queries, endpoints segment.capability = some queries ∧ ∀ endpoint ∈ queries, ¬Contributed result endpoint) ∧
    (segment.status retrievedAt = .unsupported ↔ endpoints segment.capability = none) := by
  cases supported : endpoints segment.capability with
  | none => simp [Segment.status, supported]
  | some queries =>
    have owned := endpointsOf_of_supported supported
    have contributed {endpoint : KiteEndpoint} (asked : endpoint ∈ queries) :
        Contributed result endpoint ↔ ∃ payload, (endpoint, .ok payload) ∈ segment.exchanges :=
      report.contributed_iff member (owned.symm ▸ asked)
    have all : segment.issues = [] ↔ ∀ endpoint ∈ queries, Contributed result endpoint :=
      (report.issues_eq_nil_iff member supported).trans (forall₂_congr fun _ asked => (contributed asked).symm)
    have nothing : segment.artifacts retrievedAt = [] ↔ ∀ endpoint ∈ queries, ¬Contributed result endpoint :=
      (report.artifacts_eq_nil_iff member supported).trans
        (forall₂_congr fun _ asked => not_congr (contributed asked).symm)
    obtain ⟨witness, asked⟩ := List.exists_mem_of_ne_nil queries (endpoints_ne_nil supported)
    simp only [Option.some.injEq, exists_eq_left', ← all, ← nothing]
    have some_iff : (∃ endpoint ∈ queries, Contributed result endpoint) ↔ segment.artifacts retrievedAt ≠ [] := by
      rw [Ne, nothing]
      push Not
      rfl
    have missing_iff : (∃ endpoint ∈ queries, ¬Contributed result endpoint) ↔ segment.issues ≠ [] := by
      rw [Ne, all]
      push Not
      rfl
    have exclusive : segment.issues = [] → segment.artifacts retrievedAt ≠ [] := fun clean empty =>
      nothing.mp empty witness asked (all.mp clean witness asked)
    rw [some_iff, missing_iff, Segment.status_of_supported supported]
    by_cases clean : segment.issues = []
    · simp [clean, exclusive clean]
    · by_cases empty : segment.artifacts retrievedAt = [] <;> simp [clean, empty]

/-- The issues of a segment that fetched something are the distinct codes of its own failures. -/
theorem issues_eq (report : Reported retrievedAt segments result) (member : segment ∈ segments)
    {queries : List KiteEndpoint} (supported : endpoints segment.capability = some queries)
    (fetched : segment.exchanges ≠ []) :
    segment.issues.map (·.code) = (reasonCodes (exchangesOf segments) segment.capability).eraseDups := by
  have unlatched : segment.latch = none := by
    cases latch : segment.latch with
    | none => rfl
    | some issue => exact absurd (report.latched segment member issue latch) fetched
  have codes : Function.Injective ConnectorIssue.code := by
    rintro ⟨first, _⟩ ⟨second, _⟩ same
    cases same
    rfl
  have own := filter_exchangesOf report.distinct (fun _ other _ inside => report.owner other inside) member
  simp only [reasonCodes, mem_endpointsOf_iff]
  rw [own, Segment.issues_of_supported supported unlatched, map_eraseDups codes, reasonCodes_eq]

end Reported

/-- Whenever `collect` returns, its outcomes and artifacts account for the fetches it made. -/
theorem collect_accounts {request : CollectionRequest} {clock : Datetime} {state : σ} {result : CollectionResult}
    {log : FetchLog σ} (returned : collect transport clock request state = (.ok result, log)) :
    Accounts transport request state log.entries result := by
  obtain ⟨_, absorbable, entries, artifacts, outcomes⟩ := collect_eq_ok returned
  have report := reported_of_eq absorbable artifacts outcomes
  have capabilities : result.outcomes.map (·.capability) = request.capabilities.sort (· ≤ ·) := by
    rw [outcomes, List.map_map, ← @surveyOf_capabilities _ transport request state]
    rfl
  have answered := @exchangesOf_surveyOf _ transport request state
  rw [entries]
  generalize (surveyOf transport request state).1 = segments at absorbable artifacts outcomes report answered
  have status {outcome : CapabilityOutcome} (member : outcome ∈ result.outcomes) :
      ∃ segment ∈ segments, segment.outcome clock = outcome := List.mem_map.mp (outcomes ▸ member)
  refine ⟨answered, ?_, ?_, ?_, ?_, ?_, ?_, ?_, ?_⟩
  · intro capability
    rw [capabilities]
    split
    · next requested =>
      exact List.count_eq_one_of_mem (Finset.sort_nodup _ _) ((Finset.mem_sort _).mpr requested)
    · next absent => exact List.count_eq_zero.mpr (mt (Finset.mem_sort _).mp absent)
  · have sorted : (request.capabilities.sort (· ≤ ·)).Pairwise (· < ·) := (Finset.sortedLT_sort _).pairwise
    rw [← capabilities, List.pairwise_map] at sorted
    exact List.pairwise_map.mpr sorted
  · rw [artifacts, artifacts_flatMap, evidence_eq absorbable]
  · rintro _ member
    obtain ⟨segment, present, rfl⟩ := status member
    exact (report.status_iff present).1
  · rintro _ member
    obtain ⟨segment, present, rfl⟩ := status member
    exact (report.status_iff present).2.1
  · rintro _ member
    obtain ⟨segment, present, rfl⟩ := status member
    exact (report.status_iff present).2.2.1
  · rintro _ member
    obtain ⟨segment, present, rfl⟩ := status member
    exact (report.status_iff present).2.2.2
  · rintro _ member attempted
    obtain ⟨segment, present, rfl⟩ := status member
    have rules := report.status_iff present
    rcases attempted with some_missing | ⟨none_contributed, exchange, inside, owned⟩
    · obtain ⟨queries, supported, ⟨endpoint, asked, contributed⟩, _⟩ := rules.2.1.mp some_missing
      have asked' : endpoint ∈ endpointsOf segment.capability := endpointsOf_of_supported supported ▸ asked
      obtain ⟨payload, fetched⟩ := (report.contributed_iff present asked').mp contributed
      exact report.issues_eq present supported (List.ne_nil_of_mem fetched)
    · obtain ⟨queries, supported, _⟩ := rules.2.2.1.mp none_contributed
      exact report.issues_eq present supported
        (List.ne_nil_of_mem (report.mem_exchanges present inside (mem_endpointsOf_iff.mp owned)))

/-- A reply the connector can work with: a payload that becomes an artifact, or a typed failure. -/
def Usable (clock : Datetime) (endpoint : KiteEndpoint) : Reply → Prop
  | .ok payload => ∃ artifact, toArtifact clock endpoint payload = .ok artifact
  | .error raised => ∃ error, raised = .connector error

theorem usable_iff_absorbable {clock : Datetime} {endpoint : KiteEndpoint} {reply : Reply} :
    Usable clock endpoint reply ↔ Absorbable clock reply := by
  cases reply with
  | ok payload => exact exists_toArtifact_iff endpoint
  | error raised => cases raised <;> simp [Usable, Absorbable]

/-- A transport whose replies are usable in every state lets every survey be absorbed. -/
theorem absorbable_of_usable {clock : Datetime} {request : CollectionRequest} {state : σ}
    (usable : ∀ reached endpoint, Usable clock endpoint (transport.fetch reached endpoint).1) :
    ∀ exchange ∈ exchangesOf (surveyOf transport request state).1, Absorbable clock exchange.2 := by
  intro exchange member
  rw [exchangesOf_surveyOf] at member
  obtain ⟨reached, answered⟩ := converse_answers member
  exact usable_iff_absorbable.mp (answered ▸ usable reached exchange.1)

/-! ### A broker that revokes the session during trades -/

def sampleClock : Datetime where
  wall := 63000000000000000
  utcoffset := some 0

def sampleBody : KitePayload where
  body := [123, 125]
  mediaType := "application/json"
  sourceAt := none
  nonempty := by decide
  trimmed := by decide

def sampleReply : KiteEndpoint → Reply
  | .trades => .error (.connector ⟨.authentication, "session.expired", none, by decide, by decide⟩)
  | .funds => .error (.connector ⟨.rateLimit, "request.rate_limited", none, by decide, by decide⟩)
  | _ => .ok sampleBody

def sampleTransport : KiteTransport Unit where
  authenticationState _ := (⟨.ready, none, none, by decide, by decide, by decide⟩, ())
  fetch _ endpoint := (sampleReply endpoint, ())

def sampleRequest : CollectionRequest where
  tenantId := ⟨⟨1⟩⟩
  connectionId := ⟨⟨2⟩⟩
  capabilities := {.activities, .balances, .holdings, .prices}
  idempotencyKey := "daily"
  requested := by decide
  trimmed := by decide
  short := by decide

theorem sampleTransport_ready : Ready sampleTransport () := rfl

theorem sampleBody_usable (endpoint : KiteEndpoint) : Usable sampleClock endpoint (.ok sampleBody) :=
  usable_iff_absorbable.mpr ⟨⟨0, rfl, by decide⟩, by simp [sampleBody]⟩

theorem sampleTransport_usable (reached : Unit) (endpoint : KiteEndpoint) :
    Usable sampleClock endpoint (sampleTransport.fetch reached endpoint).1 := by
  cases endpoint with
  | trades => exact ⟨_, rfl⟩
  | funds => exact ⟨_, rfl⟩
  | _ => exact sampleBody_usable _

theorem collect_accounts_sample :
    ∃ result log, collect sampleTransport sampleClock sampleRequest () = (.ok result, log) ∧
      Accounts sampleTransport sampleRequest () log.entries result := by
  obtain ⟨result, returned, _⟩ := @collect_of_absorbable _ _ sampleClock sampleRequest _ sampleTransport_ready
    (absorbable_of_usable sampleTransport_usable)
  exact ⟨result, _, returned, collect_accounts returned⟩

/-! ## Authentication failure stops broker calls -/

/-- A segment without exchanges after an authentication failure fails with that failure's issue. -/
theorem Segment.failed_of_latched {segment : Segment} {issue : ConnectorIssue} (silent : segment.exchanges = [])
    (latched : segment.latch = some issue) (supported : endpoints segment.capability ≠ none) :
    segment.status retrievedAt = .failed ∧ segment.issues = [issue] := by
  obtain ⟨queries, supported⟩ := Option.ne_none_iff_exists'.mp supported
  have issues := Segment.issues_of_latched supported latched
  refine ⟨?_, issues⟩
  rw [Segment.status_of_supported supported, issues, Segment.artifacts, silent]
  simp

namespace Reported

variable {segments : List Segment} {result : CollectionResult} {segment : Segment}

/-- A supported capability reached after an authentication failure fails with that failure's issue. -/
theorem failed_of_latched (report : Reported retrievedAt segments result) (member : segment ∈ segments)
    {issue : ConnectorIssue} (latched : segment.latch = some issue) (supported : endpoints segment.capability ≠ none) :
    segment.status retrievedAt = .failed ∧ segment.issues = [issue] :=
  Segment.failed_of_latched (report.latched segment member issue latched) latched supported

end Reported

end PortfolioManager.Connectors.Zerodha.ZerodhaConnector
