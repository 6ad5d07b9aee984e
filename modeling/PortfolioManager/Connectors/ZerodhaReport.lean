import PortfolioManager.Connectors.ZerodhaSurvey

/-! # Accounting of a collection run

The statements here are about whole runs of `collect`: what its outcomes say about its
artifacts, when it stops calling the broker, how a batch relates to single requests, and when
evidence survives. Each is read off the survey of the run.
-/

namespace PortfolioManager.Connectors.Zerodha.ZerodhaConnector

open PortfolioManager.Python PortfolioManager.Domain PortfolioManager.Application Checked Transcript

variable {σ : Type*} {transport : KiteTransport σ} {retrievedAt : Datetime}

/-! ## Facts about the segments of a survey -/

/-- The endpoints of a capability, empty when it is unsupported. -/
def endpointsOf (capability : Capability) : List KiteEndpoint := (endpoints capability).getD []

/-- The capability an endpoint is fetched for. -/
def ownerOf : KiteEndpoint → Capability
  | .holdings => .holdings
  | .positions => .positions
  | .funds => .balances
  | .orders => .activities
  | .trades => .activities
  | .instruments => .instruments

/-- No endpoint serves two capabilities. -/
theorem mem_endpointsOf_iff {capability : Capability} {endpoint : KiteEndpoint} :
    endpoint ∈ endpointsOf capability ↔ ownerOf endpoint = capability := by
  cases capability <;> cases endpoint <;> decide

theorem endpointsOf_nodup (capability : Capability) : (endpointsOf capability).Nodup := by
  cases capability <;> decide

theorem endpoints_ne_nil {capability : Capability} {queries : List KiteEndpoint}
    (supported : endpoints capability = some queries) : queries ≠ [] := by
  cases capability <;> simp only [endpoints, Option.some.injEq, reduceCtorEq] at supported <;>
    simp [← supported]

theorem endpointsOf_of_supported {capability : Capability} {queries : List KiteEndpoint}
    (supported : endpoints capability = some queries) : endpointsOf capability = queries := by
  rw [endpointsOf, supported, Option.getD_some]

/-- The endpoints a request fetches when nothing stops it, in order. -/
def plan (capabilities : List Capability) : List KiteEndpoint := capabilities.flatMap endpointsOf

theorem plan_cons (capability : Capability) (rest : List Capability) :
    plan (capability :: rest) = endpointsOf capability ++ plan rest := rfl

theorem plan_nodup {capabilities : List Capability} (distinct : capabilities.Nodup) : (plan capabilities).Nodup := by
  refine List.nodup_flatMap.mpr ⟨fun capability _ => endpointsOf_nodup capability, distinct.imp ?_⟩
  intro first second different endpoint here there
  exact different ((mem_endpointsOf_iff.mp here).symm.trans (mem_endpointsOf_iff.mp there))

theorem authIssue?_eq_none_iff {reply : Reply} : authIssue? reply = none ↔ authFails reply = false := by
  cases reply with
  | ok payload => simp [authIssue?, authFails]
  | error raised =>
    cases raised with
    | builtin error => simp [authIssue?, authFails]
    | connector error => by_cases revoked : error.kind = .authentication <;> simp [authIssue?, authFails, issue?, revoked]

theorem authIssues_eq_nil_iff {exchanges : List Exchange} :
    authIssues exchanges = [] ↔ ∀ exchange ∈ exchanges, authFails exchange.2 = false := by
  simp [authIssues, List.filterMap_eq_nil_iff, authIssue?_eq_none_iff]

theorem visit_of_unlatched {capability : Capability} {state : σ} :
    visit transport capability none state = converse transport.fetch authFails (endpointsOf capability) state := by
  cases supported : endpoints capability <;> simp [visit, supported, endpointsOf]

@[simp] theorem visit_of_latched {capability : Capability} {issue : ConnectorIssue} {state : σ} :
    visit transport capability (some issue) state = ([], state) := by
  cases supported : endpoints capability <;> simp [visit, supported]

/-- Once authentication failed, no later capability is fetched. -/
theorem survey_of_latched (capabilities : List Capability) (issue : ConnectorIssue) (state : σ) :
    survey transport capabilities (some issue) state = (capabilities.map fun capability => ⟨capability, [], some issue⟩, state) := by
  induction capabilities with
  | nil => rfl
  | cons capability rest ih => simp [survey_cons, Segment.latchAfter, authIssues, ih]

/-- The exchanges of a survey are one conversation over its plan. -/
theorem exchangesOf_survey (capabilities : List Capability) (state : σ) :
    exchangesOf (survey transport capabilities none state).1 =
      (converse transport.fetch authFails (plan capabilities) state).1 := by
  induction capabilities generalizing state with
  | nil => rfl
  | cons capability rest ih =>
    rw [survey_cons, exchangesOf_cons, visit_of_unlatched]
    by_cases goes : ∀ exchange ∈ (converse transport.fetch authFails (endpointsOf capability) state).1,
        authFails exchange.2 = false
    · have unlatched : Segment.latchAfter
          ⟨capability, (converse transport.fetch authFails (endpointsOf capability) state).1, none⟩ = none := by
        simp only [Segment.latchAfter, authIssues_eq_nil_iff.mpr goes, List.getLast?_nil, Option.or_none]
      rw [unlatched, ih, plan_cons, converse_append_of_goes goes]
    · have stopped : ∃ exchange ∈ (converse transport.fetch authFails (endpointsOf capability) state).1,
          authFails exchange.2 = true := by simpa using goes
      have latched : authIssues (converse transport.fetch authFails (endpointsOf capability) state).1 ≠ [] :=
        mt authIssues_eq_nil_iff.mp goes
      obtain ⟨issue, last⟩ := Option.ne_none_iff_exists'.mp (mt List.getLast?_eq_none_iff.mp latched)
      have latch : Segment.latchAfter
          ⟨capability, (converse transport.fetch authFails (endpointsOf capability) state).1, none⟩ = some issue := by
        simp only [Segment.latchAfter, last, Option.or_none]
      rw [latch, survey_of_latched, plan_cons, converse_append_of_stops stopped]
      simp [exchangesOf]

/-- Every segment is a visit from some state. -/
theorem exists_visit_of_mem_survey {capabilities : List Capability} {latch : Option ConnectorIssue} {state : σ}
    {segment : Segment} (member : segment ∈ (survey transport capabilities latch state).1) :
    ∃ reached, segment.exchanges = (visit transport segment.capability segment.latch reached).1 := by
  induction capabilities generalizing latch state with
  | nil => simp [survey] at member
  | cons capability rest ih =>
    rw [survey_cons] at member
    rcases List.mem_cons.mp member with rfl | later
    · exact ⟨state, rfl⟩
    · exact ih later

theorem exchanges_isPrefix {capabilities : List Capability} {latch : Option ConnectorIssue} {state : σ}
    {segment : Segment} (member : segment ∈ (survey transport capabilities latch state).1) :
    segment.exchanges.map Prod.fst <+: endpointsOf segment.capability := by
  obtain ⟨reached, visited⟩ := exists_visit_of_mem_survey member
  rw [visited]
  cases segment.latch with
  | none => exact visit_of_unlatched ▸ converse_queries_isPrefix _ _
  | some issue => simp

/-- An unlatched segment without authentication failure fetched every endpoint of its capability. -/
theorem exchanges_complete {capabilities : List Capability} {latch : Option ConnectorIssue} {state : σ}
    {segment : Segment} (member : segment ∈ (survey transport capabilities latch state).1)
    (unlatched : segment.latch = none) (goes : ∀ exchange ∈ segment.exchanges, authFails exchange.2 = false) :
    segment.exchanges.map Prod.fst = endpointsOf segment.capability := by
  obtain ⟨reached, visited⟩ := exists_visit_of_mem_survey member
  rw [unlatched, visit_of_unlatched] at visited
  rw [visited] at goes ⊢
  exact converse_complete goes

theorem exchanges_of_latched {capabilities : List Capability} {latch : Option ConnectorIssue} {state : σ}
    {segment : Segment} (member : segment ∈ (survey transport capabilities latch state).1)
    {issue : ConnectorIssue} (latched : segment.latch = some issue) : segment.exchanges = [] := by
  obtain ⟨reached, visited⟩ := exists_visit_of_mem_survey member
  rw [visited, latched, visit_of_latched]

/-- A segment holds exactly the exchanges of the run whose endpoints its capability owns. -/
theorem filter_exchangesOf {segments : List Segment} (distinct : (segments.map (·.capability)).Nodup)
    (owned : ∀ segment ∈ segments, ∀ exchange ∈ segment.exchanges, ownerOf exchange.1 = segment.capability)
    {segment : Segment} (member : segment ∈ segments) :
    (exchangesOf segments).filter (fun exchange => ownerOf exchange.1 = segment.capability) = segment.exchanges := by
  induction segments with
  | nil => simp at member
  | cons first rest ih =>
    obtain ⟨fresh, distinct⟩ := List.nodup_cons.mp distinct
    have own : first.exchanges.filter (fun exchange => ownerOf exchange.1 = first.capability) = first.exchanges :=
      List.filter_eq_self.mpr fun exchange present =>
        decide_eq_true (owned first (List.mem_cons_self ..) exchange present)
    rw [exchangesOf_cons, List.filter_append]
    rcases List.mem_cons.mp member with rfl | later
    · have others : (exchangesOf rest).filter (fun exchange => ownerOf exchange.1 = segment.capability) = [] := by
        simp only [exchangesOf, List.filter_eq_nil_iff, List.mem_flatMap, decide_eq_true_eq]
        rintro exchange ⟨other, present, inside⟩ same
        rw [owned other (List.mem_cons_of_mem _ present) exchange inside] at same
        exact fresh (List.mem_map.mpr ⟨other, present, same⟩)
      rw [own, others, List.append_nil]
    · have foreign : first.exchanges.filter (fun exchange => ownerOf exchange.1 = segment.capability) = [] := by
        simp only [List.filter_eq_nil_iff, decide_eq_true_eq]
        intro exchange inside same
        rw [owned first (List.mem_cons_self ..) exchange inside] at same
        exact fresh (List.mem_map.mpr ⟨segment, later, same.symm⟩)
      rw [foreign, List.nil_append]
      exact ih distinct (fun other present => owned other (List.mem_cons_of_mem _ present)) later

/-! ## Runs -/

/-- Everything a finished run says about its survey. -/
structure Reported (retrievedAt : Datetime) (segments : List Segment) (result : CollectionResult) : Prop where
  distinct : (segments.map (·.capability)).Nodup
  owned : ∀ segment ∈ segments, segment.exchanges.map Prod.fst <+: endpointsOf segment.capability
  complete : ∀ segment ∈ segments, segment.latch = none →
    (∀ exchange ∈ segment.exchanges, authFails exchange.2 = false) →
      segment.exchanges.map Prod.fst = endpointsOf segment.capability
  latched : ∀ segment ∈ segments, ∀ issue ∈ segment.latch, segment.exchanges = []
  absorbable : ∀ exchange ∈ exchangesOf segments, Absorbable retrievedAt exchange.2
  artifacts : result.artifacts = segments.flatMap (·.artifacts retrievedAt)
  outcomes : result.outcomes = segments.map (·.outcome retrievedAt)

theorem exchangesOf_surveyOf {request : CollectionRequest} {state : σ} :
    exchangesOf (surveyOf transport request state).1 =
      (converse transport.fetch authFails (plan request.capabilities.sort)
        (transport.authenticationState state).2).1 :=
  exchangesOf_survey _ _

theorem surveyOf_capabilities {request : CollectionRequest} {state : σ} :
    (surveyOf transport request state).1.map (·.capability) = request.capabilities.sort (· ≤ ·) :=
  survey_capabilities _ _ _

theorem reported_of_eq {request : CollectionRequest} {state : σ} {result : CollectionResult}
    (absorbable : ∀ exchange ∈ exchangesOf (surveyOf transport request state).1, Absorbable retrievedAt exchange.2)
    (artifacts : result.artifacts = (surveyOf transport request state).1.flatMap (·.artifacts retrievedAt))
    (outcomes : result.outcomes = (surveyOf transport request state).1.map (·.outcome retrievedAt)) :
    Reported retrievedAt (surveyOf transport request state).1 result where
  distinct := surveyOf_capabilities ▸ request.capabilities.sort_nodup _
  owned _ member := exchanges_isPrefix member
  complete _ member := exchanges_complete member
  latched _ member _ latched := exchanges_of_latched member latched
  absorbable := absorbable
  artifacts := artifacts
  outcomes := outcomes

namespace Reported

variable {segments : List Segment} {result : CollectionResult} {segment : Segment}

theorem owner (report : Reported retrievedAt segments result) (member : segment ∈ segments) {exchange : Exchange}
    (inside : exchange ∈ segment.exchanges) : ownerOf exchange.1 = segment.capability :=
  mem_endpointsOf_iff.mp ((report.owned segment member).subset (List.mem_map_of_mem inside))

theorem exchange_absorbable (report : Reported retrievedAt segments result) (member : segment ∈ segments)
    {exchange : Exchange} (inside : exchange ∈ segment.exchanges) : Absorbable retrievedAt exchange.2 :=
  report.absorbable exchange (List.mem_flatMap.mpr ⟨segment, member, inside⟩)

/-- An exchange of the run belongs to the segment of its endpoint's capability. -/
theorem mem_exchanges (report : Reported retrievedAt segments result) (member : segment ∈ segments)
    {exchange : Exchange} (present : exchange ∈ exchangesOf segments)
    (same : ownerOf exchange.1 = segment.capability) : exchange ∈ segment.exchanges := by
  rw [← filter_exchangesOf report.distinct (fun _ other _ inside => report.owner other inside) member]
  exact List.mem_filter.mpr ⟨present, decide_eq_true same⟩

/-- Endpoints are fetched at most once within a segment, so an endpoint has one reply. -/
theorem reply_unique (report : Reported retrievedAt segments result) (member : segment ∈ segments)
    {endpoint : KiteEndpoint} {first second : Reply} (here : (endpoint, first) ∈ segment.exchanges)
    (there : (endpoint, second) ∈ segment.exchanges) : first = second := by
  have distinct : (segment.exchanges.map Prod.fst).Nodup :=
    (endpointsOf_nodup segment.capability).sublist (report.owned segment member).sublist
  have same := List.inj_on_of_nodup_map distinct here there rfl
  exact congrArg Prod.snd same

end Reported

/-- An endpoint contributed when some artifact of the result carries its schema version. -/
def Contributed (result : CollectionResult) (endpoint : KiteEndpoint) : Prop :=
  ∃ artifact ∈ result.artifacts, artifact.schemaVersion = endpoint.schemaVersion

theorem mem_artifacts_iff {segments : List Segment} {artifact : RawArtifact} :
    artifact ∈ segments.flatMap (·.artifacts retrievedAt) ↔
      ∃ exchange ∈ exchangesOf segments, artifact? retrievedAt exchange = some artifact := by
  simp only [List.mem_flatMap, Segment.artifacts, List.mem_filterMap, exchangesOf]
  constructor
  · rintro ⟨segment, member, exchange, inside, contributed⟩
    exact ⟨exchange, ⟨segment, member, inside⟩, contributed⟩
  · rintro ⟨exchange, ⟨segment, member, inside⟩, contributed⟩
    exact ⟨segment, member, exchange, inside, contributed⟩

namespace Reported

variable {segments : List Segment} {result : CollectionResult} {segment : Segment} {queries : List KiteEndpoint}

/-- An endpoint contributed exactly when its capability's segment holds a payload for it. -/
theorem contributed_iff (report : Reported retrievedAt segments result) (member : segment ∈ segments)
    {endpoint : KiteEndpoint} (owned : endpoint ∈ endpointsOf segment.capability) :
    Contributed result endpoint ↔ ∃ payload, (endpoint, .ok payload) ∈ segment.exchanges := by
  rw [Contributed, report.artifacts]
  constructor
  · rintro ⟨artifact, present, schema⟩
    obtain ⟨⟨other, reply⟩, inside, contributed⟩ := mem_artifacts_iff.mp present
    obtain ⟨payload, received, built⟩ := artifact?_eq_some_iff.mp contributed
    obtain rfl : other = endpoint :=
      KiteEndpoint.schemaVersion_injective ((toArtifact_fields built).2.2.1.symm.trans schema)
    simp only at received
    subst received
    exact ⟨payload, report.mem_exchanges member inside (mem_endpointsOf_iff.mp owned)⟩
  · rintro ⟨payload, inside⟩
    obtain ⟨artifact, contributed, _, schema⟩ :=
      exists_artifact?_of_ok endpoint (report.exchange_absorbable member inside)
    exact ⟨artifact, mem_artifacts_iff.mpr ⟨_, List.mem_flatMap.mpr ⟨segment, member, inside⟩, contributed⟩, schema⟩

/-- A segment is free of issues exactly when every endpoint of its capability answered with a payload. -/
theorem issues_eq_nil_iff (report : Reported retrievedAt segments result) (member : segment ∈ segments)
    (supported : endpoints segment.capability = some queries) :
    segment.issues = [] ↔ ∀ endpoint ∈ queries, ∃ payload, (endpoint, .ok payload) ∈ segment.exchanges := by
  have owned := endpointsOf_of_supported supported
  cases latch : segment.latch with
  | some issue =>
    have silent := report.latched segment member issue latch
    obtain ⟨endpoint, present⟩ := List.exists_mem_of_ne_nil queries (endpoints_ne_nil supported)
    simp only [Segment.issues_of_latched supported latch, silent, List.not_mem_nil, exists_false,
      imp_false, List.cons_ne_nil, false_iff, not_forall, not_not]
    exact ⟨endpoint, present⟩
  | none =>
    have clean : segment.issues = [] ↔ ∀ exchange ∈ segment.exchanges, issue? exchange.2 = none := by
      rw [Segment.issues_of_supported supported latch, ← List.filterMap_eq_nil_iff]
      cases segment.exchanges.filterMap (issue? ·.2) <;> simp [List.eraseDups_cons]
    have payload_of_clean {exchange : Exchange} (inside : exchange ∈ segment.exchanges)
        (silent : issue? exchange.2 = none) : ∃ payload, exchange.2 = .ok payload := by
      have absorbable := report.exchange_absorbable member inside
      cases reply : exchange.2 with
      | ok payload => exact ⟨payload, rfl⟩
      | error raised =>
        cases raised with
        | builtin error => rw [reply] at absorbable; exact absorbable.elim
        | connector error => rw [reply] at silent; contradiction
    rw [clean]
    constructor
    · intro silent endpoint present
      have goes : ∀ exchange ∈ segment.exchanges, authFails exchange.2 = false := by
        intro exchange inside
        obtain ⟨payload, received⟩ := payload_of_clean inside (silent exchange inside)
        rw [received]
        rfl
      rw [← owned, ← report.complete segment member latch goes] at present
      obtain ⟨⟨_, reply⟩, inside, rfl⟩ := List.mem_map.mp present
      obtain ⟨payload, received⟩ := payload_of_clean inside (silent _ inside)
      simp only at received
      exact ⟨payload, received ▸ inside⟩
    · intro all exchange inside
      have asked : exchange.1 ∈ queries :=
        owned ▸ (report.owned segment member).subset (List.mem_map_of_mem inside)
      obtain ⟨payload, received⟩ := all exchange.1 asked
      rw [report.reply_unique member inside received]
      rfl

/-- A segment is free of artifacts exactly when no endpoint of its capability answered with a payload. -/
theorem artifacts_eq_nil_iff (report : Reported retrievedAt segments result) (member : segment ∈ segments)
    (supported : endpoints segment.capability = some queries) :
    segment.artifacts retrievedAt = [] ↔
      ∀ endpoint ∈ queries, ¬∃ payload, (endpoint, .ok payload) ∈ segment.exchanges := by
  have owned := endpointsOf_of_supported supported
  rw [Segment.artifacts, List.filterMap_eq_nil_iff]
  constructor
  · rintro none endpoint _ ⟨payload, inside⟩
    obtain ⟨artifact, contributed, _⟩ := exists_artifact?_of_ok endpoint (report.exchange_absorbable member inside)
    rw [none _ inside] at contributed
    contradiction
  · rintro none ⟨endpoint, reply⟩ inside
    have asked : endpoint ∈ queries := owned ▸ (report.owned segment member).subset (List.mem_map_of_mem inside)
    by_contra contributed
    obtain ⟨artifact, contributed⟩ := Option.ne_none_iff_exists'.mp contributed
    obtain ⟨payload, received, _⟩ := artifact?_eq_some_iff.mp contributed
    simp only at received
    exact none endpoint asked ⟨payload, received ▸ inside⟩

end Reported

end PortfolioManager.Connectors.Zerodha.ZerodhaConnector
