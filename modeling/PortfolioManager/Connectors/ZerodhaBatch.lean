import PortfolioManager.Connectors.ZerodhaAccounting

/-! # A batch is its singletons

For transports whose answer depends on the endpoint alone, a run over several capabilities is
compared with one run per capability. Everything the loop carries from one capability to the
next is the authentication latch, so the batch is the concatenation of the single runs up to the
first capability that fails for authentication.
-/

namespace PortfolioManager.Connectors.Zerodha.ZerodhaConnector

open PortfolioManager.Python PortfolioManager.Domain PortfolioManager.Application Checked Transcript

variable {σ τ : Type*} {transport : KiteTransport σ} {clock : Datetime} {answer : KiteEndpoint → Reply}

/-- A transport that is always ready and answers every fetch by its endpoint alone. -/
structure Settled (transport : KiteTransport σ) (clock : Datetime) (answer : KiteEndpoint → Reply) : Prop where
  ready : ∀ state, Ready transport state
  stateless : Stateless transport.fetch answer
  usable : ∀ endpoint, Usable clock endpoint (answer endpoint)

/-- The same request for one capability. -/
def narrow (request : CollectionRequest) (capability : Capability) : CollectionRequest :=
  { request with
    capabilities := {capability}
    requested := Finset.singleton_ne_empty capability }

/-- Some endpoint of the capability fails for authentication. -/
def revokes (answer : KiteEndpoint → Reply) (capability : Capability) : Bool :=
  (endpointsOf capability).any fun endpoint => authFails (answer endpoint)

/-- The authentication issue of the capability's first endpoint that fails this way. -/
def authIssueOf (answer : KiteEndpoint → Reply) (capability : Capability) : Option ConnectorIssue :=
  (endpointsOf capability).findSome? fun endpoint => authIssue? (answer endpoint)

/-- The capabilities of a list up to and including the first that fails for authentication. -/
def reached (answer : KiteEndpoint → Reply) (capabilities : List Capability) : List Capability :=
  capabilities.take (capabilities.findIdx (revokes answer) + 1)

/-- The capabilities after the first that fails for authentication. -/
def unreached (answer : KiteEndpoint → Reply) (capabilities : List Capability) : List Capability :=
  capabilities.drop (capabilities.findIdx (revokes answer) + 1)

/-- What a capability contributes on its own. -/
def segmentOf (answer : KiteEndpoint → Reply) (capability : Capability) : Segment where
  capability := capability
  exchanges := (takeThrough (fun endpoint => authFails (answer endpoint)) (endpointsOf capability)).map
    fun endpoint => (endpoint, answer endpoint)
  latch := none

/-- The issue the capabilities after the first failure report. -/
def latchOf (answer : KiteEndpoint → Reply) (capabilities : List Capability) : Option ConnectorIssue :=
  (reached answer capabilities).getLast?.bind (authIssueOf answer)

theorem segmentOf_latchAfter (answer : KiteEndpoint → Reply) (capability : Capability) :
    (segmentOf answer capability).latchAfter = authIssueOf answer capability := by
  have agree (endpoint : KiteEndpoint) : (authIssue? (answer endpoint)).isSome = authFails (answer endpoint) := by
    cases fails : authFails (answer endpoint) with
    | false => rw [authIssue?_eq_none_iff.mpr fails, Option.isSome_none]
    | true => rw [Option.isSome_iff_ne_none, Ne, authIssue?_eq_none_iff, fails]; decide
  have found := filterMap_takeThrough agree (endpointsOf capability)
  rw [Segment.latchAfter, authIssues, segmentOf, List.filterMap_map, Option.or_none]
  change (List.filterMap (fun endpoint => authIssue? (answer endpoint)) _).getLast? = _
  rw [found, authIssueOf]
  cases (endpointsOf capability).findSome? fun endpoint => authIssue? (answer endpoint) <;> rfl

theorem authIssueOf_eq_none_iff {capability : Capability} :
    authIssueOf answer capability = none ↔ revokes answer capability = false := by
  simp [authIssueOf, revokes, authIssue?_eq_none_iff]

/-- A settled survey visits each capability as if alone, until the first authentication failure. -/
theorem survey_of_stateless (stateless : Stateless transport.fetch answer) (capabilities : List Capability) (state : σ) :
    (survey transport capabilities none state).1 =
      (reached answer capabilities).map (segmentOf answer) ++
        (unreached answer capabilities).map fun capability => ⟨capability, [], latchOf answer capabilities⟩ := by
  induction capabilities generalizing state with
  | nil => rfl
  | cons capability rest ih =>
    have visited : (⟨capability, (visit transport capability none state).1, none⟩ : Segment) =
        segmentOf answer capability := by
      rw [visit_of_unlatched, converse_stateless stateless]
      rfl
    rw [survey_cons, visited, segmentOf_latchAfter]
    cases hit : revokes answer capability with
    | true =>
      obtain ⟨issue, named⟩ : ∃ issue, authIssueOf answer capability = some issue :=
        Option.ne_none_iff_exists'.mp (by rw [Ne, authIssueOf_eq_none_iff, hit]; decide)
      rw [named, survey_of_latched]
      simp [reached, unreached, latchOf, List.findIdx_cons, hit, named]
    | false =>
      rw [authIssueOf_eq_none_iff.mpr hit, ih]
      have kept : reached answer (capability :: rest) = capability :: reached answer rest := by
        simp [reached, List.findIdx_cons, hit]
      have left : unreached answer (capability :: rest) = unreached answer rest := by
        simp [unreached, List.findIdx_cons, hit]
      rw [kept, left, List.map_cons, List.cons_append]
      cases rest with
      | nil => rfl
      | cons next others =>
        have same : latchOf answer (capability :: next :: others) = latchOf answer (next :: others) := by
          rw [latchOf, kept, latchOf, List.getLast?_cons, reached, List.take_succ_cons, List.getLast?_cons]
          rfl
        rw [same]

/-! ## Batch and singletons -/

/-- The report of a settled run, capability by capability. -/
theorem collect_of_settled (settled : Settled transport clock answer) (request : CollectionRequest) (state : σ) :
    ∃ result log, collect transport clock request state = (.ok result, log) ∧
      result.artifacts =
        (reached answer request.capabilities.sort).flatMap (fun capability => (segmentOf answer capability).artifacts clock) ∧
      result.outcomes =
        (reached answer request.capabilities.sort).map (fun capability => (segmentOf answer capability).outcome clock) ++
          (unreached answer request.capabilities.sort).map fun capability =>
            Segment.outcome ⟨capability, [], latchOf answer request.capabilities.sort⟩ clock := by
  have usable (state : σ) (endpoint : KiteEndpoint) : Usable clock endpoint (transport.fetch state endpoint).1 :=
    settled.stateless state endpoint ▸ settled.usable endpoint
  obtain ⟨result, returned, artifacts, outcomes⟩ :=
    @collect_of_absorbable _ _ clock request _ (settled.ready state) (absorbable_of_usable usable)
  have segments := survey_of_stateless settled.stateless (request.capabilities.sort (· ≤ ·))
    (transport.authenticationState state).2
  change (surveyOf transport request state).1 = _ at segments
  refine ⟨result, _, returned, ?_, ?_⟩
  · rw [artifacts, segments, List.flatMap_append, List.flatMap_map, List.flatMap_map]
    simp [Segment.artifacts]
  · rw [outcomes, segments, List.map_append, List.map_map, List.map_map]
    rfl

/-- A settled run for one capability reports that capability's segment. -/
theorem collect_narrow (settled : Settled transport clock answer) (request : CollectionRequest)
    (capability : Capability) (state : σ) :
    ∃ result log, collect transport clock (narrow request capability) state = (.ok result, log) ∧
      result.artifacts = (segmentOf answer capability).artifacts clock ∧
      result.outcomes = [(segmentOf answer capability).outcome clock] := by
  obtain ⟨result, log, returned, artifacts, outcomes⟩ := collect_of_settled settled (narrow request capability) state
  refine ⟨result, log, returned, ?_, ?_⟩
  · simpa [narrow, reached] using artifacts
  · simpa [narrow, reached, unreached] using outcomes

/-- The outcomes a result holds for one capability. -/
def outcomesOf (result : CollectionResult) (capability : Capability) : List CapabilityOutcome :=
  result.outcomes.filter (·.capability = capability)

/-- The artifacts a result holds for the endpoints of one capability. -/
def artifactsOf (result : CollectionResult) (capability : Capability) : List RawArtifact :=
  result.artifacts.filter fun artifact =>
    (endpointsOf capability).any fun endpoint => artifact.schemaVersion = endpoint.schemaVersion

theorem schemaVersion_of_mem_segmentOf {capability : Capability} {artifact : RawArtifact}
    (member : artifact ∈ (segmentOf answer capability).artifacts clock) :
    ∃ endpoint ∈ endpointsOf capability, artifact.schemaVersion = endpoint.schemaVersion := by
  obtain ⟨exchange, present, contributed⟩ := List.mem_filterMap.mp member
  obtain ⟨endpoint, asked, rfl⟩ := List.mem_map.mp present
  obtain ⟨payload, _, built⟩ := artifact?_eq_some_iff.mp contributed
  exact ⟨endpoint, mem_of_mem_takeThrough asked, (toArtifact_fields built).2.2.1⟩

/-- An artifact counts for the capability whose segment it comes from, and for no other. -/
theorem counts_iff_of_mem_segmentOf {capability other : Capability} {artifact : RawArtifact}
    (member : artifact ∈ (segmentOf answer other).artifacts clock) :
    ((endpointsOf capability).any fun endpoint => artifact.schemaVersion = endpoint.schemaVersion) = true ↔
      other = capability := by
  obtain ⟨endpoint, asked, schema⟩ := schemaVersion_of_mem_segmentOf member
  constructor
  · intro counted
    obtain ⟨endpoint', asked', schema'⟩ := List.any_eq_true.mp counted
    have same := KiteEndpoint.schemaVersion_injective (schema.symm.trans (of_decide_eq_true schema'))
    exact (mem_endpointsOf_iff.mp asked).symm.trans (mem_endpointsOf_iff.mp (same ▸ asked'))
  · rintro rfl
    exact List.any_eq_true.mpr ⟨endpoint, asked, decide_eq_true schema⟩

/-- A batch in terms of the runs for its single capabilities. -/
structure Batched (answer : KiteEndpoint → Reply) (capabilities : List Capability)
    (single : Capability → CollectionResult) (whole : CollectionResult) : Prop where
  artifacts : whole.artifacts = (reached answer capabilities).flatMap fun capability => (single capability).artifacts
  outcomes : whole.outcomes.take (reached answer capabilities).length =
    (reached answer capabilities).flatMap fun capability => (single capability).outcomes
  silent : ∀ capability ∈ unreached answer capabilities, artifactsOf whole capability = []
  later : (whole.outcomes.drop (reached answer capabilities).length).map (·.capability) = unreached answer capabilities
  laterFailed : ∀ outcome ∈ whole.outcomes.drop (reached answer capabilities).length,
    endpoints outcome.capability ≠ none →
      outcome.status = .failed ∧
        ∃ issue, (reached answer capabilities).getLast?.bind (authIssueOf answer) = some issue ∧
          outcome.issues = [issue]
  laterUnsupported : ∀ outcome ∈ whole.outcomes.drop (reached answer capabilities).length,
    endpoints outcome.capability = none → outcome.status = .unsupported

theorem collect_narrow_unique (settled : Settled transport clock answer) (request : CollectionRequest)
    (capability : Capability) : ∀ start : σ, ∀ result : CollectionResult,
    result.artifacts = (segmentOf answer capability).artifacts clock →
    result.outcomes = [(segmentOf answer capability).outcome clock] →
      ∃ log, collect transport clock (narrow request capability) start = (.ok result, log) := by
  intro start result artifacts outcomes
  obtain ⟨other, log, returned, artifacts', outcomes'⟩ := collect_narrow settled request capability start
  have same : other = result := CollectionResult.ext (artifacts'.trans artifacts.symm) (outcomes'.trans outcomes.symm)
  exact ⟨log, same ▸ returned⟩

/-- What was not reached is behind an authentication failure. -/
theorem exists_latch_of_unreached {capabilities : List Capability} {capability : Capability}
    (member : capability ∈ unreached answer capabilities) : ∃ issue, latchOf answer capabilities = some issue := by
  have short : capabilities.findIdx (revokes answer) < capabilities.length := by
    by_contra long
    rw [unreached, List.drop_eq_nil_of_le (by omega)] at member
    exact List.not_mem_nil member
  have hit : revokes answer capabilities[capabilities.findIdx (revokes answer)] = true := List.findIdx_getElem
  have last : (reached answer capabilities).getLast? = some capabilities[capabilities.findIdx (revokes answer)] := by
    rw [reached, List.take_succ_eq_append_getElem short, List.getLast?_concat]
  rw [latchOf, last, Option.bind_some]
  exact Option.ne_none_iff_exists'.mp (by rw [Ne, authIssueOf_eq_none_iff, hit]; decide)

theorem batched_of_report {capabilities : List Capability} (distinct : capabilities.Nodup)
    {single : Capability → CollectionResult} {whole : CollectionResult}
    (singles : ∀ capability, (single capability).artifacts = (segmentOf answer capability).artifacts clock ∧
      (single capability).outcomes = [(segmentOf answer capability).outcome clock])
    (artifacts : whole.artifacts =
      (reached answer capabilities).flatMap fun capability => (segmentOf answer capability).artifacts clock)
    (outcomes : whole.outcomes =
      ((reached answer capabilities).map fun capability => (segmentOf answer capability).outcome clock) ++
        (unreached answer capabilities).map fun capability =>
          Segment.outcome ⟨capability, [], latchOf answer capabilities⟩ clock) :
    Batched answer capabilities single whole := by
  have front : whole.outcomes.take (reached answer capabilities).length =
      (reached answer capabilities).map fun capability => (segmentOf answer capability).outcome clock := by
    rw [outcomes, List.take_left' (List.length_map _)]
  have back : whole.outcomes.drop (reached answer capabilities).length =
      (unreached answer capabilities).map fun capability =>
        Segment.outcome ⟨capability, [], latchOf answer capabilities⟩ clock := by
    rw [outcomes, List.drop_left' (List.length_map _)]
  constructor
  case artifacts => simp only [artifacts, singles]
  case outcomes =>
    rw [front, List.map_eq_flatMap]
    simp only [singles]
  case silent =>
    intro capability later
    rw [artifactsOf, List.filter_eq_nil_iff]
    intro artifact member counted
    rw [artifacts] at member
    obtain ⟨earlier, present, inside⟩ := List.mem_flatMap.mp member
    obtain rfl := (counts_iff_of_mem_segmentOf inside).mp counted
    exact List.disjoint_take_drop distinct le_rfl present later
  case later =>
    rw [back, List.map_map]
    exact List.map_id'' (fun _ => rfl) _
  case laterFailed =>
    rw [back]
    intro outcome member supported
    obtain ⟨capability, later, rfl⟩ := List.mem_map.mp member
    obtain ⟨issue, latch⟩ := exists_latch_of_unreached later
    obtain ⟨failed, issues⟩ := @Segment.failed_of_latched clock ⟨capability, [], latchOf answer capabilities⟩ issue rfl latch
      supported
    exact ⟨failed, issue, latch, issues⟩
  case laterUnsupported =>
    rw [back]
    intro outcome member unsupported
    obtain ⟨capability, _, rfl⟩ := List.mem_map.mp member
    change Segment.status _ clock = _
    simp only [Segment.outcome] at unsupported
    simp [Segment.status, unsupported]

private theorem filter_map_congr {α β : Type*} [DecidableEq α] {f g : α → β} {label : β → α} (item : α)
    (named : ∀ other, label (f other) = other) (named' : ∀ other, label (g other) = other) (same : f item = g item)
    (items : List α) :
    (items.map f).filter (fun value => label value = item) = (items.map g).filter fun value => label value = item := by
  have picked (h : α → β) (labelled : ∀ other, label (h other) = other) :
      (items.map h).filter (fun value => label value = item) = (items.filter (· = item)).map h := by
    rw [List.filter_map]
    simp only [Function.comp_def, labelled]
  rw [picked f named, picked g named']
  apply List.map_congr_left
  intro other member
  rw [of_decide_eq_true (List.mem_filter.mp member).2, same]

/-- Transports that agree on a capability's endpoints agree on its segment. -/
theorem segmentOf_congr {answer answer' : KiteEndpoint → Reply} {capability : Capability}
    (same : ∀ endpoint ∈ endpointsOf capability, answer endpoint = answer' endpoint) :
    segmentOf answer capability = segmentOf answer' capability := by
  have agree : ∀ {queries : List KiteEndpoint}, (∀ endpoint ∈ queries, answer endpoint = answer' endpoint) →
      (takeThrough (fun endpoint => authFails (answer endpoint)) queries).map (fun endpoint => (endpoint, answer endpoint)) =
      (takeThrough (fun endpoint => authFails (answer' endpoint)) queries).map
        fun endpoint => (endpoint, answer' endpoint) := by
    intro queries same
    induction queries with
    | nil => rfl
    | cons query rest ih =>
      have first := same query (List.mem_cons_self ..)
      have others := ih fun endpoint member => same endpoint (List.mem_cons_of_mem _ member)
      cases stop : authFails (answer' query) <;> simp [takeThrough, first, stop, others]
  rw [segmentOf, agree same]
  rfl

private theorem flatMap_ite_eq {α β : Type*} [DecidableEq α] (item : α) (f : α → List β) (items : List α) :
    items.flatMap (fun other => if other = item then f other else []) =
      (items.filter (· = item)).flatMap f := by
  induction items with
  | nil => rfl
  | cons head rest ih => by_cases same : head = item <;> simp [List.flatMap_cons, same, ih]

/-- Whatever a result holds for one capability comes from that capability's own segment. -/
theorem artifactsOf_of_report {capabilities : List Capability} {result : CollectionResult} {answer : KiteEndpoint → Reply}
    (artifacts : result.artifacts = capabilities.flatMap fun capability => (segmentOf answer capability).artifacts clock)
    (capability : Capability) :
    artifactsOf result capability =
      (capabilities.filter (· = capability)).flatMap fun other => (segmentOf answer other).artifacts clock := by
  have own (other : Capability) :
      ((segmentOf answer other).artifacts clock).filter (fun artifact =>
          (endpointsOf capability).any fun endpoint => artifact.schemaVersion = endpoint.schemaVersion) =
        if other = capability then (segmentOf answer other).artifacts clock else [] := by
    by_cases same : other = capability
    · rw [if_pos same, List.filter_eq_self]
      exact fun artifact member => (counts_iff_of_mem_segmentOf member).mpr same
    · rw [if_neg same, List.filter_eq_nil_iff]
      exact fun artifact member counted => same ((counts_iff_of_mem_segmentOf member).mp counted)
  rw [artifactsOf, artifacts, List.filter_flatMap]
  simp only [own]
  exact flatMap_ite_eq _ _ _

/-- Without authentication failures every capability is reached. -/
theorem reached_of_goes (goes : ∀ endpoint, authFails (answer endpoint) = false) (capabilities : List Capability) :
    reached answer capabilities = capabilities ∧ unreached answer capabilities = [] := by
  have never : capabilities.findIdx (revokes answer) = capabilities.length :=
    List.findIdx_eq_length.mpr fun capability _ => by simp [revokes, goes]
  exact ⟨by rw [reached, never, List.take_of_length_le (by omega)],
    by rw [unreached, never, List.drop_eq_nil_of_le (by omega)]⟩

/-- A batch is the concatenation of its singletons up to the first authentication failure, and a
change of one capability's replies is invisible to every other capability. -/
theorem batch_agrees_with_singletons (settled : Settled transport clock answer) (request : CollectionRequest) :
    (∀ state, ∃ whole single log, collect transport clock request state = (.ok whole, log) ∧
      (∀ capability start, ∃ log, collect transport clock (narrow request capability) start =
        (.ok (single capability), log)) ∧
      Batched answer request.capabilities.sort single whole) ∧
    ∀ {other : KiteTransport τ} {answer' : KiteEndpoint → Reply}, Settled other clock answer' →
      ∀ changed, (∀ endpoint, endpoint ∉ endpointsOf changed → answer endpoint = answer' endpoint) →
      (∀ endpoint, authFails (answer endpoint) = false) → (∀ endpoint, authFails (answer' endpoint) = false) →
      ∀ state state', ∃ first second log log', collect transport clock request state = (.ok first, log) ∧
        collect other clock request state' = (.ok second, log') ∧
        ∀ capability, capability ≠ changed →
          outcomesOf first capability = outcomesOf second capability ∧
          artifactsOf first capability = artifactsOf second capability := by
  constructor
  · intro state
    obtain ⟨whole, log, returned, artifacts, outcomes⟩ := collect_of_settled settled request state
    choose single _ _ reported using fun capability => collect_narrow settled request capability state
    exact ⟨whole, single, log, returned,
      fun capability start =>
        collect_narrow_unique settled request capability start _ (reported capability).1 (reported capability).2,
      batched_of_report (Finset.sort_nodup _ _) reported artifacts outcomes⟩
  · intro other answer' settled' changed differ goes goes' state state'
    obtain ⟨first, log, returned, artifacts, outcomes⟩ := collect_of_settled settled request state
    obtain ⟨second, log', returned', artifacts', outcomes'⟩ := collect_of_settled settled' request state'
    rw [(reached_of_goes goes _).1] at artifacts outcomes
    rw [(reached_of_goes goes' _).1] at artifacts' outcomes'
    rw [(reached_of_goes goes _).2, List.map_nil, List.append_nil] at outcomes
    rw [(reached_of_goes goes' _).2, List.map_nil, List.append_nil] at outcomes'
    refine ⟨first, second, log, log', returned, returned', fun capability unchanged => ?_⟩
    have same : segmentOf answer capability = segmentOf answer' capability := segmentOf_congr fun endpoint asked =>
      differ endpoint fun asked' => unchanged ((mem_endpointsOf_iff.mp asked).symm.trans (mem_endpointsOf_iff.mp asked'))
    constructor
    · rw [outcomesOf, outcomes, outcomesOf, outcomes']
      exact filter_map_congr capability (fun _ => rfl) (fun _ => rfl) (by rw [same]) _
    · rw [artifactsOf_of_report artifacts, artifactsOf_of_report artifacts']
      rw [List.flatMap_def, List.flatMap_def]
      congr 1
      apply List.map_congr_left
      intro found member
      rw [of_decide_eq_true (List.mem_filter.mp member).2, same]

/-! ### Brokers without authentication failures -/

def quietReply (limited : Bool) : KiteEndpoint → Reply
  | .funds => if limited then sampleReply .funds else .ok sampleBody
  | _ => .ok sampleBody

def quietTransport (limited : Bool) : KiteTransport Unit where
  authenticationState := sampleTransport.authenticationState
  fetch _ endpoint := (quietReply limited endpoint, ())

theorem sampleTransport_settled : Settled sampleTransport sampleClock sampleReply where
  ready _ := rfl
  stateless _ _ := rfl
  usable := sampleTransport_usable ()

theorem quietTransport_settled (limited : Bool) : Settled (quietTransport limited) sampleClock (quietReply limited) where
  ready _ := rfl
  stateless _ _ := rfl
  usable endpoint := by
    cases endpoint with
    | funds =>
      cases limited with
      | false => exact sampleBody_usable _
      | true => exact ⟨_, rfl⟩
    | _ => exact sampleBody_usable _

theorem quietReply_eq (endpoint : KiteEndpoint) (other : endpoint ∉ endpointsOf .balances) :
    quietReply false endpoint = quietReply true endpoint := by
  cases endpoint with
  | funds => exact absurd (by decide) other
  | _ => rfl

theorem quietReply_goes (limited : Bool) (endpoint : KiteEndpoint) : authFails (quietReply limited endpoint) = false := by
  cases limited <;> cases endpoint <;> rfl

theorem batch_agrees_with_singletons_sample :
    (∃ whole single log, collect sampleTransport sampleClock sampleRequest () = (.ok whole, log) ∧
      (∀ capability start, ∃ log, collect sampleTransport sampleClock (narrow sampleRequest capability) start =
        (.ok (single capability), log)) ∧
      Batched sampleReply sampleRequest.capabilities.sort single whole) ∧
    ∃ first second log log', collect (quietTransport false) sampleClock sampleRequest () = (.ok first, log) ∧
      collect (quietTransport true) sampleClock sampleRequest () = (.ok second, log') ∧
      ∀ capability, capability ≠ .balances →
        outcomesOf first capability = outcomesOf second capability ∧
        artifactsOf first capability = artifactsOf second capability :=
  ⟨(@batch_agrees_with_singletons Unit Unit _ _ _ sampleTransport_settled sampleRequest).1 (),
    (batch_agrees_with_singletons (quietTransport_settled false) sampleRequest).2 (quietTransport_settled true) .balances
      quietReply_eq (quietReply_goes false) (quietReply_goes true) () ()⟩

end PortfolioManager.Connectors.Zerodha.ZerodhaConnector
