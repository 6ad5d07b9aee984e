import PortfolioManager.Connectors.ZerodhaAccounting

/-! # The fetches of any run

A run that returns made the fetches of its survey. A run that raises made the same fetches up to the
reply that nothing catches. Either way they are one conversation over the plan of the request, which
ends at the first reply that fails authentication or cannot be absorbed.
-/

namespace PortfolioManager.Connectors.Zerodha.ZerodhaConnector

open PortfolioManager.Python PortfolioManager.Domain PortfolioManager.Application Checked Transcript

variable {σ τ : Type*} {transport : KiteTransport σ} {retrievedAt : Datetime}

instance (value : Datetime) : Decidable value.Convertible :=
  decidable_of_iff (∃ offset ∈ value.utcoffset.toList, InDatetimeRange (value.wall - offset)) <| by
    simp only [Option.mem_toList, Datetime.Convertible]

instance (retrievedAt : Datetime) : DecidablePred (Absorbable retrievedAt)
  | .ok payload => inferInstanceAs (Decidable (retrievedAt.Convertible ∧ ∀ source ∈ payload.sourceAt, source.Convertible))
  | .error (.connector _) => .isTrue trivial
  | .error (.builtin _) => .isFalse id

/-- No fetch follows the reply: the failure latches, or nothing catches what it raises. -/
def halts (retrievedAt : Datetime) (reply : Reply) : Bool := authFails reply || !decide (Absorbable retrievedAt reply)

theorem halts_of_absorbable {reply : Reply} (absorbable : Absorbable retrievedAt reply) :
    halts retrievedAt reply = authFails reply := by
  simp [halts, absorbable]

theorem halts_of_not_absorbable {reply : Reply} (fatal : ¬Absorbable retrievedAt reply) : halts retrievedAt reply = true := by
  simp [halts, fatal]

/-- The endpoint loop fetches until a reply halts it, whatever it ends in. -/
theorem collectEndpoints_log (queries : List KiteEndpoint) (loop : EndpointLoop) (log : FetchLog σ) :
    (collectEndpoints transport retrievedAt queries loop log).2 =
      log.extend (converse transport.fetch (halts retrievedAt) queries log.state) := by
  induction queries generalizing loop log with
  | nil => simp [collectEndpoints, Log.extend]
  | cons query rest ih =>
    by_cases absorbable : Absorbable retrievedAt (transport.fetch log.state query).1
    · have same := halts_of_absorbable absorbable
      cases stop : authFails (transport.fetch log.state query).1 with
      | true =>
        rw [converse_cons_of_stops (same.trans stop)]
        simp [collectEndpoints, Log.ask, handleReply_of_absorbable absorbable, stop, Log.extend]
      | false =>
        rw [converse_cons_of_not_stops (same.trans stop)]
        simp only [collectEndpoints, Log.ask, handleReply_of_absorbable absorbable, stop, Bool.false_eq_true, ↓reduceIte, ih]
        simp [Log.extend]
    · obtain ⟨error, raised⟩ := handleReply_of_not_absorbable absorbable query loop
      rw [converse_cons_of_stops (halts_of_not_absorbable absorbable)]
      simp [collectEndpoints, Log.ask, raised, Log.extend]

/-- Where all replies are absorbed, only failures of authentication halt. -/
theorem converse_halts_of_absorbable {queries : List KiteEndpoint} {state : σ}
    (absorbable : ∀ exchange ∈ (converse transport.fetch authFails queries state).1, Absorbable retrievedAt exchange.2) :
    converse transport.fetch (halts retrievedAt) queries state = converse transport.fetch authFails queries state :=
  converse_congr fun exchange member => halts_of_absorbable (absorbable exchange member)

/-- Where a reply cannot be absorbed, one halts. -/
theorem exists_halts_of_fatal {queries : List KiteEndpoint} {state : σ}
    (fatal : ¬∀ exchange ∈ (converse transport.fetch authFails queries state).1, Absorbable retrievedAt exchange.2) :
    ∃ exchange ∈ (converse transport.fetch (halts retrievedAt) queries state).1, halts retrievedAt exchange.2 = true := by
  by_contra none_halts
  have goes : ∀ exchange ∈ (converse transport.fetch (halts retrievedAt) queries state).1,
      halts retrievedAt exchange.2 = false := by simpa using none_halts
  have absorbed (exchange : Exchange) (member : exchange ∈ (converse transport.fetch (halts retrievedAt) queries state).1) :
      Absorbable retrievedAt exchange.2 := by
    by_contra broken
    have halted := goes exchange member
    rw [halts_of_not_absorbable broken] at halted
    contradiction
  have same : converse transport.fetch authFails queries state = converse transport.fetch (halts retrievedAt) queries state :=
    converse_congr fun exchange member => (halts_of_absorbable (absorbed exchange member)).symm
  rw [same] at fatal
  exact fatal absorbed

theorem collectCapability_log (capability : Capability) (collection : Collection) (log : FetchLog σ)
    (unlatched : collection.authenticationIssue = none) :
    (collectCapability transport retrievedAt capability collection log).2 =
      log.extend (converse transport.fetch (halts retrievedAt) (endpointsOf capability) log.state) := by
  cases supported : endpoints capability with
  | none => simp [collectCapability, supported, endpointsOf, Log.extend]
  | some queries =>
    simp only [collectCapability, supported, unlatched, endpointsOf_of_supported supported]
    exact collectEndpoints_log queries _ log

/-- Once authentication failed, the capability loop fetches nothing and does not raise. -/
theorem collectCapabilities_of_latched (capabilities : List Capability) {collection : Collection} {issue : ConnectorIssue}
    (latched : collection.authenticationIssue = some issue) (log : FetchLog σ) :
    (collectCapabilities transport retrievedAt capabilities collection log).2 = log := by
  have silent : (survey transport capabilities collection.authenticationIssue log.state).1 =
      capabilities.map fun capability => ⟨capability, [], some issue⟩ := by
    rw [latched, survey_of_latched]
  have nothing : exchangesOf (survey transport capabilities collection.authenticationIssue log.state).1 = [] := by
    rw [silent, exchangesOf, List.flatMap_map]
    simp
  rw [collectCapabilities_of_absorbable (by simp [nothing]), nothing, latched, survey_of_latched]
  simp [Log.extend]

/-- The capability loop fetches along the plan until a reply halts it, whatever it ends in. -/
theorem collectCapabilities_log (capabilities : List Capability) (collection : Collection) (log : FetchLog σ)
    (unlatched : collection.authenticationIssue = none) :
    (collectCapabilities transport retrievedAt capabilities collection log).2 =
      log.extend (converse transport.fetch (halts retrievedAt) (plan capabilities) log.state) := by
  induction capabilities generalizing collection log with
  | nil => simp [collectCapabilities, plan, Log.extend]
  | cons capability rest ih =>
    rw [plan_cons]
    by_cases absorbable : ∀ exchange ∈ (converse transport.fetch authFails (endpointsOf capability) log.state).1,
        Absorbable retrievedAt exchange.2
    · have same := converse_halts_of_absorbable absorbable
      have visited : ∀ exchange ∈ (visit transport capability collection.authenticationIssue log.state).1,
          Absorbable retrievedAt exchange.2 := by rwa [unlatched, visit_of_unlatched]
      have returned := collectCapability_of_absorbable visited
      rw [unlatched, visit_of_unlatched] at returned
      rw [collectCapabilities_of_returned returned]
      by_cases goes : ∀ exchange ∈ (converse transport.fetch authFails (endpointsOf capability) log.state).1,
          authFails exchange.2 = false
      · have unlatched' : Segment.latchAfter
            ⟨capability, (converse transport.fetch authFails (endpointsOf capability) log.state).1, none⟩ = none := by
          simp only [Segment.latchAfter, authIssues_eq_nil_iff.mpr goes, List.getLast?_nil, Option.or_none]
        have continues : ∀ exchange ∈ (converse transport.fetch (halts retrievedAt) (endpointsOf capability) log.state).1,
            halts retrievedAt exchange.2 = false := by
          rw [same]
          exact fun exchange member => (halts_of_absorbable (absorbable exchange member)).trans (goes exchange member)
        rw [ih _ _ unlatched', converse_append_of_goes continues, same]
        simp [Log.extend]
      · have latched : authIssues (converse transport.fetch authFails (endpointsOf capability) log.state).1 ≠ [] :=
          mt authIssues_eq_nil_iff.mp goes
        obtain ⟨issue, last⟩ := Option.ne_none_iff_exists'.mp (mt List.getLast?_eq_none_iff.mp latched)
        have latch : Segment.latchAfter
            ⟨capability, (converse transport.fetch authFails (endpointsOf capability) log.state).1, none⟩ = some issue := by
          simp only [Segment.latchAfter, last, Option.or_none]
        have stopped : ∃ exchange ∈ (converse transport.fetch (halts retrievedAt) (endpointsOf capability) log.state).1,
            halts retrievedAt exchange.2 = true := by
          obtain ⟨exchange, member, fails⟩ : ∃ exchange ∈
              (converse transport.fetch authFails (endpointsOf capability) log.state).1, authFails exchange.2 = true := by
            simpa using goes
          exact ⟨exchange, same ▸ member, (halts_of_absorbable (absorbable exchange member)).trans fails⟩
        rw [collectCapabilities_of_latched rest latch, converse_append_of_stops stopped, same]
    · have fatal : ¬∀ exchange ∈ (visit transport capability collection.authenticationIssue log.state).1,
          Absorbable retrievedAt exchange.2 := by rwa [unlatched, visit_of_unlatched]
      obtain ⟨error, raised⟩ := collectCapability_of_fatal fatal
      rw [collectCapabilities_of_raised (Prod.ext raised rfl), collectCapability_log capability collection log unlatched,
        converse_append_of_stops (exists_halts_of_fatal absorbable)]

/-- The fetches of a run that starts in session, whether it returns or raises. -/
theorem collect_log {request : CollectionRequest} {state : σ} (ready : Ready transport state) :
    (collect transport retrievedAt request state).2 =
      Log.extend ⟨(transport.authenticationState state).2, []⟩
        (converse transport.fetch (halts retrievedAt) (plan request.sortedCapabilities) (transport.authenticationState state).2) := by
  have walked := @collectCapabilities_log _ transport retrievedAt request.sortedCapabilities ⟨[], [], none⟩
    ⟨(transport.authenticationState state).2, []⟩ rfl
  rw [← walked]
  unfold Ready at ready
  simp only [collect, ready, ne_eq, not_true_eq_false, ↓reduceIte]
  split
  · next ended => rw [ended]
  · next ended => rw [ended]

end PortfolioManager.Connectors.Zerodha.ZerodhaConnector
