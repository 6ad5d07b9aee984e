import PortfolioManager.Connectors.ZerodhaWireRuns

/-! # Evidence over the wire

A returned run is told from the broker's responses: its artifacts are the complete, well-formed bodies in
the order they arrived, and a capability succeeded when each of its endpoints has one of them.
-/

namespace PortfolioManager.Connectors.Zerodha.HttpxKiteTransport

open PortfolioManager.Python PortfolioManager.Domain PortfolioManager.Application Checked Transcript ZerodhaConnector

variable {κ β : Type*} {world : World κ β} {session : KiteSession} {retrievedAt : Datetime} {request : CollectionRequest}
  {clock : κ} {broker : β}

/-- A response the transport makes a payload of. -/
structure Delivered (endpoint : KiteEndpoint) (outcome : HttpOutcome) (response : HttpResponse) : Prop where
  answered : outcome = .ok response
  succeeds : response.Succeeds
  declared : DeclaresFit response (maxBytes endpoint)
  within : response.body.length ≤ maxBytes endpoint
  whole : response.interruption = none
  nonempty : response.body ≠ []
  trimmed : isTrimmed (mediaType response) = true

theorem receive_eq_ok_iff {endpoint : KiteEndpoint} {outcome : HttpOutcome} {payload : KitePayload} :
    receive endpoint outcome = .ok payload ↔
      ∃ response, Delivered endpoint outcome response ∧ payload.body = response.body ∧
        payload.mediaType = mediaType response ∧ payload.sourceAt = none := by
  have built {body : Bytes} {media : String} (present : body ≠ []) :
      (if body = [] then raiseHttp .validation "provider.empty_response"
        else (lift (KitePayload.new body media none)).mapError HttpRaised.own) = .ok payload ↔
      payload.body = body ∧ payload.mediaType = media ∧ payload.sourceAt = none := by
    rw [if_neg present, mapError_own_eq_ok_iff, lift_eq_ok_iff]
    simp only [KitePayload.new, check_bind_eq_ok_iff, pure_eq_ok_iff]
    constructor
    · rintro ⟨_, _, rfl⟩
      exact ⟨rfl, rfl, rfl⟩
    · rintro ⟨rfl, rfl, absent⟩
      refine ⟨payload.nonempty, payload.trimmed, ?_⟩
      rw [← absent]
  unfold receive
  simp only [bind_eq_ok_iff, translate_eq_ok_iff]
  constructor
  · rintro ⟨⟨body, media⟩, downloaded, kept⟩
    cases outcome with
    | error error =>
      have failed : download endpoint (.error error) = .error (.request error) := rfl
      rw [failed] at downloaded
      contradiction
    | ok response =>
      obtain ⟨succeeds, declared, within, whole, rfl, rfl⟩ := download_eq_ok_iff.mp downloaded
      have nonempty : response.body ≠ [] := by
        intro empty
        simp only [empty, ↓reduceIte] at kept
        exact raiseHttp_ne_ok kept
      obtain ⟨same, media, source⟩ := (built nonempty).mp kept
      have trimmed := payload.trimmed
      rw [media] at trimmed
      exact ⟨response, ⟨rfl, succeeds, declared, within, whole, nonempty, trimmed⟩, same, media, source⟩
  · rintro ⟨response, delivered, same, media, source⟩
    obtain ⟨rfl, succeeds, declared, within, whole, nonempty, trimmed⟩ := delivered
    exact ⟨(response.body, mediaType response), download_eq_ok_iff.mpr ⟨succeeds, declared, within, whole, rfl, rfl⟩,
      (built nonempty).mpr ⟨same, media, source⟩⟩

/-- The call ends in a payload. -/
def Call.delivers (call : Call) : Bool := (receive call.1 call.2.outcome).toOption.isSome

theorem Call.delivers_iff {call : Call} : call.delivers = true ↔ ∃ response, Delivered call.1 call.2.outcome response := by
  have payload_iff : call.delivers = true ↔ ∃ payload, receive call.1 call.2.outcome = .ok payload := by
    unfold Call.delivers
    cases receive call.1 call.2.outcome <;> simp [Except.toOption]
  rw [payload_iff]
  constructor
  · rintro ⟨payload, received⟩
    obtain ⟨response, delivered, _⟩ := receive_eq_ok_iff.mp received
    exact ⟨response, delivered⟩
  · rintro ⟨response, delivered⟩
    exact ⟨⟨response.body, mediaType response, none, delivered.nonempty, delivered.trimmed⟩,
      receive_eq_ok_iff.mpr ⟨response, delivered, rfl, rfl, rfl⟩⟩

/-- The artifact keeps the response of the call. -/
def Evidences (retrievedAt : Datetime) (call : Call) (artifact : RawArtifact) : Prop :=
  ∃ response, Delivered call.1 call.2.outcome response ∧ artifact.payload = response.body ∧
    artifact.mediaType = mediaType response ∧ artifact.schemaVersion = call.1.schemaVersion ∧ artifact.connectorKey = key ∧
    asUtc retrievedAt "retrieved_at" = .ok artifact.retrievedAt ∧ artifact.sourceAt = none

theorem evidences_of_artifact? {call : Call} {artifact : RawArtifact}
    (contributed : artifact? retrievedAt call.exchange = some artifact) : Evidences retrievedAt call artifact := by
  obtain ⟨payload, replied, built⟩ := artifact?_eq_some_iff.mp contributed
  have received : receive call.1 call.2.outcome = .ok payload := by
    unfold Call.exchange replyOf at replied
    rcases fetched : receive call.1 call.2.outcome with (raised | error) | payload'
    · simp [fetched] at replied
    · simp [fetched, uncaught] at replied
    · simpa [fetched] using replied
  obtain ⟨response, delivered, same, media, source⟩ := receive_eq_ok_iff.mp received
  obtain ⟨payload_eq, media_eq, schema, connector⟩ := toArtifact_fields built
  simp only [toArtifact, RawArtifact.fromPayload, RawArtifact.new, check_bind_eq_ok_iff] at built
  simp only [bind_eq_ok_iff, pure_eq_ok_iff] at built
  obtain ⟨_, _, _, _, _, _, retrieved, converted, sourced, unsourced, rfl⟩ := built
  refine ⟨response, delivered, payload_eq.trans same, media_eq.trans media, schema, connector, converted, ?_⟩
  rw [source] at unsourced
  exact (Except.ok.inj unsourced).symm

/-- What a returned run tells about its calls. -/
structure Evidenced (retrievedAt : Datetime) (calls : List Call) (result : CollectionResult) : Prop where
  artifacts : List.Forall₂ (Evidences retrievedAt) (calls.filter Call.delivers) result.artifacts
  succeeded : ∀ outcome ∈ result.outcomes, outcome.status = .succeeded ↔
    ∃ queries, endpoints outcome.capability = some queries ∧
      ∀ endpoint ∈ queries, ∃ call ∈ calls, call.1 = endpoint ∧ ∃ response, Delivered endpoint call.2.outcome response
  unsupported : ∀ descriptor, describe = .ok descriptor → ∀ outcome ∈ result.outcomes,
    outcome.status = .unsupported ↔ outcome.capability ∉ descriptor.capabilities

/-- The descriptor lists the capabilities that have endpoints. -/
theorem mem_described_iff {descriptor : ConnectorDescriptor} (described : describe = .ok descriptor) {capability : Capability} :
    capability ∈ descriptor.capabilities ↔ endpoints capability ≠ none := by
  simp only [describe, ConnectorDescriptor.new, check_bind_eq_ok_iff, pure_eq_ok_iff] at described
  obtain ⟨_, _, _, rfl⟩ := described
  cases capability <;> simp [endpoints]

theorem forall₂_filter_filterMap {α γ : Type*} {f : α → Option γ} {keep : α → Bool} {R : α → γ → Prop} {items : List α}
    (kept : ∀ item ∈ items, (f item).isSome = keep item) (related : ∀ item value, f item = some value → R item value) :
    List.Forall₂ R (items.filter keep) (items.filterMap f) := by
  induction items with
  | nil => exact .nil
  | cons item rest ih =>
    rw [List.forall_mem_cons] at kept
    cases found : f item with
    | none =>
      rw [found, Option.isSome_none] at kept
      rw [List.filter_cons_of_neg (by simp [← kept.1]), List.filterMap_cons_none found]
      exact ih kept.2
    | some value =>
      rw [found, Option.isSome_some] at kept
      rw [List.filter_cons_of_pos kept.1.symm, List.filterMap_cons_some found]
      exact .cons (related item value found) (ih kept.2)

/-- The artifacts of a returned run are those of its calls. -/
theorem Traced.artifacts {calls : List Call} {refused : List Exchange} {result : CollectionResult} {log : FetchLog (Wire κ β)}
    (traced : Traced world session (gatedWire world session clock broker)
      (talkOf world session retrievedAt request clock broker) calls refused)
    (returned : collect (liveTransport world session clock broker) retrievedAt request (gatedWire world session clock broker) =
      (.ok result, log)) :
    result.artifacts = calls.filterMap fun call => artifact? retrievedAt call.exchange := by
  obtain ⟨_, _, entries, artifacts, _⟩ := collect_eq_ok returned
  have told : log.entries = calls.map Call.exchange ++ refused := by
    rw [← traced.entries, ← talkOf_entries, returned]
  have nothing : refused.filterMap (artifact? retrievedAt) = [] := by
    refine List.filterMap_eq_nil_iff.mpr fun exchange member => ?_
    obtain ⟨⟨raised, replied⟩, _⟩ := traced.refusal exchange member
    rw [← Prod.eta exchange, replied]
    rfl
  rw [artifacts, artifacts_flatMap, ← entries, told, List.filterMap_append, nothing, List.append_nil, List.filterMap_map]
  rfl

/-- On a returned run, what becomes an artifact is what a call delivers. -/
theorem isSome_artifact?_exchange {call : Call} (absorbable : Absorbable retrievedAt call.exchange.2) :
    (artifact? retrievedAt call.exchange).isSome = call.delivers := by
  unfold Call.delivers Call.exchange at *
  cases fetched : receive call.1 call.2.outcome with
  | ok payload =>
    rw [fetched] at absorbable
    obtain ⟨artifact, contributed, _⟩ := exists_artifact?_of_ok call.1 absorbable
    simp only [replyOf, contributed, Except.toOption, Option.isSome_some]
  | error raised => cases raised <;> rfl

theorem contributed_iff {calls : List Call} {result : CollectionResult}
    (absorbable : ∀ call ∈ calls, Absorbable retrievedAt call.exchange.2)
    (artifacts : result.artifacts = calls.filterMap fun call => artifact? retrievedAt call.exchange) {endpoint : KiteEndpoint} :
    Contributed result endpoint ↔ ∃ call ∈ calls, call.1 = endpoint ∧ ∃ response, Delivered endpoint call.2.outcome response := by
  rw [Contributed, artifacts]
  constructor
  · rintro ⟨artifact, member, schema⟩
    obtain ⟨call, present, contributed⟩ := List.mem_filterMap.mp member
    obtain ⟨payload, _, built⟩ := artifact?_eq_some_iff.mp contributed
    obtain rfl := KiteEndpoint.schemaVersion_injective ((toArtifact_fields built).2.2.1.symm.trans schema)
    refine ⟨call, present, rfl, Call.delivers_iff.mp ?_⟩
    rw [← isSome_artifact?_exchange (absorbable call present), contributed, Option.isSome_some]
  · rintro ⟨call, present, rfl, delivers⟩
    rw [← Call.delivers_iff, ← isSome_artifact?_exchange (absorbable call present), Option.isSome_iff_exists] at delivers
    obtain ⟨artifact, contributed⟩ := delivers
    obtain ⟨payload, _, built⟩ := artifact?_eq_some_iff.mp contributed
    exact ⟨artifact, List.mem_filterMap.mpr ⟨call, present, contributed⟩, (toArtifact_fields built).2.2.1⟩

/-- The calls of a run that returns. -/
theorem exists_calls_of_returned {result : CollectionResult}
    (returned : (collectOver world session retrievedAt request clock broker).1 = .ok result) :
    ∃ calls refused log, (collectOver world session retrievedAt request clock broker).2.exchanges = calls.map Prod.snd ∧
      Traced world session (gatedWire world session clock broker) (talkOf world session retrievedAt request clock broker)
        calls refused ∧
      collect (liveTransport world session clock broker) retrievedAt request (gatedWire world session clock broker) =
        (.ok result, log) := by
  by_cases live : Live session (world.clock clock).1
  · obtain ⟨calls, refused, traced⟩ : ∃ calls refused, Traced world session (gatedWire world session clock broker)
      (talkOf world session retrievedAt request clock broker) calls refused := exists_traced _ _
    have sent := traced.sent
    have empty : (gatedWire world session clock broker).exchanges = [] := readClock_exchanges
    rw [empty, List.nil_append] at sent
    rw [collectOver_of_live live] at returned ⊢
    split at returned
    · next result' log ended =>
      rw [← talkOf_wire, ended] at sent
      cases returned
      exact ⟨calls, refused, log, sent, traced, ended⟩
    · contradiction
  · obtain ⟨⟨raised, failed⟩, _⟩ := @collectOver_of_not_live _ _ world session retrievedAt request clock broker live
    rw [failed] at returned
    contradiction

/-- A returned run keeps exactly the responses that make a payload, and reports its capabilities by them. -/
theorem collectOver_evidenced {result : CollectionResult}
    (returned : (collectOver world session retrievedAt request clock broker).1 = .ok result) :
    ∃ calls, (collectOver world session retrievedAt request clock broker).2.exchanges = calls.map Prod.snd ∧
      Disciplined world session request broker calls ∧ Evidenced retrievedAt calls result := by
  obtain ⟨calls, refused, log, sent, traced, ended⟩ := exists_calls_of_returned returned
  have kept : (gatedWire world session clock broker).broker = broker := readClock_broker
  have disciplined := traced.disciplined
  rw [kept] at disciplined
  have absorbable : ∀ call ∈ calls, Absorbable retrievedAt call.exchange.2 := fun _ => traced.absorbable ended
  have artifacts := traced.artifacts ended
  obtain ⟨_, absorbed, _, reported, outcomes⟩ := collect_eq_ok ended
  have report := reported_of_eq absorbed reported outcomes
  refine ⟨calls, sent, disciplined, ?_, ?_, ?_⟩
  · rw [artifacts]
    exact forall₂_filter_filterMap (fun call member => isSome_artifact?_exchange (absorbable call member))
      fun call artifact => evidences_of_artifact?
  · intro outcome member
    obtain ⟨segment, present, rfl⟩ := List.mem_map.mp (outcomes ▸ member)
    refine (report.status_iff present).1.trans ?_
    simp only [contributed_iff absorbable artifacts]
    rfl
  · intro descriptor described outcome member
    obtain ⟨segment, present, rfl⟩ := List.mem_map.mp (outcomes ▸ member)
    rw [mem_described_iff described, Ne, not_not]
    exact (report.status_iff present).2.2.2

/-- The connector can work with the reply to a handled exchange. -/
theorem absorbable_replyOf {endpoint : KiteEndpoint} {outcome : HttpOutcome} (converted : retrievedAt.Convertible)
    (handled : Handled endpoint outcome) : Absorbable retrievedAt (replyOf (receive endpoint outcome)) := by
  rcases raises_isTyped_iff.mp (raises_receive_iff.mpr handled) with ⟨payload, received⟩ | ⟨error, failed⟩
  · obtain ⟨_, _, _, _, source⟩ := receive_eq_ok_iff.mp received
    rw [received]
    exact ⟨converted, by simp [source]⟩
  · rw [failed]
    trivial

/-- A session that stays live returns from a broker whose outcomes are all handled. -/
theorem exists_returned (always : ∀ reading, Live session reading) (converted : retrievedAt.Convertible)
    (handled : ∀ endpoint state sent, Handled endpoint (world.broker state sent).1) :
    ∃ result, (collectOver world session retrievedAt request clock broker).1 = .ok result := by
  have absorbable : ∀ exchange ∈ exchangesOf (surveyOf (liveTransport world session clock broker) request
      (gatedWire world session clock broker)).1, Absorbable retrievedAt exchange.2 := by
    intro exchange member
    rw [exchangesOf_surveyOf] at member
    obtain ⟨reached, answered⟩ := converse_answers member
    obtain ⟨passage, passed, reply, _⟩ := @relay_of_live _ _ world session reached exchange.1 (always _)
    change exchange.2 = (relay world session reached exchange.1).1 at answered
    rw [answered, reply, passed.answered]
    exact absorbable_replyOf converted (handled _ _ _)
  obtain ⟨result, returned, _⟩ := collect_of_absorbable (liveTransport_ready _) absorbable
  refine ⟨result, ?_⟩
  rw [collectOver_of_live (always _), returned]

def sampleWorld : World Unit Unit where
  clock _ := (sampleClock, ())
  broker _ _ := (.ok (sampleResponse "application/json" none), ())

theorem sampleResponse_handled (endpoint : KiteEndpoint) : Handled endpoint (.ok (sampleResponse "application/json" none)) :=
  ⟨nofun, fun _ _ _ => ⟨by simp [sampleResponse], fun _ _ => by decide⟩⟩

theorem sampleKiteSession_live (reading : Datetime) : Live sampleKiteSession reading :=
  ⟨by simp [sampleKiteSession], by simp [sampleKiteSession]⟩

theorem collectOver_evidenced_sample :
    ∃ result, (collectOver sampleWorld sampleKiteSession sampleClock sampleRequest () ()).1 = .ok result ∧
      ∃ calls, (collectOver sampleWorld sampleKiteSession sampleClock sampleRequest () ()).2.exchanges = calls.map Prod.snd ∧
        Disciplined sampleWorld sampleKiteSession sampleRequest () calls ∧ Evidenced sampleClock calls result := by
  obtain ⟨result, returned⟩ := @exists_returned _ _ sampleWorld sampleKiteSession sampleClock sampleRequest () ()
    sampleKiteSession_live ⟨0, rfl, by decide⟩ fun endpoint _ _ => sampleResponse_handled endpoint
  exact ⟨result, returned, collectOver_evidenced returned⟩

end PortfolioManager.Connectors.Zerodha.HttpxKiteTransport
