import PortfolioManager.Connectors.ZerodhaAccounting

/-! # When collected evidence survives a run

`collect` catches typed failures only. `KitePayload` accepts source times that `RawArtifact`
rejects, and what `RawArtifact` raises about one endpoint's payload ends the whole run. The
theorem here is the exact condition under which every successful fetch ends up in the result.
-/

namespace PortfolioManager.Connectors.Zerodha.ZerodhaConnector

open PortfolioManager.Python PortfolioManager.Domain PortfolioManager.Application Checked Transcript

variable {σ : Type*} {transport : KiteTransport σ}

/-- Every fetch either answers with a payload or fails with a typed error. -/
def Typed (transport : KiteTransport σ) : Prop :=
  ∀ reached endpoint raised, (transport.fetch reached endpoint).1 = .error raised → ∃ error, raised = .connector error

/-- The fetches a request leads to while the broker accepts the session. -/
def fetches (transport : KiteTransport σ) (request : CollectionRequest) (state : σ) : List Exchange :=
  (converse transport.fetch authFails (plan request.sortedCapabilities) (transport.authenticationState state).2).1

/-- The run returned, and each of its successful fetches left an artifact with its bytes. -/
def EvidencePreserved (transport : KiteTransport σ) (clock : Datetime) (request : CollectionRequest) (state : σ) : Prop :=
  ∃ result log, collect transport clock request state = (.ok result, log) ∧
    ∀ endpoint payload, (endpoint, .ok payload) ∈ log.entries →
      ∃ artifact ∈ result.artifacts, artifact.payload = payload.body ∧
        artifact.mediaType = payload.mediaType ∧ artifact.schemaVersion = endpoint.schemaVersion

/-- The clock and the source times of the fetched payloads denote representable instants. -/
def TimesConvertible (clock : Datetime) (exchanges : List Exchange) : Prop :=
  ∀ endpoint payload, (endpoint, .ok payload) ∈ exchanges →
    clock.Convertible ∧ ∀ source ∈ payload.sourceAt, source.Convertible

theorem absorbable_iff_timesConvertible (typed : Typed transport) {clock : Datetime} {request : CollectionRequest}
    {state : σ} :
    (∀ exchange ∈ exchangesOf (surveyOf transport request state).1, Absorbable clock exchange.2) ↔
      TimesConvertible clock (fetches transport request state) := by
  rw [exchangesOf_surveyOf, TimesConvertible, fetches]
  constructor
  · intro absorbable endpoint payload member
    exact absorbable _ member
  · rintro convertible ⟨endpoint, reply⟩ member
    cases reply with
    | ok payload => exact convertible endpoint payload member
    | error raised =>
      obtain ⟨reached, answered⟩ := converse_answers member
      obtain ⟨error, rfl⟩ := typed reached endpoint raised answered.symm
      trivial

/-- Evidence is preserved exactly when every time the run converts is convertible. -/
theorem evidence_preserved_iff (request : CollectionRequest) (clock : Datetime) (state : σ)
    (ready : Ready transport state) (typed : Typed transport) :
    EvidencePreserved transport clock request state ↔ TimesConvertible clock (fetches transport request state) := by
  rw [← absorbable_iff_timesConvertible typed]
  constructor
  · rintro ⟨result, log, returned, _⟩
    exact (collect_eq_ok returned).2.1
  · intro absorbable
    obtain ⟨result, returned, artifacts, _⟩ := collect_of_absorbable ready absorbable
    refine ⟨result, _, returned, fun endpoint payload fetched => ?_⟩
    obtain ⟨artifact, contributed, _⟩ := exists_artifact?_of_ok endpoint (absorbable _ fetched)
    obtain ⟨_, received, built⟩ := artifact?_eq_some_iff.mp contributed
    cases received
    have fields := toArtifact_fields built
    refine ⟨artifact, ?_, fields.1, fields.2.1, fields.2.2.1⟩
    rw [artifacts]
    exact mem_artifacts_iff.mpr ⟨_, fetched, contributed⟩

theorem evidence_preserved_iff_sample :
    EvidencePreserved sampleTransport sampleClock sampleRequest () ↔
      TimesConvertible sampleClock (fetches sampleTransport sampleRequest ()) :=
  evidence_preserved_iff sampleRequest sampleClock () sampleTransport_ready fun _ endpoint raised failed => by
    have usable := sampleTransport_usable () endpoint
    rw [failed] at usable
    exact usable

/-! ### A payload with a naive source time -/

def naiveTime : Datetime where
  wall := 63000003600000000
  utcoffset := none

def naiveBody : KitePayload := { sampleBody with sourceAt := some naiveTime }

def naiveTransport : KiteTransport Unit where
  authenticationState := sampleTransport.authenticationState
  fetch _ endpoint := (if endpoint = .positions then .ok naiveBody else .ok sampleBody, ())

def naiveRequest : CollectionRequest :=
  { sampleRequest with
    capabilities := [Capability.holdings, .positions].toFinset
    requested := by decide }

theorem naiveRequest_sorted : naiveRequest.capabilities.sort (· ≤ ·) = [.holdings, .positions] :=
  (List.toFinset_sort _ (by decide)).mpr (by decide)

/-- The holdings were fetched, the positions payload passed its own constructor, and the run raised. -/
theorem naive_source_discards_evidence :
    Ready naiveTransport () ∧ Typed naiveTransport ∧ sampleClock.Aware ∧
      KitePayload.new naiveBody.body naiveBody.mediaType naiveBody.sourceAt = .ok naiveBody ∧
      collect naiveTransport sampleClock naiveRequest () =
        (.error (.builtin (.valueError "source_at must be timezone-aware")),
          ⟨(), [(.holdings, .ok sampleBody), (.positions, .ok naiveBody)]⟩) ∧
      ¬EvidencePreserved naiveTransport sampleClock naiveRequest () := by
  have refused : toArtifact sampleClock .positions naiveBody =
      .error (.valueError "source_at must be timezone-aware") :=
    toArtifact_of_source_error ⟨0, rfl, by decide⟩ .positions rfl
  have holdings : ∃ collection, collectCapability naiveTransport sampleClock .holdings ⟨[], [], none⟩ ⟨(), []⟩ =
      (.ok collection, ⟨(), [(.holdings, .ok sampleBody)]⟩) ∧ collection.authenticationIssue = none := by
    refine ⟨_, collectCapability_of_absorbable fun exchange member => ?_, rfl⟩
    rw [List.mem_singleton.mp member]
    exact usable_iff_absorbable.mp (sampleBody_usable .holdings)
  obtain ⟨collection, holdings, unlatched⟩ := holdings
  have positions : collectCapability naiveTransport sampleClock .positions collection
      ⟨(), [(.holdings, .ok sampleBody)]⟩ =
      (.error (.builtin (.valueError "source_at must be timezone-aware")),
        ⟨(), [(.holdings, .ok sampleBody), (.positions, .ok naiveBody)]⟩) :=
    collectCapability_of_raised rfl unlatched (collectEndpoints_of_refused refused rfl [] _)
  have ready : Ready naiveTransport () := rfl
  have raised : collect naiveTransport sampleClock naiveRequest () =
      (.error (.builtin (.valueError "source_at must be timezone-aware")),
        ⟨(), [(.holdings, .ok sampleBody), (.positions, .ok naiveBody)]⟩) := by
    refine collect_of_raised ready ?_
    rw [CollectionRequest.sortedCapabilities, naiveRequest_sorted, collectCapabilities_of_returned holdings]
    exact collectCapabilities_of_raised positions []
  refine ⟨ready, ?_, rfl, rfl, raised, ?_⟩
  · intro _ endpoint _ failed
    cases endpoint <;> cases failed
  · rintro ⟨result, log, returned, _⟩
    rw [raised] at returned
    cases returned

end PortfolioManager.Connectors.Zerodha.ZerodhaConnector
