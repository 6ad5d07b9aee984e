import PortfolioManager.Connectors.ZerodhaWireEvidence

/-! # Secrets stay in the requests

Two runs whose sessions differ in the key and the token alone, and whose brokers answer alike, end alike:
with the same result or the same exception, and with requests that differ in their headers alone.
-/

namespace PortfolioManager.Connectors.Zerodha

open PortfolioManager.Python PortfolioManager.Domain PortfolioManager.Application Checked Transcript

/-! ## Transports that answer alike -/

namespace ZerodhaConnector

variable {σ τ : Type*} {R : σ → τ → Prop} {first : KiteTransport σ} {second : KiteTransport τ} {retrievedAt : Datetime}

/-- Related states of the two transports answer alike and stay related. -/
structure Bisimilar (R : σ → τ → Prop) (first : KiteTransport σ) (second : KiteTransport τ) : Prop where
  authentication : ∀ {s t}, R s t → (first.authenticationState s).1 = (second.authenticationState t).1 ∧
    R (first.authenticationState s).2 (second.authenticationState t).2
  fetch : ∀ {s t}, R s t → ∀ endpoint, (first.fetch s endpoint).1 = (second.fetch t endpoint).1 ∧
    R (first.fetch s endpoint).2 (second.fetch t endpoint).2

/-- The same outcome, the same exchanges, and related states. -/
def SameEnd {α : Type} (R : σ → τ → Prop) (left : α × FetchLog σ) (right : α × FetchLog τ) : Prop :=
  left.1 = right.1 ∧ left.2.entries = right.2.entries ∧ R left.2.state right.2.state

theorem sameEnd_collectEndpoints (bisimilar : Bisimilar R first second) (queries : List KiteEndpoint) (loop : EndpointLoop)
    {left : FetchLog σ} {right : FetchLog τ} (entries : left.entries = right.entries) (related : R left.state right.state) :
    SameEnd R (collectEndpoints first retrievedAt queries loop left) (collectEndpoints second retrievedAt queries loop right) := by
  induction queries generalizing loop left right with
  | nil => exact ⟨rfl, entries, related⟩
  | cons query rest ih =>
    obtain ⟨reply, next⟩ := bisimilar.fetch related query
    have asked : (left.ask first.fetch query).2.entries = (right.ask second.fetch query).2.entries := by
      simp only [Log.ask, reply, entries]
    have same : (left.ask first.fetch query).1 = (right.ask second.fetch query).1 := reply
    simp only [collectEndpoints, same]
    cases handleReply retrievedAt query (right.ask second.fetch query).1 loop with
    | error raised => exact ⟨rfl, asked, next⟩
    | ok step =>
      cases step with
      | done loop => exact ⟨rfl, asked, next⟩
      | yield loop => exact ih loop asked next

theorem sameEnd_collectCapability (bisimilar : Bisimilar R first second) (capability : Capability) (collection : Collection)
    {left : FetchLog σ} {right : FetchLog τ} (entries : left.entries = right.entries) (related : R left.state right.state) :
    SameEnd R (collectCapability first retrievedAt capability collection left)
      (collectCapability second retrievedAt capability collection right) := by
  unfold collectCapability
  cases endpoints capability with
  | none => exact ⟨rfl, entries, related⟩
  | some queries =>
    cases collection.authenticationIssue with
    | some issue => exact ⟨rfl, entries, related⟩
    | none =>
      obtain ⟨ended, asked, next⟩ := @sameEnd_collectEndpoints _ _ _ _ _ retrievedAt bisimilar queries
        ⟨collection.artifacts, 0, [], none⟩ left right entries related
      simp only [ended]
      exact ⟨rfl, asked, next⟩

theorem sameEnd_collectCapabilities (bisimilar : Bisimilar R first second) (capabilities : List Capability)
    (collection : Collection) {left : FetchLog σ} {right : FetchLog τ} (entries : left.entries = right.entries)
    (related : R left.state right.state) :
    SameEnd R (collectCapabilities first retrievedAt capabilities collection left)
      (collectCapabilities second retrievedAt capabilities collection right) := by
  induction capabilities generalizing collection left right with
  | nil => exact ⟨rfl, entries, related⟩
  | cons capability rest ih =>
    obtain ⟨ended, asked, next⟩ := @sameEnd_collectCapability _ _ _ _ _ retrievedAt bisimilar capability collection left right
      entries related
    cases here : collectCapability first retrievedAt capability collection left with
    | mk outcome log =>
      cases there : collectCapability second retrievedAt capability collection right with
      | mk outcome' log' =>
        rw [here, there] at ended asked next
        cases ended
        simp only [collectCapabilities, here, there]
        cases outcome with
        | error raised => exact ⟨rfl, asked, next⟩
        | ok collection => exact ih collection asked next

/-- Runs over bisimilar transports end alike. -/
theorem sameEnd_collect (bisimilar : Bisimilar R first second) (request : CollectionRequest) {s : σ} {t : τ} (related : R s t) :
    SameEnd R (collect first retrievedAt request s) (collect second retrievedAt request t) := by
  obtain ⟨authentication, next⟩ := bisimilar.authentication related
  unfold collect
  simp only [authentication]
  split
  · exact ⟨rfl, rfl, next⟩
  · obtain ⟨ended, asked, last⟩ := @sameEnd_collectCapabilities _ _ _ _ _ retrievedAt bisimilar request.sortedCapabilities
      ⟨[], [], none⟩ ⟨(first.authenticationState s).2, []⟩ ⟨(second.authenticationState t).2, []⟩ rfl next
    cases here : collectCapabilities first retrievedAt request.sortedCapabilities ⟨[], [], none⟩
        ⟨(first.authenticationState s).2, []⟩ with
    | mk outcome log =>
      cases there : collectCapabilities second retrievedAt request.sortedCapabilities ⟨[], [], none⟩
          ⟨(second.authenticationState t).2, []⟩ with
      | mk outcome' log' =>
        rw [here, there] at ended asked last
        cases ended
        cases outcome with
        | error raised => exact ⟨rfl, asked, last⟩
        | ok collection => exact ⟨rfl, asked, last⟩

end ZerodhaConnector

/-! ## Runs over related wires -/

namespace HttpxKiteTransport

open ZerodhaConnector

section Related

variable {κ κ' β γ : Type*} {world : World κ β} {world' : World κ' γ} {session session' : KiteSession}
  {R : Wire κ β → Wire κ' γ → Prop} {clock : κ} {clock' : κ'} {b : β} {c : γ}

/-- Two runs end alike when their first gates agree and their fetches answer alike. -/
theorem collectOver_related (escaped : ∀ {left right}, R left right → left.escaped = right.escaped)
    (shown : authenticationState session (readClock world session (start clock b)).1 =
      authenticationState session' (readClock world' session' (start clock' c)).1)
    (gated : R (readClock world session (start clock b)).2 (readClock world' session' (start clock' c)).2)
    (relayed : ∀ {left right}, R left right → ∀ endpoint, (relay world session left endpoint).1 =
      (relay world' session' right endpoint).1 ∧ R (relay world session left endpoint).2 (relay world' session' right endpoint).2)
    (retrievedAt : Datetime) (request : CollectionRequest) :
    (collectOver world session retrievedAt request clock b).1 = (collectOver world' session' retrievedAt request clock' c).1 ∧
      R (collectOver world session retrievedAt request clock b).2 (collectOver world' session' retrievedAt request clock' c).2 := by
  simp only [collectOver, shown]
  cases authenticationState session' (readClock world' session' (start clock' c)).1 with
  | error error => exact ⟨rfl, gated⟩
  | ok authentication =>
    have bisimilar : Bisimilar R ⟨fun _ => (authentication, (readClock world session (start clock b)).2), relay world session⟩
        ⟨fun _ => (authentication, (readClock world' session' (start clock' c)).2), relay world' session'⟩ :=
      ⟨fun _ => ⟨rfl, gated⟩, relayed⟩
    obtain ⟨ended, _, last⟩ := @sameEnd_collect _ _ _ _ _ retrievedAt bisimilar request _ _ gated
    cases here : collect ⟨fun _ => (authentication, (readClock world session (start clock b)).2), relay world session⟩
        retrievedAt request (readClock world session (start clock b)).2 with
    | mk outcome log =>
      cases there : collect ⟨fun _ => (authentication, (readClock world' session' (start clock' c)).2), relay world' session'⟩
          retrievedAt request (readClock world' session' (start clock' c)).2 with
      | mk outcome' log' =>
        rw [here, there] at ended last
        cases ended
        simp only [here, there]
        cases outcome with
        | error raised =>
          refine ⟨?_, last⟩
          dsimp only
          rw [escaped last]
        | ok result => exact ⟨rfl, last⟩

end Related

/-! ## Sessions that differ in their secrets -/

variable {κ β γ : Type*} {clockOf : κ → Datetime × κ} {broker : Oracle β HttpRequest HttpOutcome}
  {broker' : Oracle γ HttpRequest HttpOutcome} {session session' : KiteSession} {B : β → γ → Prop}

/-- Both sessions have a token or both have none, and they expire together. -/
structure SameShape (session session' : KiteSession) : Prop where
  token : session.accessToken.isSome = session'.accessToken.isSome
  expiry : session.expiresAt = session'.expiresAt

/-- Related states of the brokers answer the sessions' requests alike and stay related. -/
def AnswerAlike (broker : Oracle β HttpRequest HttpOutcome) (broker' : Oracle γ HttpRequest HttpOutcome)
    (session session' : KiteSession) (B : β → γ → Prop) : Prop :=
  ∀ b c, B b c → ∀ token ∈ session.accessToken, ∀ token' ∈ session'.accessToken, ∀ endpoint,
    (broker b (request session token endpoint)).1 = (broker' c (request session' token' endpoint)).1 ∧
      B (broker b (request session token endpoint)).2 (broker' c (request session' token' endpoint)).2

/-- Exchanges that differ in the headers of their requests at most. -/
def SameBarHeaders (left right : HttpExchange) : Prop :=
  left.reading = right.reading ∧ left.outcome = right.outcome ∧
    { left.request with headers := [] } = { right.request with headers := [] }

structure Alike (B : β → γ → Prop) (left : Wire κ β) (right : Wire κ γ) : Prop where
  clock : left.clock = right.clock
  broker : B left.broker right.broker
  exchanges : List.Forall₂ SameBarHeaders left.exchanges right.exchanges
  escaped : left.escaped = right.escaped

theorem authenticationState_of_sameShape (shape : SameShape session session') (reading : Datetime) :
    authenticationState session reading = authenticationState session' reading := by
  have token := shape.token
  unfold authenticationState
  rw [shape.expiry]
  cases here : session.accessToken <;> cases there : session'.accessToken <;> simp [here, there] at token ⊢

theorem readClock_alike (shape : SameShape session session') {left : Wire κ β} {right : Wire κ γ} (alike : Alike B left right) :
    (readClock ⟨clockOf, broker⟩ session left).1 = (readClock ⟨clockOf, broker'⟩ session' right).1 ∧
      Alike B (readClock ⟨clockOf, broker⟩ session left).2 (readClock ⟨clockOf, broker'⟩ session' right).2 := by
  obtain ⟨clock, related, exchanges, escaped⟩ := alike
  unfold readClock
  rw [shape.token, shape.expiry, clock]
  split
  · exact ⟨rfl, rfl, related, exchanges, escaped⟩
  · exact ⟨rfl, clock, related, exchanges, escaped⟩

theorem fetchOver_alike (shape : SameShape session session') (answers : AnswerAlike broker broker' session session' B)
    {left : Wire κ β} {right : Wire κ γ} (alike : Alike B left right) (endpoint : KiteEndpoint) :
    (fetchOver ⟨clockOf, broker⟩ session left endpoint).1 = (fetchOver ⟨clockOf, broker'⟩ session' right endpoint).1 ∧
      Alike B (fetchOver ⟨clockOf, broker⟩ session left endpoint).2 (fetchOver ⟨clockOf, broker'⟩ session' right endpoint).2 := by
  obtain ⟨reading, gated⟩ := @readClock_alike _ _ _ clockOf broker broker' _ _ _ shape _ _ alike
  simp only [fetchOver, reading, authenticationState_of_sameShape shape]
  cases authenticationState session' (readClock ⟨clockOf, broker'⟩ session' right).1 with
  | error error => exact ⟨rfl, gated⟩
  | ok authentication =>
    dsimp only
    split
    · exact ⟨rfl, gated⟩
    · have token := shape.token
      unfold headers
      cases here : session.accessToken with
      | none =>
        cases there : session'.accessToken with
        | none => exact ⟨rfl, gated⟩
        | some secret' => simp [here, there] at token
      | some secret =>
        cases there : session'.accessToken with
        | none => simp [here, there] at token
        | some secret' =>
          obtain ⟨outcome, next⟩ := answers _ _ gated.broker secret here secret' there endpoint
          refine ⟨congrArg (receive endpoint) outcome, gated.clock, next, ?_, gated.escaped⟩
          exact List.rel_append gated.exchanges (.cons ⟨rfl, outcome, rfl⟩ .nil)

theorem relay_alike (shape : SameShape session session') (answers : AnswerAlike broker broker' session session' B)
    {left : Wire κ β} {right : Wire κ γ} (alike : Alike B left right) (endpoint : KiteEndpoint) :
    (relay ⟨clockOf, broker⟩ session left endpoint).1 = (relay ⟨clockOf, broker'⟩ session' right endpoint).1 ∧
      Alike B (relay ⟨clockOf, broker⟩ session left endpoint).2 (relay ⟨clockOf, broker'⟩ session' right endpoint).2 := by
  obtain ⟨fetched, clock, related, exchanges, escaped⟩ := @fetchOver_alike _ _ _ clockOf _ _ _ _ _ shape answers _ _ alike endpoint
  refine ⟨congrArg replyOf fetched, clock, related, exchanges, ?_⟩
  simp only [relay, fetched, escaped]

/-- A run depends on the secrets of its session through the broker's answers alone. -/
theorem collectOver_alike (shape : SameShape session session') (answers : AnswerAlike broker broker' session session' B)
    (retrievedAt : Datetime) (request : CollectionRequest) (clock : κ) {b : β} {c : γ} (related : B b c) :
    (collectOver ⟨clockOf, broker⟩ session retrievedAt request clock b).1 =
        (collectOver ⟨clockOf, broker'⟩ session' retrievedAt request clock c).1 ∧
      List.Forall₂ SameBarHeaders (collectOver ⟨clockOf, broker⟩ session retrievedAt request clock b).2.exchanges
        (collectOver ⟨clockOf, broker'⟩ session' retrievedAt request clock c).2.exchanges := by
  have started : Alike B (start clock b) (start clock c) := ⟨rfl, related, .nil, rfl⟩
  obtain ⟨reading, gated⟩ := @readClock_alike _ _ _ clockOf broker broker' _ _ _ shape _ _ started
  obtain ⟨ended, last⟩ := @collectOver_related _ _ _ _ ⟨clockOf, broker⟩ ⟨clockOf, broker'⟩ session session' (Alike B) clock clock
    b c Alike.escaped (by rw [reading, authenticationState_of_sameShape shape]) gated (relay_alike shape answers) retrievedAt request
  exact ⟨ended, last.exchanges⟩

/-- A session with another key and token than the sample's. -/
def otherKiteSession : KiteSession where
  apiKey := "another-api-key"
  accessToken := some "another-token"
  expiresAt := none
  apiKeyed := by decide
  tokenShape := by decide

theorem collectOver_alike_sample :
    SameShape sampleKiteSession otherKiteSession ∧
      (collectOver sampleWorld sampleKiteSession sampleClock sampleRequest () ()).1 =
        (collectOver sampleWorld otherKiteSession sampleClock sampleRequest () ()).1 := by
  have shape : SameShape sampleKiteSession otherKiteSession := ⟨rfl, rfl⟩
  have answers : AnswerAlike sampleWorld.broker sampleWorld.broker sampleKiteSession otherKiteSession fun _ _ => True :=
    fun _ _ _ _ _ _ _ _ => ⟨rfl, trivial⟩
  have same := @collectOver_alike _ _ _ sampleWorld.clock _ _ _ _ _ shape answers sampleClock sampleRequest () () () trivial
  exact ⟨shape, same.1⟩

end HttpxKiteTransport

end PortfolioManager.Connectors.Zerodha
