import PortfolioManager.Connectors.ZerodhaHttp

/-! # Failures of the HTTP transport

A fetch is meant to return a payload or raise a `ConnectorError`. What gets past its handlers are
the errors of the HTTP library other than timeouts and network errors, a retry delay with more digits
than `int` takes, a media type that `KitePayload` refuses, and a clock whose UTC value does not exist.
-/

namespace PortfolioManager.Connectors.Zerodha

open PortfolioManager.Python PortfolioManager.Domain PortfolioManager.Application Checked

namespace HttpxKiteTransport

variable {response : HttpResponse} {endpoint : KiteEndpoint}

/-- The declared length, if there is one, is a number from zero up to the limit. -/
def DeclaresFit (response : HttpResponse) (limit : ℕ) : Prop :=
  ∀ contentLength ∈ response.header "content-length", ∃ length : ℤ, toInt contentLength = .ok length ∧ 0 ≤ length ∧ length ≤ limit

/-- The retry delay is an ASCII decimal with more digits than `int` takes. -/
def OverlongDelay (response : HttpResponse) : Prop :=
  ∃ value ∈ response.header "retry-after", isAscii value = true ∧ isDecimal value = true ∧ maxDigits < value.length

theorem checkDeclaredLength_cases (response : HttpResponse) (limit : ℕ) :
    (DeclaresFit response limit ∧ checkDeclaredLength response limit = .ok ()) ∨
      (¬DeclaresFit response limit ∧ ∃ error, checkDeclaredLength response limit = .error (.own (.connector error))) := by
  unfold checkDeclaredLength DeclaresFit
  cases declared : response.header "content-length" with
  | none => simp
  | some contentLength =>
    simp only [Option.mem_def, Option.some.injEq, forall_eq']
    cases parsed : toInt contentLength with
    | error error => exact .inr ⟨by simp, exists_raiseHttp (by decide)⟩
    | ok length =>
      simp only
      split_ifs with outside
      · refine .inr ⟨?_, exists_raiseHttp (by decide)⟩
        rintro ⟨length', same, lower, upper⟩
        cases same
        omega
      · exact .inl ⟨⟨length, rfl, by omega, by omega⟩, rfl⟩

/-- The header asks for a delay: its digits denote that many seconds, from one to those of a day. -/
def AsksFor (response : HttpResponse) (micros : ℤ) : Prop :=
  ∃ value, response.header "retry-after" = some value ∧ IsDigits value ∧ 1 ≤ denoted value ∧ denoted value ≤ 86400 ∧
    micros = denoted value * 1000000

theorem AsksFor.positive {micros : ℤ} (asks : AsksFor response micros) : 0 < micros := by
  obtain ⟨value, _, _, lower, _, rfl⟩ := asks
  omega

/-- A delay of digits is parsed as the header asks for it, unless there are too many of them. -/
theorem retryAfter_of_digits {value : String} (present : response.header "retry-after" = some value) (digits : IsDigits value)
    (short : value.length ≤ maxDigits) :
    ∃ delay, retryAfter response = .ok delay ∧ ∀ micros, delay = some micros ↔ AsksFor response micros := by
  have both := isDigits_iff.mpr digits
  have parsed := toInt_of_digits digits
  rw [if_pos short] at parsed
  simp only [retryAfter, present, both.1, both.2, Bool.and_self, ↓reduceIte, parsed, ok_bind]
  split_ifs with ignored
  · refine ⟨none, rfl, fun micros => iff_of_false nofun ?_⟩
    rintro ⟨value', same, _, lower, upper, _⟩
    cases present.symm.trans same
    omega
  · refine ⟨some (denoted value * 1000000), rfl, fun micros => ?_⟩
    rw [Option.some.injEq]
    constructor
    · rintro rfl
      exact ⟨value, present, digits, by omega, by omega, rfl⟩
    · rintro ⟨value', same, _, _, _, rfl⟩
      cases present.symm.trans same
      rfl

theorem retryAfter_cases (response : HttpResponse) :
    (¬OverlongDelay response ∧ ∃ delay, retryAfter response = .ok delay ∧ ∀ micros, delay = some micros ↔ AsksFor response micros) ∨
      (OverlongDelay response ∧ ∃ error, retryAfter response = .error error) := by
  cases present : response.header "retry-after" with
  | none => exact .inl ⟨by simp [OverlongDelay, present], none, by simp [retryAfter, present], by simp [AsksFor, present]⟩
  | some value =>
    by_cases digits : IsDigits value
    · obtain ⟨ascii, decimal⟩ := isDigits_iff.mpr digits
      rcases le_or_gt value.length maxDigits with short | long
      · refine .inl ⟨?_, retryAfter_of_digits present digits short⟩
        rintro ⟨value', same, _, _, long⟩
        cases present.symm.trans same
        omega
      · have parsed := toInt_of_digits digits
        rw [if_neg (not_le.mpr long)] at parsed
        obtain ⟨message, parsed⟩ := parsed
        refine .inr ⟨⟨value, present, ascii, decimal, long⟩, .valueError message, ?_⟩
        simp only [retryAfter, present, ascii, decimal, Bool.and_self, ↓reduceIte, parsed, error_bind]
    · have other : ¬(isAscii value && isDecimal value) = true := by
        rw [Bool.and_eq_true, isDigits_iff]
        exact digits
      refine .inl ⟨?_, none, by simp only [retryAfter, present, if_neg other], fun micros => iff_of_false nofun ?_⟩
      · rintro ⟨value', same, ascii, decimal, _⟩
        cases present.symm.trans same
        exact digits (isDigits_iff.mp ⟨ascii, decimal⟩)
      · rintro ⟨value', same, digits', _⟩
        cases present.symm.trans same
        exact digits digits'

/-- A status other than success raises a `ConnectorError`, unless the delay of a rate limit is overlong. -/
theorem raiseForStatus_cases (response : HttpResponse) :
    (response.Succeeds ∧ raiseForStatus response = .ok ()) ∨
      (¬response.Succeeds ∧ (response.statusCode = 429 → ¬OverlongDelay response) ∧
        ∃ error, raiseForStatus response = .error (.own (.connector error))) ∨
      (¬response.Succeeds ∧ (response.statusCode = 429 ∧ OverlongDelay response) ∧
        ∃ error, raiseForStatus response = .error (.own (.builtin error))) := by
  unfold raiseForStatus HttpResponse.Succeeds
  dsimp only
  split_ifs with success denied limited
  · exact .inl ⟨success, rfl⟩
  · exact .inr (.inl ⟨success, by omega, exists_raiseHttp (by decide)⟩)
  · rcases retryAfter_cases response with ⟨short, delay, computed, asked⟩ | ⟨long, error, failed⟩
    · refine .inr (.inl ⟨success, fun _ => short, ?_⟩)
      have positive : ∀ micros ∈ delay, 0 < micros := fun micros present => ((asked micros).mp present).positive
      have passed : (lift (retryAfter response)).mapError HttpRaised.own = .ok delay := by
        rw [computed]
        rfl
      have raised := @raiseConnectorError_eq Unit .rateLimit "provider.rate_limit" delay (by decide) positive
      simp only [passed, ok_bind, raised]
      exact ⟨_, rfl⟩
    · refine .inr (.inr ⟨success, ⟨limited, long⟩, error, ?_⟩)
      have passed : (lift (retryAfter response)).mapError HttpRaised.own = .error (.own (.builtin error)) := by
        rw [failed]
        rfl
      simp only [passed, error_bind]
  all_goals exact .inr (.inl ⟨success, by omega, exists_raiseHttp (by decide)⟩)

/-! ## What a fetch raises -/

/-- What the outcome of an exchange must be like for a fetch to return a payload or raise a `ConnectorError`. -/
def Handled (endpoint : KiteEndpoint) : HttpOutcome → Prop
  | .error error => (HttpRaised.request error).isHandled = true
  | .ok response =>
      (response.statusCode = 429 → ¬OverlongDelay response) ∧
        (response.Succeeds → DeclaresFit response (maxBytes endpoint) → response.body.length ≤ maxBytes endpoint →
          (∀ error ∈ response.interruption, (HttpRaised.request error).isHandled = true) ∧
            (response.interruption = none → response.body ≠ [] → isTrimmed (mediaType response) = true))

theorem raiseForStatus_eq_ok_iff : raiseForStatus response = .ok () ↔ response.Succeeds := by
  rcases raiseForStatus_cases response with ⟨success, outcome⟩ | ⟨failure, _, error, outcome⟩ | ⟨failure, _, error, outcome⟩
  · exact iff_of_true outcome success
  · exact iff_of_false (outcome ▸ nofun) failure
  · exact iff_of_false (outcome ▸ nofun) failure

theorem raises_raiseForStatus_iff :
    Raises (raiseForStatus response) (fun raised => raised.isHandled = true) ↔
      (response.statusCode = 429 → ¬OverlongDelay response) := by
  rcases raiseForStatus_cases response with ⟨success, outcome⟩ | ⟨_, short, error, outcome⟩ | ⟨_, long, error, outcome⟩
  · rw [outcome]
    exact iff_of_true (raises_ok ()) fun limited => by have below := success.2; omega
  · rw [outcome, raises_error_iff]
    exact iff_of_true rfl short
  · rw [outcome, raises_error_iff]
    exact iff_of_false Bool.false_ne_true fun short => short long.1 long.2

theorem checkDeclaredLength_eq_ok_iff {limit : ℕ} : checkDeclaredLength response limit = .ok () ↔ DeclaresFit response limit := by
  rcases checkDeclaredLength_cases response limit with ⟨fits, outcome⟩ | ⟨exceeds, error, outcome⟩
  · exact iff_of_true outcome fits
  · exact iff_of_false (outcome ▸ nofun) exceeds

theorem raises_checkDeclaredLength (response : HttpResponse) (limit : ℕ) :
    Raises (checkDeclaredLength response limit) fun raised => raised.isHandled = true := by
  rcases checkDeclaredLength_cases response limit with ⟨_, outcome⟩ | ⟨_, error, outcome⟩
  · exact outcome ▸ raises_ok ()
  · exact outcome ▸ raises_error_iff.mpr rfl

theorem download_eq_ok_iff {body : Bytes} {media : String} :
    download endpoint (.ok response) = .ok (body, media) ↔
      response.Succeeds ∧ DeclaresFit response (maxBytes endpoint) ∧ response.body.length ≤ maxBytes endpoint ∧
        response.interruption = none ∧ body = response.body ∧ media = mediaType response := by
  change (raiseForStatus response >>= fun _ => readBounded response (maxBytes endpoint) >>= fun body =>
    pure (body, mediaType response)) = _ ↔ _
  simp only [readBounded, bind_eq_ok_iff, pure_eq_ok_iff, readChunks_eq_ok_iff, Prod.mk.injEq]
  constructor
  · rintro ⟨_, success, read, ⟨_, declared, short, whole, rfl⟩, rfl, rfl⟩
    exact ⟨raiseForStatus_eq_ok_iff.mp success, checkDeclaredLength_eq_ok_iff.mp declared, short, whole, rfl, rfl⟩
  · rintro ⟨success, declared, short, whole, rfl, rfl⟩
    exact ⟨(), raiseForStatus_eq_ok_iff.mpr success, response.body,
      ⟨(), checkDeclaredLength_eq_ok_iff.mpr declared, short, whole, rfl⟩, rfl, rfl⟩

theorem raises_download_iff :
    Raises (download endpoint (.ok response)) (fun raised => raised.isHandled = true) ↔
      (response.statusCode = 429 → ¬OverlongDelay response) ∧
        (response.Succeeds → DeclaresFit response (maxBytes endpoint) → response.body.length ≤ maxBytes endpoint →
          ∀ error ∈ response.interruption, (HttpRaised.request error).isHandled = true) := by
  change Raises (raiseForStatus response >>= fun _ => (checkDeclaredLength response (maxBytes endpoint) >>= fun _ =>
    readChunks (maxBytes endpoint) response.interruption 0 [] response.chunks) >>= fun body =>
    pure (body, mediaType response)) _ ↔ _
  rw [raises_bind_iff, raises_raiseForStatus_iff]
  refine and_congr_right fun _ => ?_
  simp only [raises_bind_iff, raises_checkDeclaredLength, raises_readChunks_iff, raises_pure, implies_true, and_true, true_and]
  constructor
  · intro each success declared
    exact each () (raiseForStatus_eq_ok_iff.mpr success) () (checkDeclaredLength_eq_ok_iff.mpr declared)
  · intro each _ success _ declared
    exact each (raiseForStatus_eq_ok_iff.mp success) (checkDeclaredLength_eq_ok_iff.mp declared)

/-- `KitePayload` refuses only what its two checks refuse. -/
theorem raises_newPayload_iff {body : Bytes} {media : String} (present : body ≠ []) :
    Raises ((lift (KitePayload.new body media none)).mapError HttpRaised.own) (fun raised => raised.isTyped = true) ↔
      isTrimmed media = true := by
  by_cases trimmed : isTrimmed media = true
  · have built : KitePayload.new body media none = .ok ⟨body, media, none, present, trimmed⟩ := by
      simp only [KitePayload.new, check_of _ present, check_of _ trimmed, ok_bind]
      rfl
    rw [built]
    exact iff_of_true (raises_ok _) trimmed
  · have refused : KitePayload.new body media none =
        .error (.valueError "Kite payload media type must be non-empty and trimmed") := by
      simp only [KitePayload.new, check_of _ present, check_of_not _ trimmed, ok_bind, error_bind]
    rw [refused]
    exact iff_of_false (fun raises => Bool.false_ne_true (raises _ rfl)) trimmed

theorem raises_receive_iff {outcome : HttpOutcome} :
    Raises (receive endpoint outcome) (fun raised => raised.isTyped = true) ↔ Handled endpoint outcome := by
  unfold receive
  rw [raises_bind_iff, raises_translate_iff]
  cases outcome with
  | error error =>
    have failed : download endpoint (.error error) = .error (.request error) := rfl
    simp only [translate_eq_ok_iff, failed, raises_error_iff, Handled, reduceCtorEq, false_implies, implies_true, and_true]
  | ok response =>
    rw [raises_download_iff]
    simp only [translate_eq_ok_iff, Prod.forall, download_eq_ok_iff, Handled]
    constructor
    · rintro ⟨⟨delay, broken⟩, rest⟩
      refine ⟨delay, fun success fits short => ⟨broken success fits short, fun whole present => ?_⟩⟩
      have typed := rest response.body (mediaType response) ⟨success, fits, short, whole, rfl, rfl⟩
      rw [if_neg present] at typed
      exact (raises_newPayload_iff present).mp typed
    · rintro ⟨delay, rest⟩
      refine ⟨⟨delay, fun success fits short => (rest success fits short).1⟩, ?_⟩
      rintro body media ⟨success, fits, short, whole, rfl, rfl⟩
      split_ifs with empty
      · exact raises_raiseHttp (by decide) fun _ => rfl
      · exact (raises_newPayload_iff empty).mpr ((rest success fits short).2 whole empty)

/-- A computation that raises `ConnectorError`s only returns or raises one. -/
theorem raises_isTyped_iff {α : Type} {computation : Except HttpRaised α} :
    Raises computation (fun raised => raised.isTyped = true) ↔
      (∃ value, computation = .ok value) ∨ ∃ error, computation = .error (.own (.connector error)) := by
  cases computation with
  | ok value => simp
  | error raised =>
    rw [raises_error_iff]
    simp [HttpRaised.isTyped_iff]

/-- A fetch returns a payload or raises a `ConnectorError` exactly when the clock can be compared with the
expiry, if that is asked, and the outcome of the exchange is a handled one, if there is an exchange. -/
theorem fetch_typed_iff (session : KiteSession) (reading : Datetime) (endpoint : KiteEndpoint) (outcome : HttpOutcome) :
    ((∃ payload, (fetch session reading endpoint outcome).1 = .ok payload) ∨
      ∃ error, (fetch session reading endpoint outcome).1 = .error (.own (.connector error))) ↔
      (session.accessToken ≠ none → session.expiresAt ≠ none → reading.Convertible) ∧
        (Live session reading → Handled endpoint outcome) := by
  rw [← raises_isTyped_iff]
  rcases gate_cases session reading with live | missing | ⟨present, expiresAt, expiry, ⟨now, read, late⟩ | ⟨error, unread⟩⟩
  · obtain ⟨accessToken, _, fetched⟩ := @fetch_of_live session reading endpoint outcome live
    rw [fetched, raises_receive_iff]
    refine ⟨fun handled => ⟨fun _ expires => ?_, fun _ => handled⟩, fun conditions => conditions.2 live⟩
    obtain ⟨expiresAt, expiry⟩ := Option.ne_none_iff_exists'.mp expires
    obtain ⟨now, read, _⟩ := live.2 expiresAt expiry
    exact (exists_asUtc_iff _).mp ⟨now, read⟩
  · rw [fetch_of_missing missing]
    dsimp only
    refine iff_of_true ?_ ⟨fun present => absurd missing present, fun live => absurd missing live.1⟩
    exact raises_raiseHttp (by decide) fun _ => rfl
  · rw [fetch_of_expired present expiry read late]
    dsimp only
    refine iff_of_true ?_ ⟨fun _ _ => (exists_asUtc_iff _).mp ⟨now, read⟩, ?_⟩
    · exact raises_raiseHttp (by decide) fun _ => rfl
    · rintro ⟨_, early⟩
      obtain ⟨now', read', before⟩ := early expiresAt expiry
      cases read.symm.trans read'
      exact absurd late (not_le.mpr before)
  · rw [fetch_of_unreadable present expiry unread, raises_error_iff]
    refine iff_of_false Bool.false_ne_true fun conditions => ?_
    obtain ⟨now, read⟩ := (exists_asUtc_iff "clock value").mpr (conditions.1 present (by simp [expiry]))
    rw [unread] at read
    contradiction

def sampleKiteSession : KiteSession where
  apiKey := "synthetic-api-key"
  accessToken := some "synthetic-token"
  expiresAt := none
  apiKeyed := by decide
  tokenShape := by decide

def sampleClock : Datetime := ({ micros := 63921880800000000 } : Instant).toDatetime

/-- A successful response with one chunk, a given media type, and a given end. -/
def sampleResponse (mediaType : String) (interruption : Option RequestError) : HttpResponse where
  statusCode := 200
  header name := if name = "content-type" then some mediaType else none
  chunks := [encodeAscii "data"]
  interruption := interruption

/-- A blank media type and a connection that the peer closes in the middle of the body get past the handlers. -/
theorem fetch_escapes :
    (fetch sampleKiteSession sampleClock .holdings (.ok (sampleResponse "" none))).1 =
        .error (.own (.builtin (.valueError "Kite payload media type must be non-empty and trimmed"))) ∧
      (fetch sampleKiteSession sampleClock .holdings (.ok (sampleResponse "application/json" (some .protocol)))).1 =
        .error (.request .protocol) :=
  ⟨rfl, rfl⟩

end HttpxKiteTransport

end PortfolioManager.Connectors.Zerodha
