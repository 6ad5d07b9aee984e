import PortfolioManager.Connectors.ZerodhaHttpFailures
import PortfolioManager.Connectors.ZerodhaToken
import PortfolioManager.Library.BoundedBuffer

/-! # Limits on what a provider sends

The two readers of a response fill a bounded buffer with the chunks of its body: each chunk is pulled
once, in order, and the first that takes the total beyond the limit is the last. The delay that a
rate-limited response asks for is read exactly, up to the number of digits that `int` takes.
-/

namespace PortfolioManager.Connectors.Zerodha

open PortfolioManager.Python PortfolioManager.Domain PortfolioManager.Application Checked

/-! ## Bounded reading -/

/-- The state of the loop over the chunks of a body: those read so far and their size. -/
abbrev ChunkBuffer (limit : ℕ) := BoundedBuffer (α := Bytes) List.length limit

variable {limit : ℕ} {interruption : Option RequestError}

theorem totalWeight_length (chunks : List Bytes) : totalWeight List.length chunks = chunks.flatten.length := by
  induction chunks with
  | nil => rfl
  | cons chunk rest ih => rw [totalWeight_cons, ih, List.flatten_cons, List.length_append]

theorem ChunkBuffer.size_eq (buffer : ChunkBuffer limit) : buffer.size = buffer.items.flatten.length := by
  rw [buffer.sized, totalWeight_length]

/-- One turn of the loop offers its chunk to the buffer. -/
theorem readChunks_cons (buffer : ChunkBuffer limit) (chunk : Bytes) (rest : List Bytes) :
    readChunks limit interruption buffer.size buffer.items (chunk :: rest) =
      if (BoundedBuffer.offer buffer chunk).1 then raiseHttp .permanent "provider.response_too_large"
      else readChunks limit interruption (BoundedBuffer.offer buffer chunk).2.size (BoundedBuffer.offer buffer chunk).2.items rest := by
  rw [readChunks]
  rcases le_or_gt (buffer.size + chunk.length) limit with within | beyond
  · obtain ⟨accepted, items, size⟩ := BoundedBuffer.offer_of_within within
    rw [if_neg (not_lt.mpr within), accepted, items, size]
    rfl
  · rw [if_pos beyond, BoundedBuffer.offer_of_beyond beyond]
    rfl

/-- The loop fills its buffer, and returns what the buffer holds unless a chunk is refused or the stream breaks off. -/
theorem readChunks_eq_fill (buffer : ChunkBuffer limit) (rest : List Bytes) :
    readChunks limit interruption buffer.size buffer.items rest =
      if buffer.refuses rest then raiseHttp .permanent "provider.response_too_large"
      else
        match interruption with
        | none => .ok (buffer.fill rest).2.items.flatten
        | some error => .error (.request error) := by
  induction rest generalizing buffer with
  | nil => cases interruption <;> rfl
  | cons chunk rest ih =>
    rw [readChunks_cons, BoundedBuffer.refuses]
    rcases le_or_gt (buffer.size + chunk.length) limit with within | beyond
    · rw [BoundedBuffer.fill_cons_of_within within, (BoundedBuffer.offer_of_within within).1]
      exact ih _
    · rw [BoundedBuffer.fill_cons_of_beyond beyond, BoundedBuffer.offer_of_beyond beyond]
      rfl

namespace HttpxKiteTransport

variable {response : HttpResponse}

/-- The chunks that `_read_bounded` pulls from a response; a rejected header leaves the body unread. -/
def pulledChunks (response : HttpResponse) (limit : ℕ) : List Bytes :=
  match checkDeclaredLength response limit with
  | .error _ => []
  | .ok _ => (BoundedBuffer.empty : ChunkBuffer limit).pulled response.chunks

/-- What the loop of `_read_bounded` retains of the chunks that have arrived. -/
def retainedChunks (limit : ℕ) (arrived : List Bytes) : List Bytes :=
  ((BoundedBuffer.empty : ChunkBuffer limit).fill arrived).2.items

/-- The reader goes through all chunks, or up to the first that takes the total beyond the limit. -/
inductive PullsUntilBeyond (response : HttpResponse) (limit : ℕ) : Prop
  | whole (short : response.body.length ≤ limit) (pulled : pulledChunks response limit = response.chunks)
      (retained : retainedChunks limit response.chunks = response.chunks)
  | stopped (taken : List Bytes) (chunk : Bytes) (later : List Bytes) (split : response.chunks = taken ++ chunk :: later)
      (within : taken.flatten.length ≤ limit) (beyond : limit < (taken ++ [chunk]).flatten.length)
      (pulled : pulledChunks response limit = taken ++ [chunk]) (retained : retainedChunks limit response.chunks = taken)
      (raised : readBounded response limit = raiseHttp .permanent "provider.response_too_large")
      (blind : ∀ other, readBounded { response with chunks := taken ++ chunk :: other } limit = readBounded response limit)

theorem readBounded_of_fits (fits : DeclaresFit response limit) :
    readBounded response limit = readChunks limit response.interruption 0 [] response.chunks := by
  rw [readBounded, checkDeclaredLength_eq_ok_iff.mpr fits, ok_bind]

theorem readBounded_eq_ok_iff {body : Bytes} :
    readBounded response limit = .ok body ↔ DeclaresFit response limit ∧ response.body.length ≤ limit ∧
      response.interruption = none ∧ body = response.body := by
  simp only [readBounded, bind_eq_ok_iff, readChunks_eq_ok_iff]
  constructor
  · rintro ⟨_, fits, rest⟩
    exact ⟨checkDeclaredLength_eq_ok_iff.mp fits, rest⟩
  · rintro ⟨fits, rest⟩
    exact ⟨(), checkDeclaredLength_eq_ok_iff.mpr fits, rest⟩

/-- A body that ends normally is returned or raises a `ConnectorError`. -/
theorem raises_readBounded (whole : response.interruption = none) :
    Raises (readBounded response limit) fun raised => ∃ error, raised = .own (.connector error) := by
  refine Raises.bind ?_ fun _ _ => ?_
  · rcases checkDeclaredLength_cases response limit with ⟨_, passed⟩ | ⟨_, error, rejected⟩
    · exact passed ▸ raises_ok ()
    · exact rejected ▸ raises_error_iff.mpr ⟨error, rfl⟩
  · rw [readChunks_eq (Nat.zero_le limit), whole]
    split_ifs with beyond
    · exact raises_raiseHttp (by decide) fun error => ⟨error, rfl⟩
    · exact raises_ok _

theorem pulledChunks_of_misfit (misfit : ¬DeclaresFit response limit) : pulledChunks response limit = [] := by
  rcases checkDeclaredLength_cases response limit with ⟨fits, _⟩ | ⟨_, error, rejected⟩
  · exact absurd fits misfit
  · rw [pulledChunks, rejected]

/-- Chunks that take the total beyond the limit are rejected, whatever comes after them. -/
theorem readBounded_of_beyond (fits : DeclaresFit response limit) {taken later : List Bytes} {chunk : Bytes}
    (split : response.chunks = taken ++ chunk :: later) (beyond : limit < (taken ++ [chunk]).flatten.length) :
    readBounded response limit = raiseHttp .permanent "provider.response_too_large" := by
  have refused : (BoundedBuffer.empty : ChunkBuffer limit).refuses (taken ++ [chunk]) = true := by
    rw [← Bool.not_eq_false, BoundedBuffer.refuses_eq_false_iff, totalWeight_length, BoundedBuffer.empty]
    omega
  have filled := BoundedBuffer.fill_append_of_refuses refused later
  rw [List.append_assoc, List.singleton_append, ← split] at filled
  have outcome := @readChunks_eq_fill limit response.interruption BoundedBuffer.empty response.chunks
  rw [BoundedBuffer.refuses, filled, ← BoundedBuffer.refuses, refused] at outcome
  exact (readBounded_of_fits fits).trans outcome

theorem pullsUntilBeyond (fits : DeclaresFit response limit) : PullsUntilBeyond response limit := by
  have pulled : pulledChunks response limit = (BoundedBuffer.empty : ChunkBuffer limit).pulled response.chunks := by
    rw [pulledChunks, checkDeclaredLength_eq_ok_iff.mpr fits]
  rcases BoundedBuffer.fill_cases (BoundedBuffer.empty : ChunkBuffer limit) response.chunks with
    ⟨total, _, all, kept⟩ | ⟨taken, chunk, later, split, within, beyond, _, some, kept⟩
  · refine .whole ?_ (pulled.trans all) kept
    simpa only [HttpResponse.body, totalWeight_length, BoundedBuffer.empty, Nat.zero_add] using total
  · simp only [totalWeight_length, BoundedBuffer.empty, Nat.zero_add] at within beyond
    have raised := readBounded_of_beyond fits split beyond
    refine .stopped taken chunk later split within beyond (pulled.trans some) kept raised fun other => ?_
    rw [raised]
    exact @readBounded_of_beyond limit { response with chunks := taken ++ chunk :: other } fits taken other chunk rfl beyond

/-- Bounded reading returns the whole body exactly when the declared length and the chunks are within the
limit, raises a `ConnectorError` otherwise, pulls no chunk after the first that takes the total beyond the
limit, retains no more than the limit at any time, and agrees with the reader of the token exchange. -/
theorem readBounded_exact (response : HttpResponse) (limit : ℕ) :
    (∀ body, readBounded response limit = .ok body ↔ DeclaresFit response limit ∧ response.body.length ≤ limit ∧
        response.interruption = none ∧ body = response.body) ∧
      (response.interruption = none → ∀ raised, readBounded response limit = .error raised →
        ∃ error, raised = .own (.connector error)) ∧
      (¬DeclaresFit response limit → pulledChunks response limit = []) ∧
      (DeclaresFit response limit → PullsUntilBeyond response limit) ∧
      (∀ arrived, (retainedChunks limit arrived).flatten.length ≤ limit) ∧
      (response.header "content-length" = none →
        readBounded response maxAuthResponseBytes = HttpxKiteTokenExchanger.readBounded response) := by
  refine ⟨fun body => readBounded_eq_ok_iff, fun whole raised failed => ?_, pulledChunks_of_misfit, pullsUntilBeyond, ?_, ?_⟩
  · exact raises_readBounded whole raised failed
  · intro arrived
    have within := ((BoundedBuffer.empty : ChunkBuffer limit).fill arrived).2.within
    rwa [ChunkBuffer.size_eq] at within
  · intro undeclared
    apply readBounded_of_fits
    intro contentLength declared
    rw [undeclared] at declared
    contradiction

/-! ## The delay of a rate limit -/

/-- The response raises the `ConnectorError` of a rate limit, with the delay its header asks for and no other. -/
def DelayExact (response : HttpResponse) : Prop :=
  ∃ error, raiseForStatus response = .error (.own (.connector error)) ∧ error.kind = .rateLimit ∧
    error.reasonCode = "provider.rate_limit" ∧ ∀ micros, error.retryAfter = some micros ↔ AsksFor response micros

/-- A delay that was read becomes that of the error; what reading it raises is raised. -/
theorem raiseForStatus_of_rateLimit (limited : response.statusCode = 429) :
    raiseForStatus response =
      ((lift (retryAfter response)).mapError .own >>= fun delay =>
        (raiseConnectorError .rateLimit "provider.rate_limit" delay).mapError .own) := by
  simp only [raiseForStatus, limited]
  rfl

/-- A rate limit is reported exactly unless its delay has more digits than `int` takes. -/
theorem delayExact_iff (limited : response.statusCode = 429) : DelayExact response ↔ ¬OverlongDelay response := by
  rw [DelayExact, raiseForStatus_of_rateLimit limited]
  rcases retryAfter_cases response with ⟨short, delay, computed, asked⟩ | ⟨long, error, failed⟩
  · refine iff_of_true ?_ short
    have positive : ∀ micros ∈ delay, 0 < micros := fun micros present => ((asked micros).mp present).positive
    rw [computed]
    change ∃ error, (raiseConnectorError .rateLimit "provider.rate_limit" delay).mapError HttpRaised.own = _ ∧ _
    rw [raiseConnectorError_eq (by decide) positive]
    exact ⟨_, rfl, rfl, rfl, asked⟩
  · refine iff_of_false ?_ (not_not_intro long)
    rw [failed]
    rintro ⟨_, raised, _⟩
    cases raised

/-- A rate limit with a given delay. -/
def rateLimited (delay : String) : HttpResponse where
  statusCode := 429
  header name := if name = "retry-after" then some delay else none
  chunks := []
  interruption := none

theorem delayExact_sample : ¬OverlongDelay (rateLimited "00120") ∧ DelayExact (rateLimited "00120") := by
  have short : ¬OverlongDelay (rateLimited "00120") := by
    rintro ⟨value, present, _, _, long⟩
    cases present
    revert long
    decide
  exact ⟨short, (delayExact_iff rfl).mpr short⟩

/-- One second, written with leading zeros. -/
def paddedSecond (zeros : ℕ) : String := String.ofList (List.replicate zeros '0' ++ ['1'])

theorem isDigits_paddedSecond (zeros : ℕ) : IsDigits (paddedSecond zeros) := by
  constructor
  · intro empty
    have nonempty := congrArg String.toList empty
    rw [paddedSecond, String.toList_ofList] at nonempty
    simp at nonempty
  · intro character member
    rw [paddedSecond, String.toList_ofList, List.mem_append] at member
    rcases member with zero | one
    · rw [List.eq_of_mem_replicate zero]
      decide
    · rw [List.mem_singleton.mp one]
      decide

theorem denoted_paddedSecond (zeros : ℕ) : denoted (paddedSecond zeros) = 1 := by
  have digits : (List.replicate zeros '0' ++ ['1']).reverse.map (fun character => character.toNat - 48) =
      [1] ++ List.replicate zeros 0 := by
    rw [List.reverse_append, List.reverse_replicate, List.map_append, List.map_replicate]
    rfl
  rw [denoted, paddedSecond, String.toList_ofList, digits, Nat.ofDigits_append_replicate_zero]
  rfl

theorem length_paddedSecond (zeros : ℕ) : (paddedSecond zeros).length = zeros + 1 := by
  rw [paddedSecond, ← String.length_toList, String.toList_ofList, List.length_append, List.length_replicate, List.length_singleton]

theorem asksFor_paddedSecond (zeros : ℕ) : AsksFor (rateLimited (paddedSecond zeros)) 1000000 := by
  refine ⟨paddedSecond zeros, rfl, isDigits_paddedSecond zeros, ?_⟩
  rw [denoted_paddedSecond]
  decide

theorem overlongDelay_paddedSecond {zeros : ℕ} (many : maxDigits ≤ zeros) : OverlongDelay (rateLimited (paddedSecond zeros)) := by
  obtain ⟨ascii, decimal⟩ := isDigits_iff.mpr (isDigits_paddedSecond zeros)
  refine ⟨paddedSecond zeros, rfl, ascii, decimal, ?_⟩
  rw [length_paddedSecond]
  omega

/-- With 4300 leading zeros the header asks for one second, and no `ConnectorError` is raised. -/
theorem paddedSecond_escapes :
    AsksFor (rateLimited (paddedSecond 4300)) 1000000 ∧
      ∀ error, raiseForStatus (rateLimited (paddedSecond 4300)) ≠ .error (.own (.connector error)) := by
  refine ⟨asksFor_paddedSecond 4300, fun error raised => ?_⟩
  have long : OverlongDelay (rateLimited (paddedSecond 4300)) := overlongDelay_paddedSecond (le_refl maxDigits)
  rcases raiseForStatus_cases (rateLimited (paddedSecond 4300)) with ⟨success, _⟩ | ⟨_, short, _⟩ | ⟨_, _, error', escaped⟩
  · exact absurd success.2 (by decide)
  · exact short rfl long
  · rw [escaped] at raised
    cases raised

end HttpxKiteTransport

end PortfolioManager.Connectors.Zerodha
