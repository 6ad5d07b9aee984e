import PortfolioManager.Connectors.ZerodhaAuthSafety

/-! # Effects of a login on the nonce store

A `start` adds its own entry or nothing, and a `complete` removes the entry of its state or nothing, on
every path through either. What a `complete` has removed stays away until its digest is issued again.
-/

namespace PortfolioManager.Connectors.Zerodha.KiteAuthorizationService

open PortfolioManager.Python PortfolioManager.Domain PortfolioManager.Application Checked Transcript

variable {S τ : Type*} {store : KiteNonceStore S} {pending : S → String → Option PendingKiteAuthorization}

/-! ## Other calls of the store -/

inductive StoreCall where
  | issue (authorization : PendingKiteAuthorization)
  | consume (digest : String)

/-- The state of the store after a call of its port. -/
def StoreCall.perform (store : KiteNonceStore S) (state : S) : StoreCall → S
  | issue authorization => (store.issue authorization state).2
  | consume digest => (store.consume digest state).2

/-- The call issues an entry under a digest. -/
def StoreCall.Issues (digest : String) : StoreCall → Prop
  | issue authorization => authorization.nonceDigest = digest
  | consume _ => False

/-- The call consumes a digest. -/
def StoreCall.Consumes (digest : String) : StoreCall → Prop
  | issue _ => False
  | consume consumed => consumed = digest

/-- The state of the store after several calls of its port. -/
def performAll (store : KiteNonceStore S) (calls : List StoreCall) (state : S) : S :=
  calls.foldl (StoreCall.perform store) state

/-- An issue leaves every other digest as it is. -/
theorem pending_issue_of_ne (contract : store.Contract pending) {authorization : PendingKiteAuthorization} {digest : String}
    (other : authorization.nonceDigest ≠ digest) (state : S) :
    pending (store.issue authorization state).2 digest = pending state digest := by
  cases answer : (store.issue authorization state).1 with
  | error raised => rw [contract.refused authorization state raised answer]
  | ok _ => rw [(contract.issued authorization state answer).2, Function.update_of_ne other.symm]

/-- An issue keeps an entry that is pending, under any digest. -/
theorem pending_issue_of_some (contract : store.Contract pending) {authorization entry : PendingKiteAuthorization}
    {digest : String} {state : S} (present : pending state digest = some entry) :
    pending (store.issue authorization state).2 digest = some entry := by
  cases answer : (store.issue authorization state).1 with
  | error raised => rw [contract.refused authorization state raised answer, present]
  | ok _ =>
    obtain ⟨free, added⟩ := contract.issued authorization state answer
    have other : digest ≠ authorization.nonceDigest := by
      rintro rfl
      rw [free] at present
      contradiction
    rw [added, Function.update_of_ne other, present]

theorem pending_performAll_of_none (contract : store.Contract pending) {calls : List StoreCall} {digest : String} {state : S}
    (free : pending state digest = none) (quiet : ∀ call ∈ calls, ¬call.Issues digest) :
    pending (performAll store calls state) digest = none := by
  induction calls generalizing state with
  | nil => exact free
  | cons call rest ih =>
    rw [List.forall_mem_cons] at quiet
    apply ih _ quiet.2
    cases call with
    | issue authorization => exact (pending_issue_of_ne contract quiet.1 state).trans free
    | consume consumed =>
      rw [StoreCall.perform, (contract.consumed consumed state).2, Function.update_apply, free, ite_self]

theorem pending_performAll_of_some (contract : store.Contract pending) {calls : List StoreCall} {digest : String} {state : S}
    {entry : PendingKiteAuthorization} (present : pending state digest = some entry)
    (kept : ∀ call ∈ calls, ¬call.Consumes digest) : pending (performAll store calls state) digest = some entry := by
  induction calls generalizing state with
  | nil => exact present
  | cons call rest ih =>
    rw [List.forall_mem_cons] at kept
    apply ih _ kept.2
    cases call with
    | issue authorization => exact pending_issue_of_some contract present
    | consume consumed =>
      rw [StoreCall.perform, (contract.consumed consumed state).2, Function.update_of_ne (Ne.symm kept.1), present]

/-! ## The effect of `start` -/

def StartRequest.WellFormed (request : StartRequest) : Prop :=
  isCredential request.apiKey = true ∧ isNonce request.nonce = true

/-- The clock shows an instant, and so does a clock five minutes later. -/
def Dates (reading : Datetime) (now expiresAt : Instant) : Prop :=
  asUtc reading "clock value" = .ok now ∧ expiresAt.micros = now.micros + nonceTtl

theorem validateNonce_eq_ok_iff {nonce : String} : validateNonce nonce = .ok () ↔ isNonce nonce = true := by
  unfold validateNonce
  split_ifs with shaped
  · exact iff_of_true rfl shaped
  · exact iff_of_false raiseConnectorError_ne_ok shaped

theorem validateCredential_eq_ok_iff {value name : String} :
    validateCredential value name = .ok () ↔ isCredential value = true := by
  rw [validateCredential, check_bind_eq_ok_iff]
  constructor
  · rintro ⟨shaped, _⟩
    exact shaped
  · intro shaped
    exact ⟨shaped, rfl⟩

theorem validateStart_eq_ok_iff {request : StartRequest} : validateStart request = .ok () ↔ request.WellFormed := by
  simp only [validateStart, bind_eq_ok_iff, validateNonce_eq_ok_iff]
  constructor
  · rintro ⟨_, keyed, shaped⟩
    exact ⟨validateCredential_eq_ok_iff.mp keyed, shaped⟩
  · rintro ⟨keyed, shaped⟩
    exact ⟨(), validateCredential_eq_ok_iff.mpr keyed, shaped⟩

/-- What a start does to the entries pending in the store. -/
structure StartEffect (store : KiteNonceStore S) (pending : S → String → Option PendingKiteAuthorization) (reading : Datetime)
    (request : StartRequest) (state : S) : Prop where
  unchanged : ¬request.WellFormed ∨ (¬∃ now expiresAt, Dates reading now expiresAt) ∨
      pending state (digest request.nonce) ≠ none →
    pending (start store reading request state).2 = pending state
  added : request.WellFormed → (∃ now expiresAt, Dates reading now expiresAt) → pending state (digest request.nonce) = none →
    ∃ now authorization, asUtc reading "clock value" = .ok now ∧ Authorizes request now authorization ∧
      (start store reading request state).1 = .ok ⟨loginUrl request.apiKey request.nonce, authorization.expiresAt⟩ ∧
      pending (start store reading request state).2 =
        Function.update (pending state) (digest request.nonce) (some authorization)

/-- The store takes every entry whose digest is not pending. -/
def Accepting (store : KiteNonceStore S) (pending : S → String → Option PendingKiteAuthorization) : Prop :=
  ∀ authorization state, pending state authorization.nonceDigest = none → (store.issue authorization state).1 = .ok ()

/-- A start either stops before it reaches the store or issues the entry it has built. -/
theorem start_cases (store : KiteNonceStore S) (reading : Datetime) (request : StartRequest) (state : S) :
    ((¬request.WellFormed ∨ ¬∃ now expiresAt, Dates reading now expiresAt) ∧ (start store reading request state).2 = state) ∨
      (request.WellFormed ∧ ∃ now authorization, asUtc reading "clock value" = .ok now ∧ Authorizes request now authorization ∧
        start store reading request state =
          ((store.issue authorization state).1.map fun _ => ⟨loginUrl request.apiKey request.nonce, authorization.expiresAt⟩,
            (store.issue authorization state).2)) := by
  unfold start
  cases validated : validateStart request with
  | error raised =>
    refine .inl ⟨.inl fun wellFormed => ?_, rfl⟩
    rw [validateStart_eq_ok_iff.mpr wellFormed] at validated
    contradiction
  | ok _ =>
    cases made : authorize request reading with
    | error raised =>
      refine .inl ⟨.inr ?_, rfl⟩
      rintro ⟨now, expiresAt, read, expiry⟩
      rw [authorize_of_reading read (Instant.add_eq_ok_iff.mpr expiry)] at made
      contradiction
    | ok timed =>
      obtain ⟨now, authorization⟩ := timed
      obtain ⟨read, authorizes⟩ := authorize_eq_ok_iff.mp made
      refine .inr ⟨validateStart_eq_ok_iff.mp validated, now, authorization, read, authorizes, ?_⟩
      dsimp only
      cases answered : store.issue authorization state with
      | mk outcome next => cases outcome <;> rfl

theorem start_effect (contract : store.Contract pending) (accepting : Accepting store pending) (reading : Datetime)
    (request : StartRequest) (state : S) : StartEffect store pending reading request state := by
  rcases start_cases store reading request state with
    ⟨stopped, same⟩ | ⟨wellFormed, now, authorization, read, authorizes, started⟩
  · refine ⟨fun _ => by rw [same], fun wellFormed dated _ => ?_⟩
    rcases stopped with malformed | undated
    · exact absurd wellFormed malformed
    · exact absurd dated undated
  · have dated : ∃ now expiresAt, Dates reading now expiresAt := ⟨now, authorization.expiresAt, read, authorizes.expiry⟩
    constructor
    · rintro (malformed | undated | taken)
      · exact absurd wellFormed malformed
      · exact absurd dated undated
      · rw [started]
        rw [← authorizes.nonce] at taken
        cases answer : (store.issue authorization state).1 with
        | error raised => exact contract.refused authorization state raised answer
        | ok _ => exact absurd (contract.issued authorization state answer).1 taken
    · intro _ _ free
      rw [started]
      rw [← authorizes.nonce] at free ⊢
      have answer := accepting authorization state free
      refine ⟨now, authorization, read, authorizes, ?_, (contract.issued authorization state answer).2⟩
      simp only [answer, Except.map]

/-! ## The effect of `complete` -/

def CompleteRequest.WellFormed (request : CompleteRequest) : Prop :=
  isNonce request.state = true ∧ isCredential request.requestToken = true

/-- The entry of the state is pending, and the clock shows a time before its expiry. -/
def Unexpired (pending : S → String → Option PendingKiteAuthorization) (reading : Datetime) (request : CompleteRequest)
    (state : S) : Prop :=
  ∃ authorization now, pending state (digest request.state) = some authorization ∧ asUtc reading "clock value" = .ok now ∧
    now < authorization.expiresAt

theorem validateComplete_eq_ok_iff {request : CompleteRequest} : validateComplete request = .ok () ↔ request.WellFormed := by
  simp only [validateComplete, bind_eq_ok_iff, validateCredential_eq_ok_iff]
  constructor
  · rintro ⟨_, shaped, keyed⟩
    exact ⟨validateNonce_eq_ok_iff.mp shaped, keyed⟩
  · rintro ⟨shaped, keyed⟩
    exact ⟨(), validateNonce_eq_ok_iff.mpr shaped, keyed⟩

/-- The authorization a `complete` goes on with, from what the store returned and the clock. -/
def accept (found : Option PendingKiteAuthorization) (reading : Datetime) : Except Raised PendingKiteAuthorization := do
  let authorization ← acceptConsumed found
  let _ ← checkExpiry authorization reading
  return authorization

theorem accept_eq_ok_iff {found : Option PendingKiteAuthorization} {reading : Datetime}
    {authorization : PendingKiteAuthorization} :
    accept found reading = .ok authorization ↔
      found = some authorization ∧ ∃ now, asUtc reading "clock value" = .ok now ∧ now < authorization.expiresAt := by
  simp only [accept, bind_eq_ok_iff, acceptConsumed_eq_ok_iff, checkExpiry_eq_ok_iff, pure_eq_ok_iff]
  constructor
  · rintro ⟨entry, present, now, fresh, rfl⟩
    exact ⟨present, now, fresh⟩
  · rintro ⟨present, now, fresh⟩
    exact ⟨authorization, present, now, fresh, rfl⟩

section Complete

variable (store) (exchanger : KiteTokenExchanger τ) (reading : Datetime) (request : CompleteRequest) (state : S)
  (log : ExchangeLog τ)

theorem complete_of_malformed (malformed : ¬request.WellFormed) :
    ∃ raised, complete store exchanger reading request state log = (.error raised, state, log) := by
  unfold complete
  cases validated : validateComplete request with
  | error raised => exact ⟨raised, rfl⟩
  | ok _ => exact absurd (validateComplete_eq_ok_iff.mp validated) malformed

/-- A well-formed call leaves the store as its consume does, and asks the exchanger when it has an authorization. -/
theorem complete_of_wellFormed (wellFormed : request.WellFormed) :
    complete store exchanger reading request state log =
      match accept (store.consume (digest request.state) state).1 reading with
      | .error raised => (.error raised, (store.consume (digest request.state) state).2, log)
      | .ok authorization =>
          ((log.ask exchanger (request.credentials, request.requestToken)).1.map (resultOf authorization),
            (store.consume (digest request.state) state).2,
            (log.ask exchanger (request.credentials, request.requestToken)).2) := by
  simp only [complete, validateComplete_eq_ok_iff.mpr wellFormed]
  rfl

end Complete

/-- What a complete does to the entries pending in the store and to the exchanger. -/
structure CompleteEffect (store : KiteNonceStore S) (pending : S → String → Option PendingKiteAuthorization)
    (exchanger : KiteTokenExchanger τ) (reading : Datetime) (request : CompleteRequest) (state : S) (log : ExchangeLog τ) :
    Prop where
  malformed : ¬request.WellFormed → (complete store exchanger reading request state log).2 = (state, log)
  removed : request.WellFormed →
    pending (complete store exchanger reading request state log).2.1 =
      Function.update (pending state) (digest request.state) none
  asked : request.WellFormed → Unexpired pending reading request state →
    ∃ answer, (complete store exchanger reading request state log).2.2.entries =
      log.entries ++ [((request.credentials, request.requestToken), answer)]
  silent : request.WellFormed → ¬Unexpired pending reading request state →
    (complete store exchanger reading request state log).2.2 = log
  spent : request.WellFormed → ∀ calls : List StoreCall, (∀ call ∈ calls, ¬call.Issues (digest request.state)) →
    ∀ (exchanger' : KiteTokenExchanger τ) (reading' : Datetime) (again : CompleteRequest) (log' : ExchangeLog τ),
      again.state = request.state → again.WellFormed →
      ∃ error last, complete store exchanger' reading' again
          (performAll store calls (complete store exchanger reading request state log).2.1) log' =
          (.error (.connector error), last, log') ∧ error.reasonCode = "auth.state_invalid"

/-- A well-formed call whose state is not pending fails without an exchange. -/
theorem complete_of_absent (contract : store.Contract pending) {exchanger : KiteTokenExchanger τ} {reading : Datetime}
    {request : CompleteRequest} {state : S} {log : ExchangeLog τ} (wellFormed : request.WellFormed)
    (absent : pending state (digest request.state) = none) :
    ∃ error last, complete store exchanger reading request state log = (.error (.connector error), last, log) ∧
      error.reasonCode = "auth.state_invalid" := by
  rw [complete_of_wellFormed _ _ _ _ _ _ wellFormed, (contract.consumed _ state).1, absent, accept, acceptConsumed,
    raiseConnectorError_of_key (by decide)]
  exact ⟨_, _, rfl, rfl⟩

theorem complete_effect (contract : store.Contract pending) (exchanger : KiteTokenExchanger τ) (reading : Datetime)
    (request : CompleteRequest) (state : S) (log : ExchangeLog τ) :
    CompleteEffect store pending exchanger reading request state log := by
  have removed (wellFormed : request.WellFormed) :
      pending (complete store exchanger reading request state log).2.1 =
        Function.update (pending state) (digest request.state) none := by
    rw [← (contract.consumed (digest request.state) state).2, complete_of_wellFormed _ _ _ _ _ _ wellFormed]
    split <;> rfl
  have unexpired_iff : (∃ authorization, accept (store.consume (digest request.state) state).1 reading = .ok authorization) ↔
      Unexpired pending reading request state := by
    simp only [accept_eq_ok_iff, (contract.consumed (digest request.state) state).1, Unexpired, exists_and_left]
  refine ⟨fun malformed => ?_, removed, fun wellFormed unexpired => ?_, fun wellFormed ended => ?_, ?_⟩
  · obtain ⟨raised, failed⟩ := complete_of_malformed store exchanger reading request state log malformed
    rw [failed]
  · obtain ⟨authorization, accepted⟩ := unexpired_iff.mpr unexpired
    rw [complete_of_wellFormed _ _ _ _ _ _ wellFormed, accepted]
    exact ⟨_, rfl⟩
  · rw [complete_of_wellFormed _ _ _ _ _ _ wellFormed]
    split
    · rfl
    · next authorization accepted => exact absurd (unexpired_iff.mp ⟨authorization, accepted⟩) ended
  · intro wellFormed calls quiet exchanger' reading' again log' sameState again_wellFormed
    apply complete_of_absent contract again_wellFormed
    rw [sameState]
    apply pending_performAll_of_none contract ?_ quiet
    rw [removed wellFormed, Function.update_self]

/-! ## Both effects -/

/-- On every path a start adds its own entry or nothing, and a complete removes the entry of its state or nothing. -/
theorem login_effects (contract : store.Contract pending) (accepting : Accepting store pending) :
    (∀ (exchanger : KiteTokenExchanger τ) (reading : Datetime) (request : CompleteRequest) (state : S) (log : ExchangeLog τ),
        CompleteEffect store pending exchanger reading request state log) ∧
      ∀ (reading : Datetime) (request : StartRequest) (state : S), StartEffect store pending reading request state :=
  ⟨complete_effect contract, start_effect contract accepting⟩

theorem memoryStore_accepting : Accepting memoryStore id := by
  intro authorization entries free
  simp only [id_eq] at free
  simp [memoryStore, free]

/-- An exchanger that returns the sample session. -/
def sampleExchanger : KiteTokenExchanger Unit := fun state _ => (.ok (sampleSession sampleCredentials), state)

theorem login_effects_sample :
    StartEffect memoryStore id sampleReading sampleStart (fun _ => none) ∧
      CompleteEffect memoryStore id sampleExchanger sampleReading (sampleComplete sampleCredentials)
        (Function.update (fun _ => none) (digest sampleStart.nonce) (some sampleAuthorization)) ⟨(), []⟩ := by
  obtain ⟨completes, starts⟩ := @login_effects _ Unit _ _ memoryStore_contract memoryStore_accepting
  exact ⟨starts sampleReading sampleStart _, completes _ _ _ _ _⟩

theorem naive_offsetBound : ∀ offset ∈ (none : Option ℤ), -microsPerDay < offset ∧ offset < microsPerDay := by simp

/-- A clock without a time zone. -/
def naiveReading : Datetime where
  wall := 63921900100000000
  utcoffset := none
  offsetBound := naive_offsetBound

/-- A start whose clock has no time zone adds nothing, and a second complete with a blank request token fails
on the token. -/
theorem start_of_naive_clock :
    sampleStart.WellFormed ∧
      start memoryStore naiveReading sampleStart (fun _ => none) =
        (.error (.builtin (.valueError "clock value must be timezone-aware")), fun _ => none) ∧
      (sampleComplete sampleCredentials).WellFormed ∧
      (complete memoryStore sampleExchanger sampleReading { sampleComplete sampleCredentials with requestToken := "" }
        (complete memoryStore sampleExchanger sampleReading (sampleComplete sampleCredentials) (fun _ => none) ⟨(), []⟩).2.1
        ⟨(), []⟩).1 =
        .error (.builtin (.valueError "Kite request token must be a valid non-empty ASCII value")) :=
  ⟨⟨by decide, by decide⟩, rfl, ⟨by decide, by decide⟩, rfl⟩

end PortfolioManager.Connectors.Zerodha.KiteAuthorizationService
