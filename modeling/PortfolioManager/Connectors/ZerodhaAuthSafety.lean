import PortfolioManager.Connectors.ZerodhaAuthRuns

/-! # What a login can rely on

Every exchange is backed by a start of its own, whatever the interleaving. The API key of the
exchanged session is not part of that link: it is the key of the credentials passed to
`complete`, which nothing compares with the key the login was started with.
-/

namespace PortfolioManager.Connectors.Zerodha.KiteAuthorizationService

open PortfolioManager.Python PortfolioManager.Domain PortfolioManager.Application Checked Runs SingleUse

variable {S : Type*} {store : KiteNonceStore S} {pending : S → String → Option PendingKiteAuthorization} {state : S}
  {events : List Event} {world : World S}

/-- The call passed every check of `complete` and went on to exchange its token. -/
def ReachesExchange (events : List Event) (call : CallId) : Prop :=
  ∃ request reading now, .expiryChecked call request reading (.ok now) ∈ events

/-- Both consumptions of one call are the same. -/
theorem consumed_unique (run : Run (Step store) (World.initial state) events world) {call : CallId}
    {request other : CompleteRequest} {found found' : Option PendingKiteAuthorization}
    (here : .consumed call request found ∈ events) (there : .consumed call other found' ∈ events) :
    request = other ∧ found = found' := by
  obtain ⟨first, here⟩ := List.mem_iff_getElem?.mp here
  obtain ⟨second, there⟩ := List.mem_iff_getElem?.mp there
  obtain rfl := (run_ordered run).position_unique here there rfl rfl
  obtain ⟨_, rfl, rfl⟩ := Event.consumed.inj (Option.some.inj (here.symm.trans there))
  exact ⟨rfl, rfl⟩

/-- The start behind a call: its entry is the one the call consumed, and no other call's start. -/
theorem exists_starter (contract : store.Contract pending) (empty : pending state = fun _ => none)
    (run : Run (Step store) (World.initial state) events world) (collisionFree : CollisionFree events) :
    ∃ starter : CallId → CallId,
      Set.InjOn starter {call | ∃ request authorization, .consumed call request (some authorization) ∈ events} ∧
      ∀ before call request authorization after, events = before ++ .consumed call request (some authorization) :: after →
        ∃ source issuedAt, .issued (starter call) source issuedAt authorization (.ok ()) ∈ before ∧
          source.nonce = request.state ∧ Authorizes source issuedAt authorization := by
  obtain ⟨origin, injective, paired⟩ := consumed_pairing contract empty run collisionFree
  have chosen (call : CallId) (consumes : ∃ request authorization, .consumed call request (some authorization) ∈ events) :
      ∃ starter position, ∃ request authorization source issuedAt,
        events[position]? = some (.consumed call request (some authorization)) ∧ origin position < position ∧
        Issuer events (origin position) request authorization starter source issuedAt := by
    obtain ⟨request, authorization, member⟩ := consumes
    obtain ⟨position, present⟩ := List.mem_iff_getElem?.mp member
    obtain ⟨earlier, starter, source, issuedAt, issuer⟩ := paired position call request authorization present
    exact ⟨starter, position, request, authorization, source, issuedAt, present, earlier, issuer⟩
  choose! starter position spec using chosen
  have ordered := run_ordered run
  refine ⟨starter, ?_, ?_⟩
  · intro first first_consumes second second_consumes same
    obtain ⟨_, _, _, _, present, _, issuer⟩ := spec first first_consumes
    obtain ⟨_, _, _, _, present', _, issuer'⟩ := spec second second_consumes
    have source : origin (position first) = origin (position second) :=
      ordered.position_unique issuer.issued issuer'.issued same rfl
    have moment := injective ⟨_, _, opAt_consumed present⟩ ⟨_, _, opAt_consumed present'⟩ source
    rw [moment, present'] at present
    cases present
    rfl
  · rintro before call request authorization after split
    have here : events[before.length]? = some (.consumed call request (some authorization)) := by simp [split]
    obtain ⟨other, found, source, issuedAt, present, earlier, issuer⟩ :=
      spec call ⟨request, authorization, List.mem_of_getElem? here⟩
    have moment : position call = before.length := ordered.position_unique present here rfl rfl
    rw [moment] at present earlier issuer
    cases here.symm.trans present
    have issued := issuer.issued
    rw [split, List.getElem?_append_left earlier] at issued
    exact ⟨source, issuedAt, List.mem_of_getElem? issued, issuer.nonce, issuer.authorizes⟩

/-- Every complete that reaches the token exchange has a successful start of its own, made earlier
with the same nonce, for the tenant and connection of its result and less than five minutes before by
the readings of the two clocks. -/
theorem exchange_has_own_start (contract : store.Contract pending) (empty : pending state = fun _ => none)
    (run : Run (Step store) (World.initial state) events world) (collisionFree : CollisionFree events) :
    ∃ starter : CallId → CallId, Set.InjOn starter {call | ReachesExchange events call} ∧
      ∀ before call request reading now after, events = before ++ .expiryChecked call request reading (.ok now) :: after →
        asUtc reading "clock value" = .ok now ∧ ∃ source startReading issuedAt authorization,
          .startTimed (starter call) source startReading (.ok (issuedAt, authorization)) ∈ before ∧
          asUtc startReading "clock value" = .ok issuedAt ∧
          .issued (starter call) source issuedAt authorization (.ok ()) ∈ before ∧
          source.nonce = request.state ∧ now.micros < issuedAt.micros + nonceTtl ∧
          ∀ other result, .exchanged call other (.ok result) ∈ events →
            result.tenantId = source.tenantId ∧ result.connectionId = source.connectionId := by
  obtain ⟨starter, injective, started⟩ := exists_starter contract empty run collisionFree
  refine ⟨starter, injective.mono ?_, ?_⟩
  · rintro call ⟨request, reading, now, member⟩
    obtain ⟨before, after, split⟩ := List.append_of_mem member
    obtain ⟨authorization, consumed, _⟩ := expiryChecked_consumed (split ▸ run)
    exact ⟨request, authorization, split ▸ List.mem_append_left _ consumed⟩
  · rintro before call request reading now after rfl
    obtain ⟨authorization, consumed, read, early⟩ := expiryChecked_consumed run
    obtain ⟨_, _, earlier, _, _⟩ := run.split
    obtain ⟨first, rest, rfl⟩ := List.append_of_mem consumed
    obtain ⟨_, _, earlier, _, _⟩ := earlier.split
    obtain ⟨source, issuedAt, issued, nonce, authorizes⟩ :=
      started first call request authorization (rest ++ .expiryChecked call request reading (.ok now) :: after) (by simp)
    obtain ⟨startReading, timed, read', _⟩ := issued_timed earlier issued
    refine ⟨read, source, startReading, issuedAt, authorization, List.mem_append_left _ timed, read',
      List.mem_append_left _ issued, nonce, ?_, ?_⟩
    · rw [← authorizes.expiry]
      exact early
    · intro other result exchanged
      obtain ⟨before, after, split⟩ := List.append_of_mem exchanged
      obtain ⟨authorization', session, consumed', rfl⟩ := exchanged_consumed (split ▸ run)
      obtain ⟨_, same⟩ := consumed_unique run (List.mem_append_left _ consumed)
        (split ▸ List.mem_append_left _ consumed')
      cases same
      exact ⟨authorizes.tenant, authorizes.connection⟩

/-! ### Two logins under one nonce, over a store in memory -/

/-- A dictionary of pending entries. -/
def memoryStore : KiteNonceStore (String → Option PendingKiteAuthorization) where
  issue authorization entries :=
    if (entries authorization.nonceDigest).isSome then (.error (.builtin (.valueError "duplicate nonce")), entries)
    else (.ok (), Function.update entries authorization.nonceDigest (some authorization))
  consume digest entries := (entries digest, Function.update entries digest none)

theorem memoryStore_contract : memoryStore.Contract id where
  issued authorization entries accepted := by
    cases present : entries authorization.nonceDigest with
    | none => simp [memoryStore, present]
    | some other => simp [memoryStore, present] at accepted
  refused authorization entries raised rejected := by
    cases present : entries authorization.nonceDigest with
    | none => simp [memoryStore, present] at rejected
    | some other => simp [memoryStore, present]
  consumed _ _ := ⟨rfl, rfl⟩

def sampleReading : Datetime where
  wall := 63921900000000000
  utcoffset := some 19800000000

def sampleNow : Instant where
  micros := 63921880200000000

def sampleExpiry : Instant where
  micros := 63921880500000000

def sampleStart : StartRequest where
  tenantId := ⟨⟨1⟩⟩
  connectionId := ⟨⟨2⟩⟩
  apiKey := "synthetic-api-key"
  nonce := "safe_state_value_0123456789abcdef"

def sampleAuthorization : PendingKiteAuthorization where
  tenantId := sampleStart.tenantId
  connectionId := sampleStart.connectionId
  nonceDigest := digest sampleStart.nonce
  expiresAt := sampleExpiry
  digestShape := isDigest_hexdigest _

def sampleCredentials : KiteApiCredentials where
  apiKey := "synthetic-api-key"
  apiSecret := "synthetic-api-secret"
  apiKeyed := by decide
  secretShape := by decide

def sampleComplete (credentials : KiteApiCredentials) : CompleteRequest where
  state := sampleStart.nonce
  requestToken := "synthetic-request-token"
  credentials := credentials

def sampleSession (credentials : KiteApiCredentials) : KiteSession where
  apiKey := credentials.apiKey
  accessToken := some "synthetic-access-token"
  expiresAt := none
  apiKeyed := (Bool.and_eq_true_iff.mp credentials.apiKeyed).1
  tokenShape := by decide

/-- The events of one sample login, from `start` to the session of the given credentials. -/
def sampleEvents (starter completer : CallId) (credentials : KiteApiCredentials) : List Event :=
  [.startValidated starter sampleStart (.ok ()), .startTimed starter sampleStart sampleReading (.ok (sampleNow, sampleAuthorization)),
    .issued starter sampleStart sampleNow sampleAuthorization (.ok ()),
    .completeValidated completer (sampleComplete credentials) (.ok ()),
    .consumed completer (sampleComplete credentials) (some sampleAuthorization),
    .expiryChecked completer (sampleComplete credentials) sampleReading (.ok sampleNow),
    .exchanged completer (sampleComplete credentials) (.ok (resultOf sampleAuthorization (sampleSession credentials)))]

/-- A sample login can follow any run that leaves no entry pending. -/
theorem sample_run {events : List Event} {world : World (String → Option PendingKiteAuthorization)}
    (run : Run (Step memoryStore) (World.initial fun _ => none) events world) (empty : world.store = fun _ => none)
    {starter completer : CallId} (different : completer ≠ starter) (idle : world.phase starter = .idle)
    (idle' : world.phase completer = .idle) (credentials : KiteApiCredentials) :
    Run (Step memoryStore) (World.initial fun _ => none) (events ++ sampleEvents starter completer credentials)
      (World.enter (World.enter ⟨fun _ => none, world.phase⟩ starter .ended) completer .ended) := by
  have validStart : validateStart sampleStart = .ok () := by decide
  have validComplete : validateComplete (sampleComplete credentials) = .ok () := by
    have nonce : validateNonce sampleStart.nonce = .ok () := by decide
    have token : validateCredential "synthetic-request-token" "request token" = .ok () := by decide
    simp only [validateComplete, sampleComplete, nonce, ok_bind, token]
  have made : authorize sampleStart sampleReading = .ok (sampleNow, sampleAuthorization) := authorize_of_reading rfl rfl
  have fresh : checkExpiry sampleAuthorization sampleReading = .ok sampleNow := by
    have read : asUtc sampleReading "clock value" = .ok sampleNow := rfl
    have early : ¬sampleAuthorization.expiresAt ≤ sampleNow := by decide
    simp only [checkExpiry, lift_eq_ok_iff.mpr read, ok_bind, if_neg early]
    rfl
  have issued : memoryStore.issue sampleAuthorization world.store =
      (.ok (), Function.update (fun _ => none) (digest sampleStart.nonce) (some sampleAuthorization)) := by
    rw [empty]
    rfl
  have started := run_start run idle validStart made issued
  have consumed : memoryStore.consume (digest (sampleComplete credentials).state)
      (World.enter ⟨Function.update (fun _ => none) (digest sampleStart.nonce) (some sampleAuthorization), world.phase⟩
        starter .ended).store = (some sampleAuthorization, fun _ => none) := by
    simp [memoryStore, sampleComplete]
  have completed := run_complete started (by rw [enter_phase_of_ne different]; exact idle') validComplete consumed
    fresh (sampleSession credentials)
  simp only [List.append_assoc, List.cons_append, List.nil_append] at completed
  exact completed

/-- One nonce in a run cannot collide. -/
theorem collisionFree_of_single {events : List Event} {nonce : String}
    (single : ∀ event ∈ events, ∀ other, event.nonce? = some other → other = nonce) : CollisionFree events := by
  rintro first ⟨event, member, named⟩ second ⟨event', member', named'⟩ _
  rw [single event member first named, single event' member' second named']

theorem sampleEvents_nonce {starter completer : CallId} {credentials : KiteApiCredentials} :
    ∀ event ∈ sampleEvents starter completer credentials, ∀ other, event.nonce? = some other → other = sampleStart.nonce := by
  simp [sampleEvents, Event.nonce?, sampleComplete]

/-- The same nonce is issued, exchanged, issued again and exchanged again. -/
theorem exchange_has_own_start_sample :
    ∃ (events : List Event) (starter : CallId → CallId), ReachesExchange events 1 ∧ ReachesExchange events 3 ∧
      Set.InjOn starter {call | ReachesExchange events call} ∧
      ∀ before call request reading now after, events = before ++ .expiryChecked call request reading (.ok now) :: after →
        asUtc reading "clock value" = .ok now ∧ ∃ source startReading issuedAt authorization,
          .startTimed (starter call) source startReading (.ok (issuedAt, authorization)) ∈ before ∧
          asUtc startReading "clock value" = .ok issuedAt ∧
          .issued (starter call) source issuedAt authorization (.ok ()) ∈ before ∧
          source.nonce = request.state ∧ now.micros < issuedAt.micros + nonceTtl ∧
          ∀ other result, .exchanged call other (.ok result) ∈ events →
            result.tenantId = source.tenantId ∧ result.connectionId = source.connectionId := by
  have first := @sample_run [] _ .start rfl 0 1 (by decide) rfl rfl sampleCredentials
  have second := @sample_run _ _ first rfl 2 3 (by decide) rfl rfl sampleCredentials
  have collisionFree : CollisionFree (([] ++ sampleEvents 0 1 sampleCredentials) ++ sampleEvents 2 3 sampleCredentials) := by
    apply @collisionFree_of_single _ sampleStart.nonce
    intro event member
    rcases List.mem_append.mp member with early | late
    · exact sampleEvents_nonce event early
    · exact sampleEvents_nonce event late
  obtain ⟨starter, injective, own⟩ := exchange_has_own_start memoryStore_contract rfl second collisionFree
  exact ⟨_, starter, ⟨sampleComplete sampleCredentials, sampleReading, sampleNow, by simp [sampleEvents]⟩,
    ⟨sampleComplete sampleCredentials, sampleReading, sampleNow, by simp [sampleEvents]⟩, injective, own⟩

/-! ## The API key of the session -/

/-- The exchanger returns sessions of the credentials it was given only. -/
def HonestExchange (events : List Event) : Prop :=
  ∀ call request result, .exchanged call request (.ok result) ∈ events →
    result.session.apiKey = request.credentials.apiKey

/-- A result belongs to the tenant and connection of the start that issued its state, and its session
has that start's API key exactly when `complete` was called with credentials for it. -/
theorem session_key_of_credentials (contract : store.Contract pending) (empty : pending state = fun _ => none)
    (run : Run (Step store) (World.initial state) events world) (collisionFree : CollisionFree events)
    (honest : HonestExchange events) :
    ∀ before call request result after, events = before ++ .exchanged call request (.ok result) :: after →
      ∃ starter source issuedAt authorization, .issued starter source issuedAt authorization (.ok ()) ∈ before ∧
        source.nonce = request.state ∧ result.tenantId = source.tenantId ∧
        result.connectionId = source.connectionId ∧
        (result.session.apiKey = source.apiKey ↔ request.credentials.apiKey = source.apiKey) := by
  rintro before call request result after rfl
  obtain ⟨starter, _, started⟩ := exists_starter contract empty run collisionFree
  obtain ⟨authorization, session, consumed, rfl⟩ := exchanged_consumed run
  obtain ⟨first, rest, rfl⟩ := List.append_of_mem consumed
  obtain ⟨source, issuedAt, issued, nonce, authorizes⟩ := started first call request authorization
    (rest ++ .exchanged call request (.ok (resultOf authorization session)) :: after) (by simp)
  have key := honest call request _ (List.mem_append_right _ (List.mem_cons_self ..))
  exact ⟨starter call, source, issuedAt, authorization, List.mem_append_left _ issued, nonce, authorizes.tenant,
    authorizes.connection, by rw [key]⟩

theorem sampleEvents_honest {starter completer : CallId} {credentials : KiteApiCredentials} :
    HonestExchange (sampleEvents starter completer credentials) := by
  intro call request result member
  simp only [sampleEvents, List.mem_cons, List.not_mem_nil, or_false, reduceCtorEq, false_or, Event.exchanged.injEq,
    Except.ok.injEq] at member
  obtain ⟨rfl, rfl, rfl⟩ := member
  rfl

theorem session_key_of_credentials_sample :
    ∃ starter source issuedAt authorization,
      .issued starter source issuedAt authorization (.ok ()) ∈ sampleEvents 0 1 sampleCredentials ∧
        source.nonce = sampleStart.nonce ∧
        ((sampleSession sampleCredentials).apiKey = source.apiKey ↔ sampleCredentials.apiKey = source.apiKey) := by
  have run := @sample_run [] _ .start rfl 0 1 (by decide) rfl rfl sampleCredentials
  obtain ⟨starter, source, issuedAt, authorization, issued, nonce, _, _, key⟩ :=
    session_key_of_credentials memoryStore_contract rfl run (collisionFree_of_single sampleEvents_nonce)
      sampleEvents_honest ((sampleEvents 0 1 sampleCredentials).take 6) 1 (sampleComplete sampleCredentials)
      (resultOf sampleAuthorization (sampleSession sampleCredentials)) [] rfl
  exact ⟨starter, source, issuedAt, authorization, List.mem_of_mem_take issued, nonce, key⟩

def otherCredentials : KiteApiCredentials where
  apiKey := "another-api-key"
  apiSecret := "another-api-secret"
  apiKeyed := by decide
  secretShape := by decide

/-- A login started with one API key completes with credentials of another. -/
theorem session_key_of_other_login :
    ∃ (events : List Event) (world : World (String → Option PendingKiteAuthorization)),
      Run (Step memoryStore) (World.initial fun _ => none) events world ∧ memoryStore.Contract id ∧
      CollisionFree events ∧ HonestExchange events ∧
      .issued 0 sampleStart sampleNow sampleAuthorization (.ok ()) ∈ events ∧
      ∃ result, .exchanged 1 (sampleComplete otherCredentials) (.ok result) ∈ events ∧
        sampleStart.nonce = (sampleComplete otherCredentials).state ∧
        result.session.apiKey = "another-api-key" ∧ sampleStart.apiKey = "synthetic-api-key" ∧
        result.session.apiKey ≠ sampleStart.apiKey := by
  have run := @sample_run [] _ .start rfl 0 1 (by decide) rfl rfl otherCredentials
  exact ⟨_, _, run, memoryStore_contract, collisionFree_of_single sampleEvents_nonce, sampleEvents_honest,
    by simp [sampleEvents], resultOf sampleAuthorization (sampleSession otherCredentials), by simp [sampleEvents],
    rfl, rfl, rfl, by decide⟩

end PortfolioManager.Connectors.Zerodha.KiteAuthorizationService
