import PortfolioManager.Connectors.ZerodhaAuthSafety

/-! # Logins that go through

An entry stays pending until its own state is consumed, and what a call holds between two of its segments is its own. So
other calls, in whatever order, cannot keep a login from its session: only an earlier use of its state and the clock can.
-/

namespace PortfolioManager.Connectors.Zerodha.KiteAuthorizationService

open PortfolioManager.Python PortfolioManager.Domain PortfolioManager.Application Checked Runs SingleUse

variable {S : Type*} {store : KiteNonceStore S} {pending : S → String → Option PendingKiteAuthorization} {state : S}
  {events : List Event} {world next : World S}

/-- The events are those of other calls. -/
def Others (call : CallId) (events : List Event) : Prop := ∀ event ∈ events, event.call ≠ call

/-- No event takes the entry of a nonce. -/
def Spares (nonce : String) (events : List Event) : Prop :=
  ∀ event ∈ events, ∀ authorization, event.op ≠ some (.take (digest nonce) authorization)

theorem step_pending (contract : store.Contract pending) {event : Event} (step : Step store world event next) {key : String}
    {authorization : PendingKiteAuthorization} (present : pending world.store key = some authorization)
    (spared : ∀ other, event.op ≠ some (.take key other)) : pending next.store key = some authorization := by
  cases step with
  | startValidated => exact present
  | startTimed => exact present
  | @issued call request now other held =>
    cases outcome : (store.issue other world.store).1 with
    | ok value =>
      obtain ⟨free, added⟩ := contract.issued other world.store outcome
      have different : key ≠ other.nonceDigest := by
        rintro rfl
        rw [free] at present
        contradiction
      rw [enter_store, added, Function.update_of_ne different]
      exact present
    | error raised =>
      rw [enter_store, contract.refused other world.store raised outcome]
      exact present
  | completeValidated => exact present
  | @consumed call request held =>
    obtain ⟨found, removed⟩ := contract.consumed (digest request.state) world.store
    have different : key ≠ digest request.state := by
      rintro rfl
      rw [found, present] at spared
      exact spared authorization rfl
    rw [enter_store, removed, Function.update_of_ne different]
    exact present
  | expiryChecked => exact present
  | exchanged => exact present

/-- An entry stays pending until it is taken. -/
theorem run_pending (contract : store.Contract pending) (run : Run (Step store) world events next) {nonce : String}
    {authorization : PendingKiteAuthorization} (present : pending world.store (digest nonce) = some authorization)
    (spared : Spares nonce events) : pending next.store (digest nonce) = some authorization := by
  induction run with
  | start => exact present
  | snoc _ step ih =>
    have earlier := ih fun event member => spared event (List.mem_append_left _ member)
    exact step_pending contract step earlier fun other => spared _ (List.mem_append_right _ (List.mem_singleton_self _)) other

/-- A call stands still while others move. -/
theorem run_phase (run : Run (Step store) world events next) {call : CallId} (others : Others call events) :
    next.phase call = world.phase call := by
  induction run with
  | start => rfl
  | @snoc events world next event _ step ih =>
    have different := others event (List.mem_append_right _ (List.mem_singleton_self _))
    rw [(step_stage step).2.2 call different.symm]
    exact ih fun event member => others event (List.mem_append_left _ member)

theorem pending_of_issued (contract : store.Contract pending) {call : CallId} {request : StartRequest} {now : Instant}
    {authorization : PendingKiteAuthorization}
    (step : Step store world (.issued call request now authorization (.ok ())) next) :
    pending next.store authorization.nonceDigest = some authorization := by
  generalize same : Event.issued call request now authorization (.ok ()) = event at step
  cases step with
  | issued held =>
    obtain ⟨rfl, rfl, rfl, rfl, outcome⟩ := Event.issued.inj same
    rw [enter_store, (contract.issued _ _ outcome.symm).2, Function.update_self]
  | _ => cases same

/-- A login whose state nobody else has used goes through, whatever other calls do before, between and after its
segments: its callback finds the entry of its start, passes the expiry check at any clock reading before the entry's
expiry, and then returns the session of the exchange for the tenant and the connection of the start. -/
theorem undisturbed_login (contract : store.Contract pending) {before after : List Event} {starter call : CallId}
    {source : StartRequest} {issuedAt : Instant} {authorization : PendingKiteAuthorization} {request : CompleteRequest}
    (run : Run (Step store) (World.initial state) (before ++ .issued starter source issuedAt authorization (.ok ()) :: after) world)
    (spared : Spares source.nonce after) (held : world.phase call = .completing request) (own : request.state = source.nonce) :
    ∃ consumed, Step store world (.consumed call request (some authorization)) consumed ∧
      ∀ between reached, Run (Step store) consumed between reached → Others call between →
      ∀ reading now, asUtc reading "clock value" = .ok now → now.micros < issuedAt.micros + nonceTtl →
        ∃ checked, Step store reached (.expiryChecked call request reading (.ok now)) checked ∧
          ∀ between' reached', Run (Step store) checked between' reached' → Others call between' →
          ∀ session, ∃ last,
            Step store reached' (.exchanged call request (.ok ⟨source.tenantId, source.connectionId, session⟩)) last := by
  have authorizes := issued_authorizes run (List.mem_append_right _ (List.mem_cons_self ..))
  obtain ⟨issuing, issued, _, step, rest⟩ := run.split
  have placed := pending_of_issued contract step
  rw [authorizes.nonce] at placed
  have present := run_pending contract rest placed spared
  have found : (store.consume (digest request.state) world.store).1 = some authorization := by
    rw [own, (contract.consumed _ _).1]
    exact present
  have consumption := @Step.consumed S store _ _ _ held
  rw [found] at consumption
  refine ⟨_, consumption, fun between reached run' others reading now read early => ?_⟩
  have checking : reached.phase call = .checking request authorization := (run_phase run' others).trans (enter_phase_self ..)
  have inTime : now < authorization.expiresAt := by
    change now.micros < authorization.expiresAt.micros
    rw [authorizes.expiry]
    exact early
  have fresh := checkExpiry_eq_ok_iff.mpr ⟨read, inTime⟩
  have check := @Step.expiryChecked S store _ _ _ _ reading checking
  rw [fresh] at check
  refine ⟨_, check, fun between' reached' run'' others' session => ?_⟩
  have exchanging : reached'.phase call = .exchanging request authorization := (run_phase run'' others').trans (enter_phase_self ..)
  have exchange := @Step.exchanged S store _ _ _ _ (.ok session) exchanging
  change Step store reached' (.exchanged call request (.ok ⟨authorization.tenantId, authorization.connectionId, session⟩)) _ at exchange
  rw [authorizes.tenant, authorizes.connection] at exchange
  exact ⟨_, exchange⟩

/-- The sample login goes through after another start, with its segments one after the other. -/
theorem undisturbed_login_sample :
    ∃ world consumed checked last, ∃ session : KiteSession,
      Step memoryStore world (.consumed 1 (sampleComplete sampleCredentials) (some sampleAuthorization)) consumed ∧
        Step memoryStore consumed (.expiryChecked 1 (sampleComplete sampleCredentials) sampleReading (.ok sampleNow)) checked ∧
        Step memoryStore checked
          (.exchanged 1 (sampleComplete sampleCredentials) (.ok ⟨sampleStart.tenantId, sampleStart.connectionId, session⟩)) last := by
  have validStart : validateStart sampleStart = .ok () := by decide
  have validComplete : validateComplete (sampleComplete sampleCredentials) = .ok () := by decide
  have made : authorize sampleStart sampleReading = .ok (sampleNow, sampleAuthorization) := authorize_of_reading rfl rfl
  have initial : Run (Step memoryStore) (World.initial fun _ => none) [] (World.initial fun _ => none) := .start
  have started := @run_start _ memoryStore _ _ _ initial 0 rfl sampleReading _ _ _ _ validStart made rfl
  have waiting := started.snoc (@Step.completeValidated _ memoryStore _ 1 (sampleComplete sampleCredentials) rfl)
  have spared : Spares sampleStart.nonce
      [.completeValidated 1 (sampleComplete sampleCredentials) (validateComplete (sampleComplete sampleCredentials))] := by
    intro event member authorization
    rw [List.mem_singleton.mp member]
    exact nofun
  have alone : Others 1 [] := by simp [Others]
  have read : asUtc sampleReading "clock value" = .ok sampleNow := rfl
  obtain ⟨consumed, consumption, goes⟩ := @undisturbed_login _ memoryStore _ _ _ memoryStore_contract
    [.startValidated 0 sampleStart (.ok ()), .startTimed 0 sampleStart sampleReading (.ok (sampleNow, sampleAuthorization))] _ 0 1 _ _ _ _
    waiting spared (by rw [validComplete]; exact enter_phase_self ..) rfl
  obtain ⟨checked, check, goes⟩ := goes [] consumed .start alone sampleReading sampleNow read (Int.lt_add_of_pos_right _ (by decide))
  obtain ⟨last, exchange⟩ := goes [] checked .start alone (sampleSession sampleCredentials)
  exact ⟨_, consumed, checked, last, _, consumption, check, exchange⟩

end PortfolioManager.Connectors.Zerodha.KiteAuthorizationService
