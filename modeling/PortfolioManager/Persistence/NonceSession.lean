import PortfolioManager.Persistence.NonceConflict

/-! # A store after a rejected nonce

A failed flush rolls the whole transaction back, and the session then refuses everything until its caller rolls
back, which the store never does. A run is the list of calls on one store within one transaction, with their
answers, in any interleaving with what other transactions do to the table; a call that waits for one of them
is made when it can finish.
-/

namespace PortfolioManager.Persistence

open Mvcc Sql Runs SqlAlchemyAuthorizationNonceStore

/-- What a call on a session can raise: an error of the store, SQLAlchemy's refusal after a failed flush, or
PostgreSQL's after another failed statement. -/
inductive SessionError where
  | store (error : StoreError)
  | pendingRollback
  | transactionAborted
deriving DecidableEq

/-- The state of the transaction of a session. -/
inductive Health where
  | sound
  | aborted
  | rolledBack
deriving DecidableEq

/-- The session of a store, inside a transaction. -/
structure StoreSession where
  session : Session
  table : NonceTable
  health : Health

def StoreSession.rollBack (state : StoreSession) : StoreSession :=
  { state with table := state.table.resolve state.session.transaction .aborted, health := .rolledBack }

inductive Call where
  | issue (nonce : StoredAuthorizationNonce)
  | consume (digest : String)

inductive Answer where
  | issued (outcome : Except SessionError Unit)
  | consumed (outcome : Except SessionError (Option StoredAuthorizationNonce))

/-- `issue` on a session; it has no answer while it waits. -/
def StoreSession.issue (deployment : Deployment) (state : StoreSession) (nonce : StoredAuthorizationNonce) :
    Option (Except SessionError Unit × StoreSession) :=
  match state.health with
  | .rolledBack => some (.error .pendingRollback, state)
  | .aborted => some (.error .transactionAborted, state.rollBack)
  | .sound =>
      match SqlAlchemyAuthorizationNonceStore.issue deployment state.session nonce state.table with
      | .waits _ => none
      | .done (.ok _) table => some (.ok (), { state with table := table })
      | .done (.error error) table => some (.error (.store error), { state with table := table }.rollBack)

/-- `consume` on a session; it has no answer while it waits. -/
def StoreSession.consume (deployment : Deployment) (state : StoreSession) (digest : String) :
    Option (Except SessionError (Option StoredAuthorizationNonce) × StoreSession) :=
  match state.health with
  | .rolledBack => some (.error .pendingRollback, state)
  | .aborted => some (.error .transactionAborted, state)
  | .sound =>
      match SqlAlchemyAuthorizationNonceStore.consume deployment state.session digest state.table with
      | .waits _ => none
      | .done (.ok found) table => some (.ok found, { state with table := table })
      | .done (.error error) table => some (.error (.store error), { state with table := table, health := .aborted })

/-- A call on a session, with its answer. -/
def StoreSession.perform (deployment : Deployment) (state : StoreSession) : Call → Option (Answer × StoreSession)
  | .issue nonce => (state.issue deployment nonce).map fun result => (.issued result.1, result.2)
  | .consume digest => (state.consume deployment digest).map fun result => (.consumed result.1, result.2)

/-- What happens in a run: a call on the store, or a change of the table by other transactions. -/
inductive Label where
  | called (call : Call) (answer : Answer)
  | others (change : NonceTable → NonceTable)

inductive Move (deployment : Deployment) : StoreSession → Label → StoreSession → Prop where
  | called {state next : StoreSession} {call : Call} {answer : Answer} :
      state.perform deployment call = some (answer, next) → Move deployment state (.called call answer) next
  | others {state : StoreSession} (change : NonceTable → NonceTable) :
      Move deployment state (.others change) { state with table := change state.table }

def Label.IsCall : Label → Prop
  | .called .. => True
  | .others _ => False

/-- Every issue reported as a conflict could be left out of the run, with the same answers to all other calls. -/
def LeavesNoTrace (deployment : Deployment) (initial : StoreSession) (labels : List Label) : Prop :=
  ∀ before nonce message after,
    labels = before ++ .called (.issue nonce) (.issued (.error (.store (.nonceConflict message)))) :: after →
    ∃ last, Run (Move deployment) initial (before ++ after) last

/-- The session is sound, and the nonce violates a constraint of the table. -/
def Rejects (deployment : Deployment) (state : StoreSession) (nonce : StoredAuthorizationNonce) : Prop :=
  state.health = .sound ∧ permits deployment state.session Policy.withCheck nonce = .ok true ∧
    (state.table.keyState state.session.transaction nonce.digest = .present ∨
      state.table.keyState state.session.transaction nonce.digest = .free ∧
        deployment.registered nonce.tenantId nonce.connectionId = false)

/-- No call follows an issue that is rejected. -/
def EndsInRejection (deployment : Deployment) (initial : StoreSession) (labels : List Label) : Prop :=
  ∀ before nonce answer after state, labels = before ++ .called (.issue nonce) answer :: after →
    Run (Move deployment) initial before state → Rejects deployment state nonce → ∀ label ∈ after, ¬label.IsCall

/-! ## Sound and rolled back sessions -/

variable {deployment : Deployment} {state next initial last : StoreSession} {labels : List Label}

theorem Move.determined (state : StoreSession) (label : Label) (next next' : StoreSession)
    (move : Move deployment state label next) (move' : Move deployment state label next') : next = next' := by
  cases move with
  | called performed =>
    cases move' with
    | called performed' =>
      rw [performed] at performed'
      cases performed'
      rfl
  | others change =>
    cases move'
    rfl

/-- An issue that is rejected answers with a conflict and rolls the session back. -/
theorem perform_of_rejects {nonce : StoredAuthorizationNonce} (rejects : Rejects deployment state nonce) :
    state.perform deployment (.issue nonce) =
      some (.issued (.error (.store (.nonceConflict "authorization nonce already exists"))), state.rollBack) := by
  obtain ⟨sound, permitted, violation⟩ := rejects
  have refused : SqlAlchemyAuthorizationNonceStore.issue deployment state.session nonce state.table =
      .done (.error (.nonceConflict "authorization nonce already exists")) state.table := by
    rw [issue_of_permitted permitted]
    rcases violation with present | ⟨free, unknown⟩
    · rw [present]
    · simp only [free, unknown, Bool.false_eq_true, ↓reduceIte]
  simp only [StoreSession.perform, StoreSession.issue, sound, refused, Option.map_some, StoreSession.rollBack]

/-- Only an issue that is rejected answers with a conflict. -/
theorem rejects_of_conflict {nonce : StoredAuthorizationNonce} {message : String}
    (conflict : state.perform deployment (.issue nonce) =
      some (.issued (.error (.store (.nonceConflict message))), next)) : Rejects deployment state nonce := by
  unfold StoreSession.perform StoreSession.issue at conflict
  cases health : state.health with
  | rolledBack => simp [health] at conflict
  | aborted => simp [health] at conflict
  | sound =>
    cases permitted : permits deployment state.session Policy.withCheck nonce with
    | error failure => simp [health, SqlAlchemyAuthorizationNonceStore.issue, flush, permitted] at conflict
    | ok admitted =>
      cases admitted with
      | false => simp [health, issue_refused permitted] at conflict
      | true =>
        refine ⟨health, permitted, ?_⟩
        simp only [health, issue_of_permitted permitted] at conflict
        cases key : state.table.keyState state.session.transaction nonce.digest with
        | wait => simp [key] at conflict
        | present => exact .inl rfl
        | free =>
          cases known : deployment.registered nonce.tenantId nonce.connectionId with
          | true => simp [key, known] at conflict
          | false => exact .inr ⟨rfl, rfl⟩

/-- The answer of a session that has been rolled back. -/
def Answer.IsPendingRollback : Answer → Prop
  | issued outcome => outcome = .error .pendingRollback
  | consumed outcome => outcome = .error .pendingRollback

theorem perform_of_rolledBack (broken : state.health = .rolledBack) (call : Call) :
    ∃ answer, state.perform deployment call = some (answer, state) ∧ answer.IsPendingRollback := by
  cases call with
  | issue nonce =>
    refine ⟨.issued (.error .pendingRollback), ?_, rfl⟩
    simp [StoreSession.perform, StoreSession.issue, broken]
  | consume digest =>
    refine ⟨.consumed (.error .pendingRollback), ?_, rfl⟩
    simp [StoreSession.perform, StoreSession.consume, broken]

/-- A sound session never answers that a rollback is pending. -/
theorem not_pendingRollback_of_sound (sound : state.health = .sound) {call : Call} {answer : Answer}
    (performed : state.perform deployment call = some (answer, next)) : ¬answer.IsPendingRollback := by
  cases call with
  | issue nonce =>
    simp only [StoreSession.perform, StoreSession.issue, sound] at performed
    cases executed : SqlAlchemyAuthorizationNonceStore.issue deployment state.session nonce state.table with
    | waits position =>
      rw [executed] at performed
      contradiction
    | done outcome table =>
      rw [executed] at performed
      cases outcome <;> cases performed <;> simp [Answer.IsPendingRollback]
  | consume digest =>
    simp only [StoreSession.perform, StoreSession.consume, sound] at performed
    cases executed : SqlAlchemyAuthorizationNonceStore.consume deployment state.session digest state.table with
    | waits position =>
      rw [executed] at performed
      contradiction
    | done outcome table =>
      rw [executed] at performed
      cases outcome <;> cases performed <;> simp [Answer.IsPendingRollback]

/-- A rolled back session and a sound one give the same answers only while no call is made. -/
theorem quiet_of_agreement {broken sound final final' : StoreSession} (rolledBack : broken.health = .rolledBack)
    (intact : sound.health = .sound) (run : Run (Move deployment) broken labels final)
    (alternative : Run (Move deployment) sound labels final') : ∀ label ∈ labels, ¬label.IsCall := by
  induction labels generalizing broken sound with
  | nil => simp
  | cons label rest ih =>
    obtain ⟨next, move, run⟩ := Run.cons_iff.mp run
    obtain ⟨next', move', alternative⟩ := Run.cons_iff.mp alternative
    cases move with
    | called performed =>
      cases move' with
      | called performed' =>
        obtain ⟨answer, refused, pending⟩ := perform_of_rolledBack rolledBack _
        rw [refused] at performed
        cases performed
        exact absurd pending (not_pendingRollback_of_sound intact performed')
    | others change =>
      cases move'
      intro label member
      rcases List.mem_cons.mp member with rfl | later
      · exact id
      · apply ih ?_ ?_ run alternative label later
        · exact rolledBack
        · exact intact

/-- Without calls a run can go on from every session. -/
theorem exists_run_of_quiet (quiet : ∀ label ∈ labels, ¬label.IsCall) (state : StoreSession) :
    ∃ last, Run (Move deployment) state labels last := by
  induction labels generalizing state with
  | nil => exact ⟨state, .start⟩
  | cons label rest ih =>
    cases label with
    | called call answer => exact absurd trivial (quiet _ List.mem_cons_self)
    | others change =>
      obtain ⟨last, run⟩ := ih (fun label member => quiet label (List.mem_cons_of_mem _ member))
        { state with table := change state.table }
      exact ⟨last, Run.cons_iff.mpr ⟨_, .others change, run⟩⟩

/-- Rejected issues have no effect on the answers of a run exactly when no call follows one. -/
theorem leavesNoTrace_iff (run : Run (Move deployment) initial labels last) :
    LeavesNoTrace deployment initial labels ↔ EndsInRejection deployment initial labels := by
  constructor
  · intro traceless before nonce answer after state whole reached rejects
    subst whole
    obtain ⟨middle, next, earlier, move, later⟩ := run.split
    obtain rfl := earlier.unique Move.determined reached
    cases move with
    | called performed =>
      rw [perform_of_rejects rejects] at performed
      cases performed
      obtain ⟨last', whole⟩ := traceless before nonce _ after rfl
      obtain ⟨state', reached', alternative⟩ := Run.append_iff.mp whole
      obtain rfl := reached'.unique Move.determined reached
      exact quiet_of_agreement rfl rejects.1 later alternative
  · intro ends before nonce message after whole
    subst whole
    obtain ⟨state, next, earlier, move, later⟩ := run.split
    cases move with
    | called performed =>
      have quiet := ends before nonce _ after state rfl earlier (rejects_of_conflict performed)
      obtain ⟨last', rest⟩ := exists_run_of_quiet quiet state
      exact ⟨last', Run.append_iff.mpr ⟨state, earlier, rest⟩⟩

/-- A store in a transaction of the sample tenant that has just begun. -/
def sampleStore : StoreSession where
  session := sampleTenantSession
  table := created.resolve 1 .active
  health := .sound

/-- The store once it holds the sample nonce. -/
def sampleStored : StoreSession :=
  { sampleStore with table := sampleStore.table.insert 1 sampleNonce.digest sampleNonce }

theorem sampleStore_issues :
    sampleStore.perform sampleDeployment (.issue sampleNonce) = some (.issued (.ok ()), sampleStored) := rfl

theorem sampleStored_conflicts :
    sampleStored.perform sampleDeployment (.issue sampleNonce) =
      some (.issued (.error (.store (.nonceConflict "authorization nonce already exists"))), sampleStored.rollBack) := rfl

theorem leavesNoTrace_iff_sample :
    LeavesNoTrace sampleDeployment sampleStore [.called (.issue sampleNonce) (.issued (.ok ())),
      .called (.issue sampleNonce) (.issued (.error (.store (.nonceConflict "authorization nonce already exists"))))] := by
  have run := (Run.start.snoc (Move.called sampleStore_issues)).snoc (Move.called sampleStored_conflicts)
  refine (leavesNoTrace_iff run).mpr ?_
  intro before nonce answer after state whole reached rejects
  cases before with
  | nil =>
    obtain rfl := Run.nil_iff.mp reached
    cases whole
    obtain ⟨_, _, present | ⟨_, unknown⟩⟩ := rejects
    · rw [show sampleStore.table = created.resolve 1 .active from rfl, created_free] at present
      contradiction
    · contradiction
  | cons first rest =>
    have last : after = [] := by
      have lengths := congrArg List.length whole
      simp at lengths
      exact List.eq_nil_of_length_eq_zero (by omega)
    simp [last]

/-- A duplicate in a transaction takes the nonce away that was issued before it: the consumption that would find
it answers that a rollback is pending. -/
theorem duplicate_spoils_store :
    ∃ last last',
      Run (Move sampleDeployment) sampleStore [.called (.issue sampleNonce) (.issued (.ok ())),
        .called (.issue sampleNonce) (.issued (.error (.store (.nonceConflict "authorization nonce already exists")))),
        .called (.consume sampleNonce.digest) (.consumed (.error .pendingRollback))] last ∧
      Run (Move sampleDeployment) sampleStore [.called (.issue sampleNonce) (.issued (.ok ())),
        .called (.consume sampleNonce.digest) (.consumed (.ok (some sampleNonce)))] last' ∧
      ¬LeavesNoTrace sampleDeployment sampleStore [.called (.issue sampleNonce) (.issued (.ok ())),
        .called (.issue sampleNonce) (.issued (.error (.store (.nonceConflict "authorization nonce already exists")))),
        .called (.consume sampleNonce.digest) (.consumed (.error .pendingRollback))] := by
  have issued := Run.start.snoc (Move.called sampleStore_issues)
  have spoiled := (issued.snoc (Move.called sampleStored_conflicts)).snoc
    (@Move.called sampleDeployment _ _ (.consume sampleNonce.digest) _ rfl)
  have consumed := issued.snoc (@Move.called sampleDeployment _ _ (.consume sampleNonce.digest) _ rfl)
  refine ⟨_, _, spoiled, consumed, ?_⟩
  intro traceless
  obtain ⟨last, run⟩ := traceless [_] sampleNonce _ [_] rfl
  obtain ⟨next, issuing, rest⟩ := Run.cons_iff.mp run
  obtain ⟨final, consuming, _⟩ := Run.cons_iff.mp rest
  obtain rfl := Move.determined _ _ _ _ issuing (Move.called sampleStore_issues)
  cases consuming with
  | called performed => exact not_pendingRollback_of_sound rfl performed rfl

end PortfolioManager.Persistence
