import PortfolioManager.Persistence.NonceRuns

/-! # What a conflict says

`issue` reports every violated constraint of the nonce table as a conflict: that of the primary key, where
the digest is present, and that of the foreign key, where it is the connection that is missing.
-/

namespace PortfolioManager.Persistence

open Mvcc Sql SqlAlchemyAuthorizationNonceStore

/-- The setting of a session names a tenant. -/
def Session.Within (session : Session) (tenant : BitVec 128) : Prop :=
  ∃ setting : Setting, session.setting = setting.current ∧ setting.id? = some tenant

/-- The transaction of a session finds a row with the digest. -/
def RowPresent (session : Session) (digest : String) (table : NonceTable) : Prop :=
  ∃ version ∈ table.versions, version.key = digest ∧ table.sees session.transaction version = true

/-- A finished `issue` reports a conflict exactly when its digest is present, and stores its row or fails otherwise
when it is not. -/
structure LabelsConflicts (session : Session) (nonce : StoredAuthorizationNonce) (table : NonceTable)
    (outcome : Except StoreError Unit) (next : NonceTable) : Prop where
  conflict : (∃ message, outcome = .error (.nonceConflict message)) ↔ RowPresent session nonce.digest table
  fresh : ¬RowPresent session nonce.digest table →
    (outcome = .ok () ∧ next = table.insert session.transaction nonce.digest nonce) ∨ ∃ error, outcome = .error (.database error)

variable {deployment : Deployment} {session : Session} {nonce : StoredAuthorizationNonce} {table next : NonceTable}

/-- Row security lets a session touch the rows of the tenant that is set. -/
theorem permits_within (within : session.Within nonce.tenantId.value.value) {clause : Policy → Expr}
    (clauses : clause = Policy.usingClause ∨ clause = Policy.withCheck) :
    permits deployment session clause nonce = .ok true := by
  obtain ⟨setting, current, names⟩ := within
  cases privilege : deployment.bypassesRowSecurity with
  | true => simp [permits, privilege]
  | false => simp [permits_enforced privilege setting current clauses, names]

/-- What an `issue` that row security admits comes to, by the state of its key. -/
theorem issue_of_permitted (permitted : permits deployment session Policy.withCheck nonce = .ok true) :
    issue deployment session nonce table =
      match table.keyState session.transaction nonce.digest with
      | .wait => .waits none
      | .present => .done (.error (.nonceConflict "authorization nonce already exists")) table
      | .free =>
          if deployment.registered nonce.tenantId nonce.connectionId then
            .done (.ok ()) (table.insert session.transaction nonce.digest nonce)
          else .done (.error (.nonceConflict "authorization nonce already exists")) table := by
  simp only [issue, flush, permitted]
  cases table.keyState session.transaction nonce.digest with
  | wait => rfl
  | present => rfl
  | free => cases deployment.registered nonce.tenantId nonce.connectionId <;> rfl

/-- For the session's own tenant, conflicts mean a present digest exactly when the digest is present or the
connection is registered. -/
theorem labelsConflicts_iff (within : session.Within nonce.tenantId.value.value)
    (opened : table.fate session.transaction = .active) (authored : table.Authored) {outcome : Except StoreError Unit}
    (finished : issue deployment session nonce table = .done outcome next) :
    LabelsConflicts session nonce table outcome next ↔
      RowPresent session nonce.digest table ∨ deployment.registered nonce.tenantId nonce.connectionId = true := by
  rw [issue_of_permitted (permits_within within (.inr rfl))] at finished
  cases state : table.keyState session.transaction nonce.digest with
  | wait =>
    rw [state] at finished
    contradiction
  | present =>
    rw [state] at finished
    cases finished
    have settled : table.keyState session.transaction nonce.digest ≠ .wait := by simp [state]
    have present : RowPresent session nonce.digest table := (Table.keyState_eq_present_iff opened authored settled).mp state
    exact iff_of_true ⟨iff_of_true ⟨_, rfl⟩ present, fun absent => absurd present absent⟩ (.inl present)
  | free =>
    have settled : table.keyState session.transaction nonce.digest ≠ .wait := by simp [state]
    have absent : ¬RowPresent session nonce.digest table := by
      intro present
      have taken := (Table.keyState_eq_present_iff opened authored settled).mpr present
      rw [state] at taken
      contradiction
    rw [state] at finished
    cases known : deployment.registered nonce.tenantId nonce.connectionId with
    | true =>
      simp only [known, ↓reduceIte, Execution.done.injEq] at finished
      obtain ⟨rfl, rfl⟩ := finished
      exact iff_of_true ⟨iff_of_false (by simp) absent, fun _ => .inl ⟨rfl, rfl⟩⟩ (.inr rfl)
    | false =>
      simp only [known, Bool.false_eq_true, ↓reduceIte, Execution.done.injEq] at finished
      obtain ⟨rfl, rfl⟩ := finished
      exact iff_of_false (fun labels => absent (labels.conflict.mp ⟨_, rfl⟩)) (by simp [absent])

/-- A session of the sample tenant in the first transaction of a database. -/
def sampleTenantSession : Session where
  transaction := 1
  setting := some (UuidText.render sampleTenant)

theorem sampleTenantSession_within : sampleTenantSession.Within sampleNonce.tenantId.value.value :=
  ⟨.tenant (UuidText.render sampleTenant) sampleTenant (UuidText.parse_render sampleTenant), rfl, rfl⟩

/-- In a table without versions every key is free. -/
theorem created_free (txn : TxnId) (fate : Fate) (session : Session) (digest : String) :
    (created.resolve txn fate).keyState session.transaction digest = .free :=
  Table.keyState_eq_free_iff.mpr (by simp [created])

theorem labelsConflicts_iff_sample :
    LabelsConflicts sampleTenantSession sampleNonce (created.resolve 1 .active) (.ok ())
      ((created.resolve 1 .active).insert 1 sampleNonce.digest sampleNonce) := by
  have finished : issue sampleDeployment sampleTenantSession sampleNonce (created.resolve 1 .active) =
      .done (.ok ()) ((created.resolve 1 .active).insert 1 sampleNonce.digest sampleNonce) := by
    rw [issue_of_permitted (permits_within sampleTenantSession_within (.inr rfl)), created_free]
    rfl
  have opened : (created.resolve 1 .active).fate sampleTenantSession.transaction = .active := by
    simp [Table.resolve, sampleTenantSession]
  have authored : (created.resolve 1 .active).Authored := by simp [Table.Authored, created]
  exact (labelsConflicts_iff sampleTenantSession_within opened authored finished).mpr (.inr rfl)

/-- In a database without the connection, a digest that nobody has issued is reported as a conflict. -/
theorem conflict_without_row :
    issue ⟨false, fun _ _ => false⟩ sampleTenantSession sampleNonce (created.resolve 1 .active) =
        .done (.error (.nonceConflict "authorization nonce already exists")) (created.resolve 1 .active) ∧
      ¬RowPresent sampleTenantSession sampleNonce.digest (created.resolve 1 .active) := by
  refine ⟨?_, by simp [RowPresent, created]⟩
  rw [issue_of_permitted (permits_within sampleTenantSession_within (.inr rfl)), created_free]
  rfl

end PortfolioManager.Persistence
