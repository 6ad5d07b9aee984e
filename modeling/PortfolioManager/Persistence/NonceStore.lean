import PortfolioManager.Application.Connectors
import PortfolioManager.Library.Mvcc
import PortfolioManager.Persistence.Migration

/-! # Authorization nonces in PostgreSQL

`issue` adds a record and flushes, which is one INSERT; `consume` is one `DELETE ... RETURNING`.
Each statement runs in a transaction of its session, under the row security of the table unless
the role bypasses it. A statement that meets a row another open transaction has inserted or
deleted waits for that transaction.
-/

namespace PortfolioManager.Persistence

open PortfolioManager.Python PortfolioManager.Domain PortfolioManager.Application Checked Mvcc Sql

structure StoredAuthorizationNonce where
  tenantId : TenantId
  connectionId : BrokerConnectionId
  digest : String
  expiresAt : Instant
  createdAt : Instant
  digestShape : isDigest digest = true

def StoredAuthorizationNonce.new (tenantId : TenantId) (connectionId : BrokerConnectionId) (digest : String)
    (expiresAt createdAt : Datetime) : Except Builtin StoredAuthorizationNonce := do
  let ⟨digestShape⟩ ← check (isDigest digest = true)
    (.valueError "authorization nonce digest must be lowercase SHA-256")
  let expiry ← asUtc expiresAt "expires_at"
  let created ← asUtc createdAt "created_at"
  return ⟨tenantId, connectionId, digest, expiry, created, digestShape⟩

/-- The `authorization_nonces` table, keyed by its primary key. -/
abbrev NonceTable := Table String StoredAuthorizationNonce

abbrev NonceVersion := Version String StoredAuthorizationNonce

/-- What a statement on the table can fail with. -/
inductive DatabaseError where
  | integrity (constraint : String)
  | rowSecurity
  | expression (failure : Failure)
deriving DecidableEq

inductive StoreError where
  | nonceConflict (message : String)
  | database (error : DatabaseError)
deriving DecidableEq

/-- The role's privilege and the `broker_connections` rows that nonces refer to. -/
structure Deployment where
  bypassesRowSecurity : Bool
  registered : TenantId → BrokerConnectionId → Bool

/-- A database session inside a transaction: the transaction and the setting its policies read. -/
structure Session where
  transaction : TxnId
  setting : Option String

/-- A row and the session settings, as policies see them. -/
def Session.env (session : Session) (row : StoredAuthorizationNonce) : Env where
  column name :=
    if name = "digest" then some (some (.text row.digest))
    else if name = "tenant_id" then some (some (.uuid row.tenantId.value.value))
    else if name = "connection_id" then some (some (.uuid row.connectionId.value.value))
    else if name = "expires_at" then some (some (.timestamp row.expiresAt.micros))
    else if name = "created_at" then some (some (.timestamp row.createdAt.micros))
    else none
  setting name := if name = tenantSetting then session.setting else none

/-- Whether row security lets a statement of the session touch a row. -/
def permits (deployment : Deployment) (session : Session) (clause : Policy → Expr) (row : StoredAuthorizationNonce) :
    Except Failure Bool :=
  if deployment.bypassesRowSecurity then .ok true
  else admitted policies "authorization_nonces" clause (session.env row)

/-- A statement either finishes, with its outcome and the table it leaves, or waits, for a version to be
settled where it has already chosen one. -/
inductive Execution (α : Type) where
  | done (outcome : Except StoreError α) (table : NonceTable)
  | waits (position : Option ℕ)

namespace SqlAlchemyAuthorizationNonceStore

/-- The INSERT of a flush: row security first, then the primary key, then the foreign key. -/
def flush (deployment : Deployment) (session : Session) (nonce : StoredAuthorizationNonce) (table : NonceTable) :
    Option (Except DatabaseError NonceTable) :=
  match permits deployment session Policy.withCheck nonce with
  | .error failure => some (.error (.expression failure))
  | .ok false => some (.error .rowSecurity)
  | .ok true =>
      match table.keyState session.transaction nonce.digest with
      | .wait => none
      | .present => some (.error (.integrity "authorization_nonces_pkey"))
      | .free =>
          if deployment.registered nonce.tenantId nonce.connectionId then
            some (.ok (table.insert session.transaction nonce.digest nonce))
          else some (.error (.integrity "fk_authorization_nonces_connection"))

def issue (deployment : Deployment) (session : Session) (nonce : StoredAuthorizationNonce) (table : NonceTable) :
    Execution Unit :=
  match flush deployment session nonce table with
  | none => .waits none
  | some (.ok table) => .done (.ok ()) table
  | some (.error (.integrity _)) => .done (.error (.nonceConflict "authorization nonce already exists")) table
  | some (.error error) => .done (.error (.database error)) table

/-- The first row of the digest that the statement sees and row security admits. -/
def scan (deployment : Deployment) (session : Session) (table : NonceTable) (digest : String) :
    List (NonceVersion × ℕ) → Except Failure (Option ℕ)
  | [] => .ok none
  | (version, position) :: rest =>
      if version.key = digest && table.sees session.transaction version then do
        if ← permits deployment session Policy.usingClause version.value then return some position
        else scan deployment session table digest rest
      else scan deployment session table digest rest

/-- The DELETE once it has chosen a version: it waits while another open transaction has deleted it,
and finds nothing if that transaction committed. -/
def deleteReturning (session : Session) (position : ℕ) (table : NonceTable) :
    Execution (Option StoredAuthorizationNonce) :=
  match table.versions[position]? with
  | none => .done (.ok none) table
  | some version =>
      if table.locked session.transaction version then .waits (some position)
      else if table.sees session.transaction version then
        .done (.ok (some version.value)) (table.deleteAt session.transaction position)
      else .done (.ok none) table

def consume (deployment : Deployment) (session : Session) (digest : String) (table : NonceTable) :
    Execution (Option StoredAuthorizationNonce) :=
  match scan deployment session table digest table.versions.zipIdx with
  | .error failure => .done (.error (.database (.expression failure))) table
  | .ok none => .done (.ok none) table
  | .ok (some position) => deleteReturning session position table

/-! ## What each statement does -/

variable {deployment : Deployment} {session : Session} {table next : NonceTable}

/-- A row the statement was allowed to take away. -/
structure Deletable (session : Session) (table : NonceTable) (position : ℕ)
    (version : NonceVersion) : Prop where
  present : table.versions[position]? = some version
  seen : table.sees session.transaction version = true
  unlocked : table.locked session.transaction version = false

/-- An INSERT that finishes has stored the row under a free key, or failed and left the table as it was. -/
theorem issue_eq_done {nonce : StoredAuthorizationNonce} {outcome : Except StoreError Unit}
    (finished : issue deployment session nonce table = .done outcome next) :
    (outcome = .ok () ∧ permits deployment session Policy.withCheck nonce = .ok true ∧
      table.keyState session.transaction nonce.digest = .free ∧
      next = table.insert session.transaction nonce.digest nonce) ∨
    (∃ error, outcome = .error error) ∧ next = table := by
  unfold issue flush at finished
  cases permitted : permits deployment session Policy.withCheck nonce with
  | error failure =>
    simp only [permitted, Execution.done.injEq] at finished
    exact .inr ⟨⟨_, finished.1.symm⟩, finished.2.symm⟩
  | ok admitted =>
    cases admitted with
    | false =>
      simp only [permitted, Execution.done.injEq] at finished
      exact .inr ⟨⟨_, finished.1.symm⟩, finished.2.symm⟩
    | true =>
      cases state : table.keyState session.transaction nonce.digest with
      | wait =>
        simp only [permitted, state] at finished
        contradiction
      | present =>
        simp only [permitted, state, Execution.done.injEq] at finished
        exact .inr ⟨⟨_, finished.1.symm⟩, finished.2.symm⟩
      | free =>
        by_cases known : deployment.registered nonce.tenantId nonce.connectionId = true
        · simp only [permitted, state, known, ↓reduceIte, Execution.done.injEq] at finished
          exact .inl ⟨finished.1.symm, rfl, rfl, finished.2.symm⟩
        · simp only [permitted, state, known, Bool.false_eq_true, ↓reduceIte, Execution.done.injEq] at finished
          exact .inr ⟨⟨_, finished.1.symm⟩, finished.2.symm⟩

/-- An INSERT of a row outside the tenant that is set is refused before it looks at the table. -/
theorem issue_refused {nonce : StoredAuthorizationNonce}
    (refused : permits deployment session Policy.withCheck nonce = .ok false) :
    issue deployment session nonce table = .done (.error (.database .rowSecurity)) table := by
  simp only [issue, flush, refused]

/-- An INSERT reports a failed expression only when its row security check failed so. -/
theorem issue_expression {nonce : StoredAuthorizationNonce} {failure : Failure}
    (failed : issue deployment session nonce table = .done (.error (.database (.expression failure))) next) :
    permits deployment session Policy.withCheck nonce = .error failure := by
  unfold issue at failed
  split at failed
  · cases failed
  · cases failed
  · cases failed
  · next error flushed =>
    cases failed
    unfold flush at flushed
    split at flushed
    · next refused =>
      cases flushed
      exact refused
    · cases flushed
    · split at flushed
      · cases flushed
      · cases flushed
      · split at flushed <;> cases flushed

theorem deleteReturning_eq_done {position : ℕ} {outcome : Except StoreError (Option StoredAuthorizationNonce)}
    (finished : deleteReturning session position table = .done outcome next) :
    (outcome = .ok none ∧ next = table) ∨
    ∃ version, Deletable session table position version ∧ outcome = .ok (some version.value) ∧
      next = table.deleteAt session.transaction position := by
  unfold deleteReturning at finished
  split at finished
  · cases finished
    exact .inl ⟨rfl, rfl⟩
  · next version present =>
    split at finished
    · cases finished
    · next unlocked =>
      split at finished
      · next seen =>
        cases finished
        exact .inr ⟨version, ⟨present, seen, by simpa using unlocked⟩, rfl, rfl⟩
      · cases finished
        exact .inl ⟨rfl, rfl⟩

theorem deleteReturning_waits {position : ℕ} {waiting : Option ℕ}
    (blocked : deleteReturning session position table = .waits waiting) : waiting = some position := by
  unfold deleteReturning at blocked
  split at blocked
  · cases blocked
  · split at blocked
    · cases blocked
      rfl
    · split at blocked <;> cases blocked

/-- The version a DELETE chooses has the digest and is admitted. -/
theorem scan_eq_some {digest : String} {versions : List (NonceVersion × ℕ)} {position : ℕ}
    (found : scan deployment session table digest versions = .ok (some position)) :
    ∃ version, (version, position) ∈ versions ∧ version.key = digest ∧
      permits deployment session Policy.usingClause version.value = .ok true := by
  induction versions with
  | nil => cases found
  | cons entry rest ih =>
    obtain ⟨version, here⟩ := entry
    have later (found : scan deployment session table digest rest = .ok (some position)) :
        ∃ chosen, (chosen, position) ∈ (version, here) :: rest ∧ chosen.key = digest ∧
          permits deployment session Policy.usingClause chosen.value = .ok true := by
      obtain ⟨chosen, member, named⟩ := ih found
      exact ⟨chosen, List.mem_cons_of_mem _ member, named⟩
    rw [scan] at found
    split at found
    · next matched =>
      obtain ⟨admitted, permitted, found⟩ := bind_eq_ok_iff.mp found
      cases admitted with
      | false => exact later found
      | true =>
        cases found
        simp only [Bool.and_eq_true, decide_eq_true_eq] at matched
        exact ⟨version, List.mem_cons_self .., matched.1, permitted⟩
    · exact later found

/-- Where row security never fails, neither does the choice of a version. -/
theorem exists_scan_eq_ok {digest : String}
    (decided : ∀ row, ∃ admitted, permits deployment session Policy.usingClause row = .ok admitted)
    (versions : List (NonceVersion × ℕ)) :
    ∃ chosen, scan deployment session table digest versions = .ok chosen := by
  induction versions with
  | nil => exact ⟨none, rfl⟩
  | cons entry rest ih =>
    obtain ⟨version, here⟩ := entry
    rw [scan]
    split
    · obtain ⟨admitted, permitted⟩ := decided version.value
      rw [permitted]
      cases admitted with
      | false => exact ih
      | true => exact ⟨some here, rfl⟩
    · exact ih

/-- A DELETE first chooses a version, if row security lets it see one, and then takes it away. -/
theorem consume_cases (digest : String) :
    (∃ failure, consume deployment session digest table = .done (.error (.database (.expression failure))) table ∧
      scan deployment session table digest table.versions.zipIdx = .error failure) ∨
    consume deployment session digest table = .done (.ok none) table ∨
    ∃ position version, table.versions[position]? = some version ∧ version.key = digest ∧
      permits deployment session Policy.usingClause version.value = .ok true ∧
      consume deployment session digest table = deleteReturning session position table := by
  unfold consume
  cases chosen : scan deployment session table digest table.versions.zipIdx with
  | error failure => exact .inl ⟨failure, rfl, rfl⟩
  | ok choice =>
    cases choice with
    | none => exact .inr (.inl rfl)
    | some position =>
      obtain ⟨version, member, named, permitted⟩ := scan_eq_some chosen
      exact .inr (.inr ⟨position, version, List.mem_zipIdx_iff_getElem?.mp member, named, permitted, rfl⟩)

end SqlAlchemyAuthorizationNonceStore

/-- Under row security, a session touches the rows of the tenant that is set and no others. -/
theorem permits_enforced {deployment : Deployment} {session : Session} (enforced : deployment.bypassesRowSecurity = false)
    (setting : Setting) (current : session.setting = setting.current) {clause : Policy → Expr}
    (clauses : clause = Policy.usingClause ∨ clause = Policy.withCheck) (row : StoredAuthorizationNonce) :
    permits deployment session clause row = .ok (setting.id? = some row.tenantId.value.value) := by
  have column : (session.env row).column "tenant_id" = some (some (.uuid row.tenantId.value.value)) := by
    simp [Session.env]
  have read : (session.env row).setting tenantSetting = setting.current := by
    simp [Session.env, current]
  rw [permits, enforced]
  exact nonces_admitted clause clauses setting column read

end PortfolioManager.Persistence
