import PortfolioManager.Persistence.NonceRuns

/-! # Tenant isolation over pooled connections

A role that does not bypass row security touches, in each transaction, the rows of the tenant
that this transaction has set. What earlier transactions did on the same connection makes no
difference, and a transaction without a tenant finds and stores nothing.
-/

namespace PortfolioManager.Persistence

open PortfolioManager.Domain Mvcc Sql Runs SqlAlchemyAuthorizationNonceStore

/-- The tenant a row belongs to. -/
def StoredAuthorizationNonce.owner (nonce : StoredAuthorizationNonce) : BitVec 128 := nonce.tenantId.value.value

/-- The error of a statement. -/
def Event.error : Event → Option StoreError
  | issued _ _ (.error error) => some error
  | consumed _ _ (.error error) => some error
  | _ => none

/-- What a step may do in a transaction that has set a tenant, or none. -/
structure TenantScoped (tenant : Option (BitVec 128)) (event : Event) (table next : NonceTable) : Prop where
  keeps : table.Kept next
  deletes : ∀ (position : ℕ) (version version' : NonceVersion), table.versions[position]? = some version →
    next.versions[position]? = some version' → version'.deletedBy ≠ version.deletedBy → tenant = some version.value.owner
  stores : ∀ version ∈ next.versions.drop table.versions.length, tenant = some version.value.owner
  returns : ∀ link digest nonce, event = .consumed link digest (.ok (some nonce)) → tenant = some nonce.owner
  casts : ∀ failure, event.error ≠ some (.database (.expression failure))

/-- What is left of a step in a transaction that has set no tenant. -/
structure FailsClosed (event : Event) (table next : NonceTable) : Prop where
  versions : next.versions = table.versions
  consumes : ∀ link digest outcome, event = .consumed link digest outcome → outcome = .ok none
  issues : ∀ link nonce outcome, event = .issued link nonce outcome → outcome = .error (.database .rowSecurity)

variable {deployment : Deployment} {initial : NonceTable} {events : List Event} {world next : World} {event : Event}

/-- Row security reads the tenant of the transaction. -/
theorem permits_session (enforced : deployment.bypassesRowSecurity = false) (transaction : Transaction)
    {clause : Policy → Expr} (clauses : clause = Policy.usingClause ∨ clause = Policy.withCheck)
    (nonce : StoredAuthorizationNonce) :
    permits deployment transaction.session clause nonce = .ok (transaction.setting.id? = some nonce.owner) :=
  permits_enforced enforced transaction.setting rfl clauses nonce

theorem owner_of_permits (enforced : deployment.bypassesRowSecurity = false) {transaction : Transaction}
    {clause : Policy → Expr} (clauses : clause = Policy.usingClause ∨ clause = Policy.withCheck)
    {nonce : StoredAuthorizationNonce} (permitted : permits deployment transaction.session clause nonce = .ok true) :
    transaction.setting.id? = some nonce.owner := by
  rw [permits_session enforced transaction clauses] at permitted
  simpa using permitted

/-- A consumption under row security never fails. -/
theorem step_consumed (enforced : deployment.bypassesRowSecurity = false) {link : LinkId} {digest : String}
    {outcome : Except StoreError (Option StoredAuthorizationNonce)}
    (step : Step deployment world (.consumed link digest outcome) next) : ∃ found, outcome = .ok found := by
  have deleted {session : Session} {position : ℕ} {table : NonceTable}
      (finished : deleteReturning session position world.table = .done outcome table) : ∃ found, outcome = .ok found := by
    rcases deleteReturning_eq_done finished with ⟨rfl, _⟩ | ⟨version, _, rfl, _⟩
    · exact ⟨none, rfl⟩
    · exact ⟨some version.value, rfl⟩
  cases step with
  | @consumed _ transaction _ _ table _ _ finished =>
    rcases @consume_cases deployment transaction.session world.table digest with
      ⟨failure, _, failed⟩ | nothing | ⟨position, _, _, _, _, deleting⟩
    · obtain ⟨chosen, scanned⟩ := @exists_scan_eq_ok deployment transaction.session world.table digest
        (fun nonce => ⟨_, permits_session enforced transaction (.inl rfl) nonce⟩) world.table.versions.zipIdx
      rw [scanned] at failed
      contradiction
    · cases nothing.symm.trans finished
      exact ⟨none, rfl⟩
    · exact deleted (deleting ▸ finished)
  | resumed _ _ finished => exact deleted finished

theorem step_casts (enforced : deployment.bypassesRowSecurity = false) (step : Step deployment world event next)
    (failure : Failure) : event.error ≠ some (.database (.expression failure)) := by
  intro failed
  cases event with
  | issued link nonce outcome =>
    cases step with
    | @issued _ transaction _ _ _ _ _ finished =>
      cases outcome with
      | ok value => contradiction
      | error error =>
        cases failed
        have refused := issue_expression finished
        rw [permits_session enforced transaction (.inr rfl)] at refused
        contradiction
  | consumed link digest outcome =>
    obtain ⟨found, rfl⟩ := step_consumed enforced step
    contradiction
  | _ => contradiction

/-- A statement touches the rows of its transaction's tenant. -/
theorem Effect.tenantScoped (enforced : deployment.bypassesRowSecurity = false) {transaction : Transaction}
    {table table' : NonceTable} (effect : Effect deployment transaction.session table event table')
    (casts : ∀ failure, event.error ≠ some (.database (.expression failure))) :
    TenantScoped transaction.setting.id? event table table' := by
  refine ⟨effect.kept, ?_, ?_, ?_, casts⟩
  · intro position version version' before after changed
    cases effect with
    | unchanged =>
      cases before.symm.trans after
      exact absurd rfl changed
    | stored =>
      rw [Table.insert, List.getElem?_append_left (List.getElem?_eq_some_iff.mp before).1] at after
      cases before.symm.trans after
      exact absurd rfl changed
    | @removed _ _ position' found chosen _ =>
      rw [Table.deleteAt_getElem?, before, Option.map_some, Option.some.injEq] at after
      split at after
      · next same =>
        subst same
        cases before.symm.trans chosen.present
        exact owner_of_permits enforced (.inl rfl) chosen.permitted
      · subst after
        exact absurd rfl changed
  · intro version added
    cases effect with
    | unchanged => simp at added
    | stored permitted =>
      rw [Table.insert, List.drop_left, List.mem_singleton] at added
      subst added
      exact owner_of_permits enforced (.inr rfl) permitted
    | @removed _ _ position =>
      have longer : (table.deleteAt transaction.session.transaction position).versions.length ≤ table.versions.length := by
        simp [Table.deleteAt]
      rw [List.drop_eq_nil_of_le longer] at added
      contradiction
  · intro link digest nonce returned
    cases effect with
    | unchanged quiet =>
      rw [returned] at quiet
      contradiction
    | stored => cases returned
    | removed chosen =>
      cases returned
      exact owner_of_permits enforced (.inl rfl) chosen.permitted

theorem advance_scoped (enforced : deployment.bypassesRowSecurity = false)
    (coherent : Coherent deployment events world) (step : Step deployment world event next)
    {transaction transaction' : Transaction} {table : NonceTable}
    (advances : Advances deployment world event transaction transaction' table) :
    TenantScoped (tenantOf event.link events) event world.table table :=
  coherent.tenant event.link transaction advances.opened ▸ advances.effect.tenantScoped enforced (step_casts enforced step)

/-- Beginning or ending a transaction leaves every version alone. -/
theorem TenantScoped.of_resolve {tenant : Option (BitVec 128)} {table : NonceTable} (id : TxnId) (fate : Fate)
    (quiet : ∀ link digest nonce, event ≠ .consumed link digest (.ok (some nonce)))
    (casts : ∀ failure, event.error ≠ some (.database (.expression failure))) :
    TenantScoped tenant event table (table.resolve id fate) := by
  refine ⟨table.resolve_kept id fate, ?_, ?_, fun link digest nonce same => absurd same (quiet link digest nonce), casts⟩
  · intro position version version' before after changed
    cases before.symm.trans after
    exact absurd rfl changed
  · intro version added
    simp at added

theorem step_scoped (enforced : deployment.bypassesRowSecurity = false)
    (coherent : Coherent deployment events world) (step : Step deployment world event next) :
    TenantScoped (tenantOf event.link events) event world.table next.table := by
  rcases coherent.step_cases step with
    ⟨id, begun, _, rfl⟩ | ⟨transaction, transaction', table, advances, rfl⟩ | ⟨transaction, fate, _, ends, rfl⟩
  · refine .of_resolve id .active (fun _ _ _ returned => ?_) (step_casts enforced step)
    rw [returned] at begun
    contradiction
  · exact advance_scoped enforced coherent step advances
  · refine .of_resolve transaction.id fate (fun _ _ _ returned => ?_) (step_casts enforced step)
    rw [returned] at ends
    contradiction

/-- Where no tenant is set, a step that is scoped to it does nothing. -/
theorem step_closed (enforced : deployment.bypassesRowSecurity = false)
    (coherent : Coherent deployment events world) (step : Step deployment world event next)
    (unset : tenantOf event.link events = none) : FailsClosed event world.table next.table := by
  have within := step_scoped enforced coherent step
  rw [unset] at within
  refine ⟨?_, ?_, ?_⟩
  · rcases coherent.step_cases step with
      ⟨id, _, _, rfl⟩ | ⟨transaction, transaction', table, advances, rfl⟩ | ⟨transaction, fate, _, _, rfl⟩
    · rfl
    · have tenant := coherent.tenant event.link transaction advances.opened
      rw [unset] at tenant
      cases advances.effect with
      | unchanged => rfl
      | stored permitted => cases tenant.symm.trans (owner_of_permits enforced (.inr rfl) permitted)
      | removed chosen => cases tenant.symm.trans (owner_of_permits enforced (.inl rfl) chosen.permitted)
    · rfl
  · rintro link digest outcome rfl
    obtain ⟨found, rfl⟩ := step_consumed enforced step
    cases found with
    | none => rfl
    | some nonce => cases within.returns link digest nonce rfl
  · rintro link nonce outcome rfl
    cases step with
    | @issued _ transaction _ _ table opened _ finished =>
      have refused := permits_session enforced transaction (.inr rfl) nonce
      rw [(coherent.tenant link transaction opened).trans unset] at refused
      cases (issue_refused refused).symm.trans finished
      rfl

/-- In every run, each step touches only rows of the tenant that its own transaction has set, no cast
fails, and without a tenant nothing is returned, deleted or stored. -/
theorem tenant_isolation (enforced : deployment.bypassesRowSecurity = false)
    (run : Run (Step deployment) (World.start initial) events world) (step : Step deployment world event next) :
    TenantScoped (tenantOf event.link events) event world.table next.table ∧
      (tenantOf event.link events = none → FailsClosed event world.table next.table) :=
  ⟨step_scoped enforced (run_coherent run) step, step_closed enforced (run_coherent run) step⟩

/-- A connection that has stored a nonce finds nothing in its next transaction, which sets no tenant. -/
theorem tenant_isolation_sample : ∃ world next,
    Run (Step sampleDeployment) (World.start created) (sampleIssue ++ [.begun 0]) world ∧
      world.table.versions.map (·.value) = [sampleNonce] ∧
      Step sampleDeployment world (.consumed 0 sampleNonce.digest (.ok none)) next ∧
      TenantScoped none (.consumed 0 sampleNonce.digest (.ok none)) world.table next.table ∧
      FailsClosed (.consumed 0 sampleNonce.digest (.ok none)) world.table next.table := by
  have begun := Run.start.snoc (@Step.begun sampleDeployment (World.start created) 0 1 rfl rfl)
  have tenant := begun.snoc (@Step.tenantSet _ _ 0 _ _ _ (UuidText.parse_render sampleTenant) rfl ⟨rfl, rfl⟩)
  have issued := tenant.snoc (@Step.issued _ _ 0 _ sampleNonce _ _ rfl ⟨rfl, rfl⟩ rfl)
  have committed := issued.snoc (@Step.committed _ _ 0 _ rfl ⟨rfl, rfl⟩)
  have run := committed.snoc (@Step.begun _ _ 0 2 rfl rfl)
  have isolated {next : World} (step : Step sampleDeployment _ (.consumed 0 sampleNonce.digest (.ok none)) next) :=
    And.intro step (tenant_isolation rfl run step)
  obtain ⟨step, within, closed⟩ := isolated (.consumed rfl ⟨rfl, rfl⟩ rfl)
  exact ⟨_, _, run, rfl, step, within, closed rfl⟩

end PortfolioManager.Persistence
