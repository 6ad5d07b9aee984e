import PortfolioManager.Library.Sql

/-! # Tenant isolation of the authentication tables

The row security part of the first migration: three tables, one policy each, and one predicate
that serves as `USING` and as `WITH CHECK`. The predicate reads a setting that a transaction
establishes for itself.
-/

namespace PortfolioManager.Persistence

open Sql

def tenantSetting : String := "app.tenant_id"

/-- `tenant_id = NULLIF(current_setting('app.tenant_id', true), '')::uuid`. -/
def tenantPredicate : Expr :=
  .equals (.column "tenant_id") (.castUuid (.nullIf (.currentSetting tenantSetting true) (.literal "")))

def securedTables : List String := ["broker_connections", "encrypted_secrets", "authorization_nonces"]

def policies : List Policy :=
  securedTables.map fun table => ⟨table ++ "_tenant_isolation", table, tenantPredicate, tenantPredicate⟩

/-- The value of the tenant setting that a transaction can find itself under: never set on the
connection, left empty by an earlier transaction, or the text of a tenant. -/
inductive Setting where
  | never
  | reset
  | tenant (text : String) (id : BitVec 128) (reads : UuidText.parse text = some id)

/-- What `current_setting('app.tenant_id', true)` returns. -/
def Setting.current : Setting → Option String
  | never => none
  | reset => some ""
  | tenant text _ _ => some text

/-- The tenant a setting stands for. -/
def Setting.id? : Setting → Option (BitVec 128)
  | tenant _ id _ => some id
  | _ => none

theorem parse_empty : UuidText.parse "" = none := by decide

/-- Unset and reset settings read as NULL, a tenant's text as its UUID. -/
theorem eval_setting (setting : Setting) {env : Env} (current : env.setting tenantSetting = setting.current) :
    (Expr.castUuid (.nullIf (.currentSetting tenantSetting true) (.literal ""))).eval env =
      .ok (setting.id?.map .uuid) := by
  cases setting with
  | never => simp [Expr.eval, current, Setting.current, Setting.id?, equal, toUuid, bind, Except.bind, pure, Except.pure]
  | reset => simp [Expr.eval, current, Setting.current, Setting.id?, equal, toUuid, bind, Except.bind, pure, Except.pure]
  | tenant text id reads =>
    have nonempty : text ≠ "" := by
      rintro rfl
      rw [parse_empty] at reads
      contradiction
    simp [Expr.eval, current, Setting.current, Setting.id?, equal, toUuid, bind, Except.bind, pure, Except.pure,
      nonempty, reads]

/-- The predicate holds exactly for rows of the tenant that is set, and never fails. -/
theorem tenantPredicate_admits (setting : Setting) {env : Env} {owner : BitVec 128}
    (column : env.column "tenant_id" = some (some (.uuid owner))) (current : env.setting tenantSetting = setting.current) :
    tenantPredicate.admits env = .ok (setting.id? = some owner) := by
  have cast := eval_setting setting current
  rw [tenantPredicate, Expr.admits, Expr.eval, cast, Expr.eval, column]
  cases set : setting.id? with
  | none => rfl
  | some id =>
    change Except.ok (decide (some (Value.boolean (owner = id)) = some (.boolean true))) = _
    simp [eq_comm]

/-- The only policy of the nonce table decides by the tenant that is set. -/
theorem nonces_admitted (clause : Policy → Expr) (clauses : clause = Policy.usingClause ∨ clause = Policy.withCheck)
    (setting : Setting) {env : Env} {owner : BitVec 128}
    (column : env.column "tenant_id" = some (some (.uuid owner))) (current : env.setting tenantSetting = setting.current) :
    admitted policies "authorization_nonces" clause env = .ok (setting.id? = some owner) := by
  have own : policies.filter (fun policy => policy.table = "authorization_nonces") =
      [⟨"authorization_nonces_tenant_isolation", "authorization_nonces", tenantPredicate, tenantPredicate⟩] := rfl
  have predicate := tenantPredicate_admits setting column current
  have clause_eq : clause ⟨"authorization_nonces_tenant_isolation", "authorization_nonces", tenantPredicate,
      tenantPredicate⟩ = tenantPredicate := by rcases clauses with rfl | rfl <;> rfl
  rw [admitted, own, List.anyM, clause_eq, predicate]
  cases decide (setting.id? = some owner) <;> rfl

end PortfolioManager.Persistence
