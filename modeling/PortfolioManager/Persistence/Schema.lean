import Mathlib.Data.List.Find
import Mathlib.Tactic.IntervalCases
import PortfolioManager.Library.Relational
import PortfolioManager.Persistence.Migration
import PortfolioManager.Python.Text

/-! # The authentication tables

The first migration is a list of operations on a catalog of tables, and so is its way back. What the
declarative models say about the same tables is written down beside it.
-/

namespace PortfolioManager.Persistence

open PortfolioManager.Python Relational

/-- A stored value. -/
inductive Cell where
  | uuid (value : BitVec 128)
  | text (value : String)
  | timestamp (micros : ℤ)
  | integer (value : ℤ)
  | binary (value : Bytes)
deriving DecidableEq

inductive ColumnType where
  | uuid
  | string (length : ℕ)
  | dateTime
  | integer
  | largeBinary
deriving DecidableEq

def ColumnType.admits : ColumnType → Cell → Bool
  | uuid, .uuid _ => true
  | string length, .text value => value.length ≤ length
  | dateTime, .timestamp _ => true
  | integer, .integer value => -2147483648 ≤ value && value < 2147483648
  | largeBinary, .binary _ => true
  | _, _ => false

/-- A column with the constraints that are written in it. -/
structure ColumnSpec where
  name : String
  type : ColumnType
  primaryKey : Bool
  nullable : Bool
  unique : Bool
  index : Bool
  foreignKey : Option (String × String × OnDelete)
deriving DecidableEq

/-- A table with the constraints that are written beside its columns, and their names. -/
structure TableSpec where
  name : String
  columns : List ColumnSpec
  uniques : List (String × List String)
  foreignKeys : List (Option String × Reference)
deriving DecidableEq

namespace TableSpec

def keys (spec : TableSpec) : List (List String) :=
  [(spec.columns.filter (·.primaryKey)).map (·.name)] ++ (spec.columns.filter (·.unique)).map (fun column => [column.name]) ++
    spec.uniques.map Prod.snd

def references (spec : TableSpec) : List Reference :=
  spec.columns.filterMap (fun column => column.foreignKey.map fun (table, target, onDelete) =>
    ⟨[column.name], table, [target], onDelete⟩) ++ spec.foreignKeys.map Prod.snd

/-- The table as the database checks it; a primary key is never NULL. -/
def table (spec : TableSpec) : Table Cell where
  name := spec.name
  columns := spec.columns.map fun column => ⟨column.name, column.nullable && !column.primaryKey, column.type.admits⟩
  keys := spec.keys
  references := spec.references

end TableSpec

/-! ## The migration -/

namespace Migration

def primary (name : String) (type : ColumnType) : ColumnSpec := ⟨name, type, true, false, false, false, none⟩

def required (name : String) (type : ColumnType) : ColumnSpec := ⟨name, type, false, false, false, false, none⟩

def connectionReference : Reference := ⟨["tenant_id", "connection_id"], "broker_connections", ["tenant_id", "id"], .cascade⟩

def tenants : TableSpec where
  name := "tenants"
  columns := [primary "id" .uuid, required "name" (.string 120), required "created_at" .dateTime]
  uniques := []
  foreignKeys := []

def institutions : TableSpec where
  name := "institutions"
  columns := [primary "id" .uuid, { required "key" (.string 64) with unique := true }, required "name" (.string 120)]
  uniques := []
  foreignKeys := []

def brokerConnections : TableSpec where
  name := "broker_connections"
  columns := [primary "id" .uuid, { required "tenant_id" .uuid with foreignKey := some ("tenants", "id", .cascade) },
    { required "institution_id" .uuid with foreignKey := some ("institutions", "id", .noAction) },
    required "connector_key" (.string 64), required "label" (.string 120), required "authentication_status" (.string 32),
    { required "authentication_expires_at" .dateTime with nullable := true }, required "created_at" .dateTime]
  uniques := [("uq_broker_connections_tenant_id_id", ["tenant_id", "id"])]
  foreignKeys := []

def encryptedSecrets : TableSpec where
  name := "encrypted_secrets"
  columns := [primary "id" .uuid, required "tenant_id" .uuid, required "connection_id" .uuid,
    required "secret_kind" (.string 32), required "algorithm" (.string 64), required "format_version" .integer,
    required "key_version" (.string 64), required "wrapped_dek" .largeBinary, required "nonce" .largeBinary,
    required "ciphertext" .largeBinary, required "created_at" .dateTime, required "updated_at" .dateTime]
  uniques := [("uq_encrypted_secrets_kind", ["tenant_id", "connection_id", "secret_kind"])]
  foreignKeys := [(some "fk_encrypted_secrets_connection", connectionReference)]

def authorizationNonces : TableSpec where
  name := "authorization_nonces"
  columns := [primary "digest" (.string 64), required "tenant_id" .uuid, required "connection_id" .uuid,
    required "expires_at" .dateTime, required "created_at" .dateTime]
  uniques := []
  foreignKeys := [(some "fk_authorization_nonces_connection", connectionReference)]

def specs : List TableSpec := [tenants, institutions, brokerConnections, encryptedSecrets, authorizationNonces]

inductive Operation where
  | createTable (spec : TableSpec)
  | enableRowSecurity (table : String)
  | forceRowSecurity (table : String)
  | createPolicy (policy : Sql.Policy)
  | dropPolicyIfExists (name table : String)
  | dropTable (table : String)

/-- `upgrade`. -/
def upgrade : List Operation :=
  specs.map .createTable ++ policies.flatMap fun policy =>
    [.enableRowSecurity policy.table, .forceRowSecurity policy.table, .createPolicy policy]

/-- `downgrade`. -/
def downgrade : List Operation :=
  (["authorization_nonces", "encrypted_secrets", "broker_connections"].flatMap fun table =>
    [.dropPolicyIfExists (table ++ "_tenant_isolation") table, .dropTable table]) ++
    [.dropTable "institutions", .dropTable "tenants"]

end Migration

/-! ## The models -/

namespace Models

open Migration

def tenantRecord : TableSpec where
  name := "tenants"
  columns := [primary "id" .uuid, required "name" (.string 120), required "created_at" .dateTime]
  uniques := []
  foreignKeys := []

def institutionRecord : TableSpec where
  name := "institutions"
  columns := [primary "id" .uuid, { required "key" (.string 64) with unique := true }, required "name" (.string 120)]
  uniques := []
  foreignKeys := []

/-- The reference to the tenant is written beside the columns, and the reference to the institution has an index. -/
def brokerConnectionRecord : TableSpec where
  name := "broker_connections"
  columns := [primary "id" .uuid, required "tenant_id" .uuid,
    { required "institution_id" .uuid with foreignKey := some ("institutions", "id", .noAction), index := true },
    required "connector_key" (.string 64), required "label" (.string 120), required "authentication_status" (.string 32),
    { required "authentication_expires_at" .dateTime with nullable := true }, required "created_at" .dateTime]
  uniques := [("uq_broker_connections_tenant_id_id", ["tenant_id", "id"])]
  foreignKeys := [(none, ⟨["tenant_id"], "tenants", ["id"], .cascade⟩)]

def encryptedSecretRecord : TableSpec where
  name := "encrypted_secrets"
  columns := [primary "id" .uuid, required "tenant_id" .uuid, required "connection_id" .uuid,
    required "secret_kind" (.string 32), required "algorithm" (.string 64), required "format_version" .integer,
    required "key_version" (.string 64), required "wrapped_dek" .largeBinary, required "nonce" .largeBinary,
    required "ciphertext" .largeBinary, required "created_at" .dateTime, required "updated_at" .dateTime]
  uniques := [("uq_encrypted_secrets_kind", ["tenant_id", "connection_id", "secret_kind"])]
  foreignKeys := [(some "fk_encrypted_secrets_connection", connectionReference)]

def authorizationNonceRecord : TableSpec where
  name := "authorization_nonces"
  columns := [primary "digest" (.string 64), required "tenant_id" .uuid, required "connection_id" .uuid,
    required "expires_at" .dateTime, required "created_at" .dateTime]
  uniques := []
  foreignKeys := [(some "fk_authorization_nonces_connection", connectionReference)]

/-- The tables of `Base.metadata`. -/
def specs : List TableSpec :=
  [tenantRecord, institutionRecord, brokerConnectionRecord, encryptedSecretRecord, authorizationNonceRecord]

end Models

/-! ## Catalogs -/

/-- A table of a catalog and its row security. -/
structure CatalogEntry where
  spec : TableSpec
  rowSecurity : Bool
  forced : Bool
  policies : List Sql.Policy

abbrev Catalog := List CatalogEntry

inductive CatalogError where
  | duplicateTable (name : String)
  | undefinedTable (name : String)
  | unkeyedReference (reference : Reference)
  | duplicatePolicy (name : String)
  | dependentTable (name : String)
deriving DecidableEq

namespace Catalog

def names (catalog : Catalog) : List String := catalog.map (·.spec.name)

/-- Change the entry of a table. -/
def adjust (catalog : Catalog) (name : String) (change : CatalogEntry → CatalogEntry) : Catalog :=
  catalog.map fun entry => if entry.spec.name = name then change entry else entry

/-- The target of a reference exists, and has a key of the referenced columns. -/
def resolves (catalog : Catalog) (reference : Reference) : Bool :=
  catalog.any fun entry => entry.spec.name = reference.target && entry.spec.keys.contains reference.targetColumns

open Migration.Operation in
def apply (catalog : Catalog) : Migration.Operation → Except CatalogError Catalog
  | createTable spec =>
      if spec.name ∈ catalog.names then .error (.duplicateTable spec.name)
      else
        match spec.references.find? fun reference => !catalog.resolves reference with
        | some reference => .error (.unkeyedReference reference)
        | none => .ok (catalog ++ [⟨spec, false, false, []⟩])
  | enableRowSecurity name =>
      if name ∈ catalog.names then .ok (catalog.adjust name fun entry => { entry with rowSecurity := true })
      else .error (.undefinedTable name)
  | forceRowSecurity name =>
      if name ∈ catalog.names then .ok (catalog.adjust name fun entry => { entry with forced := true })
      else .error (.undefinedTable name)
  | createPolicy policy =>
      if policy.table ∉ catalog.names then .error (.undefinedTable policy.table)
      else if catalog.any fun entry => entry.spec.name = policy.table && entry.policies.any (·.name = policy.name) then
        .error (.duplicatePolicy policy.name)
      else .ok (catalog.adjust policy.table fun entry => { entry with policies := entry.policies ++ [policy] })
  | dropPolicyIfExists name table =>
      .ok (catalog.adjust table fun entry => { entry with policies := entry.policies.filter (·.name ≠ name) })
  | dropTable name =>
      if name ∉ catalog.names then .error (.undefinedTable name)
      else if catalog.any fun entry => entry.spec.name ≠ name && entry.spec.references.any (·.target = name) then
        .error (.dependentTable name)
      else .ok (catalog.filter (·.spec.name ≠ name))

def applyAll (catalog : Catalog) (operations : List Migration.Operation) : Except CatalogError Catalog :=
  operations.foldlM apply catalog

end Catalog

/-! ## Migrating a database that has other tables -/

/-- The tables an operation is about: the one it changes, and those a new table refers to. -/
def Migration.Operation.touches : Migration.Operation → List String
  | createTable spec => spec.name :: spec.references.map (·.target)
  | enableRowSecurity table => [table]
  | forceRowSecurity table => [table]
  | createPolicy policy => [policy.table]
  | dropPolicyIfExists _ table => [table]
  | dropTable table => [table]

namespace Catalog

/-- Tables refer to each other only. -/
def Closed (catalog : Catalog) : Prop :=
  ∀ entry ∈ catalog, ∀ reference ∈ entry.spec.references, reference.target ∈ catalog.names

variable {base added : Catalog} {name : String}

theorem names_append : (base ++ added).names = base.names ++ added.names := List.map_append

theorem mem_names_append (absent : name ∉ base.names) : name ∈ (base ++ added).names ↔ name ∈ added.names := by
  rw [names_append, List.mem_append]
  exact or_iff_right absent

theorem name_ne_of_mem (absent : name ∉ base.names) {entry : CatalogEntry} (member : entry ∈ base) :
    entry.spec.name ≠ name :=
  fun same => absent (same ▸ List.mem_map_of_mem member)

theorem adjust_append (absent : name ∉ base.names) (change : CatalogEntry → CatalogEntry) :
    (base ++ added).adjust name change = base ++ added.adjust name change := by
  have same : base.adjust name change = base := by
    conv_rhs => rw [← List.map_id base]
    exact List.map_congr_left fun entry member => if_neg (name_ne_of_mem absent member)
  rw [adjust, List.map_append]
  exact congrArg (· ++ _) same

theorem any_append {found : CatalogEntry → Bool} (none : ∀ entry ∈ base, found entry = false) :
    (base ++ added).any found = added.any found := by
  rw [List.any_append, List.any_eq_false.mpr fun entry member => Bool.eq_false_iff.mp (none entry member), Bool.false_or]

theorem resolves_append {reference : Reference} (absent : reference.target ∉ base.names) :
    (base ++ added).resolves reference = added.resolves reference := by
  refine any_append fun entry member => ?_
  rw [decide_eq_false (name_ne_of_mem absent member), Bool.false_and]

/-- An operation does the same whatever other tables there are, and leaves them alone. -/
theorem apply_append {operation : Migration.Operation} (absent : ∀ name ∈ operation.touches, name ∉ base.names)
    (closed : base.Closed) : (base ++ added).apply operation = (added.apply operation).map (base ++ ·) := by
  cases operation with
  | createTable spec =>
    obtain ⟨fresh, targets⟩ := List.forall_mem_cons.mp absent
    have same : (spec.references.find? fun reference => !(base ++ added).resolves reference) =
        spec.references.find? fun reference => !added.resolves reference := by
      refine List.find?_congr fun reference listed => ?_
      rw [resolves_append (targets _ (List.mem_map_of_mem listed))]
    simp only [apply, mem_names_append fresh, same]
    split_ifs
    · rfl
    · split <;> simp [Except.map]
  | enableRowSecurity table =>
    have fresh := List.forall_mem_singleton.mp absent
    simp only [apply, mem_names_append fresh, adjust_append fresh]
    split_ifs <;> rfl
  | forceRowSecurity table =>
    have fresh := List.forall_mem_singleton.mp absent
    simp only [apply, mem_names_append fresh, adjust_append fresh]
    split_ifs <;> rfl
  | createPolicy policy =>
    have fresh := List.forall_mem_singleton.mp absent
    have same := @any_append base added
      (fun entry => entry.spec.name = policy.table && entry.policies.any (·.name = policy.name))
      (fun entry member => by rw [decide_eq_false (name_ne_of_mem fresh member), Bool.false_and])
    simp only [apply, mem_names_append fresh, adjust_append fresh, same]
    split_ifs <;> rfl
  | dropPolicyIfExists policy table =>
    have fresh := List.forall_mem_singleton.mp absent
    simp only [apply, adjust_append fresh]
    rfl
  | dropTable table =>
    have fresh := List.forall_mem_singleton.mp absent
    have independent (entry : CatalogEntry) (member : entry ∈ base) :
        (entry.spec.name ≠ table && entry.spec.references.any (·.target = table)) = false := by
      rw [Bool.and_eq_false_iff, List.any_eq_false]
      refine .inr fun reference listed leads => fresh ?_
      exact of_decide_eq_true leads ▸ closed entry member reference listed
    have kept : base.filter (·.spec.name ≠ table) = base :=
      List.filter_eq_self.mpr fun entry member => decide_eq_true (name_ne_of_mem fresh member)
    simp only [apply, mem_names_append fresh, any_append independent, List.filter_append, kept]
    split_ifs <;> rfl

theorem applyAll_append {operations : List Migration.Operation}
    (absent : ∀ operation ∈ operations, ∀ name ∈ operation.touches, name ∉ base.names) (closed : base.Closed) :
    (base ++ added).applyAll operations = (added.applyAll operations).map (base ++ ·) := by
  induction operations generalizing added with
  | nil => rfl
  | cons operation rest ih =>
    obtain ⟨here, later⟩ := List.forall_mem_cons.mp absent
    simp only [applyAll, List.foldlM_cons]
    rw [apply_append here closed]
    cases added.apply operation with
    | error error => rfl
    | ok next => exact ih later

end Catalog

namespace Migration

/-- What the migration adds to a database. -/
def migrated : Catalog :=
  [⟨tenants, false, false, []⟩, ⟨institutions, false, false, []⟩] ++
    [brokerConnections, encryptedSecrets, authorizationNonces].map fun spec =>
      ⟨spec, true, true, policies.filter (·.table = spec.name)⟩

def names : List String := specs.map (·.name)

/-- A table whose rows name a tenant forces row security on everyone, and its one policy compares the tenant. -/
def Guarded (entry : CatalogEntry) : Prop :=
  "tenant_id" ∈ entry.spec.columns.map (·.name) →
    entry.rowSecurity = true ∧ entry.forced = true ∧
      entry.policies.map (fun policy => (policy.usingClause, policy.withCheck)) = [(tenantPredicate, tenantPredicate)]

theorem touches_upgrade : ∀ operation ∈ upgrade, ∀ name ∈ operation.touches, name ∈ names := by decide

theorem touches_downgrade : ∀ operation ∈ downgrade, ∀ name ∈ operation.touches, name ∈ names := by decide

/-- The tables before one that is in the way are created. -/
theorem applyAll_prefix {before rest : List TableSpec} (split : specs = before ++ rest) :
    Catalog.applyAll [] (before.map .createTable) = .ok (before.map fun spec => ⟨spec, false, false, []⟩) ∧
      ∀ spec ∈ before, ∀ name ∈ (Operation.createTable spec).touches, name ∈ before.map (·.name) := by
  have taken : before = specs.take before.length := by rw [split, List.take_left]
  have short : before.length ≤ 5 := by
    have total : 5 = before.length + rest.length := by rw [← List.length_append, ← split]; rfl
    omega
  rw [taken]
  generalize before.length = count at short
  interval_cases count <;> exact ⟨rfl, by decide⟩

variable {base : Catalog}

/-- Upgrading fails at the first table that exists already, and adds the five tables otherwise. -/
theorem upgrade_eq (closed : base.Closed) :
    base.applyAll upgrade =
      match specs.find? (·.name ∈ base.names) with
      | some spec => .error (.duplicateTable spec.name)
      | none => .ok (base ++ migrated) := by
  cases found : specs.find? (·.name ∈ base.names) with
  | none =>
    have absent (name : String) (mine : name ∈ names) : name ∉ base.names := by
      obtain ⟨spec, listed, rfl⟩ := List.mem_map.mp mine
      simpa using List.find?_eq_none.mp found spec listed
    have added := @Catalog.applyAll_append base [] _ (fun operation member name touched =>
      absent name (touches_upgrade operation member name touched)) closed
    rw [List.append_nil] at added
    rw [added]
    rfl
  | some spec =>
    obtain ⟨taken, before, after, split, clear⟩ := List.find?_eq_some_iff_append.mp found
    obtain ⟨created, touched⟩ := applyAll_prefix split
    have absent : ∀ operation ∈ before.map Operation.createTable, ∀ name ∈ operation.touches, name ∉ base.names := by
      intro operation member name mine
      obtain ⟨spec, listed, rfl⟩ := List.mem_map.mp member
      obtain ⟨owner, first, rfl⟩ := List.mem_map.mp (touched spec listed name mine)
      simpa using clear owner first
    have added := @Catalog.applyAll_append base [] _ absent closed
    rw [List.append_nil, created] at added
    rw [upgrade, split, List.map_append, List.append_assoc, List.map_cons]
    unfold Catalog.applyAll at added ⊢
    rw [List.foldlM_append, added]
    have duplicate : spec.name ∈
        (base ++ before.map fun spec => CatalogEntry.mk spec false false []).names := by
      rw [Catalog.names_append]
      exact List.mem_append_left _ (of_decide_eq_true taken)
    change Catalog.apply _ _ >>= _ = _
    rw [Catalog.apply, if_pos duplicate]
    rfl

theorem applyAll_downgrade (closed : base.Closed) (absent : ∀ name ∈ names, name ∉ base.names) :
    (base ++ migrated).applyAll downgrade = .ok base := by
  rw [Catalog.applyAll_append (fun operation member name touched =>
    absent name (touches_downgrade operation member name touched)) closed]
  have undone : Catalog.applyAll migrated downgrade = .ok [] := rfl
  rw [undone]
  exact congrArg Except.ok (List.append_nil base)

theorem guarded_of_mem : ∀ entry ∈ migrated, Guarded entry := by
  intro entry member
  simp only [migrated, List.map_cons, List.map_nil, List.cons_append, List.nil_append, List.mem_cons,
    List.not_mem_nil, or_false] at member
  rcases member with rfl | rfl | rfl | rfl | rfl
  · exact fun absent => absurd absent (by decide)
  · exact fun absent => absurd absent (by decide)
  all_goals exact fun _ => ⟨rfl, rfl, rfl⟩

theorem closed_append (closed : base.Closed) : Catalog.Closed (base ++ migrated) := by
  have own : ∀ spec ∈ specs, ∀ reference ∈ spec.references, reference.target ∈ names := by decide
  intro entry member reference listed
  rw [Catalog.names_append]
  rcases List.mem_append.mp member with old | new
  · exact List.mem_append_left _ (closed entry old reference listed)
  · exact List.mem_append_right _ (own entry.spec (List.mem_map_of_mem new) reference listed)

/-- On a database that has one of the tables, the migration fails at the first. On any other it adds the five tables,
every one that names tenants under row security, and its way back leaves the database as it was. -/
theorem migration_reversible (closed : base.Closed) :
    (∀ spec, specs.find? (·.name ∈ base.names) = some spec →
      base.applyAll upgrade = .error (.duplicateTable spec.name)) ∧
    ((∀ name ∈ names, name ∉ base.names) → ∃ added : Catalog, base.applyAll upgrade = .ok (base ++ added) ∧
      added.map (·.spec) = specs ∧ (∀ entry ∈ added, Guarded entry) ∧ Catalog.Closed (base ++ added) ∧
        (base ++ added).applyAll downgrade = .ok base) := by
  constructor
  · intro spec found
    rw [upgrade_eq closed, found]
  · intro absent
    have clear : specs.find? (·.name ∈ base.names) = none :=
      List.find?_eq_none.mpr fun spec listed => by simpa using absent spec.name (List.mem_map_of_mem listed)
    refine ⟨migrated, ?_, rfl, guarded_of_mem, closed_append closed, applyAll_downgrade closed absent⟩
    rw [upgrade_eq closed, clear]

/-- The table in which the migrations are counted. -/
def versionEntry : CatalogEntry := ⟨⟨"alembic_version", [primary "version_num" (.string 32)], [], []⟩, false, false, []⟩

theorem migration_reversible_sample :
    ∃ added : Catalog, Catalog.applyAll [versionEntry] upgrade = .ok (versionEntry :: added) ∧
      Catalog.applyAll (versionEntry :: added) downgrade = .ok [versionEntry] := by
  have closed : Catalog.Closed [versionEntry] := by
    intro entry member reference listed
    obtain rfl := List.mem_singleton.mp member
    contradiction
  obtain ⟨added, upgraded, _, _, _, downgraded⟩ := (migration_reversible closed).2 (by decide)
  exact ⟨added, upgraded, downgraded⟩

end Migration

end PortfolioManager.Persistence
