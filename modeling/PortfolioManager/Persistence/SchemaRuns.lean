import Mathlib.Data.List.Nodup
import PortfolioManager.Persistence.Schema

/-! # What the authentication tables hold

After any statements that the database has run on the migrated tables, every row belongs to a tenant by the
references it makes. So a tenant that is deleted takes along what names it and nothing else, a connection takes
along its secrets and nonces, and an institution stays as long as a connection names it.
-/

namespace PortfolioManager.Persistence

open PortfolioManager.Python Relational

/-- The tables of the migration. -/
def schema : Schema Cell := Migration.specs.map TableSpec.table

theorem schema_ordered : Ordered schema [] := by
  refine ⟨by decide, by decide, by decide, by decide, by decide, by decide, by decide, by decide, by decide, by decide, ?_⟩
  trivial

/-- The models list the references of a connection the other way round. -/
theorem models_alike : List.Forall₂ Table.Alike (Models.specs.map TableSpec.table) schema := by
  refine .cons ⟨rfl, rfl, .rfl, .rfl⟩ (.cons ⟨rfl, rfl, .rfl, .rfl⟩ (.cons ⟨rfl, rfl, .rfl, ?_⟩
    (.cons ⟨rfl, rfl, .rfl, .rfl⟩ (.cons ⟨rfl, rfl, .rfl, .rfl⟩ .nil))))
  decide

/-- Tables made from the models take the same statements as those of the migration. -/
theorem after_models (statements : List (Statement Cell)) :
    after (Models.specs.map TableSpec.table) statements = after schema statements :=
  after_alike models_alike statements

variable {db next : Database Cell} {row : Row Cell} {spec : TableSpec} {name : String} {selects : Row Cell → Bool}

/-! ## What every row belongs to -/

/-- Connections are of tenants and at institutions, secrets and nonces are of connections of their own tenant, and
no two rows of a table agree on one of its keys. -/
structure Owned (db : Database Cell) : Prop where
  tenant : ∀ connection ∈ db "broker_connections", ∃ tenant ∈ db "tenants", connection "tenant_id" = tenant "id"
  institution : ∀ connection ∈ db "broker_connections", ∃ institution ∈ db "institutions",
    connection "institution_id" = institution "id"
  connection : ∀ table ∈ ["encrypted_secrets", "authorization_nonces"], ∀ row ∈ db table,
    ∃ connection ∈ db "broker_connections", row "tenant_id" = connection "tenant_id" ∧ row "connection_id" = connection "id"
  keyed : ∀ spec ∈ Migration.specs, ∀ key ∈ spec.keys, ((db spec.name).map fun row => key.map row).Nodup

theorem mem_schema (listed : spec ∈ Migration.specs) : spec.table ∈ schema := List.mem_map_of_mem listed

/-- A column of a key or a reference is never NULL. -/
theorem required_columns : ∀ spec ∈ Migration.specs, ∀ columns ∈ spec.keys ++ spec.references.map (·.columns),
    ∀ name ∈ columns, ∃ column ∈ spec.columns, column.name = name ∧ (column.nullable && !column.primaryKey) = false := by
  decide

theorem exists_required (listed : spec ∈ Migration.specs) {columns : List String}
    (used : columns ∈ spec.keys ++ spec.references.map (·.columns)) :
    ∀ name ∈ columns, ∃ column ∈ spec.table.columns, column.name = name ∧ column.nullable = false := by
  intro name member
  obtain ⟨column, declared, named, strict⟩ := required_columns spec listed columns used name member
  exact ⟨_, List.mem_map_of_mem declared, named, strict⟩

/-- A row has the values of a row that it refers to. -/
theorem linked_row (sound : Sound schema db) (listed : spec ∈ Migration.specs) (inside : row ∈ db spec.name)
    {reference : Reference} (refers : reference ∈ spec.references) :
    ∃ parent ∈ db reference.target, reference.columns.map row = reference.targetColumns.map parent := by
  have used : reference.columns ∈ spec.keys ++ spec.references.map (·.columns) :=
    List.mem_append_right _ (List.mem_map_of_mem refers)
  refine (satisfied_iff fun name member => ?_).mp (sound.linked _ (mem_schema listed) row inside reference refers)
  obtain ⟨column, declared, rfl, strict⟩ := exists_required listed used name member
  exact sound.present (mem_schema listed) inside declared strict

theorem owned_of_sound (sound : Sound schema db) : Owned db := by
  constructor
  case tenant =>
    intro connection inside
    have link := @linked_row db connection Migration.brokerConnections sound (by decide) inside
      ⟨["tenant_id"], "tenants", ["id"], .cascade⟩ (by decide)
    simpa using link
  case institution =>
    intro connection inside
    have link := @linked_row db connection Migration.brokerConnections sound (by decide) inside
      ⟨["institution_id"], "institutions", ["id"], .noAction⟩ (by decide)
    simpa using link
  case connection =>
    intro table member row inside
    have children : ∀ table ∈ ["encrypted_secrets", "authorization_nonces"], ∃ spec ∈ Migration.specs,
        spec.name = table ∧ Migration.connectionReference ∈ spec.references := by decide
    obtain ⟨spec, listed, rfl, refers⟩ := children table member
    simpa [Migration.connectionReference] using linked_row sound listed inside refers
  case keyed =>
    intro spec listed key declared
    exact sound.distinct (mem_schema listed) declared (exists_required listed (List.mem_append_left _ declared))

theorem Owned.eq_of_id (owned : Owned db) {connection other : Row Cell} (here : connection ∈ db "broker_connections")
    (there : other ∈ db "broker_connections") (same : connection "id" = other "id") : connection = other := by
  have keyed := owned.keyed Migration.brokerConnections (by decide) ["id"] (by decide)
  exact List.inj_on_of_nodup_map keyed here there (by simp [same])

/-- Whatever statements the database has run: each row belongs to what it names, and rows that name one connection
name one tenant. -/
theorem owned_after (statements : List (Statement Cell)) :
    Owned (after schema statements) ∧
      ∀ table ∈ ["encrypted_secrets", "authorization_nonces"], ∀ row ∈ after schema statements table,
        ∀ table' ∈ ["encrypted_secrets", "authorization_nonces"], ∀ row' ∈ after schema statements table',
          row "connection_id" = row' "connection_id" → row "tenant_id" = row' "tenant_id" := by
  have owned := owned_of_sound (after_sound schema_ordered statements)
  refine ⟨owned, fun table member row inside table' member' row' inside' same => ?_⟩
  obtain ⟨connection, here, tenant, id⟩ := owned.connection table member row inside
  obtain ⟨other, there, tenant', id'⟩ := owned.connection table' member' row' inside'
  rw [tenant, tenant', owned.eq_of_id here there (id.symm.trans (same.trans id'))]

/-! ## What a deletion takes along -/

theorem doomed_row (sound : Sound schema db) (listed : spec ∈ Migration.specs) (inside : row ∈ db spec.name) :
    doomed schema db name selects spec.name row = true ↔
      (spec.name = name ∧ selects row = true) ∨
        ∃ reference ∈ spec.references, reference.onDelete = .cascade ∧ ∃ parent ∈ db reference.target,
          doomed schema db name selects reference.target parent = true ∧
            reference.columns.map row = reference.targetColumns.map parent := by
  refine (doomed_iff schema_ordered (mem_schema listed)).trans (or_congr Iff.rfl (exists_congr fun reference =>
    and_congr_right fun refers => and_congr_right fun _ => exists_congr fun parent => and_congr_right fun _ =>
      and_congr_right fun _ => agree_iff fun column member => ?_))
  have used : reference.columns ∈ spec.keys ++ spec.references.map (·.columns) :=
    List.mem_append_right _ (List.mem_map_of_mem refers)
  obtain ⟨column, declared, rfl, strict⟩ := exists_required listed used column member
  exact sound.present (mem_schema listed) inside declared strict

theorem doomed_root (sound : Sound schema db) {table : String} (root : table ∈ ["tenants", "institutions"])
    (inside : row ∈ db table) : doomed schema db name selects table row = true ↔ table = name ∧ selects row = true := by
  have roots : ∀ table ∈ ["tenants", "institutions"], ∃ spec ∈ Migration.specs, spec.name = table ∧ spec.references = [] := by
    decide
  obtain ⟨spec, listed, rfl, none⟩ := roots table root
  rw [doomed_row sound listed inside, none]
  simp

theorem doomed_connection (sound : Sound schema db) (inside : row ∈ db "broker_connections") :
    doomed schema db name selects "broker_connections" row = true ↔
      ("broker_connections" = name ∧ selects row = true) ∨
        ∃ tenant ∈ db "tenants", doomed schema db name selects "tenants" tenant = true ∧ row "tenant_id" = tenant "id" := by
  have references : Migration.brokerConnections.references =
      [⟨["tenant_id"], "tenants", ["id"], .cascade⟩, ⟨["institution_id"], "institutions", ["id"], .noAction⟩] := by decide
  refine (@doomed_row db row Migration.brokerConnections name selects sound (by decide) inside).trans ?_
  rw [references]
  simp [Migration.brokerConnections]

theorem doomed_child (sound : Sound schema db) {table : String} (child : table ∈ ["encrypted_secrets", "authorization_nonces"])
    (inside : row ∈ db table) :
    doomed schema db name selects table row = true ↔
      (table = name ∧ selects row = true) ∨
        ∃ connection ∈ db "broker_connections", doomed schema db name selects "broker_connections" connection = true ∧
          row "tenant_id" = connection "tenant_id" ∧ row "connection_id" = connection "id" := by
  have children : ∀ table ∈ ["encrypted_secrets", "authorization_nonces"], ∃ spec ∈ Migration.specs,
      spec.name = table ∧ spec.references = [Migration.connectionReference] := by decide
  obtain ⟨spec, listed, rfl, references⟩ := children table child
  rw [doomed_row sound listed inside, references]
  simp [Migration.connectionReference]

/-- Institutions are the only rows that a reference holds back. -/
theorem delete_ok_iff (sound : Sound schema db) :
    delete schema name selects db = .ok next ↔
      name ∈ Migration.names ∧
        (∀ connection ∈ survivors schema db name selects "broker_connections",
          ∃ institution ∈ survivors schema db name selects "institutions", connection "institution_id" = institution "id") ∧
        next = survivors schema db name selects := by
  have only : ∀ spec ∈ Migration.specs, ∀ reference ∈ spec.references, reference.onDelete = .noAction →
      spec.name = "broker_connections" ∧ reference = ⟨["institution_id"], "institutions", ["id"], .noAction⟩ := by decide
  have named : schema.map (·.name) = Migration.names := rfl
  rw [delete_eq_ok_iff schema_ordered sound, named]
  refine and_congr Iff.rfl (and_congr_left fun _ => ?_)
  have required {connection : Row Cell} (inside : connection ∈ survivors schema db name selects "broker_connections") :
      ∀ column ∈ ["institution_id"], connection column ≠ none := by
    intro column member
    obtain ⟨declared, listed, rfl, strict⟩ := @exists_required Migration.brokerConnections (by decide)
      ["institution_id"] (by decide) column member
    exact sound.present (@mem_schema Migration.brokerConnections (by decide)) (mem_survivors_iff.mp inside).1 listed strict
  constructor
  · intro held connection inside
    have link := (satisfied_iff (required inside)).mp (held Migration.brokerConnections.table (mem_schema (by decide))
      connection inside ⟨["institution_id"], "institutions", ["id"], .noAction⟩ (by decide) rfl)
    simpa using link
  · intro held table member row inside reference refers action
    obtain ⟨spec, listed, rfl⟩ := List.mem_map.mp member
    obtain ⟨connections, rfl⟩ := only spec listed reference refers action
    change row ∈ survivors schema db name selects spec.name at inside
    rw [connections] at inside
    refine (satisfied_iff (required inside)).mpr ?_
    simpa using held row inside

theorem survivors_eq_filter {table : String} {gone : Row Cell → Bool}
    (same : ∀ row ∈ db table, doomed schema db name selects table row = true ↔ gone row = true) :
    survivors schema db name selects table = (db table).filter fun row => !gone row :=
  List.filter_congr fun row inside => congrArg _ (Bool.eq_iff_iff.mpr (same row inside))

theorem survivors_eq_self {table : String} (spared : ∀ row ∈ db table, ¬doomed schema db name selects table row = true) :
    survivors schema db name selects table = db table :=
  List.filter_eq_self.mpr fun row inside => by simpa using spared row inside

/-- A deletion that takes nothing along leaves the other tables alone. -/
theorem survivors_eq_update {gone : Row Cell → Bool}
    (same : ∀ row ∈ db name, doomed schema db name selects name row = true ↔ gone row = true)
    (spared : ∀ table ∈ Migration.names, table ≠ name → ∀ row ∈ db table, ¬doomed schema db name selects table row = true) :
    survivors schema db name selects = Function.update db name ((db name).filter fun row => !gone row) := by
  funext table
  by_cases here : table = name
  · subst here
    rw [Function.update_self]
    exact survivors_eq_filter same
  · rw [Function.update_of_ne here]
    refine survivors_eq_self fun row inside => ?_
    by_cases declared : table ∈ Migration.names
    · exact spared table declared here row inside
    · rw [doomed, doom_frame declared]
      exact Bool.false_ne_true

/-- Whether a cell of a row holds an identifier. -/
def holds (column : String) (id : BitVec 128) (row : Row Cell) : Bool := row column = some (.uuid id)

/-- Secrets and nonces go with their connection, whichever way it was chosen. -/
theorem doomed_child_iff (sound : Sound schema db) {table column parentColumn : String} {id : BitVec 128}
    (child : table ∈ ["encrypted_secrets", "authorization_nonces"]) (elsewhere : table ≠ name)
    (paired : (column, parentColumn) ∈ [("tenant_id", "tenant_id"), ("connection_id", "id")])
    (connections : ∀ connection ∈ db "broker_connections",
      doomed schema db name selects "broker_connections" connection = true ↔ holds parentColumn id connection = true)
    (inside : row ∈ db table) : doomed schema db name selects table row = true ↔ holds column id row = true := by
  have agrees {connection : Row Cell} (tenant : row "tenant_id" = connection "tenant_id")
      (named : row "connection_id" = connection "id") : row column = connection parentColumn := by
    simp only [List.mem_cons, List.not_mem_nil, or_false, Prod.mk.injEq] at paired
    rcases paired with ⟨rfl, rfl⟩ | ⟨rfl, rfl⟩
    · exact tenant
    · exact named
  rw [doomed_child sound child inside]
  constructor
  · rintro (⟨here, _⟩ | ⟨connection, member, gone, tenant, named⟩)
    · exact absurd here elsewhere
    · rw [holds, agrees tenant named]
      exact (connections connection member).mp gone
  · intro own
    obtain ⟨connection, member, tenant, named⟩ := (owned_of_sound sound).connection table child row inside
    rw [holds, agrees tenant named] at own
    exact .inr ⟨connection, member, (connections connection member).mpr own, tenant, named⟩

/-- A tenant can always be deleted, and what goes is exactly what names it. -/
theorem delete_tenant (statements : List (Statement Cell)) (tenant : BitVec 128) :
    ∃ next, delete schema "tenants" (holds "id" tenant) (after schema statements) = .ok next ∧
      next "tenants" = (after schema statements "tenants").filter (fun row => !holds "id" tenant row) ∧
      next "institutions" = after schema statements "institutions" ∧
      ∀ table ∈ ["broker_connections", "encrypted_secrets", "authorization_nonces"],
        next table = (after schema statements table).filter fun row => !holds "tenant_id" tenant row := by
  have sound := after_sound schema_ordered statements
  generalize after schema statements = db at sound ⊢
  have owned := owned_of_sound sound
  have tenants (row : Row Cell) (inside : row ∈ db "tenants") :
      doomed schema db "tenants" (holds "id" tenant) "tenants" row = true ↔ holds "id" tenant row = true :=
    (doomed_root sound (by decide) inside).trans (and_iff_right rfl)
  have connections (row : Row Cell) (inside : row ∈ db "broker_connections") :
      doomed schema db "tenants" (holds "id" tenant) "broker_connections" row = true ↔ holds "tenant_id" tenant row = true := by
    rw [doomed_connection sound inside]
    constructor
    · rintro (⟨elsewhere, _⟩ | ⟨parent, member, gone, same⟩)
      · exact absurd elsewhere (by decide)
      · rw [holds, same]
        exact (tenants parent member).mp gone
    · intro own
      obtain ⟨parent, member, same⟩ := owned.tenant row inside
      rw [holds, same] at own
      exact .inr ⟨parent, member, (tenants parent member).mpr own, same⟩
  have institutions : survivors schema db "tenants" (holds "id" tenant) "institutions" = db "institutions" :=
    survivors_eq_self fun row inside gone => absurd ((doomed_root sound (by decide) inside).mp gone).1 (by decide)
  refine ⟨survivors schema db "tenants" (holds "id" tenant), (delete_ok_iff sound).mpr ⟨by decide, ?_, rfl⟩,
    survivors_eq_filter tenants, institutions, fun table member => survivors_eq_filter ?_⟩
  · intro connection inside
    rw [institutions]
    exact owned.institution connection (mem_survivors_iff.mp inside).1
  · rcases List.mem_cons.mp member with rfl | child
    · exact connections
    · refine fun row inside => doomed_child_iff sound child ?_ (by decide) connections inside
      rintro rfl
      exact absurd child (by decide)

/-- A connection can always be deleted, and what goes with it is exactly its secrets and its nonces. -/
theorem delete_connection (statements : List (Statement Cell)) (connection : BitVec 128) :
    ∃ next, delete schema "broker_connections" (holds "id" connection) (after schema statements) = .ok next ∧
      next "broker_connections" =
        (after schema statements "broker_connections").filter (fun row => !holds "id" connection row) ∧
      (∀ table ∈ ["tenants", "institutions"], next table = after schema statements table) ∧
      ∀ table ∈ ["encrypted_secrets", "authorization_nonces"],
        next table = (after schema statements table).filter fun row => !holds "connection_id" connection row := by
  have sound := after_sound schema_ordered statements
  generalize after schema statements = db at sound ⊢
  have roots {table : String} (root : table ∈ ["tenants", "institutions"]) (row : Row Cell) (inside : row ∈ db table) :
      ¬doomed schema db "broker_connections" (holds "id" connection) table row = true := by
    rw [doomed_root sound root inside]
    rintro ⟨rfl, _⟩
    exact absurd root (by decide)
  have connections (row : Row Cell) (inside : row ∈ db "broker_connections") :
      doomed schema db "broker_connections" (holds "id" connection) "broker_connections" row = true ↔
        holds "id" connection row = true := by
    rw [doomed_connection sound inside, and_iff_right rfl]
    refine or_iff_left ?_
    rintro ⟨tenant, member, gone, _⟩
    exact roots (by decide) tenant member gone
  have kept {table : String} (root : table ∈ ["tenants", "institutions"]) :
      survivors schema db "broker_connections" (holds "id" connection) table = db table := survivors_eq_self (roots root)
  refine ⟨survivors schema db "broker_connections" (holds "id" connection), (delete_ok_iff sound).mpr ⟨by decide, ?_, rfl⟩,
    survivors_eq_filter connections, fun table => kept, fun table child => survivors_eq_filter fun row inside => ?_⟩
  · intro row inside
    rw [kept (by decide)]
    exact (owned_of_sound sound).institution row (mem_survivors_iff.mp inside).1
  · refine doomed_child_iff sound child ?_ (by decide) connections inside
    rintro rfl
    exact absurd child (by decide)

/-- An institution can be deleted exactly when no connection names it, and nothing goes with it. -/
theorem delete_institution (statements : List (Statement Cell)) (institution : BitVec 128) (next : Database Cell) :
    delete schema "institutions" (holds "id" institution) (after schema statements) = .ok next ↔
      (∀ connection ∈ after schema statements "broker_connections", holds "institution_id" institution connection = false) ∧
        next = Function.update (after schema statements) "institutions"
          ((after schema statements "institutions").filter fun row => !holds "id" institution row) := by
  have sound := after_sound schema_ordered statements
  generalize after schema statements = db at sound ⊢
  have owned := owned_of_sound sound
  have tenants (row : Row Cell) (inside : row ∈ db "tenants") :
      ¬doomed schema db "institutions" (holds "id" institution) "tenants" row = true := fun gone =>
    absurd ((doomed_root sound (by decide) inside).mp gone).1 (by decide)
  have institutions (row : Row Cell) (inside : row ∈ db "institutions") :
      doomed schema db "institutions" (holds "id" institution) "institutions" row = true ↔ holds "id" institution row = true :=
    (doomed_root sound (by decide) inside).trans (and_iff_right rfl)
  have connections (row : Row Cell) (inside : row ∈ db "broker_connections") :
      ¬doomed schema db "institutions" (holds "id" institution) "broker_connections" row = true := by
    rw [doomed_connection sound inside]
    rintro (⟨elsewhere, _⟩ | ⟨tenant, member, gone, _⟩)
    · exact absurd elsewhere (by decide)
    · exact tenants tenant member gone
  have children {table : String} (child : table ∈ ["encrypted_secrets", "authorization_nonces"]) (row : Row Cell)
      (inside : row ∈ db table) : ¬doomed schema db "institutions" (holds "id" institution) table row = true := by
    rw [doomed_child sound child inside]
    rintro (⟨rfl, _⟩ | ⟨connection, member, gone, _⟩)
    · exact absurd child (by decide)
    · exact connections connection member gone
  have survivors_eq := survivors_eq_update institutions (by
    intro table declared elsewhere row inside
    simp only [Migration.names, Migration.specs, List.map_cons, List.map_nil, List.mem_cons, List.not_mem_nil, or_false] at declared
    rcases declared with rfl | rfl | rfl | rfl | rfl
    · exact tenants row inside
    · exact absurd rfl elsewhere
    · exact connections row inside
    · exact children (by decide) row inside
    · exact children (by decide) row inside)
  rw [delete_ok_iff sound, and_iff_right (by decide), survivors_eq, Function.update_self, Function.update_of_ne (by decide)]
  refine and_congr_left fun _ => forall_congr' fun connection => forall_congr' fun inside => ?_
  obtain ⟨own, member, same⟩ := owned.institution connection inside
  simp only [List.mem_filter, Bool.not_eq_true', holds, same, decide_eq_false_iff_not]
  constructor
  · rintro ⟨parent, ⟨_, other⟩, agrees⟩
    rwa [← agrees] at other
  · exact fun other => ⟨own, ⟨member, other⟩, rfl⟩

/-- Nothing refers to nonces. -/
theorem delete_nonces (sound : Sound schema db) (selects : Row Cell → Bool) :
    delete schema "authorization_nonces" selects db =
      .ok (Function.update db "authorization_nonces" ((db "authorization_nonces").filter fun row => !selects row)) := by
  have roots {table : String} (root : table ∈ ["tenants", "institutions"]) (row : Row Cell) (inside : row ∈ db table) :
      ¬doomed schema db "authorization_nonces" selects table row = true := by
    rw [doomed_root sound root inside]
    rintro ⟨rfl, _⟩
    exact absurd root (by decide)
  have connections (row : Row Cell) (inside : row ∈ db "broker_connections") :
      ¬doomed schema db "authorization_nonces" selects "broker_connections" row = true := by
    rw [doomed_connection sound inside]
    rintro (⟨elsewhere, _⟩ | ⟨tenant, member, gone, _⟩)
    · exact absurd elsewhere (by decide)
    · exact roots (by decide) tenant member gone
  have children {table : String} (child : table ∈ ["encrypted_secrets", "authorization_nonces"]) (row : Row Cell)
      (inside : row ∈ db table) :
      doomed schema db "authorization_nonces" selects table row = true ↔ table = "authorization_nonces" ∧ selects row = true := by
    rw [doomed_child sound child inside]
    refine or_iff_left ?_
    rintro ⟨connection, member, gone, _⟩
    exact connections connection member gone
  have survivors_eq := survivors_eq_update
    (fun row inside => (children (by decide) row inside).trans (and_iff_right rfl)) (by
    intro table declared elsewhere row inside
    simp only [Migration.names, Migration.specs, List.map_cons, List.map_nil, List.mem_cons, List.not_mem_nil, or_false] at declared
    rcases declared with rfl | rfl | rfl | rfl | rfl
    · exact roots (by decide) row inside
    · exact roots (by decide) row inside
    · exact connections row inside
    · exact fun gone => absurd ((children (by decide) row inside).mp gone).1 (by decide)
    · exact absurd rfl elsewhere)
  refine (delete_ok_iff sound).mpr ⟨by decide, ?_, survivors_eq.symm⟩
  rw [survivors_eq, Function.update_of_ne (by decide), Function.update_of_ne (by decide)]
  exact (owned_of_sound sound).institution

end PortfolioManager.Persistence
