import PortfolioManager.Library.MvccSerial
import PortfolioManager.Persistence.NonceSession
import PortfolioManager.Persistence.SchemaRuns

/-! # Nonces as rows of the migrated tables

Transactions that run one after another on the nonce store are transactions on the migrated tables: `issue` is an
INSERT and `consume` a DELETE, both within what row security admits, a commit keeps what a transaction did, and a
rollback or a failed statement drops it.
-/

namespace PortfolioManager.Persistence

open PortfolioManager.Python PortfolioManager.Domain PortfolioManager.Application Mvcc Sql Relational SqlAlchemyAuthorizationNonceStore

/-- The record that `issue` adds. -/
def StoredAuthorizationNonce.row (nonce : StoredAuthorizationNonce) : Row Cell := fun column =>
  if column = "digest" then some (.text nonce.digest)
  else if column = "tenant_id" then some (.uuid nonce.tenantId.value.value)
  else if column = "connection_id" then some (.uuid nonce.connectionId.value.value)
  else if column = "expires_at" then some (.timestamp nonce.expiresAt.micros)
  else if column = "created_at" then some (.timestamp nonce.createdAt.micros)
  else none

/-- The deployment of a database: its connections are the registered ones. -/
def Deployment.over (bypassesRowSecurity : Bool) (db : Database Cell) : Deployment where
  bypassesRowSecurity := bypassesRowSecurity
  registered tenant connection := (db "broker_connections").any fun row =>
    holds "tenant_id" tenant.value.value row && holds "id" connection.value.value row

/-- The rows that row security admits under a setting. -/
def admits (bypassesRowSecurity : Bool) (setting : Setting) (row : Row Cell) : Bool :=
  bypassesRowSecurity || setting.id?.any fun id => holds "tenant_id" id row

/-! ## Transactions on the tables -/

/-- A transaction: what it began with, what it sees, and whether a statement of it has failed. -/
structure Draft where
  base : Database Cell
  current : Database Cell
  failed : Bool

inductive RowAnswer where
  | issued (outcome : Except SessionError Unit)
  | consumed (outcome : Except SessionError (Option (Row Cell)))

/-- The rows of a digest that a DELETE may take. -/
def chosen (admitted : Row Cell → Bool) (digest : String) (row : Row Cell) : Bool :=
  row "digest" = some (.text digest) && admitted row

namespace Draft

def insert (admitted : Row Cell → Bool) (draft : Draft) (row : Row Cell) : Except SessionError Unit × Draft :=
  if draft.failed then (.error .pendingRollback, draft)
  else if admitted row then
    match Relational.insert schema "authorization_nonces" row draft.current with
    | .ok next => (.ok (), { draft with current := next })
    | .error _ => (.error (.store (.nonceConflict "authorization nonce already exists")), { draft with failed := true })
  else (.error (.store (.database .rowSecurity)), { draft with failed := true })

def delete (admitted : Row Cell → Bool) (draft : Draft) (digest : String) :
    Except SessionError (Option (Row Cell)) × Draft :=
  if draft.failed then (.error .pendingRollback, draft)
  else
    (.ok ((draft.current "authorization_nonces").find? (chosen admitted digest)),
      { draft with current := execute schema draft.current (.delete "authorization_nonces" (chosen admitted digest)) })

def perform (admitted : Row Cell → Bool) (draft : Draft) : Call → RowAnswer × Draft
  | .issue nonce => ((.issued (draft.insert admitted nonce.row).1), (draft.insert admitted nonce.row).2)
  | .consume digest => ((.consumed (draft.delete admitted digest).1), (draft.delete admitted digest).2)

def performAll (admitted : Row Cell → Bool) (draft : Draft) : List Call → List RowAnswer × Draft
  | [] => ([], draft)
  | call :: rest =>
      let (answer, next) := draft.perform admitted call
      let (answers, last) := next.performAll admitted rest
      (answer :: answers, last)

end Draft

/-- A transaction of one session: the setting it runs under, its calls on the store, and how it ends. -/
structure Script where
  setting : Setting
  calls : List Call
  commits : Bool

def transact (bypassesRowSecurity : Bool) (db : Database Cell) (script : Script) : List RowAnswer × Database Cell :=
  let (answers, draft) := Draft.performAll (admits bypassesRowSecurity script.setting) ⟨db, db, false⟩ script.calls
  (answers, if script.commits && !draft.failed then draft.current else draft.base)

def transactAll (bypassesRowSecurity : Bool) (db : Database Cell) : List Script → List (List RowAnswer) × Database Cell
  | [] => ([], db)
  | script :: rest =>
      let (answers, next) := transact bypassesRowSecurity db script
      let (others, last) := transactAll bypassesRowSecurity next rest
      (answers :: others, last)

/-! ## Transactions on the store -/

def StoreSession.performAll (deployment : Deployment) (state : StoreSession) : List Call → Option (List Answer × StoreSession)
  | [] => some ([], state)
  | call :: rest => do
      let (answer, next) ← state.perform deployment call
      let (answers, last) ← next.performAll deployment rest
      return (answer :: answers, last)

/-- A transaction with a failed statement is rolled back, whether or not its caller commits. -/
def serve (deployment : Deployment) (table : NonceTable) (txn : TxnId) (script : Script) : Option (List Answer × NonceTable) := do
  let (answers, state) ← StoreSession.performAll deployment
    ⟨⟨txn, script.setting.current⟩, table.resolve txn .active, .sound⟩ script.calls
  return (answers, state.table.resolve txn (if script.commits && state.health = .sound then .committed else .aborted))

def serveAll (deployment : Deployment) (table : NonceTable) (txn : TxnId) : List Script → Option (List (List Answer) × NonceTable)
  | [] => some ([], table)
  | script :: rest => do
      let (answers, next) ← serve deployment table txn script
      let (others, last) ← serveAll deployment next (txn + 1) rest
      return (answers :: others, last)

/-- An answer with the row of the nonce it returns. -/
def Answer.rows : Answer → RowAnswer
  | issued outcome => .issued outcome
  | consumed outcome => .consumed (outcome.map fun found => found.map (·.row))

variable {bypassesRowSecurity : Bool} {deployment : Deployment} {session : Session} {setting : Setting} {table : NonceTable}
  {db : Database Cell} {nonce : StoredAuthorizationNonce} {digest : String}

/-! ## Rows -/

@[simp] theorem row_digest : nonce.row "digest" = some (.text nonce.digest) := rfl

@[simp] theorem row_tenant : nonce.row "tenant_id" = some (.uuid nonce.tenantId.value.value) := rfl

@[simp] theorem row_connection : nonce.row "connection_id" = some (.uuid nonce.connectionId.value.value) := rfl

/-- Row security admits the rows of the tenant that is set. -/
theorem permits_eq_admits (current : session.setting = setting.current) {clause : Policy → Expr}
    (clauses : clause = Policy.usingClause ∨ clause = Policy.withCheck) :
    permits deployment session clause nonce = .ok (admits deployment.bypassesRowSecurity setting nonce.row) := by
  cases privilege : deployment.bypassesRowSecurity with
  | true => simp [permits, privilege, admits]
  | false =>
    rw [permits_enforced privilege setting current clauses]
    cases names : setting.id? with
    | none => simp [admits, names]
    | some id => simp [admits, names, holds, eq_comm]

/-- What an INSERT of a nonce comes to. -/
theorem insert_nonce :
    Relational.insert schema "authorization_nonces" nonce.row db =
      if (db "authorization_nonces").any (fun row => row "digest" = some (.text nonce.digest)) then .error (.key ["digest"])
      else if (Deployment.over bypassesRowSecurity db).registered nonce.tenantId nonce.connectionId then
        .ok (Function.update db "authorization_nonces" (db "authorization_nonces" ++ [nonce.row]))
      else .error (.reference Migration.connectionReference) := by
  have found : schema.find? (·.name = "authorization_nonces") = some Migration.authorizationNonces.table := rfl
  have fits : Migration.authorizationNonces.table.columns.find? (fun column => !column.fits nonce.row) = none := by
    have length : nonce.digest.length ≤ 64 := by
      have shape := nonce.digestShape
      rw [isDigest, Bool.and_eq_true, decide_eq_true_eq] at shape
      exact shape.1.le
    simp [Migration.authorizationNonces, TableSpec.table, Migration.primary, Migration.required, Column.fits,
      StoredAuthorizationNonce.row, ColumnType.admits, length]
  have keys : Migration.authorizationNonces.table.keys = [["digest"]] := by decide
  have references : Migration.authorizationNonces.table.references = [Migration.connectionReference] := by decide
  have present (column : String) (used : column ∈ ["digest", "tenant_id", "connection_id"]) : nonce.row column ≠ none := by
    simp only [List.mem_cons, List.not_mem_nil, or_false] at used
    rcases used with rfl | rfl | rfl <;> simp
  have taken (other : Row Cell) : agree nonce.row other ["digest"] ["digest"] = decide (other "digest" = some (.text nonce.digest)) := by
    have own : ∀ column ∈ ["digest"], nonce.row column ≠ none := fun column used =>
      present column (List.mem_cons.mpr (.inl (List.mem_singleton.mp used)))
    rw [Bool.eq_iff_iff, agree_iff own]
    simp [eq_comm]
  have linked : satisfied db nonce.row Migration.connectionReference =
      (Deployment.over bypassesRowSecurity db).registered nonce.tenantId nonce.connectionId := by
    have referring : ∀ column ∈ Migration.connectionReference.columns, nonce.row column ≠ none := fun column used =>
      present column (List.mem_cons_of_mem _ used)
    rw [Bool.eq_iff_iff, satisfied_iff referring]
    simp only [Deployment.over, List.any_eq_true, Bool.and_eq_true, holds, decide_eq_true_eq]
    refine exists_congr fun parent => and_congr_right fun _ => ?_
    simp only [Migration.connectionReference, List.map_cons, List.map_nil, List.cons.injEq, and_true, row_tenant,
      row_connection]
    exact and_congr eq_comm eq_comm
  have named : Migration.authorizationNonces.table.name = "authorization_nonces" := rfl
  rw [Relational.insert, found]
  simp only [violation?, fits, named, keys, references, taken, linked, List.find?_cons, List.find?_nil]
  cases (db "authorization_nonces").any fun row => row "digest" = some (.text nonce.digest) with
  | true => rfl
  | false => cases (Deployment.over bypassesRowSecurity db).registered nonce.tenantId nonce.connectionId <;> rfl

theorem over_update (rows : List (Row Cell)) :
    Deployment.over bypassesRowSecurity (Function.update db "authorization_nonces" rows) = Deployment.over bypassesRowSecurity db := by
  simp [Deployment.over]

/-- The version that a DELETE chooses. -/
theorem scan_eq (current : session.setting = setting.current) (versions : List (NonceVersion × ℕ)) :
    scan deployment session table digest versions =
      .ok ((versions.find? fun entry => table.sees session.transaction entry.1 &&
        (entry.1.key = digest && admits deployment.bypassesRowSecurity setting entry.1.value.row)).map Prod.snd) := by
  induction versions with
  | nil => rfl
  | cons entry rest ih =>
    obtain ⟨version, position⟩ := entry
    rw [scan, permits_eq_admits current (.inl rfl), ih, List.find?_cons]
    cases table.sees session.transaction version <;> cases decide (version.key = digest) <;>
      cases admits deployment.bypassesRowSecurity setting version.value.row <;> rfl

/-- The version that a DELETE finds, and its position. -/
def found? (admitted : Row Cell → Bool) (table : NonceTable) (txn : TxnId) (digest : String) : Option (NonceVersion × ℕ) :=
  table.versions.zipIdx.find? fun entry => table.sees txn entry.1 && (entry.1.key = digest && admitted entry.1.value.row)

theorem found?_eq_some {admitted : Row Cell → Bool} {txn : TxnId} {version : NonceVersion} {position : ℕ}
    (found : found? admitted table txn digest = some (version, position)) :
    table.versions[position]? = some version ∧ table.sees txn version = true ∧ version.key = digest ∧
      admitted version.value.row = true := by
  have holds := List.find?_some found
  simp only [Bool.and_eq_true, decide_eq_true_eq] at holds
  exact ⟨List.mem_zipIdx_iff_getElem?.mp (List.mem_of_find?_eq_some found), holds.1, holds.2.1, holds.2.2⟩

/-- A DELETE that nobody holds up takes what it finds. -/
theorem consume_eq (current : session.setting = setting.current) (alone : table.Alone session.transaction) (digest : String) :
    consume deployment session digest table =
      match found? (admits deployment.bypassesRowSecurity setting) table session.transaction digest with
      | none => .done (.ok none) table
      | some (version, position) => .done (.ok (some version.value)) (table.deleteAt session.transaction position) := by
  have scanned : scan deployment session table digest table.versions.zipIdx =
      .ok ((found? (admits deployment.bypassesRowSecurity setting) table session.transaction digest).map Prod.snd) :=
    scan_eq current _
  rw [consume, scanned]
  cases found : found? (admits deployment.bypassesRowSecurity setting) table session.transaction digest with
  | none => rfl
  | some entry =>
    obtain ⟨version, position⟩ := entry
    obtain ⟨present, seen, _⟩ := found?_eq_some found
    have free := alone.unlocked (List.mem_of_getElem? present)
    simp only [Option.map_some, deleteReturning, present, free, seen, Bool.false_eq_true, ↓reduceIte]

/-! ## The simulation -/

/-- A session and a transaction on the tables that agree on what was there and on what there is now. -/
structure Shows (setting : Setting) (state : StoreSession) (draft : Draft) : Prop where
  setting : state.session.setting = setting.current
  keys : ∀ version ∈ state.table.versions, version.key = version.value.digest
  alone : state.table.Alone state.session.transaction
  base : draft.base "authorization_nonces" = state.table.settledValues.map (·.row)
  held : Sound schema draft.base
  standing : draft.failed = true ∧ state.health = .rolledBack ∧ state.table.fate state.session.transaction = .aborted ∨
    draft.failed = false ∧ state.health = .sound ∧ state.table.fate state.session.transaction = .active ∧
      Sound schema draft.current ∧ draft.current = Function.update draft.base "authorization_nonces"
        ((state.table.view state.session.transaction).map (·.value.row))

variable {state : StoreSession} {draft : Draft}

/-- A failed statement rolls both back. -/
theorem Shows.rollBack (shows : Shows setting state draft) (active : state.table.fate state.session.transaction = .active) :
    Shows setting state.rollBack { draft with failed := true } where
  setting := shows.setting
  keys := shows.keys
  alone := by
    intro version member other touched
    exact .inr (shows.alone.finish (.inr rfl) version member other touched)
  base := by
    rw [StoreSession.rollBack, Table.settledValues_resolve (by simp [active]) (by simp)]
    exact shows.base
  held := shows.held
  standing := .inl ⟨rfl, rfl, by simp [StoreSession.rollBack, Table.resolve]⟩

theorem row_present_iff (keys : ∀ version ∈ table.versions, version.key = version.value.digest) (txn : TxnId) :
    ((table.view txn).map (·.value.row)).any (fun row => row "digest" = some (.text digest)) = true ↔
      ∃ version ∈ table.versions, version.key = digest ∧ table.sees txn version = true := by
  rw [List.any_map, List.any_eq_true]
  constructor
  · rintro ⟨version, member, named⟩
    obtain ⟨inside, seen⟩ := List.mem_filter.mp member
    refine ⟨version, inside, ?_, seen⟩
    rw [keys version inside]
    simpa using named
  · rintro ⟨version, inside, named, seen⟩
    refine ⟨version, List.mem_filter.mpr ⟨inside, seen⟩, ?_⟩
    rw [keys version inside] at named
    simpa using named

/-- A row that both accept. -/
theorem Shows.insert (shows : Shows setting state draft) (ongoing : draft.failed = false) (health : state.health = .sound)
    (active : state.table.fate state.session.transaction = .active)
    (current : draft.current = Function.update draft.base "authorization_nonces"
      ((state.table.view state.session.transaction).map (·.value.row))) {next : Database Cell} (sound : Sound schema next)
    (inserted : next = Function.update draft.current "authorization_nonces" (draft.current "authorization_nonces" ++ [nonce.row])) :
    Shows setting { state with table := state.table.insert state.session.transaction nonce.digest nonce }
      { draft with current := next } where
  setting := shows.setting
  keys := by
    intro version member
    rcases List.mem_append.mp member with old | new
    · exact shows.keys version old
    · rw [List.mem_singleton.mp new]
  alone := shows.alone.insert nonce.digest nonce
  base := by rw [Table.settledValues_insert active]; exact shows.base
  held := shows.held
  standing := by
    refine .inr ⟨ongoing, health, active, sound, ?_⟩
    rw [inserted, current, Function.update_self, Function.update_idem, Table.view_insert, List.map_append]
    rfl

theorem issue_of_sound (health : state.health = .sound) :
    state.issue deployment nonce =
      match issue deployment state.session nonce state.table with
      | .waits _ => none
      | .done (.ok _) table => some (.ok (), { state with table := table })
      | .done (.error error) table => some (.error (.store error), { state with table := table }.rollBack) := by
  obtain ⟨session, table, standing⟩ := state
  subst health
  rfl

theorem issue_shows (shows : Shows setting state draft) (nonce : StoredAuthorizationNonce) :
    ∃ answer next, state.issue (Deployment.over bypassesRowSecurity draft.base) nonce = some (answer, next) ∧
      (draft.insert (admits bypassesRowSecurity setting) nonce.row).1 = answer ∧
      Shows setting next (draft.insert (admits bypassesRowSecurity setting) nonce.row).2 := by
  rcases shows.standing with ⟨failed, health, aborted⟩ | ⟨ongoing, health, active, sound, current⟩
  · refine ⟨.error .pendingRollback, state, by rw [StoreSession.issue, health], ?_, ?_⟩
    · rw [Draft.insert, if_pos failed]
    · rw [Draft.insert, if_pos failed]
      exact shows
  have permitted : permits (Deployment.over bypassesRowSecurity draft.base) state.session Policy.withCheck nonce =
      .ok (admits bypassesRowSecurity setting nonce.row) := permits_eq_admits shows.setting (.inr rfl)
  rw [issue_of_sound health, Draft.insert, if_neg (by simp [ongoing])]
  by_cases admitted : admits bypassesRowSecurity setting nonce.row = true
  · rw [issue_of_permitted (permitted.trans (congrArg _ admitted)), if_pos admitted]
    have settled := shows.alone.settled nonce.digest
    have taken := (@row_present_iff _ nonce.digest shows.keys state.session.transaction).trans
      (Table.keyState_eq_present_iff active (shows.alone.authored active) settled).symm
    have inserted := @insert_nonce bypassesRowSecurity draft.current nonce
    have same : Deployment.over bypassesRowSecurity draft.current = Deployment.over bypassesRowSecurity draft.base := by
      rw [current, over_update]
    have visible : draft.current "authorization_nonces" = (state.table.view state.session.transaction).map (·.value.row) := by
      rw [current, Function.update_self]
    rw [same, visible] at inserted
    cases key : state.table.keyState state.session.transaction nonce.digest with
    | wait => exact absurd key settled
    | present =>
      rw [if_pos (taken.mpr key)] at inserted
      rw [inserted]
      exact ⟨_, _, rfl, rfl, shows.rollBack active⟩
    | free =>
      rw [if_neg (by rw [taken, key]; simp)] at inserted
      by_cases known : (Deployment.over bypassesRowSecurity draft.base).registered nonce.tenantId nonce.connectionId = true
      · rw [if_pos known] at inserted
        rw [inserted, if_pos known]
        refine ⟨_, _, rfl, rfl, shows.insert ongoing health active current (insert_sound schema_ordered sound inserted) ?_⟩
        rw [visible]
      · rw [if_neg known] at inserted
        rw [inserted, if_neg known]
        exact ⟨_, _, rfl, rfl, shows.rollBack active⟩
  · rw [issue_refused (permitted.trans (congrArg _ (Bool.eq_false_iff.mpr admitted))), if_neg admitted]
    exact ⟨_, _, rfl, rfl, shows.rollBack active⟩

theorem consume_of_sound (health : state.health = .sound) :
    state.consume deployment digest =
      match consume deployment state.session digest state.table with
      | .waits _ => none
      | .done (.ok found) table => some (.ok found, { state with table := table })
      | .done (.error error) table => some (.error (.store error), { state with table := table, health := .aborted }) := by
  obtain ⟨session, table, standing⟩ := state
  subst health
  rfl

theorem chosen_iff (keys : ∀ version ∈ table.versions, version.key = version.value.digest) {admitted : Row Cell → Bool}
    {version : NonceVersion} (member : version ∈ table.versions) :
    chosen admitted digest version.value.row = (version.key = digest && admitted version.value.row) := by
  rw [chosen, keys version member, row_digest]
  simp

/-- A DELETE on the tables finds the row of the version that the store finds. -/
theorem find_chosen (keys : ∀ version ∈ table.versions, version.key = version.value.digest) (admitted : Row Cell → Bool)
    (txn : TxnId) :
    ((table.view txn).map (·.value.row)).find? (chosen admitted digest) =
      (found? admitted table txn digest).map fun entry => entry.1.value.row := by
  have indexed : table.versions = table.versions.zipIdx.map Prod.fst := (List.zipIdx_map_fst ..).symm
  have same : (table.versions.find? fun version =>
        decide (table.sees txn version = true ∧ (chosen admitted digest ∘ (·.value.row)) version = true)) =
      table.versions.find? fun version => table.sees txn version && (version.key = digest && admitted version.value.row) :=
    List.find?_congr fun version member => by
      rw [Function.comp, chosen_iff keys member, Bool.decide_and, Bool.decide_eq_true, Bool.decide_eq_true]
  rw [List.find?_map, Table.view, List.find?_filter, same]
  conv_lhs => rw [indexed]
  rw [List.find?_map, Option.map_map]
  rfl

/-- A DELETE on the tables leaves the rows of the versions that the store leaves. -/
theorem filter_chosen (keys : ∀ version ∈ table.versions, version.key = version.value.digest) {txn : TxnId}
    (distinct : ((table.view txn).map (·.key)).Nodup) {admitted : Row Cell → Bool} {version : NonceVersion} {position : ℕ}
    (found : found? admitted table txn digest = some (version, position)) :
    ((table.view txn).map (·.value.row)).filter (fun row => !chosen admitted digest row) =
      ((table.deleteAt txn position).view txn).map (·.value.row) := by
  obtain ⟨present, seen, named, permitted⟩ := found?_eq_some found
  have inside : version ∈ table.view txn := List.mem_filter.mpr ⟨List.mem_of_getElem? present, seen⟩
  rw [Table.view_deleteAt distinct present seen, List.filter_map]
  refine congrArg _ (List.filter_congr fun other member => ?_)
  rw [Function.comp, chosen_iff keys (List.mem_filter.mp member).1, ← named]
  by_cases same : other.key = version.key
  · obtain rfl := List.inj_on_of_nodup_map distinct member inside same
    simp [permitted]
  · simp [same]

/-- The keys of what a session sees are told apart. -/
theorem view_distinct (keys : ∀ version ∈ table.versions, version.key = version.value.digest) {txn : TxnId} {db : Database Cell}
    (sound : Sound schema db) (visible : db "authorization_nonces" = (table.view txn).map (·.value.row)) :
    ((table.view txn).map (·.key)).Nodup := by
  have keyed := (owned_of_sound sound).keyed Migration.authorizationNonces (by decide) ["digest"] (by decide)
  have digests : (db "authorization_nonces").map (fun row => ["digest"].map row) =
      ((table.view txn).map (·.key)).map fun key => [some (Cell.text key)] := by
    rw [visible, List.map_map, List.map_map]
    refine List.map_congr_left fun version member => ?_
    simp [keys version (List.mem_filter.mp member).1]
  rw [Migration.authorizationNonces, digests] at keyed
  exact keyed.of_map _

theorem keys_deleteAt (keys : ∀ version ∈ table.versions, version.key = version.value.digest) {txn : TxnId} {position : ℕ} :
    ∀ version ∈ (table.deleteAt txn position).versions, version.key = version.value.digest := by
  intro version member
  obtain ⟨index, found⟩ := List.mem_iff_getElem?.mp member
  rw [Table.deleteAt_getElem?] at found
  obtain ⟨old, present, changed⟩ := Option.map_eq_some_iff.mp found
  have named := keys old (List.mem_of_getElem? present)
  split_ifs at changed <;> exact changed ▸ named

/-- Rows that both take away, if there are any. -/
theorem Shows.delete (shows : Shows setting state draft) (ongoing : draft.failed = false) (health : state.health = .sound)
    {next : NonceTable} {after : Database Cell} (keys : ∀ version ∈ next.versions, version.key = version.value.digest)
    (alone : next.Alone state.session.transaction) (settled : next.settledValues = state.table.settledValues)
    (active : next.fate state.session.transaction = .active) (sound : Sound schema after)
    (seen : after = Function.update draft.base "authorization_nonces"
      ((next.view state.session.transaction).map (·.value.row))) :
    Shows setting { state with table := next } { draft with current := after } where
  setting := shows.setting
  keys := keys
  alone := alone
  base := by rw [settled]; exact shows.base
  held := shows.held
  standing := .inr ⟨ongoing, health, active, sound, seen⟩

theorem consume_shows (shows : Shows setting state draft) (digest : String) :
    ∃ answer next, state.consume (Deployment.over bypassesRowSecurity draft.base) digest = some (answer, next) ∧
      (draft.delete (admits bypassesRowSecurity setting) digest).1 = answer.map (fun found => found.map (·.row)) ∧
      Shows setting next (draft.delete (admits bypassesRowSecurity setting) digest).2 := by
  rcases shows.standing with ⟨failed, health, aborted⟩ | ⟨ongoing, health, active, sound, current⟩
  · refine ⟨.error .pendingRollback, state, by rw [StoreSession.consume, health], ?_, ?_⟩
    · rw [Draft.delete, if_pos failed]
      rfl
    · rw [Draft.delete, if_pos failed]
      exact shows
  have visible : draft.current "authorization_nonces" = (state.table.view state.session.transaction).map (·.value.row) := by
    rw [current, Function.update_self]
  have deleted := delete_nonces sound (chosen (admits bypassesRowSecurity setting) digest)
  have executed : execute schema draft.current (.delete "authorization_nonces" (chosen (admits bypassesRowSecurity setting) digest)) =
      Function.update draft.base "authorization_nonces" (((state.table.view state.session.transaction).map (·.value.row)).filter
        fun row => !chosen (admits bypassesRowSecurity setting) digest row) := by
    rw [execute, Statement.run, deleted, visible, current, Function.update_idem]
  have kept := execute_sound schema_ordered sound (.delete "authorization_nonces" (chosen (admits bypassesRowSecurity setting) digest))
  have finished : consume (Deployment.over bypassesRowSecurity draft.base) state.session digest state.table =
      match found? (admits bypassesRowSecurity setting) state.table state.session.transaction digest with
      | none => .done (.ok none) state.table
      | some (version, position) => .done (.ok (some version.value)) (state.table.deleteAt state.session.transaction position) :=
    consume_eq shows.setting shows.alone digest
  rw [consume_of_sound health, Draft.delete, if_neg (by simp [ongoing]), visible, find_chosen shows.keys]
  cases found : found? (admits bypassesRowSecurity setting) state.table state.session.transaction digest with
  | none =>
    have nothing := (find_chosen shows.keys (admits bypassesRowSecurity setting) state.session.transaction).trans
      (congrArg (Option.map _) found)
    rw [Option.map_none, List.find?_eq_none] at nothing
    have whole := List.filter_eq_self.mpr fun row member => Bool.not_eq_true' _ ▸ Bool.eq_false_iff.mpr (nothing row member)
    rw [whole] at executed
    rw [finished, found]
    exact ⟨_, _, rfl, rfl, shows.delete ongoing health shows.keys shows.alone rfl active kept executed⟩
  | some entry =>
    obtain ⟨version, position⟩ := entry
    obtain ⟨present, seen, _⟩ := found?_eq_some found
    rw [filter_chosen shows.keys (view_distinct shows.keys sound visible) found] at executed
    rw [finished, found]
    refine ⟨_, _, rfl, rfl, shows.delete ongoing health ?_ (shows.alone.deleteAt position)
      (Table.settledValues_deleteAt active present seen) active kept executed⟩
    exact fun other member => keys_deleteAt shows.keys other member

theorem perform_shows (shows : Shows setting state draft) (call : Call) :
    ∃ answer next, state.perform (Deployment.over bypassesRowSecurity draft.base) call = some (answer, next) ∧
      (draft.perform (admits bypassesRowSecurity setting) call).1 = answer.rows ∧
      Shows setting next (draft.perform (admits bypassesRowSecurity setting) call).2 := by
  cases call with
  | issue nonce =>
    obtain ⟨answer, next, performed, same, shows⟩ := @issue_shows bypassesRowSecurity _ _ _ shows nonce
    exact ⟨.issued answer, next, by rw [StoreSession.perform, performed]; rfl, congrArg RowAnswer.issued same, shows⟩
  | consume digest =>
    obtain ⟨answer, next, performed, same, shows⟩ := @consume_shows bypassesRowSecurity _ _ _ shows digest
    exact ⟨.consumed answer, next, by rw [StoreSession.perform, performed]; rfl, congrArg RowAnswer.consumed same, shows⟩

@[simp] theorem perform_base (admitted : Row Cell → Bool) (draft : Draft) (call : Call) :
    (draft.perform admitted call).2.base = draft.base := by
  cases call with
  | issue nonce =>
    rw [Draft.perform, Draft.insert]
    split_ifs
    · rfl
    · split <;> rfl
    · rfl
  | consume digest =>
    rw [Draft.perform, Draft.delete]
    split_ifs <;> rfl

@[simp] theorem performAll_base (admitted : Row Cell → Bool) (draft : Draft) (calls : List Call) :
    (draft.performAll admitted calls).2.base = draft.base := by
  induction calls generalizing draft with
  | nil => rfl
  | cons call rest ih => exact (ih _).trans (perform_base admitted draft call)

/-- A rollback settles one transaction. -/
theorem rollBack_fate {txn : TxnId} (foreign : txn ≠ state.session.transaction) :
    state.rollBack.table.fate txn = state.table.fate txn := Function.update_of_ne foreign ..

theorem issue_frame {outcome : Except SessionError Unit} {next : StoreSession}
    (issued : state.issue deployment nonce = some (outcome, next)) :
    next.session = state.session ∧ ∀ txn ≠ state.session.transaction, next.table.fate txn = state.table.fate txn := by
  cases health : state.health with
  | rolledBack =>
    rw [StoreSession.issue, health] at issued
    cases issued
    exact ⟨rfl, fun _ _ => rfl⟩
  | aborted =>
    rw [StoreSession.issue, health] at issued
    cases issued
    exact ⟨rfl, fun _ => rollBack_fate⟩
  | sound =>
    rw [issue_of_sound health] at issued
    split at issued
    · contradiction
    · next finished =>
      cases issued
      exact ⟨rfl, fun txn _ => congrFun (issue_effect 0 finished).fate txn⟩
    · next finished =>
      cases issued
      have settled := congrFun (issue_effect 0 finished).fate
      exact ⟨rfl, fun txn foreign => (Function.update_of_ne foreign ..).trans (settled txn)⟩

theorem consume_frame {outcome : Except SessionError (Option StoredAuthorizationNonce)} {next : StoreSession}
    (consumed : state.consume deployment digest = some (outcome, next)) :
    next.session = state.session ∧ ∀ txn ≠ state.session.transaction, next.table.fate txn = state.table.fate txn := by
  cases health : state.health with
  | rolledBack | aborted =>
    rw [StoreSession.consume, health] at consumed
    cases consumed
    exact ⟨rfl, fun _ _ => rfl⟩
  | sound =>
    rw [consume_of_sound health] at consumed
    split at consumed
    · contradiction
    · next finished =>
      cases consumed
      exact ⟨rfl, fun txn _ => congrFun (consume_effect 0 finished).fate txn⟩
    · next finished =>
      cases consumed
      exact ⟨rfl, fun txn _ => congrFun (consume_effect 0 finished).fate txn⟩

/-- A call leaves the session, and what became of other transactions. -/
theorem perform_frame {call : Call} {answer : Answer} {next : StoreSession}
    (performed : state.perform deployment call = some (answer, next)) :
    next.session = state.session ∧ ∀ txn ≠ state.session.transaction, next.table.fate txn = state.table.fate txn := by
  cases call with
  | issue nonce =>
    obtain ⟨⟨outcome, next⟩, issued, same⟩ := Option.map_eq_some_iff.mp performed
    cases same
    exact issue_frame issued
  | consume digest =>
    obtain ⟨⟨outcome, next⟩, consumed, same⟩ := Option.map_eq_some_iff.mp performed
    cases same
    exact consume_frame consumed

theorem performAll_shows (shows : Shows setting state draft) (calls : List Call) :
    ∃ answers next, state.performAll (Deployment.over bypassesRowSecurity draft.base) calls = some (answers, next) ∧
      (draft.performAll (admits bypassesRowSecurity setting) calls).1 = answers.map Answer.rows ∧
      Shows setting next (draft.performAll (admits bypassesRowSecurity setting) calls).2 ∧
      next.session = state.session ∧ ∀ txn ≠ state.session.transaction, next.table.fate txn = state.table.fate txn := by
  induction calls generalizing state draft with
  | nil => exact ⟨[], state, rfl, rfl, shows, rfl, fun _ _ => rfl⟩
  | cons call rest ih =>
    obtain ⟨answer, middle, performed, same, shows⟩ := @perform_shows bypassesRowSecurity _ _ _ shows call
    obtain ⟨answers, next, later, others, shown, session, fates⟩ := ih shows
    obtain ⟨kept, framed⟩ := perform_frame performed
    rw [perform_base] at later
    refine ⟨answer :: answers, next, ?_, ?_, shown, session.trans kept, fun txn foreign => ?_⟩
    · rw [StoreSession.performAll, performed]
      simp [later]
    · rw [Draft.performAll, List.map_cons, ← same, ← others]
    · rw [fates txn (by rwa [kept]), framed txn foreign]

/-! ## One transaction after another -/

/-- A table with no open transaction whose committed rows are those of a database. -/
structure Mirrors (table : NonceTable) (db : Database Cell) : Prop where
  rests : table.Rests
  keys : ∀ version ∈ table.versions, version.key = version.value.digest
  nonces : db "authorization_nonces" = table.settledValues.map (·.row)
  sound : Sound schema db

theorem Mirrors.begin (mirrors : Mirrors table db) {txn : TxnId} (unborn : table.fate txn = .unborn) (setting : Setting) :
    Shows setting ⟨⟨txn, setting.current⟩, table.resolve txn .active, .sound⟩ ⟨db, db, false⟩ where
  setting := rfl
  keys := mirrors.keys
  alone := mirrors.rests.begin .active
  base := by
    rw [Table.settledValues_resolve (by simp [unborn]) (by simp)]
    exact mirrors.nonces
  held := mirrors.sound
  standing := by
    refine .inr ⟨rfl, rfl, Function.update_self .., mirrors.sound, ?_⟩
    have visible := congrArg (List.map StoredAuthorizationNonce.row) (Table.view_begin mirrors.rests unborn)
    rw [List.map_map, ← mirrors.nonces] at visible
    exact (Function.update_eq_self_iff.mpr visible).symm

theorem Shows.finish (shows : Shows setting state draft) (commits : Bool) :
    Mirrors (state.table.resolve state.session.transaction (if commits && state.health = .sound then .committed else .aborted))
      (if commits && !draft.failed then draft.current else draft.base) := by
  rcases shows.standing with ⟨failed, health, aborted⟩ | ⟨ongoing, health, active, sound, current⟩
  · have lost : (commits && decide (state.health = .sound)) = false := by simp [health]
    rw [lost, failed, Bool.not_true, Bool.and_false]
    refine ⟨shows.alone.finish (.inr rfl), shows.keys, ?_, shows.held⟩
    rw [Table.settledValues_resolve (by simp [aborted]) (by simp)]
    exact shows.base
  · rw [ongoing, health]
    cases commits with
    | false =>
      refine ⟨shows.alone.finish (.inr rfl), shows.keys, ?_, shows.held⟩
      rw [Table.settledValues_resolve (by simp [active]) (by simp)]
      exact shows.base
    | true =>
      refine ⟨shows.alone.finish (.inl rfl), shows.keys, ?_, sound⟩
      change draft.current "authorization_nonces" = (state.table.resolve _ .committed).settledValues.map _
      rw [Table.settledValues_commit, List.map_map, current, Function.update_self]
      rfl

/-- A transaction on nonces leaves the connections. -/
theorem Shows.registered (shows : Shows setting state draft) (commits : Bool) :
    Deployment.over bypassesRowSecurity (if commits && !draft.failed then draft.current else draft.base) =
      Deployment.over bypassesRowSecurity draft.base := by
  rcases shows.standing with ⟨failed, _⟩ | ⟨ongoing, _, _, _, current⟩
  · simp [failed]
  · cases commits with
    | false => rfl
    | true => rw [ongoing, current]; exact over_update _

theorem serve_mirrors (mirrors : Mirrors table db) {txn : TxnId} (fresh : ∀ id, txn ≤ id → table.fate id = .unborn)
    (script : Script) :
    ∃ answers next, serve (Deployment.over bypassesRowSecurity db) table txn script = some (answers, next) ∧
      (transact bypassesRowSecurity db script).1 = answers.map Answer.rows ∧
      Mirrors next (transact bypassesRowSecurity db script).2 ∧
      (∀ id, txn + 1 ≤ id → next.fate id = .unborn) ∧
      Deployment.over bypassesRowSecurity (transact bypassesRowSecurity db script).2 = Deployment.over bypassesRowSecurity db := by
  obtain ⟨answers, state, performed, same, shows, session, fates⟩ :=
    @performAll_shows bypassesRowSecurity _ _ _ (mirrors.begin (fresh txn le_rfl) script.setting) script.calls
  have own : state.session.transaction = txn := by rw [session]
  have finished := shows.finish script.commits
  have registered := (@Shows.registered bypassesRowSecurity _ _ _ shows script.commits).trans
    (congrArg (Deployment.over bypassesRowSecurity) (performAll_base ..))
  rw [own] at finished
  refine ⟨answers, _, ?_, same, finished, fun id later => ?_, registered⟩
  · rw [serve, performed]
    rfl
  · have foreign : id ≠ txn := Nat.ne_of_gt later
    have kept := fates id foreign
    simp only [Table.resolve, Function.update_of_ne foreign] at kept ⊢
    rw [kept]
    exact fresh id (Nat.le_of_succ_le later)

/-- Transactions that run one after another on the store answer as they would on the tables, and leave what they
would leave there. -/
theorem serveAll_refines (mirrors : Mirrors table db) {txn : TxnId} (fresh : ∀ id, txn ≤ id → table.fate id = .unborn)
    (scripts : List Script) :
    ∃ answers next, serveAll (Deployment.over bypassesRowSecurity db) table txn scripts = some (answers, next) ∧
      (transactAll bypassesRowSecurity db scripts).1 = answers.map (·.map Answer.rows) ∧
      Mirrors next (transactAll bypassesRowSecurity db scripts).2 := by
  induction scripts generalizing table db txn with
  | nil => exact ⟨[], table, rfl, rfl, mirrors⟩
  | cons script rest ih =>
    obtain ⟨answers, middle, served, same, mirrored, later, registered⟩ :=
      @serve_mirrors bypassesRowSecurity _ _ mirrors _ fresh script
    obtain ⟨others, next, served', same', mirrored'⟩ := ih mirrored later
    refine ⟨answers :: others, next, ?_, ?_, mirrored'⟩
    · rw [registered] at served'
      rw [serveAll, served]
      simp [served']
    · rw [transactAll, List.map_cons, ← same, ← same']

/-- A database with the tenant and the connection of the sample nonce. -/
def sampleStatements : List (Statement Cell) :=
  [.insert "tenants" fun column =>
      if column = "id" then some (.uuid sampleTenant)
      else if column = "name" then some (.text "A") else if column = "created_at" then some (.timestamp 0) else none,
    .insert "institutions" fun column =>
      if column = "id" then some (.uuid 1)
      else if column = "key" then some (.text "zerodha") else if column = "name" then some (.text "Zerodha") else none,
    .insert "broker_connections" fun column =>
      if column = "id" then some (.uuid sampleNonce.connectionId.value.value)
      else if column = "tenant_id" then some (.uuid sampleTenant) else if column = "institution_id" then some (.uuid 1)
      else if column = "connector_key" then some (.text "zerodha") else if column = "label" then some (.text "Main")
      else if column = "authentication_status" then some (.text "authenticated")
      else if column = "created_at" then some (.timestamp 0) else none]

/-- A transaction that issues the sample nonce twice, and one that issues and consumes it. -/
def sampleScripts : List Script :=
  [⟨.tenant _ sampleTenant (UuidText.parse_render sampleTenant), [.issue sampleNonce, .issue sampleNonce], true⟩,
    ⟨.tenant _ sampleTenant (UuidText.parse_render sampleTenant), [.issue sampleNonce, .consume sampleNonce.digest], true⟩]

theorem created_mirrors : Mirrors created (after schema sampleStatements) where
  rests := by simp [Table.Rests, created]
  keys := by simp [created]
  nonces := rfl
  sound := after_sound schema_ordered sampleStatements

theorem serveAll_refines_sample :
    ∃ answers next, serveAll (Deployment.over false (after schema sampleStatements)) created 1 sampleScripts = some (answers, next) ∧
      answers.map (·.map Answer.rows) = (transactAll false (after schema sampleStatements) sampleScripts).1 := by
  obtain ⟨answers, next, served, same, _⟩ := @serveAll_refines false _ _ created_mirrors 1 (fun _ _ => rfl) sampleScripts
  exact ⟨answers, next, served, same.symm⟩

end PortfolioManager.Persistence
