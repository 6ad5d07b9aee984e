import PortfolioManager.Library.Runs
import PortfolioManager.Persistence.NonceStore

/-! # Sessions on one nonce table

Any number of processes hold pooled connections to one database and run transactions over them,
one statement after another, in any interleaving. A transaction may set `app.tenant_id` for
itself; the setting ends with it, and the connection then reads the empty string. A transaction
ends in a commit or in a rollback, which is also what a crash of its process amounts to, and one
with a failed statement can only be rolled back.
-/

namespace PortfolioManager.Persistence

open PortfolioManager.Domain Mvcc Sql Runs SingleUse SqlAlchemyAuthorizationNonceStore

abbrev LinkId := ℕ

/-- An open transaction; a DELETE it waits in has a digest and the position of the version it chose. -/
structure Transaction where
  id : TxnId
  setting : Setting
  failed : Bool
  waiting : Option (String × ℕ)

def Transaction.session (transaction : Transaction) : Session :=
  ⟨transaction.id, transaction.setting.current⟩

/-- Ready for the next statement. -/
structure Transaction.Ready (transaction : Transaction) : Prop where
  sound : transaction.failed = false
  running : transaction.waiting = none

/-- A pooled connection, and whether an earlier transaction on it has set a tenant. -/
structure Link where
  tenantEver : Bool
  transaction : Option Transaction

/-- The setting a transaction starts under. -/
def Link.setting (link : Link) : Setting :=
  if link.tenantEver then .reset else .never

def Link.begin (link : Link) (id : TxnId) : Link :=
  { link with transaction := some ⟨id, link.setting, false, none⟩ }

def Link.finish (link : Link) (transaction : Transaction) : Link :=
  ⟨link.tenantEver || transaction.setting.id?.isSome, none⟩

structure World where
  table : NonceTable
  links : LinkId → Link

/-- Connections nobody has used yet. -/
def World.start (table : NonceTable) : World := ⟨table, fun _ => ⟨false, none⟩⟩

def World.set (world : World) (link : LinkId) (state : Link) (table : NonceTable) : World :=
  ⟨table, Function.update world.links link state⟩

/-- The open transaction of a connection goes on in another state. -/
def World.advance (world : World) (link : LinkId) (transaction : Transaction) (table : NonceTable) : World :=
  world.set link { world.links link with transaction := some transaction } table

/-- The open transaction of a connection is settled. -/
def World.settle (world : World) (link : LinkId) (transaction : Transaction) (fate : Fate) : World :=
  world.set link ((world.links link).finish transaction) (world.table.resolve transaction.id fate)

/-- A transaction after a statement with an outcome. -/
def Transaction.after {α : Type} (transaction : Transaction) (outcome : Except StoreError α) : Transaction :=
  { transaction with failed := !outcome.isOk, waiting := none }

inductive Event where
  | begun (link : LinkId)
  | tenantSet (link : LinkId) (id : BitVec 128)
  | issued (link : LinkId) (nonce : StoredAuthorizationNonce) (outcome : Except StoreError Unit)
  | consumed (link : LinkId) (digest : String) (outcome : Except StoreError (Option StoredAuthorizationNonce))
  | blocked (link : LinkId) (digest : String)
  | committed (link : LinkId)
  | rolledBack (link : LinkId)

variable {deployment : Deployment}

/-- One statement of one connection. -/
inductive Step (deployment : Deployment) : World → Event → World → Prop where
  | begun {world : World} {link : LinkId} {id : TxnId} :
      (world.links link).transaction = none → world.table.fate id = .unborn →
      Step deployment world (.begun link)
        (world.set link ((world.links link).begin id) (world.table.resolve id .active))
  | tenantSet {world : World} {link : LinkId} {transaction : Transaction} {text : String} {id : BitVec 128}
      (reads : UuidText.parse text = some id) :
      (world.links link).transaction = some transaction → transaction.Ready →
      Step deployment world (.tenantSet link id)
        (world.advance link { transaction with setting := .tenant text id reads } world.table)
  | issued {world : World} {link : LinkId} {transaction : Transaction} {nonce : StoredAuthorizationNonce}
      {outcome : Except StoreError Unit} {table : NonceTable} :
      (world.links link).transaction = some transaction → transaction.Ready →
      issue deployment transaction.session nonce world.table = .done outcome table →
      Step deployment world (.issued link nonce outcome) (world.advance link (transaction.after outcome) table)
  | consumed {world : World} {link : LinkId} {transaction : Transaction} {digest : String}
      {outcome : Except StoreError (Option StoredAuthorizationNonce)} {table : NonceTable} :
      (world.links link).transaction = some transaction → transaction.Ready →
      consume deployment transaction.session digest world.table = .done outcome table →
      Step deployment world (.consumed link digest outcome) (world.advance link (transaction.after outcome) table)
  | blocked {world : World} {link : LinkId} {transaction : Transaction} {digest : String} {position : ℕ} :
      (world.links link).transaction = some transaction → transaction.Ready →
      consume deployment transaction.session digest world.table = .waits (some position) →
      Step deployment world (.blocked link digest)
        (world.advance link { transaction with waiting := some (digest, position) } world.table)
  | resumed {world : World} {link : LinkId} {transaction : Transaction} {digest : String} {position : ℕ}
      {outcome : Except StoreError (Option StoredAuthorizationNonce)} {table : NonceTable} :
      (world.links link).transaction = some transaction → transaction.waiting = some (digest, position) →
      deleteReturning transaction.session position world.table = .done outcome table →
      Step deployment world (.consumed link digest outcome) (world.advance link (transaction.after outcome) table)
  | committed {world : World} {link : LinkId} {transaction : Transaction} :
      (world.links link).transaction = some transaction → transaction.Ready →
      Step deployment world (.committed link) (world.settle link transaction .committed)
  | rolledBack {world : World} {link : LinkId} {transaction : Transaction} :
      (world.links link).transaction = some transaction →
      Step deployment world (.rolledBack link) (world.settle link transaction .aborted)

namespace Event

def link : Event → LinkId
  | begun link | tenantSet link .. | issued link .. | consumed link .. | blocked link .. | committed link
  | rolledBack link => link

/-- The operation an event performed on the stored nonces. -/
def op : Event → Option (Op String StoredAuthorizationNonce)
  | issued _ nonce (.ok _) => some (.put nonce.digest nonce)
  | consumed _ digest (.ok (some nonce)) => some (.take digest nonce)
  | _ => none

/-- The tenant set in the open transaction of a connection after an event. -/
def tenant (link : LinkId) (current : Option (BitVec 128)) : Event → Option (BitVec 128)
  | tenantSet other id => if other = link then some id else current
  | begun other | committed other | rolledBack other => if other = link then none else current
  | _ => current

end Event

/-- The tenant that the open transaction of a connection has set, going by the events alone. -/
def tenantOf (link : LinkId) (events : List Event) : Option (BitVec 128) :=
  events.foldl (Event.tenant link) none

theorem tenantOf_concat (link : LinkId) (events : List Event) (event : Event) :
    tenantOf link (events ++ [event]) = event.tenant link (tenantOf link events) := by
  rw [tenantOf, List.foldl_append]
  rfl

/-! ## What one step does -/

variable {world next : World} {event : Event}

@[simp] theorem set_links_self (world : World) (link : LinkId) (state : Link) (table : NonceTable) :
    (world.set link state table).links link = state := Function.update_self ..

@[simp] theorem set_links_of_ne {link other : LinkId} (different : other ≠ link) (world : World) (state : Link)
    (table : NonceTable) : (world.set link state table).links other = world.links other :=
  Function.update_of_ne different ..

@[simp] theorem setting_id? (link : Link) : link.setting.id? = none := by
  unfold Link.setting
  split <;> rfl

/-- Nothing that happens on one connection changes the tenant of another. -/
theorem tenant_of_ne {link : LinkId} (different : link ≠ event.link) (current : Option (BitVec 128)) :
    event.tenant link current = current := by
  cases event with
  | begun other => exact if_neg (Ne.symm different)
  | tenantSet other _ => exact if_neg (Ne.symm different)
  | committed other => exact if_neg (Ne.symm different)
  | rolledBack other => exact if_neg (Ne.symm different)
  | _ => rfl

/-- The version a transaction waits for: it has the digest, and row security admits it. -/
structure Chosen (deployment : Deployment) (session : Session) (table : NonceTable) (digest : String) (position : ℕ)
    (version : NonceVersion) : Prop where
  present : table.versions[position]? = some version
  named : version.key = digest
  permitted : permits deployment session Policy.usingClause version.value = .ok true

/-- What a statement may do to the table. -/
inductive Effect (deployment : Deployment) (session : Session) (table : NonceTable) : Event → NonceTable → Prop where
  | unchanged {event : Event} : event.op = none → Effect deployment session table event table
  | stored {link : LinkId} {nonce : StoredAuthorizationNonce} :
      permits deployment session Policy.withCheck nonce = .ok true →
      table.keyState session.transaction nonce.digest = .free →
      Effect deployment session table (.issued link nonce (.ok ()))
        (table.insert session.transaction nonce.digest nonce)
  | removed {link : LinkId} {digest : String} {position : ℕ} {version : NonceVersion} :
      Chosen deployment session table digest position version → Deletable session table position version →
      Effect deployment session table (.consumed link digest (.ok (some version.value)))
        (table.deleteAt session.transaction position)

theorem Effect.fate {session : Session} {table table' : NonceTable} (effect : Effect deployment session table event table') :
    table'.fate = table.fate := by
  cases effect <;> rfl

theorem Effect.kept {session : Session} {table table' : NonceTable} (effect : Effect deployment session table event table') :
    table.Kept table' := by
  cases effect with
  | unchanged => exact .refl table
  | stored => exact table.insert_kept _ _ _
  | removed => exact table.deleteAt_kept _ _

theorem issue_effect {session : Session} {table table' : NonceTable} {nonce : StoredAuthorizationNonce}
    {outcome : Except StoreError Unit} (link : LinkId)
    (finished : issue deployment session nonce table = .done outcome table') :
    Effect deployment session table (.issued link nonce outcome) table' := by
  rcases issue_eq_done finished with ⟨rfl, permitted, free, rfl⟩ | ⟨⟨error, rfl⟩, rfl⟩
  · exact .stored permitted free
  · exact .unchanged rfl

theorem deleteReturning_effect {session : Session} {table table' : NonceTable} {digest : String} {position : ℕ}
    {version : NonceVersion} {outcome : Except StoreError (Option StoredAuthorizationNonce)}
    (link : LinkId) (chosen : Chosen deployment session table digest position version)
    (finished : deleteReturning session position table = .done outcome table') :
    Effect deployment session table (.consumed link digest outcome) table' := by
  rcases deleteReturning_eq_done finished with ⟨rfl, rfl⟩ | ⟨found, deletable, rfl, rfl⟩
  · exact .unchanged rfl
  · cases chosen.present.symm.trans deletable.present
    exact .removed chosen deletable

theorem consume_effect {session : Session} {table table' : NonceTable} {digest : String}
    {outcome : Except StoreError (Option StoredAuthorizationNonce)} (link : LinkId)
    (finished : consume deployment session digest table = .done outcome table') :
    Effect deployment session table (.consumed link digest outcome) table' := by
  rcases @consume_cases deployment session table digest with
    ⟨failure, failed, _⟩ | nothing | ⟨position, version, present, named, permitted, deleting⟩
  · cases failed.symm.trans finished
    exact .unchanged rfl
  · cases nothing.symm.trans finished
    exact .unchanged rfl
  · exact deleteReturning_effect link ⟨present, named, permitted⟩ (deleting ▸ finished)

/-- A statement of an open transaction: the transaction it leaves, and the table. -/
structure Advances (deployment : Deployment) (world : World) (event : Event) (transaction transaction' : Transaction)
    (table : NonceTable) : Prop where
  opened : (world.links event.link).transaction = some transaction
  same : transaction'.id = transaction.id
  tenant : transaction'.setting.id? = event.tenant event.link transaction.setting.id?
  effect : Effect deployment transaction.session world.table event table
  waits : ∀ digest position, transaction'.waiting = some (digest, position) →
    ∃ version, Chosen deployment transaction'.session table digest position version

/-- How a transaction ends. -/
inductive Ends : Event → Fate → Prop where
  | committed (link : LinkId) : Ends (.committed link) .committed
  | rolledBack (link : LinkId) : Ends (.rolledBack link) .aborted

/-- What the open transactions of a world rely on. -/
structure Coherent (deployment : Deployment) (events : List Event) (world : World) : Prop where
  active : ∀ link transaction, (world.links link).transaction = some transaction →
    world.table.fate transaction.id = .active
  apart : ∀ link other transaction transaction', (world.links link).transaction = some transaction →
    (world.links other).transaction = some transaction' → transaction.id = transaction'.id → link = other
  tenant : ∀ link transaction, (world.links link).transaction = some transaction →
    transaction.setting.id? = tenantOf link events
  waits : ∀ link transaction digest position, (world.links link).transaction = some transaction →
    transaction.waiting = some (digest, position) →
    ∃ version, Chosen deployment transaction.session world.table digest position version

/-- A step begins a transaction, goes on in one, or ends one. -/
theorem Coherent.step_cases {events : List Event} (coherent : Coherent deployment events world)
    (step : Step deployment world event next) :
    (∃ id, event = .begun event.link ∧ world.table.fate id = .unborn ∧
      next = world.set event.link ((world.links event.link).begin id) (world.table.resolve id .active)) ∨
    (∃ transaction transaction' table, Advances deployment world event transaction transaction' table ∧
      next = world.advance event.link transaction' table) ∨
    ∃ transaction fate, (world.links event.link).transaction = some transaction ∧ Ends event fate ∧
      next = world.settle event.link transaction fate := by
  cases step with
  | @begun link id _ unborn => exact .inl ⟨id, rfl, unborn, rfl⟩
  | @tenantSet link transaction text id reads opened ready =>
    refine .inr (.inl ⟨transaction, { transaction with setting := .tenant text id reads }, world.table,
      ⟨opened, rfl, (if_pos rfl).symm, .unchanged rfl, ?_⟩, rfl⟩)
    intro digest position waiting
    rw [ready.running] at waiting
    contradiction
  | @issued link transaction nonce outcome table opened ready finished =>
    exact .inr (.inl ⟨transaction, transaction.after outcome, table,
      ⟨opened, rfl, rfl, issue_effect link finished, by simp [Transaction.after]⟩, rfl⟩)
  | @consumed link transaction digest outcome table opened ready finished =>
    exact .inr (.inl ⟨transaction, transaction.after outcome, table,
      ⟨opened, rfl, rfl, consume_effect link finished, by simp [Transaction.after]⟩, rfl⟩)
  | @blocked link transaction digest position opened ready blocked =>
    refine .inr (.inl ⟨transaction, { transaction with waiting := some (digest, position) }, world.table,
      ⟨opened, rfl, rfl, .unchanged rfl, ?_⟩, rfl⟩)
    intro digest' position' waiting
    cases waiting
    rcases @consume_cases deployment transaction.session world.table digest with
      ⟨failure, failed, _⟩ | nothing | ⟨found, version, present, named, permitted, deleting⟩
    · cases failed.symm.trans blocked
    · cases nothing.symm.trans blocked
    · cases deleteReturning_waits (deleting ▸ blocked)
      exact ⟨version, present, named, permitted⟩
  | @resumed link transaction digest position outcome table opened waiting finished =>
    obtain ⟨version, chosen⟩ := coherent.waits link transaction digest position opened waiting
    exact .inr (.inl ⟨transaction, transaction.after outcome, table,
      ⟨opened, rfl, rfl, deleteReturning_effect link chosen finished, by simp [Transaction.after]⟩, rfl⟩)
  | @committed link transaction opened _ => exact .inr (.inr ⟨transaction, _, opened, .committed link, rfl⟩)
  | @rolledBack link transaction opened => exact .inr (.inr ⟨transaction, _, opened, .rolledBack link, rfl⟩)

theorem Chosen.mono {session : Session} {table table' : NonceTable} {digest : String} {position : ℕ}
    {version : NonceVersion} (chosen : Chosen deployment session table digest position version)
    (kept : table.Kept table') : ∃ version, Chosen deployment session table' digest position version := by
  obtain ⟨deleter, present⟩ := kept position version chosen.present
  exact ⟨_, present, chosen.named, chosen.permitted⟩

/-- What the transaction of the event's connection has to meet after the event. -/
structure Settles (deployment : Deployment) (events : List Event) (world : World) (event : Event) (table : NonceTable)
    (transaction : Transaction) : Prop where
  active : table.fate transaction.id = .active
  apart : ∀ link other, link ≠ event.link → (world.links link).transaction = some other → other.id ≠ transaction.id
  tenant : transaction.setting.id? = event.tenant event.link (tenantOf event.link events)
  waits : ∀ digest position, transaction.waiting = some (digest, position) →
    ∃ version, Chosen deployment transaction.session table digest position version

/-- An event changes the state of its own connection, and the table in a way the others can bear. -/
theorem Coherent.set {events : List Event} (coherent : Coherent deployment events world) {state : Link}
    {table : NonceTable} (kept : world.table.Kept table)
    (others : ∀ link transaction, link ≠ event.link → (world.links link).transaction = some transaction →
      table.fate transaction.id = .active)
    (own : ∀ transaction, state.transaction = some transaction → Settles deployment events world event table transaction) :
    Coherent deployment (events ++ [event]) (world.set event.link state table) := by
  have opened {link : LinkId} {transaction : Transaction}
      (found : ((world.set event.link state table).links link).transaction = some transaction) :
      link = event.link ∧ Settles deployment events world event table transaction ∨
        link ≠ event.link ∧ (world.links link).transaction = some transaction := by
    by_cases same : link = event.link
    · rw [same, set_links_self] at found
      exact .inl ⟨same, own transaction found⟩
    · rw [set_links_of_ne same] at found
      exact .inr ⟨same, found⟩
  refine ⟨?_, ?_, ?_, ?_⟩
  · intro link transaction found
    rcases opened found with ⟨_, settles⟩ | ⟨other, before⟩
    · exact settles.active
    · exact others link transaction other before
  · intro link link' transaction transaction' found found' same
    rcases opened found with ⟨here, settles⟩ | ⟨other, before⟩ <;>
      rcases opened found' with ⟨there, settles'⟩ | ⟨other', before'⟩
    · exact here.trans there.symm
    · exact absurd same.symm (settles.apart link' transaction' other' before')
    · exact absurd same (settles'.apart link transaction other before)
    · exact coherent.apart link link' transaction transaction' before before' same
  · intro link transaction found
    rw [tenantOf_concat]
    rcases opened found with ⟨rfl, settles⟩ | ⟨other, before⟩
    · exact settles.tenant
    · rw [tenant_of_ne other]
      exact coherent.tenant link transaction before
  · intro link transaction digest position found waiting
    rcases opened found with ⟨_, settles⟩ | ⟨_, before⟩
    · exact settles.waits digest position waiting
    · obtain ⟨version, chosen⟩ := coherent.waits link transaction digest position before waiting
      exact chosen.mono kept

theorem Coherent.begin {events : List Event} (coherent : Coherent deployment events world) {id : TxnId}
    (unborn : world.table.fate id = .unborn) (begun : event = .begun event.link) :
    Coherent deployment (events ++ [event])
      (world.set event.link ((world.links event.link).begin id) (world.table.resolve id .active)) := by
  have fresh {link : LinkId} {transaction : Transaction} (opened : (world.links link).transaction = some transaction) :
      transaction.id ≠ id := by
    rintro rfl
    rw [coherent.active link transaction opened] at unborn
    contradiction
  apply coherent.set (world.table.resolve_kept id .active)
  · intro link transaction _ opened
    exact (Function.update_of_ne (fresh opened) ..).trans (coherent.active link transaction opened)
  · intro transaction started
    cases started
    refine ⟨Function.update_self .., fun _ _ _ opened => fresh opened, ?_, nofun⟩
    rw [begun, setting_id?]
    exact (if_pos rfl).symm

theorem Coherent.advance {events : List Event} (coherent : Coherent deployment events world)
    {transaction transaction' : Transaction} {table : NonceTable}
    (advances : Advances deployment world event transaction transaction' table) :
    Coherent deployment (events ++ [event]) (world.advance event.link transaction' table) := by
  apply coherent.set advances.effect.kept
  · intro link other _ opened
    rw [advances.effect.fate]
    exact coherent.active link other opened
  · intro _ going
    cases going
    refine ⟨?_, ?_, ?_, advances.waits⟩
    · rw [advances.effect.fate, advances.same]
      exact coherent.active event.link transaction advances.opened
    · intro link other elsewhere opened same
      exact elsewhere (coherent.apart link event.link other transaction opened advances.opened (same.trans advances.same))
    · rw [advances.tenant, coherent.tenant event.link transaction advances.opened]

theorem Coherent.settle {events : List Event} (coherent : Coherent deployment events world) {transaction : Transaction}
    (opened : (world.links event.link).transaction = some transaction) (fate : Fate) :
    Coherent deployment (events ++ [event]) (world.settle event.link transaction fate) := by
  apply coherent.set (world.table.resolve_kept transaction.id fate)
  · intro link other elsewhere opened'
    have different : other.id ≠ transaction.id := fun same =>
      elsewhere (coherent.apart link event.link other transaction opened' opened same)
    exact (Function.update_of_ne different ..).trans (coherent.active link other opened')
  · intro _ left
    contradiction

theorem step_coherent {events : List Event} (coherent : Coherent deployment events world)
    (step : Step deployment world event next) : Coherent deployment (events ++ [event]) next := by
  rcases coherent.step_cases step with
    ⟨id, begun, unborn, rfl⟩ | ⟨transaction, transaction', table, advances, rfl⟩ | ⟨transaction, fate, opened, _, rfl⟩
  · exact coherent.begin unborn begun
  · exact coherent.advance advances
  · exact coherent.settle opened fate

theorem run_coherent {initial : NonceTable} {events : List Event}
    (run : Run (Step deployment) (World.start initial) events world) : Coherent deployment events world := by
  refine Run.invariant (I := Coherent deployment) ⟨?_, ?_, ?_, ?_⟩ (fun _ _ _ _ _ => step_coherent) run
  · intro link transaction opened
    contradiction
  · intro link other transaction transaction' opened
    contradiction
  · intro link transaction opened
    contradiction
  · intro link transaction digest position opened
    contradiction

/-! ## A sample database -/

/-- The table as the migration creates it. -/
def created : NonceTable := ⟨[], fun _ => .unborn⟩

def sampleDeployment : Deployment := ⟨false, fun _ _ => true⟩

def sampleTenant : BitVec 128 := 0x6f1d2c3b4a5968778695a4b3c2d1e0f1

def sampleNonce : StoredAuthorizationNonce where
  tenantId := ⟨⟨sampleTenant⟩⟩
  connectionId := ⟨⟨0x0a1b2c3d4e5f60718293a4b5c6d7e8f9⟩⟩
  digest := "9f86d081884c7d659a2feaa0c55ad015a3bf4f1b2b0b822cd15d6c15b0f00a08"
  expiresAt := ⟨63921830400000000, by decide⟩
  createdAt := ⟨63921829800000000, by decide⟩
  digestShape := by decide

/-- A transaction that issues the sample nonce for its tenant. -/
def sampleIssue : List Event :=
  [.begun 0, .tenantSet 0 sampleTenant, .issued 0 sampleNonce (.ok ()), .committed 0]

end PortfolioManager.Persistence
