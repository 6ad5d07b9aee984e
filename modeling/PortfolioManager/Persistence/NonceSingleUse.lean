import PortfolioManager.Persistence.NonceRuns

/-! # Single use of stored nonces

`consume` hands its row out before the deletion is permanent. As long as no transaction that has
deleted another's row is rolled back, the table behaves as a map from digests to nonces, and a
consumed nonce comes back only when it is issued again. A rollback after `consume` makes the row,
and with it the callback, available once more.
-/

namespace PortfolioManager.Persistence

open PortfolioManager.Domain Mvcc Sql Runs SingleUse SqlAlchemyAuthorizationNonceStore

/-- Between two consumptions that return a nonce of one digest, the digest has been issued. -/
def ConsumedOnce (events : List Event) : Prop :=
  ∀ (first second : ℕ) (link link' : LinkId) (digest : String) (nonce nonce' : StoredAuthorizationNonce),
    first < second → events[first]? = some (Event.consumed link digest (.ok (some nonce))) →
    events[second]? = some (Event.consumed link' digest (.ok (some nonce'))) →
    ∃ (between : ℕ) (issuer : LinkId) (issued : StoredAuthorizationNonce), first < between ∧ between < second ∧
      events[between]? = some (Event.issued issuer issued (.ok ())) ∧ issued.digest = digest

/-- The step does not roll back a transaction that has deleted a row it did not insert itself. -/
def Lasting (world : World) (event : Event) : Prop :=
  event = .rolledBack event.link → ∀ transaction, (world.links event.link).transaction = some transaction →
    ∀ version ∈ world.table.versions, version.deletedBy = some transaction.id → version.insertedBy = transaction.id

def LastingStep (deployment : Deployment) (world : World) (event : Event) (next : World) : Prop :=
  Step deployment world event next ∧ Lasting world event

variable {deployment : Deployment} {initial : NonceTable} {events : List Event} {world next : World} {event : Event}

/-- A statement of an open transaction is a clean step of the table. -/
theorem Effect.cleanStep {session : Session} {table table' : NonceTable}
    (effect : Effect deployment session table event table') (opened : table.fate session.transaction = .active) :
    Table.CleanStep table event.op table' := by
  cases effect with
  | unchanged quiet => exact quiet ▸ .rest
  | stored _ free => exact .insert opened free
  | removed chosen deletable =>
    have clean := Table.CleanStep.delete opened deletable.present deletable.seen deletable.unlocked
    rwa [chosen.named] at clean

theorem LastingStep.cleanStep (coherent : Coherent deployment events world)
    (step : LastingStep deployment world event next) : Table.CleanStep world.table event.op next.table := by
  obtain ⟨step, lasting⟩ := step
  rcases coherent.step_cases step with
    ⟨id, begun, unborn, rfl⟩ | ⟨transaction, transaction', table, advances, rfl⟩ | ⟨transaction, fate, opened, ends, rfl⟩
  · have alive : world.table.fate id ≠ .aborted := by simp [unborn]
    rw [begun]
    exact .resolve alive (.inl rfl)
  · exact advances.effect.cleanStep (coherent.active event.link transaction advances.opened)
  · cases ends with
    | committed =>
      have alive : world.table.fate transaction.id ≠ .aborted := by simp [coherent.active _ transaction opened]
      exact .resolve alive (.inr rfl)
    | rolledBack => exact .abort (lasting rfl transaction opened)

/-- A lasting run refines the map of nonces by digest. -/
theorem run_history (solid : initial.Solid)
    (run : Run (LastingStep deployment) (World.start initial) events world) :
    Coherent deployment events world ∧ world.table.Solid ∧ History Event.op initial.entry events world.table.entry := by
  induction run with
  | start => exact ⟨run_coherent .start, solid, .empty⟩
  | snoc run step ih =>
    obtain ⟨coherent, solid, history⟩ := ih
    exact ⟨step_coherent coherent step.1, solid.history history (step.cleanStep coherent)⟩

/-- An event that stores under a digest is an issue of that digest. -/
theorem op_eq_put {digest : String} {nonce : StoredAuthorizationNonce} (stored : event.op = some (.put digest nonce)) :
    ∃ link, event = .issued link nonce (.ok ()) ∧ nonce.digest = digest := by
  cases event with
  | issued link issued outcome =>
    cases outcome with
    | ok value =>
      cases stored
      exact ⟨link, rfl, rfl⟩
    | error error => contradiction
  | consumed link digest outcome =>
    rcases outcome with error | _ | nonce
    all_goals cases stored
  | _ => contradiction

/-- While no consumption is rolled back, a nonce is consumed once per issue, by whichever process. -/
theorem consumed_once (solid : initial.Solid)
    (run : Run (LastingStep deployment) (World.start initial) events world) : ConsumedOnce events := by
  intro first second link link' digest nonce nonce' order returned again
  obtain ⟨_, _, history⟩ := run_history solid run
  have taken : opAt Event.op events first = some (.take digest nonce) := by rw [opAt, returned]; rfl
  have taken' : opAt Event.op events second = some (.take digest nonce') := by rw [opAt, again]; rfl
  obtain ⟨between, issued, after, before, put⟩ := history.put_between order taken taken'
  obtain ⟨event, present, stored⟩ := Option.bind_eq_some_iff.mp put
  obtain ⟨issuer, rfl, named⟩ := op_eq_put stored
  exact ⟨between, issuer, issued, after, before, present, named⟩

/-- A transaction that consumes the sample nonce, up to the moment its caller has the row. -/
def sampleConsume : List Event :=
  [.begun 0, .tenantSet 0 sampleTenant, .consumed 0 sampleNonce.digest (.ok (some sampleNonce))]

theorem created_solid : created.Solid := ⟨by simp [created], List.Pairwise.nil⟩

/-- Only rollbacks can fail to be lasting. -/
private theorem lasting_snoc (run : Run (LastingStep deployment) (World.start initial) events world)
    (step : Step deployment world event next) (going : event ≠ .rolledBack event.link) :
    Run (LastingStep deployment) (World.start initial) (events ++ [event]) next :=
  run.snoc ⟨step, fun back => absurd back going⟩

/-- A nonce that is issued and consumed in committed transactions. -/
theorem consumed_once_sample : ∃ world,
    Run (LastingStep sampleDeployment) (World.start created) (sampleIssue ++ sampleConsume ++ [.committed 0]) world ∧
      ConsumedOnce (sampleIssue ++ sampleConsume ++ [.committed 0]) := by
  have reads := UuidText.parse_render sampleTenant
  have begun := lasting_snoc .start (@Step.begun sampleDeployment (World.start created) 0 1 rfl rfl) nofun
  have tenant := lasting_snoc begun (@Step.tenantSet _ _ 0 _ _ _ reads rfl ⟨rfl, rfl⟩) nofun
  have issued := lasting_snoc tenant (@Step.issued _ _ 0 _ sampleNonce _ _ rfl ⟨rfl, rfl⟩ rfl) nofun
  have stored := lasting_snoc issued (@Step.committed _ _ 0 _ rfl ⟨rfl, rfl⟩) nofun
  have again := lasting_snoc stored (@Step.begun _ _ 0 2 rfl rfl) nofun
  have tenant' := lasting_snoc again (@Step.tenantSet _ _ 0 _ _ _ reads rfl ⟨rfl, rfl⟩) nofun
  have consumed := lasting_snoc tenant' (@Step.consumed _ _ 0 _ sampleNonce.digest _ _ rfl ⟨rfl, rfl⟩ rfl) nofun
  have run := lasting_snoc consumed (@Step.committed _ _ 0 _ rfl ⟨rfl, rfl⟩) nofun
  exact ⟨_, run, consumed_once created_solid run⟩

/-- A process crashes after `consume` has returned the nonce, and another consumption returns it again. -/
theorem consumed_again_after_rollback : ∃ world,
    Run (Step sampleDeployment) (World.start created) (sampleIssue ++ sampleConsume ++ [.rolledBack 0] ++ sampleConsume)
        world ∧
      ¬ConsumedOnce (sampleIssue ++ sampleConsume ++ [.rolledBack 0] ++ sampleConsume) := by
  have reads := UuidText.parse_render sampleTenant
  have begun := Run.start.snoc (@Step.begun sampleDeployment (World.start created) 0 1 rfl rfl)
  have tenant := begun.snoc (@Step.tenantSet _ _ 0 _ _ _ reads rfl ⟨rfl, rfl⟩)
  have issued := tenant.snoc (@Step.issued _ _ 0 _ sampleNonce _ _ rfl ⟨rfl, rfl⟩ rfl)
  have stored := issued.snoc (@Step.committed _ _ 0 _ rfl ⟨rfl, rfl⟩)
  have again := stored.snoc (@Step.begun _ _ 0 2 rfl rfl)
  have tenant' := again.snoc (@Step.tenantSet _ _ 0 _ _ _ reads rfl ⟨rfl, rfl⟩)
  have consumed := tenant'.snoc (@Step.consumed _ _ 0 _ sampleNonce.digest _ _ rfl ⟨rfl, rfl⟩ rfl)
  have crashed := consumed.snoc (@Step.rolledBack _ _ 0 _ rfl)
  have later := crashed.snoc (@Step.begun _ _ 0 3 rfl rfl)
  have tenant'' := later.snoc (@Step.tenantSet _ _ 0 _ _ _ reads rfl ⟨rfl, rfl⟩)
  have run := tenant''.snoc (@Step.consumed _ _ 0 _ sampleNonce.digest _ _ rfl ⟨rfl, rfl⟩ rfl)
  refine ⟨_, run, fun once => ?_⟩
  obtain ⟨between, issuer, issued, after, before, present, _⟩ :=
    once 6 10 0 0 sampleNonce.digest sampleNonce sampleNonce (by decide) rfl rfl
  have position : between = 7 ∨ between = 8 ∨ between = 9 := by omega
  rcases position with rfl | rfl | rfl <;> cases present

end PortfolioManager.Persistence
