import Mathlib.Data.List.Nodup
import Xaytune.Library.Transaction

/-!
# Controller leases

One row says which controller owns the database, at which epoch and until when.
Acquiring, renewing and releasing it are transactions of their own; every other
write proves its fence first, inside its transaction. Clock readings are arguments:
controllers may disagree about the time, and a reading may go backwards.
-/

namespace Xaytune.Storage.Leases

open Xaytune.Library
open Transaction (read write refuse require)

/-! ## The lease row and its fences -/

structure ControllerLease where
  controllerId : String
  epoch : Nat
  heartbeatAt : Int
  leaseExpiresAt : Int

def ControllerLease.isLive (lease : ControllerLease) (now : Int) : Bool :=
  now < lease.leaseExpiresAt

/-- What a write transaction proves before its first mutation. -/
inductive WriteFence where
  | controllerLease (controllerId : String) (epoch : Nat)
  | noLiveLease

inductive LeaseError where
  | value (message : String)
  | leaseLost (controllerId : String) (epoch : Nat)
  | controllerLeaseHeld (lease : ControllerLease)
  | body

/-- The database: the lease row and everything else. -/
structure Store (σ : Type) where
  lease : Option ControllerLease
  data : σ

variable {σ : Type}

/-- The epoch of the row; none is recorded before the first acquisition. -/
def Store.epoch (store : Store σ) : Nat := (store.lease.map ControllerLease.epoch).getD 0

/-- Whether the controller at the epoch does not own the database at `now`. -/
def ownershipProblem (lease : Option ControllerLease) (controllerId : String) (epoch : Nat)
    (now : Int) : Bool :=
  match lease with
  | none => true
  | some lease => lease.controllerId ≠ controllerId || lease.epoch ≠ epoch || !lease.isLive now

def WriteFence.check (now : Int) : WriteFence → Transaction (Store σ) LeaseError Unit
  | .controllerLease controllerId epoch => do
      let lease ← read Store.lease
      require (!ownershipProblem lease controllerId epoch now) (.leaseLost controllerId epoch)
  | .noLiveLease => do
      let lease ← read Store.lease
      match lease with
      | none => pure ()
      | some lease => require (!lease.isLive now) (.controllerLeaseHeld lease)

/-- `UPDATE … WHERE controller_id = ? AND epoch = ?`: whether a row was updated. -/
def updateWhere (controllerId : String) (epoch : Nat) (row : ControllerLease) :
    Transaction (Store σ) LeaseError Bool := do
  let lease ← read Store.lease
  match lease with
  | none => pure false
  | some stored =>
      if stored.controllerId = controllerId ∧ stored.epoch = epoch then do
        write fun store => { store with lease := some row }
        pure true
      else pure false

/-- Take the lease as a new owner, at the next epoch, unless another holds it live. -/
def acquire (controllerId : String) (ttl now : Int) :
    Transaction (Store σ) LeaseError (Option ControllerLease) := do
  require (0 < ttl) (.value "a lease TTL must be positive")
  let held ← read Store.lease
  match held with
  | none => do
      let lease : ControllerLease := ⟨controllerId, 1, now, now + ttl⟩
      write fun store => { store with lease := some lease }
      pure (some lease)
  | some held =>
      if held.isLive now then pure none
      else do
        let lease : ControllerLease := ⟨controllerId, held.epoch + 1, now, now + ttl⟩
        let updated ← updateWhere held.controllerId held.epoch lease
        pure (if updated then some lease else none)

/-- Extend a lease its owner still holds live. The epoch never changes. -/
def renew (lease : ControllerLease) (ttl now : Int) :
    Transaction (Store σ) LeaseError ControllerLease := do
  let held ← read Store.lease
  require (!ownershipProblem held lease.controllerId lease.epoch now)
    (.leaseLost lease.controllerId lease.epoch)
  let renewed : ControllerLease := ⟨lease.controllerId, lease.epoch, now, now + ttl⟩
  let updated ← updateWhere lease.controllerId lease.epoch renewed
  require updated (.leaseLost lease.controllerId lease.epoch)
  pure renewed

/-- Expire a lease now, if it is still this owner's; the row stays, with its epoch. -/
def release (lease : ControllerLease) (now : Int) : Transaction (Store σ) LeaseError Bool :=
  updateWhere lease.controllerId lease.epoch ⟨lease.controllerId, lease.epoch, now, now⟩

/-- `_write`: the fence, then the body, in one transaction. -/
def fencedWrite (fence : Option WriteFence) (now : Int) (body : σ → Option σ) :
    Transaction (Store σ) LeaseError Unit := do
  match fence with
  | none => pure ()
  | some fence => fence.check now
  let data ← read Store.data
  let changed ← Transaction.expect (body data) .body
  write fun store => { store with data := changed }

/-! ## Histories -/

/-- One transaction of some controller, with the reading of its clock. -/
inductive Call (σ : Type) where
  | acquire (controllerId : String) (ttl now : Int)
  | renew (lease : ControllerLease) (ttl now : Int)
  | release (lease : ControllerLease) (now : Int)
  | write (fence : Option WriteFence) (now : Int) (body : σ → Option σ)

def Call.time : Call σ → Int
  | .acquire _ _ now | .renew _ _ now | .release _ now | .write _ now _ => now

/-- A transaction as it happened: the stores around it and whether it achieved what it asked. -/
structure Moment (σ : Type) where
  call : Call σ
  before : Store σ
  after : Store σ
  effective : Bool

/-- A result's store and whether the value says it took effect; an error changes nothing. -/
def momentOf {α : Type} (call : Call σ) (store : Store σ)
    (result : Except LeaseError (α × Store σ)) (took : α → Bool) : Moment σ :=
  match result with
  | .error _ => ⟨call, store, store, false⟩
  | .ok (a, after) => ⟨call, store, after, took a⟩

def Call.run (call : Call σ) (store : Store σ) : Moment σ :=
  match call with
  | .acquire controllerId ttl now =>
      momentOf call store (Leases.acquire controllerId ttl now store) Option.isSome
  | .renew lease ttl now => momentOf call store (Leases.renew lease ttl now store) fun _ => true
  | .release lease now => momentOf call store (Leases.release lease now store) id
  | .write fence now body => momentOf call store (fencedWrite fence now body store) fun _ => true

/-- Any interleaving of transactions from a database without a lease, newest first. -/
inductive History (data : σ) : List (Moment σ) → Store σ → Prop
  | start : History data [] ⟨none, data⟩
  | next {moments : List (Moment σ)} {store : Store σ} (past : History data moments store)
      (call : Call σ) : History data (call.run store :: moments) (call.run store).after

/-- The epoch a moment acquired, if it is a successful acquisition. -/
def Moment.acquired (moment : Moment σ) : Option (String × Nat) :=
  match moment.call with
  | .acquire controllerId _ _ =>
      if moment.effective then some (controllerId, moment.after.epoch) else none
  | _ => none

/-- Whether a moment is a committed write under a fence. -/
def Moment.committed (moment : Moment σ) (fence : WriteFence) : Prop :=
  moment.effective = true ∧ ∃ now body, moment.call = .write (some fence) now body

def Moment.isWrite (moment : Moment σ) : Bool :=
  match moment.call with
  | .write .. => true
  | _ => false

/-- The lease of an epoch as the latest moments left it. -/
def leaseAt : List (Moment σ) → Nat → Option ControllerLease
  | [], _ => none
  | moment :: past, epoch =>
      match moment.after.lease with
      | some lease => if lease.epoch = epoch then some lease else leaseAt past epoch
      | none => leaseAt past epoch

/-! ## One transaction -/

/-- What one transaction does to the lease row: keep it, acquire, renew or release it. -/
inductive Turn (moment : Moment σ) : Prop
  | kept (same : moment.after.lease = moment.before.lease) (none : moment.acquired = none)
      (idle : moment.isWrite = false → moment.effective = false → moment.after = moment.before)
      (fenced : ∀ controllerId epoch, moment.committed (.controllerLease controllerId epoch) →
        moment.before.epoch = epoch)
      (unheld : moment.committed .noLiveLease → ∀ lease, moment.before.lease = some lease →
        lease.leaseExpiresAt ≤ moment.call.time)
  | acquired (controllerId : String) (ttl now : Int) (positive : 0 < ttl)
      (called : moment.call = .acquire controllerId ttl now) (took : moment.effective = true)
      (row : moment.after.lease =
        some ⟨controllerId, moment.before.epoch + 1, now, now + ttl⟩)
      (ended : ∀ held, moment.before.lease = some held → held.leaseExpiresAt ≤ now)
  | renewed (held : ControllerLease) (ttl : Int) (stored : moment.before.lease = some held)
      (live : moment.call.time < held.leaseExpiresAt)
      (called : ∃ lease, moment.call = .renew lease ttl moment.call.time)
      (took : moment.effective = true)
      (row : moment.after.lease =
        some ⟨held.controllerId, held.epoch, moment.call.time, moment.call.time + ttl⟩)
  | released (held : ControllerLease) (stored : moment.before.lease = some held)
      (called : ∃ lease, moment.call = .release lease moment.call.time)
      (took : moment.effective = true)
      (row : moment.after.lease =
        some ⟨held.controllerId, held.epoch, moment.call.time, moment.call.time⟩)

theorem acquire_free (controllerId : String) (ttl now : Int) (store : Store σ) (positive : 0 < ttl)
    (ended : ∀ held, store.lease = some held → held.leaseExpiresAt ≤ now) :
    acquire controllerId ttl now store =
      .ok (some ⟨controllerId, store.epoch + 1, now, now + ttl⟩,
        { store with lease := some ⟨controllerId, store.epoch + 1, now, now + ttl⟩ }) := by
  obtain ⟨row, data⟩ := store
  cases row with
  | none => simp [acquire, Transaction.bind_apply, positive, Store.epoch]
  | some held =>
      have dead : held.isLive now = false := by
        simpa [ControllerLease.isLive] using ended held rfl
      simp [acquire, updateWhere, Transaction.bind_apply, positive, dead,
        Store.epoch]

theorem acquire_held (controllerId : String) (ttl now : Int) (store : Store σ)
    (refused : ¬ 0 < ttl ∨ ∃ held, store.lease = some held ∧ now < held.leaseExpiresAt) :
    ∀ lease after, acquire controllerId ttl now store = .ok (lease, after) →
      lease = none ∧ after = store := by
  intro lease after ran
  by_cases positive : 0 < ttl
  · obtain ⟨held, stored, live⟩ := refused.resolve_left (not_not.mpr positive)
    have alive : held.isLive now = true := by simpa [ControllerLease.isLive] using live
    simp [acquire, Transaction.bind_apply, positive, stored, alive] at ran
    exact ⟨ran.1.symm, ran.2.symm⟩
  · simp [acquire, Transaction.bind_apply, positive] at ran

theorem updateWhere_eq (controllerId : String) (epoch : Nat) (row : ControllerLease)
    (store : Store σ) :
    updateWhere controllerId epoch row store =
      if ∃ held, store.lease = some held ∧ held.controllerId = controllerId ∧
        held.epoch = epoch then
        .ok (true, { store with lease := some row })
      else .ok (false, store) := by
  cases stored : store.lease with
  | none => simp [updateWhere, Transaction.bind_apply, stored]
  | some held =>
      by_cases owned : held.controllerId = controllerId ∧ held.epoch = epoch
      · simp [updateWhere, Transaction.bind_apply, stored, owned]
      · simp [updateWhere, Transaction.bind_apply, stored, owned]

theorem owned_of_no_problem {lease : Option ControllerLease} {controllerId : String} {epoch : Nat}
    {now : Int} (owns : ownershipProblem lease controllerId epoch now = false) :
    ∃ held, lease = some held ∧ held.controllerId = controllerId ∧ held.epoch = epoch ∧
      now < held.leaseExpiresAt := by
  cases lease with
  | none => simp [ownershipProblem] at owns
  | some held =>
      simp [ownershipProblem, ControllerLease.isLive] at owns
      exact ⟨held, rfl, owns.1.1, owns.1.2, owns.2⟩

theorem renew_ok {lease : ControllerLease} {ttl now : Int} {store after : Store σ}
    {renewed : ControllerLease} (ran : renew lease ttl now store = .ok (renewed, after)) :
    ∃ held, store.lease = some held ∧ held.controllerId = lease.controllerId ∧
      held.epoch = lease.epoch ∧ now < held.leaseExpiresAt ∧
      after = { store with lease := some ⟨lease.controllerId, lease.epoch, now, now + ttl⟩ } := by
  cases owns : ownershipProblem store.lease lease.controllerId lease.epoch now with
  | true => simp [renew, Transaction.bind_apply, owns] at ran
  | false =>
      obtain ⟨held, stored, sameId, sameEpoch, live⟩ := owned_of_no_problem owns
      refine ⟨held, stored, sameId, sameEpoch, live, ?_⟩
      have found : ∃ held, store.lease = some held ∧ held.controllerId = lease.controllerId ∧
          held.epoch = lease.epoch := ⟨held, stored, sameId, sameEpoch⟩
      simp [renew, Transaction.bind_apply, owns, updateWhere_eq, found] at ran
      exact ran.2.symm

/-- A write that commits passed its fence and left the lease row as it was. -/
theorem fencedWrite_ok {fence : Option WriteFence} {now : Int} {body : σ → Option σ}
    {store after : Store σ} (ran : fencedWrite fence now body store = .ok ((), after)) :
    after.lease = store.lease ∧
      (∀ controllerId epoch, fence = some (.controllerLease controllerId epoch) →
        store.epoch = epoch) ∧
      (fence = some .noLiveLease → ∀ lease, store.lease = some lease →
        lease.leaseExpiresAt ≤ now) := by
  have rest : ∀ m : Transaction (Store σ) LeaseError Unit, m store = .ok ((), store) →
      (do
        m
        let data ← read Store.data
        let changed ← Transaction.expect (body data) .body
        write fun store => { store with data := changed } :
          Transaction (Store σ) LeaseError Unit) store = .ok ((), after) →
      after.lease = store.lease := by
    intro m passed whole
    cases changed : body store.data with
    | none => simp [Transaction.bind_apply, passed, changed] at whole
    | some data =>
        simp [Transaction.bind_apply, passed, changed] at whole
        rw [← whole]
  cases fence with
  | none =>
      refine ⟨rest (pure ()) rfl ran, ?_, ?_⟩
      · rintro _ _ ⟨⟩
      · rintro ⟨⟩
  | some fence =>
      cases fence with
      | controllerLease controllerId epoch =>
          cases owns : ownershipProblem store.lease controllerId epoch now with
          | true =>
              simp [fencedWrite, WriteFence.check, Transaction.bind_apply, owns]
                at ran
          | false =>
              have passed : (WriteFence.controllerLease controllerId epoch).check now store =
                  .ok ((), store) := by
                simp [WriteFence.check, Transaction.bind_apply, owns]
              refine ⟨rest _ passed ran, ?_, ?_⟩
              · rintro _ _ ⟨⟩
                obtain ⟨held, stored, _, sameEpoch, _⟩ := owned_of_no_problem owns
                simpa [Store.epoch, stored] using sameEpoch
              · rintro ⟨⟩
      | noLiveLease =>
          cases stored : store.lease with
          | none =>
              have passed : WriteFence.noLiveLease.check now store = .ok ((), store) := by
                simp [WriteFence.check, Transaction.bind_apply, stored]
              refine ⟨stored ▸ rest _ passed ran, ?_, ?_⟩
              · rintro _ _ ⟨⟩
              · rintro _ _ ⟨⟩
          | some held =>
              cases live : held.isLive now with
              | true =>
                  simp [fencedWrite, WriteFence.check, Transaction.bind_apply,
                    stored, live] at ran
              | false =>
                  have passed : WriteFence.noLiveLease.check now store = .ok ((), store) := by
                    simp [WriteFence.check, Transaction.bind_apply, stored, live]
                  refine ⟨stored ▸ rest _ passed ran, ?_, ?_⟩
                  · rintro _ _ ⟨⟩
                  · rintro _ lease ⟨⟩
                    simpa [ControllerLease.isLive] using live

/-- A call that did nothing to the store is a kept turn. -/
theorem Turn.of_idle {moment : Moment σ} (same : moment.after = moment.before)
    (ineffective : moment.effective = false) : Turn moment := by
  refine .kept (by rw [same]) ?_ (fun _ _ => same) ?_ ?_
  · cases called : moment.call <;> simp [Moment.acquired, called, ineffective]
  · intro _ _ committed
    simp [Moment.committed, ineffective] at committed
  · intro committed
    simp [Moment.committed, ineffective] at committed

/-- Every transaction is one of the four turns. -/
theorem turn_run (call : Call σ) (store : Store σ) : Turn (call.run store) := by
  cases call with
  | acquire controllerId ttl now =>
      by_cases free : 0 < ttl ∧ ∀ held, store.lease = some held → held.leaseExpiresAt ≤ now
      · have ran := acquire_free controllerId ttl now store free.1 free.2
        refine .acquired controllerId ttl now free.1 ?_ ?_ ?_ ?_ <;>
          simp only [Call.run, momentOf, ran]
        · rfl
        · exact free.2
      · have refused : ¬ 0 < ttl ∨ ∃ held, store.lease = some held ∧ now < held.leaseExpiresAt := by
          by_cases positive : 0 < ttl
          · refine .inr ?_
            by_contra none
            exact free ⟨positive, fun held stored => by
              by_contra late
              exact none ⟨held, stored, by omega⟩⟩
          · exact .inl positive
        cases ran : acquire controllerId ttl now store with
        | error e =>
            exact .of_idle (by simp [Call.run, momentOf, ran]) (by simp [Call.run, momentOf, ran])
        | ok result =>
            obtain ⟨nothing, unchanged⟩ :=
              acquire_held controllerId ttl now store refused result.1 result.2 ran
            exact .of_idle (by simp [Call.run, momentOf, ran, unchanged])
              (by simp [Call.run, momentOf, ran, nothing])
  | renew lease ttl now =>
      cases ran : renew lease ttl now store with
      | error e =>
          exact .of_idle (by simp [Call.run, momentOf, ran]) (by simp [Call.run, momentOf, ran])
      | ok result =>
          obtain ⟨held, stored, sameId, sameEpoch, live, unchanged⟩ := renew_ok ran
          refine .renewed held ttl ?_ ?_ ⟨lease, ?_⟩ ?_ ?_ <;>
            simp only [Call.run, momentOf, ran, Call.time, unchanged, stored, sameId, sameEpoch]
          exact live
  | release lease now =>
      have ran := updateWhere_eq lease.controllerId lease.epoch
        ⟨lease.controllerId, lease.epoch, now, now⟩ store
      by_cases owned : ∃ held, store.lease = some held ∧ held.controllerId = lease.controllerId ∧
          held.epoch = lease.epoch
      · rw [if_pos owned] at ran
        obtain ⟨held, stored, sameId, sameEpoch⟩ := owned
        refine .released held ?_ ⟨lease, ?_⟩ ?_ ?_ <;>
          simp only [Call.run, momentOf, release, ran, Call.time, stored, sameId, sameEpoch, id]
      · rw [if_neg owned] at ran
        exact .of_idle (by simp [Call.run, momentOf, release, ran])
          (by simp [Call.run, momentOf, release, ran])
  | write fence now body =>
      cases ran : fencedWrite fence now body store with
      | error e =>
          exact .of_idle (by simp [Call.run, momentOf, ran]) (by simp [Call.run, momentOf, ran])
      | ok result =>
          obtain ⟨sameLease, fenced, unheld⟩ := fencedWrite_ok ran
          refine .kept ?_ ?_ ?_ ?_ ?_
          · simpa only [Call.run, momentOf, ran] using sameLease
          · simp only [Call.run, momentOf, ran, Moment.acquired]
          · simp [Call.run, momentOf, ran, Moment.isWrite]
          · rintro controllerId epoch ⟨_, now', body', called⟩
            simp only [Call.run, momentOf, ran, Call.write.injEq] at called ⊢
            exact fenced controllerId epoch called.1
          · rintro ⟨_, now', body', called⟩
            simp only [Call.run, momentOf, ran, Call.write.injEq, Call.time] at called ⊢
            exact unheld called.1

/-! ## Whole histories -/

/-- The acquisitions of a history, newest first: who took which epoch. -/
def acquisitions (moments : List (Moment σ)) : List (String × Nat) :=
  moments.filterMap Moment.acquired

/-- What holds of every history, newest moment first, whatever the clocks read. -/
structure Fenced (moments : List (Moment σ)) (store : Store σ) : Prop where
  rising : ∀ moment ∈ moments, moment.before.epoch ≤ moment.after.epoch
  monotone : moments.Pairwise fun later earlier => earlier.after.epoch ≤ later.before.epoch
  advancing : ∀ moment ∈ moments, ∀ owner, moment.acquired = some owner →
    owner.2 = moment.before.epoch + 1 ∧ moment.after.epoch = moment.before.epoch + 1
  once : (acquisitions moments).map Prod.snd = (List.range' 1 store.epoch).reverse
  owned : ∀ moment ∈ moments, ∀ lease, moment.after.lease = some lease →
    (lease.controllerId, lease.epoch) ∈ acquisitions moments
  fenced : moments.Pairwise fun later earlier => ∀ controllerId epoch owner,
    later.committed (.controllerLease controllerId epoch) → earlier.acquired = some owner →
      owner.2 ≤ epoch
  unchanged : ∀ moment ∈ moments, moment.isWrite = false → moment.effective = false →
    moment.after = moment.before

/-- The controllers read one clock and it does not run backwards. -/
def CommonClock (moments : List (Moment σ)) : Prop :=
  moments.Pairwise fun later earlier => earlier.call.time ≤ later.call.time

instance (moments : List (Moment σ)) : Decidable (CommonClock moments) :=
  inferInstanceAs (Decidable (List.Pairwise _ _))

/-- What a common clock adds: unleased writes wait for the lease, and an expired lease stays so. -/
structure ClockFenced (moments : List (Moment σ)) : Prop where
  unheld : ∀ later moment earlier, moments = later ++ moment :: earlier →
    moment.committed .noLiveLease → ∀ owner ∈ acquisitions earlier,
      ∃ lease, leaseAt earlier owner.2 = some lease ∧ lease.leaseExpiresAt ≤ moment.call.time
  expired : ∀ later earlier, moments = later ++ earlier → ∀ epoch lease now,
    leaseAt earlier epoch = some lease → lease.leaseExpiresAt ≤ now →
    (∀ moment ∈ later, now ≤ moment.call.time) →
      ∃ last, leaseAt moments epoch = some last ∧
        ∀ t, now ≤ t → (∀ moment ∈ later, moment.call.time ≤ t) → last.leaseExpiresAt ≤ t

/-- A moment either keeps the epoch or acquires the next one. -/
theorem Turn.epoch_or {moment : Moment σ} (turn : Turn moment) :
    (moment.acquired = none ∧ moment.after.epoch = moment.before.epoch) ∨
      ∃ controllerId, moment.acquired = some (controllerId, moment.before.epoch + 1) ∧
        moment.after.epoch = moment.before.epoch + 1 := by
  cases turn with
  | kept same none idle fenced unheld =>
      exact .inl ⟨none, by rw [Store.epoch, same, Store.epoch]⟩
  | acquired controllerId ttl now positive called took row ended =>
      have advanced : moment.after.epoch = moment.before.epoch + 1 := by simp [Store.epoch, row]
      refine .inr ⟨controllerId, ?_, advanced⟩
      simp [Moment.acquired, called, took, advanced]
  | renewed _ _ stored _ called _ row | released _ stored called _ row =>
      obtain ⟨lease, called⟩ := called
      exact .inl ⟨by rw [Moment.acquired, called], by simp [Store.epoch, row, stored]⟩

/-- The owner of the row after a moment acquired it there or owned it before. -/
theorem Turn.owner {moment : Moment σ} (turn : Turn moment) {lease : ControllerLease}
    (row : moment.after.lease = some lease) :
    moment.acquired = some (lease.controllerId, lease.epoch) ∨
      ∃ held, moment.before.lease = some held ∧ held.controllerId = lease.controllerId ∧
        held.epoch = lease.epoch := by
  cases turn with
  | kept same none idle fenced unheld => exact .inr ⟨lease, same ▸ row, rfl, rfl⟩
  | acquired controllerId ttl now positive called took written ended =>
      rw [written, Option.some.injEq] at row
      subst row
      exact .inl (by simp [Moment.acquired, called, took, Store.epoch, written])
  | renewed held _ stored _ _ _ written | released held stored _ _ written =>
      rw [written, Option.some.injEq] at row
      exact .inr ⟨held, stored, by rw [← row], by rw [← row]⟩

theorem Turn.fenced {moment : Moment σ} (turn : Turn moment) {controllerId : String} {epoch : Nat}
    (committed : moment.committed (.controllerLease controllerId epoch)) :
    moment.before.epoch = epoch := by
  obtain ⟨_, now, body, written⟩ := id committed
  cases turn with
  | kept same none idle fenced unheld => exact fenced controllerId epoch committed
  | acquired _ _ _ _ called _ _ _ => simp [written] at called
  | renewed _ _ _ _ called _ _ => simp [written] at called
  | released _ _ called _ _ => simp [written] at called

theorem Turn.unheld {moment : Moment σ} (turn : Turn moment)
    (committed : moment.committed .noLiveLease) {lease : ControllerLease}
    (stored : moment.before.lease = some lease) : lease.leaseExpiresAt ≤ moment.call.time := by
  obtain ⟨_, now, body, written⟩ := id committed
  cases turn with
  | kept same none idle fenced unheld => exact unheld committed lease stored
  | acquired _ _ _ _ called _ _ _ => simp [written] at called
  | renewed _ _ _ _ called _ _ => simp [written] at called
  | released _ _ called _ _ => simp [written] at called

theorem Turn.idle {moment : Moment σ} (turn : Turn moment) (notWrite : moment.isWrite = false)
    (ineffective : moment.effective = false) : moment.after = moment.before := by
  cases turn with
  | kept same none idle fenced unheld => exact idle notWrite ineffective
  | acquired _ _ _ _ _ took _ _ => simp [ineffective] at took
  | renewed _ _ _ _ _ took _ => simp [ineffective] at took
  | released _ _ _ took _ => simp [ineffective] at took

theorem run_before (call : Call σ) (store : Store σ) : (call.run store).before = store := by
  cases call <;> simp only [Call.run, momentOf] <;> split <;> rfl

/-- The history up to any moment is a history. -/
theorem History.split {data : σ} {later earlier : List (Moment σ)} {store : Store σ}
    (history : History data (later ++ earlier) store) : ∃ past, History data earlier past := by
  induction later generalizing store with
  | nil => exact ⟨store, history⟩
  | cons moment later ih =>
      cases history with
      | next past call => exact ih past

/-- Epochs and owners of the row, as the acquisitions give them. -/
structure Tracked (moments : List (Moment σ)) (store : Store σ) : Prop where
  once : (acquisitions moments).map Prod.snd = (List.range' 1 store.epoch).reverse
  owner : ∀ lease, store.lease = some lease →
    (lease.controllerId, lease.epoch) ∈ acquisitions moments
  below : ∀ moment ∈ moments, moment.after.epoch ≤ store.epoch
  current : ∀ lease, store.lease = some lease → leaseAt moments lease.epoch = some lease

theorem Tracked.acquired_le {moments : List (Moment σ)} {store : Store σ}
    (tracked : Tracked moments store) {owner : String × Nat}
    (acquired : owner ∈ acquisitions moments) :
    1 ≤ owner.2 ∧ owner.2 ≤ store.epoch := by
  have listed : owner.2 ∈ (List.range' 1 store.epoch).reverse :=
    tracked.once ▸ List.mem_map_of_mem acquired
  rw [List.mem_reverse, List.mem_range'_1] at listed
  omega

theorem History.tracked {data : σ} {moments : List (Moment σ)} {store : Store σ}
    (history : History data moments store) : Tracked moments store := by
  induction history with
  | start => exact ⟨rfl, by simp, by simp, by simp⟩
  | @next moments store past call ih =>
      have turn := turn_run call store
      have before := run_before call store
      generalize call.run store = moment at turn before ⊢
      subst before
      refine ⟨?_, ?_, ?_, ?_⟩
      · rcases turn.epoch_or with ⟨none, same⟩ | ⟨controllerId, acquired, advanced⟩
        · rw [acquisitions, List.filterMap_cons_none none, same]
          exact ih.once
        · rw [acquisitions, List.filterMap_cons_some acquired, advanced, List.range'_concat,
            List.reverse_append, List.map_cons]
          simp only [List.reverse_singleton, List.singleton_append]
          rw [Nat.add_comm, Nat.one_mul]
          exact congrArg _ ih.once
      · intro lease row
        rcases turn.owner row with acquired | ⟨held, stored, sameId, sameEpoch⟩
        · rw [acquisitions, List.filterMap_cons_some acquired]
          exact List.mem_cons_self
        · have listed := ih.owner held stored
          rw [sameId, sameEpoch] at listed
          rw [acquisitions, List.filterMap_cons]
          split
          · exact listed
          · exact List.mem_cons_of_mem _ listed
      · intro other member
        rcases List.mem_cons.mp member with rfl | earlier
        · exact Nat.le_refl _
        · have bound := ih.below other earlier
          rcases turn.epoch_or with ⟨_, same⟩ | ⟨_, _, advanced⟩ <;> omega
      · intro lease row
        simp [leaseAt, row]

/-- Whatever the clocks read, the history is fenced. -/
theorem History.is_fenced {data : σ} {moments : List (Moment σ)} {store : Store σ}
    (history : History data moments store) : Fenced moments store := by
  induction history with
  | start => exact ⟨by simp, .nil, by simp, rfl, by simp, .nil, by simp⟩
  | @next moments store past call ih =>
      have tracked := past.tracked
      have whole := (past.next call).tracked
      have turn := turn_run call store
      have before := run_before call store
      generalize call.run store = moment at turn before whole ⊢
      subst before
      refine ⟨?_, ?_, ?_, whole.once, ?_, ?_, ?_⟩
      · refine List.forall_mem_cons.mpr ⟨?_, ih.rising⟩
        rcases turn.epoch_or with ⟨_, same⟩ | ⟨_, _, advanced⟩ <;> omega
      · exact .cons tracked.below ih.monotone
      · refine List.forall_mem_cons.mpr ⟨?_, ih.advancing⟩
        intro owner acquired
        rcases turn.epoch_or with ⟨none, _⟩ | ⟨_, acquired', advanced⟩
        · rw [none] at acquired
          cases acquired
        · rw [acquired', Option.some.injEq] at acquired
          exact ⟨by rw [← acquired], advanced⟩
      · refine List.forall_mem_cons.mpr ⟨whole.owner, ?_⟩
        intro other member lease row
        have listed := ih.owned other member lease row
        rw [acquisitions, List.filterMap_cons]
        split
        · exact listed
        · exact List.mem_cons_of_mem _ listed
      · refine .cons ?_ ih.fenced
        intro earlier member controllerId epoch owner committed acquired
        have bound := tracked.acquired_le (List.mem_filterMap.mpr ⟨earlier, member, acquired⟩)
        rw [← turn.fenced committed]
        exact bound.2
      · exact List.forall_mem_cons.mpr ⟨turn.idle, ih.unchanged⟩

/-! ## A common clock -/

theorem leaseAt_left {moments : List (Moment σ)} {epoch : Nat} {lease : ControllerLease}
    (found : leaseAt moments epoch = some lease) :
    ∃ moment ∈ moments, moment.after.epoch = epoch := by
  induction moments with
  | nil => cases found
  | cons moment past ih =>
      by_cases here : moment.after.epoch = epoch
      · exact ⟨moment, List.mem_cons_self, here⟩
      · rw [leaseAt] at found
        split at found
        · rename_i stored row
          rw [if_neg (by simpa [Store.epoch, row] using here)] at found
          obtain ⟨other, member, left⟩ := ih found
          exact ⟨other, List.mem_cons_of_mem _ member, left⟩
        · obtain ⟨other, member, left⟩ := ih found
          exact ⟨other, List.mem_cons_of_mem _ member, left⟩

/-- A moment that left another epoch in the row leaves the lease of this epoch as it was. -/
theorem leaseAt_of_ne {moment : Moment σ} {past : List (Moment σ)} {epoch : Nat}
    (other : moment.after.epoch ≠ epoch) : leaseAt (moment :: past) epoch = leaseAt past epoch := by
  rw [leaseAt]
  split
  · rename_i lease row
    rw [if_neg]
    simpa [Store.epoch, row] using other
  · rfl

/-- A lease that a takeover ended is expired from then on. -/
theorem History.retired {data : σ} {moments : List (Moment σ)} {store : Store σ}
    (history : History data moments store) :
    ∀ epoch, 1 ≤ epoch → epoch < store.epoch → ∃ lease, leaseAt moments epoch = some lease ∧
      ∀ t, (∀ moment ∈ moments, moment.call.time ≤ t) → lease.leaseExpiresAt ≤ t := by
  induction history with
  | start =>
      intro epoch _ below
      simp [Store.epoch] at below
  | @next moments store past call ih =>
      have tracked := past.tracked
      have turn := turn_run call store
      have before := run_before call store
      generalize call.run store = moment at turn before ⊢
      subst before
      intro epoch positive below
      rw [leaseAt_of_ne (Nat.ne_of_gt below)]
      by_cases already : epoch < moment.before.epoch
      · obtain ⟨lease, found, expired⟩ := ih epoch positive already
        exact ⟨lease, found, fun t times => expired t fun m member =>
          times m (List.mem_cons_of_mem _ member)⟩
      · -- the only way past the row's epoch is the acquisition that found its lease expired
        cases turn with
        | kept same none idle fenced unheld =>
            simp only [Store.epoch, same] at below already
            exact absurd below already
        | renewed _ _ stored _ _ _ row | released _ stored _ _ row =>
            simp only [Store.epoch, row, stored] at below already
            exact absurd below already
        | acquired controllerId ttl now _ called took row ended =>
            have here : epoch = moment.before.epoch := by
              simp only [Store.epoch, row, Option.map_some, Option.getD_some] at below already ⊢
              omega
            cases stored : moment.before.lease with
            | none =>
                simp only [Store.epoch, stored, Option.map_none, Option.getD_none] at here
                omega
            | some held =>
                have sameEpoch : held.epoch = epoch := by simp [here, Store.epoch, stored]
                refine ⟨held, sameEpoch ▸ tracked.current held stored, ?_⟩
                intro t times
                have atTakeover := times moment List.mem_cons_self
                simp only [called, Call.time] at atTakeover
                exact Int.le_trans (ended held stored) atTakeover

/-- One moment at or after `now` cannot revive a lease that had expired by `now`. -/
theorem Turn.stays_expired {data : σ} {moment : Moment σ} {past : List (Moment σ)}
    (history : History data past moment.before) (turn : Turn moment) {epoch : Nat}
    {lease : ControllerLease} (found : leaseAt past epoch = some lease)
    (expired : lease.leaseExpiresAt ≤ moment.call.time) :
    ∃ last, leaseAt (moment :: past) epoch = some last ∧
      last.leaseExpiresAt ≤ moment.call.time := by
  by_cases other : moment.after.epoch = epoch
  · have tracked := history.tracked
    have held_is : ∀ held, moment.before.lease = some held → held.epoch = epoch → held = lease := by
      intro held stored sameEpoch
      have current := tracked.current held stored
      rw [sameEpoch, found, Option.some.injEq] at current
      exact current.symm
    cases turn with
    | kept same none idle fenced unheld =>
        cases stored : moment.before.lease with
        | none =>
            refine ⟨lease, ?_, expired⟩
            rw [leaseAt, same, stored]
            exact found
        | some held =>
            have sameEpoch : held.epoch = epoch := by
              simpa [Store.epoch, same, stored] using other
            obtain rfl := held_is held stored sameEpoch
            exact ⟨held, by rw [leaseAt, same, stored]; simp [sameEpoch], expired⟩
    | acquired controllerId ttl now _ called took row ended =>
        -- an epoch just acquired was in no row before
        have fresh : epoch = moment.before.epoch + 1 := by
          rw [← other]
          simp [Store.epoch, row]
        obtain ⟨other, member, left⟩ := leaseAt_left found
        have bound := tracked.below other member
        omega
    | renewed held ttl stored live called took row =>
        have sameEpoch : held.epoch = epoch := by simpa [Store.epoch, row] using other
        obtain rfl := held_is held stored sameEpoch
        omega
    | released held stored called took row =>
        have sameEpoch : held.epoch = epoch := by simpa [Store.epoch, row] using other
        rw [leaseAt, row]
        exact ⟨_, if_pos sameEpoch, Int.le_refl _⟩
  · exact ⟨lease, by rw [leaseAt_of_ne other, found], expired⟩

theorem History.is_clock_fenced {data : σ} {moments : List (Moment σ)} {store : Store σ}
    (history : History data moments store) (clock : CommonClock moments) : ClockFenced moments := by
  refine ⟨?_, ?_⟩
  · rintro later moment earlier rfl committed owner acquired
    obtain ⟨_, upTo⟩ := history.split
    cases upTo with
    | @next _ store past call =>
        have tracked := past.tracked
        have turn := turn_run call store
        have before := run_before call store
        have times := (List.pairwise_cons.mp (List.pairwise_append.mp clock).2.1).1
        generalize call.run store = moment at turn before times committed ⊢
        subst before
        have bounds := tracked.acquired_le acquired
        by_cases current : owner.2 = moment.before.epoch
        · cases stored : moment.before.lease with
          | none =>
              simp only [Store.epoch, stored, Option.map_none, Option.getD_none] at current
              omega
          | some held =>
              have sameEpoch : held.epoch = owner.2 := by simp [current, Store.epoch, stored]
              exact ⟨held, sameEpoch ▸ tracked.current held stored, turn.unheld committed stored⟩
        · obtain ⟨lease, found, expired⟩ := past.retired owner.2 bounds.1 (by omega)
          exact ⟨lease, found, expired _ times⟩
  · rintro later earlier rfl epoch lease now found expired times
    induction later generalizing store with
    | nil => exact ⟨lease, found, fun t reached _ => Int.le_trans expired reached⟩
    | cons moment later ih =>
        cases history with
        | @next _ store past call =>
            obtain ⟨since, clock⟩ := List.pairwise_cons.mp clock
            obtain ⟨last, foundLast, expiredLast⟩ := ih past clock fun m member =>
              times m (List.mem_cons_of_mem _ member)
            have turn := turn_run call store
            have before := run_before call store
            generalize call.run store = moment at turn before since times ⊢
            subst before
            have byNow := expiredLast moment.call.time (times moment List.mem_cons_self)
              fun m member => since m (List.mem_append_left _ member)
            obtain ⟨final, foundFinal, expiredFinal⟩ := turn.stays_expired past foundLast byNow
            exact ⟨final, foundFinal, fun t _ bounds =>
              Int.le_trans expiredFinal (bounds moment List.mem_cons_self)⟩

/-- Fencing holds of every interleaving; a common clock adds that no lease is bypassed or
revived. -/
theorem lease_fencing {data : σ} {moments : List (Moment σ)} {store : Store σ}
    (history : History data moments store) :
    Fenced moments store ∧ (CommonClock moments → ClockFenced moments) :=
  ⟨history.is_fenced, history.is_clock_fenced⟩

/-- One controller writes, lets its lease expire and another takes over. -/
theorem lease_fencing_takeover : ∃ (moments : List (Moment Nat)) (store : Store Nat),
    acquisitions moments = [("b", 2), ("a", 1)] ∧ store.data = 7 ∧ CommonClock moments ∧
      Fenced moments store ∧ ClockFenced moments := by
  have taken := (@History.start Nat 0).next (.acquire "a" 10 0)
  have written := taken.next (.write (some (.controllerLease "a" 1)) 5 fun n => some (n + 7))
  have fencing := lease_fencing (written.next (.acquire "b" 10 20))
  exact ⟨_, _, by decide, by decide, by decide, fencing.1, fencing.2 (by decide)⟩

end Xaytune.Storage.Leases
