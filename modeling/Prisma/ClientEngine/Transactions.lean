import Prisma.ClientEngine.Errors
import Mathlib.Logic.Function.Basic

/-! The transaction manager the engine hands its batches to. -/

namespace Prisma.ClientEngine.Transactions
open Errors

inductive TransactionStatus where
  | running
  | committed
  | rolledBack
  | timedOut
  deriving DecidableEq

/-- Modelled from the spec: the `TransactionManager` of `@prisma/client-engine-runtime`, which is
not part of src/. Transactions are numbered in the order they start. `status` holds every transaction
handed out so far: the running ones make up the spec's registry, and one that the spec evicts on
reaching a terminal status keeps that status here, so that closing it again fails as already closed
and the closures of a run can be counted. -/
structure TransactionManager where
  status : Nat → Option TransactionStatus
  nextId : Nat

def TransactionManager.empty : TransactionManager := ⟨fun _ => none, 0⟩

/-- Modelled from the spec: the manager's errors, user-facing errors of code `P2028` that the engine's
transform turns into `PrismaClientKnownRequestError`s. -/
def transactionError (message : String) : Thrown := .userFacingError message "P2028" .undefined

/-- `TransactionClosed`: a lookup of an id that is unknown, closed or timed out. -/
def transactionClosed : Thrown := transactionError "Transaction closed"

/-- `TransactionAlreadyClosed`: a second commit or rollback of one transaction. -/
def transactionAlreadyClosed : Thrown := transactionError "Transaction already closed"

/-- `NotFound`: a commit or rollback of an id that was never handed out. -/
def transactionNotFound : Thrown := transactionError "Transaction not found"

namespace TransactionManager

/-- Modelled from the spec: `startTransaction`. Whether the driver grants a connection and the
isolation level is `accepted`; a refusal (unsupported level, busy) registers nothing. -/
def startTransaction (manager : TransactionManager) (accepted : Except Thrown Unit) :
    TransactionManager × Except Thrown Nat :=
  match accepted with
  | .ok () =>
    ({ status := Function.update manager.status manager.nextId (some .running),
       nextId := manager.nextId + 1 }, .ok manager.nextId)
  | .error e => (manager, .error e)

/-- The manager with one more transaction, numbered `nextId`, in `status`: what a start that the
driver accepts leaves, with `status` running. -/
def opened (manager : TransactionManager) (status : TransactionStatus) : TransactionManager :=
  ⟨Function.update manager.status manager.nextId (some status), manager.nextId + 1⟩

/-- Modelled from the spec: `getTransaction`, the queryable of a running transaction. -/
def getTransaction (manager : TransactionManager) (id : Nat) : Except Thrown Unit :=
  match manager.status id with
  | some .running => .ok ()
  | _ => .error transactionClosed

/-- Modelled from the spec: commit and rollback move a running transaction to its terminal status
whatever the driver answers, and report the driver's failure. -/
def closeTransaction (manager : TransactionManager) (id : Nat) (closed : TransactionStatus)
    (driver : Except Thrown Unit) : TransactionManager × Except Thrown Unit :=
  match manager.status id with
  | some .running => ({ manager with status := Function.update manager.status id (some closed) }, driver)
  | some _ => (manager, .error transactionAlreadyClosed)
  | none => (manager, .error transactionNotFound)

def commitTransaction (manager : TransactionManager) (id : Nat) (driver : Except Thrown Unit) :
    TransactionManager × Except Thrown Unit :=
  manager.closeTransaction id .committed driver

def rollbackTransaction (manager : TransactionManager) (id : Nat) (driver : Except Thrown Unit) :
    TransactionManager × Except Thrown Unit :=
  manager.closeTransaction id .rolledBack driver

/-- Modelled from the spec: the watchdog of a transaction whose deadline passed. -/
def timeOut (manager : TransactionManager) (id : Nat) : TransactionManager :=
  match manager.status id with
  | some .running => { manager with status := Function.update manager.status id (some .timedOut) }
  | _ => manager

/-- Modelled from the spec: `cancelAllTransactions`, on shutdown. -/
def cancelAllTransactions (manager : TransactionManager) : TransactionManager :=
  { manager with status := fun id =>
      match manager.status id with
      | some .running => some .rolledBack
      | other => other }

/-! ### The life of a transaction

Ids are handed out in order and never again, and a transaction that has been closed keeps the status
it was closed with. Every operation of the manager moves it along `Advances`, from a registry with
nothing at or past `nextId`. -/

/-- No id from `nextId` on has been handed out. -/
def WellFormed (manager : TransactionManager) : Prop := ∀ id, manager.nextId ≤ id → manager.status id = none

/-- What a run may do to the manager. -/
structure Evolves (before after : TransactionManager) : Prop where
  nextId : before.nextId ≤ after.nextId
  /-- A transaction running after was running before, or was handed out since, at an id that no
  transaction had before. -/
  fresh : ∀ id, after.status id = some .running → before.status id = some .running ∨ before.nextId ≤ id
  /-- Terminal statuses are absorbing. -/
  closed : ∀ id status, before.status id = some status → status ≠ .running → after.status id = some status

/-- What an operation may do to a well-formed manager. -/
def Advances (before after : TransactionManager) : Prop := before.WellFormed → after.WellFormed ∧ Evolves before after

theorem Advances.refl (manager : TransactionManager) : Advances manager manager :=
  fun wellFormed => ⟨wellFormed, le_rfl, fun _ => .inl, fun _ _ found _ => found⟩

theorem Advances.trans {a b c : TransactionManager} (first : Advances a b) (second : Advances b c) : Advances a c :=
  fun wellFormed =>
    have ⟨wf, ab⟩ := first wellFormed
    have ⟨wf', bc⟩ := second wf
    ⟨wf', ab.nextId.trans bc.nextId,
      fun id running => (bc.fresh id running).elim (ab.fresh id) fun late => .inr (ab.nextId.trans late),
      fun id status found open_ => bc.closed id status (ab.closed id status found open_) open_⟩

/-- Updating the status of one running transaction. -/
theorem advances_of_running (manager : TransactionManager) (id : Nat) (status : TransactionStatus)
    (running : manager.status id = some .running) :
    Advances manager { manager with status := Function.update manager.status id (some status) } := by
  intro wellFormed
  have below : id < manager.nextId := by
    by_contra past
    simp [wellFormed id (Nat.le_of_not_lt past)] at running
  refine ⟨fun id' past => ?_, le_rfl, fun id' now => .inl ?_, fun id' status' found open_ => ?_⟩
  · dsimp only at past ⊢
    rw [Function.update_noteq (by omega)]
    exact wellFormed id' past
  · by_cases same : id' = id
    · exact same ▸ running
    · simpa [Function.update_noteq same] using now
  · dsimp only
    have other : id' ≠ id := by rintro rfl; simp_all
    rwa [Function.update_noteq other]

theorem startTransaction_advances (manager : TransactionManager) (accepted : Except Thrown Unit) :
    Advances manager (manager.startTransaction accepted).1 := by
  cases accepted with
  | error err => exact .refl manager
  | ok u =>
    cases u
    intro wellFormed
    refine ⟨fun id past => ?_, Nat.le_succ _, fun id now => ?_, fun id status found _ => ?_⟩
    · dsimp only [startTransaction] at past ⊢
      rw [Function.update_noteq (by omega)]
      exact wellFormed id (by omega)
    · by_cases same : id = manager.nextId
      · exact .inr same.ge
      · exact .inl (by simpa [startTransaction, same] using now)
    · have other : id ≠ manager.nextId := by rintro rfl; simp_all [wellFormed _ le_rfl]
      simpa [startTransaction, other] using found

theorem closeTransaction_advances (manager : TransactionManager) (id : Nat) (closed : TransactionStatus)
    (driver : Except Thrown Unit) : Advances manager (manager.closeTransaction id closed driver).1 := by
  unfold closeTransaction
  split
  · next running => exact advances_of_running manager id closed running
  all_goals exact .refl manager

theorem timeOut_advances (manager : TransactionManager) (id : Nat) : Advances manager (manager.timeOut id) := by
  unfold timeOut
  split
  · next running => exact advances_of_running manager id .timedOut running
  · exact .refl manager

theorem cancelAllTransactions_advances (manager : TransactionManager) :
    Advances manager manager.cancelAllTransactions := by
  intro wellFormed
  refine ⟨fun id past => by simp [cancelAllTransactions, wellFormed id past], le_rfl, fun id now => .inl ?_,
    fun id status found open_ => ?_⟩
  · simp only [cancelAllTransactions] at now
    split at now <;> simp_all
  · simp only [cancelAllTransactions, found]
    split
    · simp_all
    · rfl

/-! ### Counting closed transactions

A transaction once committed, rolled back or timed out keeps that status, so the number of
transactions with one of these statuses never drops; a close that reports success adds one. -/

/-- The number of transactions registered with `status`. -/
def count (manager : TransactionManager) (status : TransactionStatus) : Nat :=
  (List.range manager.nextId).countP fun id => manager.status id = some status

theorem Evolves.count_le {before after : TransactionManager} (evolves : Evolves before after)
    {status : TransactionStatus} (closed : status ≠ .running) : before.count status ≤ after.count status :=
  calc before.count status
      ≤ (List.range before.nextId).countP (fun id => after.status id = some status) :=
        List.countP_mono_left fun id _ found => by simpa using evolves.closed id status (by simpa using found) closed
    _ ≤ after.count status := (List.range_sublist.mpr evolves.nextId).countP_le _

/-- Turning one id below `n` from outside `p` to inside `q ⊇ p` adds one to the count. -/
theorem countP_range_add_one (p q : Nat → Bool) (id n : Nat) (below : id < n) (grows : ∀ j, p j → q j)
    (was : p id = false) (now : q id = true) : (List.range n).countP p + 1 ≤ (List.range n).countP q := by
  induction n with
  | zero => cases below
  | succ n ih =>
    have mono : (List.range n).countP p ≤ (List.range n).countP q := List.countP_mono_left fun j _ => grows j
    simp only [List.range_succ, List.countP_append, List.countP_singleton]
    rcases Nat.lt_succ_iff_lt_or_eq.mp below with earlier | rfl
    · have := ih earlier
      by_cases last : p n <;> simp [last, grows n] <;> omega
    · simp [was, now]
      omega

/-- A close that reports success has moved one running transaction to `closed`. -/
theorem closeTransaction_count (manager : TransactionManager) (id : Nat) (closed : TransactionStatus)
    (driver : Except Thrown Unit) (wellFormed : manager.WellFormed) (open_ : closed ≠ .running)
    (succeeded : (manager.closeTransaction id closed driver).2 = .ok ()) :
    manager.count closed + 1 ≤ (manager.closeTransaction id closed driver).1.count closed := by
  unfold closeTransaction at succeeded ⊢
  split at succeeded
  · next running =>
    have below : id < manager.nextId := by
      by_contra past
      simp [wellFormed id (Nat.le_of_not_lt past)] at running
    refine countP_range_add_one _ _ id _ below (fun j found => ?_) (by simp [running, Ne.symm open_]) (by simp)
    by_cases same : j = id
    · subst same; simp
    · simpa [Function.update_noteq same] using found
  all_goals cases succeeded

end TransactionManager

end Prisma.ClientEngine.Transactions
