import Prisma.ClientEngine.Transactions

/-! `LocalExecutor.ts`: the executor that runs query plans on the driver adapter of this process.
`execute` picks where a plan runs: the caller's transaction, the read replica for a read outside any
transaction when one is configured, or the primary adapter. `connect` opens the adapters and
disposes of them again when a later step fails; `disconnect` cancels every transaction and disposes
of both. -/

namespace Prisma.ClientEngine.Executor
open Json Errors Transactions

/-- The operations `execute` may send to the read replica. -/
def readOperations : List String :=
  ["findFirst", "findFirstOrThrow", "findMany", "findUnique", "findUniqueOrThrow", "groupBy", "aggregate",
    "count", "findRaw", "aggregateRaw"]

/-- Where a plan runs. -/
inductive Queryable where
  | transaction (id : Nat)
  | replica
  | primary
  deriving DecidableEq

/-- What `execute` reads of its parameters. -/
structure ExecutePlanParams where
  transaction : Option Nat
  operation : String

structure LocalExecutor where
  manager : TransactionManager
  /-- Whether `#driverAdapterReplica` is set. -/
  hasReplica : Bool

namespace LocalExecutor

def queryable (executor : LocalExecutor) (params : ExecutePlanParams) : Except Thrown Queryable :=
  match params.transaction with
  | some id => (executor.manager.getTransaction id).map fun () => .transaction id
  | none => if executor.hasReplica && readOperations.contains params.operation then .ok .replica else .ok .primary

/-- `execute`, with `run` the outcome of `interpreter.run(plan, queryable)` given the queryable and
whether the interpreter is handed the transaction manager. -/
def execute (executor : LocalExecutor) (params : ExecutePlanParams) (run : Queryable → Bool → Except Thrown JsValue) :
    Except Thrown JsValue := do
  let queryable ← executor.queryable params
  run queryable params.transaction.isNone

/-- Modelled from the spec: where a plan may run. Inside a transaction it runs on that transaction's
connection while the transaction is running, with the interpreter's own transaction manager
disabled; outside one it runs on the read replica for a read when a replica is configured and on the
primary adapter otherwise, with the manager handed to the interpreter. `none` when the transaction
is not running. -/
def route (executor : LocalExecutor) (params : ExecutePlanParams) : Option (Queryable × Bool) :=
  match params.transaction with
  | some id => if executor.manager.status id = some .running then some (.transaction id, false) else none
  | none => some (if executor.hasReplica = true ∧ params.operation ∈ readOperations then .replica else .primary, true)

/-- Whether what `exec` settles with can change with what the interpreter does on `queryable`, with
the manager handed to it (`managed`) or not. -/
def Consults (exec : (Queryable → Bool → Except Thrown JsValue) → Except Thrown JsValue) (queryable : Queryable)
    (managed : Bool) : Prop :=
  ∃ run run', (∀ q b, (q, b) ≠ (queryable, managed) → run q b = run' q b) ∧ exec run ≠ exec run'

theorem execute_eq_route (executor : LocalExecutor) (params : ExecutePlanParams)
    (run : Queryable → Bool → Except Thrown JsValue) :
    executor.execute params run =
      match executor.route params with
      | some (queryable, managed) => run queryable managed
      | none => .error transactionClosed := by
  unfold execute queryable route
  cases params.transaction with
  | some id =>
    by_cases running : executor.manager.status id = some .running
    · simp [running, TransactionManager.getTransaction, Except.map, bind, Except.bind]
    · simp only [TransactionManager.getTransaction, if_neg running]
      rfl
  | none => by_cases chosen : executor.hasReplica = true ∧ params.operation ∈ readOperations <;> simp [chosen] <;> rfl

example : (LocalExecutor.mk .empty true).route ⟨none, "createOne"⟩ = some (.primary, true) := rfl

end LocalExecutor

/-! ### Opening and closing the adapters -/

inductive Adapter where
  | primary
  | replica
  deriving DecidableEq

/-- Awaiting `dispose()` of each adapter in turn, then settling with `after`: the adapters whose
`dispose()` was called, in order, and the outcome. A `dispose()` that throws ends it with its error. -/
def disposeInOrder {α : Type} : List (Adapter × Except Thrown Unit) → Except Thrown α → List Adapter × Except Thrown α
  | [], after => ([], after)
  | (adapter, disposed) :: rest, after =>
    match disposed with
    | .error err => ([adapter], .error err)
    | .ok () => (adapter :: (disposeInOrder rest after).1, (disposeInOrder rest after).2)

/-- What `connect` awaits: the factories' `connect()`, `new TransactionManager(...)` and the
adapters' `dispose()`. `replica` is none without a replica factory. -/
structure ConnectEnv where
  primary : Except Thrown Unit
  replica : Option (Except Thrown Unit)
  manager : Except Thrown Unit
  disposePrimary : Except Thrown Unit
  disposeReplica : Except Thrown Unit

/-- `LocalExecutor.connect`: the adapters it disposes of, and the executor or the error. -/
def connect (env : ConnectEnv) : List Adapter × Except Thrown LocalExecutor :=
  match env.primary with
  | .error err => ([], .error err)
  | .ok () =>
    match env.replica with
    | some (.error err) => disposeInOrder [(.primary, env.disposePrimary)] (.error err)
    | replica =>
      match env.manager with
      | .error err =>
        disposeInOrder ((.primary, env.disposePrimary) ::
          if replica.isSome then [(.replica, env.disposeReplica)] else []) (.error err)
      | .ok () => ([], .ok ⟨.empty, replica.isSome⟩)

/-- The adapters `connect` has connected by the time one of its steps throws. -/
def connected (env : ConnectEnv) : List Adapter :=
  match env.primary, env.replica with
  | .error _, _ => []
  | .ok (), some (.ok ()) => [.primary, .replica]
  | .ok (), _ => [.primary]

/-- Both adapters connect, and building the transaction manager throws. -/
def managerFailure : ConnectEnv := ⟨.ok (), some (.ok ()), .error (typeError "boom"), .ok (), .ok ()⟩

/-- `disconnect`: `cancelAllTransactions()`, then, in the `finally`, `dispose()` of the primary adapter
and of the replica: the manager it leaves, the adapters it disposes of and its outcome. -/
def LocalExecutor.disconnect (executor : LocalExecutor) (disposePrimary disposeReplica : Except Thrown Unit) :
    TransactionManager × List Adapter × Except Thrown Unit :=
  (executor.manager.cancelAllTransactions,
    disposeInOrder ((.primary, disposePrimary) ::
      if executor.hasReplica then [(.replica, disposeReplica)] else []) (.ok ()))

/-- After `disconnect` no transaction is running, and when both `dispose()` calls succeed every
adapter of the executor has been disposed of. -/
theorem disconnect_closes_all (executor : LocalExecutor) (disposePrimary disposeReplica : Except Thrown Unit) :
    (∀ id, (executor.disconnect disposePrimary disposeReplica).1.status id ≠ some .running) ∧
    (disposePrimary = .ok () → disposeReplica = .ok () →
      (executor.disconnect disposePrimary disposeReplica).2 =
        (.primary :: if executor.hasReplica then [.replica] else [], .ok ())) := by
  refine ⟨fun id => ?_, fun primary replica => ?_⟩
  · simp only [LocalExecutor.disconnect, TransactionManager.cancelAllTransactions]
    split <;> simp_all
  · subst primary replica
    obtain ⟨manager, _ | _⟩ := executor <;> rfl

end Prisma.ClientEngine.Executor
