import Prisma.ClientEngine.PanicHandler
import Prisma.ClientEngine.CompactedRows
import Prisma.ClientEngine.Transactions
import Prisma.ClientEngine.Async

/-! The request paths of `ClientEngine.ts`: `request`, `requestBatch`, `transaction` and `stop`, each
an async method over the state every call of one engine shares. What the driver adapter, the query
compiler and the interpreter do is given per call, as the outcome of each of their calls. -/

namespace Prisma.ClientEngine.Requests
open Json Errors PanicHandler CompactedRows Transactions Async

/-- The fields of the engine that its calls write. -/
structure EngineState where
  lastStartedQuery : Option String
  registry : PanicRegistry
  manager : TransactionManager

/-- A query as the engine reads it: its action and `JSON.stringify(query)`. -/
structure JsonQuery where
  action : String
  text : String
  deriving DecidableEq

/-- The `transaction` option of a batch: the caller's interactive transaction, or a batch
transaction of the batch's own. -/
inductive BatchTransaction where
  | itx (id : Nat)
  | batch (isolationLevel : Option String)
  deriving DecidableEq

inductive BatchResponse (Plan : Type) where
  | multi (plans : List Plan)
  | compacted (response : CompactedBatchResponse Plan)

inductive TransactionAction where
  | start (isolationLevel : Option String)
  | commit (id : Nat)
  | rollback (id : Nat)

/-- The engine's configuration and the helpers of other packages that its request paths call. -/
structure ClientEngine where
  config : EngineConfig
  /-- `config.transactionOptions.isolationLevel`. -/
  isolationLevel : Option String
  genericGetErrorMessageWithLink : ErrorLinkArgs → String
  getBatchRequestPayload : List JsonQuery → Option BatchTransaction → String
  doKeysMatch : JsEntries → JsEntries → Bool
  deserializeJsonResponse : JsValue → JsValue

/-- What the driver answers the transaction manager during one call of `transaction`. -/
structure DriverEnv where
  /-- Whether a transaction can start at the converted isolation level. -/
  start : Option String → Except Thrown Unit
  commit : Except Thrown Unit
  rollback : Except Thrown Unit

structure RequestEnv (Plan : Type) where
  ensureStarted : Except Thrown Unit
  compile : Callback Plan
  run : Plan → Except Thrown JsValue

structure BatchEnv (Plan : Type) where
  ensureStarted : Except Thrown Unit
  compileBatch : Callback (BatchResponse Plan)
  driver : DriverEnv
  run : Plan → Except Thrown JsValue
  runCompacted : Plan → Except Thrown (List JsEntries)

/-- What `stop()` awaits: the compiler's instantiation, the transaction manager and the adapter's
`dispose()`. -/
structure StopEnv where
  instantiated : Except Thrown Unit
  managerReady : Except Thrown Unit
  dispose : Except Thrown Unit

/-- `throw this.#transformRequestError(err)`: what the transform returns, or the TypeError it
throws itself. -/
def rethrow : Except Thrown Thrown → Thrown
  | .ok err => err
  | .error err => err

def convertIsolationLevel (config : EngineConfig) : Option String → Except Thrown (Option String)
  | none => .ok none
  | some level =>
    if level = "ReadUncommitted" then .ok (some "READ UNCOMMITTED")
    else if level = "ReadCommitted" then .ok (some "READ COMMITTED")
    else if level = "RepeatableRead" then .ok (some "REPEATABLE READ")
    else if level = "Serializable" then .ok (some "SERIALIZABLE")
    else if level = "Snapshot" then .ok (some "SNAPSHOT")
    else .error (.knownRequestError
      ("Inconsistent column data: Conversion failed: Invalid isolation level `" ++ level ++ "`") "P2023"
      (.object (.cons "providedIsolationLevel" (.string level) .nil)) config.clientVersion)

/-- The error `requestBatch` throws for a compacted batch of queries with different actions. -/
def mixedActionsError : Thrown := .error "Error" "All queries in a batch must have the same action" .nil

/-- The slot of plan `i` once its run settles:
`.then((rows) => ({ data: { [queries[i].action]: rows } }), (err) => err)`. -/
def multiSlot (queries : List JsonQuery) (i : Nat) : Except Thrown JsValue → Except Thrown BatchQueryEngineResult
  | .ok rows =>
    match queries[i]? with
    | some query => .ok (.data query.action rows)
    | none => .error (typeError "Cannot read properties of undefined (reading \x27action\x27)")
  | .error err => .ok (.error err)

namespace ClientEngine
variable (engine : ClientEngine) {Plan α : Type}

def requestError (s : EngineState) (err : Thrown) : Thrown :=
  rethrow (transformRequestError engine.genericGetErrorMessageWithLink engine.config s.lastStartedQuery err)

def compileError (err : Thrown) : Thrown :=
  rethrow (transformCompileError engine.genericGetErrorMessageWithLink engine.config err)

/-- `await this.ensureStarted().catch((err) => { throw this.#transformRequestError(err) })`, with
`next` the rest of the method. -/
def awaitStarted (ensureStarted : Except Thrown Unit) (next : AsyncCall EngineState (Except Thrown α)) :
    AsyncCall EngineState (Except Thrown α) :=
  match ensureStarted with
  | .ok () => hop next
  | .error err => segment fun s => (s, hop (.settled (.error (engine.requestError s err))))

/-- `transaction(action, headers, arg)`. Calling it awaits the manager at once, so its first turn
runs the body after that await. -/
def transaction (action : TransactionAction) (driver : DriverEnv) :
    AsyncCall EngineState (Except Thrown (Option Nat)) :=
  segment fun s =>
    match action with
    | .start isolationLevel =>
      match convertIsolationLevel engine.config isolationLevel with
      | .error err => (s, .settled (.error (engine.requestError s err)))
      | .ok level =>
        let (manager, started) := s.manager.startTransaction (driver.start level)
        ({ s with manager := manager }, settleWith fun s => (started.map some).mapError (engine.requestError s))
    | .commit id =>
      let (manager, closed) := s.manager.commitTransaction id driver.commit
      ({ s with manager := manager }, settleWith fun s => (closed.map fun () => none).mapError (engine.requestError s))
    | .rollback id =>
      let (manager, closed) := s.manager.rollbackTransaction id driver.rollback
      ({ s with manager := manager }, settleWith fun s => (closed.map fun () => none).mapError (engine.requestError s))

/-- `stop()`, with `tracingHelper.runInChildSpan` taken to run its callback at once: once the
compiler and the manager are ready, cancel every transaction, then await the adapter and dispose of
it. -/
def stop (env : StopEnv) : AsyncCall EngineState (Except Thrown Unit) :=
  hop <| match env.instantiated with
    | .error err => settleWith fun _ => .error err
    | .ok () => hop <| match env.managerReady with
      | .error err => settleWith fun _ => .error err
      | .ok () => segment fun s => ({ s with manager := s.manager.cancelAllTransactions },
        hop (hop (settleWith fun _ => env.dispose)))

/-- The segment of `request` after `ensureStarted()` has resolved: compile the query under a local
panic handler, then run its plan on the queryable. -/
def compileAndRun (query : JsonQuery) (interactiveTransaction : Option Nat) (env : RequestEnv Plan)
    (s : EngineState) : EngineState × AsyncCall EngineState (Except Thrown BatchQueryEngineResult) :=
  let (registry, compiled) := withLocalPanicHandler engine.config s.lastStartedQuery
    (env.compile.exec engine.config s.lastStartedQuery) s.registry
  let s := { s with registry := registry }
  match compiled with
  | .error error => (s, .settled (.error (engine.compileError error)))
  | .ok queryPlan =>
    let queryable : Except Thrown Unit := match interactiveTransaction with
      | some id => s.manager.getTransaction id
      | none => .ok ()
    match queryable with
    | .error err => (s, .settled (.error (engine.requestError s err)))
    | .ok () => (s, settleWith fun s =>
      match env.run queryPlan with
      | .ok result => .ok (.data query.action result)
      | .error e => .error (engine.requestError s e))

def request (query : JsonQuery) (interactiveTransaction : Option Nat) (env : RequestEnv Plan) :
    AsyncCall EngineState (Except Thrown BatchQueryEngineResult) :=
  segment fun s => ({ s with lastStartedQuery := some query.text },
    engine.awaitStarted env.ensureStarted (segment (engine.compileAndRun query interactiveTransaction env)))

/-- The isolation level of the batch's own transaction: the batch's, if it names one, or the
engine's. -/
def batchIsolationLevel : Option BatchTransaction → Option String
  | some (.batch (some level)) => if level = "" then engine.isolationLevel else some level
  | _ => engine.isolationLevel

/-- The results of the `switch`, once the awaited runs are over. -/
def batchResults (queries : List JsonQuery) (firstAction : String) (env : BatchEnv Plan) :
    BatchResponse Plan → Except Thrown (List BatchQueryEngineResult)
  | .multi plans => plans.enum.mapM fun (i, plan) => multiSlot queries i (env.run plan)
  | .compacted response => (env.runCompacted response.plan).map fun rows =>
    convertCompactedRows engine.doKeysMatch engine.deserializeJsonResponse engine.config rows response firstAction

/-- After the runs: the catch of a failure, or the commit of the batch's own transaction and then
the results. -/
def finishBatch (ownTransaction : Bool) (id : Nat) (driver : DriverEnv)
    (results : Except Thrown (List BatchQueryEngineResult)) (s : EngineState) :
    AsyncCall EngineState (Except Thrown (List BatchQueryEngineResult)) :=
  match results with
  | .error err => .settled (.error (engine.requestError s err))
  | .ok results =>
    if ownTransaction then
      (engine.transaction (.commit id) driver).await fun
        | .ok _ => settleWith fun _ => .ok results
        | .error err => settleWith fun s => .error (engine.requestError s err)
    else .settled (.ok results)

/-- The `try` block of `requestBatch` from `getTransaction` on, in the transaction `txInfo`. -/
def runBatch (queries : List JsonQuery) (firstAction : String) (ownTransaction : Bool) (txInfo : Option Nat)
    (response : BatchResponse Plan) (env : BatchEnv Plan) (s : EngineState) :
    EngineState × AsyncCall EngineState (Except Thrown (List BatchQueryEngineResult)) :=
  let queryable : Except Thrown Nat := match txInfo with
    | some id => (s.manager.getTransaction id).map fun () => id
    | none => .error (typeError "Cannot read properties of undefined (reading \x27id\x27)")
  match queryable with
  | .error err => (s, .settled (.error (engine.requestError s err)))
  | .ok id =>
    let mixed := match response with
      | .compacted _ => !queries.all fun query => query.action == firstAction
      | .multi _ => false
    if mixed then (s, .settled (.error (engine.requestError s mixedActionsError)))
    else (s, segment fun s =>
      (s, engine.finishBatch ownTransaction id env.driver (engine.batchResults queries firstAction env response) s))

/-- The segment of `requestBatch` after `ensureStarted()` has resolved: compile the batch, then run
it in the caller's transaction, or await the start of the batch's own. -/
def compileBatchAndRun (queries : List JsonQuery) (firstAction : String) (transaction : Option BatchTransaction)
    (env : BatchEnv Plan) (s : EngineState) :
    EngineState × AsyncCall EngineState (Except Thrown (List BatchQueryEngineResult)) :=
  let (registry, compiled) := env.compileBatch.exec engine.config s.lastStartedQuery s.registry
  let s := { s with registry := registry }
  match compiled with
  | .error err => (s, .settled (.error (engine.compileError err)))
  | .ok response =>
    match transaction with
    | some (.itx id) => engine.runBatch queries firstAction false (some id) response env s
    | _ =>
      (s, (engine.transaction (.start (engine.batchIsolationLevel transaction)) env.driver).await fun
        | .ok txInfo => segment (engine.runBatch queries firstAction true txInfo response env)
        | .error err => settleWith fun s => .error (engine.requestError s err))

def requestBatch (queries : List JsonQuery) (transaction : Option BatchTransaction) (env : BatchEnv Plan) :
    AsyncCall EngineState (Except Thrown (List BatchQueryEngineResult)) :=
  match queries with
  | [] => hop (.settled (.ok []))
  | first :: _ =>
    segment fun s => ({ s with lastStartedQuery := some (engine.getBatchRequestPayload queries transaction) },
      engine.awaitStarted env.ensureStarted (segment (engine.compileBatchAndRun queries first.action transaction env)))

/-! ### What each turn changes

What the first segment of each method's rest leaves in the state, then which segments respect a
relation `R` on states, and which leave a field `f` alone. -/

theorem compileAndRun_state (query : JsonQuery) (interactiveTransaction : Option Nat) (env : RequestEnv Plan)
    (s : EngineState) :
    (engine.compileAndRun query interactiveTransaction env s).1 =
      { s with registry := (withLocalPanicHandler engine.config s.lastStartedQuery
        (env.compile.exec engine.config s.lastStartedQuery) s.registry).1 } := by
  unfold compileAndRun
  dsimp only
  split
  · rfl
  · split <;> rfl

theorem runBatch_state (queries : List JsonQuery) (firstAction : String) (ownTransaction : Bool)
    (txInfo : Option Nat) (response : BatchResponse Plan) (env : BatchEnv Plan) (s : EngineState) :
    (engine.runBatch queries firstAction ownTransaction txInfo response env s).1 = s := by
  unfold runBatch
  dsimp only
  split
  · rfl
  · split <;> rfl

theorem compileBatchAndRun_state (queries : List JsonQuery) (firstAction : String)
    (transaction : Option BatchTransaction) (env : BatchEnv Plan) (s : EngineState) :
    (engine.compileBatchAndRun queries firstAction transaction env s).1 =
      { s with registry := (env.compileBatch.exec engine.config s.lastStartedQuery s.registry).1 } := by
  unfold compileBatchAndRun
  dsimp only
  split
  · rfl
  · rcases transaction with _ | ⟨id⟩ | ⟨level⟩
    · rfl
    · exact engine.runBatch_state _ _ _ _ _ _ _
    · rfl

/-- In the caller's transaction, the runs and the end of a batch change nothing in the state. -/
theorem runBatch_in_caller_keeps {γ : Type} (f : EngineState → γ) (queries : List JsonQuery) (firstAction : String)
    (txInfo : Option Nat) (response : BatchResponse Plan) (env : BatchEnv Plan) (s : EngineState) :
    (engine.runBatch queries firstAction false txInfo response env s).2.Keeps f := by
  unfold runBatch
  dsimp only
  split
  · trivial
  · split
    · trivial
    · exact keeps_segment _ (fun _ => rfl) fun s => by unfold finishBatch; split <;> trivial

section Steps
/-! A relation on states that holds from each state to itself and to what the transaction manager
leaves when it starts or closes a transaction. -/
variable (R : EngineState → EngineState → Prop) (refl : ∀ s, R s s)
include refl

theorem steps_awaitStarted (ensureStarted : Except Thrown Unit) (next : AsyncCall EngineState (Except Thrown α))
    (rest : next.Steps R) : (engine.awaitStarted ensureStarted next).Steps R := by
  cases ensureStarted with
  | ok => exact steps_hop refl next rest
  | error err => exact steps_segment _ refl fun _ => steps_hop refl _ trivial

/-- Past its first segment, `request` changes only the registry. -/
theorem compileAndRun_steps (query : JsonQuery) (interactiveTransaction : Option Nat) (env : RequestEnv Plan)
    (compiled : ∀ s, R s { s with registry := (withLocalPanicHandler engine.config s.lastStartedQuery
      (env.compile.exec engine.config s.lastStartedQuery) s.registry).1 }) :
    (segment (engine.compileAndRun query interactiveTransaction env)).Steps R := by
  refine steps_segment _ (fun s => by rw [compileAndRun_state]; exact compiled s) fun s => ?_
  unfold compileAndRun
  dsimp only
  split
  · trivial
  · split
    · trivial
    · exact steps_settleWith refl _

variable (started : ∀ s accepted, R s { s with manager := (s.manager.startTransaction accepted).1 })
  (closed : ∀ s id status driver, R s { s with manager := (s.manager.closeTransaction id status driver).1 })
include started closed

theorem transaction_steps (action : TransactionAction) (driver : DriverEnv) :
    (engine.transaction action driver).Steps R := by
  refine steps_segment _ (fun s => ?_) fun s => ?_
  all_goals
    dsimp only
    split
    · split <;> first | exact refl _ | exact started s _ | trivial | exact steps_settleWith refl _
    all_goals first | exact closed s _ _ _ | exact steps_settleWith refl _

theorem finishBatch_steps (ownTransaction : Bool) (id : Nat) (driver : DriverEnv)
    (results : Except Thrown (List BatchQueryEngineResult)) (s : EngineState) :
    (engine.finishBatch ownTransaction id driver results s).Steps R := by
  unfold finishBatch
  split
  · trivial
  · split
    · exact steps_await _ _ (engine.transaction_steps R refl started closed _ _) fun outcome => by
        cases outcome <;> exact steps_settleWith refl _
    · trivial

theorem runBatch_steps (queries : List JsonQuery) (firstAction : String) (ownTransaction : Bool)
    (txInfo : Option Nat) (response : BatchResponse Plan) (env : BatchEnv Plan) (s : EngineState) :
    (engine.runBatch queries firstAction ownTransaction txInfo response env s).2.Steps R := by
  unfold runBatch
  dsimp only
  split
  · trivial
  · split
    · trivial
    · exact steps_segment _ refl (engine.finishBatch_steps R refl started closed _ _ _ _)

/-- Past its first segment, `requestBatch` changes only the registry and the manager. -/
theorem compileBatchAndRun_steps (queries : List JsonQuery) (firstAction : String)
    (transaction : Option BatchTransaction) (env : BatchEnv Plan)
    (compiled : ∀ s, R s { s with registry := (env.compileBatch.exec engine.config s.lastStartedQuery s.registry).1 }) :
    (segment (engine.compileBatchAndRun queries firstAction transaction env)).Steps R := by
  refine steps_segment _ (fun s => by rw [compileBatchAndRun_state]; exact compiled s) fun s => ?_
  unfold compileBatchAndRun
  dsimp only
  split
  · trivial
  · rcases transaction with _ | ⟨id⟩ | ⟨level⟩
    case some.itx => exact engine.runBatch_steps R refl started closed _ _ _ _ _ _ _
    all_goals
      refine steps_await _ _ (engine.transaction_steps R refl started closed _ _) fun outcome => ?_
      cases outcome with
      | ok txInfo =>
        exact steps_segment _ (fun s => by rw [runBatch_state]; exact refl s)
          (engine.runBatch_steps R refl started closed _ _ _ _ _ _)
      | error err => exact steps_settleWith refl _

end Steps

section Keeps
variable {γ : Type} (f : EngineState → γ)

theorem keeps_awaitStarted (ensureStarted : Except Thrown Unit) (next : AsyncCall EngineState (Except Thrown α))
    (rest : next.Keeps f) : (engine.awaitStarted ensureStarted next).Keeps f :=
  engine.steps_awaitStarted (fun s s' => f s' = f s) (fun _ => rfl) ensureStarted next rest

theorem compileAndRun_keeps (query : JsonQuery) (interactiveTransaction : Option Nat) (env : RequestEnv Plan)
    (compiled : ∀ s, f { s with registry := (withLocalPanicHandler engine.config s.lastStartedQuery
      (env.compile.exec engine.config s.lastStartedQuery) s.registry).1 } = f s) :
    (segment (engine.compileAndRun query interactiveTransaction env)).Keeps f :=
  engine.compileAndRun_steps (fun s s' => f s' = f s) (fun _ => rfl) query interactiveTransaction env compiled

variable (apart : ∀ s manager, f { s with manager := manager } = f s)
include apart

theorem transaction_keeps (action : TransactionAction) (driver : DriverEnv) :
    (engine.transaction action driver).Keeps f :=
  engine.transaction_steps (fun s s' => f s' = f s) (fun _ => rfl) (fun s _ => apart s _) (fun s _ _ _ => apart s _) action driver

theorem compileBatchAndRun_keeps (queries : List JsonQuery) (firstAction : String)
    (transaction : Option BatchTransaction) (env : BatchEnv Plan)
    (compiled : ∀ s, f { s with registry := (env.compileBatch.exec engine.config s.lastStartedQuery s.registry).1 } =
      f s) :
    (segment (engine.compileBatchAndRun queries firstAction transaction env)).Keeps f :=
  engine.compileBatchAndRun_steps (fun s s' => f s' = f s) (fun _ => rfl) (fun s _ => apart s _) (fun s _ _ _ => apart s _) queries
    firstAction transaction env compiled

end Keeps

/-! ### One call with nothing else running -/

theorem requestError_mixedActionsError (s : EngineState) :
    engine.requestError s mixedActionsError = mixedActionsError := rfl

/-- `request` with a compiled plan, run alone in a running interactive transaction: the result of
the run, or the transform of its failure. -/
theorem request_in_running_itx (query : JsonQuery) (plan : Plan) (run : Plan → Except Thrown JsValue)
    (s : EngineState) (id : Nat) (running : s.manager.status id = some .running) :
    ((engine.request query (some id) ⟨.ok (), .ret plan, run⟩).runAlone s).2 =
      match run plan with
      | .ok result => .ok (.data query.action result)
      | .error e => .error (engine.requestError { s with lastStartedQuery := some query.text } e) := by
  cases ran : run plan <;> simp [request, awaitStarted, compileAndRun, withLocalPanicHandler, Callback.exec,
    panicOutcome, TransactionManager.getTransaction, running, requestError, ran]

/-- A batch of one query with a multi response, run alone in a running interactive transaction: one
slot, holding the result of the run or its failure as it was thrown. -/
theorem batch_in_running_itx (query : JsonQuery) (plan : Plan) (run : Plan → Except Thrown JsValue)
    (driver : DriverEnv) (runCompacted : Plan → Except Thrown (List JsEntries))
    (s : EngineState) (id : Nat) (running : s.manager.status id = some .running) :
    ((engine.requestBatch [query] (some (.itx id)) ⟨.ok (), .ret (.multi [plan]), driver, run, runCompacted⟩).runAlone s).2 =
      .ok [match run plan with
        | .ok rows => .data query.action rows
        | .error err => .error err] := by
  cases ran : run plan <;> simp [requestBatch, awaitStarted, compileBatchAndRun, Callback.exec, runBatch,
    TransactionManager.getTransaction, running, finishBatch, batchResults, multiSlot, Except.map, ran, List.mapM.loop]

/-- The same plan failing the same way in the same interactive transaction: `request` throws the
transform of the failure, while its slot in a multi batch holds the failure as it was thrown. -/
theorem multi_slot_skips_transform (query : JsonQuery) (plan : Plan) (err : Thrown) (s : EngineState) (id : Nat)
    (running : s.manager.status id = some .running) (driver : DriverEnv)
    (runCompacted : Plan → Except Thrown (List JsEntries)) :
    ((engine.request query (some id) ⟨.ok (), .ret plan, fun _ => .error err⟩).runAlone s).2 =
      .error (engine.requestError { s with lastStartedQuery := some query.text } err) ∧
    ((engine.requestBatch [query] (some (.itx id))
      ⟨.ok (), .ret (.multi [plan]), driver, fun _ => .error err, runCompacted⟩).runAlone s).2 = .ok [.error err] :=
  ⟨engine.request_in_running_itx query plan _ s id running,
    engine.batch_in_running_itx query plan _ driver runCompacted s id running⟩

/-- A compacted batch of queries with different actions, outside an interactive transaction: once
the batch transaction has started, the mixed actions are found, `requestBatch` rethrows from its
catch, and the transaction it started is left running. -/
theorem requestBatch_leaves_transaction_running (first : JsonQuery) (rest : List JsonQuery)
    (transaction : Option BatchTransaction) (env : BatchEnv Plan) (response : CompactedBatchResponse Plan)
    (level : Option String) (s : EngineState)
    (own : ∀ id, transaction ≠ some (.itx id))
    (started : env.ensureStarted = .ok ())
    (compiled : env.compileBatch = .ret (.compacted response))
    (converted : convertIsolationLevel engine.config (engine.batchIsolationLevel transaction) = .ok level)
    (accepted : env.driver.start level = .ok ())
    (mixed : (first :: rest).all (fun query => query.action == first.action) = false) :
    ((engine.requestBatch (first :: rest) transaction env).runAlone s).2 = .error mixedActionsError ∧
    ((engine.requestBatch (first :: rest) transaction env).runAlone s).1.manager.status s.manager.nextId =
      some .running := by
  simp [requestBatch, compileBatchAndRun, own, started, compiled, awaitStarted, Callback.exec, ClientEngine.transaction,
    converted, accepted, TransactionManager.startTransaction, runBatch, TransactionManager.getTransaction, mixed,
    requestError_mixedActionsError, Except.map, Except.mapError]

end ClientEngine

/-- Prisma 6 on PostgreSQL, with a report builder that keeps only the title. -/
def postgresEngine : ClientEngine :=
  ⟨⟨"6.0.0", "postgresql"⟩, none, ErrorLinkArgs.title, fun _ _ => "[]", fun _ _ => false, id⟩

/-- An engine with no call made yet. -/
def idle : EngineState := ⟨none, ⟨.fallback "6.0.0", fun _ => none, 0⟩, .empty⟩

/-- A unique-constraint violation in interactive transaction 0: `request` throws P2002 as a
`PrismaClientKnownRequestError`, while the batch slot keeps the `UserFacingError`. -/
theorem uniqueViolation_slot_differs :
    ({ idle with manager := (TransactionManager.empty.startTransaction (.ok ())).1 } : EngineState).manager.status 0 =
        some .running ∧
    ((postgresEngine.request ⟨"createOne", "qA"⟩ (some 0)
      ⟨.ok (), .ret (), fun _ => .error (.userFacingError "Unique constraint failed" "P2002" .undefined)⟩).runAlone
        { idle with manager := (TransactionManager.empty.startTransaction (.ok ())).1 }).2 =
      .error (.knownRequestError "Unique constraint failed" "P2002" .undefined "6.0.0") ∧
    ((postgresEngine.requestBatch [⟨"createOne", "qA"⟩] (some (.itx 0))
      ⟨.ok (), .ret (.multi [()]), ⟨fun _ => .ok (), .ok (), .ok ()⟩,
        fun _ => .error (.userFacingError "Unique constraint failed" "P2002" .undefined), fun _ => .ok []⟩).runAlone
        { idle with manager := (TransactionManager.empty.startTransaction (.ok ())).1 }).2 =
      .ok [.error (.userFacingError "Unique constraint failed" "P2002" .undefined)] :=
  have both := postgresEngine.multi_slot_skips_transform ⟨"createOne", "qA"⟩ ()
    (.userFacingError "Unique constraint failed" "P2002" .undefined)
    { idle with manager := (TransactionManager.empty.startTransaction (.ok ())).1 } 0 rfl
    ⟨fun _ => .ok (), .ok (), .ok ()⟩ fun _ => .ok []
  ⟨rfl, both.1.trans rfl, both.2⟩

/-- Two queries of different actions compacted into one batch, outside any transaction. -/
theorem mixedActions_transaction_left_running :
    ((postgresEngine.requestBatch [⟨"findUnique", "qA"⟩, ⟨"findFirst", "qB"⟩] none
      ⟨.ok (), .ret (.compacted ⟨(), ["id"], [], [], false⟩), ⟨fun _ => .ok (), .ok (), .ok ()⟩,
        fun _ => .ok .null, fun _ => .ok []⟩).runAlone idle).2 = .error mixedActionsError ∧
    ((postgresEngine.requestBatch [⟨"findUnique", "qA"⟩, ⟨"findFirst", "qB"⟩] none
      ⟨.ok (), .ret (.compacted ⟨(), ["id"], [], [], false⟩), ⟨fun _ => .ok (), .ok (), .ok ()⟩,
        fun _ => .ok .null, fun _ => .ok []⟩).runAlone idle).1.manager.status 0 = some .running :=
  postgresEngine.requestBatch_leaves_transaction_running _ _ none _ _ none idle (fun _ => nofun) rfl rfl rfl rfl rfl

/-- One query in a batch of its own transaction, on an engine with no call made yet. -/
def singleQueryBatch : BatchEnv Unit :=
  ⟨.ok (), .ret (.multi [()]), ⟨fun _ => .ok (), .ok (), .ok ()⟩, fun _ => .ok .null, fun _ => .ok []⟩

end Prisma.ClientEngine.Requests
