import Prisma.ClientEngine.LastStartedQuery

/-! What the turns of the engine's methods do to the rest of the state all its calls share. The
panic handler is back in place at the end of every turn of every call, so no schedule ever leaves a
local handler installed, and a batch, which compiles with no handler of its own, meets the
fallback; requests and batches in their callers' interactive transactions never touch the
transaction manager; and no schedule of calls, `stop()`s and timeouts hands out a transaction id
twice or reopens a closed transaction. -/

namespace Prisma.ClientEngine.SharedState
open Json Errors PanicHandler CompactedRows Transactions Async Requests LastStartedQuery

variable (engine : ClientEngine) {Plan : Type}

/-! ### The panic handler -/

/-- `#withLocalPanicHandler` puts back the handler it found, and so does every turn of every call. -/
theorem setMessage_kept (c : EngineCall Plan) : (c.call engine).2.Keeps (·.registry.setMessage) := by
  cases c with
  | request query interactiveTransaction env =>
    exact keeps_segment _ (fun _ => rfl) fun _ => engine.keeps_awaitStarted _ _ _
      (engine.compileAndRun_keeps _ _ _ _ fun _ => rfl)
  | requestBatch queries option env =>
    cases queries with
    | nil => exact keeps_hop _ trivial
    | cons first rest =>
      exact keeps_segment _ (fun _ => rfl) fun _ => engine.keeps_awaitStarted _ _ _
        (engine.compileBatchAndRun_keeps (·.registry.setMessage) (fun _ _ => rfl) _ _ option env fun s =>
          exec_setMessage engine.config s.lastStartedQuery env.compileBatch s.registry)
  | transaction action driver => exact engine.transaction_keeps (·.registry.setMessage) (fun _ _ => rfl) action driver

/-- Under any schedule of any calls, the event loop never finds a local panic handler left in
`PRISMA_WASM_PANIC_REGISTRY` by one of them. -/
theorem setMessage_after_interleave (calls : List (EngineCall Plan)) (schedule : List Nat) (s : EngineState) :
    (interleave schedule (calls.map (·.call engine)) s).2.registry.setMessage = s.registry.setMessage := by
  refine keeps_interleave (f := (·.registry.setMessage)) schedule _ s fun j c found => ?_
  rw [List.getElem?_map] at found
  obtain ⟨c', _, rfl⟩ := Option.map_eq_some'.mp found
  exact setMessage_kept engine c'

/-- `requestBatch` compiles its batch with no local handler of its own, unlike `request`: from any
state whose handler is the fallback one, a non-empty batch of a started engine whose compiler
reports a panic before anything else settles with the fallback's error. -/
theorem requestBatch_panic_banks (queries : List JsonQuery) (option : Option BatchTransaction) (env : BatchEnv Plan)
    (nonEmpty : queries ≠ []) (started : env.ensureStarted = .ok ()) (message : String)
    (next : Callback (BatchResponse Plan)) (panics : env.compileBatch = .report message next) (clientVersion : String) :
    (engine.requestBatch queries option env).Banks (fun s => s.registry.setMessage = .fallback clientVersion)
      (fun _ => 0) (fun outcome _ => outcome = .error (.rustPanicError (.text message) clientVersion)) 0 := by
  obtain ⟨first, rest, rfl⟩ := List.exists_cons_of_ne_nil nonEmpty
  refine banks_segment (fun _ _ _ _ => id) _ fun _ _ => ?_
  simp only [started, ClientEngine.awaitStarted]
  refine banks_hop _ (banks_segment (fun _ _ _ _ => id) _ fun s fallback => ?_)
  simp [ClientEngine.compileBatchAndRun, panics, Callback.exec, fallback, ClientEngine.compileError,
    transformCompileError, rethrow, AsyncCall.Banks]

/-- Under any schedule of any calls on an engine whose handler is the fallback one, as the module
installs it, a non-empty batch of a started engine whose compiler reports a panic before anything
else is rejected, once settled, with the fallback's `PrismaClientRustPanicError`: the bare message,
with no report naming a query, and the version of the client's `package.json`. -/
theorem batch_panic_reaches_fallback (calls : List (EngineCall Plan)) (schedule : List Nat) (s : EngineState)
    (clientVersion : String) (fallback : s.registry.setMessage = .fallback clientVersion) (j : Nat)
    (queries : List JsonQuery) (option : Option BatchTransaction) (env : BatchEnv Plan)
    (batch : calls[j]? = some (.requestBatch queries option env)) (nonEmpty : queries ≠ [])
    (started : env.ensureStarted = .ok ()) (message : String) (next : Callback (BatchResponse Plan))
    (panics : env.compileBatch = .report message next) {β : Type} (outcome : Except Thrown β)
    (settled : (interleave schedule (calls.map (·.call engine)) s).1[j]? = some ⟨β, .settled outcome⟩) :
    outcome = .error (.rustPanicError (.text message) clientVersion) := by
  refine settles_interleave schedule _ s fallback (fun k c found => ?_) j _ (by rw [List.getElem?_map, batch]; rfl)
    (Q := fun outcome => outcome = .error (.rustPanicError (.text message) clientVersion))
    (requestBatch_panic_banks engine queries option env nonEmpty started message next panics clientVersion) outcome settled
  rw [List.getElem?_map] at found
  obtain ⟨c, _, rfl⟩ := Option.map_eq_some'.mp found
  exact (setMessage_kept engine c).imp fun _ _ kept inv => kept.trans inv

/-- A request beside a batch whose compiler panics at once. -/
def panickingBatch : List (EngineCall Unit) :=
  [.request ⟨"findUnique", "qA"⟩ none ⟨.ok (), .ret (), fun _ => .ok .null⟩,
   .requestBatch [⟨"findMany", "qB"⟩] none
     ⟨.ok (), .report "boom" (.ret (.multi [()])), ⟨fun _ => .ok (), .ok (), .ok ()⟩, fun _ => .ok .null, fun _ => .ok []⟩]

/-- Interleaved with the request, the batch is rejected with the bare panic message. -/
theorem batch_panic_beside_request :
    idle.registry.setMessage = .fallback "6.0.0" ∧
    (interleave [1, 0, 1, 0, 1, 1] (panickingBatch.map (·.call postgresEngine)) idle).1[1]? =
      some ⟨List BatchQueryEngineResult, .settled (.error (.rustPanicError (.text "boom") "6.0.0"))⟩ ∧
    (.error (.rustPanicError (.text "boom") "6.0.0") : Except Thrown (List BatchQueryEngineResult)) =
      .error (.rustPanicError (.text "boom") "6.0.0") :=
  have settled : (interleave [1, 0, 1, 0, 1, 1] (panickingBatch.map (·.call postgresEngine)) idle).1[1]? =
      some ⟨List BatchQueryEngineResult, .settled (.error (.rustPanicError (.text "boom") "6.0.0"))⟩ := rfl
  ⟨rfl, settled, batch_panic_reaches_fallback postgresEngine panickingBatch [1, 0, 1, 0, 1, 1] idle "6.0.0" rfl 1 _ _ _
    rfl (List.cons_ne_nil _ _) rfl "boom" _ rfl _ settled⟩

/-! ### The caller's interactive transaction -/

/-- A call that does its work in its caller's interactive transaction, if in any: a request, or a
batch in the caller's interactive transaction or of no query. -/
def InCallerTransaction : EngineCall Plan → Prop
  | .request _ _ _ => True
  | .requestBatch queries option _ => queries = [] ∨ ∃ id, option = some (.itx id)
  | .transaction _ _ => False

/-- In the caller's interactive transaction, no turn of `requestBatch` starts, commits or rolls
back a transaction: the manager is never touched. -/
theorem itx_batch_keeps_manager (queries : List JsonQuery) (id : Nat) (env : BatchEnv Plan) :
    (engine.requestBatch queries (some (.itx id)) env).Keeps EngineState.manager := by
  cases queries with
  | nil => exact keeps_hop _ trivial
  | cons first rest =>
    refine keeps_segment _ (fun _ => rfl) fun _ => engine.keeps_awaitStarted _ _ _
      (keeps_segment _ (fun s => by rw [engine.compileBatchAndRun_state]) fun s => ?_)
    unfold ClientEngine.compileBatchAndRun
    dsimp only
    split
    · trivial
    · exact engine.runBatch_in_caller_keeps _ _ _ _ _ _ _

theorem inCaller_keeps_manager (c : EngineCall Plan) (inCaller : InCallerTransaction c) :
    (c.call engine).2.Keeps EngineState.manager := by
  cases c with
  | request query interactiveTransaction env =>
    exact keeps_segment _ (fun _ => rfl) fun _ => engine.keeps_awaitStarted _ _ _
      (engine.compileAndRun_keeps _ _ _ _ fun _ => rfl)
  | requestBatch queries option env =>
    rcases inCaller with rfl | ⟨id, rfl⟩
    · exact keeps_hop _ trivial
    · exact itx_batch_keeps_manager engine queries id env
  | transaction action driver => cases inCaller

/-- A request and a batch of the caller's interactive transaction 0. -/
def itxCalls : List (EngineCall Unit) :=
  [.request ⟨"findUnique", "qA"⟩ (some 0) ⟨.ok (), .ret (), fun _ => .ok .null⟩,
   .requestBatch [⟨"findMany", "qB"⟩] (some (.itx 0)) singleQueryBatch]

/-- Modelled from the spec: the watchdog the manager arms for transaction `id`, a task of the event
loop that times the transaction out once its deadline has passed. -/
def watchdog (id : Nat) : Pending EngineState Thrown :=
  ⟨Unit, segment fun s => ({ s with manager := s.manager.timeOut id }, .settled (.ok ()))⟩

/-- The tasks of one engine's event loop: calls of its request paths, calls of `stop()` and the
manager's watchdogs. -/
def tasks (calls : List (EngineCall Plan)) (stops : List StopEnv) (timeouts : List Nat) :
    List (Pending EngineState Thrown) :=
  calls.map (·.call engine) ++ stops.map (fun env => ⟨Unit, ClientEngine.stop env⟩) ++ timeouts.map watchdog

/-- A segment leaves the manager where its own operations could have led it. -/
def ManagerAdvances (s s' : EngineState) : Prop := s.manager.Advances s'.manager

theorem managerAdvances_refl (s : EngineState) : ManagerAdvances s s := .refl s.manager

theorem managerAdvances_started (s : EngineState) (accepted : Except Thrown Unit) :
    ManagerAdvances s { s with manager := (s.manager.startTransaction accepted).1 } :=
  TransactionManager.startTransaction_advances s.manager accepted

theorem managerAdvances_closed (s : EngineState) (id : Nat) (status : TransactionStatus)
    (driver : Except Thrown Unit) :
    ManagerAdvances s { s with manager := (s.manager.closeTransaction id status driver).1 } :=
  TransactionManager.closeTransaction_advances s.manager id status driver

theorem call_advances (c : EngineCall Plan) : (c.call engine).2.Steps ManagerAdvances := by
  cases c with
  | request query interactiveTransaction env =>
    exact steps_segment _ managerAdvances_refl fun _ => engine.steps_awaitStarted _ managerAdvances_refl _ _
      (engine.compileAndRun_steps _ managerAdvances_refl _ _ _ managerAdvances_refl)
  | requestBatch queries option env =>
    cases queries with
    | nil => exact steps_hop managerAdvances_refl _ trivial
    | cons first rest =>
      exact steps_segment _ managerAdvances_refl fun _ => engine.steps_awaitStarted _ managerAdvances_refl _ _
        (engine.compileBatchAndRun_steps _ managerAdvances_refl managerAdvances_started managerAdvances_closed
          _ _ option env managerAdvances_refl)
  | transaction action driver =>
    exact engine.transaction_steps _ managerAdvances_refl managerAdvances_started managerAdvances_closed action driver

theorem stop_advances (env : StopEnv) : (ClientEngine.stop env).Steps ManagerAdvances := by
  refine steps_hop managerAdvances_refl _ ?_
  cases env.instantiated with
  | error err => exact steps_settleWith managerAdvances_refl _
  | ok =>
    refine steps_hop managerAdvances_refl _ ?_
    cases env.managerReady with
    | error err => exact steps_settleWith managerAdvances_refl _
    | ok =>
      exact steps_segment _ (fun s => TransactionManager.cancelAllTransactions_advances s.manager) fun _ =>
        steps_hop managerAdvances_refl _ (steps_hop managerAdvances_refl _ (steps_settleWith managerAdvances_refl _))

theorem tasks_advance (calls : List (EngineCall Plan)) (stops : List StopEnv) (timeouts : List Nat)
    (task : Pending EngineState Thrown) (mem : task ∈ tasks engine calls stops timeouts) :
    task.2.Steps ManagerAdvances := by
  simp only [tasks, List.mem_append, List.mem_map] at mem
  rcases mem with (⟨c, _, rfl⟩ | ⟨env, _, rfl⟩) | ⟨id, _, rfl⟩
  · exact call_advances engine c
  · exact stop_advances env
  · exact steps_segment _ (fun s => TransactionManager.timeOut_advances s.manager id) fun _ => trivial

end Prisma.ClientEngine.SharedState
