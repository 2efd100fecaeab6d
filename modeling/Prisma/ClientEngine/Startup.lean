import Prisma.ClientEngine.Requests

/-! The start of a `ClientEngine`. The constructor checks its config, calls the adapter's
`connect()` and creates the two promises the methods await later: the transaction manager, built
once the adapter has connected, and `instantiateQueryCompiler()`. `ensureStarted()` awaits the
adapter, the manager and the compiler in that order; `transaction()` awaits only the manager; and
`stop()` awaits the compiler and then the manager before it cancels the transactions and disposes
of the adapter. -/

namespace Prisma.ClientEngine.Startup
open Json Errors PanicHandler Transactions Async Requests

/-- `CLIENT_ENGINE_ERROR`, the code of the constructor's checks. -/
def clientEngineError : JsValue := .string "P2038"

/-- What the constructor checks of its config. -/
structure ConstructorConfig where
  previewFeatures : Option (List String)
  /-- Whether `config.adapter` is set. -/
  adapter : Bool

/-- The constructor's checks, with `targetBuildType` the bundle's `TARGET_BUILD_TYPE`. The adapter's
`connect()` has been called by the time the last check throws. -/
def construct (config : EngineConfig) (targetBuildType : String) (c : ConstructorConfig) : Except Thrown Unit :=
  if !(c.previewFeatures.map (·.contains "driverAdapters")).getD false then
    .error (.initializationError "EngineType `client` requires the driverAdapters preview feature to be enabled."
      config.clientVersion clientEngineError)
  else if !c.adapter then
    .error (.initializationError
      "Missing configured driver adapter. Engine type `client` requires an active driver adapter. Please check your PrismaClient initialization code."
      config.clientVersion clientEngineError)
  else if targetBuildType = "client" ∨ targetBuildType = "wasm-compiler-edge" then .ok ()
  else .error (.error "Error" ("Invalid TARGET_BUILD_TYPE: " ++ targetBuildType) .nil)

/-- The constructor throws a `P2038` initialization error of the engine's version when the
`driverAdapters` preview feature is off or no adapter is configured, and otherwise only for a bundle
of another build type. -/
theorem construct_spec (config : EngineConfig) (targetBuildType : String) (c : ConstructorConfig) :
    construct config targetBuildType c = .ok () ↔
      (∃ features, c.previewFeatures = some features ∧ "driverAdapters" ∈ features) ∧ c.adapter = true ∧
        (targetBuildType = "client" ∨ targetBuildType = "wasm-compiler-edge") := by
  unfold construct
  rcases c with ⟨_ | features, adapter⟩
  · simp
  · by_cases feature : "driverAdapters" ∈ features <;> cases adapter <;>
      by_cases build : targetBuildType = "client" ∨ targetBuildType = "wasm-compiler-edge" <;> simp [feature, build]

/-- What the start's collaborators do: the adapter's `connect()`, `new TransactionManager(...)`, the
loader's `loadQueryCompiler(config)`, and the compiler's constructor, run under the local panic
handler. -/
structure StartEnv where
  connect : Except Thrown Unit
  newTransactionManager : Except Thrown Unit
  loadQueryCompiler : Except Thrown Unit
  newQueryCompiler : Callback Unit

variable (engine : ClientEngine)

/-- `transactionManagerPromise`: once the adapter has connected, the manager is built with the
configured isolation level, which `#convertIsolationLevel` converts first and rejects if it does not
know it. -/
def transactionManagerPromise (env : StartEnv) : Except Thrown Unit := do
  env.connect
  let _ ← convertIsolationLevel engine.config engine.isolationLevel
  env.newTransactionManager

/-- `instantiateQueryCompiler()`, as the constructor calls it, before a compiler or its class is
set: it awaits the loader, then the adapter, then builds the compiler under a local panic handler
and throws what `#transformInitError` makes of a failure. -/
def instantiateQueryCompiler (env : StartEnv) : AsyncCall EngineState (Except Thrown Unit) :=
  hop <| match env.loadQueryCompiler with
    | .error err => settleWith fun _ => .error err
    | .ok () => hop <| match env.connect with
      | .error err => settleWith fun _ => .error err
      | .ok () => segment fun s =>
        let (registry, built) := withLocalPanicHandler engine.config s.lastStartedQuery
          (env.newQueryCompiler.exec engine.config s.lastStartedQuery) s.registry
        ({ s with registry := registry },
          .settled (built.mapError (transformInitError engine.genericGetErrorMessageWithLink engine.config)))

/-- What the promises the constructor creates have settled with. -/
structure Promises where
  adapter : Except Thrown Unit
  transactionManager : Except Thrown Unit
  queryCompiler : Except Thrown Unit

/-- The promises of an engine whose compiler's instantiation settled with `instantiated`. -/
def promises (env : StartEnv) (instantiated : Except Thrown Unit) : Promises :=
  ⟨env.connect, transactionManagerPromise engine env, instantiated⟩

/-- `ensureStarted()`, and `start()` with its tracing span taken to run at once: the adapter, the
manager and the compiler, in that order. This is the `ensureStarted` of every `RequestEnv` and
`BatchEnv` of the engine. -/
def Promises.ensureStarted (p : Promises) : Except Thrown Unit := do
  p.adapter
  p.transactionManager
  p.queryCompiler

/-- What `stop()` awaits of the promises, with `dispose` what the adapter's `dispose()` does. -/
def Promises.stopEnv (p : Promises) (dispose : Except Thrown Unit) : StopEnv :=
  ⟨p.queryCompiler, p.transactionManager, p.adapter *> dispose⟩

/-- `transaction(action, ...)` from its call on: it awaits the manager outside its `try`, so a
manager that was not built rejects the call with the manager's own error. -/
def transactionCall (p : Promises) (action : TransactionAction) (driver : DriverEnv) :
    AsyncCall EngineState (Except Thrown (Option Nat)) :=
  match p.transactionManager with
  | .ok () => engine.transaction action driver
  | .error err => settleWith fun _ => .error err

end Prisma.ClientEngine.Startup
