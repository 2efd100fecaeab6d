import Prisma.ClientEngine.Startup

/-! `lastStartedQuery` under concurrent calls. `request` and a non-empty `requestBatch` write their
serialized query to the field in their first turn; `getErrorMessageWithLink` reads it back whenever a
report is built, in whatever turn that is. Every call here is shown to write the field only at its
start and to build every report from the field as it stands in one of its own turns, or to pass on
the report `ensureStarted()` rejects with; the compiler's instantiation, a task of the event loop
from the constructor on, builds that report from the field in a turn of its own. The theorems of
`Async` then give the field, and every report, for any interleaving of the calls. -/

namespace Prisma.ClientEngine.LastStartedQuery
open Json Errors PanicHandler CompactedRows Transactions Async Requests Startup

variable {α : Type}

/-- The query named by a report of `getErrorMessageWithLink`, for a `PrismaClientRustPanicError`
built with one. -/
def reportQuery? : Thrown → Option (Option String)
  | .rustPanicError (.withLink args) _ => some args.query
  | _ => none

/-! ### Collaborators that build no report of this engine -/

/-- An outcome of a collaborator that throws no report of this engine. -/
def Unreported (outcome : Except Thrown α) : Prop := ∀ err, outcome = .error err → reportQuery? err = none

/-- A compiler callback that throws no report of this engine itself. -/
def CallbackUnreported : Callback α → Prop
  | .ret _ => True
  | .throw err => reportQuery? err = none
  | .report _ next => CallbackUnreported next
  | .nest _ next => ∀ outcome, CallbackUnreported (next outcome)

structure DriverUnreported (driver : DriverEnv) : Prop where
  start : ∀ level, Unreported (driver.start level)
  commit : Unreported driver.commit
  rollback : Unreported driver.rollback

/-- `ensureStarted()` is left out: what it rejects with is the engine's own, from its start. -/
structure RequestUnreported {Plan : Type} (env : RequestEnv Plan) : Prop where
  compile : CallbackUnreported env.compile
  run : ∀ plan, Unreported (env.run plan)

/-- The failures of the plans of a multi batch land in their slots, so only the runs of a compacted
plan are constrained. -/
structure BatchUnreported {Plan : Type} (env : BatchEnv Plan) : Prop where
  compileBatch : CallbackUnreported env.compileBatch
  driver : DriverUnreported env.driver
  runCompacted : ∀ plan, Unreported (env.runCompacted plan)

/-- The collaborators of the engine's start throw no report of this engine; the compiler's
constructor may report a panic, from which the instantiation builds one. -/
structure StartUnreported (env : StartEnv) : Prop where
  connect : Unreported env.connect
  newTransactionManager : Unreported env.newTransactionManager
  loadQueryCompiler : Unreported env.loadQueryCompiler
  newQueryCompiler : CallbackUnreported env.newQueryCompiler

/-- `b` is the query named by the report `ensureStarted()` rejects with. -/
def StartReport (ensureStarted : Except Thrown Unit) (b : Option String) : Prop :=
  ∃ err, ensureStarted = .error err ∧ reportQuery? err = some b

theorem Unreported.map {β γ : Type} (g : β → γ) {outcome : Except Thrown β} (unreported : Unreported outcome) :
    Unreported (outcome.map g) := by
  intro err failed
  cases outcome with
  | ok value => cases failed
  | error e => cases failed; exact unreported err rfl

theorem Unreported.bind {β γ : Type} {first : Except Thrown β} {rest : β → Except Thrown γ}
    (unreported : Unreported first) (each : ∀ value, Unreported (rest value)) : Unreported (first >>= rest) := by
  intro err failed
  cases first with
  | error e => cases failed; exact unreported err rfl
  | ok value => exact each value err failed

/-- A failure of `first >>= rest` that names a query is `rest`'s, when `first` throws no report. -/
theorem reported_bind {β γ : Type} {first : Except Thrown β} {rest : β → Except Thrown γ}
    (unreported : Unreported first) {err : Thrown} (failed : (first >>= rest) = .error err)
    (named : reportQuery? err ≠ none) : ∃ value, rest value = .error err := by
  cases first with
  | error e => cases failed; exact absurd (unreported err rfl) named
  | ok value => exact ⟨value, failed⟩

theorem mapM_unreported {β γ : Type} (g : β → Except Thrown γ) (each : ∀ x, Unreported (g x)) (items : List β) :
    Unreported (items.mapM g) := by
  induction items with
  | nil => intro err failed; cases failed
  | cons x rest ih =>
    rw [List.mapM_cons]
    exact (each x).bind fun _ => ih.bind fun _ _ failed => by cases failed

theorem getTransaction_unreported (manager : TransactionManager) (id : Nat) :
    Unreported (manager.getTransaction id) := by
  intro err failed
  unfold TransactionManager.getTransaction at failed
  split at failed
  · cases failed
  · cases failed
    rfl

theorem queryable_unreported (manager : TransactionManager) (interactiveTransaction : Option Nat) :
    Unreported (match interactiveTransaction with
      | some id => manager.getTransaction id
      | none => .ok ()) := by
  cases interactiveTransaction with
  | some id => exact getTransaction_unreported manager id
  | none => intro _ failed; cases failed

theorem convertIsolationLevel_unreported (config : EngineConfig) (level : Option String) :
    Unreported (convertIsolationLevel config level) := by
  intro err failed
  unfold convertIsolationLevel at failed
  split at failed
  · cases failed
  · split_ifs at failed
    cases failed
    rfl

theorem startTransaction_unreported (manager : TransactionManager) (accepted : Except Thrown Unit)
    (unreported : Unreported accepted) : Unreported (manager.startTransaction accepted).2 := by
  intro err failed
  cases accepted with
  | ok => cases failed
  | error e => cases failed; exact unreported err rfl

theorem closeTransaction_unreported (manager : TransactionManager) (id : Nat) (closed : TransactionStatus)
    (driver : Except Thrown Unit) (unreported : Unreported driver) :
    Unreported (manager.closeTransaction id closed driver).2 := by
  intro err failed
  unfold TransactionManager.closeTransaction at failed
  split at failed
  · exact unreported err failed
  all_goals cases failed; rfl

/-! ### Where a report's query comes from

The transforms build a report only from `lastStartedQuery`; otherwise they pass on the report of
the error they were given, if any. -/

theorem exec_reportQuery? (config : EngineConfig) (lastStartedQuery : Option String) (cb : Callback α)
    (unreported : CallbackUnreported cb) (registry : PanicRegistry) (err : Thrown) (b : Option String)
    (thrown : (cb.exec config lastStartedQuery registry).2 = .error err) (named : reportQuery? err = some b) :
    b = lastStartedQuery := by
  induction cb generalizing registry with
  | ret value => cases thrown
  | throw err' =>
    cases thrown
    simp [CallbackUnreported, named] at unreported
  | report message next ih =>
    simp only [Callback.exec] at thrown
    split at thrown
    · cases thrown; cases named
    · exact ih unreported _ thrown
  | nest inner next _ ih => exact ih _ (unreported _) _ thrown

theorem withLocalPanicHandler_reportQuery? (config : EngineConfig) (lastStartedQuery : Option String)
    (cb : Callback α) (unreported : CallbackUnreported cb) (registry : PanicRegistry) (err : Thrown)
    (b : Option String)
    (thrown : (withLocalPanicHandler config lastStartedQuery (cb.exec config lastStartedQuery) registry).2 =
      .error err)
    (named : reportQuery? err = some b) : b = lastStartedQuery := by
  simp only [withLocalPanicHandler, panicOutcome] at thrown
  split at thrown
  · split at thrown
    · exact exec_reportQuery? config lastStartedQuery cb unreported _ err b thrown named
    · cases thrown; cases named; rfl
  · exact exec_reportQuery? config lastStartedQuery cb unreported _ err b thrown named

/-- The panic test throws only TypeErrors. -/
theorem panicTitle?_reportQuery? (genericGetErrorMessageWithLink : ErrorLinkArgs → String) (err e : Thrown)
    (failed : panicTitle? genericGetErrorMessageWithLink err = .error e) : reportQuery? e = none := by
  unfold panicTitle? at failed
  split at failed
  · cases failed; rfl
  · split at failed
    · split at failed <;> cases failed <;> rfl
    · cases failed

variable (engine : ClientEngine) {Plan : Type}

theorem requestError_reportQuery? (s : EngineState) (err : Thrown) (b : Option String)
    (named : reportQuery? (engine.requestError s err) = some b) :
    b = s.lastStartedQuery ∨ reportQuery? err = some b := by
  unfold ClientEngine.requestError transformRequestError at named
  split at named
  · exact .inr named
  · split at named
    · next e failed =>
      rw [rethrow, panicTitle?_reportQuery? _ err e failed] at named
      cases named
    · cases named; exact .inl rfl
    · split at named
      · cases named
      · rcases parseRustRequestError_cases engine.genericGetErrorMessageWithLink engine.config err with
          same | ⟨_, unknown⟩
        · rw [same] at named; exact .inr named
        · rw [unknown] at named; cases named

theorem compileError_reportQuery? (err : Thrown) (b : Option String)
    (named : reportQuery? (engine.compileError err) = some b) : reportQuery? err = some b := by
  unfold ClientEngine.compileError transformCompileError at named
  split at named
  · exact named
  · split at named
    · cases named
    · split at named
      · cases named
      · exact named
    · exact named

/-- A last segment that rejects only with the transform of a collaborator's failure. -/
theorem reads_settle_requestError {β : Type} (read : Option String → Prop) (outcome : Except Thrown β)
    (unreported : Unreported outcome) :
    (settleWith fun s => outcome.mapError (engine.requestError s)).Reads EngineState.lastStartedQuery
      reportQuery? read := by
  refine reads_settleWith _ fun s e b failed named => .inr ?_
  cases outcome with
  | ok value => cases failed
  | error e' =>
    cases failed
    exact (requestError_reportQuery? engine s e' b named).resolve_right (by simp [unreported e' rfl])

/-! ### Each method writes the field only at its start -/

theorem request_writes (query : JsonQuery) (interactiveTransaction : Option Nat) (env : RequestEnv Plan) :
    (engine.request query interactiveTransaction env).Writes EngineState.lastStartedQuery (some query.text) :=
  writes_segment _ _ (fun _ => rfl) fun _ => engine.keeps_awaitStarted _ _ _
    (engine.compileAndRun_keeps _ _ _ _ fun _ => rfl)

/-- What `requestBatch` writes to `lastStartedQuery` in its first turn: nothing for an empty batch,
which returns before the assignment. -/
def batchWrite (queries : List JsonQuery) (transaction : Option BatchTransaction) : Option (Option String) :=
  match queries with
  | [] => none
  | _ :: _ => some (some (engine.getBatchRequestPayload queries transaction))

theorem requestBatch_writes (queries : List JsonQuery) (transaction : Option BatchTransaction)
    (env : BatchEnv Plan) :
    (engine.requestBatch queries transaction env).Writes EngineState.lastStartedQuery
      (batchWrite engine queries transaction) := by
  cases queries with
  | nil => exact ⟨fun _ => rfl, fun _ => trivial⟩
  | cons first rest =>
    exact writes_segment _ _ (fun _ => rfl) fun _ => engine.keeps_awaitStarted _ _ _
      (engine.compileBatchAndRun_keeps EngineState.lastStartedQuery (fun _ _ => rfl) _ _ _ _ fun _ => rfl)

/-! ### Each method builds its reports from its own turns -/

/-- A rejection of `ensureStarted()` reaches the caller through the transform, which passes its
report on or builds a new one from the field. -/
theorem reads_awaitStarted (ensureStarted : Except Thrown Unit) (next : AsyncCall EngineState (Except Thrown α))
    (read : Option String → Prop) (rest : next.Reads EngineState.lastStartedQuery reportQuery? read)
    (started : ∀ b, StartReport ensureStarted b → read b) :
    (engine.awaitStarted ensureStarted next).Reads EngineState.lastStartedQuery reportQuery? read := by
  cases ensureStarted with
  | ok => exact reads_hop next rest
  | error err =>
    refine reads_segment _ fun s => reads_hop _ fun b named => ?_
    rcases requestError_reportQuery? engine s err b named with current | passed
    · exact .inr current
    · exact .inl (started b ⟨err, rfl, passed⟩)

theorem transaction_reads (action : TransactionAction) (driver : DriverEnv) (unreported : DriverUnreported driver)
    (read : Option String → Prop) :
    (engine.transaction action driver).Reads EngineState.lastStartedQuery reportQuery? read := by
  refine reads_segment _ fun s => ?_
  dsimp only
  split
  · split
    · next _ err failed =>
      exact fun b named => .inr ((requestError_reportQuery? engine s err b named).resolve_right
        (by simp [convertIsolationLevel_unreported _ _ err failed]))
    · exact reads_settle_requestError engine _ _
        ((startTransaction_unreported _ _ (unreported.start _)).map some)
  · exact reads_settle_requestError engine _ _ ((closeTransaction_unreported _ _ _ _ unreported.commit).map _)
  · exact reads_settle_requestError engine _ _ ((closeTransaction_unreported _ _ _ _ unreported.rollback).map _)

theorem request_reads (query : JsonQuery) (interactiveTransaction : Option Nat) (env : RequestEnv Plan)
    (unreported : RequestUnreported env) :
    (engine.request query interactiveTransaction env).Reads EngineState.lastStartedQuery reportQuery?
      (StartReport env.ensureStarted) := by
  refine reads_segment _ fun s => reads_awaitStarted engine _ _ _ (reads_segment _ fun s' => ?_)
    fun _ started => .inl started
  unfold ClientEngine.compileAndRun
  dsimp only
  split
  · next _ error handled =>
    exact fun b named => .inr (withLocalPanicHandler_reportQuery? engine.config _ env.compile
      unreported.compile _ error b handled (compileError_reportQuery? engine error b named))
  · split
    · next _ err failed =>
      exact fun b named => .inr ((requestError_reportQuery? engine _ err b named).resolve_right
        (by simp [queryable_unreported _ _ err failed]))
    · refine reads_settleWith _ fun s'' e b failed named => .inr ?_
      split at failed
      · cases failed
      · next e' ran =>
        cases failed
        exact (requestError_reportQuery? engine s'' e' b named).resolve_right
          (by simp [unreported.run _ e' ran])

/-- A failed run of a multi plan lands in its slot: only a missing query throws, with a TypeError. -/
theorem batchResults_unreported (queries : List JsonQuery) (firstAction : String) (env : BatchEnv Plan)
    (runs : ∀ plan, Unreported (env.runCompacted plan)) (response : BatchResponse Plan) :
    Unreported (engine.batchResults queries firstAction env response) := by
  cases response with
  | multi plans =>
    refine mapM_unreported _ (fun ⟨i, plan⟩ err failed => ?_) _
    change multiSlot queries i (env.run plan) = .error err at failed
    cases ran : env.run plan with
    | error e => simp [multiSlot, ran] at failed
    | ok rows =>
      cases found : queries[i]? with
      | some query => simp [multiSlot, ran, found] at failed
      | none =>
        simp only [multiSlot, ran, found, Except.error.injEq] at failed
        rw [← failed]
        rfl
  | compacted response => exact (runs _).map _

theorem reads_finishBatch (ownTransaction : Bool) (id : Nat) (driver : DriverEnv)
    (unreported : DriverUnreported driver) (results : Except Thrown (List BatchQueryEngineResult))
    (failures : Unreported results) (s : EngineState) (read : Option String → Prop) :
    (engine.finishBatch ownTransaction id driver results s).Reads EngineState.lastStartedQuery reportQuery?
      (fun b => read b ∨ b = s.lastStartedQuery) := by
  cases results with
  | error err =>
    exact fun b named => .inr ((requestError_reportQuery? engine s err b named).resolve_right
      (by simp [failures err rfl]))
  | ok results =>
    cases ownTransaction with
    | false => exact trivial
    | true =>
      refine reads_await _ _ (transaction_reads engine _ driver unreported _) fun outcome read' _ settled => ?_
      cases outcome with
      | ok _ => exact reads_settleWith _ fun _ _ _ failed => by cases failed
      | error err =>
        refine reads_settleWith _ fun s' e b failed named => ?_
        cases failed
        rcases requestError_reportQuery? engine s' err b named with current | earlier
        · exact .inr current
        · exact .inl (settled b earlier)

theorem reads_runBatch (queries : List JsonQuery) (firstAction : String) (ownTransaction : Bool)
    (txInfo : Option Nat) (response : BatchResponse Plan) (env : BatchEnv Plan) (unreported : BatchUnreported env)
    (s : EngineState) (read : Option String → Prop) :
    (engine.runBatch queries firstAction ownTransaction txInfo response env s).2.Reads EngineState.lastStartedQuery
      reportQuery? (fun b => read b ∨ b = s.lastStartedQuery) := by
  unfold ClientEngine.runBatch
  dsimp only
  split
  · next _ err failed =>
    have closed : reportQuery? err = none := by
      cases txInfo with
      | some id => exact (getTransaction_unreported s.manager id).map (fun () => id) err failed
      | none => cases failed; rfl
    exact fun b named => .inr ((requestError_reportQuery? engine s err b named).resolve_right (by simp [closed]))
  · split
    · exact fun b named => .inr ((requestError_reportQuery? engine s _ b named).resolve_right
        (by simp [reportQuery?, mixedActionsError]))
    · exact reads_segment _ fun s' => reads_finishBatch engine _ _ _ unreported.driver _
        (batchResults_unreported engine _ _ _ unreported.runCompacted _) s' _

theorem requestBatch_reads (queries : List JsonQuery) (transaction : Option BatchTransaction) (env : BatchEnv Plan)
    (unreported : BatchUnreported env) :
    (engine.requestBatch queries transaction env).Reads EngineState.lastStartedQuery reportQuery?
      (StartReport env.ensureStarted) := by
  cases queries with
  | nil => exact reads_hop _ trivial
  | cons first rest =>
    refine reads_segment _ fun s => reads_awaitStarted engine _ _ _ (reads_segment _ fun s' => ?_)
      fun _ started => .inl started
    unfold ClientEngine.compileBatchAndRun
    dsimp only
    split
    · next _ err compiled =>
      exact fun b named => .inr (exec_reportQuery? engine.config _ env.compileBatch unreported.compileBatch _ err b
        compiled (compileError_reportQuery? engine err b named))
    · split
      · rw [engine.runBatch_state]
        exact reads_runBatch engine _ _ _ _ _ _ unreported _ _
      · refine reads_await _ _ (transaction_reads engine _ _ unreported.driver _)
          fun outcome read' _ settled => ?_
        cases outcome with
        | ok txInfo =>
          refine reads_segment _ fun s'' => ?_
          rw [engine.runBatch_state]
          exact reads_runBatch engine _ _ _ _ _ _ unreported _ _
        | error err =>
          refine reads_settleWith _ fun s'' e b failed named => ?_
          cases failed
          rcases requestError_reportQuery? engine s'' err b named with current | earlier
          · exact .inr current
          · exact .inl (settled b earlier)

/-! ### The compiler's instantiation

The instantiation builds its report from the field in the turn that runs the compiler's
constructor; `ensureStarted()` rejects with a report only when the instantiation did. -/

theorem transformInitError_reportQuery? (err : Thrown) (b : Option String)
    (named : reportQuery? (transformInitError engine.genericGetErrorMessageWithLink engine.config err) = some b) :
    reportQuery? err = some b := by
  unfold transformInitError at named
  split at named
  · exact named
  · split at named
    · split at named
      · cases named
      · exact named
    · exact named

theorem instantiateQueryCompiler_keeps (env : StartEnv) :
    (instantiateQueryCompiler engine env).Keeps EngineState.lastStartedQuery := by
  refine keeps_hop _ ?_
  cases env.loadQueryCompiler with
  | error err => exact keeps_settleWith _
  | ok =>
    refine keeps_hop _ ?_
    cases env.connect with
    | error err => exact keeps_settleWith _
    | ok => exact keeps_segment _ (fun _ => rfl) fun _ => trivial

theorem instantiateQueryCompiler_reads (env : StartEnv) (unreported : StartUnreported env)
    (read : Option String → Prop) :
    (instantiateQueryCompiler engine env).Reads EngineState.lastStartedQuery reportQuery? read := by
  refine reads_hop _ ?_
  cases loaded : env.loadQueryCompiler with
  | error err =>
    exact reads_settleWith _ fun _ _ b failed named => by
      cases failed
      simp [unreported.loadQueryCompiler err loaded] at named
  | ok =>
    refine reads_hop _ ?_
    cases connected : env.connect with
    | error err =>
      exact reads_settleWith _ fun _ _ b failed named => by
        cases failed
        simp [unreported.connect err connected] at named
    | ok =>
      refine reads_segment _ fun s => ?_
      cases built : (withLocalPanicHandler engine.config s.lastStartedQuery
          (env.newQueryCompiler.exec engine.config s.lastStartedQuery) s.registry).2 with
      | ok => simp only [built]; trivial
      | error err =>
        simp only [built]
        exact fun b named => .inr (withLocalPanicHandler_reportQuery? engine.config _ env.newQueryCompiler
          unreported.newQueryCompiler _ err b built (transformInitError_reportQuery? engine err b named))

/-- The adapter and the manager reject with no report, so a report of `ensureStarted()` is the
instantiation's. -/
theorem ensureStarted_reportQuery? (env : StartEnv) (unreported : StartUnreported env)
    (instantiated : Except Thrown Unit) (err : Thrown) (b : Option String)
    (failed : (promises engine env instantiated).ensureStarted = .error err) (named : reportQuery? err = some b) :
    instantiated = .error err := by
  have manager : Unreported (transactionManagerPromise engine env) :=
    unreported.connect.bind fun () =>
      (convertIsolationLevel_unreported _ _).bind fun _ => unreported.newTransactionManager
  have reported : reportQuery? err ≠ none := by simp [named]
  obtain ⟨⟨⟩, failed⟩ := reported_bind unreported.connect failed reported
  obtain ⟨⟨⟩, failed⟩ := reported_bind manager failed reported
  exact failed

/-! ### Any set of concurrent calls -/

/-- A call of one of the engine's request paths, with what its collaborators do during it. -/
inductive EngineCall (Plan : Type) where
  | request (query : JsonQuery) (interactiveTransaction : Option Nat) (env : RequestEnv Plan)
  | requestBatch (queries : List JsonQuery) (option : Option BatchTransaction) (env : BatchEnv Plan)
  | transaction (action : TransactionAction) (driver : DriverEnv)

namespace EngineCall

def call : EngineCall Plan → Pending EngineState Thrown
  | .request query interactiveTransaction env => ⟨_, engine.request query interactiveTransaction env⟩
  | .requestBatch queries option env => ⟨_, engine.requestBatch queries option env⟩
  | .transaction action driver => ⟨_, engine.transaction action driver⟩

/-- What the call writes to `lastStartedQuery` in its first turn. -/
def write : EngineCall Plan → Option (Option String)
  | .request query _ _ => some (some query.text)
  | .requestBatch queries option _ => batchWrite engine queries option
  | .transaction _ _ => none

/-- The collaborators of the call throw no report of this engine. -/
def Unreported : EngineCall Plan → Prop
  | .request _ _ env => RequestUnreported env
  | .requestBatch _ _ env => BatchUnreported env
  | .transaction _ driver => DriverUnreported driver

/-- The call awaits the `ensureStarted()` of an engine whose promises are `p`. -/
def AwaitsStart (p : Promises) : EngineCall Plan → Prop
  | .request _ _ env => env.ensureStarted = p.ensureStarted
  | .requestBatch _ _ env => env.ensureStarted = p.ensureStarted
  | .transaction _ _ => True

theorem writes (c : EngineCall Plan) :
    (c.call engine).2.Writes EngineState.lastStartedQuery (c.write engine) := by
  cases c with
  | request query interactiveTransaction env => exact request_writes engine query interactiveTransaction env
  | requestBatch queries option env => exact requestBatch_writes engine queries option env
  | transaction action driver => exact (engine.transaction_keeps EngineState.lastStartedQuery (fun _ _ => rfl) action driver).writes

theorem reads (c : EngineCall Plan) (unreported : c.Unreported) (p : Promises) (awaits : c.AwaitsStart p) :
    (c.call engine).2.Reads EngineState.lastStartedQuery reportQuery? (StartReport p.ensureStarted) := by
  cases c with
  | request query interactiveTransaction env =>
    rw [← show env.ensureStarted = p.ensureStarted from awaits]
    exact request_reads engine query interactiveTransaction env unreported
  | requestBatch queries option env =>
    rw [← show env.ensureStarted = p.ensureStarted from awaits]
    exact requestBatch_reads engine queries option env unreported
  | transaction action driver => exact transaction_reads engine action driver unreported _

/-- Before their first turns, the calls satisfy the invariant of `Async.Started`. -/
theorem started (calls : List (EngineCall Plan)) :
    Started EngineState.lastStartedQuery (calls.map (·.write engine)) [] (calls.map (·.call engine)) := by
  refine ⟨by simp, fun _ _ _ never => absurd never (List.not_mem_nil _), fun k c found _ => ?_⟩
  rw [List.getElem?_map] at found
  obtain ⟨c', at_k, rfl⟩ := Option.map_eq_some'.mp found
  simpa [at_k] using c'.writes engine

end EngineCall

/-- For any calls of `request`, `requestBatch` and `transaction` on one engine and any interleaving
of their turns, `lastStartedQuery` after every turn is what the abstract model gives it: the query
of the request or non-empty batch that started most recently, or its first value if none has. -/
theorem lastStartedQuery_follows_starts (calls : List (EngineCall Plan)) (schedule : List Nat) (s : EngineState) :
    (turns schedule (calls.map (·.call engine)) s).map EngineState.lastStartedQuery =
      writeTrace (calls.map (·.write engine)) schedule [] s.lastStartedQuery :=
  (started_interleave _ (EngineCall.started engine calls) schedule s).2

/-- The compiler's instantiation, a task of the event loop from the constructor on. -/
def startTask (env : StartEnv) : Pending EngineState Thrown := ⟨Unit, instantiateQueryCompiler engine env⟩

/-- The tasks of an engine started with `env`: the instantiation, then the calls, numbered from one. -/
def startedTasks (env : StartEnv) (calls : List (EngineCall Plan)) : List (Pending EngineState Thrown) :=
  startTask engine env :: calls.map (·.call engine)

/-- What each task writes to `lastStartedQuery` in its first turn. -/
def startedWrites (calls : List (EngineCall Plan)) : List (Option (Option String)) :=
  none :: calls.map (·.write engine)

/-- What each task's reports may name besides the field after its own turns: nothing for the
instantiation, and the report of `ensureStarted()` for a call. -/
def startedReads (p : Promises) : Nat → Option String → Prop
  | 0 => fun _ => False
  | _ + 1 => StartReport p.ensureStarted

section Run
variable (env : StartEnv) (instantiated : Except Thrown Unit) (calls : List (EngineCall Plan))

/-- Before their first turns, the tasks satisfy the invariant of `Async.Started`. -/
theorem started_tasks :
    Started EngineState.lastStartedQuery (startedWrites engine calls) [] (startedTasks engine env calls) := by
  refine ⟨by simp [startedWrites, startedTasks], fun _ _ _ never => absurd never (List.not_mem_nil _),
    fun k c found _ => ?_⟩
  cases k with
  | zero =>
    simp only [startedTasks, List.getElem?_cons_zero, Option.some.injEq] at found
    subst found
    rw [startedWrites, List.getElem?_cons_zero]
    exact (instantiateQueryCompiler_keeps engine env).writes
  | succ k =>
    rw [startedTasks, List.getElem?_cons_succ] at found
    rw [startedWrites, List.getElem?_cons_succ]
    exact (EngineCall.started engine calls).fresh k c found (List.not_mem_nil _)

theorem tasks_read (unreportedStart : StartUnreported env) (unreported : ∀ c ∈ calls, c.Unreported)
    (awaits : ∀ c ∈ calls, c.AwaitsStart (promises engine env instantiated)) (k : Nat)
    (task : Pending EngineState Thrown) (found : (startedTasks engine env calls)[k]? = some task) :
    task.2.Reads EngineState.lastStartedQuery reportQuery? (startedReads (promises engine env instantiated) k) := by
  cases k with
  | zero =>
    simp only [startedTasks, List.getElem?_cons_zero, Option.some.injEq] at found
    subst found
    exact instantiateQueryCompiler_reads engine env unreportedStart _
  | succ k =>
    simp only [startedTasks, List.getElem?_cons_succ, List.getElem?_map] at found
    obtain ⟨c, at_k, rfl⟩ := Option.map_eq_some'.mp found
    have mem := List.getElem?_mem at_k
    exact c.reads engine (unreported c mem) _ (awaits c mem)

/-- Every report that rejects a task names the field after one of its own turns, or is the report
of `ensureStarted()`. -/
theorem rejection_reads (unreportedStart : StartUnreported env) (unreported : ∀ c ∈ calls, c.Unreported)
    (awaits : ∀ c ∈ calls, c.AwaitsStart (promises engine env instantiated)) (schedule : List Nat) (s : EngineState)
    (k : Nat) {β : Type} (err : Thrown)
    (rejected : (interleave schedule (startedTasks engine env calls) s).1[k]? = some ⟨β, .settled (.error err)⟩)
    (b : Option String) (named : reportQuery? err = some b) :
    startedReads (promises engine env instantiated) k b ∨
      RanWith schedule (writeTrace (startedWrites engine calls) schedule [] s.lastStartedQuery) k b := by
  have read := reads_interleave schedule _ s _ (tasks_read engine env instantiated calls unreportedStart unreported
    awaits) k _ rejected b named
  rwa [(started_interleave _ (started_tasks engine env calls) schedule s).2] at read

theorem join_write (k : Nat) : ((startedWrites engine calls)[k + 1]?).join = (calls[k]?).bind (·.write engine) := by
  simp only [startedWrites, List.getElem?_cons_succ, List.getElem?_map]
  cases calls[k]? <;> rfl

/-- When no other call that writes `lastStartedQuery` starts after call `j` does, every report that
rejects `j` names `j`'s own query, or is the report `ensureStarted()` rejects with. -/
theorem report_names_own_query (unreportedStart : StartUnreported env) (unreported : ∀ c ∈ calls, c.Unreported)
    (awaits : ∀ c ∈ calls, c.AwaitsStart (promises engine env instantiated)) (before after : List Nat)
    (s : EngineState) (j : Nat) (query : Option String) (own : (calls[j]?).bind (·.write engine) = some query)
    (fresh : j + 1 ∉ before)
    (quiet : ∀ k ∈ after, k = j + 1 ∨ k ∈ before ∨ ((startedWrites engine calls)[k]?).join = none)
    {β : Type} (err : Thrown)
    (rejected : (interleave (before ++ (j + 1) :: after) (startedTasks engine env calls) s).1[j + 1]? =
      some ⟨β, .settled (.error err)⟩)
    (b : Option String) (named : reportQuery? err = some b) :
    b = query ∨ StartReport (promises engine env instantiated).ensureStarted b := by
  rcases rejection_reads engine env instantiated calls unreportedStart unreported awaits _ s (j + 1) err rejected b
    named with passed | ⟨t, at_t, value⟩
  · exact .inr passed
  refine .inl ?_
  have late : before.length ≤ t := by
    by_contra early
    rw [List.getElem?_append_left (by omega)] at at_t
    exact fresh (List.getElem?_mem at_t)
  rw [writeTrace_append, List.getElem?_append_right (by rw [length_writeTrace]; exact late)] at value
  have written : ((startedWrites engine calls)[j + 1]?).join = some query := by rw [join_write, own]
  have mem := List.getElem?_mem value
  simp only [writeTrace, List.mem_reverse, List.append_nil, fresh, if_false, written, Option.getD_some,
    List.mem_cons] at mem
  rcases mem with rfl | later
  · rfl
  · refine writeTrace_quiet _ after _ query (fun k mem => ?_) b later
    rcases quiet k mem with rfl | old | silent
    · exact .inl (List.mem_cons_self _ _)
    · exact .inl (List.mem_cons_of_mem _ (by simpa using old))
    · exact .inr silent

end Run

/-- An engine whose adapter connects, whose manager is built and whose compiler's constructor
returns. -/
def healthyStart : StartEnv := ⟨.ok (), .ok (), .ok (), .ret ()⟩

/-- The same engine, with the compiler's constructor reporting a panic. -/
def panickingStart : StartEnv := ⟨.ok (), .ok (), .ok (), .report "boom" (.ret ())⟩

theorem healthyStart_unreported : StartUnreported healthyStart :=
  ⟨fun _ failed => (nomatch failed), fun _ failed => (nomatch failed), fun _ failed => (nomatch failed), trivial⟩

theorem panickingStart_unreported : StartUnreported panickingStart :=
  ⟨fun _ failed => (nomatch failed), fun _ failed => (nomatch failed), fun _ failed => (nomatch failed), trivial⟩

/-- Two requests on one engine: request A's compiler panics, request B's compiles. -/
def racingRequests : List (EngineCall Unit) :=
  [.request ⟨"findUnique", "qA"⟩ none ⟨.ok (), .report "boom" (.ret ()), fun _ => .ok .null⟩,
   .request ⟨"findMany", "qB"⟩ none ⟨.ok (), .ret (), fun _ => .ok .null⟩]

theorem racingRequests_unreported : ∀ c ∈ racingRequests, c.Unreported := by
  intro c mem
  simp only [racingRequests, List.mem_cons, List.mem_singleton, List.not_mem_nil, or_false] at mem
  rcases mem with rfl | rfl <;> exact ⟨trivial, fun _ _ failed => (nomatch failed)⟩

theorem racingRequests_await : ∀ c ∈ racingRequests, c.AwaitsStart (promises postgresEngine healthyStart (.ok ())) := by
  intro c mem
  simp only [racingRequests, List.mem_cons, List.mem_singleton, List.not_mem_nil, or_false] at mem
  rcases mem with rfl | rfl <;> rfl

/-- A lone request on an engine whose compiler's constructor panicked before any call started. -/
def loneRequest : List (EngineCall Unit) :=
  [.request ⟨"findUnique", "qA"⟩ none
    ⟨.error (.rustPanicError (getErrorMessageWithLink postgresEngine.config none "boom") "6.0.0"), .ret (),
      fun _ => .ok .null⟩]

/-- A's report names A's query when B has not started by the time A's compiler panics. -/
theorem panic_report_before_second_start :
    (interleave ([0, 0, 0] ++ (0 + 1) :: [1, 1]) (startedTasks postgresEngine healthyStart racingRequests) idle).1[0 + 1]? =
      some ⟨BatchQueryEngineResult, .settled (.error
        (.rustPanicError (getErrorMessageWithLink postgresEngine.config (some "qA") "boom") "6.0.0"))⟩ ∧
    (some "qA" = (some "qA" : Option String) ∨
      StartReport (promises postgresEngine healthyStart (.ok ())).ensureStarted (some "qA")) :=
  have rejected : (interleave ([0, 0, 0] ++ (0 + 1) :: [1, 1]) (startedTasks postgresEngine healthyStart racingRequests)
      idle).1[0 + 1]? = some ⟨BatchQueryEngineResult, .settled (.error
        (.rustPanicError (getErrorMessageWithLink postgresEngine.config (some "qA") "boom") "6.0.0"))⟩ := rfl
  ⟨rejected, report_names_own_query postgresEngine healthyStart (.ok ()) racingRequests healthyStart_unreported
    racingRequests_unreported racingRequests_await [0, 0, 0] [1, 1] idle 0 (some "qA") rfl (by decide)
    (fun k mem => .inl (by simpa using mem)) _ rejected _ rfl⟩

end Prisma.ClientEngine.LastStartedQuery
