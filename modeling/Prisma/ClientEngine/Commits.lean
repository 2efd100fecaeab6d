import Prisma.ClientEngine.SharedState

/-! Every commit or rollback a caller is told of is one of its own. A non-empty batch outside the
caller's interactive transaction fulfils its promise only after its own commit went through, and
`transaction('commit')` and `transaction('rollback')` only after closing the transaction they name.
Under any schedule of calls, `stop()`s and timeouts, the transactions committed at the end
therefore number at least those committed at the start plus the fulfilled calls that report a
commit, and likewise for rollbacks: no two such calls share one transaction, and no later turn
undoes what one reported. -/

namespace Prisma.ClientEngine.Commits
open Json Errors PanicHandler CompactedRows Transactions Async Requests LastStartedQuery SharedState

variable (engine : ClientEngine) {Plan : Type}

/-- The status a call's success reports it gave a transaction: a non-empty batch outside the
caller's interactive transaction commits its own, `transaction('commit')` and
`transaction('rollback')` close the one they name. -/
def reportedClose : EngineCall Plan → Option TransactionStatus
  | .requestBatch (_ :: _) (some (.itx _)) _ => none
  | .requestBatch (_ :: _) _ _ => some .committed
  | .transaction (.commit _) _ => some .committed
  | .transaction (.rollback _) _ => some .rolledBack
  | _ => none

/-! ### What one turn adds -/

theorem managerAdvances_grows {status : TransactionStatus} (closed : status ≠ .running) {s s' : EngineState}
    (advances : ManagerAdvances s s') : Grows (·.manager.WellFormed) (·.manager.count status) s s' :=
  fun wellFormed => ⟨(advances wellFormed).1, (advances wellFormed).2.count_le closed⟩

theorem tasks_grow (calls : List (EngineCall Plan)) (stops : List StopEnv) (timeouts : List Nat)
    {status : TransactionStatus} (closed : status ≠ .running) (j : Nat) (task : Pending EngineState Thrown)
    (found : (tasks engine calls stops timeouts)[j]? = some task) :
    task.2.Steps (Grows (·.manager.WellFormed) (·.manager.count status)) :=
  (tasks_advance engine calls stops timeouts task (List.getElem?_mem found)).imp fun _ _ => managerAdvances_grows closed

section Banks
variable {status : TransactionStatus}

/-- A call that banks `Q` whatever it settles with, from index `n` on. -/
theorem banks_of_forall {σ α : Type} {Inv : σ → Prop} {measure : σ → Nat} {Q : α → Nat → Prop} {n : Nat}
    (all : ∀ a k, n ≤ k → Q a k) (call : AsyncCall σ α) : call.Banks Inv measure Q n := by
  induction call generalizing n with
  | settled outcome => exact all outcome n le_rfl
  | suspended update next ih => exact fun s _ => ih s fun a k le => all a k (by omega)

/-- The one turn of `transaction('commit')` or `transaction('rollback')`: a close that fulfils has
moved a running transaction to its terminal status, adding one to those with that status. -/
theorem closing_banks {action : TransactionAction} (id : Nat)
    (closing : action = .commit id ∧ status = .committed ∨ action = .rollback id ∧ status = .rolledBack)
    (driver : DriverEnv) {Q : Except Thrown (Option Nat) → Nat → Prop} (n : Nat)
    (fulfilled : ∀ k, n + 1 ≤ k → Q (.ok none) k) (rejected : ∀ err k, Q (.error err) k) :
    (engine.transaction action driver).Banks (·.manager.WellFormed) (·.manager.count status) Q n := by
  have open_ : status ≠ .running := by rcases closing with ⟨_, rfl⟩ | ⟨_, rfl⟩ <;> nofun
  have close : ∀ s : EngineState, s.manager.WellFormed → ∀ (d : Except Thrown Unit),
      (settleWith fun s' : EngineState =>
        ((s.manager.closeTransaction id status d).2.map fun () => none).mapError (engine.requestError s')).Banks
        (·.manager.WellFormed) (·.manager.count status) Q
        (n + ((s.manager.closeTransaction id status d).1.count status - s.manager.count status)) := by
    intro s wellFormed d
    refine banks_settleWith _ fun _ _ => ?_
    cases closed : (s.manager.closeTransaction id status d).2 with
    | error err => exact rejected _ _
    | ok u =>
      have added := s.manager.closeTransaction_count id status d wellFormed open_ closed
      exact fulfilled _ (by omega)
  rcases closing with ⟨rfl, rfl⟩ | ⟨rfl, rfl⟩
  · exact fun s wellFormed => close s wellFormed driver.commit
  · exact fun s wellFormed => close s wellFormed driver.rollback

theorem finishBatch_banks (id : Nat) (driver : DriverEnv) (results : Except Thrown (List BatchQueryEngineResult))
    (s : EngineState) (n : Nat) :
    (engine.finishBatch true id driver results s).Banks (·.manager.WellFormed) (·.manager.count .committed)
      Succeeded n := by
  cases results with
  | error err => trivial
  | ok results =>
    refine banks_await _ _ (closing_banks engine id (.inl ⟨rfl, rfl⟩) driver n (fun k le => ?_) fun err k => ?_)
    · exact banks_settleWith _ fun _ _ => by show 1 ≤ k; omega
    · exact banks_settleWith _ fun _ _ => trivial

theorem runBatch_banks (queries : List JsonQuery) (firstAction : String) (txInfo : Option Nat)
    (response : BatchResponse Plan) (env : BatchEnv Plan) (s : EngineState) (n : Nat) :
    (engine.runBatch queries firstAction true txInfo response env s).2.Banks (·.manager.WellFormed)
      (·.manager.count .committed) Succeeded n := by
  unfold ClientEngine.runBatch
  dsimp only
  split
  · trivial
  · split
    · trivial
    · exact banks_segment succeeded_mono _ fun s _ => finishBatch_banks engine _ _ _ _ _

theorem compileBatchAndRun_banks (queries : List JsonQuery) (firstAction : String)
    (transaction : Option BatchTransaction) (own : ∀ id, transaction ≠ some (.itx id)) (env : BatchEnv Plan)
    (s : EngineState) (n : Nat) :
    (engine.compileBatchAndRun queries firstAction transaction env s).2.Banks (·.manager.WellFormed)
      (·.manager.count .committed) Succeeded n := by
  unfold ClientEngine.compileBatchAndRun
  dsimp only
  split
  · trivial
  · rcases transaction with _ | ⟨id⟩ | ⟨level⟩
    case some.itx => exact absurd rfl (own id)
    all_goals
      refine banks_await _ _ (banks_of_forall (fun outcome k _ => ?_) _)
      cases outcome with
      | ok txInfo => exact banks_segment succeeded_mono _ fun s _ => runBatch_banks engine _ _ _ _ _ _ _
      | error err => exact banks_settleWith _ fun _ _ => trivial

/-- A non-empty batch outside the caller's interactive transaction fulfils only after a commit of
its own. -/
theorem requestBatch_banks (first : JsonQuery) (rest : List JsonQuery) (transaction : Option BatchTransaction)
    (own : ∀ id, transaction ≠ some (.itx id)) (env : BatchEnv Plan) :
    (engine.requestBatch (first :: rest) transaction env).Banks (·.manager.WellFormed) (·.manager.count .committed)
      Succeeded 0 := by
  refine banks_segment succeeded_mono _ fun s _ => ?_
  unfold ClientEngine.awaitStarted
  split
  · exact banks_hop _ (banks_segment succeeded_mono _ fun s _ =>
      compileBatchAndRun_banks engine _ _ transaction own env s 0)
  · exact banks_segment succeeded_mono _ fun _ _ => banks_hop _ trivial

theorem call_banks (c : EngineCall Plan) (reports : reportedClose c = some status) :
    (c.call engine).2.Banks (·.manager.WellFormed) (·.manager.count status) Succeeded 0 := by
  cases c with
  | request => cases reports
  | requestBatch queries option env =>
    rcases queries with _ | ⟨first, rest⟩
    · cases reports
    rcases option with _ | ⟨id⟩ | ⟨level⟩
    case some.itx => cases reports
    all_goals
      cases reports
      exact requestBatch_banks engine first rest _ (fun _ => by simp) env
  | transaction action driver =>
    cases action with
    | start level => cases reports
    | commit id =>
      cases reports
      exact closing_banks engine id (.inl ⟨rfl, rfl⟩) driver 0 (fun _ le => le) fun _ _ => trivial
    | rollback id =>
      cases reports
      exact closing_banks engine id (.inr ⟨rfl, rfl⟩) driver 0 (fun _ le => le) fun _ _ => trivial

end Banks

/-! ### Any schedule -/

theorem tasks_getElem?_call (calls : List (EngineCall Plan)) (stops : List StopEnv) (timeouts : List Nat)
    (j : Nat) (c : EngineCall Plan) (found : calls[j]? = some c) :
    (tasks engine calls stops timeouts)[j]? = some (c.call engine) := by
  have below : j < calls.length := (List.getElem?_eq_some_iff.mp found).1
  unfold tasks
  rw [List.getElem?_append_left (by simp; omega), List.getElem?_append_left (by simpa using below),
    List.getElem?_map, found]
  rfl

/-- For any calls of `request`, `requestBatch`, `transaction` and `stop()` on one engine, any
timeouts and any interleaving of their turns, from a manager with nothing registered at or past
`nextId`: the transactions committed at the end number at least those committed at the start plus
the fulfilled calls that report a commit (non-empty batches outside the caller's interactive
transaction, and `transaction('commit')`), and the transactions rolled back at least those rolled
back at the start plus the fulfilled `transaction('rollback')` calls. -/
theorem reported_closes_are_own (calls : List (EngineCall Plan)) (stops : List StopEnv) (timeouts : List Nat)
    (schedule : List Nat) (s : EngineState) (wellFormed : s.manager.WellFormed) (status : TransactionStatus)
    (closed : status ≠ .running) :
    s.manager.count status +
        ((calls.zip (interleave schedule (tasks engine calls stops timeouts) s).1).countP fun p =>
          reportedClose p.1 == some status && p.2.fulfilled) ≤
      (interleave schedule (tasks engine calls stops timeouts) s).2.manager.count status :=
  banked_interleave (fun c : EngineCall Plan => reportedClose c == some status) calls schedule _ s wellFormed
    (tasks_grow engine calls stops timeouts closed) fun j c task named reports found => by
      rw [tasks_getElem?_call engine calls stops timeouts j c named, Option.some.injEq] at found
      subst found
      exact call_banks engine c (beq_iff_eq.mp reports)

/-- One batch of its own transaction, run turn after turn on an idle engine. -/
theorem single_batch_commit_counted :
    idle.manager.WellFormed ∧ TransactionStatus.committed ≠ .running ∧
    idle.manager.count .committed +
        (([.requestBatch [⟨"findMany", "qA"⟩] none singleQueryBatch].zip
          (interleave (List.replicate 10 0)
            (tasks postgresEngine [.requestBatch [⟨"findMany", "qA"⟩] none singleQueryBatch] [] []) idle).1).countP
          fun p => reportedClose p.1 == some .committed && p.2.fulfilled) ≤
      (interleave (List.replicate 10 0)
        (tasks postgresEngine [.requestBatch [⟨"findMany", "qA"⟩] none singleQueryBatch] [] []) idle).2.manager.count
        .committed :=
  ⟨fun _ _ => rfl, nofun, reported_closes_are_own postgresEngine _ [] [] _ idle (fun _ _ => rfl) .committed nofun⟩

end Prisma.ClientEngine.Commits
