import Prisma.ClientEngine.Requests

/-! The multi case of `requestBatch`: `Promise.all(batchResponse.plans.map((plan, i) =>
interpreter.run(plan, queryable).then(...)))`, every plan on the one queryable of the batch's
transaction. The map starts the runs in the order of the plans; each run then goes on at its own
awaits, issuing the statements of its plan on the queryable, and the connection completes
statements in some order. Nothing orders the statements of different plans, and once every run has
settled the promises hold, in the order of the plans, the slots that `batchResults` collects. -/

namespace Prisma.ClientEngine.MultiBatch
open Json Errors CompactedRows Async Requests

variable {Statement : Type} (queries : List JsonQuery)

/-- Modelled from the spec: a plan as its run on the queryable sees it. Each turn of
`interpreter.run(plan, queryable)` issues the next statement of the plan or only awaits something
else; after its last turn the run settles with `outcome`. -/
structure RunPlan (Statement : Type) where
  turns : List (Option Statement)
  outcome : Except Thrown JsValue

/-- The statements the run issues, in order. -/
def RunPlan.statements (plan : RunPlan Statement) : List Statement := plan.turns.filterMap id

/-- The run of plan `k` from its remaining `turns` on, with the `.then` of the map folded into its
end: the log of the queryable records each statement with the index of its plan. -/
def runStatements (k : Nat) (outcome : Except Thrown JsValue) :
    List (Option Statement) → AsyncCall (List (Nat × Statement)) (Except Thrown BatchQueryEngineResult)
  | [] => .settled (multiSlot queries k outcome)
  | turn :: rest => segment fun log => (log ++ (turn.map (k, ·)).toList, runStatements k outcome rest)

/-- The runs, each with what its plan has still to do. -/
def runsOf (rests : List (RunPlan Statement)) : List (Pending (List (Nat × Statement)) Thrown) :=
  rests.enum.map fun (k, rest) => ⟨_, runStatements queries k rest.outcome rest.turns⟩

/-- `Promise.all(plans.map(run))`: the map starts the runs in the order of the plans; then the
connection completes statements and the runs' other awaits settle in any order, `completions`
naming the run each one resumes. -/
def runMulti (plans : List (RunPlan Statement)) (completions : List Nat) :
    List (Pending (List (Nat × Statement)) Thrown) × List (Nat × Statement) :=
  interleave (List.range plans.length ++ completions) (runsOf queries plans) []

/-- The statements of plan `k` in the log, in the order they were executed. -/
def executedOf (k : Nat) (log : List (Nat × Statement)) : List Statement :=
  log.filterMap fun (i, statement) => if i = k then some statement else none

theorem executedOf_append_turn (k j : Nat) (log : List (Nat × Statement)) (turn : Option Statement) :
    executedOf k (log ++ (turn.map (j, ·)).toList) =
      executedOf k log ++ if j = k then turn.toList else [] := by
  cases turn <;> by_cases same : j = k <;> simp [executedOf, List.filterMap_append, same]

/-! ### The connection's view

An abstract model with no promises in it: what each run has still to do, and the log. A turn of run
`k` takes the next turn of its plan, and issues its statement, if it has one. -/

def issue (rests : List (RunPlan Statement)) (log : List (Nat × Statement)) (k : Nat) :
    List (RunPlan Statement) × List (Nat × Statement) :=
  match rests[k]? with
  | some ⟨turn :: later, outcome⟩ => (rests.set k ⟨later, outcome⟩, log ++ (turn.map (k, ·)).toList)
  | _ => (rests, log)

def issueAll : List Nat → List (RunPlan Statement) → List (Nat × Statement) →
    List (RunPlan Statement) × List (Nat × Statement)
  | [], rests, log => (rests, log)
  | k :: schedule, rests, log => issueAll schedule (issue rests log k).1 (issue rests log k).2

theorem resume_runStatements (k : Nat) (rest : RunPlan Statement) (log : List (Nat × Statement)) :
    Pending.resume ⟨_, runStatements queries k rest.outcome rest.turns⟩ log =
      (⟨_, runStatements queries k rest.outcome rest.turns.tail⟩,
        log ++ (rest.turns.head?.bind fun turn => turn.map (k, ·)).toList) := by
  obtain ⟨_ | ⟨turn, later⟩, outcome⟩ := rest
  · simp [Pending.resume, AsyncCall.resume, runStatements]
  · rfl

theorem issue_eq (rests : List (RunPlan Statement)) (log : List (Nat × Statement)) (k : Nat) :
    issue rests log k = match rests[k]? with
      | some rest => (rests.set k ⟨rest.turns.tail, rest.outcome⟩,
          log ++ (rest.turns.head?.bind fun turn => turn.map (k, ·)).toList)
      | none => (rests, log) := by
  cases found : rests[k]? with
  | none => simp [issue, found]
  | some rest =>
    obtain ⟨_ | ⟨turn, later⟩, outcome⟩ := rest
    · have kept : rests.set k ⟨[], outcome⟩ = rests := List.ext_getElem? fun j => by
        rw [List.getElem?_set]
        split
        · next same => subst same; simp [(List.getElem?_eq_some_iff.mp found).1, found]
        · rfl
      simp [issue, found, kept]
    · simp [issue, found]

/-- One turn of the event loop is one step of the connection's view. -/
theorem resumeAt_runsOf (rests : List (RunPlan Statement)) (log : List (Nat × Statement)) (k : Nat) :
    resumeAt (runsOf queries rests) k log = (runsOf queries (issue rests log k).1, (issue rests log k).2) := by
  rw [issue_eq]
  cases found : rests[k]? with
  | none =>
    have missing : (runsOf queries rests)[k]? = none := by simp [runsOf, found]
    simp [resumeAt, missing]
  | some rest =>
    have at_k : (runsOf queries rests)[k]? = some ⟨_, runStatements queries k rest.outcome rest.turns⟩ := by
      simp [runsOf, List.getElem?_enum, found]
    refine Prod.ext ?_ ?_
    · refine List.ext_getElem? fun j => ?_
      rw [resumeAt_getElem?]
      split
      · next same =>
        subst same
        obtain ⟨within, value⟩ := List.getElem?_eq_some_iff.mp found
        simp [runsOf, List.getElem?_enum, found, resume_runStatements, within, value]
      · next other => simp [runsOf, List.getElem?_enum, List.getElem?_set, other]
    · simp [resumeAt, at_k, resume_runStatements]

/-- The refinement theorem: the runs, resumed in any order, are the connection's view run in that
order. -/
theorem interleave_runsOf (schedule : List Nat) (rests : List (RunPlan Statement)) (log : List (Nat × Statement)) :
    interleave schedule (runsOf queries rests) log =
      (runsOf queries (issueAll schedule rests log).1, (issueAll schedule rests log).2) := by
  induction schedule generalizing rests log with
  | nil => rfl
  | cons k schedule ih => simp only [interleave, issueAll, resumeAt_runsOf, ih]

/-! ### Each plan in its own order -/

/-- Every plan keeps its outcome, and its statements are what it has executed followed by what it
has still to issue. -/
def Progress (plans rests : List (RunPlan Statement)) (log : List (Nat × Statement)) : Prop :=
  ∀ k plan, plans[k]? = some plan →
    ∃ rest, rests[k]? = some rest ∧ rest.outcome = plan.outcome ∧ plan.statements = executedOf k log ++ rest.statements

theorem Progress.issue {plans rests : List (RunPlan Statement)} {log : List (Nat × Statement)}
    (progress : Progress plans rests log) (j : Nat) :
    Progress plans (MultiBatch.issue rests log j).1 (MultiBatch.issue rests log j).2 := by
  intro k plan found
  obtain ⟨rest, at_k, kept, split⟩ := progress k plan found
  unfold MultiBatch.issue
  split
  · next turn later outcome at_j =>
    by_cases same : j = k
    · subst same
      rw [at_k, Option.some.injEq] at at_j
      subst at_j
      refine ⟨⟨later, outcome⟩, by simp [(List.getElem?_eq_some_iff.mp at_k).1], kept, ?_⟩
      rw [executedOf_append_turn, split, if_pos rfl]
      cases turn <;> simp [RunPlan.statements]
    · refine ⟨rest, by rw [List.getElem?_set_ne same, at_k], kept, ?_⟩
      rw [executedOf_append_turn, if_neg same, List.append_nil, split]
  · exact ⟨rest, at_k, kept, split⟩

theorem Progress.issueAll {plans rests : List (RunPlan Statement)} {log : List (Nat × Statement)}
    (progress : Progress plans rests log) (schedule : List Nat) :
    Progress plans (MultiBatch.issueAll schedule rests log).1 (MultiBatch.issueAll schedule rests log).2 := by
  induction schedule generalizing rests log with
  | nil => exact progress
  | cons k schedule ih => exact ih (progress.issue k)

theorem progress_start (plans : List (RunPlan Statement)) : Progress plans plans [] :=
  fun _ plan found => ⟨plan, found, rfl, by simp [executedOf]⟩

theorem length_issueAll (schedule : List Nat) (rests : List (RunPlan Statement)) (log : List (Nat × Statement)) :
    (issueAll schedule rests log).1.length = rests.length := by
  induction schedule generalizing rests log with
  | nil => rfl
  | cons k schedule ih =>
    rw [issueAll, ih]
    unfold MultiBatch.issue
    split <;> simp

theorem isSettled_runStatements (k : Nat) (outcome : Except Thrown JsValue) (turns : List (Option Statement)) :
    (runStatements queries k outcome turns).isSettled = true ↔ turns = [] := by
  cases turns <;> simp [runStatements, Async.segment, AsyncCall.isSettled]

/-- `Promise.all` over the runs of a multi batch, whatever order the connection completes statements
in and the runs' other awaits settle in: each plan's statements are executed in the plan's order with
none skipped, and a run that has settled has executed all of its plan. Nothing else orders the
statements of different plans. -/
theorem multi_runs_keep_plan_order (plans : List (RunPlan Statement)) (completions : List Nat) :
    (∀ k plan, plans[k]? = some plan → executedOf k (runMulti queries plans completions).2 <+: plan.statements) ∧
    (∀ k plan, plans[k]? = some plan → ((runMulti queries plans completions).1[k]?).map (·.2.isSettled) = some true →
      executedOf k (runMulti queries plans completions).2 = plan.statements) := by
  have progress := (progress_start plans).issueAll (List.range plans.length ++ completions)
  simp only [runMulti, interleave_runsOf]
  refine ⟨fun k plan found => ?_, fun k plan found settled => ?_⟩
  · obtain ⟨rest, _, _, split⟩ := progress k plan found
    exact split ▸ List.prefix_append _ _
  · obtain ⟨rest, at_k, _, split⟩ := progress k plan found
    simp only [runsOf, List.getElem?_map, List.getElem?_enum, at_k, Option.map_some', Option.some.injEq,
      isSettled_runStatements] at settled
    rw [split, RunPlan.statements, settled, List.filterMap_nil, List.append_nil]

/-- Two plans of two statements each on a connection that completes statements in the order they
were issued: the statements of the two plans alternate. -/
theorem fifo_connection_alternates_plans :
    (runMulti [⟨"findMany", "qA"⟩, ⟨"findMany", "qB"⟩]
      [⟨[some "a1", some "a2"], .ok .null⟩, ⟨[some "b1", some "b2"], .ok .null⟩] [0, 1, 0, 1]).2 =
      [(0, "a1"), (1, "b1"), (0, "a2"), (1, "b2")] := by
  decide

/-! ### The runs settle as `batchResults` says -/

/-- Two plans whose runs await something else before their first statements; the first plan's
run fails. -/
def awaitingPlans : List (RunPlan String) :=
  [⟨[none, some "a1"], .error (typeError "lost")⟩, ⟨[none, some "b1"], .ok .null⟩]

def awaitingEnv : BatchEnv (RunPlan String) :=
  ⟨.ok (), .ret (.multi awaitingPlans), ⟨fun _ => .ok (), .ok (), .ok ()⟩, RunPlan.outcome, fun _ => .ok []⟩

end Prisma.ClientEngine.MultiBatch
