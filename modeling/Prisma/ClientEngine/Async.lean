import Mathlib.Data.List.Basic

/-! An `async` method of the engine, cut at its `await`s. Between two awaits a call runs
synchronously on the state it shares with every other call; once the awaited promise settles, the
rest of it runs at some later turn of the event loop, after whatever other continuations the loop
picks first. A call waits for its first turn as well: the schedule says when it starts. -/

namespace Prisma.ClientEngine.Async

inductive AsyncCall (σ α : Type) where
  | settled (outcome : α)
  | suspended (update : σ → σ) (next : σ → AsyncCall σ α)

variable {σ α β γ ε : Type}

/-- One synchronous segment: from the state it finds, the state it leaves and what the call does
next, settle or wait again. -/
def segment (f : σ → σ × AsyncCall σ α) : AsyncCall σ α :=
  .suspended (fun s => (f s).1) (fun s => (f s).2)

/-- A segment that reads nothing and changes nothing, such as the hop of a `.catch` that passes a
fulfilled promise on. -/
def hop (next : AsyncCall σ α) : AsyncCall σ α := .suspended id fun _ => next

/-- A last segment that reads the state and settles the call. -/
def settleWith (f : σ → α) : AsyncCall σ α := .suspended id fun s => .settled (f s)

/-- `await call` inside an async method: the segments of `call` are turns of the awaiting call, and
once `call` has settled the method goes on with its outcome at a later turn. -/
def AsyncCall.await : AsyncCall σ α → (α → AsyncCall σ β) → AsyncCall σ β
  | .settled outcome, next => next outcome
  | .suspended update rest, next => .suspended update fun s => (rest s).await next

/-- The call with nothing else running: every awaited promise settles before any other
continuation runs. -/
def AsyncCall.runAlone : AsyncCall σ α → σ → σ × α
  | .settled outcome, s => (s, outcome)
  | .suspended update next, s => (next s).runAlone (update s)

@[simp] theorem runAlone_settled (outcome : α) (s : σ) :
    (AsyncCall.settled outcome).runAlone s = (s, outcome) := rfl

@[simp] theorem runAlone_segment (f : σ → σ × AsyncCall σ α) (s : σ) :
    (segment f).runAlone s = (f s).2.runAlone (f s).1 := rfl

@[simp] theorem runAlone_hop (next : AsyncCall σ α) (s : σ) : (hop next).runAlone s = next.runAlone s := rfl

@[simp] theorem runAlone_settleWith (f : σ → α) (s : σ) : (settleWith f).runAlone s = (s, f s) := rfl

@[simp] theorem runAlone_await (call : AsyncCall σ α) (next : α → AsyncCall σ β) (s : σ) :
    (call.await next).runAlone s = (next (call.runAlone s).2).runAlone (call.runAlone s).1 := by
  induction call generalizing s with
  | settled outcome => rfl
  | suspended update rest ih => exact ih s (update s)

/-! ### The event loop -/

/-- One turn of the event loop for this call: run its next segment, if it is waiting. -/
def AsyncCall.resume : AsyncCall σ α → σ → AsyncCall σ α × σ
  | .settled outcome, s => (.settled outcome, s)
  | .suspended update next, s => (next s, update s)

def AsyncCall.isSettled : AsyncCall σ α → Bool
  | .settled _ => true
  | .suspended _ _ => false

/-- A call in flight: its promise is fulfilled with a value of some type, or rejected with an `ε`. -/
def Pending (σ ε : Type) : Type 1 := Σ β : Type, AsyncCall σ (Except ε β)

def Pending.resume (call : Pending σ ε) (s : σ) : Pending σ ε × σ :=
  (⟨call.1, (call.2.resume s).1⟩, (call.2.resume s).2)

/-- The loop resumes call `k`; an index past the calls changes nothing. -/
def resumeAt (calls : List (Pending σ ε)) (k : Nat) (s : σ) : List (Pending σ ε) × σ :=
  match calls[k]? with
  | some call => (calls.set k (call.resume s).1, (call.resume s).2)
  | none => (calls, s)

/-- The calls resumed in the order of `schedule`. -/
def interleave : List Nat → List (Pending σ ε) → σ → List (Pending σ ε) × σ
  | [], calls, s => (calls, s)
  | k :: schedule, calls, s => interleave schedule (resumeAt calls k s).1 (resumeAt calls k s).2

/-- The state after each turn of `schedule`. -/
def turns : List Nat → List (Pending σ ε) → σ → List σ
  | [], _, _ => []
  | k :: schedule, calls, s =>
    (resumeAt calls k s).2 :: turns schedule (resumeAt calls k s).1 (resumeAt calls k s).2

theorem resumeAt_getElem? (calls : List (Pending σ ε)) (k j : Nat) (s : σ) :
    (resumeAt calls k s).1[j]? = if k = j then (calls[j]?).map fun call => (call.resume s).1 else calls[j]? := by
  unfold resumeAt
  split
  · next call found =>
    rw [List.getElem?_set]
    split
    · next same => subst same; simp [found, (List.getElem?_eq_some_iff.mp found).1]
    · rfl
  · next missing =>
    split
    · next same => subst same; simp [missing]
    · rfl

theorem length_resumeAt (calls : List (Pending σ ε)) (k : Nat) (s : σ) :
    (resumeAt calls k s).1.length = calls.length := by
  unfold resumeAt
  split <;> simp

/-! ### What each segment does to the shared state

`Steps R` says that every segment of a call moves the state along `R`, and `Keeps f` that every
segment leaves the field `f` alone. The engine's `lastStartedQuery` is written by a call in its first
segment and read back by later segments of any call: `Writes f` and `Reads f` say this of one call.
The theorems after them say what each gives for any interleaving of such calls. -/

/-- Every segment of the call moves the state along `R`. -/
def AsyncCall.Steps (R : σ → σ → Prop) : AsyncCall σ α → Prop
  | .settled _ => True
  | .suspended update next => (∀ s, R s (update s)) ∧ ∀ s, (next s).Steps R

/-- Every segment of the call leaves `f` of the state alone. -/
def AsyncCall.Keeps (f : σ → γ) : AsyncCall σ α → Prop := AsyncCall.Steps fun s s' => f s' = f s

/-- The first segment sets `f` to `write`, if that is some, and no later segment touches it. -/
def AsyncCall.Writes (f : σ → γ) (write : Option γ) : AsyncCall σ α → Prop
  | .settled _ => write = none
  | .suspended update next => (∀ s, f (update s) = write.getD (f s)) ∧ ∀ s, (next s).Keeps f

/-- Whenever a segment rejects the call with an error that `tag` reads a value from, that value is
allowed by `read` or is `f` of the state after one of the segments run so far. -/
def AsyncCall.Reads (f : σ → γ) (tag : ε → Option γ) : (γ → Prop) → AsyncCall σ (Except ε β) → Prop
  | read, .settled (.error err) => ∀ b, tag err = some b → read b
  | _, .settled (.ok _) => True
  | read, .suspended update next => ∀ s, (next s).Reads f tag (fun b => read b ∨ b = f (update s))

section Steps
variable {R : σ → σ → Prop}

theorem steps_segment (g : σ → σ × AsyncCall σ α) (first : ∀ s, R s (g s).1) (rest : ∀ s, (g s).2.Steps R) :
    (segment g).Steps R :=
  ⟨first, rest⟩

theorem steps_hop (refl : ∀ s, R s s) (next : AsyncCall σ α) (rest : next.Steps R) : (hop next).Steps R :=
  ⟨refl, fun _ => rest⟩

theorem steps_settleWith (refl : ∀ s, R s s) (g : σ → α) : (settleWith g).Steps R := ⟨refl, fun _ => trivial⟩

theorem steps_await (call : AsyncCall σ α) (next : α → AsyncCall σ β) (first : call.Steps R)
    (rest : ∀ a, (next a).Steps R) : (call.await next).Steps R := by
  induction call with
  | settled outcome => exact rest outcome
  | suspended update later ih => exact ⟨first.1, fun s => ih s (first.2 s)⟩

theorem AsyncCall.Steps.imp {R' : σ → σ → Prop} (weaker : ∀ s s', R s s' → R' s s') {call : AsyncCall σ α}
    (steps : call.Steps R) : call.Steps R' := by
  induction call with
  | settled outcome => trivial
  | suspended update next ih => exact ⟨fun s => weaker _ _ (steps.1 s), fun s => ih s (steps.2 s)⟩

theorem AsyncCall.Steps.resume (refl : ∀ s, R s s) {call : AsyncCall σ α} (steps : call.Steps R) (s : σ) :
    R s (call.resume s).2 ∧ (call.resume s).1.Steps R := by
  cases call with
  | settled outcome => exact ⟨refl s, trivial⟩
  | suspended update next => exact ⟨steps.1 s, steps.2 s⟩

/-- The run lemma for a preorder every segment of every call respects: it relates the state before
any schedule to the state after it. -/
theorem steps_interleave (refl : ∀ s, R s s) (trans : ∀ a b c, R a b → R b c → R a c) (schedule : List Nat)
    (calls : List (Pending σ ε)) (s : σ) (steps : ∀ (j : Nat) (call : Pending σ ε), calls[j]? = some call → call.2.Steps R) :
    R s (interleave schedule calls s).2 := by
  induction schedule generalizing calls s with
  | nil => exact refl s
  | cons k schedule ih =>
    have step : R s (resumeAt calls k s).2 ∧
        ∀ (j : Nat) (call : Pending σ ε), (resumeAt calls k s).1[j]? = some call → call.2.Steps R := by
      unfold resumeAt
      split
      · next call found =>
        refine ⟨((steps k call found).resume refl s).1, fun j c at_j => ?_⟩
        rw [List.getElem?_set] at at_j
        split at at_j
        · next same =>
          subst same
          simp only [(List.getElem?_eq_some_iff.mp found).1, if_true, Option.some.injEq] at at_j
          exact at_j ▸ ((steps _ call found).resume refl s).2
        · exact steps j c at_j
      · exact ⟨refl s, steps⟩
    exact trans _ _ _ step.1 (ih _ _ step.2)

end Steps

section Field
variable {f : σ → γ} {tag : ε → Option γ}

theorem keeps_segment (g : σ → σ × AsyncCall σ α) (first : ∀ s, f (g s).1 = f s)
    (rest : ∀ s, (g s).2.Keeps f) : (segment g).Keeps f :=
  steps_segment g first rest

theorem keeps_hop (next : AsyncCall σ α) (rest : next.Keeps f) : (hop next).Keeps f :=
  steps_hop (R := fun s s' => f s' = f s) (fun _ => rfl) next rest

theorem keeps_settleWith (g : σ → α) : (settleWith g).Keeps f :=
  steps_settleWith (R := fun s s' => f s' = f s) (fun _ => rfl) g

theorem keeps_await (call : AsyncCall σ α) (next : α → AsyncCall σ β) (first : call.Keeps f)
    (rest : ∀ a, (next a).Keeps f) : (call.await next).Keeps f :=
  steps_await call next first rest

theorem writes_segment (g : σ → σ × AsyncCall σ α) (write : Option γ)
    (first : ∀ s, f (g s).1 = write.getD (f s)) (rest : ∀ s, (g s).2.Keeps f) :
    (segment g).Writes f write :=
  ⟨first, rest⟩

theorem AsyncCall.Keeps.writes {call : AsyncCall σ α} (keeps : call.Keeps f) : call.Writes f none := by
  cases call with
  | settled outcome => rfl
  | suspended update next => exact keeps

theorem AsyncCall.Keeps.resume {call : AsyncCall σ α} (keeps : call.Keeps f) (s : σ) :
    f (call.resume s).2 = f s ∧ (call.resume s).1.Keeps f :=
  AsyncCall.Steps.resume (R := fun s s' => f s' = f s) (fun _ => rfl) keeps s

theorem AsyncCall.Writes.resume {call : AsyncCall σ α} {write : Option γ} (writes : call.Writes f write) (s : σ) :
    f (call.resume s).2 = write.getD (f s) ∧ (call.resume s).1.Keeps f := by
  cases call with
  | settled outcome => exact ⟨by rw [show write = none from writes]; rfl, trivial⟩
  | suspended update next => exact ⟨writes.1 s, writes.2 s⟩

theorem AsyncCall.Reads.mono {read read' : γ → Prop} (weaker : ∀ b, read b → read' b) {call : AsyncCall σ (Except ε β)}
    (reads : call.Reads f tag read) : call.Reads f tag read' := by
  induction call generalizing read read' with
  | settled outcome =>
    cases outcome with
    | error err => exact fun b tagged => weaker b (reads b tagged)
    | ok value => trivial
  | suspended update next ih =>
    exact fun s => ih s (fun b => Or.imp_left (weaker b)) (reads s)

theorem AsyncCall.Reads.resume {read : γ → Prop} {call : AsyncCall σ (Except ε β)} (reads : call.Reads f tag read)
    (s : σ) : (call.resume s).1.Reads f tag (fun b => read b ∨ b = f (call.resume s).2) := by
  cases call with
  | settled outcome => exact reads.mono fun _ => Or.inl
  | suspended update next => exact reads s

theorem reads_segment {read : γ → Prop} (g : σ → σ × AsyncCall σ (Except ε β))
    (rest : ∀ s, (g s).2.Reads f tag (fun b => read b ∨ b = f (g s).1)) : (segment g).Reads f tag read :=
  rest

theorem reads_hop {read : γ → Prop} (next : AsyncCall σ (Except ε β)) (rest : next.Reads f tag read) :
    (hop next).Reads f tag read :=
  fun _ => rest.mono fun _ => Or.inl

theorem reads_settleWith {read : γ → Prop} (g : σ → Except ε β)
    (tagged : ∀ s err b, g s = .error err → tag err = some b → read b ∨ b = f s) :
    (settleWith g).Reads f tag read := by
  intro s
  show AsyncCall.Reads f tag _ (.settled (g s))
  cases found : g s with
  | error err => exact fun b named => tagged s err b found named
  | ok value => trivial

/-- Awaiting a call that reads `f`: its rejection reaches `next` with a tag that the turns so far
allow. -/
theorem reads_await {read : γ → Prop} (call : AsyncCall σ (Except ε α)) (next : Except ε α → AsyncCall σ (Except ε β))
    (first : call.Reads f tag read)
    (rest : ∀ outcome (read' : γ → Prop), (∀ b, read b → read' b) →
      (AsyncCall.settled outcome : AsyncCall σ (Except ε α)).Reads f tag read' → (next outcome).Reads f tag read') :
    (call.await next).Reads f tag read := by
  induction call generalizing read with
  | settled outcome => exact rest outcome read (fun _ => id) first
  | suspended update later ih =>
    exact fun s => ih s (first s) fun outcome read' weaker => rest outcome read' fun b => weaker b ∘ Or.inl

end Field

/-- The run lemma for a field every call keeps: no schedule changes it. -/
theorem keeps_interleave {f : σ → γ} (schedule : List Nat) (calls : List (Pending σ ε)) (s : σ)
    (keeps : ∀ (j : Nat) (call : Pending σ ε), calls[j]? = some call → call.2.Keeps f) :
    f (interleave schedule calls s).2 = f s :=
  steps_interleave (R := fun s s' => f s' = f s) (fun _ => rfl) (fun _ _ _ first second => second.trans first)
    schedule calls s keeps

/-! ### Any interleaving: the latest writer wins, and every rejection reads a turn of its own

The abstract model of the field: call `k` writes `writes[k]` in its first turn, if that is some. -/

/-- The value of the field after each turn of `schedule`, given the calls already `started`. -/
def writeTrace (writes : List (Option γ)) : List Nat → List Nat → γ → List γ
  | [], _, _ => []
  | k :: schedule, started, current =>
    let next := if k ∈ started then current else (writes[k]?.join).getD current
    next :: writeTrace writes schedule (k :: started) next

/-- The calls started so far keep the field; the others write their value in their first turn. -/
structure Started (f : σ → γ) (writes : List (Option γ)) (started : List Nat) (calls : List (Pending σ ε)) :
    Prop where
  length : writes.length = calls.length
  keeps : ∀ k call, calls[k]? = some call → k ∈ started → call.2.Keeps f
  fresh : ∀ k call, calls[k]? = some call → k ∉ started → call.2.Writes f (writes[k]?.join)

section Interleaving
variable {f : σ → γ} (writes : List (Option γ))

theorem length_writeTrace (schedule started : List Nat) (current : γ) :
    (writeTrace writes schedule started current).length = schedule.length := by
  induction schedule generalizing started current with
  | nil => rfl
  | cons k schedule ih => simp [writeTrace, ih]

theorem writeTrace_append (first later started : List Nat) (current : γ) :
    writeTrace writes (first ++ later) started current =
      writeTrace writes first started current ++
        writeTrace writes later (first.reverse ++ started) ((writeTrace writes first started current).getLastD current) := by
  induction first generalizing started current with
  | nil => rfl
  | cons k first ih =>
    rw [List.cons_append, writeTrace, writeTrace, ih, List.cons_append, List.getLastD_cons]
    simp

/-- Turns of calls that have started already, or that write nothing, leave the field as it is. -/
theorem writeTrace_quiet (schedule started : List Nat) (current : γ)
    (quiet : ∀ k ∈ schedule, k ∈ started ∨ writes[k]?.join = none) :
    ∀ value ∈ writeTrace writes schedule started current, value = current := by
  induction schedule generalizing started with
  | nil => intro _ never; cases never
  | cons k schedule ih =>
    have same : (if k ∈ started then current else (writes[k]?.join).getD current) = current := by
      by_cases old : k ∈ started
      · rw [if_pos old]
      · rw [if_neg old, (quiet k (List.mem_cons_self k schedule)).resolve_left old]
        rfl
    intro value found
    simp only [writeTrace, same, List.mem_cons] at found
    rcases found with rfl | later
    · rfl
    · refine ih (k :: started) (fun k' mem => ?_) value later
      rcases quiet k' (List.mem_cons_of_mem k mem) with old | silent
      · exact .inl (List.mem_cons_of_mem k old)
      · exact .inr silent

/-- One turn of call `k`: the field becomes what the abstract model says, and `k` now keeps it. -/
theorem started_step {started : List Nat} {calls : List (Pending σ ε)} (inv : Started f writes started calls)
    {k : Nat} {call : Pending σ ε} (found : calls[k]? = some call) (s : σ) :
    f (call.2.resume s).2 = (if k ∈ started then f s else (writes[k]?.join).getD (f s)) ∧
      (call.2.resume s).1.Keeps f := by
  by_cases old : k ∈ started
  · simpa [old] using (inv.keeps k call found old).resume s
  · simpa [old] using (inv.fresh k call found old).resume s

theorem started_resumeAt {started : List Nat} {calls : List (Pending σ ε)} (inv : Started f writes started calls)
    (k : Nat) (s : σ) :
    Started f writes (k :: started) (resumeAt calls k s).1 ∧
    f (resumeAt calls k s).2 = if k ∈ started then f s else (writes[k]?.join).getD (f s) := by
  refine ⟨⟨(length_resumeAt calls k s).symm ▸ inv.length, fun j c at_j ran => ?_, fun j c at_j fresh => ?_⟩, ?_⟩
  · rw [resumeAt_getElem?] at at_j
    split at at_j
    · next same =>
      subst same
      obtain ⟨call, found, rfl⟩ := Option.map_eq_some'.mp at_j
      exact (started_step writes inv found s).2
    · next other => exact inv.keeps j c at_j ((List.mem_cons.mp ran).resolve_left (Ne.symm other))
  · rw [resumeAt_getElem?, if_neg fun (same : k = j) => fresh (same ▸ List.mem_cons_self k started)] at at_j
    exact inv.fresh j c at_j fun ran => fresh (List.mem_cons_of_mem k ran)
  · unfold Async.resumeAt
    split
    · next call found => exact (started_step writes inv found s).1
    · next missing =>
      have unwritten : writes[k]? = none := by
        rw [List.getElem?_eq_none_iff, inv.length]
        exact List.getElem?_eq_none_iff.mp missing
      simp [unwritten]

/-- The run lemma: over any schedule the field follows the abstract model turn by turn. -/
theorem started_interleave {started : List Nat} {calls : List (Pending σ ε)} (inv : Started f writes started calls)
    (schedule : List Nat) (s : σ) :
    Started f writes (schedule.reverse ++ started) (interleave schedule calls s).1 ∧
    (turns schedule calls s).map f = writeTrace writes schedule started (f s) := by
  induction schedule generalizing started calls s with
  | nil => exact ⟨inv, rfl⟩
  | cons k schedule ih =>
    obtain ⟨inv', field⟩ := started_resumeAt writes inv k s
    obtain ⟨final, trace⟩ := ih inv' (resumeAt calls k s).2
    refine ⟨by simpa using final, ?_⟩
    simp only [turns, List.map_cons, writeTrace, trace, field]

end Interleaving

/-- Call `j` ran at turn `t` of `schedule`, and the field was `b` after that turn. -/
def RanWith (schedule : List Nat) (values : List γ) (j : Nat) (b : γ) : Prop :=
  ∃ t : Nat, schedule[t]? = some j ∧ values[t]? = some b

section Reading
variable {f : σ → γ} {tag : ε → Option γ}

theorem reads_interleave (schedule : List Nat) (calls : List (Pending σ ε)) (s : σ) (read : Nat → γ → Prop)
    (reads : ∀ (j : Nat) (call : Pending σ ε), calls[j]? = some call → call.2.Reads f tag (read j)) :
    ∀ (j : Nat) (call : Pending σ ε), (interleave schedule calls s).1[j]? = some call →
      call.2.Reads f tag (fun b => read j b ∨ RanWith schedule ((turns schedule calls s).map f) j b) := by
  induction schedule generalizing calls s read with
  | nil => exact fun j call found => (reads j call found).mono fun _ => Or.inl
  | cons k schedule ih =>
    have stepped : ∀ (j : Nat) (call : Pending σ ε), (resumeAt calls k s).1[j]? = some call →
        call.2.Reads f tag (fun b => read j b ∨ j = k ∧ b = f (resumeAt calls k s).2) := by
      intro j call at_j
      rw [resumeAt_getElem?] at at_j
      split at at_j
      · next same =>
        subst same
        obtain ⟨old, found, rfl⟩ := Option.map_eq_some'.mp at_j
        have resumed := (reads k old found).resume s
        have after : (resumeAt calls k s).2 = (old.2.resume s).2 := by simp only [resumeAt, found, Pending.resume]
        rw [after]
        exact resumed.mono fun b => Or.imp_right fun named => ⟨rfl, named⟩
      · exact (reads j call at_j).mono fun _ => Or.inl
    intro j call found
    refine (ih _ _ _ stepped j call found).mono fun b => ?_
    rintro ((earlier | ⟨rfl, rfl⟩) | ⟨t, at_t, value⟩)
    · exact .inl earlier
    · exact .inr ⟨0, by simp, by simp [turns]⟩
    · exact .inr ⟨t + 1, by simpa using at_t, by simpa [turns] using value⟩

end Reading

/-! ### What each call's own turns add to a measure

A `measure` of the state that no segment of any call lowers, such as the number of committed
transactions. `Banks` follows the part of the measure that a call's own segments have added, from
states where `Inv` holds. A call whose promise is fulfilled only once its own segments have added at
least one is counted by the run lemma: no schedule fulfils more such calls than the measure has
grown, so each success they report is a unit of the measure of its own, shared with no other call.
With a measure that stays at zero, the same invariant follows what one call settles with. -/

/-- Whatever states the call's segments run from, where `Inv` holds, `Q` holds of its outcome and of
`earned` plus what its own segments have added to `measure`. -/
def AsyncCall.Banks (Inv : σ → Prop) (measure : σ → Nat) (Q : α → Nat → Prop) : Nat → AsyncCall σ α → Prop
  | earned, .settled outcome => Q outcome earned
  | earned, .suspended update next =>
    ∀ s, Inv s → (next s).Banks Inv measure Q (earned + (measure (update s) - measure s))

/-- A fulfilled promise has earned at least one. -/
def Succeeded : Except ε β → Nat → Prop
  | .ok _, earned => 1 ≤ earned
  | .error _, _ => True

/-- The call has settled, and its promise is fulfilled. -/
def Pending.fulfilled (call : Pending σ ε) : Bool :=
  match call.2 with
  | .settled (.ok _) => true
  | _ => false

/-- What every segment of every call must do: keep `Inv` and not lower the measure. -/
def Grows (Inv : σ → Prop) (measure : σ → Nat) (s s' : σ) : Prop := Inv s → Inv s' ∧ measure s ≤ measure s'

section Measure
variable {Inv : σ → Prop} {measure : σ → Nat} {Q : α → Nat → Prop} {n : Nat}

theorem grows_refl (s : σ) : Grows Inv measure s s := fun inv => ⟨inv, le_rfl⟩

theorem succeeded_mono (outcome : Except ε β) (m n : Nat) (le : m ≤ n) (earned : Succeeded outcome m) :
    Succeeded outcome n := by
  cases outcome with
  | ok value => exact Nat.le_trans earned le
  | error err => trivial

theorem AsyncCall.Banks.mono (up : ∀ a m n, m ≤ n → Q a m → Q a n) {call : AsyncCall σ α} {m : Nat}
    (banks : call.Banks Inv measure Q m) (le : m ≤ n) : call.Banks Inv measure Q n := by
  induction call generalizing m n with
  | settled outcome => exact up outcome m n le banks
  | suspended update next ih => exact fun s inv => ih s (banks s inv) (Nat.add_le_add_right le _)

/-- A segment that adds nothing the caller needs: the rest is banked from where it starts. -/
theorem banks_segment (up : ∀ a m n, m ≤ n → Q a m → Q a n) (g : σ → σ × AsyncCall σ α)
    (rest : ∀ s, Inv s → (g s).2.Banks Inv measure Q n) : (segment g).Banks Inv measure Q n :=
  fun s inv => (rest s inv).mono up (Nat.le_add_right _ _)

theorem banks_hop (next : AsyncCall σ α) (rest : next.Banks Inv measure Q n) : (hop next).Banks Inv measure Q n :=
  fun s _ => by simpa only [id, Nat.sub_self, Nat.add_zero] using rest

theorem banks_settleWith (g : σ → α) (settles : ∀ s, Inv s → Q (g s) n) : (settleWith g).Banks Inv measure Q n :=
  fun s inv => by simpa only [id, Nat.sub_self, Nat.add_zero] using settles s inv

theorem banks_await (call : AsyncCall σ α) (next : α → AsyncCall σ β) {Q : β → Nat → Prop}
    (first : call.Banks Inv measure (fun a earned => (next a).Banks Inv measure Q earned) n) :
    (call.await next).Banks Inv measure Q n := by
  induction call generalizing n with
  | settled outcome => exact first
  | suspended update later ih => exact fun s inv => ih s (first s inv)

theorem AsyncCall.Banks.resume {call : AsyncCall σ α} (banks : call.Banks Inv measure Q n) {s : σ} (inv : Inv s) :
    (call.resume s).1.Banks Inv measure Q (n + (measure (call.resume s).2 - measure s)) := by
  cases call with
  | settled outcome => simpa only [AsyncCall.resume, Nat.sub_self, Nat.add_zero] using banks
  | suspended update next => exact banks s inv

/-- A fulfilled call that banked `n` has earned at least one. -/
theorem Pending.fulfilled_earned {call : Pending σ ε} (fulfilled : call.fulfilled = true)
    (banks : call.2.Banks Inv measure Succeeded n) : 1 ≤ n := by
  obtain ⟨β, _ | _⟩ := call
  case settled outcome =>
    cases outcome with
    | ok value => exact banks
    | error err => cases fulfilled
  case suspended => cases fulfilled

/-- What the calls have earned together. -/
def total (earned : List Nat) : Nat := earned.foldr (· + ·) 0

@[simp] theorem total_nil : total [] = 0 := rfl

@[simp] theorem total_cons (m : Nat) (earned : List Nat) : total (m :: earned) = m + total earned := rfl

@[simp] theorem total_replicate_zero (n : Nat) : total (List.replicate n 0) = 0 := by
  induction n <;> simp_all [List.replicate_succ]

theorem total_set_add (earned : List Nat) (k m g : Nat) (found : earned[k]? = some m) :
    total (earned.set k (m + g)) = total earned + g := by
  induction earned generalizing k with
  | nil => cases found
  | cons e rest ih =>
    cases k with
    | zero =>
      obtain rfl : e = m := by simpa using found
      simp only [List.set_cons_zero, total_cons]
      omega
    | succ k =>
      simp only [List.set_cons_succ, total_cons, ih k (by simpa using found)]
      omega

/-- The fulfilled calls that count are no more than what the calls have earned. -/
theorem countP_fulfilled_le {L : Type} (counted : L → Bool) (labels : List L) (calls : List (Pending σ ε))
    (earned : List Nat) (length : earned.length = calls.length)
    (banks : ∀ (j : Nat) (label : L) (call : Pending σ ε) (n : Nat), labels[j]? = some label → counted label = true → calls[j]? = some call →
      earned[j]? = some n → call.2.Banks Inv measure Succeeded n) :
    ((labels.zip calls).countP fun p => counted p.1 && p.2.fulfilled) ≤ total earned := by
  induction labels generalizing calls earned with
  | nil => simp
  | cons label labels ih =>
    cases calls with
    | nil => simp
    | cons call calls =>
      cases earned with
      | nil => cases length
      | cons m earned =>
        have rest := ih calls earned (by simpa using length) fun j label' call' n named counts at_j earned_j =>
          banks (j + 1) label' call' n (by simpa using named) counts (by simpa using at_j) (by simpa using earned_j)
        simp only [List.zip_cons_cons, List.countP_cons, total_cons]
        by_cases counts : counted label && call.fulfilled
        · obtain ⟨counted_label, fulfilled⟩ := Bool.and_eq_true_iff.mp counts
          have first := call.fulfilled_earned fulfilled (banks 0 label call m (by simp) counted_label (by simp) (by simp))
          simp only [counts, if_true]
          omega
        · simp [counts]
          omega

/-- The invariant of the run: `earned[j]` is what call `j`'s own segments have added so far, and a
call that counts settles only as `P` allows. -/
structure Banked {L : Type} (Inv : σ → Prop) (measure : σ → Nat) (P : ∀ {β : Type}, Except ε β → Nat → Prop)
    (counted : L → Bool) (labels : List L) (base : Nat) (calls : List (Pending σ ε)) (s : σ) (earned : List Nat) :
    Prop where
  inv : Inv s
  length : earned.length = calls.length
  grown : base + total earned ≤ measure s
  grows : ∀ (j : Nat) (call : Pending σ ε), calls[j]? = some call → call.2.Steps (Grows Inv measure)
  banks : ∀ (j : Nat) (label : L) (call : Pending σ ε) (n : Nat), labels[j]? = some label → counted label = true → calls[j]? = some call →
    earned[j]? = some n → call.2.Banks Inv measure P n

theorem banked_resumeAt {L : Type} {P : ∀ {β : Type}, Except ε β → Nat → Prop} {counted : L → Bool} {labels : List L}
    {base : Nat} {calls : List (Pending σ ε)} {s : σ} {earned : List Nat}
    (banked : Banked Inv measure P counted labels base calls s earned) (k : Nat) :
    ∃ earned', Banked Inv measure P counted labels base (resumeAt calls k s).1 (resumeAt calls k s).2 earned' := by
  cases found : calls[k]? with
  | none =>
    simp only [resumeAt, found]
    exact ⟨earned, banked⟩
  | some call =>
    obtain ⟨m, at_k⟩ : ∃ m, earned[k]? = some m := by
      have : k < earned.length := banked.length ▸ (List.getElem?_eq_some_iff.mp found).1
      exact ⟨_, List.getElem?_eq_getElem this⟩
    have state : (resumeAt calls k s).2 = (call.2.resume s).2 := by simp only [resumeAt, found, Pending.resume]
    have stepped := (banked.grows k call found).resume grows_refl s
    have grew := stepped.1 banked.inv
    refine ⟨earned.set k (m + (measure (call.2.resume s).2 - measure s)),
      ⟨state ▸ grew.1, by simp [length_resumeAt, banked.length], ?_, fun j c at_j => ?_, fun j label c n named counts at_j earned_j => ?_⟩⟩
    · rw [state, total_set_add earned k m _ at_k]
      have := banked.grown
      omega
    · rw [resumeAt_getElem?] at at_j
      split at at_j
      · next same =>
        subst same
        obtain ⟨old, found', rfl⟩ := Option.map_eq_some'.mp at_j
        obtain rfl : old = call := by simpa [found] using found'.symm
        exact stepped.2
      · exact banked.grows j c at_j
    · rw [resumeAt_getElem?] at at_j
      rw [List.getElem?_set] at earned_j
      split at at_j
      · next same =>
        subst same
        obtain ⟨old, found', rfl⟩ := Option.map_eq_some'.mp at_j
        obtain rfl : old = call := by simpa [found] using found'.symm
        simp only [if_true, (List.getElem?_eq_some_iff.mp at_k).1, Option.some.injEq] at earned_j
        subst earned_j
        exact (banked.banks k label _ m named counts found at_k).resume banked.inv
      · next other =>
        rw [if_neg other] at earned_j
        exact banked.banks j label c n named counts at_j earned_j

theorem Banked.interleave {L : Type} {P : ∀ {β : Type}, Except ε β → Nat → Prop} {counted : L → Bool} {labels : List L}
    {base : Nat} (schedule : List Nat) {calls : List (Pending σ ε)} {s : σ} {earned : List Nat}
    (banked : Banked Inv measure P counted labels base calls s earned) :
    ∃ earned', Banked Inv measure P counted labels base (interleave schedule calls s).1 (interleave schedule calls s).2
      earned' := by
  induction schedule generalizing calls s earned with
  | nil => exact ⟨earned, banked⟩
  | cons k schedule ih =>
    obtain ⟨earned', banked'⟩ := banked_resumeAt banked k
    exact ih banked'

/-- The run lemma for a measure no segment lowers: under any schedule, the calls that count and have
been fulfilled number no more than what the measure has grown by. -/
theorem banked_interleave {L : Type} (counted : L → Bool) (labels : List L) (schedule : List Nat)
    (calls : List (Pending σ ε)) (s : σ) (inv : Inv s)
    (grows : ∀ (j : Nat) (call : Pending σ ε), calls[j]? = some call → call.2.Steps (Grows Inv measure))
    (earns : ∀ (j : Nat) (label : L) (call : Pending σ ε), labels[j]? = some label → counted label = true → calls[j]? = some call →
      call.2.Banks Inv measure Succeeded 0) :
    measure s + ((labels.zip (interleave schedule calls s).1).countP fun p => counted p.1 && p.2.fulfilled) ≤
      measure (interleave schedule calls s).2 := by
  have start : Banked Inv measure Succeeded counted labels (measure s) calls s (List.replicate calls.length 0) :=
    ⟨inv, List.length_replicate _ _, by simp, grows, fun j label call n named counts at_j earned_j => by
      obtain rfl : n = 0 := List.eq_of_mem_replicate (List.getElem?_mem earned_j)
      exact earns j label call named counts at_j⟩
  obtain ⟨earned, final⟩ := start.interleave schedule
  have counted_le := countP_fulfilled_le counted labels _ earned final.length final.banks
  have := final.grown
  omega

/-- The run lemma for what one call settles with: when no segment of any call breaks `Inv`, a call
whose segments, from states where `Inv` holds, settle only as `Q` allows settles so under any
schedule. -/
theorem settles_interleave (schedule : List Nat) (calls : List (Pending σ ε)) (s : σ) (inv : Inv s)
    (keeps : ∀ (k : Nat) (call : Pending σ ε), calls[k]? = some call → call.2.Steps fun s s' => Inv s → Inv s')
    (j : Nat) (call : Pending σ ε) (found : calls[j]? = some call) {Q : ∀ {β : Type}, Except ε β → Prop}
    (settles : call.2.Banks Inv (fun _ => 0) (fun outcome _ => Q outcome) 0) {β : Type} (outcome : Except ε β)
    (settled : (interleave schedule calls s).1[j]? = some ⟨β, .settled outcome⟩) : Q outcome := by
  have start : Banked Inv (fun _ => 0) (fun outcome _ => Q outcome) (· == j) (List.range calls.length) 0 calls s
      (List.replicate calls.length 0) :=
    ⟨inv, List.length_replicate _ _, by simp, fun k c at_k => (keeps k c at_k).imp fun _ _ kept inv => ⟨kept inv, le_rfl⟩,
      fun k label c n named counts at_k earned_k => by
        obtain rfl : label = j := beq_iff_eq.mp counts
        have within : k < calls.length := by simpa using (List.getElem?_eq_some_iff.mp named).1
        rw [List.getElem?_range within, Option.some.injEq] at named
        subst named
        rw [found, Option.some.injEq] at at_k
        subst at_k
        obtain rfl : n = 0 := List.eq_of_mem_replicate (List.getElem?_mem earned_k)
        exact settles⟩
  obtain ⟨earned, final⟩ := start.interleave schedule
  have within : j < earned.length := final.length ▸ (List.getElem?_eq_some_iff.mp settled).1
  exact final.banks j j _ _ (List.getElem?_range (List.getElem?_eq_some_iff.mp found).1) (beq_self_eq_true j) settled
    (List.getElem?_eq_getElem within)

end Measure

end Prisma.ClientEngine.Async
