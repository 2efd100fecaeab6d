import Prisma.ClientEngine.Errors
import Mathlib.Logic.Function.Basic

/-! The panic registry of `ClientEngine.ts`. The WASM compiler reports a panic by calling
`PRISMA_WASM_PANIC_REGISTRY.set_message`; `#withLocalPanicHandler` puts its own handler there for
the length of one synchronous call and puts the previous one back in a `finally`. -/

namespace Prisma.ClientEngine.PanicHandler
open Errors

/-- What `set_message` holds: the fallback handler installed when the module loads, which reports
the `version` of the client's `package.json`, or the closure of one `#withLocalPanicHandler` call,
by the number of that call. -/
inductive Handler where
  | fallback (clientVersion : String)
  | localHandler (call : Nat)
  deriving DecidableEq

structure PanicRegistry where
  setMessage : Handler
  /-- The `panic` variable of every `#withLocalPanicHandler` call made so far. -/
  panics : Nat → Option String
  calls : Nat

/-- A synchronous callback as the registry sees it: it returns, throws, reports a panic message
through `set_message`, or calls `#withLocalPanicHandler` and goes on with its outcome. -/
inductive Callback (α : Type) where
  | ret (value : α)
  | throw (err : Thrown)
  | report (message : String) (next : Callback α)
  | nest (inner : Callback α) (next : Except Thrown α → Callback α)

variable {α : Type} (config : EngineConfig) (lastStartedQuery : Option String)

/-- The `if (panic)` of the `finally`: an empty message is as falsy as none. -/
def panicOutcome : Option String → Except Thrown α → Except Thrown α
  | some panic, outcome =>
    if panic = "" then outcome
    else .error (.rustPanicError (getErrorMessageWithLink config lastStartedQuery panic) config.clientVersion)
  | none, outcome => outcome

def withLocalPanicHandler (fn : PanicRegistry → PanicRegistry × Except Thrown α)
    (registry : PanicRegistry) : PanicRegistry × Except Thrown α :=
  let previousHandler := registry.setMessage
  let call := registry.calls
  let (registry, outcome) := fn
    { setMessage := .localHandler call
      panics := Function.update registry.panics call none
      calls := call + 1 }
  ({ registry with setMessage := previousHandler },
    panicOutcome config lastStartedQuery (registry.panics call) outcome)

/-- Running a callback against the registry. The fallback handler throws at once, with no report and
the package's version rather than the engine's. -/
def Callback.exec : Callback α → PanicRegistry → PanicRegistry × Except Thrown α
  | .ret value, registry => (registry, .ok value)
  | .throw err, registry => (registry, .error err)
  | .report message next, registry =>
    match registry.setMessage with
    | .fallback clientVersion => (registry, .error (.rustPanicError (.text message) clientVersion))
    | .localHandler call =>
      next.exec { registry with panics := Function.update registry.panics call (some message) }
  | .nest inner next, registry =>
    let (registry, outcome) := withLocalPanicHandler config lastStartedQuery (inner.exec) registry
    (next outcome).exec registry

/-- The same callback with the panic passed on as a value rather than through global state: the
last message it reported itself, and its outcome. -/
def Callback.run : Callback α → Option String × Except Thrown α
  | .ret value => (none, .ok value)
  | .throw err => (none, .error err)
  | .report message next => ((next.run).1 <|> some message, (next.run).2)
  | .nest inner next => (next (panicOutcome config lastStartedQuery inner.run.1 inner.run.2)).run

theorem exec_nest (inner : Callback α) (next : Except Thrown α → Callback α) (registry : PanicRegistry) :
    (Callback.nest inner next).exec config lastStartedQuery registry =
      let called := withLocalPanicHandler config lastStartedQuery (inner.exec config lastStartedQuery) registry
      (next called.2).exec config lastStartedQuery called.1 := rfl

/-- Whatever the callback does, `set_message` ends as it began: a nested call puts back what it
found. -/
theorem exec_setMessage (cb : Callback α) (registry : PanicRegistry) :
    (cb.exec config lastStartedQuery registry).1.setMessage = registry.setMessage := by
  induction cb generalizing registry with
  | ret value => rfl
  | throw err => rfl
  | report message next ih =>
    simp only [Callback.exec]
    split
    · rfl
    · exact ih _
  | nest inner next _ ih => exact ih _ _

/-! ### The registry is restored and the panic is passed on -/

/-- What running under the handler of call `call` may change: that call's own `panic` and the
variables of the calls made since. -/
structure Framed (call : Nat) (before after : PanicRegistry) : Prop where
  setMessage : after.setMessage = before.setMessage
  calls : before.calls ≤ after.calls
  others : ∀ g < before.calls, g ≠ call → after.panics g = before.panics g

theorem Framed.refl (call : Nat) (registry : PanicRegistry) : Framed call registry registry :=
  ⟨rfl, le_rfl, fun _ _ _ => rfl⟩

theorem Framed.trans {call : Nat} {a b c : PanicRegistry} (first : Framed call a b)
    (second : Framed call b c) : Framed call a c :=
  ⟨second.setMessage.trans first.setMessage, first.calls.trans second.calls, fun g below other =>
    (second.others g (lt_of_lt_of_le below first.calls) other).trans (first.others g below other)⟩

/-- A change that leaves every call before `before.calls` alone is framed for any of them. -/
theorem Framed.widen {before after : PanicRegistry} (framed : Framed before.calls before after)
    (other : Nat) : Framed other before after :=
  ⟨framed.setMessage, framed.calls, fun g below _ => framed.others g below (Nat.ne_of_lt below)⟩

/-- Running `cb` under the handler of `call`: its outcome is that of `Callback.run`, and the last
message it reports itself lands in the `panic` of `call`. -/
def ExecSpec (cb : Callback α) : Prop :=
  ∀ registry call, registry.setMessage = .localHandler call → call < registry.calls →
    Framed call registry (cb.exec config lastStartedQuery registry).1 ∧
    (cb.exec config lastStartedQuery registry).2 = (cb.run config lastStartedQuery).2 ∧
    (cb.exec config lastStartedQuery registry).1.panics call =
      ((cb.run config lastStartedQuery).1 <|> registry.panics call)

theorem withLocalPanicHandler_of_execSpec (cb : Callback α) (spec : ExecSpec config lastStartedQuery cb)
    (registry : PanicRegistry) :
    Framed registry.calls registry
      (withLocalPanicHandler config lastStartedQuery (cb.exec config lastStartedQuery) registry).1 ∧
    (withLocalPanicHandler config lastStartedQuery (cb.exec config lastStartedQuery) registry).2 =
      panicOutcome config lastStartedQuery (cb.run config lastStartedQuery).1 (cb.run config lastStartedQuery).2 := by
  obtain ⟨framed, outcome, panic⟩ := spec
    { setMessage := .localHandler registry.calls
      panics := Function.update registry.panics registry.calls none
      calls := registry.calls + 1 } registry.calls rfl (Nat.lt_succ_self _)
  refine ⟨⟨rfl, (Nat.le_succ _).trans framed.calls, fun g below other => ?_⟩, ?_⟩
  · simpa [withLocalPanicHandler, Function.update_noteq other] using
      framed.others g (Nat.lt_succ_of_lt below) other
  · simp only [withLocalPanicHandler, panic, outcome, Function.update_same, Option.orElse_none]

theorem exec_spec (cb : Callback α) : ExecSpec config lastStartedQuery cb := by
  induction cb with
  | ret value => exact fun registry call _ _ => ⟨.refl call registry, rfl, by simp [Callback.run, Callback.exec]⟩
  | throw err => exact fun registry call _ _ => ⟨.refl call registry, rfl, by simp [Callback.run, Callback.exec]⟩
  | report message next ih =>
    rintro ⟨setMessage, panics, calls⟩ call installed fresh
    subst installed
    obtain ⟨framed, outcome, panic⟩ :=
      ih ⟨.localHandler call, Function.update panics call (some message), calls⟩ call rfl fresh
    have reported : Framed call ⟨.localHandler call, panics, calls⟩
        ⟨.localHandler call, Function.update panics call (some message), calls⟩ :=
      ⟨rfl, le_rfl, fun g _ other => Function.update_noteq other _ _⟩
    refine ⟨reported.trans framed, outcome, ?_⟩
    simp only [Callback.exec, Callback.run, panic, Function.update_same]
    cases (next.run config lastStartedQuery).1 <;> rfl
  | nest inner next innerSpec nextSpec =>
    intro registry call installed fresh
    obtain ⟨framed, outcome⟩ := withLocalPanicHandler_of_execSpec config lastStartedQuery inner innerSpec registry
    obtain ⟨framedNext, outcomeNext, panicNext⟩ := nextSpec _ _ call (framed.setMessage.trans installed)
      (lt_of_lt_of_le fresh framed.calls)
    simp only [exec_nest, Callback.run, ← outcome]
    refine ⟨(framed.widen call).trans framedNext, outcomeNext, ?_⟩
    rw [panicNext, framed.others call fresh (Nat.ne_of_lt fresh)]

end Prisma.ClientEngine.PanicHandler
