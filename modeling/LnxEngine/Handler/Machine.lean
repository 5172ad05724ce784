import Mathlib.Data.List.Basic
import Mathlib.Algebra.Group.Nat.Basic

/-!
# The reader handler as a concurrent system

The limiter, the executor pool, the rayon pool and every `get_doc`, `search` and `shutdown`
future of `IndexReaderHandler`; an event is one atomic action and a run is any interleaving.
-/

namespace LnxEngine
namespace Handler

/-- `max_concurrency`, which sizes the limiter and both pools, and whether `_id` is declared. -/
structure Config where
  /-- `max_concurrency`. -/
  maxConcurrency : Nat
  /-- Whether `schema.get_field("_id")` finds the field. -/
  hasIdField : Bool
  deriving DecidableEq, Repr

/-- The permits `shutdown` asks for: `self.max_concurrency as u32`. -/
def Config.shutdownPermits (config : Config) : Nat :=
  config.maxConcurrency % 2 ^ 32

/-- The two operations that take a permit. -/
inductive Operation where
  | getDoc
  | search
  deriving DecidableEq, Repr

/-- Where a `get_doc` or `search` future stands. -/
inductive CallPhase where
  /-- Suspended in `limiter.acquire().await`. -/
  | acquiring
  /-- A `search` holding `_permit`, before its `_id` check. -/
  | admitted
  /-- Holding `_permit`, about to call `executor_pool.acquire()`. -/
  | checkout
  /-- A `get_doc` holding `_permit` and an executor, before its `_id` check. -/
  | leased
  /-- Holding `_permit` and an executor, about to spawn its closure. -/
  | ready
  /-- Suspended in `waiter.await`; the closure owns the executor. -/
  | waiting
  /-- Completed, with a result or an error; `_permit` is dropped. -/
  | returned
  /-- Dropped by its caller at an await point. -/
  | dropped
  deriving DecidableEq, Repr

/-- Where the closure spawned by a call stands. -/
inductive WorkerPhase where
  /-- Not spawned. -/
  | unspawned
  /-- Spawned on `thread_pool`, waiting for a thread. -/
  | queued
  /-- On a thread, before `resolve.send`. -/
  | running
  /-- Result sent; still on its thread and owning the executor until it returns. -/
  | sent
  /-- Returned: the executor is dropped and the thread is free. -/
  | finished
  deriving DecidableEq, Repr

/-- One `get_doc` or `search` call: its future and its closure. -/
structure Call where
  /-- Which operation was called. -/
  operation : Operation
  /-- Where the future stands. -/
  phase : CallPhase
  /-- Where the spawned closure stands. -/
  worker : WorkerPhase
  deriving DecidableEq, Repr

/-- Where the `shutdown` future stands. -/
inductive ShutdownPhase where
  /-- Not called. -/
  | idle
  /-- Suspended in `limiter.acquire_many(..).await`. -/
  | acquiring
  /-- `acquire_many` completed; the permits are held by the `let _` temporary. -/
  | holding
  /-- The temporary was dropped at the end of its statement: the permits are back. -/
  | released
  /-- `limiter.close()` ran. -/
  | gateClosed
  /-- Returned, after `executor_pool.shutdown()` or with an error. -/
  | finished
  /-- Dropped while acquiring. -/
  | dropped
  deriving DecidableEq, Repr

/-- The handler's shared objects. -/
structure Shared where
  /-- Permits the limiter can still hand out. -/
  available : Nat
  /-- Whether `limiter.close()` has run. -/
  closed : Bool
  /-- Executor contexts checked out of `executor_pool`. -/
  leased : Nat
  /-- Threads of `thread_pool` running a closure. -/
  busy : Nat
  /-- Whether `executor_pool.shutdown()` has run. -/
  executorsShutdown : Bool
  deriving DecidableEq, Repr

/-- A state of the handler and of every call made on it. -/
structure State where
  /-- The shared objects. -/
  shared : Shared
  /-- Every call, in the order the calls were made. -/
  calls : List Call
  /-- The one `shutdown` call. -/
  shutdown : ShutdownPhase
  deriving DecidableEq, Repr

/-- The state right after `IndexReaderHandler::create`. -/
def initial (config : Config) : State :=
  ⟨⟨config.maxConcurrency, false, 0, 0, false⟩, [], .idle⟩

/-- One atomic action of a call's future or of its closure. -/
inductive Action where
  /-- The limiter hands the future a permit. -/
  | grant
  /-- The limiter is closed: `acquire` fails. -/
  | reject
  /-- The caller drops the future at an await point. -/
  | drop
  /-- `schema.get_field("_id")`. -/
  | checkField
  /-- `executor_pool.acquire()` checks a context out. -/
  | lease
  /-- `executor_pool.acquire()` fails. -/
  | leaseFail
  /-- `thread_pool.spawn`. -/
  | spawn
  /-- A pool thread picks the closure up. -/
  | start
  /-- The closure sends its result. -/
  | send
  /-- The closure returns, dropping its executor. -/
  | exit
  /-- The future receives the result and returns. -/
  | receive
  deriving DecidableEq, Repr

/-- One atomic action of `shutdown`. -/
inductive ShutdownAction where
  | call
  | grant
  | reject
  | drop
  | release
  | close
  | teardown
  deriving DecidableEq, Repr

/-- An event of a run. -/
inductive Event where
  /-- A new `get_doc` or `search` call. -/
  | call (operation : Operation)
  /-- An action of the call at an index. -/
  | act (index : Nat) (action : Action)
  /-- An action of `shutdown`. -/
  | shutdown (action : ShutdownAction)
  deriving DecidableEq, Repr

/-! ## Ownership -/

/-- The permits a future in a phase owns: `_permit` lives from the grant to the return. -/
def CallPhase.permits : CallPhase → Nat
  | .admitted | .checkout | .leased | .ready | .waiting => 1
  | _ => 0

/-- The executors a future owns, until it moves its executor into the closure. -/
def CallPhase.executors : CallPhase → Nat
  | .leased | .ready => 1
  | _ => 0

/-- The phases before the spawn. -/
def CallPhase.beforeSpawn : CallPhase → Bool
  | .acquiring | .admitted | .checkout | .leased | .ready => true
  | _ => false

/-- A closure that is queued or running, and so owns an executor. -/
def WorkerPhase.alive : WorkerPhase → Bool
  | .queued | .running | .sent => true
  | _ => false

/-- The executors a closure owns. -/
def WorkerPhase.executors (worker : WorkerPhase) : Nat := if worker.alive then 1 else 0

/-- The pool threads a closure occupies. -/
def WorkerPhase.threads : WorkerPhase → Nat
  | .running | .sent => 1
  | _ => 0

/-- The phase a call enters with its permit. -/
def Operation.granted : Operation → CallPhase
  | .getDoc => .checkout
  | .search => .admitted

/-- The phase in which a call runs `schema.get_field("_id")`. -/
def Operation.checking : Operation → CallPhase
  | .getDoc => .leased
  | .search => .admitted

/-- The phase a call enters when `_id` is found. -/
def Operation.checked : Operation → CallPhase
  | .getDoc => .ready
  | .search => .checkout

/-- The phase a call enters with its executor. -/
def Operation.leased : Operation → CallPhase
  | .getDoc => .leased
  | .search => .ready

namespace Call

/-- The permits a call owns. -/
def permits (call : Call) : Nat := call.phase.permits

/-- The executors a call owns, through its future or its closure. -/
def leases (call : Call) : Nat := call.phase.executors + call.worker.executors

/-- The pool threads a call's closure occupies. -/
def threads (call : Call) : Nat := call.worker.threads

/-- A closure that outlived its caller's wait: alive while the future no longer waits. -/
def orphans (call : Call) : Nat := if call.phase = .waiting then 0 else call.worker.executors

/-- No closure exists before its call spawned one. -/
def WellFormed (call : Call) : Prop := call.phase.beforeSpawn → call.worker = .unspawned

/-- A call just made. -/
def fresh (operation : Operation) : Call := ⟨operation, .acquiring, .unspawned⟩

end Call

/-- The permits the `shutdown` future owns. -/
def ShutdownPhase.permits (config : Config) : ShutdownPhase → Nat
  | .holding => config.shutdownPermits
  | _ => 0

/-- The shared objects once a future in a phase drops `_permit` and any executor it owns. -/
def Shared.relinquish (shared : Shared) (phase : CallPhase) : Shared :=
  { shared with available := shared.available + phase.permits,
                leased := shared.leased - phase.executors }

/-! ## Steps -/

namespace Call

/-- One action of a call, or `none` where it is not enabled. -/
def advance (config : Config) (shared : Shared) (call : Call) :
    Action → Option (Shared × Call)
  | .grant =>
      if call.phase = .acquiring ∧ shared.closed = false ∧ 0 < shared.available then
        some ({ shared with available := shared.available - 1 },
          { call with phase := call.operation.granted })
      else none
  | .reject =>
      if call.phase = .acquiring ∧ shared.closed = true then
        some (shared, { call with phase := .returned })
      else none
  | .drop =>
      if call.phase = .acquiring ∨ call.phase = .waiting then
        some (shared.relinquish call.phase, { call with phase := .dropped })
      else none
  | .checkField =>
      if call.phase = call.operation.checking then
        if config.hasIdField then some (shared, { call with phase := call.operation.checked })
        else some (shared.relinquish call.phase, { call with phase := .returned })
      else none
  | .lease =>
      if call.phase = .checkout ∧ shared.leased < config.maxConcurrency then
        some ({ shared with leased := shared.leased + 1 },
          { call with phase := call.operation.leased })
      else none
  | .leaseFail =>
      if call.phase = .checkout ∧ config.maxConcurrency ≤ shared.leased then
        some (shared.relinquish call.phase, { call with phase := .returned })
      else none
  | .spawn =>
      if call.phase = .ready then some (shared, { call with phase := .waiting, worker := .queued })
      else none
  | .start =>
      if call.worker = .queued ∧ shared.busy < config.maxConcurrency then
        some ({ shared with busy := shared.busy + 1 }, { call with worker := .running })
      else none
  | .send =>
      if call.worker = .running then some (shared, { call with worker := .sent }) else none
  | .exit =>
      if call.worker = .sent then
        some ({ shared with leased := shared.leased - 1, busy := shared.busy - 1 },
          { call with worker := .finished })
      else none
  | .receive =>
      if call.phase = .waiting ∧ (call.worker = .sent ∨ call.worker = .finished) then
        some (shared.relinquish call.phase, { call with phase := .returned })
      else none

/-- `advance` as a relation: each enabled action with its guard and its effect. -/
inductive Advances (config : Config) : Shared → Call → Action → Shared → Call → Prop where
  | grant {shared : Shared} {call : Call} (waiting : call.phase = .acquiring)
      (gateOpen : shared.closed = false) (free : 0 < shared.available) :
      Advances config shared call .grant { shared with available := shared.available - 1 }
        { call with phase := call.operation.granted }
  | reject {shared : Shared} {call : Call} (waiting : call.phase = .acquiring)
      (gateClosed : shared.closed = true) :
      Advances config shared call .reject shared { call with phase := .returned }
  | drop {shared : Shared} {call : Call} (suspended : call.phase = .acquiring ∨ call.phase = .waiting) :
      Advances config shared call .drop (shared.relinquish call.phase) { call with phase := .dropped }
  | checkField {shared : Shared} {call : Call} (checking : call.phase = call.operation.checking)
      (hasId : config.hasIdField = true) :
      Advances config shared call .checkField shared { call with phase := call.operation.checked }
  | missingField {shared : Shared} {call : Call} (checking : call.phase = call.operation.checking)
      (noId : config.hasIdField = false) :
      Advances config shared call .checkField (shared.relinquish call.phase)
        { call with phase := .returned }
  | lease {shared : Shared} {call : Call} (checkout : call.phase = .checkout)
      (free : shared.leased < config.maxConcurrency) :
      Advances config shared call .lease { shared with leased := shared.leased + 1 }
        { call with phase := call.operation.leased }
  | leaseFail {shared : Shared} {call : Call} (checkout : call.phase = .checkout)
      (exhausted : config.maxConcurrency ≤ shared.leased) :
      Advances config shared call .leaseFail (shared.relinquish call.phase)
        { call with phase := .returned }
  | spawn {shared : Shared} {call : Call} (ready : call.phase = .ready) :
      Advances config shared call .spawn shared { call with phase := .waiting, worker := .queued }
  | start {shared : Shared} {call : Call} (queued : call.worker = .queued)
      (idle : shared.busy < config.maxConcurrency) :
      Advances config shared call .start { shared with busy := shared.busy + 1 }
        { call with worker := .running }
  | send {shared : Shared} {call : Call} (running : call.worker = .running) :
      Advances config shared call .send shared { call with worker := .sent }
  | exit {shared : Shared} {call : Call} (sent : call.worker = .sent) :
      Advances config shared call .exit
        { shared with leased := shared.leased - 1, busy := shared.busy - 1 }
        { call with worker := .finished }
  | receive {shared : Shared} {call : Call} (waiting : call.phase = .waiting)
      (delivered : call.worker = .sent ∨ call.worker = .finished) :
      Advances config shared call .receive (shared.relinquish call.phase)
        { call with phase := .returned }

theorem advances_of_advance {config : Config} {shared shared' : Shared} {call call' : Call}
    {action : Action} (advanced : call.advance config shared action = some (shared', call')) :
    Advances config shared call action shared' call' := by
  cases action <;> simp only [advance] at advanced <;> split_ifs at advanced with enabled <;>
    simp only [Option.some.injEq, Prod.mk.injEq, reduceCtorEq] at advanced <;>
    obtain ⟨rfl, rfl⟩ := advanced
  all_goals first
    | exact .grant enabled.1 enabled.2.1 enabled.2.2
    | exact .reject enabled.1 enabled.2
    | exact .drop enabled
    | exact .checkField enabled ‹_›
    | exact .missingField enabled (Bool.eq_false_iff.mpr ‹_›)
    | exact .lease enabled.1 enabled.2
    | exact .leaseFail enabled.1 enabled.2
    | exact .spawn enabled
    | exact .start enabled.1 enabled.2
    | exact .send enabled
    | exact .exit enabled
    | exact .receive enabled.1 enabled.2

end Call

/-- One action of `shutdown`, or `none` where it is not enabled. -/
def advanceShutdown (config : Config) (shared : Shared) (phase : ShutdownPhase) :
    ShutdownAction → Option (Shared × ShutdownPhase)
  | .call => if phase = .idle then some (shared, .acquiring) else none
  | .grant =>
      if phase = .acquiring ∧ shared.closed = false ∧ config.shutdownPermits ≤ shared.available
      then some ({ shared with available := shared.available - config.shutdownPermits }, .holding)
      else none
  | .reject =>
      if phase = .acquiring ∧ shared.closed = true then some (shared, .finished) else none
  | .drop => if phase = .acquiring then some (shared, .dropped) else none
  | .release =>
      if phase = .holding then
        some ({ shared with available := shared.available + config.shutdownPermits }, .released)
      else none
  | .close => if phase = .released then some ({ shared with closed := true }, .gateClosed) else none
  | .teardown =>
      if phase = .gateClosed then some ({ shared with executorsShutdown := true }, .finished)
      else none

/-- `advanceShutdown` as a relation: each enabled action with its guard and its effect. -/
inductive ShutdownAdvances (config : Config) :
    Shared → ShutdownPhase → ShutdownAction → Shared → ShutdownPhase → Prop where
  | call {shared : Shared} : ShutdownAdvances config shared .idle .call shared .acquiring
  | grant {shared : Shared} (gateOpen : shared.closed = false)
      (enough : config.shutdownPermits ≤ shared.available) :
      ShutdownAdvances config shared .acquiring .grant
        { shared with available := shared.available - config.shutdownPermits } .holding
  | reject {shared : Shared} (gateClosed : shared.closed = true) :
      ShutdownAdvances config shared .acquiring .reject shared .finished
  | drop {shared : Shared} : ShutdownAdvances config shared .acquiring .drop shared .dropped
  | release {shared : Shared} :
      ShutdownAdvances config shared .holding .release
        { shared with available := shared.available + config.shutdownPermits } .released
  | close {shared : Shared} :
      ShutdownAdvances config shared .released .close { shared with closed := true } .gateClosed
  | teardown {shared : Shared} :
      ShutdownAdvances config shared .gateClosed .teardown
        { shared with executorsShutdown := true } .finished

theorem shutdownAdvances_of_advanceShutdown {config : Config} {shared shared' : Shared}
    {phase phase' : ShutdownPhase} {action : ShutdownAction}
    (advanced : advanceShutdown config shared phase action = some (shared', phase')) :
    ShutdownAdvances config shared phase action shared' phase' := by
  cases action <;> simp only [advanceShutdown] at advanced <;> split_ifs at advanced with enabled <;>
    simp only [Option.some.injEq, Prod.mk.injEq, reduceCtorEq] at advanced <;>
    obtain ⟨rfl, rfl⟩ := advanced
  all_goals first
    | (obtain ⟨rfl, gateOpen, enough⟩ := enabled; exact .grant gateOpen enough)
    | (obtain ⟨rfl, gateClosed⟩ := enabled; exact .reject gateClosed)
    | (subst enabled; constructor)

/-- One event: the next state, or `none` where the event is not enabled. -/
def step (config : Config) (state : State) : Event → Option State
  | .call operation => some { state with calls := state.calls ++ [Call.fresh operation] }
  | .act index action =>
      match state.calls[index]? with
      | none => none
      | some call =>
          (call.advance config state.shared action).map fun (shared, call) =>
            { state with shared, calls := state.calls.set index call }
  | .shutdown action =>
      (advanceShutdown config state.shared state.shutdown action).map fun (shared, shutdown) =>
        { state with shared, shutdown }

/-- The events of a trace, one after the other. -/
def run (config : Config) : State → List Event → Option State
  | state, [] => some state
  | state, event :: events => (step config state event).bind (run config · events)

/-- The states some interleaving reaches from `create`. -/
inductive Reachable (config : Config) : State → Prop where
  | initial : Reachable config (initial config)
  | step {state next : State} {event : Event} :
      Reachable config state → step config state event = some next → Reachable config next

theorem Reachable.run {config : Config} {state : State} (reachable : Reachable config state) :
    ∀ {events : List Event} {final : State}, run config state events = some final →
      Reachable config final
  | [], _, ran => by cases ran; exact reachable
  | event :: events, final, ran => by
      obtain ⟨next, stepped, rest⟩ := Option.bind_eq_some.mp ran
      exact (reachable.step stepped).run rest

end Handler
end LnxEngine
