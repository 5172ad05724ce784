import LnxEngine.Handler.Machine
import Mathlib.Algebra.Order.BigOperators.Group.List
import Mathlib.Algebra.Order.Group.Nat
import Mathlib.Algebra.Order.Ring.Nat

/-!
# Permits, executors and threads along every run

Every action hands permits, executors and pool threads from one owner to another and creates
none, so the three accountings hold in every reachable state.
-/

namespace LnxEngine
namespace Handler

/-- The closures alive in a state. -/
def State.aliveWorkers (state : State) : Nat :=
  (state.calls.map fun call => call.worker.executors).sum

/-- The permits taken from the limiter in a state. -/
def State.permitsTaken (config : Config) (state : State) : Nat :=
  config.maxConcurrency - state.shared.available

/-- The accounting that holds in every reachable state. -/
structure Invariant (config : Config) (state : State) : Prop where
  /-- Every permit is free, or owned by one call or by `shutdown`. -/
  permits : state.shared.available + (state.calls.map Call.permits).sum +
    state.shutdown.permits config = config.maxConcurrency
  /-- Every checked-out executor is owned by one future or by one live closure. -/
  leases : state.shared.leased = (state.calls.map Call.leases).sum
  /-- Every busy pool thread runs one closure. -/
  threads : state.shared.busy = (state.calls.map Call.threads).sum
  /-- No closure exists before its call spawned one. -/
  wellFormed : ∀ call ∈ state.calls, call.WellFormed

/-! ## One action -/

section Advance

variable {config : Config} {shared shared' : Shared} {call call' : Call} {action : Action}

/-- One action of a call moves permits, executors and threads and creates none. -/
theorem Call.advance_conserves (advanced : call.advance config shared action = some (shared', call'))
    (wellFormed : call.WellFormed) {otherLeases otherThreads : Nat}
    (leases : shared.leased = otherLeases + call.leases)
    (threads : shared.busy = otherThreads + call.threads) :
    shared'.available + call'.permits = shared.available + call.permits ∧
      shared'.leased = otherLeases + call'.leases ∧
      shared'.busy = otherThreads + call'.threads ∧ call'.WellFormed := by
  obtain ⟨operation, phase, worker⟩ := call
  simp only [Call.WellFormed] at wellFormed
  cases Call.advances_of_advance advanced <;> cases operation <;>
    simp only [Call.permits, Call.leases, Call.threads, Call.WellFormed, Shared.relinquish,
      Operation.granted, Operation.checking, Operation.checked, Operation.leased] at * <;>
    subst_vars <;>
    simp_all only [CallPhase.permits, CallPhase.executors, CallPhase.beforeSpawn,
      WorkerPhase.executors, WorkerPhase.alive, WorkerPhase.threads, if_true, if_false,
      Bool.false_eq_true, imp_false, not_true, true_implies, false_implies, and_true, true_and,
      Nat.add_zero, Nat.zero_add, forall_const, reduceCtorEq, not_false_eq_true] <;>
    omega

/-- One action of `shutdown` moves permits only, between the limiter and `shutdown`. -/
theorem advanceShutdown_conserves {phase phase' : ShutdownPhase} {action : ShutdownAction}
    (advanced : advanceShutdown config shared phase action = some (shared', phase')) :
    shared'.available + phase'.permits config = shared.available + phase.permits config ∧
      shared'.leased = shared.leased ∧ shared'.busy = shared.busy := by
  cases shutdownAdvances_of_advanceShutdown advanced <;> simp_all [ShutdownPhase.permits]

end Advance

/-- Replacing one entry of a list changes a sum over it by that entry's share only. -/
theorem exists_sum_map_set {α : Type} (share : α → Nat) :
    ∀ {items : List α} {index : Nat} {old : α} (new : α), items[index]? = some old →
      ∃ others, (items.map share).sum = others + share old ∧
        ((items.set index new).map share).sum = others + share new
  | [], _, _, _, found => by simp at found
  | head :: tail, 0, _, _, found => ⟨(tail.map share).sum, by simp_all [Nat.add_comm]⟩
  | head :: tail, index + 1, _, new, found => by
      obtain ⟨others, before, after⟩ :=
        @exists_sum_map_set α share tail index _ new (by simpa using found)
      exact ⟨share head + others, by simp only [List.map_cons, List.sum_cons, before]; omega,
        by simp only [List.set_cons_succ, List.map_cons, List.sum_cons, after]; omega⟩

/-! ## Every run -/

namespace Invariant

variable {config : Config} {state next : State}

theorem initial : Invariant config (initial config) :=
  ⟨by simp [Handler.initial, ShutdownPhase.permits], rfl, rfl, by simp [Handler.initial]⟩

/-- A new call owns nothing. -/
theorem call (invariant : Invariant config state) (operation : Operation) :
    Invariant config { state with calls := state.calls ++ [Call.fresh operation] } := by
  obtain ⟨permits, leases, threads, wellFormed⟩ := invariant
  refine ⟨?_, ?_, ?_, ?_⟩
  · simpa [Call.fresh, Call.permits, CallPhase.permits] using permits
  · simpa [Call.fresh, Call.leases, CallPhase.executors, WorkerPhase.executors,
      WorkerPhase.alive] using leases
  · simpa [Call.fresh, Call.threads, WorkerPhase.threads] using threads
  · simpa [Call.fresh, Call.WellFormed, or_imp, forall_and] using wellFormed

theorem act (invariant : Invariant config state) {index : Nat} {call call' : Call}
    {action : Action} {shared' : Shared} (found : state.calls[index]? = some call)
    (advanced : call.advance config state.shared action = some (shared', call')) :
    Invariant config { state with shared := shared', calls := state.calls.set index call' } := by
  obtain ⟨permits, leases, threads, wellFormed⟩ := invariant
  obtain ⟨heldPermits, permitsBefore, permitsAfter⟩ := exists_sum_map_set Call.permits call' found
  obtain ⟨heldLeases, leasesBefore, leasesAfter⟩ := exists_sum_map_set Call.leases call' found
  obtain ⟨heldThreads, threadsBefore, threadsAfter⟩ := exists_sum_map_set Call.threads call' found
  obtain ⟨available, leased, busy, wellFormed'⟩ :=
    call.advance_conserves advanced (wellFormed call (List.getElem?_mem found))
      (leases.trans leasesBefore) (threads.trans threadsBefore)
  refine ⟨?_, leased.trans leasesAfter.symm, busy.trans threadsAfter.symm, ?_⟩
  · simp only [permitsAfter]
    omega
  · intro other mem
    rcases List.mem_or_eq_of_mem_set mem with mem | rfl
    · exact wellFormed other mem
    · exact wellFormed'

theorem shutdown (invariant : Invariant config state) {action : ShutdownAction}
    {shared' : Shared} {phase' : ShutdownPhase}
    (advanced : advanceShutdown config state.shared state.shutdown action = some (shared', phase')) :
    Invariant config { state with shared := shared', shutdown := phase' } := by
  obtain ⟨permits, leases, threads, wellFormed⟩ := invariant
  obtain ⟨available, leased, busy⟩ := advanceShutdown_conserves advanced
  exact ⟨by simp only; omega, leased.trans leases, busy.trans threads, wellFormed⟩

/-- Every event keeps the accounting. -/
theorem step (invariant : Invariant config state) {event : Event}
    (stepped : Handler.step config state event = some next) : Invariant config next := by
  cases event with
  | call operation =>
      cases stepped
      exact invariant.call operation
  | act index action =>
      simp only [Handler.step] at stepped
      split at stepped
      · cases stepped
      · obtain ⟨⟨shared', call'⟩, advanced, rfl⟩ := Option.map_eq_some'.mp stepped
        exact invariant.act ‹_› advanced
  | shutdown action =>
      obtain ⟨⟨shared', phase'⟩, advanced, rfl⟩ := Option.map_eq_some'.mp stepped
      exact invariant.shutdown advanced

end Invariant

theorem Reachable.invariant {config : Config} {state : State}
    (reachable : Reachable config state) : Invariant config state := by
  induction reachable with
  | initial => exact .initial
  | step _ stepped induction => exact induction.step stepped

/-! ## What the accounting bounds -/

section Bounds

variable {config : Config} {state : State}

/-- A `search` dropped by its caller while it waits, its closure still queued. -/
theorem reachable_dropped_search :
    Reachable ⟨1, true⟩ ⟨⟨1, false, 1, 0, false⟩, [⟨.search, .dropped, .queued⟩], .idle⟩ :=
  @Reachable.run _ _ .initial
    [.call .search, .act 0 .grant, .act 0 .checkField, .act 0 .lease, .act 0 .spawn,
      .act 0 .drop] _ rfl

/-- Every permit is free, or owned by one `get_doc` or `search` future, or by `shutdown`. -/
theorem permits_conserved (reachable : Reachable config state) :
    state.shared.available + (state.calls.map Call.permits).sum +
      state.shutdown.permits config = config.maxConcurrency :=
  reachable.invariant.permits

/-- A dropped `search` has given its permit back. -/
theorem permits_conserved_dropped_search :
    let state : State := ⟨⟨1, false, 1, 0, false⟩, [⟨.search, .dropped, .queued⟩], .idle⟩
    Reachable ⟨1, true⟩ state ∧
      state.shared.available + (state.calls.map Call.permits).sum +
        state.shutdown.permits ⟨1, true⟩ = 1 := by
  intro state
  exact ⟨reachable_dropped_search, permits_conserved reachable_dropped_search⟩

theorem Call.leases_le {call : Call} (wellFormed : call.WellFormed) :
    call.leases ≤ call.permits + call.orphans := by
  obtain ⟨operation, phase, worker⟩ := call
  simp only [Call.WellFormed] at wellFormed
  cases phase <;> cases worker <;>
    simp_all [Call.leases, Call.permits, Call.orphans, CallPhase.permits, CallPhase.executors,
      CallPhase.beforeSpawn, WorkerPhase.executors, WorkerPhase.alive]

/-- Checked-out executors are bounded by the calls' permits plus the orphaned closures. -/
theorem leased_le_permits_add_orphans (reachable : Reachable config state) :
    state.shared.leased ≤ (state.calls.map Call.permits).sum + (state.calls.map Call.orphans).sum := by
  have invariant := reachable.invariant
  rw [invariant.leases, ← List.sum_map_add]
  exact List.sum_le_sum fun call mem => Call.leases_le (invariant.wellFormed call mem)

/-- The executor of a dropped `search` is accounted for by its orphaned closure alone. -/
theorem leased_le_permits_add_orphans_dropped_search :
    let state : State := ⟨⟨1, false, 1, 0, false⟩, [⟨.search, .dropped, .queued⟩], .idle⟩
    Reachable ⟨1, true⟩ state ∧
      state.shared.leased ≤
        (state.calls.map Call.permits).sum + (state.calls.map Call.orphans).sum := by
  intro state
  exact ⟨reachable_dropped_search, leased_le_permits_add_orphans reachable_dropped_search⟩

/-- A dropped `search` frees its permit while its closure keeps the only executor. -/
theorem dropped_search_keeps_executor :
    (∃ state, Reachable ⟨1, true⟩ state ∧ state.permitsTaken ⟨1, true⟩ < state.aliveWorkers) ∧
      ∃ state, Reachable ⟨1, true⟩ state ∧ state.shared.leased = 1 ∧
        ∃ call ∈ state.calls, call.phase = .checkout :=
  ⟨⟨_, reachable_dropped_search, by decide⟩,
    ⟨⟨⟨0, false, 1, 0, false⟩, [⟨.search, .dropped, .queued⟩, ⟨.search, .checkout, .unspawned⟩],
        .idle⟩,
      @Reachable.run _ _ reachable_dropped_search
        [.call .search, .act 1 .grant, .act 1 .checkField] _ rfl,
      by decide⟩⟩

end Bounds

end Handler
end LnxEngine
