import LnxEngine.Handler.Shutdown

/-!
# Draining the handler

No interleaving wedges the handler: from every reachable state some continuation that makes no
call and drops no caller finishes every closure and every call past its grant.
-/

namespace LnxEngine
namespace Handler

/-- The control flow of a call: where each operation checks `_id`; a waiting call has spawned. -/
def Call.Coherent (call : Call) : Prop :=
  (call.phase = .admitted → call.operation = .search) ∧
    (call.phase = .leased → call.operation = .getDoc) ∧
    (call.phase = .waiting → call.worker ≠ .unspawned)

/-- What the drain needs of a reachable state beyond the accounting. -/
structure Lifecycle (config : Config) (state : State) : Prop where
  /-- Every call follows the control flow of its operation. -/
  coherent : ∀ call ∈ state.calls, call.Coherent
  /-- The executor pool holds `max_concurrency` contexts. -/
  leased_le : state.shared.leased ≤ config.maxConcurrency
  /-- The gate is closed only by `shutdown`, which then never waits for permits again. -/
  closedBy : state.shared.closed = true →
    state.shutdown = .gateClosed ∨ state.shutdown = .finished

/-- The steps left to a future before it returns. -/
def CallPhase.rank : CallPhase → Nat
  | .admitted => 5
  | .checkout => 4
  | .leased => 3
  | .ready => 2
  | .waiting => 1
  | _ => 0

/-- The steps left to a closure before it returns. -/
def WorkerPhase.rank : WorkerPhase → Nat
  | .unspawned => 4
  | .queued => 3
  | .running => 2
  | .sent => 1
  | .finished => 0

/-- The steps left to a call and its closure. -/
def Call.rank (call : Call) : Nat := call.phase.rank + call.worker.rank

/-- The steps left to every call. -/
def State.rank (state : State) : Nat := (state.calls.map Call.rank).sum

/-- Whether a call still waits for its permit, and whether its caller dropped it. -/
def Call.standing (call : Call) : Bool × Bool :=
  (call.phase == .acquiring, call.phase == .dropped)

section Step

variable {config : Config} {shared shared' : Shared} {call call' : Call} {action : Action}

theorem Call.advance_lifecycle (advanced : call.advance config shared action = some (shared', call'))
    (coherent : call.Coherent) (within : shared.leased ≤ config.maxConcurrency) :
    call'.Coherent ∧ shared'.leased ≤ config.maxConcurrency ∧ shared'.closed = shared.closed := by
  obtain ⟨operation, phase, worker⟩ := call
  obtain ⟨admitted, leased, spawned⟩ := coherent
  cases Call.advances_of_advance advanced <;> simp only [Call.Coherent, Shared.relinquish] <;>
    cases operation <;>
    simp_all [Operation.granted, Operation.checking, Operation.checked, Operation.leased] <;>
    omega

/-- An action other than a grant, a rejection or a drop lowers the rank and keeps the standing. -/
theorem Call.advance_rank_lt (advanced : call.advance config shared action = some (shared', call'))
    (wellFormed : call.WellFormed) (onward : action ≠ .grant ∧ action ≠ .reject ∧ action ≠ .drop) :
    call'.rank < call.rank ∧ call'.standing = call.standing ∧ shared'.closed = shared.closed := by
  obtain ⟨operation, phase, worker⟩ := call
  obtain ⟨notGrant, notReject, notDrop⟩ := onward
  simp only [Call.WellFormed] at wellFormed
  cases Call.advances_of_advance advanced <;> cases operation <;>
    simp only [Call.rank, Call.standing, Shared.relinquish, Operation.checking, Operation.checked,
      Operation.leased] at * <;>
    subst_vars <;>
    simp_all [CallPhase.rank, WorkerPhase.rank, CallPhase.beforeSpawn]

theorem advanceShutdown_lifecycle {phase phase' : ShutdownPhase} {action : ShutdownAction}
    (advanced : advanceShutdown config shared phase action = some (shared', phase'))
    (closedBy : shared.closed = true → phase = .gateClosed ∨ phase = .finished) :
    shared'.closed = true → phase' = .gateClosed ∨ phase' = .finished := by
  cases shutdownAdvances_of_advanceShutdown advanced <;> simp_all

end Step

namespace Lifecycle

variable {config : Config} {state next : State}

theorem initial : Lifecycle config (initial config) :=
  ⟨by simp [Handler.initial], Nat.zero_le _, by simp [Handler.initial]⟩

/-- Every event keeps the lifecycle facts. -/
theorem step (lifecycle : Lifecycle config state) {event : Event}
    (stepped : Handler.step config state event = some next) : Lifecycle config next := by
  obtain ⟨coherent, leased_le, closedBy⟩ := lifecycle
  cases event with
  | call operation =>
      cases stepped
      refine ⟨fun call mem => ?_, leased_le, closedBy⟩
      rcases List.mem_append.mp mem with mem | mem
      · exact coherent call mem
      · simp only [List.mem_singleton] at mem
        simp [mem, Call.fresh, Call.Coherent]
  | act index action =>
      simp only [Handler.step] at stepped
      split at stepped
      · cases stepped
      · rename_i call found
        obtain ⟨⟨shared', call'⟩, advanced, rfl⟩ := Option.map_eq_some'.mp stepped
        obtain ⟨coherent', within, keeps⟩ :=
          call.advance_lifecycle advanced (coherent call (List.getElem?_mem found)) leased_le
        refine ⟨fun other mem => ?_, within, fun closed => closedBy (keeps ▸ closed)⟩
        rcases List.mem_or_eq_of_mem_set mem with mem | rfl
        · exact coherent other mem
        · exact coherent'
  | shutdown action =>
      obtain ⟨⟨shared', phase'⟩, advanced, rfl⟩ := Option.map_eq_some'.mp stepped
      exact ⟨coherent, (advanceShutdown_conserves advanced).2.1 ▸ leased_le,
        advanceShutdown_lifecycle advanced closedBy⟩

end Lifecycle

theorem Reachable.lifecycle {config : Config} {state : State}
    (reachable : Reachable config state) : Lifecycle config state := by
  induction reachable with
  | initial => exact .initial
  | step _ stepped induction => exact induction.step stepped

/-! ## One call at a time -/

/-- A call with nothing left to do, nor its closure. -/
def Call.settled (call : Call) : Bool :=
  (call.phase == .acquiring || call.phase == .returned || call.phase == .dropped) &&
    !call.worker.alive

/-- A settled call never got a permit, or has returned, or was dropped. -/
theorem Call.phase_of_settled {call : Call} (settled : call.settled = true) :
    call.phase = .acquiring ∨ call.phase = .returned ∨ call.phase = .dropped := by
  simp only [Call.settled, Bool.and_eq_true, Bool.or_eq_true, beq_iff_eq] at settled
  exact settled.1.elim (·.elim .inl (.inr ∘ .inl)) (.inr ∘ .inr)

/-- A settled call owns no permit, no executor and no thread. -/
theorem Call.counts_of_settled {call : Call} (settled : call.settled = true) :
    call.permits = 0 ∧ call.leases = 0 ∧ call.threads = 0 := by
  have dead : call.worker.executors = 0 ∧ call.worker.threads = 0 := by
    simp only [Call.settled, Bool.and_eq_true, Bool.not_eq_true'] at settled
    cases worker : call.worker <;>
      simp_all [WorkerPhase.alive, WorkerPhase.executors, WorkerPhase.threads]
  rcases Call.phase_of_settled settled with phase | phase | phase <;>
    simp [Call.permits, Call.leases, Call.threads, CallPhase.permits, CallPhase.executors, phase,
      dead]

/-- An unsettled call has an onward action, if a queued closure finds a free thread. -/
theorem Call.exists_onward {config : Config} {shared : Shared} {call : Call}
    (wellFormed : call.WellFormed) (coherent : call.Coherent) (unsettled : call.settled = false)
    (room : call.worker = .queued → shared.busy < config.maxConcurrency) :
    ∃ action, (action ≠ .grant ∧ action ≠ .reject ∧ action ≠ .drop) ∧
      (call.advance config shared action).isSome := by
  obtain ⟨operation, phase, worker⟩ := call
  obtain ⟨admitted, leased, spawned⟩ := coherent
  simp only [Call.WellFormed] at wellFormed
  cases worker with
  | queued => exact ⟨.start, by decide, by simp [Call.advance, room rfl]⟩
  | running => exact ⟨.send, by decide, by simp [Call.advance]⟩
  | sent => exact ⟨.exit, by decide, by simp [Call.advance]⟩
  | unspawned | finished =>
      cases phase with
      | admitted =>
          obtain rfl := admitted rfl
          exact ⟨.checkField, by decide, by cases hasId : config.hasIdField <;>
            simp [Call.advance, Operation.checking, hasId]⟩
      | leased =>
          obtain rfl := leased rfl
          exact ⟨.checkField, by decide, by cases hasId : config.hasIdField <;>
            simp [Call.advance, Operation.checking, hasId]⟩
      | checkout =>
          by_cases free : shared.leased < config.maxConcurrency
          · exact ⟨.lease, by decide, by simp [Call.advance, free]⟩
          · exact ⟨.leaseFail, by decide, by simp [Call.advance, Nat.le_of_not_lt free]⟩
      | ready => exact ⟨.spawn, by decide, by simp [Call.advance]⟩
      | waiting => exact ⟨.receive, by decide, by simp_all [Call.advance]⟩
      | acquiring | returned | dropped =>
          simp_all [Call.settled, CallPhase.beforeSpawn, WorkerPhase.alive]

/-! ## The whole handler -/

section Drain

variable {config : Config} {state : State}

/-- Some unsettled call can act: one on a thread, or else any, as every thread is then free. -/
theorem exists_unsettled_with_room (reachable : Reachable config state)
    (unsettled : ∃ call ∈ state.calls, call.settled = false) :
    ∃ call ∈ state.calls, call.settled = false ∧
      (call.worker = .queued → state.shared.busy < config.maxConcurrency) := by
  by_cases onThread : ∃ call ∈ state.calls, call.threads ≠ 0
  · obtain ⟨call, mem, threads⟩ := onThread
    have running : call.worker = .running ∨ call.worker = .sent := by
      simp only [Call.threads] at threads
      cases worker : call.worker <;> simp [worker, WorkerPhase.threads] at threads ⊢
    have alive : call.worker.alive = true := by
      rcases running with running | running <;> simp [running, WorkerPhase.alive]
    refine ⟨call, mem, by simp [Call.settled, alive], fun queued => ?_⟩
    rcases running with running | running <;> simp [running] at queued
  · have invariant := reachable.invariant
    push_neg at onThread
    have idle : state.shared.busy = 0 := by
      rw [invariant.threads, List.sum_eq_zero_iff]
      simpa using onThread
    obtain ⟨call, mem, settled⟩ := unsettled
    refine ⟨call, mem, settled, fun queued => ?_⟩
    have lent : call.leases ≤ state.shared.leased :=
      invariant.leases ▸ List.le_sum_of_mem (List.mem_map_of_mem _ mem)
    have owns : 0 < call.leases := by
      simp [Call.leases, WorkerPhase.executors, WorkerPhase.alive, queued]
    have := reachable.lifecycle.leased_le
    omega

/-- Some onward event lowers the rank and keeps the standings, `shutdown` and the gate. -/
theorem exists_onward_step (reachable : Reachable config state)
    (unsettled : ∃ call ∈ state.calls, call.settled = false) :
    ∃ event next, step config state event = some next ∧ next.rank < state.rank ∧
      next.calls.map Call.standing = state.calls.map Call.standing ∧
      next.shutdown = state.shutdown ∧ next.shared.closed = state.shared.closed := by
  obtain ⟨call, mem, settled, room⟩ := exists_unsettled_with_room reachable unsettled
  obtain ⟨index, found⟩ := List.mem_iff_getElem?.mp mem
  have wellFormed := reachable.invariant.wellFormed call mem
  obtain ⟨action, onward, enabled⟩ :=
    Call.exists_onward wellFormed (reachable.lifecycle.coherent call mem) settled room
  obtain ⟨⟨shared', call'⟩, advanced⟩ := Option.isSome_iff_exists.mp enabled
  obtain ⟨lower, standing, closed⟩ := call.advance_rank_lt advanced wellFormed onward
  obtain ⟨others, before, after⟩ := exists_sum_map_set Call.rank call' found
  refine ⟨.act index action, { state with shared := shared', calls := state.calls.set index call' },
    by simp [step, found, advanced], ?_, ?_, rfl, closed⟩
  · simp only [State.rank, before, after]
    omega
  · refine List.ext_getElem? fun other => ?_
    by_cases same : index = other
    · subst same
      obtain ⟨inRange, entry⟩ := List.getElem?_eq_some_iff.mp found
      simp [List.getElem?_set, inRange, entry, standing]
    · simp [List.getElem?_set, same]

/-- From a reachable state, a run of onward events settles every call. -/
theorem exists_settling_run {config : Config} {state : State} (reachable : Reachable config state) :
    ∃ events final, run config state events = some final ∧
      (∀ call ∈ final.calls, call.settled = true) ∧
      final.calls.map Call.standing = state.calls.map Call.standing ∧
      final.shutdown = state.shutdown ∧ final.shared.closed = state.shared.closed := by
  by_cases settled : ∀ call ∈ state.calls, call.settled = true
  · exact ⟨[], state, rfl, settled, rfl, rfl, rfl⟩
  · obtain ⟨event, next, stepped, lower, standing, shutdown, closed⟩ :=
      exists_onward_step reachable (by simpa using settled)
    obtain ⟨events, final, ran, allSettled, standing', shutdown', closed'⟩ :=
      exists_settling_run (reachable.step stepped)
    exact ⟨event :: events, final, by simp [run, stepped, ran], allSettled,
      standing'.trans standing, shutdown'.trans shutdown, closed'.trans closed⟩
termination_by state.rank
decreasing_by exact lower

/-- With every call settled, all executors, threads and permits but `shutdown`'s are back. -/
theorem Invariant.counts_of_settled (invariant : Invariant config state)
    (settled : ∀ call ∈ state.calls, call.settled = true) :
    state.shared.available + state.shutdown.permits config = config.maxConcurrency ∧
      state.shared.leased = 0 ∧ state.shared.busy = 0 ∧ state.aliveWorkers = 0 := by
  have none : ∀ share : Call → Nat, (∀ call ∈ state.calls, share call = 0) →
      (state.calls.map share).sum = 0 :=
    fun share zero => List.sum_eq_zero_iff.mpr (by simpa using zero)
  have counts := fun call mem => Call.counts_of_settled (settled call mem)
  have permits := none Call.permits fun call mem => (counts call mem).1
  refine ⟨by have := invariant.permits; omega,
    invariant.leases.trans (none Call.leases fun call mem => (counts call mem).2.1),
    invariant.threads.trans (none Call.threads fun call mem => (counts call mem).2.2),
    none _ fun call mem => ?_⟩
  have leases := (counts call mem).2.1
  simp only [Call.leases] at leases
  omega

/-- Some continuation with no call, grant or drop finishes every closure and granted call. -/
theorem drain_settles_every_call (reachable : Reachable config state) :
    ∃ events final, run config state events = some final ∧
      (∀ call ∈ final.calls,
        call.phase = .acquiring ∨ call.phase = .returned ∨ call.phase = .dropped) ∧
      final.aliveWorkers = 0 ∧ final.shared.leased = 0 ∧ final.shared.busy = 0 ∧
      final.shared.available + final.shutdown.permits config = config.maxConcurrency ∧
      final.calls.map Call.standing = state.calls.map Call.standing ∧
      final.shutdown = state.shutdown ∧ final.shared.closed = state.shared.closed := by
  obtain ⟨events, final, ran, settled, standing, shutdown, closed⟩ := exists_settling_run reachable
  obtain ⟨permits, leased, busy, alive⟩ :=
    (reachable.run ran).invariant.counts_of_settled settled
  exact ⟨events, final, ran, fun call mem => Call.phase_of_settled (settled call mem), alive, leased,
    busy, permits, standing, shutdown, closed⟩

/-- A `search` dropped while its closure is queued: the drain runs the closure to its end. -/
theorem drain_settles_every_call_dropped_search :
    let state : State := ⟨⟨1, false, 1, 0, false⟩, [⟨.search, .dropped, .queued⟩], .idle⟩
    Reachable ⟨1, true⟩ state ∧
      ∃ events final, run ⟨1, true⟩ state events = some final ∧
        (∀ call ∈ final.calls,
          call.phase = .acquiring ∨ call.phase = .returned ∨ call.phase = .dropped) ∧
        final.aliveWorkers = 0 ∧ final.shared.leased = 0 ∧ final.shared.busy = 0 ∧
        final.shared.available + final.shutdown.permits ⟨1, true⟩ = 1 ∧
        final.calls.map Call.standing = state.calls.map Call.standing ∧
        final.shutdown = state.shutdown ∧ final.shared.closed = state.shared.closed :=
  ⟨reachable_dropped_search, drain_settles_every_call reachable_dropped_search⟩

end Drain

end Handler
end LnxEngine
