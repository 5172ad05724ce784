import LnxEngine.Handler.Accounting

/-!
# Shutdown as a barrier

While `shutdown` owns its permits no call owns one, but it releases them before `close`, so
calls and closures can outlive the barrier.
-/

namespace LnxEngine
namespace Handler

section Barrier

variable {config : Config} {state : State}

/-- While `shutdown` owns the permits of `acquire_many`, none is free and no call owns one. -/
theorem calls_idle_while_shutdown_holds (reachable : Reachable config state)
    (holding : state.shutdown = .holding) (fits : config.maxConcurrency < 2 ^ 32) :
    state.shared.available = 0 ∧ ∀ call ∈ state.calls, call.permits = 0 := by
  have permits := permits_conserved reachable
  simp only [holding, ShutdownPhase.permits, Config.shutdownPermits, Nat.mod_eq_of_lt fits]
    at permits
  have none : (state.calls.map Call.permits).sum = 0 := by omega
  simp only [List.sum_eq_zero_iff, List.mem_map, forall_exists_index, and_imp,
    forall_apply_eq_imp_iff₂] at none
  exact ⟨by omega, none⟩

/-- `shutdown` holds every permit while a returned `search`'s closure still runs. -/
theorem calls_idle_while_shutdown_holds_returned :
    let state : State :=
      ⟨⟨0, false, 1, 1, false⟩, [⟨.search, .returned, .sent⟩, ⟨.getDoc, .acquiring, .unspawned⟩],
        .holding⟩
    Reachable ⟨1, true⟩ state ∧ state.shutdown = .holding ∧ (1 < 2 ^ 32) ∧
      (state.shared.available = 0 ∧ ∀ call ∈ state.calls, call.permits = 0) := by
  intro state
  have reachable : Reachable ⟨1, true⟩ state :=
    @Reachable.run _ _ .initial
      [.call .search, .act 0 .grant, .act 0 .checkField, .act 0 .lease, .act 0 .spawn,
        .act 0 .start, .act 0 .send, .act 0 .receive, .call .getDoc, .shutdown .call,
        .shutdown .grant] _ rfl
  exact ⟨reachable, rfl, by decide, calls_idle_while_shutdown_holds reachable rfl (by decide)⟩

/-- The executors are torn down under a live closure, with and without a permit behind it. -/
theorem shutdown_survived_by_workers :
    (∃ state, Reachable ⟨1, true⟩ state ∧ state.shared.executorsShutdown = true ∧
        0 < (state.calls.map Call.permits).sum ∧ 0 < state.aliveWorkers) ∧
      ∃ state, Reachable ⟨1, true⟩ state ∧ state.shared.executorsShutdown = true ∧
        (state.calls.map Call.permits).sum = 0 ∧ 0 < state.aliveWorkers :=
  ⟨⟨⟨⟨0, true, 1, 0, true⟩, [⟨.search, .waiting, .queued⟩], .finished⟩,
      @Reachable.run _ _ .initial
        [.shutdown .call, .shutdown .grant, .shutdown .release, .call .search, .act 0 .grant,
          .act 0 .checkField, .act 0 .lease, .act 0 .spawn, .shutdown .close,
          .shutdown .teardown] _ rfl,
      by decide⟩,
    ⟨⟨⟨1, true, 1, 0, true⟩, [⟨.search, .dropped, .queued⟩], .finished⟩,
      @Reachable.run _ _ .initial
        [.call .search, .act 0 .grant, .act 0 .checkField, .act 0 .lease, .act 0 .spawn,
          .act 0 .drop, .shutdown .call, .shutdown .grant, .shutdown .release, .shutdown .close,
          .shutdown .teardown] _ rfl,
      by decide⟩⟩

end Barrier

end Handler
end LnxEngine
