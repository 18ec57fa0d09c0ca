import Sentry.Kernel.TaskBlock.Progress

namespace Sentry.Kernel

/-! # Interrupts are not lost

Only the task goroutine receives from `interruptChan`: `unsetInterrupted` does, and
`block`'s select does, to re-post at once with `interruptSelf`. An interrupt pending
at entry to a call, or delivered during it, is therefore still pending when the call
returns, also when another `interrupt()` lands between that receive and the re-post;
and a select reached with the slot full can always proceed, after which the call returns
`nil`, `ETIMEDOUT` or `ErrInterrupted` by what it received.
-/

/-- An interrupt seen by the call in progress is still in the slot, except between
the select's receive and the re-post. -/
def InterruptPending (s : State) : Prop :=
  ∀ k, s.call = some k → k.obs.interruptSeen = true →
    s.task.interruptChan = true ∨ k.phase = .block .interruptSelf

variable {s s' : State} {k k' : Call}

/-- The invariant reads only the slot, the call's record of interrupts and whether
it is about to re-post. -/
theorem InterruptPending.frame (pending : InterruptPending s) (was : s.call = some k)
    (slot : s'.task.interruptChan = s.task.interruptChan)
    (seen : k'.obs.interruptSeen = k.obs.interruptSeen)
    (phase : k.phase = .block .interruptSelf → k'.phase = .block .interruptSelf)
    (seen' : k'.obs.interruptSeen = true) :
    s'.task.interruptChan = true ∨ k'.phase = .block .interruptSelf :=
  (pending k was (seen ▸ seen')).imp (fun full => slot ▸ full) phase

/-- The task goroutine's steps outside the select: only the re-post touches the slot,
and it fills it. -/
theorem InterruptPending.run (pending : InterruptPending s) (was : s.call = some k)
    (stepped : s.run k = some s') : InterruptPending s' := by
  intro k' current seen
  cases done : k.phase.result with
  | some err =>
    obtain ⟨_, _, _, _, rfl, now, -⟩ := State.run_call_of_result done stepped current
    exact pending.frame was (State.run_task_of_result done stepped).1 rfl
      (fun about => by simp [about, Phase.result] at done) seen
  | none =>
    rcases phase : k.phase with _ | (_ | _ | _ | _) | _ | _ | _ | _ | _ <;>
      simp only [phase, Phase.result, reduceCtorEq] at done <;>
      simp only [State.run, phase, Option.some.injEq, reduceCtorEq] at stepped <;> subst stepped
    case arm =>
      unfold State.arm at current
      split at current <;> cases current <;> exact pending.frame was (by simp) rfl (by simp [phase]) seen
    case block.fastPath =>
      unfold State.fastPath at current ⊢
      split at current <;> simp only [Option.some.injEq] at current <;> subst current <;>
        split <;> (try contradiction) <;> exact pending.frame was rfl (by simp) (by simp [phase]) seen
    case block.gosched =>
      cases current
      exact pending.frame was rfl rfl (by simp [phase]) seen
    case block.interruptSelf => exact .inl (by simp [State.reinterrupt])

/-- The select's interrupt case empties the slot and leaves the call about to re-post. -/
theorem InterruptPending.select {c : SelectCase} (pending : InterruptPending s)
    (was : s.call = some k) (waiting : k.phase = .block .select) (stepped : s.select k c = some s') :
    InterruptPending s' := by
  intro k' current seen
  cases c <;> simp only [State.select] at stepped <;> split at stepped <;>
    simp only [Option.some.injEq, reduceCtorEq] at stepped <;> subst stepped <;>
    simp only [Option.some.injEq] at current <;> subst current
  case interrupt.isTrue => exact .inr rfl
  all_goals exact pending.frame was (by simp) (by simp) (by simp [waiting]) seen

theorem step_interruptPending {a : Action} (pending : InterruptPending s)
    (stepped : step s a = some s') : InterruptPending s' := by
  rcases step_cases stepped with ⟨C, -, rfl⟩ | ⟨-, rfl⟩ | ⟨-, -, rfl⟩ | ⟨k, -, was, -, rfl⟩ |
    ⟨now, -, -, rfl⟩ | ⟨op, -, idle, rfl⟩ | ⟨k, -, was, stepped⟩ | ⟨k, c, -, was, waiting, stepped⟩
  · intro k' current seen
    obtain ⟨k, was, rfl⟩ := Option.map_eq_some'.mp current
    split at seen <;> split <;> exact pending.frame was rfl (by simp_all) (by simp_all) seen
  · exact fun _ _ _ => .inl rfl
  · intro k' current seen
    obtain ⟨k, was, rfl⟩ := Option.map_eq_some'.mp current
    exact pending.frame was rfl rfl id seen
  · intro k' current seen
    cases current
    exact pending.frame was rfl rfl id seen
  · exact pending
  · intro k' current seen
    cases op <;> simp only [State.begin, State.beginCall, idle, reduceCtorEq, Option.some.injEq] at current
    subst current
    exact .inl seen
  · exact pending.run was stepped
  · exact pending.select was waiting stepped

/-- The task goroutine's steps outside the select never empty the slot. -/
theorem State.run_keeps_slot (stepped : s.run k = some s') (full : s.task.interruptChan = true) :
    s'.task.interruptChan = true := by
  cases done : k.phase.result with
  | some err => exact (State.run_task_of_result done stepped).1 ▸ full
  | none =>
    rcases phase : k.phase with _ | (_ | _ | _ | _) | _ | _ | _ | _ | _ <;>
      simp only [phase, Phase.result, reduceCtorEq] at done <;>
      simp only [State.run, phase, Option.some.injEq, reduceCtorEq] at stepped <;> subst stepped
    case block.fastPath => unfold State.fastPath; split <;> simpa
    all_goals simp [State.gosched, State.withCall, State.reinterrupt, full]

/-- A full slot is emptied only by `unsetInterrupted` and by the select's receive, which
leaves the call about to re-post. -/
theorem step_empties_slot {a : Action} (stepped : step s a = some s')
    (full : s.task.interruptChan = true) (emptied : s'.task.interruptChan = false) :
    a = .begin .unsetInterrupted ∨ ∃ k, s'.call = some k ∧ k.phase = .block .interruptSelf := by
  have kept (same : s'.task.interruptChan = true) : False := by simp [same] at emptied
  rcases step_cases stepped with ⟨C, -, rfl⟩ | ⟨-, rfl⟩ | ⟨-, -, rfl⟩ | ⟨k, -, -, -, rfl⟩ |
    ⟨now, -, -, rfl⟩ | ⟨op, rfl, -, rfl⟩ | ⟨k, -, -, stepped⟩ | ⟨k, c, -, -, -, stepped⟩
  -- other goroutines only ever fill the slot
  iterate 5 exact (kept (by simp [Task.interrupt, Task.interruptSelf, full])).elim
  · cases op
    case unsetInterrupted => exact .inl rfl
    all_goals exact (kept (by simp [State.begin, State.beginCall, full])).elim
  · exact (kept (State.run_keeps_slot stepped full)).elim
  · cases c <;> simp only [State.select] at stepped <;> split at stepped <;>
      simp only [Option.some.injEq, reduceCtorEq] at stepped <;> subst stepped
    all_goals first
      | exact .inr ⟨_, rfl, rfl⟩
      | exact (kept (by simp [full])).elim

theorem interruptPending_of_steps {s₀ : State} (idle : s₀.call = none) (run : Steps s₀ s) :
    InterruptPending s :=
  run.invariant (fun k current => by simp [idle] at current) step_interruptPending

/-- Over every run of `Block*` calls, `unsetInterrupted` and `interruptSelf` on the task
goroutine interleaved with other goroutines' `interrupt()`: a call that found the slot
full or saw an `interrupt()` complete returns with `interrupted()` true, whatever it
returns; only `unsetInterrupted` empties the slot for good; and a call whose select is
reached with the slot full never waits: the interrupt case is ready, and whichever case
the select takes, the call returns `nil` if it received from `C`, `ETIMEDOUT` if from
the timer channel, and `ErrInterrupted` if from neither. -/
theorem interrupt_pending_until_unset {s₀ : State} (idle : s₀.call = none) (run : Steps s₀ s) :
    (∀ k err, s.call = some k → k.phase = .returned err → k.obs.interruptSeen = true →
      s.task.interrupted = true) ∧
    (∀ a s', step s a = some s' → s.task.interruptChan = true → s'.task.interruptChan = false →
      a = .begin .unsetInterrupted ∨ ∃ k, s'.call = some k ∧ k.phase = .block .interruptSelf) ∧
    (∀ k, s.call = some k → k.phase = .block .select → s.task.interruptChan = true →
      (∃ s', step s (.select .interrupt) = some s') ∧
      ∀ c s', step s (.select c) = some s' → ∃ n s'' k' err,
        exec s' (List.replicate n .run) = some s'' ∧ s''.call = some k' ∧ k'.phase = .returned err ∧
        ((k'.obs.taken = 1 ∧ k'.obs.timerReceived = false ∧ err = none) ∨
          (k'.obs.taken = 0 ∧ k'.obs.timerReceived = true ∧ err = some .etimedout) ∨
          (k'.obs.taken = 0 ∧ k'.obs.timerReceived = false ∧ err = some .errInterrupted))) := by
  refine ⟨fun k err current returned seen => ?_, fun a s' stepped full emptied =>
    step_empties_slot stepped full emptied, fun k current phase full => ⟨?_, fun c s' stepped => ?_⟩⟩
  · simpa [returned, Task.interrupted] using interruptPending_of_steps idle run k current seen
  · simp [step, current, phase, State.select, full]
  · obtain ⟨n, s'', k', reached, current', returned⟩ := select_reaches stepped
    have later := (run.tail ⟨.select c, stepped⟩).trans (exec_steps reached)
    have outcome := (contractInv_of_steps idle later k' current').outcome c.err
      (by simp [returned, Phase.result])
    exact ⟨n, s'', k', c.err, reached, current', returned, outcome.received⟩

/-- A task with an interrupt pending and nothing ready on any channel. -/
def interruptedState : State :=
  { task := ⟨true, false, false, [], 1⟩
    env := ⟨fun _ => 0, fun _ => [], 1, 0⟩
    call := none }

/-- `Block(C)` with an interrupt pending sleeps, takes the interrupt in its select,
re-posts it and returns `ErrInterrupted` with the interrupt still pending. -/
theorem interrupt_pending_until_unset_select :
    ∃ s k, Steps interruptedState s ∧ s.call = some k ∧
      k.phase = .returned (some .errInterrupted) ∧ k.obs.interruptSeen = true ∧
      s.task.interrupted = true := by
  have run : Steps interruptedState _ :=
    .tail (.tail (.tail (.tail (.single ⟨.begin (.call (.block 0)), rfl⟩) ⟨.run, rfl⟩) ⟨.run, rfl⟩)
      ⟨.select .interrupt, rfl⟩) ⟨.run, rfl⟩
  exact ⟨_, _, run, rfl, rfl, rfl,
    (interrupt_pending_until_unset rfl run).1 _ _ rfl rfl rfl⟩

end Sentry.Kernel
