import Sentry.Kernel.TaskBlock.Contract

namespace Sentry.Kernel

/-! # What a call leaves behind

`prepareSleep` deactivates the address space and enters `BlockedInterruptible`; the
deferred `completeSleep` leaves it and activates again, on every way out of the
select. The fast path does neither. The `On` forms register one fresh waiter entry
and unregister that entry on every path. So when a call returns, the task's
goroutine-state accounting, its activation and the waitable's subscribers are what
they were at entry.

Only the task's own calls subscribe and unsubscribe here: entries of other
goroutines on the same waitable are not modelled.
-/

/-- The deferred `w.EventUnregister(&e)` has run. -/
def Phase.unsubscribed : Phase → Bool
  | .returned _ => true
  | _ => false

/-- The task's accounting and activation inside a call, against the call's entry:
before the fast path nothing has slept, between `prepareSleep` and `completeSleep`
the task is one level deeper and deactivated, and once `block` returned each ran once,
exactly when the fast path was not taken. -/
structure SleepFrame (t : Task) (k : Call) : Prop where
  awake : k.phase.asleep = false →
    t.gostate = k.obs.atEntry.gostate ∧ t.active = k.obs.atEntry.active ∧ k.obs.slept = k.obs.woke
  asleep : k.phase.asleep = true →
    t.gostate = .blockedInterruptible :: k.obs.atEntry.gostate ∧ t.active = k.obs.atEntry.active - 1 ∧
      k.obs.slept = 1 ∧ k.obs.woke = 0 ∧ k.obs.fastPath = false
  early : k.phase = .arm ∨ k.phase = .block .fastPath → k.obs.slept = 0 ∧ k.obs.fastPath = false
  routed : k.phase.result ≠ none → k.obs.woke ≤ 1 ∧ (k.obs.slept = 1 ↔ k.obs.fastPath = false)

/-- The `On` forms' entry is subscribed from its registration to the deferred unregister. -/
structure Subscribed (env : Env) (k : Call) : Prop where
  fresh : ∀ w, k.entry.waitable? = some w → k.e ∉ k.obs.waitersAtEntry
  waiters : ∀ w, k.entry.waitable? = some w →
    env.waiters w = k.obs.waitersAtEntry ++ if k.phase.unsubscribed then [] else [k.e]

structure FrameInv (s : State) : Prop where
  allocated : s.env.Allocated
  sleep : ∀ k, s.call = some k → SleepFrame s.task k
  subscribed : ∀ k, s.call = some k → Subscribed s.env k

variable {t t' : Task} {env env' : Env} {k k' : Call}

/-- The frame reads the accounting, the activation, the call's sleep record and how
far its phase is. -/
theorem SleepFrame.frame (frame : SleepFrame t k) (gostate : t'.gostate = t.gostate)
    (active : t'.active = t.active) (asleep : k'.phase.asleep = k.phase.asleep)
    (early : k'.phase = .arm ∨ k'.phase = .block .fastPath →
      k.phase = .arm ∨ k.phase = .block .fastPath)
    (result : k'.phase.result ≠ none → k.phase.result ≠ none)
    (atEntry : k'.obs.atEntry = k.obs.atEntry) (slept : k'.obs.slept = k.obs.slept)
    (woke : k'.obs.woke = k.obs.woke) (fastPath : k'.obs.fastPath = k.obs.fastPath) :
    SleepFrame t' k' := by
  obtain ⟨wasAwake, wasAsleep, wasEarly, wasRouted⟩ := frame
  refine ⟨fun awake => ?_, fun sleeping => ?_, fun still => ?_, fun done => ?_⟩
  · rw [gostate, active, atEntry, slept, woke]
    exact wasAwake (asleep ▸ awake)
  · rw [gostate, active, atEntry, slept, woke, fastPath]
    exact wasAsleep (asleep ▸ sleeping)
  · rw [slept, fastPath]
    exact wasEarly (early still)
  · rw [woke, slept, fastPath]
    exact wasRouted (result done)

/-- A call `block` has returned from, with the accounting back to its entry's. -/
theorem SleepFrame.woken {err : Option Errno} (result : k.phase.result = some err)
    (gostate : t.gostate = k.obs.atEntry.gostate) (active : t.active = k.obs.atEntry.active)
    (balanced : k.obs.slept = k.obs.woke) (once : k.obs.woke ≤ 1)
    (slept : k.obs.slept = 1 ↔ k.obs.fastPath = false) : SleepFrame t k := by
  have awake := Phase.asleep_of_result result
  refine ⟨fun _ => ⟨gostate, active, balanced⟩, fun sleeping => by simp [awake] at sleeping,
    fun still => ?_, fun _ => ⟨once, slept⟩⟩
  rcases still with still | still <;> simp [still, Phase.result] at result

/-- `completeSleep` after the select closes what `prepareSleep` opened. -/
theorem SleepFrame.wake {err : Option Errno} {f : Observations → Observations}
    (frame : SleepFrame t k) (sleeping : k.phase.asleep = true)
    (atEntry : (f k.obs).atEntry = k.obs.atEntry) (slept : (f k.obs).slept = k.obs.slept)
    (woke : (f k.obs).woke = k.obs.woke + 1) (fastPath : (f k.obs).fastPath = k.obs.fastPath) :
    SleepFrame t.completeSleep ((k.observe f).afterBlock err) := by
  have ⟨gostate, active, once, unwoken, notFast⟩ := frame.asleep sleeping
  refine SleepFrame.woken (Call.afterBlock_result _ _) ?_ ?_ ?_ ?_ ?_ <;>
    simp only [Call.afterBlock_obs, Call.observe_obs, atEntry, slept, woke, fastPath]
  · exact Task.completeSleep_gostate _ gostate
  · simp [active]
  all_goals simp [once, unwoken, notFast]

theorem Subscribed.frame (subscribed : Subscribed env k) (waiters : env'.waiters = env.waiters)
    (entry : k'.entry = k.entry) (e : k'.e = k.e)
    (atEntry : k'.obs.waitersAtEntry = k.obs.waitersAtEntry)
    (unsubscribed : ∀ w, k.entry.waitable? = some w →
      k'.phase.unsubscribed = k.phase.unsubscribed) : Subscribed env' k' :=
  ⟨fun w waitable => e ▸ atEntry ▸ subscribed.fresh w (entry ▸ waitable),
    fun w waitable => by
      rw [waiters, e, atEntry, unsubscribed w (entry ▸ waitable)]
      exact subscribed.waiters w (entry ▸ waitable)⟩

namespace Call

variable (k) (err : Option Errno) {w : Nat}

theorem afterTimeout_unsubscribed (waitable : k.entry.waitable? = some w) :
    (k.afterTimeout err).phase.unsubscribed = false := by
  simp [afterTimeout, waitable, Phase.unsubscribed]

theorem afterDeadline_unsubscribed (waitable : k.entry.waitable? = some w) :
    (k.afterDeadline err).phase.unsubscribed = false := by
  unfold afterDeadline
  split
  · split
    · exact afterTimeout_unsubscribed _ err waitable
    · rfl
  · exact afterTimeout_unsubscribed _ err waitable

theorem afterBlock_unsubscribed (waitable : k.entry.waitable? = some w) :
    (k.afterBlock err).phase.unsubscribed = false := by
  unfold afterBlock
  split
  · exact afterDeadline_unsubscribed _ err waitable
  · rfl

end Call

/-- Leaving `block` keeps the entry subscribed. -/
theorem Subscribed.leave {f : Observations → Observations} {err : Option Errno} {pc : BlockPc}
    (subscribed : Subscribed env k) (phase : k.phase = .block pc)
    (waiters : env'.waiters = env.waiters)
    (atEntry : (f k.obs).waitersAtEntry = k.obs.waitersAtEntry) :
    Subscribed env' ((k.observe f).afterBlock err) :=
  ⟨fun w waitable => by simpa [atEntry] using subscribed.fresh w (by simpa using waitable),
    fun w waitable => by
      simp only [Call.afterBlock_entry, Call.observe_entry] at waitable
      rw [waiters, subscribed.waiters w waitable, Call.afterBlock_unsubscribed (k.observe f) err waitable]
      simp [phase, Phase.unsubscribed, atEntry]⟩

variable {s s' : State}

/-- Once `block` returned, the task's steps keep the accounting. -/
theorem SleepFrame.route {err : Option Errno} (frame : SleepFrame s.task k)
    (done : k.phase.result = some err) (stepped : s.run k = some s') (current : s'.call = some k') :
    SleepFrame s'.task k' := by
  obtain ⟨phase, left, timer, stop, rfl, result, -⟩ := State.run_call_of_result done stepped current
  have ⟨_, gostate, active⟩ := State.run_task_of_result done stepped
  refine frame.frame gostate active (by rw [Phase.asleep_of_result result, Phase.asleep_of_result done])
    (fun early => ?_) (fun _ => by simp [done]) rfl rfl rfl rfl
  rcases early with early | early <;> cases early <;> simp [Phase.result] at result

/-- A new call starts awake, with nothing slept, and its `On` entry freshly subscribed. -/
theorem beginCall_frameInv (allocated : s.env.Allocated) (entry : Entry) :
    FrameInv (s.beginCall entry) := by
  refine ⟨?_, fun k current => ?_, fun k current => ?_⟩ <;> simp only [State.beginCall] at *
  · split
    · exact allocated.register _
    · exact allocated
  · simp only [Option.some.injEq] at current
    subst current
    refine ⟨fun _ => ⟨rfl, rfl, rfl⟩, fun sleeping => ?_, fun _ => ⟨rfl, rfl⟩, fun done => ?_⟩ <;>
      split at * <;> simp [Phase.asleep, Phase.result] at *
  · simp only [Option.some.injEq] at current
    subst current
    refine ⟨fun w waitable mem => ?_, fun w waitable => ?_⟩ <;> simp only [waitable] at *
    · exact Nat.lt_irrefl _ (allocated w _ mem)
    · split <;> simp [Phase.unsubscribed, Env.newChannelEntry]

/-- Once `block` returned, the task's steps keep the accounting, and only the deferred
unregister takes the entry off the waitable. -/
theorem FrameInv.route {err : Option Errno} (inv : FrameInv s) (was : s.call = some k)
    (done : k.phase.result = some err) (stepped : s.run k = some s') : FrameInv s' := by
  have subscribed := inv.subscribed k was
  have sleep : ∀ k', s'.call = some k' → SleepFrame s'.task k' :=
    fun _ current => (inv.sleep k was).route done stepped current
  rcases phase : k.phase with _ | _ | err' | err' | err' | err' | err' <;>
    simp only [phase, Phase.result, reduceCtorEq, Option.some.injEq] at done <;>
    subst done <;> simp only [State.run, phase, Option.some.injEq] at stepped sleep <;>
    subst stepped
  case disarm =>
    refine ⟨by rw [State.disarm_env]; exact inv.allocated, sleep, fun k' current => ?_⟩
    rw [State.disarm_call, Option.some.injEq] at current
    subst current
    refine subscribed.frame (by rw [State.disarm_env]) ?_ ?_ ?_ fun w waitable => ?_ <;>
      split <;> (try split) <;> (try rw [phase])
    all_goals first | rfl | simp | exact Call.afterDeadline_unsubscribed _ err' waitable
  case drain =>
    refine ⟨inv.allocated, sleep, fun k' current => ?_⟩
    simp only [State.drain, Option.some.injEq] at current
    subst current
    exact subscribed.frame rfl (by simp) (by simp) (by simp) fun w waitable => by
      rw [phase]; exact Call.afterDeadline_unsubscribed _ err' waitable
  case clockEnd =>
    refine ⟨inv.allocated, sleep, fun k' current => ?_⟩
    simp only [State.clockEnd, State.withCall, Option.some.injEq] at current
    subst current
    exact subscribed.frame rfl (by simp) (by simp) (by simp) fun w waitable => by
      rw [phase]; exact Call.afterTimeout_unsubscribed _ err' waitable
  case unregister =>
    refine ⟨?_, sleep, fun k' current => ?_⟩
    · unfold State.unregister
      split
      · exact inv.allocated.unregister _ k.e
      · exact inv.allocated
    · rw [State.unregister_call, Option.some.injEq] at current
      subst current
      refine ⟨subscribed.fresh, fun w waitable => ?_⟩
      have subscribedWaiters := subscribed.waiters w waitable
      simp [State.unregister, waitable, subscribedWaiters, phase, Phase.unsubscribed,
        List.erase_append_right _ (subscribed.fresh w waitable)]
  case returned =>
    exact ⟨inv.allocated, fun k' current => by simp at current, fun k' current => by simp at current⟩

/-- The task goroutine's steps outside the select: `prepareSleep` is paired with the
`completeSleep` of the way out, and `block` keeps the entry subscribed. -/
theorem FrameInv.run (inv : FrameInv s) (was : s.call = some k) (stepped : s.run k = some s') :
    FrameInv s' := by
  cases done : k.phase.result with
  | some err => exact inv.route was done stepped
  | none =>
  have frame := inv.sleep k was
  have subscribed := inv.subscribed k was
  rcases phase : k.phase with _ | (_ | _ | _ | _) | _ | _ | _ | _ | _ <;>
    simp only [phase, Phase.result, reduceCtorEq] at done <;>
    simp only [State.run, phase, Option.some.injEq, reduceCtorEq] at stepped <;> subst stepped
  case arm =>
    refine ⟨by rw [State.arm_env]; exact inv.allocated, fun k' current => ?_,
      fun k' current => ?_⟩ <;> rw [State.arm_call, Option.some.injEq] at current <;> subst current
    · exact frame.frame (by simp) (by simp) (by simp [phase, Phase.asleep]) (fun _ => .inl phase)
        (by simp [Phase.result]) rfl rfl rfl rfl
    · exact subscribed.frame (by simp) rfl rfl rfl fun _ _ => by simp [phase, Phase.unsubscribed]
  case block.fastPath =>
    have ⟨gostate, active, balanced⟩ := frame.awake (by simp [phase, Phase.asleep])
    have ⟨unslept, notFast⟩ := frame.early (.inr phase)
    unfold State.fastPath
    split
    · refine ⟨inv.allocated, fun k' current => ?_, fun k' current => ?_⟩ <;>
        simp only [Option.some.injEq] at current <;> subst current
      · exact SleepFrame.woken (Call.afterBlock_result _ _) (by simpa using gostate)
          (by simpa using active) (by simpa using balanced) (by simp [← balanced, unslept])
          (by simp [unslept])
      · exact subscribed.leave phase rfl rfl
    · refine ⟨inv.allocated, fun k' current => ?_, fun k' current => ?_⟩ <;>
        simp only [Option.some.injEq] at current <;> subst current
      · refine ⟨fun awake => by simp [Phase.asleep] at awake, fun _ => ?_,
          fun early => by simp at early, fun done => by simp [Phase.result] at done⟩
        simp [gostate, active, ← balanced, unslept, notFast]
      · exact subscribed.frame rfl rfl rfl rfl fun _ _ => by simp [phase, Phase.unsubscribed]
  case block.gosched =>
    refine ⟨inv.allocated, fun k' current => ?_, fun k' current => ?_⟩ <;>
      simp only [State.gosched, State.withCall, Option.some.injEq] at current <;> subst current
    · exact frame.frame rfl rfl (by simp [phase, Phase.asleep]) (by simp)
        (by simp [Phase.result]) rfl rfl rfl rfl
    · exact subscribed.frame rfl rfl rfl rfl fun _ _ => by simp [phase, Phase.unsubscribed]
  case block.interruptSelf =>
    refine ⟨inv.allocated, fun k' current => ?_, fun k' current => ?_⟩ <;>
      simp only [State.reinterrupt, Option.some.injEq] at current <;> subst current
    · have interrupted : SleepFrame s.task.interruptSelf k :=
        frame.frame rfl rfl rfl id id rfl rfl rfl rfl
      exact interrupted.wake (by simp [phase, Phase.asleep]) rfl rfl rfl rfl
    · exact subscribed.leave phase rfl rfl

/-- The select's event and timer cases wake the task; its interrupt case waits for the
re-post. -/
theorem FrameInv.select {c : SelectCase} (inv : FrameInv s) (was : s.call = some k)
    (waiting : k.phase = .block .select) (stepped : s.select k c = some s') : FrameInv s' := by
  have frame := inv.sleep k was
  have subscribed := inv.subscribed k was
  have sleeping : k.phase.asleep = true := by simp [waiting, Phase.asleep]
  cases c <;> simp only [State.select] at stepped <;> split at stepped <;>
    simp only [Option.some.injEq, reduceCtorEq] at stepped <;> subst stepped <;>
    refine ⟨inv.allocated, fun k' current => ?_, fun k' current => ?_⟩ <;>
    simp only [Option.some.injEq] at current <;> subst current
  · exact frame.wake sleeping rfl rfl rfl rfl
  · exact subscribed.leave waiting rfl rfl
  · exact frame.frame rfl rfl (by simp [waiting, Phase.asleep]) (by simp [waiting])
      (by simp [Phase.result]) rfl rfl rfl rfl
  · exact subscribed.frame rfl rfl rfl rfl fun _ _ => by simp [waiting, Phase.unsubscribed]
  · have cleared : SleepFrame { s.task with blockingTimerChan := false } k :=
      frame.frame rfl rfl rfl id id rfl rfl rfl rfl
    exact cleared.wake sleeping rfl rfl rfl rfl
  · exact subscribed.leave waiting rfl rfl

/-- Other goroutines touch neither the accounting nor the subscribers. -/
theorem step_frameInv {a : Action} (inv : FrameInv s) (stepped : step s a = some s') :
    FrameInv s' := by
  rcases step_cases stepped with ⟨C, -, rfl⟩ | ⟨-, rfl⟩ | ⟨-, -, rfl⟩ | ⟨k, -, was, -, rfl⟩ |
    ⟨now, -, -, rfl⟩ | ⟨op, -, idle, rfl⟩ | ⟨k, -, was, stepped⟩ | ⟨k, c, -, was, waiting, stepped⟩
  · refine ⟨inv.allocated, fun k' current => ?_, fun k' current => ?_⟩ <;>
      obtain ⟨k, was, rfl⟩ := Option.map_eq_some'.mp current
    · split <;> exact (inv.sleep k was).frame rfl rfl rfl id id rfl rfl rfl rfl
    · split <;> exact (inv.subscribed k was).frame rfl rfl rfl rfl fun _ _ => rfl
  iterate 2
    refine ⟨inv.allocated, fun k' current => ?_, fun k' current => ?_⟩ <;>
      obtain ⟨k, was, rfl⟩ := Option.map_eq_some'.mp current
    · exact (inv.sleep k was).frame rfl rfl rfl id id rfl rfl rfl rfl
    · exact (inv.subscribed k was).frame rfl rfl rfl rfl fun _ _ => rfl
  · refine ⟨inv.allocated, fun k' current => ?_, fun k' current => ?_⟩ <;> cases current
    · exact (inv.sleep k was).frame rfl rfl rfl id id rfl rfl rfl rfl
    · exact (inv.subscribed k was).frame rfl rfl rfl rfl fun _ _ => rfl
  · exact ⟨inv.allocated, inv.sleep, fun k current => (inv.subscribed k current).frame rfl rfl rfl rfl fun _ _ => rfl⟩
  · cases op with
    | call entry => exact beginCall_frameInv inv.allocated entry
    | _ => exact ⟨inv.allocated, fun k current => by simp [State.begin, idle] at current,
        fun k current => by simp [State.begin, idle] at current⟩
  · exact inv.run was stepped
  · exact inv.select was waiting stepped

variable {s₀ : State}

theorem frameInv_of_steps (idle : s₀.call = none) (allocated : s₀.env.Allocated) (run : Steps s₀ s) :
    FrameInv s :=
  run.invariant ⟨allocated, fun k current => by simp [idle] at current,
    fun k current => by simp [idle] at current⟩ step_frameInv

/-- Over every run from a state whose subscribers were all allocated: the `On` forms'
entry is subscribed from registration until the deferred unregister; and a call that
returned, by the fast path, an event, an interrupt or a timeout, left the accounting,
the activation and the waitable's subscribers as it found them, having run
`prepareSleep` and `completeSleep` equally often, at most once, and exactly when the
fast path was not taken. A balanced uninterruptible sleep restores the task too. -/
theorem block_restores_task_frame (idle : s₀.call = none) (allocated : s₀.env.Allocated)
    (run : Steps s₀ s) :
    (∀ k, s.call = some k → ∀ w, k.entry.waitable? = some w → k.e ∉ k.obs.waitersAtEntry ∧
      s.env.waiters w = k.obs.waitersAtEntry ++ if k.phase.unsubscribed then [] else [k.e]) ∧
    (∀ k err, s.call = some k → k.phase = .returned err →
      s.task.gostate = k.obs.atEntry.gostate ∧ s.task.active = k.obs.atEntry.active ∧
      k.obs.slept = k.obs.woke ∧ k.obs.woke ≤ 1 ∧ (k.obs.slept = 1 ↔ k.obs.fastPath = false) ∧
      ∀ w, k.entry.waitable? = some w → s.env.waiters w = k.obs.waitersAtEntry) ∧
    ∀ (t : Task) (deactivate : Bool),
      (t.uninterruptibleSleepStart deactivate).uninterruptibleSleepFinish deactivate = t := by
  have inv := frameInv_of_steps idle allocated run
  refine ⟨fun k current w waitable => ⟨(inv.subscribed k current).fresh w waitable,
    (inv.subscribed k current).waiters w waitable⟩, fun k err current returned => ?_,
    Task.uninterruptibleSleepFinish_start⟩
  have done : k.phase.result ≠ none := by simp [returned, Phase.result]
  have ⟨gostate, active, balanced⟩ := (inv.sleep k current).awake (Phase.asleep_of_result
    (by simp [returned, Phase.result] : k.phase.result = some err))
  refine ⟨gostate, active, balanced, (inv.sleep k current).routed done |>.1,
    (inv.sleep k current).routed done |>.2, fun w waitable => ?_⟩
  simpa [returned, Phase.unsubscribed] using (inv.subscribed k current).waiters w waitable

/-- `BlockOn(w)` with nothing ready sleeps, is woken by a notification of its own entry
and returns with the task and the subscribers as it found them. -/
theorem block_restores_task_frame_on :
    ∃ s k, Steps readyState s ∧ s.call = some k ∧ k.phase = .returned none ∧ k.obs.slept = 1 ∧
      s.task.gostate = k.obs.atEntry.gostate ∧ s.env.waiters 7 = k.obs.waitersAtEntry := by
  have run : Steps readyState _ :=
    .tail (.tail (.tail (.tail (.tail (.single ⟨.begin (.call (.blockOn 7)), rfl⟩) ⟨.run, rfl⟩)
      ⟨.run, rfl⟩) ⟨.post 1, rfl⟩) ⟨.select .event, rfl⟩) ⟨.run, rfl⟩
  have back := (block_restores_task_frame rfl (by simp [readyState, Env.Allocated]) run).2.1 _ _ rfl rfl
  exact ⟨_, _, run, rfl, rfl, back.2.2.2.2.1.mpr rfl, back.1, back.2.2.2.2.2 7 rfl⟩

end Sentry.Kernel
