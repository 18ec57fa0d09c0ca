import Sentry.Kernel.TaskBlock.Contract

namespace Sentry.Kernel

/-! # No stale timer expiries

The deadline forms arm a one-shot timer that posts to `t.blockingTimerChan`, and on
the way out disarm it with `Set`, draining the channel when `Set` reports that the
timer already fired. A fire is atomic with respect to `Set`. So between calls the
channel is empty and no timer is armed, and a call sees an expiry only from the timer
it armed itself: `ETIMEDOUT` and the stale-timer `runtime.Gosched()` both need a fire
during the call, after its arm.
-/

/-- How far a call is with its deadline timer; it is armed in the `window`, from `block`
until `Set` disarms it. -/
inductive TimerStage
  | before
  | window
  | draining
  | after
deriving DecidableEq, Repr

def Phase.timerStage : Phase → TimerStage
  | .arm => .before
  | .block _ | .disarm _ => .window
  | .drain _ => .draining
  | .clockEnd _ | .unregister _ | .returned _ => .after

namespace Call

variable (k : Call) (t : Task)

/-- A call without a deadline is past its timer throughout. -/
def timerStage : TimerStage := if k.entry.deadline = .none then .after else k.phase.timerStage

/-- The timer the call arms is enabled. -/
def armed : Bool := if k.entry.deadline = .generic then k.timer else t.blockingTimer

/-- The timer the call does not use is disabled. -/
def otherOff : Prop := if k.entry.deadline = .generic then t.blockingTimer = false else k.timer = false

end Call

/-- What the call in progress may have done to the timers and their channel. -/
structure TimerClean (t : Task) (k : Call) : Prop where
  quiet : k.timerStage = .before ∨ k.timerStage = .after →
    t.blockingTimerChan = false ∧ t.blockingTimer = false ∧ k.timer = false
  window : k.timerStage = .window →
    k.otherOff t ∧ k.armed t = !k.obs.fired ∧ (t.blockingTimerChan = true → k.obs.fired = true)
  draining : k.timerStage = .draining →
    t.blockingTimer = false ∧ k.timer = false ∧ k.obs.fired = true
  direct : k.entry.deadline = .none → k.phase ≠ .arm
  yielded : k.obs.yielded = true → k.obs.fired = true
  received : k.obs.timerReceived = true → k.obs.fired = true
  ownFire : k.obs.fired = true → k.entry.deadline ≠ .none ∧ k.timerStage ≠ .before

/-- Between calls the channel is empty and the task's timer off; a call's generic
timer lives and dies with the call. -/
structure TimerInv (s : State) : Prop where
  idle : s.call = none → s.task.blockingTimerChan = false ∧ s.task.blockingTimer = false
  clean : ∀ k, s.call = some k → TimerClean s.task k

variable {t t' : Task} {k k' : Call}

/-- The invariant reads the timers, their channel, the call's stage and what it
recorded of fires, yields and receives. -/
theorem TimerClean.frame (clean : TimerClean t k) (channel : t'.blockingTimerChan = t.blockingTimerChan)
    (sampled : t'.blockingTimer = t.blockingTimer) (entry : k'.entry = k.entry)
    (stage : k'.timerStage = k.timerStage) (arm : k'.phase = .arm → k.phase = .arm)
    (timer : k'.timer = k.timer) (fired : k'.obs.fired = k.obs.fired)
    (yielded : k'.obs.yielded = k.obs.yielded)
    (received : k'.obs.timerReceived = k.obs.timerReceived) : TimerClean t' k' := by
  obtain ⟨quiet, window, draining, direct, wasYielded, wasReceived, ownFire⟩ := clean
  refine ⟨fun still => ?_, fun armed => ?_, fun drained => ?_,
    fun none armed => direct (entry ▸ none) (arm armed),
    fun yield => fired ▸ wasYielded (yielded ▸ yield), fun took => fired ▸ wasReceived (received ▸ took),
    fun fire => by rw [entry, stage]; exact ownFire (fired ▸ fire)⟩
  · rw [channel, sampled, timer]
    exact quiet (stage ▸ still)
  · simpa only [Call.otherOff, Call.armed, entry, sampled, timer, fired, channel] using
      window (stage ▸ armed)
  · rw [sampled, timer, fired]
    exact draining (stage ▸ drained)

theorem Call.timerStage_window (inWindow : k.timerStage = .window) : k.entry.deadline ≠ .none := by
  intro none
  simp [Call.timerStage, none] at inWindow

/-- A call inside its window: its timer is on exactly until it fires. -/
theorem TimerClean.of_window (inWindow : k.timerStage = .window) (other : k.otherOff t)
    (armed : k.armed t = !k.obs.fired) (channel : t.blockingTimerChan = true → k.obs.fired = true)
    (yielded : k.obs.yielded = true → k.obs.fired = true)
    (received : k.obs.timerReceived = true → k.obs.fired = true) : TimerClean t k :=
  ⟨fun still => by simp [inWindow] at still, fun _ => ⟨other, armed, channel⟩,
    fun drained => by simp [inWindow] at drained,
    fun none => absurd none (Call.timerStage_window inWindow), yielded, received,
    fun _ => ⟨Call.timerStage_window inWindow, by simp [inWindow]⟩⟩

/-- A call past its timer: the channel is empty and both timers are off. -/
theorem TimerClean.of_after (past : k.timerStage = .after) (channel : t.blockingTimerChan = false)
    (sampled : t.blockingTimer = false) (timer : k.timer = false)
    (direct : k.entry.deadline = .none → k.phase ≠ .arm)
    (yielded : k.obs.yielded = true → k.obs.fired = true)
    (received : k.obs.timerReceived = true → k.obs.fired = true)
    (ownFire : k.obs.fired = true → k.entry.deadline ≠ .none) : TimerClean t k :=
  ⟨fun _ => ⟨channel, sampled, timer⟩, fun inWindow => by simp [past] at inWindow,
    fun drained => by simp [past] at drained, direct, yielded, received,
    fun fire => ⟨ownFire fire, by simp [past]⟩⟩

/-- A call whose timer fired before `Set` disarmed it, about to drain the channel. -/
theorem TimerClean.of_draining (drained : k.timerStage = .draining)
    (sampled : t.blockingTimer = false) (timer : k.timer = false) (fired : k.obs.fired = true) :
    TimerClean t k :=
  have timed : k.entry.deadline ≠ .none := fun none => by simp [Call.timerStage, none] at drained
  ⟨fun still => by simp [drained] at still, fun inWindow => by simp [drained] at inWindow,
    fun _ => ⟨sampled, timer, fired⟩, fun none => absurd none timed,
    fun _ => fired, fun _ => fired, fun _ => ⟨timed, by simp [drained]⟩⟩

/-- A timer that is on belongs to a call inside its window that has seen no fire. -/
theorem TimerClean.on_window (clean : TimerClean t k)
    (enabled : t.blockingTimer = true ∨ k.timer = true) :
    k.timerStage = .window ∧ k.armed t = true ∧ k.obs.fired = false := by
  have inWindow : k.timerStage = .window := by
    cases stage : k.timerStage with
    | window => rfl
    | draining =>
        have ⟨sampled, timer, _⟩ := clean.draining stage
        simp [sampled, timer] at enabled
    | _ =>
        have ⟨_, sampled, timer⟩ := clean.quiet (by simp [stage])
        simp [sampled, timer] at enabled
  have ⟨other, armed, _⟩ := clean.window inWindow
  have armedOn : k.armed t = true := by
    unfold Call.otherOff at other
    unfold Call.armed
    split at other <;> simp_all
  exact ⟨inWindow, armedOn, by simpa [armedOn] using armed.symm⟩

namespace Call

variable (k) (err : Option Errno)

@[simp] theorem afterTimeout_timerStage : (k.afterTimeout err).timerStage = .after := by
  unfold timerStage afterTimeout
  split <;> (try split) <;> rfl

@[simp] theorem afterDeadline_timerStage : (k.afterDeadline err).timerStage = .after := by
  unfold timerStage
  split
  · rfl
  · unfold afterDeadline afterTimeout
    split <;> (try split) <;> (try split) <;> rfl

theorem afterBlock_timerStage :
    (k.afterBlock err).timerStage = if k.entry.deadline = .none then .after else .window := by
  unfold afterBlock
  split
  · simp [*]
  · simp [timerStage, *]
    rfl

end Call

/-- Outside its window a call has both timers off. -/
theorem TimerClean.off (clean : TimerClean t k) (outside : k.timerStage ≠ .window) :
    t.blockingTimer = false ∧ k.timer = false := by
  cases stage : k.timerStage with
  | window => exact absurd stage outside
  | draining => exact ⟨(clean.draining stage).1, (clean.draining stage).2.1⟩
  | _ => exact ⟨(clean.quiet (by simp [stage])).2.1, (clean.quiet (by simp [stage])).2.2⟩

variable {s s' : State}

theorem Call.timerStage_block {pc : BlockPc} (phase : k.phase = .block pc) :
    k.timerStage = if k.entry.deadline = .none then .after else .window := by
  simp [Call.timerStage, phase, Phase.timerStage]

/-- Arming turns on the call's own timer, and nothing else. -/
theorem TimerClean.arm (clean : TimerClean s.task k) (phase : k.phase = .arm) :
    TimerClean (s.arm k).task
      { k with timer := k.timer || k.entry.deadline = .generic, phase := .block .fastPath } := by
  have timed : k.entry.deadline ≠ .none := fun none => clean.direct none phase
  have before : k.timerStage = .before := by simp [Call.timerStage, timed, phase, Phase.timerStage]
  have ⟨channel, sampled, timer⟩ := clean.quiet (.inl before)
  have unfired : k.obs.fired = false := by
    cases fired : k.obs.fired
    · rfl
    · exact absurd before (clean.ownFire fired).2
  refine TimerClean.of_window (by simp [Call.timerStage, timed, Phase.timerStage]) ?_ ?_
    (by simp [channel]) clean.yielded clean.received
  · unfold Call.otherOff; split <;> simp_all
  · unfold Call.armed; split <;> simp_all

/-- Leaving `block` moves the call on to disarming, or past its timer when it has none. -/
theorem TimerClean.leave {t' : Task} {pc : BlockPc} {f : Observations → Observations} {err : Option Errno}
    (clean : TimerClean t k) (phase : k.phase = .block pc)
    (channel : t'.blockingTimerChan = t.blockingTimerChan) (sampled : t'.blockingTimer = t.blockingTimer)
    (fired : (f k.obs).fired = k.obs.fired) (yielded : (f k.obs).yielded = k.obs.yielded)
    (received : (f k.obs).timerReceived = k.obs.timerReceived) :
    TimerClean t' ((k.observe f).afterBlock err) :=
  clean.frame channel sampled (by simp) (by
    rw [Call.afterBlock_timerStage, Call.timerStage_block phase]; rfl)
    (fun arm => absurd arm (Call.afterBlock_ne_arm _ _)) (by simp) (by simp [fired])
    (by simp [yielded]) (by simp [received])

/-- Inside its window, a timer that has not fired has posted nothing. -/
theorem TimerClean.channel_empty (clean : TimerClean t k) (inWindow : k.timerStage = .window)
    (unfired : k.obs.fired = false) : t.blockingTimerChan = false := by
  cases channel : t.blockingTimerChan
  · rfl
  · simp [(clean.window inWindow).2.2 channel] at unfired

/-- `Set` on a timer that has not fired: the call is past its timer with both timers off
and the channel empty. -/
theorem TimerClean.disarmed (clean : TimerClean t k) (inWindow : k.timerStage = .window)
    (unfired : k.obs.fired = false) (past : k'.timerStage = .after) (timer : k'.timer = false)
    (entry : k'.entry = k.entry) (obs : k'.obs = k.obs)
    (sampled : t.blockingTimer = false ∨ k.entry.deadline ≠ .generic) :
    TimerClean (if k.entry.deadline = .generic then t else { t with blockingTimer := false }) k' := by
  have timed := Call.timerStage_window inWindow
  refine TimerClean.of_after past ?_ ?_ timer (fun none => absurd (entry ▸ none) timed)
    (by simpa [obs] using clean.yielded) (by simpa [obs] using clean.received) (by simp [obs, unfired])
  · split <;> simp [clean.channel_empty inWindow unfired]
  · split <;> simp_all

/-- `Set` turns the call's timer off; the channel is drained next exactly when it fired. -/
theorem TimerClean.disarm {err : Option Errno} (clean : TimerClean s.task k)
    (phase : k.phase = .disarm err) :
    TimerClean (s.disarm k err).task
      (if k.entry.deadline = .generic then
        (if k.timer then { k with timer := false }.afterDeadline err else { k with phase := .drain err })
      else if s.task.blockingTimer then k.afterDeadline err else { k with phase := .drain err }) := by
  rw [State.disarm_task]
  by_cases none : k.entry.deadline = .none
  · have ⟨channel, sampled, timer⟩ := clean.quiet (.inr (by simp [Call.timerStage, none]))
    simp only [none, reduceCtorEq, if_false, sampled, Bool.false_eq_true]
    exact TimerClean.of_after (by simp [Call.timerStage, none]) channel rfl timer (fun _ => nofun)
      clean.yielded clean.received (fun fire => (clean.ownFire fire).1)
  have inWindow : k.timerStage = .window := by simp [Call.timerStage, none, phase, Phase.timerStage]
  have draining : ({ k with phase := .drain err } : Call).timerStage = .draining := by
    simp [Call.timerStage, none, Phase.timerStage]
  obtain ⟨other, armed, -⟩ := clean.window inWindow
  by_cases generic : k.entry.deadline = .generic
  · simp only [Call.otherOff, Call.armed, generic, if_true] at other armed ⊢
    by_cases enabled : k.timer = true
    · have unfired : k.obs.fired = false := by simpa [enabled] using armed.symm
      simpa [generic, enabled] using
        clean.disarmed inWindow unfired (by simp) (by simp) (by simp) (by simp) (.inl other)
    · simp only [enabled, if_false]
      exact TimerClean.of_draining draining other (by simp [enabled])
        (by simpa [enabled] using armed.symm)
  · simp only [Call.otherOff, Call.armed, generic, if_false] at other armed ⊢
    by_cases enabled : s.task.blockingTimer = true
    · have unfired : k.obs.fired = false := by simpa [enabled] using armed.symm
      simpa [generic, enabled] using
        clean.disarmed inWindow unfired (by simp) (by simpa using other) (by simp) (by simp) (.inr generic)
    · simp only [enabled, if_false]
      exact TimerClean.of_draining draining rfl other (by simpa [enabled] using armed.symm)

/-- The stale-timer yield happens only when the call's own timer has fired. -/
theorem TimerClean.gosched (clean : TimerClean t k) (phase : k.phase = .block .gosched) :
    TimerClean t { k.observe (fun o => { o with
      yielded := o.yielded || (k.entry.deadline ≠ .none && t.blockingTimerChan) }) with
        phase := .block .select } := by
  by_cases none : k.entry.deadline = .none
  · exact clean.frame rfl rfl rfl (by simp [Call.timerStage, none]) nofun rfl rfl (by simp [none]) rfl
  · have inWindow : k.timerStage = .window := by
      simp [Call.timerStage, none, phase, Phase.timerStage]
    have ⟨other, armed, channel⟩ := clean.window inWindow
    refine TimerClean.of_window (by simp [Call.timerStage, none, Phase.timerStage])
      (by simpa [Call.otherOff] using other) (by simpa [Call.armed] using armed) (by simpa using channel)
      (fun yielded => ?_) (by simpa using clean.received)
    simp only [Call.observe_obs, Bool.or_eq_true, Bool.and_eq_true] at yielded ⊢
    exact yielded.elim clean.yielded fun stale => channel stale.2

/-- Receiving from the timer channel needs the call's own timer to have fired. -/
theorem TimerClean.receive {f : Observations → Observations} (clean : TimerClean t k)
    {pc : BlockPc} (phase : k.phase = .block pc) (timed : k.entry.deadline ≠ .none)
    (channel : t.blockingTimerChan = true) (fired : (f k.obs).fired = k.obs.fired) :
    TimerClean { t with blockingTimerChan := false }.completeSleep
      ((k.observe f).afterBlock (some .etimedout)) := by
  have inWindow : k.timerStage = .window := by
    simp [Call.timerStage, timed, phase, Phase.timerStage]
  have ⟨other, armed, wasFired⟩ := clean.window inWindow
  have fire := wasFired channel
  have stage : ((k.observe f).afterBlock (some .etimedout)).timerStage = .window := by
    simp [Call.afterBlock_timerStage, timed]
  refine TimerClean.of_window stage ?_ ?_ (by simp) (by simp [fired, fire]) (by simp [fired, fire])
  · unfold Call.otherOff at other ⊢; split <;> simp_all
  · unfold Call.armed at armed ⊢; split <;> simp_all

/-- The task goroutine's steps outside the select keep the timers clean. -/
theorem TimerClean.run (clean : TimerClean s.task k) (stepped : s.run k = some s') : TimerInv s' := by
  rcases phase : k.phase with _ | (_ | _ | _ | _) | err | err | err | err | err <;>
    simp only [State.run, phase, Option.some.injEq, reduceCtorEq] at stepped <;> subst stepped
  case returned =>
    have ⟨channel, sampled, _⟩ := clean.quiet (.inr (by simp [Call.timerStage, phase, Phase.timerStage]))
    exact ⟨fun _ => ⟨channel, sampled⟩, fun k' current => by simp at current⟩
  case block.fastPath =>
    unfold State.fastPath
    split
    · refine ⟨by simp, fun k' current => ?_⟩
      simp only [Option.some.injEq] at current
      subst current
      exact clean.leave phase rfl rfl rfl rfl rfl
    · refine ⟨by simp, fun k' current => ?_⟩
      simp only [Option.some.injEq] at current
      subst current
      exact clean.frame rfl rfl rfl (by simp [Call.timerStage, phase, Phase.timerStage]) nofun rfl rfl rfl rfl
  all_goals refine ⟨by simp [State.gosched, State.reinterrupt, State.disarm_call, State.drain,
    State.clockEnd, State.withCall], fun k' current => ?_⟩
  all_goals simp only [State.arm_call, State.gosched, State.reinterrupt, State.disarm_call, State.drain,
    State.clockEnd, State.unregister_call, State.withCall, Option.some.injEq] at current
  all_goals subst current
  case arm => exact clean.arm phase
  case block.gosched => exact clean.gosched phase
  case block.interruptSelf =>
    exact clean.leave phase (Task.completeSleep_blockingTimerChan _) (Task.completeSleep_blockingTimer _)
      rfl rfl rfl
  case disarm => exact clean.disarm phase
  case drain =>
    have ⟨sampled, timer⟩ := clean.off (by unfold Call.timerStage; split <;> simp [phase, Phase.timerStage])
    exact TimerClean.of_after (by simp) rfl sampled (by simpa using timer)
      (fun _ => Call.afterDeadline_ne_arm _ _) (by simpa using clean.yielded)
      (by simpa using clean.received) (by simpa using fun fire => (clean.ownFire fire).1)
  case clockEnd =>
    exact clean.frame rfl rfl (by simp)
      (by rw [Call.afterTimeout_timerStage]; simp [Call.timerStage, phase, Phase.timerStage])
      (fun arm => absurd arm (Call.afterTimeout_ne_arm _ _)) (by simp) (by simp) (by simp) (by simp)
  case unregister =>
    exact clean.frame (by simp) (by simp) rfl (by simp [Call.timerStage, phase, Phase.timerStage])
      (by simp) rfl rfl rfl rfl

/-- The select's cases keep the timers clean: the timer case receives the call's own fire. -/
theorem TimerClean.select {c : SelectCase} (clean : TimerClean s.task k)
    (waiting : k.phase = .block .select) (stepped : s.select k c = some s') : TimerInv s' := by
  cases c <;> simp only [State.select] at stepped <;> split at stepped <;>
    simp only [Option.some.injEq, reduceCtorEq] at stepped <;> subst stepped <;>
    refine ⟨by simp, fun k' current => ?_⟩ <;>
    simp only [Option.some.injEq] at current <;> subst current
  case event.isTrue => exact clean.leave waiting (by simp) (by simp) rfl rfl rfl
  case interrupt.isTrue =>
    exact clean.frame rfl rfl rfl (by simp [Call.timerStage, waiting, Phase.timerStage]) nofun rfl rfl rfl rfl
  case timer.isTrue ready =>
    simp only [Bool.and_eq_true, decide_eq_true_eq] at ready
    exact clean.receive waiting ready.1 ready.2 rfl

/-- A fire is the call's own: only the timer the call armed can be enabled. -/
theorem step_timerInv {a : Action} (inv : TimerInv s) (stepped : step s a = some s') :
    TimerInv s' := by
  rcases step_cases stepped with ⟨C, -, rfl⟩ | ⟨-, rfl⟩ | ⟨-, enabled, rfl⟩ | ⟨k, -, was, enabled, rfl⟩ |
    ⟨now, -, -, rfl⟩ | ⟨op, -, idle, rfl⟩ | ⟨k, -, was, stepped⟩ | ⟨k, c, -, was, waiting, stepped⟩
  · refine ⟨fun idle => inv.idle (by simpa using idle), fun k' current => ?_⟩
    obtain ⟨k, was, rfl⟩ := Option.map_eq_some'.mp current
    split <;> exact (inv.clean k was).frame rfl rfl rfl rfl id rfl rfl rfl rfl
  · refine ⟨fun idle => inv.idle (by simpa using idle), fun k' current => ?_⟩
    obtain ⟨k, was, rfl⟩ := Option.map_eq_some'.mp current
    exact (inv.clean k was).frame rfl rfl rfl rfl id rfl rfl rfl rfl
  · cases was : s.call with
    | none => simp [(inv.idle was).2] at enabled
    | some k =>
      refine ⟨by simp [was], fun k' current => ?_⟩
      simp only [was, Option.map_some', Option.some.injEq] at current
      subst current
      have clean := inv.clean k was
      obtain ⟨inWindow, armed, -⟩ := clean.on_window (.inl enabled)
      have other := (clean.window inWindow).1
      have sampled : k.entry.deadline ≠ .generic := fun generic => by
        simp [Call.otherOff, generic, enabled] at other
      exact TimerClean.of_window inWindow (by simpa [Call.otherOff, sampled] using other)
        (by simp [Call.armed, sampled]) (fun _ => rfl) (fun _ => rfl) (fun _ => rfl)
  · refine ⟨by simp, fun k' current => ?_⟩
    simp only [Option.some.injEq] at current
    subst current
    have clean := inv.clean k was
    obtain ⟨inWindow, armed, -⟩ := clean.on_window (.inr enabled)
    have other := (clean.window inWindow).1
    have generic : k.entry.deadline = .generic := by
      by_contra sampled
      simp [Call.otherOff, sampled, enabled] at other
    exact TimerClean.of_window inWindow (by simpa [Call.otherOff, generic] using other)
      (by simp [Call.armed, generic]) (fun _ => rfl) (fun _ => rfl) (fun _ => rfl)
  · exact ⟨inv.idle, fun k' current => (inv.clean k' current).frame rfl rfl rfl rfl id rfl rfl rfl rfl⟩
  · have ⟨channel, sampled⟩ := inv.idle idle
    cases op with
    | call entry =>
      refine ⟨by simp [State.begin, State.beginCall], fun k' current => ?_⟩
      simp only [State.begin, State.beginCall, Option.some.injEq] at current
      subst current
      by_cases none : entry.deadline = .none
      · exact TimerClean.of_after (by simp [Call.timerStage, none]) channel sampled rfl
          (by simp [none]) nofun nofun nofun
      · refine ⟨fun _ => ⟨channel, sampled, rfl⟩, fun inWindow => ?_, fun drained => ?_,
          fun none' => absurd none' none, nofun, nofun, nofun⟩ <;>
          simp [Call.timerStage, none, Phase.timerStage] at *
    | _ =>
      exact ⟨fun _ => by simp [State.begin, Task.unsetInterrupted, Task.interruptSelf, channel, sampled],
        fun k' current => by simp [State.begin, idle] at current⟩
  · exact (inv.clean k was).run stepped
  · exact (inv.clean k was).select waiting stepped

variable {s₀ : State}

theorem timerInv_of_steps (idle : s₀.call = none)
    (quiet : s₀.task.blockingTimerChan = false ∧ s₀.task.blockingTimer = false) (run : Steps s₀ s) :
    TimerInv s :=
  run.invariant ⟨fun _ => quiet, fun k current => by simp [idle] at current⟩ step_timerInv

/-- From a task whose timer channel is empty and whose timer is off, over every run of
deadline calls with the timers firing at any moment: between calls the channel is
empty and no timer is armed, so a returned call has left both off; a call yields to a
stale timer, receives from the timer channel or returns `ETIMEDOUT` only once a timer
it armed itself has fired; and every timer that is on belongs to the call in progress,
inside its window, and has not fired yet. -/
theorem no_stale_timer_expiry (idle : s₀.call = none)
    (quiet : s₀.task.blockingTimerChan = false ∧ s₀.task.blockingTimer = false) (run : Steps s₀ s) :
    (s.call = none → s.task.blockingTimerChan = false ∧ s.task.blockingTimer = false) ∧
    (∀ k err, s.call = some k → k.phase = .returned err →
      s.task.blockingTimerChan = false ∧ s.task.blockingTimer = false ∧ k.timer = false) ∧
    (∀ k, s.call = some k →
      (k.obs.yielded = true ∨ k.obs.timerReceived = true ∨ k.phase.result = some (some .etimedout)) →
      k.obs.fired = true ∧ k.entry.deadline ≠ .none) ∧
    (∀ k, s.call = some k → (s.task.blockingTimer = true ∨ k.timer = true) →
      k.timerStage = .window ∧ k.obs.fired = false) := by
  have inv := timerInv_of_steps idle quiet run
  refine ⟨inv.idle, fun k err current returned => ?_, fun k current sign => ?_,
    fun k current enabled => ?_⟩
  · exact (inv.clean k current).quiet (.inr (by
      unfold Call.timerStage; split <;> simp [returned, Phase.timerStage]))
  · have clean := inv.clean k current
    have fire : k.obs.fired = true := by
      rcases sign with yielded | received | timedOut
      · exact clean.yielded yielded
      · exact clean.received received
      · exact clean.received ((contractInv_of_steps idle run k current).outcome _ timedOut
          |>.etimedout_received rfl)
    exact ⟨fire, (clean.ownFire fire).1⟩
  · obtain ⟨inWindow, -, unfired⟩ := (inv.clean k current).on_window enabled
    exact ⟨inWindow, unfired⟩

/-- `BlockWithTimeout` on an empty channel: the timer it armed fires while it sleeps, so
it yields to it, receives its expiry, drains nothing more and returns `ETIMEDOUT` with
the channel empty and the timer off. -/
theorem no_stale_timer_expiry_own_fire :
    ∃ s k, Steps idleState s ∧ s.call = some k ∧ k.phase = .returned (some .etimedout) ∧
      k.obs.yielded = true ∧ k.obs.fired = true ∧ s.task.blockingTimerChan = false ∧
      s.task.blockingTimer = false := by
  have run : Steps idleState _ :=
    .tail (.tail (.tail (.tail (.tail (.tail (.tail
      (.single ⟨.begin (.call (.blockWithTimeout 0 true 0)), rfl⟩) ⟨.run, rfl⟩) ⟨.run, rfl⟩)
      ⟨.fireBlockingTimer, rfl⟩) ⟨.run, rfl⟩) ⟨.select .timer, rfl⟩) ⟨.run, rfl⟩) ⟨.run, rfl⟩
  have hygiene := no_stale_timer_expiry rfl ⟨rfl, rfl⟩ run
  have off := hygiene.2.1 _ _ rfl rfl
  exact ⟨_, _, run, rfl, rfl, rfl, (hygiene.2.2.1 _ rfl (.inl rfl)).1, off.1, off.2.1⟩

end Sentry.Kernel
