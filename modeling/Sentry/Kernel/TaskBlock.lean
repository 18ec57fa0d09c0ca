import Sentry.Kernel.TaskState
import Mathlib.Logic.Relation

namespace Sentry.Kernel

open Sentry.Ktime

/-! # The block core

A `Block*` call runs on the task goroutine as a sequence of atomic steps: each
channel operation, each timer `Set` and each clock reading is one step, and the
task-local work between two of them (`prepareSleep`, `completeSleep`, the deferred
calls) is folded into the nearest one. Other goroutines send on channels, call
`t.interrupt()`, fire the timers and advance the clock between any two steps.
`step` is one move of either side; the select's choice among its ready cases is
part of the action.

Timers fire at any moment while armed: the model keeps no deadline, so every
interleaving the real deadlines allow is among its runs.
-/

/-- The timer an entry point arms around `block`: none, `t.blockingTimer` in
`blockWithDeadlineFromSampledClock`, or the `clock.NewTimer` of `BlockWithDeadlineFrom`
for a clock that is not sampled. -/
inductive Deadline
  | none
  | sampled
  | generic
deriving DecidableEq, Repr

/-- The `Block*` entry points with the arguments that steer them. -/
inductive Entry
  | block (C : Nat)
  | blockOn (w : Nat)
  | blockWithDeadline (C : Nat) (haveDeadline : Bool)
  | blockWithDeadlineFrom (C : Nat) (sampledClock haveDeadline : Bool)
  | blockWithTimeout (C : Nat) (haveTimeout : Bool) (timeout : Duration)
  | blockWithTimeoutOn (w : Nat) (timeout : Duration)
deriving DecidableEq, Repr

namespace Entry

def deadline : Entry → Deadline
  | block _ | blockOn _ => .none
  | blockWithDeadline _ haveDeadline => if haveDeadline then .sampled else .none
  | blockWithDeadlineFrom _ sampledClock haveDeadline =>
      if haveDeadline then (if sampledClock then .sampled else .generic) else .none
  | blockWithTimeout _ haveTimeout _ => if haveTimeout then .sampled else .none
  | blockWithTimeoutOn _ _ => .sampled

/-- The entry points that measure the remaining timeout. -/
def measures : Entry → Bool
  | blockWithTimeout _ haveTimeout _ => haveTimeout
  | blockWithTimeoutOn _ _ => true
  | _ => false

def timeout : Entry → Duration
  | blockWithTimeout _ _ timeout | blockWithTimeoutOn _ timeout => timeout
  | _ => 0

/-- The waitable `BlockOn` and `BlockWithTimeoutOn` subscribe to. -/
def waitable? : Entry → Option Nat
  | blockOn w | blockWithTimeoutOn w _ => some w
  | _ => none

/-- The channel handed to `block`: the argument `C`, or the channel of the waiter
entry allocated at address `fresh`. -/
def chan (fresh : Nat) : Entry → Nat
  | block C | blockWithDeadline C _ | blockWithDeadlineFrom C _ _ | blockWithTimeout C _ _ => C
  | blockOn _ | blockWithTimeoutOn _ _ => fresh

end Entry

/-- `BlockWithTimeout`'s return once the deadline block returned `err`, with `start`
and `stop` its two readings of the clock. -/
def blockWithTimeoutResult (timeout : Duration) (start stop : Time) (err : Option Errno) :
    Duration × Option Errno :=
  if err = some .etimedout then (0, err)
  else
    let remainingTimeout := timeout - Time.sub stop start
    (if remainingTimeout.val < 0 then 0 else remainingTimeout, err)

/-- Where `block` is in its body: the fast-path select, the stale-timer
`runtime.Gosched()`, the select on `C`, `t.interruptChan` and `timerChan`, and the
`t.interruptSelf()` after its interrupt case. -/
inductive BlockPc
  | fastPath
  | gosched
  | select
  | interruptSelf
deriving DecidableEq, Repr

/-- Where a `Block*` call is. The phases after `block` carry the error it returned:
`timer.Set(ktime.Setting{}, nil)`, the drain of `t.blockingTimerChan`, `end :=
clock.Now()`, the deferred `w.EventUnregister(&e)`, and the return. -/
inductive Phase
  | arm
  | block (pc : BlockPc)
  | disarm (err : Option Errno)
  | drain (err : Option Errno)
  | clockEnd (err : Option Errno)
  | unregister (err : Option Errno)
  | returned (err : Option Errno)
deriving DecidableEq, Repr

namespace Phase

/-- The error `block` returned, once it has returned. -/
def result : Phase → Option (Option Errno)
  | arm | block _ => none
  | disarm err | drain err | clockEnd err | unregister err | returned err => some err

/-- Between `prepareSleep` and the return of `block`. -/
def asleep : Phase → Bool
  | block .gosched | block .select | block .interruptSelf => true
  | _ => false

theorem ne_arm_of_result {phase : Phase} {err : Option Errno} (result : phase.result = some err) :
    phase ≠ .arm := by
  rintro rfl
  simp [Phase.result] at result

end Phase

inductive SelectCase
  | event
  | interrupt
  | timer
deriving DecidableEq, Repr

/-- What `block` returns after its select takes each case. -/
def SelectCase.err : SelectCase → Option Errno
  | .event => none
  | .interrupt => some .errInterrupted
  | .timer => some .etimedout

/-- What a call did, recorded for stating its contract; no step reads it. `pending` is
what `C` held at entry and `posted` what other goroutines sent on it since; `taken`
counts the call's receives from `C`, `slept` and `woke` its runs of `prepareSleep` and
`completeSleep`; `interruptSeen` says the slot was full at entry or an `interrupt()`
completed since, `selected` which case the select took. -/
structure Observations where
  pending : Nat
  posted : Nat
  taken : Nat
  fastPath : Bool
  slept : Nat
  woke : Nat
  yielded : Bool
  timerReceived : Bool
  interruptSeen : Bool
  fired : Bool
  selected : Option SelectCase
  atEntry : Task
  waitersAtEntry : List Nat

/-- A `Block*` call in progress: the channel `C` it blocks on, the waiter entry `e` the
`On` forms registered, whether the generic timer is enabled, `BlockWithTimeout`'s
`start := clock.Now()` and `end := clock.Now()` (`stop`, once read), and the remaining
timeout it returns. -/
structure Call where
  entry : Entry
  phase : Phase
  C : Nat
  e : Nat
  timer : Bool
  start : Time
  stop : Option Time
  left : Duration
  obs : Observations

namespace Call

variable (k : Call)

def observe (f : Observations → Observations) : Call := { k with obs := f k.obs }

def afterTimeout (err : Option Errno) : Call :=
  match k.entry.waitable? with
  | some _ => { k with phase := .unregister err }
  | none => { k with phase := .returned err }

/-- Control returns to `BlockWithTimeout`, which answers a timeout with a remaining
duration of `0` and reads the clock otherwise. -/
def afterDeadline (err : Option Errno) : Call :=
  if k.entry.measures then
    if err = some .etimedout then { k with left := 0 }.afterTimeout err
    else { k with phase := .clockEnd err }
  else k.afterTimeout err

/-- `block` returned `err`: the deadline forms disarm their timer next. -/
def afterBlock (err : Option Errno) : Call :=
  if k.entry.deadline = .none then k.afterDeadline err else { k with phase := .disarm err }

/-- Every route out of `block` keeps the call's data and carries `err` along. -/
theorem afterTimeout_eq (err : Option Errno) : ∃ phase, k.afterTimeout err = { k with phase } ∧
    phase.result = some err ∧ phase.asleep = false := by
  unfold afterTimeout
  split <;> exact ⟨_, rfl, rfl, rfl⟩

theorem afterDeadline_eq (err : Option Errno) :
    ∃ phase left, k.afterDeadline err = { k with phase, left } ∧
      phase.result = some err ∧ phase.asleep = false := by
  unfold afterDeadline
  split
  · split
    · obtain ⟨phase, routed, result, awake⟩ := afterTimeout_eq { k with left := 0 } err
      exact ⟨phase, 0, routed, result, awake⟩
    · exact ⟨_, k.left, rfl, rfl, rfl⟩
  · obtain ⟨phase, routed, result, awake⟩ := afterTimeout_eq k err
    exact ⟨phase, k.left, routed, result, awake⟩

theorem afterBlock_eq (err : Option Errno) :
    ∃ phase left, k.afterBlock err = { k with phase, left } ∧
      phase.result = some err ∧ phase.asleep = false := by
  unfold afterBlock
  split
  · exact afterDeadline_eq k err
  · exact ⟨_, k.left, rfl, rfl, rfl⟩

variable (err : Option Errno)

@[simp] theorem afterTimeout_timer : (k.afterTimeout err).timer = k.timer := by
  unfold afterTimeout; split <;> rfl

@[simp] theorem afterDeadline_timer : (k.afterDeadline err).timer = k.timer := by
  unfold afterDeadline; split <;> (try split) <;> simp

@[simp] theorem afterBlock_timer : (k.afterBlock err).timer = k.timer := by
  unfold afterBlock; split <;> simp

@[simp] theorem afterTimeout_entry : (k.afterTimeout err).entry = k.entry := by
  unfold afterTimeout; split <;> rfl

@[simp] theorem afterDeadline_entry : (k.afterDeadline err).entry = k.entry := by
  unfold afterDeadline; split <;> (try split) <;> simp

@[simp] theorem afterBlock_entry : (k.afterBlock err).entry = k.entry := by
  unfold afterBlock; split <;> simp

@[simp] theorem afterTimeout_e : (k.afterTimeout err).e = k.e := by
  unfold afterTimeout; split <;> rfl

@[simp] theorem afterDeadline_e : (k.afterDeadline err).e = k.e := by
  unfold afterDeadline; split <;> (try split) <;> simp

@[simp] theorem afterBlock_e : (k.afterBlock err).e = k.e := by
  unfold afterBlock; split <;> simp

@[simp] theorem afterTimeout_start : (k.afterTimeout err).start = k.start := by
  unfold afterTimeout; split <;> rfl

@[simp] theorem afterDeadline_start : (k.afterDeadline err).start = k.start := by
  unfold afterDeadline; split <;> (try split) <;> simp

@[simp] theorem afterBlock_start : (k.afterBlock err).start = k.start := by
  unfold afterBlock; split <;> simp

@[simp] theorem afterTimeout_obs : (k.afterTimeout err).obs = k.obs := by
  unfold afterTimeout; split <;> rfl

@[simp] theorem afterDeadline_obs : (k.afterDeadline err).obs = k.obs := by
  unfold afterDeadline; split <;> (try split) <;> simp

@[simp] theorem afterBlock_obs : (k.afterBlock err).obs = k.obs := by
  unfold afterBlock; split <;> simp

@[simp] theorem afterTimeout_result : (k.afterTimeout err).phase.result = some err := by
  obtain ⟨_, routed, result, -⟩ := afterTimeout_eq k err
  exact routed ▸ result

@[simp] theorem afterDeadline_result : (k.afterDeadline err).phase.result = some err := by
  obtain ⟨_, _, routed, result, -⟩ := afterDeadline_eq k err
  exact routed ▸ result

@[simp] theorem afterBlock_result : (k.afterBlock err).phase.result = some err := by
  obtain ⟨_, _, routed, result, -⟩ := afterBlock_eq k err
  exact routed ▸ result

/-- Routing out of `block` never goes back to arming. -/
theorem afterBlock_ne_arm : (k.afterBlock err).phase ≠ .arm :=
  Phase.ne_arm_of_result (afterBlock_result k err)

theorem afterTimeout_ne_arm : (k.afterTimeout err).phase ≠ .arm :=
  Phase.ne_arm_of_result (afterTimeout_result k err)

theorem afterDeadline_ne_arm : (k.afterDeadline err).phase ≠ .arm :=
  Phase.ne_arm_of_result (afterDeadline_result k err)

@[simp] theorem afterTimeout_stop : (k.afterTimeout err).stop = k.stop := by
  unfold afterTimeout; split <;> rfl

@[simp] theorem afterDeadline_stop : (k.afterDeadline err).stop = k.stop := by
  unfold afterDeadline; split <;> (try split) <;> simp

@[simp] theorem afterBlock_stop : (k.afterBlock err).stop = k.stop := by
  unfold afterBlock; split <;> simp

@[simp] theorem observe_entry (f) : (k.observe f).entry = k.entry := rfl
@[simp] theorem observe_phase (f) : (k.observe f).phase = k.phase := rfl
@[simp] theorem observe_C (f) : (k.observe f).C = k.C := rfl
@[simp] theorem observe_e (f) : (k.observe f).e = k.e := rfl
@[simp] theorem observe_timer (f) : (k.observe f).timer = k.timer := rfl
@[simp] theorem observe_start (f) : (k.observe f).start = k.start := rfl
@[simp] theorem observe_stop (f) : (k.observe f).stop = k.stop := rfl
@[simp] theorem observe_left (f) : (k.observe f).left = k.left := rfl
@[simp] theorem observe_obs (f) : (k.observe f).obs = f k.obs := rfl

/-- Routing out of `block` leaves the record alone. -/
theorem afterTimeout_observe (f) : (k.observe f).afterTimeout err = (k.afterTimeout err).observe f := by
  cases waitable : k.entry.waitable? <;> simp [afterTimeout, observe, waitable]

theorem afterDeadline_observe (f) : (k.observe f).afterDeadline err = (k.afterDeadline err).observe f := by
  by_cases measures : k.entry.measures = true
  · by_cases timedOut : err = some .etimedout
    · simp only [afterDeadline, observe_entry, measures, timedOut, if_true]
      exact afterTimeout_observe { k with left := 0 } _ f
    · simp only [afterDeadline, observe_entry, measures, timedOut, if_true, if_false]
      rfl
  · simp only [afterDeadline, observe_entry, measures, if_false]
    exact afterTimeout_observe k err f

theorem afterBlock_observe (f) : (k.observe f).afterBlock err = (k.afterBlock err).observe f := by
  by_cases direct : k.entry.deadline = .none
  · simp only [afterBlock, observe_entry, direct, if_true]
    exact afterDeadline_observe k err f
  · simp only [afterBlock, observe_entry, direct, if_false]
    rfl


end Call

/-- A route out of `block`, seen among the changes the later steps make. -/
theorem Call.route_fields {k k' : Call} {err : Option Errno} (routed : ∃ phase left,
    k' = { k with phase, left } ∧ phase.result = some err ∧ phase.asleep = false) :
    ∃ phase left timer stop, k' = { k with phase, left, timer, stop } ∧ phase.result = some err ∧
      phase.asleep = false := by
  obtain ⟨phase, left, rfl, result, awake⟩ := routed
  exact ⟨phase, left, k.timer, k.stop, rfl, result, awake⟩

/-- What an entry point returns. -/
inductive Result
  | error (err : Option Errno)
  | event (ok : Bool)
  | remaining (left : Duration) (err : Option Errno)
  | remainingEvent (left : Duration) (ok : Bool)
deriving DecidableEq, Repr

/-- The return value of a call whose inner `block` chain returned `err`: `BlockOn`
and `BlockWithTimeoutOn` report `err == nil`. -/
def Call.result (k : Call) (err : Option Errno) : Result :=
  match k.entry with
  | .block _ | .blockWithDeadline _ _ | .blockWithDeadlineFrom _ _ _ => .error err
  | .blockOn _ => .event (err == none)
  | .blockWithTimeout _ _ _ => .remaining k.left err
  | .blockWithTimeoutOn _ _ => .remainingEvent k.left (err == none)

/-- The task, what it shares with other goroutines, and the call in progress. -/
structure State where
  task : Task
  env : Env
  call : Option Call

/-- What the task goroutine does when it is not inside a `Block*` call. -/
inductive Op
  | call (entry : Entry)
  | unsetInterrupted
  | interruptSelf
  | uninterruptibleSleepStart (deactivate : Bool)
  | uninterruptibleSleepFinish (activate : Bool)
deriving DecidableEq, Repr

/-- The moves of other goroutines (a send on a channel, `t.interrupt()`, a fire of
either timer, the clock moving on) and of the task goroutine (an operation between
calls, its next step in a call, the select taking a case). -/
inductive Action
  | post (C : Nat)
  | interrupt
  | fireBlockingTimer
  | fireTimer
  | tick (now : Time)
  | begin (op : Op)
  | run
  | select (c : SelectCase)
deriving DecidableEq, Repr

namespace State

variable (s : State) (k : Call)

def withCall (k : Call) : State := { s with call := some k }

/-- `e, ch := waiter.NewChannelEntry(mask)` and `w.EventRegister(&e)` for the `On`
forms, then `start := clock.Now()` of `BlockWithTimeout`. -/
def beginCall (entry : Entry) : State :=
  let env := match entry.waitable? with
    | some w => s.env.newChannelEntry.eventRegister w s.env.fresh
    | none => s.env
  let C := entry.chan s.env.fresh
  { s with
    env
    call := some
      { entry
        phase := if entry.deadline = .none then .block .fastPath else .arm
        C
        e := s.env.fresh
        timer := false
        start := s.env.now
        stop := none
        left := entry.timeout
        obs :=
          { pending := env.chans C, posted := 0, taken := 0, fastPath := false
            slept := 0, woke := 0, yielded := false, timerReceived := false
            interruptSeen := s.task.interruptChan, fired := false, selected := none, atEntry := s.task
            waitersAtEntry := match entry.waitable? with
              | some w => s.env.waiters w
              | none => [] } } }

def begin : Op → State
  | .call entry => s.beginCall entry
  | .unsetInterrupted => { s with task := s.task.unsetInterrupted }
  | .interruptSelf => { s with task := s.task.interruptSelf }
  | .uninterruptibleSleepStart deactivate =>
      { s with task := s.task.uninterruptibleSleepStart deactivate }
  | .uninterruptibleSleepFinish activate =>
      { s with task := s.task.uninterruptibleSleepFinish activate }

/-- `t.blockingTimer.SetClock(clock, ktime.Setting{Enabled: true, ...})`, or for
another clock `timer := clock.NewTimer(...)` and `timer.Set(...)` enabling it. -/
def arm : State :=
  match k.entry.deadline with
  | .generic => s.withCall { k with timer := true, phase := .block .fastPath }
  | _ => { s with
      task := { s.task with blockingTimer := true }
      call := some { k with phase := .block .fastPath } }

/-- The fast path, or `t.prepareSleep()` when `C` is empty. -/
def fastPath : State :=
  if 0 < s.env.chans k.C then
    { s with
      env := s.env.take k.C
      call := some ((k.observe fun o => { o with taken := o.taken + 1, fastPath := true }).afterBlock
        none) }
  else
    { s with
      task := s.task.prepareSleep
      call := some { k.observe (fun o => { o with slept := o.slept + 1 }) with
        phase := .block .gosched } }

/-- `timerChan` is `t.blockingTimerChan` for the deadline forms and nil otherwise. -/
def gosched : State :=
  let stale := k.entry.deadline ≠ .none && s.task.blockingTimerChan
  s.withCall { k.observe (fun o => { o with yielded := o.yielded || stale }) with
    phase := .block .select }

/-- The select's cases; a case whose channel holds no value is not ready, and a
nil `timerChan` never is. The deferred `completeSleep` runs on return. -/
def select : SelectCase → Option State
  | .event =>
      if 0 < s.env.chans k.C then
        some { s with
          env := s.env.take k.C
          task := s.task.completeSleep
          call := some ((k.observe fun o =>
            { o with taken := o.taken + 1, woke := o.woke + 1, selected := some .event }).afterBlock none) }
      else none
  | .interrupt =>
      if s.task.interruptChan then
        some { s with
          task := { s.task with interruptChan := false }
          call := some { k.observe (fun o => { o with selected := some .interrupt }) with
            phase := .block .interruptSelf } }
      else none
  | .timer =>
      if k.entry.deadline ≠ .none && s.task.blockingTimerChan then
        some { s with
          task := { s.task with blockingTimerChan := false }.completeSleep
          call := some ((k.observe fun o =>
            { o with timerReceived := true, woke := o.woke + 1, selected := some .timer }).afterBlock
              (some .etimedout)) }
      else none

/-- `t.interruptSelf()`, then `return linuxerr.ErrInterrupted` and `completeSleep`. -/
def reinterrupt : State :=
  { s with
    task := s.task.interruptSelf.completeSleep
    call := some ((k.observe fun o => { o with woke := o.woke + 1 }).afterBlock
      (some .errInterrupted)) }

/-- `timer.Set(ktime.Setting{}, nil)` returns the old setting: drain the channel only
if the timer is no longer enabled, that is if it fired. -/
def disarm (err : Option Errno) : State :=
  match k.entry.deadline with
  | .generic =>
      s.withCall (if k.timer then { k with timer := false }.afterDeadline err
        else { k with phase := .drain err })
  | _ =>
      { s with
        task := { s.task with blockingTimer := false }
        call := some (if s.task.blockingTimer then k.afterDeadline err else { k with phase := .drain err }) }

/-- The drain; the generic form's deferred `timer.Destroy()` finds the timer disabled. -/
def drain (err : Option Errno) : State :=
  { s with
    task := { s.task with blockingTimerChan := false }
    call := some (k.afterDeadline err) }

/-- `end := clock.Now()` and the remaining timeout. -/
def clockEnd (err : Option Errno) : State :=
  s.withCall ({ k with
    stop := some s.env.now
    left := (blockWithTimeoutResult k.entry.timeout k.start s.env.now err).1 }.afterTimeout err)

def unregister (err : Option Errno) : State :=
  match k.entry.waitable? with
  | some w => { s with env := s.env.eventUnregister w k.e, call := some { k with phase := .returned err } }
  | none => s.withCall { k with phase := .returned err }

/-- The task goroutine's next step inside `k`; at the select it waits for an action
that picks a ready case. -/
def run : Option State :=
  match k.phase with
  | .arm => some (s.arm k)
  | .block .fastPath => some (s.fastPath k)
  | .block .gosched => some (s.gosched k)
  | .block .select => none
  | .block .interruptSelf => some (s.reinterrupt k)
  | .disarm err => some (s.disarm k err)
  | .drain err => some (s.drain k err)
  | .clockEnd err => some (s.clockEnd k err)
  | .unregister err => some (s.unregister k err)
  | .returned _ => some { s with call := none }

variable {s k} {err : Option Errno}

@[simp] theorem arm_env : (s.arm k).env = s.env := by unfold arm; split <;> rfl
@[simp] theorem arm_task : (s.arm k).task =
    { s.task with blockingTimer := s.task.blockingTimer || k.entry.deadline ≠ .generic } := by
  unfold arm withCall; split <;> simp_all
@[simp] theorem arm_call : (s.arm k).call =
    some { k with timer := k.timer || k.entry.deadline = .generic, phase := .block .fastPath } := by
  unfold arm withCall; split <;> simp_all
@[simp] theorem disarm_env : (s.disarm k err).env = s.env := by unfold disarm; split <;> rfl
theorem disarm_task : (s.disarm k err).task =
    if k.entry.deadline = .generic then s.task else { s.task with blockingTimer := false } := by
  unfold disarm withCall; split <;> simp_all
theorem disarm_call : (s.disarm k err).call = some
    (if k.entry.deadline = .generic then
      (if k.timer then { k with timer := false }.afterDeadline err else { k with phase := .drain err })
    else if s.task.blockingTimer then k.afterDeadline err else { k with phase := .drain err }) := by
  unfold disarm withCall; split <;> simp_all
@[simp] theorem unregister_chans : (s.unregister k err).env.chans = s.env.chans := by
  unfold unregister; split <;> rfl
@[simp] theorem unregister_task : (s.unregister k err).task = s.task := by
  unfold unregister; split <;> rfl
@[simp] theorem unregister_call : (s.unregister k err).call = some { k with phase := .returned err } := by
  unfold unregister; split <;> rfl

variable {s' : State} {k' : Call}

/-- Once `block` returned, the task's steps leave the channels alone. -/
theorem run_chans_of_result (done : k.phase.result = some err) (stepped : s.run k = some s') :
    s'.env.chans = s.env.chans := by
  rcases phase : k.phase with _ | _ | err | err | err | err | err <;>
    simp only [phase, Phase.result, reduceCtorEq] at done <;>
    simp only [run, phase, Option.some.injEq] at stepped <;> subst stepped <;> first | rfl | simp

/-- Once `block` returned, the task's steps touch only its timer and the timer's channel. -/
theorem run_task_of_result (done : k.phase.result = some err) (stepped : s.run k = some s') :
    s'.task.interruptChan = s.task.interruptChan ∧ s'.task.gostate = s.task.gostate ∧
      s'.task.active = s.task.active := by
  rcases phase : k.phase with _ | _ | err | err | err | err | err <;>
    simp only [phase, Phase.result, reduceCtorEq] at done <;>
    simp only [run, phase, Option.some.injEq] at stepped <;> subst stepped
  · unfold disarm withCall
    split <;> exact ⟨rfl, rfl, rfl⟩
  all_goals simp [drain, clockEnd, withCall]

/-- Once `block` returned, the task's steps keep the call's data other than its
phase, timer, reading of the clock and remaining duration, and carry the error along. -/
theorem run_call_of_result (done : k.phase.result = some err) (stepped : s.run k = some s')
    (current : s'.call = some k') :
    ∃ phase left timer stop, k' = { k with phase, left, timer, stop } ∧ phase.result = some err ∧
      phase.asleep = false := by
  rcases phase : k.phase with _ | _ | err' | err' | err' | err' | err' <;>
    simp only [phase, Phase.result, reduceCtorEq, Option.some.injEq] at done <;> subst done <;>
    simp only [run, phase, Option.some.injEq] at stepped <;> subst stepped
  · unfold disarm withCall at current
    split at current <;> (try split at current) <;> simp only [Option.some.injEq] at current <;>
      subst current
    all_goals first
      | exact ⟨_, k.left, _, k.stop, rfl, rfl, rfl⟩
      | exact Call.route_fields (Call.afterDeadline_eq k err')
      | obtain ⟨phase, left, routed, result, awake⟩ := Call.afterDeadline_eq { k with timer := false } err'
        exact ⟨phase, left, false, k.stop, routed, result, awake⟩
  · simp only [drain, Option.some.injEq] at current
    subst current
    exact Call.route_fields (Call.afterDeadline_eq k err')
  · simp only [clockEnd, withCall, Option.some.injEq] at current
    subst current
    obtain ⟨phase, routed, result, awake⟩ := Call.afterTimeout_eq { k with
      stop := some s.env.now
      left := (blockWithTimeoutResult k.entry.timeout k.start s.env.now err').1 } err'
    exact ⟨phase, _, k.timer, _, routed, result, awake⟩
  · unfold unregister withCall at current
    split at current <;> simp only [Option.some.injEq] at current <;> subst current <;>
      exact ⟨_, k.left, k.timer, k.stop, rfl, rfl, rfl⟩
  · simp at current

/-- Only the step after the return ends a call. -/
theorem run_ends (stepped : s.run k = some s') (over : s'.call = none) :
    ∃ err, k.phase = .returned err := by
  rcases phase : k.phase with _ | (_ | _ | _ | _) | _ | _ | _ | _ | err <;>
    simp only [run, phase, Option.some.injEq, reduceCtorEq] at stepped <;> subst stepped
  case returned => exact ⟨err, rfl⟩
  case block.fastPath => unfold fastPath at over; split at over <;> cases over
  all_goals simp [arm_call, gosched, withCall, reinterrupt, disarm_call, drain, clockEnd,
    unregister_call] at over

end State

/-- One move of the task goroutine or of another goroutine. -/
def step (s : State) : Action → Option State
  | .post C =>
      some { s with
        env := s.env.post C
        call := s.call.map fun k => if k.C = C then k.observe fun o => { o with posted := o.posted + 1 } else k }
  | .interrupt =>
      some { s with
        task := s.task.interrupt
        call := s.call.map fun k => k.observe fun o => { o with interruptSeen := true } }
  | .fireBlockingTimer =>
      if s.task.blockingTimer then
        some { s with
          task := { s.task with blockingTimer := false, blockingTimerChan := true }
          call := s.call.map fun k => k.observe fun o => { o with fired := true } }
      else none
  | .fireTimer =>
      match s.call with
      | some k =>
          if k.timer then
            some { s with
              task := { s.task with blockingTimerChan := true }
              call := some { k.observe (fun o => { o with fired := true }) with timer := false } }
          else none
      | none => none
  | .tick now => if s.env.now.val ≤ now.val then some { s with env := { s.env with now } } else none
  | .begin op =>
      match s.call with
      | none => some (s.begin op)
      | some _ => none
  | .run =>
      match s.call with
      | some k => s.run k
      | none => none
  | .select c =>
      match s.call with
      | some k => if k.phase = .block .select then s.select k c else none
      | none => none

/-- What one step can do, guards included: every invariant is proved from this. -/
theorem step_cases {s s' : State} {a : Action} (stepped : step s a = some s') :
    (∃ C, a = .post C ∧ s' = { s with
      env := s.env.post C
      call := s.call.map fun k => if k.C = C then k.observe fun o => { o with posted := o.posted + 1 } else k }) ∨
    (a = .interrupt ∧ s' = { s with
      task := s.task.interrupt
      call := s.call.map fun k => k.observe fun o => { o with interruptSeen := true } }) ∨
    (a = .fireBlockingTimer ∧ s.task.blockingTimer = true ∧ s' = { s with
      task := { s.task with blockingTimer := false, blockingTimerChan := true }
      call := s.call.map fun k => k.observe fun o => { o with fired := true } }) ∨
    (∃ k, a = .fireTimer ∧ s.call = some k ∧ k.timer = true ∧ s' = { s with
      task := { s.task with blockingTimerChan := true }
      call := some { k.observe (fun o => { o with fired := true }) with timer := false } }) ∨
    (∃ now : Time, a = .tick now ∧ s.env.now.val ≤ now.val ∧ s' = { s with env := { s.env with now } }) ∨
    (∃ op, a = .begin op ∧ s.call = none ∧ s' = s.begin op) ∨
    (∃ k, a = .run ∧ s.call = some k ∧ s.run k = some s') ∨
    (∃ k c, a = .select c ∧ s.call = some k ∧ k.phase = .block .select ∧ s.select k c = some s') := by
  cases a with
  | post C => exact .inl ⟨C, rfl, (Option.some.inj stepped).symm⟩
  | interrupt => exact .inr <| .inl ⟨rfl, (Option.some.inj stepped).symm⟩
  | fireBlockingTimer =>
    simp only [step] at stepped
    split at stepped
    · exact .inr <| .inr <| .inl ⟨rfl, ‹_›, (Option.some.inj stepped).symm⟩
    · cases stepped
  | tick now =>
    simp only [step] at stepped
    split at stepped
    · exact .inr <| .inr <| .inr <| .inr <| .inl ⟨now, rfl, ‹_›, (Option.some.inj stepped).symm⟩
    · cases stepped
  | fireTimer =>
    rcases current : s.call with _ | k <;> simp only [step, current, reduceCtorEq] at stepped
    split at stepped
    · exact .inr <| .inr <| .inr <| .inl ⟨k, rfl, rfl, ‹_›, (Option.some.inj stepped).symm⟩
    · cases stepped
  | begin op =>
    rcases current : s.call with _ | k <;> simp only [step, current, reduceCtorEq] at stepped
    exact .inr <| .inr <| .inr <| .inr <| .inr <| .inl ⟨op, rfl, rfl, (Option.some.inj stepped).symm⟩
  | run =>
    rcases current : s.call with _ | k <;> simp only [step, current, reduceCtorEq] at stepped
    exact .inr <| .inr <| .inr <| .inr <| .inr <| .inr <| .inl ⟨k, rfl, rfl, stepped⟩
  | select c =>
    rcases current : s.call with _ | k <;> simp only [step, current, reduceCtorEq] at stepped
    split at stepped
    · exact .inr <| .inr <| .inr <| .inr <| .inr <| .inr <| .inr ⟨k, c, rfl, rfl, ‹_›, stepped⟩
    · cases stepped

def Step (s s' : State) : Prop := ∃ a, step s a = some s'

/-- Runs of any length: the reflexive-transitive closure of `Step`. -/
def Steps : State → State → Prop := Relation.ReflTransGen Step

/-- What holds at the start of a run and survives every step holds all along it. -/
theorem Steps.invariant {P : State → Prop} {s₀ s : State} (start : P s₀)
    (keep : ∀ {s s' a}, P s → step s a = some s' → P s') (run : Steps s₀ s) : P s := by
  induction run with
  | refl => exact start
  | tail _ stepped holds =>
    obtain ⟨a, stepped⟩ := stepped
    exact keep holds stepped

end Sentry.Kernel
