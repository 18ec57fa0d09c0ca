import Sentry.Ktime

namespace Sentry.Kernel

open Sentry.Ktime

/-! # The state blocking acts on

The task owns a one-slot interrupt channel, the blocking timer and its one-slot
channel, the goroutine-state accounting and its address space's activation. The
environment holds what other goroutines share with a block: the channels it waits
on, the waitables' subscriber lists, the allocator and the monotonic clock.

A channel of `struct{}` is modelled by the number of values a receive can take
from it; a one-slot channel by whether its slot is full.
-/

/-- The errors `block` returns besides `nil`. -/
inductive Errno
  | errInterrupted
  | etimedout
deriving DecidableEq, Repr

/-- Modelled from the spec: the blocked classes the goroutine-state accounting
records (`accountTaskGoroutineEnter` is not under src/). -/
inductive TaskGoroutineState
  | blockedInterruptible
  | blockedUninterruptible
deriving DecidableEq, Repr

/-- The fields of a `Task` that the block core reads and writes: whether the one-slot
`interruptChan` and `blockingTimerChan` hold a value, and whether `blockingTimer`'s
setting is enabled, armed and not yet fired. Modelled from the spec: `gostate`, the
blocked classes entered and not yet left, innermost first ("nested entries count"), and
`active`, the address space's activation count. -/
structure Task where
  interruptChan : Bool
  blockingTimerChan : Bool
  blockingTimer : Bool
  gostate : List TaskGoroutineState
  active : Int
deriving DecidableEq, Repr

namespace Task

variable (t : Task)

def interrupted : Bool := t.interruptChan

/-- `select { case <-t.interruptChan: default: }` -/
def unsetInterrupted : Task := { t with interruptChan := false }

/-- `select { case t.interruptChan <- struct{}{}: default: }`: the send is dropped
when the slot is full. -/
def interruptSelf : Task := { t with interruptChan := true }

/-- `interruptSelf` and then `t.p.Interrupt()`, which touches no state modelled here. -/
def interrupt : Task := t.interruptSelf

/-- Modelled from the spec: `Task.Activate`. -/
def activate : Task := { t with active := t.active + 1 }

/-- Modelled from the spec: `Task.Deactivate`. -/
def deactivate : Task := { t with active := t.active - 1 }

/-- Modelled from the spec: entering a blocked class nests inside the current one. -/
def accountTaskGoroutineEnter (state : TaskGoroutineState) : Task :=
  { t with gostate := state :: t.gostate }

/-- Modelled from the spec: leaving `state` closes the innermost entry, which must be
`state`. A mismatch is the code's panic; the accounting is then left as it is. -/
def accountTaskGoroutineLeave (state : TaskGoroutineState) : Task :=
  match t.gostate with
  | entered :: outer => if entered = state then { t with gostate := outer } else t
  | [] => t

/-- `prepareSleep`; `t.p.PrepareSleep()` touches no state modelled here. -/
def prepareSleep : Task :=
  t.deactivate.accountTaskGoroutineEnter .blockedInterruptible

def completeSleep : Task :=
  (t.accountTaskGoroutineLeave .blockedInterruptible).activate

def uninterruptibleSleepStart (deactivate : Bool) : Task :=
  (if deactivate then t.deactivate else t).accountTaskGoroutineEnter .blockedUninterruptible

def uninterruptibleSleepFinish (activate : Bool) : Task :=
  let left := t.accountTaskGoroutineLeave .blockedUninterruptible
  if activate then left.activate else left

@[simp] theorem interruptSelf_interruptChan : t.interruptSelf.interruptChan = true := rfl
@[simp] theorem unsetInterrupted_interruptChan : t.unsetInterrupted.interruptChan = false := rfl
@[simp] theorem interrupt_eq : t.interrupt = t.interruptSelf := rfl

@[simp] theorem accountTaskGoroutineLeave_enter (state : TaskGoroutineState) :
    (t.accountTaskGoroutineEnter state).accountTaskGoroutineLeave state = t := by
  simp [accountTaskGoroutineEnter, accountTaskGoroutineLeave]

/-- `completeSleep` undoes `prepareSleep`. -/
@[simp] theorem completeSleep_prepareSleep : t.prepareSleep.completeSleep = t := by
  rw [prepareSleep, completeSleep, accountTaskGoroutineLeave_enter]
  simp [deactivate, activate]

/-- A balanced uninterruptible sleep restores the accounting and the activation. -/
theorem uninterruptibleSleepFinish_start (deactivate : Bool) :
    (t.uninterruptibleSleepStart deactivate).uninterruptibleSleepFinish deactivate = t := by
  cases deactivate <;>
    simp [uninterruptibleSleepStart, uninterruptibleSleepFinish, Task.deactivate, activate]

@[simp] theorem prepareSleep_gostate :
    t.prepareSleep.gostate = .blockedInterruptible :: t.gostate := rfl
@[simp] theorem prepareSleep_active : t.prepareSleep.active = t.active - 1 := rfl

@[simp] theorem completeSleep_active : t.completeSleep.active = t.active + 1 := by
  unfold completeSleep accountTaskGoroutineLeave; split <;> (try split) <;> rfl

/-- `completeSleep` closes the entry `prepareSleep` opened. -/
theorem completeSleep_gostate {outer : List TaskGoroutineState}
    (entered : t.gostate = .blockedInterruptible :: outer) : t.completeSleep.gostate = outer := by
  simp [completeSleep, accountTaskGoroutineLeave, entered, activate]

/-- Sleeping touches neither the interrupt slot nor the timer. -/
@[simp] theorem prepareSleep_interruptChan : t.prepareSleep.interruptChan = t.interruptChan := rfl
@[simp] theorem prepareSleep_blockingTimerChan :
    t.prepareSleep.blockingTimerChan = t.blockingTimerChan := rfl
@[simp] theorem prepareSleep_blockingTimer : t.prepareSleep.blockingTimer = t.blockingTimer := rfl

@[simp] theorem completeSleep_interruptChan : t.completeSleep.interruptChan = t.interruptChan := by
  unfold completeSleep accountTaskGoroutineLeave; split <;> (try split) <;> rfl

@[simp] theorem completeSleep_blockingTimerChan :
    t.completeSleep.blockingTimerChan = t.blockingTimerChan := by
  unfold completeSleep accountTaskGoroutineLeave; split <;> (try split) <;> rfl

@[simp] theorem completeSleep_blockingTimer :
    t.completeSleep.blockingTimer = t.blockingTimer := by
  unfold completeSleep accountTaskGoroutineLeave; split <;> (try split) <;> rfl

@[simp] theorem uninterruptibleSleepStart_interruptChan (deactivate : Bool) :
    (t.uninterruptibleSleepStart deactivate).interruptChan = t.interruptChan := by
  cases deactivate <;> rfl

@[simp] theorem uninterruptibleSleepFinish_interruptChan (activate : Bool) :
    (t.uninterruptibleSleepFinish activate).interruptChan = t.interruptChan := by
  unfold uninterruptibleSleepFinish accountTaskGoroutineLeave
  split <;> (try split) <;> cases activate <;> rfl

@[simp] theorem uninterruptibleSleepStart_blockingTimerChan (deactivate : Bool) :
    (t.uninterruptibleSleepStart deactivate).blockingTimerChan = t.blockingTimerChan := by
  cases deactivate <;> rfl

@[simp] theorem uninterruptibleSleepStart_blockingTimer (deactivate : Bool) :
    (t.uninterruptibleSleepStart deactivate).blockingTimer = t.blockingTimer := by
  cases deactivate <;> rfl

@[simp] theorem uninterruptibleSleepFinish_blockingTimerChan (activate : Bool) :
    (t.uninterruptibleSleepFinish activate).blockingTimerChan = t.blockingTimerChan := by
  unfold uninterruptibleSleepFinish accountTaskGoroutineLeave
  split <;> (try split) <;> cases activate <;> rfl

@[simp] theorem uninterruptibleSleepFinish_blockingTimer (activate : Bool) :
    (t.uninterruptibleSleepFinish activate).blockingTimer = t.blockingTimer := by
  unfold uninterruptibleSleepFinish accountTaskGoroutineLeave
  split <;> (try split) <;> cases activate <;> rfl

end Task

/-- What other goroutines share with the task's blocks: the number of values a receive
on each channel can take, each waitable's subscribed waiter entries in registration
order, the next address the allocator hands out, and the application monotonic clock.
Addresses of channels, waitables and waiter entries are numbers. -/
structure Env where
  chans : Nat → Nat
  waiters : Nat → List Nat
  fresh : Nat
  now : Time

namespace Env

variable (env : Env)

/-- Every registered entry was allocated: it lies below the allocator's cursor. -/
def Allocated : Prop := ∀ w, ∀ e ∈ env.waiters w, e < env.fresh

/-- A send on channel `C` from another goroutine. -/
def post (C : Nat) : Env := { env with chans := Function.update env.chans C (env.chans C + 1) }

/-- A receive that takes one value from channel `C`. -/
def take (C : Nat) : Env := { env with chans := Function.update env.chans C (env.chans C - 1) }

/-- `waiter.NewChannelEntry`: a fresh entry and a fresh empty channel, both at the
next address. -/
def newChannelEntry : Env :=
  { env with chans := Function.update env.chans env.fresh 0, fresh := env.fresh + 1 }

/-- `w.EventRegister(&e)` appends `e` to `w`'s subscribers. -/
def eventRegister (w e : Nat) : Env :=
  { env with waiters := Function.update env.waiters w (env.waiters w ++ [e]) }

/-- `w.EventUnregister(&e)` removes `e` from `w`'s subscribers. -/
def eventUnregister (w e : Nat) : Env :=
  { env with waiters := Function.update env.waiters w ((env.waiters w).erase e) }

@[simp] theorem post_chans (C : Nat) :
    (env.post C).chans = Function.update env.chans C (env.chans C + 1) := rfl
@[simp] theorem take_chans (C : Nat) :
    (env.take C).chans = Function.update env.chans C (env.chans C - 1) := rfl
@[simp] theorem post_waiters (C : Nat) : (env.post C).waiters = env.waiters := rfl
@[simp] theorem take_waiters (C : Nat) : (env.take C).waiters = env.waiters := rfl
@[simp] theorem post_fresh (C : Nat) : (env.post C).fresh = env.fresh := rfl
@[simp] theorem take_fresh (C : Nat) : (env.take C).fresh = env.fresh := rfl

@[simp] theorem eventRegister_waiters_self (w e : Nat) :
    (env.eventRegister w e).waiters w = env.waiters w ++ [e] := by
  simp [eventRegister]

@[simp] theorem eventUnregister_waiters_self (w e : Nat) :
    (env.eventUnregister w e).waiters w = (env.waiters w).erase e := by
  simp [eventUnregister]

/-- A new channel entry registered at the allocator's cursor keeps every entry allocated. -/
theorem Allocated.register {env : Env} (allocated : env.Allocated) (w : Nat) :
    (env.newChannelEntry.eventRegister w env.fresh).Allocated := by
  intro v e member
  simp only [eventRegister, newChannelEntry, Function.update_apply] at member ⊢
  split at member
  · rename_i same
    subst same
    rcases List.mem_append.mp member with old | fresh
    · exact Nat.lt_succ_of_lt (allocated v e old)
    · simp only [List.mem_singleton] at fresh
      omega
  · exact Nat.lt_succ_of_lt (allocated v e member)

theorem Allocated.unregister {env : Env} (allocated : env.Allocated) (w e : Nat) :
    (env.eventUnregister w e).Allocated := by
  intro v e' member
  simp only [eventUnregister, Function.update_apply] at member
  split at member
  · subst v; exact allocated w e' (List.mem_of_mem_erase member)
  · exact allocated v e' member

end Env

end Sentry.Kernel
