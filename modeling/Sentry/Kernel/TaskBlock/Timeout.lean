import Sentry.Kernel.TaskBlock.Contract

namespace Sentry.Kernel

open Sentry.Ktime

/-! # The remaining timeout

`BlockWithTimeout` answers a timeout with `0` and otherwise reads the clock again and
returns `timeout - end.Sub(start)`, capped below at `0`. The cap makes the result
non-negative whatever the inputs. For a non-negative timeout the subtraction is exact,
so the result is the timeout minus the time elapsed, clamped at zero; for a timeout
near `-2 ^ 63` the `int64` subtraction wraps around and the cap does not catch it.

A call records its second reading, `end`, as `stop` where `clockEnd` takes it, so the
remaining timeout is stated against the value the code read. `Call.Clocked` is what a
call keeps of the clock, and `timeoutInv_of_steps` carries it over every run.
-/

section Result

variable (timeout : Duration) (start stop : Time) (err : Option Errno)

@[simp] theorem blockWithTimeoutResult_etimedout :
    blockWithTimeoutResult timeout start stop (some .etimedout) = (0, some .etimedout) := rfl

@[simp] theorem blockWithTimeoutResult_err : (blockWithTimeoutResult timeout start stop err).2 = err := by
  unfold blockWithTimeoutResult; split <;> rfl

end Result

/-- What a call keeps of the clock: its first reading is not in the future; a second
reading, `end := clock.Now()`, is taken only on the way out of a call that did not time
out, no later than the clock, and the remaining duration is then what `BlockWithTimeout`
computes from the two readings; a measured call that timed out holds `0`, and one that
did not has taken the second reading. -/
structure Call.Clocked (k : Call) (now : Time) : Prop where
  started : k.start.val ≤ now.val
  stopped : ∀ stop, k.stop = some stop → k.start.val ≤ stop.val ∧ stop.val ≤ now.val ∧
    ∃ err, err ≠ some .etimedout ∧ (k.phase = .unregister err ∨ k.phase = .returned err) ∧
      k.left = (blockWithTimeoutResult k.entry.timeout k.start stop err).1
  reading : ∀ err, k.phase = .clockEnd err → err ≠ some .etimedout
  reported : k.entry.measures = true → ∀ err, k.phase = .unregister err ∨ k.phase = .returned err →
    (err = some .etimedout → k.left = 0) ∧ (err ≠ some .etimedout → k.stop ≠ none)

namespace Call

variable {k : Call} {now : Time} {err : Option Errno}

/-- The invariant reads only the entry, the phase, the two readings and the duration,
and it survives the clock moving on. -/
theorem Clocked.frame {k' : Call} {now' : Time} (clocked : k.Clocked now) (entry : k'.entry = k.entry)
    (phase : k'.phase = k.phase) (start : k'.start = k.start) (stop : k'.stop = k.stop)
    (left : k'.left = k.left) (later : now.val ≤ now'.val) : k'.Clocked now' := by
  obtain ⟨started, stopped, reading, reported⟩ := clocked
  refine ⟨start ▸ Int.le_trans started later, fun st stopped' => ?_, phase ▸ reading, entry ▸ ?_⟩
  · obtain ⟨first, second, rest⟩ := stopped st (stop ▸ stopped')
    rw [start, phase, left, entry]
    exact ⟨first, Int.le_trans second later, rest⟩
  · rw [phase, left, stop]
    exact reported

/-- Before its way out a call has not read the clock a second time. -/
theorem Clocked.unstopped (clocked : k.Clocked now)
    (inside : ∀ err, k.phase ≠ .unregister err ∧ k.phase ≠ .returned err) : k.stop = none := by
  cases stopped : k.stop with
  | none => rfl
  | some stop =>
    obtain ⟨-, -, err, -, out, -⟩ := clocked.stopped stop stopped
    exact (out.elim (inside err).1 (inside err).2).elim

theorem clocked_of_inside (started : k.start.val ≤ now.val) (unstopped : k.stop = none)
    (inside : ∀ err, k.phase ≠ .clockEnd err ∧ k.phase ≠ .unregister err ∧ k.phase ≠ .returned err) :
    k.Clocked now :=
  ⟨started, by simp [unstopped], fun err reached => absurd reached (inside err).1,
    fun _ err out => absurd out (by simp [(inside err).2.1, (inside err).2.2])⟩

/-- Leaving without a second reading: only a measured call's timeout sets the duration,
to `0`. -/
theorem afterTimeout_clocked (started : k.start.val ≤ now.val) (unstopped : k.stop = none)
    (timedOut : k.entry.measures = true → err = some .etimedout ∧ k.left = 0) :
    (k.afterTimeout err).Clocked now := by
  unfold afterTimeout
  split <;> refine ⟨started, by simp [unstopped], by simp, fun measures err' out => ?_⟩ <;>
    obtain ⟨rfl, left⟩ := timedOut measures <;> simp_all

theorem afterDeadline_clocked (started : k.start.val ≤ now.val) (unstopped : k.stop = none) :
    (k.afterDeadline err).Clocked now := by
  unfold afterDeadline
  split_ifs with measures timedOut
  · exact afterTimeout_clocked started unstopped fun _ => ⟨timedOut, rfl⟩
  · exact ⟨started, by simp [unstopped], fun _ reached => by cases reached; exact timedOut, by simp⟩
  · exact afterTimeout_clocked started unstopped fun measured => absurd measured measures

theorem afterBlock_clocked (started : k.start.val ≤ now.val) (unstopped : k.stop = none) :
    (k.afterBlock err).Clocked now := by
  unfold afterBlock
  split_ifs
  · exact afterDeadline_clocked started unstopped
  · exact clocked_of_inside started unstopped (by simp)

/-- `end := clock.Now()`: the second reading is the clock, and the duration is computed
from it. -/
theorem Clocked.clockEnd (clocked : k.Clocked now) (reached : k.phase = .clockEnd err) :
    ({ k with stop := some now, left := (blockWithTimeoutResult k.entry.timeout k.start now err).1 }.afterTimeout
      err).Clocked now := by
  have notTimedOut := clocked.reading err reached
  unfold afterTimeout
  split <;> refine ⟨clocked.started, fun stop stopped => ?_, by simp, fun _ err' out => ?_⟩
  all_goals first
    | (obtain rfl := Option.some.inj stopped
       exact ⟨clocked.started, Int.le_refl _, err, notTimedOut, by simp, rfl⟩)
    | (obtain rfl : err = err' := by simpa using out
       exact ⟨fun timedOut => absurd timedOut notTimedOut, by simp⟩)

theorem Clocked.unregister (clocked : k.Clocked now) (reached : k.phase = .unregister err) :
    { k with phase := .returned err }.Clocked now := by
  refine ⟨clocked.started, fun stop stopped => ?_, by simp, fun measures err' out => ?_⟩
  · obtain ⟨started, later, err', notTimedOut, out, left⟩ := clocked.stopped stop stopped
    obtain rfl : err' = err := by rcases out with out | out <;> rw [reached] at out <;> cases out; rfl
    exact ⟨started, later, err', notTimedOut, .inr rfl, left⟩
  · obtain rfl : err = err' := by simpa using out
    exact clocked.reported measures _ (.inl reached)

end Call

variable {s s' : State}

/-- The task goroutine's steps outside the select: only the clock reading sets the
remaining timeout, and it reads the current clock. -/
theorem Call.Clocked.run {k k' : Call} (clocked : k.Clocked s.env.now) (stepped : s.run k = some s')
    (current : s'.call = some k') : k'.Clocked s.env.now := by
  have early (inside : ∀ err, k.phase ≠ .unregister err ∧ k.phase ≠ .returned err) : k.stop = none :=
    clocked.unstopped inside
  rcases phase : k.phase with _ | (_ | _ | _ | _) | err | err | err | err | err <;>
    simp only [State.run, phase, Option.some.injEq, reduceCtorEq] at stepped <;> subst stepped
  case block.fastPath =>
    unfold State.fastPath at current
    split at current <;> simp only [Option.some.injEq] at current <;> subst current
    · exact Call.afterBlock_clocked clocked.started (early (by simp [phase]))
    · exact Call.clocked_of_inside clocked.started (early (by simp [phase])) (by simp)
  case disarm =>
    rw [State.disarm_call, Option.some.injEq] at current
    subst current
    split_ifs
    all_goals first
      | exact Call.afterDeadline_clocked clocked.started (early (by simp [phase]))
      | exact Call.clocked_of_inside clocked.started (early (by simp [phase])) (by simp)
  case returned => simp at current
  all_goals simp only [State.arm_call, State.gosched, State.reinterrupt, State.drain, State.clockEnd,
    State.unregister_call, State.withCall, Option.some.injEq] at current
  all_goals subst current
  case clockEnd => exact clocked.clockEnd phase
  case unregister => exact clocked.unregister phase
  case block.interruptSelf => exact Call.afterBlock_clocked clocked.started (early (by simp [phase]))
  case drain => exact Call.afterDeadline_clocked clocked.started (early (by simp [phase]))
  all_goals exact Call.clocked_of_inside clocked.started (early (by simp [phase])) (by simp)

variable {s₀ : State}

/-- `BlockWithTimeout(C, true, -2 ^ 63)` with a value ready in `C` and the clock moving
on by one nanosecond between its two readings returns `nil` with a remaining timeout of
`2 ^ 63 - 1` nanoseconds: `timeout - end.Sub(start)` wrapped around. -/
theorem blockWithTimeout_remaining_wraps :
    ∃ s k, Steps readyState s ∧ s.call = some k ∧
      k.entry = .blockWithTimeout 0 true (Int64.ofInt (-9223372036854775808)) ∧
      k.start.val = 0 ∧ s.env.now.val = 1 ∧ k.phase = .returned none ∧
      k.left.val = 9223372036854775807 :=
  ⟨_, _, .tail (.tail (.tail (.tail (.tail
    (.single ⟨.begin (.call (.blockWithTimeout 0 true (Int64.ofInt (-9223372036854775808)))), rfl⟩)
      ⟨.run, rfl⟩) ⟨.run, rfl⟩) ⟨.run, rfl⟩) ⟨.tick (Int64.ofInt 1), rfl⟩) ⟨.run, rfl⟩,
    rfl, rfl, rfl, rfl, rfl, rfl⟩

end Sentry.Kernel
