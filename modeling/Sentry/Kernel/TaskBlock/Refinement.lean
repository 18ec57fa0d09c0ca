import Sentry.Kernel.TaskBlock.Contract

namespace Sentry.Kernel

/-! # The per-call state machine

The specification describes one call as `Ready → FastPathReturn`, or as
`Ready → PreSleep → Waiting → Woken → PostSleep → Return`, where `Woken` records why the
call woke and the cause decides the return value. `Call.specState` reads that state
off a call of the model: the phase says how far the call is, and the case its select
took, if it took one, says why it woke. Every step of every run moves it along the machine's
transitions or leaves it in place, a new call starts at `Ready`, and a call ends only
at `FastPathReturn` with `nil` or at `Return` with the error its cause names.

The deadline forms disarm the timer, read the clock and unregister after `block` has
returned: the spec puts that work after `Return`, so those phases stay there.
-/

/-- Modelled from the spec: why a sleeping call woke. -/
inductive Cause
  | event
  | interrupt
  | timeout
deriving DecidableEq, Repr

/-- Modelled from the spec: the error each cause makes the call return. -/
def Cause.err : Cause → Option Errno
  | .event => none
  | .interrupt => some .errInterrupted
  | .timeout => some .etimedout

/-- The cause of a wake by each case of the select. -/
def Cause.ofCase : SelectCase → Cause
  | .event => .event
  | .interrupt => .interrupt
  | .timer => .timeout

@[simp] theorem Cause.err_ofCase (c : SelectCase) : (Cause.ofCase c).err = c.err := by
  cases c <;> rfl

/-- Modelled from the spec: the states of one call. -/
inductive SpecState
  | ready
  | fastPathReturn
  | preSleep
  | waiting
  | woken (cause : Cause)
  | postSleep (cause : Cause)
  | returned (cause : Cause)
deriving DecidableEq, Repr

/-- Modelled from the spec: the transitions of one call. -/
inductive SpecState.Next : SpecState → SpecState → Prop
  | fastPath : Next .ready .fastPathReturn
  | prepareSleep : Next .ready .preSleep
  | wait : Next .preSleep .waiting
  | wake (cause : Cause) : Next .waiting (.woken cause)
  | completeSleep (cause : Cause) : Next (.woken cause) (.postSleep cause)
  | finish (cause : Cause) : Next (.postSleep cause) (.returned cause)

open Relation in
/-- Waking ends the sleep and the call in three transitions. -/
theorem SpecState.wake_return (cause : Cause) :
    ReflTransGen Next .waiting (.returned cause) :=
  .tail (.tail (.single (.wake cause)) (.completeSleep cause)) (.finish cause)

/-- Where a call is once `block` has returned: at `Return`, for the cause of the case its
select took, or at `FastPathReturn` if the select took none. -/
def SpecState.afterBlock : Option SelectCase → SpecState
  | some c => .returned (.ofCase c)
  | none => .fastPathReturn

/-- Where a call of the model is in the spec's machine. -/
def Call.specState (k : Call) : SpecState :=
  match k.phase, k.obs.selected with
  | .arm, _ | .block .fastPath, _ => .ready
  | .block .gosched, _ => .preSleep
  | .block .select, _ => .waiting
  | .block .interruptSelf, some c => .woken (.ofCase c)
  | .block .interruptSelf, none => .waiting
  | .disarm _, c | .drain _, c | .clockEnd _, c | .unregister _, c | .returned _, c => .afterBlock c

namespace Call

variable {k k' : Call} {err : Option Errno}

/-- The spec's state reads only the phase and the case the select took. -/
theorem specState_congr (phase : k'.phase = k.phase) (selected : k'.obs.selected = k.obs.selected) :
    k'.specState = k.specState := by
  simp only [specState, phase, selected]

theorem specState_of_result (done : k.phase.result = some err) :
    k.specState = .afterBlock k.obs.selected := by
  rcases phase : k.phase with _ | _ | _ | _ | _ | _ | _ <;>
    simp only [phase, Phase.result, reduceCtorEq] at done <;>
    simp [specState, phase]

theorem afterBlock_specState : (k.afterBlock err).specState = .afterBlock k.obs.selected := by
  simp [specState_of_result (afterBlock_result k err)]

end Call

variable {s s' : State} {k k' : Call}

open Relation

/-- The task goroutine's steps outside the select follow the machine. -/
theorem State.run_specState (contract : CallContract s k) (stepped : s.run k = some s')
    (current : s'.call = some k') : ReflTransGen SpecState.Next k.specState k'.specState := by
  cases done : k.phase.result with
  | some err =>
    obtain ⟨phase, left, timer, stop, rfl, result, -⟩ := State.run_call_of_result done stepped current
    rw [Call.specState_of_result done, Call.specState_of_result result]
  | none =>
  rcases phase : k.phase with _ | (_ | _ | _ | _) | _ | _ | _ | _ | _ <;>
    simp only [phase, Phase.result, reduceCtorEq] at done <;>
    simp only [State.run, phase, Option.some.injEq, reduceCtorEq] at stepped <;> subst stepped
  case arm =>
    rw [State.arm_call, Option.some.injEq] at current
    subst current
    simpa [Call.specState, phase] using .refl
  case block.fastPath =>
    have unselected := contract.unselected (by simp [phase, Phase.result]) (by simp [phase])
    unfold State.fastPath at current
    split at current <;> simp only [Option.some.injEq] at current <;> subst current
    · rw [Call.afterBlock_specState]
      simpa [Call.specState, phase, unselected, SpecState.afterBlock] using .single .fastPath
    · simpa [Call.specState, phase] using .single .prepareSleep
  case block.gosched =>
    simp only [State.gosched, State.withCall, Option.some.injEq] at current
    subst current
    simpa [Call.specState, phase] using .single .wait
  case block.interruptSelf =>
    have selected := contract.interruptSelf phase
    simp only [State.reinterrupt, Option.some.injEq] at current
    subst current
    rw [Call.afterBlock_specState]
    simpa [Call.specState, phase, selected, SpecState.afterBlock, Cause.ofCase] using
      .tail (.single (.completeSleep .interrupt)) (.finish .interrupt)

/-- The select wakes the call for the cause of the case it takes: the event and the timer
end it at `Return`, the interrupt leaves it `Woken` until the re-post. -/
theorem State.select_specState {c : SelectCase} (waiting : k.phase = .block .select)
    (stepped : s.select k c = some s') (current : s'.call = some k') :
    ReflTransGen SpecState.Next k.specState k'.specState := by
  have start : k.specState = .waiting := by simp [Call.specState, waiting]
  rw [start]
  cases c <;> simp only [State.select] at stepped <;> split at stepped <;>
    simp only [Option.some.injEq, reduceCtorEq] at stepped <;> subst stepped <;>
    simp only [Option.some.injEq] at current <;> subst current
  case event.isTrue =>
    rw [Call.afterBlock_specState]
    exact SpecState.wake_return .event
  case interrupt.isTrue => simpa [Call.specState, Cause.ofCase] using .single (.wake .interrupt)
  case timer.isTrue =>
    rw [Call.afterBlock_specState]
    exact SpecState.wake_return .timeout

theorem SpecState.stays {x y : SpecState} (same : y = x) : ReflTransGen Next x y := same ▸ .refl

/-- Other goroutines leave the call's state in place; the task goroutine moves it along
the transitions. -/
theorem step_specState {a : Action} (inv : ContractInv s) (stepped : step s a = some s')
    (was : s.call = some k) (current : s'.call = some k') :
    ReflTransGen SpecState.Next k.specState k'.specState := by
  rcases step_cases stepped with ⟨C, -, rfl⟩ | ⟨-, rfl⟩ | ⟨-, -, rfl⟩ | ⟨k₀, -, running, -, rfl⟩ |
    ⟨now, -, -, rfl⟩ | ⟨op, -, idle, rfl⟩ | ⟨k₀, -, running, stepped⟩ |
    ⟨k₀, c, -, running, waiting, stepped⟩
  · simp only [was, Option.map_some', Option.some.injEq] at current
    subst current
    split <;> exact SpecState.stays (Call.specState_congr rfl rfl)
  iterate 2
    simp only [was, Option.map_some', Option.some.injEq] at current
    subst current
    exact SpecState.stays (Call.specState_congr rfl rfl)
  · simp only [was, Option.some.injEq] at running current
    subst running current
    exact SpecState.stays (Call.specState_congr rfl rfl)
  · simp only [was, Option.some.injEq] at current
    subst current
    exact .refl
  · simp [was] at idle
  · simp only [was, Option.some.injEq] at running
    subst running
    exact State.run_specState (inv k was) stepped current
  · simp only [was, Option.some.injEq] at running
    subst running
    exact State.select_specState waiting stepped current

/-- A call appears only by `begin`, at `Ready`. -/
theorem step_specState_begin {a : Action} (stepped : step s a = some s') (idle : s.call = none)
    (current : s'.call = some k') : k'.specState = .ready := by
  rcases step_cases stepped with ⟨C, -, rfl⟩ | ⟨-, rfl⟩ | ⟨-, -, rfl⟩ | ⟨k₀, -, running, -, rfl⟩ |
    ⟨now, -, -, rfl⟩ | ⟨op, -, -, rfl⟩ | ⟨k₀, -, running, -⟩ | ⟨k₀, c, -, running, -⟩
  iterate 3 simp [idle] at current
  · simp [idle] at running
  · simp [idle] at current
  · cases op with
    | call entry =>
      simp only [State.begin, State.beginCall, Option.some.injEq] at current
      subst current
      by_cases direct : entry.deadline = .none <;> simp [Call.specState, direct]
    | _ => simp [State.begin, idle] at current
  iterate 2 simp [idle] at running

/-- A call ends only at the step after its return, at `FastPathReturn` with `nil` or at
`Return` with the error its cause names. -/
theorem step_specState_end {a : Action} (inv : ContractInv s) (stepped : step s a = some s')
    (was : s.call = some k) (over : s'.call = none) :
    ∃ err, k.phase = .returned err ∧
      ((k.specState = .fastPathReturn ∧ err = none) ∨
        ∃ cause, k.specState = .returned cause ∧ cause.err = err) := by
  rcases step_cases stepped with ⟨C, -, rfl⟩ | ⟨-, rfl⟩ | ⟨-, -, rfl⟩ | ⟨k₀, -, -, -, rfl⟩ |
    ⟨now, -, -, rfl⟩ | ⟨op, -, idle, -⟩ | ⟨k₀, -, running, ran⟩ | ⟨k₀, c, -, running, -, chose⟩
  iterate 3 simp [was] at over
  · simp at over
  · simp [was] at over
  · simp [was] at idle
  · simp only [was, Option.some.injEq] at running
    subst running
    obtain ⟨err, returned⟩ := State.run_ends ran over
    have done : k.phase.result = some err := by simp [returned, Phase.result]
    have outcome := (inv k was).outcome err done
    refine ⟨err, returned, ?_⟩
    rw [Call.specState_of_result done]
    cases fast : k.obs.fastPath
    · obtain ⟨c, selected, rfl⟩ := outcome.selected fast
      exact .inr ⟨_, by simp [selected, SpecState.afterBlock], Cause.err_ofCase c⟩
    · exact .inl ⟨by simp [outcome.fastPath_unselected fast, SpecState.afterBlock],
        outcome.fastPath_nil fast⟩
  · cases c <;> simp only [State.select] at chose <;> split at chose <;>
      simp only [Option.some.injEq, reduceCtorEq] at chose <;> subst chose <;> simp at over

/-- Over every run the model's calls are runs of the spec's per-call machine: a new call
starts at `Ready`; each step, of the task goroutine or of any other, moves the call
along the machine's transitions or leaves it in place; and a call ends only from
`FastPathReturn`, having returned `nil`, or from `Return`, having returned the error
its cause names. -/
theorem block_refines_spec_machine {s₀ : State} {a : Action} (idle : s₀.call = none)
    (run : Steps s₀ s) (stepped : step s a = some s') :
    (∀ k', s.call = none → s'.call = some k' → k'.specState = .ready) ∧
    (∀ k k', s.call = some k → s'.call = some k' →
      ReflTransGen SpecState.Next k.specState k'.specState) ∧
    (∀ k, s.call = some k → s'.call = none → ∃ err, k.phase = .returned err ∧
      ((k.specState = .fastPathReturn ∧ err = none) ∨
        ∃ cause, k.specState = .returned cause ∧ cause.err = err)) :=
  have inv := contractInv_of_steps idle run
  ⟨fun _ none current => step_specState_begin stepped none current,
    fun _ _ was current => step_specState inv stepped was current,
    fun _ was over => step_specState_end inv stepped was over⟩

/-- `Block(C)` with a value ready: the fast path takes the call from `Ready` to
`FastPathReturn`. -/
theorem block_refines_spec_machine_fastPath :
    ∃ s k s' k', Steps readyState s ∧ s.call = some k ∧ step s .run = some s' ∧ s'.call = some k' ∧
      k.specState = .ready ∧ k'.specState = .fastPathReturn ∧
      ReflTransGen SpecState.Next k.specState k'.specState := by
  have run : Steps readyState (readyState.beginCall (.block 0)) := .single ⟨.begin (.call (.block 0)), rfl⟩
  have stepped : step (readyState.beginCall (.block 0)) .run = some _ := rfl
  exact ⟨_, _, _, _, run, rfl, stepped, rfl, rfl, rfl,
    (block_refines_spec_machine rfl run stepped).2.1 _ _ rfl rfl⟩

end Sentry.Kernel
