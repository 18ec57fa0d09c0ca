import Sentry.Kernel.TaskBlock

namespace Sentry.Kernel

/-! # What a `Block*` call returns

Whatever other goroutines do meanwhile, a call that returned `nil` took exactly one
value from `C`, a call that returned an error took none (so a wake posted to `C`
stays there for the next call), `ETIMEDOUT` comes exactly from a receive on the timer
channel, a value ready in `C` at entry is taken by the fast path, and a call that slept
returns the error of the case its select took. `CallContract` is the invariant of the
call in progress; `contractInv_of_steps` carries it over every run.
-/

/-- How a call that returned `err` got there. -/
structure Outcome (k : Call) (err : Option Errno) : Prop where
  nil_iff : err = none ↔ k.obs.taken = 1
  error_took_none : err ≠ none → k.obs.taken = 0
  etimedout_received : err = some .etimedout → k.obs.timerReceived = true
  received_etimedout : k.obs.timerReceived = true → err = some .etimedout
  fastPath_nil : k.obs.fastPath = true → err = none
  pending_fastPath : 0 < k.obs.pending → k.obs.fastPath = true
  selected : k.obs.fastPath = false → ∃ c, k.obs.selected = some c ∧ c.err = err
  fastPath_unselected : k.obs.fastPath = true → k.obs.selected = none

/-- The invariant of the call in progress. -/
structure CallContract (s : State) (k : Call) : Prop where
  conserved : s.env.chans k.C + k.obs.taken = k.obs.pending + k.obs.posted
  inBlock : k.phase.result = none →
    k.obs.taken = 0 ∧ k.obs.fastPath = false ∧ k.obs.timerReceived = false
  asleep : k.phase.asleep = true → k.obs.pending = 0
  interruptSelf : k.phase = .block .interruptSelf → k.obs.selected = some .interrupt
  unselected : k.phase.result = none → k.phase ≠ .block .interruptSelf → k.obs.selected = none
  outcome : ∀ err, k.phase.result = some err → Outcome k err
  timerChan : k.obs.timerReceived = true → k.entry.deadline ≠ .none

def ContractInv (s : State) : Prop := ∀ k, s.call = some k → CallContract s k

theorem Outcome.timer_iff {k : Call} {err : Option Errno} (outcome : Outcome k err) :
    k.obs.timerReceived = true ↔ err = some .etimedout :=
  ⟨outcome.received_etimedout, outcome.etimedout_received⟩

/-- What a returned call received decides what it returned: a value from `C`, `nil`; the
timer's value, `ETIMEDOUT`; neither, `ErrInterrupted`. -/
theorem Outcome.received {k : Call} {err : Option Errno} (outcome : Outcome k err) :
    (k.obs.taken = 1 ∧ k.obs.timerReceived = false ∧ err = none) ∨
      (k.obs.taken = 0 ∧ k.obs.timerReceived = true ∧ err = some .etimedout) ∨
      (k.obs.taken = 0 ∧ k.obs.timerReceived = false ∧ err = some .errInterrupted) := by
  have timer := outcome.timer_iff
  rcases err with _ | _ | _
  · exact .inl ⟨outcome.nil_iff.mp rfl, by simpa using timer, rfl⟩
  · exact .inr (.inr ⟨outcome.error_took_none (by simp), by simpa using timer, rfl⟩)
  · exact .inr (.inl ⟨outcome.error_took_none (by simp), timer.mpr rfl, rfl⟩)

theorem Phase.asleep_of_result {phase : Phase} {err : Option Errno}
    (result : phase.result = some err) : phase.asleep = false := by
  cases phase <;> simp_all [Phase.result, Phase.asleep]

variable {s s' : State} {k k' : Call}

/-- The record of a call, as far as the contract reads it. -/
structure Observations.Same (o o' : Observations) : Prop where
  pending : o'.pending = o.pending
  taken : o'.taken = o.taken
  fastPath : o'.fastPath = o.fastPath
  timerReceived : o'.timerReceived = o.timerReceived
  selected : o'.selected = o.selected

theorem Observations.Same.refl (o : Observations) : o.Same o := ⟨rfl, rfl, rfl, rfl, rfl⟩

/-- The contract reads only `C`'s content, the entry, how far the phase is and this part
of the record. -/
theorem CallContract.frame (contract : CallContract s k)
    (conserved : s'.env.chans k'.C + k'.obs.taken = k'.obs.pending + k'.obs.posted)
    (entry : k'.entry = k.entry) (result : k'.phase.result = k.phase.result)
    (asleep : k'.phase.asleep = k.phase.asleep)
    (interruptSelf : k'.phase = .block .interruptSelf ↔ k.phase = .block .interruptSelf)
    (same : k.obs.Same k'.obs) : CallContract s' k' := by
  obtain ⟨_, inBlock, wasAsleep, wasInterruptSelf, unselected, outcome, timerChan⟩ := contract
  obtain ⟨pending, taken, fastPath, timerReceived, selected⟩ := same
  refine ⟨conserved, by rw [result, taken, fastPath, timerReceived]; exact inBlock,
    by rw [asleep, pending]; exact wasAsleep,
    fun reached => selected ▸ wasInterruptSelf (interruptSelf.mp reached),
    fun done other => selected ▸ unselected (result ▸ done) (interruptSelf.not.mp other),
    fun err done => ?_, by rw [timerReceived, entry]; exact timerChan⟩
  obtain ⟨nil_iff, error_took_none, etimedout_received, received_etimedout, fastPath_nil,
    pending_fastPath, wasSelected, fastPath_unselected⟩ := outcome err (result ▸ done)
  exact ⟨taken ▸ nil_iff, taken ▸ error_took_none, timerReceived ▸ etimedout_received,
    timerReceived ▸ received_etimedout, fastPath ▸ fastPath_nil, pending ▸ fastPath ▸ pending_fastPath,
    selected ▸ fastPath ▸ wasSelected, selected ▸ fastPath ▸ fastPath_unselected⟩

/-- Routing out of `block` keeps what the contract reads. -/
theorem CallContract.route {phase : Phase} {left timer stop} {err : Option Errno}
    (contract : CallContract s k) (chans : s'.env.chans = s.env.chans)
    (was : k.phase.result = some err) (now : phase.result = some err) :
    CallContract s' { k with phase, left, timer, stop } :=
  contract.frame (by rw [chans]; exact contract.conserved) rfl (by rw [now, was])
    (by rw [Phase.asleep_of_result now, Phase.asleep_of_result was])
    ⟨fun reached => by rw [show phase = _ from reached] at now; simp [Phase.result] at now,
      fun reached => by simp [reached, Phase.result] at was⟩ (.refl _)

/-- A call `block` has just returned from satisfies the contract once its outcome does. -/
theorem CallContract.returned {err : Option Errno} (result : k.phase.result = some err)
    (conserved : s.env.chans k.C + k.obs.taken = k.obs.pending + k.obs.posted)
    (outcome : Outcome k err) (timerChan : k.obs.timerReceived = true → k.entry.deadline ≠ .none) :
    CallContract s k :=
  ⟨conserved, by simp [result], by simp [Phase.asleep_of_result result],
    fun reached => by simp [reached, Phase.result] at result, fun none => by simp [result] at none,
    fun _ same => by cases result ▸ same; exact outcome, timerChan⟩

theorem beginCall_contract (entry : Entry) {k : Call}
    (current : (s.beginCall entry).call = some k) : CallContract (s.beginCall entry) k := by
  simp only [State.beginCall, Option.some.injEq] at current
  subst current
  refine ⟨rfl, fun _ => ⟨rfl, rfl, rfl⟩, fun awake => ?_, fun reached => ?_, fun _ _ => rfl,
    fun err done => ?_, nofun⟩ <;>
    split at * <;> simp_all [Phase.asleep, Phase.result]

/-- The task goroutine's steps outside the select keep the contract. -/
theorem CallContract.run (contract : CallContract s k) (stepped : s.run k = some s')
    (current : s'.call = some k') : CallContract s' k' := by
  cases done : k.phase.result with
  | some err =>
    obtain ⟨_, _, _, _, rfl, now, -⟩ := State.run_call_of_result done stepped current
    exact contract.route (State.run_chans_of_result done stepped) done now
  | none =>
    obtain ⟨untaken, notFast, notTimer⟩ := contract.inBlock done
    rcases phase : k.phase with _ | (_ | _ | _ | _) | _ | _ | _ | _ | _ <;>
      simp only [phase, Phase.result, reduceCtorEq] at done <;>
      simp only [State.run, phase, Option.some.injEq, reduceCtorEq] at stepped <;> subst stepped
    case arm =>
      unfold State.arm at current
      split at current <;> cases current <;>
        exact contract.frame (by simpa using contract.conserved) rfl
          (by simp [phase, Phase.result]) (by simp [phase, Phase.asleep]) (by simp [phase]) (.refl _)
    case block.fastPath =>
      by_cases ready : 0 < s.env.chans k.C
      · simp only [State.fastPath, ready, if_true, Option.some.injEq] at current
        subst current
        obtain ⟨_, _, routed, result, -⟩ :=
          Call.afterBlock_eq (k.observe fun o => { o with taken := o.taken + 1, fastPath := true }) none
        simp only [State.fastPath, ready, if_true, routed]
        refine CallContract.returned result ?_ ⟨by simp [untaken], by simp, nofun, by simp [notTimer],
          fun _ => rfl, fun _ => rfl, by simp,
          fun _ => by simpa using contract.unselected (by simp [phase, Phase.result]) (by simp [phase])⟩
          (by simp [notTimer])
        have conserved := contract.conserved
        simp only [Env.take_chans, Function.update_same, Call.observe_C, Call.observe_obs]
        omega
      · simp only [State.fastPath, ready, if_false, Option.some.injEq] at current
        subst current
        have conserved := contract.conserved
        simp only [State.fastPath, ready, if_false]
        exact ⟨contract.conserved, fun _ => ⟨untaken, notFast, notTimer⟩, fun _ => by simp; omega,
          nofun, fun _ _ => by simpa using contract.unselected (by simp [phase, Phase.result]) (by simp [phase]),
          nofun, contract.timerChan⟩
    case block.gosched =>
      cases current
      exact contract.frame contract.conserved rfl (by simp [phase, Phase.result])
        (by simp [phase, Phase.asleep]) (by simp [phase]) ⟨rfl, rfl, rfl, rfl, rfl⟩
    case block.interruptSelf =>
      obtain ⟨_, _, routed, result, -⟩ :=
        Call.afterBlock_eq (k.observe fun o => { o with woke := o.woke + 1 }) (some .errInterrupted)
      simp only [State.reinterrupt, routed, Option.some.injEq] at current ⊢
      subst current
      exact CallContract.returned result contract.conserved ⟨by simp [untaken], by simp [untaken],
        nofun, by simp [notTimer], by simp [notFast], by simp [contract.asleep (by simp [phase, Phase.asleep])],
        fun _ => ⟨.interrupt, by simpa using contract.interruptSelf phase, rfl⟩, by simp [notFast]⟩
        contract.timerChan

/-- Each case of the select keeps the contract: it records the case, the event takes
one value and returns `nil`, the timer case returns `ETIMEDOUT` having taken none, and
the interrupt case leaves the call about to re-post. -/
theorem CallContract.select {c : SelectCase} (contract : CallContract s k)
    (waiting : k.phase = .block .select) (stepped : s.select k c = some s')
    (current : s'.call = some k') : CallContract s' k' := by
  have ⟨untaken, notFast, notTimer⟩ := contract.inBlock (by simp [waiting, Phase.result])
  have idle := contract.asleep (by simp [waiting, Phase.asleep])
  cases c <;> simp only [State.select] at stepped <;> split at stepped <;>
    simp only [Option.some.injEq, reduceCtorEq] at stepped <;> subst stepped <;>
    simp only [Option.some.injEq] at current <;> subst current
  case event.isTrue =>
    obtain ⟨_, _, routed, result, -⟩ := Call.afterBlock_eq (k.observe fun o =>
      { o with taken := o.taken + 1, woke := o.woke + 1, selected := some .event }) none
    rw [routed]
    refine CallContract.returned result ?_ ⟨by simp [untaken], by simp, nofun, by simp [notTimer],
      fun _ => rfl, by simp [idle], fun _ => ⟨.event, rfl, rfl⟩, by simp [notFast]⟩ (by simp [notTimer])
    have conserved := contract.conserved
    simp only [Env.take_chans, Function.update_same, Call.observe_C, Call.observe_obs]
    omega
  case interrupt.isTrue =>
    exact ⟨contract.conserved, fun _ => ⟨untaken, notFast, notTimer⟩, fun _ => idle, fun _ => rfl,
      fun _ other => (other rfl).elim, fun _ done => by simp [Phase.result] at done, contract.timerChan⟩
  case timer.isTrue ready =>
    obtain ⟨_, _, routed, result, -⟩ := Call.afterBlock_eq (k.observe fun o =>
      { o with timerReceived := true, woke := o.woke + 1, selected := some .timer }) (some .etimedout)
    rw [routed]
    exact CallContract.returned result contract.conserved ⟨by simp [untaken], by simp [untaken],
      fun _ => rfl, fun _ => rfl, by simp [notFast], by simp [idle], fun _ => ⟨.timer, rfl, rfl⟩,
      by simp [notFast]⟩
      (fun _ => of_decide_eq_true (Bool.and_eq_true _ _ ▸ ready).1)

/-- A move of another goroutine changes nothing the contract reads but the channels,
and a send on `C` is counted in `posted`. -/
theorem step_contractInv {a : Action} (inv : ContractInv s) (stepped : step s a = some s') :
    ContractInv s' := by
  intro k' current
  rcases step_cases stepped with ⟨C, -, rfl⟩ | ⟨-, rfl⟩ | ⟨-, -, rfl⟩ | ⟨k, -, was, -, rfl⟩ |
    ⟨now, -, -, rfl⟩ | ⟨op, -, idle, rfl⟩ | ⟨k, -, was, stepped⟩ | ⟨k, c, -, was, waiting, stepped⟩
  · obtain ⟨k, was, rfl⟩ := Option.map_eq_some'.mp current
    have contract := inv k was
    split
    · rename_i same
      refine contract.frame ?_ rfl rfl rfl .rfl ⟨rfl, rfl, rfl, rfl, rfl⟩
      have conserved := contract.conserved
      simp only [Env.post_chans, Call.observe_C, same, Function.update_same, Call.observe_obs]
      rw [same] at conserved
      omega
    · refine contract.frame ?_ rfl rfl rfl .rfl (.refl _)
      rw [Env.post_chans, Function.update_noteq ‹_›]
      exact contract.conserved
  iterate 2
    obtain ⟨k, was, rfl⟩ := Option.map_eq_some'.mp current
    exact (inv k was).frame (inv k was).conserved rfl rfl rfl .rfl ⟨rfl, rfl, rfl, rfl, rfl⟩
  · cases current
    exact (inv k was).frame (inv k was).conserved rfl rfl rfl .rfl ⟨rfl, rfl, rfl, rfl, rfl⟩
  · exact (inv k' current).frame (inv k' current).conserved rfl rfl rfl .rfl (.refl _)
  · cases op <;> simp only [State.begin, idle, reduceCtorEq] at current
    exact beginCall_contract _ current
  · exact (inv k was).run stepped current
  · exact (inv k was).select waiting stepped current

variable {s₀ : State}

theorem contractInv_of_steps {s : State} (idle : s₀.call = none) (run : Steps s₀ s) : ContractInv s :=
  run.invariant (fun k current => by simp [idle] at current) step_contractInv

/-- A task with its slots empty, and one value ready on every channel. -/
def readyState : State :=
  { task := ⟨false, false, false, [], 1⟩
    env := ⟨fun _ => 1, fun _ => [], 1, 0⟩
    call := none }

/-- A task with its slots empty, its timer off and nothing ready on any channel. -/
def idleState : State :=
  { task := ⟨false, false, false, [], 1⟩
    env := ⟨fun _ => 0, fun _ => [], 1, 0⟩
    call := none }

end Sentry.Kernel
