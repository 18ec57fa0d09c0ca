import Sentry.Kernel.TaskBlock.Contract

namespace Sentry.Kernel

/-! # Every call returns unless it waits

Each step the task goroutine takes inside a `Block*` call moves the call strictly
forward: `Phase.rank` falls with every such step. The task goroutine can always take its
next step, except at `block`'s select, and there it waits only while none of the
select's cases is ready. So, left to itself, it takes every call to the select or to its
return, and once the select has taken a case, to the return of that case's error.
-/

namespace Phase

/-- The most steps the task goroutine has left in a call at this phase. -/
def rank : Phase → Nat
  | arm => 10
  | block .fastPath => 9
  | block .gosched => 8
  | block .select => 7
  | block .interruptSelf => 6
  | disarm _ => 5
  | drain _ => 4
  | clockEnd _ => 3
  | unregister _ => 2
  | returned _ => 1

end Phase

namespace Call

variable (k : Call) (err : Option Errno)

theorem afterTimeout_rank : (k.afterTimeout err).phase.rank ≤ 2 := by
  unfold afterTimeout; split <;> simp [Phase.rank]

theorem afterDeadline_rank : (k.afterDeadline err).phase.rank ≤ 3 := by
  unfold afterDeadline
  split
  · split
    · exact Nat.le_succ_of_le (afterTimeout_rank _ err)
    · exact Nat.le_refl _
  · exact Nat.le_succ_of_le (afterTimeout_rank k err)

theorem afterBlock_rank : (k.afterBlock err).phase.rank ≤ 5 := by
  unfold afterBlock
  split
  · exact Nat.le_trans (afterDeadline_rank k err) (by decide)
  · exact Nat.le_refl _

end Call

namespace State

/-- The most steps the task goroutine has left in the call in progress. -/
def pending (s : State) : Nat := (s.call.map (·.phase.rank)).getD 0

variable {s s' : State} {k : Call}

theorem pending_of_call (current : s.call = some k) : s.pending = k.phase.rank := by
  simp [pending, current]

/-- Each step of the task goroutine outside the select lowers the rank. -/
theorem run_pending (stepped : s.run k = some s') : s'.pending < k.phase.rank := by
  rcases phase : k.phase with _ | (_ | _ | _ | _) | err | err | err | err | err <;>
    simp only [run, phase, Option.some.injEq, reduceCtorEq] at stepped <;> subst stepped <;>
    simp only [pending, arm_call, fastPath, gosched, reinterrupt, disarm_call, drain, clockEnd,
      unregister_call, withCall, Option.map_some', Option.map_none', Option.getD_some,
      Option.getD_none]
  case block.fastPath =>
    split
    · exact Nat.lt_of_le_of_lt (Call.afterBlock_rank _ _) (by decide)
    · simp [Phase.rank]
  case block.interruptSelf => exact Nat.lt_of_le_of_lt (Call.afterBlock_rank _ _) (by decide)
  case disarm =>
    split_ifs
    all_goals first
      | exact Nat.lt_of_le_of_lt (Call.afterDeadline_rank _ _) (by simp [Phase.rank])
      | simp [Phase.rank]
  case drain => exact Nat.lt_of_le_of_lt (Call.afterDeadline_rank _ _) (by simp [Phase.rank])
  case clockEnd => exact Nat.lt_of_le_of_lt (Call.afterTimeout_rank _ _) (by simp [Phase.rank])
  all_goals simp [Phase.rank]

end State

variable {s s' : State}

/-- The state after the actions `acts`, one after another, if each can be taken. -/
def exec (s : State) : List Action → Option State
  | [] => some s
  | a :: acts => (step s a).bind fun s' => exec s' acts

theorem exec_steps {acts : List Action} (ran : exec s acts = some s') : Steps s s' := by
  induction acts generalizing s with
  | nil => cases ran; exact .refl
  | cons a acts ih =>
    obtain ⟨s₁, stepped, rest⟩ := Option.bind_eq_some.mp ran
    exact Relation.ReflTransGen.head ⟨a, stepped⟩ (ih rest)

theorem exec_run_succ {n : Nat} {s₁ : State} (stepped : step s .run = some s₁) :
    exec s (List.replicate (n + 1) .run) = exec s₁ (List.replicate n .run) := by
  simp [exec, List.replicate_succ, stepped]

/-- The task goroutine can always take its next step in a call, except at `block`'s
select. There its only moves are the select's cases, and one can be taken exactly when
`C` holds a value, the interrupt slot is full, or, for the deadline forms, the timer's
channel is. -/
theorem block_waits_only_at_select {k : Call} (current : s.call = some k) :
    (k.phase ≠ .block .select → (step s .run).isSome) ∧
    (k.phase = .block .select → step s .run = none ∧
      ((∃ c, (step s (.select c)).isSome) ↔
        0 < s.env.chans k.C ∨ s.task.interruptChan ∨
          (k.entry.deadline ≠ .none ∧ s.task.blockingTimerChan))) := by
  simp only [step, current]
  refine ⟨fun moving => ?_, fun waiting => ⟨by simp [State.run, waiting], ?_⟩⟩
  · rcases phase : k.phase with _ | (_ | _ | _ | _) | _ | _ | _ | _ | _ <;>
      simp [State.run, phase] at moving ⊢
  · simp only [waiting, if_true]
    constructor
    · rintro ⟨c, taken⟩
      cases c <;> simp only [State.select] at taken <;> split at taken <;> simp_all
    · rintro (ready | ready | ready)
      · exact ⟨.event, by simp [State.select, ready]⟩
      · exact ⟨.interrupt, by simp [State.select, ready]⟩
      · exact ⟨.timer, by simp [State.select, ready]⟩

/-- A run of the task goroutine, one step longer. -/
theorem reaches_of_run {s₁ : State} {P : Call → Prop} (stepped : step s .run = some s₁)
    (later : ∃ n s' k', exec s₁ (List.replicate n .run) = some s' ∧ s'.call = some k' ∧ P k') :
    ∃ n s' k', exec s (List.replicate n .run) = some s' ∧ s'.call = some k' ∧ P k' :=
  let ⟨n, s', k', reached, current, holds⟩ := later
  ⟨n + 1, s', k', (exec_run_succ stepped).trans reached, current, holds⟩

/-- Left to itself, the task goroutine takes a call to `block`'s select or to its
return; once `block` has returned `err`, to the return of `err`. -/
theorem task_reaches {k : Call} (current : s.call = some k) :
    ∃ n s' k', exec s (List.replicate n .run) = some s' ∧ s'.call = some k' ∧
      ((k'.phase = .block .select ∨ ∃ err, k'.phase = .returned err) ∧
        ∀ err, k.phase.result = some err → k'.phase = .returned err) := by
  obtain ⟨r, rank⟩ : ∃ r, k.phase.rank = r := ⟨_, rfl⟩
  induction r using Nat.strongRecOn generalizing s k with
  | ind r ih =>
  by_cases waiting : k.phase = .block .select
  · exact ⟨0, s, k, rfl, current, .inl waiting, fun _ done => by simp [waiting, Phase.result] at done⟩
  by_cases over : ∃ err, k.phase = .returned err
  · obtain ⟨err, returned⟩ := over
    exact ⟨0, s, k, rfl, current, .inr ⟨err, returned⟩,
      fun _ done => by simp only [returned, Phase.result, Option.some.injEq] at done; rw [returned, done]⟩
  obtain ⟨s₁, stepped⟩ := Option.isSome_iff_exists.mp ((block_waits_only_at_select current).1 waiting)
  have ran : s.run k = some s₁ := by simpa [step, current] using stepped
  obtain ⟨k₁, current₁⟩ : ∃ k₁, s₁.call = some k₁ := by
    cases called : s₁.call with
    | none => exact absurd (State.run_ends ran called) over
    | some k₁ => exact ⟨k₁, rfl⟩
  have lower : k₁.phase.rank < r := rank ▸ State.pending_of_call current₁ ▸ State.run_pending ran
  obtain ⟨n, s', k', reached, current', stop, carried⟩ := ih _ lower current₁ rfl
  refine reaches_of_run stepped ⟨n, s', k', reached, current', stop, fun err done => ?_⟩
  obtain ⟨_, _, _, _, rfl, now, -⟩ := State.run_call_of_result done ran current₁
  exact carried err now

/-- Once `block` has returned `err`, the task goroutine alone takes the call to the
return of `err`. -/
theorem result_reaches {k : Call} {err : Option Errno} (current : s.call = some k)
    (done : k.phase.result = some err) :
    ∃ n s' k', exec s (List.replicate n .run) = some s' ∧ s'.call = some k' ∧ k'.phase = .returned err :=
  let ⟨n, s', k', reached, current', _, carried⟩ := task_reaches current
  ⟨n, s', k', reached, current', carried err done⟩

/-- Whichever case the select takes, the task goroutine alone then takes the call to the
return of that case's error. -/
theorem select_reaches {c : SelectCase} (stepped : step s (.select c) = some s') :
    ∃ n s'' k', exec s' (List.replicate n .run) = some s'' ∧ s''.call = some k' ∧
      k'.phase = .returned c.err := by
  obtain ⟨k, current⟩ : ∃ k, s.call = some k := by
    cases called : s.call with
    | none => simp [step, called] at stepped
    | some k => exact ⟨k, rfl⟩
  simp only [step, current] at stepped
  split at stepped
  case isFalse => cases stepped
  cases c <;> simp only [State.select] at stepped <;> split at stepped <;>
    simp only [Option.some.injEq, reduceCtorEq] at stepped <;> subst stepped
  case interrupt.isTrue =>
    exact reaches_of_run (P := fun k' => k'.phase = .returned _) rfl
      (result_reaches rfl (Call.afterBlock_result _ _))
  all_goals exact result_reaches rfl (Call.afterBlock_result _ _)

variable {s₀ : State}

/-- What the code keeps of a call: all of it but the record kept for stating its contract. -/
def Call.visible (k : Call) :
    Entry × Phase × Nat × Nat × Bool × Sentry.Ktime.Time × Option Sentry.Ktime.Time × Sentry.Ktime.Duration :=
  (k.entry, k.phase, k.C, k.e, k.timer, k.start, k.stop, k.left)

/-- What the code keeps of a state. -/
def State.view (s : State) := (s.task, s.env, s.call.map Call.visible)

@[simp] theorem Call.visible_observe (k : Call) (f : Observations → Observations) :
    (k.observe f).visible = k.visible := rfl

theorem Call.eq_observe_of_visible {k k' : Call} (same : k'.visible = k.visible) :
    k' = k.observe fun _ => k'.obs := by
  cases k
  cases k'
  simp only [Call.visible, Prod.mk.injEq] at same
  obtain ⟨rfl, rfl, rfl, rfl, rfl, rfl, rfl, rfl⟩ := same
  rfl

/-- Two calls that differ only in their record agree after `afterDeadline`. -/
theorem Call.afterDeadline_visible {k k' : Call} {err : Option Errno} (same : k'.visible = k.visible) :
    (k'.afterDeadline err).visible = (k.afterDeadline err).visible := by
  rw [Call.eq_observe_of_visible same, Call.afterDeadline_observe, Call.visible_observe]

theorem Call.afterTimeout_visible {k k' : Call} {err : Option Errno} (same : k'.visible = k.visible) :
    (k'.afterTimeout err).visible = (k.afterTimeout err).visible := by
  rw [Call.eq_observe_of_visible same, Call.afterTimeout_observe, Call.visible_observe]

/-- Leaving `block` sets the phase, whatever it was. -/
theorem Call.afterBlock_visible {k k' : Call} {err : Option Errno}
    (same : { k' with phase := k.phase }.visible = k.visible) :
    (k'.afterBlock err).visible = (k.afterBlock err).visible := by
  have moved : k'.afterBlock err = { k' with phase := k.phase }.afterBlock err := by
    unfold Call.afterBlock Call.afterDeadline Call.afterTimeout
    cases k'.entry.waitable? <;> split_ifs <;> rfl
  rw [moved, Call.eq_observe_of_visible same, Call.afterBlock_observe, Call.visible_observe]

section View

variable {s₁ s₂ : State} {k : Call} {g : Observations → Observations}

/-- The task goroutine's steps outside the select do not read the record. -/
theorem State.run_observe (task : s₁.task = s₂.task) (env : s₁.env = s₂.env) :
    (s₁.run (k.observe g)).map State.view = (s₂.run k).map State.view := by
  obtain ⟨t, e, c₁⟩ := s₁
  obtain ⟨t', e', c₂⟩ := s₂
  simp only at task env
  subst task env
  rcases phase : k.phase with _ | (_ | _ | _ | _) | err | err | err | err | err
  case disarm =>
    simp only [State.run, phase, Call.observe_phase, Option.map_some', State.view, State.disarm_task,
      State.disarm_env, State.disarm_call, Call.observe_entry, Call.observe_timer, Option.some.injEq,
      Prod.mk.injEq, true_and]
    split_ifs
    all_goals first | rfl | exact Call.afterDeadline_visible rfl
  case clockEnd =>
    simp only [State.run, phase, Call.observe_phase, Option.map_some', State.view, State.clockEnd,
      State.withCall, Option.some.injEq, Prod.mk.injEq, true_and]
    exact Call.afterTimeout_visible rfl
  all_goals
    simp only [State.run, phase, Call.observe_phase, State.fastPath, State.gosched, State.reinterrupt,
      State.drain, State.clockEnd, State.unregister, State.withCall, Call.observe_entry] <;>
    (try split) <;> (try split_ifs) <;>
    simp_all [State.view, Call.visible, State.arm_task, State.arm_env, State.arm_call,
      Call.afterBlock_observe, Call.afterDeadline_observe, Call.afterTimeout_observe]

theorem State.select_observe (task : s₁.task = s₂.task) (env : s₁.env = s₂.env) (c : SelectCase) :
    (s₁.select (k.observe g) c).map State.view = (s₂.select k c).map State.view := by
  obtain ⟨t, e, c₁⟩ := s₁
  obtain ⟨t', e', c₂⟩ := s₂
  simp only at task env
  subst task env
  cases c <;> simp only [State.select, Call.observe_C, Call.observe_entry] <;> split_ifs <;>
    simp [State.view, Call.visible, Call.afterBlock_observe]

/-- No step reads the record: states that agree on the rest take the same steps to
states that agree on the rest. -/
theorem step_view (same : s₁.view = s₂.view) (a : Action) :
    (step s₁ a).map State.view = (step s₂ a).map State.view := by
  obtain ⟨t, e, c₁⟩ := s₁
  obtain ⟨t', e', c₂⟩ := s₂
  simp only [State.view, Prod.mk.injEq] at same
  obtain ⟨rfl, rfl, calls⟩ := same
  cases c₂ with
  | none =>
    cases Option.map_eq_none'.mp calls
    rfl
  | some k =>
    obtain ⟨k', rfl, visible⟩ := Option.map_eq_some'.mp calls
    rw [Call.eq_observe_of_visible visible]
    cases a with
    | run => exact State.run_observe rfl rfl
    | select c =>
      simp only [step, Call.observe_phase]
      split_ifs
      · exact State.select_observe rfl rfl c
      · rfl
    | _ => simp only [step, Call.observe_timer] <;> (try split_ifs) <;> simp [State.view, Call.visible, apply_ite]

theorem exec_view (same : s₁.view = s₂.view) (acts : List Action) :
    (exec s₁ acts).map State.view = (exec s₂ acts).map State.view := by
  induction acts generalizing s₁ s₂ with
  | nil => simpa [exec]
  | cons a acts ih =>
    have stepped := step_view same a
    simp only [exec]
    cases h₁ : step s₁ a <;> cases h₂ : step s₂ a <;> simp_all
    exact ih stepped

end View

/-- For every call at `block`'s fast path with `C` empty: posting the value before the
fast path runs, or right after it, when the task has gone to sleep, leads to states that
agree on the task, the channels and subscribers and the call, once the main select takes
the value, and so after every run from there; in both the call returns `nil`. -/
theorem fastPath_agrees_with_sleep {s : State} (current : s.call = some k)
    (fast : k.phase = .block .fastPath) (empty : s.env.chans k.C = 0) :
    ∃ a b, exec { s with env := s.env.post k.C } [.run] = some a ∧
      exec s [.run, .post k.C, .run, .select .event] = some b ∧
      (∀ acts, (exec a acts).map State.view = (exec b acts).map State.view) ∧
      ∃ n a' k', exec a (List.replicate n .run) = some a' ∧ a'.call = some k' ∧
        k'.phase = .returned none := by
  simp only [exec, step, current, State.run, fast, State.fastPath, Env.post_chans, empty,
    Nat.zero_add, Function.update_same, Nat.lt_add_one, ↓reduceIte, Option.bind_some, Option.map_some',
    Nat.lt_irrefl, Call.observe_C, Call.observe_phase, State.gosched, State.withCall, State.select,
    Option.some_bind]
  refine ⟨_, _, rfl, rfl, fun acts => exec_view ?_ acts, result_reaches rfl (Call.afterBlock_result _ _)⟩
  simp only [State.view, Task.completeSleep_prepareSleep, Option.map_some', Prod.mk.injEq,
    Option.some.injEq, true_and]
  exact (Call.afterBlock_visible (by rfl)).trans (Call.afterBlock_visible (by rfl)).symm

/-- `BlockOn` with nothing ready: the fast path on an event already posted and the select
on an event posted while the task sleeps agree. -/
theorem fastPath_agrees_with_sleep_on :
    ∃ a b, exec { readyState.beginCall (.blockOn 0) with
        env := (readyState.beginCall (.blockOn 0)).env.post 1 } [.run] = some a ∧
      exec (readyState.beginCall (.blockOn 0)) [.run, .post 1, .run, .select .event] = some b ∧
      (∀ acts, (exec a acts).map State.view = (exec b acts).map State.view) ∧
      ∃ n a' k', exec a (List.replicate n .run) = some a' ∧ a'.call = some k' ∧
        k'.phase = .returned none := by
  have current : (readyState.beginCall (.blockOn 0)).call = some _ := rfl
  exact fastPath_agrees_with_sleep current rfl rfl

end Sentry.Kernel
