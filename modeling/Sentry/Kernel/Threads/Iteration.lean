import Sentry.Kernel.Threads

namespace Sentry.Kernel

/-! # Walking a task set and a thread group

`forEachThreadGroupLocked` calls `f(tg, tg.leader)` for each key of the root namespace's
`tgids` and `forEachTaskLocked` calls `f(t)` for each key of its `tids`; a thread group's
`ForEachTask` calls `f` on the group's tasks front to back until `f` returns `false`, and
`Count` counts them. Each walk is modelled by the arguments of the calls it makes.

A `nil` key of `tgids` makes `tg.leader` dereference `nil`, and the group walk panics
exactly then. Under the namespace invariant it never does, and the two walks of a task
set agree: every leader the group walk passes is a task the task walk visits.
-/

variable (objs : Objects) (root : PIDNamespace)

/-- `ts.forEachThreadGroupLocked(f)` with `ts.Root` the namespace `root`: the arguments of
the calls to `f`, in order, or `none` where `tg.leader` dereferences a `nil` key. -/
def forEachThreadGroupLocked : Option (List (GroupRef × Option TaskRef)) :=
  root.tgids.keys.mapM fun tg => tg.map fun g => (g, objs.leader g)

/-- `ts.forEachTaskLocked(f)` with `ts.Root` the namespace `root`: the argument of each
call to `f`, in order. -/
def forEachTaskLocked : List (Option TaskRef) := root.tids.keys

namespace ThreadGroup

/-- The loop of `tg.ForEachTask(f)` from a task on: `f` is called on it, and the loop
moves to the next task only if `f` returned `true`. -/
def forEachTaskFrom (f : TaskRef → Bool) : List TaskRef → List TaskRef
  | [] => []
  | t :: next => t :: if f t then forEachTaskFrom f next else []

/-- `tg.ForEachTask(f)`: the tasks `f` is called on, in order. -/
def forEachTask (tg : GroupRef) (f : TaskRef → Bool) : List TaskRef :=
  forEachTaskFrom f (objs.members tg)

/-- `tg.Count()`: one increment for each task of `tg.tasks`. -/
def count (tg : GroupRef) : Nat := (objs.members tg).foldl (fun count _ => count + 1) 0

end ThreadGroup

variable {objs root}

/-! ## The task set's walks -/

/-- The group walk over any list of keys: it fails at the first `nil` key, and otherwise
passes each group with its leader. -/
theorem mapM_leader_eq (keys : List (Option GroupRef)) :
    keys.mapM (fun tg => tg.map fun g => (g, objs.leader g)) =
      if none ∈ keys then none else some ((keys.filterMap id).map fun g => (g, objs.leader g)) := by
  induction keys with
  | nil => rfl
  | cons tg keys ih =>
    rw [List.mapM_cons]
    cases tg with
    | none => simp
    | some g =>
      rw [ih]
      split <;> simp_all

/-- The group walk panics exactly when `tgids` has a `nil` key. -/
theorem forEachThreadGroupLocked_eq_none_iff :
    forEachThreadGroupLocked objs root = none ↔ none ∈ root.tgids.keys := by
  rw [forEachThreadGroupLocked, mapM_leader_eq]
  split <;> simp_all

/-- A group is a key of `tgids` exactly when its leader is a task visible in the namespace. -/
theorem PIDNamespace.Valid.mem_tgids_keys (valid : root.Valid objs) {tg : GroupRef} :
    some tg ∈ root.tgids.keys ↔ ∃ t tid, objs.leader tg = some t ∧ root.tids.get? (some t) = some tid := by
  rw [GoMap.mem_keys, valid.tgids]
  cases objs.leader tg with
  | none => simp [valid.noNilTask]
  | some t => simp

/-- A group is a key of `tgids` exactly when its ID there is not `0`. -/
theorem PIDNamespace.Valid.mem_tgids_keys_iff (valid : root.Valid objs) {tg : GroupRef} :
    some tg ∈ root.tgids.keys ↔ root.idOfThreadGroup (some tg) ≠ 0 := by
  rw [GoMap.mem_keys, PIDNamespace.idOfThreadGroup]
  cases mapped : root.tgids.get? (some tg) with
  | none => simp
  | some tid => simpa using valid.tid_ne_zero (by rwa [← valid.tgids])

/-- Under the namespace invariant the walks of a task set never reach `nil`. The group
walk calls `f` once for each group `ThreadGroupWithID` finds and passes its leader: a
task of that group, visible in the root namespace under the group's ID, which is not `0`,
and so a task the task walk visits; the task walk calls `f` once for each visible task. -/
theorem forEachThreadGroupLocked_visits_leaders (valid : root.Valid objs) :
    ∃ calls, forEachThreadGroupLocked objs root = some calls ∧
      (calls.map Prod.fst).Nodup ∧
      (∀ tg, tg ∈ calls.map Prod.fst ↔ ∃ tid, root.threadGroupWithID objs tid = some tg) ∧
      (∀ tg leader, (tg, leader) ∈ calls → ∃ t, leader = some t ∧ objs.tg t = tg ∧
        root.idOfTask leader = root.idOfThreadGroup (some tg) ∧ root.idOfThreadGroup (some tg) ≠ 0 ∧
        leader ∈ forEachTaskLocked root) ∧
      (forEachTaskLocked root).Nodup ∧ ∀ t, t ∈ forEachTaskLocked root ↔ root.Visible t := by
  have noNil : none ∉ root.tgids.keys := by simp [GoMap.mem_keys, valid.noNilGroup]
  have groups : ∀ tg, tg ∈ root.tgids.keys.filterMap id ↔ some tg ∈ root.tgids.keys := by simp
  refine ⟨_, by rw [forEachThreadGroupLocked, mapM_leader_eq, if_neg noNil], ?_, fun tg => ?_,
    fun tg leader called => ?_, root.tids.keys_nodup, fun t => ?_⟩
  · simpa [List.map_map, Function.comp_def] using
      root.tgids.keys_nodup.filterMap fun _ _ _ first second => first.trans second.symm
  · simp [List.map_map, Function.comp_def, groups, valid.mem_tgids_keys_iff,
      valid.threadGroupWithID_eq_some]
  · obtain ⟨_, member, ⟨⟩⟩ := List.mem_map.mp called
    obtain ⟨t, tid, led, mapped⟩ := valid.mem_tgids_keys.mp ((groups tg).mp member)
    refine ⟨t, led, valid.leader tg t led, ?_, ?_, ?_⟩
    · simp [PIDNamespace.idOfTask, PIDNamespace.idOfThreadGroup, valid.tgids, led]
    · exact valid.mem_tgids_keys_iff.mp ((groups tg).mp member)
    · simp [forEachTaskLocked, GoMap.mem_keys, led, mapped]
  · simp [forEachTaskLocked, GoMap.mem_keys, valid.visible_iff]

/-- In the two-thread namespace the group walk passes the one group with its leader,
task `0`, which the task walk visits. -/
theorem forEachThreadGroupLocked_visits_leaders_twoThreads :
    forEachThreadGroupLocked twoThreadObjects twoThreadNamespace = some [(⟨0⟩, some ⟨0⟩)] ∧
      some ⟨0⟩ ∈ forEachTaskLocked twoThreadNamespace := by
  obtain ⟨calls, walked, -, -, leaders, -⟩ :=
    forEachThreadGroupLocked_visits_leaders twoThreadNamespace_valid
  have computed : calls = [(⟨0⟩, some ⟨0⟩)] := Option.some.inj (walked.symm.trans rfl)
  subst computed
  obtain ⟨-, -, -, -, -, visited⟩ := leaders ⟨0⟩ (some ⟨0⟩) (List.mem_singleton_self _)
  exact ⟨walked, visited⟩

/-! ## A thread group's walk -/

namespace ThreadGroup

theorem forEachTaskFrom_eq (f : TaskRef → Bool) (tasks : List TaskRef) :
    forEachTaskFrom f tasks = tasks.takeWhile f ++ (tasks.dropWhile f).take 1 := by
  induction tasks with
  | nil => rfl
  | cons t next ih => cases accepted : f t <;> simp [forEachTaskFrom, accepted, ih]

theorem count_eq_length (tg : GroupRef) : count objs tg = (objs.members tg).length := by
  suffices counted : ∀ (tasks : List TaskRef) n, tasks.foldl (fun count _ => count + 1) n = n + tasks.length from
    (counted _ 0).trans (Nat.zero_add _)
  intro tasks
  induction tasks with
  | nil => simp
  | cons t next ih => intro n; simp only [List.foldl_cons, ih, List.length_cons]; omega

end ThreadGroup

/-- `ForEachTask` calls `f` on the group's tasks front to back, up to and including the
first on which `f` returns `false` and on none after it: a prefix of `tg.tasks`, on all
of which but the last `f` returned `true`. When `f` never returns `false`, it is called
on every task, `Count()` times. -/
theorem threadGroup_forEachTask_breaks (tg : GroupRef) (f : TaskRef → Bool) :
    ThreadGroup.forEachTask objs tg f =
        (objs.members tg).takeWhile f ++ ((objs.members tg).dropWhile f).take 1 ∧
      ThreadGroup.forEachTask objs tg f <+: objs.members tg ∧
      (∀ t ∈ (ThreadGroup.forEachTask objs tg f).dropLast, f t = true) ∧
      ((∀ t ∈ objs.members tg, f t = true) → ThreadGroup.forEachTask objs tg f = objs.members tg ∧
        (ThreadGroup.forEachTask objs tg f).length = ThreadGroup.count objs tg) := by
  have walk := ThreadGroup.forEachTaskFrom_eq f (objs.members tg)
  rw [ThreadGroup.forEachTask, walk, ThreadGroup.count_eq_length]
  refine ⟨rfl, ?_, fun t member => ?_, fun accepted => ?_⟩
  · conv => rhs; rw [← List.takeWhile_append_dropWhile f (objs.members tg)]
    exact (List.prefix_append_right_inj _).mpr (List.take_prefix _ _)
  · cases rest : (objs.members tg).dropWhile f with
    | nil =>
      rw [rest, List.take_nil, List.append_nil] at member
      exact List.mem_takeWhile_imp (List.dropLast_subset _ member)
    | cons u more =>
      rw [rest, List.take_succ_cons, List.take_zero, List.dropLast_concat] at member
      exact List.mem_takeWhile_imp member
  · simp [List.takeWhile_eq_self_iff.mpr accepted, List.dropWhile_eq_nil_iff.mpr accepted]

/-- In the two-thread group a callback that stops at the leader sees only the leader,
and one that never stops sees both threads, as many as `Count()` says. -/
theorem threadGroup_forEachTask_breaks_twoThreads :
    ThreadGroup.forEachTask twoThreadObjects ⟨0⟩ (fun t => t ≠ ⟨0⟩) = [⟨0⟩] ∧
      (ThreadGroup.forEachTask twoThreadObjects ⟨0⟩ fun _ => true).length =
        ThreadGroup.count twoThreadObjects ⟨0⟩ :=
  ⟨(threadGroup_forEachTask_breaks ⟨0⟩ _).1.trans rfl,
    ((threadGroup_forEachTask_breaks ⟨0⟩ _).2.2.2 fun _ _ => rfl).2⟩

/-- `MemberIDs(pidns)` lists at most `Count()` IDs, for every namespace, and exactly
`Count()` when every task of the group is visible in it. -/
theorem memberIDs_length_le_count {pidns : PIDNamespace} (valid : pidns.Valid objs) (tg : GroupRef) :
    (memberIDs objs tg pidns).length ≤ ThreadGroup.count objs tg ∧
      ((memberIDs objs tg pidns).length = ThreadGroup.count objs tg ↔
        ∀ t ∈ objs.members tg, pidns.Visible (some t)) := by
  rw [ThreadGroup.count_eq_length, memberIDs]
  refine ⟨List.length_filterMap_le _ _, ?_⟩
  simp only [List.filterMap_length_eq_length, valid.visible_iff, Option.isSome_iff_exists]

/-- Both threads of the two-thread group are visible, so `MemberIDs` lists `Count()` IDs. -/
theorem memberIDs_length_le_count_twoThreads :
    (memberIDs twoThreadObjects ⟨0⟩ twoThreadNamespace).length = ThreadGroup.count twoThreadObjects ⟨0⟩ :=
  (memberIDs_length_le_count twoThreadNamespace_valid ⟨0⟩).2.mpr fun t member => by
    simp only [twoThreadObjects, if_pos, List.mem_cons, List.mem_singleton, List.not_mem_nil, or_false] at member
    rcases member with rfl | rfl
    · exact ⟨1, rfl⟩
    · exact ⟨2, rfl⟩

end Sentry.Kernel
