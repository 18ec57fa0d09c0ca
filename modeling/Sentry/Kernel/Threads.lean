import Mathlib.Data.List.Nodup

namespace Sentry.Kernel

/-! # PID namespaces and their lookups

A `PIDNamespace` is a bimap between thread IDs and the tasks visible in it, with a
second map from thread groups to their leaders' IDs. Its lookups read one Go map each
and return the zero value for an absent key; its snapshots list a map's keys. Under
the representation invariant the comments on `PIDNamespace` state, the lookups,
`MemberIDs` and the snapshots agree with each other.

Tasks and thread groups are pointers: an address, and `none` for `nil`. A Go map is its
entries in iteration order, each key once.
-/

/-- A Go map: its entries in iteration order, each key once. -/
structure GoMap (K V : Type) where
  entries : List (K × V)
  nodup : (entries.map Prod.fst).Nodup

namespace GoMap

variable {K V : Type} (m : GoMap K V)

/-- The keys, in iteration order: `for k := range m`. -/
def keys : List K := m.entries.map Prod.fst

/-- `make(map[K]V)`. -/
def empty : GoMap K V := ⟨[], List.nodup_nil⟩

theorem keys_nodup : m.keys.Nodup := m.nodup

theorem entries_nodup : m.entries.Nodup := List.Nodup.of_map _ m.nodup

variable [DecidableEq K]

/-- `v, ok := m[k]`. -/
def get? (k : K) : Option V := (m.entries.find? (·.1 = k)).map (·.2)

variable {m}

theorem get?_eq_some_iff {k : K} {v : V} : m.get? k = some v ↔ (k, v) ∈ m.entries := by
  unfold get?
  constructor
  · intro found
    obtain ⟨e, hit, rfl⟩ := Option.map_eq_some'.mp found
    have key : e.1 = k := by simpa using List.find?_some hit
    simpa [← key] using List.mem_of_find?_eq_some hit
  · intro member
    have present : (m.entries.find? (·.1 = k)).isSome :=
      List.find?_isSome.mpr ⟨(k, v), member, by simp⟩
    obtain ⟨e, found⟩ := Option.isSome_iff_exists.mp present
    have key : e.1 = k := by simpa using List.find?_some found
    have same := List.inj_on_of_nodup_map m.nodup (List.mem_of_find?_eq_some found) member key
    simp [found, same]

theorem mem_keys {k : K} : k ∈ m.keys ↔ ∃ v, m.get? k = some v := by
  simp [keys, get?_eq_some_iff]

end GoMap

/-- `ThreadID` is an `int32`; no lookup computes with it. -/
abbrev ThreadID := Int

/-- The address of a `Task`. -/
structure TaskRef where
  addr : Nat
deriving DecidableEq, Repr

/-- The address of a `ThreadGroup`. -/
structure GroupRef where
  addr : Nat
deriving DecidableEq, Repr

/-- The fields of tasks and thread groups the lookups read: `t.tg`, which is immutable,
`tg.leader`, `tg.tasks` front to back, and `t.ContainerID()`. -/
structure Objects where
  tg : TaskRef → GroupRef
  leader : GroupRef → Option TaskRef
  members : GroupRef → List TaskRef
  containerID : TaskRef → String

/-- A `PIDNamespace`: what creation sets, and the maps the lookups read. `owner` is the
address of a `TaskSet`, immutable once set; `parent` the address of a `PIDNamespace`,
`nil` for the root; `id` a `uint64`. The last two are immutable. -/
structure PIDNamespace where
  owner : Option Nat
  parent : Option Nat
  id : Nat
  tasks : GoMap ThreadID (Option TaskRef)
  tids : GoMap (Option TaskRef) ThreadID
  tgids : GoMap (Option GroupRef) ThreadID

namespace PIDNamespace

variable (ns : PIDNamespace) (objs : Objects)

def taskWithID (tid : ThreadID) : Option TaskRef := (ns.tasks.get? tid).getD none

def idOfTask (t : Option TaskRef) : ThreadID := (ns.tids.get? t).getD 0

def idOfThreadGroup (tg : Option GroupRef) : ThreadID := (ns.tgids.get? tg).getD 0

def threadGroupWithID (tid : ThreadID) : Option GroupRef :=
  match ns.taskWithID tid with
  | none => none
  | some t => if some t ≠ objs.leader (objs.tg t) then none else some (objs.tg t)

/-- A task is visible in a PID namespace if the namespace contains a thread ID that
maps to it. -/
def Visible (t : Option TaskRef) : Prop := ∃ tid, ns.tasks.get? tid = some t

/-- The invariants documented on `PIDNamespace`. -/
structure Valid : Prop where
  inverse : ∀ tid t, ns.tasks.get? tid = some t ↔ ns.tids.get? t = some tid
  noNilTask : ns.tids.get? none = none
  noZeroTID : ns.tasks.get? 0 = none
  tgids : ∀ tg, ns.tgids.get? (some tg) = ns.tids.get? (objs.leader tg)
  noNilGroup : ns.tgids.get? none = none
  leader : ∀ tg t, objs.leader tg = some t → objs.tg t = tg
  members : ∀ tg, (objs.members tg).Nodup

variable {ns objs} (valid : ns.Valid objs)
include valid

theorem Valid.tids_injective {t t' : Option TaskRef} {tid : ThreadID} (first : ns.tids.get? t = some tid)
    (second : ns.tids.get? t' = some tid) : t = t' :=
  Option.some.inj (((valid.inverse tid t).mpr first).symm.trans ((valid.inverse tid t').mpr second))

theorem Valid.tid_ne_zero {t : Option TaskRef} {tid : ThreadID} (mapped : ns.tids.get? t = some tid) :
    tid ≠ 0 := by
  rintro rfl
  simpa [valid.noZeroTID] using (valid.inverse 0 t).mpr mapped

theorem Valid.task_ne_nil {t : Option TaskRef} {tid : ThreadID} (mapped : ns.tids.get? t = some tid) :
    t ≠ none := by
  rintro rfl
  simp [valid.noNilTask] at mapped

theorem Valid.taskWithID_eq_some {tid : ThreadID} {t : TaskRef} :
    ns.taskWithID tid = some t ↔ ns.tids.get? (some t) = some tid := by
  rw [← valid.inverse, taskWithID]
  cases ns.tasks.get? tid <;> simp

theorem Valid.visible_iff {t : Option TaskRef} : ns.Visible t ↔ ∃ tid, ns.tids.get? t = some tid := by
  simp only [Visible, valid.inverse]

/-- The leader-check path through `tasks` finds exactly the groups `tgids` maps to `tid`. -/
theorem Valid.threadGroupWithID_eq_some {tid : ThreadID} {tg : GroupRef} :
    ns.threadGroupWithID objs tid = some tg ↔ ns.idOfThreadGroup (some tg) = tid ∧ tid ≠ 0 := by
  constructor
  · unfold threadGroupWithID
    cases found : ns.taskWithID tid with
    | none => simp
    | some t =>
        dsimp only
        split
        · simp
        · rename_i led
          rintro ⟨⟩
          have mapped := valid.taskWithID_eq_some.mp found
          simp [idOfThreadGroup, valid.tgids, ← not_not.mp led, mapped, valid.tid_ne_zero mapped]
  · rintro ⟨named, nonzero⟩
    have mapped : ns.tids.get? (objs.leader tg) = some tid := by
      cases leads : ns.tids.get? (objs.leader tg) with
      | none => simp [idOfThreadGroup, valid.tgids, leads, eq_comm, nonzero] at named
      | some id => simpa [idOfThreadGroup, valid.tgids, leads] using named
    obtain ⟨t, led⟩ := Option.ne_none_iff_exists'.mp (valid.task_ne_nil mapped)
    rw [led] at mapped
    simp [threadGroupWithID, valid.taskWithID_eq_some.mpr mapped, valid.leader tg t led, led]

end PIDNamespace

/-- `tg.MemberIDs(pidns)`: the IDs in `pidns` of `tg`'s tasks that are visible there. -/
def memberIDs (objs : Objects) (tg : GroupRef) (pidns : PIDNamespace) : List ThreadID :=
  (objs.members tg).filterMap fun t => pidns.tids.get? (some t)

variable {ns : PIDNamespace} {objs : Objects}

theorem memberIDs_nodup (valid : ns.Valid objs) (tg : GroupRef) : (memberIDs objs tg ns).Nodup :=
  (valid.members tg).filterMap fun _ _ _ first second =>
    Option.some.inj (valid.tids_injective first second)

theorem mem_memberIDs {tg : GroupRef} {tid : ThreadID} :
    tid ∈ memberIDs objs tg ns ↔ ∃ t ∈ objs.members tg, ns.tids.get? (some t) = some tid :=
  List.mem_filterMap

/-- Under the representation invariant the lookups agree for every task, group and
thread ID: a visible task's ID leads back to it and an invisible task (`nil` included)
has ID `0`; a task found by ID has that ID; `ThreadGroupWithID`'s leader check and the
`tgids` shortcut find the same groups; and `MemberIDs` lists distinct IDs of members. -/
theorem pidNamespace_lookups_agree (valid : ns.Valid objs) :
    (∀ t, ns.Visible t → ns.taskWithID (ns.idOfTask t) = t) ∧
    (∀ t, ¬ns.Visible t → ns.idOfTask t = 0) ∧ ns.idOfTask none = 0 ∧
    (∀ tid, ns.taskWithID tid ≠ none → ns.idOfTask (ns.taskWithID tid) = tid) ∧
    (∀ tid tg, ns.threadGroupWithID objs tid = some tg ↔
      ns.idOfThreadGroup (some tg) = tid ∧ tid ≠ 0) ∧
    (∀ tg, (memberIDs objs tg ns).Nodup ∧
      ∀ tid ∈ memberIDs objs tg ns, ∃ t ∈ objs.members tg, ns.taskWithID tid = some t) := by
  refine ⟨fun t visible => ?_, fun t hidden => ?_, by simp [PIDNamespace.idOfTask, valid.noNilTask],
    fun tid found => ?_, fun tid tg => valid.threadGroupWithID_eq_some,
    fun tg => ⟨memberIDs_nodup valid tg, fun tid member => ?_⟩⟩
  · obtain ⟨tid, mapped⟩ := valid.visible_iff.mp visible
    obtain ⟨t, rfl⟩ := Option.ne_none_iff_exists'.mp (valid.task_ne_nil mapped)
    simp [PIDNamespace.idOfTask, mapped, valid.taskWithID_eq_some.mpr mapped]
  · cases mapped : ns.tids.get? t with
    | none => simp [PIDNamespace.idOfTask, mapped]
    | some tid => exact absurd (valid.visible_iff.mpr ⟨tid, mapped⟩) hidden
  · obtain ⟨t, named⟩ := Option.ne_none_iff_exists'.mp found
    simp [named, PIDNamespace.idOfTask, valid.taskWithID_eq_some.mp named]
  · obtain ⟨t, member, mapped⟩ := mem_memberIDs.mp member
    exact ⟨t, member, valid.taskWithID_eq_some.mpr mapped⟩

/-- One thread group: its leader, task `0`, and a second thread, task `1`. -/
def twoThreadObjects : Objects where
  tg _ := ⟨0⟩
  leader tg := if tg = ⟨0⟩ then some ⟨0⟩ else none
  members tg := if tg = ⟨0⟩ then [⟨0⟩, ⟨1⟩] else []
  containerID _ := ""

/-- The two threads with TIDs `1` and `2`. -/
def twoThreadNamespace : PIDNamespace where
  owner := some 0
  parent := none
  id := 1
  tasks := ⟨[(1, some ⟨0⟩), (2, some ⟨1⟩)], by decide⟩
  tids := ⟨[(some ⟨0⟩, 1), (some ⟨1⟩, 2)], by decide⟩
  tgids := ⟨[(some ⟨0⟩, 1)], by decide⟩

theorem twoThreadNamespace_valid : twoThreadNamespace.Valid twoThreadObjects where
  inverse tid t := by
    simp only [twoThreadNamespace, GoMap.get?_eq_some_iff, List.mem_cons, Prod.mk.injEq,
      List.mem_singleton, List.not_mem_nil, or_false]
    tauto
  noNilTask := rfl
  noZeroTID := rfl
  tgids tg := by
    simp only [twoThreadObjects]
    split_ifs <;> simp_all [twoThreadNamespace, GoMap.get?, eq_comm]
  noNilGroup := rfl
  leader tg t := by
    simp only [twoThreadObjects]
    split_ifs <;> simp_all
  members tg := by
    simp only [twoThreadObjects]
    split_ifs <;> simp

/-- In the two-thread namespace the lookups agree: the group's member IDs are
distinct, and TID `1` finds the group whose `tgids` entry is `1`. -/
theorem pidNamespace_lookups_agree_twoThreads :
    twoThreadNamespace.Valid twoThreadObjects ∧ (memberIDs twoThreadObjects ⟨0⟩ twoThreadNamespace).Nodup ∧
      (twoThreadNamespace.threadGroupWithID twoThreadObjects 1 = some ⟨0⟩ ↔
        twoThreadNamespace.idOfThreadGroup (some ⟨0⟩) = 1 ∧ (1 : ThreadID) ≠ 0) :=
  have agree := pidNamespace_lookups_agree twoThreadNamespace_valid
  ⟨twoThreadNamespace_valid, (agree.2.2.2.2.2 ⟨0⟩).1, agree.2.2.2.2.1 1 ⟨0⟩⟩

namespace PIDNamespace

variable (ns : PIDNamespace) (objs : Objects)

/-- `ns.TasksAppend(ts)`; `ns.Tasks()` is `ns.tasksAppend []`. -/
def tasksAppend (ts : List (Option TaskRef)) : List (Option TaskRef) := ts ++ ns.tids.keys

/-- `ns.NumTasks()`: `len(ns.tids)`. -/
def numTasks : Nat := ns.tids.entries.length

/-- `ns.NumTasksPerContainer(cid)`. A `nil` key of `tids` is skipped here, where the code
would panic dereferencing it in `t.ContainerID()`; the namespace invariant rules such a
key out (`Valid.noNilTask`). -/
def numTasksPerContainer (cid : String) : Nat :=
  (ns.tids.keys.filter fun t => t.map objs.containerID = some cid).length

/-- `ns.ThreadGroupsAppend(tgs)`; `ns.ThreadGroups()` is `ns.threadGroupsAppend []`. -/
def threadGroupsAppend (tgs : List (Option GroupRef)) : List (Option GroupRef) :=
  tgs ++ ns.tgids.keys

variable {ns objs}

/-- `tids` is `tasks` with each entry turned round. -/
theorem Valid.tids_perm (valid : ns.Valid objs) : ns.tids.entries.Perm (ns.tasks.entries.map Prod.swap) :=
  (List.perm_ext_iff_of_nodup ns.tids.entries_nodup
    (ns.tasks.entries_nodup.map Prod.swap_injective)).mpr fun ⟨t, tid⟩ => by
      simp [← GoMap.get?_eq_some_iff, valid.inverse]

theorem Valid.numTasksPerContainer_eq (valid : ns.Valid objs) (cid : String) :
    ns.numTasksPerContainer objs cid =
      (ns.tasks.entries.filter fun e => e.2.map objs.containerID = some cid).length := by
  have counted := ((valid.tids_perm.map Prod.fst).filter
    fun t => decide (t.map objs.containerID = some cid)).length_eq
  simpa [numTasksPerContainer, GoMap.keys, List.filter_map, Function.comp_def] using counted

end PIDNamespace

/-- The snapshots agree with the bimap: `Tasks()` lists each visible task once, and
`NumTasks()` is the number of thread IDs in use; `ThreadGroups()` lists, once each and
never `nil`, exactly the groups `ThreadGroupWithID` finds; `NumTasksPerContainer(cid)`
counts the thread IDs whose task runs in container `cid`. -/
theorem pidNamespace_snapshots (valid : ns.Valid objs) :
    (ns.tasksAppend []).Nodup ∧ (∀ t, t ∈ ns.tasksAppend [] ↔ ns.Visible t) ∧
    ns.numTasks = ns.tasks.entries.length ∧
    (∀ cid, ns.numTasksPerContainer objs cid =
      (ns.tasks.entries.filter fun e => e.2.map objs.containerID = some cid).length) ∧
    (ns.threadGroupsAppend []).Nodup ∧ none ∉ ns.threadGroupsAppend [] ∧
    ∀ tg, some tg ∈ ns.threadGroupsAppend [] ↔ ∃ tid, ns.threadGroupWithID objs tid = some tg := by
  refine ⟨ns.tids.keys_nodup, fun t => ?_, by simpa using valid.tids_perm.length_eq,
    valid.numTasksPerContainer_eq, ns.tgids.keys_nodup, fun member => ?_, fun tg => ?_⟩
  · simp [PIDNamespace.tasksAppend, GoMap.mem_keys, valid.visible_iff]
  · simp [PIDNamespace.threadGroupsAppend, GoMap.mem_keys, valid.noNilGroup] at member
  · simp only [PIDNamespace.threadGroupsAppend, List.nil_append, GoMap.mem_keys,
      valid.threadGroupWithID_eq_some, PIDNamespace.idOfThreadGroup, valid.tgids]
    constructor
    · rintro ⟨tid, mapped⟩
      exact ⟨tid, by simp [mapped], valid.tid_ne_zero mapped⟩
    · rintro ⟨tid, named, nonzero⟩
      cases mapped : ns.tids.get? (objs.leader tg) with
      | none => simp [mapped] at named; exact absurd named.symm nonzero
      | some id => exact ⟨id, rfl⟩

/-- The two-thread namespace lists both tasks and counts two; both run in container `""`. -/
theorem pidNamespace_snapshots_twoThreads :
    twoThreadNamespace.Valid twoThreadObjects ∧ twoThreadNamespace.numTasks = 2 ∧
      twoThreadNamespace.numTasksPerContainer twoThreadObjects "" = 2 ∧
      (∀ t, t ∈ twoThreadNamespace.tasksAppend [] ↔ twoThreadNamespace.Visible t) :=
  have snap := pidNamespace_snapshots twoThreadNamespace_valid
  ⟨twoThreadNamespace_valid, snap.2.2.1.trans rfl, (snap.2.2.2.1 "").trans rfl, snap.2.1⟩

end Sentry.Kernel
