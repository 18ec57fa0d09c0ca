import Sentry.Kernel.Threads
import Mathlib.Data.List.Perm.Basic
import Mathlib.Data.List.Range
import Mathlib.Logic.Relation

namespace Sentry.Kernel

/-! # Creating PID namespaces

`NewRootPIDNamespace` makes a namespace with neither owner nor parent, `newTaskSet`
makes it the root of a `TaskSet` and its owner, and `NewChild` makes a namespace with
the parent's owner and the parent itself. Each creation takes its ID from the global
counter `lastPIDNSID` with one atomic `Add(1)`.

`NewChild` may run on any goroutine. Its one shared effect is the `Add(1)`; it then
builds the namespace privately and returns it, and only then can a caller use it. So a
call is two steps: it takes its ID, and later it returns. Calls take IDs and return in
any interleaving.
-/

/-- The field of a `TaskSet` namespace creation reads: `Root`, the address of the root
PID namespace, which is immutable. -/
structure TaskSet where
  root : Nat
deriving DecidableEq, Repr

/-- What namespace creation shares: the global `lastPIDNSID`, the namespaces and task
sets allocated so far, each at its index, and the namespaces of the `NewChild` calls
that took an ID and have not returned. -/
structure Heap where
  lastPIDNSID : Nat
  namespaces : List PIDNamespace
  taskSets : List TaskSet
  inFlight : List PIDNamespace

/-- A fresh namespace: `newPIDNamespace`'s struct, with empty maps. -/
def newPIDNamespace (ts parent : Option Nat) (id : Nat) : PIDNamespace :=
  { owner := ts, parent, id, tasks := .empty, tids := .empty, tgids := .empty }

namespace Heap

variable (h : Heap)

/-- The heap of a process that has created no namespace yet. -/
def empty : Heap := ⟨0, [], [], []⟩

/-- `lastPIDNSID.Add(1)` on the `uint64`: the new value. -/
def addPIDNSID : Heap × Nat :=
  let id := (h.lastPIDNSID + 1) % 18446744073709551616
  ({ h with lastPIDNSID := id }, id)

/-- `NewRootPIDNamespace`: allocated at the next address. -/
def newRootPIDNamespace : Heap × Nat :=
  let (h', id) := h.addPIDNSID
  ({ h' with namespaces := h'.namespaces ++ [newPIDNamespace none none id] }, h'.namespaces.length)

/-- `newTaskSet(pidns)`: a task set rooted at `pidns`, which it then owns. -/
def newTaskSet (pidns : Nat) : Heap × Nat :=
  ({ h with
      taskSets := h.taskSets ++ [⟨pidns⟩]
      namespaces := h.namespaces.modify (fun ns => { ns with owner := some h.taskSets.length }) pidns },
    h.taskSets.length)

/-- `ns.NewChild` up to its return: `newPIDNamespace(ns.owner, ns, userns)` has taken
its ID. -/
def newChild (ns : Nat) : Heap :=
  let (h', id) := h.addPIDNSID
  { h' with inFlight := h'.inFlight ++ [newPIDNamespace ((h.namespaces[ns]?).bind (·.owner)) (some ns) id] }

/-- The `NewChild` call that took the `i`-th pending ID returns its namespace. -/
def returnChild (i : Nat) : Option Heap :=
  (h.inFlight[i]?).map fun ns =>
    { h with namespaces := h.namespaces ++ [ns], inFlight := h.inFlight.eraseIdx i }

/-- A `NewChild` step of some goroutine. -/
inductive Creation
  | newChild (ns : Nat)
  | returnChild (i : Nat)
deriving DecidableEq, Repr

/-- `NewChild` is called only on namespaces already returned. -/
def step : Creation → Option Heap
  | .newChild ns => if ns < h.namespaces.length then some (h.newChild ns) else none
  | .returnChild i => h.returnChild i

def Step (h h' : Heap) : Prop := ∃ c, h.step c = some h'

def Steps : Heap → Heap → Prop := Relation.ReflTransGen Step

/-- The root namespace, made the root of the first task set. -/
def boot : Heap :=
  let (h, root) := empty.newRootPIDNamespace
  (h.newTaskSet root).1

/-- `ns.Root()`: `ns.owner.Root`. -/
def root (ns : Nat) : Option Nat :=
  ((h.namespaces[ns]?).bind (·.owner)).bind fun ts => (h.taskSets[ts]?).map (·.root)

def parentOf (ns : Nat) : Option Nat := (h.namespaces[ns]?).bind (·.parent)

/-- The namespaces met walking `parent` pointers from `ns`, at most `fuel` of them. -/
def ancestors : Nat → Nat → List Nat
  | 0, _ => []
  | fuel + 1, ns => ns :: match h.parentOf ns with
      | some parent => ancestors fuel parent
      | none => []

/-- `ns`'s parent chain: a walk as long as there are namespaces. -/
def parentChain (ns : Nat) : List Nat := h.ancestors h.namespaces.length ns

/-- Every creation takes one ID. -/
def created : Nat := h.namespaces.length + h.inFlight.length

/-- The namespaces created so far, returned or not. -/
def all : List PIDNamespace := h.namespaces ++ h.inFlight

/-- The shape every run of creations keeps: one task set, rooted at namespace `0`,
owns every namespace; namespace `0` alone has no parent and every other namespace has
an older one; and the IDs handed out are `1, 2, ...` modulo `2 ^ 64`, one per creation. -/
structure Forest : Prop where
  taskSets : h.taskSets = [⟨0⟩]
  owner : ∀ ns ∈ h.all, ns.owner = some 0
  nonempty : 0 < h.namespaces.length
  parent : ∀ a ns, h.namespaces[a]? = some ns →
    (ns.parent = none ↔ a = 0) ∧ ∀ p, ns.parent = some p → p < a
  pending : ∀ ns ∈ h.inFlight, ∃ p, ns.parent = some p ∧ p < h.namespaces.length
  counter : h.lastPIDNSID = h.created % 18446744073709551616
  ids : (h.all.map (·.id)).Perm ((List.range h.created).map fun i => (i + 1) % 18446744073709551616)

end Heap

theorem perm_cons_eraseIdx {α : Type} {l : List α} {i : Nat} {x : α} (found : l[i]? = some x) :
    l.Perm (x :: l.eraseIdx i) := by
  obtain ⟨bound, rfl⟩ := List.getElem?_eq_some_iff.mp found
  rw [List.eraseIdx_eq_take_drop_succ]
  conv_lhs => rw [← List.take_append_drop i l, ← List.getElem_cons_drop l i bound]
  exact List.perm_middle

namespace Heap

variable {h h' : Heap}

theorem boot_forest : boot.Forest := by
  refine ⟨rfl, ?_, by decide, fun a ns found => ?_, nofun, rfl, by decide⟩
  · simp [boot, all, empty, newRootPIDNamespace, newTaskSet, addPIDNSID, newPIDNamespace]
  · match a with
    | 0 =>
        simp only [boot, empty, newRootPIDNamespace, newTaskSet, addPIDNSID] at found
        cases found
        simp [newPIDNamespace]
    | a + 1 => simp [boot, empty, newRootPIDNamespace, newTaskSet, addPIDNSID] at found

theorem Forest.newChild (forest : h.Forest) {a : Nat} (exists' : a < h.namespaces.length) :
    (h.newChild a).Forest := by
  obtain ⟨taskSets, owner, nonempty, parent, pending, counter, ids⟩ := forest
  have created : (h.newChild a).created = h.created + 1 := by
    simp [Heap.newChild, Heap.created, addPIDNSID]; omega
  have owned : (h.namespaces[a]?).bind (·.owner) = some 0 := by
    simp [List.getElem?_eq_getElem exists', owner _ (List.mem_append_left _ (List.getElem_mem ..))]
  refine ⟨taskSets, fun ns member => ?_, nonempty, parent, fun ns member => ?_, ?_, ?_⟩
  · simp only [Heap.newChild, addPIDNSID, all, List.mem_append, List.mem_singleton] at member
    rcases member with old | old | rfl
    · exact owner ns (List.mem_append_left _ old)
    · exact owner ns (List.mem_append_right _ old)
    · exact owned
  · simp only [Heap.newChild, addPIDNSID, List.mem_append, List.mem_singleton] at member
    rcases member with old | rfl
    · exact pending ns old
    · exact ⟨a, rfl, exists'⟩
  · rw [created]
    simp [Heap.newChild, addPIDNSID, counter, Nat.add_mod]
  · rw [created, List.range_succ, List.map_append]
    simp only [all, List.map_append] at ids
    simp only [Heap.newChild, addPIDNSID, all, ← List.append_assoc, List.map_append]
    refine (ids.append_right _).trans (List.Perm.of_eq ?_)
    simp [newPIDNamespace, counter, Nat.add_mod]

theorem Forest.returnChild (forest : h.Forest) {i : Nat} (returned : h.returnChild i = some h') :
    h'.Forest := by
  obtain ⟨taskSets, owner, nonempty, parent, pending, counter, ids⟩ := forest
  obtain ⟨x, found, rfl⟩ := Option.map_eq_some'.mp returned
  have moved : (h.namespaces ++ [x] ++ h.inFlight.eraseIdx i).Perm h.all := by
    rw [List.append_assoc]
    exact ((perm_cons_eraseIdx found).symm).append_left _
  have created : Heap.created
      { h with namespaces := h.namespaces ++ [x], inFlight := h.inFlight.eraseIdx i } = h.created := by
    have same := moved.length_eq
    simp only [all, List.length_append] at same
    simp only [Heap.created, List.length_append]
    omega
  obtain ⟨p, older, below⟩ := pending x (List.getElem?_mem found)
  refine ⟨taskSets, fun ns member => owner ns (moved.mem_iff.mp member), by simp,
    fun a ns found' => ?_, fun ns member => ?_, by rw [created]; exact counter, ?_⟩
  · by_cases old : a < h.namespaces.length
    · exact parent a ns (by simpa [List.getElem?_append_left old] using found')
    · have last : a = h.namespaces.length := by
        have := (List.getElem?_eq_some_iff.mp found').1
        simp at this
        omega
      subst last
      simp only [List.getElem?_append_right (Nat.le_refl _), Nat.sub_self, List.getElem?_cons_zero,
        Option.some.injEq] at found'
      subst found'
      refine ⟨⟨fun none => by simp [older] at none, fun zero => by omega⟩, fun q same => ?_⟩
      rw [older, Option.some.injEq] at same
      exact same ▸ below
  · obtain ⟨q, older', below'⟩ := pending ns (List.mem_of_mem_eraseIdx member)
    exact ⟨q, older', by simp; omega⟩
  · rw [created]
    exact (moved.map _).trans ids

theorem Forest.step (forest : h.Forest) {c : Creation} (stepped : h.step c = some h') : h'.Forest := by
  cases c with
  | newChild a =>
      simp only [Heap.step] at stepped
      split at stepped
      · cases stepped
        exact forest.newChild ‹_›
      · cases stepped
  | returnChild i => exact forest.returnChild stepped

theorem forest_of_steps (run : Steps boot h) : h.Forest := by
  induction run with
  | refl => exact boot_forest
  | tail _ stepped holds =>
      obtain ⟨c, stepped⟩ := stepped
      exact holds.step stepped

/-- Walking `parent` pointers with enough fuel: each step goes to the parent, an older
namespace, and the walk ends at namespace `0`. -/
theorem Forest.ancestors (forest : h.Forest) :
    ∀ fuel a, a < fuel → a < h.namespaces.length →
      (h.ancestors fuel a).head? = some a ∧
      (h.ancestors fuel a).Chain' (fun ns parent => h.parentOf ns = some parent) ∧
      (h.ancestors fuel a).Pairwise (· > ·) ∧ (h.ancestors fuel a).getLast? = some 0
  | 0, a, within, _ => absurd within (Nat.not_lt_zero a)
  | fuel + 1, a, within, exists' => by
      have found := List.getElem?_eq_getElem exists'
      have ⟨root, older⟩ := forest.parent a _ found
      cases parent : h.namespaces[a].parent with
      | none =>
          obtain rfl := root.mp parent
          simp [Heap.ancestors, parentOf, found, parent]
      | some p =>
          have below := older p parent
          obtain ⟨head, chain, sorted, last⟩ := forest.ancestors fuel p (by omega) (by omega)
          obtain ⟨rest, walked⟩ : ∃ rest, h.ancestors fuel p = p :: rest := by
            cases walk : h.ancestors fuel p with
            | nil => simp [walk] at head
            | cons q rest => simp only [walk, List.head?_cons, Option.some.injEq] at head; exact ⟨rest, by rw [head]⟩
          have link : h.parentOf a = some p := by simp [parentOf, found, parent]
          simp only [Heap.ancestors, link, walked] at chain sorted last ⊢
          refine ⟨rfl, .cons link chain, .cons (fun y member => ?_) sorted, by simpa using last⟩
          rcases List.mem_cons.mp member with rfl | later
          · exact below
          · exact Nat.lt_trans (List.rel_of_pairwise_cons sorted later) below

end Heap

/-- Over every run that boots the root namespace and its task set and then calls
`NewChild` on returned namespaces from any goroutines: the one task set owns every
namespace, returned or not; each namespace's parent chain follows `parent` pointers
without repeating, ends at the root, which has no parent, and that end is `Root()`;
and while fewer than `2 ^ 64` namespaces were created their IDs are distinct and
non-zero. -/
theorem namespace_creation_forest {h : Heap} (run : Heap.Steps Heap.boot h) :
    h.taskSets = [⟨0⟩] ∧ (∀ ns ∈ h.all, ns.owner = some 0) ∧
    (∀ a < h.namespaces.length,
      (h.parentChain a).head? = some a ∧
      (h.parentChain a).Chain' (fun ns parent => h.parentOf ns = some parent) ∧
      (h.parentChain a).Nodup ∧ (h.parentChain a).getLast? = some 0 ∧ h.parentOf 0 = none ∧
      h.root a = (h.parentChain a).getLast?) ∧
    (h.created < 18446744073709551616 → (h.all.map (·.id)).Nodup ∧ ∀ ns ∈ h.all, ns.id ≠ 0) := by
  have forest := Heap.forest_of_steps run
  refine ⟨forest.taskSets, forest.owner, fun a exists' => ?_, fun fewer => ⟨?_, fun ns member => ?_⟩⟩
  · obtain ⟨head, chain, sorted, last⟩ := forest.ancestors _ a exists' exists'
    have rootFound := List.getElem?_eq_getElem forest.nonempty
    have owned := forest.owner _ (List.mem_append_left _ (List.getElem_mem exists'))
    refine ⟨head, chain, sorted.imp Nat.ne_of_gt, last,
      by simp [Heap.parentOf, rootFound, (forest.parent 0 _ rootFound).1.mpr rfl], ?_⟩
    simp [Heap.parentChain, last, Heap.root, List.getElem?_eq_getElem exists', owned, forest.taskSets]
  · refine (forest.ids.nodup_iff).mpr ((List.nodup_range _).map_on fun x inX y inY same => ?_)
    simp only [List.mem_range] at inX inY
    rwa [Nat.mod_eq_of_lt (by omega), Nat.mod_eq_of_lt (by omega), Nat.add_right_cancel_iff] at same
  · obtain ⟨i, below, named⟩ := List.mem_map.mp
      (forest.ids.mem_iff.mp (List.mem_map_of_mem (·.id) member))
    simp only [List.mem_range] at below
    rw [← named, Nat.mod_eq_of_lt (by omega)]
    omega

/-- Two `NewChild` calls on the root overlap, the later one returning first, and a call
on that child follows: the child's chain runs through it to the root, which is its
`Root()`, and the four IDs are distinct. -/
theorem namespace_creation_forest_overlap :
    ∃ h, Heap.Steps Heap.boot h ∧ h.parentChain 3 = [3, 1, 0] ∧
      h.root 3 = (h.parentChain 3).getLast? ∧ (h.all.map (·.id)).Nodup := by
  have run : Heap.Steps Heap.boot _ :=
    .tail (.tail (.tail (.tail (.tail (.single ⟨.newChild 0, rfl⟩) ⟨.newChild 0, rfl⟩)
      ⟨.returnChild 1, rfl⟩) ⟨.newChild 1, rfl⟩) ⟨.returnChild 0, rfl⟩) ⟨.returnChild 0, rfl⟩
  have forest := namespace_creation_forest run
  exact ⟨_, run, rfl, (forest.2.2.1 3 (by decide)).2.2.2.2.2, (forest.2.2.2 (by decide)).1⟩

end Sentry.Kernel
