import Mathlib.Data.List.Nodup

namespace Sentry.Fsimpl.Gofer

/-! # A dentry's host file descriptors

Most of a dentry's operations only dispatch on its implementation, lisafs or directfs.
Two do work of their own. `openHandle` turns the access its caller asks for into the
flags of the host `open`: they grant exactly that access, read-only when neither read nor
write is asked for, and carry `O_TRUNC` exactly when truncation is. `closeHostFDs` closes
the host FDs the dentry holds: each open one once, an FD shared by the read and write
handles included, and none after, so a second call closes nothing.
-/

namespace Unix

/-- The Linux values of the `open(2)` flags. -/
def O_RDONLY : UInt32 := 0
def O_WRONLY : UInt32 := 1
def O_RDWR : UInt32 := 2
def O_ACCMODE : UInt32 := 3
def O_TRUNC : UInt32 := 0x200

/-- The access `open(2)` grants an FD opened with `flags`, readable and writable; `none`
for the access mode no flag names. -/
def accessOf (flags : UInt32) : Option (Bool × Bool) :=
  let mode := flags &&& O_ACCMODE
  if mode = O_RDONLY then some (true, false)
  else if mode = O_WRONLY then some (false, true)
  else if mode = O_RDWR then some (true, true)
  else none

end Unix

/-- The flags `d.openHandle(ctx, read, write, trunc)` passes to its implementation's
`openHandle`. -/
def openHandleFlags (read write trunc : Bool) : UInt32 :=
  let flags :=
    if read && write then Unix.O_RDWR
    else if read then Unix.O_RDONLY
    else if write then Unix.O_WRONLY
    else Unix.O_RDONLY
  if trunc then flags ||| Unix.O_TRUNC else flags

/- For every request, the host FD `openHandle` asks for is writable exactly when the
caller asked to write and readable unless it asked only to write, read-only when it asked
for neither; it is truncated exactly when asked, and no other flag is set. -/
example (read write trunc : Bool) :
    Unix.accessOf (openHandleFlags read write trunc) = some (read || !write, write) ∧
      (openHandleFlags read write trunc &&& Unix.O_TRUNC ≠ 0 ↔ trunc = true) ∧
      openHandleFlags read write trunc &&& ~~~(Unix.O_ACCMODE ||| Unix.O_TRUNC) = 0 := by
  cases read <;> cases write <;> cases trunc <;> decide

/-- The host FDs of a dentry that `closeHostFDs` reads: `readFD`, `writeFD` and `mmapFD`,
`int32`s that are negative when absent, and the `controlFD` of a directfs dentry. -/
structure HostFDs where
  readFD : Int
  writeFD : Int
  mmapFD : Int
  controlFD : Option Int
deriving DecidableEq, Repr

namespace HostFDs

variable (d : HostFDs)

/-- The first two closes of `d.closeHostFDs()`: the read FD, and the write FD unless it
is the read FD. -/
def closeReadWrite : List Int :=
  (if 0 ≤ d.readFD then [d.readFD] else []) ++
    if 0 ≤ d.writeFD ∧ d.readFD ≠ d.writeFD then [d.writeFD] else []

/-- `d.closeHostFDs()`: the FDs it passes to `unix.Close`, in order, and the dentry's FDs
after. -/
def closeHostFDs : List Int × HostFDs :=
  match d.controlFD with
  | some controlFD =>
    if 0 ≤ controlFD then (d.closeReadWrite ++ [controlFD], ⟨-1, -1, -1, some (-1)⟩)
    else (d.closeReadWrite, ⟨-1, -1, -1, some controlFD⟩)
  | none => (d.closeReadWrite, ⟨-1, -1, -1, none⟩)

/-- No FD is open: all are negative. -/
def Closed : Prop := d.readFD < 0 ∧ d.writeFD < 0 ∧ d.mmapFD < 0 ∧ ∀ fd, d.controlFD = some fd → fd < 0

variable {d}

theorem mem_closeReadWrite {fd : Int} : fd ∈ d.closeReadWrite ↔ 0 ≤ fd ∧ (fd = d.readFD ∨ fd = d.writeFD) := by
  unfold closeReadWrite
  split_ifs <;> simp <;> omega

theorem closeReadWrite_nodup : d.closeReadWrite.Nodup := by
  unfold closeReadWrite
  split_ifs <;> simp_all

theorem mem_closeHostFDs {fd : Int} :
    fd ∈ d.closeHostFDs.1 ↔ 0 ≤ fd ∧ (fd = d.readFD ∨ fd = d.writeFD ∨ d.controlFD = some fd) := by
  unfold closeHostFDs
  split
  next c control =>
    split_ifs <;> simp only [List.mem_append, mem_closeReadWrite, List.mem_singleton, control,
      Option.some.injEq] <;> omega
  next control =>
    simp only [mem_closeReadWrite, control, reduceCtorEq, or_false]

theorem closeHostFDs_nodup (distinct : ∀ fd, d.controlFD = some fd → fd ≠ d.readFD ∧ fd ≠ d.writeFD) :
    d.closeHostFDs.1.Nodup := by
  unfold closeHostFDs
  split
  next c control =>
    have other := distinct c control
    split_ifs
    · refine List.nodup_append.mpr ⟨closeReadWrite_nodup, List.nodup_singleton c, ?_⟩
      exact List.disjoint_singleton.mpr fun member => by rw [mem_closeReadWrite] at member; omega
    · exact closeReadWrite_nodup
  next => exact closeReadWrite_nodup

theorem closeHostFDs_closed : d.closeHostFDs.2.Closed := by
  unfold closeHostFDs Closed
  split <;> (try split_ifs) <;> simp_all

theorem Closed.closeHostFDs (closed : d.Closed) : d.closeHostFDs = ([], ⟨-1, -1, -1, d.controlFD⟩) := by
  obtain ⟨read, write, -, control⟩ := closed
  have nothing : d.closeReadWrite = [] := by
    unfold closeReadWrite
    rw [if_neg (by omega), if_neg (by omega)]
    rfl
  unfold HostFDs.closeHostFDs
  split
  next c found => rw [if_neg (by have := control c found; omega), nothing, found]
  next found => rw [nothing, found]

end HostFDs

/-- `closeHostFDs` closes exactly the open host FDs of the dentry: its read and write FDs
and a directfs dentry's control FD, never `mmapFD` on its own account. An FD shared by
the read and write handles is closed once, so no FD is closed twice when the control FD
is neither of them. No FD is open after, and closing again closes nothing and changes
nothing. -/
theorem closeHostFDs_closes_each_once (d : HostFDs) :
    (∀ fd, fd ∈ d.closeHostFDs.1 ↔ 0 ≤ fd ∧ (fd = d.readFD ∨ fd = d.writeFD ∨ d.controlFD = some fd)) ∧
      ((∀ fd, d.controlFD = some fd → fd ≠ d.readFD ∧ fd ≠ d.writeFD) → d.closeHostFDs.1.Nodup) ∧
      d.closeHostFDs.2.Closed ∧ d.closeHostFDs.2.closeHostFDs = ([], d.closeHostFDs.2) := by
  refine ⟨fun _ => HostFDs.mem_closeHostFDs, HostFDs.closeHostFDs_nodup, HostFDs.closeHostFDs_closed, ?_⟩
  rw [HostFDs.closeHostFDs_closed.closeHostFDs]
  unfold HostFDs.closeHostFDs
  split <;> (try split_ifs) <;> rfl

/-- A directfs dentry whose read and write handles share FD `3` (its `mmapFD` too), with
control FD `4`: `3` and `4` are closed, once each. -/
theorem closeHostFDs_closes_each_once_shared :
    (HostFDs.closeHostFDs ⟨3, 3, 3, some 4⟩).1 = [3, 4] ∧ (HostFDs.closeHostFDs ⟨3, 3, 3, some 4⟩).1.Nodup :=
  ⟨rfl, (closeHostFDs_closes_each_once ⟨3, 3, 3, some 4⟩).2.1 fun _ found => by
    cases found
    decide⟩

end Sentry.Fsimpl.Gofer
