import Mathlib.Order.Basic

namespace Sentry.Ktime

/-! # Go's 64-bit time values

`time.Duration` and the nanosecond count of a `ktime.Time` are Go `int64`s.
Arithmetic on them wraps around as Go's does; `Int64.ofInt` is that
two's-complement conversion, and every value carries its range.
-/

/-- A Go `int64`: `-2 ^ 63 ≤ val < 2 ^ 63`. -/
structure Int64 where
  val : Int
  inRange : -9223372036854775808 ≤ val ∧ val < 9223372036854775808
deriving DecidableEq, Repr

namespace Int64

/-- Go's conversion of an integer into `int64`: wrap-around modulo `2 ^ 64`. -/
def ofInt (x : Int) : Int64 :=
  ⟨(x + 9223372036854775808) % 18446744073709551616 - 9223372036854775808, by omega⟩

instance : OfNat Int64 0 := ⟨⟨0, by decide⟩⟩

/-- `a - b` on `int64`. -/
def sub (a b : Int64) : Int64 := ofInt (a.val - b.val)

instance : Sub Int64 := ⟨sub⟩

end Int64

/-- `time.Duration`: a signed count of nanoseconds. -/
abbrev Duration := Int64

/-- `ktime.Time`: an instant, in nanoseconds on its clock. -/
abbrev Time := Int64

/-- `ktime.Time.Sub`, which this follows from pkg/sentry/ktime (not under src/): the
elapsed time `t - u` between two clock readings, a difference past the range of a
`time.Duration` clamped to that range. -/
def Time.sub (t u : Time) : Duration :=
  ⟨max (-9223372036854775808) (min (t.val - u.val) 9223372036854775807), by omega⟩

end Sentry.Ktime
