import Mathlib.Algebra.Group.Nat.Defs
import Mathlib.Data.Nat.Basic
import Mathlib.Order.Lattice
/-!
# Durations and the worker's clock

A `std::time::Duration` is a whole number of nanoseconds up to `Duration::MAX`.
Clock readings are durations since an arbitrary start, as
`MonotonicClock::now` returns them.
-/

set_option autoImplicit false

namespace Swbt

/-- `u64::MAX` seconds and 999_999_999 nanoseconds. -/
def maxNanos : Nat := (2 ^ 64 - 1) * 1000000000 + 999999999

structure Duration where
  asNanos : Nat
  le_max : asNanos ≤ maxNanos
deriving DecidableEq

namespace Duration

@[ext] theorem ext {a b : Duration} (h : a.asNanos = b.asNanos) : a = b := by
  cases a; cases b; cases h; rfl

instance : LinearOrder Duration := LinearOrder.lift' asNanos fun _ _ => ext

theorem le_def (a b : Duration) : a ≤ b ↔ a.asNanos ≤ b.asNanos := Iff.rfl

theorem lt_def (a b : Duration) : a < b ↔ a.asNanos < b.asNanos := Iff.rfl

def MAX : Duration := ⟨maxNanos, Nat.le_refl _⟩

def ZERO : Duration := ⟨0, Nat.zero_le _⟩

def isZero (d : Duration) : Bool := d.asNanos == 0

/-- `Duration::checked_add`. The constant of a sum is its second operand here, and
stands first in the sum of nanoseconds so that evaluation does not count it down. -/
def checkedAdd (a b : Duration) : Option Duration :=
  if h : b.asNanos + a.asNanos ≤ maxNanos then some ⟨b.asNanos + a.asNanos, h⟩ else none

/-- `Duration::saturating_add`. -/
def saturatingAdd (a b : Duration) : Duration :=
  match a.checkedAdd b with
  | some sum => sum
  | none => MAX

/-- `a - b`, for `b ≤ a`; the code panics otherwise. -/
def sub (a b : Duration) : Duration := ⟨a.asNanos - b.asNanos, (Nat.sub_le _ _).trans a.le_max⟩

theorem checkedAdd_some {a b c : Duration} (h : a.checkedAdd b = some c) : c.asNanos = a.asNanos + b.asNanos := by
  unfold checkedAdd at h
  split at h
  · cases h
    exact Nat.add_comm _ _
  · cases h

/-! ## Debug output -/

/-- The digits of `fractional`, of which the first counts `divisor`s, without
trailing zeros. -/
def fractionDigits : Nat → Nat → Nat → List Char
  | 0, _, _ => []
  | fuel + 1, fractional, divisor =>
    if fractional = 0 then []
    else Nat.digitChar (fractional / divisor) :: fractionDigits fuel (fractional % divisor) (divisor / 10)

def fmtDecimal (whole fractional divisor : Nat) (suffix : String) : String :=
  let digits := fractionDigits 9 fractional divisor
  if digits.isEmpty then s!"{whole}{suffix}" else s!"{whole}.{String.ofList digits}{suffix}"

/-- `{:?}` of a duration. -/
def debug (d : Duration) : String :=
  let nanos := d.asNanos % 1000000000
  if 1000000000 ≤ d.asNanos then fmtDecimal (d.asNanos / 1000000000) nanos 100000000 "s"
  else if 1000000 ≤ nanos then fmtDecimal (nanos / 1000000) (nanos % 1000000) 100000 "ms"
  else if 1000 ≤ nanos then fmtDecimal (nanos / 1000) (nanos % 1000) 100 "µs"
  else fmtDecimal nanos 0 1 "ns"

end Duration

/-- The protocol's clock counts nanoseconds in a `u64`. -/
def protocolTimestamp (now : Duration) : UInt64 :=
  if now.asNanos < 2 ^ 64 then UInt64.ofNat now.asNanos else UInt64.ofNat (2 ^ 64 - 1)

def fitsProtocolTimestamp (duration : Duration) : Bool := duration.asNanos ≤ 2 ^ 64 - 1

def deadlineAfter (now duration : Duration) : Duration := now.saturatingAdd duration

/-- The earlier of two deadlines, where `none` is no deadline. -/
def minimumDeadline : Option Duration → Option Duration → Option Duration
  | some left, some right => some (min left right)
  | some deadline, none | none, some deadline => some deadline
  | none, none => none

end Swbt
