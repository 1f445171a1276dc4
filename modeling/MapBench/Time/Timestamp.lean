import MapBench.Number.Decimal

/-!
# `MapBench.Time.Timestamp`: wall-clock time and what passed between

A timestamp is seconds and nanoseconds since the epoch, in machine
words. The time between two of them is found the way one subtracts
by hand: if the nanoseconds don't suffice, a second is borrowed.

* `Elapsed.between`: the time from one timestamp to another, zero if
  the clock went backwards.
* `Elapsed.text`: seconds with nine digits after the point.
-/

set_option autoImplicit false

namespace MapBench

/-- A point in wall-clock time. -/
structure Timestamp where
  seconds : UInt64
  nanos : UInt32
  nanos_lt : nanos < 1000000000
  deriving DecidableEq

namespace Timestamp

/-- A timestamp from its parts; `none` if the nanoseconds make a
second or more. -/
def of? (seconds : UInt64) (nanos : UInt32) : Option Timestamp :=
  if h : nanos < 1000000000 then some ⟨seconds, nanos, h⟩ else none

/-- The epoch itself. -/
def epoch : Timestamp := ⟨0, 0, by decide⟩

/-- The point in time that lies so many nanoseconds after the
epoch. -/
def ofNanoseconds (n : Nat) : Timestamp :=
  (of? (n / 1000000000).toUInt64 (n % 1000000000).toUInt32).getD epoch

/-- Nanoseconds since the epoch. -/
def total (t : Timestamp) : Nat :=
  t.seconds.toNat * 1000000000 + t.nanos.toNat

/-- Seconds decide, then nanoseconds. -/
def order (a b : Timestamp) : Ordering :=
  (compare a.seconds b.seconds).then (compare a.nanos b.nanos)

end Timestamp

/-- The time that passed between two timestamps. -/
structure Elapsed where
  seconds : UInt64
  nanos : UInt32
  deriving Repr, DecidableEq

namespace Elapsed

/-- The time from `start` to `stop`. A clock that went backwards
gives zero. -/
def between (start stop : Timestamp) : Elapsed :=
  if stop.order start = .lt then
    ⟨0, 0⟩
  else if stop.nanos < start.nanos then
    -- Borrow a second. `stop` is not before `start`, so it has one more to give.
    ⟨stop.seconds - start.seconds - 1, stop.nanos + 1000000000 - start.nanos⟩
  else
    ⟨stop.seconds - start.seconds, stop.nanos - start.nanos⟩

/-- Nanoseconds in all. -/
def total (e : Elapsed) : Nat :=
  e.seconds.toNat * 1000000000 + e.nanos.toNat

/-- The characters of `text`. -/
def chars (e : Elapsed) : List Char :=
  Decimal.digits e.seconds.toNat ++ '.' :: Decimal.padded 9 e.nanos.toNat

/-- Seconds, a point, and nine digits. -/
def text (e : Elapsed) : String :=
  String.ofList e.chars

end Elapsed

end MapBench
