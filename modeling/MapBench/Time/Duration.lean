import MapBench.Number.Binary64

/-!
# `MapBench.Time.Duration`: lengths of time

A duration is a whole number of nanoseconds. Seconds and the
nanoseconds past them are a view of it, and so is the double that
displays use.
-/

set_option autoImplicit false

namespace MapBench

/-- How many nanoseconds a second has. -/
def nanosPerSecond : Nat := 1000000000

/-- A length of time, in nanoseconds. -/
structure Duration where
  nanoseconds : Nat
  deriving Repr, DecidableEq

namespace Duration

/-- No time at all. -/
def zero : Duration := ⟨0⟩

/-- A duration from seconds and further nanoseconds. -/
def ofParts (seconds nanos : Nat) : Duration :=
  ⟨seconds * nanosPerSecond + nanos⟩

/-- Whole seconds. -/
def seconds (d : Duration) : Nat :=
  d.nanoseconds / nanosPerSecond

/-- Nanoseconds past the whole seconds. -/
def subsecond (d : Duration) : Nat :=
  d.nanoseconds % nanosPerSecond

/-- Is the duration zero? -/
def isZero (d : Duration) : Bool :=
  d.nanoseconds == 0

/-- The duration nearest to a double in seconds; a tie goes to the
even number of nanoseconds. -/
def ofBinary64 (x : Binary64) : Duration :=
  ⟨roundHalfEven (x.numerator * nanosPerSecond) x.denominator⟩

/-- Fractional seconds: whole seconds plus the subsecond part, each
step rounded to a double. -/
def toBinary64 (d : Duration) : Binary64 :=
  (Binary64.ofNat d.seconds).add
    ((Binary64.ofNat d.subsecond).div (Binary64.ofNat nanosPerSecond))

end Duration

end MapBench
