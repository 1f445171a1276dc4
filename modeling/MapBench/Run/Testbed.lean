import MapBench.Run.Error
import MapBench.Session.Storage
import MapBench.Time.Duration
import MapBench.Time.Timestamp

/-!
# `MapBench.Run.Testbed`: what surrounds a run

A run talks to a session, prints, reads two clocks, pauses, and may
show its progress. All of that happens in a monad `m`, and the run
itself doesn't care which: a program's run happens in the world, a
reasoned one in a state that records it.
-/

set_option autoImplicit false

namespace MapBench

/-- A display of how far a run has come. -/
structure ProgressBar (m : Type → Type) where
  /-- So many pairs more were written. -/
  advance : Nat → m Unit
  /-- The run is over. -/
  finish : m Unit

/-- What surrounds a run. -/
structure Testbed (m : Type → Type) (ω : Type) where
  session : StorageSession m ω
  /-- Print a line. -/
  printLine : String → m (Except OutputError Unit)
  /-- Read the monotonic clock, in nanoseconds. -/
  now : m Nat
  /-- Read the wall clock. -/
  wallClock : m Timestamp
  /-- Let time pass. -/
  pause : Duration → m Unit
  progress : Option (ProgressBar m)

end MapBench
