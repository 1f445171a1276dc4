import Std.Data.ExtTreeMap
import MapBench.Time.Duration

/-!
# `MapBench.Time.Clocks`: named clocks that add up their spans

Each clock can be started and stopped many times, and reads the sum
of the spans in which it ran. Moments are readings of one monotonic
clock, in nanoseconds; they are passed in, so the arithmetic here
doesn't depend on where they come from.

* `Clocks.start`, `Clocks.stop`: a start of a running clock and a
  stop of one that stands still do nothing.
* `Clocks.read`: what a clock has added up, with the span that may be
  running still. A clock that never ran reads zero.
-/

set_option autoImplicit false

namespace MapBench

/-- One clock: what its finished spans add up to, and when the
running span began. -/
structure Stopwatch where
  spent : Duration
  started : Option Nat
  deriving Repr, DecidableEq

namespace Stopwatch

/-- A clock that never ran. -/
def idle : Stopwatch := ⟨.zero, none⟩

/-- Begin a span at `now`, unless one is running. -/
def start (w : Stopwatch) (now : Nat) : Stopwatch :=
  match w.started with
  | some _ => w
  | none => { w with started := some now }

/-- End the running span at `now`, if there is one. -/
def stop (w : Stopwatch) (now : Nat) : Stopwatch :=
  match w.started with
  | some began => ⟨⟨w.spent.nanoseconds + (now - began)⟩, none⟩
  | none => w

/-- The sum of all spans up to `now`. -/
def read (w : Stopwatch) (now : Nat) : Duration :=
  match w.started with
  | some began => ⟨w.spent.nanoseconds + (now - began)⟩
  | none => w.spent

end Stopwatch

/-- Clocks by name. A name that isn't there is a clock that never
ran. -/
structure Clocks (κ : Type) [Ord κ] where
  byName : Std.ExtTreeMap κ Stopwatch

namespace Clocks

variable {κ : Type} [Ord κ] [Std.TransOrd κ]

/-- Clocks none of which ever ran. -/
def empty : Clocks κ := ⟨∅⟩

/-- The state of one clock. -/
def get (c : Clocks κ) (k : κ) : Stopwatch :=
  c.byName.getD k .idle

/-- Start a clock at `now`. -/
def start (c : Clocks κ) (k : κ) (now : Nat) : Clocks κ :=
  ⟨c.byName.insert k ((c.get k).start now)⟩

/-- Stop a clock at `now`. -/
def stop (c : Clocks κ) (k : κ) (now : Nat) : Clocks κ :=
  ⟨c.byName.insert k ((c.get k).stop now)⟩

/-- What a clock reads at `now`. -/
def read (c : Clocks κ) (k : κ) (now : Nat) : Duration :=
  (c.get k).read now

end Clocks

end MapBench
