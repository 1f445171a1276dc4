import MapBench.Cluster.Config
import MapBench.Host
import MapBench.Run.Testbed

/-!
# `MapBench.Client.Host`: what the benchmark needs around it

Besides what every program needs, the benchmark asks for variables of
its environment, keeps a log, connects to a store, and measures time.
-/

set_option autoImplicit false

namespace MapBench

/-- What the benchmark needs around it. Sessions are of type `σ`, and
the writes that they prepare of type `ω`. -/
structure ClientHost (m : Type → Type) (σ ω : Type) extends Host m where
  /-- The value of a variable of the environment. -/
  getVariable : String → m (Option String)
  /-- Open the log file, after making the directories above it. -/
  openLog : String → m (Except FileError Unit)
  /-- Write a line to the log, if it is open. -/
  log : String → m Unit
  /-- Connect to the store of a configuration. -/
  connect : ClusterConfig → m (Except SessionError σ)
  /-- The operations of a session. -/
  storage : σ → StorageSession m ω
  /-- Close a session. -/
  close : σ → m Unit
  /-- Read the monotonic clock, in nanoseconds. -/
  now : m Nat
  /-- Read the wall clock. -/
  wallClock : m Timestamp
  /-- Let time pass. -/
  pause : Duration → m Unit
  /-- A progress display for so many pairs. -/
  progressBar : Nat → m (ProgressBar m)

/-- What surrounds a run with a session. -/
def ClientHost.testbed {m : Type → Type} {σ ω : Type} (host : ClientHost m σ ω) (session : σ)
    (progress : Option (ProgressBar m)) : Testbed m ω where
  session := host.storage session
  printLine := host.printLine
  now := host.now
  wallClock := host.wallClock
  pause := host.pause
  progress := progress

end MapBench
