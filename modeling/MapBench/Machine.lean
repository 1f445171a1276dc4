import MapBench.Client.Host
import MapBench.Server.Program

/-!
# `MapBench.Machine`: programs on a machine that is a value

A machine has files, a network, variables of the environment, a
clock, and what was printed on it. Programs on it are functions from
one machine to the next.

Complaints may go to a terminal. Only then is the progress of a run
drawn, in between the complaints. The two are kept apart here, as a
program complains once and at its end, when nothing is drawn any more.

* `Machine.openLog`, `Machine.log`: a log, which may be a file or one of
  the program's own streams.
* `Machine.clientHost`: what the benchmark needs.
* `Machine.serverHost`: what the server needs. Nobody can listen on
  this machine.
-/

set_option autoImplicit false

namespace MapBench

/-- Where the lines of a log go. -/
inductive LogTarget
  /-- To the end of the file that a path leads to. -/
  | file (path : String)
  | device (d : Device)
  deriving Repr, DecidableEq

/-- A terminal with a display of progress. -/
structure Screen where
  /-- Everything that was drawn on it. -/
  drawn : String
  /-- The position that the display is at. -/
  position : Nat
  /-- What is drawn for a position on the way to a goal, at some time.
  Bars, speeds and redrawing are left to the terminal. -/
  picture : (position goal time : Nat) → String

/-- Draw a position. -/
def Screen.show (s : Screen) (position goal time : Nat) : Screen :=
  { s with position, drawn := s.drawn ++ s.picture position goal time }

/-- A machine that programs run on. -/
structure Machine (ω : Type) where
  /-- The files and the network. -/
  world : World ω
  /-- The variables of the environment. -/
  environment : List (String × String)
  /-- The log, if one is open. -/
  log? : Option LogTarget
  /-- What was printed. -/
  printed : String
  /-- What was complained about. -/
  complaints : String
  /-- The terminal that complaints go to, if they go to one. -/
  screen : Option Screen
  /-- The time since the clocks began, in nanoseconds. -/
  clock : Nat

namespace Machine

variable {ω α : Type}

/-- A machine with files, on which nothing has been printed. It has no
terminal. -/
def withWorld (world : World ω) (environment : List (String × String)) : Machine ω :=
  ⟨world, environment, none, "", "", none, 0⟩

/-- Look at the files. -/
def onTree (look : FileTree → α) : StateM (Machine ω) α := fun machine =>
  (look machine.world.disk.tree, machine)

/-- Act on the files and the network. -/
def onWorld (act : StateM (World ω) α) : StateM (Machine ω) α := fun machine =>
  let (a, world) := act machine.world
  (a, { machine with world })

/-- Replace the tree of files. -/
def setTree (machine : Machine ω) (tree : FileTree) : Machine ω :=
  { machine with world := { machine.world with disk := { machine.world.disk with tree } } }

/-- Print a line. -/
def print (line : String) (machine : Machine ω) : Machine ω :=
  { machine with printed := machine.printed ++ line ++ "\n" }

/-- Complain. -/
def complain (line : String) (machine : Machine ω) : Machine ω :=
  { machine with complaints := machine.complaints ++ line ++ "\n" }

/-- What every program needs. Printing never fails. -/
def host : Host (StateM (Machine ω)) where
  hasEntry path := onTree fun tree => tree.hasEntry path
  readText path := onTree fun tree => tree.readText path
  printLine line := fun machine => (.ok (), machine.print line)
  complain line := fun machine => ((), machine.complain line)

/-- What a path of a log leads to. -/
def logTarget (tree : FileTree) (path : String) : LogTarget :=
  match tree.entry? path with
  | some (.device d) => .device d
  | _ => .file path

/-- Open a log file, after making the directories above it. They stay
if the file can't be opened. -/
def openLog (path : String) : StateM (Machine ω) (Except FileError Unit) := fun machine =>
  let (made, tree) := machine.world.disk.tree.createDirectories ((Path.parent? path).getD "")
  match made.bind fun () => tree.openForAppend path with
  | .error e => (.error e, machine.setTree tree)
  | .ok tree => (.ok (), { machine.setTree tree with log? := some (logTarget tree path) })

/-- What is complained about when a log takes no more lines. -/
def logIsFull : String := "log4rs: No space left on device (os error 28)"

/-- Add a line to the log, if one is open. The time and the origin that
stand before it in a file are left out. -/
def log (line : String) : StateM (Machine ω) Unit := fun machine =>
  match machine.log? with
  | none | some (.device .null) => ((), machine)
  | some (.file path) =>
    ((), machine.setTree (machine.world.disk.tree.append path (Utf8.encode (line ++ "\n"))))
  | some (.device .full) => ((), machine.complain logIsFull)
  | some (.device .output) => ((), machine.print line)
  | some (.device .complaints) => ((), machine.complain line)

/-- How far the clock moves between two readings, in nanoseconds. -/
def tick : Nat := 100

/-- Read the clock. -/
def now : StateM (Machine ω) Nat := fun machine =>
  (machine.clock, { machine with clock := machine.clock + tick })

/-- Read the clock as a point in time. -/
def wallClock : StateM (Machine ω) Timestamp := fun machine =>
  let (clock, machine) := now machine
  (.ofNanoseconds clock, machine)

/-- Let time pass. -/
def pause (d : Duration) : StateM (Machine ω) Unit :=
  modify fun machine => { machine with clock := machine.clock + d.nanoseconds }

/-- Draw the position of a run on the way to a goal, if complaints go to
a terminal. -/
def draw (position : Screen → Nat) (goal : Screen → Nat) : StateM (Machine ω) Unit :=
  modify fun machine => { machine with
    screen := machine.screen.map fun s => s.show (position s) (goal s) machine.clock }

/-- A display of progress on the terminal. When it is taken down, its goal
is where it has got to. -/
def display (planned : Nat) : ProgressBar (StateM (Machine ω)) where
  advance pairs := draw (·.position + pairs) fun _ => planned
  finish := draw (·.position) (·.position)

/-- Put up a display of progress. -/
def progressBar (planned : Nat) : StateM (Machine ω) (ProgressBar (StateM (Machine ω))) := do
  draw (fun _ => 0) fun _ => planned
  return display planned

/-- What the benchmark needs. -/
def clientHost (net : Network (StateM ω)) : ClientHost (StateM (Machine ω)) Session WriteOp where
  toHost := host
  getVariable name := fun machine => (machine.environment.lookup name, machine)
  openLog := openLog
  log := log
  connect config := onWorld (Session.connect (World.access net) config.location config.pool)
  storage session := (session.storage (World.access net)).lift onWorld
  close _ := return ()
  now := now
  wallClock := wallClock
  pause := pause
  progressBar := progressBar

/-- What the server needs. It knows no hosts but those that have a
number. -/
def serverHost : ServerHost (StateM (Machine ω)) Nat where
  toHost := host
  isKnown address := return address.isKnown
  openStore config := onWorld (World.onDisk config.openStore)
  serve _ _ _ := return ()

end Machine

end MapBench
