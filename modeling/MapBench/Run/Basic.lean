import MapBench.Batch.Generate
import MapBench.Performance
import MapBench.Run.Testbed
import MapBench.Settings.Basic

/-!
# `MapBench.Run.Basic`: a benchmark run

A run writes batches into the map of one object, strictly one after
another, and measures how long that takes. The first failure ends it;
nothing is tried again.

* `Run.setup`: start from a fresh object.
* `Run.writeBatch`: make up a batch, print it if asked to, write it,
  count it, and pause.
* `Run.writeFrom`: do that at every offset that is still due.
* `Run.perform`: a whole run with its clocks.

What was measured outlives a failure, so the measurements are a state
below the errors.
-/

set_option autoImplicit false

namespace MapBench.Run

/-- A part of a run in surroundings `m`: it may end the run, and
keeps the measurements in any case. -/
abbrev RunM (m : Type → Type) := ExceptT RunError (StateT Performance m)

/-- The data of the object before its map is written. -/
def setupPayload : List UInt8 := Utf8.encode "Hello World!"

/-- The line that shows a pair. -/
def pairLine (p : Pair) : String :=
  " key " ++ p.key ++ " val " ++ p.valueText ++ " len " ++ Decimal.text p.size

section

variable {m : Type → Type} [Monad m] {ω : Type}

/-- Start from a fresh object: remove what an earlier run left, then
write its data. -/
def setup (session : StorageSession m ω) (object : String) : m (Except RunError Unit) := do
  match ← session.removeObject object with
  | .error e => return .error (.setupRemove object e)
  | .ok () =>
    match ← session.writeObject object setupPayload with
    | .error e => return .error (.setupWrite object e)
    | .ok () => return .ok ()

variable (bed : Testbed m ω)

/-- Do something that can't fail, outside the measurements. -/
def outside {α : Type} (act : m α) : RunM m α :=
  ExceptT.lift (StateT.lift act)

/-- Take a result for what it is: a value, or the end of the run. -/
def orEnd {ε α : Type} (err : ε → RunError) : Except ε α → RunM m α
  | .ok a => pure a
  | .error e => throw (err e)

/-- Start the clock of a phase. -/
def startClock (phase : Phase) : RunM m Unit := do
  let now ← outside bed.now
  modifyThe Performance fun p => p.start phase now

/-- Stop the clock of a phase. -/
def stopClock (phase : Phase) : RunM m Unit := do
  let now ← outside bed.now
  modifyThe Performance fun p => p.stop phase now

/-- Print pairs, one a line, until that fails. -/
def printPairs : List Pair → RunM m Unit
  | [] => pure ()
  | p :: ps => do
    orEnd .output (← outside (bed.printLine (pairLine p)))
    printPairs ps

/-- Prepare the write of a batch and apply it. -/
def submit (object : String) (offset : Nat) (batch : Batch) : m (Except RunError Unit) := do
  match ← bed.session.prepare batch with
  | .error e => return .error (.writeOpCreation offset e)
  | .ok op => return (← bed.session.operate object op).mapError (.writeFailure offset object)

/-- Show that so many pairs more were written. -/
def advanceProgress (pairs : Nat) : RunM m Unit :=
  match bed.progress with
  | some bar => outside (bar.advance pairs)
  | none => pure ()

/-- Pause, unless the pause is empty. -/
def think (d : Duration) : RunM m Unit :=
  if d.isZero then pure ()
  else do
    startClock bed .think
    outside (bed.pause d)
    stopClock bed .think

/-- Write the batch at an offset. -/
def writeBatch (settings : Settings) (object : String) (offset : Nat) : RunM m Unit := do
  startClock bed .generation
  -- The clock is stopped before the result is looked at, so no failure leaves it running.
  let made := Batch.generate settings.batchSize offset settings.valueSize
  stopClock bed .generation
  let batch ← orEnd (.generate offset) made
  if settings.debug then
    printPairs bed batch.pairs
  -- Printing is no part of making up a batch, nor of submitting it.
  startClock bed .submission
  let written ← outside (submit bed object offset batch)
  stopClock bed .submission
  orEnd id written
  -- From here on the store has the batch.
  modifyThe Performance fun p => p.countBatch batch.size batch.valueBytes
  advanceProgress bed batch.size
  think bed settings.thinkTime

/-- Write a batch at every offset that is still due. -/
def writeFrom (settings : Settings) (object : String) (offsets : Offsets) : RunM m Unit :=
  match h : offsets.next? with
  | none => pure ()
  | some (offset, rest) => do
    have := Offsets.remaining_lt_of_next? h
    writeBatch bed settings object offset
    writeFrom settings object rest
termination_by offsets.remaining

/-- Take down the progress display. -/
def finishProgress : StateT Performance m Unit :=
  match bed.progress with
  | some bar => StateT.lift bar.finish
  | none => pure ()

/-- A whole run, from measurements that may hold earlier runs. The
time that passed on the wall clock is told only if nothing failed. -/
def perform (settings : Settings) (object : String) :
    StateT Performance m (Except RunError Elapsed) := do
  let start ← StateT.lift bed.wallClock
  let now ← StateT.lift bed.now
  modify fun p => p.start .run now
  -- A failure is kept as a result until the clocks are stopped.
  let result ← (writeFrom bed settings object settings.offsets).run
  let now ← StateT.lift bed.now
  modify fun p => p.stop .run now
  let stop ← StateT.lift bed.wallClock
  finishProgress bed
  return result.map fun () => Elapsed.between start stop

end

end MapBench.Run
