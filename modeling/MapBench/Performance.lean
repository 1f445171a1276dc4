import MapBench.ByteSize
import MapBench.Time.Clocks

/-!
# `MapBench.Performance`: what a run measures

A run counts the batches that the store accepted, with their pairs
and value bytes, and has one clock for each of its phases.

The counts have no limit here. In words of 64 bits they would be the
same: a run writes no more pairs than there are keys, and no store takes
a value of more than 10^9 bytes. What the program was called with isn't
kept, so a report doesn't repeat it.
-/

set_option autoImplicit false

namespace MapBench

/-- The phases of a run that have a clock. -/
inductive Phase
  /-- The whole batch loop. -/
  | run
  /-- Making up batches. -/
  | generation
  /-- Waiting for the store to apply a batch. -/
  | submission
  /-- Pausing between batches. -/
  | think
  deriving Repr, DecidableEq, Ord

namespace Phase

/-- The phases follow each other as they are listed. -/
theorem compare_eq_ctorIdx (a b : Phase) : compare a b = compare a.ctorIdx b.ctorIdx := by
  cases a <;> cases b <;> decide

instance : Std.TransOrd Phase :=
  have h : (compare : Phase → Phase → Ordering) = compareOn Phase.ctorIdx := by
    funext a b
    exact compare_eq_ctorIdx a b
  show Std.TransCmp (compare : Phase → Phase → Ordering) from h ▸ inferInstance

instance : Std.LawfulEqOrd Phase where
  eq_of_compare {a b} h := by
    revert h
    cases a <;> cases b <;> decide

end Phase

/-- The counts of a run and the clocks of its phases. -/
structure Performance where
  batches : Nat
  pairs : Nat
  valueBytes : Nat
  clocks : Clocks Phase

namespace Performance

/-- Nothing written yet, and no clock ever started. -/
def empty : Performance := ⟨0, 0, 0, .empty⟩

/-- Start the clock of a phase at `now`. -/
def start (p : Performance) (phase : Phase) (now : Nat) : Performance :=
  { p with clocks := p.clocks.start phase now }

/-- Stop the clock of a phase at `now`. -/
def stop (p : Performance) (phase : Phase) (now : Nat) : Performance :=
  { p with clocks := p.clocks.stop phase now }

/-- Count a batch that the store accepted. -/
def countBatch (p : Performance) (pairs valueBytes : Nat) : Performance :=
  { p with
    batches := p.batches + 1
    pairs := p.pairs + pairs
    valueBytes := p.valueBytes + valueBytes }

/-- A line that gives the time of a phase with six decimal places. -/
def timeLine (p : Performance) (label : String) (phase : Phase) (now : Nat) : String :=
  label ++ " (seconds): " ++ String.ofList ((p.clocks.read phase now).toBinary64.fixed 6)

/-- The rate line; a run that took no time has no rate. -/
def rateLines (p : Performance) (now : Nat) : List String :=
  let seconds := (p.clocks.read .run now).toBinary64
  if seconds.isZero then []
  else ["Pairs per second: " ++ String.ofList (((Binary64.ofNat p.pairs).div seconds).fixed 1)]

/-- The measurements at `now`, line by line. -/
def report (p : Performance) (now : Nat) : List String :=
  ["Performance measurements for this benchmark run",
    "Batches written: " ++ Decimal.text p.batches,
    "Pairs written: " ++ Decimal.text p.pairs,
    "Value bytes written: " ++ ByteSize.text p.valueBytes,
    p.timeLine "Generating batches" .generation now,
    p.timeLine "Submitting batches" .submission now,
    p.timeLine "Pausing between batches" .think now,
    p.timeLine "Complete run time" .run now] ++ p.rateLines now

end Performance

end MapBench
