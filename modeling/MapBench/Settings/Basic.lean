import MapBench.Number.Fixed
import MapBench.Settings.Reading
import MapBench.Text.Padded

/-!
# `MapBench.Settings.Basic`: what a run does

* `Settings.create`: settings from their values, or the reason why
  there are none.
* `Settings.plannedPairs`: how many pairs a run writes, the total
  rounded up to full batches.
* `Settings.summary`: the lines that describe a run.
-/

set_option autoImplicit false

namespace MapBench

/-- The settings of one run. A run always writes, and every batch has
at least one pair. -/
structure Settings where
  batchSize : Nat
  totalPairs : Nat
  valueSize : Nat
  debug : Bool
  thinkTime : Duration
  batchSize_pos : 0 < batchSize
  batchSize_le : batchSize ≤ maxWord
  totalPairs_le : totalPairs ≤ maxWord
  valueSize_le : valueSize ≤ maxWord

namespace Settings

/-- Settings without a pause, from an operation, sizes, and whether
pairs are printed. Reading is refused whatever the sizes are. -/
def create (operation : Operation) (batchSize totalPairs valueSize : Nat) (debug : Bool) :
    Except SettingsError Settings :=
  match operation with
  | .read => .error .readNotSupported
  | .write =>
    if hpos : batchSize = 0 then .error (.notPositive "0")
    else if hb : maxWord < batchSize then .error (.outOfRange (Decimal.text batchSize))
    else if ht : maxWord < totalPairs then .error (.outOfRange (Decimal.text totalPairs))
    else if hv : maxWord < valueSize then .error (.outOfRange (Decimal.text valueSize))
    else
      .ok {
        batchSize, totalPairs, valueSize, debug
        thinkTime := .zero
        batchSize_pos := Nat.pos_of_ne_zero hpos
        batchSize_le := Nat.le_of_not_lt hb
        totalPairs_le := Nat.le_of_not_lt ht
        valueSize_le := Nat.le_of_not_lt hv }

/-- The same run with a pause after each batch. -/
def pausing (s : Settings) (thinkTime : Duration) : Settings :=
  { s with thinkTime }

/-- What a run measures. -/
def operation (_ : Settings) : Operation := .write

/-- Where the batches of a run begin. -/
def offsets (s : Settings) : Offsets :=
  .upTo s.totalPairs s.batchSize s.batchSize_pos s.totalPairs_le

/-- How many batches a run writes. -/
def plannedBatches (s : Settings) : Nat :=
  s.totalPairs / s.batchSize + if s.totalPairs % s.batchSize = 0 then 0 else 1

/-- How many pairs a run writes: the total rounded up to full
batches, as far as a word can hold that. -/
def plannedPairs (s : Settings) : Nat :=
  saturatingMul s.plannedBatches s.batchSize

/-- A line of the summary: a quantity on the right of its column, and
what it is. -/
def summaryLine (quantity : List Char) (label : String) : String :=
  String.ofList (padTo .right 11 quantity) ++ " : " ++ label

/-- Lines that describe the run. The pause is mentioned only if there
is one. -/
def summary (s : Settings) : List String :=
  [summaryLine (Decimal.digits s.batchSize) "key-value pairs per call",
    summaryLine (Decimal.digits s.totalPairs) "total key-value pairs",
    summaryLine (Decimal.digits s.valueSize) "value size in bytes",
    summaryLine s.operation.name.toList "operation type"] ++
  if s.thinkTime.isZero then []
  else [summaryLine (s.thinkTime.toBinary64.fixed 3) "think time in seconds"]

end Settings

end MapBench
