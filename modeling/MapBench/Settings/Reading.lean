import MapBench.Batch.Offsets
import MapBench.Number.Literal
import MapBench.Settings.Error
import MapBench.Time.Duration

/-!
# `MapBench.Settings.Reading`: settings from text

* `readInteger`: a signed integer of 64 bits, where zero has to be
  spelled `0`.
* `readPositive`, `readNonNegative`, `readSize`: the same with a lower
  bound.
* `readThinkTime`: a pause in seconds, from 0 to 3600, to the nearest
  nanosecond.
* `Operation.read`: one of the two operations.
-/

set_option autoImplicit false

namespace MapBench

/-- Kinds of map operations. -/
inductive Operation
  /-- Read pairs back. Known, but not supported. -/
  | read
  /-- Write pairs. -/
  | write
  deriving Repr, DecidableEq

/-- The name of an operation. -/
def Operation.name : Operation → String
  | read => "read"
  | write => "write"

/-- The operation of a name. -/
def Operation.ofName (text : String) : Except SettingsError Operation :=
  if text = "read" then .ok .read
  else if text = "write" then .ok .write
  else .error (.invalidOperation text)

/-- Read an integer that fits a signed word. A text that denotes zero
is taken only if it is exactly `0`. -/
def readInteger (text : String) : Except SettingsError Int :=
  match Decimal.signed? text.toList with
  | none => .error (.notAnInteger text)
  | some n =>
    -- Zero has no other spelling than `0`.
    if !Decimal.fitsWord n || (n == 0 && text != "0") then .error (.notAnInteger text) else .ok n

/-- Read an integer greater than zero. -/
def readPositive (text : String) : Except SettingsError Nat := do
  let n ← readInteger text
  if n ≤ 0 then throw (.notPositive text)
  else if maxWord < n.toNat then throw (.outOfRange text)
  else return n.toNat

/-- Read an integer that is not negative. -/
def readNonNegative (text : String) : Except SettingsError Nat := do
  let n ← readInteger text
  if n < 0 then throw (.negative text)
  else if maxWord < n.toNat then throw (.outOfRange text)
  else return n.toNat

/-- Read the size of a value: not negative, and a size that memory
can have. -/
def readSize (text : String) : Except SettingsError Nat := do
  let n ← readNonNegative text
  if maxWord < n then throw (.outOfRange text) else return n

/-- The longest pause between batches, in seconds. -/
def maxThinkSeconds : Nat := 3600

/-- Read a pause in seconds. The literal is rounded to a double
first, and the limits apply to that; a negative literal that rounds
to zero is zero. -/
def readThinkTime (text : String) : Except SettingsError Duration :=
  match Literal.parse? text.toList with
  | none => .error (.badThinkTime text)
  | some literal =>
    match literal.magnitude? with
    | none => .error (.badThinkTime text)
    | some x =>
      -- Compared as fractions, so that nothing is rounded once more.
      if (literal.negative && !x.isZero) || maxThinkSeconds * x.denominator < x.numerator then
        .error (.badThinkTime text)
      else .ok (.ofBinary64 x)

end MapBench
