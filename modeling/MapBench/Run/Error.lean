import MapBench.Batch.Key
import MapBench.Session.Error

/-!
# `MapBench.Run.Error`: how a run ends early

The first failure ends a run. It is reported with the offset of the
batch at hand.
-/

set_option autoImplicit false

namespace MapBench

/-- Output that can't be written, and why. -/
structure OutputError where
  reason : String
  deriving Repr, DecidableEq

/-- Why a run ends early. -/
inductive RunError
  /-- What an earlier run left can't be removed. -/
  | setupRemove (object : String) (cause : SessionError)
  /-- The object can't be written before its map. -/
  | setupWrite (object : String) (cause : SessionError)
  /-- A batch can't be made up. -/
  | generate (offset : Nat) (cause : KeyError)
  /-- A write can't be prepared. -/
  | writeOpCreation (offset : Nat) (cause : SessionError)
  /-- A prepared write can't be applied. -/
  | writeFailure (offset : Nat) (object : String) (cause : SessionError)
  /-- A line of diagnostic output can't be written. -/
  | output (cause : OutputError)
  deriving Repr, DecidableEq

/-- What is said about a run that ended early. -/
def RunError.message : RunError → String
  | setupRemove object cause => "cannot remove object " ++ object ++ ": " ++ cause.message
  | setupWrite object cause => "cannot write object " ++ object ++ ": " ++ cause.message
  | generate offset cause =>
    "cannot generate batch at offset " ++ Decimal.text offset ++ ": " ++ cause.message
  | writeOpCreation offset cause =>
    "cannot create write op at offset " ++ Decimal.text offset ++ ": " ++ cause.message
  | writeFailure offset object cause =>
    "cannot write omap to object " ++ object ++ " at offset " ++ Decimal.text offset ++ ": "
      ++ cause.message
  | output cause => "cannot write diagnostic output: " ++ cause.reason

end MapBench
