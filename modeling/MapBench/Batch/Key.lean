import MapBench.Number.Decimal

/-!
# `MapBench.Batch.Key`: pair indexes as keys

A pair's key is its index in eight digits, so that keys sort the way
their indexes do. An index that needs more digits has no key.
-/

set_option autoImplicit false

namespace MapBench

/-- Why an index has no key: it has more digits than a key. -/
inductive KeyError
  | tooWide (index : Nat)
  deriving Repr, DecidableEq

namespace Key

/-- How many digits a key has. -/
def width : Nat := 8

/-- The key of a pair index. -/
def ofIndex (index : Nat) : Except KeyError String :=
  let key := Decimal.padded width index
  if width < key.length then .error (.tooWide index) else .ok (String.ofList key)

end Key

/-- What is said about an index without a key. -/
def KeyError.message : KeyError → String
  | .tooWide index =>
    "pair index " ++ Decimal.text index ++ " does not fit in a " ++ Decimal.text Key.width
      ++ "-digit key"

end MapBench
