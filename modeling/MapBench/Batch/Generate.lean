import MapBench.Batch.Basic
import MapBench.Batch.Key

/-!
# `MapBench.Batch.Generate`: made-up pairs

What the benchmark writes is a function of the pair's index alone, so
a run can be repeated and what it wrote can be checked: byte `k` of
the value at index `i` is the digit `(i + k) % 10`.
-/

set_option autoImplicit false

namespace MapBench

/-- The value at an index: `size` digits that count up and start
over after nine. -/
def rotatingDigits (index size : Nat) : List UInt8 :=
  (List.range size).map fun k => (48 + (index + k) % 10).toUInt8

/-- The pair at an index. -/
def Pair.atIndex (size index : Nat) : Except KeyError Pair :=
  (Key.ofIndex index).map fun key => ⟨key, rotatingDigits index size⟩

/-- The batch of `count` pairs from index `start` on. The last index
is checked first, so that a batch that can't be finished is not
begun. -/
def Batch.generate (count start size : Nat) : Except KeyError Batch := do
  if 0 < count then
    -- Only whether there is such a key matters here.
    let _ ← Key.ofIndex (start + count - 1)
  let pairs ← (List.range count).mapM fun i => Pair.atIndex size (start + i)
  return ⟨pairs⟩

end MapBench
