import MapBench.Text.Utf8

/-!
# `MapBench.Batch.Basic`: pairs, and batches of them

The benchmark writes pairs of a text key and a byte value into the
map of one object. Pairs that are written together form a batch; a
batch keeps their order, since a later pair replaces an earlier one
with the same key.
-/

set_option autoImplicit false

namespace MapBench

/-- One entry of an object's map. -/
structure Pair where
  key : String
  value : List UInt8
  deriving Repr, DecidableEq

namespace Pair

/-- Length of the value, in bytes. -/
def size (p : Pair) : Nat :=
  p.value.length

/-- Is the value empty? -/
def isEmpty (p : Pair) : Bool :=
  p.value.isEmpty

/-- The value as text, for people to read. -/
def valueText (p : Pair) : String :=
  Utf8.decodeLossy p.value

end Pair

/-- Pairs that are written together, in order. -/
structure Batch where
  pairs : List Pair
  deriving Repr, DecidableEq

namespace Batch

/-- The batch without pairs. -/
def empty : Batch := ⟨[]⟩

/-- How many pairs the batch has. -/
def size (b : Batch) : Nat :=
  b.pairs.length

/-- Is the batch without pairs? -/
def isEmpty (b : Batch) : Bool :=
  b.pairs.isEmpty

/-- The bytes of all values together. -/
def valueBytes (b : Batch) : Nat :=
  b.pairs.foldr (fun p bytes => p.size + bytes) 0

/-- The keys in order, repetitions included. -/
def keys (b : Batch) : List String :=
  b.pairs.map Pair.key

/-- One batch after another. -/
def append (a b : Batch) : Batch :=
  ⟨a.pairs ++ b.pairs⟩

end Batch

end MapBench
