import MapBench.Batch.Offsets
import MapBench.Json.Record

/-!
# `MapBench.Api.Count`: counts as JSON

The size of an object's map is answered as a record with one field,
`count`, a word of 64 bits.
-/

set_option autoImplicit false

namespace MapBench.Count

/-- A count as JSON. -/
def json (count : Nat) : List Char :=
  Json.objectText [("count".toList, Decimal.digits count)]

/-- A count as JSON bytes. -/
def encode (count : Nat) : List UInt8 :=
  Utf8.encodeChars (json count)

/-- The count that JSON bytes hold. -/
def decode? (bytes : List UInt8) : Option Nat := do
  match ← (← Json.Value.ofBytes? bytes).fields? ["count"] with
  | [count] => count.natural? maxWord
  | _ => none

end MapBench.Count
