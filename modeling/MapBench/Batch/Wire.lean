import MapBench.Batch.Basic
import MapBench.Json.Record

/-!
# `MapBench.Batch.Wire`: batches as JSON

A batch travels as JSON. What is written is compact; what is read may
have blanks, members in any order, members nobody knows, and records
written as arrays.

* `Batch.encode`: a batch as JSON bytes.
* `Batch.decode?`: the batch that JSON bytes hold.
-/

set_option autoImplicit false

namespace MapBench

/-- The value of a pair as JSON: an array of its bytes. -/
def Pair.valueJson (value : List UInt8) : List Char :=
  Json.arrayText (value.map fun b => Decimal.digits b.toNat)

/-- A pair as JSON. -/
def Pair.json (p : Pair) : List Char :=
  Json.objectText [("key".toList, Json.quote p.key.toList), ("value".toList, valueJson p.value)]

/-- A batch as JSON. -/
def Batch.json (b : Batch) : List Char :=
  Json.objectText [("pairs".toList, Json.arrayText (b.pairs.map Pair.json))]

/-- A batch as JSON bytes. -/
def Batch.encode (b : Batch) : List UInt8 :=
  Utf8.encodeChars b.json

/-- The pair that a JSON value is. -/
def Pair.ofJson? (v : Json.Value) : Option Pair := do
  match ← v.fields? ["key", "value"] with
  | [key, value] =>
    let key ← key.text?
    let value ← (← value.elements?).mapM (Json.Value.natural? 255)
    return ⟨key, value.map Nat.toUInt8⟩
  | _ => none

/-- The batch that a JSON value is. -/
def Batch.ofJson? (v : Json.Value) : Option Batch := do
  match ← v.fields? ["pairs"] with
  | [pairs] => return ⟨← (← pairs.elements?).mapM Pair.ofJson?⟩
  | _ => none

/-- The batch that JSON bytes hold. -/
def Batch.decode? (bytes : List UInt8) : Option Batch :=
  (Json.Value.ofBytes? bytes).bind Batch.ofJson?

end MapBench
