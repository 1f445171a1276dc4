import MapBench.Store.Operations
import MapBench.Text.Hex

/-!
# `MapBench.Store.Journal`: a store as the list of its changes

A store can be kept in a file as the changes that led to it, one a
line, behind a line that says what the file is. A change is kept by
adding its line; a line that has no end was never finished and counts
for nothing. So a change is kept as a whole or not at all.

* `StoreChange.run`: what a change does.
* `StoreChange.line`: a change as a line.
* `Journal.read?`: the tables that the text of a file leads to.
-/

set_option autoImplicit false

namespace MapBench

/-- A change of a store. -/
inductive StoreChange
  | createPool (pool : String)
  | replaceData (id : ObjectId) (data : List UInt8)
  | removeObject (id : ObjectId)
  | writeEntries (id : ObjectId) (batch : Batch)
  deriving Repr, DecidableEq

namespace StoreChange

/-- What a change does. -/
def run : StoreChange → StoreM Unit
  | createPool pool => Store.createPool pool
  | replaceData id data => Store.replaceData id data
  | removeObject id => Store.removeObject id
  | writeEntries id batch => Store.writeEntries id batch

/-- A change as a verb and the data that it needs. -/
def words : StoreChange → String × List (List UInt8)
  | createPool pool => ("pool", [Utf8.encode pool])
  | replaceData id data => ("write", [Utf8.encode id.pool, Utf8.encode id.object, data])
  | removeObject id => ("remove", [Utf8.encode id.pool, Utf8.encode id.object])
  | writeEntries id batch =>
    ("set", Utf8.encode id.pool :: Utf8.encode id.object ::
      batch.pairs.flatMap fun p => [Utf8.encode p.key, p.value])

/-- The pairs whose keys and values take turns in a list, behind
those of `rev`. -/
def pairs? (rev : List Pair) : List (List UInt8) → Option (List Pair)
  | [] => some rev.reverse
  | [_] => none
  | key :: value :: rest => do pairs? (⟨← Utf8.decode? key, value⟩ :: rev) rest

/-- The change that a verb and its data make. -/
def ofWords? (verb : String) (data : List (List UInt8)) : Option StoreChange := do
  match verb, data with
  | "pool", [pool] => return .createPool (← Utf8.decode? pool)
  | "write", [pool, object, data] =>
    return .replaceData ⟨← Utf8.decode? pool, ← Utf8.decode? object⟩ data
  | "remove", [pool, object] =>
    return .removeObject ⟨← Utf8.decode? pool, ← Utf8.decode? object⟩
  | "set", pool :: object :: pairs =>
    return .writeEntries ⟨← Utf8.decode? pool, ← Utf8.decode? object⟩ ⟨← pairs? [] pairs⟩
  | _, _ => none

/-- A change as a line: the verb, and the data in hexadecimal digits
with a blank before each. -/
def line (change : StoreChange) : String :=
  let (verb, data) := change.words
  String.ofList (verb.toList ++ data.flatMap fun bytes => ' ' :: Hex.encode bytes)

/-- The change that a line is. -/
def ofLine? (line : List Char) : Option StoreChange :=
  match line.splitOn ' ' with
  | verb :: data => (data.mapM Hex.decode?).bind (ofWords? (String.ofList verb))
  | [] => none

end StoreChange

namespace Journal

/-- The first line of a file that holds a store. -/
def header : String := "store of pools and objects"

/-- The tables after some changes. A change that fails does
nothing. -/
def replay (changes : List StoreChange) : Tables :=
  (changes.foldl (fun c change => (change.run.run c).2) (Connection.fresh .empty)).tables

/-- The tables that the text of a file leads to. An empty file leads
to a new store. -/
def read? (text : String) : Option Tables :=
  -- What stands behind the last line end was never finished.
  match (text.toList.splitOn '\n').dropLast with
  | [] => if text = "" then some .empty else none
  | first :: lines =>
    if first = header.toList then (lines.mapM StoreChange.ofLine?).map replay else none

/-- Lines that make changes part of a file. A new file gets the line
that says what it is. -/
def lines (isNew : Bool) (changes : List StoreChange) : String :=
  (if isNew then header ++ "\n" else "") ++
    String.join (changes.map fun change => change.line ++ "\n")

end Journal

end MapBench
