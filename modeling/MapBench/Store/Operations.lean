import MapBench.Store.Statement

/-!
# `MapBench.Store.Operations`: what a store does

An operation on an object first looks whether its pool exists. What
follows that is one statement or one transaction, so an operation
takes effect as a whole or not at all.

* `Store.createPool`, `Store.hasPool`
* `Store.replaceData`: replace an object's data and keep its map.
* `Store.removeObject`: remove an object's data and its whole map.
* `Store.writeEntries`: write a batch into an object's map and keep the
  object's data; a new object gets empty data.
* `Store.mapSize`: the size of an object's map, zero if there is no
  such object.

Each of the three that check the pool is also available without the
check (`putObject`, `deleteAll`, `setEntries`).
-/

set_option autoImplicit false

namespace MapBench.Store

/-- Create a pool, if it doesn't exist. -/
def createPool (pool : String) : StoreM Unit :=
  insertPool pool

/-- Does a pool exist? -/
def hasPool (pool : String) : StoreM Bool :=
  selectPool pool

/-- Fail unless a pool exists. -/
def needPool (pool : String) : StoreM Unit := do
  if !(← hasPool pool) then throw (.noSuchPool pool)

/-- Replace an object's data, whatever pools there are. -/
def putObject (id : ObjectId) (data : List UInt8) : StoreM Unit :=
  replaceObject id data

/-- Remove an object and its map, whatever pools there are. -/
def deleteAll (id : ObjectId) : StoreM Unit :=
  transaction do
    deleteEntries id
    deleteObject id

/-- Write a batch into an object's map, whatever pools there are. -/
def setEntries (id : ObjectId) (batch : Batch) : StoreM Unit :=
  transaction do
    -- From here on the object exists, even if the batch is empty.
    insertObject id []
    prepareEntries
    batch.pairs.forM (replaceEntry id)

/-- Replace an object's data. -/
def replaceData (id : ObjectId) (data : List UInt8) : StoreM Unit := do
  needPool id.pool
  putObject id data

/-- Remove an object with its data and its map. It needn't exist. -/
def removeObject (id : ObjectId) : StoreM Unit := do
  needPool id.pool
  deleteAll id

/-- Write a batch into an object's map. -/
def writeEntries (id : ObjectId) (batch : Batch) : StoreM Unit := do
  needPool id.pool
  setEntries id batch

/-- The size of an object's map. -/
def mapSize (id : ObjectId) : StoreM Nat :=
  countEntries id

end MapBench.Store
